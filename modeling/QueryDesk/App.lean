import QueryDesk.Chart.Draw
import QueryDesk.Console
import QueryDesk.Editor
import QueryDesk.Help

/-!
# The application

Two panels take turns in front: the console with the editor above its results, and the
help. Keys and mouse events ask for actions, actions change the state, and drawing
keeps the layout that later mouse events are held against.
-/
namespace QueryDesk

open QueryDesk.Preferences (Store)
open QueryDesk.Files (Disk)
open QueryDesk.Layout (ConsoleLayout consoleLayout toolbarLayout)
open QueryDesk.Screen (Style)

/-- The panels. -/
inductive Panel where
  | console
  | help
  deriving DecidableEq, Repr

/-- The name of a panel on the bus. -/
def Panel.name : Panel → String
  | .console => Desk.panelName
  | .help => "help"

structure App where
  console : Console
  editor : Editor
  help : Help
  panel : Panel
  quit : Bool
  /-- What the status line calls the source. -/
  sourceName : String
  /-- The height of a cell in pixels. -/
  cell : Nat
  tick : UInt64
  /-- What was drawn on last. -/
  area : Rect
  /-- The layout of the last draw, if the console was drawn. -/
  layout : Option ConsoleLayout

namespace App

def initialQuery : String := "select * from trades"

def publish (app : App) (topic : String) (payload : Payload) : App :=
  { app with console := app.console.publish topic payload }

/-- Brings a panel to the front. -/
def switchPanel (app : App) (panel : Panel) : App :=
  { app with panel }.publish Topic.panelActive (.panel panel.name)

/-- The application after its start: the height is loaded, the console is in front and laid out. -/
def start (link : ExportLink) (cell : Nat) (store : Option Store) (source : Source)
    (files : Disk) (now : Clock) : App :=
  let app : App :=
    { console := .start link cell store source true files now
      editor := .ofText initialQuery
      help := {}
      panel := .console
      quit := false
      sourceName := source.name
      cell
      tick := 0
      area := ⟨0, 0, 0, 0⟩
      layout := none }
  let app := app.publish Topic.preferencesLoad .empty
  (app.switchPanel .console).publish Topic.windowResize .empty

/-- Has the preferences saved before the end. -/
def shutdown (app : App) : App := app.publish Topic.preferencesSave .empty

/-- The action of a key in the console. -/
def consoleAction? (key : Key) : Option Action :=
  match key.code, key.control with
  | .function 5, _ => some .executeQuery
  | .char 'e', true => some .executeQuery
  | .char 'r', true => some .refreshQuery
  | .char 'g', true => some .showGrid
  | .char 't', true => some .showChart
  | .char 'l', true => some .selectExportUrl
  | .char 'y', true => some .copyExportUrl
  | .up, true => some .shrinkEditor
  | .down, true => some .growEditor
  | .pageUp, _ => some .pageUp
  | .pageDown, _ => some .pageDown
  | _, _ => Editor.action? key

/-- The action of a key under any panel. -/
def globalAction? (key : Key) : Option Action :=
  match key.code, key.control with
  | .char 'q', true => some .quit
  | .char 'c', true => some .quit
  | .function 1, _ => some .showHelp
  | .function 2, _ => some .showConsole
  | _, _ => none

/-- The action of a key. -/
def keyAction? (app : App) (key : Key) : Option Action :=
  match globalAction? key with
  | some action => some action
  | none =>
      match app.panel with
      | .help => Help.action? key
      | .console => consoleAction? key

/-- What a press of the left button at a cell asks for. -/
def pressAction? (layout : ConsoleLayout) (column row : Nat) : Option Action :=
  let toolbar := toolbarLayout layout.toolbar
  if layout.splitter.hit column row then some (.splitterDragStart row)
  else if toolbar.grid.hit column row then some .showGrid
  else if toolbar.chart.hit column row then some .showChart
  else if toolbar.refresh.hit column row then some .refreshQuery
  else if toolbar.exportField.hit column row then some .selectExportUrl
  else if toolbar.copy.hit column row then some .copyExportUrl
  else none

def dragging (app : App) : Bool := app.console.splitter.drag.isSome

/-- The action of a mouse event. Only the console takes them, once it has been drawn. -/
def mouseAction? (app : App) (mouse : Mouse) : Option Action :=
  match app.panel, app.layout with
  | .console, some layout =>
      match mouse.kind with
      | .down .left => pressAction? layout mouse.column mouse.row
      | .drag .left => if app.dragging then some (.splitterDrag mouse.row) else none
      | .up .left => if app.dragging then some .splitterDragEnd else none
      | .scrollDown => if layout.results.hit mouse.column mouse.row then some .scrollDown else none
      | .scrollUp => if layout.results.hit mouse.column mouse.row then some .scrollUp else none
      | _ => none
  | _, _ => none

def onConsole (app : App) (f : Console → Console) : App := { app with console := f app.console }

/-- Moves the splitter by rows from where it was drawn. -/
def nudgeSplitter (app : App) (rows : Int) : App :=
  match app.layout with
  | some layout => app.onConsole (·.nudgeSplitter rows layout.splitter.y layout.split)
  | none => app

/-- Scrolls what is in front. -/
def scroll (app : App) (action : Action) : App :=
  match app.panel with
  | .help => { app with help := app.help.update action }
  | .console =>
      app.onConsole fun c => { c with desk := { c.desk with grid := c.desk.grid.update action } }

/-- Edits the query, if the console is in front. -/
def edit (app : App) (action : Action) : App :=
  match app.panel with
  | .help => app
  | .console => { app with editor := app.editor.update action }

/-- Carries out an action. -/
def update (app : App) (action : Action) : App :=
  match action with
  | .tick => { app with tick := app.tick + 1 }
  | .resize width height => app.publish Topic.windowResize (.area (.ofTerminal width height))
  | .quit => { app with quit := true }
  | .showConsole => app.switchPanel .console
  | .showHelp => app.switchPanel .help
  | .executeQuery => app.publish Topic.queryExecute (.query app.editor.text)
  | .refreshQuery => app.onConsole (·.refresh)
  | .showGrid => app.onConsole (·.setView .grid)
  | .showChart => app.onConsole (·.setView .chart)
  | .selectExportUrl => app.onConsole (·.selectExport)
  | .copyExportUrl => app.onConsole (·.copyExport)
  | .growEditor => app.nudgeSplitter 1
  | .shrinkEditor => app.nudgeSplitter (-1)
  | .splitterDragStart row =>
      match app.layout with
      | some layout => app.onConsole (·.pressSplitter row layout.split)
      | none => app
  | .splitterDrag row => app.onConsole (·.moveSplitter row)
  | .splitterDragEnd => app.onConsole (·.releaseSplitter)
  | .scrollUp | .scrollDown | .pageUp | .pageDown => app.scroll action
  | .editorInput _ | .editorPaste _ | .editorNewline | .editorBackspace | .editorDelete
  | .cursorLeft | .cursorRight | .cursorUp | .cursorDown | .cursorHome | .cursorEnd =>
      app.edit action

/-- The application after an event that may ask for an action. -/
def perform (app : App) (action : Option Action) : App :=
  match action with
  | some action => app.update action
  | none => app

/-- The status line below the console. -/
def statusLine (app : App) : Screen.Line :=
  let desk := app.console.desk
  [{ text := " F1 ", style := (Style.ink .black).on .cyan }, Toolbar.plainSpan " help  ",
    { text := "source: " ++ app.sourceName, style := .ink .darkGray },
    { text := "  rows: " ++ toString desk.grid.rows.length ++ "  split: "
        ++ toString desk.height.pixels ++ "px"
      style := .ink .darkGray }]

/-- Draws the results in the view that is shown. -/
def drawResults (app : App) (s : Screen) (area : Rect) : Screen :=
  let desk := app.console.desk
  if desk.targets.gridShown then desk.grid.draw s area
  else if desk.targets.chartShown then desk.chart.draw s area
  else s

/-- Draws the console and keeps its layout. -/
def drawConsole (app : App) (s : Screen) (area : Rect) :
    App × Screen × Option (Nat × Nat) :=
  let targets := app.console.desk.targets
  let layout := consoleLayout area targets.editorBasis app.cell
  let (editor, s, cursor) := app.editor.draw s layout.editor
  let s := Toolbar.drawHandle s layout.splitter app.dragging
  let s := Toolbar.draw s (toolbarLayout layout.toolbar) targets app.tick.toNat
  let s := app.drawResults s layout.results
  let s := s.drawLines layout.help [app.statusLine] 0
  ({ app with editor, layout := some layout }, s, cursor)

/-- Draws the panel that is shown on an area of a screen, and says where the cursor is. -/
def draw (app : App) (s : Screen) (area : Rect) : App × Screen × Option (Nat × Nat) :=
  let app := { app with area }
  if app.console.desk.targets.panelShown then app.drawConsole s area
  else
    let (help, s) := app.help.draw s area
    ({ app with help, layout := none }, s, none)

end App

end QueryDesk
