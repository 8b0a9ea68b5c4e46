import QueryDesk.App
import QueryDesk.Proofs.ConsoleSteps

/-!
# Runs of the application

The application takes one input after the other: keys and mouse events with the actions they ask
for, pasted text, new sizes, ticks, draws and the request to shut down. Between two inputs others
may change the files, and time passes. To the console, an input is one step or nothing, so what
holds of a console from its start through every step holds in every run.
-/
namespace QueryDesk.App

open QueryDesk.Preferences (Store)
open QueryDesk.Files (Disk)

/-- What reaches the application. -/
inductive Input where
  | key (key : Key)
  | mouse (mouse : Mouse)
  | paste (text : String)
  | resize (width height : Nat)
  | tick
  | draw (screen : Screen) (area : Rect)
  | shutdown
  /-- The files are changed by other hands. -/
  | files (files : Disk)
  /-- The time of day moves on. -/
  | clock (now : Clock)

/-- The action that an input asks for. -/
def action? (app : App) : Input → Option Action
  | .key key => app.keyAction? key
  | .mouse mouse => app.mouseAction? mouse
  | .paste text => some (.editorPaste text)
  | .resize width height => some (.resize width height)
  | .tick => some .tick
  | _ => none

def handle (app : App) (input : Input) : App :=
  match input with
  | .draw screen area => (app.draw screen area).1
  | .shutdown => app.shutdown
  | .files files => app.onConsole (·.step (.files files))
  | .clock now => app.onConsole (·.step (.clock now))
  | input => app.perform (app.action? input)

def run (app : App) (inputs : List Input) : App := inputs.foldl handle app

theorem run_append (app : App) (inputs more : List Input) :
    app.run (inputs ++ more) = (app.run inputs).run more :=
  List.foldl_append

/-- An input and the application that it reaches. -/
abbrev Moment := App × Input

/-- The inputs of a run, each with the application that it reaches. -/
def moments (app : App) : List Input → List Moment
  | [] => []
  | input :: rest => (app, input) :: (app.handle input).moments rest

theorem moments_append (app : App) (inputs more : List Input) :
    app.moments (inputs ++ more) = app.moments inputs ++ (app.run inputs).moments more := by
  induction inputs generalizing app with
  | nil => rfl
  | cons input rest ih =>
    rw [List.cons_append, moments, ih]
    rfl

theorem exists_of_mem_moments {app : App} {m : Moment} {inputs : List Input}
    (h : m ∈ app.moments inputs) :
    ∃ before after, inputs = before ++ m.2 :: after ∧ m.1 = app.run before := by
  induction inputs generalizing app with
  | nil => cases h
  | cons input rest ih =>
    rcases List.mem_cons.1 h with rfl | h
    · exact ⟨[], rest, rfl, rfl⟩
    · obtain ⟨before, after, rfl, hm⟩ := ih h
      exact ⟨input :: before, after, rfl, hm⟩

/-- What an action is to the console. -/
def stepOf? (app : App) : Action → Option Console.Step
  | .resize width height => some (.tell ⟨Topic.windowResize, .area (.ofTerminal width height)⟩)
  | .showConsole => some (.tell ⟨Topic.panelActive, .panel Panel.console.name⟩)
  | .showHelp => some (.tell ⟨Topic.panelActive, .panel Panel.help.name⟩)
  | .executeQuery => some (.tell ⟨Topic.queryExecute, .query app.editor.text⟩)
  | .refreshQuery => some .refresh
  | .showGrid => some (.choose .grid)
  | .showChart => some (.choose .chart)
  | .selectExportUrl => some .selectExport
  | .copyExportUrl => some .copyExport
  | .growEditor => app.layout.map fun layout => .nudge 1 layout.splitter.y layout.split
  | .shrinkEditor => app.layout.map fun layout => .nudge (-1) layout.splitter.y layout.split
  | .splitterDragStart row => app.layout.map fun layout => .press row layout.split
  | .splitterDrag row => some (.move row)
  | .splitterDragEnd => some .release
  | .scrollUp => if app.panel = .console then some (.scroll .scrollUp) else none
  | .scrollDown => if app.panel = .console then some (.scroll .scrollDown) else none
  | .pageUp => if app.panel = .console then some (.scroll .pageUp) else none
  | .pageDown => if app.panel = .console then some (.scroll .pageDown) else none
  | _ => none

theorem scroll_console (app : App) (action : Action) :
    (app.scroll action).console =
      if app.panel = .console then app.console.step (.scroll action) else app.console := by
  unfold scroll
  cases app.panel <;> rfl

theorem edit_console (app : App) (action : Action) : (app.edit action).console = app.console := by
  unfold edit
  cases app.panel <;> rfl

/-- An action changes the console by its step only. -/
theorem update_console (app : App) (action : Action) :
    (app.update action).console = ((app.stepOf? action).map app.console.step).getD app.console := by
  cases action with
  | growEditor | shrinkEditor =>
    simp only [update, nudgeSplitter, stepOf?]
    cases app.layout <;> rfl
  | splitterDragStart row =>
    simp only [update, stepOf?]
    cases app.layout <;> rfl
  | scrollUp | scrollDown | pageUp | pageDown =>
    simp only [update, scroll_console, stepOf?]
    split <;> rfl
  | editorInput | editorPaste | editorNewline | editorBackspace | editorDelete | cursorLeft
  | cursorRight | cursorUp | cursorDown | cursorHome | cursorEnd => exact edit_console app _
  | _ => rfl

/-- Drawing leaves the console alone. -/
theorem draw_console (app : App) (screen : Screen) (area : Rect) :
    (app.draw screen area).1.console = app.console := by
  dsimp only [draw]
  split <;> rfl

/-- What an input is to the console. -/
def inputStep? (app : App) : Input → Option Console.Step
  | .draw .. => none
  | .shutdown => some (.tell ⟨Topic.preferencesSave, .empty⟩)
  | .files files => some (.files files)
  | .clock now => some (.clock now)
  | input => (app.action? input).bind app.stepOf?

theorem perform_console (app : App) (action : Option Action) :
    (app.perform action).console =
      ((action.bind app.stepOf?).map app.console.step).getD app.console := by
  cases action with
  | none => rfl
  | some action => exact update_console app action

theorem handle_console (app : App) (input : Input) :
    (app.handle input).console =
      ((app.inputStep? input).map app.console.step).getD app.console := by
  cases input with
  | draw screen area => exact draw_console app screen area
  | shutdown | files | clock => rfl
  | _ => exact perform_console app _

/-- The start of the application is a start of the console and three events. -/
theorem start_console (link : ExportLink) (cell : Nat) (store : Option Store) (source : Source)
    (files : Disk) (now : Clock) :
    (start link cell store source files now).console =
      (Console.start link cell store source true files now).run
        [.tell ⟨Topic.preferencesLoad, .empty⟩,
          .tell ⟨Topic.panelActive, .panel Panel.console.name⟩,
          .tell ⟨Topic.windowResize, .empty⟩] := by
  simp only [start, switchPanel, publish, Console.run, Console.step, List.foldl_cons,
    List.foldl_nil]

/-- What every step keeps holds in a run if it holds before. -/
theorem run_console {P : Console → Prop} {app : App} (inputs : List Input)
    (start : P app.console)
    (step : ∀ app : App, ∀ input ∈ inputs, ∀ s, app.inputStep? input = some s →
      P app.console → P (app.console.step s)) :
    P (app.run inputs).console := by
  induction inputs generalizing app with
  | nil => exact start
  | cons input rest ih =>
    refine ih ?_ fun app input hi => step app input (List.mem_cons_of_mem _ hi)
    rw [handle_console]
    cases hs : app.inputStep? input with
    | none => exact start
    | some s => exact step app input (List.mem_cons_self ..) s hs start

/-- What holds of a console from its start through every step holds in every run. -/
theorem run_console_of_start {P : Console → Prop} (link : ExportLink) (cell : Nat)
    (store : Option Store) (source : Source) (files : Disk) (now : Clock) (inputs : List Input)
    (start : P (.start link cell store source true files now))
    (step : ∀ c s, P c → P (c.step s)) :
    P ((App.start link cell store source files now).run inputs).console := by
  refine run_console inputs ?_ fun app _ _ s _ => step app.console s
  rw [start_console]
  simp only [Console.run, List.foldl_cons, List.foldl_nil]
  exact step _ _ (step _ _ (step _ _ start))

end QueryDesk.App
