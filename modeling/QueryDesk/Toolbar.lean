import QueryDesk.Layout.Console
import QueryDesk.Screen.Paragraph

/-!
# The toolbar and the splitter handle

What the console asks the screen to show between the editor and the results: the
view buttons, the refresh button with its spinner, the export link and the copy
button.
-/
namespace QueryDesk

inductive ViewMode where
  | grid | chart
  deriving DecidableEq, Repr, Inhabited

/-- What the controller tells the screen to show. Both result widgets and both view buttons have a
flag of their own, set whenever a view is chosen. -/
structure Targets where
  /-- The editor height in pixels. -/
  editorBasis : Nat := 350
  panelShown : Bool := false
  exportUrl : String := ""
  exportSelected : Bool := false
  refreshSpinning : Bool := false
  /-- The view that was chosen last. -/
  view : ViewMode := .grid
  gridButton : Bool := view = .grid
  chartButton : Bool := view = .chart
  gridShown : Bool := view = .grid
  chartShown : Bool := view = .chart
  deriving DecidableEq, Repr, Inhabited

/-- Shows one result widget and marks its button. -/
def Targets.choose (t : Targets) (view : ViewMode) : Targets :=
  let grid : Bool := view = .grid
  { t with view, gridButton := grid, chartButton := !grid, gridShown := grid, chartShown := !grid }

namespace Toolbar

open QueryDesk.Screen (Style Span Line)
open QueryDesk.Layout (ToolbarLayout)

def buttonStyle (active : Bool) : Style :=
  if active then ((Style.ink .black).on .cyan).inBold else .ink .gray

def spinner : List String := ["⠋", "⠙", "⠹", "⠸", "⠼", "⠴", "⠦", "⠧", "⠇", "⠏"]

/-- The icon of the refresh button after a number of ticks. -/
def refreshIcon (spinning : Bool) (tick : Nat) : String :=
  if spinning then spinner[tick % spinner.length]?.getD "" else "⟳"

/-- Draws a label over an area in one style. -/
def drawField (s : Screen) (area : Rect) (style : Style) (span : Span) : Screen :=
  (s.paint area style).drawLines area [[span]] 0

def plainSpan (text : String) : Span := { text, style := .plain }

def draw (s : Screen) (layout : ToolbarLayout) (targets : Targets) (tick : Nat) :
    Screen :=
  let s := drawField s layout.grid (buttonStyle targets.gridButton) (plainSpan "[Grid]")
  let s := drawField s layout.chart (buttonStyle targets.chartButton) (plainSpan "[Chart]")
  let icon := refreshIcon targets.refreshSpinning tick
  let s := drawField s layout.refresh
    (.ink (if targets.refreshSpinning then .yellow else .gray))
    (plainSpan ("[" ++ icon ++ " Refresh]"))
  let s := drawField s layout.exportLabel .plain { text := "Export:", style := .ink .darkGray }
  let field := (Style.ink .white).on (if targets.exportSelected then .blue else .darkGray)
  let s := drawField s layout.exportField field
    (if targets.exportUrl.isEmpty then
      { text := " run a query to get a link", style := { field with fg := some .gray } }
    else { text := targets.exportUrl, style := field })
  drawField s layout.copy (.ink .gray) (plainSpan "[Copy]")

/-- The splitter handle: a grip in the middle of a line. -/
def handleText (width : Nat) : String :=
  let side := (width - 3) / 2
  let dashes (n : Nat) := String.ofList (List.replicate n '─')
  dashes side ++ " ═ " ++ dashes (width - (side + 3))

def drawHandle (s : Screen) (area : Rect) (dragging : Bool) : Screen :=
  drawField s area (.ink (if dragging then .yellow else .darkGray))
    (plainSpan (handleText area.width))

end Toolbar

end QueryDesk
