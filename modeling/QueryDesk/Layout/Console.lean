import QueryDesk.Layout.Levelling
import QueryDesk.Layout.Rect

/-!
# The console layout

The screen holds, from top to bottom, the editor, the splitter handle, the toolbar,
the results and a status line. The height of the editor is a preference in pixels,
turned into rows by the height of a cell and held inside the range in which the
splitter can move.
-/
namespace QueryDesk.Layout

/-- Pixels the editor keeps above the handle. -/
def splitterLowerBound : Nat := 200

/-- Pixels the region below the handle keeps. -/
def splitterHandleOffset : Nat := 200

def minEditorRows : Nat := 3

def minResultRows : Nat := 3

def maxWord32 : Nat := 0xFFFFFFFF

/-- The rows for the editor that a splitter allows in a container: the least that make up `lower`
pixels and the most that leave `offset` pixels. A cell height of zero counts as one. -/
def splitBounds (lower offset cell rows : Nat) : Option (Nat × Nat) :=
  let cell := max cell 1
  let least := (lower + cell - 1) / cell
  let most := (rows * cell - offset) / cell
  if least ≤ most then some (least, most) else none

/-- A number brought into a range. -/
def clamp (low high n : Nat) : Nat := if n < low then low else if high < n then high else n

/-- The rows of the editor for a height in pixels, in a split region of some rows. -/
def editorRows (basis cell rows : Nat) : Nat :=
  let cell := max cell 1
  let wanted :=
    match splitBounds splitterLowerBound splitterHandleOffset cell rows with
    | some (least, most) => clamp least most (basis / cell)
    | none => basis / cell
  min (max (min wanted maxCoordinate) minEditorRows) (rows - (2 + minResultRows))

/-- The regions of the console. -/
structure ConsoleLayout where
  /-- What the splitter divides: all but the status line. -/
  split : Rect
  editor : Rect
  splitter : Rect
  toolbar : Rect
  results : Rect
  help : Rect
  deriving DecidableEq, Repr, Inhabited

private def band (area : Rect) (place : Nat × Nat) : Rect :=
  ⟨area.x, place.1, area.width, place.2⟩

/-- Bands of an area from top to bottom, one for each part. -/
def bands (area : Rect) (parts : List Part) : List Rect :=
  (placed area.y (partLengths area.rows parts)).map (band area)

/-- The regions for an editor height in pixels. -/
def consoleLayout (area : Rect) (basis cell : Nat) : ConsoleLayout :=
  let main := bands area [.rest, .fixed 1]
  let split := main[0]?.getD default
  let regions :=
    bands split [.fixed (editorRows basis cell split.height), .fixed 1, .fixed 1, .rest]
  let region (i : Nat) := regions[i]?.getD default
  { split, editor := region 0, splitter := region 1, toolbar := region 2, results := region 3
    help := main[1]?.getD default }

/-- The controls of the toolbar. -/
structure ToolbarLayout where
  grid : Rect
  chart : Rect
  refresh : Rect
  exportLabel : Rect
  exportField : Rect
  copy : Rect
  deriving DecidableEq, Repr, Inhabited

/-- The controls and the gaps between them from left to right. -/
def toolbarParts : List Part :=
  [.fixed 1, .fixed 6, .fixed 1, .fixed 7, .fixed 1, .fixed 11, .fixed 2, .fixed 8, .rest, .fixed 1,
    .fixed 6, .fixed 1]

def toolbarLayout (area : Rect) : ToolbarLayout :=
  let places := placed area.x (partLengths area.columns toolbarParts)
  let control (i : Nat) : Rect :=
    let (x, width) := places[i]?.getD (area.x, 0)
    ⟨x, area.y, width, area.height⟩
  { grid := control 1, chart := control 3, refresh := control 5, exportLabel := control 7
    exportField := control 8, copy := control 10 }

end QueryDesk.Layout
