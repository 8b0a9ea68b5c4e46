import QueryDesk.Screen.Write

/-!
# Bordered panels

A panel draws a one-cell border around its area and a title into the upper border,
cut at the upper right corner.
-/
namespace QueryDesk.Screen

structure Panel where
  title : String
  titleStyle : Style := .plain
  borderStyle : Style := .plain
  deriving DecidableEq, Repr, Inhabited

/-- The lines of a text as spans: cut at line feeds, a carriage return before one dropped, and no
empty span for a last line feed. -/
def plainSpans (text : String) : Line :=
  let pieces := text.splitOn "\n"
  let pieces := if pieces.getLast? = some "" then pieces.dropLast else pieces
  let last := pieces.length - 1
  pieces.zipIdx.map fun (piece, i) =>
    let cut := (i < last || text.endsWith "\n") && piece.endsWith "\r"
    { text := if cut then (piece.dropEnd 1).toString else piece, style := .plain }

namespace Panel

/-- Where the content goes. -/
def inside (area : Rect) : Rect := area.insideBorder

private def border (s : Screen) (area : Rect) (style : Style) : Screen :=
  let right := area.right - 1
  let bottom := area.bottom - 1
  let s := (List.range area.height).foldl (fun s i => s.put area.x (area.y + i) "│" style) s
  let s := (List.range area.width).foldl (fun s i => s.put (area.x + i) area.y "─" style) s
  let s := (List.range area.height).foldl (fun s i => s.put right (area.y + i) "│" style) s
  let s := (List.range area.width).foldl (fun s i => s.put (area.x + i) bottom "─" style) s
  let s := s.put right bottom "┘" style
  let s := s.put right area.y "┐" style
  let s := s.put area.x bottom "└" style
  s.put area.x area.y "┌" style

/-- Draws the border and the title. -/
def draw (panel : Panel) (s : Screen) (area : Rect) : Screen :=
  let area := area.intersection s.area
  if area.isEmpty then s
  else
    let s := border s area panel.borderStyle
    let spans := plainSpans panel.title
    let row : Rect := ⟨area.x + 1, area.y, min (Line.columns spans) (area.width - 2), 1⟩
    if row.isEmpty then s else (s.paint row panel.titleStyle).writeLine row spans

end Panel

end QueryDesk.Screen
