import QueryDesk.Number.Total
import QueryDesk.Screen.Basic
import QueryDesk.Text.Cluster

/-!
# Writing text into cells

A text is written cluster by cluster. A cluster of two columns hides the cell after
it. Two manners of writing differ in what happens to clusters without a width: a
label drops them, a span joins them to the cell before.
-/
namespace QueryDesk.Screen

open QueryDesk.Text (clusters Measure isControl)

/-- The columns of a text in cells. -/
def columns (text : String) : Nat := Text.width Measure.cell text.toList

/-- A cluster with its columns. -/
structure Glyph where
  symbol : String
  width : Nat
  deriving DecidableEq, Repr, Inhabited

def glyphs (text : String) : List Glyph :=
  (clusters text.toList).map fun cluster =>
    { symbol := String.ofList cluster, width := Text.width Measure.cell cluster }

/-- The clusters of a span; line feeds show nothing. -/
def Span.glyphs (span : Span) : List Glyph :=
  (Screen.glyphs span.text).filter (·.symbol != "\n")

def Span.columns (span : Span) : Nat := Screen.columns span.text

def Line.columns (line : Line) : Nat := Number.total (line.map Span.columns)

/-- The glyphs that fit side by side into a number of columns. -/
def fitting (room : Nat) : List Glyph → List Glyph
  | [] => []
  | glyph :: rest =>
      if glyph.width ≤ room then glyph :: fitting (room - glyph.width) rest else []

/-- Puts a glyph and empties the cells that it hides. -/
def putGlyph (s : Screen) (x y : Nat) (glyph : Glyph) (style : Style) : Screen :=
  (s.put x y glyph.symbol style).clear (x + 1) y (glyph.width - 1)

/-- Writes glyphs side by side. The column after the last one comes with the screen. -/
def putGlyphs (s : Screen) (x y : Nat) (style : Style) : List Glyph → Screen × Nat
  | [] => (s, x)
  | glyph :: rest => (s.putGlyph x y glyph style).putGlyphs (x + glyph.width) y style rest

/-- Writes a label into at most `room` columns. Clusters with a control or without a width are left
out. -/
def writeLabel (s : Screen) (x y : Nat) (text : String) (room : Nat) (style : Style) :
    Screen × Nat :=
  let shown := (glyphs text).filter fun glyph =>
    !glyph.symbol.toList.any isControl && glyph.width != 0
  s.putGlyphs x y style (fitting (min (s.width - x) room) shown)

/-- Writes the spans of a line as labels, one behind the other. -/
def writeLabels (s : Screen) (x y room : Nat) : Line → Screen
  | [] => s
  | span :: rest =>
      if room = 0 then s
      else
        let (s, next) := s.writeLabel x y span.text room span.style
        s.writeLabels next y (room - (next - x)) rest

/-- Adds a cluster without a width to the cell before. -/
def appendSymbol (s : Screen) (x y : Nat) (symbol : String) (style : Style) : Screen :=
  s.modify x y fun cell => ({ cell with symbol := cell.symbol ++ symbol }).styled style

/-- Writes the glyphs of a span from `x` on. The first glyph always takes the first cell. -/
def putSpan (s : Screen) (area : Rect) (x : Nat) (isFirst : Bool) (style : Style) :
    List Glyph → Screen
  | [] => s
  | glyph :: rest =>
      if area.right < x + glyph.width then s
      else
        let s :=
          if isFirst then s.put x area.y glyph.symbol style
          else if x = area.x then s.appendSymbol x area.y glyph.symbol style
          else if glyph.width = 0 then s.appendSymbol (x - 1) area.y glyph.symbol style
          else s.put x area.y glyph.symbol style
        (s.clear (x + 1) area.y (glyph.width - 1)).putSpan area (x + glyph.width) false style rest

def writeSpan (s : Screen) (area : Rect) (span : Span) : Screen :=
  let area := area.intersection s.area
  if area.isEmpty then s else s.putSpan area area.x true span.style span.glyphs

/-- Writes the spans of a line into the first row of an area until it is full. -/
def writeSpans (s : Screen) (area : Rect) : Line → Screen
  | [] => s
  | span :: rest =>
      if area.isEmpty then s
      else if span.columns = 0 then s.writeSpans area rest
      else (s.writeSpan area span).writeSpans (area.indent span.columns) rest

def writeLine (s : Screen) (area : Rect) (line : Line) : Screen :=
  s.writeSpans (area.intersection s.area) line

end QueryDesk.Screen
