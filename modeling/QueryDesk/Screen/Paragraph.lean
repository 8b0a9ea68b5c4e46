import QueryDesk.Screen.Wrap

/-!
# Paragraphs

Lines drawn one to a row and cut at the width of the area, or wrapped at it. The
rows start at a given line; what does not fit below is not drawn. The line after the
last is counted in a 16-bit word.
-/
namespace QueryDesk.Screen

def Line.inked (line : Line) : List Inked :=
  line.flatMap fun span => span.glyphs.map fun glyph => (glyph, span.style)

/-- The glyphs up to the first that does not fit; one wider than the whole row is skipped. -/
def cutRow (limit used : Nat) : List Inked → List Inked
  | [] => []
  | glyph :: rest =>
      if limit < glyph.1.width then cutRow limit used rest
      else if limit < used + glyph.1.width then []
      else glyph :: cutRow limit (used + glyph.1.width) rest

/-- Draws the glyphs of a row; those without a width are left out. -/
def drawRow (s : Screen) (x y : Nat) : List Inked → Screen
  | [] => s
  | (glyph, style) :: rest =>
      if glyph.width = 0 then s.drawRow x y rest
      else (s.put x y glyph.symbol style).drawRow (x + glyph.width) y rest

/-- Draws rows one below the other. -/
def drawRows (s : Screen) (x y : Nat) : List (List Inked) → Screen
  | [] => s
  | row :: rest => (s.drawRow x y row).drawRows x (y + 1) rest

/-- Draws lines from line `first` on, each cut at the width of the area. Where the number of the line
after the last would pass the largest word, it begins again at zero and no line is drawn. -/
def drawLines (s : Screen) (area : Rect) (lines : List Line) (first : Nat) : Screen :=
  if area.isEmpty || maxCoordinate < first + area.height then s
  else
    let shown := (lines.drop first).take area.height
    s.drawRows area.x area.y (shown.map fun line => cutRow area.width 0 line.inked)

/-- Draws lines wrapped at the width of the area. -/
def drawWrapped (s : Screen) (area : Rect) (lines : List Line) : Screen :=
  if area.isEmpty then s
  else
    let rows := lines.flatMap fun line => wrapLine area.width line.inked
    s.drawRows area.x area.y (rows.take area.height)

end QueryDesk.Screen
