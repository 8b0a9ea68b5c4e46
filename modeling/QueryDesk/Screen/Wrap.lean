import QueryDesk.Number.Total
import QueryDesk.Screen.Write

/-!
# Wrapping a line

A line is broken between words into rows of a given width. Blanks between two rows
are dropped up to the width of the row before; a word too long for a row is cut.
A row is closed before the glyph that finds it full, so a wide glyph can reach one
column past the width.
-/
namespace QueryDesk.Screen

/-- A glyph and the style it is shown in. -/
abbrev Inked := Glyph × Style

/-- Glyphs at which a line may be broken. A no-break space is not one. -/
def Glyph.isBlank (glyph : Glyph) : Bool :=
  glyph.symbol = "\u200b"
    || (Text.allBlank glyph.symbol && glyph.symbol != "\u00a0")

def inkedWidth (glyphs : List Inked) : Nat := Number.total (glyphs.map (·.1.width))

/-- The open row, the blanks behind it and the word behind those. -/
structure WrapState where
  done : List (List Inked) := []
  row : List Inked := []
  blanks : List Inked := []
  word : List Inked := []
  afterWord : Bool := false

namespace WrapState

/-- Moves the blanks and the word into the open row. -/
def commit (s : WrapState) : WrapState :=
  { s with row := s.row ++ s.blanks ++ s.word, blanks := [], word := [] }

/-- The blanks that do not fit into what is left of a row. -/
def dropFitting (room : Nat) : List Inked → List Inked
  | [] => []
  | blank :: rest =>
      if blank.1.width ≤ room then dropFitting (room - blank.1.width) rest else blank :: rest

/-- Closes the open row. -/
def close (limit : Nat) (s : WrapState) : WrapState :=
  { s with
    done := s.done ++ [s.row]
    row := []
    blanks := dropFitting (limit - inkedWidth s.row) s.blanks }

/-- Takes up one glyph. -/
def push (limit : Nat) (s : WrapState) (glyph : Inked) : WrapState :=
  if limit < glyph.1.width then s
  else
    let blank := glyph.1.isBlank
    let overflow := s.row.isEmpty
      && limit < inkedWidth s.word + inkedWidth s.blanks + glyph.1.width
    let s := if (s.afterWord && blank) || overflow then s.commit else s
    let width := inkedWidth s.row
    let full := limit ≤ width
      || (0 < glyph.1.width && limit ≤ width + inkedWidth s.blanks + inkedWidth s.word)
    let s := if full then s.close limit else s
    if full && blank && s.blanks.isEmpty then s
    else if blank then { s with blanks := s.blanks ++ [glyph], afterWord := false }
    else { s with word := s.word ++ [glyph], afterWord := true }

/-- The rows when no glyph is left. A line of blanks alone has an empty row before it. -/
def finish (s : WrapState) : List (List Inked) :=
  let lead := if s.row.isEmpty && s.word.isEmpty && !s.blanks.isEmpty then [[]] else []
  let last := s.commit.row
  let rows := s.done ++ lead ++ (if last.isEmpty then [] else [last])
  if rows.isEmpty then [[]] else rows

end WrapState

/-- The rows of a line broken at `limit` columns. -/
def wrapLine (limit : Nat) (glyphs : List Inked) : List (List Inked) :=
  (glyphs.foldl (WrapState.push limit) {}).finish

end QueryDesk.Screen
