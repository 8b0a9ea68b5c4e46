/-!
# Lines of a text

A text is cut at line feeds only; a carriage return stays in its line. Joining the lines gives the
text back.
-/
namespace QueryDesk.Text

/-- The pieces between the line feeds. There is always at least one. -/
def splitLines (text : List Char) : List (List Char) := text.splitOn '\n'

/-- The lines with a line feed between neighbours. -/
def joinLines (lines : List (List Char)) : List Char := List.intercalate ['\n'] lines

theorem joinLines_splitLines (text : List Char) : joinLines (splitLines text) = text :=
  List.intercalate_splitOn _

end QueryDesk.Text
