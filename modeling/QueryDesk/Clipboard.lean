import QueryDesk.Text.Base64
import QueryDesk.Text.Utf8

/-!
# The clipboard of a terminal

A terminal takes a text for the clipboard from a control sequence that carries the
bytes of the text in base 64.
-/
namespace QueryDesk.Clipboard

def opening : List Char := ['\x1b', ']', '5', '2', ';', 'c', ';']

def closing : Char := '\x07'

/-- The control sequence that puts a text into the clipboard. -/
def sequence (text : String) : List Char :=
  opening ++ Text.base64 (Text.utf8 text.toList) ++ [closing]

/-- What is written for several texts one after another. -/
def sequences (texts : List String) : List Char := texts.flatMap sequence

end QueryDesk.Clipboard
