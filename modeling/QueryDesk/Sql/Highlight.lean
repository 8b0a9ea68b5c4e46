import QueryDesk.Screen.Style
import QueryDesk.Sql.Token
import QueryDesk.Text.Lines

/-!
# SQL highlighting

Each token is shown in the style of its kind. A token that runs over several lines
is cut at the line feeds, so there is one line of spans for each line of the text.
-/
namespace QueryDesk.Sql

open QueryDesk.Screen (Style Span Line)

def TokenKind.style : TokenKind → Style
  | .keyword => (Style.ink .cyan).inBold
  | .string => .ink .green
  | .number => .ink .magenta
  | .comment => .ink .darkGray
  | .identifier => .ink .white
  | .whitespace => .plain
  | .punctuation => .ink .gray

/-- A span for a piece of text that is not empty. -/
def pieceSpans (style : Style) (piece : List Char) : List Span :=
  if piece.isEmpty then [] else [{ text := String.ofList piece, style }]

/-- Puts spans before the first of some lines. -/
def prepend (spans : List Span) : List Line → List Line
  | [] => [spans]
  | line :: lines => (spans ++ line) :: lines

/-- Puts the pieces of a token before lines: the last piece joins the first of them. -/
def addPieces (style : Style) (lines : List Line) : List (List Char) → List Line
  | [] => lines
  | [piece] => prepend (pieceSpans style piece) lines
  | piece :: pieces => pieceSpans style piece :: addPieces style lines pieces

/-- The lines of spans of some tokens. -/
def tokenLines : List Token → List Line
  | [] => [[]]
  | token :: rest => addPieces token.kind.style (tokenLines rest) (Text.splitLines token.text)

/-- The text in lines of styled spans. -/
def highlight (text : String) : List Line := tokenLines (tokenize text.toList)

end QueryDesk.Sql
