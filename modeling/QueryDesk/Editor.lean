import QueryDesk.Action
import QueryDesk.Screen.Panel
import QueryDesk.Screen.Paragraph
import QueryDesk.Sql.Highlight

/-!
# The query editor

A text with a cursor is kept as what lies around the cursor: the lines above, the
characters to the left, those to the right and the lines below. So the cursor always
stands at a character position of a line.
-/
namespace QueryDesk

structure Editor where
  /-- The lines above the cursor's, nearest first. -/
  above : List (List Char) := []
  /-- The characters before the cursor, nearest first. -/
  left : List Char := []
  right : List Char := []
  below : List (List Char) := []
  /-- The first line in view. -/
  scroll : Nat := 0
  deriving DecidableEq, Repr, Inhabited

namespace Editor

def row (e : Editor) : Nat := e.above.length

def column (e : Editor) : Nat := e.left.length

/-- The line of the cursor. -/
def line (e : Editor) : List Char := e.left.reverse ++ e.right

def lines (e : Editor) : List (List Char) := e.above.reverse ++ e.line :: e.below

def text (e : Editor) : String := String.ofList (Text.joinLines e.lines)

/-- An editor with a text and the cursor at its end. -/
def ofText (text : String) : Editor :=
  match (Text.splitLines text.toList).reverse with
  | [] => {}
  | last :: above => { above, left := last.reverse }

/-- Puts the cursor into a line at a column, or at the line's end. -/
def enter (e : Editor) (line : List Char) (column : Nat) : Editor :=
  { e with left := (line.take column).reverse, right := line.drop column }

def insert (e : Editor) (c : Char) : Editor := { e with left := c :: e.left }

def newline (e : Editor) : Editor :=
  { e with above := e.left.reverse :: e.above, left := [] }

/-- Inserts a text that may have several lines. Carriage returns are dropped. -/
def paste (e : Editor) (text : String) : Editor :=
  text.toList.foldl
    (fun e c => if c = '\n' then e.newline else if c = '\r' then e else e.insert c) e

/-- Removes the character before the cursor, or joins the line to the one above. -/
def backspace (e : Editor) : Editor :=
  match e.left, e.above with
  | _ :: left, _ => { e with left }
  | [], line :: above => { e with above, left := line.reverse }
  | [], [] => e

/-- Removes the character at the cursor, or joins the line below to this one. -/
def delete (e : Editor) : Editor :=
  match e.right, e.below with
  | _ :: right, _ => { e with right }
  | [], line :: below => { e with right := line, below }
  | [], [] => e

def moveLeft (e : Editor) : Editor :=
  match e.left, e.above with
  | c :: left, _ => { e with left, right := c :: e.right }
  | [], line :: above =>
      { e with above, left := line.reverse, right := [], below := e.right :: e.below }
  | [], [] => e

def moveRight (e : Editor) : Editor :=
  match e.right, e.below with
  | c :: right, _ => { e with left := c :: e.left, right }
  | [], line :: below =>
      { e with above := e.left.reverse :: e.above, left := [], right := line, below }
  | [], [] => e

/-- Goes to the line above and keeps the column as far as that line goes. -/
def moveUp (e : Editor) : Editor :=
  match e.above with
  | line :: above => { e with above, below := e.line :: e.below }.enter line e.column
  | [] => e

/-- Goes to the line below and keeps the column as far as that line goes. -/
def moveDown (e : Editor) : Editor :=
  match e.below with
  | line :: below => { e with above := e.line :: e.above, below }.enter line e.column
  | [] => e

def moveHome (e : Editor) : Editor := { e with left := [], right := e.line }

def moveEnd (e : Editor) : Editor := { e with left := e.line.reverse, right := [] }

/-- Carries out the actions on text; the others change nothing. -/
def update (e : Editor) : Action → Editor
  | .editorInput c => e.insert c
  | .editorPaste text => e.paste text
  | .editorNewline => e.newline
  | .editorBackspace => e.backspace
  | .editorDelete => e.delete
  | .cursorLeft => e.moveLeft
  | .cursorRight => e.moveRight
  | .cursorUp => e.moveUp
  | .cursorDown => e.moveDown
  | .cursorHome => e.moveHome
  | .cursorEnd => e.moveEnd
  | _ => e

/-- The action of a key. Keys with control or alt are not for the editor. -/
def action? (key : Key) : Option Action :=
  if key.control || key.alt then none
  else
    match key.code with
    | .char c => some (.editorInput c)
    | .tab => some (.editorPaste "    ")
    | .enter => some .editorNewline
    | .backspace => some .editorBackspace
    | .delete => some .editorDelete
    | .left => some .cursorLeft
    | .right => some .cursorRight
    | .up => some .cursorUp
    | .down => some .cursorDown
    | .home => some .cursorHome
    | .end => some .cursorEnd
    | _ => none

/-- Scrolls just far enough for the cursor's line to be in a view of some rows. -/
def scrolledTo (e : Editor) (height : Nat) : Editor :=
  if height = 0 then e
  else if e.row < e.scroll then { e with scroll := e.row }
  else if e.scroll + height ≤ e.row then { e with scroll := e.row + 1 - height }
  else e

def panel : Screen.Panel :=
  { title := " Query · F5 to run "
    titleStyle := (Screen.Style.ink .cyan).inBold
    borderStyle := .ink .cyan }

/-- Where the cursor shows, if it is in view. Coordinates are 16-bit words. -/
def cursor? (e : Editor) (area : Rect) : Option (Nat × Nat) :=
  let columns := Text.width .line e.left.reverse
  let x := (area.x + 1 + columns % 65536) % 65536
  let y := area.y + 1 + (e.row - e.scroll)
  if 0 < area.height - 2 && x < area.x + (area.width - 1) then some (x, y) else none

/-- Draws the text; the editor comes back scrolled to its cursor. -/
def draw (e : Editor) (s : Screen) (area : Rect) :
    Editor × Screen × Option (Nat × Nat) :=
  let e := e.scrolledTo (area.height - 2)
  let s := (panel.draw s area).drawLines (Screen.Panel.inside area) (Sql.highlight e.text)
    (e.scroll % 65536)
  (e, s, e.cursor? area)

end Editor

end QueryDesk
