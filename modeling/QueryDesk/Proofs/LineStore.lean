import QueryDesk.Editor
import QueryDesk.Text.Lines
import QueryDesk.Text.Utf8

/-!
# Lines in storage

The text of an editor can be stored as a list of lines with the row and the column of the cursor. A
line is then reached by its row, and a place in it by the number of bytes before it, so there is
much that can go wrong: a row without a line, a byte in the middle of a character, a character taken
from the end of a line. Here each of these is an operation without a result.

The main statement is `update?_store`: on the storage of an editor every action has a result, which
is the storage of the editor after the action.
-/
namespace QueryDesk

/-- Lines with the row and the column of a cursor. -/
structure LineStore where
  lines : List (List Char)
  row : Nat
  column : Nat
  deriving DecidableEq, Repr

namespace LineStore

open QueryDesk.Text (utf8Char utf8 utf8Length splitLines)

/-- The number of bytes before a column; a column past the end counts as the end. -/
def byteIndex (line : List Char) (column : Nat) : Nat := utf8Length (line.take column)

/-- A line cut in front of a byte, if a character begins or the line ends there. -/
def cut? : List Char → Nat → Option (List Char × List Char)
  | line, 0 => some ([], line)
  | [], _ + 1 => none
  | c :: line, byte + 1 =>
      if (utf8Char c).length ≤ byte + 1 then
        (cut? line (byte + 1 - (utf8Char c).length)).map fun (before, after) =>
          (c :: before, after)
      else none

def insertChar? (line : List Char) (byte : Nat) (c : Char) : Option (List Char) :=
  (cut? line byte).map fun (before, after) => before ++ c :: after

/-- Takes out the character that begins at a byte. There is none at the end of the line. -/
def removeChar? (line : List Char) (byte : Nat) : Option (List Char) :=
  match cut? line byte with
  | some (before, _ :: after) => some (before ++ after)
  | _ => none

/-- Puts a line in front of a row, or behind the last one. -/
def insertLine? (lines : List (List Char)) (row : Nat) (line : List Char) :
    Option (List (List Char)) :=
  if row ≤ lines.length then some (lines.insertIdx row line) else none

/-- Takes the line of a row out. -/
def removeLine? (lines : List (List Char)) (row : Nat) :
    Option (List Char × List (List Char)) :=
  lines[row]?.map fun line => (line, lines.eraseIdx row)

/-- A text with the cursor at its end. -/
def ofText? (text : String) : Option LineStore := do
  let lines := splitLines text.toList
  let line ← lines[lines.length - 1]?
  some ⟨lines, lines.length - 1, line.length⟩

def insert? (s : LineStore) (c : Char) : Option LineStore := do
  let line ← s.lines[s.row]?
  let line ← insertChar? line (byteIndex line s.column) c
  some ⟨s.lines.set s.row line, s.row, s.column + 1⟩

def newline? (s : LineStore) : Option LineStore := do
  let line ← s.lines[s.row]?
  let (before, after) ← cut? line (byteIndex line s.column)
  let lines ← insertLine? (s.lines.set s.row before) (s.row + 1) after
  some ⟨lines, s.row + 1, 0⟩

/-- Inserts one line of a pasted text. Carriage returns are dropped. -/
def insertPart? (s : LineStore) (part : List Char) : Option LineStore :=
  (part.filter (· ≠ '\r')).foldlM insert? s

/-- Inserts lines with a new line between neighbours. -/
def insertParts? (s : LineStore) : List (List Char) → Option LineStore
  | [] => some s
  | first :: later => do
      let s ← s.insertPart? first
      later.foldlM (fun s part => do (← s.newline?).insertPart? part) s

/-- Inserts a text that may have several lines. -/
def paste? (s : LineStore) (text : String) : Option LineStore :=
  s.insertParts? (splitLines text.toList)

def backspace? (s : LineStore) : Option LineStore :=
  if 0 < s.column then do
    let line ← s.lines[s.row]?
    let line ← removeChar? line (byteIndex line (s.column - 1))
    some ⟨s.lines.set s.row line, s.row, s.column - 1⟩
  else if 0 < s.row then do
    let (line, lines) ← removeLine? s.lines s.row
    let above ← lines[s.row - 1]?
    some ⟨lines.set (s.row - 1) (above ++ line), s.row - 1, above.length⟩
  else some s

def delete? (s : LineStore) : Option LineStore := do
  let line ← s.lines[s.row]?
  if s.column < line.length then
    let line ← removeChar? line (byteIndex line s.column)
    some { s with lines := s.lines.set s.row line }
  else if s.row + 1 < s.lines.length then
    let (below, lines) ← removeLine? s.lines (s.row + 1)
    let line ← lines[s.row]?
    some { s with lines := lines.set s.row (line ++ below) }
  else some s

def moveLeft? (s : LineStore) : Option LineStore :=
  if 0 < s.column then some { s with column := s.column - 1 }
  else if 0 < s.row then do
    let line ← s.lines[s.row - 1]?
    some { s with row := s.row - 1, column := line.length }
  else some s

def moveRight? (s : LineStore) : Option LineStore := do
  let line ← s.lines[s.row]?
  if s.column < line.length then some { s with column := s.column + 1 }
  else if s.row + 1 < s.lines.length then some { s with row := s.row + 1, column := 0 }
  else some s

/-- Goes to a row and keeps the column as far as the line there goes. -/
def enter? (s : LineStore) (row : Nat) : Option LineStore := do
  let line ← s.lines[row]?
  some { s with row, column := min s.column line.length }

def moveUp? (s : LineStore) : Option LineStore :=
  s.enter? (if 0 < s.row then s.row - 1 else s.row)

def moveDown? (s : LineStore) : Option LineStore :=
  s.enter? (if s.row + 1 < s.lines.length then s.row + 1 else s.row)

def moveEnd? (s : LineStore) : Option LineStore := do
  let line ← s.lines[s.row]?
  some { s with column := line.length }

/-- Carries out the actions on text; the others change nothing. -/
def update? (s : LineStore) : Action → Option LineStore
  | .editorInput c => s.insert? c
  | .editorPaste text => s.paste? text
  | .editorNewline => s.newline?
  | .editorBackspace => s.backspace?
  | .editorDelete => s.delete?
  | .cursorLeft => s.moveLeft?
  | .cursorRight => s.moveRight?
  | .cursorUp => s.moveUp?
  | .cursorDown => s.moveDown?
  | .cursorHome => some { s with column := 0 }
  | .cursorEnd => s.moveEnd?
  | _ => some s

def run? (s : LineStore) (actions : List Action) : Option LineStore := actions.foldlM update? s

/-! ### Places in a line -/

theorem utf8Char_pos (c : Char) : 0 < (utf8Char c).length := by
  unfold utf8Char
  dsimp only
  split
  · exact Nat.zero_lt_one
  · split
    · exact Nat.zero_lt_two
    · split <;> exact Nat.zero_lt_succ _

theorem byteIndex_cons_succ (c : Char) (line : List Char) (column : Nat) :
    byteIndex (c :: line) (column + 1) = (utf8Char c).length + byteIndex line column := by
  simp [byteIndex, utf8Length, utf8]

/-- The bytes before a column end where a character does. -/
theorem cut?_byteIndex (line : List Char) (column : Nat) :
    cut? line (byteIndex line column) = some (line.take column, line.drop column) := by
  induction line generalizing column with
  | nil => cases column <;> rfl
  | cons c line ih =>
    cases column with
    | zero => rfl
    | succ column =>
      obtain ⟨rest, hrest⟩ : ∃ rest, (utf8Char c).length = rest + 1 :=
        Nat.exists_eq_add_one.2 (utf8Char_pos c)
      have hbyte : byteIndex (c :: line) (column + 1) = rest + byteIndex line column + 1 := by
        rw [byteIndex_cons_succ, hrest]
        omega
      have hleft : rest + byteIndex line column + 1 - (rest + 1) = byteIndex line column := by
        omega
      rw [hbyte, cut?, hrest, if_pos (by omega), hleft, ih]
      rfl

theorem insertChar?_byteIndex (before after : List Char) (c : Char) :
    insertChar? (before ++ after) (byteIndex (before ++ after) before.length) c =
      some (before ++ c :: after) := by
  rw [insertChar?, cut?_byteIndex]
  simp

theorem removeChar?_byteIndex (before after : List Char) (c : Char) :
    removeChar? (before ++ c :: after) (byteIndex (before ++ c :: after) before.length) =
      some (before ++ after) := by
  rw [removeChar?, cut?_byteIndex]
  simp

/-! ### Lines at a row -/

section
variable (front back : List (List Char)) (line : List Char)

theorem getElem?_at : (front ++ line :: back)[front.length]? = some line := by simp

theorem set_at (new : List Char) :
    (front ++ line :: back).set front.length new = front ++ new :: back := by simp

theorem insertLine?_at (new : List Char) :
    insertLine? (front ++ line :: back) (front.length + 1) new =
      some (front ++ line :: new :: back) := by
  have hinsert : (front ++ line :: back).insertIdx (front.length + 1) new =
      front ++ line :: new :: back := by
    induction front with
    | nil => rfl
    | cons first front ih => simp [List.insertIdx_succ_cons, ih]
  rw [insertLine?, hinsert, if_pos (by simp)]

theorem removeLine?_at :
    removeLine? (front ++ line :: back) front.length = some (line, front ++ back) := by
  rw [removeLine?, getElem?_at]
  simp [List.eraseIdx_append_of_length_le]

end

end LineStore

namespace Editor

open LineStore
open QueryDesk.Text (splitLines)

/-- The storage of an editor. -/
def store (e : Editor) : LineStore := ⟨e.lines, e.row, e.column⟩

/-- The editor after actions. -/
def run (e : Editor) (actions : List Action) : Editor := actions.foldl update e

variable {e : Editor} {c : Char} {next : List Char} {rest : List (List Char)}

theorem row_eq (e : Editor) : e.row = e.above.reverse.length := by simp [row]

theorem column_eq (e : Editor) : e.column = e.left.reverse.length := by simp [column]

theorem lines_row (e : Editor) : e.lines[e.row]? = some e.line := by
  rw [lines, row_eq, getElem?_at]

theorem lines_set_row (e : Editor) (line : List Char) :
    e.lines.set e.row line = e.above.reverse ++ line :: e.below := by
  rw [lines, row_eq, set_at]

theorem lines_above (h : e.above = next :: rest) :
    e.lines = rest.reverse ++ next :: e.line :: e.below := by
  simp [lines, h]

theorem row_above (h : e.above = next :: rest) : e.row = rest.reverse.length + 1 := by
  simp [row, h]

theorem lines_row_pred (h : e.above = next :: rest) : e.lines[e.row - 1]? = some next := by
  rw [lines_above h, row_above h, Nat.add_sub_cancel, getElem?_at]

theorem lines_row_succ (h : e.below = next :: rest) : e.lines[e.row + 1]? = some next := by
  simp [lines, row, h]

theorem row_succ_lt_iff (e : Editor) : e.row + 1 < e.lines.length ↔ e.below ≠ [] := by
  rw [← List.length_pos_iff]
  simp only [lines, row_eq, List.length_append, List.length_cons]
  omega

theorem column_lt_iff (e : Editor) : e.column < e.line.length ↔ e.right ≠ [] := by
  rw [← List.length_pos_iff]
  simp only [line, column_eq, List.length_append]
  omega

theorem insert?_store (e : Editor) (c : Char) : e.store.insert? c = some (e.insert c).store := by
  have hline : insertChar? e.line (byteIndex e.line e.column) c =
      some (e.left.reverse ++ c :: e.right) := by
    rw [line, column_eq, insertChar?_byteIndex]
  simp only [LineStore.insert?, store, lines_row, Option.bind_eq_bind, Option.bind_some, hline,
    lines_set_row]
  simp [insert, lines, line, row, column]

theorem newline?_store (e : Editor) : e.store.newline? = some e.newline.store := by
  have hcut : cut? e.line (byteIndex e.line e.column) = some (e.left.reverse, e.right) := by
    rw [cut?_byteIndex, line, column_eq, List.take_left, List.drop_left]
  have hlines : insertLine? (e.above.reverse ++ e.left.reverse :: e.below) (e.row + 1) e.right =
      some (e.above.reverse ++ e.left.reverse :: e.right :: e.below) := by
    rw [row_eq, insertLine?_at]
  simp only [LineStore.newline?, store, lines_row, Option.bind_eq_bind, Option.bind_some, hcut,
    lines_set_row, hlines]
  simp [newline, lines, line, row, column]

theorem backspace?_store (e : Editor) : e.store.backspace? = some e.backspace.store := by
  cases hleft : e.left with
  | cons c left =>
    have hcolumn : e.column = left.length + 1 := by simp [column, hleft]
    have hline : removeChar? e.line (byteIndex e.line left.length) =
        some (left.reverse ++ e.right) := by
      have h := removeChar?_byteIndex left.reverse e.right c
      rw [List.length_reverse] at h
      simpa [line, hleft] using h
    simp only [LineStore.backspace?, store, lines_row, Option.bind_eq_bind, Option.bind_some,
      lines_set_row, hcolumn, Nat.zero_lt_succ, if_true, Nat.add_sub_cancel, hline]
    simp [backspace, hleft, lines, line, row, column]
  | nil =>
    have hcolumn : e.column = 0 := by simp [column, hleft]
    cases habove : e.above with
    | nil =>
      have hrow : e.row = 0 := by simp [row, habove]
      simp only [LineStore.backspace?, store, hcolumn, hrow, Nat.lt_irrefl, if_false]
      simp [backspace, hleft, habove, lines, line, row, column]
    | cons next rest =>
      have hremove :
          removeLine? e.lines e.row = some (e.line, rest.reverse ++ next :: e.below) := by
        rw [lines, row_eq, removeLine?_at]
        simp [habove]
      have hrow : e.row = rest.reverse.length + 1 := row_above habove
      simp only [LineStore.backspace?, store, hcolumn, Nat.lt_irrefl, if_false, hremove,
        Option.bind_eq_bind, Option.bind_some]
      simp only [hrow, Nat.zero_lt_succ, if_true, Nat.add_sub_cancel, getElem?_at, set_at,
        Option.bind_some]
      simp [backspace, hleft, habove, lines, line, row, column]

theorem delete?_store (e : Editor) : e.store.delete? = some e.delete.store := by
  simp only [LineStore.delete?, store, lines_row, Option.bind_eq_bind, Option.bind_some,
    column_lt_iff, row_succ_lt_iff]
  cases hright : e.right with
  | cons c right =>
    have hline : removeChar? e.line (byteIndex e.line e.column) =
        some (e.left.reverse ++ right) := by
      rw [line, column_eq, hright, removeChar?_byteIndex]
    simp only [hline, Option.bind_some, lines_set_row, ne_eq, reduceCtorEq, not_false_eq_true,
      if_true]
    simp [delete, hright, lines, line, row, column]
  | nil =>
    cases hbelow : e.below with
    | nil => simp [delete, hright, hbelow, lines, line, row, column]
    | cons next rest =>
      have hremove : removeLine? e.lines (e.row + 1) =
          some (next, e.above.reverse ++ e.line :: rest) := by
        have h := removeLine?_at (e.above.reverse ++ [e.line]) rest next
        simpa [lines, row, hbelow] using h
      have hline : (e.above.reverse ++ e.line :: rest)[e.row]? = some e.line := by
        rw [row_eq, getElem?_at]
      have hset : (e.above.reverse ++ e.line :: rest).set e.row (e.line ++ next) =
          e.above.reverse ++ (e.line ++ next) :: rest := by
        rw [row_eq, set_at]
      simp only [ne_eq, not_true_eq_false, reduceCtorEq, not_false_eq_true, if_false, if_true,
        hremove, hline, hset, Option.bind_some]
      simp [delete, hright, hbelow, lines, line, row, column]

theorem moveLeft?_store (e : Editor) : e.store.moveLeft? = some e.moveLeft.store := by
  cases hleft : e.left with
  | cons c left =>
    have hcolumn : e.column = left.length + 1 := by simp [column, hleft]
    simp only [LineStore.moveLeft?, store, hcolumn, Nat.zero_lt_succ, if_true, Nat.add_sub_cancel]
    simp [moveLeft, hleft, lines, line, row, column]
  | nil =>
    have hcolumn : e.column = 0 := by simp [column, hleft]
    cases habove : e.above with
    | nil =>
      have hrow : e.row = 0 := by simp [row, habove]
      simp only [LineStore.moveLeft?, store, hcolumn, hrow, Nat.lt_irrefl, if_false]
      simp [moveLeft, hleft, habove, lines, line, row, column]
    | cons next rest =>
      have hrow : 0 < e.row := by simp [row, habove]
      simp only [LineStore.moveLeft?, store, hcolumn, Nat.lt_irrefl, if_false, hrow, if_true,
        lines_row_pred habove, Option.bind_eq_bind, Option.bind_some]
      simp [moveLeft, hleft, habove, lines, line, row, column]

theorem moveRight?_store (e : Editor) : e.store.moveRight? = some e.moveRight.store := by
  simp only [LineStore.moveRight?, store, lines_row, Option.bind_eq_bind, Option.bind_some,
    column_lt_iff, row_succ_lt_iff]
  cases hright : e.right with
  | cons c right => simp [moveRight, hright, lines, line, row, column]
  | nil =>
    cases hbelow : e.below with
    | nil => simp [moveRight, hright, hbelow, lines, line, row, column]
    | cons next rest => simp [moveRight, hright, hbelow, lines, line, row, column]

/-- A cursor that stays in its row stays where it is. -/
theorem enter?_row (e : Editor) : e.store.enter? e.row = some e.store := by
  have hcolumn : e.column ≤ e.line.length := by simp [column, line]
  simp only [LineStore.enter?, store, lines_row, Option.bind_eq_bind, Option.bind_some,
    Nat.min_eq_left hcolumn]

theorem moveUp?_store (e : Editor) : e.store.moveUp? = some e.moveUp.store := by
  cases habove : e.above with
  | nil =>
    have hrow : ¬0 < e.row := by simp [row, habove]
    have hstay : e.store.moveUp? = e.store.enter? e.row := by
      rw [LineStore.moveUp?, store, if_neg hrow]
    rw [hstay, enter?_row, moveUp, habove]
  | cons next rest =>
    have hrow : 0 < e.row := by simp [row, habove]
    simp only [LineStore.moveUp?, LineStore.enter?, store, hrow, if_true, lines_row_pred habove,
      Option.bind_eq_bind, Option.bind_some]
    simp [moveUp, enter, habove, lines, line, row, column]

theorem moveDown?_store (e : Editor) : e.store.moveDown? = some e.moveDown.store := by
  cases hbelow : e.below with
  | nil =>
    have hrow : ¬e.row + 1 < e.lines.length := by simp [row_succ_lt_iff, hbelow]
    have hstay : e.store.moveDown? = e.store.enter? e.row := by
      rw [LineStore.moveDown?, store, if_neg hrow]
    rw [hstay, enter?_row, moveDown, hbelow]
  | cons next rest =>
    have hrow : e.row + 1 < e.lines.length := by simp [row_succ_lt_iff, hbelow]
    simp only [LineStore.moveDown?, LineStore.enter?, store, hrow, if_true, lines_row_succ hbelow,
      Option.bind_eq_bind, Option.bind_some]
    simp [moveDown, enter, hbelow, lines, line, row, column]

theorem moveEnd?_store (e : Editor) : e.store.moveEnd? = some e.moveEnd.store := by
  simp only [LineStore.moveEnd?, store, lines_row, Option.bind_eq_bind, Option.bind_some]
  simp [moveEnd, lines, line, row, column, Nat.add_comm]

theorem insertPart?_nil (s : LineStore) : s.insertPart? [] = some s := rfl

theorem insertPart?_cons (s : LineStore) (c : Char) (part : List Char) :
    s.insertPart? (c :: part) =
      if c = '\r' then s.insertPart? part else (s.insert? c).bind (·.insertPart? part) := by
  by_cases hc : c = '\r'
  · simp [insertPart?, hc]
  · simp [insertPart?, hc]

/-- A line feed at the front of a text is a new line before what follows it. -/
theorem insertParts?_nil_cons (s : LineStore) {parts : List (List Char)} (h : parts ≠ []) :
    s.insertParts? ([] :: parts) = s.newline?.bind (·.insertParts? parts) := by
  obtain ⟨first, later, rfl⟩ := List.exists_cons_of_ne_nil h
  simp only [insertParts?, insertPart?_nil, Option.bind_eq_bind, Option.bind_some,
    List.foldlM_cons, Option.bind_assoc]

theorem insertParts?_cons_cons (s : LineStore) (c : Char) (part : List Char)
    (parts : List (List Char)) :
    s.insertParts? ((c :: part) :: parts) =
      if c = '\r' then s.insertParts? (part :: parts)
      else (s.insert? c).bind (·.insertParts? (part :: parts)) := by
  by_cases hc : c = '\r'
  · simp only [insertParts?, insertPart?_cons, hc, if_true]
  · simp only [insertParts?, insertPart?_cons, hc, if_false, Option.bind_eq_bind,
      Option.bind_assoc]

/-- Inserted line by line, a text has the effect of its characters one after the other. -/
theorem paste?_store (e : Editor) (text : String) :
    e.store.paste? text = some (e.paste text).store := by
  unfold LineStore.paste? paste
  generalize text.toList = cs
  induction cs generalizing e with
  | nil => rfl
  | cons c cs ih =>
    rw [List.foldl_cons, ← ih]
    rw [splitLines, List.splitOn_cons_eq_if_modifyHead, ← splitLines]
    have hsome : splitLines cs ≠ [] := List.splitOn_ne_nil _ _
    obtain ⟨part, parts, hparts⟩ := List.exists_cons_of_ne_nil hsome
    by_cases hfeed : c = '\n'
    · simp only [beq_iff_eq, hfeed, if_true]
      rw [insertParts?_nil_cons _ hsome, newline?_store, Option.bind_some]
    · simp only [beq_iff_eq, hfeed, if_false, hparts, List.modifyHead_cons]
      rw [insertParts?_cons_cons, insert?_store, Option.bind_some]
      split <;> rfl

/-- On the storage of an editor every action has a result, which is the storage of the editor after
the action. -/
theorem update?_store (e : Editor) (action : Action) :
    e.store.update? action = some (e.update action).store := by
  cases action with
  | editorInput c => exact insert?_store e c
  | editorPaste text => exact paste?_store e text
  | editorNewline => exact newline?_store e
  | editorBackspace => exact backspace?_store e
  | editorDelete => exact delete?_store e
  | cursorLeft => exact moveLeft?_store e
  | cursorRight => exact moveRight?_store e
  | cursorUp => exact moveUp?_store e
  | cursorDown => exact moveDown?_store e
  | cursorEnd => exact moveEnd?_store e
  | _ => rfl

theorem run?_store (e : Editor) (actions : List Action) :
    e.store.run? actions = some (e.run actions).store := by
  induction actions generalizing e with
  | nil => rfl
  | cons action rest ih =>
    rw [LineStore.run?, List.foldlM_cons, update?_store, Option.bind_eq_bind, Option.bind_some]
    exact ih (e.update action)

theorem ofText?_store (text : String) : LineStore.ofText? text = some (ofText text).store := by
  unfold LineStore.ofText? ofText
  rcases List.eq_nil_or_concat (splitLines text.toList) with hnil | ⟨above, last, hlines⟩
  · exact absurd hnil (List.splitOn_ne_nil _ _)
  · rw [hlines]
    simp [store, lines, line, row, column]

end Editor
end QueryDesk
