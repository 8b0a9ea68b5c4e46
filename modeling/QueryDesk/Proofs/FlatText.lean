import QueryDesk.Number.Total
import QueryDesk.Proofs.LineStore

/-!
# The editor as a flat text

Seen from outside, an editor is one text with one place in it: every action puts characters in at
that place, takes one out beside it, or moves it. `FlatText` is that view with its own rules, said
without lines wherever the rule has none in it; a line is what stands between two line feeds. As
long as no line feed is typed into a line, which is what a new line is for, the lines of the editor
are those of its text, and each action does to the editor what it does to the flat text.
-/
namespace QueryDesk

/-- A text with a cursor in front of one of its characters or at its end. -/
structure FlatText where
  text : List Char
  cursor : Nat
  deriving DecidableEq, Repr

namespace FlatText

/-- A text with the cursor at its end. -/
def ofText (text : String) : FlatText := ⟨text.toList, text.toList.length⟩

/-- How far a place is from the start of its line. -/
def column (text : List Char) (place : Nat) : Nat :=
  ((text.take place).reverse.takeWhile (· ≠ '\n')).length

def lineStart (text : List Char) (place : Nat) : Nat := place - column text place

def lineEnd (text : List Char) (place : Nat) : Nat :=
  place + ((text.drop place).takeWhile (· ≠ '\n')).length

/-- Puts characters in at the cursor and moves past them. -/
def insert (b : FlatText) (cs : List Char) : FlatText :=
  ⟨b.text.take b.cursor ++ cs ++ b.text.drop b.cursor, b.cursor + cs.length⟩

/-- Removes the character before the cursor, if any. -/
def backspace (b : FlatText) : FlatText :=
  if b.cursor = 0 then b else ⟨b.text.eraseIdx (b.cursor - 1), b.cursor - 1⟩

/-- Removes the character at the cursor, if any. -/
def delete (b : FlatText) : FlatText := { b with text := b.text.eraseIdx b.cursor }

def moveLeft (b : FlatText) : FlatText := { b with cursor := b.cursor - 1 }

def moveRight (b : FlatText) : FlatText := { b with cursor := min (b.cursor + 1) b.text.length }

def moveHome (b : FlatText) : FlatText := { b with cursor := lineStart b.text b.cursor }

def moveEnd (b : FlatText) : FlatText := { b with cursor := lineEnd b.text b.cursor }

/-- Goes to the line above and keeps the column as far as that line goes. The first line has none
above. -/
def moveUp (b : FlatText) : FlatText :=
  let start := lineStart b.text b.cursor
  if start = 0 then b
  else
    let wanted := lineStart b.text (start - 1) + column b.text b.cursor
    { b with cursor := min wanted (start - 1) }

/-- Goes to the line below and keeps the column as far as that line goes. The last line has none
below. -/
def moveDown (b : FlatText) : FlatText :=
  let stop := lineEnd b.text b.cursor
  if stop = b.text.length then b
  else
    let wanted := stop + 1 + column b.text b.cursor
    { b with cursor := min wanted (lineEnd b.text (stop + 1)) }

/-- Carries out the actions on text; the others change nothing. -/
def update (b : FlatText) : Action → FlatText
  | .editorInput c => b.insert [c]
  | .editorPaste text => b.insert (text.toList.filter (· ≠ '\r'))
  | .editorNewline => b.insert ['\n']
  | .editorBackspace => b.backspace
  | .editorDelete => b.delete
  | .cursorLeft => b.moveLeft
  | .cursorRight => b.moveRight
  | .cursorUp => b.moveUp
  | .cursorDown => b.moveDown
  | .cursorHome => b.moveHome
  | .cursorEnd => b.moveEnd
  | _ => b

def run (b : FlatText) (actions : List Action) : FlatText := actions.foldl update b

/-! ### A text in two parts -/

/-- The text of two parts with the cursor between them. -/
def between (before after : List Char) : FlatText := ⟨before ++ after, before.length⟩

section
variable (before after : List Char) (c : Char)

theorem insert_between (cs : List Char) :
    (between before after).insert cs = between (before ++ cs) after := by
  simp [between, insert]

theorem backspace_between :
    (between (before ++ [c]) after).backspace = between before after := by
  simp [between, backspace, List.eraseIdx_append_of_length_le]

theorem backspace_start : (between [] after).backspace = between [] after := rfl

theorem delete_between : (between before (c :: after)).delete = between before after := by
  simp [between, delete, List.eraseIdx_append_of_length_le]

theorem delete_end : (between before []).delete = between before [] := by
  simp [between, delete, List.eraseIdx_of_length_le]

theorem moveLeft_between :
    (between (before ++ [c]) after).moveLeft = between before (c :: after) := by
  simp [between, moveLeft]

theorem moveLeft_start : (between [] after).moveLeft = between [] after := rfl

theorem moveRight_between :
    (between before (c :: after)).moveRight = between (before ++ [c]) after := by
  simp [between, moveRight]

theorem moveRight_end : (between before []).moveRight = between before [] := by
  simp [between, moveRight]

end

/-! ### Lines of a text -/

/-- Lines with a line feed behind each. -/
def ended (lines : List (List Char)) : List Char := lines.flatMap (· ++ ['\n'])

/-- Lines with a line feed in front of each. -/
def begun (lines : List (List Char)) : List Char := lines.flatMap ('\n' :: ·)

theorem ended_concat (lines : List (List Char)) (line : List Char) :
    ended (lines ++ [line]) = ended lines ++ (line ++ ['\n']) := by
  simp [ended]

theorem begun_cons (line : List Char) (lines : List (List Char)) :
    begun (line :: lines) = '\n' :: line ++ begun lines := by
  simp [begun]

theorem joinLines_around (front : List (List Char)) (line : List Char) (back : List (List Char)) :
    Text.joinLines (front ++ line :: back) = ended front ++ line ++ begun back := by
  induction front with
  | nil =>
    induction back generalizing line with
    | nil => simp [Text.joinLines, ended, begun]
    | cons next back ih =>
      have hrest := ih next
      rw [List.nil_append] at hrest ⊢
      rw [Text.joinLines, List.intercalate_cons_cons, ← Text.joinLines, hrest, begun_cons]
      simp [ended]
  | cons first front ih =>
    obtain ⟨next, rest, hrest⟩ : ∃ next rest, front ++ line :: back = next :: rest :=
      List.exists_cons_of_ne_nil (by simp)
    rw [List.cons_append, hrest, Text.joinLines, List.intercalate_cons_cons, ← Text.joinLines,
      ← hrest, ih]
    simp [ended]

theorem takeWhile_of_not_mem {line : List Char} (h : '\n' ∉ line) (rest : List Char) :
    (line ++ rest).takeWhile (· ≠ '\n') = line ++ rest.takeWhile (· ≠ '\n') := by
  refine List.takeWhile_append_of_pos fun c hc => ?_
  rw [decide_eq_true_iff]
  rintro rfl
  exact h hc

/-- The column in a line is the number of its characters before. -/
theorem column_ended (front : List (List Char)) {line : List Char} (h : '\n' ∉ line)
    (rest : List Char) :
    column (ended front ++ line ++ rest) (ended front ++ line).length = line.length := by
  have hfront : (ended front).reverse.takeWhile (· ≠ '\n') = [] := by
    rcases List.eq_nil_or_concat front with rfl | ⟨init, last, rfl⟩
    · rfl
    · rw [List.concat_eq_append, ended_concat]
      simp
  have hline : '\n' ∉ line.reverse := by rwa [List.mem_reverse]
  rw [column, List.take_left, List.reverse_append, takeWhile_of_not_mem hline, hfront,
    List.append_nil, List.length_reverse]

theorem lineStart_ended (front : List (List Char)) {line : List Char} (h : '\n' ∉ line)
    (rest : List Char) :
    lineStart (ended front ++ line ++ rest) (ended front ++ line).length =
      (ended front).length := by
  rw [lineStart, column_ended front h, List.length_append, Nat.add_sub_cancel]

/-- A line ends where the next one begins. -/
theorem lineEnd_begun (before : List Char) {line : List Char} (h : '\n' ∉ line)
    (back : List (List Char)) :
    lineEnd (before ++ (line ++ begun back)) before.length = before.length + line.length := by
  have hback : (begun back).takeWhile (· ≠ '\n') = [] := by
    cases back with
    | nil => rfl
    | cons next back =>
      rw [begun_cons]
      rfl
  rw [lineEnd, List.drop_left, takeWhile_of_not_mem h, hback, List.append_nil]

end FlatText

namespace LineStore

/-- The lines as one text. -/
def text (s : LineStore) : String := String.ofList (Text.joinLines s.lines)

/-- The place of the cursor in the text: the characters of the lines above, one more for each of
their ends, and the column. -/
def offset (s : LineStore) : Nat :=
  Number.total ((s.lines.take s.row).map fun line => line.length + 1) + s.column

end LineStore

namespace Editor

open FlatText

/-- The characters before the cursor. -/
def before (e : Editor) : List Char := ended e.above.reverse ++ e.left.reverse

/-- The characters behind the cursor. -/
def after (e : Editor) : List Char := e.right ++ begun e.below

/-- The flat text of an editor. -/
def flat (e : Editor) : FlatText := between e.before e.after

theorem joinLines_lines (e : Editor) : Text.joinLines e.lines = e.flat.text := by
  rw [lines, joinLines_around]
  simp [flat, between, before, after, line]

theorem text_flat (e : Editor) : e.text = String.ofList e.flat.text := by
  rw [text, joinLines_lines]

theorem length_ended (lines : List (List Char)) :
    (ended lines).length = Number.total (lines.map fun line => line.length + 1) := by
  induction lines with
  | nil => rfl
  | cons line rest ih =>
    rw [List.map_cons, Number.total_cons, ← ih]
    exact List.length_append.trans (by rw [List.length_append]; rfl)

theorem offset_flat (e : Editor) : e.store.offset = e.flat.cursor := by
  have htake : e.lines.take e.row = e.above.reverse := by
    rw [lines, row_eq, List.take_left]
  simp only [LineStore.offset, store, htake, flat, between, before, List.length_append,
    length_ended, column_eq]

/-- No line has a line feed in it, so the lines are those of the text. -/
structure Unbroken (e : Editor) : Prop where
  above : ∀ line ∈ e.above, '\n' ∉ line
  left : '\n' ∉ e.left
  right : '\n' ∉ e.right
  below : ∀ line ∈ e.below, '\n' ∉ line

variable {e : Editor} {c : Char} {cs line : List Char} {lines : List (List Char)}

theorem take_append_drop_append (n : Nat) (line rest : List Char) :
    line.take n ++ (line.drop n ++ rest) = line ++ rest := by
  rw [← List.append_assoc, List.take_append_drop]

/-! ### What stands beside the cursor -/

theorem before_of_left (h : e.left = c :: cs) :
    e.before = ended e.above.reverse ++ cs.reverse ++ [c] := by
  simp [before, h]

theorem before_of_above (hleft : e.left = []) (h : e.above = line :: lines) :
    e.before = ended lines.reverse ++ line ++ ['\n'] := by
  simp [before, hleft, h, ended_concat]

theorem before_of_nil (hleft : e.left = []) (h : e.above = []) : e.before = [] := by
  simp [before, hleft, h, ended]

theorem after_of_right (h : e.right = c :: cs) : e.after = c :: (cs ++ begun e.below) := by
  simp [after, h]

theorem after_of_below (hright : e.right = []) (h : e.below = line :: lines) :
    e.after = '\n' :: (line ++ begun lines) := by
  simp [after, hright, h, begun_cons]

theorem after_of_nil (hright : e.right = []) (h : e.below = []) : e.after = [] := by
  simp [after, hright, h, begun]

theorem before_insert (e : Editor) (c : Char) : (e.insert c).before = e.before ++ [c] := by
  simp [insert, before]

theorem after_insert (e : Editor) (c : Char) : (e.insert c).after = e.after := rfl

theorem before_newline (e : Editor) : e.newline.before = e.before ++ ['\n'] := by
  simp [newline, before, ended_concat]

theorem after_newline (e : Editor) : e.newline.after = e.after := rfl

/-! ### Actions on the flat text -/

theorem insert_flat (e : Editor) (c : Char) : (e.insert c).flat = e.flat.insert [c] := by
  rw [flat, flat, insert_between, before_insert, after_insert]

theorem newline_flat (e : Editor) : e.newline.flat = e.flat.insert ['\n'] := by
  rw [flat, flat, insert_between, before_newline, after_newline]

theorem paste_flat (e : Editor) (text : String) :
    (e.paste text).flat = e.flat.insert (text.toList.filter (· ≠ '\r')) := by
  unfold paste
  generalize text.toList = cs
  rw [flat, flat, insert_between]
  induction cs generalizing e with
  | nil => simp
  | cons c cs ih =>
    rw [List.foldl_cons, ih]
    by_cases hfeed : c = '\n'
    · simp [hfeed, before_newline, after_newline]
    · by_cases hreturn : c = '\r'
      · simp [hreturn]
      · simp [hfeed, hreturn, before_insert, after_insert]

theorem backspace_flat (e : Editor) : e.backspace.flat = e.flat.backspace := by
  cases hleft : e.left with
  | cons c left =>
    rw [flat, flat, before_of_left hleft, backspace_between]
    simp [backspace, hleft, before, after]
  | nil =>
    cases habove : e.above with
    | cons line above =>
      rw [flat, flat, before_of_above hleft habove, backspace_between]
      simp [backspace, hleft, habove, before, after]
    | nil =>
      rw [flat, flat, before_of_nil hleft habove, backspace_start]
      simp [backspace, hleft, habove, before, after, ended]

theorem delete_flat (e : Editor) : e.delete.flat = e.flat.delete := by
  cases hright : e.right with
  | cons c right =>
    rw [flat, flat, after_of_right hright, delete_between]
    simp [delete, hright, before, after]
  | nil =>
    cases hbelow : e.below with
    | cons line below =>
      rw [flat, flat, after_of_below hright hbelow, delete_between]
      simp [delete, hright, hbelow, before, after]
    | nil =>
      rw [flat, flat, after_of_nil hright hbelow, delete_end]
      simp [delete, hright, hbelow, before, after, begun]

theorem moveLeft_flat (e : Editor) : e.moveLeft.flat = e.flat.moveLeft := by
  cases hleft : e.left with
  | cons c left =>
    rw [flat, flat, before_of_left hleft, moveLeft_between]
    simp [moveLeft, hleft, before, after]
  | nil =>
    cases habove : e.above with
    | cons line above =>
      rw [flat, flat, before_of_above hleft habove, moveLeft_between]
      simp [moveLeft, hleft, habove, before, after, begun_cons]
    | nil =>
      rw [flat, flat, before_of_nil hleft habove, moveLeft_start]
      simp [moveLeft, hleft, habove, before, after, ended]

theorem moveRight_flat (e : Editor) : e.moveRight.flat = e.flat.moveRight := by
  cases hright : e.right with
  | cons c right =>
    rw [flat, flat, after_of_right hright, moveRight_between]
    simp [moveRight, hright, before, after]
  | nil =>
    cases hbelow : e.below with
    | cons line below =>
      rw [flat, flat, after_of_below hright hbelow, moveRight_between]
      simp [moveRight, hright, hbelow, before, after, ended_concat]
    | nil =>
      rw [flat, flat, after_of_nil hright hbelow, moveRight_end]
      simp [moveRight, hright, hbelow, before, after, begun]

namespace Unbroken

variable (h : e.Unbroken)
include h

theorem lineStart_flat : lineStart e.flat.text e.flat.cursor = (ended e.above.reverse).length := by
  have hleft : '\n' ∉ e.left.reverse := by rw [List.mem_reverse]; exact h.left
  exact lineStart_ended e.above.reverse hleft e.after

theorem column_flat : FlatText.column e.flat.text e.flat.cursor = e.column := by
  have hleft : '\n' ∉ e.left.reverse := by rw [List.mem_reverse]; exact h.left
  rw [column_eq]
  exact column_ended e.above.reverse hleft e.after

theorem lineEnd_flat : lineEnd e.flat.text e.flat.cursor = e.before.length + e.right.length :=
  lineEnd_begun e.before h.right e.below

theorem moveHome_flat : e.moveHome.flat = e.flat.moveHome := by
  rw [FlatText.moveHome, h.lineStart_flat]
  simp [flat, between, moveHome, before, after, line]

theorem moveEnd_flat : e.moveEnd.flat = e.flat.moveEnd := by
  rw [FlatText.moveEnd, h.lineEnd_flat]
  simp [flat, between, moveEnd, before, after, line, Nat.add_assoc]

theorem moveUp_flat : e.moveUp.flat = e.flat.moveUp := by
  cases habove : e.above with
  | nil =>
    have hstart : lineStart e.flat.text e.flat.cursor = 0 := by
      rw [h.lineStart_flat, habove]
      rfl
    simp only [FlatText.moveUp, hstart, if_true, moveUp, habove]
  | cons line rest =>
    have hline : '\n' ∉ line := h.above line (by simp [habove])
    have hstart : lineStart e.flat.text e.flat.cursor =
        (ended rest.reverse ++ line).length + 1 := by
      rw [h.lineStart_flat, habove, List.reverse_cons, ended_concat]
      simp [Nat.add_assoc]
    -- the text once more, with the line above in the place of the cursor's
    have htext : e.flat.text = ended rest.reverse ++ line ++ begun (e.line :: e.below) := by
      rw [← joinLines_lines, lines_above habove, joinLines_around]
    have hwanted : lineStart e.flat.text (ended rest.reverse ++ line).length =
        (ended rest.reverse).length := by
      rw [htext, lineStart_ended _ hline]
    have hmove : e.flat.moveUp = ⟨e.flat.text,
        min ((ended rest.reverse).length + e.column) (ended rest.reverse ++ line).length⟩ := by
      simp only [FlatText.moveUp, hstart, Nat.add_one_ne_zero, if_false, Nat.add_sub_cancel,
        hwanted, h.column_flat]
    rw [hmove, htext]
    simp [flat, between, moveUp, habove, enter, before, after, begun_cons, Nat.add_min_add_left,
      take_append_drop_append]

theorem moveDown_flat : e.moveDown.flat = e.flat.moveDown := by
  cases hbelow : e.below with
  | nil =>
    have hstop : lineEnd e.flat.text e.flat.cursor = e.flat.text.length := by
      rw [h.lineEnd_flat]
      simp [flat, between, after, hbelow, begun]
    simp only [FlatText.moveDown, hstop, if_true, moveDown, hbelow]
  | cons line rest =>
    have hline : '\n' ∉ line := h.below line (by simp [hbelow])
    have htext : e.flat.text = ended (e.above.reverse ++ [e.line]) ++ (line ++ begun rest) := by
      rw [← joinLines_lines, lines, joinLines_around, hbelow, begun_cons, ended_concat]
      simp
    have hstop : lineEnd e.flat.text e.flat.cursor + 1 =
        (ended (e.above.reverse ++ [e.line])).length := by
      rw [h.lineEnd_flat, ended_concat]
      simp [before, Editor.line, Nat.add_assoc]
    have hinside : lineEnd e.flat.text e.flat.cursor ≠ e.flat.text.length := by
      have hlength := congrArg List.length htext
      rw [List.length_append] at hlength
      omega
    have hbound : lineEnd e.flat.text (ended (e.above.reverse ++ [e.line])).length =
        (ended (e.above.reverse ++ [e.line])).length + line.length := by
      rw [htext, lineEnd_begun _ hline]
    have hmove : e.flat.moveDown = ⟨e.flat.text,
        min ((ended (e.above.reverse ++ [e.line])).length + e.column)
          ((ended (e.above.reverse ++ [e.line])).length + line.length)⟩ := by
      simp only [FlatText.moveDown, hinside, if_false, hstop, hbound, h.column_flat]
    rw [hmove, htext]
    simp [flat, between, moveDown, hbelow, enter, before, after, Nat.add_min_add_left,
      take_append_drop_append]

/-! ### No action breaks a line but a typed line feed -/

theorem current : '\n' ∉ e.line := by
  simp [Editor.line, h.left, h.right]

theorem insert (hc : c ≠ '\n') : (e.insert c).Unbroken where
  above := h.above
  left := by simp [Editor.insert, h.left, hc.symm]
  right := h.right
  below := h.below

theorem newline : e.newline.Unbroken where
  above := by simpa [Editor.newline, h.left] using h.above
  left := by simp [Editor.newline]
  right := h.right
  below := h.below

theorem paste (text : String) : (e.paste text).Unbroken := by
  unfold Editor.paste
  generalize text.toList = cs
  induction cs generalizing e with
  | nil => exact h
  | cons c cs ih =>
    rw [List.foldl_cons]
    refine ih ?_
    split
    · exact h.newline
    · split
      · exact h
      · rename_i hfeed _
        exact h.insert hfeed

theorem backspace : e.backspace.Unbroken := by
  obtain ⟨habove, hleft, hright, hbelow⟩ := h
  unfold Editor.backspace
  split <;> constructor <;> simp_all

theorem delete : e.delete.Unbroken := by
  obtain ⟨habove, hleft, hright, hbelow⟩ := h
  unfold Editor.delete
  split <;> constructor <;> simp_all

theorem moveLeft : e.moveLeft.Unbroken := by
  obtain ⟨habove, hleft, hright, hbelow⟩ := h
  unfold Editor.moveLeft
  split <;> constructor <;> simp_all

theorem moveRight : e.moveRight.Unbroken := by
  obtain ⟨habove, hleft, hright, hbelow⟩ := h
  unfold Editor.moveRight
  split <;> constructor <;> simp_all

theorem enter (hl : '\n' ∉ cs) (n : Nat) : (e.enter cs n).Unbroken where
  above := h.above
  left := by
    rw [Editor.enter, List.mem_reverse]
    exact fun hm => hl (List.mem_of_mem_take hm)
  right := fun hm => hl (List.mem_of_mem_drop hm)
  below := h.below

theorem moveUp : e.moveUp.Unbroken := by
  have hline := h.current
  unfold Editor.moveUp
  split
  · rename_i next above habove
    have hmoved : Unbroken { e with above, below := e.line :: e.below } :=
      ⟨fun other hm => h.above other (by simp [habove, hm]), h.left, h.right,
        by simpa [hline] using h.below⟩
    exact hmoved.enter (h.above next (by simp [habove])) _
  · exact h

theorem moveDown : e.moveDown.Unbroken := by
  have hline := h.current
  unfold Editor.moveDown
  split
  · rename_i next below hbelow
    have hmoved : Unbroken { e with above := e.line :: e.above, below } :=
      ⟨by simpa [hline] using h.above, h.left, h.right,
        fun other hm => h.below other (by simp [hbelow, hm])⟩
    exact hmoved.enter (h.below next (by simp [hbelow])) _
  · exact h

theorem moveHome : e.moveHome.Unbroken := ⟨h.above, List.not_mem_nil, h.current, h.below⟩

theorem moveEnd : e.moveEnd.Unbroken where
  above := h.above
  left := by
    rw [Editor.moveEnd, List.mem_reverse]
    exact h.current
  right := List.not_mem_nil
  below := h.below

/-- Each action does to the editor what it does to its flat text, and leaves the lines whole. -/
theorem update {action : Action} (hfeed : action ≠ .editorInput '\n') :
    (e.update action).flat = e.flat.update action ∧ (e.update action).Unbroken := by
  cases action with
  | editorInput c =>
    have hc : c ≠ '\n' := fun hc => hfeed (by rw [hc])
    exact ⟨insert_flat e c, h.insert hc⟩
  | editorPaste text => exact ⟨paste_flat e text, h.paste text⟩
  | editorNewline => exact ⟨newline_flat e, h.newline⟩
  | editorBackspace => exact ⟨backspace_flat e, h.backspace⟩
  | editorDelete => exact ⟨delete_flat e, h.delete⟩
  | cursorLeft => exact ⟨moveLeft_flat e, h.moveLeft⟩
  | cursorRight => exact ⟨moveRight_flat e, h.moveRight⟩
  | cursorUp => exact ⟨h.moveUp_flat, h.moveUp⟩
  | cursorDown => exact ⟨h.moveDown_flat, h.moveDown⟩
  | cursorHome => exact ⟨h.moveHome_flat, h.moveHome⟩
  | cursorEnd => exact ⟨h.moveEnd_flat, h.moveEnd⟩
  | _ => exact ⟨rfl, h⟩

theorem run_flat {actions : List Action} (hfeed : .editorInput '\n' ∉ actions) :
    (e.run actions).flat = e.flat.run actions := by
  induction actions generalizing e with
  | nil => rfl
  | cons action rest ih =>
    have hhead : action ≠ .editorInput '\n' := fun he => hfeed (by simp [he])
    obtain ⟨hflat, hunbroken⟩ := h.update hhead
    have hrest := ih hunbroken fun hm => hfeed (List.mem_cons_of_mem _ hm)
    rwa [hflat] at hrest

end Unbroken

/-! ### From a text on -/

theorem not_mem_splitLines (cs : List Char) : ∀ line ∈ Text.splitLines cs, '\n' ∉ line := by
  induction cs with
  | nil => simp [Text.splitLines]
  | cons c cs ih =>
    rw [Text.splitLines, List.splitOn_cons_eq_if_modifyHead, ← Text.splitLines]
    by_cases hfeed : c = '\n'
    · simpa [hfeed] using ih
    · obtain ⟨line, lines, hlines⟩ := List.exists_cons_of_ne_nil (List.splitOn_ne_nil '\n' cs)
      rw [Text.splitLines, hlines] at ih ⊢
      simpa [hfeed, Ne.symm hfeed] using ih

theorem lines_ofText (text : String) : (ofText text).lines = Text.splitLines text.toList := by
  unfold ofText
  split
  · rename_i hnil
    exact absurd (List.reverse_eq_nil_iff.1 hnil) (List.splitOn_ne_nil _ _)
  · rename_i last above hlines
    rw [List.reverse_eq_cons_iff.1 hlines]
    simp [lines, line]

theorem text_ofText (text : String) : (ofText text).text = text := by
  rw [Editor.text, lines_ofText, Text.joinLines_splitLines, String.ofList_toList]

theorem right_ofText (text : String) : (ofText text).right = [] ∧ (ofText text).below = [] := by
  unfold ofText
  split <;> exact ⟨rfl, rfl⟩

theorem flat_ofText (text : String) : (ofText text).flat = FlatText.ofText text := by
  obtain ⟨hright, hbelow⟩ := right_ofText text
  have htext : (ofText text).flat.text = text.toList := by
    rw [← joinLines_lines, lines_ofText, Text.joinLines_splitLines]
  have hcursor : (ofText text).flat.cursor = (ofText text).flat.text.length := by
    simp [flat, between, after, hright, hbelow, begun]
  rw [FlatText.ofText, ← htext, ← hcursor]

theorem unbroken_of_lines (h : ∀ line ∈ e.lines, '\n' ∉ line) : e.Unbroken := by
  have hline : '\n' ∉ e.line := h _ (by simp [lines])
  refine ⟨fun other hm => h other (by simp [lines, hm]), fun hm => ?_, fun hm => ?_,
    fun other hm => h other (by simp [lines, hm])⟩
  · exact hline (by simp [line, hm])
  · exact hline (by simp [line, hm])

theorem unbroken_ofText (text : String) : (ofText text).Unbroken :=
  unbroken_of_lines (by rw [lines_ofText]; exact not_mem_splitLines _)

/-- From any text on and along any actions of which none types a line feed into a line: the storage
of lines never lacks a result and is that of the editor, whose text and place of the cursor are
those of the flat text after the same actions. A text that is put in is the text that is read. -/
theorem run_refines_flatText (initial : String) (actions : List Action)
    (hfeed : .editorInput '\n' ∉ actions) :
    let e := (ofText initial).run actions
    let reference := (FlatText.ofText initial).run actions
    (LineStore.ofText? initial).bind (·.run? actions) = some e.store ∧
    e.text = e.store.text ∧
    e.store.text = String.ofList reference.text ∧
    e.store.offset = reference.cursor ∧
    ∀ text, (ofText text).text = text := by
  intro e reference
  have hflat : e.flat = reference := by
    have hrun := (unbroken_ofText initial).run_flat hfeed
    rwa [flat_ofText] at hrun
  refine ⟨?_, rfl, ?_, ?_, text_ofText⟩
  · rw [ofText?_store, Option.bind_some, run?_store]
  · rw [← hflat]
    exact text_flat e
  · rw [← hflat, offset_flat]

/-- Up from a short line to a long one with letters of one, two and three bytes, down again, and a
removal at the start of the line that joins the two. -/
theorem joins_lines_of_wide_letters :
    .editorInput '\n' ∉ [Action.cursorUp, .cursorDown, .cursorHome, .editorBackspace] ∧
    let e := (ofText "naïve ✓\nok").run
      [.cursorUp, .cursorDown, .cursorHome, .editorBackspace]
    e.store.text = "naïve ✓ok" ∧ e.store.offset = 7 := by
  obtain ⟨-, -, htext, hoffset, -⟩ := run_refines_flatText "naïve ✓\nok"
    [.cursorUp, .cursorDown, .cursorHome, .editorBackspace] (by decide)
  refine ⟨by decide, ?_, ?_⟩
  · rw [htext]
    decide
  · rw [hoffset]
    decide

end Editor
end QueryDesk
