import QueryDesk.Proofs.EditorView

/-!
# Line feeds inside lines

The lines of an editor are drawn as the lines of its text, so the row of the cursor is the number of
a drawn line only if no line has a line feed in it. Pasted line feeds begin new lines, and joining
lines removes their ends, but a line feed that comes as a typed character is put into its line. Such
strays are counted here: how many there are is how far the drawn lines run ahead of the kept ones,
and no action but the typing of one makes them more.
-/
namespace QueryDesk

open Sql (highlight lineText map_lineText_highlight)

namespace FlatText

/-- The number of the line that the cursor is in. -/
def row (b : FlatText) : Nat := (b.text.take b.cursor).count '\n'

/-- The line that the cursor is in. -/
def line (b : FlatText) : List Char :=
  let start := lineStart b.text b.cursor
  (b.text.drop start).take (lineEnd b.text b.cursor - start)

end FlatText

namespace Editor

open FlatText (ended begun between lineStart lineEnd joinLines_around)

/-- The line feeds in some lines. -/
def feeds (lines : List (List Char)) : Nat := Number.total (lines.map (·.count '\n'))

/-- The line feeds that stand inside a line of the editor. -/
def strayFeeds (e : Editor) : Nat := feeds e.lines

/-- Those of them that stand before the cursor. -/
def strayBefore (e : Editor) : Nat := feeds e.above + e.left.count '\n'

variable {e : Editor} {action : Action} {lines : List (List Char)}

/-! ### Counting -/

theorem feeds_cons (line : List Char) (lines : List (List Char)) :
    feeds (line :: lines) = line.count '\n' + feeds lines := rfl

theorem feeds_append (front back : List (List Char)) :
    feeds (front ++ back) = feeds front + feeds back := by
  rw [feeds, List.map_append, Number.total_append]
  rfl

theorem feeds_reverse (lines : List (List Char)) : feeds lines.reverse = feeds lines := by
  induction lines with
  | nil => rfl
  | cons line lines ih =>
    rw [List.reverse_cons, feeds_append, ih, feeds_cons, Nat.add_comm]
    rfl

theorem feeds_eq_zero_iff : feeds lines = 0 ↔ ∀ line ∈ lines, '\n' ∉ line := by
  induction lines with
  | nil => simp [feeds, Number.total_nil]
  | cons line lines ih => simp [feeds_cons, ih, List.count_eq_zero]

theorem count_ended (lines : List (List Char)) :
    (ended lines).count '\n' = feeds lines + lines.length := by
  induction lines with
  | nil => rfl
  | cons line lines ih =>
    have hcons : ended (line :: lines) = line ++ ['\n'] ++ ended lines := by simp [ended]
    rw [hcons, List.count_append, List.count_append, ih, feeds_cons, List.count_singleton_self,
      List.length_cons]
    omega

theorem count_begun (lines : List (List Char)) :
    (begun lines).count '\n' = feeds lines + lines.length := by
  induction lines with
  | nil => rfl
  | cons line lines ih =>
    rw [FlatText.begun_cons, List.count_append, List.count_cons_self, ih, feeds_cons,
      List.length_cons]
    omega

theorem strayFeeds_eq (e : Editor) :
    e.strayFeeds = e.strayBefore + (e.right.count '\n' + feeds e.below) := by
  rw [strayFeeds, lines, feeds_append, feeds_reverse, feeds_cons, line, List.count_append,
    List.count_reverse, strayBefore]
  omega

/-- The kept lines before the cursor and the strays among them are the drawn lines before it. -/
theorem row_flat (e : Editor) : e.flat.row = e.row + e.strayBefore := by
  have hbefore : e.flat.text.take e.flat.cursor = e.before := List.take_left
  rw [FlatText.row, hbefore, before, List.count_append, count_ended, List.count_reverse,
    feeds_reverse, List.length_reverse, strayBefore, row]
  omega

theorem count_flat (e : Editor) : e.flat.text.count '\n' + 1 = e.lines.length + e.strayFeeds := by
  have hafter : e.after.count '\n' = e.right.count '\n' + (feeds e.below + e.below.length) := by
    rw [after, List.count_append, count_begun]
  have hlines : e.lines.length = e.row + (e.below.length + 1) := by
    rw [lines, List.length_append, List.length_reverse, List.length_cons, row]
  have hbefore : e.before.count '\n' = e.row + e.strayBefore := by
    rw [← row_flat, FlatText.row]
    exact congrArg (List.count '\n') List.take_left.symm
  have htext : e.flat.text.count '\n' = e.before.count '\n' + e.after.count '\n' :=
    List.count_append
  rw [htext, hbefore, hafter, hlines, strayFeeds_eq]
  omega

theorem unbroken_iff : e.Unbroken ↔ e.strayFeeds = 0 := by
  rw [strayFeeds, feeds_eq_zero_iff]
  refine ⟨fun h => ?_, unbroken_of_lines⟩
  have hline : '\n' ∉ e.line := h.current
  simpa [lines, hline, or_imp, forall_and] using ⟨h.above, h.below⟩

/-! ### Actions that change the text -/

theorem strayFeeds_insert (e : Editor) (c : Char) :
    (e.insert c).strayFeeds = e.strayFeeds + [c].count '\n' := by
  simp only [strayFeeds_eq, strayBefore, insert, List.count_cons, List.count_nil]
  omega

theorem strayFeeds_newline (e : Editor) : e.newline.strayFeeds = e.strayFeeds := by
  simp only [strayFeeds_eq, strayBefore, newline, feeds_cons, List.count_reverse, List.count_nil]
  omega

/-- Pasted line feeds begin lines of their own. -/
theorem strayFeeds_paste (e : Editor) (text : String) :
    (e.paste text).strayFeeds = e.strayFeeds := by
  unfold paste
  generalize text.toList = cs
  induction cs generalizing e with
  | nil => rfl
  | cons c cs ih =>
    rw [List.foldl_cons, ih]
    split
    · exact strayFeeds_newline e
    · split
      -- A carriage return is left out.
      · rfl
      · rename_i hfeed _
        rw [strayFeeds_insert, List.count_singleton, if_neg (by simpa using hfeed), Nat.add_zero]

theorem strayFeeds_backspace_le (e : Editor) : e.backspace.strayFeeds ≤ e.strayFeeds := by
  cases hleft : e.left with
  | cons c left =>
    simp only [backspace, strayFeeds_eq, strayBefore, hleft, List.count_cons]
    omega
  | nil =>
    cases habove : e.above with
    | cons line above =>
      simp only [backspace, strayFeeds_eq, strayBefore, hleft, habove, feeds_cons,
        List.count_reverse, List.count_nil]
      omega
    | nil => simp only [backspace, hleft, habove, Nat.le_refl]

theorem strayFeeds_delete_le (e : Editor) : e.delete.strayFeeds ≤ e.strayFeeds := by
  cases hright : e.right with
  | cons c right =>
    simp only [delete, strayFeeds_eq, strayBefore, hright, List.count_cons]
    omega
  | nil =>
    cases hbelow : e.below with
    | cons line below =>
      simp only [delete, strayFeeds_eq, strayBefore, hright, hbelow, feeds_cons, List.count_nil]
      omega
    | nil => simp only [delete, hright, hbelow, Nat.le_refl]

/-! ### Movements leave the lines as they are -/

theorem lines_moveLeft (e : Editor) : e.moveLeft.lines = e.lines := by
  unfold moveLeft
  split <;> simp [lines, line, *]

theorem lines_moveRight (e : Editor) : e.moveRight.lines = e.lines := by
  unfold moveRight
  split <;> simp [lines, line, *]

theorem lines_enter (e : Editor) (line : List Char) (column : Nat) :
    (e.enter line column).lines = e.above.reverse ++ line :: e.below := by
  simp [enter, lines, Editor.line]

theorem lines_moveUp (e : Editor) : e.moveUp.lines = e.lines := by
  unfold moveUp
  split
  · rename_i habove
    rw [lines_enter, lines_above habove]
  · rfl

theorem lines_moveDown (e : Editor) : e.moveDown.lines = e.lines := by
  unfold moveDown
  split
  · rename_i hbelow
    rw [lines_enter, lines, hbelow, List.reverse_cons, List.append_assoc]
    rfl
  · rfl

theorem lines_moveHome (e : Editor) : e.moveHome.lines = e.lines := by
  simp [moveHome, lines, line]

theorem lines_moveEnd (e : Editor) : e.moveEnd.lines = e.lines := by
  simp [moveEnd, lines, line]

/-! ### Any actions -/

/-- Only a typed line feed comes to stand inside a line. -/
theorem strayFeeds_update_le (e : Editor) (action : Action) :
    (e.update action).strayFeeds ≤ e.strayFeeds + [action].count (.editorInput '\n') := by
  cases action with
  | editorInput c =>
    refine Nat.le_of_eq ((strayFeeds_insert e c).trans ?_)
    rw [List.count_singleton, List.count_singleton]
    simp
  | editorPaste text => exact Nat.le_of_eq (strayFeeds_paste e text)
  | editorNewline => exact Nat.le_of_eq (strayFeeds_newline e)
  | editorBackspace => exact strayFeeds_backspace_le e
  | editorDelete => exact strayFeeds_delete_le e
  | cursorLeft => exact Nat.le_of_eq (congrArg feeds (lines_moveLeft e))
  | cursorRight => exact Nat.le_of_eq (congrArg feeds (lines_moveRight e))
  | cursorUp => exact Nat.le_of_eq (congrArg feeds (lines_moveUp e))
  | cursorDown => exact Nat.le_of_eq (congrArg feeds (lines_moveDown e))
  | cursorHome => exact Nat.le_of_eq (congrArg feeds (lines_moveHome e))
  | cursorEnd => exact Nat.le_of_eq (congrArg feeds (lines_moveEnd e))
  | _ => exact Nat.le_refl _

theorem strayFeeds_run_le (e : Editor) (actions : List Action) :
    (e.run actions).strayFeeds ≤ e.strayFeeds + actions.count (.editorInput '\n') := by
  induction actions generalizing e with
  | nil => exact Nat.le_refl _
  | cons action rest ih =>
    have hfirst := strayFeeds_update_le e action
    have hrest := ih (e.update action)
    rw [← List.singleton_append, List.count_append]
    show ((e.update action).run rest).strayFeeds ≤ _
    omega

theorem strayFeeds_ofText (text : String) : (ofText text).strayFeeds = 0 :=
  unbroken_iff.1 (unbroken_ofText text)

/-! ### The lines that are drawn -/

/-- Of the editors with the same text and the cursor in the same place one has no strays. -/
theorem exists_unbroken (e : Editor) : ∃ whole : Editor, whole.Unbroken ∧ whole.flat = e.flat := by
  obtain ⟨front, last, hbefore⟩ : ∃ front last, Text.splitLines e.before = front ++ [last] :=
    ⟨_, _, (List.dropLast_concat_getLast (List.splitOn_ne_nil '\n' e.before)).symm⟩
  obtain ⟨first, back, hafter⟩ : ∃ first back, Text.splitLines e.after = first :: back :=
    List.exists_cons_of_ne_nil (List.splitOn_ne_nil '\n' e.after)
  have hfront := not_mem_splitLines e.before
  have hback := not_mem_splitLines e.after
  rw [hbefore] at hfront
  rw [hafter] at hback
  -- The text is split anew on either side of the cursor, whose line is the last piece before it and
  -- the first after it.
  refine ⟨{ above := front.reverse, left := last.reverse, right := first, below := back },
    ⟨?_, ?_, ?_, ?_⟩, ?_⟩
  · exact fun line hline => hfront line (List.mem_append_left _ (List.mem_reverse.1 hline))
  · simpa using hfront last (by simp)
  · exact hback first List.mem_cons_self
  · exact fun line hline => hback line (List.mem_cons_of_mem _ hline)
  · have hbeforeSame : ended front ++ last = e.before := by
      rw [← Text.joinLines_splitLines e.before, hbefore, joinLines_around]
      simp [begun]
    have hafterSame : first ++ begun back = e.after := by
      rw [← Text.joinLines_splitLines e.after, hafter]
      simpa [ended] using (joinLines_around [] first back).symm
    rw [flat, flat, ← hbeforeSame, ← hafterSame]
    simp [before, after]

/-- Without strays the cursor's line is the one of the text. -/
theorem Unbroken.line_flat (h : e.Unbroken) : e.flat.line = e.line := by
  have htext : e.flat.text = ended e.above.reverse ++ (e.line ++ begun e.below) := by
    simp [flat, between, before, after, line]
  have hlength : lineEnd e.flat.text e.flat.cursor - lineStart e.flat.text e.flat.cursor =
      e.line.length := by
    rw [h.lineEnd_flat, h.lineStart_flat, before, line, List.length_append, List.length_append]
    omega
  rw [FlatText.line, hlength, h.lineStart_flat, htext, List.drop_left, List.take_left]

/-- The drawn lines are those of the editor that has the same text and no strays. -/
theorem map_lineText_of_flat {whole : Editor} (h : whole.Unbroken) (hflat : whole.flat = e.flat) :
    (highlight e.text).map lineText = whole.lines := by
  rw [← h.map_lineText, text_flat, text_flat, hflat]

/-- From any text on and along any actions: the lines are those of the text just if no line feed
stands inside a line. As many as there are make that many drawn lines more than there are lines,
and the drawn line that the cursor is in comes as many behind the cursor's row as stand before the
cursor. There are at most as many as have been typed, none of them pasted; typing one more makes one
more. -/
theorem lines_of_text_iff (initial : String) (actions : List Action) :
    let e := (ofText initial).run actions
    let drawn := highlight e.text
    (e.lines = e.text.toList.splitOn '\n' ↔ e.strayFeeds = 0) ∧
      drawn.length = e.lines.length + e.strayFeeds ∧
      drawn[e.flat.row]?.map lineText = some e.flat.line ∧
      e.flat.row = e.row + e.strayBefore ∧ e.strayBefore ≤ e.strayFeeds ∧
      e.strayFeeds ≤ actions.count (.editorInput '\n') ∧
      (e.update (.editorInput '\n')).strayFeeds = e.strayFeeds + 1 := by
  intro e drawn
  obtain ⟨whole, hwhole, hflat⟩ := e.exists_unbroken
  have hdrawn : drawn.map lineText = whole.lines := map_lineText_of_flat hwhole hflat
  have hnone : whole.strayFeeds = 0 := unbroken_iff.1 hwhole
  have hbefore : e.strayBefore ≤ e.strayFeeds := by
    rw [strayFeeds_eq]
    exact Nat.le_add_right _ _
  refine ⟨⟨fun hlines => ?_, fun hstrays => ?_⟩, ?_, ?_, e.row_flat, hbefore, ?_, ?_⟩
  · rw [← map_lineText_highlight, hdrawn] at hlines
    rw [strayFeeds, hlines]
    exact hnone
  · rw [← map_lineText_highlight]
    exact (unbroken_iff.2 hstrays).map_lineText.symm
  · have hcount := e.count_flat
    rw [← hflat, whole.count_flat, hnone] at hcount
    rw [← List.length_map lineText, hdrawn, ← hcount, Nat.add_zero]
  · have hrow := whole.row_flat
    have hfront : whole.strayBefore = 0 := by
      rw [strayFeeds_eq] at hnone
      omega
    rw [hfront, Nat.add_zero, hflat] at hrow
    rw [← List.getElem?_map, hdrawn, hrow, whole.lines_row, ← hwhole.line_flat, hflat]
  · have hrun := strayFeeds_run_le (ofText initial) actions
    rwa [strayFeeds_ofText, Nat.zero_add] at hrun
  · exact e.strayFeeds_insert '\n'

/-- A line feed that is typed as a character stays in its line: the text has two lines and two are
drawn, the cursor is in the second, and the editor keeps one line and the cursor in its row. -/
theorem typed_feed_stays_in_line :
    let e := (ofText "ab").run [.editorInput '\n', .editorInput 'c']
    e.lines = ["ab\nc".toList] ∧ e.text.toList.splitOn '\n' = ["ab".toList, "c".toList] ∧
      e.lines ≠ e.text.toList.splitOn '\n' ∧ (highlight e.text).length = 2 ∧
      e.row = 0 ∧ e.flat.row = 1 := by
  decide +kernel

end Editor
end QueryDesk
