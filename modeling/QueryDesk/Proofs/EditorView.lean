import QueryDesk.Proofs.DrawnRows
import QueryDesk.Proofs.StyledText
import QueryDesk.Proofs.WidthSums

/-!
# The view of the editor

To be drawn, the editor scrolls just far enough for its cursor's line to be in view. From the first
line in view on a line is drawn in each row, and the cursor is placed behind the columns of the text
before it, if that is inside the border. Lines and columns have no bound, but a screen has words of
16 bits for them: the cursor stands in place, and in the row of its line, as long as the numbers are
words, and what becomes of them beyond is said here as well.
-/
namespace QueryDesk

open Screen (RowShows rowShows_inside drawLines_of_overflow)
open Sql (highlight lineText map_lineText_highlight)

/-- What happens to an editor: actions, and drawing it, which scrolls it. -/
inductive EditorStep where
  | act (action : Action)
  | draw (s : Screen) (area : Rect)
  deriving DecidableEq

namespace Editor

def step (e : Editor) : EditorStep → Editor
  | .act action => e.update action
  | .draw s area => (e.draw s area).1

def steps (e : Editor) (all : List EditorStep) : Editor := all.foldl step e

variable {e : Editor} {area : Rect} {height : Nat} {all : List EditorStep}

/-! ### The lines in view -/

/-- Scrolling is all that drawing does to the editor. -/
theorem scrolledTo_eq (e : Editor) (height : Nat) :
    e.scrolledTo height = { e with scroll := (e.scrolledTo height).scroll } := by
  unfold scrolledTo
  split
  · rfl
  · split
    · rfl
    · split <;> rfl

theorem draw_eq (e : Editor) (s : Screen) (area : Rect) :
    let scrolled := e.scrolledTo (area.height - 2)
    e.draw s area = (scrolled, (panel.draw s area).drawLines (Screen.Panel.inside area)
      (highlight e.text) (scrolled.scroll % 65536), scrolled.cursor? area) := by
  intro scrolled
  have htext : scrolled.text = e.text := by
    rw [show scrolled = { e with scroll := scrolled.scroll } from scrolledTo_eq ..]
    rfl
  rw [draw, htext]

/-- The editor scrolls to its cursor, and not at all if the cursor is in view. -/
theorem scrolledTo_in_view (e : Editor) (hheight : 0 < height) :
    let scroll := (e.scrolledTo height).scroll
    scroll ≤ e.row ∧ e.row < scroll + height ∧
      (e.scroll ≤ e.row → e.row < e.scroll + height → scroll = e.scroll) := by
  intro scroll
  have hscroll : scroll = (e.scrolledTo height).scroll := rfl
  rw [hscroll, scrolledTo, if_neg (by omega)]
  split
  · dsimp only
    omega
  · split
    · dsimp only
      omega
    · omega

theorem draw_in_view (e : Editor) (s : Screen) (hheight : 2 < area.height) :
    let scroll := (e.draw s area).1.scroll
    let rows := area.height - 2
    scroll ≤ e.row ∧ e.row < scroll + rows ∧
      (e.scroll ≤ e.row → e.row < e.scroll + rows → scroll = e.scroll) :=
  e.scrolledTo_in_view (Nat.sub_pos_of_lt hheight)

theorem Unbroken.scrolledTo (h : e.Unbroken) (height : Nat) : (e.scrolledTo height).Unbroken := by
  rw [scrolledTo_eq]
  exact ⟨h.above, h.left, h.right, h.below⟩

theorem Unbroken.steps (h : e.Unbroken) (hfeed : .act (.editorInput '\n') ∉ all) :
    (e.steps all).Unbroken := by
  induction all generalizing e with
  | nil => exact h
  | cons first rest ih =>
    refine ih ?_ fun hm => hfeed (List.mem_cons_of_mem _ hm)
    cases first with
    | act action =>
      exact (h.update fun haction => hfeed (by rw [haction]; exact List.mem_cons_self)).2
    | draw s area => exact h.scrolledTo _

/-- The highlighted lines have the text of the lines of the editor. -/
theorem Unbroken.map_lineText (h : e.Unbroken) : (highlight e.text).map lineText = e.lines := by
  have hline : '\n' ∉ e.line := h.current
  have hwhole : ∀ line ∈ e.lines, '\n' ∉ line := by
    simpa [Editor.lines, hline, or_imp, forall_and] using ⟨h.above, h.below⟩
  rw [map_lineText_highlight, text, String.toList_ofList, Text.joinLines,
    List.splitOn_intercalate '\n' hwhole (by simp [Editor.lines])]

/-- A line above the cursor's or the cursor's own, as it is highlighted. -/
theorem Unbroken.exists_line (h : e.Unbroken) {number : Nat} (hrow : number ≤ e.row) :
    ∃ line, (highlight e.text)[number]? = some line ∧
      e.lines[number]? = some (lineText line) := by
  have hnumber : number < e.lines.length :=
    Nat.lt_of_le_of_lt hrow (List.getElem?_eq_some_iff.1 e.lines_row).1
  rw [← h.map_lineText, List.length_map] at hnumber
  refine ⟨(highlight e.text)[number], List.getElem?_eq_getElem hnumber, ?_⟩
  rw [← h.map_lineText, List.getElem?_map, List.getElem?_eq_getElem hnumber]
  rfl

/-! ### The place of the cursor -/

/-- The cursor is placed behind the text before it if that is narrower than the room, and not
otherwise, unless the number of its column begins again at zero on the way. -/
theorem draw_cursor_iff (e : Editor) (s : Screen) (hheight : 2 < area.height)
    (hright : area.x + area.width ≤ maxCoordinate) :
    let room := area.width - 2
    let columns := Text.width .line e.left.reverse
    let y := area.y + 1 + (e.row - (e.draw s area).1.scroll)
    (e.draw s area).2.2 = (if columns < room then some (area.x + 1 + columns, y) else none) ↔
      columns < room ∨ area.x + (area.width - 1) ≤ (area.x + 1 + columns) % 65536 := by
  intro room columns y
  have hcursor : (e.draw s area).2.2 =
      if (area.x + 1 + columns) % 65536 < area.x + (area.width - 1) then
        some ((area.x + 1 + columns) % 65536, y) else none := by
    have hrows : 0 < area.height - 2 := by omega
    simp only [y, draw_eq]
    rw [scrolledTo_eq]
    simp [cursor?, hrows, Nat.add_mod_mod, columns, row]
  rw [hcursor]
  unfold maxCoordinate at hright
  by_cases hroom : columns < room
  · have hplace : (area.x + 1 + columns) % 65536 = area.x + 1 + columns := by omega
    rw [hplace, if_pos hroom, if_pos (by omega)]
    simp [hroom]
  · simp [hroom]

/-! ### What is drawn -/

/-- In the row of its cursor an editor shows one of its lines. -/
theorem Unbroken.draw_shows (h : e.Unbroken) (s : Screen) (hheight : 2 < area.height)
    (hright : area.x + area.width ≤ maxCoordinate)
    (hbottom : area.y + area.height ≤ maxCoordinate) :
    let scroll := (e.draw s area).1.scroll
    let shown := scroll % 65536 + (e.row - scroll)
    scroll % 65536 + (area.height - 2) ≤ maxCoordinate →
    ∃ line, (highlight e.text)[shown]? = some line ∧ e.lines[shown]? = some (lineText line) ∧
      RowShows (panel.draw s area) (e.draw s area).2.1 (area.x + 1)
        (area.y + 1 + (e.row - scroll)) (area.width - 2) line := by
  intro scroll shown hword
  obtain ⟨hupper, hlower, -⟩ : scroll ≤ e.row ∧ e.row < scroll + (area.height - 2) ∧ _ :=
    e.draw_in_view s hheight
  obtain ⟨line, hline, htext⟩ := h.exists_line (show shown ≤ e.row by omega)
  refine ⟨line, hline, htext, ?_⟩
  rw [show (e.draw s area).2.1 = _ from congrArg (·.2.1) (e.draw_eq s area)]
  refine rowShows_inside _ ?_ (by omega) ?_ hright hbottom
  · exact hline
  · exact hword

/-- As long as the numbers of the lines in view are words, the row of the cursor shows its line. -/
theorem Unbroken.draw_shows_line (h : e.Unbroken) (s : Screen) (hheight : 2 < area.height)
    (hright : area.x + area.width ≤ maxCoordinate)
    (hbottom : area.y + area.height ≤ maxCoordinate) :
    let scroll := (e.draw s area).1.scroll
    scroll + (area.height - 2) ≤ maxCoordinate →
    ∃ line, (highlight e.text)[e.row]? = some line ∧ lineText line = e.line ∧
      RowShows (panel.draw s area) (e.draw s area).2.1 (area.x + 1)
        (area.y + 1 + (e.row - scroll)) (area.width - 2) line := by
  intro scroll hword
  obtain ⟨hupper, -⟩ : scroll ≤ e.row ∧ _ := e.draw_in_view s hheight
  have hmod : scroll % 65536 = scroll := by
    unfold maxCoordinate at hword
    omega
  obtain ⟨line, hline, htext, hshows⟩ :=
    h.draw_shows s hheight hright hbottom (by rw [hmod]; exact hword)
  rw [hmod, Nat.add_sub_cancel' hupper] at hline htext
  exact ⟨line, hline, Option.some.inj (htext.symm.trans e.lines_row), hshows⟩

/-- However an editor came to be where it is, in a view with at least one row and all coordinates in
words: drawing scrolls it so that the cursor's line is in view, and not at all if it was. The cursor
is placed behind the columns of the text before it just if that is narrower than the view, except
where the number of the column begins again at zero and comes to lie left of the border. If no line
feed was typed into a line, the row of the cursor shows one of the lines, which is the cursor's just
if the number of the first line in view is a word; but no line is shown if the number of the line
after the view is not one. -/
theorem cursor_in_view (initial : String) (all : List EditorStep) (s : Screen) (area : Rect)
    (hheight : 2 < area.height) (hright : area.x + area.width ≤ maxCoordinate)
    (hbottom : area.y + area.height ≤ maxCoordinate) :
    let e := (ofText initial).steps all
    let scroll := (e.draw s area).1.scroll
    let screen := (e.draw s area).2.1
    let cursor := (e.draw s area).2.2
    let rows := area.height - 2
    let room := area.width - 2
    let columns := Text.width .line e.left.reverse
    let y := area.y + 1 + (e.row - scroll)
    let shown := scroll % 65536 + (e.row - scroll)
    (scroll ≤ e.row ∧ e.row < scroll + rows ∧
      (e.scroll ≤ e.row → e.row < e.scroll + rows → scroll = e.scroll)) ∧
    (cursor = (if columns < room then some (area.x + 1 + columns, y) else none) ↔
      columns < room ∨ area.x + (area.width - 1) ≤ (area.x + 1 + columns) % 65536) ∧
    (.act (.editorInput '\n') ∉ all →
      if scroll % 65536 + rows ≤ maxCoordinate then
        ∃ line, (highlight e.text)[shown]? = some line ∧ e.lines[shown]? = some (lineText line) ∧
          RowShows (panel.draw s area) screen (area.x + 1) y room line
      else screen = panel.draw s area) ∧
    e.lines[e.row]? = some e.line ∧ (shown = e.row ↔ scroll ≤ maxCoordinate) := by
  intro e scroll screen cursor rows room columns y shown
  have hview : scroll ≤ e.row ∧ e.row < scroll + rows ∧ _ := e.draw_in_view s hheight
  refine ⟨hview, e.draw_cursor_iff s hheight hright, fun hfeed => ?_, e.lines_row, ?_⟩
  · split
    · rename_i hword
      exact ((unbroken_ofText initial).steps hfeed).draw_shows s hheight hright hbottom hword
    · rename_i hword
      simp only [screen, draw_eq]
      exact drawLines_of_overflow (Nat.lt_of_not_le hword)
  · unfold maxCoordinate
    omega

/-- In a view of one row the second line takes the place of the first. -/
theorem second_line_in_view :
    let area : Rect := ⟨0, 0, 20, 3⟩
    let e := (ofText "select 1\nfrom t").steps [.act .cursorHome, .act .cursorRight]
    let drawn := e.draw (Screen.blank 20 3) area
    2 < area.height ∧ area.x + area.width ≤ maxCoordinate ∧
    area.y + area.height ≤ maxCoordinate ∧
    drawn.1.scroll = 1 ∧ drawn.2.2 = some (2, 1) ∧
    ∃ line, lineText line = "from t".toList ∧
      RowShows (panel.draw (Screen.blank 20 3) area) drawn.2.1 1 1 18 line := by
  intro area e drawn
  obtain ⟨hview, hcursor, hshows, -⟩ := cursor_in_view "select 1\nfrom t"
    [.act .cursorHome, .act .cursorRight] (Screen.blank 20 3) ⟨0, 0, 20, 3⟩
    (by decide) (by decide) (by decide)
  have hrow : e.row = 1 := by decide
  have hscroll : drawn.1.scroll = 1 := by
    obtain ⟨hupper, hlower, -⟩ : drawn.1.scroll ≤ e.row ∧ e.row < drawn.1.scroll + 1 ∧ _ := hview
    omega
  refine ⟨by decide, by decide, by decide, hscroll, ?_, ?_⟩
  · have hcolumns : Text.width .line e.left.reverse = 1 := by decide
    have hplaced := hcursor.2 (.inl (Nat.lt_of_le_of_lt (Nat.le_of_eq hcolumns) (by decide)))
    exact hplaced.trans (by decide)
  · have hshown := hshows (by decide)
    rw [if_pos (by decide)] at hshown
    obtain ⟨line, -, htext, hline⟩ := hshown
    exact ⟨line, (Option.some.inj (htext.symm.trans (by decide))), hline⟩

/-- An editor with a text of one line. -/
theorem ofText_line {line : List Char} (h : '\n' ∉ line) :
    ofText (String.ofList line) = { left := line.reverse } := by
  rw [ofText, String.toList_ofList, Text.splitLines, List.splitOn_eq_singleton h]
  rfl

/-- The cursor behind a number of blanks. -/
theorem cursor_behind_blanks (count : Nat) (s : Screen) (hheight : 2 < area.height) :
    let e := ofText (String.ofList (List.replicate count ' '))
    let x := (area.x + 1 + count % 65536) % 65536
    Text.width .line e.left.reverse = count ∧
      (e.draw s area).2.2 =
        if x < area.x + (area.width - 1) then some (x, area.y + 1) else none := by
  intro e x
  have hfeed : '\n' ∉ List.replicate count ' ' := by simp
  have he : e = { left := (List.replicate count ' ').reverse } := ofText_line hfeed
  have hwidth : Text.width .line e.left.reverse = count := by
    rw [he, List.reverse_reverse, Text.width_of_parts, List.length_replicate]
    exact fun c hc => List.eq_of_mem_replicate hc ▸ Text.parts_blank
  have hrows : 0 < area.height - 2 := by omega
  have hrow : e.row = 0 ∧ e.scroll = 0 := by
    rw [he]
    exact ⟨rfl, rfl⟩
  have hstill : e.scrolledTo (area.height - 2) = e := by
    rw [scrolledTo, hrow.1, hrow.2, if_neg (by omega), if_neg (by omega), if_neg (by omega)]
  refine ⟨hwidth, ?_⟩
  rw [draw_eq, hstill, cursor?, hwidth, hrow.1]
  simp [hrows, x]

/-- Behind 65536 blanks, of which eight fit inside the border, the cursor shows in front of the
first. -/
theorem cursor_back_at_start :
    let e := ofText (String.ofList (List.replicate 65536 ' '))
    let area : Rect := ⟨0, 0, 10, 3⟩
    ¬Text.width .line e.left.reverse < area.width - 2 ∧
    (e.draw (Screen.blank 10 3) area).2.2 = some (1, 1) := by
  have hrows : 2 < (⟨0, 0, 10, 3⟩ : Rect).height := by decide
  obtain ⟨hwidth, hcursor⟩ := cursor_behind_blanks 65536 (Screen.blank 10 3) hrows
  have hplace : (0 + 1 + 65536 % 65536) % 65536 < 0 + (10 - 1) := by decide
  rw [if_pos hplace] at hcursor
  dsimp only
  exact ⟨by omega, hcursor⟩

end Editor
end QueryDesk
