import Mathlib.Data.List.Chain
import QueryDesk.Proofs.EditorView

/-!
# The cursor behind the drawn text

The cursor is placed by the width of the text before it as a whole, and a line is drawn glyph by
glyph, each as wide as it is on its own. The two agree on a text whose glyphs stand apart from each
other. Where a glyph joins with the one before it (the letters of a ligature, or an emoji sequence
that is cut by the end of a span) the text as a whole is counted otherwise than its glyphs.
-/
namespace QueryDesk.Screen

open Text (Apart Measure apart_flatten clusters flatten_clusters width_append)
open Sql (Tidy lineText)

variable {line : Line} {row : List Inked} {glyph : Inked}

/-- The characters of a row of glyphs, glyph by glyph. -/
def texts (row : List Inked) : List (List Char) := row.map (·.1.symbol.toList)

/-- The columns that a row uses for its first characters. A glyph that is divided there counts as
wide as its characters up to there. -/
def columnsTo : Nat → List Inked → Nat
  | _, [] => 0
  | count, glyph :: rest =>
      let cs := glyph.1.symbol.toList
      (if cs.length ≤ count then glyph.1.width else Text.width Measure.cell (cs.take count)) +
        columnsTo (count - cs.length) rest

/-- Glyphs that are as wide as their characters, with at least one character each. -/
def Measured (row : List Inked) : Prop := ∀ glyph ∈ row,
  glyph.1.width = Text.width Measure.cell glyph.1.symbol.toList ∧ glyph.1.symbol.toList ≠ []

/-! ### The glyphs of a line -/

theorem ne_nil_of_mem_clusters (cs : List Char) : ∀ cluster ∈ clusters cs, cluster ≠ [] := by
  fun_induction clusters cs with
  | case1 => simp
  | case2 c rest ih => exact List.forall_mem_cons.2 ⟨List.cons_ne_nil _ _, ih⟩

/-- In a span without a line feed each cluster is a glyph. -/
theorem glyphs_of_no_feed {span : Span} (h : '\n' ∉ span.text.toList) :
    span.glyphs = glyphs span.text := by
  refine List.filter_eq_self.2 ?_
  simp only [glyphs, List.forall_mem_map, bne_iff_ne, ne_eq]
  intro cluster hcluster hfeed
  have htext : cluster = ['\n'] := by rw [← String.toList_ofList (l := cluster), hfeed]; rfl
  refine h ?_
  rw [← flatten_clusters span.text.toList]
  exact List.mem_flatten_of_mem hcluster (by simp [htext])

/-- The glyphs of a line join to its text. -/
theorem flatten_texts (h : Tidy line) : (texts line.inked).flatten = lineText line := by
  induction line with
  | nil => rfl
  | cons span line ih =>
    obtain ⟨hspan, hline⟩ := List.forall_mem_cons.1 h
    have htext : (texts (Line.inked [span])).flatten = span.text.toList := by
      simp [texts, Line.inked, glyphs_of_no_feed hspan.2, glyphs, Function.comp_def,
        flatten_clusters]
    have hinked : Line.inked (span :: line) = Line.inked [span] ++ Line.inked line := by
      simp [Line.inked]
    rw [hinked, texts, List.map_append, List.flatten_append, ← texts, ← texts, htext, ih hline]
    simp [lineText]

theorem measured_inked (line : Line) : Measured line.inked := by
  intro glyph h
  simp only [Line.inked, Span.glyphs, glyphs, List.mem_flatMap, List.mem_map, List.mem_filter] at h
  obtain ⟨span, -, _, ⟨⟨cluster, hcluster, rfl⟩, -⟩, rfl⟩ := h
  simp [ne_nil_of_mem_clusters _ _ hcluster]

/-- Where the glyphs of a row stand apart from each other, it uses as many columns for its first
characters as they have together. -/
theorem columnsTo_eq (hrow : Measured row) (hapart : (texts row).IsChain Apart) (count : Nat) :
    columnsTo count row = Text.width Measure.cell ((texts row).flatten.take count) := by
  induction row generalizing count with
  | nil => simp [texts, columnsTo, Text.width_nil]
  | cons glyph row ih =>
    obtain ⟨⟨hwidth, -⟩, hrest⟩ := List.forall_mem_cons.1 hrow
    have hbehind : Apart glyph.1.symbol.toList (texts row).flatten :=
      apart_flatten hapart (List.forall_mem_map.2 fun other hother => (hrest other hother).2)
    have htake : (texts (glyph :: row)).flatten.take count =
        glyph.1.symbol.toList.take count ++
          (texts row).flatten.take (count - glyph.1.symbol.toList.length) := List.take_append
    rw [columnsTo, ih hrest hapart.tail, htake]
    by_cases hbefore : glyph.1.symbol.toList.length ≤ count
    · rw [List.take_of_length_le hbefore, if_pos hbefore, hwidth,
        width_append (hbehind.of_prefix (List.take_prefix ..))]
    · have hend : count - glyph.1.symbol.toList.length = 0 := by omega
      rw [hend, if_neg hbefore, List.take_zero, List.append_nil, Text.width_nil, Nat.add_zero]

theorem columnsTo_zero (h : Measured row) : columnsTo 0 row = 0 := by
  induction row with
  | nil => rfl
  | cons glyph row ih =>
    obtain ⟨⟨-, hsome⟩, hrest⟩ := List.forall_mem_cons.1 h
    have hlength : ¬glyph.1.symbol.toList.length ≤ 0 := by simpa using hsome
    rw [columnsTo, if_neg hlength, Nat.zero_sub, ih hrest, List.take_zero, Text.width_nil]

theorem columnsTo_append {front back : List Inked} (h : Measured back) :
    columnsTo (texts front).flatten.length (front ++ back) = inkedWidth front := by
  induction front with
  | nil => exact columnsTo_zero h
  | cons glyph front ih =>
    have hlength : (texts (glyph :: front)).flatten.length =
        glyph.1.symbol.toList.length + (texts front).flatten.length := List.length_append
    rw [hlength, List.cons_append, columnsTo, if_pos (Nat.le_add_right ..), Nat.add_sub_cancel_left,
      ih]
    rfl

/-- A line uses all columns of the glyphs in front for their characters. -/
theorem columnsTo_front {front back : List Inked} (h : line.inked = front ++ back) :
    columnsTo (texts front).flatten.length line.inked = inkedWidth front := by
  have hmeasured := measured_inked line
  rw [h] at hmeasured ⊢
  exact columnsTo_append fun glyph hglyph => hmeasured glyph (List.mem_append_right _ hglyph)

end QueryDesk.Screen

namespace QueryDesk.Editor

open Screen (Cell columnsTo columnsTo_eq columnsTo_front flatten_texts inkedWidth measured_inked
  texts)
open Sql (highlight lineText)
open Text (Apart)

/-- If no line feed was typed into a line, and the number of the line after the view is a word: in a
line that fits into the view each glyph stands behind the columns that the line uses for the
characters before it, and the cursor, if it is inside the border, behind the columns of the text
before it. These are as many in cells as in a line. Where the glyphs of the line stand apart from
each other, the line uses just these columns for the characters before the cursor, so the cursor
stands right behind the drawn text. -/
theorem cursor_behind_text (initial : String) (all : List EditorStep) (s : Screen) (area : Rect)
    (hheight : 2 < area.height) (hright : area.x + area.width ≤ maxCoordinate)
    (hbottom : area.y + area.height ≤ maxCoordinate) (hfeed : .act (.editorInput '\n') ∉ all) :
    let e := (ofText initial).steps all
    let framed := panel.draw s area
    let scroll := (e.draw s area).1.scroll
    let screen := (e.draw s area).2.1
    let cursor := (e.draw s area).2.2
    let room := area.width - 2
    let columns := Text.width .line e.left.reverse
    let y := area.y + 1 + (e.row - scroll)
    scroll + (area.height - 2) ≤ maxCoordinate →
    ∃ line, (highlight e.text)[e.row]? = some line ∧ lineText line = e.line ∧
      (inkedWidth line.inked ≤ room →
        (∀ front glyph back, line.inked = front ++ glyph :: back → glyph.1.width ≠ 0 →
          let x := area.x + 1 + columnsTo (texts front).flatten.length line.inked
          screen.cell? x y = (framed.cell? x y).map (Cell.inked (some glyph))) ∧
        (columns < room → cursor = some (area.x + 1 + columns, y))) ∧
      columns = Text.width .cell e.left.reverse ∧
      ((texts line.inked).IsChain Apart → columnsTo e.column line.inked = columns) := by
  intro e framed scroll screen cursor room columns y hword
  have hunbroken : e.Unbroken := (unbroken_ofText initial).steps hfeed
  obtain ⟨line, hline, htext, hshows⟩ := hunbroken.draw_shows_line s hheight hright hbottom hword
  have hflat : (texts line.inked).flatten = e.line :=
    (flatten_texts (Sql.tidy_tokenLines _ _ (List.mem_of_getElem? hline))).trans htext
  have hcolumns : columns = Text.width .cell e.left.reverse :=
    Text.width_line (List.mem_reverse.not.2 hunbroken.left)
  refine ⟨line, hline, htext, fun hfits => ⟨?_, fun hroom => ?_⟩, hcolumns, fun hapart => ?_⟩
  · intro front glyph back hinked hwidth x
    have hx : x = area.x + 1 + inkedWidth front := congrArg _ (columnsTo_front hinked)
    rw [hx]
    exact hshows.at_glyph hfits hinked hwidth
  · have hplaced := (e.draw_cursor_iff s hheight hright).2 (.inl hroom)
    rwa [if_pos hroom] at hplaced
  · rw [columnsTo_eq (measured_inked line) hapart, hflat, hcolumns, column, Editor.line,
      List.take_left' (by simp)]

/-- Behind wide characters and a mark that has no column of its own, in one glyph with a letter. -/
theorem cursor_behind_marked_letter :
    let all := [EditorStep.act (.editorPaste "e\u0301")]
    let area : Rect := ⟨0, 0, 20, 3⟩
    let e := (ofText "-- 日").steps all
    let line : Screen.Line := [⟨"-- 日e\u0301", .ink .darkGray⟩]
    2 < area.height ∧ area.x + area.width ≤ maxCoordinate ∧
    area.y + area.height ≤ maxCoordinate ∧ .act (.editorInput '\n') ∉ all ∧
    (highlight e.text)[e.row]? = some line ∧ columnsTo e.column line.inked = 6 ∧
    (e.draw (Screen.blank 20 3) area).2.2 = some (7, 1) := by
  intro all area e line
  obtain ⟨shown, hshown, -, hcursor, -, hapart⟩ := cursor_behind_text "-- 日" all
    (Screen.blank 20 3) area (by decide) (by decide) (by decide) (by decide) (by decide)
  have hline : (highlight e.text)[e.row]? = some line := by decide +kernel
  obtain rfl : shown = line := Option.some.inj (hshown.symm.trans hline)
  have hcolumns : Text.width .line e.left.reverse = 6 := by decide +kernel
  have hplaced := (hcursor (by decide +kernel)).2 (by decide +kernel)
  exact ⟨by decide, by decide, by decide, by decide, hline,
    (hapart (by decide +kernel)).trans hcolumns, hplaced.trans (by decide +kernel)⟩

/-- The two letters of a pasted ligature are drawn into a cell each, but the cursor leaves one
column for them together. -/
theorem ligature_moves_cursor :
    let area : Rect := ⟨0, 0, 10, 3⟩
    let e := (ofText "").steps [.act (.editorPaste "\u0644\u0627")]
    let line : Screen.Line := [⟨"\u0644\u0627", .ink .white⟩]
    (highlight e.text)[e.row]? = some line ∧ inkedWidth line.inked ≤ area.width - 2 ∧
    columnsTo e.column line.inked = 2 ∧ (e.draw (Screen.blank 10 3) area).2.2 = some (2, 1) := by
  decide +kernel

end QueryDesk.Editor
