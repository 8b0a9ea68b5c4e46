import Mathlib.Data.List.Forall2
import Mathlib.Order.Bounds.Basic
import QueryDesk.Proofs.FittedText
import QueryDesk.Proofs.StyledText

/-!
# The columns of a table

A line of a table is a cell and a bar for each column. As the bars begin and end with a blank, they
part the line, and a bar stands where the columns of the cells before it put it. So the bars of a
line are where the widths of the columns put them exactly if every cell takes the columns of its
width, and then they are there in all such lines. The rule has its crosses in the same places.
-/
namespace QueryDesk.Table

open QueryDesk.Number (total total_cons)
open QueryDesk.Screen (Style Span Line)
open QueryDesk.Sql (lineText)
open QueryDesk.Text (Parts charWidth parts_blank parts_mark)

variable {headers : List String} {rows : List (List String)} {cells : List String}
  {widths : List Nat} {text : String} {before after : List Char}

/-- The bar behind a cell. -/
def barSpan : Span := { text := " │ ", style := ruleStyle }

/-- Texts in one style, each with a bar behind it. -/
def barred (style : Style) (texts : List String) : Line :=
  texts.flatMap fun text => [{ text, style }, barSpan]

/-- The texts shown for the cells of a row in columns of some widths. -/
def shownCells (widths : List Nat) (cells : List String) : List String :=
  widths.zipIdx.map fun (width, i) => fit (cells[i]?.getD "") width

/-- The display columns of the bars of a line behind a text: every second span holds a bar, which
comes after a blank. -/
def barsAfter (before : List Char) : Line → List Nat
  | cell :: bar :: rest =>
      Text.width .line (before ++ cell.text.toList ++ [' ']) ::
        barsAfter (before ++ cell.text.toList ++ bar.text.toList) rest
  | _ => []

def bars (line : Line) : List Nat := barsAfter [] line

/-- The places of the bars behind cells of some widths of which the first begins at a column. -/
def barPlaces (start : Nat) : List Nat → List Nat
  | [] => []
  | width :: widths => (start + width + 1) :: barPlaces (start + width + 3) widths

/-- The display columns at which a character stands in a text behind another. -/
def columnsAfter (mark : Char) (before : List Char) : List Char → List Nat
  | [] => []
  | c :: rest =>
      if c = mark then Text.width .line before :: columnsAfter mark (before ++ [c]) rest
      else columnsAfter mark (before ++ [c]) rest

def columnsOf (mark : Char) (text : List Char) : List Nat := columnsAfter mark [] text

/-- A cell as it is shown in some columns: in full, or as a beginning with an ellipsis, and blanks
behind it. -/
inductive Shown (text : String) (columns : Nat) : String → Prop where
  | whole (blanks : Nat) (h : cellWidth text ≤ columns) :
      Shown text columns (text ++ spaces blanks)
  | cut (piece : List Char) (blanks : Nat) (h : columns < cellWidth text)
      (hpiece : piece <+: text.toList) :
      Shown text columns (String.ofList piece ++ "…" ++ spaces blanks)

/-- What the texts of a column ask for: one column at least, and those that each of them takes. -/
def columnNeeds (header : String) (rows : List (List String)) (i : Nat) : Set Nat :=
  {n | n = 1 ∨ n = cellWidth header ∨
    ∃ cells ∈ rows, ∃ cell, cells[i]? = some cell ∧ n = cellWidth cell}

/-- A line of a table with columns of some widths, for the cells of a row: a cell and a bar for each
column, blank where the row has no cell. The bars are where the widths put them exactly if no cell
is cut unevenly, and then the line has the columns of the widths and three for each bar. -/
structure ShowsRow (widths : List Nat) (cells : List String) (line : Line) : Prop where
  shown : ∃ style texts, line = barred style texts ∧ texts.length = widths.length ∧
    ∀ (i : Nat) width, widths[i]? = some width →
      ∃ text, texts[i]? = some text ∧ Shown (cells[i]?.getD "") width text
  bars_iff : bars line = barPlaces 0 widths ↔
    ∀ (i : Nat) width, widths[i]? = some width → CutsExactly (cells[i]?.getD "") width
  width : bars line = barPlaces 0 widths →
    Text.width .line (lineText line) = total (widths.map (· + 3))

/-! ### The cells -/

theorem shown_fit (text : String) (columns : Nat) : Shown text columns (fit text columns) := by
  by_cases h : cellWidth text ≤ columns
  · rw [fit_of_le h]
    exact .whole _ h
  · have hlt := Nat.lt_of_not_le h
    rw [fit_of_lt hlt]
    exact .cut _ _ hlt (cut_begins ..)

theorem row_eq_barred (widths : List Nat) (style : Style) (cells : List String) :
    row widths style cells = barred style (shownCells widths cells) := by
  simp only [row, barred, shownCells, List.flatMap_map]
  rfl

theorem length_shownCells : (shownCells widths cells).length = widths.length := by
  simp [shownCells]

theorem getElem?_shownCells (i : Nat) :
    (shownCells widths cells)[i]? =
      widths[i]?.map fun width => fit (cells[i]?.getD "") width := by
  simp [shownCells, Function.comp_def]

/-! ### The bars of a line -/

theorem lineText_barred_cons (style : Style) (text : String) (texts : List String) :
    lineText (barred style (text :: texts)) =
      text.toList ++ ' ' :: '│' :: ' ' :: lineText (barred style texts) := by
  simp [lineText, barred, barSpan]

/-- Bars part a text: cells and bars take the columns of the cells and three for each bar. -/
theorem width_cell_bar (text after : List Char) :
    Text.width .line (text ++ ' ' :: '│' :: ' ' :: after) =
      Text.width .line text + 3 + Text.width .line after := by
  rw [Text.width_append_parts parts_blank, Text.width_cons_parts (parts_mark (by decide)),
    Text.width_cons_parts parts_blank]
  omega

theorem width_barred (style : Style) (texts : List String) :
    Text.width .line (lineText (barred style texts)) =
      total ((texts.map cellWidth).map (· + 3)) := by
  induction texts with
  | nil => rfl
  | cons text texts ih =>
    rw [lineText_barred_cons, width_cell_bar, ih, List.map_cons, List.map_cons, total_cons]
    rfl

/-- The bars of a line are where the columns of its cells put them. -/
theorem barsAfter_barred (style : Style) (texts : List String)
    (h : ∀ after, Text.width .line (before ++ after) =
      Text.width .line before + Text.width .line after) :
    barsAfter before (barred style texts) =
      barPlaces (Text.width .line before) (texts.map cellWidth) := by
  induction texts generalizing before with
  | nil => rfl
  | cons text texts ih =>
    have hcell : Text.width .line (text.toList ++ [' ']) = cellWidth text + 1 :=
      Text.width_append_parts parts_blank ..
    have hbar (after : List Char) :
        Text.width .line (before ++ text.toList ++ barSpan.text.toList ++ after) =
          Text.width .line before + cellWidth text + 3 + Text.width .line after := by
      have hafter := width_cell_bar text.toList after
      rw [List.append_assoc, List.append_assoc, h]
      change _ + Text.width .line (text.toList ++ ' ' :: '│' :: ' ' :: after) = _
      rw [hafter]
      show _ = Text.width .line before + Text.width .line text.toList + 3 + _
      omega
    have hnext : Text.width .line (before ++ text.toList ++ barSpan.text.toList) =
        Text.width .line before + cellWidth text + 3 := by
      simpa [Text.width_nil] using hbar []
    show Text.width .line (before ++ text.toList ++ [' ']) ::
      barsAfter (before ++ text.toList ++ barSpan.text.toList) (barred style texts) = _
    rw [ih fun after => by rw [hbar, hnext], hnext, List.append_assoc, h, hcell]
    rfl

theorem bars_barred (style : Style) (texts : List String) :
    bars (barred style texts) = barPlaces 0 (texts.map cellWidth) :=
  barsAfter_barred style texts fun _ => (Nat.zero_add _).symm

/-- The places of the bars tell the widths of the cells. -/
theorem barPlaces_inj {start : Nat} {others : List Nat} :
    barPlaces start widths = barPlaces start others ↔ widths = others := by
  constructor
  · intro h
    induction widths generalizing start others with
    | nil =>
      cases others with
      | nil => rfl
      | cons other others => cases h
    | cons width widths ih =>
      cases others with
      | nil => cases h
      | cons other others =>
        obtain ⟨hfirst, hrest⟩ := List.cons.inj h
        obtain rfl : width = other := by omega
        rw [ih hrest]
  · rintro rfl
    rfl

/-- The cells shown take the widths of their columns exactly if none of them is cut unevenly. -/
theorem map_shownCells_iff (hpos : ∀ width ∈ widths, 0 < width) :
    (shownCells widths cells).map cellWidth = widths ↔
      ∀ (i : Nat) width, widths[i]? = some width → CutsExactly (cells[i]?.getD "") width := by
  have hcell (i width : Nat) (h : widths[i]? = some width) :
      ((shownCells widths cells).map cellWidth)[i]? = widths[i]? ↔
        CutsExactly (cells[i]?.getD "") width := by
    rw [← (fit_exact_iff _ (hpos width (List.mem_of_getElem? h))).1, List.getElem?_map,
      getElem?_shownCells, h]
    simp
  constructor
  · intro h i width hwidth
    exact (hcell i width hwidth).1 (by rw [h])
  · intro h
    refine List.ext_getElem? fun i => ?_
    cases hwidth : widths[i]? with
    | none => simp [getElem?_shownCells, hwidth]
    | some width => exact hwidth ▸ (hcell i width hwidth).2 (h i width hwidth)

/-! ### The rule -/

theorem columnsAfter_of_not_mem {mark : Char} {front : List Char} (h : mark ∉ front) :
    columnsAfter mark before (front ++ after) = columnsAfter mark (before ++ front) after := by
  induction front generalizing before with
  | nil => rw [List.nil_append, List.append_nil]
  | cons c front ih =>
    rw [List.mem_cons, not_or] at h
    rw [List.cons_append, columnsAfter, if_neg (Ne.symm h.1), ih h.2, List.append_assoc]
    rfl

theorem lineText_rule (widths : List Nat) :
    lineText (rule widths) =
      ['─', '┼', '─'].intercalate (widths.map fun width => List.replicate width '─') := by
  simp [lineText, rule, String.toList_intercalate, Function.comp_def]

/-- Each cross comes after the dashes of a column and one more, and there is none behind the last
column. -/
theorem columnsAfter_rule (before : List Char) (widths : List Nat) :
    columnsAfter '┼' before
        (['─', '┼', '─'].intercalate (widths.map fun width => List.replicate width '─')) =
      (barPlaces (Text.width .line before) widths).dropLast := by
  have hdashes (n : Nat) : '┼' ∉ List.replicate n '─' := fun hmem =>
    absurd (List.eq_of_mem_replicate hmem) (by decide)
  induction widths generalizing before with
  | nil => rfl
  | cons width widths ih =>
    cases widths with
    | nil =>
      have honly : columnsAfter '┼' before (List.replicate width '─' ++ []) = [] :=
        columnsAfter_of_not_mem (hdashes width)
      rw [List.append_nil] at honly
      simpa [barPlaces] using honly
    | cons other widths =>
      generalize hrest : (other :: widths).map (fun width => List.replicate width '─') = rest at ih
      have hcross : Text.width .line (before ++ List.replicate (width + 1) '─') =
          Text.width .line before + width + 1 := by
        rw [Text.width_append_of_parts fun c hc =>
            List.eq_of_mem_replicate hc ▸ parts_mark (by decide),
          List.length_replicate, Nat.add_assoc]
      have hnext : Text.width .line (before ++ List.replicate (width + 1) '─' ++ ['┼'] ++ ['─']) =
          Text.width .line before + width + 3 := by
        rw [Text.width_append_parts (parts_mark (by decide)), Text.width_nil,
          Text.width_append_parts (parts_mark (by decide)), Text.width_nil, hcross]
      have hline : ['─', '┼', '─'].intercalate (List.replicate width '─' :: rest) =
          List.replicate (width + 1) '─' ++ '┼' :: '─' :: ['─', '┼', '─'].intercalate rest := by
        rw [← hrest, List.map_cons, List.intercalate_cons_cons, List.replicate_succ']
        simp
      rw [List.map_cons, hrest, hline, columnsAfter_of_not_mem (hdashes _), columnsAfter,
        if_pos rfl, columnsAfter, if_neg (by decide), ih, hcross, hnext]
      rfl

theorem columnsOf_rule (widths : List Nat) :
    columnsOf '┼' (lineText (rule widths)) = (barPlaces 0 widths).dropLast := by
  rw [lineText_rule]
  exact columnsAfter_rule [] widths

/-! ### The widths of the columns -/

theorem isGreatest_foldl_max (first : Nat) (texts : List String) :
    IsGreatest {n | n = first ∨ ∃ text ∈ texts, n = cellWidth text}
      (texts.foldl (fun widest text => max widest (cellWidth text)) first) := by
  induction texts generalizing first with
  | nil => simp
  | cons text texts ih =>
    obtain ⟨hmem, hupper⟩ := ih (max first (cellWidth text))
    rw [List.foldl_cons]
    constructor
    · rcases hmem with hfirst | ⟨other, hother, hwidth⟩
      · rw [hfirst]
        rcases Nat.le_total first (cellWidth text) with hle | hle
        · exact .inr ⟨text, List.mem_cons_self, Nat.max_eq_right hle⟩
        · exact .inl (Nat.max_eq_left hle)
      · exact .inr ⟨other, List.mem_cons_of_mem _ hother, hwidth⟩
    · have hboth := hupper (.inl rfl)
      rintro n (rfl | ⟨other, hother, rfl⟩)
      · exact (Nat.le_max_left ..).trans hboth
      · rcases List.mem_cons.1 hother with rfl | hlater
        · exact (Nat.le_max_right ..).trans hboth
        · exact hupper (.inr ⟨other, hlater, rfl⟩)

theorem getElem?_columnWidths {i : Nat} {header : String} (h : headers[i]? = some header) :
    ∃ widest, IsGreatest (columnNeeds header rows i) widest ∧
      (columnWidths headers rows)[i]? = some (min widest columnLimit) := by
  have hgreatest := isGreatest_foldl_max (max (cellWidth header) 1) (rows.filterMap (·[i]?))
  generalize hwidest : List.foldl _ _ _ = widest at hgreatest
  obtain ⟨hmem, hupper⟩ := hgreatest
  refine ⟨widest, ⟨?_, ?_⟩, by simp [columnWidths, h, ← hwidest]⟩
  · rcases hmem with hfirst | ⟨text, htext, hwidth⟩
    · rcases Nat.le_total (cellWidth header) 1 with hle | hle
      · exact .inl (hfirst.trans (Nat.max_eq_right hle))
      · exact .inr (.inl (hfirst.trans (Nat.max_eq_left hle)))
    · obtain ⟨cells, hcells, hcell⟩ := List.mem_filterMap.1 htext
      exact .inr (.inr ⟨cells, hcells, text, hcell, hwidth⟩)
  · have hboth := hupper (.inl rfl)
    rintro n (rfl | rfl | ⟨cells, hcells, text, hcell, rfl⟩)
    · exact (Nat.le_max_right ..).trans hboth
    · exact (Nat.le_max_left ..).trans hboth
    · exact hupper (.inr ⟨text, List.mem_filterMap.2 ⟨cells, hcells, hcell⟩, rfl⟩)

theorem columnWidths_pos {width : Nat} (h : width ∈ columnWidths headers rows) : 0 < width := by
  obtain ⟨i, hi, hwidth⟩ := List.getElem_of_mem h
  obtain ⟨header, hheader⟩ : ∃ header, headers[i]? = some header :=
    ⟨_, List.getElem?_eq_getElem (by simpa [columnWidths] using hi)⟩
  obtain ⟨widest, hwidest, hmin⟩ : ∃ widest, IsGreatest (columnNeeds header rows i) widest ∧
      (columnWidths headers rows)[i]? = some (min widest columnLimit) :=
    getElem?_columnWidths hheader
  rw [List.getElem?_eq_getElem hi, hwidth, Option.some.injEq] at hmin
  have hone : 1 ≤ widest := hwidest.2 (.inl rfl)
  rw [hmin]
  exact Nat.lt_min.2 ⟨hone, by decide⟩

/-! ### The table -/

theorem showsRow_row (hpos : ∀ width ∈ widths, 0 < width) (style : Style) (cells : List String) :
    ShowsRow widths cells (row widths style cells) := by
  have hplaces : bars (row widths style cells) = barPlaces 0 widths ↔
      (shownCells widths cells).map cellWidth = widths := by
    rw [row_eq_barred, bars_barred, barPlaces_inj]
  refine ⟨⟨style, shownCells widths cells, row_eq_barred .., length_shownCells, ?_⟩,
    hplaces.trans (map_shownCells_iff hpos), fun h => ?_⟩
  · intro i width hwidth
    exact ⟨_, by rw [getElem?_shownCells, hwidth]; rfl, shown_fit _ width⟩
  · rw [row_eq_barred, width_barred, hplaces.1 h]

theorem cutsExactly_of_additive (h : ∀ cell ∈ cells, Additive cell.toList) (i columns : Nat) :
    CutsExactly (cells[i]?.getD "") columns := by
  refine Additive.cutsExactly ?_ columns
  cases hcell : cells[i]? with
  | none =>
    intro piece hpiece
    rw [List.prefix_nil.1 hpiece]
    rfl
  | some cell => exact h cell (List.mem_of_getElem? hcell)

/-- A table under some headers has a line for the headers, the rule and a line for each row. A
column is as wide as the widest of its texts, from one to fifty. In the lines of the headers and the
rows the bars are where the widths of the columns put them, unless a cell is cut unevenly, and the
crosses of the rule are in the places of all bars but the last. So all bars are in line if every
text is as wide as its characters, from its beginning up to anywhere. -/
theorem bars_in_line_iff (rows : List (List String)) (hheaders : headers ≠ []) :
    let widths := columnWidths headers rows
    let table := lines headers rows
    (table.length = rows.length + 2 ∧ widths.length = headers.length ∧
      ∀ (i : Nat) header, headers[i]? = some header →
        ∃ widest, IsGreatest (columnNeeds header rows i) widest ∧
          widths[i]? = some (min widest 50)) ∧
    List.Forall₂ (ShowsRow widths) (headers :: rows) (table.eraseIdx 1) ∧
    (∃ rule, table[1]? = some rule ∧
      columnsOf '┼' (lineText rule) = (barPlaces 0 widths).dropLast) ∧
    ((∀ cells ∈ headers :: rows, ∀ cell ∈ cells, Additive cell.toList) →
      ∀ line ∈ table.eraseIdx 1, bars line = barPlaces 0 widths ∧
        Text.width .line (lineText line) = total (widths.map (· + 3))) := by
  intro widths table
  have htable : table = row widths (Style.ink .cyan).inBold headers :: rule widths ::
      rows.map (row widths (.ink .white)) := by
    simp only [table, lines, List.isEmpty_iff, hheaders, if_false]
    rfl
  have hpos : ∀ width ∈ widths, 0 < width := fun _ => columnWidths_pos
  have hrows : List.Forall₂ (ShowsRow widths) (headers :: rows) (table.eraseIdx 1) := by
    rw [htable]
    refine .cons (showsRow_row hpos ..) (List.forall₂_map_right_iff.2 ?_)
    exact List.forall₂_same.2 fun cells _ => showsRow_row hpos ..
  refine ⟨⟨by simp [htable], by simp [widths, columnWidths], ?_⟩, hrows, ?_, ?_⟩
  · exact fun i header => getElem?_columnWidths
  · exact ⟨rule widths, by rw [htable]; rfl, columnsOf_rule widths⟩
  · intro hadditive line hline
    obtain ⟨cells, hcells, hshows⟩ : ∃ cells ∈ headers :: rows, ShowsRow widths cells line := by
      rw [htable] at hline
      rcases List.mem_cons.1 hline with rfl | hdata
      · exact ⟨headers, List.mem_cons_self, showsRow_row hpos ..⟩
      · obtain ⟨cells, hcells, rfl⟩ := List.mem_map.1 hdata
        exact ⟨cells, List.mem_cons_of_mem _ hcells, showsRow_row hpos ..⟩
    have hbars := hshows.bars_iff.2 fun i width _ =>
      cutsExactly_of_additive (hadditive cells hcells) i width
    exact ⟨hbars, hshows.width hbars⟩

/-- Of 48 letters and two wide ones the first wide letter does not fit beside the ellipsis. The row
has no second cell, and the other has one too many. -/
theorem wide_letter_keeps_bars_in_line :
    let cell := String.ofList (List.replicate 48 'a' ++ ['日', '本'])
    let rows := [[cell], ["b", "2", "c"]]
    ["h", "k"] ≠ [] ∧ (∀ cells ∈ ["h", "k"] :: rows, ∀ text ∈ cells, Additive text.toList) ∧
      columnWidths ["h", "k"] rows = [50, 1] ∧
      ∀ line ∈ (lines ["h", "k"] rows).eraseIdx 1, bars line = [51, 55] := by
  intro cell rows
  have hadditive : ∀ cells ∈ ["h", "k"] :: rows, ∀ text ∈ cells, Additive text.toList := by
    decide +kernel
  have hwidths : columnWidths ["h", "k"] rows = [50, 1] := by decide +kernel
  have hbars := (bars_in_line_iff rows (by decide : ["h", "k"] ≠ [])).2.2.2 hadditive
  refine ⟨by decide, hadditive, hwidths, fun line hline => ?_⟩
  rw [(hbars line hline).1, hwidths]
  rfl

/-- A text as wide as its characters need not be so up to where it is cut: after 48 letters there is
a character that a selector makes a picture of two columns, and then a ligature of two letters in
one. The bar behind such a cell is a column further than the one behind the header. -/
theorem picture_at_cut_moves_bar :
    let cell := String.ofList
      (List.replicate 48 'a' ++ ['❤', Text.pictureSelector, '\u0644', '\u0627'])
    (cellWidth cell = charColumns cell.toList ∧
      ∀ c ∈ cell.toList, Text.isControl c = false ∧ charWidth c ≤ 2) ∧
    columnWidths ["h"] [[cell]] = [50] ∧
    ((lines ["h"] [[cell]]).eraseIdx 1).map bars = [[51], [52]] ∧
    ((lines ["h"] [[cell]]).eraseIdx 1).map (Text.width .line ∘ lineText) = [53, 54] := by
  intro cell
  have htext : cellWidth cell = 51 := by decide +kernel
  have hcharacters : charColumns cell.toList = 51 := by decide +kernel
  have hplain : ∀ c ∈ cell.toList, Text.isControl c = false ∧ charWidth c ≤ 2 := by
    intro c hc
    rw [String.toList_ofList, List.mem_append] at hc
    rcases hc with hletter | hlast
    · rw [List.eq_of_mem_replicate hletter]
      decide
    · simp only [List.mem_cons, List.not_mem_nil, or_false] at hlast
      rcases hlast with rfl | rfl | rfl | rfl <;> decide +kernel
  have hwidths : columnWidths ["h"] [[cell]] = [50] := by decide +kernel
  have hlines : (lines ["h"] [[cell]]).eraseIdx 1 =
      [barred (Style.ink .cyan).inBold [fit "h" 50], barred (.ink .white) [fit cell 50]] := by
    simp only [lines, hwidths]
    rfl
  have hheader : cellWidth (fit "h" 50) = 50 := cellWidth_fit_of_le (by decide)
  have hcell : cellWidth (fit cell 50) = 51 := by decide +kernel
  refine ⟨⟨htext.trans hcharacters.symm, hplain⟩, hwidths, ?_, ?_⟩
  · rw [hlines]
    simp only [List.map_cons, List.map_nil, bars_barred, hheader, hcell]
    rfl
  · rw [hlines]
    simp only [List.map_cons, List.map_nil, Function.comp, width_barred, hheader, hcell]
    rfl

end QueryDesk.Table
