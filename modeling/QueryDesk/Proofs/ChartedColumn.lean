import Mathlib.Data.List.Forall2
import Mathlib.Data.List.TakeWhile
import Mathlib.Order.Bounds.Defs
import QueryDesk.Chart
import QueryDesk.Proofs.CellNumber

/-!
# What is charted

A chart can be stored in three parts that are written one after the other: a subject, bars, and a
hint that stands in for both. Whatever the parts held before, a dataset replaces all of them, and it
never leaves some of them with bars and others with a hint. This rests on two passes over the cells
that agree: the one that picks the column and the one that makes the bars take the same cells for
filled and the same texts for numbers.
-/
namespace QueryDesk

namespace Dataset

variable {rows : List (List String)} {column : Nat} {cell : String}

/-- A column that can be charted: it has a header and a cell that is not blank, and every such cell
in it has a decimal that is not rounded to an infinity. -/
structure Plots (d : Dataset) (column : Nat) : Prop where
  header : column < d.headers.length
  filled : ∃ row ∈ d.rows, ∃ cell, row[column]? = some cell ∧ Text.allBlank cell = false
  numbers : ∀ row ∈ d.rows, ∀ cell, row[column]? = some cell → Text.allBlank cell = false →
    ∃ decimal, CellDecimal cell decimal ∧ decimal.size < Number.overflow

/-- The column whose numbers are charted: the leftmost behind the first one, or the first one if no
other can be charted. -/
def IsValueColumn (d : Dataset) (column : Nat) : Prop :=
  IsLeast {other | other ≠ 0 ∧ d.Plots other} column ∨
    column = 0 ∧ d.Plots 0 ∧ ∀ other, d.Plots other → other = 0

/-- The rows with a cell in a column that is not blank, and their numbers counted from zero. -/
def filledRows (rows : List (List String)) (column : Nat) : List (List String × Nat) :=
  rows.zipIdx.filter fun row => row.1[column]?.any (!Text.allBlank ·)

theorem mem_filledCells :
    cell ∈ filledCells rows column ↔
      ∃ row ∈ rows, row[column]? = some cell ∧ Text.allBlank cell = false := by
  simp only [filledCells, List.mem_filter, List.mem_filterMap, Bool.not_eq_true']
  constructor
  · rintro ⟨⟨row, hrow, hcell⟩, hfilled⟩
    exact ⟨row, hrow, hcell, hfilled⟩
  · rintro ⟨row, hrow, hcell, hfilled⟩
    exact ⟨⟨row, hrow, hcell⟩, hfilled⟩

theorem plots_iff (d : Dataset) (column : Nat) :
    d.Plots column ↔ column < d.headers.length ∧ isNumericColumn d.rows column = true := by
  simp only [isNumericColumn, Bool.and_eq_true, Bool.not_eq_true', List.all_eq_true,
    List.isEmpty_eq_false_iff_exists_mem, mem_filledCells, Option.isSome_iff_exists,
    exists_numericValue?_iff]
  constructor
  · rintro ⟨hheader, ⟨row, hrow, cell, hcell⟩, hnumbers⟩
    refine ⟨hheader, ⟨cell, row, hrow, hcell⟩, ?_⟩
    rintro other ⟨row, hrow, hother, hfilled⟩
    exact hnumbers row hrow other hother hfilled
  · rintro ⟨hheader, ⟨cell, row, hrow, hcell⟩, hnumbers⟩
    exact ⟨hheader, ⟨row, hrow, cell, hcell⟩,
      fun row hrow other hother hfilled => hnumbers other ⟨row, hrow, hother, hfilled⟩⟩

/-- A blank cell is no number. -/
theorem numericValue?_of_allBlank (h : Text.allBlank cell = true) : numericValue? cell = none := by
  have hall : ∀ c ∈ cell.toList, Text.isBlank c = true := List.all_eq_true.1 h
  have hdrop : Text.dropBlanks cell.toList = [] := List.dropWhile_eq_nil_iff.2 hall
  rw [numericValue?, Text.trimBlanks, hdrop]
  rfl

/-- The first numeric column is the leftmost that can be charted and is not skipped. -/
theorem firstNumericColumn?_eq_some_iff (d : Dataset) (skip : Option Nat) (column : Nat) :
    firstNumericColumn? d.headers d.rows skip = some column ↔
      IsLeast {other | some other ≠ skip ∧ d.Plots other} column := by
  simp only [firstNumericColumn?, List.find?_range_eq_some, Bool.and_eq_true, bne_iff_ne,
    List.mem_range, Bool.not_eq_true', Bool.and_eq_false_iff, bne_eq_false_iff_eq]
  constructor
  · rintro ⟨⟨hskip, hnumeric⟩, hheader, hbefore⟩
    refine ⟨⟨hskip, (d.plots_iff column).2 ⟨hheader, hnumeric⟩⟩, ?_⟩
    rintro other ⟨hother, hplots⟩
    refine Nat.le_of_not_lt fun hlt => ?_
    rcases hbefore other hlt with heq | hfalse
    · exact hother heq
    · exact Bool.false_ne_true (hfalse.symm.trans ((d.plots_iff other).1 hplots).2)
  · rintro ⟨⟨hskip, hplots⟩, hleast⟩
    obtain ⟨hheader, hnumeric⟩ := (d.plots_iff column).1 hplots
    refine ⟨⟨hskip, hnumeric⟩, hheader, fun other hlt => ?_⟩
    by_cases hother : some other = skip
    · exact .inl hother
    · refine .inr (Bool.eq_false_iff.2 fun hnum => ?_)
      have hplot : d.Plots other := (d.plots_iff other).2 ⟨Nat.lt_trans hlt hheader, hnum⟩
      exact Nat.not_lt.2 (hleast ⟨hother, hplot⟩) hlt

theorem firstNumericColumn?_eq_none_iff (d : Dataset) (skip : Option Nat) :
    firstNumericColumn? d.headers d.rows skip = none ↔
      ∀ column, d.Plots column → some column = skip := by
  simp only [firstNumericColumn?, List.find?_range_eq_none, Bool.not_eq_true',
    Bool.and_eq_false_iff, bne_eq_false_iff_eq]
  constructor
  · intro hnone column hplots
    obtain ⟨hheader, hnumeric⟩ := (d.plots_iff column).1 hplots
    exact (hnone column hheader).resolve_right (by simp [hnumeric])
  · intro hskip column hheader
    by_cases hnumeric : isNumericColumn d.rows column = true
    · exact .inl (hskip column ((d.plots_iff column).2 ⟨hheader, hnumeric⟩))
    · exact .inr (Bool.eq_false_iff.2 hnumeric)

end Dataset

/-- The stored parts of a chart. -/
structure ChartStore where
  subject : Option String
  bars : List Bar
  hint : Option String

def Chart.store (chart : Chart) : ChartStore := ⟨chart.subject, chart.bars, chart.hint⟩

namespace ChartStore

open Dataset (numericValue? firstNumericColumn? filledRows)

variable {d : Dataset} {value : Nat}

/-- The text that a row has in the label column, or its number if there is no such column. -/
def labelText (label : Option Nat) (row : List String × Nat) : String :=
  match label with
  | some column => row.1[column]?.getD ""
  | none => toString (row.2 + 1)

/-- The bar of a row, if there is a number in its value cell. -/
def bar? (label : Option Nat) (value : Nat) (row : List String × Nat) : Option Bar :=
  (row.1[value]?.bind numericValue?).map fun number => ⟨labelText label row, number⟩

/-- Looks at one row and adds its bar. -/
def push (label : Option Nat) (value : Nat) (s : ChartStore) (row : List String × Nat) :
    ChartStore :=
  match bar? label value row with
  | some bar => { s with bars := s.bars ++ [bar] }
  | none => s

/-- Sets the subject from the headers of the columns; there is no result if one is missing. -/
def setSubject? (headers : List String) (label : Option Nat) (value : Nat) (s : ChartStore) :
    Option ChartStore := do
  let name ← headers[value]?
  match label with
  | some column => some { s with subject := some (name ++ " by " ++ (← headers[column]?)) }
  | none => some { s with subject := some name }

/-- Clears the parts and fills them row by row from a dataset. -/
def setDataset? (s : ChartStore) (d : Dataset) : Option ChartStore :=
  let cleared : ChartStore := { s with subject := none, bars := [], hint := none }
  let plot (label : Option Nat) (value : Nat) :=
    (d.rows.zipIdx.foldl (push label value) cleared).setSubject? d.headers label value
  match firstNumericColumn? d.headers d.rows (some 0) with
  | some value => plot (some 0) value
  | none =>
      match firstNumericColumn? d.headers d.rows none with
      | some value => plot none value
      | none => some { cleared with hint := some "No numeric column to chart" }

theorem foldl_push (label : Option Nat) (value : Nat) (s : ChartStore)
    (rows : List (List String × Nat)) :
    rows.foldl (push label value) s =
      { s with bars := s.bars ++ rows.filterMap (bar? label value) } := by
  induction rows generalizing s with
  | nil => simp
  | cons row rows ih =>
    rw [List.foldl_cons, ih]
    cases hbar : bar? label value row with
    | none => simp [push, hbar]
    | some bar => simp [push, hbar]

theorem exists_header {column : Nat} (h : column < d.headers.length) :
    ∃ name, d.headers[column]? = some name := ⟨_, List.getElem?_eq_getElem h⟩

/-- A dataset has the headers that are looked for, and leaves the parts of its chart. -/
theorem setDataset?_eq (s : ChartStore) (d : Dataset) :
    s.setDataset? d = some (Chart.ofDataset d).store := by
  have hpushed (label : Option Nat) (value : Nat) :
      d.rows.zipIdx.foldl (push label value) { s with subject := none, bars := [], hint := none } =
        { subject := none, bars := Chart.barsOf d.rows label value, hint := none } :=
    foldl_push ..
  cases hbehind : firstNumericColumn? d.headers d.rows (some 0) with
  | some value =>
    obtain ⟨⟨-, hplots⟩, -⟩ := (d.firstNumericColumn?_eq_some_iff _ value).1 hbehind
    obtain ⟨name, hname⟩ := exists_header hplots.header
    obtain ⟨label, hlabel⟩ := exists_header (Nat.zero_lt_of_lt hplots.header)
    simp only [setDataset?, Chart.ofDataset, hbehind, hpushed, setSubject?, hname, hlabel]
    rfl
  | none =>
    cases hany : firstNumericColumn? d.headers d.rows none with
    | some value =>
      obtain ⟨⟨-, hplots⟩, -⟩ := (d.firstNumericColumn?_eq_some_iff _ value).1 hany
      obtain ⟨name, hname⟩ := exists_header hplots.header
      simp only [setDataset?, Chart.ofDataset, hbehind, hany, hpushed, setSubject?, hname]
      rfl
    | none =>
      simp only [setDataset?, Chart.ofDataset, hbehind, hany]
      rfl

/-- The last of some datasets is the one that is stored. -/
theorem foldlM_setDataset? (s : ChartStore) (past : List Dataset) (d : Dataset) :
    (past ++ [d]).foldlM setDataset? s = some (Chart.ofDataset d).store := by
  induction past generalizing s with
  | nil =>
    rw [List.nil_append, List.foldlM_cons, setDataset?_eq]
    rfl
  | cons first past ih =>
    rw [List.cons_append, List.foldlM_cons, setDataset?_eq]
    exact ih _

/-- The bar of a row with a number in the value column: the float of its cell, and the first cell of
the row for a label, or the number of the row if the first column is the one that is charted. -/
structure BarOf (value : Nat) (row : List String × Nat) (bar : Bar) : Prop where
  number : ∃ cell decimal, row.1[value]? = some cell ∧ Dataset.CellDecimal cell decimal ∧
    Number.Rounded decimal.negative decimal.size bar.value
  label : if value = 0 then bar.label = toString (row.2 + 1) else row.1[0]? = some bar.label

/-- The parts of a chart of a column. -/
structure Charts (d : Dataset) (value : Nat) (s : ChartStore) : Prop where
  hint : s.hint = none
  subject : ∃ name label, d.headers[value]? = some name ∧ d.headers[0]? = some label ∧
    s.subject = some (if value = 0 then name else name ++ " by " ++ label)
  bars : List.Forall₂ (BarOf value) (filledRows d.rows value) s.bars
  some_bar : s.bars ≠ []

theorem forall₂_filterMap {α β : Type} {R : α → β → Prop} {p : α → Bool} {f : α → Option β}
    {xs : List α} (hyes : ∀ x ∈ xs, p x = true → ∃ y, f x = some y ∧ R x y)
    (hno : ∀ x ∈ xs, p x = false → f x = none) :
    List.Forall₂ R (xs.filter p) (xs.filterMap f) := by
  induction xs with
  | nil => exact .nil
  | cons x xs ih =>
    obtain ⟨hhere, hlater⟩ := List.forall_mem_cons.1 hyes
    obtain ⟨hnot, hnone⟩ := List.forall_mem_cons.1 hno
    cases hp : p x with
    | true =>
      obtain ⟨y, hy, hR⟩ := hhere hp
      rw [List.filter_cons_of_pos hp, List.filterMap_cons_some hy]
      exact .cons hR (ih hlater hnone)
    | false =>
      rw [List.filter_cons_of_neg (by simp [hp]), List.filterMap_cons_none (hnot hp)]
      exact ih hlater hnone

/-- Row by row, the cells that made the column one to chart are those that give it bars. -/
theorem forall₂_bars (h : d.Plots value) :
    List.Forall₂ (BarOf value) (filledRows d.rows value)
      (Chart.barsOf d.rows (if value = 0 then none else some 0) value) := by
  change List.Forall₂ _ _
    (d.rows.zipIdx.filterMap (bar? (if value = 0 then none else some 0) value))
  refine forall₂_filterMap (fun row hrow hfilled => ?_) fun row hrow hblank => ?_
  · obtain ⟨cell, hcell, hfull⟩ := (Option.any_eq_true _ _).1 hfilled
    have hmem : row.1 ∈ d.rows := List.fst_mem_of_mem_zipIdx hrow
    obtain ⟨number, hnumber⟩ :=
      Dataset.exists_numericValue?_iff.2 (h.numbers row.1 hmem cell hcell (by simpa using hfull))
    obtain ⟨decimal, hdecimal, -, hround⟩ := Dataset.numericValue?_eq_some_iff.1 hnumber
    have hbar (label : Option Nat) :
        bar? label value row = some ⟨labelText label row, number⟩ := by
      rw [bar?, hcell, Option.bind_some, hnumber, Option.map_some]
    refine ⟨_, hbar _, ⟨cell, decimal, hcell, hdecimal, hround⟩, ?_⟩
    by_cases hvalue : value = 0
    · simp [hvalue, labelText]
    · -- a row that reaches to the value cell has a first cell
      have hlength : value < row.1.length := (List.getElem?_eq_some_iff.1 hcell).1
      obtain ⟨first, hfirst⟩ : ∃ first, row.1[0]? = some first :=
        ⟨_, List.getElem?_eq_getElem (Nat.zero_lt_of_lt hlength)⟩
      simp [hvalue, labelText, hfirst]
  · cases hcell : row.1[value]? with
    | none => simp [bar?, hcell]
    | some cell =>
      rw [hcell] at hblank
      have hnone : numericValue? cell = none :=
        Dataset.numericValue?_of_allBlank (by simpa using hblank)
      simp [bar?, hcell, hnone]

/-- Some row has a number in a column that is charted, and so a bar. -/
theorem filledRows_ne_nil (h : d.Plots value) : filledRows d.rows value ≠ [] := by
  obtain ⟨row, hrow, cell, hcell, hfull⟩ := h.filled
  obtain ⟨i, hi⟩ := List.mem_iff_getElem?.1 hrow
  refine List.ne_nil_of_mem (a := (row, i)) (List.mem_filter.2 ⟨?_, by simp [hcell, hfull]⟩)
  exact List.mem_zipIdx_iff_getElem?.2 hi

theorem charts_plotted (h : d.Plots value) {name label subject : String}
    (hname : d.headers[value]? = some name) (hlabel : d.headers[0]? = some label)
    (hsubject : subject = if value = 0 then name else name ++ " by " ++ label) :
    Charts d value (Chart.plotted subject
      (Chart.barsOf d.rows (if value = 0 then none else some 0) value)).store where
  hint := rfl
  subject := ⟨name, label, hname, hlabel, congrArg some hsubject⟩
  bars := forall₂_bars h
  some_bar := fun hnil => by
    have hbars := forall₂_bars h
    rw [show Chart.barsOf d.rows _ value = [] from hnil] at hbars
    exact filledRows_ne_nil h (List.forall₂_nil_right_iff.1 hbars)

/-- A chart is of a value column if some column can be charted, and is refused otherwise. -/
theorem charts_or_refused (d : Dataset) :
    (∃ value, d.IsValueColumn value ∧ Charts d value (Chart.ofDataset d).store) ∨
      (∀ column, ¬d.Plots column) ∧ Chart.ofDataset d = .refused := by
  cases hbehind : firstNumericColumn? d.headers d.rows (some 0) with
  | some value =>
    have hleast := (d.firstNumericColumn?_eq_some_iff _ value).1 hbehind
    simp only [ne_eq, Option.some.injEq] at hleast
    obtain ⟨hvalue, hplots⟩ := hleast.1
    obtain ⟨name, hname⟩ := exists_header hplots.header
    obtain ⟨label, hlabel⟩ := exists_header (Nat.zero_lt_of_lt hplots.header)
    refine .inl ⟨value, .inl hleast, ?_⟩
    have hcharts := charts_plotted hplots hname hlabel rfl
    simp only [hvalue, if_false] at hcharts
    simpa only [Chart.ofDataset, hbehind, hname, hlabel, Option.getD_some] using hcharts
  | none =>
    have honly := (d.firstNumericColumn?_eq_none_iff _).1 hbehind
    simp only [Option.some.injEq] at honly
    cases hany : firstNumericColumn? d.headers d.rows none with
    | some value =>
      obtain ⟨⟨-, hplots⟩, -⟩ := (d.firstNumericColumn?_eq_some_iff _ value).1 hany
      obtain rfl := honly value hplots
      obtain ⟨name, hname⟩ := exists_header hplots.header
      refine .inl ⟨0, .inr ⟨rfl, hplots, honly⟩, ?_⟩
      have hcharts := charts_plotted hplots hname hname rfl
      simpa only [Chart.ofDataset, hbehind, hany, hname, Option.getD_some, if_true] using hcharts
    | none =>
      have hnever := (d.firstNumericColumn?_eq_none_iff _).1 hany
      refine .inr ⟨fun column hplots => absurd (hnever column hplots) (by simp), ?_⟩
      simp only [Chart.ofDataset, hbehind, hany]

/-- After any datasets, whatever the parts of the chart held before, they are those of the chart of
the last dataset, and no header is missing on the way. There is no hint exactly if some column can
be charted; then the chart is of the value column, with a subject and at least one bar, and
otherwise it has neither. -/
theorem last_dataset_charted_or_refused (s : ChartStore) (past : List Dataset) (d : Dataset) :
    ∃ after, (past ++ [d]).foldlM setDataset? s = some after ∧
      after = (Chart.ofDataset d).store ∧
      (after.hint = none ↔ ∃ column, d.Plots column) ∧
      (after.hint = none → ∃ value, d.IsValueColumn value ∧ Charts d value after) ∧
      (after.hint ≠ none → after.subject = none ∧ after.bars = []) := by
  refine ⟨_, foldlM_setDataset? s past d, rfl, ?_⟩
  rcases charts_or_refused d with ⟨value, hvalue, hcharts⟩ | ⟨hnever, hrefused⟩
  · have hplots : d.Plots value := by
      rcases hvalue with hleast | ⟨rfl, hplots, -⟩
      · exact hleast.1.2
      · exact hplots
    exact ⟨⟨fun _ => ⟨value, hplots⟩, fun _ => hcharts.hint⟩, fun _ => ⟨value, hvalue, hcharts⟩,
      fun hhint => absurd hcharts.hint hhint⟩
  · rw [hrefused]
    have hhint : Chart.refused.store.hint ≠ none := by simp [Chart.store, Chart.hint]
    exact ⟨⟨fun h => absurd h hhint, fun ⟨column, hplots⟩ => absurd hplots (hnever column)⟩,
      fun h => absurd h hhint, fun _ => ⟨rfl, rfl⟩⟩

/-- A dataset with a ragged row and a blank cell. -/
def amounts : Dataset where
  query := "amounts"
  headers := ["Name", "Amount"]
  rows := [["Ann", " 3 "], ["Bob"], ["Cid", "-2.5e-1"], ["Dee", " "]]
  time := .midnight

/-- After a dataset without a number, the amounts are charted. -/
theorem amounts_charted :
    ∃ after ann cid, [{ amounts with rows := [["Ann", "three"]] }, amounts].foldlM setDataset?
        ⟨some "Amount", [], some "none"⟩ = some after ∧
      after.hint = none ∧ after.subject = some "Amount by Name" ∧
      after.bars = [⟨"Ann", ann⟩, ⟨"Cid", cid⟩] ∧
      Number.Rounded false 3 ann ∧ Number.Rounded true (1 / 4) cid := by
  obtain ⟨after, hafter, -, hhint, hcharts, -⟩ := last_dataset_charted_or_refused
    ⟨some "Amount", [], some "none"⟩ [{ amounts with rows := [["Ann", "three"]] }] amounts
  have hann : ∀ decimal, Dataset.CellDecimal " 3 " decimal ↔ ⟨false, 3, 0⟩ = decimal := fun _ =>
    Dataset.cellDecimal_iff.trans Option.some_inj
  have hcid : ∀ decimal, Dataset.CellDecimal "-2.5e-1" decimal ↔ ⟨true, 25, -2⟩ = decimal :=
    fun _ => Dataset.cellDecimal_iff.trans Option.some_inj
  have hplots : amounts.Plots 1 := by
    refine ⟨by decide, ⟨["Ann", " 3 "], by decide, " 3 ", rfl, by decide⟩, ?_⟩
    simp only [amounts, List.forall_mem_cons]
    refine ⟨?_, ?_, ?_, ?_, fun _ h => absurd h List.not_mem_nil⟩
    · rintro cell ⟨⟩ -
      exact ⟨_, (hann _).2 rfl, Number.lt_overflow (by norm_num [Number.Decimal.size])⟩
    · rintro cell ⟨⟩
    · rintro cell ⟨⟩ -
      exact ⟨_, (hcid _).2 rfl, Number.lt_overflow (by norm_num [Number.Decimal.size])⟩
    · rintro cell ⟨⟩ hfilled
      exact absurd hfilled (by decide)
  have hnone := hhint.2 ⟨1, hplots⟩
  obtain ⟨value, hvalue, hchart⟩ := hcharts hnone
  obtain rfl : value = 1 := by
    rcases hvalue with ⟨⟨hzero, -⟩, hleast⟩ | ⟨-, -, honly⟩
    · exact le_antisymm (hleast ⟨one_ne_zero, hplots⟩) (Nat.one_le_iff_ne_zero.2 hzero)
    · exact absurd (honly 1 hplots) one_ne_zero
  obtain ⟨-, ⟨name, label, hname, hlabel, hsubject⟩, hbars, -⟩ := hchart
  obtain rfl : "Amount" = name := Option.some.inj hname
  obtain rfl : "Name" = label := Option.some.inj hlabel
  have hrows : filledRows amounts.rows 1 = [(["Ann", " 3 "], 0), (["Cid", "-2.5e-1"], 2)] := by
    decide
  rw [hrows] at hbars
  have hbar {name cell : String} {n : Nat} {d : Number.Decimal} {bar : Bar}
      (hcell : ∀ decimal, Dataset.CellDecimal cell decimal ↔ d = decimal)
      (h : BarOf 1 ([name, cell], n) bar) :
      bar.label = name ∧ Number.Rounded d.negative d.size bar.value := by
    obtain ⟨⟨_, decimal, ⟨⟩, hdecimal, hround⟩, hlabel⟩ := h
    obtain rfl := (hcell decimal).1 hdecimal
    exact ⟨(Option.some.inj hlabel).symm, hround⟩
  obtain ⟨⟨_, ann⟩, more, hfirst, hmore, heq⟩ := List.forall₂_cons_left_iff.1 hbars
  obtain ⟨⟨_, cid⟩, rest, hlast, hrest, rfl⟩ := List.forall₂_cons_left_iff.1 hmore
  obtain rfl := List.forall₂_nil_left_iff.1 hrest
  obtain ⟨rfl, hround⟩ := hbar hann hfirst
  obtain ⟨rfl, hround'⟩ := hbar hcid hlast
  have hthree : Number.Decimal.size ⟨false, 3, 0⟩ = 3 := by norm_num [Number.Decimal.size]
  have hquarter : Number.Decimal.size ⟨true, 25, -2⟩ = 1 / 4 := by norm_num [Number.Decimal.size]
  exact ⟨after, ann, cid, hafter, hnone, hsubject, heq, hthree ▸ hround, hquarter ▸ hround'⟩

end ChartStore

end QueryDesk
