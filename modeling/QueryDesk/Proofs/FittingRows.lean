import Mathlib.Order.Bounds.Basic
import QueryDesk.Proofs.EditorRows

/-!
# The rows that fit

A splitter asks for pixels above its handle and for pixels below it. The rows at which both fit are
an interval: the pixels above round up to its first row, and what the pixels below leave of the
container rounds down to its last. The range of the splitter is this interval, with one exception. A
container that is not as high as the pixels below has no row for the handle, but what they leave of
it is taken to be nothing instead of less than nothing. If no pixels are asked for above, the top of
the container passes for a range.
-/
namespace QueryDesk.Layout

variable {lower offset cell rows row least most : Nat}

/-- The rows of a container at which the handle has `lower` pixels above it and `offset` pixels
below it. -/
def fittingRows (lower offset cell rows : Nat) : Set Nat :=
  {row | row ≤ rows ∧ lower ≤ row * cell ∧ offset ≤ (rows - row) * cell}

/-- The pixels above the handle round up to whole rows. -/
theorem least_le_iff (hcell : 0 < cell) :
    (lower + cell - 1) / cell ≤ row ↔ lower ≤ row * cell := by
  rw [Nat.div_le_iff_le_mul_add_pred hcell, Nat.mul_comm]
  omega

/-- What the pixels below the handle leave rounds down to whole rows. -/
theorem le_most_iff (hcell : 0 < cell) (hoffset : offset ≤ rows * cell) :
    row ≤ (rows * cell - offset) / cell ↔ row ≤ rows ∧ offset ≤ (rows - row) * cell := by
  rw [Nat.le_div_iff_mul_le hcell, Nat.sub_mul]
  constructor
  · intro h
    have hpixels : row * cell ≤ rows * cell := by omega
    exact ⟨Nat.le_of_mul_le_mul_right hpixels hcell, by omega⟩
  · rintro ⟨hrow, hbelow⟩
    have hpixels := Nat.mul_le_mul_right cell hrow
    omega

theorem fittingRows_eq_Icc (hcell : 0 < cell) (hoffset : offset ≤ rows * cell) :
    fittingRows lower offset cell rows =
      Set.Icc ((lower + cell - 1) / cell) ((rows * cell - offset) / cell) := by
  ext row
  rw [Set.mem_Icc, least_le_iff hcell, le_most_iff hcell hoffset]
  exact and_left_comm

theorem fittingRows_eq_empty (hoffset : rows * cell < offset) :
    fittingRows lower offset cell rows = ∅ := by
  refine Set.eq_empty_iff_forall_notMem.2 fun row hrow => ?_
  have hpixels := Nat.mul_le_mul_right cell (Nat.sub_le rows row)
  exact absurd (hrow.2.2.trans hpixels) (Nat.not_le.2 hoffset)

/-- In a container as high as the pixels below the handle the range begins and ends with the rows
that fit. -/
theorem splitBounds_of_offset_le (hcell : 0 < cell) (hoffset : offset ≤ rows * cell) :
    (∀ least most, splitBounds lower offset cell rows = some (least, most) ↔
      IsLeast (fittingRows lower offset cell rows) least ∧
        IsGreatest (fittingRows lower offset cell rows) most) ∧
    (splitBounds lower offset cell rows = none ↔ fittingRows lower offset cell rows = ∅) := by
  have hmax : max cell 1 = cell := Nat.max_eq_left hcell
  simp only [fittingRows_eq_Icc hcell hoffset, splitBounds, hmax]
  generalize (lower + cell - 1) / cell = first
  generalize (rows * cell - offset) / cell = last
  by_cases hle : first ≤ last
  · rw [if_pos hle]
    refine ⟨fun least most => ?_, iff_of_false (Option.some_ne_none _) ?_⟩
    · have hleast := isLeast_Icc hle
      have hgreatest := isGreatest_Icc hle
      rw [Option.some.injEq, Prod.mk.injEq]
      constructor
      · rintro ⟨rfl, rfl⟩
        exact ⟨hleast, hgreatest⟩
      · rintro ⟨hleast', hgreatest'⟩
        exact ⟨hleast.unique hleast', hgreatest.unique hgreatest'⟩
    · exact (Set.nonempty_Icc.2 hle).ne_empty
  · rw [if_neg hle, Set.Icc_eq_empty hle]
    exact ⟨fun least most => iff_of_false (Option.some_ne_none _).symm fun h => h.1.1, by simp⟩

/-- A lower container has no row that fits, and a range only if no pixels are asked for above the
handle. -/
theorem splitBounds_of_lt_offset (hcell : 0 < cell) (hoffset : rows * cell < offset) :
    splitBounds lower offset cell rows = if lower = 0 then some (0, 0) else none := by
  have hnone : rows * cell - offset = 0 := Nat.sub_eq_zero_of_le (Nat.le_of_lt hoffset)
  have htop : (lower + cell - 1) / cell ≤ 0 ↔ lower = 0 := by
    rw [least_le_iff hcell, Nat.zero_mul, Nat.le_zero]
  simp only [splitBounds, Nat.max_eq_left hcell, hnone, Nat.zero_div, htop]
  split
  · rename_i hlower
    rw [Nat.le_zero.1 (htop.2 hlower)]
  · rfl

/-- The range of a splitter has the least and the greatest row that fits, and there is none exactly
if no row fits: so it is in every container but one that is not as high as the pixels below the
handle, when no pixels are asked for above it. There the range is the top row, and no row fits. -/
theorem splitBounds_exact_iff (lower offset rows : Nat) (hcell : 1 ≤ cell) :
    (((∀ least most, splitBounds lower offset cell rows = some (least, most) ↔
          IsLeast (fittingRows lower offset cell rows) least ∧
            IsGreatest (fittingRows lower offset cell rows) most) ∧
        (splitBounds lower offset cell rows = none ↔
          fittingRows lower offset cell rows = ∅)) ↔
      (lower = 0 → offset ≤ rows * cell)) ∧
    (lower = 0 → rows * cell < offset →
      splitBounds lower offset cell rows = some (0, 0) ∧
        fittingRows lower offset cell rows = ∅) := by
  have hlow : lower = 0 → rows * cell < offset →
      splitBounds lower offset cell rows = some (0, 0) ∧
        fittingRows lower offset cell rows = ∅ := fun hlower hoffset =>
    ⟨(splitBounds_of_lt_offset hcell hoffset).trans (if_pos hlower), fittingRows_eq_empty hoffset⟩
  refine ⟨⟨fun ⟨_, hnone⟩ hlower => ?_, fun hroom => ?_⟩, hlow⟩
  · refine Nat.le_of_not_lt fun hoffset => ?_
    obtain ⟨hsome, hempty⟩ := hlow hlower hoffset
    exact absurd (hsome.symm.trans (hnone.2 hempty)) (Option.some_ne_none _)
  · by_cases hoffset : offset ≤ rows * cell
    · exact splitBounds_of_offset_le hcell hoffset
    · have hlt : rows * cell < offset := Nat.lt_of_not_le hoffset
      have hlower : lower ≠ 0 := fun hlower => hoffset (hroom hlower)
      rw [splitBounds_of_lt_offset hcell hlt, if_neg hlower, fittingRows_eq_empty hlt]
      exact ⟨fun least most => iff_of_false (Option.some_ne_none _).symm fun h => h.1.1, by simp⟩

/-- With 200 pixels on either side, rows 20 to 30 of 50 fit in cells of 10 pixels. -/
theorem rows_twenty_to_thirty_fit :
    1 ≤ 10 ∧ (200 = 0 → 200 ≤ 50 * 10) ∧
      IsLeast (fittingRows 200 200 10 50) 20 ∧ IsGreatest (fittingRows 200 200 10 50) 30 :=
  ⟨by decide, by decide,
    (((splitBounds_exact_iff 200 200 50 (by decide)).1.2 (by decide)).1 20 30).1 (by decide)⟩

/-- Five rows of 10 pixels do not have the 100 pixels asked for below the handle, and the range
begins and ends with the top row. -/
theorem top_row_passes_for_range :
    splitBounds 0 100 10 5 = some (0, 0) ∧
      ¬∃ row ≤ 5, 0 ≤ row * 10 ∧ 100 ≤ (5 - row) * 10 := by
  refine ⟨by decide, ?_⟩
  rintro ⟨row, hrow, -, hbelow⟩
  omega

end QueryDesk.Layout
