import Mathlib.Algebra.Order.Ring.Int
import QueryDesk.Proofs.FittingRows
import QueryDesk.Proofs.PointerDrag

/-!
# The sum of a drag

A drag remembers the row that its handle has reached, not the row of the pointer. From a row of the
range the way to the next row is always in the direction asked for, so no move of the pointer is
lost, and the handle is in the last row of the pointer, as far as the range reaches. The deltas add
up to the way from the first row to that one, whichever rows the pointer has gone through.

In a container of less than `2 ^ 31` pixels every number on the way fits its machine word.
-/
namespace QueryDesk.Splitter

open QueryDesk.Layout (clamp clamp_mem clamp_of_mem)

variable {s : Splitter} {container : Rect}
  {lower offset cell row rows least most start target : Nat}

/-- The pointer goes through some rows: the splitter afterwards and the deltas published. -/
def moves : Splitter → List Nat → Splitter × List Int
  | s, [] => (s, [])
  | s, row :: rows =>
      let (moved, pixels) := s.move row
      let (last, published) := moved.moves rows
      (last, pixels.toList ++ published)

/-- The offset of the handle for a row of the pointer: that row, as far as the range reaches. -/
def reached (container : Rect) (least most row : Nat) : Nat :=
  clamp least most (offsetIn container row)

/-- The numbers from which a delta is reckoned fit their words: the pixels of the container and the
rows of the range 32 bits, the way between two rows and its pixels 64 bits with a sign, the delta 32
bits with a sign. -/
structure FitsWords (s : Splitter) (container : Rect) (start target : Nat) : Prop where
  total : container.height * s.cell < 2 ^ 32
  least : (s.lower + s.cell - 1) / s.cell < 2 ^ 32
  way : -2 ^ 63 ≤ (target : Int) - start ∧ (target : Int) - start < 2 ^ 63
  pixels : -2 ^ 63 ≤ ((target : Int) - start) * s.cell ∧
    ((target : Int) - start) * s.cell < 2 ^ 63
  delta : -2 ^ 31 ≤ ((target : Int) - start) * s.cell ∧
    ((target : Int) - start) * s.cell < 2 ^ 31

/-- A drag with its handle at an offset in the range of a container of less than `2 ^ 31` pixels. -/
structure Rides (s : Splitter) (container : Rect) (least most start : Nat) : Prop where
  cell_pos : 0 < s.cell
  total : container.height * s.cell < 0x80000000
  bounds : s.bounds container = some (least, most)
  drag : s.drag = some ⟨container, start⟩
  least_le : least ≤ start
  le_most : start ≤ most

/-- The last row of the range is in the container. -/
theorem Rides.fits (h : Rides s container least most start) : most * s.cell < 0x80000000 := by
  obtain ⟨-, -, hlast⟩ := Layout.splitBounds_eq_some h.bounds
  rw [Nat.max_eq_left h.cell_pos] at hlast
  have hle : most * s.cell ≤ container.height * s.cell - s.offset :=
    hlast ▸ Nat.div_mul_le_self ..
  exact (hle.trans (Nat.sub_le ..)).trans_lt h.total

/-- A move takes the handle along and publishes the way that it goes, if any. -/
theorem Rides.move (h : Rides s container least most start) (row : Nat) :
    Rides (s.move row).1 container least most (reached container least most row) ∧
      (s.move row).2.toList.sum = ((reached container least most row : Int) - start) * s.cell := by
  have hmem := clamp_mem (h.least_le.trans h.le_most) (offsetIn container row)
  have hreached : clamp least most (offsetIn container row) = reached container least most row :=
    rfl
  have hmove := move_of_mem h.drag h.bounds h.least_le h.le_most h.fits hreached
  rw [hmove]
  refine ⟨⟨h.cell_pos, h.total, h.bounds, rfl, hmem.1, hmem.2⟩, ?_⟩
  split
  · rename_i hsame
    simp [hsame]
  · simp

/-- Through some rows the handle goes to the last of them, and the deltas add up to the way. -/
theorem Rides.moves (h : Rides s container least most (reached container least most row))
    (rows : List Nat) :
    Rides (s.moves rows).1 container least most
        (reached container least most (rows.getLastD row)) ∧
      (s.moves rows).2.sum = ((reached container least most (rows.getLastD row) : Int) -
        reached container least most row) * s.cell ∧
      ∀ delta ∈ (s.moves rows).2, delta ≠ 0 := by
  induction rows generalizing s row with
  | nil => exact ⟨h, by simp [Splitter.moves], by simp [Splitter.moves]⟩
  | cons next rows ih =>
    obtain ⟨hmoved, hstep⟩ := h.move next
    obtain ⟨hlast, hsum, hne⟩ := ih hmoved
    rw [move_cell] at hsum
    simp only [Splitter.moves, List.getLastD_cons, List.sum_append]
    refine ⟨hlast, ?_, fun delta hdelta => ?_⟩
    · rw [hstep, hsum, ← Int.add_mul]
      congr 1
      omega
    · rcases List.mem_append.1 hdelta with hfirst | hlater
      · exact move_ne_zero h.cell_pos (Option.mem_toList.1 hfirst)
      · exact hne delta hlater

/-- From an offset in the range every way to a row of it fits the words. -/
theorem Rides.fitsWords (h : Rides s container least most start)
    (hmost : target ≤ most) : FitsWords s container start target := by
  obtain ⟨hle, hfirst, -⟩ := Layout.splitBounds_eq_some h.bounds
  rw [Nat.max_eq_left h.cell_pos] at hfirst
  have hdelta := way_fits hmost h.le_most h.fits
  have hrow : most ≤ most * s.cell := Nat.le_mul_of_pos_right most h.cell_pos
  have hstart := h.le_most
  have hfits := h.fits
  have htotal := h.total
  exact ⟨by omega, by omega, by omega, by omega, by omega⟩

/-- At an offset in the range the handle has the pixels above it and, if the container is as high as
those, the pixels below it. -/
theorem pixels_of_mem (h : Layout.splitBounds lower offset cell rows = some (least, most))
    (hleast : least ≤ start) (hmost : start ≤ most) :
    lower ≤ start * max cell 1 ∧
      (offset ≤ rows * max cell 1 → offset ≤ (rows - start) * max cell 1) := by
  obtain ⟨-, rfl, rfl⟩ := Layout.splitBounds_eq_some h
  have hcell := Layout.cell_pos cell
  exact ⟨(Layout.least_le_iff hcell).1 hleast,
    fun hoffset => ((Layout.le_most_iff hcell hoffset).1 hmost).2⟩

/-- The pointer is pressed on a handle in its range, in a container of less than `2 ^ 31` pixels,
and goes through any rows. The deltas published are none of them zero and add up to the way from the
row of the press to the last row, as far as the range reaches. Up to there the handle stays in the
range and has the pixels asked for on either side of it, as far as the container has those below it,
and whichever row the pointer goes to next, no number on the way to a delta exceeds its word. -/
theorem drag_sums_to_way (lower offset cell row : Nat) (container : Rect) (rows : List Nat)
    (hheight : container.height ≤ maxCoordinate) (htotal : container.height * cell < 2 ^ 31)
    (hb : Layout.splitBounds lower offset cell container.height = some (least, most))
    (hleast : least ≤ offsetIn container row) (hmost : offsetIn container row ≤ most) :
    let pressed := (Splitter.ofCell lower offset cell).press row container
    let handle (rows : List Nat) := clamp least most (offsetIn container (rows.getLastD row))
    (∀ delta ∈ (pressed.moves rows).2, delta ≠ 0) ∧
    (pressed.moves rows).2.sum =
      (max cell 1 : Nat) * ((handle rows : Int) - offsetIn container row) ∧
    ∀ earlier, earlier <+: rows →
      (pressed.moves earlier).1.drag = some ⟨container, handle earlier⟩ ∧
      least ≤ handle earlier ∧ handle earlier ≤ most ∧
      lower ≤ handle earlier * max cell 1 ∧
      (offset ≤ container.height * max cell 1 →
        offset ≤ (container.height - handle earlier) * max cell 1) ∧
      ∀ next, FitsWords (pressed.moves earlier).1 container (handle earlier)
        (clamp least most (offsetIn container next)) := by
  intro pressed handle
  have hpixels : container.height * max cell 1 < 0x80000000 := by
    rcases Nat.eq_zero_or_pos cell with rfl | hcell
    · simp only [maxCoordinate, Nat.zero_max, Nat.mul_one] at hheight ⊢
      omega
    · rw [Nat.max_eq_left hcell]
      exact htotal
  have hstart : handle [] = offsetIn container row := clamp_of_mem hleast hmost
  have hpressed : Rides pressed container least most (handle []) :=
    ⟨Layout.cell_pos cell, hpixels, (Layout.splitBounds_max ..).trans hb,
      congrArg (fun start => some (Drag.mk container start)) hstart.symm, hstart ▸ hleast,
      hstart ▸ hmost⟩
  obtain ⟨-, hsum, hne⟩ := hpressed.moves rows
  refine ⟨hne, ?_, fun earlier _ => ?_⟩
  · rw [hsum, Int.mul_comm]
    exact congrArg (fun start : Nat => (max cell 1 : Nat) * ((handle rows : Int) - start)) hstart
  · obtain ⟨hrides, -, -⟩ := hpressed.moves earlier
    obtain ⟨habove, hbelow⟩ := pixels_of_mem hb hrides.least_le hrides.le_most
    refine ⟨hrides.drag, hrides.least_le, hrides.le_most, habove, hbelow, fun next => ?_⟩
    have hmem := clamp_mem (hleast.trans hmost) (offsetIn container next)
    exact hrides.fitsWords hmem.2

/-- From row 22 of a range from 20 to 30 the pointer goes past the end of the range, further down
and back to the top: the handle moves down by eight rows and up by ten. -/
theorem drag_past_both_ends :
    let container : Rect := ⟨0, 2, 80, 50⟩
    let pressed := (Splitter.ofCell 200 200 10).press 24 container
    (50 ≤ maxCoordinate ∧ 50 * 10 < 2 ^ 31 ∧
      Layout.splitBounds 200 200 10 50 = some (20, 30) ∧ offsetIn container 24 = 22) ∧
    (pressed.moves [47, 51, 0]).2 = [80, -100] ∧
    (pressed.moves [47, 51, 0]).2.sum = 10 * ((20 : Int) - 22) ∧
    (pressed.moves [47]).1.drag = some ⟨container, 30⟩ := by
  intro container pressed
  obtain ⟨-, hsum, hall⟩ := drag_sums_to_way 200 200 10 24 container [47, 51, 0] (by decide)
    (by decide) (by decide : Layout.splitBounds 200 200 10 50 = some (20, 30)) (by decide)
    (by decide)
  exact ⟨by decide, by decide, hsum, (hall [47] ⟨[51, 0], rfl⟩).1⟩

end QueryDesk.Splitter
