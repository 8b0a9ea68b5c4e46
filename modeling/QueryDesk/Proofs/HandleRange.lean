import QueryDesk.Proofs.PointerDrag

/-!
# The handle and its range

The splitter moves its handle inside a range of rows. The handle is drawn in no row below the range,
but a split region of few rows in tall cells may have it above: the toolbar and the results take
their rows first, and those left for the editor may be fewer than the range begins with. The rows of
the range settle when this is so.

A move goes in the direction in which it is asked for. From a row in the range or above it, a move
that asks for no row does nothing; from a row below the range it takes the handle back to the last
row of the range.
-/
namespace QueryDesk

namespace Layout

variable {cell rows least most : Nat}

/-- The rows drawn never reach beyond the range of the splitter, and they reach into it exactly if
what the toolbar and the results take leaves its least rows. Cells of at most 49 pixels always leave
them. -/
theorem editorRows_in_range_iff (hrows : rows ≤ maxCoordinate)
    (h : splitBounds splitterLowerBound splitterHandleOffset cell rows = some (least, most))
    (basis : Nat) :
    editorRows basis cell rows ≤ most ∧
      (least ≤ editorRows basis cell rows ↔ least + (2 + minResultRows) ≤ rows) ∧
      (cell ≤ 49 → least ≤ editorRows basis cell rows) := by
  have hspan := spans_of_bounds h
  have hshown := editorRows_of_bounds hrows h basis
  have hreach : least ≤ editorRows basis cell rows ↔ least + (2 + minResultRows) ≤ rows := by
    have hpos := hspan.pos
    rw [hshown, hspan.shownRows_eq]
    simp only [minResultRows]
    omega
  refine ⟨hshown ▸ hspan.shownRows_le _, hreach, fun hcell => hreach.2 ?_⟩
  have hroom := (range_of_small_cell hcell h).2
  have hle := hspan.le
  omega

/-- In 29 rows of 16 pixels the rows drawn are those with which the range ends. -/
theorem rows_drawn_at_end_of_range :
    splitBounds splitterLowerBound splitterHandleOffset 16 29 = some (13, 16) ∧
      editorRows 350 16 29 = 16 ∧ editorRows 350 16 29 ≤ 16 ∧ 13 ≤ editorRows 350 16 29 := by
  have h : splitBounds splitterLowerBound splitterHandleOffset 16 29 = some (13, 16) := by decide
  obtain ⟨hmost, -, hleast⟩ := editorRows_in_range_iff (by decide) h 350
  exact ⟨h, by decide, hmost, hleast (by decide)⟩

/-- Eight rows of 50 pixels allow the splitter the fourth row alone, and three rows are drawn. -/
theorem rows_drawn_above_range :
    splitBounds splitterLowerBound splitterHandleOffset 50 8 = some (4, 4) ∧
      editorRows 350 50 8 = 3 ∧ ¬(4 ≤ editorRows 350 50 8 ∧ editorRows 350 50 8 ≤ 4) := by
  decide

end Layout

namespace Splitter

variable {s : Splitter} {container : Rect} {start wanted target row : Nat} {delta : Int}
  {least most : Nat}

/-- The one move that is not asked for: a handle below the range comes back to the last row of it,
if the way there fits 32 bits. -/
def Returns (s : Splitter) (container : Rect) (start : Nat) (delta : Int) : Prop :=
  ∃ least most, s.bounds container = some (least, most) ∧ most < start ∧
    delta = ((most : Int) - start) * s.cell ∧ -0x80000000 ≤ delta

/-- A delta has the sign of the way that the handle is asked to go. -/
theorem sign_of_delta? (hcell : 0 < s.cell) (hasked : wanted ≠ start)
    (h : s.delta? container start wanted = some (target, delta)) :
    delta.sign = ((wanted : Int) - start).sign := by
  obtain ⟨-, -, -, -, hmoved, hdirection, rfl⟩ := delta?_eq_some h
  have hpos : 0 < (s.cell : Int) := by omega
  rw [Int.sign_mul, Int.sign_eq_one_of_pos hpos, Int.mul_one]
  by_cases hdown : start < wanted
  · have hway := hdirection.1 hdown
    rw [Int.sign_eq_one_of_pos (by omega), Int.sign_eq_one_of_pos (by omega)]
  · have hway : ¬start < target := fun hway => hdown (hdirection.2 hway)
    rw [Int.sign_eq_neg_one_of_neg (by omega), Int.sign_eq_neg_one_of_neg (by omega)]

/-- In the range or above it a handle that is asked to stay does so. -/
theorem delta?_self_of_le (hbounds : s.bounds container = some (least, most))
    (hstart : start ≤ most) : s.delta? container start start = none := by
  refine Option.eq_none_iff_forall_not_mem.2 ?_
  rintro ⟨target, delta⟩ hmoved
  obtain ⟨_, _, hbounds', htarget, hleft, hdirection, -⟩ := delta?_eq_some hmoved
  obtain ⟨rfl, rfl⟩ := Prod.mk.inj (Option.some.inj (hbounds.symm.trans hbounds'))
  rw [Layout.clamp_eq (Layout.splitBounds_eq_some hbounds).1] at htarget
  omega

/-- From below the range it goes back to the last row of it. The way there is upwards, so only the
lower limit of 32 bits can forbid it. -/
theorem delta?_self_of_lt (hbounds : s.bounds container = some (least, most))
    (hpast : most < start) :
    s.delta? container start start =
      if -0x80000000 ≤ ((most : Int) - start) * s.cell then
        some (most, ((most : Int) - start) * s.cell)
      else none := by
  have hle : least ≤ most := (Layout.splitBounds_eq_some hbounds).1
  have hback : Layout.clamp least most start = most := by
    rw [Layout.clamp_eq hle]
    omega
  have hup : ¬start < most := by omega
  have hnonpos : ((most : Int) - start) * s.cell ≤ 0 :=
    Int.mul_nonpos_of_nonpos_of_nonneg (by omega) (by omega)
  have hway : ((most : Int) - start) * s.cell < 0x80000000 := by omega
  simp only [delta?, hbounds, Option.bind_eq_bind, Option.bind_some, hback, Nat.ne_of_lt hpast,
    hup, hway, decide_false, Nat.lt_irrefl, bne_self_eq_false, Bool.or_self, Bool.false_eq_true,
    if_false, and_true]

/-- A handle that is asked to stay moves exactly if it returns to the range. -/
theorem delta?_self_eq_some_iff :
    (s.delta? container start start).map (·.2) = some delta ↔ s.Returns container start delta := by
  constructor
  · intro h
    obtain ⟨⟨target, moved⟩, hmoved, rfl⟩ := Option.map_eq_some_iff.1 h
    obtain ⟨least, most, hbounds, -⟩ := delta?_eq_some hmoved
    by_cases hpast : most < start
    · rw [delta?_self_of_lt hbounds hpast] at hmoved
      split at hmoved
      · rename_i hfits
        obtain ⟨rfl, rfl⟩ := Prod.mk.inj (Option.some.inj hmoved)
        exact ⟨least, most, hbounds, hpast, rfl, hfits⟩
      · cases hmoved
    · rw [delta?_self_of_le hbounds (by omega)] at hmoved
      cases hmoved
  · rintro ⟨least, most, hbounds, hpast, rfl, hfits⟩
    rw [delta?_self_of_lt hbounds hpast, if_pos hfits]
    rfl

theorem move_pixels {drag : Drag} (hdrag : s.drag = some drag) (row : Nat) :
    (s.move row).2 =
      (s.delta? drag.container drag.offset (offsetIn drag.container row)).map (·.2) := by
  simp only [move, hdrag]
  split
  · rename_i hnone
    rw [hnone]
    rfl
  · rename_i hsome
    rw [hsome]
    rfl

theorem offsetIn_lt_word (container : Rect) (hrow : row ≤ maxCoordinate) :
    offsetIn container row < Layout.maxWord32 := by
  have hle : offsetIn container row ≤ row := Nat.sub_le ..
  have hmax : maxCoordinate < Layout.maxWord32 := by decide
  exact (hle.trans hrow).trans_lt hmax

/-- A nudge moves the handle, if at all, to the side that it names. -/
theorem sign_of_nudge (hcell : 0 < s.cell) (hrow : row ≤ maxCoordinate) {rows : Int}
    (hrows : rows ≠ 0) (h : s.nudge rows row container = some delta) : delta.sign = rows.sign := by
  obtain ⟨⟨target, moved⟩, hmoved, rfl⟩ := Option.map_eq_some_iff.1 h
  have hword := offsetIn_lt_word container hrow
  clear h
  generalize offsetIn container row = start at hmoved hword
  generalize hwanted : min ((start : Int) + rows).toNat Layout.maxWord32 = wanted at hmoved
  generalize Layout.maxWord32 = word at hword hwanted
  by_cases hsame : wanted = start
  · -- a nudge up at the top asks for the row in which the handle is, which is not below the range
    rw [hsame] at hmoved
    have hback : (s.delta? container start start).map (·.2) = some moved := by rw [hmoved]; rfl
    obtain ⟨least, most, -, hbelow, -⟩ := delta?_self_eq_some_iff.1 hback
    omega
  · rw [sign_of_delta? hcell hsame hmoved]
    by_cases hdown : 0 < rows
    · rw [Int.sign_eq_one_of_pos hdown, Int.sign_eq_one_of_pos (by omega)]
    · rw [Int.sign_eq_neg_one_of_neg (by omega : rows < 0),
        Int.sign_eq_neg_one_of_neg (by omega)]

theorem nudge_zero_eq_some_iff (hrow : row ≤ maxCoordinate) :
    s.nudge 0 row container = some delta ↔ s.Returns container (offsetIn container row) delta := by
  have hstay : min ((offsetIn container row : Int) + 0).toNat Layout.maxWord32 =
      offsetIn container row := by
    have hword := offsetIn_lt_word container hrow
    generalize Layout.maxWord32 = word at hword
    omega
  simp only [nudge, hstay]
  exact delta?_self_eq_some_iff

/-- A drag and a nudge move the handle, if at all, in the direction in which they ask it to go. One
that asks for no row moves it exactly if it stands below its range: back to the last row of that. -/
theorem moves_as_asked_or_returns (s : Splitter) (hcell : 0 < s.cell) (row : Nat)
    (hrow : row ≤ maxCoordinate) :
    (∀ drag, s.drag = some drag →
      let asked : Int := offsetIn drag.container row - drag.offset
      (asked ≠ 0 → ∀ delta, (s.move row).2 = some delta → delta.sign = asked.sign) ∧
      (asked = 0 → ∀ delta,
        (s.move row).2 = some delta ↔ s.Returns drag.container drag.offset delta)) ∧
    ∀ container,
      (∀ rows, rows ≠ 0 → ∀ delta,
        s.nudge rows row container = some delta → delta.sign = rows.sign) ∧
      ∀ delta,
        s.nudge 0 row container = some delta ↔
          s.Returns container (offsetIn container row) delta := by
  refine ⟨fun drag hdrag => ⟨fun hasked delta h => ?_, fun hasked delta => ?_⟩,
    fun container => ⟨fun rows hrows delta => sign_of_nudge hcell hrow hrows,
      fun delta => nudge_zero_eq_some_iff hrow⟩⟩
  · rw [move_pixels hdrag] at h
    obtain ⟨⟨target, moved⟩, hmoved, rfl⟩ := Option.map_eq_some_iff.1 h
    exact sign_of_delta? hcell (by omega) hmoved
  · have hsame : offsetIn drag.container row = drag.offset := by omega
    rw [move_pixels hdrag, hsame]
    exact delta?_self_eq_some_iff

/-- A handle that was pressed in row 24 and is dragged to row 27 moves down by three cells. -/
theorem drag_moves_down :
    let s := (Splitter.ofCell 200 200 10).press 24 ⟨0, 2, 80, 50⟩
    0 < s.cell ∧ 27 ≤ maxCoordinate ∧ s.drag = some ⟨⟨0, 2, 80, 50⟩, 22⟩ ∧
      (s.move 27).2 = some 30 ∧ (30 : Int).sign = (3 : Int).sign ∧
      s.nudge (-2) 27 ⟨0, 2, 80, 50⟩ = some (-20) ∧ (-20 : Int).sign = (-2 : Int).sign := by
  intro s
  obtain ⟨hdrag, hnudge⟩ := moves_as_asked_or_returns s (by decide) 27 (by decide)
  have hmove : (s.move 27).2 = some 30 := by decide
  have hup : s.nudge (-2) 27 ⟨0, 2, 80, 50⟩ = some (-20) := by decide
  exact ⟨by decide, by decide, rfl, hmove, (hdrag _ rfl).1 (by decide) 30 hmove, hup,
    (hnudge _).1 (-2) (by decide) (-20) hup⟩

/-- A handle in row 40 of a range that ends with row 30: a pointer that stays where it is and a
nudge by no rows move it up by ten rows. -/
theorem still_pointer_moves_handle :
    let s := (Splitter.ofCell 200 200 10).press 42 ⟨0, 2, 80, 50⟩
    s.bounds ⟨0, 2, 80, 50⟩ = some (20, 30) ∧
      s.drag = some ⟨⟨0, 2, 80, 50⟩, offsetIn ⟨0, 2, 80, 50⟩ 42⟩ ∧
      (s.move 42).2 = some (-100) ∧ s.nudge 0 42 ⟨0, 2, 80, 50⟩ = some (-100) := by
  decide

end Splitter

end QueryDesk
