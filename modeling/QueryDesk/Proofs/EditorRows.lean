import QueryDesk.Layout.Console
import QueryDesk.SplitHeight

/-!
# The rows of the editor

How many rows the editor has on a screen, as a function of the height that the user prefers. The
rows that the height asks for are brought into the range of the splitter, and then into what the
editor has at least and the screen has at most. Where two heights differ by whole rows, so do the
rows asked for; when the rows shown follow them is said by the lemmas on `shownRows`.
-/
namespace QueryDesk

namespace Layout

variable {lower offset cell rows least most wanted : Nat}

theorem cell_pos (cell : Nat) : 0 < max cell 1 :=
  Nat.lt_of_lt_of_le Nat.zero_lt_one (Nat.le_max_right ..)

/-- That a cell has at least one pixel may be said once or twice. -/
theorem splitBounds_max (lower offset cell rows : Nat) :
    splitBounds lower offset (max cell 1) rows = splitBounds lower offset cell rows := by
  rw [splitBounds, splitBounds, Nat.max_eq_left (Nat.le_max_right cell 1)]

theorem splitBounds_eq_some (h : splitBounds lower offset cell rows = some (least, most)) :
    least ≤ most ∧ least = (lower + max cell 1 - 1) / max cell 1 ∧
      most = (rows * max cell 1 - offset) / max cell 1 := by
  simp only [splitBounds] at h
  split at h
  · rename_i hle
    obtain ⟨rfl, rfl⟩ := Prod.mk.inj (Option.some.inj h)
    exact ⟨hle, rfl, rfl⟩
  · cases h

/-- A range of editor rows in a split region: some are above the handle and some below it, and if
the least is small, cells are so tall that the most leave two rows at the utmost. -/
structure Spans (rows least most : Nat) : Prop where
  pos : 1 ≤ least
  le : least ≤ most
  lt : most < rows
  room : least ≤ 2 → rows ≤ most + 2

theorem spans_of_bounds
    (h : splitBounds splitterLowerBound splitterHandleOffset cell rows = some (least, most)) :
    Spans rows least most := by
  obtain ⟨hle, hleast, hmost⟩ := splitBounds_eq_some h
  have hcell := cell_pos cell
  generalize max cell 1 = c at hcell hleast hmost
  simp only [splitterLowerBound, splitterHandleOffset] at hleast hmost
  have hpos : 1 ≤ least := by
    rw [hleast, Nat.le_div_iff_mul_le hcell]
    omega
  have hlt : most < rows := by
    have hroom : 1 * c ≤ rows * c - 200 := by
      rw [← Nat.le_div_iff_mul_le hcell, ← hmost]
      exact Nat.le_trans hpos hle
    rw [hmost, Nat.div_lt_iff_lt_mul hcell]
    omega
  refine ⟨hpos, hle, hlt, fun hsmall => ?_⟩
  have htall : 100 ≤ c := by
    have h3 : (200 + c - 1) / c < 3 := by omega
    rw [Nat.div_lt_iff_lt_mul hcell] at h3
    omega
  have htwo : rows - 2 ≤ most := by
    rw [hmost, Nat.le_div_iff_mul_le hcell, Nat.sub_mul]
    omega
  omega

/-- The rows that the editor has of those wanted in a range. -/
def shownRows (least most rows wanted : Nat) : Nat :=
  min (max (clamp least most wanted) minEditorRows) (rows - (2 + minResultRows))

theorem clamp_eq (h : least ≤ most) (n : Nat) : clamp least most n = max least (min most n) := by
  unfold clamp
  split
  · omega
  · split <;> omega

theorem editorRows_of_bounds (hrows : rows ≤ maxCoordinate)
    (h : splitBounds splitterLowerBound splitterHandleOffset cell rows = some (least, most))
    (basis : Nat) :
    editorRows basis cell rows = shownRows least most rows (basis / max cell 1) := by
  have hspan := spans_of_bounds h
  have hle : clamp least most (basis / max cell 1) ≤ maxCoordinate := by
    rw [clamp_eq hspan.le]
    have hlt := hspan.lt
    have hle := hspan.le
    omega
  simp only [editorRows, splitBounds_max, h, shownRows, Nat.min_eq_left hle]

namespace Spans

variable (h : Spans rows least most)
include h

theorem two_le : 2 ≤ rows := by
  have hpos := h.pos
  have hle := h.le
  have hlt := h.lt
  omega

theorem shownRows_eq (wanted : Nat) :
    shownRows least most rows wanted = min (max (max least (min most wanted)) 3) (rows - 5) := by
  rw [shownRows, clamp_eq h.le]
  rfl

theorem shownRows_mono {wanted more : Nat} (hle : wanted ≤ more) :
    shownRows least most rows wanted ≤ shownRows least most rows more := by
  rw [h.shownRows_eq, h.shownRows_eq]
  omega

/-- The rows shown are in the range, except that few rows may not reach its lower end. -/
theorem shownRows_le (wanted : Nat) : shownRows least most rows wanted ≤ most := by
  have hle := h.le
  have hroom := h.room
  rw [h.shownRows_eq]
  omega

/-- The rows that are shown would be shown if they were wanted. -/
theorem shownRows_shownRows (wanted : Nat) :
    shownRows least most rows (shownRows least most rows wanted) =
      shownRows least most rows wanted := by
  have hmost := h.shownRows_le wanted
  rw [h.shownRows_eq (shownRows least most rows wanted)]
  rw [h.shownRows_eq] at hmost ⊢
  omega

/-- Between the rows wanted and those shown nothing changes. -/
theorem shownRows_between {wanted other : Nat}
    (hbetween : wanted ≤ other ∧ other ≤ shownRows least most rows wanted ∨
      shownRows least most rows wanted ≤ other ∧ other ≤ wanted) :
    shownRows least most rows other = shownRows least most rows wanted := by
  have hshown := h.shownRows_shownRows wanted
  rcases hbetween with ⟨hlow, hhigh⟩ | ⟨hlow, hhigh⟩
  · have hge := h.shownRows_mono hlow
    have hle := h.shownRows_mono hhigh
    omega
  · have hge := h.shownRows_mono hlow
    have hle := h.shownRows_mono hhigh
    omega

/-- One row less is shown if the rows wanted are, and the editor may have one less. -/
theorem shownRows_pred (hshown : shownRows least most rows wanted = wanted)
    (hleast : least < wanted) (hmin : minEditorRows < wanted) :
    shownRows least most rows (wanted - 1) = wanted - 1 := by
  rw [h.shownRows_eq] at hshown ⊢
  simp only [minEditorRows] at hmin
  omega

/-- Few rows are the least that the editor has on any screen. -/
theorem shownRows_of_few (hleast : least ≤ minEditorRows) (hwanted : wanted ≤ minEditorRows) :
    shownRows least most rows wanted = min minEditorRows (rows - 5) := by
  rw [h.shownRows_eq]
  simp only [minEditorRows] at hleast hwanted ⊢
  omega

/-- Otherwise one row less makes no difference. -/
theorem shownRows_of_shrunk {shrunk : Nat} (hleast : least < shownRows least most rows wanted)
    (hother : ¬(wanted = shownRows least most rows wanted ∧ minEditorRows < wanted))
    (hmany : 2 ≤ wanted → shrunk = wanted - 1) (hfew : wanted ≤ 1 → shrunk ≤ 1) :
    shownRows least most rows shrunk = shownRows least most rows wanted := by
  have hpos := h.pos
  by_cases hmore : shownRows least most rows wanted < wanted
  · exact h.shownRows_between (.inr (by omega))
  · -- what is shown is held up by the least that the editor has on any screen
    have hthree : shownRows least most rows wanted ≤ 3 := by
      have hshown := h.shownRows_eq wanted
      generalize shownRows least most rows wanted = start at hleast hother hmore hshown ⊢
      simp only [minEditorRows] at hother
      omega
    have hfewLeast : least ≤ 3 := Nat.le_trans (Nat.le_of_lt hleast) hthree
    have hwanted : wanted ≤ 3 := by omega
    have hshrunk : shrunk ≤ 3 := by omega
    rw [h.shownRows_of_few hfewLeast hshrunk, h.shownRows_of_few hfewLeast hwanted]

/-- One row more is shown if the rows wanted are, and the editor may have one more. -/
theorem shownRows_succ (hshown : shownRows least most rows wanted = wanted)
    (hmost : wanted + 1 ≤ most) (hroom : wanted + 1 + (2 + minResultRows) ≤ rows) :
    shownRows least most rows (wanted + 1) = wanted + 1 := by
  rw [h.shownRows_eq] at hshown ⊢
  simp only [minResultRows] at hroom
  omega

/-- Otherwise some rows more make no difference: either there is no room for them, or those wanted
before were fewer than those shown. -/
theorem shownRows_of_grown {grown : Nat} (hmost : shownRows least most rows wanted + 1 ≤ most)
    (hother : ¬(wanted = shownRows least most rows wanted ∧
      wanted + 1 + (2 + minResultRows) ≤ rows))
    (hle : wanted ≤ grown)
    (hgrown : grown + shownRows least most rows wanted ≤
      wanted + clamp least most (shownRows least most rows wanted + 1)) :
    shownRows least most rows grown = shownRows least most rows wanted := by
  by_cases hfull : shownRows least most rows wanted = rows - 5
  · have hmono := h.shownRows_mono hle
    have hroom : shownRows least most rows grown ≤ rows - 5 := by
      rw [h.shownRows_eq]
      omega
    omega
  · have hless : wanted < shownRows least most rows wanted ∧
        least ≤ shownRows least most rows wanted := by
      rw [h.shownRows_eq] at hfull hmost hother ⊢
      simp only [minResultRows] at hother
      omega
    rw [clamp_eq h.le] at hgrown
    exact h.shownRows_between (.inl (by omega))

end Spans

/-! ### Where the parts of the console lie -/

variable {basis basis' : Nat} {area : Rect}

theorem partLengths_status (room : Nat) :
    partLengths room [.rest, .fixed 1] = [room - 1, min room 1] := by
  cases room with
  | zero =>
    -- the status line is the only peak, and the missing cell is its own
    have hpeak : bestPeak? (peaks [] (runsOf [0, 1])) =
        some ⟨[⟨1, 0⟩], ⟨1, 1⟩, [], 0, 1⟩ := rfl
    change saveCells 1 (runsOf [0, 1]) = [0, 0]
    rw [saveCells, hpeak]
    change saveCells 0 (runsOf (lengthsOf [⟨1, 0⟩, ⟨1, 0⟩])) = [0, 0]
    rw [saveCells]
    rfl
  | succ room => simp [partLengths, Part.length, Number.total]

theorem partLengths_regions {rows room : Nat} (h : rows + 2 ≤ room) :
    partLengths room [.fixed rows, .fixed 1, .fixed 1, .rest] =
      [rows, 1, 1, room - (rows + 2)] := by
  simp [partLengths, Part.length, Number.total, h]

/-- The splitter divides all but the status line. -/
theorem split_eq (area : Rect) (basis cell : Nat) :
    (consoleLayout area basis cell).split = ⟨area.x, area.y, area.width, area.rows - 1⟩ := by
  simp only [consoleLayout, bands, partLengths_status]
  rfl

/-- A layout depends on the height by the rows of the editor only. -/
theorem consoleLayout_congr
    (h : editorRows basis cell (area.rows - 1) = editorRows basis' cell (area.rows - 1)) :
    consoleLayout area basis cell = consoleLayout area basis' cell := by
  have hsplit : ((bands area [.rest, .fixed 1])[0]?.getD default).height = area.rows - 1 :=
    congrArg Rect.height (split_eq area basis cell)
  rw [← hsplit] at h
  simp only [consoleLayout, h]

theorem editorRows_add_le {rows : Nat} (h : 2 ≤ rows) : editorRows basis cell rows + 2 ≤ rows := by
  have hle : editorRows basis cell rows ≤ rows - (2 + minResultRows) := Nat.min_le_right ..
  simp only [minResultRows] at hle
  omega

/-- What is above a lower edge within the coordinates is all within them. -/
theorem rows_split (area : Rect) :
    (⟨area.x, area.y, area.width, area.rows - 1⟩ : Rect).rows = area.rows - 1 := by
  have harea := area.rows_eq
  rw [Rect.rows_eq]
  change min (area.rows - 1) (maxCoordinate - area.y) = area.rows - 1
  omega

/-- With room for the handle and the toolbar, the regions lie one below the other. -/
theorem consoleLayout_eq (h : 2 ≤ area.rows - 1) (basis cell : Nat) :
    let rows := editorRows basis cell (area.rows - 1)
    consoleLayout area basis cell =
      { split := ⟨area.x, area.y, area.width, area.rows - 1⟩
        editor := ⟨area.x, area.y, area.width, rows⟩
        splitter := ⟨area.x, area.y + rows, area.width, 1⟩
        toolbar := ⟨area.x, area.y + rows + 1, area.width, 1⟩
        results := ⟨area.x, area.y + rows + 1 + 1, area.width, area.rows - 1 - (rows + 2)⟩
        help := ⟨area.x, area.y + (area.rows - 1), area.width, min area.rows 1⟩ } := by
  have hroom : editorRows basis cell (area.rows - 1) + 2 ≤ area.rows - 1 :=
    editorRows_add_le h
  have hsplit : (bands area [.rest, .fixed 1])[0]?.getD default =
      (⟨area.x, area.y, area.width, area.rows - 1⟩ : Rect) := split_eq area basis cell
  simp only [consoleLayout, hsplit]
  simp only [bands, rows_split, partLengths_regions hroom, partLengths_status]
  rfl

/-- The handle is a row below the rows of the editor, if there is room for both. -/
theorem regions_of_layout (h : 2 ≤ area.rows - 1) (basis cell : Nat) :
    let rows := editorRows basis cell (area.rows - 1)
    (consoleLayout area basis cell).editor = ⟨area.x, area.y, area.width, rows⟩ ∧
      (consoleLayout area basis cell).splitter = ⟨area.x, area.y + rows, area.width, 1⟩ := by
  rw [consoleLayout_eq h]
  exact ⟨rfl, rfl⟩

theorem rows_of_layout (h : 2 ≤ area.rows - 1) (basis cell : Nat) :
    let rows := editorRows basis cell (area.rows - 1)
    (consoleLayout area basis cell).editor.height = rows ∧
      (consoleLayout area basis cell).splitter.y = area.y + rows := by
  obtain ⟨heditor, hsplitter⟩ := regions_of_layout h basis cell
  exact ⟨congrArg Rect.height heditor, congrArg Rect.y hsplitter⟩

end Layout

namespace SplitHeight

variable {c : Nat}

/-- A height that grows by some rows has those rows more, unless it reaches its limit. -/
theorem rows_adjust_grow (height : SplitHeight) (hc : 0 < c) (more : Nat) :
    height.pixels / c ≤ (height.adjust (more * c)).pixels / c ∧
      (height.adjust (more * c)).pixels / c ≤ height.pixels / c + more ∧
      ((height.pixels / c + more + 1) * c ≤ Layout.maxWord32 →
        (height.adjust (more * c)).pixels / c = height.pixels / c + more) := by
  have hpixels : (height.adjust (more * c)).pixels =
      min (height.pixels + more * c) Layout.maxWord32 := by
    have hpos := height.pos
    have hmax : 1 ≤ Layout.maxWord32 := by decide
    have hsum : ((height.pixels : Int) + more * c).toNat = height.pixels + more * c := by
      rw [← Int.natCast_mul, ← Int.natCast_add, Int.toNat_natCast]
    simp only [adjust, hsum]
    omega
  have hsum : (height.pixels + more * c) / c = height.pixels / c + more :=
    Nat.add_mul_div_right _ _ hc
  rw [hpixels]
  refine ⟨Nat.div_le_div_right (Nat.le_min.2 ⟨Nat.le_add_right .., height.le_max⟩),
    hsum ▸ Nat.div_le_div_right (Nat.min_le_left ..), fun hroom => ?_⟩
  have hlt : height.pixels + more * c < (height.pixels / c + more + 1) * c := by
    rw [← hsum]
    exact Nat.lt_mul_of_div_lt (Nat.lt_succ_self _) hc
  rw [Nat.min_eq_left (Nat.le_trans (Nat.le_of_lt hlt) hroom), hsum]

/-- A height of two rows or more that shrinks by one has one less. -/
theorem rows_adjust_shrink (height : SplitHeight) (hc : 0 < c) :
    (2 ≤ height.pixels / c →
      (height.adjust (-(c : Int))).pixels / c = height.pixels / c - 1) ∧
    (height.pixels / c ≤ 1 → (height.adjust (-(c : Int))).pixels / c ≤ 1) := by
  have hpixels : (height.adjust (-(c : Int))).pixels = max 1 (height.pixels - c) := by
    have hmax := height.le_max
    simp only [adjust]
    omega
  rw [hpixels]
  constructor
  · intro htwo
    rw [Nat.le_div_iff_mul_le hc] at htwo
    rw [Nat.max_eq_right (by omega), Nat.div_eq_sub_div hc (by omega : c ≤ height.pixels),
      Nat.add_sub_cancel]
  · intro hone
    have hlt : height.pixels < 2 * c := (Nat.div_lt_iff_lt_mul hc).1 (by omega)
    exact Nat.lt_succ_iff.1 ((Nat.div_lt_iff_lt_mul hc).2 (by omega))

end SplitHeight

namespace Layout

namespace Spans

variable {rows least most c : Nat} (h : Spans rows least most)
include h

/-- A height that grows towards the row below the handle. -/
theorem rows_of_grown (height : SplitHeight) (hc : 0 < c) (hword : (rows + 1) * c ≤ maxWord32)
    {start : Nat} (hstart : shownRows least most rows (height.pixels / c) = start)
    (hmost : start + 1 ≤ most) :
    let more := clamp least most (start + 1) - start
    let again := shownRows least most rows ((height.adjust (more * c)).pixels / c)
    (height.pixels / c = start ∧ start + 1 + (2 + minResultRows) ≤ rows → again = start + 1) ∧
      (¬(height.pixels / c = start ∧ start + 1 + (2 + minResultRows) ≤ rows) → again = start) := by
  intro more again
  have hclamp : start + 1 ≤ clamp least most (start + 1) := by
    rw [clamp_eq h.le]
    omega
  obtain ⟨hge, hle, hexact⟩ := height.rows_adjust_grow hc more
  constructor
  · rintro ⟨hrows, hroom⟩
    have hone : more = 1 := by
      have hleast : least ≤ start := by
        rw [h.shownRows_eq] at hstart
        simp only [minResultRows] at hroom
        omega
      simp only [more, clamp_eq h.le]
      omega
    have hfits : (height.pixels / c + more + 1) * c ≤ maxWord32 :=
      Nat.le_trans (Nat.mul_le_mul_right c (by omega)) hword
    rw [hrows] at hstart
    change shownRows least most rows ((height.adjust (more * c)).pixels / c) = start + 1
    rw [hexact hfits, hone, hrows]
    exact h.shownRows_succ hstart hmost hroom
  · intro hother
    subst hstart
    exact h.shownRows_of_grown hmost (by omega) hge (by omega)

/-- A height that shrinks by a row. -/
theorem rows_of_shrunk (height : SplitHeight) (hc : 0 < c) {start : Nat}
    (hstart : shownRows least most rows (height.pixels / c) = start) (hleast : least < start) :
    let again := shownRows least most rows ((height.adjust (-(c : Int))).pixels / c)
    (height.pixels / c = start ∧ minEditorRows < start → again + 1 = start) ∧
      (¬(height.pixels / c = start ∧ minEditorRows < start) → again = start) := by
  intro again
  obtain ⟨hmany, hfew⟩ := height.rows_adjust_shrink hc
  constructor
  · rintro ⟨hrows, hmin⟩
    rw [hrows] at hstart hmany
    have htwo : 2 ≤ start := by
      have hpos := h.pos
      omega
    change shownRows least most rows ((height.adjust (-(c : Int))).pixels / c) + 1 = start
    rw [hmany htwo, h.shownRows_pred hstart hleast hmin]
    omega
  · intro hother
    subst hstart
    exact h.shownRows_of_shrunk hleast (by omega) hmany hfew

end Spans

end Layout

end QueryDesk
