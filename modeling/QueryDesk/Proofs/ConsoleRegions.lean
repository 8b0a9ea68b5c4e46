import QueryDesk.Proofs.EditorRows
import QueryDesk.Proofs.LevelledLengths

/-!
# The regions of the console

The regions lie one below the other and leave no row out, on screens of any size: where there are
too few rows for all of them, some have none. What there is to be shared are the rows down to the
lower edge of the area. These are all of its rows if the row after the last has a number; an area
that ends with the last number of all loses the row that has it.
-/
namespace QueryDesk.Layout

open Number (total total_cons)

/-- Rectangles of one column from a row down to another, each right below the one before. -/
def Stacked (x width : Nat) : Nat → List Rect → Nat → Prop
  | top, [], bottom => top = bottom
  | top, r :: below, bottom =>
      (r.x = x ∧ r.width = width ∧ r.y = top) ∧ Stacked x width (top + r.height) below bottom

instance decidableStacked (x width : Nat) :
    ∀ top rects bottom, Decidable (Stacked x width top rects bottom)
  | top, [], bottom => inferInstanceAs (Decidable (top = bottom))
  | top, r :: below, bottom =>
      have := decidableStacked x width (top + r.height) below bottom
      inferInstanceAs (Decidable ((_ ∧ _ ∧ _) ∧ _))

variable {x width top middle bottom : Nat} {rects : List Rect}

theorem stacked_append {front back : List Rect} (hfront : Stacked x width top front middle)
    (hback : Stacked x width middle back bottom) : Stacked x width top (front ++ back) bottom := by
  induction front generalizing top with
  | nil =>
    obtain rfl : top = middle := hfront
    exact hback
  | cons r below ih => exact ⟨hfront.1, ih hfront.2⟩

/-- The bands of an area are stacked in its rows if one part takes the rest of them. -/
theorem stacked_bands (area : Rect) {parts : List Part} (h : parts.count .rest = 1) :
    Stacked area.x area.width area.y (bands area parts) (area.y + area.rows) := by
  rw [← total_partLengths h area.rows]
  change Stacked _ _ _ ((placed area.y (partLengths area.rows parts)).map fun place =>
    ⟨area.x, place.1, area.width, place.2⟩) _
  generalize area.y = start
  generalize partLengths area.rows parts = lengths
  induction lengths generalizing start with
  | nil => rfl
  | cons length lengths ih =>
    rw [total_cons, ← Nat.add_assoc]
    exact ⟨⟨rfl, rfl, rfl⟩, ih (start + length)⟩

theorem length_placed (start : Nat) (lengths : List Nat) :
    (placed start lengths).length = lengths.length := by
  induction lengths generalizing start with
  | nil => rfl
  | cons length lengths ih => simp [placed, ih]

theorem length_bands (area : Rect) (parts : List Part) :
    (bands area parts).length = parts.length := by
  rw [bands, List.length_map, length_placed, length_partLengths]

theorem bands_status (area : Rect) :
    bands area [.rest, .fixed 1] =
      [⟨area.x, area.y, area.width, area.rows - 1⟩,
        ⟨area.x, area.y + (area.rows - 1), area.width, min area.rows 1⟩] := by
  rw [bands, partLengths_status]
  rfl

/-- The regions on both sides of the handle are the bands of the split region. -/
theorem bands_split (area : Rect) (basis cell : Nat) :
    let layout := consoleLayout area basis cell
    bands layout.split [.fixed (editorRows basis cell layout.split.height), .fixed 1, .fixed 1,
      .rest] = [layout.editor, layout.splitter, layout.toolbar, layout.results] := by
  have hfour {rects : List Rect} (h : rects.length = 4) :
      rects = [rects[0]?.getD default, rects[1]?.getD default, rects[2]?.getD default,
        rects[3]?.getD default] := by
    obtain ⟨editor, splitter, toolbar, results, rfl⟩ := List.length_eq_four.1 h
    rfl
  simp only [consoleLayout]
  exact hfour (length_bands ..)

theorem help_eq (area : Rect) (basis cell : Nat) :
    (consoleLayout area basis cell).help =
      ⟨area.x, area.y + (area.rows - 1), area.width, min area.rows 1⟩ :=
  congrArg (fun main => main[1]?.getD default) (bands_status area)

/-- All regions but the status line, which has the last row, are stacked in the rows before it. -/
theorem stacked_regions (area : Rect) (basis cell : Nat) :
    let layout := consoleLayout area basis cell
    Stacked area.x area.width area.y
      [layout.editor, layout.splitter, layout.toolbar, layout.results]
      (area.y + (area.rows - 1)) := by
  intro layout
  have hstacked := @stacked_bands layout.split
    [.fixed (editorRows basis cell layout.split.height), .fixed 1, .fixed 1, .rest] (by simp)
  rw [bands_split, split_eq, rows_split] at hstacked
  exact hstacked

theorem stacked_help (area : Rect) (basis cell : Nat) :
    Stacked area.x area.width (area.y + (area.rows - 1)) [(consoleLayout area basis cell).help]
      (area.y + area.rows) := by
  have hfilled : area.y + (area.rows - 1) + min area.rows 1 = area.y + area.rows := by omega
  rw [help_eq]
  exact ⟨⟨rfl, rfl, rfl⟩, hfilled⟩

/-- With six rows or more there is one for the handle, the toolbar and the status line each, the
editor has what its height asks for and the results have three, and with nine the editor has three
as well. -/
theorem heights_of_six {area : Rect} (hsix : 6 ≤ area.rows) (basis cell : Nat) :
    let layout := consoleLayout area basis cell
    layout.splitter.height = 1 ∧ layout.toolbar.height = 1 ∧ layout.help.height = 1 ∧
    layout.editor.height = editorRows basis cell layout.split.height ∧
    3 ≤ layout.results.height ∧ (9 ≤ area.rows → 3 ≤ layout.editor.height) := by
  have hheight : editorRows basis cell (area.rows - 1) ≤ area.rows - 1 - 5 := Nat.min_le_right ..
  have hlower : min 3 (area.rows - 1 - 5) ≤ editorRows basis cell (area.rows - 1) :=
    Nat.le_min.2 ⟨Nat.le_trans (Nat.min_le_left ..) (Nat.le_max_right ..), Nat.min_le_right ..⟩
  rw [consoleLayout_eq (by omega)]
  dsimp only
  omega

/-- The regions of the console lie one below the other, in the column of the area and from its first
row down to its lower edge, and all but the status line make up the split region. With six rows or
more the handle, the toolbar and the status line have a row each, the editor has the rows that its
height asks for, and the results have at least three; with nine the editor has three as well. The
rows down to the lower edge are the height of the area if that edge has a number. -/
theorem consoleLayout_stacked (area : Rect) (basis cell : Nat) :
    let layout := consoleLayout area basis cell
    let regions := [layout.editor, layout.splitter, layout.toolbar, layout.results]
    Stacked area.x area.width area.y (regions ++ [layout.help]) (area.y + area.rows) ∧
    layout.split = ⟨area.x, area.y, area.width, layout.split.height⟩ ∧
    Stacked area.x area.width area.y regions (area.y + layout.split.height) ∧
    (6 ≤ area.rows →
      layout.splitter.height = 1 ∧ layout.toolbar.height = 1 ∧ layout.help.height = 1 ∧
      layout.editor.height = editorRows basis cell layout.split.height ∧
      3 ≤ layout.results.height ∧
      (9 ≤ area.rows → 3 ≤ layout.editor.height)) ∧
    (area.y + area.height ≤ maxCoordinate → area.rows = area.height) := by
  intro layout regions
  have hregions : Stacked area.x area.width area.y regions (area.y + (area.rows - 1)) :=
    stacked_regions area basis cell
  have hsplit : layout.split = ⟨area.x, area.y, area.width, area.rows - 1⟩ :=
    split_eq area basis cell
  have hheight : layout.split.height = area.rows - 1 := congrArg Rect.height hsplit
  have hall := stacked_append hregions (stacked_help area basis cell)
  rw [← hheight] at hregions hsplit
  refine ⟨hall, hsplit, hregions, fun hsix => heights_of_six hsix basis cell, fun hedge => ?_⟩
  rw [Rect.rows_eq]
  omega

/-- Of 24 rows the editor would have 21 for its 350 pixels, and the others leave it 18. -/
theorem eighteen_of_twenty_four_rows :
    let area : Rect := ⟨0, 0, 80, 24⟩
    let layout := consoleLayout area 350 16
    9 ≤ area.rows ∧ area.y + area.height ≤ maxCoordinate ∧ area.rows = 24 ∧
    layout.editor.height = 18 ∧ 3 ≤ layout.results.height := by
  obtain ⟨-, -, -, hheights, hrows⟩ := consoleLayout_stacked ⟨0, 0, 80, 24⟩ 350 16
  obtain ⟨-, -, -, heditor, hresults, -⟩ := hheights (by decide)
  exact ⟨by decide, by decide, hrows (by decide), heditor.trans (by decide), hresults⟩

/-- Of seven rows of which the last has the last number of all, six are shared. -/
theorem last_row_left_out :
    let area : Rect := ⟨0, 65529, 80, 7⟩
    let layout := consoleLayout area 350 16
    6 ≤ area.height ∧ layout.help = ⟨0, 65534, 80, 1⟩ ∧ layout.editor.height = 0 ∧
    ¬Stacked area.x area.width area.y
      [layout.editor, layout.splitter, layout.toolbar, layout.results, layout.help]
      (area.y + area.height) := by
  decide

end QueryDesk.Layout
