import QueryDesk.Screen.Panel
import QueryDesk.Screen.Paragraph

/-!
# What a drawn row shows

A row of glyphs is drawn glyph by glyph, each into the cell behind the columns of those before it.
Seen cell by cell there is no order left in it: a cell shows the glyph that begins there, in the
style of the glyph on top of its own, and a cell where none begins is as it was. Lines that are
drawn one below the other each have their own row of the screen, so each can be looked at alone.
-/
namespace QueryDesk.Screen

open Number (total_cons total_append)

variable {s : Screen} {x y column j limit used first : Nat} {row front back : List Inked}
  {glyph : Inked} {area : Rect} {lines : List Line} {line : Line}

/-- A cell with a glyph written into it, if there is one. -/
def Cell.inked : Option Inked → Cell → Cell
  | none, cell => cell
  | some (glyph, style), cell => ({ cell with symbol := glyph.symbol }).styled style

/-- The glyph whose first column a column is, in a row of glyphs from column `x` on. A glyph without
a width has no column. -/
def inkAt (x : Nat) : List Inked → Nat → Option Inked
  | [], _ => none
  | glyph :: rest, column =>
      if glyph.1.width ≠ 0 ∧ column = x then some glyph
      else inkAt (x + glyph.1.width) rest column

theorem map_inked_none (cell : Option Cell) : cell.map (Cell.inked none) = cell :=
  Option.map_id_apply

theorem inkAt_of_lt (h : column < x) : inkAt x row column = none := by
  induction row generalizing x with
  | nil => rfl
  | cons glyph row ih =>
    rw [inkAt, if_neg fun hhere => Nat.ne_of_lt h hhere.2]
    exact ih (Nat.lt_add_right _ h)

/-- A glyph stands behind the columns of the glyphs before it. -/
theorem inkAt_append (h : glyph.1.width ≠ 0) :
    inkAt x (front ++ glyph :: back) (x + inkedWidth front) = some glyph := by
  induction front generalizing x with
  | nil => exact if_pos ⟨h, rfl⟩
  | cons before front ih =>
    have hwidth : inkedWidth (before :: front) = before.1.width + inkedWidth front := total_cons ..
    rw [List.cons_append, inkAt, if_neg (by omega), hwidth, ← Nat.add_assoc]
    exact ih

/-! ### Rows -/

theorem cell?_drawRow (s : Screen) (x y : Nat) (row : List Inked) (column j : Nat) :
    (s.drawRow x y row).cell? column j =
      if j = y then (s.cell? column j).map (Cell.inked (inkAt x row column))
      else s.cell? column j := by
  induction row generalizing s x with
  | nil => simp [drawRow, inkAt, map_inked_none]
  | cons glyph row ih =>
    obtain ⟨glyph, style⟩ := glyph
    by_cases hwidth : glyph.width = 0
    · simp [drawRow, inkAt, hwidth, ih]
    · rw [drawRow, if_neg hwidth, ih, put, cell?_modify, inkAt]
      by_cases hhere : column = x
      · -- the glyphs behind this one are drawn into later columns
        have hlater : inkAt (x + glyph.width) row column = none := inkAt_of_lt (by omega)
        simp only [hhere, hwidth, ne_eq, not_false_eq_true, and_self, if_true, true_and]
          at hlater ⊢
        split
        · rw [hlater, map_inked_none]
          rfl
        · rfl
      · simp [hhere]

theorem cell?_drawRows_of_lt (x : Nat) (rows : List (List Inked)) (h : j < y) :
    (s.drawRows x y rows).cell? column j = s.cell? column j := by
  induction rows generalizing s y with
  | nil => rfl
  | cons row rows ih =>
    rw [drawRows, ih (Nat.lt_succ_of_lt h), cell?_drawRow, if_neg (Nat.ne_of_lt h)]

/-- Each of the rows is drawn as if it were the only one. -/
theorem cell?_drawRows {rows : List (List Inked)} {k : Nat} (h : rows[k]? = some row) :
    (s.drawRows x y rows).cell? column (y + k) =
      (s.cell? column (y + k)).map (Cell.inked (inkAt x row column)) := by
  induction rows generalizing s y k with
  | nil => simp at h
  | cons above rows ih =>
    cases k with
    | zero =>
      obtain rfl : above = row := by simpa using h
      rw [Nat.add_zero y, drawRows, cell?_drawRows_of_lt x rows y.lt_add_one, cell?_drawRow,
        if_pos rfl]
    | succ k =>
      rw [drawRows, Nat.add_comm k 1, ← Nat.add_assoc, ih (by simpa using h), cell?_drawRow,
        if_neg (by omega)]

/-- Below the rows nothing is drawn. -/
theorem cell?_drawRows_of_le {rows : List (List Inked)} {k : Nat} (h : rows.length ≤ k) :
    (s.drawRows x y rows).cell? column (y + k) = s.cell? column (y + k) := by
  induction rows generalizing s y k with
  | nil => rfl
  | cons above rows ih =>
    obtain ⟨k, rfl⟩ := Nat.exists_eq_add_of_lt (Nat.lt_of_lt_of_le (Nat.succ_pos _) h)
    rw [List.length_cons] at h
    rw [drawRows, show y + (0 + k + 1) = y + 1 + k by omega, ih (by omega), cell?_drawRow,
      if_neg (by omega)]

/-! ### Lines that are cut -/

/-- A row that fits is not cut. -/
theorem cutRow_of_fits (h : used + inkedWidth row ≤ limit) : cutRow limit used row = row := by
  induction row generalizing used with
  | nil => rfl
  | cons glyph row ih =>
    have hwidth : inkedWidth (glyph :: row) = glyph.1.width + inkedWidth row := total_cons ..
    rw [cutRow, if_neg (by omega), if_neg (by omega), ih (by omega)]

/-- Without any room there is nothing to see of a row. -/
theorem inkAt_cutRow_zero (x : Nat) (row : List Inked) (column : Nat) :
    inkAt x (cutRow 0 0 row) column = none := by
  induction row with
  | nil => rfl
  | cons glyph row ih =>
    by_cases hwidth : glyph.1.width = 0
    · simp [cutRow, inkAt, hwidth, ih]
    · rw [cutRow, if_pos (Nat.pos_of_ne_zero hwidth), ih]

/-- A row of a screen shows a line: from column `x` on, its glyphs as far as there is room, in the
cells of the screen before. -/
def RowShows (before after : Screen) (x y room : Nat) (line : Line) : Prop :=
  ∀ column, after.cell? column y =
    (before.cell? column y).map (Cell.inked (inkAt x (cutRow room 0 line.inked) column))

/-- In a line that fits, a glyph shows behind the columns of the glyphs before it. -/
theorem RowShows.at_glyph {before after : Screen} {room : Nat}
    (h : RowShows before after x y room line) (hfits : inkedWidth line.inked ≤ room)
    (hinked : line.inked = front ++ glyph :: back) (hwidth : glyph.1.width ≠ 0) :
    after.cell? (x + inkedWidth front) y =
      (before.cell? (x + inkedWidth front) y).map (Cell.inked (some glyph)) := by
  have hcut : cutRow room 0 line.inked = front ++ glyph :: back :=
    (cutRow_of_fits (by omega)).trans hinked
  have hcell := h (x + inkedWidth front)
  rwa [hcut, inkAt_append hwidth] at hcell

/-- The lines that are drawn are those from the first on, one in each row of the area, as long as
the number of the line after the last is a word. -/
theorem rowShows_drawLines {k : Nat} (hline : lines[first + k]? = some line) (hk : k < area.height)
    (hword : first + area.height ≤ maxCoordinate) :
    RowShows s (s.drawLines area lines first) area.x (area.y + k) area.width line := by
  intro column
  by_cases hroom : area.width = 0
  · rw [drawLines, if_pos (by simp [Rect.isEmpty, hroom]), hroom, inkAt_cutRow_zero,
      map_inked_none]
  · have hdrawn : ¬(area.isEmpty || maxCoordinate < first + area.height) = true := by
      simp [Rect.isEmpty, hroom]
      omega
    rw [drawLines, if_neg hdrawn]
    refine cell?_drawRows ?_
    rw [List.getElem?_map, List.getElem?_take_of_lt hk, List.getElem?_drop, hline]
    rfl

/-- In the rows below the last line nothing shows. -/
theorem rowShows_drawLines_below {k : Nat} (h : lines.length ≤ first + k) :
    RowShows s (s.drawLines area lines first) area.x (area.y + k) area.width [] := by
  intro column
  have hrow : inkAt area.x (cutRow area.width 0 (Line.inked [])) column = none := rfl
  rw [hrow, map_inked_none, drawLines]
  split
  · rfl
  · exact cell?_drawRows_of_le (by simp; omega)

/-- Where the number of the line after the last is not a word, no line is drawn. -/
theorem drawLines_of_overflow (h : maxCoordinate < first + area.height) :
    s.drawLines area lines first = s := by
  rw [drawLines, if_pos (by simp [h])]

/-! ### Lines inside a border -/

/-- Inside a border the rows begin one row down and one column in from the corner. -/
theorem RowShows.of_inside {before after : Screen} {k : Nat} (hk : k < area.height - 2)
    (hright : area.x + area.width ≤ maxCoordinate)
    (hbottom : area.y + area.height ≤ maxCoordinate)
    (h : RowShows before after (Panel.inside area).x ((Panel.inside area).y + k)
      (Panel.inside area).width line) :
    RowShows before after (area.x + 1) (area.y + 1 + k) (area.width - 2) line := by
  have hy : (Panel.inside area).y = area.y + 1 := by
    simp only [Panel.inside, Rect.insideBorder, Rect.bottom]
    omega
  have hroom : (Panel.inside area).width = area.width - 2 := rfl
  rw [hy, hroom] at h
  by_cases hnone : area.width - 2 = 0
  · intro column
    have hcell := h column
    rw [hnone, inkAt_cutRow_zero] at hcell ⊢
    exact hcell
  · have hx : (Panel.inside area).x = area.x + 1 := by
      simp only [Panel.inside, Rect.insideBorder, Rect.right]
      omega
    rwa [hx] at h

/-- A line that is drawn inside the border. -/
theorem rowShows_inside (before : Screen) {first k : Nat} (hline : lines[first + k]? = some line)
    (hk : k < area.height - 2) (hword : first + (area.height - 2) ≤ maxCoordinate)
    (hright : area.x + area.width ≤ maxCoordinate)
    (hbottom : area.y + area.height ≤ maxCoordinate) :
    RowShows before (before.drawLines (Panel.inside area) lines first) (area.x + 1)
      (area.y + 1 + k) (area.width - 2) line :=
  .of_inside hk hright hbottom (rowShows_drawLines hline hk hword)

/-- Row by row, lines that are drawn inside the border from the first on, and nothing below them. -/
theorem rowShows_inside_all (before : Screen) (lines : List Line) {k : Nat}
    (hk : k < area.height - 2) (hright : area.x + area.width ≤ maxCoordinate)
    (hbottom : area.y + area.height ≤ maxCoordinate) :
    RowShows before (before.drawLines (Panel.inside area) lines 0) (area.x + 1) (area.y + 1 + k)
      (area.width - 2) (lines[k]?.getD []) := by
  cases hline : lines[k]? with
  | some line =>
    exact rowShows_inside before (by rwa [Nat.zero_add]) hk (by omega) hright hbottom
  | none =>
    have hlength : lines.length ≤ 0 + k := by
      rw [Nat.zero_add]
      exact List.getElem?_eq_none_iff.1 hline
    exact .of_inside hk hright hbottom (rowShows_drawLines_below hlength)

end QueryDesk.Screen
