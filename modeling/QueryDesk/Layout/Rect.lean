/-!
# Rectangles of cells

A rectangle has its upper left corner at a column and a row and covers a width and a
height. Coordinates on a terminal stay below `2^16`, and a right or lower edge that
would pass the last coordinate is held there.
-/
namespace QueryDesk

/-- The largest coordinate. -/
def maxCoordinate : Nat := 65535

structure Rect where
  x : Nat
  y : Nat
  width : Nat
  height : Nat
  deriving DecidableEq, Repr, Inhabited

namespace Rect

def ofSize (width height : Nat) : Rect := ⟨0, 0, width, height⟩

/-- A terminal of a size, brought down in both directions to `maxCoordinate` cells if it has more. -/
def ofTerminal (width height : Nat) : Rect :=
  if maxCoordinate < width * height then
    let ratio := Float.ofNat width / Float.ofNat height
    let rows := (Float.ofNat maxCoordinate / ratio).sqrt
    ofSize (rows * ratio).toUInt16.toNat rows.toUInt16.toNat
  else ofSize width height

/-- The column after the last one. -/
def right (r : Rect) : Nat := min (r.x + r.width) maxCoordinate

/-- The row after the last one. -/
def bottom (r : Rect) : Nat := min (r.y + r.height) maxCoordinate

/-- The columns up to the right edge: the width, as far as there are coordinates. -/
def columns (r : Rect) : Nat := r.right - r.x

/-- The rows down to the lower edge: the height, as far as there are coordinates. -/
def rows (r : Rect) : Nat := r.bottom - r.y

def isEmpty (r : Rect) : Bool := r.width = 0 || r.height = 0

/-- Whether the cell at a column and a row lies inside. -/
def hit (r : Rect) (column row : Nat) : Bool :=
  r.x ≤ column && column < r.right && r.y ≤ row && row < r.bottom

/-- The cells of both. -/
def intersection (r s : Rect) : Rect :=
  let x := max r.x s.x
  let y := max r.y s.y
  ⟨x, y, min r.right s.right - x, min r.bottom s.bottom - y⟩

/-- What a one-cell border on every side leaves. -/
def insideBorder (r : Rect) : Rect :=
  ⟨min (r.x + 1) r.right, min (r.y + 1) r.bottom, r.width - 2, r.height - 2⟩

/-- Without the first and the last row; nothing is left of fewer than two rows. -/
def withoutEndRows (r : Rect) : Rect :=
  if r.height < 2 then ⟨0, 0, 0, 0⟩ else ⟨r.x, r.y + 1, r.width, r.height - 2⟩

/-- Without a number of columns on the left. -/
def indent (r : Rect) (columns : Nat) : Rect :=
  ⟨r.x + columns, r.y, r.width - columns, r.height⟩

theorem rows_eq (r : Rect) : r.rows = min r.height (maxCoordinate - r.y) := by
  unfold rows bottom
  omega

theorem rows_le_height (r : Rect) : r.rows ≤ r.height := by
  rw [rows_eq]
  exact Nat.min_le_left ..

theorem rows_pred_le {r : Rect} {limit : Nat} (h : r.height ≤ limit) : r.rows - 1 ≤ limit :=
  Nat.le_trans (Nat.sub_le ..) (Nat.le_trans r.rows_le_height h)

theorem hit_iff (r : Rect) (column row : Nat) :
    r.hit column row = true ↔
      (r.x ≤ column ∧ column < r.right) ∧ r.y ≤ row ∧ row < r.bottom := by
  simp [hit, and_assoc]

end Rect

end QueryDesk
