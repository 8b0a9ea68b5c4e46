import QueryDesk.Layout.Rect
import QueryDesk.Screen.Cell

/-!
# The screen

Rows of cells. A change aimed outside
the screen changes nothing, so every operation is total.
-/
namespace QueryDesk

structure Screen where
  width : Nat
  height : Nat
  rows : Array (Array Screen.Cell)
  deriving DecidableEq, Repr, Inhabited

namespace Screen

/-- An empty screen. -/
def blank (width height : Nat) : Screen :=
  { width, height, rows := Array.replicate height (Array.replicate width Cell.blank) }

def area (s : Screen) : Rect := Rect.ofSize s.width s.height

def cell? (s : Screen) (x y : Nat) : Option Cell := do
  let row ← s.rows[y]?
  row[x]?

/-- Changes one cell. -/
def modify (s : Screen) (x y : Nat) (f : Cell → Cell) : Screen :=
  { s with rows := s.rows.modify y (·.modify x f) }

/-- Puts a symbol into a cell, in a style on top of the cell's own. -/
def put (s : Screen) (x y : Nat) (symbol : String) (style : Style) : Screen :=
  s.modify x y fun cell => ({ cell with symbol }).styled style

/-- Empties the cells of a row from a column up to another. -/
def clear (s : Screen) (x y count : Nat) : Screen :=
  (List.range count).foldl (fun s i => s.modify (x + i) y fun _ => Cell.blank) s

/-- Applies `f` to the screen for every column and row of a rectangle. -/
def foldArea (s : Screen) (r : Rect) (f : Screen → Nat → Nat → Screen) : Screen :=
  (List.range r.height).foldl
    (fun s j => (List.range r.width).foldl (fun s i => f s (r.x + i) (r.y + j)) s) s

/-- Changes the style of every cell of a rectangle. -/
def paint (s : Screen) (r : Rect) (style : Style) : Screen :=
  s.foldArea (r.intersection s.area) fun s x y => s.modify x y (·.styled style)

/-- The symbols of a row, joined. -/
def rowText (row : Array Cell) : String := String.join (row.toList.map (·.symbol))

/-- A change aimed at one cell is seen there and nowhere else. -/
theorem cell?_modify (s : Screen) (x y i j : Nat) (f : Cell → Cell) :
    (s.modify x y f).cell? i j =
      if i = x ∧ j = y then (s.cell? i j).map f else s.cell? i j := by
  by_cases hy : j = y
  · subst hy
    cases hr : s.rows[j]? with
    | none => simp [modify, cell?, Array.getElem?_modify, hr]
    | some row =>
      by_cases hx : i = x
      · subst hx
        simp [modify, cell?, Array.getElem?_modify, hr]
      · simp [modify, cell?, Array.getElem?_modify, hr, hx, Ne.symm hx]
  · simp [modify, cell?, Array.getElem?_modify, hy, Ne.symm hy]

end Screen

end QueryDesk
