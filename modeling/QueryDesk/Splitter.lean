import QueryDesk.Layout.Console

/-!
# The splitter

A splitter turns rows that the pointer or a key asks for into pixel deltas. Every
target is brought into the range that the container allows, and a handle that
stands outside the range never moves against the direction asked for.
-/
namespace QueryDesk

/-- A drag in progress: where it takes place and the last offset of the handle. -/
structure Drag where
  container : Rect
  offset : Nat
  deriving DecidableEq, Repr

structure Splitter where
  /-- Pixels to keep above the handle. -/
  lower : Nat
  /-- Pixels to keep below the handle. -/
  offset : Nat
  cell : Nat
  drag : Option Drag := none
  deriving DecidableEq, Repr

namespace Splitter

def ofCell (lower offset cell : Nat) : Splitter := { lower, offset, cell := max cell 1 }

/-- The rows of a screen row below the top of a container. -/
def offsetIn (container : Rect) (row : Nat) : Nat := row - container.y

def bounds (s : Splitter) (container : Rect) : Option (Nat × Nat) :=
  Layout.splitBounds s.lower s.offset s.cell container.height

/-- The offset reached and the pixels moved on the way from one offset to another, if the handle
moves. A delta has to fit 32 bits with a sign. -/
def delta? (s : Splitter) (container : Rect) (start wanted : Nat) : Option (Nat × Int) := do
  let (least, most) ← s.bounds container
  let target := Layout.clamp least most wanted
  if target = start || decide (start < wanted) != decide (start < target) then none
  else
    let delta := ((target : Int) - start) * s.cell
    if -0x80000000 ≤ delta ∧ delta < 0x80000000 then some (target, delta) else none

/-- The pointer is pressed on the handle. -/
def press (s : Splitter) (row : Nat) (container : Rect) : Splitter :=
  { s with drag := some ⟨container, offsetIn container row⟩ }

/-- The pointer moves while pressed. -/
def move (s : Splitter) (row : Nat) : Splitter × Option Int :=
  match s.drag with
  | none => (s, none)
  | some drag =>
      match s.delta? drag.container drag.offset (offsetIn drag.container row) with
      | none => (s, none)
      | some (target, delta) => ({ s with drag := some { drag with offset := target } }, some delta)

/-- The pointer is released. -/
def release (s : Splitter) : Splitter := { s with drag := none }

/-- The handle in a row is moved by some rows. -/
def nudge (s : Splitter) (rows : Int) (row : Nat) (container : Rect) : Option Int :=
  let start := offsetIn container row
  let wanted := min ((start : Int) + rows).toNat Layout.maxWord32
  (s.delta? container start wanted).map (·.2)

end Splitter

end QueryDesk
