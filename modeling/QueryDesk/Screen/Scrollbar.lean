import QueryDesk.Number.Places
import QueryDesk.Screen.Basic

/-!
# The scroll bar

A bar in the last column of an area: an arrow at either end and a track between
them on which a thumb shows the place and the share of what is in view.
-/
namespace QueryDesk.Screen

structure Scrollbar where
  /-- How many positions there are. -/
  length : Nat
  position : Nat
  deriving DecidableEq, Repr, Inhabited

namespace Scrollbar

/-- The first row of the thumb on the track, and its length, for a view of some rows. -/
def thumb (bar : Scrollbar) (track view : Nat) : Nat × Nat :=
  let last := bar.length - 1
  let start := min bar.position last
  let places := last + view
  let first := min (Number.roundHalfUp (start * track) places) (track - 1)
  let past := min (Number.roundHalfUp ((start + view) * track) places) track
  (first, max (past - first) 1)

/-- The symbols from top to bottom. -/
def symbols (bar : Scrollbar) (rows : Nat) : List String :=
  let track := rows - 2
  let (first, length) := bar.thumb track rows
  "↑" :: List.replicate first "║" ++ List.replicate length "█"
    ++ List.replicate (track - (first + length)) "║" ++ ["↓"]

/-- Draws the bar; an area without room for a track stays as it is. -/
def draw (bar : Scrollbar) (s : Screen) (area : Rect) : Screen :=
  if bar.length = 0 || area.height ≤ 2 || area.width = 0 then s
  else
    (bar.symbols area.height).zipIdx.foldl
      (fun s (symbol, i) => s.put (area.right - 1) (area.y + i) symbol .plain) s

end Scrollbar

end QueryDesk.Screen
