import QueryDesk.Screen.Panel

/-!
# Horizontal bars

One row for each bar: its label, a gap, and the bar with its value written over the
start. The bars begin behind the longest label.
-/
namespace QueryDesk.Screen

structure LabelledBar where
  label : String
  /-- The length of the bar out of `top`. -/
  length : Nat
  value : String
  deriving DecidableEq, Repr, Inhabited

/-- The colours of bars. -/
structure BarStyle where
  bar : Style
  value : Style
  deriving DecidableEq, Repr, Inhabited

namespace BarStyle

/-- Draws one bar of `length` cells, then its value: the part on the bar and the part behind it have
styles of their own. -/
def drawBar (style : BarStyle) (s : Screen) (area : Rect) (length : Nat) (value : String) :
    Screen :=
  let s := (List.range area.width).foldl
    (fun s i => s.put (area.x + i) area.y (if i < length then "█" else " ") style.bar) s
  let s := (s.writeLabel area.x area.y value length style.value).1
  if length < value.length then
    (s.writeLabel (area.x + length) area.y (value.drop length).toString
      (area.width - length) style.bar).1
  else s

/-- Draws as many bars as there are rows; a length is a share of `top`. -/
def draw (style : BarStyle) (s : Screen) (area : Rect) (top : Nat) (bars : List LabelledBar) :
    Screen :=
  if area.isEmpty then s
  else
    let labels := bars.map fun bar => plainSpans bar.label
    let longest := (labels.map Line.columns).foldl max 0
    let gap := if longest = 0 then 0 else 1
    let x := area.x + longest + gap
    let width := area.width - longest - gap
    ((bars.zip labels).take area.height).zipIdx.foldl
      (fun s ((bar, label), i) =>
        let row : Rect := ⟨x, area.y + i, width, 1⟩
        let length := bar.length * width * 8 / top / 8
        style.drawBar (s.writeLabels area.x row.y longest label) row length bar.value)
      s

end BarStyle

end QueryDesk.Screen
