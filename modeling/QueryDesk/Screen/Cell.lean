import QueryDesk.Screen.Style

/-!
# Cells

The smallest place of a screen: a symbol, two colours and a weight.
-/
namespace QueryDesk.Screen

structure Cell where
  symbol : String := " "
  fg : Color := .reset
  bg : Color := .reset
  bold : Bool := false
  deriving DecidableEq, Repr, Inhabited

namespace Cell

def blank : Cell := {}

def styled (cell : Cell) (style : Style) : Cell :=
  { cell with
    fg := style.fg.getD cell.fg
    bg := style.bg.getD cell.bg
    bold := cell.bold || style.bold }

end Cell

end QueryDesk.Screen
