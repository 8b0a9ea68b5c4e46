/-!
# Styles

A style says what to change about a cell: a colour that is not given stays as it
is, and bold can be added but not taken away.
-/
namespace QueryDesk.Screen

inductive Color where
  | reset | black | red | green | yellow | blue | magenta | cyan | gray | darkGray | white
  deriving DecidableEq, Repr, Inhabited

structure Style where
  fg : Option Color := none
  bg : Option Color := none
  bold : Bool := false
  deriving DecidableEq, Repr, Inhabited

namespace Style

def plain : Style := {}

/-- Nothing but a foreground colour. -/
def ink (color : Color) : Style := { fg := some color }

def on (style : Style) (color : Color) : Style := { style with bg := some color }

def inBold (style : Style) : Style := { style with bold := true }

/-- The second style on top of the first. -/
def patch (lower upper : Style) : Style :=
  { fg := upper.fg <|> lower.fg, bg := upper.bg <|> lower.bg, bold := lower.bold || upper.bold }

end Style

/-- A piece of text in one style. -/
structure Span where
  text : String
  style : Style
  deriving DecidableEq, Repr, Inhabited

abbrev Line := List Span

end QueryDesk.Screen
