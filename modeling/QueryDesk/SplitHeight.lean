import QueryDesk.Layout.Console
import QueryDesk.Number.Decimal

/-!
# The stored editor height

The height of the editor in pixels is at least one and fits 32 bits. It is stored as
decimal text and read leniently: blanks and one plus sign may stand before the
digits and anything behind them. Text that gives no such height means the default.
-/
namespace QueryDesk

/-- A height in pixels. -/
structure SplitHeight where
  pixels : Nat
  pos : 0 < pixels
  le_max : pixels ≤ Layout.maxWord32
  deriving DecidableEq

namespace SplitHeight

/-- The height when none is stored. -/
def standard : SplitHeight := ⟨350, by decide, by decide⟩

instance : Inhabited SplitHeight := ⟨standard⟩

/-- A number of pixels, or the default if it is out of range. -/
def ofNat (n : Nat) : SplitHeight :=
  if h : 0 < n ∧ n ≤ Layout.maxWord32 then ⟨n, h.1, h.2⟩ else standard

theorem ofNat_pixels (height : SplitHeight) : ofNat height.pixels = height := by
  simp [ofNat, height.pos, height.le_max]

/-- The height that a stored text begins with. -/
def ofText (text : String) : SplitHeight :=
  let cs := Text.dropBlanks text.toList
  let cs := if cs.head? = some '+' then cs.tail else cs
  ofNat (Number.digitsValue (cs.takeWhile Text.isAsciiDigit))

/-- The height of a store that may have no text. -/
def ofStored (stored : Option String) : SplitHeight := (stored.map ofText).getD standard

/-- The text that is stored. -/
def text (height : SplitHeight) : String := toString height.pixels

/-- The height moved by some pixels and held in range. -/
def adjust (height : SplitHeight) (delta : Int) : SplitHeight :=
  ⟨max 1 (min ((height.pixels : Int) + delta).toNat Layout.maxWord32), by omega, by
    have : 1 ≤ Layout.maxWord32 := by decide
    omega⟩

end SplitHeight

end QueryDesk
