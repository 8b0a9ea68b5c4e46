/-!
# Numbers with fixed places

A binary64 is an exact fraction `±m * 2^q`. Its text with a fixed number of places
is the nearest decimal, and a value half-way between two goes to the even one.
-/
namespace QueryDesk.Number

/-- A finite binary64 as the exact value `±mantissa * 2^exponent`. -/
structure Dyadic where
  negative : Bool
  mantissa : Nat
  exponent : Int
  deriving DecidableEq, Repr

def Dyadic.ofFloat (value : Float) : Dyadic :=
  let bits := value.toBits.toNat
  let fraction := bits % Nat.pow 2 52
  let biased := bits / Nat.pow 2 52 % Nat.pow 2 11
  { negative := bits / Nat.pow 2 63 = 1
    mantissa := if biased = 0 then fraction else fraction + Nat.pow 2 52
    exponent := (if biased = 0 then 1 else biased : Nat) - 1075 }

/-- The size as a quotient of natural numbers. -/
def Dyadic.ratio (d : Dyadic) : Nat × Nat :=
  if d.exponent < 0 then (d.mantissa, Nat.pow 2 d.exponent.natAbs)
  else (d.mantissa * Nat.pow 2 d.exponent.natAbs, 1)

/-- The nearest whole number to a quotient; a half goes to the even neighbour. -/
def roundHalfEven (num den : Nat) : Nat :=
  let q := num / den
  let twice := 2 * (num % den)
  if twice < den then q
  else if den < twice then q + 1
  else q + q % 2

/-- The nearest whole number to a quotient; a half goes up. -/
def roundHalfUp (num den : Nat) : Nat := (2 * num + den) / (2 * den)

/-- `digits` with zeros before it up to `width`. -/
def padZeros (width : Nat) (digits : String) : String :=
  String.ofList (List.replicate (width - digits.length) '0') ++ digits

/-- The text with exactly `places` digits after the point. -/
def fixedPlaces (places : Nat) (value : Float) : String :=
  let d := Dyadic.ofFloat value
  let (num, den) := d.ratio
  let scaled := roundHalfEven (num * Nat.pow 10 places) den
  (if d.negative then "-" else "") ++ toString (scaled / Nat.pow 10 places) ++ "."
    ++ padZeros places (toString (scaled % Nat.pow 10 places))

/-- The whole number that a binary64 is, if it is one. -/
def wholeValue? (value : Float) : Option Int :=
  let d := Dyadic.ofFloat value
  let (num, den) := d.ratio
  if num % den = 0 then some (if d.negative then -(num / den : Int) else (num / den : Int))
  else none

end QueryDesk.Number
