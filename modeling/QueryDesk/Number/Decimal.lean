import QueryDesk.Number.Nearest
import QueryDesk.Text.Blank

/-!
# Reading decimal numbers

The grammar of a number in a cell: a sign, digits with at most one point, and an
exponent. At least one digit stands before the exponent, and an exponent has at
least one. The value is rounded to the nearest binary64; what lies beyond the
largest one is no finite number.
-/
namespace QueryDesk.Number

open QueryDesk.Text (isAsciiDigit)

/-- A signed decimal: `mantissa * 10 ^ exponent`. -/
structure Decimal where
  negative : Bool
  mantissa : Nat
  exponent : Int
  deriving DecidableEq, Repr

def digitValue (c : Char) : Nat := c.toNat - '0'.toNat

/-- The value of a run of digits, read from the left. -/
def digitsValue (digits : List Char) : Nat :=
  digits.foldl (fun n c => n * 10 + digitValue c) 0

/-- A sign, if one stands first, and the rest. -/
def takeSign : List Char → Bool × List Char
  | '-' :: rest => (true, rest)
  | '+' :: rest => (false, rest)
  | cs => (false, cs)

/-- The exponent that makes up all of the text; nothing at all is zero. -/
def readExponent? : List Char → Option Int
  | [] => some 0
  | c :: rest =>
      if c = 'e' || c = 'E' then
        let (negative, digits) := takeSign rest
        if digits.isEmpty || !digits.all isAsciiDigit then none
        else some (if negative then -(digitsValue digits : Int) else digitsValue digits)
      else none

/-- The digits behind a point, if one stands first, and the rest. -/
def takePlaces : List Char → List Char × List Char
  | '.' :: rest => (rest.takeWhile isAsciiDigit, rest.dropWhile isAsciiDigit)
  | cs => ([], cs)

/-- The decimal that makes up all of the text. -/
def Decimal.read? (cs : List Char) : Option Decimal :=
  let (negative, cs) := takeSign cs
  let whole := cs.takeWhile isAsciiDigit
  let (part, rest) := takePlaces (cs.dropWhile isAsciiDigit)
  if whole.isEmpty && part.isEmpty then none
  else
    (readExponent? rest).map fun exponent =>
      { negative, mantissa := digitsValue (whole ++ part), exponent := exponent - part.length }

/-- The number of decimal digits of a positive number. -/
def digitCount (n : Nat) : Nat := (Nat.toDigits 10 n).length

/-- The size in units, as a quotient of natural numbers. -/
def Decimal.units (d : Decimal) : Nat × Nat :=
  (d.mantissa * Nat.pow 10 d.exponent.toNat * Nat.pow 2 1074, Nat.pow 10 (-d.exponent).toNat)

/-- The rank of the nearest size, were there no largest one. A size of more than 310 digits is
beyond all that are finite, and one below 330 places is nearest to zero; neither is made a
quotient. -/
def Decimal.rank (d : Decimal) : Nat :=
  let size : Int := digitCount d.mantissa + d.exponent
  if d.mantissa = 0 || size < -330 then 0
  else if 310 < size then finiteSizes
  else nearestRank d.units.1 d.units.2

/-- The nearest binary64, `none` beyond the largest finite one. -/
def Decimal.toFloat? (d : Decimal) : Option Float := ofRank? d.negative d.rank

/-- The finite number that makes up all of the text. -/
def readFloat? (cs : List Char) : Option Float :=
  (Decimal.read? cs).bind Decimal.toFloat?

end QueryDesk.Number
