import QueryDesk.Json.Error
import QueryDesk.Number.Decimal
import QueryDesk.Number.Shortest

/-!
# Numbers in JSON text

A number without point and exponent is an integer while it fits 64 bits. Any other is
a float: as many digits as fit 64 bits make a significand, which is then scaled by a
power of ten. Scaling is plain float arithmetic, so the last bit is not always that of
the nearest float.
-/
namespace QueryDesk.Json

open QueryDesk.Text (isAsciiDigit)

/-- The value of the longest run of digits that stays below the limit, and the digits it leaves. -/
def accumulate (limit : Nat) (value : Nat) : List Char → Nat × List Char
  | [] => (value, [])
  | c :: rest =>
      let next := value * 10 + Number.digitValue c
      if next < limit then accumulate limit next rest else (value, c :: rest)

def significandLimit : Nat := 0x10000000000000000

def exponentLimit : Nat := 0x80000000

private def powerOfTen (n : Nat) : Float := Float.ofScientific 1 false n

private def divideByTens (value : Float) (power : Nat) : Float :=
  if power ≤ 308 then value / powerOfTen power
  else if value == 0 then value
  else divideByTens (value / powerOfTen 308) (power - 308)
termination_by power

/-- A significand times a power of ten, `none` beyond the largest float. -/
def scale? (significand : Nat) (power : Int) : Option Float :=
  let value := (UInt64.ofNat significand).toFloat
  if power < 0 then some (divideByTens value power.natAbs)
  else if power ≤ 308 then
    let scaled := value * powerOfTen power.toNat
    if scaled.isFinite then some scaled else none
  else if value == 0 then some value else none

private def signed (negative : Bool) (value : Float) : Float :=
  if negative then -value else value

private def floatFound (negative : Bool) (value : Float) : Found :=
  .float (Number.shortText (signed negative value))

/-- The digits after an exponent mark and the number they complete. -/
def readScaled (negative : Bool) (significand : Nat) (power : Int) (s : List Char) :
    Except Error (Found × List Char) :=
  let (down, s) := Number.takeSign s
  match s with
  | [] => .error (.at .endInValue [])
  | c :: _ =>
      if !isAsciiDigit c then .error (.into .invalidNumber s)
      else
        let rest := s.dropWhile isAsciiDigit
        let (size, spill) := accumulate exponentLimit 0 (s.takeWhile isAsciiDigit)
        match spill with
        | [] =>
            let size : Int := if down then -size else size
            let total := max (-exponentLimit : Int) (min (exponentLimit - 1) (power + size))
            match scale? significand total with
            | some value => .ok (floatFound negative value, rest)
            | none => .error (.at .numberOutOfRange rest)
        | _ :: spill =>
            if significand ≠ 0 && !down then .error (.at .numberOutOfRange (spill ++ rest))
            else .ok (floatFound negative 0, rest)

/-- What follows the digits of a float: an exponent or nothing. -/
def readPower (negative : Bool) (significand : Nat) (power : Int) (s : List Char) :
    Except Error (Found × List Char) :=
  match s with
  | 'e' :: s => readScaled negative significand power s
  | 'E' :: s => readScaled negative significand power s
  | s =>
      match scale? significand power with
      | some value => .ok (floatFound negative value, s)
      | none => .error (.at .numberOutOfRange s)

/-- An integer, or the float it is too large for. A negative zero is a float. -/
def integerFound (negative : Bool) (significand : Nat) : Found :=
  if !negative then .integer significand
  else if significand = 0 || 0x8000000000000000 < significand then
    floatFound true (UInt64.ofNat significand).toFloat
  else .integer (-significand)

/-- A number from its first digit; its minus sign has been read. -/
def readNumber (negative : Bool) (s : List Char) : Except Error (Found × List Char) :=
  match s with
  | [] => .error (.at .endInValue [])
  | c :: rest =>
      if !isAsciiDigit c then .error (.into .invalidNumber s)
      else if c = '0' && (rest.head?.any isAsciiDigit) then .error (.into .invalidNumber rest)
      else
        let (significand, spill) := accumulate significandLimit 0 (s.takeWhile isAsciiDigit)
        match s.dropWhile isAsciiDigit with
        | '.' :: rest =>
            let digits := rest.takeWhile isAsciiDigit
            if digits.isEmpty then
              .error (if rest.isEmpty then .at .endInValue [] else .into .invalidNumber rest)
            else
              let (significand, lost) := accumulate significandLimit significand digits
              let power : Int := spill.length - (digits.length - lost.length : Nat)
              readPower negative significand power (rest.dropWhile isAsciiDigit)
        | 'e' :: rest => readScaled negative significand spill.length rest
        | 'E' :: rest => readScaled negative significand spill.length rest
        | rest =>
            if spill.isEmpty then .ok (integerFound negative significand, rest)
            else readPower negative significand spill.length rest

end QueryDesk.Json
