import QueryDesk.Number.Places

/-!
# The shortest decimal of a binary64

Every finite binary64 is the nearest one to an interval of reals. Its shortest text
is the decimal with the fewest digits in that interval, the nearest of them if there
are several.
-/
namespace QueryDesk.Number

/-- A positive decimal `digits * 10 ^ exponent`. -/
structure ShortDecimal where
  digits : Nat
  exponent : Int
  deriving DecidableEq, Repr, Inhabited

/-- A quotient of natural numbers times a power of ten. -/
private def scaleTen (num den : Nat) (power : Int) : Nat × Nat :=
  if power < 0 then (num, den * Nat.pow 10 power.natAbs) else (num * Nat.pow 10 power.natAbs, den)

/-- The ends of the interval of reals that round to `m * 2^q`, doubled twice, as numerators over four
times the denominator of the value. -/
private def interval (m : Nat) (q : Int) : Nat × Nat :=
  let below := if m = Nat.pow 2 52 ∧ -1074 < q then 1 else 2
  (4 * m - below, 4 * m + 2)

/-- A decimal with `power` places that rounds to `m * 2^q`, the nearest if there are two. -/
private def onGrid? (m : Nat) (q : Int) (power : Int) : Option Nat :=
  let (low, high) := interval m q
  let unit : Nat × Nat := if q < 0 then (1, Nat.pow 2 q.natAbs) else (Nat.pow 2 q.natAbs, 1)
  let (num, den) := scaleTen unit.1 unit.2 power
  -- A grid point `n` stands for `4 * n * den` against `x * num`, where `x` is `low`, `4 * m` or `high`.
  let even := m % 2 = 0
  let holds (n : Nat) : Bool :=
    let here := 4 * n * den
    (low * num < here || (even && low * num = here))
      && (here < high * num || (even && here = high * num))
  let floor := m * num / den
  let rest := m * num % den
  if 2 * rest ≤ den then
    if 0 < floor && holds floor then some floor
    else if holds (floor + 1) then some (floor + 1) else none
  else
    if holds (floor + 1) then some (floor + 1)
    else if 0 < floor && holds floor then some floor else none

/-- The first grid of at most seventeen digits that holds such a decimal. -/
private def search (m : Nat) (q : Int) (top : Int) : Nat → ShortDecimal
  | 0 => ⟨m, 0⟩
  | left + 1 =>
      let power := (17 - left : Nat) - top
      match onGrid? m q power with
      | some digits => ⟨digits, -power⟩
      | none => search m q top left

/-- Removes zeros at the end of the digits. -/
def ShortDecimal.trim (d : ShortDecimal) : Nat → ShortDecimal
  | 0 => d
  | n + 1 => if d.digits % 10 = 0 then ShortDecimal.trim ⟨d.digits / 10, d.exponent + 1⟩ n else d

/-- The shortest decimal of a positive finite binary64. -/
def shortest (value : Float) : ShortDecimal :=
  let d := Dyadic.ofFloat value
  let (num, den) := d.ratio
  let top : Int :=
    if den ≤ num then (toString (num / den)).length
    else 1 - (toString (den / num)).length
  (search d.mantissa d.exponent top 17).trim 400

/-- How a number in an error message is written: digits with a point up to seventeen places before it
and five behind, else with a signed exponent; a whole number has one zero behind the point. -/
def shortText (value : Float) : String :=
  let sign := if (Dyadic.ofFloat value).negative then "-" else ""
  if value == 0 then sign ++ "0.0"
  else
    let d := shortest value.abs
    let digits := toString d.digits
    let point : Int := digits.length + d.exponent
    let zeros (n : Nat) := String.ofList (List.replicate n '0')
    sign ++
      if 0 ≤ d.exponent ∧ point ≤ 16 then digits ++ zeros d.exponent.toNat ++ ".0"
      else if 0 < point ∧ point ≤ 16 then
        (digits.take point.toNat).toString ++ "." ++ (digits.drop point.toNat).toString
      else if -5 < point ∧ point ≤ 0 then "0." ++ zeros point.natAbs ++ digits
      else
        let power := (if 0 < point then "e+" else "e-") ++ toString (point - 1).natAbs
        if digits.length = 1 then digits ++ power
        else (digits.take 1).toString ++ "." ++ (digits.drop 1).toString ++ power

end QueryDesk.Number
