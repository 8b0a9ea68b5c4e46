import Mathlib.Algebra.Order.Field.Basic
import Mathlib.Algebra.Order.Ring.Abs
import Mathlib.Data.Nat.Log
import Mathlib.Data.Rat.Defs
import Mathlib.Tactic.FieldSimp
import Mathlib.Tactic.Linarith
import Mathlib.Tactic.Positivity
import Mathlib.Tactic.Ring
import Mathlib.Tactic.SplitIfs
import QueryDesk.Number.Nearest

/-!
# The nearest float is nearest

The number that a float stands for is told by the core library's model of it, from its sign, its
mantissa and its exponent. Counted in units of the smallest size, the sizes are whole numbers, and
from some power of two on they are all multiples of the unit between a power and the next. So a
quotient that is rounded to such a multiple is as near as a size can be, and where two are as near,
the last bit is zero.
-/
namespace QueryDesk.Number

open Float.Model (Format)
open Float.Model.UnpackedFloat (Sign unpackExponent unpackMantissa unpackSign)

theorem finiteSizes_eq : finiteSizes = 2047 * 2 ^ 52 := rfl

theorem nearestRank_eq (units den : ℕ) :
    nearestRank units den = ((units / den).log2 - 52) * 2 ^ 52 +
      roundHalfEven units (den * 2 ^ ((units / den).log2 - 52)) := rfl

/-- The number that a float stands for; an infinity and what is not a number stand for none. -/
def number? (f : Float) : Option ℚ :=
  match f.toModel.unpack with
  | .zero _ => some 0
  | .finite sign mantissa exponent _ => some (sign.apply mantissa * 2 ^ exponent)
  | _ => none

/-- A number with a sign. -/
def withSign (negative : Bool) (size : ℚ) : ℚ := if negative then -size else size

/-- The first bit of a float. -/
def signBit (f : Float) : Bool := 2 ^ 63 ≤ f.toBits.toNat

/-- The float that a number with a sign is rounded to: it has the sign, no other one is nearer, and
its last bit is zero if another one is as near. -/
structure Rounded (negative : Bool) (size : ℚ) (f : Float) : Prop where
  sign : signBit f = negative
  nearest : ∃ number, number? f = some number ∧ ∀ g other, number? g = some other →
    |withSign negative size - number| ≤ |withSign negative size - other| ∧
    (other ≠ number → |withSign negative size - other| = |withSign negative size - number| →
      f.toBits.toNat % 2 = 0)

/-! ### Sizes in units -/

/-- The size of a rank, in units. -/
def unitsOf (rank : Nat) : Nat :=
  if rank < 2 ^ 52 then rank else (2 ^ 52 + rank % 2 ^ 52) * 2 ^ (rank / 2 ^ 52 - 1)

/-- The smallest size above zero. -/
def unit : ℚ := 2 ^ (-1074 : ℤ)

theorem withSign_mul (negative : Bool) (size factor : ℚ) :
    withSign negative (size * factor) = withSign negative size * factor := by
  cases negative <;> simp [withSign]

theorem unitsOf_low {rank : Nat} (h : rank / 2 ^ 52 = 0) : unitsOf rank = rank % 2 ^ 52 := by
  rw [unitsOf, if_pos (by omega), Nat.mod_eq_of_lt (by omega)]

theorem unitsOf_high {rank : Nat} (h : rank / 2 ^ 52 ≠ 0) :
    unitsOf rank = (2 ^ 52 + rank % 2 ^ 52) * 2 ^ (rank / 2 ^ 52 - 1) := by
  rw [unitsOf, if_neg (by omega)]

/-! ### The fields of a float -/

/-- The rank of a float's size, which the bits behind the sign count. -/
def rank (f : Float) : Nat := f.toBits.toNat % 2 ^ 63

section Fields

variable (f : Float)

theorem toNat_exponent :
    (@unpackExponent .binary64 f.toBits.toBitVec).toNat = rank f / 2 ^ 52 := by
  have hexponent : _ = f.toBits.toNat / 2 ^ 52 % 2 ^ 11 := toNat_unpackExponent f.toBits
  rw [hexponent, rank]
  omega

theorem toNat_mantissa :
    (@unpackMantissa .binary64 f.toBits.toBitVec).toNat = rank f % 2 ^ 52 := by
  have hmantissa : (@unpackMantissa .binary64 f.toBits.toBitVec).toNat =
      f.toBits.toNat % 2 ^ 52 := by
    simp [unpackMantissa, BitVec.extractLsb]
  rw [hmantissa, rank]
  omega

/-- The mantissa with the bit that is left out in front of it. -/
theorem toNat_implicit :
    (1#1 ++ @unpackMantissa .binary64 f.toBits.toBitVec).toNat = 2 ^ 52 + rank f % 2 ^ 52 := by
  rw [BitVec.toNat_append, Nat.shiftLeft_eq, Nat.mul_comm,
    ← Nat.two_pow_add_eq_or_of_lt (BitVec.isLt _), toNat_mantissa]
  rfl

theorem apply_sign (mantissa : ℕ) :
    ((Sign.ofBitVec (@unpackSign .binary64 f.toBits.toBitVec)).apply mantissa : ℚ) =
      withSign (signBit f) mantissa := by
  have hsign : (@unpackSign .binary64 f.toBits.toBitVec).toNat = f.toBits.toNat / 2 ^ 63 := by
    have hbits := f.toBits.toNat_lt
    delta unpackSign
    simp [BitVec.extractLsb, Nat.shiftRight_eq_div_pow]
    omega
  have hzero : @unpackSign .binary64 f.toBits.toBitVec = 0#1 ↔ ¬2 ^ 63 ≤ f.toBits.toNat := by
    rw [← BitVec.toNat_inj, hsign]
    change f.toBits.toNat / 2 ^ 63 = 0 ↔ _
    omega
  by_cases h : 2 ^ 63 ≤ f.toBits.toNat
  · have hnegative : Sign.ofBitVec (@unpackSign .binary64 f.toBits.toBitVec) = .negative :=
      if_neg fun hsign => hzero.1 hsign h
    have hbit : signBit f = true := decide_eq_true h
    simp [hnegative, hbit, Sign.apply, withSign]
  · have hpositive : Sign.ofBitVec (@unpackSign .binary64 f.toBits.toBitVec) = .positive :=
      if_pos (hzero.2 h)
    have hbit : signBit f = false := decide_eq_false h
    simp [hpositive, hbit, Sign.apply, withSign]

/-- A float stands for the size of its rank, with its sign, if that size is finite. -/
theorem number?_eq :
    number? f =
      if rank f < finiteSizes then some (withSign (signBit f) (unitsOf (rank f)) * unit)
      else none := by
  have hrank : rank f < 2048 * 2 ^ 52 := by unfold rank; omega
  have hexponent := toNat_exponent f
  have hmantissa := toNat_mantissa f
  change (match Float.Model.UnpackedFloat.unpack Format.binary64 f.toBits.toBitVec with
    | .zero _ => some 0
    | .finite sign mantissa exponent _ => some ((sign.apply mantissa : ℚ) * 2 ^ exponent)
    | _ => none) = _
  delta Float.Model.UnpackedFloat.unpack
  dsimp only
  by_cases hinfinite : rank f / 2 ^ 52 = 2047
  · have hones : @unpackExponent .binary64 f.toBits.toBitVec = -1#11 :=
      BitVec.eq_of_toNat_eq (hexponent.trans hinfinite)
    have hinfinite : ¬rank f < finiteSizes := by rw [finiteSizes_eq]; omega
    rw [if_pos hones, if_neg hinfinite]
    split_ifs <;> rfl
  have hones : @unpackExponent .binary64 f.toBits.toBitVec ≠ -1#11 := fun h =>
    hinfinite (hexponent.symm.trans (congrArg BitVec.toNat h))
  have hfinite : rank f < finiteSizes := by rw [finiteSizes_eq]; omega
  rw [if_neg hones, if_pos hfinite]
  by_cases hlow : rank f / 2 ^ 52 = 0
  · have hzeros : @unpackExponent .binary64 f.toBits.toBitVec = 0#11 :=
      BitVec.eq_of_toNat_eq (hexponent.trans hlow)
    rw [if_pos hzeros, unitsOf_low hlow]
    by_cases hzero : rank f % 2 ^ 52 = 0
    · have hnothing : @unpackMantissa .binary64 f.toBits.toBitVec = 0#52 :=
        BitVec.eq_of_toNat_eq (hmantissa.trans hzero)
      rw [dif_pos hnothing, hzero]
      simp [withSign]
    · rw [dif_neg fun h => hzero (hmantissa.symm.trans (congrArg BitVec.toNat h))]
      dsimp only
      rw [apply_sign, hmantissa, hexponent, hlow]
      rfl
  · have hzeros : @unpackExponent .binary64 f.toBits.toBitVec ≠ 0#11 := fun h =>
      hlow (hexponent.symm.trans (congrArg BitVec.toNat h))
    rw [if_neg hzeros, unitsOf_high hlow]
    dsimp only
    rw [apply_sign, toNat_implicit, hexponent, Nat.cast_mul, withSign_mul, mul_assoc, Nat.cast_pow,
      Nat.cast_two, unit, ← zpow_natCast, ← zpow_add₀ two_ne_zero]
    congr 3
    change ((rank f / 2 ^ 52 : ℕ) : ℤ) - (1023 + 52) = _
    omega

end Fields

/-! ### Rounding to whole numbers -/

/-- A whole number that is at most a half away from a quotient, and even if it is just that. -/
def IsRounding (quotient : ℚ) (whole : ℕ) : Prop :=
  2 * |quotient - whole| ≤ 1 ∧ (2 * |quotient - whole| = 1 → whole % 2 = 0)

theorem isRounding_roundHalfEven (num : ℕ) {den : ℕ} (h : 0 < den) :
    IsRounding (num / den) (roundHalfEven num den) := by
  have hden : (0 : ℚ) < den := Nat.cast_pos.2 h
  have hrest : num % den < den := Nat.mod_lt _ h
  have hnum : (num : ℚ) / den = (num / den : ℕ) + (num % den : ℕ) / den := by
    rw [div_eq_iff hden.ne', add_mul, div_mul_cancel₀ _ hden.ne']
    exact_mod_cast (Nat.div_add_mod' num den).symm
  rw [hnum, IsRounding, roundHalfEven]
  generalize num / den = whole, num % den = rest at hrest
  have hbelow : 2 * rest < den ↔ 2 * ((rest : ℚ) / den) < 1 := by
    rw [← mul_div_assoc, div_lt_one hden]
    exact_mod_cast Iff.rfl
  have habove : den < 2 * rest ↔ (1 : ℚ) < 2 * (rest / den) := by
    rw [← mul_div_assoc, one_lt_div hden]
    exact_mod_cast Iff.rfl
  have hnonneg : (0 : ℚ) ≤ rest / den := by positivity
  have hless : (rest : ℚ) / den < 1 := (div_lt_one hden).2 (Nat.cast_lt.2 hrest)
  simp only [hbelow, habove]
  generalize (rest : ℚ) / den = part at *
  have hdown : |(whole : ℚ) + part - whole| = part := by
    rw [add_sub_cancel_left, abs_of_nonneg hnonneg]
  have hup : |(whole : ℚ) + part - (whole + 1 : ℕ)| = 1 - part := by
    rw [abs_of_nonpos] <;> push_cast <;> linarith
  split_ifs with hlow hhigh
  · rw [hdown]
    exact ⟨hlow.le, fun h => absurd h hlow.ne⟩
  · rw [hup]
    exact ⟨by linarith, fun h => by linarith⟩
  · -- a half, to the even side
    rcases Nat.mod_two_eq_zero_or_one whole with heven | hodd
    · rw [heven, Nat.add_zero, hdown]
      exact ⟨not_lt.1 hhigh, fun _ => heven⟩
    · rw [hodd, hup]
      exact ⟨by linarith [not_lt.1 hlow], fun _ => by omega⟩

/-- No whole number is nearer, and the rounding is even if another one is as near. -/
theorem IsRounding.nearest {quotient : ℚ} {whole : ℕ} (h : IsRounding quotient whole)
    (other : ℕ) :
    |quotient - whole| ≤ |quotient - other| ∧
      (other ≠ whole → |quotient - other| = |quotient - whole| → whole % 2 = 0) := by
  rcases eq_or_ne other whole with rfl | hne
  · exact ⟨le_rfl, fun hne => absurd rfl hne⟩
  -- two whole numbers are at least one apart
  have hapart : (1 : ℚ) ≤ |(other : ℚ) - whole| := by
    have hint : (1 : ℤ) ≤ |(other : ℤ) - whole| := Int.one_le_abs (by omega)
    exact_mod_cast hint
  have hsum : |(other : ℚ) - whole| ≤ |quotient - other| + |quotient - whole| := by
    rw [abs_sub_comm quotient other]
    exact abs_sub_le _ _ _
  exact ⟨by linarith [h.1], fun _ heq => h.2 (le_antisymm h.1 (by linarith))⟩

theorem IsRounding.near {quotient : ℚ} {whole : ℕ} (h : IsRounding quotient whole) :
    whole - 1 / 2 ≤ quotient ∧ quotient ≤ whole + 1 / 2 := by
  obtain ⟨hbelow, habove⟩ := abs_le.1 (show |quotient - whole| ≤ 1 / 2 by linarith [h.1])
  exact ⟨by linarith, by linarith⟩

/-- A quotient is rounded to less than an even number if more than a half is missing to it. -/
theorem IsRounding.lt_iff {quotient : ℚ} {whole limit : ℕ} (h : IsRounding quotient whole)
    (hlimit : limit % 2 = 0) : whole < limit ↔ quotient < limit - 1 / 2 := by
  obtain ⟨hbelow, habove⟩ := h.near
  constructor
  · intro hlt
    have hle : (whole : ℚ) ≤ limit - 1 := by
      rw [le_sub_iff_add_le]
      exact_mod_cast hlt
    refine lt_of_le_of_ne (by linarith) fun heq => ?_
    -- the tie would be rounded to the number before, which is odd
    have hbefore : (whole : ℚ) + 1 = limit := by linarith
    have heven := h.2 (by rw [abs_of_nonneg] <;> linarith)
    have hsucc : whole + 1 = limit := by exact_mod_cast hbefore
    omega
  · intro hlt
    have hless : (whole : ℚ) < limit := by linarith
    exact_mod_cast hless

/-! ### The nearest size -/

/-- A quotient in units with its first 53 binary places rounded to a whole number, and the places
that are dropped. -/
structure Places (quotient : ℚ) (dropped whole : ℕ) : Prop where
  rounding : IsRounding (quotient / 2 ^ dropped) whole
  below : quotient < 2 ^ (53 + dropped)
  above : dropped ≠ 0 → 2 ^ (52 + dropped) ≤ quotient

theorem places_nearestRank (units : ℕ) {den : ℕ} (h : 0 < den) :
    ∃ dropped whole, nearestRank units den = dropped * 2 ^ 52 + whole ∧
      Places (units / den) dropped whole := by
  have hden : (0 : ℚ) < den := Nat.cast_pos.2 h
  refine ⟨(units / den).log2 - 52, _, nearestRank_eq units den, ?_, ?_, fun hdropped => ?_⟩
  · have hround := isRounding_roundHalfEven units (Nat.mul_pos h (Nat.two_pow_pos
      ((units / den).log2 - 52)))
    rwa [Nat.cast_mul, Nat.cast_pow, Nat.cast_two, ← div_div] at hround
  · have hlog : units / den < 2 ^ (53 + ((units / den).log2 - 52)) :=
      Nat.lt_of_lt_of_le Nat.lt_log2_self (Nat.pow_le_pow_right two_pos (by omega))
    rw [div_lt_iff₀ hden]
    exact_mod_cast (Nat.div_lt_iff_lt_mul h).1 hlog
  · have hlog : 2 ^ (52 + ((units / den).log2 - 52)) ≤ units / den := by
      have hne : units / den ≠ 0 := by
        intro hzero
        simp [hzero] at hdropped
      rw [show 52 + ((units / den).log2 - 52) = (units / den).log2 by omega]
      exact Nat.log2_self_le hne
    rw [le_div_iff₀ hden]
    exact_mod_cast (Nat.le_div_iff_mul_le h).1 hlog

namespace Places

variable {quotient : ℚ} {dropped whole : ℕ}

theorem whole_le (h : Places quotient dropped whole) : whole ≤ 2 ^ 53 := by
  have hpower : (0 : ℚ) < 2 ^ dropped := by positivity
  have hquotient : quotient / 2 ^ dropped < 2 ^ 53 := by
    rw [div_lt_iff₀ hpower, ← pow_add]
    exact h.below
  have hnear := h.rounding.near.1
  have hlt : (whole : ℚ) < (2 ^ 53 + 1 : ℕ) := by push_cast; linarith
  exact Nat.le_of_lt_succ (by exact_mod_cast hlt)

theorem le_whole (h : Places quotient dropped whole) (hdropped : dropped ≠ 0) : 2 ^ 52 ≤ whole := by
  have hpower : (0 : ℚ) < 2 ^ dropped := by positivity
  have hquotient : 2 ^ 52 ≤ quotient / 2 ^ dropped := by
    rw [le_div_iff₀ hpower, ← pow_add]
    exact h.above hdropped
  have hnear := h.rounding.near.2
  have hlt : ((2 ^ 52 : ℕ) : ℚ) < (whole + 1 : ℕ) := by push_cast; linarith
  exact Nat.le_of_lt_succ (by exact_mod_cast hlt)

/-- The rank counts the kept places, and a carry into a new place as well. -/
theorem unitsOf_eq (h : Places quotient dropped whole) :
    unitsOf (dropped * 2 ^ 52 + whole) = whole * 2 ^ dropped := by
  have hle := h.whole_le
  have hge := h.le_whole
  rcases Nat.lt_trichotomy whole (2 ^ 53) with hlt | rfl | hgt
  · by_cases hlow : whole < 2 ^ 52
    · have hnone : dropped = 0 := by omega
      rw [hnone, Nat.zero_mul, Nat.zero_add, unitsOf, if_pos hlow, Nat.pow_zero, Nat.mul_one]
    · have hplace : (dropped * 2 ^ 52 + whole) / 2 ^ 52 = dropped + 1 := by omega
      have hrest : (dropped * 2 ^ 52 + whole) % 2 ^ 52 = whole - 2 ^ 52 := by omega
      rw [unitsOf_high (by omega), hplace, hrest, Nat.add_sub_cancel,
        Nat.add_sub_cancel' (Nat.not_lt.1 hlow)]
  · have hplace : (dropped * 2 ^ 52 + 2 ^ 53) / 2 ^ 52 = dropped + 2 := by omega
    have hrest : (dropped * 2 ^ 52 + 2 ^ 53) % 2 ^ 52 = 0 := by omega
    rw [unitsOf_high (by omega), hplace, hrest, Nat.add_zero, ← Nat.pow_add, ← Nat.pow_add]
    exact congrArg (2 ^ ·) (by omega)
  · exact absurd hgt (Nat.not_lt.2 hle)

end Places

/-- A size is a multiple of a power of two, or less than what has all its places behind it. -/
theorem multiple_or_less (rank dropped : ℕ) :
    (∃ other, unitsOf rank = other * 2 ^ dropped) ∨
      dropped ≠ 0 ∧ unitsOf rank < 2 ^ (52 + dropped) := by
  rcases Nat.eq_zero_or_pos dropped with rfl | hdropped
  · exact .inl ⟨unitsOf rank, by rw [Nat.pow_zero, Nat.mul_one]⟩
  by_cases hlow : rank / 2 ^ 52 = 0
  · refine .inr ⟨hdropped.ne', ?_⟩
    rw [unitsOf_low hlow]
    exact Nat.lt_of_lt_of_le (Nat.mod_lt _ (Nat.two_pow_pos 52))
      (Nat.pow_le_pow_right two_pos (Nat.le_add_right 52 dropped))
  rw [unitsOf_high hlow]
  rcases Nat.lt_or_ge (rank / 2 ^ 52 - 1) dropped with hlt | hle
  · refine .inr ⟨hdropped.ne', ?_⟩
    have hrest : 2 ^ 52 + rank % 2 ^ 52 < 2 ^ 53 := by omega
    calc (2 ^ 52 + rank % 2 ^ 52) * 2 ^ (rank / 2 ^ 52 - 1)
        < 2 ^ 53 * 2 ^ (rank / 2 ^ 52 - 1) := Nat.mul_lt_mul_of_pos_right hrest (Nat.two_pow_pos _)
      _ = 2 ^ (53 + (rank / 2 ^ 52 - 1)) := (Nat.pow_add 2 _ _).symm
      _ ≤ 2 ^ (52 + dropped) := Nat.pow_le_pow_right two_pos (by omega)
  · refine .inl ⟨(2 ^ 52 + rank % 2 ^ 52) * 2 ^ (rank / 2 ^ 52 - 1 - dropped), ?_⟩
    rw [Nat.mul_assoc, ← Nat.pow_add, Nat.sub_add_cancel hle]

/-- No size is nearer, and the whole number is even if another one is as near. -/
theorem Places.nearest {quotient : ℚ} {dropped whole : ℕ} (h : Places quotient dropped whole)
    (rank : ℕ) :
    |quotient - (whole * 2 ^ dropped : ℕ)| ≤ |quotient - unitsOf rank| ∧
      (unitsOf rank ≠ whole * 2 ^ dropped →
        |quotient - unitsOf rank| = |quotient - (whole * 2 ^ dropped : ℕ)| → whole % 2 = 0) := by
  have hpower : (0 : ℚ) < 2 ^ dropped := by positivity
  have hscale (other : ℕ) : |quotient - (other * 2 ^ dropped : ℕ)| =
      |quotient / 2 ^ dropped - other| * 2 ^ dropped := by
    rw [← abs_of_pos hpower, ← abs_mul, abs_of_pos hpower, sub_mul, div_mul_cancel₀ _ hpower.ne']
    push_cast
    rfl
  have hmultiple (other : ℕ) :
      |quotient - (whole * 2 ^ dropped : ℕ)| ≤ |quotient - (other * 2 ^ dropped : ℕ)| := by
    rw [hscale, hscale]
    exact mul_le_mul_of_nonneg_right (h.rounding.nearest other).1 hpower.le
  rcases multiple_or_less rank dropped with ⟨other, hother⟩ | ⟨hdropped, hless⟩
  · rw [hother]
    refine ⟨hmultiple other, fun hne heq => (h.rounding.nearest other).2 ?_ ?_⟩
    · rintro rfl
      exact hne rfl
    · rw [hscale, hscale] at heq
      exact mul_right_cancel₀ hpower.ne' heq
  · -- the least number with all its places is nearer than what is below it
    have habove := h.above hdropped
    have hless : (unitsOf rank : ℚ) < 2 ^ (52 + dropped) := by exact_mod_cast hless
    have hcloser : |quotient - (2 ^ 52 * 2 ^ dropped : ℕ)| < |quotient - unitsOf rank| := by
      have hcast : ((2 ^ 52 * 2 ^ dropped : ℕ) : ℚ) = 2 ^ (52 + dropped) := by
        rw [← Nat.pow_add, Nat.cast_pow, Nat.cast_two]
      rw [hcast, abs_of_nonneg (by linarith), abs_of_nonneg (by linarith)]
      linarith
    have hlt := (hmultiple (2 ^ 52)).trans_lt hcloser
    exact ⟨hlt.le, fun _ heq => absurd heq hlt.ne'⟩

/-- On the other side of zero no size is nearer either. -/
theorem Places.nearest_signed {quotient : ℚ} {dropped whole : ℕ}
    (h : Places quotient dropped whole) (hquotient : 0 ≤ quotient) (negative : Bool) (rank : ℕ) :
    |quotient - (whole * 2 ^ dropped : ℕ)| ≤ |quotient - withSign negative (unitsOf rank)| ∧
      (withSign negative (unitsOf rank) ≠ (whole * 2 ^ dropped : ℕ) →
        |quotient - withSign negative (unitsOf rank)| = |quotient - (whole * 2 ^ dropped : ℕ)| →
          whole % 2 = 0) := by
  obtain ⟨hle, htie⟩ := h.nearest rank
  have hsame : withSign false (unitsOf rank) = unitsOf rank := rfl
  cases negative with
  | false =>
    rw [hsame]
    exact ⟨hle, fun hne => htie fun heq => hne (congrArg Nat.cast heq)⟩
  | true =>
    rcases Nat.eq_zero_or_pos (unitsOf rank) with hnone | hsome
    · have hzero : withSign true (unitsOf rank) = unitsOf rank := by simp [withSign, hnone]
      rw [hzero]
      exact ⟨hle, fun hne => htie fun heq => hne (congrArg Nat.cast heq)⟩
    · have hzero := (h.nearest 0).1
      have hunits : unitsOf 0 = 0 := rfl
      have hsome : (0 : ℚ) < unitsOf rank := Nat.cast_pos.2 hsome
      have haway : |quotient - withSign true (unitsOf rank)| = quotient + unitsOf rank := by
        rw [withSign, if_pos rfl, sub_neg_eq_add, abs_of_nonneg (by linarith)]
      rw [hunits, Nat.cast_zero, sub_zero, abs_of_nonneg hquotient] at hzero
      rw [haway]
      exact ⟨by linarith, fun _ heq => by linarith⟩

/-- The least size that is rounded to an infinity: the middle between the largest finite size and
the next power of two. -/
def overflow : ℚ := ((2 ^ 53 - 1) * 2 ^ 971 + 2 ^ 1024) / 2

theorem two_pow_mul_unit (n : ℕ) : (2 : ℚ) ^ (n + 1074) * unit = 2 ^ n := by
  have hpower : (2 : ℚ) ^ 1074 ≠ 0 := pow_ne_zero _ two_ne_zero
  rw [unit, pow_add, zpow_neg, zpow_ofNat, mul_assoc, mul_inv_cancel₀ hpower, mul_one]

theorem overflow_eq : overflow = (2 ^ 54 - 1) * 2 ^ 2044 * unit := by
  have hunits : (2 : ℚ) ^ 2044 * unit = 2 ^ 970 := two_pow_mul_unit 970
  have hlargest : (2 : ℚ) ^ 971 = 2 ^ 970 * 2 := pow_succ 2 970
  have hpower : (2 : ℚ) ^ 1024 = 2 ^ 970 * 2 ^ 54 := pow_add 2 970 54
  rw [overflow, mul_assoc, hunits, hlargest, hpower]
  generalize (2 : ℚ) ^ 970 = power
  ring

theorem lt_overflow {size : ℚ} (h : size < 2 ^ 52) : size < overflow := by
  have hlow : (1 : ℚ) ≤ 2 ^ 971 := one_le_pow₀ one_le_two
  have hhigh : (1 : ℚ) ≤ 2 ^ 1024 := one_le_pow₀ one_le_two
  unfold overflow
  generalize (2 : ℚ) ^ 971 = low, (2 : ℚ) ^ 1024 = high at *
  linarith

theorem Places.finite_iff {size : ℚ} {dropped whole : ℕ}
    (h : Places (size / unit) dropped whole) :
    dropped * 2 ^ 52 + whole < finiteSizes ↔ size < overflow := by
  have hunit : 0 < unit := zpow_pos two_pos _
  rw [overflow_eq, ← div_lt_iff₀ hunit, finiteSizes_eq]
  generalize size / unit = quotient at h
  have hpower : (0 : ℚ) < 2 ^ 2044 := pow_pos two_pos _
  rcases Nat.lt_trichotomy dropped 2045 with hlt | rfl | hgt
  · -- fewer places than the largest sizes have
    have hbelow : quotient < 2 ^ 53 * 2 ^ 2044 :=
      calc quotient < 2 ^ (53 + dropped) := h.below
        _ ≤ 2 ^ (53 + 2044) := pow_le_pow_right₀ one_le_two (by omega)
        _ = 2 ^ 53 * 2 ^ 2044 := pow_add 2 53 2044
    have hwhole := h.whole_le
    exact iff_of_true (by omega)
      (hbelow.trans (mul_lt_mul_of_pos_right (by norm_num) hpower))
  · have hrank : 2045 * 2 ^ 52 + whole < 2047 * 2 ^ 52 ↔ whole < 2 ^ 53 := by omega
    have hscale : (2 : ℚ) ^ 2045 = 2 ^ 2044 * 2 := pow_succ 2 2044
    rw [hrank, h.rounding.lt_iff (by norm_num), div_lt_iff₀ (by positivity), hscale]
    generalize (2 : ℚ) ^ 2044 = power
    rw [show ((2 ^ 53 : ℕ) - 1 / 2 : ℚ) * (power * 2) = (2 ^ 54 - 1) * power by push_cast; ring]
  · have habove : 2 ^ 54 * 2 ^ 2044 ≤ quotient :=
      calc (2 : ℚ) ^ 54 * 2 ^ 2044 = 2 ^ (54 + 2044) := (pow_add 2 54 2044).symm
        _ ≤ 2 ^ (52 + dropped) := pow_le_pow_right₀ one_le_two (by omega)
        _ ≤ quotient := h.above (by omega)
    have hwhole := h.le_whole (by omega)
    refine iff_of_false (by omega) (not_lt.2 (le_trans ?_ habove))
    exact mul_le_mul_of_nonneg_right (by norm_num) hpower.le

/-! ### Rounding to floats -/

theorem toNat_toBits_ofRank (negative : Bool) {rank : ℕ} (h : rank < finiteSizes) :
    (ofRank negative rank h).toBits.toNat = rank + if negative then 2 ^ 63 else 0 :=
  toNat_packed h

theorem signBit_ofRank (negative : Bool) {rank : ℕ} (h : rank < finiteSizes) :
    signBit (ofRank negative rank h) = negative := by
  rw [signBit, toNat_toBits_ofRank]
  rw [finiteSizes_eq] at h
  cases negative with
  | false => exact decide_eq_false (by rw [if_neg Bool.false_ne_true]; omega)
  | true => exact decide_eq_true (by rw [if_pos rfl]; omega)

theorem rank_ofRank (negative : Bool) {size : ℕ} (h : size < finiteSizes) :
    rank (ofRank negative size h) = size := by
  rw [rank, toNat_toBits_ofRank]
  rw [finiteSizes_eq] at h
  split <;> omega

theorem number?_ofRank (negative : Bool) {size : ℕ} (h : size < finiteSizes) :
    number? (ofRank negative size h) = some (withSign negative (unitsOf size * unit)) := by
  rw [number?_eq, rank_ofRank, signBit_ofRank, if_pos h, withSign_mul]

theorem number?_eq_some_iff {f : Float} {number : ℚ} :
    number? f = some number ↔
      rank f < finiteSizes ∧ withSign (signBit f) (unitsOf (rank f)) * unit = number := by
  rw [number?_eq, Option.ite_none_right_eq_some, Option.some.injEq]

theorem abs_sub_withSign (negative other : Bool) (size number : ℚ) :
    |withSign negative size - withSign other number| =
      |size - withSign (negative != other) number| := by
  have hneg : |-size - -number| = |size - number| := by rw [neg_sub_neg, abs_sub_comm]
  have hadd : |-size - number| = |size - -number| := by rw [← neg_add', abs_neg, sub_neg_eq_add]
  cases negative <;> cases other
  · rfl
  · rfl
  · exact hadd
  · exact hneg

theorem withSign_eq_iff (negative other : Bool) (size number : ℚ) :
    withSign other number = withSign negative size ↔
      withSign (negative != other) number = size := by
  have hzero := abs_sub_withSign negative other size number
  rw [eq_comm, ← sub_eq_zero, ← abs_eq_zero, hzero, abs_eq_zero, sub_eq_zero, eq_comm]

/-- The float of the nearest rank is what a quotient is rounded to. -/
theorem rounded_ofRank (negative : Bool) {units den nearest : ℕ} (hden : 0 < den)
    (hnearest : nearest = nearestRank units den) (hfinite : nearest < finiteSizes) :
    Rounded negative (units / den * unit) (ofRank negative nearest hfinite) := by
  have hunit : 0 < unit := zpow_pos two_pos _
  obtain ⟨dropped, whole, hrank, hplaces⟩ := places_nearestRank units hden
  refine ⟨signBit_ofRank negative hfinite, _, number?_ofRank negative hfinite, ?_⟩
  intro g other hother
  obtain ⟨-, rfl⟩ := number?_eq_some_iff.1 hother
  generalize signBit g = sign, rank g = size
  have hquotient : (0 : ℚ) ≤ units / den := by positivity
  obtain ⟨hle, htie⟩ := hplaces.nearest_signed hquotient (negative != sign) size
  have hdistance (other : Bool) (number : ℚ) :
      |withSign negative (units / den) * unit - withSign other number * unit| =
        |(units / den : ℚ) - withSign (negative != other) number| * unit := by
    rw [← sub_mul, abs_mul, abs_of_pos hunit, abs_sub_withSign]
  have hsame (number : ℚ) : withSign (negative != negative) number = number := by
    rw [bne_self_eq_false]
    rfl
  have hsize : unitsOf nearest = whole * 2 ^ dropped := by
    rw [hnearest, hrank, hplaces.unitsOf_eq]
  simp only [withSign_mul, hdistance, hsame, hsize]
  refine ⟨mul_le_mul_of_nonneg_right hle hunit.le, fun hne heq => ?_⟩
  have heven : whole % 2 = 0 := by
    refine htie (fun h => hne ?_) (mul_right_cancel₀ hunit.ne' heq)
    rw [(withSign_eq_iff ..).2 h]
  have hbits := toNat_toBits_ofRank negative hfinite
  split at hbits <;> omega

/-! ### There is one nearest float -/

theorem unitsOf_strictMono : StrictMono unitsOf := by
  refine strictMono_nat_of_lt_succ fun rank => ?_
  by_cases hlow : rank / 2 ^ 52 = 0
  · rw [unitsOf_low hlow]
    by_cases hnext : (rank + 1) / 2 ^ 52 = 0
    · rw [unitsOf_low hnext]
      omega
    · have hplace : (rank + 1) / 2 ^ 52 = 1 := by omega
      rw [unitsOf_high hnext, hplace, Nat.sub_self, Nat.pow_zero, Nat.mul_one]
      omega
  rw [unitsOf_high hlow, unitsOf_high (by omega)]
  by_cases hcarry : (rank + 1) % 2 ^ 52 = 0
  · have hplace : (rank + 1) / 2 ^ 52 - 1 = rank / 2 ^ 52 - 1 + 1 := by omega
    have hrest : 2 ^ 52 + rank % 2 ^ 52 < 2 ^ 52 * 2 := by omega
    rw [hcarry, hplace, Nat.add_zero]
    calc (2 ^ 52 + rank % 2 ^ 52) * 2 ^ (rank / 2 ^ 52 - 1)
        < 2 ^ 52 * 2 * 2 ^ (rank / 2 ^ 52 - 1) :=
          Nat.mul_lt_mul_of_pos_right hrest (Nat.two_pow_pos _)
      _ = 2 ^ 52 * 2 ^ (rank / 2 ^ 52 - 1 + 1) := by rw [Nat.mul_assoc, ← Nat.pow_succ']
  · have hplace : (rank + 1) / 2 ^ 52 = rank / 2 ^ 52 := by omega
    rw [hplace]
    exact Nat.mul_lt_mul_of_pos_right (by omega) (Nat.two_pow_pos _)

/-- The sign and the rank make the float. -/
theorem eq_of_rank_eq {f g : Float} (hsign : signBit f = signBit g) (hrank : rank f = rank g) :
    f = g := by
  have hbits : f.toBits = g.toBits := by
    have hfirst := decide_eq_decide.1 hsign
    have hf := f.toBits.toNat_lt
    have hg := g.toBits.toNat_lt
    unfold rank at hrank
    exact UInt64.toNat_inj.1 (by omega)
  rcases f with ⟨⟨bits, _⟩⟩
  rcases g with ⟨⟨other, _⟩⟩
  obtain rfl : bits = other := hbits
  rfl

/-- Between two numbers that are as near there is nothing but what is nearer. -/
theorem abs_sub_lt_of_between {size low middle high : ℚ} (hlow : low < middle)
    (hhigh : middle < high) (heq : |size - low| = |size - high|) :
    |size - middle| < |size - low| := by
  rcases abs_eq_abs.1 heq with heq | heq
  · linarith
  · rw [abs_of_pos (show 0 < size - low by linarith), abs_lt]
    exact ⟨by linarith, by linarith⟩

theorem Rounded.rank_le {negative : Bool} {size : ℚ} {f g : Float} (hf : Rounded negative size f)
    (hg : Rounded negative size g) : rank g ≤ rank f := by
  have hunit : 0 < unit := zpow_pos two_pos _
  obtain ⟨hfsign, a, ha, hnearest⟩ := hf
  obtain ⟨hgsign, b, hb, hnearest'⟩ := hg
  obtain ⟨-, rfl⟩ := number?_eq_some_iff.1 ha
  obtain ⟨hfinite, rfl⟩ := number?_eq_some_iff.1 hb
  refine Nat.le_of_not_lt fun hlt => ?_
  obtain ⟨hle, heven⟩ := hnearest g _ hb
  obtain ⟨hge, heven'⟩ := hnearest' f _ ha
  have hdistance (number : ℚ) :
      |withSign negative size - withSign negative number * unit| = |size - number * unit| := by
    rw [← withSign_mul, abs_sub_withSign, bne_self_eq_false]
    rfl
  rw [hfsign, hgsign] at *
  rw [hdistance, hdistance] at hle heven hge heven'
  have heq := le_antisymm hle hge
  have hsizes : (unitsOf (rank f) : ℚ) < unitsOf (rank g) :=
    Nat.cast_lt.2 (unitsOf_strictMono hlt)
  have hne : withSign negative (unitsOf (rank g)) * unit ≠
      withSign negative (unitsOf (rank f)) * unit := fun h => by
    have hsame := (withSign_eq_iff ..).1 (mul_right_cancel₀ hunit.ne' h)
    rw [bne_self_eq_false] at hsame
    exact hsizes.ne' hsame
  -- both ranks are even, so there is a size between them
  have hmiddle : rank f + 1 < rank g := by
    have hf := heven hne heq.symm
    have hg := heven' hne.symm heq
    unfold rank at hlt ⊢
    omega
  have hnumber := number?_ofRank negative (hmiddle.trans hfinite)
  rw [withSign_mul] at hnumber
  obtain ⟨hcloser, -⟩ := hnearest _ _ hnumber
  rw [hfsign, hdistance, hdistance] at hcloser
  refine absurd hcloser (not_le.2 (abs_sub_lt_of_between ?_ ?_ heq)) <;>
    refine mul_lt_mul_of_pos_right (Nat.cast_lt.2 (unitsOf_strictMono ?_)) hunit
  · exact Nat.lt_succ_self _
  · exact hmiddle

/-- There is one float that a number with a sign is rounded to. -/
theorem Rounded.unique {negative : Bool} {size : ℚ} {f g : Float} (hf : Rounded negative size f)
    (hg : Rounded negative size g) : f = g :=
  eq_of_rank_eq (hf.sign.trans hg.sign.symm) (Nat.le_antisymm (hg.rank_le hf) (hf.rank_le hg))

end QueryDesk.Number
