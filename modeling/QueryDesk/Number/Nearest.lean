import QueryDesk.Number.Places

/-!
# The nearest float

A binary64 has its sign in the first bit. The other 63 bits are the rank of its size:
they count the finite sizes in their order, zero first, and what they cannot count is
infinite. The nearest size to a quotient is found in whole numbers, in units of the
smallest size above zero, of which there are `2 ^ 1074` to one.
-/
namespace QueryDesk.Number

/-- The rank of the nearest size to a quotient in units, were there no largest one. Of the binary
places of the quotient the first 53 are kept, and each place that is dropped moves the rank on by
the `2 ^ 52` sizes between a power of two and the next. -/
def nearestRank (units den : Nat) : Nat :=
  let dropped := (units / den).log2 - 52
  dropped * Nat.pow 2 52 + roundHalfEven units (den * Nat.pow 2 dropped)

/-- The number of finite sizes. -/
def finiteSizes : Nat := 2047 * Nat.pow 2 52

/-- The bits of a sign and a rank. -/
def packed (negative : Bool) (rank : Nat) : UInt64 :=
  .ofNat (rank + if negative then Nat.pow 2 63 else 0)

theorem toNat_packed {negative : Bool} {rank : Nat} (h : rank < finiteSizes) :
    (packed negative rank).toNat = rank + if negative then Nat.pow 2 63 else 0 := by
  rw [packed, UInt64.toNat_ofNat']
  simp only [finiteSizes, Nat.pow_eq] at h ⊢
  exact Nat.mod_eq_of_lt (by split <;> omega)

theorem toNat_unpackExponent (bits : UInt64) :
    (@Float.Model.UnpackedFloat.unpackExponent .binary64 bits.toBitVec).toNat =
      bits.toNat / Nat.pow 2 52 % Nat.pow 2 11 := by
  simp [Float.Model.UnpackedFloat.unpackExponent, BitVec.extractLsb, Nat.shiftRight_eq_div_pow]

/-- The bits of a finite size stand for a number. -/
theorem valid_packed {negative : Bool} {rank : Nat} (h : rank < finiteSizes) :
    Float.Model.Format.binary64.Valid (packed negative rank).toBitVec where
  eq_packedNaN hexponent _ := by
    have hones := congrArg BitVec.toNat hexponent
    rw [toNat_unpackExponent, toNat_packed h] at hones
    simp only [finiteSizes, Nat.pow_eq] at h hones
    simp at hones
    split at hones <;> omega

/-- The float of a sign and a finite size. -/
def ofRank (negative : Bool) (rank : Nat) (h : rank < finiteSizes) : Float :=
  .ofModel ⟨packed negative rank, valid_packed h⟩

/-- The float of a sign and a rank; past the finite sizes there is none. -/
def ofRank? (negative : Bool) (rank : Nat) : Option Float :=
  if h : rank < finiteSizes then some (ofRank negative rank h) else none

end QueryDesk.Number
