import Mathlib.Data.List.TakeWhile
import QueryDesk.SplitHeight

/-!
# Stored heights

A height is stored in decimal digits, and reading takes exactly them: no blank or sign stands
before them and nothing behind them.
-/
namespace QueryDesk

open QueryDesk.Text (isBlank isAsciiDigit)

theorem Number.digitsValue_eq (digits : List Char) :
    digitsValue digits = Nat.ofDigitChars 10 digits 0 := by
  rw [digitsValue, Nat.ofDigitChars_eq_foldl]
  simp only [digitValue, Nat.mul_comm]

theorem Number.digitsValue_toDigits (n : Nat) : digitsValue (Nat.toDigits 10 n) = n := by
  rw [digitsValue_eq, Nat.ofDigitChars_ten_toDigits]

theorem Text.isAsciiDigit_eq (c : Char) : isAsciiDigit c = c.isDigit := rfl

theorem Text.isAsciiDigit_of_isDigit {c : Char} (h : c.isDigit = true) : isAsciiDigit c = true := by
  rw [isAsciiDigit_eq, h]

theorem Text.not_isBlank_of_isDigit {c : Char} (h : c.isDigit = true) : isBlank c = false := by
  have hrange : 48 ≤ c.toNat ∧ c.toNat ≤ 57 := by
    simp only [Char.isDigit, Bool.and_eq_true, decide_eq_true_eq] at h
    exact ⟨UInt32.le_iff_toNat_le.1 h.1, UInt32.le_iff_toNat_le.1 h.2⟩
  simp only [isBlank, Bool.or_eq_false_iff, Bool.and_eq_false_iff, decide_eq_false_iff_not]
  omega

namespace SplitHeight

/-- A stored height is read back. -/
theorem ofText_text (height : SplitHeight) : ofText height.text = height := by
  have htext : height.text.toList = Nat.toDigits 10 height.pixels := Nat.toList_repr
  have hdigit : ∀ c ∈ Nat.toDigits 10 height.pixels, c.isDigit = true := fun c =>
    Nat.isDigit_of_mem_toDigits (by decide) (by decide)
  obtain ⟨first, rest, hfirst⟩ := List.exists_cons_of_ne_nil
    (Nat.toDigits_ne_nil (n := height.pixels) (b := 10))
  have hhead : first.isDigit = true := hdigit first (hfirst ▸ List.mem_cons_self ..)
  have hblank : Text.dropBlanks (Nat.toDigits 10 height.pixels) =
      Nat.toDigits 10 height.pixels := by
    rw [hfirst, Text.dropBlanks]
    exact List.dropWhile_cons_of_neg (by simp [Text.not_isBlank_of_isDigit hhead])
  have hplus : (Nat.toDigits 10 height.pixels).head? ≠ some '+' := by
    rw [hfirst]
    rintro ⟨⟩
    exact absurd hhead (by decide)
  have hall : (Nat.toDigits 10 height.pixels).takeWhile isAsciiDigit =
      Nat.toDigits 10 height.pixels :=
    List.takeWhile_eq_self_iff.2 fun c hc => Text.isAsciiDigit_of_isDigit (hdigit c hc)
  rw [ofText, htext, hblank, if_neg hplus, hall, Number.digitsValue_toDigits, ofNat_pixels]

theorem ofStored_text (height : SplitHeight) : ofStored (some height.text) = height := by
  rw [ofStored, Option.map_some, Option.getD_some, ofText_text]

end SplitHeight

end QueryDesk
