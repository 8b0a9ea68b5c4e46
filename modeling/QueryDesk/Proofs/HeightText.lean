import Mathlib.Algebra.Group.Nat.Defs
import QueryDesk.Proofs.WrittenSettings

/-!
# The texts that hold a height

A stored text holds a height if it begins with one: blanks, at most one plus sign and a run of
digits, whatever comes behind the run. Zeros in front of the digits do not count. All other texts
stand for the default, those with a number that is no height among them.
-/
namespace QueryDesk

open QueryDesk.Text (isBlank isAsciiDigit)

/-- The parts of a text that begins with a number: blanks, at most one plus sign, a run of digits
that is not empty and as long as can be, and anything else. -/
structure NumberText (text : List Char) where
  blanks : List Char
  plus : List Char
  digits : List Char
  rest : List Char
  text_eq : text = blanks ++ (plus ++ (digits ++ rest))
  isBlank_of_mem : ∀ c ∈ blanks, isBlank c = true
  plus_eq : plus = [] ∨ plus = ['+']
  digits_ne_nil : digits ≠ []
  isDigit_of_mem : ∀ c ∈ digits, c.isDigit = true
  rest_head : ∀ c ∈ rest.head?, c.isDigit = false

namespace NumberText

variable {text : List Char}

/-- The number that the digits stand for. -/
def value (t : NumberText text) : Nat := Nat.ofDigitChars 10 t.digits 0

end NumberText

namespace SplitHeight

variable {text : List Char} {n : Nat}

/-- The text without a plus sign in front. -/
def dropPlus (text : List Char) : List Char := if text.head? = some '+' then text.tail else text

/-- The digits that are read for a height. -/
def digitsOf (text : List Char) : List Char :=
  (dropPlus (Text.dropBlanks text)).takeWhile isAsciiDigit

theorem ofText_eq (text : String) :
    ofText text = ofNat (Nat.ofDigitChars 10 (digitsOf text.toList) 0) := by
  rw [← Number.digitsValue_eq]
  rfl

/-- The digits that are read are those behind the blanks and the plus sign. -/
theorem digitsOf_eq (t : NumberText text) : digitsOf text = t.digits := by
  obtain ⟨first, more, hfirst⟩ := List.exists_cons_of_ne_nil t.digits_ne_nil
  have hdigit : first.isDigit = true := t.isDigit_of_mem first (hfirst ▸ List.mem_cons_self ..)
  have hblanks : Text.dropBlanks text = t.plus ++ (t.digits ++ t.rest) := by
    refine (congrArg Text.dropBlanks t.text_eq).trans (Text.dropBlanks_append t.isBlank_of_mem ?_)
    rcases t.plus_eq with hplus | hplus
    · simp [hplus, hfirst, Text.not_isBlank_of_isDigit hdigit]
    · simp [hplus, show isBlank '+' = false by decide]
  have hplus : dropPlus (t.plus ++ (t.digits ++ t.rest)) = t.digits ++ t.rest := by
    rcases t.plus_eq with hplus | hplus
    · have hsign : first ≠ '+' := by
        rintro rfl
        exact absurd hdigit (by decide)
      rw [hplus, hfirst, dropPlus, if_neg (by simpa using hsign)]
      rfl
    · rw [hplus]
      rfl
  have hrest : t.rest.takeWhile isAsciiDigit = [] := by
    cases hrest : t.rest with
    | nil => rfl
    | cons c rest =>
      exact List.takeWhile_cons_of_neg
        (by simp [Text.isAsciiDigit_eq, t.rest_head c (by simp [hrest])])
  have hdigits : ∀ c ∈ t.digits, isAsciiDigit c = true := fun c hc =>
    Text.isAsciiDigit_of_isDigit (t.isDigit_of_mem c hc)
  rw [digitsOf, hblanks, hplus, List.takeWhile_append_of_pos hdigits, hrest, List.append_nil]

/-- A text of which some digits are read begins with a number. -/
theorem exists_numberText (h : digitsOf text ≠ []) :
    ∃ t : NumberText text, t.digits = digitsOf text := by
  have hhead : ∀ c ∈ ((dropPlus (Text.dropBlanks text)).dropWhile isAsciiDigit).head?,
      c.isDigit = false := by
    intro c hc
    have hstop := List.head?_dropWhile_not isAsciiDigit (dropPlus (Text.dropBlanks text))
    rw [Option.mem_def.1 hc] at hstop
    exact hstop
  obtain ⟨plus, hplus, hsplit⟩ : ∃ plus, (plus = [] ∨ plus = ['+']) ∧
      Text.dropBlanks text = plus ++ dropPlus (Text.dropBlanks text) := by
    by_cases hsign : (Text.dropBlanks text).head? = some '+'
    · refine ⟨['+'], .inr rfl, ?_⟩
      rw [dropPlus, if_pos hsign]
      obtain ⟨more, hmore⟩ := List.head?_eq_some_iff.1 hsign
      rw [hmore]
      rfl
    · refine ⟨[], .inl rfl, ?_⟩
      rw [dropPlus, if_neg hsign, List.nil_append]
  refine ⟨⟨text.takeWhile isBlank, plus, digitsOf text, _, ?_, ?_, hplus, h, ?_, hhead⟩, rfl⟩
  · rw [digitsOf, List.takeWhile_append_dropWhile, ← hsplit, Text.dropBlanks,
      List.takeWhile_append_dropWhile]
  · exact fun c hc => List.mem_takeWhile_imp hc
  · exact fun c hc => List.mem_takeWhile_imp hc

theorem pixels_ofNat (hpos : 1 ≤ n) (hmax : n ≤ Layout.maxWord32) : (ofNat n).pixels = n := by
  rw [ofNat, dif_pos ⟨hpos, hmax⟩]

theorem ofNat_of_not_range (h : ¬(1 ≤ n ∧ n ≤ Layout.maxWord32)) : ofNat n = standard :=
  dif_neg h

/-- The text of a height is its digits, and the first of them is not a zero. -/
theorem text_digits (height : SplitHeight) :
    (∀ c ∈ height.text.toList, c.isDigit = true) ∧ height.text.toList ≠ [] ∧
      height.text.toList.head? ≠ some '0' := by
  have htext : height.text.toList = Nat.toDigits 10 height.pixels := Nat.toList_repr
  rw [htext]
  refine ⟨fun c => Nat.isDigit_of_mem_toDigits (by decide) (by decide), Nat.toDigits_ne_nil,
    fun hzero => ?_⟩
  have hpos := height.pos
  rw [Number.head?_toDigits hzero] at hpos
  exact Nat.lt_irrefl 0 hpos

/-- A text that begins with a number from 1 to 4294967295 stands for that height, and every other
text for 350 pixels. What is stored for a height stands for it, and has nothing but its digits, no
zero in front. -/
theorem stored_text_read (text : String) :
    (∀ t : NumberText text.toList, 1 ≤ t.value → t.value ≤ 2 ^ 32 - 1 →
      (ofStored (some text)).pixels = t.value) ∧
    ((∀ t : NumberText text.toList, ¬(1 ≤ t.value ∧ t.value ≤ 2 ^ 32 - 1)) →
      (ofStored (some text)).pixels = 350) ∧
    ∀ height : SplitHeight, ofStored (some height.text) = height ∧
      (∀ c ∈ height.text.toList, c.isDigit = true) ∧ height.text.toList ≠ [] ∧
      height.text.toList.head? ≠ some '0' := by
  have hread : ofStored (some text) = ofNat (Nat.ofDigitChars 10 (digitsOf text.toList) 0) :=
    ofText_eq text
  refine ⟨fun t hpos hmax => ?_, fun hnone => ?_,
    fun height => ⟨ofStored_text height, height.text_digits⟩⟩
  · rw [hread, digitsOf_eq t]
    exact pixels_ofNat hpos hmax
  · have hrange : ¬(1 ≤ Nat.ofDigitChars 10 (digitsOf text.toList) 0 ∧
        Nat.ofDigitChars 10 (digitsOf text.toList) 0 ≤ Layout.maxWord32) := by
      by_cases hdigits : digitsOf text.toList = []
      · rw [hdigits]
        decide
      · obtain ⟨t, ht⟩ := exists_numberText hdigits
        rw [← ht]
        exact hnone t
    rw [hread, ofNat_of_not_range hrange]
    rfl

/-- The parts of a padded number. -/
def padded : NumberText "\t +0042px".toList where
  blanks := ['\t', ' ']
  plus := ['+']
  digits := ['0', '0', '4', '2']
  rest := ['p', 'x']
  text_eq := by decide
  isBlank_of_mem := List.all_eq_true.1 (by decide)
  plus_eq := .inr rfl
  digits_ne_nil := by decide
  isDigit_of_mem := List.all_eq_true.1 (by decide)
  rest_head := by
    rintro c ⟨⟩
    rfl

/-- Blanks, a plus sign, zeros in front and what stands behind the digits do not count. A minus sign
is not taken for a number's. -/
theorem padded_text_read :
    (ofStored (some "\t +0042px")).pixels = 42 ∧ (ofStored (some "-5")).pixels = 350 := by
  constructor
  · exact (stored_text_read "\t +0042px").1 padded (by decide) (by decide)
  · refine (stored_text_read "-5").2.1 fun t => ?_
    have hdigits : t.digits = [] := by
      rw [← digitsOf_eq t]
      decide
    exact absurd hdigits t.digits_ne_nil

end SplitHeight

end QueryDesk
