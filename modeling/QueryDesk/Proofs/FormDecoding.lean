import QueryDesk.Proofs.ScanStop
import QueryDesk.Proofs.Utf8RoundTrip
import QueryDesk.Url.Percent

/-!
# Forms are read back

In a form a plus sign is a space and a percent sign with two digits a byte, and the bytes are those
of a text. What is written shows only letters, digits and six signs, none of which divides a form,
and each byte comes back from its signs.
-/
namespace QueryDesk.Url

open QueryDesk.Text (utf8 utf8Char readUtf8)

/-- A character that may stand in a written form. -/
def isFormSign (c : Char) : Bool := c.isAlphanum || ['*', '-', '.', '_', '+', '%'].contains c

def spaceForPlus (c : Char) : Char := if c = '+' then ' ' else c

/-- The text that a part of a form stands for. -/
def formDecode? (s : List Char) : Option (List Char) :=
  (readUtf8 (percentDecode (utf8 (s.map spaceForPlus)))).toOption

/-- The pairs of a form: an ampersand stands between two of them, and an equals sign in a pair. -/
def formPairs (s : List Char) : List (Option (List Char) × Option (List Char)) :=
  ((s.splitOn '&').filter (!·.isEmpty)).map fun piece =>
    (formDecode? (piece.takeWhile (· ≠ '=')), formDecode? ((piece.dropWhile (· ≠ '=')).drop 1))

variable {b : UInt8} {rest : List UInt8} {text : List Char}

theorem percentDecode_cons (h : b ≠ 37) : percentDecode (b :: rest) = b :: percentDecode rest := by
  rw [percentDecode.eq_def]
  split
  · rename_i he
    exact absurd (List.cons.inj he).1 h
  · rename_i he
    obtain ⟨rfl, rfl⟩ := List.cons.inj he
    rfl
  · rename_i he
    cases he

theorem percentDecode_digits {high low byte : UInt8} (h : hexByte? high low = some byte) :
    percentDecode (37 :: high :: low :: rest) = byte :: percentDecode rest := by
  rw [percentDecode, h]

/-- A digit is one byte, which has its value. -/
theorem utf8Char_upperHex {n : Nat} (h : n < 16) :
    utf8Char (spaceForPlus (upperHex n)) = [(upperHex n).toNat.toUInt8] ∧
      Json.hexValue? (Char.ofNat (upperHex n).toNat.toUInt8.toNat) = some n := by
  have hall : ∀ n < 16, utf8Char (spaceForPlus (upperHex n)) = [(upperHex n).toNat.toUInt8] ∧
      Json.hexValue? (Char.ofNat (upperHex n).toNat.toUInt8.toNat) = some n := by
    decide
  exact hall n h

theorem utf8Char_plain (h : isPlainInForm b = true) :
    utf8Char (spaceForPlus (Char.ofNat b.toNat)) = [b] ∧ b ≠ 37 := by
  have hall : ∀ n < 256, isPlainInForm n.toUInt8 = true →
      n < 0x80 ∧ spaceForPlus (Char.ofNat n) = Char.ofNat n ∧ n.toUInt8 ≠ 37 := by
    decide +kernel
  have hback : b.toNat.toUInt8 = b := UInt8.ofNat_toNat
  have hplain := hall b.toNat b.toNat_lt
  rw [hback] at hplain
  obtain ⟨hsmall, hspace, hne⟩ := hplain h
  rw [hspace]
  exact ⟨Text.utf8Char_one hsmall, hne⟩

/-- The signs of a byte are decoded to it, whatever follows them. -/
theorem percentDecode_formByte (b : UInt8) (rest : List UInt8) :
    percentDecode (utf8 ((formByte b).map spaceForPlus) ++ rest) = b :: percentDecode rest := by
  unfold formByte
  split
  · rename_i hplain
    obtain ⟨hbyte, hne⟩ := utf8Char_plain hplain
    rw [List.map_singleton, utf8, List.flatMap_singleton, hbyte]
    exact percentDecode_cons hne
  split
  · rename_i hspace
    rw [hspace]
    exact percentDecode_cons (by decide)
  · have hhigh : b.toNat / 16 < 16 := by
      have hb := b.toNat_lt
      omega
    have hlow : b.toNat % 16 < 16 := Nat.mod_lt _ (by decide)
    obtain ⟨hhighByte, hhighValue⟩ := utf8Char_upperHex hhigh
    obtain ⟨hlowByte, hlowValue⟩ := utf8Char_upperHex hlow
    have hbytes : utf8 ((percentByte b).map spaceForPlus) =
        [37, (upperHex (b.toNat / 16)).toNat.toUInt8, (upperHex (b.toNat % 16)).toNat.toUInt8] := by
      have hpercent : utf8Char (spaceForPlus '%') = [37] := by decide
      simp only [percentByte, utf8, List.map_cons, List.map_nil, List.flatMap_cons,
        List.flatMap_nil, hpercent, hhighByte, hlowByte, List.cons_append, List.nil_append]
    have hbyte : hexByte? (upperHex (b.toNat / 16)).toNat.toUInt8
        (upperHex (b.toNat % 16)).toNat.toUInt8 = some b := by
      have hback : (b.toNat / 16 * 16 + b.toNat % 16).toUInt8 = b := by
        rw [show b.toNat / 16 * 16 + b.toNat % 16 = b.toNat by omega]
        exact UInt8.ofNat_toNat
      simp only [hexByte?, hhighValue, hlowValue, bind, Option.bind, hback]
    rw [hbytes]
    exact percentDecode_digits hbyte

theorem percentDecode_form (bytes : List UInt8) :
    percentDecode (utf8 ((bytes.flatMap formByte).map spaceForPlus)) = bytes := by
  induction bytes with
  | nil => rfl
  | cons b bytes ih =>
    rw [List.flatMap_cons, List.map_append, utf8, List.flatMap_append, ← utf8, ← utf8,
      percentDecode_formByte, ih]

/-- A text is read back from its written form. -/
theorem formDecode?_formEncode (text : List Char) : formDecode? (formEncode text) = some text := by
  rw [formDecode?, formEncode, percentDecode_form, Text.readUtf8_utf8]
  rfl

/-- A written form shows only its signs. -/
theorem isFormSign_of_mem_formEncode {c : Char} (h : c ∈ formEncode text) :
    isFormSign c = true := by
  have hall : ∀ n < 256, (formByte n.toUInt8).all isFormSign = true := by decide +kernel
  obtain ⟨b, -, hc⟩ := List.mem_flatMap.1 h
  have hb := hall b.toNat b.toNat_lt
  have hback : b.toNat.toUInt8 = b := UInt8.ofNat_toNat
  rw [hback] at hb
  exact List.all_eq_true.1 hb c hc

/-- A name without signs of its own and a value make up one pair. -/
theorem formPairs_pair {name : List Char} (hname : ∀ c ∈ name, c ≠ '&' ∧ c ≠ '=')
    (hread : formDecode? name = some name) (value : List Char) :
    formPairs (name ++ '=' :: formEncode value) = [(some name, some value)] := by
  have hamp : '&' ∉ name ++ '=' :: formEncode value := by
    intro hmem
    obtain hmem | hmem := List.mem_append.1 hmem
    · exact (hname _ hmem).1 rfl
    obtain hmem | hmem := List.mem_cons.1 hmem
    · cases hmem
    · exact absurd (isFormSign_of_mem_formEncode hmem) (by decide)
  have hkeep : ∀ c ∈ name, decide (c ≠ '=') = true := fun c hc => by simp [hname c hc]
  have htake : (name ++ '=' :: formEncode value).takeWhile (· ≠ '=') = name :=
    Text.takeWhile_stop hkeep (by decide) _
  have hdrop : ((name ++ '=' :: formEncode value).dropWhile (· ≠ '=')).drop 1 =
      formEncode value := by
    rw [Text.dropWhile_stop hkeep (by decide)]
    rfl
  have hempty : (name ++ '=' :: formEncode value).isEmpty = false := by simp
  simp only [formPairs, List.splitOn_eq_singleton hamp, List.filter_cons, hempty, Bool.not_false,
    if_true, List.filter_nil, List.map_cons, List.map_nil, htake, hdrop, hread,
    formDecode?_formEncode]

end QueryDesk.Url
