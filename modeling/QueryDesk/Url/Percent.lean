import QueryDesk.Json.Quoted
import QueryDesk.Text.Utf8

/-!
# Percent encoding

A byte is written as a percent sign and two hexadecimal digits. In a form, letters,
digits and four signs stand for themselves and a space is a plus sign; every other
byte is written that way.
-/
namespace QueryDesk.Url

/-- A digit of base sixteen, letters in upper case. -/
def upperHex (n : Nat) : Char := (Nat.digitChar n).toUpper

def percentByte (b : UInt8) : List Char :=
  ['%', upperHex (b.toNat / 16), upperHex (b.toNat % 16)]

/-- A text in which all but some characters are written as their bytes. -/
def percentEncode (keep : Char → Bool) (text : List Char) : List Char :=
  text.flatMap fun c => if keep c then [c] else (Text.utf8Char c).flatMap percentByte

theorem mem_percentByte {b : UInt8} {c : Char} (h : c ∈ percentByte b) :
    c = '%' ∨ ∃ n < 16, c = upperHex n := by
  have hlow : b.toNat % 16 < 16 := Nat.mod_lt _ (by decide)
  have hhigh : b.toNat / 16 < 16 := by
    have hb := b.toNat_lt
    omega
  simp only [percentByte, List.mem_cons, List.not_mem_nil, or_false] at h
  obtain h | h | h := h
  · exact .inl h
  · exact .inr ⟨_, hhigh, h⟩
  · exact .inr ⟨_, hlow, h⟩

/-- What is written is a character that is kept, or a sign or digit for a byte. -/
theorem mem_percentEncode {keep : Char → Bool} {text : List Char} {c : Char}
    (h : c ∈ percentEncode keep text) :
    (c ∈ text ∧ keep c = true) ∨ c = '%' ∨ ∃ n < 16, c = upperHex n := by
  obtain ⟨d, hd, hc⟩ := List.mem_flatMap.1 h
  split at hc
  · rename_i hkeep
    obtain rfl := List.mem_singleton.1 hc
    exact .inl ⟨hd, hkeep⟩
  · obtain ⟨b, -, hc⟩ := List.mem_flatMap.1 hc
    exact .inr (mem_percentByte hc)

/-- The byte of two hexadecimal digits. -/
def hexByte? (a b : UInt8) : Option UInt8 := do
  let high ← Json.hexValue? (Char.ofNat a.toNat)
  let low ← Json.hexValue? (Char.ofNat b.toNat)
  some (high * 16 + low).toUInt8

/-- The bytes meant by percent signs and digits; a sign without two digits stands for itself. -/
def percentDecode : List UInt8 → List UInt8
  | 37 :: a :: b :: rest =>
      match hexByte? a b with
      | some byte => byte :: percentDecode rest
      | none => 37 :: percentDecode (a :: b :: rest)
  | b :: rest => b :: percentDecode rest
  | [] => []

private def isAlphanumeric (b : UInt8) : Bool :=
  (48 ≤ b && b ≤ 57) || (65 ≤ b && b ≤ 90) || (97 ≤ b && b ≤ 122)

/-- The bytes of a form that stand for themselves. -/
def isPlainInForm (b : UInt8) : Bool :=
  isAlphanumeric b || b = 42 || b = 45 || b = 46 || b = 95

def formByte (b : UInt8) : List Char :=
  if isPlainInForm b then [Char.ofNat b.toNat]
  else if b = 32 then ['+']
  else percentByte b

/-- A value as a form writes it. -/
def formEncode (text : List Char) : List Char := (Text.utf8 text).flatMap formByte

end QueryDesk.Url
