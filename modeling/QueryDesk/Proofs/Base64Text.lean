import Mathlib.Algebra.Group.Nat.Defs
import Mathlib.Data.List.Induction
import QueryDesk.Proofs.Utf8RoundTrip
import QueryDesk.Text.Base64

/-!
# Reading base 64

Sixty-four signs are read as six bits each. A full group of four signs holds three bytes. The last
group may hold two or one: then equals signs fill it up, and the bits behind the last byte are
zero. Bytes are read back from their signs, and no other byte than a sign or an equals sign is read.
-/
namespace QueryDesk.Text

/-- The equals sign, which fills a group up. -/
def padding : UInt8 := 0x3D

/-- The six bits of a sign: the capitals, the small letters, the digits, plus and slash. -/
def sextet? (b : UInt8) : Option Nat :=
  let n := b.toNat
  if 0x41 ≤ n ∧ n ≤ 0x5A then some (n - 0x41)
  else if 0x61 ≤ n ∧ n ≤ 0x7A then some (26 + (n - 0x61))
  else if 0x30 ≤ n ∧ n ≤ 0x39 then some (52 + (n - 0x30))
  else if n = 0x2B then some 62
  else if n = 0x2F then some 63
  else none

/-- The number that signs stand for, behind what is read already. -/
def sextets? : Nat → List UInt8 → Option Nat
  | n, [] => some n
  | n, sign :: signs => (sextet? sign).bind fun six => sextets? (n * 0x40 + six) signs

/-- The lowest bytes of a number, the highest of them first. -/
def lowBytes : Nat → Nat → List UInt8
  | 0, _ => []
  | count + 1, n => lowBytes count (n / 0x100) ++ [n.toUInt8]

/-- The bytes of a group of two, three or four signs, one fewer than the signs. The bits behind the
last byte are zero. -/
def readGroup (signs : List UInt8) : Option (List UInt8) :=
  (sextets? 0 signs).bind fun n =>
    let spare := 2 ^ (8 - 2 * signs.length)
    if n % spare = 0 then some (lowBytes (signs.length - 1) (n / spare)) else none

/-- The bytes of groups of four signs, of which only the last may be filled up. -/
def readBase64 : List UInt8 → Option (List UInt8)
  | [] => some []
  | a :: b :: c :: d :: rest =>
      if d = padding then
        if rest = [] then readGroup (if c = padding then [a, b] else [a, b, c]) else none
      else
        (readGroup [a, b, c, d]).bind fun bytes => (readBase64 rest).map (bytes ++ ·)
  | _ => none

/-- The byte of the sign of six bits. -/
def signByte (n : Nat) : UInt8 := (base64Sign n).toNat.toUInt8

section Sign

variable {n : Nat}

theorem utf8Char_base64Sign (h : n < 0x40) : utf8Char (base64Sign n) = [signByte n] := by
  have hall : ∀ n < 0x40, utf8Char (base64Sign n) = [signByte n] := by decide
  exact hall n h

/-- The six bits of a sign are read back. -/
theorem sextet?_signByte (h : n < 0x40) : sextet? (signByte n) = some n := by
  have hall : ∀ n < 0x40, sextet? (signByte n) = some n := by decide
  exact hall n h

theorem signByte_ne_padding (h : n < 0x40) : signByte n ≠ padding := by
  intro hpad
  have hread := sextet?_signByte h
  rw [hpad] at hread
  cases hread

end Sign

/-- The number of digits to the base 64 is read back from their signs. -/
theorem sextets?_signBytes {digits : List Nat} (h : ∀ digit ∈ digits, digit < 0x40) (n : Nat) :
    sextets? n (digits.map signByte) = some (digits.foldl (fun n digit => n * 0x40 + digit) n) := by
  induction digits generalizing n with
  | nil => rfl
  | cons digit digits ih =>
    rw [List.forall_mem_cons] at h
    rw [List.map_cons, sextets?, sextet?_signByte h.1]
    exact ih h.2 _

/-- The lowest bytes of the number that bytes stand for are those bytes. -/
theorem lowBytes_foldl (bytes : List UInt8) :
    lowBytes bytes.length (bytes.foldl (fun n b => n * 0x100 + b.toNat) 0) = bytes := by
  induction bytes using List.reverseRecOn with
  | nil => rfl
  | append_singleton bytes b ih =>
    rw [List.foldl_append, List.length_append]
    generalize bytes.foldl (fun n b => n * 0x100 + b.toNat) 0 = n at ih
    have hbyte : b.toNat < 0x100 := b.toNat_lt
    have hlast : (n * 0x100 + b.toNat).toUInt8 = b := by
      apply UInt8.toNat_inj.1
      simp only [Nat.toUInt8, UInt8.toNat_ofNat']
      omega
    change lowBytes bytes.length ((n * 0x100 + b.toNat) / 0x100) ++
      [(n * 0x100 + b.toNat).toUInt8] = bytes ++ [b]
    rw [hlast, show (n * 0x100 + b.toNat) / 0x100 = n by omega, ih]

section Group

variable {digits : List Nat} (hdigits : ∀ digit ∈ digits, digit < 0x40)
include hdigits

theorem utf8_base64Signs (rest : List Char) :
    utf8 (digits.map base64Sign ++ rest) = digits.map signByte ++ utf8 rest := by
  induction digits with
  | nil => rfl
  | cons digit digits ih =>
    rw [List.forall_mem_cons] at hdigits
    rw [List.map_cons, List.cons_append, utf8, List.flatMap_cons, utf8Char_base64Sign hdigits.1,
      ← utf8, ih hdigits.2]
    rfl

/-- A group is read as the bytes whose number its digits stand for, with zeros behind it. -/
theorem readGroup_signBytes {bytes : List UInt8} (hlength : digits.length = bytes.length + 1)
    (hvalue : digits.foldl (fun n digit => n * 0x40 + digit) 0 =
      bytes.foldl (fun n b => n * 0x100 + b.toNat) 0 * 2 ^ (8 - 2 * digits.length)) :
    readGroup (digits.map signByte) = some bytes := by
  have hspare : 0 < 2 ^ (8 - 2 * digits.length) := Nat.two_pow_pos _
  rw [readGroup, sextets?_signBytes hdigits, hvalue, Option.bind_some, List.length_map]
  simp only [Nat.mul_mod_left, if_true, Nat.mul_div_cancel _ hspare]
  rw [hlength, Nat.add_sub_cancel, lowBytes_foldl]

end Group

-- The digits are variables here: with the quotients of a full group in their place, the check of the
-- unfolded sum counts the divisor 0x40000 down.
theorem foldl_four (x y z w : Nat) :
    [x, y, z, w].foldl (fun n digit => n * 0x40 + digit) 0 =
      ((x * 0x40 + y) * 0x40 + z) * 0x40 + w := by
  simp

section Read

variable {a b c d : UInt8} {rest : List UInt8}

theorem readBase64_two : readBase64 [a, b, padding, padding] = readGroup [a, b] := by
  rw [readBase64, if_pos rfl, if_pos rfl, if_pos rfl]

theorem readBase64_three (hc : c ≠ padding) :
    readBase64 [a, b, c, padding] = readGroup [a, b, c] := by
  rw [readBase64, if_pos rfl, if_pos rfl, if_neg hc]

theorem readBase64_four (hd : d ≠ padding) :
    readBase64 (a :: b :: c :: d :: rest) =
      (readGroup [a, b, c, d]).bind fun bytes => (readBase64 rest).map (bytes ++ ·) := by
  rw [readBase64, if_neg hd]

end Read

/-- Bytes are read back from their signs, whatever the number of bytes in the last group. -/
theorem readBase64_base64 (bytes : List UInt8) : readBase64 (utf8 (base64 bytes)) = some bytes := by
  fun_induction base64 bytes with
  | case1 => rfl
  -- one byte fills two signs up to four spare bits, two bytes fill three up to two
  | case2 a n =>
    have ha : n < 0x100 := a.toNat_lt
    have hdigits : ∀ digit ∈ [n / 4, n % 4 * 16], digit < 0x40 := by
      simp only [List.forall_mem_cons]
      exact ⟨by omega, by omega, by simp⟩
    calc readBase64 (utf8 ([n / 4, n % 4 * 16].map base64Sign ++ ['=', '=']))
      _ = readGroup ([n / 4, n % 4 * 16].map signByte) := by
        rw [utf8_base64Signs hdigits]
        exact readBase64_two
      _ = some [a] := readGroup_signBytes hdigits rfl (by simp; omega)
  | case3 a b n =>
    have ha : a.toNat < 0x100 := a.toNat_lt
    have hb : b.toNat < 0x100 := b.toNat_lt
    have hlast : n % 0x10 * 4 < 0x40 := by omega
    have hdigits : ∀ digit ∈ [n / 0x400, n / 0x10 % 64, n % 0x10 * 4], digit < 0x40 := by
      simp only [List.forall_mem_cons]
      exact ⟨by omega, by omega, by omega, by simp⟩
    calc readBase64 (utf8 ([n / 0x400, n / 0x10 % 64, n % 0x10 * 4].map base64Sign ++ ['=']))
      _ = readGroup ([n / 0x400, n / 0x10 % 64, n % 0x10 * 4].map signByte) := by
        rw [utf8_base64Signs hdigits]
        exact readBase64_three (signByte_ne_padding hlast)
      _ = some [a, b] := readGroup_signBytes hdigits rfl (by simp; omega)
  | case4 a b c rest n ih =>
    have ha : a.toNat < 0x100 := a.toNat_lt
    have hb : b.toNat < 0x100 := b.toNat_lt
    have hc : c.toNat < 0x100 := c.toNat_lt
    have hlast : n % 64 < 0x40 := Nat.mod_lt _ (by decide)
    have hdigits : ∀ digit ∈ [n / 0x40000, n / 0x1000 % 64, n / 0x40 % 64, n % 64],
        digit < 0x40 := by
      simp only [List.forall_mem_cons]
      exact ⟨by omega, by omega, by omega, hlast, by simp⟩
    have hgroup : readGroup ([n / 0x40000, n / 0x1000 % 64, n / 0x40 % 64, n % 64].map signByte) =
        some [a, b, c] := by
      refine readGroup_signBytes hdigits rfl ?_
      rw [foldl_four]
      simp
      omega
    calc readBase64 (utf8 ([n / 0x40000, n / 0x1000 % 64, n / 0x40 % 64, n % 64].map base64Sign ++
          base64 rest))
      _ = (readGroup ([n / 0x40000, n / 0x1000 % 64, n / 0x40 % 64, n % 64].map signByte)).bind
          fun bytes => (readBase64 (utf8 (base64 rest))).map (bytes ++ ·) := by
        rw [utf8_base64Signs hdigits]
        exact readBase64_four (signByte_ne_padding hlast)
      _ = some (a :: b :: c :: rest) := by
        rw [hgroup, ih]
        rfl

example : readBase64 [0x61, 0x47, 0x6B, 0x3D] = some [0x68, 0x69] := by decide

-- a bit behind the last byte
example : readBase64 [0x61, 0x47, 0x6C, 0x3D] = none := by decide

/-- Whether a byte is a sign or an equals sign. -/
def isBase64 (b : UInt8) : Bool := (sextet? b).isSome || b == padding

theorem isBase64_padding : isBase64 padding = true := by decide

theorem isBase64_of_sextets? {n number : Nat} {signs : List UInt8}
    (h : sextets? n signs = some number) : ∀ b ∈ signs, isBase64 b = true := by
  induction signs generalizing n with
  | nil => exact fun b hb => absurd hb List.not_mem_nil
  | cons sign signs ih =>
    obtain ⟨six, hsix, hrest⟩ := Option.bind_eq_some_iff.1 h
    rw [List.forall_mem_cons]
    exact ⟨by rw [isBase64, hsix]; rfl, ih hrest⟩

theorem isBase64_of_readGroup {signs bytes : List UInt8} (h : readGroup signs = some bytes) :
    ∀ b ∈ signs, isBase64 b = true := by
  obtain ⟨number, hnumber, -⟩ := Option.bind_eq_some_iff.1 h
  exact isBase64_of_sextets? hnumber

/-- No other bytes than signs and equals signs are read. -/
theorem isBase64_of_readBase64 {signs bytes : List UInt8} (h : readBase64 signs = some bytes) :
    ∀ b ∈ signs, isBase64 b = true := by
  fun_induction readBase64 signs generalizing bytes with
  | case1 => exact fun b hb => absurd hb List.not_mem_nil
  | case2 a b c =>
    have hpadding : ∀ s ∈ [padding], isBase64 s = true := by simp [isBase64_padding]
    by_cases hc : c = padding
    · rw [if_pos hc] at h
      subst hc
      exact List.forall_mem_append.2 ⟨isBase64_of_readGroup h,
        List.forall_mem_cons.2 ⟨isBase64_padding, hpadding⟩⟩
    · rw [if_neg hc] at h
      exact List.forall_mem_append.2 ⟨isBase64_of_readGroup h, hpadding⟩
  | case3 => cases h
  | case4 a b c d rest hd ih =>
    obtain ⟨group, hgroup, hmore⟩ := Option.bind_eq_some_iff.1 h
    obtain ⟨more, hrest, -⟩ := Option.map_eq_some_iff.1 hmore
    exact List.forall_mem_append.2 ⟨isBase64_of_readGroup hgroup, ih hrest⟩
  | case5 => cases h

end QueryDesk.Text
