import QueryDesk.Proofs.Success
import QueryDesk.Text.Utf8

/-!
# Text and its bytes

Each character is read back from the bytes it is written as, whatever follows them, and so is a
text. Nothing else is read: bytes that are read as a text are the bytes of that text.
-/
namespace QueryDesk.Text

theorem toNat_toUInt8 {n : Nat} (h : n < 256) : n.toUInt8.toNat = n := by
  simp only [Nat.toUInt8, UInt8.toNat_ofNat']
  omega

theorem isTail_eq (b : UInt8) : isTail b = decide (0x80 ≤ b.toNat ∧ b.toNat < 0xC0) := by
  simp only [isTail, UInt8.le_iff_toNat_le, UInt8.lt_iff_toNat_lt, Bool.decide_and]
  rfl

theorem payload_tail {n : Nat} (h : n < 0x40) : payload (0x80 + n).toUInt8 = n := by
  rw [payload, toNat_toUInt8 (by omega)]
  omega

theorem isTail_tail {n : Nat} (h : n < 0x40) : isTail (0x80 + n).toUInt8 = true := by
  rw [isTail_eq, toNat_toUInt8 (by omega)]
  simp only [decide_eq_true_eq]
  omega

/-- Whether a byte is in a range, as the reader asks it. -/
theorem byte_between (b low high : UInt8) :
    (decide (low ≤ b) && decide (b < high)) =
      decide (low.toNat ≤ b.toNat ∧ b.toNat < high.toNat) := by
  simp only [UInt8.le_iff_toNat_le, UInt8.lt_iff_toNat_lt, Bool.decide_and]

section Read

variable {good n : Nat} {b b1 b2 b3 : UInt8} {rest : List UInt8}

theorem go_one (h : b.toNat < 0x80) :
    readUtf8.go good (b :: rest) = (readUtf8.go (good + 1) rest).map (Char.ofNat b.toNat :: ·) := by
  rw [readUtf8.go.eq_def]
  exact if_pos (UInt8.lt_iff_toNat_lt.2 h)

theorem not_low (h : 0x80 ≤ b.toNat) : ¬b < 0x80 :=
  fun hb => Nat.not_lt.2 h (UInt8.lt_iff_toNat_lt.1 hb)

theorem go_two (h : 0xC2 ≤ b.toNat ∧ b.toNat < 0xE0) (h1 : isTail b1 = true) :
    readUtf8.go good (b :: b1 :: rest) =
      (readUtf8.go (good + 2) rest).map
        (Char.ofNat ((b.toNat - 0xC0) * 0x40 + payload b1) :: ·) := by
  have hlow : ¬b < 0x80 := not_low (by omega)
  rw [readUtf8.go.eq_def]
  simp [hlow, byte_between, h, h1]

theorem go_three (h : 0xE0 ≤ b.toNat ∧ b.toNat < 0xF0) (h1 : isTail b1 = true)
    (h2 : isTail b2 = true)
    (hn : n = (b.toNat - 0xE0) * 0x1000 + payload b1 * 0x40 + payload b2)
    (hvalid : 0x800 ≤ n ∧ ¬(0xD800 ≤ n ∧ n < 0xE000)) :
    readUtf8.go good (b :: b1 :: b2 :: rest) =
      (readUtf8.go (good + 3) rest).map (Char.ofNat n :: ·) := by
  have hlow : ¬b < 0x80 := not_low (by omega)
  have htwo : ¬(0xC2 ≤ b.toNat ∧ b.toNat < 0xE0) := by omega
  rw [readUtf8.go.eq_def]
  simp [hlow, byte_between, htwo, h, h1, h2, ← hn, hvalid]

theorem go_four (h : 0xF0 ≤ b.toNat ∧ b.toNat < 0xF5) (h1 : isTail b1 = true)
    (h2 : isTail b2 = true) (h3 : isTail b3 = true)
    (hn : n = (b.toNat - 0xF0) * 0x40000 + payload b1 * 0x1000 + payload b2 * 0x40 + payload b3)
    (hvalid : 0x10000 ≤ n ∧ n < 0x110000) :
    readUtf8.go good (b :: b1 :: b2 :: b3 :: rest) =
      (readUtf8.go (good + 4) rest).map (Char.ofNat n :: ·) := by
  have hlow : ¬b < 0x80 := not_low (by omega)
  have htwo : ¬(0xC2 ≤ b.toNat ∧ b.toNat < 0xE0) := by omega
  have hthree : ¬(0xE0 ≤ b.toNat ∧ b.toNat < 0xF0) := by omega
  rw [readUtf8.go.eq_def]
  simp [hlow, byte_between, htwo, hthree, h, h1, h2, h3, ← hn, hvalid]

end Read

/-- Reading the bytes of a character gives the character and goes on behind them. -/
theorem go_utf8Char (good : Nat) (c : Char) (rest : List UInt8) :
    ∃ more, readUtf8.go good (utf8Char c ++ rest) = (readUtf8.go more rest).map (c :: ·) := by
  have hvalid : c.toNat < 0xD800 ∨ 0xDFFF < c.toNat ∧ c.toNat < 0x110000 := c.valid
  -- the tail bytes hold the lower digits of the code point to the base 64
  have hlast : c.toNat % 0x40 < 0x40 := Nat.mod_lt _ (by decide)
  have hmiddle : c.toNat / 0x40 % 0x40 < 0x40 := Nat.mod_lt _ (by decide)
  have hhigh : c.toNat / 0x1000 % 0x40 < 0x40 := Nat.mod_lt _ (by decide)
  unfold utf8Char
  dsimp only
  split
  · have hb := toNat_toUInt8 (n := c.toNat) (by omega)
    refine ⟨good + 1, (go_one (by omega)).trans ?_⟩
    rw [hb, Char.ofNat_toNat]
    rfl
  split
  · have hb := toNat_toUInt8 (n := 0xC0 + c.toNat / 0x40) (by omega)
    refine ⟨good + 2, (go_two (by omega) (isTail_tail hlast)).trans ?_⟩
    rw [hb, payload_tail hlast, show (0xC0 + c.toNat / 0x40 - 0xC0) * 0x40 + c.toNat % 0x40 =
      c.toNat by omega, Char.ofNat_toNat]
    rfl
  split
  · have hb := toNat_toUInt8 (n := 0xE0 + c.toNat / 0x1000) (by omega)
    refine ⟨good + 3, (go_three (n := c.toNat) (by omega) (isTail_tail hmiddle)
      (isTail_tail hlast) ?_ (by omega)).trans ?_⟩
    · rw [hb, payload_tail hmiddle, payload_tail hlast]
      omega
    · rw [Char.ofNat_toNat]
      rfl
  · have hb := toNat_toUInt8 (n := 0xF0 + c.toNat / 0x40000) (by omega)
    refine ⟨good + 4, (go_four (n := c.toNat) (by omega) (isTail_tail hhigh)
      (isTail_tail hmiddle) (isTail_tail hlast) ?_ (by omega)).trans ?_⟩
    · rw [hb, payload_tail hhigh, payload_tail hmiddle, payload_tail hlast]
      omega
    · rw [Char.ofNat_toNat]
      rfl

/-- A text is read back from its bytes. -/
theorem readUtf8_utf8 (cs : List Char) : readUtf8 (utf8 cs) = .ok cs := by
  have hgo (good : Nat) : readUtf8.go good (utf8 cs) = .ok cs := by
    induction cs generalizing good with
    | nil => rfl
    | cons c cs ih =>
      obtain ⟨more, he⟩ := go_utf8Char good c (utf8 cs)
      rw [utf8, List.flatMap_cons, ← utf8, he, ih]
      rfl
  exact hgo 0

theorem toNat_ofNat {n : Nat} (h : n.isValidChar) : (Char.ofNat n).toNat = n := by
  rw [Char.ofNat, dif_pos h]
  rfl

/-- A tail byte is told by its payload. -/
theorem tail_payload {b : UInt8} (h : isTail b = true) : (0x80 + payload b).toUInt8 = b := by
  rw [isTail_eq, decide_eq_true_eq] at h
  have hpayload : payload b = b.toNat % 0x40 := rfl
  apply UInt8.toNat_inj.1
  rw [toNat_toUInt8 (by omega)]
  omega

section Write

variable {n : Nat} {b b1 b2 b3 : UInt8}

theorem utf8Char_one (h : b.toNat < 0x80) : utf8Char (Char.ofNat b.toNat) = [b] := by
  have hn : (Char.ofNat b.toNat).toNat = b.toNat := toNat_ofNat (.inl (by omega))
  have hb : b.toNat.toUInt8 = b := UInt8.ofNat_toNat
  simp only [utf8Char, hn, h, if_true, hb]

theorem utf8Char_two (h : 0xC2 ≤ b.toNat ∧ b.toNat < 0xE0) (h1 : isTail b1 = true) :
    utf8Char (Char.ofNat ((b.toNat - 0xC0) * 0x40 + payload b1)) = [b, b1] := by
  have hpayload : payload b1 < 0x40 := Nat.mod_lt _ (by decide)
  generalize hn : (b.toNat - 0xC0) * 0x40 + payload b1 = n
  have hchar : (Char.ofNat n).toNat = n := toNat_ofNat (.inl (by omega))
  have hhead : (0xC0 + n / 0x40).toUInt8 = b := by
    rw [show 0xC0 + n / 0x40 = b.toNat by omega]
    exact UInt8.ofNat_toNat
  have htail : (0x80 + n % 0x40).toUInt8 = b1 := by
    rw [show n % 0x40 = payload b1 by omega, tail_payload h1]
  simp only [utf8Char, hchar, if_neg (show ¬n < 0x80 by omega), if_pos (show n < 0x800 by omega),
    hhead, htail]

theorem utf8Char_three (h : 0xE0 ≤ b.toNat ∧ b.toNat < 0xF0) (h1 : isTail b1 = true)
    (h2 : isTail b2 = true)
    (hn : n = (b.toNat - 0xE0) * 0x1000 + payload b1 * 0x40 + payload b2)
    (hvalid : 0x800 ≤ n ∧ ¬(0xD800 ≤ n ∧ n < 0xE000)) :
    utf8Char (Char.ofNat n) = [b, b1, b2] := by
  have hmiddle : payload b1 < 0x40 := Nat.mod_lt _ (by decide)
  have hlast : payload b2 < 0x40 := Nat.mod_lt _ (by decide)
  have hchar : (Char.ofNat n).toNat = n := toNat_ofNat (by unfold Nat.isValidChar; omega)
  have hhead : (0xE0 + n / 0x1000).toUInt8 = b := by
    rw [show 0xE0 + n / 0x1000 = b.toNat by omega]
    exact UInt8.ofNat_toNat
  have hnext : (0x80 + n / 0x40 % 0x40).toUInt8 = b1 := by
    rw [show n / 0x40 % 0x40 = payload b1 by omega, tail_payload h1]
  have htail : (0x80 + n % 0x40).toUInt8 = b2 := by
    rw [show n % 0x40 = payload b2 by omega, tail_payload h2]
  simp only [utf8Char, hchar, if_neg (show ¬n < 0x80 by omega),
    if_neg (show ¬n < 0x800 by omega), if_pos (show n < 0x10000 by omega), hhead, hnext, htail]

theorem utf8Char_four (h : 0xF0 ≤ b.toNat ∧ b.toNat < 0xF5) (h1 : isTail b1 = true)
    (h2 : isTail b2 = true) (h3 : isTail b3 = true)
    (hn : n = (b.toNat - 0xF0) * 0x40000 + payload b1 * 0x1000 + payload b2 * 0x40 + payload b3)
    (hvalid : 0x10000 ≤ n ∧ n < 0x110000) : utf8Char (Char.ofNat n) = [b, b1, b2, b3] := by
  have hhigh : payload b1 < 0x40 := Nat.mod_lt _ (by decide)
  have hmiddle : payload b2 < 0x40 := Nat.mod_lt _ (by decide)
  have hlast : payload b3 < 0x40 := Nat.mod_lt _ (by decide)
  have hchar : (Char.ofNat n).toNat = n := toNat_ofNat (.inr (by omega))
  have hhead : (0xF0 + n / 0x40000).toUInt8 = b := by
    rw [show 0xF0 + n / 0x40000 = b.toNat by omega]
    exact UInt8.ofNat_toNat
  have hnext : (0x80 + n / 0x1000 % 0x40).toUInt8 = b1 := by
    rw [show n / 0x1000 % 0x40 = payload b1 by omega, tail_payload h1]
  have hthird : (0x80 + n / 0x40 % 0x40).toUInt8 = b2 := by
    rw [show n / 0x40 % 0x40 = payload b2 by omega, tail_payload h2]
  have htail : (0x80 + n % 0x40).toUInt8 = b3 := by
    rw [show n % 0x40 = payload b3 by omega, tail_payload h3]
  simp only [utf8Char, hchar, if_neg (show ¬n < 0x80 by omega),
    if_neg (show ¬n < 0x800 by omega), if_neg (show ¬n < 0x10000 by omega), hhead, hnext, hthird,
    htail]

end Write

/-- What is read in front of a text is written in front of its bytes. -/
theorem eq_utf8_of_map {more : Except Nat (List Char)} {c : Char} {cs : List Char}
    {bytes rest : List UInt8} (hc : utf8Char c = bytes) (h : more.map (c :: ·) = .ok cs)
    (ih : ∀ cs, more = .ok cs → rest = utf8 cs) : bytes ++ rest = utf8 cs := by
  obtain ⟨later, hlater, rfl⟩ := map_eq_ok h
  rw [ih later hlater, utf8, utf8, List.flatMap_cons, hc]

theorem eq_utf8_of_go {good : Nat} {bytes : List UInt8} {cs : List Char}
    (h : readUtf8.go good bytes = .ok cs) : bytes = utf8 cs := by
  fun_induction readUtf8.go good bytes generalizing cs with
  | case1 => rw [← Except.ok.inj h]; rfl
  | case2 good b rest hlow ih =>
    exact eq_utf8_of_map (utf8Char_one (UInt8.lt_iff_toNat_lt.1 hlow)) h fun _ => ih
  | case3 good b _ htwo b1 rest h1 ih =>
    rw [byte_between, decide_eq_true_eq] at htwo
    exact eq_utf8_of_map (utf8Char_two htwo h1) h fun _ => ih
  | case6 good b _ _ hthree b1 b2 rest n hvalid =>
    rename_i ih
    rw [byte_between, decide_eq_true_eq] at hthree
    simp only [Bool.and_eq_true, Bool.not_eq_true', Bool.and_eq_false_iff, decide_eq_true_eq,
      decide_eq_false_iff_not] at hvalid
    obtain ⟨⟨⟨h1, h2⟩, hlong⟩, hgap⟩ := hvalid
    exact eq_utf8_of_map (utf8Char_three hthree h1 h2 rfl ⟨hlong, by omega⟩) h fun _ => ih
  | case9 good b _ _ _ hfour b1 b2 b3 rest n hvalid =>
    rename_i ih
    rw [byte_between, decide_eq_true_eq] at hfour
    simp only [Bool.and_eq_true, decide_eq_true_eq] at hvalid
    obtain ⟨⟨⟨⟨h1, h2⟩, h3⟩, hlong⟩, hlast⟩ := hvalid
    exact eq_utf8_of_map (utf8Char_four hfour h1 h2 h3 rfl ⟨hlong, hlast⟩) h fun _ => ih
  | _ => cases h

theorem utf8_inj {cs cs' : List Char} : utf8 cs = utf8 cs' ↔ cs = cs' := by
  constructor
  · intro h
    have hread := readUtf8_utf8 cs
    rw [h, readUtf8_utf8] at hread
    exact (Except.ok.inj hread).symm
  · exact congrArg utf8

/-- Bytes are read as a text exactly if they are its bytes. -/
theorem readUtf8_eq_ok_iff {bytes : List UInt8} {cs : List Char} :
    readUtf8 bytes = .ok cs ↔ bytes = utf8 cs := by
  constructor
  · intro h
    exact eq_utf8_of_go h
  · rintro rfl
    exact readUtf8_utf8 cs

end QueryDesk.Text
