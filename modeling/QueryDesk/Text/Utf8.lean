/-!
# Bytes and text

UTF-8 both ways. Reading stops at the first byte that cannot belong to a
character and reports how many bytes before it were good; over-long forms,
surrogates and values above the last code point are bad from their first byte.
-/
namespace QueryDesk.Text

/-- The one to four bytes of a character. -/
def utf8Char (c : Char) : List UInt8 :=
  let n := c.toNat
  if n < 0x80 then [n.toUInt8]
  else if n < 0x800 then [(0xC0 + n / 0x40).toUInt8, (0x80 + n % 0x40).toUInt8]
  else if n < 0x10000 then
    [(0xE0 + n / 0x1000).toUInt8, (0x80 + n / 0x40 % 0x40).toUInt8, (0x80 + n % 0x40).toUInt8]
  else
    [(0xF0 + n / 0x40000).toUInt8, (0x80 + n / 0x1000 % 0x40).toUInt8,
      (0x80 + n / 0x40 % 0x40).toUInt8, (0x80 + n % 0x40).toUInt8]

def utf8 (cs : List Char) : List UInt8 := cs.flatMap utf8Char

/-- The number of bytes of a text. -/
def utf8Length (cs : List Char) : Nat := (utf8 cs).length

def isTail (b : UInt8) : Bool := 0x80 ≤ b && b < 0xC0

def payload (b : UInt8) : Nat := b.toNat % 0x40

/-- The characters of the bytes, or the number of good bytes before the first bad one. -/
def readUtf8 (bytes : List UInt8) : Except Nat (List Char) :=
  go 0 bytes
where
  go (good : Nat) : List UInt8 → Except Nat (List Char)
    | [] => .ok []
    | b :: rest =>
        if b < 0x80 then
          (go (good + 1) rest).map (Char.ofNat b.toNat :: ·)
        else if 0xC2 ≤ b && b < 0xE0 then
          match rest with
          | b1 :: rest =>
              if isTail b1 then
                (go (good + 2) rest).map
                  (Char.ofNat ((b.toNat - 0xC0) * 0x40 + payload b1) :: ·)
              else .error good
          | _ => .error good
        else if 0xE0 ≤ b && b < 0xF0 then
          match rest with
          | b1 :: b2 :: rest =>
              let n := (b.toNat - 0xE0) * 0x1000 + payload b1 * 0x40 + payload b2
              if isTail b1 && isTail b2 && 0x800 ≤ n && !(0xD800 ≤ n && n < 0xE000) then
                (go (good + 3) rest).map (Char.ofNat n :: ·)
              else .error good
          | _ => .error good
        else if 0xF0 ≤ b && b < 0xF5 then
          match rest with
          | b1 :: b2 :: b3 :: rest =>
              let n := (b.toNat - 0xF0) * 0x40000 + payload b1 * 0x1000 + payload b2 * 0x40
                + payload b3
              if isTail b1 && isTail b2 && isTail b3 && 0x10000 ≤ n && n < 0x110000 then
                (go (good + 4) rest).map (Char.ofNat n :: ·)
              else .error good
          | _ => .error good
        else .error good

end QueryDesk.Text
