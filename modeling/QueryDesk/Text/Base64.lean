/-!
# Bytes as sixty-four signs

Three bytes are four signs of six bits each. One or two bytes at the end are two or
three signs, filled up to four with equals signs.
-/
namespace QueryDesk.Text

/-- The sign of six bits. -/
def base64Sign (n : Nat) : Char :=
  if n < 26 then Char.ofNat ('A'.toNat + n)
  else if n < 52 then Char.ofNat ('a'.toNat + (n - 26))
  else if n < 62 then Char.ofNat ('0'.toNat + (n - 52))
  else if n = 62 then '+'
  else '/'

def base64 : List UInt8 → List Char
  | [] => []
  | [a] =>
      let n := a.toNat
      [base64Sign (n / 4), base64Sign (n % 4 * 16), '=', '=']
  | [a, b] =>
      let n := a.toNat * 0x100 + b.toNat
      [base64Sign (n / 0x400), base64Sign (n / 0x10 % 64), base64Sign (n % 0x10 * 4), '=']
  | a :: b :: c :: rest =>
      let n := a.toNat * 0x10000 + b.toNat * 0x100 + c.toNat
      base64Sign (n / 0x40000) :: base64Sign (n / 0x1000 % 64) :: base64Sign (n / 0x40 % 64)
        :: base64Sign (n % 64) :: base64 rest

end QueryDesk.Text
