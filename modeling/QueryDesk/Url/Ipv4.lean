import QueryDesk.Json.Quoted
import QueryDesk.Number.Decimal
import QueryDesk.Number.Total

/-!
# Addresses of four bytes

Up to four numbers between dots, the last of which fills what the others leave. A
number is decimal, octal after a zero or hexadecimal after `0x`.
-/
namespace QueryDesk.Url

open QueryDesk.Text (isAsciiDigit)

/-- The value of digits in a base, if they are all digits of it. -/
def digitsIn? (base : Nat) (digits : List Char) : Option Nat :=
  digits.foldlM
    (fun value c => do
      let digit ← Json.hexValue? c
      if digit < base then some (value * base + digit) else none)
    0

/-- The number that makes up a piece. -/
def addressNumber? (piece : List Char) : Option Nat :=
  match piece with
  | [] => none
  | '0' :: 'x' :: digits => digitsIn? 16 digits
  | '0' :: 'X' :: digits => digitsIn? 16 digits
  | '0' :: c :: digits => digitsIn? 8 (c :: digits)
  | digits => digitsIn? 10 digits

/-- Whether the last piece, or the one before an empty last piece, is a number. -/
def endsInNumber (text : List Char) : Bool :=
  let isNumber (piece : List Char) : Bool :=
    (!piece.isEmpty && piece.all isAsciiDigit) || (addressNumber? piece).isSome
  match (text.splitOn '.').reverse with
  | [] => false
  | [] :: [] => false
  | [] :: last :: _ => isNumber last
  | last :: _ => isNumber last

/-- The address of 32 bits that makes up a text; a dot may stand at its end. -/
def readIpv4? (text : List Char) : Option Nat := do
  let found := text.splitOn '.'
  let found := if found.getLast? = some [] then found.dropLast else found
  if 4 < found.length then none
  else
    let numbers ← found.mapM addressNumber?
    let last ← numbers.getLast?
    let front := numbers.dropLast
    if last < Nat.pow 256 (4 - front.length) && front.all (· < 256) then
      some (last + Number.total (front.zipIdx.map fun (n, i) => n * Nat.pow 256 (3 - i)))
    else none

/-- Four decimal numbers between dots. -/
def ipv4Text (address : Nat) : List Char :=
  let part (n : Nat) : List Char := (toString (address / Nat.pow 256 n % 256)).toList
  part 3 ++ '.' :: part 2 ++ '.' :: part 1 ++ '.' :: part 0

theorem mem_ipv4Text {address : Nat} {c : Char} (h : c ∈ ipv4Text address) :
    c = '.' ∨ c.isDigit = true := by
  have hpart (n : Nat) (hc : c ∈ (toString n).toList) : c.isDigit = true := by
    have htext : (toString n).toList = Nat.toDigits 10 n := Nat.toList_repr
    rw [htext] at hc
    exact Nat.isDigit_of_mem_toDigits (by decide) (by decide) hc
  simp only [ipv4Text, List.mem_append, List.mem_cons] at h
  obtain ((h | h | h) | h | h) | h | h := h
  · exact .inr (hpart _ h)
  · exact .inl h
  · exact .inr (hpart _ h)
  · exact .inl h
  · exact .inr (hpart _ h)
  · exact .inl h
  · exact .inr (hpart _ h)

end QueryDesk.Url
