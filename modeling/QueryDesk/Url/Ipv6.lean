import QueryDesk.Json.Quoted
import QueryDesk.Number.Decimal

/-!
# Addresses of eight pieces

Eight pieces of sixteen bits between colons, in hexadecimal digits. Two colons stand
for any number of zero pieces, once, and the last two pieces may be four decimal
numbers between dots. Written, the first longest run of zero pieces is two colons.
-/
namespace QueryDesk.Url

open QueryDesk.Text (isAsciiDigit)

private def isHex (c : Char) : Bool := (Json.hexValue? c).isSome

private def hexNumber (digits : List Char) : Nat :=
  digits.foldl (fun n c => n * 16 + (Json.hexValue? c).getD 0) 0

/-- A decimal number below 256 without needless zeros. -/
private def readByte? (s : List Char) : Option (Nat × List Char) :=
  let digits := s.takeWhile isAsciiDigit
  let value := Number.digitsValue digits
  if digits.isEmpty || (1 < digits.length && digits.head? = some '0') || 255 < value then none
  else some (value, s.dropWhile isAsciiDigit)

/-- Two pieces as four numbers between dots, which make up the rest. -/
private def readDotted? (s : List Char) : Option (List Nat) :=
  match readByte? s with
  | some (a, '.' :: s) =>
      match readByte? s with
      | some (b, '.' :: s) =>
          match readByte? s with
          | some (c, '.' :: s) =>
              match readByte? s with
              | some (d, []) => some [a * 256 + b, c * 256 + d]
              | _ => none
          | _ => none
      | _ => none
  | _ => none

/-- What has been read of an address: the pieces before the two colons, if they have been met, and
the pieces after them or all so far. -/
structure PieceList where
  before : Option (List Nat)
  pieces : List Nat
  deriving DecidableEq, Repr

/-- How many pieces are taken, the two colons counting as one. -/
def PieceList.count (p : PieceList) : Nat :=
  p.pieces.length + (p.before.map (·.length + 1)).getD 0

/-- The eight pieces, zeros put in for the two colons. -/
def PieceList.complete? (p : PieceList) : Option (List Nat) :=
  match p.before with
  | none => if p.pieces.length = 8 then some p.pieces else none
  | some before =>
      some (before ++ List.replicate (8 - before.length - p.pieces.length) 0 ++ p.pieces)

/-- Reads the rest of an address, each step at least one character of it. -/
private def readPieces? : Nat → PieceList → List Char → Option PieceList
  | _, p, [] => some p
  | 0, _, _ => none
  | fuel + 1, p, c :: rest =>
      if p.count = 8 then none
      else if c = ':' then
        if p.before.isSome then none else readPieces? fuel ⟨some p.pieces, []⟩ rest
      else
        let s := c :: rest
        let digits := (s.take 4).takeWhile isHex
        let next : PieceList := { p with pieces := p.pieces ++ [hexNumber digits] }
        match s.drop digits.length with
        | [] => some next
        | '.' :: _ =>
            if digits.isEmpty || 6 < p.count then none
            else (readDotted? s).map fun pair => { p with pieces := p.pieces ++ pair }
        | [':'] => none
        | ':' :: rest => readPieces? fuel next rest
        | _ => none

/-- The pieces of the address that makes up a text. -/
def readIpv6? (text : List Char) : Option (List Nat) :=
  let found :=
    match text with
    | ':' :: ':' :: rest => readPieces? rest.length ⟨some [], []⟩ rest
    | ':' :: _ => none
    | [] => none
    | [_] => none
    | text => readPieces? text.length ⟨none, []⟩ text
  found.bind PieceList.complete?

/-- The length of the run of zeros at the start. -/
private def zeroRun (pieces : List Nat) : Nat := (pieces.takeWhile (· = 0)).length

/-- The start and length of the first longest run of zeros, from an index on. -/
private def longestRun (index : Nat) : List Nat → Nat × Nat
  | [] => (index, 0)
  | piece :: rest =>
      let here := zeroRun (piece :: rest)
      let (start, length) := longestRun (index + 1) rest
      if length ≤ here then (index, here) else (start, length)

private def hexText (n : Nat) : List Char := Nat.toDigits 16 n

private def colonText (pieces : List Nat) : List Char :=
  [':'].intercalate (pieces.map hexText)

/-- The written form of eight pieces. -/
def ipv6Text (pieces : List Nat) : List Char :=
  let (start, length) := longestRun 0 pieces
  if length < 2 then colonText pieces
  else colonText (pieces.take start) ++ [':', ':'] ++ colonText (pieces.drop (start + length))

theorem exists_digit_of_mem_toDigits {base n : Nat} (hbase : 1 < base) {c : Char}
    (h : c ∈ Nat.toDigits base n) : ∃ digit < base, c = Nat.digitChar digit := by
  induction n using Nat.strongRecOn with
  | ind n ih =>
    rw [Nat.toDigits_eq_if hbase] at h
    split at h
    · rename_i hsmall
      exact ⟨n, hsmall, List.mem_singleton.1 h⟩
    · rename_i hlarge
      obtain h | h := List.mem_append.1 h
      · exact ih (n / base) (Nat.div_lt_self (by omega) hbase) h
      · exact ⟨n % base, Nat.mod_lt _ (by omega), List.mem_singleton.1 h⟩

private theorem mem_colonText {pieces : List Nat} {c : Char} (h : c ∈ colonText pieces) :
    c = ':' ∨ ∃ digit < 16, c = Nat.digitChar digit := by
  induction pieces with
  | nil => cases h
  | cons piece rest ih =>
    cases rest with
    | nil =>
      have hone : colonText [piece] = hexText piece := by
        simp [colonText, List.intercalate]
      rw [hone] at h
      exact .inr (exists_digit_of_mem_toDigits (by decide) h)
    | cons next rest =>
      have hmore : colonText (piece :: next :: rest) =
          hexText piece ++ ':' :: colonText (next :: rest) := by
        simp [colonText, List.intercalate]
      rw [hmore] at h
      obtain h | h := List.mem_append.1 h
      · exact .inr (exists_digit_of_mem_toDigits (by decide) h)
      obtain h | h := List.mem_cons.1 h
      · exact .inl h
      · exact ih h

theorem mem_ipv6Text {pieces : List Nat} {c : Char} (h : c ∈ ipv6Text pieces) :
    c = ':' ∨ ∃ digit < 16, c = Nat.digitChar digit := by
  unfold ipv6Text at h
  dsimp only at h
  split at h
  · exact mem_colonText h
  · obtain h | h := List.mem_append.1 h
    · obtain h | h := List.mem_append.1 h
      · exact mem_colonText h
      · exact .inl (by simpa using h)
    · exact mem_colonText h

end QueryDesk.Url
