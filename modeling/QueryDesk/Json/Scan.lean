import QueryDesk.Json.Quoted
import QueryDesk.Json.StringMap

/-!
# Values that nobody asks for

Walking over one JSON value of any kind and depth. The value has to be written
correctly, but is not looked at: an escape may name half a character, and a number
may be too large for any type.
-/
namespace QueryDesk.Json

open QueryDesk.Text (isAsciiDigit)

/-- What follows the closing mark of a string. -/
def skipQuoted? : List Char → Option (List Char)
  | '"' :: rest => some rest
  | '\\' :: 'u' :: a :: b :: c :: d :: rest =>
      if (fourHex? [a, b, c, d]).isSome then skipQuoted? rest else none
  | '\\' :: c :: rest => if (unescape? c).isSome then skipQuoted? rest else none
  | c :: rest => if c.toNat < 0x20 then none else skipQuoted? rest
  | [] => none

private def skipDigits? (s : List Char) : Option (List Char) :=
  if s.head?.any isAsciiDigit then some (s.dropWhile isAsciiDigit) else none

private def skipFraction? (s : List Char) : Option (List Char) :=
  match s with
  | '.' :: rest => skipDigits? rest
  | rest => some rest

private def skipExponent? (s : List Char) : Option (List Char) :=
  match s with
  | 'e' :: rest => skipDigits? (Number.takeSign rest).2
  | 'E' :: rest => skipDigits? (Number.takeSign rest).2
  | rest => some rest

/-- What follows a number that begins with a digit; no other digit follows a first zero. -/
def skipNumber? (s : List Char) : Option (List Char) :=
  let whole :=
    match s with
    | '0' :: rest => if rest.head?.any isAsciiDigit then none else some rest
    | rest => skipDigits? rest
  (whole.bind skipFraction?).bind skipExponent?

private def skipWord? (word s : List Char) : Option (List Char) :=
  if word.isPrefixOf s then some (s.drop word.length) else none

/-- What follows a value that is no list and no object. -/
def skipScalar? (s : List Char) : Option (List Char) :=
  match s with
  | '"' :: rest => skipQuoted? rest
  | '-' :: rest => skipNumber? rest
  | 'n' :: rest => skipWord? ['u', 'l', 'l'] rest
  | 't' :: rest => skipWord? ['r', 'u', 'e'] rest
  | 'f' :: rest => skipWord? ['a', 'l', 's', 'e'] rest
  | rest => skipNumber? rest

/-- What a value stands in. -/
inductive Enclosure where
  | list
  | object
  deriving DecidableEq, Repr

/-- What follows a key and its colon. -/
def skipKey? (s : List Char) : Option (List Char) :=
  match skipSpacing s with
  | '"' :: rest =>
      match (skipQuoted? rest).map skipSpacing with
      | some (':' :: rest) => some rest
      | _ => none
  | _ => none

/-- Goes on after a value: closes what ends here. What is left around the rest is empty at the end,
and else the rest begins with another value. -/
def afterValue : List Enclosure → List Char → Option (List Enclosure × List Char)
  | [], s => some ([], s)
  | .list :: outer, s =>
      match skipSpacing s with
      | ']' :: rest => afterValue outer rest
      | ',' :: rest => some (.list :: outer, rest)
      | _ => none
  | .object :: outer, s =>
      match skipSpacing s with
      | '\x7d' :: rest => afterValue outer rest
      | ',' :: rest => (skipKey? rest).map (.object :: outer, ·)
      | _ => none

/-- What follows a value and all that stands around it. Every value takes at least one character, so
the length of the text is fuel enough. -/
def skipValues? : Nat → List Enclosure → List Char → Option (List Char)
  | 0, _, _ => none
  | fuel + 1, around, s =>
      let resume (rest : List Char) : Option (List Char) :=
        match afterValue around rest with
        | none => none
        | some ([], rest) => some rest
        | some (around, rest) => skipValues? fuel around rest
      match skipSpacing s with
      | '[' :: rest =>
          match skipSpacing rest with
          | ']' :: rest => resume rest
          | rest => skipValues? fuel (.list :: around) rest
      | '\x7b' :: rest =>
          match skipSpacing rest with
          | '\x7d' :: rest => resume rest
          | rest => (skipKey? rest).bind (skipValues? fuel (.object :: around))
      | rest => (skipScalar? rest).bind resume

/-- What follows a value. -/
def skipValue? (s : List Char) : Option (List Char) := skipValues? (s.length + 1) [] s

end QueryDesk.Json
