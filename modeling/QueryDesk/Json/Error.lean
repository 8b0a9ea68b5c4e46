import QueryDesk.Text.Blank
import QueryDesk.Text.ClusterTable
import QueryDesk.Text.Utf8

/-!
# Errors in JSON text

What can be wrong with a text, and where. A reader only holds what is left of its
text, so the place of an error is the number of bytes after it; the message counts
lines from one and bytes within the line.
-/
namespace QueryDesk.Json

/-- What was found where something else was expected. -/
inductive Found where
  | null
  | boolean (value : Bool)
  | integer (value : Int)
  | float (text : String)
  | string (value : String)
  | sequence
  | map
  deriving DecidableEq, Repr

/-- What was expected. -/
inductive Expected where
  | aMap
  | aString
  deriving DecidableEq, Repr

inductive Cause where
  | endInObject
  | endInString
  | endInValue
  | expectedColon
  | expectedCommaOrBrace
  | expectedIdent
  | expectedValue
  | invalidEscape
  | invalidNumber
  | numberOutOfRange
  | controlCharacter
  | keyNotString
  | loneSurrogate
  | trailingComma
  | trailingCharacters
  | unexpectedEndOfEscape
  | invalidType (found : Found) (expected : Expected)
  deriving DecidableEq, Repr

structure Error where
  cause : Cause
  /-- The number of bytes after the place. -/
  left : Nat
  deriving DecidableEq, Repr

private def hexDigits (n : Nat) : String := String.ofList (Nat.toDigits 16 n)

/-- Characters that are shown by their number: controls, format characters, private and unused code
points, separators other than the space, and marks that extend a cluster. -/
private def isHidden (c : Char) : Bool :=
  let n := c.toNat
  Text.isControl c || (c != ' ' && Text.isBlank c) || (0x300 ≤ n && Text.extenders.has c)
    || Text.breakers.has c || (0xE000 ≤ n && n ≤ 0xF8FF) || n % 0x10000 ≥ 0xFFFE || 0xE0000 ≤ n

/-- A text in quotes with its special characters escaped. -/
def quoted (text : String) : String :=
  let piece (c : Char) : String :=
    if c = '\x00' then "\\0"
    else if c = '\t' then "\\t"
    else if c = '\r' then "\\r"
    else if c = '\n' then "\\n"
    else if c = '"' || c = '\\' then "\\" ++ c.toString
    else if isHidden c then "\\u\x7b" ++ hexDigits c.toNat ++ "\x7d"
    else c.toString
  "\"" ++ String.join (text.toList.map piece) ++ "\""

def Found.text : Found → String
  | .null => "null"
  | .boolean value => "boolean `" ++ toString value ++ "`"
  | .integer value => "integer `" ++ toString value ++ "`"
  | .float text => "floating point `" ++ text ++ "`"
  | .string value => "string " ++ quoted value
  | .sequence => "sequence"
  | .map => "map"

def Expected.text : Expected → String
  | .aMap => "a map"
  | .aString => "a string"

def Cause.text : Cause → String
  | .endInObject => "EOF while parsing an object"
  | .endInString => "EOF while parsing a string"
  | .endInValue => "EOF while parsing a value"
  | .expectedColon => "expected `:`"
  | .expectedCommaOrBrace => "expected `,` or `\x7d`"
  | .expectedIdent => "expected ident"
  | .expectedValue => "expected value"
  | .invalidEscape => "invalid escape"
  | .invalidNumber => "invalid number"
  | .numberOutOfRange => "number out of range"
  | .controlCharacter => "control character (\\u0000-\\u001F) found while parsing a string"
  | .keyNotString => "key must be a string"
  | .loneSurrogate => "lone leading surrogate in hex escape"
  | .trailingComma => "trailing comma"
  | .trailingCharacters => "trailing characters"
  | .unexpectedEndOfEscape => "unexpected end of hex escape"
  | .invalidType found expected =>
      "invalid type: " ++ found.text ++ ", expected " ++ expected.text

/-- The place before a rest of the text. -/
def Error.at (cause : Cause) (rest : List Char) : Error :=
  ⟨cause, Text.utf8Length rest⟩

/-- The place one byte into a rest of the text, or its end. -/
def Error.into (cause : Cause) (rest : List Char) : Error :=
  ⟨cause, Text.utf8Length rest - 1⟩

/-- The line of a place and the bytes before it in that line. -/
def lineAndColumn (before : List UInt8) : Nat × Nat :=
  before.foldl
    (fun (p : Nat × Nat) b => if b = 10 then (p.1 + 1, 0) else (p.1, p.2 + 1)) (1, 0)

/-- The message of an error in a source text. -/
def Error.message (source : List Char) (error : Error) : String :=
  let bytes := Text.utf8 source
  let (line, column) := lineAndColumn (bytes.take (bytes.length - error.left))
  error.cause.text ++ " at line " ++ toString line ++ " column " ++ toString column

end QueryDesk.Json
