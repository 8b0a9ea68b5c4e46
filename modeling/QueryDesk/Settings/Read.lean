import QueryDesk.Json.Scan
import QueryDesk.Settings

/-!
# Reading settings

Settings are an object with three known members or a list of up to three values in
their order. Members that are not known are passed over, and what is missing has its
standard value. A member that occurs twice or has a value of another kind spoils the
whole text.
-/
namespace QueryDesk

open QueryDesk.Text (isAsciiDigit)

namespace Settings

/-- Settings of which some are not known yet. -/
structure Draft where
  exportBaseUrl : Option String
  cellHeight : Option UInt16
  tickRate : Option UInt64
  deriving DecidableEq, Repr

def Draft.empty : Draft := ⟨none, none, none⟩

/-- The settings, standard where nothing is known. -/
def Draft.complete (draft : Draft) : Settings where
  exportBaseUrl := draft.exportBaseUrl.getD standard.exportBaseUrl
  cellHeight := draft.cellHeight.getD standard.cellHeight
  tickRate := draft.tickRate.getD standard.tickRate

inductive Field where
  | exportBaseUrl
  | cellHeight
  | tickRate
  deriving DecidableEq, Repr

def Field.ofKey? (key : String) : Option Field :=
  if key = urlKey then some .exportBaseUrl
  else if key = cellHeightKey then some .cellHeight
  else if key = tickRateKey then some .tickRate
  else none

/-- A string at the start and what follows it. -/
def readText? (s : List Char) : Option (String × List Char) :=
  match Json.skipSpacing s with
  | '"' :: rest =>
      match Json.readQuoted rest with
      | .ok (text, rest) => some (String.ofList text, rest)
      | .error _ => none
  | _ => none

/-- A whole number below a limit, without sign, point and exponent, and what follows it. -/
def readNatural? (limit : Nat) (s : List Char) : Option (Nat × List Char) :=
  let s := Json.skipSpacing s
  let digits := s.takeWhile isAsciiDigit
  let rest := s.dropWhile isAsciiDigit
  if digits.isEmpty || (1 < digits.length && digits.head? = some '0') then none
  else if rest.head?.any fun c => c = '.' || c = 'e' || c = 'E' then none
  else
    let value := Number.digitsValue digits
    if value < limit then some (value, rest) else none

/-- The draft with one more member, whose value begins the text. -/
def readField? (draft : Draft) (field : Field) (s : List Char) : Option (Draft × List Char) :=
  match field with
  | .exportBaseUrl =>
      if draft.exportBaseUrl.isSome then none
      else (readText? s).map fun (url, rest) => (⟨some url, draft.cellHeight, draft.tickRate⟩, rest)
  | .cellHeight =>
      if draft.cellHeight.isSome then none
      else (readNatural? UInt16.size s).map fun (n, rest) =>
        (⟨draft.exportBaseUrl, some n.toUInt16, draft.tickRate⟩, rest)
  | .tickRate =>
      if draft.tickRate.isSome then none
      else (readNatural? UInt64.size s).map fun (n, rest) =>
        (⟨draft.exportBaseUrl, draft.cellHeight, some n.toUInt64⟩, rest)

/-- A member whose key has begun. -/
def readMember? (draft : Draft) (s : List Char) : Option (Draft × List Char) :=
  match Json.readQuoted s with
  | .error _ => none
  | .ok (key, rest) =>
      match Json.readColon rest with
      | .error _ => none
      | .ok rest =>
          match Field.ofKey? (String.ofList key) with
          | some field => readField? draft field rest
          | none => (Json.skipValue? rest).map (draft, ·)

/-- The members up to the closing brace and what follows it. Each takes at least one character. -/
def readMembers? : Nat → Bool → Draft → List Char → Option (Draft × List Char)
  | 0, _, _, _ => none
  | fuel + 1, first, draft, s =>
      match Json.nextKey first s with
      | .error _ => none
      | .ok (false, rest) => some (draft, rest)
      | .ok (true, rest) =>
          match readMember? draft rest with
          | none => none
          | some (draft, rest) => readMembers? fuel false draft rest

/-- The values of a list up to its closing bracket, at most one for each field. -/
def readItems? (first : Bool) (draft : Draft) (s : List Char) :
    List Field → Option (Draft × List Char)
  | [] =>
      match Json.skipSpacing s with
      | ']' :: rest => some (draft, rest)
      | _ => none
  | field :: fields =>
      match Json.skipSpacing s with
      | ']' :: rest => some (draft, rest)
      | c :: rest =>
          let value := if first then some (c :: rest) else if c = ',' then some rest else none
          match value.bind (readField? draft field) with
          | none => none
          | some (draft, rest) => readItems? false draft rest fields
      | [] => none

/-- The settings that make up all of a text. -/
def ofWritten? (s : List Char) : Option Settings :=
  let found :=
    match Json.skipSpacing s with
    | '\x7b' :: rest => readMembers? (rest.length + 1) true .empty rest
    | '[' :: rest => readItems? true .empty rest [.exportBaseUrl, .cellHeight, .tickRate]
    | _ => none
  match found with
  | some (draft, rest) => if (Json.skipSpacing rest).isEmpty then some draft.complete else none
  | none => none

end Settings

end QueryDesk
