import QueryDesk.Url.Label
import QueryDesk.Url.MappingTable
import QueryDesk.Url.Punycode

/-!
# Domain names

A domain name may hold letters of any script. They are mapped to the forms that names
are compared by, and a label with letters beyond ASCII is written as `xn--` and the
letters and figures that stand for it. A label that is written so already has to be one
that the mapping leaves alone.
-/
namespace QueryDesk.Url

open QueryDesk.Text (Run composed findRun? readRuns)

/-- The characters that no domain may hold. -/
def isForbiddenInDomain (c : Char) : Bool :=
  c.toNat ≤ 0x20 || c.toNat = 0x7F
    || ['#', '%', '/', ':', '<', '>', '?', '@', '[', '\\', ']', '^', '|'].contains c

private def mappingRuns : List Run := readRuns mappingText

/-- What becomes of a character; `none` if no domain may hold it. -/
def mapCharacter? (c : Char) : Option (List Char) :=
  if disallowed.has c then none
  else
    match findRun? mappingRuns c with
    | some run => some ((run.image c.toNat).map Char.ofNat)
    | none => some [c]

/-- The form that a name is compared by. -/
def mapped? (text : List Char) : Option (List Char) :=
  (text.mapM mapCharacter?).map fun images => composed images.flatten

/-- What a label begins with that is written in letters and figures. -/
def codedMark : List Char := ['x', 'n', '-', '-']

/-- Longer labels are not written in letters and figures. -/
def encodeLimit : Nat := 1000

/-- Longer texts of letters and figures are not read. -/
def decodeLimit : Nat := 2000

/-- A label as it reads and as it is written. -/
structure Label where
  reading : List Char
  written : List Char
  deriving DecidableEq, Repr

/-- The label of a mapped text without dots. -/
def readLabel? (text : List Char) : Option Label :=
  if codedMark.isPrefixOf text then
    let signs := text.drop codedMark.length
    if isAscii text && signs.length ≤ decodeLimit then
      match readPunycode? signs with
      | none => none
      | some reading =>
          if !isAscii reading && mapped? reading == some reading then some ⟨reading, text⟩
          else none
    else none
  else if isAscii text then some ⟨text, text⟩
  else if text.length ≤ encodeLimit then some ⟨text, codedMark ++ punycode text⟩
  else none

/-- Whether labels can make up a name together. -/
def labelsFit (labels : List Label) : Bool :=
  labels.all (isLabel ·.reading)
    && (!labels.any (hasRightToLeft ·.reading) || labels.all (directionsFit ·.reading))

/-- A domain in ASCII. -/
def domainToAscii? (text : List Char) : Option (List Char) :=
  match mapped? text with
  | none => none
  | some name =>
      match (name.splitOn '.').mapM readLabel? with
      | none => none
      | some labels =>
          let domain := List.intercalate ['.'] (labels.map (·.written))
          if labelsFit labels && !domain.any isForbiddenInDomain then some domain else none

end QueryDesk.Url
