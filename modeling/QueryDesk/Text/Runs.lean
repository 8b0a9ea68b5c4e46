/-!
# Runs of a character table

A table of characters is kept as text: one entry for every run of evenly spaced
characters, with what the table says of the first of them. The entry `100-12E/2>101`
tells of every second character from U+0100 to U+012E, the first of which goes with
U+0101.
-/
namespace QueryDesk.Text

/-- Evenly spaced characters and the numbers that the table gives for the first of them. -/
structure Run where
  low : Nat
  high : Nat
  step : Nat
  targets : List Nat
  deriving DecidableEq, Repr

/-- A number in base sixteen, with capital letters. -/
def hexNumber (digits : List Char) : Nat :=
  digits.foldl
    (fun value c =>
      value * 16 + if c ≤ '9' then c.toNat - '0'.toNat else c.toNat - 'A'.toNat + 10)
    0

/-- The part before the first sign of a kind, and the part after it if there is such a sign. -/
def cutAt (sign : Char) (text : List Char) : List Char × Option (List Char) :=
  match text.dropWhile (· != sign) with
  | [] => (text, none)
  | _ :: rest => (text.takeWhile (· != sign), some rest)

/-- The run of an entry. -/
def readRun (entry : List Char) : Run :=
  let (source, target) := cutAt '>' entry
  let (span, step) := cutAt '/' source
  let (low, high) := cutAt '-' span
  { low := hexNumber low
    high := hexNumber (high.getD low)
    step := (step.map hexNumber).getD 1
    targets :=
      match target with
      | none | some [] => []
      | some text => (text.splitOn '+').map hexNumber }

/-- The runs of a table. -/
def readRuns (table : List String) : List Run :=
  table.flatMap fun line => (line.toList.splitOn ' ').map readRun

def Run.has (run : Run) (n : Nat) : Bool :=
  run.low ≤ n && n ≤ run.high && (n - run.low) % run.step == 0

/-- What a table maps a character to: a sole target moves along with the run. -/
def Run.image (run : Run) (n : Nat) : List Nat :=
  match run.targets with
  | [target] => [target + (n - run.low)]
  | targets => targets

/-- The run of a table that a character is in. -/
def findRun? (runs : List Run) (c : Char) : Option Run := runs.find? (·.has c.toNat)

end QueryDesk.Text
