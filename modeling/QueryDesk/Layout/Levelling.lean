import QueryDesk.Number.Places
import QueryDesk.Number.Total

/-!
# Sharing a row of cells

Parts with fixed lengths and one that takes the rest are laid side by side. When
the fixed lengths do not fit, the parts that stand out most are cut down first: the
run of equal neighbours whose levelling evens out the row most for each cell given
up is lowered to its higher neighbour, again and again, until enough is saved. A run
that is lowered only in part shares what is left as evenly as whole cells allow.
-/
namespace QueryDesk.Layout

/-- Neighbouring parts of one length. -/
structure Run where
  count : Nat
  level : Nat
  deriving DecidableEq, Repr, Inhabited

/-- Puts a run before others and joins it with an equal neighbour. -/
def consRun (run : Run) : List Run → List Run
  | [] => [run]
  | next :: rest =>
      if run.level = next.level then ⟨run.count + next.count, run.level⟩ :: rest
      else run :: next :: rest

/-- The runs of a row of lengths. -/
def runsOf (lengths : List Nat) : List Run := lengths.foldr (fun n runs => consRun ⟨1, n⟩ runs) []

def lengthsOf (runs : List Run) : List Nat := runs.flatMap fun run => List.replicate run.count run.level

/-- A run higher than its neighbours, what it can be lowered to, and on how many sides it stands out. -/
structure Peak where
  before : List Run
  run : Run
  after : List Run
  floor : Nat
  sides : Nat
  deriving Repr, Inhabited

/-- The peaks of a row from left to right. `before` holds the runs on the left. -/
def peaks (before : List Run) : List Run → List Peak
  | [] => []
  | run :: after =>
      let neighbours := (before.getLast?.toList ++ after.head?.toList).map (·.level)
      let floor := neighbours.foldl max 0
      let rest := peaks (before ++ [run]) after
      if neighbours.all (· < run.level) && floor < run.level then
        { before, run, after, floor, sides := neighbours.length } :: rest
      else rest

/-- The first of the peaks that gain most evenness for each cell. -/
def bestPeak? : List Peak → Option Peak
  | [] => none
  | peak :: rest =>
      match bestPeak? rest with
      | none => some peak
      | some other =>
          if peak.sides * other.run.count < other.sides * peak.run.count then some other else some peak

/-- A total shared by `count` parts: the ends lie on the nearest whole cells. -/
def shares (count total : Nat) : List Nat :=
  (List.range count).map fun k =>
    Number.roundHalfUp ((k + 1) * total) count - Number.roundHalfUp (k * total) count

/-- The lengths after `missing` cells are saved. -/
def saveCells (missing : Nat) (runs : List Run) : List Nat :=
  if missing = 0 then lengthsOf runs
  else
    match bestPeak? (peaks [] runs) with
    | none => lengthsOf runs
    | some peak =>
        let cost := peak.run.count * (peak.run.level - peak.floor)
        if 0 < cost ∧ cost ≤ missing then
          saveCells (missing - cost)
            (runsOf (lengthsOf (peak.before ++ ⟨peak.run.count, peak.floor⟩ :: peak.after)))
        else
          lengthsOf peak.before ++ shares peak.run.count (peak.run.count * peak.run.level - missing)
            ++ lengthsOf peak.after
termination_by missing
decreasing_by omega

/-- A part of a row. -/
inductive Part where
  | fixed (length : Nat)
  | rest
  deriving DecidableEq, Repr

def Part.length : Part → Nat
  | .fixed length => length
  | .rest => 0

/-- The lengths of the parts in a row of `room` cells. -/
def partLengths (room : Nat) (parts : List Part) : List Nat :=
  let total := Number.total (parts.map Part.length)
  if total ≤ room then
    parts.map fun
      | .fixed length => length
      | .rest => room - total
  else saveCells (total - room) (runsOf (parts.map Part.length))

/-- The start and the length of each part, side by side from `start`. -/
def placed (start : Nat) : List Nat → List (Nat × Nat)
  | [] => []
  | length :: rest => (start, length) :: placed (start + length) rest

end QueryDesk.Layout
