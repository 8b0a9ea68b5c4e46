import QueryDesk.Dataset
import QueryDesk.Number.Places

/-!
# The bar chart of a dataset

A chart labels its bars by the first column and plots the first numeric column
after it; a lone numeric first column is plotted against row numbers. What is
charted depends on the last dataset alone.
-/
namespace QueryDesk

structure Bar where
  label : String
  value : Float
  deriving Inhabited

/-- What the chart shows. -/
inductive Chart where
  /-- No dataset has arrived. -/
  | waiting
  /-- The last dataset has no numeric column. -/
  | refused
  | plotted (subject : String) (bars : List Bar)
  deriving Inhabited

namespace Chart

/-- The full length of a bar. -/
def scale : Nat := 1000

/-- One bar for each row with a number in the value column. -/
def barsOf (rows : List (List String)) (label : Option Nat) (value : Nat) : List Bar :=
  rows.zipIdx.filterMap fun (row, i) =>
    (row[value]?.bind Dataset.numericValue?).map fun number =>
      { label :=
          match label with
          | some column => row[column]?.getD ""
          | none => toString (i + 1)
        value := number }

/-- The chart of a dataset. -/
def ofDataset (dataset : Dataset) : Chart :=
  let header (column : Nat) := dataset.headers[column]?.getD ""
  match Dataset.firstNumericColumn? dataset.headers dataset.rows (some 0) with
  | some value =>
      .plotted (header value ++ " by " ++ header 0) (barsOf dataset.rows (some 0) value)
  | none =>
      match Dataset.firstNumericColumn? dataset.headers dataset.rows none with
      | some value => .plotted (header value) (barsOf dataset.rows none value)
      | none => .refused

def subject : Chart → Option String
  | .plotted subject _ => some subject
  | _ => none

def bars : Chart → List Bar
  | .plotted _ bars => bars
  | _ => []

def hint : Chart → Option String
  | .refused => some "No numeric column to chart"
  | _ => none

/-- The largest bar value, at least zero. -/
def largest (bars : List Bar) : Float :=
  bars.foldl (fun top bar => if top < bar.value then bar.value else top) 0

/-- The length of a bar in thousandths of the largest; none for values up to zero. -/
def scaled (value top : Float) : UInt64 :=
  if top ≤ 0 || value ≤ 0 then 0 else (value / top * Float.ofNat scale).round.toUInt64

/-- Whole values below `10^15` are written without a point, others with two places. -/
def valueText (value : Float) : String :=
  match Number.wholeValue? value with
  | some n => if n.natAbs < Nat.pow 10 15 then toString n else Number.fixedPlaces 2 value
  | none => Number.fixedPlaces 2 value

end Chart

end QueryDesk
