import QueryDesk.Number.Decimal

/-!
# Datasets

The answer to a query: headers, rows of cells of any length, and the time of day it
was made. A column is numeric if it has cells that are not blank and all of those
are finite numbers.
-/
namespace QueryDesk

/-- A time of day to the second. -/
structure Clock where
  hour : Nat
  minute : Nat
  second : Nat
  deriving DecidableEq, Repr, Inhabited

private def twoDigits (n : Nat) : String :=
  if n < 10 then "0" ++ toString n else toString n

/-- Hours, minutes and seconds with two digits each. -/
def Clock.text (t : Clock) : String :=
  twoDigits t.hour ++ ":" ++ twoDigits t.minute ++ ":" ++ twoDigits t.second

def Clock.midnight : Clock := ⟨0, 0, 0⟩

structure Dataset where
  query : String
  headers : List String
  rows : List (List String)
  time : Clock
  deriving DecidableEq, Repr

namespace Dataset

/-- The finite number in a cell, blanks around it ignored. -/
def numericValue? (cell : String) : Option Float :=
  Number.readFloat? (Text.trimBlanks cell.toList)

/-- The cells of a column that are not blank; short rows have none. -/
def filledCells (rows : List (List String)) (column : Nat) : List String :=
  (rows.filterMap (·[column]?)).filter (!Text.allBlank ·)

/-- Some cell of the column is filled, and every filled one is a finite number. -/
def isNumericColumn (rows : List (List String)) (column : Nat) : Bool :=
  let cells := filledCells rows column
  !cells.isEmpty && cells.all (numericValue? · |>.isSome)

/-- The leftmost numeric column under a header, other than `skip`. -/
def firstNumericColumn? (headers : List String) (rows : List (List String))
    (skip : Option Nat) : Option Nat :=
  (List.range headers.length).find? fun column =>
    some column != skip && isNumericColumn rows column

end Dataset

end QueryDesk
