/-!
# Sets of code points

A set of characters is written as an ascending list of closed ranges. A scan stops
at the first range that starts above the code point, so the order of the list
matters for the answer.
-/
namespace QueryDesk.Text

/-- An ascending list of closed, disjoint ranges of code points. -/
abbrev Ranges := List (Nat × Nat)

/-- Whether some range of the ascending list holds the number. -/
def Ranges.holds : Ranges → Nat → Bool
  | [], _ => false
  | (low, high) :: rest, n =>
      if n < low then false else if n ≤ high then true else Ranges.holds rest n

def Ranges.has (ranges : Ranges) (c : Char) : Bool := ranges.holds c.toNat

end QueryDesk.Text
