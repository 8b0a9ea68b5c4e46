/-!
# Totals

The sum of a list of natural numbers. Its zero is named, for which of the ways to find it is taken
depends on what is imported.
-/
namespace QueryDesk.Number

def total (numbers : List Nat) : Nat := @List.sum Nat _ ⟨0⟩ numbers

theorem total_nil : total [] = 0 := List.sum_nil

theorem total_cons (n : Nat) (numbers : List Nat) : total (n :: numbers) = n + total numbers :=
  List.sum_cons

theorem total_append (front back : List Nat) : total (front ++ back) = total front + total back :=
  List.sum_append_nat

end QueryDesk.Number
