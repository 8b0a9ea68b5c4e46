import QueryDesk.Bus
import QueryDesk.Number.Total

/-!
# Scripted handlers

A script is a handler as data: the commands that it gives on each of its first calls,
up to a limit of its own. Calls are counted under the name of the script, wherever
and however often it is registered.
-/
namespace QueryDesk.Bus

structure Script where
  commands : List (Command String)
  /-- The number of calls that give the commands; without it, all do. -/
  limit : Option Nat

/-- The scripts under their names. A name without script gives no commands. -/
abbrev Scripts := List (String × Script)

/-- How often each name has been called. -/
abbrev Calls := List (String × Nat)

namespace Script

def called (calls : Calls) (name : String) : Nat := (calls.lookup name).getD 0

/-- The call of a name: the count goes up, and the commands are given up to the limit. -/
def react (scripts : Scripts) : Reaction String Calls := fun name _ calls =>
  let count := called calls name + 1
  let calls := (name, count) :: calls.filter (·.1 ≠ name)
  match scripts.lookup name with
  | none => (calls, [])
  | some script =>
      match script.limit with
      | none => (calls, script.commands)
      | some limit => (calls, if count ≤ limit then script.commands else [])

/-- A depth that every delivery which ends stays within: between two limited calls, and before the
first and after the last of them, no handler without limit occurs twice in a chain. -/
def depth (scripts : Scripts) : Nat :=
  let limited := Number.total (scripts.filterMap (·.2.limit))
  (limited + 1) * (scripts.length + 1)

/-- Delivers a payload to scripted handlers. -/
def publish (scripts : Scripts) : Publisher String Calls :=
  Bus.publish (react scripts) (depth scripts)

end Script

end QueryDesk.Bus
