import QueryDesk.Bus.Payload

/-!
# The bus

Handlers are registered under topics. To publish is to call every handler that is
registered for the topic at that moment, in the order of registration. A handler that
is called first changes the state it belongs to and then gives commands, which may
publish and register in turn before the next handler is called.

Calls nest without limit if handlers keep publishing to each other, so publishing is
given a depth, and a delivery that would go deeper has no result.
-/
namespace QueryDesk

/-- What a handler asks of the bus. -/
inductive Command (H : Type) where
  | subscribe (topic : String) (handler : H)
  | publish (topic : String) (payload : Payload)
  deriving Repr

/-- The registrations, oldest first. -/
abbrev Bus (H : Type) := List (String × H)

namespace Bus

variable {H S : Type}

/-- The handlers of a topic, once for each registration. -/
def subscribers (bus : Bus H) (topic : String) : List H :=
  (bus.filter (·.1 = topic)).map (·.2)

def subscribe (bus : Bus H) (topic : String) (handler : H) : Bus H := bus ++ [(topic, handler)]

/-- The beginning and the end of a call. -/
inductive Entry (H : Type) where
  | start (handler : H) (payload : Payload)
  | stop (handler : H)
  deriving Repr

/-- A bus and the state behind its handlers. -/
structure World (H S : Type) where
  bus : Bus H
  state : S

/-- The world after a delivery and the calls that it was made of. -/
abbrev Delivery (H S : Type) := Option (World H S × List (Entry H))

/-- How a payload is delivered under a topic. -/
abbrev Publisher (H S : Type) := String → Payload → World H S → Delivery H S

/-- What a handler does to the state, and its commands. -/
abbrev Reaction (H S : Type) := H → Payload → S → S × List (Command H)

/-- Carries out commands in order. -/
def runCommands (publisher : Publisher H S) : List (Command H) → World H S → Delivery H S
  | [], w => some (w, [])
  | .subscribe topic handler :: rest, w =>
      runCommands publisher rest { w with bus := w.bus.subscribe topic handler }
  | .publish topic payload :: rest, w =>
      match publisher topic payload w with
      | none => none
      | some (w, calls) =>
          match runCommands publisher rest w with
          | none => none
          | some (w, more) => some (w, calls ++ more)

/-- Calls handlers in order, each with its commands. -/
def callAll (react : Reaction H S) (publisher : Publisher H S) (payload : Payload) :
    List H → World H S → Delivery H S
  | [], w => some (w, [])
  | handler :: rest, w =>
      let (state, commands) := react handler payload w.state
      match runCommands publisher commands { w with state } with
      | none => none
      | some (w, calls) =>
          match callAll react publisher payload rest w with
          | none => none
          | some (w, more) => some (w, .start handler payload :: calls ++ .stop handler :: more)

/-- Delivers a payload with calls nested up to a depth. -/
def publish (react : Reaction H S) : Nat → Publisher H S
  | 0 => fun _ _ _ => none
  | depth + 1 => fun topic payload w =>
      callAll react (publish react depth) payload (w.bus.subscribers topic) w

end Bus

end QueryDesk
