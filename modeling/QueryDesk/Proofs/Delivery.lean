import QueryDesk.Bus

/-!
# Watched deliveries

`Bus.publish` answers with the calls it made. Here the same delivery runs beside a list in which
every event is written down at the moment its delivery begins, nested ones included and events
that nobody listens to as well. The list changes nothing: without it, a watched delivery is the
delivery.
-/
namespace QueryDesk.Bus

variable {H S : Type}

/-- A reaction next to a list of events that it leaves alone. -/
def beside (react : Reaction H S) : Reaction H (S × List Event) := fun handler payload s =>
  (((react handler payload s.1).1, s.2), (react handler payload s.1).2)

/-- Delivers a payload and writes down each event as its delivery begins. -/
def watch (react : Reaction H S) : Nat → Publisher H (S × List Event)
  | 0 => fun _ _ _ => none
  | depth + 1 => fun topic payload w =>
      callAll (beside react) (watch react depth) payload (w.bus.subscribers topic)
        { w with state := (w.state.1, w.state.2 ++ [⟨topic, payload⟩]) }

/-- The world without the list. -/
def World.bare (w : World H (S × List Event)) : World H S := ⟨w.bus, w.state.1⟩

/-- The delivery without the list. -/
def bareDelivery (delivery : Delivery H (S × List Event)) : Delivery H S :=
  delivery.map fun done => (done.1.bare, done.2)

theorem runCommands_bare {watched : Publisher H (S × List Event)} {plain : Publisher H S}
    (h : ∀ topic payload w, bareDelivery (watched topic payload w) = plain topic payload w.bare)
    (commands : List (Command H)) (w : World H (S × List Event)) :
    bareDelivery (runCommands watched commands w) = runCommands plain commands w.bare := by
  induction commands generalizing w with
  | nil => rfl
  | cons command rest ih =>
    cases command with
    | subscribe topic handler => exact ih _
    | publish topic payload =>
      have hp := h topic payload w
      simp only [runCommands]
      rw [← hp]
      cases watched topic payload w with
      | none => rfl
      | some done =>
        have hrest := ih done.1
        simp only [bareDelivery, Option.map_some] at hrest ⊢
        rw [← hrest]
        cases runCommands watched rest done.1 <;> rfl

theorem callAll_bare {react : Reaction H S} {watched : Publisher H (S × List Event)}
    {plain : Publisher H S}
    (h : ∀ topic payload w, bareDelivery (watched topic payload w) = plain topic payload w.bare)
    (payload : Payload) (handlers : List H) (w : World H (S × List Event)) :
    bareDelivery (callAll (beside react) watched payload handlers w) =
      callAll react plain payload handlers w.bare := by
  induction handlers generalizing w with
  | nil => rfl
  | cons handler rest ih =>
    have hc : bareDelivery (runCommands watched (react handler payload w.state.1).2
          { w with state := ((react handler payload w.state.1).1, w.state.2) }) =
        runCommands plain (react handler payload w.bare.state).2
          { w.bare with state := (react handler payload w.bare.state).1 } :=
      runCommands_bare h _ _
    simp only [callAll, beside]
    rw [← hc]
    cases runCommands watched (react handler payload w.state.1).2
        { w with state := ((react handler payload w.state.1).1, w.state.2) } with
    | none => rfl
    | some done =>
      have hrest := ih done.1
      simp only [bareDelivery, Option.map_some, World.bare] at hrest ⊢
      rw [← hrest]
      cases callAll (beside react) watched payload rest done.1 <;> rfl

/-- A watched delivery is the delivery with a list beside it. -/
theorem watch_bare (react : Reaction H S) (depth : Nat) (topic : String) (payload : Payload)
    (w : World H (S × List Event)) :
    bareDelivery (watch react depth topic payload w) =
      publish react depth topic payload w.bare := by
  induction depth generalizing topic payload w with
  | zero => rfl
  | succ depth ih => exact callAll_bare ih payload _ _

end QueryDesk.Bus
