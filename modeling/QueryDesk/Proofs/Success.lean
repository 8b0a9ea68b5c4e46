/-!
# Steps that succeed

What is known of the steps of a computation that could have failed and has not.
-/
namespace QueryDesk

variable {α β ε : Type} {x : Except ε α} {b : β}

theorem map_eq_ok {f : α → β} (h : x.map f = .ok b) : ∃ a, x = .ok a ∧ f a = b := by
  cases x with
  | error e => cases h
  | ok a => exact ⟨a, rfl, Except.ok.inj h⟩

/-- Two steps that succeed, the second on what the first has found. -/
theorem bind_eq_ok {f : α → Except ε β} (h : x >>= f = .ok b) : ∃ a, x = .ok a ∧ f a = .ok b := by
  cases x with
  | error e => cases h
  | ok a => exact ⟨a, rfl, h⟩

end QueryDesk
