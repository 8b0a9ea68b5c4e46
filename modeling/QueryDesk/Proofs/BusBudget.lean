import Mathlib.Algebra.Order.BigOperators.Group.Finset
import QueryDesk.Bus.Script
import QueryDesk.Proofs.Lookup

/-!
# When a delivery ends

Handlers may register new handlers while they are called, on the very topic that is being delivered,
and handlers may publish in turn. Neither the list of a topic nor the nesting of calls bounds a
delivery by itself: the one may grow at every call, the other goes as deep as there are handlers
that publish.

What bounds a delivery is that it goes through the list as it was at the beginning, and that a call
nested in another one needs a handler that publishes. If each of these gives its commands on some
first calls only, the calls that are left to them are a budget: no call adds to it, and a call that
publishes takes from it before anything is nested in the call. So calls nest no deeper than the
budget, and at any depth beyond it a delivery has the same result.
-/
namespace QueryDesk.Bus

/-- Some of the commands publish. -/
def Publishes {H : Type} (commands : List (Command H)) : Prop :=
  ∃ topic payload, Command.publish topic payload ∈ commands

section

variable {H S : Type} {publisher other : Publisher H S} {react : Reaction H S}
  {w after : World H S} {calls : List (Entry H)} {topic : String} {payload : Payload}

/-! ### Deliveries step by step -/

/-- A delivery has a result if its first part has one and then its second part, and the calls of the
two make up its own. -/
theorem sequence_eq_some {first : Delivery H S} {second : World H S → Delivery H S}
    {join : List (Entry H) → List (Entry H) → List (Entry H)} :
    (match first with
      | none => none
      | some (w, calls) =>
          match second w with
          | none => none
          | some (w, more) => some (w, join calls more)) = some (after, calls) ↔
      ∃ middle front back, first = some (middle, front) ∧ second middle = some (after, back) ∧
        calls = join front back := by
  cases first with
  | none => simp
  | some first =>
    obtain ⟨middle, front⟩ := first
    dsimp only
    cases hsecond : second middle with
    | none =>
      simp only [reduceCtorEq, Option.some.injEq, Prod.mk.injEq, false_iff]
      rintro ⟨_, _, back, ⟨rfl, rfl⟩, hsome, -⟩
      exact absurd (hsecond.symm.trans hsome) nofun
    | some second =>
      obtain ⟨last, back⟩ := second
      simp only [Option.some.injEq, Prod.mk.injEq]
      constructor
      · rintro ⟨rfl, rfl⟩
        exact ⟨middle, front, back, ⟨rfl, rfl⟩, hsecond, rfl⟩
      · rintro ⟨_, _, back', ⟨rfl, rfl⟩, hsome, rfl⟩
        obtain ⟨rfl, rfl⟩ := Prod.mk.inj (Option.some.inj (hsecond.symm.trans hsome))
        exact ⟨rfl, rfl⟩

/-- What a command publishes is delivered before the commands behind it are carried out. -/
theorem runCommands_publish_eq_some {rest : List (Command H)} :
    runCommands publisher (.publish topic payload :: rest) w = some (after, calls) ↔
      ∃ middle front back, publisher topic payload w = some (middle, front) ∧
        runCommands publisher rest middle = some (after, back) ∧ calls = front ++ back :=
  sequence_eq_some

/-- The commands of a call are carried out before the calls behind it. -/
theorem callAll_cons_eq_some {handler : H} {rest : List H} :
    callAll react publisher payload (handler :: rest) w = some (after, calls) ↔
      ∃ middle front back, runCommands publisher (react handler payload w.state).2
            { w with state := (react handler payload w.state).1 } = some (middle, front) ∧
        callAll react publisher payload rest middle = some (after, back) ∧
        calls = .start handler payload :: front ++ .stop handler :: back :=
  sequence_eq_some

/-! ### A greater depth changes no result -/

/-- What one publisher delivers, another one delivers as well. -/
def Agrees (publisher other : Publisher H S) : Prop :=
  ∀ topic payload w done, publisher topic payload w = some done → other topic payload w = some done

theorem Agrees.runCommands (h : Agrees publisher other) {commands : List (Command H)}
    (hdone : Bus.runCommands publisher commands w = some (after, calls)) :
    Bus.runCommands other commands w = some (after, calls) := by
  induction commands generalizing w calls with
  | nil => exact hdone
  | cons command rest ih =>
    cases command with
    | subscribe topic handler => exact ih hdone
    | publish topic payload =>
      obtain ⟨middle, front, back, hfirst, hrest, rfl⟩ := runCommands_publish_eq_some.1 hdone
      exact runCommands_publish_eq_some.2 ⟨middle, front, back, h _ _ _ _ hfirst, ih hrest, rfl⟩

theorem Agrees.callAll (h : Agrees publisher other) {handlers : List H}
    (hdone : Bus.callAll react publisher payload handlers w = some (after, calls)) :
    Bus.callAll react other payload handlers w = some (after, calls) := by
  induction handlers generalizing w calls with
  | nil => exact hdone
  | cons handler rest ih =>
    obtain ⟨middle, front, back, hfirst, hrest, rfl⟩ := callAll_cons_eq_some.1 hdone
    exact callAll_cons_eq_some.2 ⟨middle, front, back, h.runCommands hfirst, ih hrest, rfl⟩

theorem agrees_succ (react : Reaction H S) (depth : Nat) :
    Agrees (publish react depth) (publish react (depth + 1)) := by
  induction depth with
  | zero => exact fun _ _ _ _ hdone => nomatch hdone
  | succ depth ih => exact fun _ _ _ _ hdone => ih.callAll hdone

theorem publish_stable {depth more : Nat}
    (hdone : publish react depth topic payload w = some (after, calls)) (hle : depth ≤ more) :
    publish react more topic payload w = some (after, calls) := by
  induction hle with
  | refl => exact hdone
  | step _ ih => exact agrees_succ react _ _ _ _ _ ih

/-! ### Budgets -/

/-- A budget for a reaction: no call adds to it, and a call that publishes takes from it. -/
structure Spends (react : Reaction H S) (left : S → Nat) : Prop where
  le : ∀ handler payload s, left (react handler payload s).1 ≤ left s
  lt : ∀ handler payload s, Publishes (react handler payload s).2 →
    left (react handler payload s).1 < left s

/-- There is a result, and it has no more of a budget than there was. -/
def Ends (left : S → Nat) (delivery : Delivery H S) (w : World H S) : Prop :=
  ∃ after calls, delivery = some (after, calls) ∧ left after.state ≤ left w.state

variable {left : S → Nat} {depth : Nat}

/-- Commands that only register have a result whatever the publisher. -/
theorem runCommands_silent {commands : List (Command H)} (h : ¬Publishes commands)
    (w : World H S) : Ends left (runCommands publisher commands w) w := by
  induction commands generalizing w with
  | nil => exact ⟨w, [], rfl, Nat.le_refl _⟩
  | cons command rest ih =>
    cases command with
    | subscribe topic handler =>
      exact ih (fun ⟨topic, payload, hmem⟩ => h ⟨topic, payload, List.mem_cons_of_mem _ hmem⟩) _
    | publish topic payload => exact absurd ⟨topic, payload, List.mem_cons_self ..⟩ h

/-- A publisher that ends within a budget lets commands end within it. -/
theorem runCommands_ends
    (h : ∀ topic payload w, left w.state < depth → Ends left (publisher topic payload w) w)
    (commands : List (Command H)) {w : World H S} (hw : left w.state < depth) :
    Ends left (runCommands publisher commands w) w := by
  induction commands generalizing w with
  | nil => exact ⟨w, [], rfl, Nat.le_refl _⟩
  | cons command rest ih =>
    cases command with
    | subscribe topic handler => exact ih (w := { w with bus := w.bus.subscribe topic handler }) hw
    | publish topic payload =>
      obtain ⟨middle, front, hfirst, hmiddle⟩ := h topic payload w hw
      obtain ⟨after, back, hrest, hafter⟩ := ih (Nat.lt_of_le_of_lt hmiddle hw)
      exact ⟨after, front ++ back,
        runCommands_publish_eq_some.2 ⟨middle, front, back, hfirst, hrest, rfl⟩,
        Nat.le_trans hafter hmiddle⟩

/-- Calls may be nested one deeper, since a call that publishes takes from the budget first. -/
theorem Spends.callAll_ends (hs : Spends react left)
    (h : ∀ topic payload w, left w.state < depth → Ends left (publisher topic payload w) w)
    (payload : Payload) (handlers : List H) {w : World H S} (hw : left w.state < depth + 1) :
    Ends left (callAll react publisher payload handlers w) w := by
  induction handlers generalizing w with
  | nil => exact ⟨w, [], rfl, Nat.le_refl _⟩
  | cons handler rest ih =>
    have hle := hs.le handler payload w.state
    have hcall : Ends left (runCommands publisher (react handler payload w.state).2
        { w with state := (react handler payload w.state).1 })
        { w with state := (react handler payload w.state).1 } := by
      -- only a call that publishes needs the publisher, and it has less left than its caller
      by_cases hpublishes : Publishes (react handler payload w.state).2
      · have hlt := hs.lt handler payload w.state hpublishes
        exact runCommands_ends h _ (Nat.lt_of_lt_of_le hlt (Nat.le_of_lt_succ hw))
      · exact runCommands_silent hpublishes _
    obtain ⟨middle, front, hfirst, hmiddle⟩ := hcall
    have hspent := Nat.le_trans hmiddle hle
    obtain ⟨after, back, hrest, hafter⟩ := ih (Nat.lt_of_le_of_lt hspent hw)
    exact ⟨after, .start handler payload :: front ++ .stop handler :: back,
      callAll_cons_eq_some.2 ⟨middle, front, back, hfirst, hrest, rfl⟩,
      Nat.le_trans hafter hspent⟩

/-- A delivery ends at any depth beyond the budget. -/
theorem Spends.publish_ends (hs : Spends react left) (depth : Nat) (topic : String)
    (payload : Payload) (w : World H S) (hw : left w.state < depth) :
    Ends left (publish react depth topic payload w) w := by
  induction depth generalizing topic payload w with
  | zero => exact absurd hw (Nat.not_lt_zero _)
  | succ depth ih => exact hs.callAll_ends ih payload _ hw

/-- It has one and the same result at all these depths. -/
theorem Spends.exists_delivery (hs : Spends react left) (topic : String) (payload : Payload)
    (w : World H S) :
    ∃ after calls, left after.state ≤ left w.state ∧
      ∀ depth, left w.state < depth →
        publish react depth topic payload w = some (after, calls) := by
  obtain ⟨after, calls, hdone, hle⟩ :=
    hs.publish_ends (left w.state + 1) topic payload w (Nat.lt_succ_self _)
  exact ⟨after, calls, hle, fun depth hdepth => publish_stable hdone hdepth⟩

/-- So do commands. -/
theorem Spends.exists_run (hs : Spends react left) (commands : List (Command H)) (w : World H S) :
    ∃ after calls, ∀ depth, left w.state < depth →
      runCommands (publish react depth) commands w = some (after, calls) := by
  obtain ⟨after, calls, hdone, -⟩ :=
    runCommands_ends (hs.publish_ends (left w.state + 1)) commands (Nat.lt_succ_self _)
  have hagrees {depth : Nat} (hdepth : left w.state < depth) :
      Agrees (publish react (left w.state + 1)) (publish react depth) :=
    fun _ _ _ _ hfirst => publish_stable hfirst hdepth
  exact ⟨after, calls, fun depth hdepth => (hagrees hdepth).runCommands hdone⟩

/-! ### Handlers that publish on some calls only -/

/-- The state behind the handlers counts the calls of each. Those that ever publish are finitely
many, and none of them publishes after its first calls up to a last one of its own. Handlers that
only register are free to do so on every call. -/
structure Exhaustible (react : Reaction H S) (called : S → H → Nat) (publishers : Finset H)
    (last : H → Nat) : Prop where
  counted : ∀ handler payload s,
    called (react handler payload s).1 handler = called s handler + 1
  apart : ∀ handler payload s other, other ≠ handler →
    called (react handler payload s).1 other = called s other
  limited : ∀ handler payload s, Publishes (react handler payload s).2 →
    handler ∈ publishers ∧ called s handler < last handler

/-- The calls that are left to those that publish. -/
def remaining (called : S → H → Nat) (publishers : Finset H) (last : H → Nat) (s : S) : Nat :=
  ∑ handler ∈ publishers, (last handler - called s handler)

variable {called : S → H → Nat} {publishers : Finset H} {last : H → Nat}

namespace Exhaustible

variable (h : Exhaustible react called publishers last)
include h

theorem called_le (handler : H) (payload : Payload) (s : S) (other : H) :
    called s other ≤ called (react handler payload s).1 other := by
  by_cases hsame : other = handler
  · subst hsame
    rw [h.counted]
    exact Nat.le_succ _
  · rw [h.apart _ _ _ _ hsame]

theorem spends : Spends react (remaining called publishers last) where
  le handler payload s :=
    Finset.sum_le_sum fun other _ => Nat.sub_le_sub_left (h.called_le handler payload s other) _
  lt handler payload s hpublishes := by
    obtain ⟨hmem, hlast⟩ := h.limited handler payload s hpublishes
    refine Finset.sum_lt_sum
      (fun other _ => Nat.sub_le_sub_left (h.called_le handler payload s other) _)
      ⟨handler, hmem, ?_⟩
    rw [h.counted]
    exact Nat.sub_succ_lt_self _ _ hlast

end Exhaustible

/-- Let those handlers that ever publish be finitely many, and let each of them publish on finitely
many of its calls, none after a last one; handlers that only register may do so on every call. Then
every delivery on every bus, after any calls, has a result, one and the same at every depth greater
than the number of calls left to those that publish. -/
theorem publish_terminates (react : Reaction H S) (called : S → H → Nat)
    (publishers : Finset H) (last : H → Nat) (h : Exhaustible react called publishers last)
    (topic : String) (payload : Payload) (w : World H S) :
    ∃ after calls, ∀ depth, remaining called publishers last w.state < depth →
      publish react depth topic payload w = some (after, calls) := by
  obtain ⟨after, calls, -, hdone⟩ := h.spends.exists_delivery topic payload w
  exact ⟨after, calls, hdone⟩

end

/-! ### Scripts -/

namespace Script

variable {scripts : Scripts} {name : String} {payload : Payload} {calls : Calls}

/-- Scripts that publish have a limit. -/
def Limited (scripts : Scripts) : Prop :=
  ∀ name script, scripts.lookup name = some script → Publishes script.commands →
    script.limit ≠ none

/-- The last call on which a name gives the commands of its script, if it has a limit. -/
def lastCall (scripts : Scripts) (name : String) : Nat :=
  ((scripts.lookup name).bind (·.limit)).getD 0

/-- The names of scripts. -/
def names (scripts : Scripts) : Finset String := (scripts.map (·.1)).toFinset

/-- Every call is counted, with a script or without one. -/
theorem called_react (scripts : Scripts) (name : String) (payload : Payload) (calls : Calls)
    (other : String) :
    called (react scripts name payload calls).1 other =
      if other = name then called calls name + 1 else called calls other := by
  have hcalls : (react scripts name payload calls).1 =
      (name, called calls name + 1) :: calls.filter (·.1 ≠ name) := by
    simp only [react]
    cases scripts.lookup name with
    | none => rfl
    | some script =>
      dsimp only
      cases script.limit <;> rfl
  rw [hcalls, called, lookup_put]
  split <;> rfl

/-- A call that publishes is one of a script, within its limit. -/
theorem publishes_react (h : Publishes (react scripts name payload calls).2) :
    ∃ script, scripts.lookup name = some script ∧ Publishes script.commands ∧
      ∀ limit, script.limit = some limit → called calls name < limit := by
  simp only [react] at h
  cases hscript : scripts.lookup name with
  | none =>
    obtain ⟨topic, payload, hmem⟩ := hscript ▸ h
    cases hmem
  | some script =>
    rw [hscript] at h
    cases hlimit : script.limit with
    | none => exact ⟨script, rfl, by simpa only [hlimit] using h,
        fun limit he => nomatch hlimit.symm.trans he⟩
    | some limit =>
      simp only [hlimit] at h
      split at h
      · rename_i hcount
        exact ⟨script, rfl, h, fun limit' he => Option.some.inj (hlimit.symm.trans he) ▸ hcount⟩
      · obtain ⟨topic, payload, hmem⟩ := h
        cases hmem

theorem exhaustible (h : Limited scripts) :
    Exhaustible (react scripts) called (names scripts) (lastCall scripts) where
  counted name payload calls := by rw [called_react, if_pos rfl]
  apart name payload calls other hne := by rw [called_react, if_neg hne]
  limited name payload calls hpublishes := by
    obtain ⟨script, hscript, hcommands, hcount⟩ := publishes_react hpublishes
    obtain ⟨limit, hlimit⟩ := Option.ne_none_iff_exists'.1 (h name script hscript hcommands)
    have hmem : name ∈ scripts.map (·.1) := List.mem_map_of_mem (mem_of_lookup hscript)
    refine ⟨List.mem_toFinset.2 hmem, ?_⟩
    simp only [lastCall, hscript, Option.bind_some, hlimit, Option.getD_some]
    exact hcount limit hlimit

/-- The calls that are left to scripts are never more than all their limits together. -/
theorem sum_lastCall_le (scripts : Scripts) :
    ∑ name ∈ names scripts, lastCall scripts name ≤
      Number.total (scripts.filterMap (·.2.limit)) := by
  induction scripts with
  | nil => exact Nat.le_refl 0
  | cons entry rest ih =>
    obtain ⟨name, script⟩ := entry
    -- a later script under the same name is never looked up, so its limit counts for nothing
    have hothers : ∑ other ∈ (names rest).erase name, lastCall ((name, script) :: rest) other ≤
        ∑ other ∈ names rest, lastCall rest other := by
      refine (Finset.sum_congr rfl fun other hother => ?_).trans_le
        (Finset.sum_le_sum_of_subset (Finset.erase_subset name (names rest)))
      have hne : (other == name) = false := beq_eq_false_iff_ne.2 (Finset.ne_of_mem_erase hother)
      simp only [lastCall, List.lookup_cons, hne]
    have hsum : ∑ other ∈ names ((name, script) :: rest), lastCall ((name, script) :: rest) other =
        script.limit.getD 0 +
          ∑ other ∈ (names rest).erase name, lastCall ((name, script) :: rest) other := by
      have hnames : names ((name, script) :: rest) = insert name ((names rest).erase name) := by
        ext other
        by_cases hsame : other = name <;> simp [names, hsame]
      rw [hnames, Finset.sum_insert (Finset.notMem_erase _ _)]
      simp [lastCall]
    have htotal : Number.total (((name, script) :: rest).filterMap (·.2.limit)) =
        script.limit.getD 0 + Number.total (rest.filterMap (·.2.limit)) := by
      cases hlimit : script.limit <;> simp [hlimit, Number.total_cons]
    omega

/-- The depth that scripts are given is enough: if those that publish have a limit, every delivery
has a result, and a greater depth would not change it. -/
theorem publish_enough (h : Limited scripts) (topic : String) (payload : Payload)
    (w : World String Calls) :
    ∃ done, Script.publish scripts topic payload w = some done ∧
      ∀ depth, Script.depth scripts ≤ depth →
        Bus.publish (react scripts) depth topic payload w = some done := by
  obtain ⟨after, calls, -, hdone⟩ := (exhaustible h).spends.exists_delivery topic payload w
  have hleft : remaining called (names scripts) (lastCall scripts) w.state <
      Script.depth scripts := by
    have hlimits := sum_lastCall_le scripts
    have hspent : remaining called (names scripts) (lastCall scripts) w.state ≤
        ∑ name ∈ names scripts, lastCall scripts name :=
      Finset.sum_le_sum fun name _ => Nat.sub_le ..
    have hscripts : Number.total (scripts.filterMap (·.2.limit)) + 1 ≤ Script.depth scripts :=
      Nat.le_mul_of_pos_right _ (Nat.succ_pos _)
    omega
  exact ⟨(after, calls), hdone _ hleft,
    fun depth hdepth => hdone _ (Nat.lt_of_lt_of_le hleft hdepth)⟩

/-- A script that registers another one and publishes on the topic of both, on two calls, and the
other one, which registers itself once more on every call. -/
def relayAndGrow : Scripts :=
  [("relay", ⟨[.subscribe "t" "grow", .publish "t" .empty], some 2⟩),
    ("grow", ⟨[.subscribe "t" "grow"], none⟩)]

theorem limited_relayAndGrow : Limited relayAndGrow := by
  intro name script hscript hpublishes
  have hmem := mem_of_lookup hscript
  simp only [relayAndGrow, List.mem_cons, Prod.mk.injEq, List.not_mem_nil, or_false] at hmem
  rcases hmem with ⟨-, rfl⟩ | ⟨-, rfl⟩
  · exact Option.some_ne_none 2
  · obtain ⟨topic, payload, hcommand⟩ := hpublishes
    simp at hcommand

end Script

theorem relay_and_grow_terminate :
    let scripts := Script.relayAndGrow
    let w : World String Calls := ⟨[("t", "relay"), ("t", "grow")], []⟩
    Exhaustible (Script.react scripts) Script.called (Script.names scripts)
      (Script.lastCall scripts) ∧
    remaining Script.called (Script.names scripts) (Script.lastCall scripts) w.state = 2 ∧
    ∃ after calls, ∀ depth, 2 < depth →
      publish (Script.react scripts) depth "t" .empty w = some (after, calls) := by
  intro scripts w
  have hexhaustible := Script.exhaustible Script.limited_relayAndGrow
  have hleft : remaining Script.called (Script.names scripts) (Script.lastCall scripts)
      w.state = 2 := by decide
  obtain ⟨after, calls, hdone⟩ := publish_terminates _ _ _ _ hexhaustible "t" .empty w
  exact ⟨hexhaustible, hleft, after, calls, fun depth hdepth => hdone depth (hleft.trans_lt hdepth)⟩

/-- Without a limit the relay has no result at any depth. -/
theorem publish_relay_without_limit (depth : Nat) (calls : Calls) :
    publish (Script.react [("relay", ⟨[.publish "t" .empty], none⟩)]) depth "t" .empty
      ⟨[("t", "relay")], calls⟩ = none := by
  induction depth generalizing calls with
  | zero => rfl
  | succ depth ih => simp [publish, subscribers, callAll, Script.react, runCommands, ih]

end QueryDesk.Bus
