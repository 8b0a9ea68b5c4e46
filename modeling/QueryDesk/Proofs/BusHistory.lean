import QueryDesk.Proofs.BusBudget

/-!
# What happens in a delivery

A delivery is a round of calls, and in a call the handler acts: it registers handlers and publishes,
and what it publishes is a round of its own. A tree of rounds and acts holds all that happens in a
delivery, and the log of calls that the bus answers with is read off it. The handlers that a round
calls are settled when it begins: those that the bus has for its topic by then, which are the ones
it had at the very beginning and those that have been registered since, in order.
-/
namespace QueryDesk.Bus

section

variable {H S : Type}

mutual

/-- The calls of a delivery, one after the other. -/
inductive Round (H : Type) where
  | done
  | call (handler : H) (payload : Payload) (acts : Acts H) (later : Round H)

/-- What a handler does in a call. -/
inductive Acts (H : Type) where
  | done
  | subscribe (topic : String) (handler : H) (later : Acts H)
  | publish (topic : String) (payload : Payload) (round : Round H) (later : Acts H)

end

mutual

/-- The beginnings and ends of all calls. -/
def Round.log : Round H → List (Entry H)
  | .done => []
  | .call handler payload acts later =>
      .start handler payload :: (acts.log ++ .stop handler :: later.log)

def Acts.log : Acts H → List (Entry H)
  | .done => []
  | .subscribe _ _ later => later.log
  | .publish _ _ round later => round.log ++ later.log

end

/-- A registration or a delivery among what happens. -/
inductive Deed (H : Type) where
  | subscribed (topic : String) (handler : H)
  | published (topic : String) (payload : Payload) (round : Round H)

mutual

/-- The registrations and deliveries, nested ones included, in the order in which they begin. -/
def Round.deeds : Round H → List (Deed H)
  | .done => []
  | .call _ _ acts later => acts.deeds ++ later.deeds

def Acts.deeds : Acts H → List (Deed H)
  | .done => []
  | .subscribe topic handler later => .subscribed topic handler :: later.deeds
  | .publish topic payload round later =>
      .published topic payload round :: (round.deeds ++ later.deeds)

end

/-- The handlers of a round, each with the payload of its call. -/
def Round.callees : Round H → List (H × Payload)
  | .done => []
  | .call handler payload _ later => (handler, payload) :: later.callees

/-- The commands that acts carry out. -/
def Acts.commands : Acts H → List (Command H)
  | .done => []
  | .subscribe topic handler later => .subscribe topic handler :: later.commands
  | .publish topic payload _ later => .publish topic payload :: later.commands

mutual

/-- From one state to another, each call does what the handler does: it acts on the commands that
the handler gives in the state of that moment. -/
def Round.Obeys (react : Reaction H S) : Round H → S → S → Prop
  | .done, s, after => after = s
  | .call handler payload acts later, s, after =>
      acts.commands = (react handler payload s).2 ∧
        ∃ middle, acts.Obeys react (react handler payload s).1 middle ∧
          later.Obeys react middle after

def Acts.Obeys (react : Reaction H S) : Acts H → S → S → Prop
  | .done, s, after => after = s
  | .subscribe _ _ later, s, after => later.Obeys react s after
  | .publish _ _ round later, s, after =>
      ∃ middle, round.Obeys react s middle ∧ later.Obeys react middle after

end

/-- The registrations among what happens, oldest first. -/
def registered (deeds : List (Deed H)) : Bus H :=
  deeds.filterMap fun
    | .subscribed topic handler => some (topic, handler)
    | .published .. => none

/-! ### Logs -/

/-- Every call that begins ends, and those that begin in it end before; `inside` are the handlers
whose calls have begun already, the last one first. -/
def Nested : List H → List (Entry H) → Prop
  | inside, [] => inside = []
  | inside, .start handler _ :: rest => Nested (handler :: inside) rest
  | [], .stop _ :: _ => False
  | last :: inside, .stop handler :: rest => handler = last ∧ Nested inside rest

/-- The calls of a log that are in no other call, if the log begins in so many calls. -/
def outermost : Nat → List (Entry H) → List (H × Payload)
  | _, [] => []
  | 0, .start handler payload :: rest => (handler, payload) :: outermost 1 rest
  | depth + 1, .start _ _ :: rest => outermost (depth + 2) rest
  | depth, .stop _ :: rest => outermost (depth - 1) rest

mutual

theorem Round.nested_append (round : Round H) {inside : List H} {rest : List (Entry H)}
    (h : Nested inside rest) : Nested inside (round.log ++ rest) := by
  cases round with
  | done => exact h
  | call handler payload acts later =>
    have hlater : Nested (handler :: inside) (.stop handler :: (later.log ++ rest)) :=
      ⟨rfl, later.nested_append h⟩
    have hcall : Nested (handler :: inside) (acts.log ++ .stop handler :: (later.log ++ rest)) :=
      acts.nested_append hlater
    simpa [Round.log, Nested] using hcall

theorem Acts.nested_append (acts : Acts H) {inside : List H} {rest : List (Entry H)}
    (h : Nested inside rest) : Nested inside (acts.log ++ rest) := by
  cases acts with
  | done => exact h
  | subscribe topic handler later => exact later.nested_append h
  | publish topic payload round later =>
    simpa [Acts.log] using round.nested_append (later.nested_append h)

end

theorem Round.nested (round : Round H) : Nested [] round.log := by
  have hlog : Nested [] (round.log ++ []) := round.nested_append rfl
  rwa [List.append_nil] at hlog

mutual

/-- Within a call no call is an outermost one. -/
theorem Round.outermost_within (round : Round H) (depth : Nat) (rest : List (Entry H)) :
    outermost (depth + 1) (round.log ++ rest) = outermost (depth + 1) rest := by
  cases round with
  | done => rfl
  | call handler payload acts later =>
    have hacts := acts.outermost_within (depth + 1) (.stop handler :: (later.log ++ rest))
    have hlater := later.outermost_within depth rest
    simp only [Round.log, List.cons_append, List.append_assoc, outermost, hacts,
      Nat.add_sub_cancel, hlater]

theorem Acts.outermost_within (acts : Acts H) (depth : Nat) (rest : List (Entry H)) :
    outermost (depth + 1) (acts.log ++ rest) = outermost (depth + 1) rest := by
  cases acts with
  | done => rfl
  | subscribe topic handler later => exact later.outermost_within depth rest
  | publish topic payload round later =>
    rw [Acts.log, List.append_assoc, round.outermost_within, later.outermost_within]

end

/-- The outermost calls of a round are those that the round makes. -/
theorem Round.outermost_log (round : Round H) : outermost 0 round.log = round.callees := by
  cases round with
  | done => rfl
  | call handler payload acts later =>
    have hacts := acts.outermost_within 0 (.stop handler :: later.log)
    have hlater := later.outermost_log
    simp only [Round.log, outermost, hacts, Nat.sub_self, hlater, Round.callees]

/-! ### Deeds -/

theorem registered_append (deeds more : List (Deed H)) :
    registered (deeds ++ more) = registered deeds ++ registered more :=
  List.filterMap_append

theorem subscribers_append (bus more : Bus H) (topic : String) :
    (bus ++ more : Bus H).subscribers topic = bus.subscribers topic ++ more.subscribers topic := by
  simp [subscribers]

/-- Every round calls the handlers that its topic has when it begins. -/
def Fair : Bus H → List (Deed H) → Prop
  | _, [] => True
  | bus, .subscribed topic handler :: rest => Fair (bus.subscribe topic handler) rest
  | bus, .published topic payload round :: rest =>
      round.callees = (bus.subscribers topic).map (·, payload) ∧ Fair bus rest

theorem fair_append {bus : Bus H} {deeds more : List (Deed H)} (h : Fair bus deeds)
    (hmore : Fair (bus ++ registered deeds) more) : Fair bus (deeds ++ more) := by
  induction deeds generalizing bus with
  | nil => simpa [registered] using hmore
  | cons deed rest ih =>
    cases deed with
    | subscribed topic handler =>
      exact ih h (by simpa [registered, subscribe] using hmore)
    | published topic payload round => exact ⟨h.1, ih h.2 (by simpa [registered] using hmore)⟩

theorem Fair.callees {bus : Bus H} {before rest : List (Deed H)} {topic : String}
    {payload : Payload} {round : Round H}
    (h : Fair bus (before ++ .published topic payload round :: rest)) :
    round.callees = ((bus ++ registered before).subscribers topic).map (·, payload) := by
  induction before generalizing bus with
  | nil => simpa [registered] using h.1
  | cons deed before ih =>
    cases deed with
    | subscribed other handler =>
      have hround : round.callees =
          ((bus.subscribe other handler ++ registered before).subscribers topic).map (·, payload) :=
        ih h
      simpa [registered, subscribe] using hround
    | published other others inner => exact ih h.2

/-! ### From a delivery to its history -/

/-- All that is to be said of a round of calls between two worlds. -/
structure Round.Records (react : Reaction H S) (payload : Payload) (handlers : List H)
    (w after : World H S) (calls : List (Entry H)) (round : Round H) : Prop where
  log : round.log = calls
  callees : round.callees = handlers.map (·, payload)
  obeys : round.Obeys react w.state after.state
  bus : after.bus = w.bus ++ registered round.deeds
  fair : Fair w.bus round.deeds

structure Acts.Records (react : Reaction H S) (commands : List (Command H))
    (w after : World H S) (calls : List (Entry H)) (acts : Acts H) : Prop where
  log : acts.log = calls
  commands : acts.commands = commands
  obeys : acts.Obeys react w.state after.state
  bus : after.bus = w.bus ++ registered acts.deeds
  fair : Fair w.bus acts.deeds

variable {react : Reaction H S} {publisher : Publisher H S}

/-- Every delivery of a publisher has a history. -/
def Recorded (react : Reaction H S) (publisher : Publisher H S) : Prop :=
  ∀ topic payload w after calls, publisher topic payload w = some (after, calls) →
    ∃ round : Round H, round.Records react payload (w.bus.subscribers topic) w after calls

theorem Recorded.runCommands (h : Recorded react publisher) {commands : List (Command H)}
    {w after : World H S} {calls : List (Entry H)}
    (hdone : Bus.runCommands publisher commands w = some (after, calls)) :
    ∃ acts : Acts H, acts.Records react commands w after calls := by
  induction commands generalizing w calls with
  | nil =>
    obtain ⟨rfl, rfl⟩ := Prod.mk.inj (Option.some.inj hdone)
    exact ⟨.done, rfl, rfl, rfl, (List.append_nil _).symm, trivial⟩
  | cons command rest ih =>
    cases command with
    | subscribe topic handler =>
      obtain ⟨acts, hacts⟩ := ih hdone
      refine ⟨.subscribe topic handler acts, hacts.log, congrArg _ hacts.commands, hacts.obeys, ?_,
        hacts.fair⟩
      rw [hacts.bus]
      simp [Acts.deeds, registered, subscribe]
    | publish topic payload =>
      obtain ⟨middle, front, back, hfirst, hrest, rfl⟩ := runCommands_publish_eq_some.1 hdone
      -- the commands behind it run on the bus with all that has been registered in its round
      obtain ⟨round, hround⟩ := h _ _ _ _ _ hfirst
      obtain ⟨acts, hacts⟩ := ih hrest
      refine ⟨.publish topic payload round acts, ?_, congrArg _ hacts.commands,
        ⟨middle.state, hround.obeys, hacts.obeys⟩, ?_, hround.callees, ?_⟩
      · rw [Acts.log, hround.log, hacts.log]
      · have hdeeds : registered (Acts.publish topic payload round acts).deeds =
            registered round.deeds ++ registered acts.deeds :=
          registered_append round.deeds acts.deeds
        rw [hacts.bus, hround.bus, hdeeds, List.append_assoc]
      · exact fair_append hround.fair (hround.bus ▸ hacts.fair)

theorem Recorded.callAll (h : Recorded react publisher) {payload : Payload} {handlers : List H}
    {w after : World H S} {calls : List (Entry H)}
    (hdone : Bus.callAll react publisher payload handlers w = some (after, calls)) :
    ∃ round : Round H, round.Records react payload handlers w after calls := by
  induction handlers generalizing w calls with
  | nil =>
    obtain ⟨rfl, rfl⟩ := Prod.mk.inj (Option.some.inj hdone)
    exact ⟨.done, rfl, rfl, rfl, (List.append_nil _).symm, trivial⟩
  | cons handler rest ih =>
    obtain ⟨middle, front, back, hfirst, hrest, rfl⟩ := callAll_cons_eq_some.1 hdone
    obtain ⟨acts, hacts⟩ := h.runCommands hfirst
    obtain ⟨round, hround⟩ := ih hrest
    refine ⟨.call handler payload acts round, ?_, congrArg _ hround.callees,
      ⟨hacts.commands, middle.state, hacts.obeys, hround.obeys⟩, ?_, ?_⟩
    · rw [Round.log, hacts.log, hround.log]
      rfl
    · rw [hround.bus, hacts.bus, Round.deeds, registered_append, List.append_assoc]
    · exact fair_append hacts.fair (hacts.bus ▸ hround.fair)

theorem recorded_publish (react : Reaction H S) (depth : Nat) :
    Recorded react (publish react depth) := by
  induction depth with
  | zero => exact fun _ _ _ _ _ hdone => nomatch hdone
  | succ depth ih => exact fun _ _ _ _ _ hdone => ih.callAll hdone

/-- Let those handlers that ever publish be finitely many, and let each of them publish on finitely
many of its calls; otherwise handlers may register and publish what they like, whenever they are
called. Let a delivery on any bus be followed by any commands. There is a history of both, in which
each call acts on the commands that its handler gives, and at every depth beyond the calls left to
those that publish the log of the delivery is that of its round. The log is well nested. Its
outermost calls are those of the handlers that the bus has for the topic, in order. For every
delivery in the history, nested or later, the same holds with the handlers that the bus had at first
and those registered before it in the history. And afterwards each topic has the handlers that it
had and those registered in the round, in order. -/
theorem publish_delivers (react : Reaction H S) (called : S → H → Nat) (publishers : Finset H)
    (last : H → Nat) (h : Exhaustible react called publishers last) (topic : String)
    (payload : Payload) (w : World H S) (later : List (Command H)) :
    ∃ (round : Round H) (after : World H S) (acts : Acts H) (final : World H S),
      (∀ depth, remaining called publishers last w.state < depth →
        publish react depth topic payload w = some (after, round.log) ∧
        runCommands (publish react depth) later after = some (final, acts.log)) ∧
      (round.Obeys react w.state after.state ∧
        acts.commands = later ∧ acts.Obeys react after.state final.state) ∧
      Nested [] round.log ∧
      outermost 0 round.log = (w.bus.subscribers topic).map (·, payload) ∧
      (∀ before other sent inner rest,
        .published topic payload round :: (round.deeds ++ acts.deeds) =
          before ++ .published other sent inner :: rest →
        Nested [] inner.log ∧
          outermost 0 inner.log = ((w.bus ++ registered before).subscribers other).map (·, sent)) ∧
      ∀ other, after.bus.subscribers other =
        w.bus.subscribers other ++ (registered round.deeds).subscribers other := by
  obtain ⟨after, calls, hspent, hdone⟩ := h.spends.exists_delivery topic payload w
  obtain ⟨final, more, hmore⟩ := h.spends.exists_run later after
  obtain ⟨round, hround⟩ :=
    recorded_publish react _ topic payload w after calls (hdone _ (Nat.lt_succ_self _))
  obtain ⟨acts, hacts⟩ :=
    (recorded_publish react _).runCommands (hmore _ (Nat.lt_succ_self _))
  have hfair : Fair w.bus (.published topic payload round :: (round.deeds ++ acts.deeds)) :=
    ⟨hround.callees, fair_append hround.fair (hround.bus ▸ hacts.fair)⟩
  refine ⟨round, after, acts, final, fun depth hdepth => ⟨?_, ?_⟩,
    ⟨hround.obeys, hacts.commands, hacts.obeys⟩, round.nested, ?_, ?_, fun other => ?_⟩
  · rw [hround.log]
    exact hdone depth hdepth
  · rw [hacts.log]
    exact hmore depth (Nat.lt_of_le_of_lt hspent hdepth)
  · rw [round.outermost_log, hround.callees]
  · intro before other sent inner rest he
    rw [he] at hfair
    exact ⟨inner.nested, by rw [inner.outermost_log, hfair.callees]⟩
  · rw [hround.bus, subscribers_append]

end

/-- The relay alone, and what it has registered, nested and afterwards. -/
theorem relay_registers_and_delivers :
    let react := Script.react Script.relayAndGrow
    let w : World String Calls := ⟨[("t", "relay")], []⟩
    Exhaustible react Script.called (Script.names Script.relayAndGrow)
      (Script.lastCall Script.relayAndGrow) ∧
    ∃ (round : Round String) (after : World String Calls) (acts : Acts String),
      (∀ depth, 2 < depth → publish react depth "t" .empty w = some (after, round.log)) ∧
      Nested [] round.log ∧ outermost 0 round.log = [("relay", .empty)] ∧
      acts.commands = [.publish "t" .empty] ∧
      after.bus.subscribers "t" = "relay" :: (registered round.deeds).subscribers "t" ∧
      after.bus.subscribers "t" = ["relay", "grow", "grow", "grow", "grow", "grow"] := by
  intro react w
  have hexhaustible := Script.exhaustible Script.limited_relayAndGrow
  have hleft : remaining Script.called (Script.names Script.relayAndGrow)
      (Script.lastCall Script.relayAndGrow) w.state = 2 := by decide
  obtain ⟨round, after, acts, final, hdone, ⟨-, hlater, -⟩, hnested, htop, -, hbus⟩ :=
    publish_delivers react _ _ _ hexhaustible "t" .empty w [.publish "t" .empty]
  refine ⟨hexhaustible, round, after, acts, fun depth hdepth => (hdone depth ?_).1, hnested, htop,
    hlater, hbus "t", ?_⟩
  · rwa [hleft]
  · have hthree := (hdone 3 (by rw [hleft]; decide)).1
    have hrun : (publish react 3 "t" .empty w).map (·.1.bus.subscribers "t") =
        some ["relay", "grow", "grow", "grow", "grow", "grow"] := by decide
    rw [hthree] at hrun
    exact Option.some.inj hrun

end QueryDesk.Bus
