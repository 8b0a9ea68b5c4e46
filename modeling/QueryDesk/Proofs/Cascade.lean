import QueryDesk.Console
import QueryDesk.Proofs.Delivery

/-!
# What follows from an event on the console

The listeners of the console tell each other more events while an event is delivered: a move of
the splitter is followed by a new layout and a save, a refresh by a query and a query by its
answer. `Settles` lists every way in which the delivery of an event can go: the desk it leaves, the
events in the order in which their deliveries begin and in the order in which they end. Each event
on each desk settles, no delivery nests deeper than three, and `Console.publish` answers with the
desk and the events given here.
-/
namespace QueryDesk

open Console (registrations resizeTopic notedTopics)
open Bus (watch callAll runCommands beside)

namespace Desk

/-- A dataset shown in grid and chart and behind the export link. -/
def receive (d : Desk) (dataset : Dataset) : Desk :=
  { d.presentDataset dataset with grid := .ofDataset dataset, chart := .ofDataset dataset }

/-- A failed query: the spinner stops and the grid has a message. -/
def refuse (d : Desk) (message : String) : Desk :=
  { d.stopSpinner with grid := d.grid.fail message }

/-- The height moved by some pixels, shown and saved. -/
def moved (d : Desk) (pixels : Int) : Desk :=
  { d with height := d.height.adjust pixels }.applyHeight.saveHeight

/-- The event that answers a query. -/
def answer (d : Desk) (query : String) : Event :=
  match d.source.load d.files d.now query with
  | .ok dataset => ⟨Topic.queryDataset, .dataset dataset⟩
  | .error error => ⟨Topic.queryError, .error error.message⟩

/-- The event that answers a refresh before there is a query. -/
def noQuery : Event := ⟨Topic.queryError, .error nothingToRefresh⟩

theorem answers_eq (d : Desk) (query : String) :
    d.answers query = [.publish (d.answer query).topic (d.answer query).payload] := by
  unfold answers answer
  cases d.source.load d.files d.now query <;> rfl

/-- A save changes the store and the files at most. -/
theorem saveHeight_eq (d : Desk) :
    d.saveHeight = { d with store := d.saveHeight.store, files := d.saveHeight.files } := by
  unfold saveHeight
  split <;> rfl

/-- The events whose listeners tell nothing further, with the desk they leave. An event with a
payload that its topic does not carry is let pass, except that any error stops the spinner. -/
inductive Heard (sourced : Bool) : Desk → Event → Desk → Prop
  | relayout (d : Desk) (payload : Payload) :
      Heard sourced d ⟨Topic.windowResize, payload⟩ d.applyHeight
  | saved (d : Desk) (payload : Payload) :
      Heard sourced d ⟨Topic.preferencesSave, payload⟩ d.saveHeight
  | loaded (d : Desk) (payload : Payload) :
      Heard sourced d ⟨Topic.preferencesLoad, payload⟩ d.loadHeight
  | shown (d : Desk) (name : String) :
      Heard sourced d ⟨Topic.panelActive, .panel name⟩ (d.showPanel name)
  | notPanel (d : Desk) {payload : Payload} (h : ∀ name, payload ≠ .panel name) :
      Heard sourced d ⟨Topic.panelActive, payload⟩ d
  | received (d : Desk) (dataset : Dataset) :
      Heard sourced d ⟨Topic.queryDataset, .dataset dataset⟩ (d.receive dataset)
  | notDataset (d : Desk) {payload : Payload} (h : ∀ dataset, payload ≠ .dataset dataset) :
      Heard sourced d ⟨Topic.queryDataset, payload⟩ d
  | refused (d : Desk) (message : String) :
      Heard sourced d ⟨Topic.queryError, .error message⟩ (d.refuse message)
  | notError (d : Desk) {payload : Payload} (h : ∀ message, payload ≠ .error message) :
      Heard sourced d ⟨Topic.queryError, payload⟩ d.stopSpinner
  | notDelta (d : Desk) {payload : Payload} (h : ∀ pixels, payload ≠ .delta pixels) :
      Heard sourced d ⟨resizeTopic, payload⟩ d
  | unanswered (d : Desk) {payload : Payload}
      (h : sourced = false ∨ ∀ query, payload ≠ .query query) :
      Heard sourced d ⟨Topic.queryExecute, payload⟩ d

end Desk

namespace Console

@[simp] theorem subscribers_windowResize (sourced : Bool) :
    (registrations sourced).subscribers Topic.windowResize =
      [.applyHeight, .note Topic.windowResize] := by cases sourced <;> decide
@[simp] theorem subscribers_preferencesSave (sourced : Bool) :
    (registrations sourced).subscribers Topic.preferencesSave =
      [.saveHeight, .note Topic.preferencesSave] := by cases sourced <;> decide
@[simp] theorem subscribers_preferencesLoad (sourced : Bool) :
    (registrations sourced).subscribers Topic.preferencesLoad =
      [.loadHeight, .note Topic.preferencesLoad] := by cases sourced <;> decide
@[simp] theorem subscribers_panelActive (sourced : Bool) :
    (registrations sourced).subscribers Topic.panelActive =
      [.showPanel, .note Topic.panelActive] := by cases sourced <;> decide
@[simp] theorem subscribers_queryDataset (sourced : Bool) :
    (registrations sourced).subscribers Topic.queryDataset =
      [.presentDataset, .fillGrid, .fillChart, .note Topic.queryDataset] := by
  cases sourced <;> decide
@[simp] theorem subscribers_queryError (sourced : Bool) :
    (registrations sourced).subscribers Topic.queryError =
      [.stopSpinner, .failGrid, .note Topic.queryError] := by cases sourced <;> decide
@[simp] theorem subscribers_resizeTopic (sourced : Bool) :
    (registrations sourced).subscribers resizeTopic =
      [.adjustHeight, .note resizeTopic] := by cases sourced <;> decide
@[simp] theorem subscribers_queryExecute (sourced : Bool) :
    (registrations sourced).subscribers Topic.queryExecute =
      (if sourced then [.answerQuery] else []) ++ [.note Topic.queryExecute] := by
  cases sourced <;> decide
@[simp] theorem subscribers_gridRefresh (sourced : Bool) :
    (registrations sourced).subscribers Topic.gridRefresh =
      [.rerunQuery, .note Topic.gridRefresh] := by cases sourced <;> decide

/-- Nobody listens to a topic that is not noted. -/
theorem subscribers_of_not_noted {sourced : Bool} {topic : String} (h : topic ∉ notedTopics) :
    (registrations sourced).subscribers topic = [] := by
  have hall : ∀ r ∈ registrations sourced, r.1 ∈ notedTopics := by cases sourced <;> decide
  simp only [Bus.subscribers, List.map_eq_nil_iff, List.filter_eq_nil_iff, decide_eq_true_eq]
  rintro r hr rfl
  exact h (hall r hr)

end Console

namespace Desk

variable {sourced : Bool} {d d' : Desk} {e : Event}

theorem watch_of_subscribers {topic : String} {listeners : List Listener}
    (h : (registrations sourced).subscribers topic = listeners) (payload : Payload) (depth : Nat)
    (told : List Event) :
    watch react (depth + 1) topic payload ⟨registrations sourced, (d, told)⟩ =
      callAll (beside react) (watch react depth) payload listeners
        ⟨registrations sourced, (d, told ++ [⟨topic, payload⟩])⟩ := by
  subst h
  rfl

/-- Deliveries down to a depth take the desk from `d` to `d'`; they open and close these events. -/
def Tells (sourced : Bool) (depth : Nat) (d : Desk) (e : Event) (d' : Desk)
    (opened closed : List Event) : Prop :=
  ∀ told, ∃ calls,
    watch react depth e.topic e.payload ⟨registrations sourced, (d, told)⟩ =
        some (⟨registrations sourced, (d', told ++ opened)⟩, calls) ∧
      Console.noted calls = closed

theorem Heard.tells (h : Heard sourced d e d') (depth : Nat) :
    Tells sourced (depth + 1) d e d' [e] [e] := by
  intro told
  cases h with
  | relayout payload =>
    exact ⟨_, watch_of_subscribers (Console.subscribers_windowResize sourced) .., rfl⟩
  | saved payload =>
    exact ⟨_, watch_of_subscribers (Console.subscribers_preferencesSave sourced) .., rfl⟩
  | loaded payload =>
    exact ⟨_, watch_of_subscribers (Console.subscribers_preferencesLoad sourced) .., rfl⟩
  | shown name =>
    exact ⟨_, watch_of_subscribers (Console.subscribers_panelActive sourced) .., rfl⟩
  | received dataset =>
    exact ⟨_, watch_of_subscribers (Console.subscribers_queryDataset sourced) .., rfl⟩
  | refused message =>
    exact ⟨_, watch_of_subscribers (Console.subscribers_queryError sourced) .., rfl⟩
  | @notPanel payload hp =>
    rw [watch_of_subscribers (Console.subscribers_panelActive sourced)]
    cases payload with
    | panel name => exact absurd rfl (hp name)
    | _ => exact ⟨_, rfl, rfl⟩
  | @notDataset payload hp =>
    rw [watch_of_subscribers (Console.subscribers_queryDataset sourced)]
    cases payload with
    | dataset dataset => exact absurd rfl (hp dataset)
    | _ => exact ⟨_, rfl, rfl⟩
  | @notError payload hp =>
    rw [watch_of_subscribers (Console.subscribers_queryError sourced)]
    cases payload with
    | error message => exact absurd rfl (hp message)
    | _ => exact ⟨_, rfl, rfl⟩
  | @notDelta payload hp =>
    rw [watch_of_subscribers (Console.subscribers_resizeTopic sourced)]
    cases payload with
    | delta pixels => exact absurd rfl (hp pixels)
    | _ => exact ⟨_, rfl, rfl⟩
  | @unanswered payload hp =>
    rw [watch_of_subscribers (Console.subscribers_queryExecute sourced)]
    cases sourced with
    | false => exact ⟨_, rfl, rfl⟩
    | true =>
      cases payload with
      | query query => exact absurd rfl ((hp.resolve_left nofun) query)
      | _ => exact ⟨_, rfl, rfl⟩

/-- The deliveries of an event on a desk: the desk afterwards, the events as their deliveries begin
and as they end. -/
inductive Settles (sourced : Bool) : Desk → Event → Desk → List Event → List Event → Prop
  | quiet {d d' : Desk} {e : Event} (h : Heard sourced d e d') : Settles sourced d e d' [e] [e]
  | unknown (d : Desk) {e : Event} (h : e.topic ∉ notedTopics) : Settles sourced d e d [e] []
  | moved (d : Desk) (pixels : Int) :
      Settles sourced d ⟨resizeTopic, .delta pixels⟩ (d.moved pixels)
        [⟨resizeTopic, .delta pixels⟩, ⟨Topic.windowResize, .empty⟩,
          ⟨Topic.preferencesSave, .empty⟩]
        [⟨Topic.windowResize, .empty⟩, ⟨Topic.preferencesSave, .empty⟩,
          ⟨resizeTopic, .delta pixels⟩]
  | answered {d d' : Desk} {query : String} (hs : sourced = true)
      (h : Heard sourced d (d.answer query) d') :
      Settles sourced d ⟨Topic.queryExecute, .query query⟩ d'
        [⟨Topic.queryExecute, .query query⟩, d.answer query]
        [d.answer query, ⟨Topic.queryExecute, .query query⟩]
  | refreshed {d d' : Desk} {query : String} (payload : Payload) (hs : sourced = true)
      (hq : d.grid.query = some query) (h : Heard sourced d (d.answer query) d') :
      Settles sourced d ⟨Topic.gridRefresh, payload⟩ d'
        [⟨Topic.gridRefresh, payload⟩, ⟨Topic.queryExecute, .query query⟩, d.answer query]
        [d.answer query, ⟨Topic.queryExecute, .query query⟩, ⟨Topic.gridRefresh, payload⟩]
  | refreshedInVain {d : Desk} {query : String} (payload : Payload) (hs : sourced = false)
      (hq : d.grid.query = some query) :
      Settles sourced d ⟨Topic.gridRefresh, payload⟩ d
        [⟨Topic.gridRefresh, payload⟩, ⟨Topic.queryExecute, .query query⟩]
        [⟨Topic.queryExecute, .query query⟩, ⟨Topic.gridRefresh, payload⟩]
  | nothingToRefresh {d : Desk} (payload : Payload) (hq : d.grid.query = none) :
      Settles sourced d ⟨Topic.gridRefresh, payload⟩ (d.refuse nothingToRefresh)
        [⟨Topic.gridRefresh, payload⟩, noQuery] [noQuery, ⟨Topic.gridRefresh, payload⟩]

theorem noted_append (calls more : List (Bus.Entry Listener)) :
    Console.noted (calls ++ more) = Console.noted calls ++ Console.noted more :=
  List.filterMap_append

theorem react_note (topic : String) (payload : Payload) (d : Desk) :
    react (.note topic) payload d = (d, []) := by
  cases payload <;> rfl

/-- A listener that tells one further event and then lets the note be taken. -/
theorem Tells.relay {depth : Nat} {topic : String} {payload : Payload} {listener : Listener}
    (inner : Event) {opened closed : List Event}
    (hsubs : (registrations sourced).subscribers topic = [listener, .note topic])
    (hsilent : Console.noted [.start listener payload] = [])
    (hreact : react listener payload d = (d, [.publish inner.topic inner.payload]))
    (h : Tells sourced depth d inner d' opened closed) :
    Tells sourced (depth + 1) d ⟨topic, payload⟩ d' (⟨topic, payload⟩ :: opened)
      (closed ++ [⟨topic, payload⟩]) := by
  intro told
  obtain ⟨calls, hcalls, hnoted⟩ := h (told ++ [⟨topic, payload⟩])
  refine ⟨[.start listener payload] ++ calls ++
    [.stop listener, .start (.note topic) payload, .stop (.note topic)], ?_, ?_⟩
  · rw [watch_of_subscribers hsubs]
    simp [callAll, beside, hreact, runCommands, hcalls, react_note]
  · rw [noted_append, noted_append, hsilent, hnoted]
    rfl

theorem moved_tells (d : Desk) (pixels : Int) (depth : Nat) :
    Tells sourced (depth + 2) d ⟨resizeTopic, .delta pixels⟩ (d.moved pixels)
      [⟨resizeTopic, .delta pixels⟩, ⟨Topic.windowResize, .empty⟩, ⟨Topic.preferencesSave, .empty⟩]
      [⟨Topic.windowResize, .empty⟩, ⟨Topic.preferencesSave, .empty⟩,
        ⟨resizeTopic, .delta pixels⟩] := by
  intro told
  let adjusted : Desk := { d with height := d.height.adjust pixels }
  have hlayout : Heard sourced adjusted ⟨Topic.windowResize, .empty⟩ adjusted.applyHeight :=
    .relayout ..
  have hsave : Heard sourced adjusted.applyHeight ⟨Topic.preferencesSave, .empty⟩
      adjusted.applyHeight.saveHeight := .saved ..
  obtain ⟨calls, hcalls, hnoted⟩ :=
    hlayout.tells depth (told ++ [⟨resizeTopic, .delta pixels⟩])
  obtain ⟨more, hmore, hnotedMore⟩ :=
    hsave.tells depth (told ++ [⟨resizeTopic, .delta pixels⟩] ++ [⟨Topic.windowResize, .empty⟩])
  refine ⟨[.start .adjustHeight (.delta pixels)] ++ calls ++ more ++
    [.stop .adjustHeight, .start (.note resizeTopic) (.delta pixels), .stop (.note resizeTopic)],
    ?_, ?_⟩
  · have hreact : react .adjustHeight (.delta pixels) d = (adjusted,
      [.publish Topic.windowResize .empty, .publish Topic.preferencesSave .empty]) := rfl
    rw [watch_of_subscribers (Console.subscribers_resizeTopic sourced)]
    simp only [callAll, beside, hreact, runCommands, hcalls, hmore, react_note]
    simp [Desk.moved, adjusted]
  · rw [noted_append, noted_append, noted_append, hnoted, hnotedMore]
    rfl

theorem answer_tells {query : String} (hs : sourced = true)
    (h : Heard sourced d (d.answer query) d') (depth : Nat) :
    Tells sourced (depth + 2) d ⟨Topic.queryExecute, .query query⟩ d'
      [⟨Topic.queryExecute, .query query⟩, d.answer query]
      [d.answer query, ⟨Topic.queryExecute, .query query⟩] := by
  subst hs
  have hreact : react .answerQuery (.query query) d =
      (d, [.publish (d.answer query).topic (d.answer query).payload]) :=
    congrArg (Prod.mk d) (answers_eq d query)
  exact Tells.relay (d.answer query) (Console.subscribers_queryExecute true) rfl hreact
    (h.tells depth)

theorem Settles.tells {opened closed : List Event} (h : Settles sourced d e d' opened closed)
    (depth : Nat) : Tells sourced (depth + 3) d e d' opened closed := by
  have hrerun : ∀ {query : String} (payload : Payload), d.grid.query = some query →
      react .rerunQuery payload d = (d, [.publish Topic.queryExecute (.query query)]) := by
    intro query payload hq
    simp only [react, hq]
  cases h with
  | quiet h => exact h.tells _
  | unknown h =>
    intro told
    rw [watch_of_subscribers (Console.subscribers_of_not_noted h)]
    exact ⟨[], rfl, rfl⟩
  | moved pixels => exact moved_tells d pixels _
  | answered hs h => exact answer_tells hs h _
  | refreshed payload hs hq h =>
    exact Tells.relay ⟨Topic.queryExecute, .query _⟩ (Console.subscribers_gridRefresh sourced) rfl
      (hrerun payload hq) (answer_tells hs h depth)
  | refreshedInVain payload hs hq =>
    exact Tells.relay ⟨Topic.queryExecute, .query _⟩ (Console.subscribers_gridRefresh sourced) rfl
      (hrerun payload hq) ((Heard.unanswered d (.inl hs)).tells _)
  | nothingToRefresh payload hq =>
    have hreact : react .rerunQuery payload d =
        (d, [.publish noQuery.topic noQuery.payload]) := by
      simp only [react, hq]
      rfl
    exact Tells.relay noQuery (Console.subscribers_gridRefresh sourced) rfl hreact
      ((Heard.refused d Desk.nothingToRefresh).tells _)

/-- The answer to a query is a dataset with that query or an error. -/
theorem exists_heard_answer (sourced : Bool) (d : Desk) (query : String) :
    ∃ d', Heard sourced d (d.answer query) d' := by
  unfold answer
  cases d.source.load d.files d.now query with
  | ok dataset => exact ⟨_, .received d dataset⟩
  | error error => exact ⟨_, .refused d error.message⟩

theorem exists_settles_execute (sourced : Bool) (d : Desk) (payload : Payload) :
    ∃ d' opened closed, Settles sourced d ⟨Topic.queryExecute, payload⟩ d' opened closed := by
  cases hs : sourced with
  | false => exact ⟨_, _, _, .quiet (.unanswered d (.inl rfl))⟩
  | true =>
    cases payload with
    | query query =>
      obtain ⟨d', h⟩ := exists_heard_answer true d query
      exact ⟨_, _, _, .answered rfl h⟩
    | _ => exact ⟨_, _, _, .quiet (.unanswered d (.inr nofun))⟩

theorem exists_settles_refresh (sourced : Bool) (d : Desk) (payload : Payload) :
    ∃ d' opened closed, Settles sourced d ⟨Topic.gridRefresh, payload⟩ d' opened closed := by
  cases hq : d.grid.query with
  | none => exact ⟨_, _, _, .nothingToRefresh payload hq⟩
  | some query =>
    cases hs : sourced with
    | false => exact ⟨_, _, _, .refreshedInVain payload rfl hq⟩
    | true =>
      obtain ⟨d', h⟩ := exists_heard_answer true d query
      exact ⟨_, _, _, .refreshed payload rfl hq h⟩

/-- Every event settles on every desk. -/
theorem exists_settles (sourced : Bool) (d : Desk) (e : Event) :
    ∃ d' opened closed, Settles sourced d e d' opened closed := by
  obtain ⟨topic, payload⟩ := e
  by_cases hn : topic ∈ notedTopics
  · simp only [notedTopics, List.mem_cons, List.not_mem_nil, or_false] at hn
    rcases hn with rfl | rfl | rfl | rfl | rfl | rfl | rfl | rfl | rfl
    · cases payload with
      | dataset dataset => exact ⟨_, _, _, .quiet (.received d dataset)⟩
      | _ => exact ⟨_, _, _, .quiet (.notDataset d nofun)⟩
    · cases payload with
      | error message => exact ⟨_, _, _, .quiet (.refused d message)⟩
      | _ => exact ⟨_, _, _, .quiet (.notError d nofun)⟩
    · exact exists_settles_execute sourced d payload
    · cases payload with
      | panel name => exact ⟨_, _, _, .quiet (.shown d name)⟩
      | _ => exact ⟨_, _, _, .quiet (.notPanel d nofun)⟩
    · exact exists_settles_refresh sourced d payload
    · exact ⟨_, _, _, .quiet (.saved d payload)⟩
    · exact ⟨_, _, _, .quiet (.loaded d payload)⟩
    · exact ⟨_, _, _, .quiet (.relayout d payload)⟩
    · cases payload with
      | delta pixels => exact ⟨_, _, _, .moved d pixels⟩
      | _ => exact ⟨_, _, _, .quiet (.notDelta d nofun)⟩
  · exact ⟨_, _, _, .unknown d hn⟩

/-- At any depth from three on, a delivery ends with the desk and the notes of its settling. -/
theorem Settles.publish_eq {opened closed : List Event} (h : Settles sourced d e d' opened closed)
    (depth : Nat) :
    ∃ calls, Bus.publish react (depth + 3) e.topic e.payload ⟨registrations sourced, d⟩ =
        some (⟨registrations sourced, d'⟩, calls) ∧ Console.noted calls = closed := by
  obtain ⟨calls, hcalls, hnoted⟩ := h.tells depth []
  refine ⟨calls, ?_, hnoted⟩
  have hbare := Bus.watch_bare react (depth + 3) e.topic e.payload
    ⟨registrations sourced, (d, [])⟩
  rw [hcalls] at hbare
  exact hbare.symm

end Desk

namespace Console

open Desk (Settles)

variable {c : Console} {d' : Desk} {topic : String} {payload : Payload} {opened closed : List Event}

/-- The events of a delivery on the console in the order in which they begin. -/
def told (c : Console) (topic : String) (payload : Payload) : List Event :=
  match watch Desk.react depth topic payload ⟨registrations c.sourced, (c.desk, [])⟩ with
  | some (world, _) => world.state.2
  | none => []

theorem told_of_settles (h : Settles c.sourced c.desk ⟨topic, payload⟩ d' opened closed) :
    c.told topic payload = opened := by
  obtain ⟨calls, hcalls, -⟩ := h.tells 0 []
  change watch Desk.react depth topic payload ⟨registrations c.sourced, (c.desk, [])⟩ = _ at hcalls
  rw [told, hcalls]
  rfl

theorem publish_of_settles (h : Settles c.sourced c.desk ⟨topic, payload⟩ d' opened closed) :
    c.publish topic payload = { c with desk := d', journal := c.journal ++ closed } := by
  obtain ⟨calls, hcalls, rfl⟩ := h.publish_eq 0
  change Bus.publish Desk.react depth topic payload ⟨registrations c.sourced, c.desk⟩ = _ at hcalls
  rw [publish, hcalls]

theorem publish_windowResize (c : Console) (payload : Payload) :
    c.publish Topic.windowResize payload =
      { c with
        desk := c.desk.applyHeight
        journal := c.journal ++ [⟨Topic.windowResize, payload⟩] } :=
  publish_of_settles (.quiet (.relayout c.desk payload))

theorem publish_preferencesSave (c : Console) (payload : Payload) :
    c.publish Topic.preferencesSave payload =
      { c with
        desk := c.desk.saveHeight
        journal := c.journal ++ [⟨Topic.preferencesSave, payload⟩] } :=
  publish_of_settles (.quiet (.saved c.desk payload))

theorem publish_preferencesLoad (c : Console) (payload : Payload) :
    c.publish Topic.preferencesLoad payload =
      { c with
        desk := c.desk.loadHeight
        journal := c.journal ++ [⟨Topic.preferencesLoad, payload⟩] } :=
  publish_of_settles (.quiet (.loaded c.desk payload))

theorem publish_panelActive (c : Console) (name : String) :
    c.publish Topic.panelActive (.panel name) =
      { c with
        desk := c.desk.showPanel name
        journal := c.journal ++ [⟨Topic.panelActive, .panel name⟩] } :=
  publish_of_settles (.quiet (.shown c.desk name))

end Console

end QueryDesk
