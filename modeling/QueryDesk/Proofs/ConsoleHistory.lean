import QueryDesk.Proofs.ConsoleSteps
import QueryDesk.Proofs.Past

/-!
# The console as a function of its history

The history of a run holds every event at the moment its delivery begins and every call of the
user, in order. What the controller shows can be read off the history alone: the export link from
the last dataset, the view from the last dataset or choice, the marks of the export field and the
spinner from what came after what, the visibility from the last panel in front.
-/
namespace QueryDesk.Console

open QueryDesk.Desk (Heard Settles)
open QueryDesk.Preferences (Store)
open QueryDesk.Files (Disk)

/-- What a controller sees: an event that is delivered, or a call of the user. -/
inductive Happening where
  | event (event : Event)
  | call (step : Step)

/-- The call of a step; an event that is told is no call. -/
def callOf : Step → List Happening
  | .tell _ => []
  | call => [.call call]

/-- What happens in a step: the call, and the events that it has delivered. -/
def happenings (c : Console) (s : Step) : List Happening :=
  callOf s
    ++ match c.telling? s with
      | some event => ((c.prepare s).told event.topic event.payload).map .event
      | none => []

def history (c : Console) : List Step → List Happening
  | [] => []
  | s :: rest => c.happenings s ++ (c.step s).history rest

namespace Happening

/-- The query of a dataset. -/
def query? : Happening → Option String
  | .event ⟨topic, .dataset dataset⟩ =>
      if topic = Topic.queryDataset then some dataset.query else none
  | _ => none

/-- The view that is brought to the front. -/
def view? : Happening → Option ViewMode
  | .event ⟨topic, .dataset _⟩ => if topic = Topic.queryDataset then some .grid else none
  | .call (.choose view) => some view
  | _ => none

/-- The name of the panel in front. -/
def panel? : Happening → Option String
  | .event ⟨topic, .panel name⟩ => if topic = Topic.panelActive then some name else none
  | _ => none

def isDataset (h : Happening) : Bool := h.query?.isSome

/-- Whether a query is done, for better or worse. -/
def isOutcome : Happening → Bool
  | .event ⟨topic, payload⟩ =>
      (Happening.event ⟨topic, payload⟩).isDataset || topic = Topic.queryError
  | _ => false

def isRefresh : Happening → Bool
  | .call .refresh => true
  | _ => false

def isSelection : Happening → Bool
  | .call .selectExport => true
  | _ => false

end Happening

/-- The flags of the widgets and of the buttons are those of the view. -/
structure Marked (t : Targets) : Prop where
  gridButton : t.gridButton = decide (t.view = .grid)
  chartButton : t.chartButton = decide (t.view = .chart)
  gridShown : t.gridShown = decide (t.view = .grid)
  chartShown : t.chartShown = decide (t.view = .chart)

theorem marked_choose (t : Targets) (view : ViewMode) : Marked (t.choose view) := by
  cases view <;> exact ⟨rfl, rfl, rfl, rfl⟩

/-- The controller shows what its past says. -/
structure Follows (link : ExportLink) (past : List Happening) (d : Desk) : Prop where
  link_eq : d.link = link
  exportUrl : d.targets.exportUrl = ((latest? Happening.query? past).map link.encode).getD ""
  view : d.targets.view = (latest? Happening.view? past).getD .grid
  marked : Marked d.targets
  selected : d.targets.exportSelected = true ↔
    Lasting Happening.isSelection Happening.isDataset past
  spinning : d.targets.refreshSpinning = true ↔
    Lasting Happening.isRefresh Happening.isOutcome past
  visible : d.visible = decide (latest? Happening.panel? past = some Desk.panelName)
  shown : d.targets.panelShown = d.visible

variable {link : ExportLink} {past : List Happening} {d d' : Desk}

theorem follows_start (link : ExportLink) (cell : Nat) (store : Option Store) (source : Source)
    (sourced : Bool) (files : Disk) (now : Clock) :
    Follows link [] (start link cell store source sourced files now).desk where
  link_eq := rfl
  exportUrl := rfl
  view := rfl
  marked := ⟨rfl, rfl, rfl, rfl⟩
  selected := iff_of_false Bool.false_ne_true (not_lasting_nil _ _)
  spinning := iff_of_false Bool.false_ne_true (not_lasting_nil _ _)
  visible := rfl
  shown := rfl

/-- A happening that says nothing about what the controller shows. -/
structure Happening.Plain (h : Happening) : Prop where
  query : h.query? = none
  view : h.view? = none
  panel : h.panel? = none
  outcome : h.isOutcome = false
  refresh : h.isRefresh = false
  selection : h.isSelection = false

namespace Follows

theorem plain (hf : Follows link past d) {h : Happening} (hp : h.Plain) :
    Follows link (past ++ [h]) d where
  link_eq := hf.link_eq
  exportUrl := by rw [latest?_concat, hp.query]; exact hf.exportUrl
  view := by rw [latest?_concat, hp.view]; exact hf.view
  marked := hf.marked
  selected :=
    hf.selected.trans
      (lasting_concat_other hp.selection (by simp [Happening.isDataset, hp.query])).symm
  spinning := hf.spinning.trans (lasting_concat_other hp.refresh hp.outcome).symm
  visible := by rw [latest?_concat, hp.panel]; exact hf.visible
  shown := hf.shown

/-- The height, the grid, the chart and the store are not the controller's concern. -/
theorem desk (hf : Follows link past d) (basis : Nat) (hl : d'.link = d.link)
    (hv : d'.visible = d.visible) (ht : d'.targets = { d.targets with editorBasis := basis }) :
    Follows link past d' where
  link_eq := hl.trans hf.link_eq
  exportUrl := by rw [ht]; exact hf.exportUrl
  view := by rw [ht]; exact hf.view
  marked := by rw [ht]; exact ⟨hf.marked.1, hf.marked.2, hf.marked.3, hf.marked.4⟩
  selected := by rw [ht]; exact hf.selected
  spinning := by rw [ht]; exact hf.spinning
  visible := hv.trans hf.visible
  shown := by rw [ht, hv]; exact hf.shown

theorem saved (hf : Follows link past d) : Follows link past d.saveHeight := by
  rw [Desk.saveHeight_eq]
  exact hf.desk d.targets.editorBasis rfl rfl rfl

theorem dataset (hf : Follows link past d) (dataset : Dataset) :
    Follows link (past ++ [.event ⟨Topic.queryDataset, .dataset dataset⟩]) (d.receive dataset) where
  link_eq := hf.link_eq
  exportUrl := by
    rw [latest?_concat]
    change d.link.encode dataset.query = _
    rw [hf.link_eq]
    rfl
  view := by rw [latest?_concat]; rfl
  marked := marked_choose _ _
  selected := iff_of_false Bool.false_ne_true (not_lasting_concat rfl rfl)
  spinning := iff_of_false Bool.false_ne_true (not_lasting_concat rfl rfl)
  visible := by rw [latest?_concat]; exact hf.visible
  shown := hf.shown

theorem error (hf : Follows link past d) (payload : Payload) :
    Follows link (past ++ [.event ⟨Topic.queryError, payload⟩]) d.stopSpinner where
  link_eq := hf.link_eq
  exportUrl := by
    rw [latest?_concat]
    cases payload <;> exact hf.exportUrl
  view := by
    rw [latest?_concat]
    cases payload <;> exact hf.view
  marked := ⟨hf.marked.1, hf.marked.2, hf.marked.3, hf.marked.4⟩
  selected := by
    have hd : Happening.isDataset (.event ⟨Topic.queryError, payload⟩) = false := by
      cases payload <;> rfl
    exact hf.selected.trans (lasting_concat_other rfl hd).symm
  spinning := by
    have ho : Happening.isOutcome (.event ⟨Topic.queryError, payload⟩) = true :=
      Bool.or_eq_true_iff.2 (.inr rfl)
    exact iff_of_false Bool.false_ne_true (not_lasting_concat rfl ho)
  visible := by
    rw [latest?_concat]
    cases payload <;> exact hf.visible
  shown := hf.shown

theorem panel (hf : Follows link past d) (name : String) :
    Follows link (past ++ [.event ⟨Topic.panelActive, .panel name⟩]) (d.showPanel name) where
  link_eq := hf.link_eq
  exportUrl := by rw [latest?_concat]; exact hf.exportUrl
  view := by rw [latest?_concat]; exact hf.view
  marked := ⟨hf.marked.1, hf.marked.2, hf.marked.3, hf.marked.4⟩
  selected := hf.selected.trans (lasting_concat_other rfl rfl).symm
  spinning := hf.spinning.trans (lasting_concat_other rfl rfl).symm
  visible := by
    rw [latest?_concat]
    simp [Desk.showPanel, Happening.panel?]
  shown := rfl

theorem choice (hf : Follows link past d) (view : ViewMode) :
    Follows link (past ++ [.call (.choose view)])
      { d with targets := d.targets.choose view } where
  link_eq := hf.link_eq
  exportUrl := by rw [latest?_concat]; exact hf.exportUrl
  view := by rw [latest?_concat]; rfl
  marked := marked_choose _ _
  selected := hf.selected.trans (lasting_concat_other rfl rfl).symm
  spinning := hf.spinning.trans (lasting_concat_other rfl rfl).symm
  visible := by rw [latest?_concat]; exact hf.visible
  shown := hf.shown

theorem selection (hf : Follows link past d) :
    Follows link (past ++ [.call .selectExport])
      { d with targets := { d.targets with exportSelected := true } } where
  link_eq := hf.link_eq
  exportUrl := by rw [latest?_concat]; exact hf.exportUrl
  view := by rw [latest?_concat]; exact hf.view
  marked := ⟨hf.marked.1, hf.marked.2, hf.marked.3, hf.marked.4⟩
  selected := iff_of_true rfl (lasting_concat.2 (.inl rfl))
  spinning := hf.spinning.trans (lasting_concat_other rfl rfl).symm
  visible := by rw [latest?_concat]; exact hf.visible
  shown := hf.shown

theorem refresh (hf : Follows link past d) :
    Follows link (past ++ [.call .refresh])
      { d with targets := { d.targets with refreshSpinning := true } } where
  link_eq := hf.link_eq
  exportUrl := by rw [latest?_concat]; exact hf.exportUrl
  view := by rw [latest?_concat]; exact hf.view
  marked := ⟨hf.marked.1, hf.marked.2, hf.marked.3, hf.marked.4⟩
  selected := hf.selected.trans (lasting_concat_other rfl rfl).symm
  spinning := iff_of_true rfl (lasting_concat.2 (.inl rfl))
  visible := by rw [latest?_concat]; exact hf.visible
  shown := hf.shown

end Follows

/-- An event on a topic that the controller does not look at for what it shows. -/
theorem plain_event {topic : String} {payload : Payload} (hd : topic ≠ Topic.queryDataset)
    (he : topic ≠ Topic.queryError) (hp : topic ≠ Topic.panelActive) :
    (Happening.event ⟨topic, payload⟩).Plain := by
  have hq : (Happening.event ⟨topic, payload⟩).query? = none := by
    cases payload <;> simp [Happening.query?, hd]
  refine ⟨hq, ?_, ?_, ?_, rfl, rfl⟩
  · cases payload <;> simp [Happening.view?, hd]
  · cases payload <;> simp [Happening.panel?, hp]
  · simp [Happening.isOutcome, Happening.isDataset, hq, he]

theorem Follows.heard {sourced : Bool} {event : Event} (hf : Follows link past d)
    (h : Heard sourced d event d') : Follows link (past ++ [.event event]) d' := by
  cases h with
  | relayout payload =>
    exact (hf.plain (plain_event (by decide) (by decide) (by decide))).desk _ rfl rfl rfl
  | saved payload =>
    have hp : (Happening.event ⟨Topic.preferencesSave, payload⟩).Plain :=
      plain_event (by decide) (by decide) (by decide)
    exact (hf.plain hp).saved
  | loaded payload =>
    exact (hf.plain (plain_event (by decide) (by decide) (by decide))).desk _ rfl rfl rfl
  | shown name => exact hf.panel name
  | @notPanel payload hp =>
    refine hf.plain ?_
    cases payload with
    | panel name => exact absurd rfl (hp name)
    | _ => exact ⟨rfl, rfl, rfl, rfl, rfl, rfl⟩
  | received dataset => exact hf.dataset dataset
  | @notDataset payload hp =>
    refine hf.plain ?_
    cases payload with
    | dataset dataset => exact absurd rfl (hp dataset)
    | _ => exact ⟨rfl, rfl, rfl, rfl, rfl, rfl⟩
  | refused message => exact (hf.error _).desk _ rfl rfl rfl
  | notError hp => exact hf.error _
  | notDelta hp => exact hf.plain (plain_event (by decide) (by decide) (by decide))
  | unanswered hp => exact hf.plain (plain_event (by decide) (by decide) (by decide))

/-- The history of a settling is the list of its events as they begin. -/
theorem Follows.settles {sourced : Bool} {event : Event} {opened closed : List Event}
    (hf : Follows link past d) (h : Settles sourced d event d' opened closed) :
    Follows link (past ++ opened.map .event) d' := by
  have hexecute (query : String) : (Happening.event ⟨Topic.queryExecute, .query query⟩).Plain :=
    plain_event (by decide) (by decide) (by decide)
  have hrefresh (payload : Payload) : (Happening.event ⟨Topic.gridRefresh, payload⟩).Plain :=
    plain_event (by decide) (by decide) (by decide)
  cases h with
  | quiet h => exact hf.heard h
  | unknown hn =>
    exact hf.plain (plain_event (fun h => hn (h ▸ by decide)) (fun h => hn (h ▸ by decide))
      (fun h => hn (h ▸ by decide)))
  | moved pixels =>
    have hdelta : Follows link (past ++ [.event ⟨resizeTopic, .delta pixels⟩])
        { d with height := d.height.adjust pixels } :=
      (hf.plain (plain_event (by decide) (by decide) (by decide))).desk
        d.targets.editorBasis rfl rfl rfl
    have hlayout := hdelta.heard (@Heard.relayout sourced _ .empty)
    have hsaved := hlayout.heard (@Heard.saved sourced _ .empty)
    rw [List.append_assoc, List.append_assoc] at hsaved
    exact hsaved
  | @answered _ query hs h =>
    have hanswer := (hf.plain (hexecute query)).heard h
    rwa [List.append_assoc] at hanswer
  | @refreshed _ query payload hs hq h =>
    have hanswer := ((hf.plain (hrefresh payload)).plain (hexecute query)).heard h
    rwa [List.append_assoc, List.append_assoc] at hanswer
  | @refreshedInVain query payload hs hq =>
    have hrerun := (hf.plain (hrefresh payload)).plain (hexecute query)
    rwa [List.append_assoc] at hrerun
  | nothingToRefresh payload hq =>
    have herror := (hf.plain (hrefresh payload)).heard
      (@Heard.refused sourced d Desk.nothingToRefresh)
    rw [List.append_assoc] at herror
    exact herror

variable {c : Console}

theorem Follows.prepare (hf : Follows link past c.desk) (s : Step) :
    Follows link (past ++ callOf s) (c.prepare s).desk := by
  cases s with
  | tell event =>
    change Follows link (past ++ []) c.desk
    rwa [List.append_nil]
  | refresh => exact hf.refresh
  | choose view => exact hf.choice view
  | selectExport => exact hf.selection
  | copyExport =>
    rw [prepare_copyExport]
    exact hf.plain ⟨rfl, rfl, rfl, rfl, rfl, rfl⟩
  | scroll _ | files _ | clock _ =>
    exact (hf.plain ⟨rfl, rfl, rfl, rfl, rfl, rfl⟩).desk c.desk.targets.editorBasis rfl rfl rfl
  | _ => exact hf.plain ⟨rfl, rfl, rfl, rfl, rfl, rfl⟩

theorem Follows.step (hf : Follows link past c.desk) (s : Step) :
    Follows link (past ++ c.happenings s) (c.step s).desk := by
  have hp := hf.prepare s
  obtain ⟨hnone, he⟩ | ⟨event, d', opened, closed, htell, hs, he⟩ := step_cases c s
  · rw [he, happenings, hnone]
    simpa using hp
  · have htold : (c.prepare s).told event.topic event.payload = opened :=
      told_of_settles (by rw [prepare_sourced]; exact hs)
    rw [he, happenings, htell, ← List.append_assoc]
    simp only [htold]
    exact hp.settles hs

theorem Follows.run (steps : List Step) (hf : Follows link past c.desk) :
    Follows link (past ++ c.history steps) (c.run steps).desk := by
  induction steps generalizing past c with
  | nil => simpa [history, Console.run] using hf
  | cons s rest ih =>
    have hrest := ih (hf.step s)
    rwa [List.append_assoc] at hrest

/-- After any steps from the start, what the controller shows is read off the history: the link of
the last dataset, the last view chosen by a dataset or a call, with exactly the flags of that view
set, a selection that no dataset has followed, a refresh that nothing has answered, and the last
panel in front. -/
theorem controller_reads_history (link : ExportLink) (cell : Nat) (store : Option Store)
    (source : Source) (sourced : Bool) (files : Disk) (now : Clock) (steps : List Step) :
    let started := start link cell store source sourced files now
    let past := started.history steps
    let d := (started.run steps).desk
    d.targets.exportUrl = ((latest? Happening.query? past).map link.encode).getD "" ∧
    (d.targets.view = .chart ↔ latest? Happening.view? past = some .chart) ∧
    d.targets.gridShown = decide (d.targets.view = .grid) ∧
    d.targets.chartShown = decide (d.targets.view = .chart) ∧
    d.targets.gridButton = decide (d.targets.view = .grid) ∧
    d.targets.chartButton = decide (d.targets.view = .chart) ∧
    (d.targets.exportSelected = true ↔ Lasting Happening.isSelection Happening.isDataset past) ∧
    (d.targets.refreshSpinning = true ↔ Lasting Happening.isRefresh Happening.isOutcome past) ∧
    (d.visible = true ↔ latest? Happening.panel? past = some Desk.panelName) ∧
    d.targets.panelShown = d.visible := by
  intro started past d
  have hf : Follows link past d := by
    have hrun := (follows_start link cell store source sourced files now).run steps
    rwa [List.nil_append] at hrun
  refine ⟨hf.exportUrl, ?_, hf.marked.gridShown, hf.marked.chartShown, hf.marked.gridButton,
    hf.marked.chartButton, hf.selected, hf.spinning, ?_, hf.shown⟩
  · rw [hf.view]
    cases latest? Happening.view? past with
    | none => simp
    | some view => simp
  · rw [hf.visible, decide_eq_true_iff]

end QueryDesk.Console
