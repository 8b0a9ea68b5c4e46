import QueryDesk.Proofs.AppRun
import QueryDesk.Proofs.ConsoleHistory

/-!
# What an action tells

For every action on every application that a run can reach, the events that have ended when the
action is done, in the order in which they end. What an action tells depends on the past in three
ways: a refresh needs the query of the last dataset, a move of the splitter needs a delta, which is
never zero, and a query has its answer from the data file as it is then. All of this is read off
what a console keeps through every step.
-/
namespace QueryDesk

open QueryDesk.Preferences (Store)
open QueryDesk.Files (Disk)

namespace Splitter

variable {s : Splitter} {container : Rect} {start wanted target row : Nat} {delta : Int}

/-- A handle that moves goes to the wanted place, as far as the bounds let it and only in the
direction asked for. -/
theorem delta?_eq_some (h : s.delta? container start wanted = some (target, delta)) :
    ∃ least most, s.bounds container = some (least, most) ∧
      target = Layout.clamp least most wanted ∧ target ≠ start ∧
      (start < wanted ↔ start < target) ∧ delta = ((target : Int) - start) * s.cell := by
  simp only [delta?, Option.bind_eq_bind, Option.bind_eq_some_iff] at h
  obtain ⟨⟨least, most⟩, hbounds, h⟩ := h
  split at h
  · simp at h
  · rename_i hmoved
    simp only [Bool.or_eq_true, decide_eq_true_eq, bne_iff_ne, not_or, ne_eq, Classical.not_not,
      decide_eq_decide] at hmoved
    split at h
    · simp only [Option.some.injEq, Prod.mk.injEq] at h
      obtain ⟨rfl, rfl⟩ := h
      exact ⟨least, most, hbounds, rfl, hmoved.1, hmoved.2, rfl⟩
    · simp at h

/-- A handle that moves, moves by a whole number of cells, which is not none. -/
theorem delta?_ne_zero (hcell : 0 < s.cell)
    (h : s.delta? container start wanted = some (target, delta)) : delta ≠ 0 := by
  obtain ⟨-, -, -, -, hmoved, -, rfl⟩ := delta?_eq_some h
  refine Int.mul_ne_zero ?_ ?_ <;> omega

theorem move_ne_zero (hcell : 0 < s.cell) (h : (s.move row).2 = some delta) : delta ≠ 0 := by
  unfold move at h
  split at h
  · simp at h
  · split at h
    · simp at h
    · rename_i hdelta
      simp only [Option.some.injEq] at h
      exact h ▸ delta?_ne_zero hcell hdelta

theorem nudge_ne_zero {rows : Int} (hcell : 0 < s.cell)
    (h : s.nudge rows row container = some delta) : delta ≠ 0 := by
  obtain ⟨moved, hmoved, rfl⟩ := Option.map_eq_some_iff.1 h
  exact delta?_ne_zero hcell hmoved

theorem move_cell (s : Splitter) (row : Nat) : (s.move row).1.cell = s.cell := by
  unfold move
  split
  · rfl
  · split <;> rfl

end Splitter

namespace Desk

open Console (resizeTopic)

variable {sourced : Bool} {d d' : Desk} {e : Event} {opened closed : List Event}

/-- A dataset for a query, or the reason why there is none. -/
inductive Answers (query : String) : Event → Prop
  | dataset {dataset : Dataset} (h : dataset.query = query) :
      Answers query ⟨Topic.queryDataset, .dataset dataset⟩
  | error (message : String) : Answers query ⟨Topic.queryError, .error message⟩

theorem load_query {source : Source} {files : Disk} {now : Clock} {query : String}
    {dataset : Dataset} (h : source.load files now query = .ok dataset) :
    dataset.query = query := by
  unfold Source.load at h
  split at h
  · simp at h
  · cases source with
    | sample => exact Except.ok.inj h ▸ rfl
    | file path =>
      dsimp only at h
      cases hread : Source.readFile files path with
      | error error => simp [hread, Except.map] at h
      | ok table =>
        rw [hread] at h
        exact Except.ok.inj h ▸ rfl

theorem answer_answers (d : Desk) (query : String) : Answers query (d.answer query) := by
  unfold answer
  cases h : d.source.load d.files d.now query with
  | ok dataset => exact .dataset (load_query h)
  | error error => exact .error _

/-- The answer to a query is shown, and the spinner has stopped. -/
theorem exists_heard_stopped (sourced : Bool) (d : Desk) (query : String) :
    ∃ d', Heard sourced d (d.answer query) d' ∧ d'.targets.refreshSpinning = false := by
  have h := answer_answers d query
  generalize d.answer query = answer at h ⊢
  cases h with
  | dataset => exact ⟨_, .received d _, rfl⟩
  | error => exact ⟨_, .refused d _, rfl⟩

theorem Heard.still (h : Heard sourced d e d') (hs : d.targets.refreshSpinning = false) :
    d'.targets.refreshSpinning = false := by
  cases h with
  | received | refused | notError => rfl
  | saved => rwa [saveHeight_eq]
  | _ => exact hs

/-- What begins on a noted topic has ended when all is done, in whatever order. -/
theorem Settles.perm (h : Settles sourced d e d' opened closed)
    (hn : e.topic ∈ Console.notedTopics) : opened.Perm closed := by
  cases h with
  | quiet => exact .refl _
  | unknown hu => exact absurd hn hu
  | moved => exact @List.perm_append_comm _ [_] [_, _]
  | refreshed => exact (List.reverse_perm [_, _, _]).symm
  | answered | refreshedInVain | nothingToRefresh => exact .swap ..

/-- No event starts the spinner. -/
theorem Settles.still (h : Settles sourced d e d' opened closed)
    (hs : d.targets.refreshSpinning = false) : d'.targets.refreshSpinning = false := by
  cases h with
  | quiet h | answered _ h | refreshed _ _ _ h => exact h.still hs
  | moved pixels =>
    unfold Desk.moved
    rwa [saveHeight_eq]
  | nothingToRefresh => rfl
  | _ => exact hs

end Desk

namespace Console

open QueryDesk.Desk (Heard Settles)

variable {sourced : Bool} {c : Console} {d d' : Desk} {e : Event} {journal : List Event}

/-- The query of the last dataset in a journal, if there has been one. -/
def lastQuery? (journal : List Event) : Option String :=
  latest? Happening.query? (journal.map .event)

theorem lastQuery?_concat (journal : List Event) (e : Event) :
    lastQuery? (journal ++ [e]) = (Happening.query? (.event e)).or (lastQuery? journal) := by
  rw [lastQuery?, List.map_append, List.map_singleton, latest?_concat, lastQuery?]

theorem lastQuery?_concat_other {e : Event} (h : Happening.query? (.event e) = none) :
    lastQuery? (journal ++ [e]) = lastQuery? journal := by
  rw [lastQuery?_concat, h, Option.none_or]

theorem query?_of_topic {topic : String} (h : topic ≠ Topic.queryDataset) (payload : Payload) :
    Happening.query? (.event ⟨topic, payload⟩) = none := by
  cases payload <;> simp [Happening.query?, h]

theorem lastQuery?_topic {topic : String} (h : topic ≠ Topic.queryDataset) (payload : Payload) :
    lastQuery? (journal ++ [⟨topic, payload⟩]) = lastQuery? journal :=
  lastQuery?_concat_other (query?_of_topic h payload)

theorem grid_query_heard (h : Heard sourced d e d') (hq : d.grid.query = lastQuery? journal) :
    d'.grid.query = lastQuery? (journal ++ [e]) := by
  cases h with
  | received dataset =>
    rw [lastQuery?_concat]
    rfl
  | @notDataset payload hp =>
    rw [lastQuery?_concat_other]
    · exact hq
    · cases payload with
      | dataset dataset => exact absurd rfl (hp dataset)
      | _ => rfl
  | saved =>
    rw [lastQuery?_topic (by decide), Desk.saveHeight_eq]
    exact hq
  | _ =>
    rw [lastQuery?_topic (by decide)]
    exact hq

/-- The grid keeps the query of the last dataset that has ended. -/
theorem grid_query_settles {opened closed : List Event} (h : Settles sourced d e d' opened closed)
    (hq : d.grid.query = lastQuery? journal) : d'.grid.query = lastQuery? (journal ++ closed) := by
  cases h with
  | quiet h => exact grid_query_heard h hq
  | unknown hn => simpa using hq
  | moved pixels =>
    rw [List.append_cons, List.append_cons, lastQuery?_topic (by decide),
      lastQuery?_topic (by decide), lastQuery?_topic (by decide), Desk.moved, Desk.saveHeight_eq]
    exact hq
  | @answered _ query hs h =>
    rw [List.append_cons, lastQuery?_topic (by decide)]
    exact grid_query_heard h hq
  | @refreshed _ query payload hs hg h =>
    rw [List.append_cons, List.append_cons, lastQuery?_topic (by decide),
      lastQuery?_topic (by decide)]
    exact grid_query_heard h hq
  | @refreshedInVain query payload hs hg =>
    rw [List.append_cons, lastQuery?_topic (by decide), lastQuery?_topic (by decide)]
    exact hq
  | nothingToRefresh payload hg =>
    rw [List.append_cons, lastQuery?_topic (by decide)]
    exact grid_query_heard (@Heard.refused sourced d Desk.nothingToRefresh) hq

/-- What holds of a console with a source between two steps. -/
structure Ready (c : Console) : Prop where
  sourced : c.sourced = true
  cell : 0 < c.splitter.cell
  still : c.desk.targets.refreshSpinning = false
  query : c.desk.grid.query = lastQuery? c.journal

theorem ready_start (link : ExportLink) (cell : Nat) (store : Option Store) (source : Source)
    (files : Disk) (now : Clock) : (start link cell store source true files now).Ready :=
  ⟨rfl, Nat.lt_of_lt_of_le Nat.zero_lt_one (Nat.le_max_right cell 1), rfl, rfl⟩

theorem grid_update_query (g : Grid) (action : Action) : (g.update action).query = g.query := by
  unfold Grid.update
  split
  · split <;> rfl
  all_goals rfl

theorem prepare_query (c : Console) (s : Step) :
    (c.prepare s).desk.grid.query = c.desk.grid.query := by
  cases s with
  | copyExport => rw [prepare_copyExport]
  | scroll action => exact grid_update_query _ action
  | _ => rfl

theorem prepare_cell (c : Console) (s : Step) : (c.prepare s).splitter.cell = c.splitter.cell := by
  cases s with
  | copyExport => rw [prepare_copyExport]
  | move row => exact c.splitter.move_cell row
  | _ => rfl

/-- Only a refresh starts the spinner. -/
theorem prepare_spinning (c : Console) (s : Step) :
    s = .refresh ∨
      (c.prepare s).desk.targets.refreshSpinning = c.desk.targets.refreshSpinning := by
  cases s with
  | refresh => exact .inl rfl
  | copyExport => exact .inr (by rw [prepare_copyExport])
  | _ => exact .inr rfl

/-- The events that a refresh completes: the answer to the last query, the query and the refresh, or
an error and the refresh if there has been no query. -/
def refreshTrace (d : Desk) : List Event :=
  match d.grid.query with
  | some query =>
      [d.answer query, ⟨Topic.queryExecute, .query query⟩, ⟨Topic.gridRefresh, .empty⟩]
  | none => [Desk.noQuery, ⟨Topic.gridRefresh, .empty⟩]

theorem exists_settles_refresh_stopped (d : Desk) :
    ∃ d' opened, Settles true d ⟨Topic.gridRefresh, .empty⟩ d' opened (refreshTrace d) ∧
      d'.targets.refreshSpinning = false := by
  unfold refreshTrace
  cases hq : d.grid.query with
  | some query =>
    obtain ⟨d', hd, hs⟩ := Desk.exists_heard_stopped true d query
    exact ⟨d', _, .refreshed .empty rfl hq hd, hs⟩
  | none => exact ⟨_, _, .nothingToRefresh .empty hq, rfl⟩

/-- With a source, every refresh ends with the spinner at rest. -/
theorem refresh_ends (hs : c.sourced = true) :
    c.refresh.journal = c.journal ++ refreshTrace c.desk ∧
      c.refresh.desk.targets.refreshSpinning = false := by
  obtain ⟨d', opened, h, hstill⟩ := exists_settles_refresh_stopped (c.prepare .refresh).desk
  have he : c.refresh = { c.prepare .refresh with
      desk := d', journal := c.journal ++ refreshTrace c.desk } :=
    publish_of_settles (c := c.prepare .refresh) (by rw [prepare_sourced, hs]; exact h)
  rw [he]
  exact ⟨rfl, hstill⟩

theorem Ready.step (hr : c.Ready) (s : Step) : (c.step s).Ready where
  sourced := (step_sourced c s).trans hr.sourced
  cell := by
    obtain ⟨-, he⟩ | ⟨_, _, _, _, -, -, he⟩ := step_cases c s <;> rw [he] <;>
      exact (prepare_cell c s).symm ▸ hr.cell
  still := by
    rcases prepare_spinning c s with rfl | hp
    · exact (refresh_ends hr.sourced).2
    · exact step_desk (P := (·.targets.refreshSpinning = false)) (hp.trans hr.still)
        fun h hd => h.still hd
  query := by
    have hp : (c.prepare s).desk.grid.query = lastQuery? c.journal :=
      (prepare_query c s).trans hr.query
    obtain ⟨-, he⟩ | ⟨_, _, _, _, -, hs, he⟩ := step_cases c s <;> rw [he]
    · rwa [prepare_journal]
    · exact grid_query_settles hs hp

/-- The deliveries of a step end, however deep they may nest: they leave a desk and complete events,
which are all the events that have begun. -/
def Delivers (c : Console) (s : Step) (after : Desk) (trace : List Event) : Prop :=
  match c.telling? s with
  | none => trace = []
  | some event =>
      ((c.prepare s).told event.topic event.payload).Perm trace ∧
      ∀ depth, ∃ calls,
        Bus.publish Desk.react (depth + 3) event.topic event.payload
            ⟨registrations c.sourced, (c.prepare s).desk⟩ =
          some (⟨registrations c.sourced, after⟩, calls) ∧ noted calls = trace

theorem step_delivers {s : Step}
    (hn : ∀ event, c.telling? s = some event → event.topic ∈ notedTopics) :
    ∃ trace, (c.step s).journal = c.journal ++ trace ∧ c.Delivers s (c.step s).desk trace := by
  obtain ⟨hnone, he⟩ | ⟨event, d', opened, closed, htell, hs, he⟩ := step_cases c s
  · exact ⟨[], by rw [he, prepare_journal, List.append_nil], by rw [Delivers, hnone]⟩
  · refine ⟨closed, by rw [he], ?_⟩
    have htold : (c.prepare s).told event.topic event.payload = opened :=
      told_of_settles (by rw [prepare_sourced]; exact hs)
    rw [Delivers, htell, he]
    exact ⟨htold ▸ hs.perm (hn event htell), fun depth => hs.publish_eq depth⟩

/-- The events that a move of the splitter completes. -/
def moveTrace (pixels : Int) : List Event :=
  [⟨Topic.windowResize, .empty⟩, ⟨Topic.preferencesSave, .empty⟩, ⟨resizeTopic, .delta pixels⟩]

/-- A report of the splitter completes nothing, or a layout, a save and the move itself. -/
theorem report_ends (c : Console) (pixels : Option Int) :
    (c.report pixels).journal = c.journal ++ (pixels.map moveTrace).getD [] ∧
      (c.report pixels).desk.height = (pixels.map c.desk.height.adjust).getD c.desk.height := by
  cases pixels with
  | none => exact ⟨(List.append_nil _).symm, rfl⟩
  | some pixels =>
    rw [report, publish_of_settles (.moved c.desk pixels), Desk.moved, Desk.saveHeight_eq]
    exact ⟨rfl, rfl⟩

end Console

namespace App

open Console (lastQuery? moveTrace)

/-- Nothing is completed and the height stays, or one move by some pixels is. -/
def MovesSplitter (app after : App) (trace : List Event) : Prop :=
  trace = [] ∧ after.console.desk.height = app.console.desk.height ∨
    ∃ pixels : Int, pixels ≠ 0 ∧ trace = moveTrace pixels ∧
      after.console.desk.height.pixels =
        max 1 (min ((app.console.desk.height.pixels : Int) + pixels).toNat Layout.maxWord32)

/-- The events that an action completes, in order, between the application before and after it. -/
def Completes (app after : App) (trace : List Event) : Action → Prop
  | .executeQuery =>
      let query := app.editor.text
      let answer := app.console.desk.answer query
      Desk.Answers query answer ∧ trace = [answer, ⟨Topic.queryExecute, .query query⟩]
  | .refreshQuery =>
      match lastQuery? app.console.journal with
      | some query =>
          let answer := app.console.desk.answer query
          Desk.Answers query answer ∧
            trace = [answer, ⟨Topic.queryExecute, .query query⟩, ⟨Topic.gridRefresh, .empty⟩]
      | none =>
          trace = [⟨Topic.queryError, .error Desk.nothingToRefresh⟩, ⟨Topic.gridRefresh, .empty⟩]
  | .growEditor | .shrinkEditor | .splitterDrag _ => app.MovesSplitter after trace
  | .resize width height => trace = [⟨Topic.windowResize, .area (.ofTerminal width height)⟩]
  | .showConsole => trace = [⟨Topic.panelActive, .panel Panel.console.name⟩]
  | .showHelp => trace = [⟨Topic.panelActive, .panel Panel.help.name⟩]
  | _ => trace = []

variable {app : App}

theorem console_ready (link : ExportLink) (cell : Nat) (store : Option Store) (source : Source)
    (files : Disk) (now : Clock) (inputs : List Input) :
    ((start link cell store source files now).run inputs).console.Ready :=
  run_console_of_start link cell store source files now inputs
    (Console.ready_start link cell store source files now) fun _ s hr => hr.step s

/-- A report of the splitter, whose deltas are never zero, is a move or nothing. -/
theorem movesSplitter_of_report {after : App} {pixels : Option Int} {console : Console}
    (hzero : ∀ delta, pixels = some delta → delta ≠ 0) (he : after.console = console.report pixels)
    (hh : console.desk.height = app.console.desk.height) :
    app.MovesSplitter after ((pixels.map moveTrace).getD []) := by
  have hheight := (Console.report_ends console pixels).2
  rw [← he, hh] at hheight
  cases pixels with
  | none => exact .inl ⟨rfl, hheight⟩
  | some delta => exact .inr ⟨delta, hzero delta rfl, rfl, by rw [hheight]; rfl⟩

theorem nudge_completes (hr : app.console.Ready) (rows : Int) :
    ∃ trace, (app.nudgeSplitter rows).console.journal = app.console.journal ++ trace ∧
      app.MovesSplitter (app.nudgeSplitter rows) trace := by
  unfold nudgeSplitter
  cases app.layout with
  | none => exact ⟨[], (List.append_nil _).symm, .inl ⟨rfl, rfl⟩⟩
  | some layout =>
    exact ⟨_, (Console.report_ends _ _).1, movesSplitter_of_report
      (fun _ hdelta => Splitter.nudge_ne_zero hr.cell hdelta) rfl rfl⟩

theorem topic_noted {action : Action} {s : Console.Step} {event : Event}
    (hs : app.stepOf? action = some s) (he : app.console.telling? s = some event) :
    event.topic ∈ Console.notedTopics := by
  have hmap {pixels : Option Int}
      (h : pixels.map (fun delta => Event.mk Console.resizeTopic (.delta delta)) = some event) :
      event.topic ∈ Console.notedTopics := by
    obtain ⟨delta, -, rfl⟩ := Option.map_eq_some_iff.1 h
    exact (by decide : Console.resizeTopic ∈ Console.notedTopics)
  cases action with
  | growEditor | shrinkEditor =>
    obtain ⟨layout, -, rfl⟩ := Option.map_eq_some_iff.1 hs
    exact hmap he
  | splitterDrag row =>
    cases hs
    exact hmap he
  | splitterDragStart row =>
    obtain ⟨layout, -, rfl⟩ := Option.map_eq_some_iff.1 hs
    cases he
  | scrollUp | scrollDown | pageUp | pageDown =>
    simp only [stepOf?, Option.ite_none_right_eq_some, Option.some.injEq] at hs
    rw [← hs.2] at he
    cases he
  | resize width height =>
    cases hs
    cases he
    exact (by decide : Topic.windowResize ∈ Console.notedTopics)
  | executeQuery =>
    cases hs
    cases he
    exact (by decide : Topic.queryExecute ∈ Console.notedTopics)
  | _ => cases hs <;> cases he <;> decide

theorem update_completes_of_ready (hr : app.console.Ready) (action : Action) :
    ∃ trace, (app.update action).console.journal = app.console.journal ++ trace ∧
      app.Completes (app.update action) trace action := by
  have quiet {console : Console} (he : (app.update action).console = console)
      (hj : console.journal = app.console.journal) :
      (app.update action).console.journal = app.console.journal ++ [] := by
    rw [he, hj, List.append_nil]
  cases action with
  | executeQuery =>
    obtain ⟨d', hd, -⟩ :=
      Desk.exists_heard_stopped app.console.sourced app.console.desk app.editor.text
    refine ⟨_, ?_, Desk.answer_answers _ _, rfl⟩
    rw [update, publish, Console.publish_of_settles (.answered hr.sourced hd)]
  | refreshQuery =>
    refine ⟨_, (Console.refresh_ends hr.sourced).1, ?_⟩
    simp only [Completes, ← hr.query, Console.refreshTrace]
    cases app.console.desk.grid.query with
    | none => rfl
    | some query => exact ⟨Desk.answer_answers _ _, rfl⟩
  | growEditor => exact nudge_completes hr 1
  | shrinkEditor => exact nudge_completes hr (-1)
  | splitterDrag row =>
    exact ⟨_, (Console.report_ends _ _).1, movesSplitter_of_report
      (fun _ hdelta => Splitter.move_ne_zero hr.cell hdelta) rfl rfl⟩
  | resize width height =>
    refine ⟨_, ?_, rfl⟩
    rw [update, publish, Console.publish_windowResize]
  | showConsole | showHelp =>
    refine ⟨_, ?_, rfl⟩
    rw [update, switchPanel, publish, Console.publish_panelActive]
  | copyExportUrl =>
    exact ⟨[], quiet rfl (Console.prepare_journal app.console .copyExport), rfl⟩
  | splitterDragStart row =>
    refine ⟨[], ?_, rfl⟩
    simp only [update]
    cases app.layout <;> exact (List.append_nil _).symm
  | scrollUp | scrollDown | pageUp | pageDown =>
    refine ⟨[], ?_, rfl⟩
    rw [update, scroll_console, List.append_nil]
    split <;> rfl
  | editorInput | editorPaste | editorNewline | editorBackspace | editorDelete | cursorLeft
  | cursorRight | cursorUp | cursorDown | cursorHome | cursorEnd =>
    exact ⟨[], quiet (edit_console app _) rfl, rfl⟩
  | _ => exact ⟨[], quiet rfl rfl, rfl⟩

/-- After any inputs from the start, with the files as others have left them, an action completes
exactly the events of its kind: its deliveries end at whatever depth they may nest, the grid's query
that a refresh runs again is that of the last dataset, and the spinner is at rest afterwards. -/
theorem update_completes (link : ExportLink) (cell : Nat) (store : Option Store) (source : Source)
    (files : Disk) (now : Clock) (inputs : List Input) (action : Action) :
    let app := (start link cell store source files now).run inputs
    let after := app.update action
    (∃ trace, after.console.journal = app.console.journal ++ trace ∧
      app.Completes after trace action ∧
      ∀ s, app.stepOf? action = some s → app.console.Delivers s after.console.desk trace) ∧
    app.console.desk.grid.query = lastQuery? app.console.journal ∧
    after.console.desk.targets.refreshSpinning = false := by
  intro app after
  have hr : app.console.Ready := console_ready link cell store source files now inputs
  have hafter := update_console app action
  obtain ⟨trace, hjournal, hcompletes⟩ := update_completes_of_ready hr action
  refine ⟨⟨trace, hjournal, hcompletes, fun s hs => ?_⟩, hr.query, ?_⟩
  · obtain ⟨told, htold, hdelivers⟩ := Console.step_delivers fun event => topic_noted hs
    have he : after.console = app.console.step s := by rw [hs] at hafter; exact hafter
    rw [← he, hjournal, List.append_cancel_left_eq] at htold
    rwa [he, htold]
  · change (app.update action).console.desk.targets.refreshSpinning = false
    rw [hafter]
    cases app.stepOf? action with
    | none => exact hr.still
    | some s => exact (hr.step s).still

end App

end QueryDesk
