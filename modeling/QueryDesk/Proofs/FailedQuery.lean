import QueryDesk.Proofs.UpdateEvents

/-!
# Queries that fail

A query that ends in an error, be it new or run again, leaves a message in the grid and nothing
else: the table of the last dataset, its chart and its link stay where they were, so does all that
the user has chosen, and the next refresh runs the query of that dataset again. The next dataset
takes the message away.
-/
namespace QueryDesk

open QueryDesk.Preferences (Store)
open QueryDesk.Files (Disk)

namespace Desk

open Console (resizeTopic notedTopics)

variable {sourced : Bool} {d d' : Desk} {e : Event} {opened closed : List Event}

/-- With the spinner at rest, a failed query changes the message in the grid only. -/
theorem refuse_of_still (h : d.targets.refreshSpinning = false) (message : String) :
    d.refuse message = { d with grid := d.grid.fail message } := by
  rw [refuse, stopSpinner, ← h]

/-- A query that the source can answer is answered by the dataset. -/
theorem heard_of_ok {query : String} {dataset : Dataset}
    (h : d.source.load d.files d.now query = .ok dataset) (sourced : Bool) :
    d.answer query = ⟨Topic.queryDataset, .dataset dataset⟩ ∧
      Heard sourced d (d.answer query) (d.receive dataset) := by
  have hanswer : d.answer query = ⟨Topic.queryDataset, .dataset dataset⟩ := by
    rw [answer, h]
  exact ⟨hanswer, hanswer ▸ .received d dataset⟩

/-- A query that it cannot answer is answered by the message of the error. -/
theorem heard_of_error {query : String} {error : LoadError}
    (h : d.source.load d.files d.now query = .error error) (sourced : Bool) :
    d.answer query = ⟨Topic.queryError, .error error.message⟩ ∧
      Heard sourced d (d.answer query) (d.refuse error.message) := by
  have hanswer : d.answer query = ⟨Topic.queryError, .error error.message⟩ := by
    rw [answer, h]
  exact ⟨hanswer, hanswer ▸ .refused d error.message⟩

/-- The message in the grid after an event. -/
def messageAfter (message : Option String) : Event → Option String
  | ⟨topic, .dataset _⟩ => if topic = Topic.queryDataset then none else message
  | ⟨topic, .error text⟩ => if topic = Topic.queryError then some text else message
  | _ => message

theorem messageAfter_of_topic {topic : String} (hd : topic ≠ Topic.queryDataset)
    (he : topic ≠ Topic.queryError) (message : Option String) (payload : Payload) :
    messageAfter message ⟨topic, payload⟩ = message := by
  cases payload <;> simp [messageAfter, hd, he]

theorem Heard.message (h : Heard sourced d e d') :
    d'.grid.error = messageAfter d.grid.error e := by
  cases h with
  | received | refused => rfl
  | @notDataset payload hp =>
    cases payload with
    | dataset dataset => exact absurd rfl (hp dataset)
    | _ => rfl
  | @notError payload hp =>
    cases payload with
    | error message => exact absurd rfl (hp message)
    | _ => rfl
  | saved =>
    rw [messageAfter_of_topic (by decide) (by decide), saveHeight_eq]
  | _ => exact (messageAfter_of_topic (by decide) (by decide) _ _).symm

/-- The message in the grid is read off the events that have ended. -/
theorem Settles.message (h : Settles sourced d e d' opened closed) :
    d'.grid.error = closed.foldl messageAfter d.grid.error := by
  cases h with
  | quiet h => exact h.message
  | unknown => rfl
  | moved pixels =>
    simp only [List.foldl_cons, List.foldl_nil]
    rw [messageAfter_of_topic (by decide) (by decide), Desk.moved, saveHeight_eq]
    rfl
  | answered hs h => exact h.message
  | refreshed payload hs hq h =>
    simp only [List.foldl_cons, List.foldl_nil]
    rw [messageAfter_of_topic (by decide) (by decide) _ payload]
    exact h.message
  | refreshedInVain payload hs hq =>
    simp only [List.foldl_cons, List.foldl_nil]
    rw [messageAfter_of_topic (by decide) (by decide) _ payload]
    rfl
  | nothingToRefresh payload hq =>
    simp only [List.foldl_cons, List.foldl_nil]
    rw [messageAfter_of_topic (by decide) (by decide) _ payload]
    rfl

/-- Events after a dataset, none of them an error, leave no message. -/
theorem foldl_messageAfter_none {events : List Event}
    (h : ∀ text, (⟨Topic.queryError, .error text⟩ : Event) ∉ events) :
    events.foldl messageAfter none = none := by
  induction events with
  | nil => rfl
  | cons event rest ih =>
    have hevent : messageAfter none event = none := by
      obtain ⟨topic, payload⟩ := event
      cases payload with
      | error text =>
        by_cases ht : topic = Topic.queryError
        · exact absurd (by simp [ht]) (h text)
        · simp [messageAfter, ht]
      | dataset dataset => simp [messageAfter]
      | _ => rfl
    rw [List.foldl_cons, hevent]
    exact ih fun text hm => h text (List.mem_cons_of_mem _ hm)

end Desk

namespace Console

open QueryDesk.Desk (Heard Settles messageAfter)

variable {c : Console}

theorem prepare_message (c : Console) (s : Step) :
    (c.prepare s).desk.grid.error = c.desk.grid.error := by
  cases s with
  | copyExport => rw [prepare_copyExport]
  | scroll action =>
    change (c.desk.grid.update action).error = c.desk.grid.error
    unfold Grid.update
    split
    · split <;> rfl
    all_goals rfl
  | _ => rfl

/-- What a step completes is put at the end of the journal, and decides on the message. -/
theorem step_message (c : Console) (s : Step) :
    ∃ completed, (c.step s).journal = c.journal ++ completed ∧
      (c.step s).desk.grid.error = completed.foldl messageAfter c.desk.grid.error := by
  have hp := prepare_message c s
  obtain ⟨-, he⟩ | ⟨event, d', opened, closed, -, hs, he⟩ := step_cases c s
  · refine ⟨[], ?_, ?_⟩
    · rw [he, prepare_journal, List.append_nil]
    · rw [he]
      exact hp
  · refine ⟨closed, by rw [he], ?_⟩
    rw [he, ← hp]
    exact hs.message

/-- How a query ends: with a dataset that everything is drawn from, or with a message in the grid.
The later events are those that end after the answer. -/
inductive Ends (c : Console) (query : String) (later : List Event) : Console → Prop
  | shown {dataset : Dataset}
      (h : c.desk.source.load c.desk.files c.desk.now query = .ok dataset) :
      Ends c query later { c with
        desk := c.desk.receive dataset
        journal := c.journal ++ ⟨Topic.queryDataset, .dataset dataset⟩ :: later }
  | refused {error : LoadError}
      (h : c.desk.source.load c.desk.files c.desk.now query = .error error) :
      Ends c query later { c with
        desk := { c.desk with grid := c.desk.grid.fail error.message }
        journal := c.journal ++ ⟨Topic.queryError, .error error.message⟩ :: later }

theorem execute_ends (hr : c.Ready) (query : String) :
    Ends c query [⟨Topic.queryExecute, .query query⟩]
      (c.publish Topic.queryExecute (.query query)) := by
  cases hload : c.desk.source.load c.desk.files c.desk.now query with
  | ok dataset =>
    obtain ⟨hanswer, hheard⟩ := Desk.heard_of_ok hload c.sourced
    rw [publish_of_settles (.answered hr.sourced hheard), hanswer]
    exact .shown hload
  | error error =>
    obtain ⟨hanswer, hheard⟩ := Desk.heard_of_error hload c.sourced
    rw [publish_of_settles (.answered hr.sourced hheard), hanswer, Desk.refuse_of_still hr.still]
    exact .refused hload

theorem refresh_of_settles {d' : Desk} {opened closed : List Event}
    (h : Settles c.sourced (c.prepare .refresh).desk ⟨Topic.gridRefresh, .empty⟩ d' opened closed) :
    c.refresh = { c with desk := d', journal := c.journal ++ closed } :=
  publish_of_settles (c := c.prepare .refresh) h

/-- A refresh runs the query of the grid and ends as that query does. -/
theorem refresh_ends_as_query (hr : c.Ready) {query : String}
    (hq : c.desk.grid.query = some query) :
    Ends c query [⟨Topic.queryExecute, .query query⟩, ⟨Topic.gridRefresh, .empty⟩] c.refresh := by
  -- the spinner that the refresh starts makes no difference to the answer, which stops it
  let spun := (c.prepare .refresh).desk
  cases hload : c.desk.source.load c.desk.files c.desk.now query with
  | ok dataset =>
    obtain ⟨hanswer, hheard⟩ := Desk.heard_of_ok (d := spun) hload c.sourced
    rw [refresh_of_settles (.refreshed (d := spun) .empty hr.sourced hq hheard), hanswer]
    exact .shown hload
  | error error =>
    obtain ⟨hanswer, hheard⟩ := Desk.heard_of_error (d := spun) hload c.sourced
    have hrest : spun.refuse error.message = c.desk.refuse error.message := rfl
    rw [refresh_of_settles (.refreshed (d := spun) .empty hr.sourced hq hheard), hanswer, hrest,
      Desk.refuse_of_still hr.still]
    exact .refused hload

/-- Without a query there is nothing to refresh, and that is what the grid says. -/
theorem refresh_of_no_query (hr : c.Ready) (hq : c.desk.grid.query = none) :
    c.refresh = { c with
      desk := { c.desk with grid := c.desk.grid.fail Desk.nothingToRefresh }
      journal := c.journal ++ [Desk.noQuery, ⟨Topic.gridRefresh, .empty⟩] } := by
  have hrest : (c.prepare .refresh).desk.refuse Desk.nothingToRefresh =
      c.desk.refuse Desk.nothingToRefresh := rfl
  rw [refresh_of_settles (.nothingToRefresh .empty hq), hrest, Desk.refuse_of_still hr.still]

/-- The console after a query that has failed with a message. -/
def refused (c : Console) (message : String) (completed : List Event) : Console :=
  { c with
    desk := { c.desk with grid := c.desk.grid.fail message }
    journal := c.journal ++ completed }

/-- An ending with an error among its events is a refusal with that error. -/
theorem Ends.eq_refused {c after : Console} {query message : String} {later completed : List Event}
    (h : Ends c query later after) (hj : after.journal = c.journal ++ completed)
    (he : ⟨Topic.queryError, .error message⟩ ∈ completed)
    (hlater : ⟨Topic.queryError, .error message⟩ ∉ later) :
    after = c.refused message completed := by
  cases h with
  | @shown dataset hload =>
    rw [← List.append_cancel_left hj] at he
    rcases List.mem_cons.1 he with he | he
    · exact absurd (Event.mk.inj he).1 (by decide)
    · exact absurd he hlater
  | @refused error hload =>
    have hcompleted := List.append_cancel_left hj
    rw [← hcompleted] at he
    rcases List.mem_cons.1 he with he | he
    · obtain rfl : message = error.message := Payload.error.inj (Event.mk.inj he).2
      rw [Console.refused, hcompleted]
    · exact absurd he hlater

theorem refresh_eq_refused (hr : c.Ready) {message : String} {completed : List Event}
    (hj : c.refresh.journal = c.journal ++ completed)
    (he : ⟨Topic.queryError, .error message⟩ ∈ completed) :
    c.refresh = c.refused message completed := by
  cases hq : c.desk.grid.query with
  | some query => exact (refresh_ends_as_query hr hq).eq_refused hj he (by simp [Topic.gridRefresh])
  | none =>
    have hrefresh := refresh_of_no_query hr hq
    rw [hrefresh] at hj
    have hcompleted := List.append_cancel_left hj
    rw [← hcompleted] at he ⊢
    have hmessage : message = Desk.nothingToRefresh := by
      simpa [Desk.noQuery, Topic.gridRefresh] using he
    rw [hrefresh, hmessage, refused]

end Console

namespace App

open Console (lastQuery?)

variable {app : App}

theorem update_eq_refused (hr : app.console.Ready) {action : Action}
    (ha : action = .executeQuery ∨ action = .refreshQuery) {message : String}
    {completed : List Event}
    (hj : (app.update action).console.journal = app.console.journal ++ completed)
    (he : ⟨Topic.queryError, .error message⟩ ∈ completed) :
    app.update action = { app with console := app.console.refused message completed } := by
  rcases ha with rfl | rfl
  · have hends := Console.execute_ends hr app.editor.text
    have hrefused := hends.eq_refused hj he (by simp)
    rw [update, publish, hrefused]
  · have hrefused := Console.refresh_eq_refused hr hj he
    rw [update, onConsole, hrefused]

/-- Ready consoles stay so through actions and inputs. -/
theorem update_ready (hr : app.console.Ready) (action : Action) :
    (app.update action).console.Ready := by
  rw [update_console]
  cases app.stepOf? action with
  | none => exact hr
  | some s => exact hr.step s

theorem run_ready (hr : app.console.Ready) (inputs : List Input) :
    (app.run inputs).console.Ready :=
  run_console inputs hr fun _ _ _ s _ hr => hr.step s

/-- The message in the grid after a run is read off the events that the run has completed. -/
theorem run_message (app : App) (inputs : List Input) :
    ∃ completed, (app.run inputs).console.journal = app.console.journal ++ completed ∧
      (app.run inputs).console.desk.grid.error =
        completed.foldl Desk.messageAfter app.console.desk.grid.error := by
  refine run_console (P := fun c => ∃ completed, c.journal = app.console.journal ++ completed ∧
    c.desk.grid.error = completed.foldl Desk.messageAfter app.console.desk.grid.error) inputs
    ⟨[], (List.append_nil _).symm, rfl⟩ ?_
  rintro reached input - s - ⟨completed, hjournal, hmessage⟩
  obtain ⟨more, hmore, hafter⟩ := Console.step_message reached.console s
  refine ⟨completed ++ more, ?_, ?_⟩
  · rw [hmore, hjournal, List.append_assoc]
  · rw [hafter, hmessage, List.foldl_append]

/-- A query, new or run again, that ends in an error on an application that any inputs have led to:
the message in the grid is all that changes beside the journal. Whatever comes afterwards, a refresh
runs the query of the last dataset, which the failure has left as it was, and a dataset that no
further error follows takes the message away. -/
theorem failed_query_changes_message_only (link : ExportLink) (cell : Nat) (store : Option Store)
    (source : Source) (files : Disk) (now : Clock) (inputs : List Input) :
    let app := (start link cell store source files now).run inputs
    ∀ action, action = .executeQuery ∨ action = .refreshQuery →
    ∀ completed message,
      (app.update action).console.journal = app.console.journal ++ completed →
      ⟨Topic.queryError, .error message⟩ ∈ completed →
      let failed := app.update action
      failed = { app with
        console := { app.console with
          desk := { app.console.desk with
            grid := { app.console.desk.grid with error := some message } }
          journal := app.console.journal ++ completed } } ∧
      lastQuery? failed.console.journal = lastQuery? app.console.journal ∧
      ∀ more : List Input,
        let later := failed.run more
        (∀ query, lastQuery? later.console.journal = some query →
          ∃ answer, Desk.Answers query answer ∧
            (later.update .refreshQuery).console.journal = later.console.journal ++
              [answer, ⟨Topic.queryExecute, .query query⟩, ⟨Topic.gridRefresh, .empty⟩]) ∧
        ∀ before dataset after,
          later.console.journal =
            failed.console.journal ++ (before ++ ⟨Topic.queryDataset, .dataset dataset⟩ :: after) →
          (∀ text, ⟨Topic.queryError, .error text⟩ ∉ after) →
          later.console.desk.grid.error = none := by
  intro app action ha completed message hj he failed
  have hr : app.console.Ready := console_ready link cell store source files now inputs
  have hfailed : failed = { app with console := app.console.refused message completed } :=
    update_eq_refused hr ha hj he
  have hready : failed.console.Ready := update_ready hr action
  refine ⟨hfailed, ?_, fun more => ⟨fun query hquery => ?_,
    fun before dataset after hlater hno => ?_⟩⟩
  · rw [← hready.query, ← hr.query, hfailed]
    rfl
  · have hlater : (failed.run more).console.Ready := run_ready hready more
    rw [← hlater.query] at hquery
    refine ⟨_, Desk.answer_answers (failed.run more).console.desk query, ?_⟩
    have hends := (Console.refresh_ends hlater.sourced).1
    rw [Console.refreshTrace, hquery] at hends
    exact hends
  · obtain ⟨events, hevents, hmessage⟩ := run_message failed more
    obtain rfl := List.append_cancel_left (hevents.symm.trans hlater)
    rw [hmessage, List.foldl_append, List.foldl_cons]
    exact Desk.foldl_messageAfter_none hno

/-- A query on the built-in table, and then no text in the editor any more. -/
def erased : List Input :=
  .key ⟨.function 5, false, false, false⟩ ::
    List.replicate 20 (.key ⟨.backspace, false, false, false⟩)

/-- The blank query fails; the refresh after it runs the first query. -/
theorem blank_query_keeps_last :
    let app := (start ⟨[]⟩ 16 none .sample .empty ⟨0, 0, 0⟩).run erased
    let completed := [⟨Topic.queryError, .error "query is empty"⟩, ⟨Topic.queryExecute, .query ""⟩]
    (app.update .executeQuery).console.journal = app.console.journal ++ completed ∧
    ∃ answer, Desk.Answers "select * from trades" answer ∧
      ((app.update .executeQuery).update .refreshQuery).console.journal =
        (app.update .executeQuery).console.journal ++
          [answer, ⟨Topic.queryExecute, .query "select * from trades"⟩,
            ⟨Topic.gridRefresh, .empty⟩] := by
  intro app completed
  have hj : (app.update .executeQuery).console.journal = app.console.journal ++ completed := by
    rfl
  obtain ⟨-, hlast, hmore⟩ := failed_query_changes_message_only ⟨[]⟩ 16 none .sample .empty
    ⟨0, 0, 0⟩ erased .executeQuery (.inl rfl) completed "query is empty" hj (by simp [completed])
  exact ⟨hj, (hmore []).1 _ (hlast.trans rfl)⟩

end App
end QueryDesk
