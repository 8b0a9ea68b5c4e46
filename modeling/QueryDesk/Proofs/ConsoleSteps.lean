import QueryDesk.Proofs.Cascade

/-!
# Steps of the console

A user or another part of the program works on the console one step at a time. Every step first
changes the console by itself and then tells the listeners at most one event, so whatever holds of
the desk through the changes of `prepare` and through every settling holds through a run.
-/
namespace QueryDesk.Console

open QueryDesk.Desk (Settles)
open QueryDesk.Files (Disk)

/-- What can be done with a console. -/
inductive Step where
  | tell (event : Event)
  | refresh
  | choose (view : ViewMode)
  | selectExport
  | copyExport
  | press (row : Nat) (container : Rect)
  | move (row : Nat)
  | release
  | nudge (rows : Int) (row : Nat) (container : Rect)
  | scroll (action : Action)
  /-- The files are changed by other hands. -/
  | files (files : Disk)
  /-- The time of day moves on. -/
  | clock (now : Clock)

def step (c : Console) : Step → Console
  | .tell event => c.publish event.topic event.payload
  | .refresh => c.refresh
  | .choose view => c.setView view
  | .selectExport => c.selectExport
  | .copyExport => c.copyExport
  | .press row container => c.pressSplitter row container
  | .move row => c.moveSplitter row
  | .release => c.releaseSplitter
  | .nudge rows row container => c.nudgeSplitter rows row container
  | .scroll action => { c with desk := { c.desk with grid := c.desk.grid.update action } }
  | .files files => { c with desk := { c.desk with files } }
  | .clock now => { c with desk := { c.desk with now } }

def run (c : Console) (steps : List Step) : Console := steps.foldl step c

/-- What a step changes before it tells anything. -/
def prepare (c : Console) : Step → Console
  | .tell _ | .nudge .. => c
  | .refresh => c.setTargets ({ · with refreshSpinning := true })
  | .move row => { c with splitter := (c.splitter.move row).1 }
  | other => c.step other

/-- The event that a step tells. -/
def telling? (c : Console) : Step → Option Event
  | .tell event => some event
  | .refresh => some ⟨Topic.gridRefresh, .empty⟩
  | .move row => (c.splitter.move row).2.map fun pixels => ⟨resizeTopic, .delta pixels⟩
  | .nudge rows row container =>
      (c.splitter.nudge rows row container).map fun pixels => ⟨resizeTopic, .delta pixels⟩
  | _ => none

/-- A copy changes the clipboard at most. -/
theorem prepare_copyExport (c : Console) :
    c.prepare .copyExport = { c with copied := c.copyExport.copied } := by
  simp only [prepare, step, copyExport]
  split <;> rfl

theorem prepare_sourced (c : Console) (s : Step) : (c.prepare s).sourced = c.sourced := by
  cases s with
  | copyExport => rw [prepare_copyExport]
  | _ => rfl

theorem prepare_journal (c : Console) (s : Step) : (c.prepare s).journal = c.journal := by
  cases s with
  | copyExport => rw [prepare_copyExport]
  | _ => rfl

/-- A step is its own change and then the telling of its event. -/
theorem step_eq (c : Console) (s : Step) :
    c.step s =
      match c.telling? s with
      | some event => (c.prepare s).publish event.topic event.payload
      | none => c.prepare s := by
  cases s with
  | move row =>
    simp only [step, moveSplitter, telling?, prepare, report]
    cases (c.splitter.move row).2 <;> rfl
  | nudge rows row container =>
    simp only [step, nudgeSplitter, telling?, prepare, report]
    cases c.splitter.nudge rows row container <;> rfl
  | _ => rfl

/-- Either nothing is told, or an event settles after the step's own change. -/
theorem step_cases (c : Console) (s : Step) :
    c.telling? s = none ∧ c.step s = c.prepare s ∨
      ∃ event d' opened closed, c.telling? s = some event ∧
        Settles c.sourced (c.prepare s).desk event d' opened closed ∧
        c.step s = { c.prepare s with desk := d', journal := c.journal ++ closed } := by
  rw [step_eq]
  cases htell : c.telling? s with
  | none => exact .inl ⟨rfl, rfl⟩
  | some event =>
    obtain ⟨d', opened, closed, hs⟩ := Desk.exists_settles c.sourced (c.prepare s).desk event
    refine .inr ⟨event, d', opened, closed, rfl, hs, ?_⟩
    have hp := prepare_sourced c s
    rw [← hp] at hs
    have he : (c.prepare s).publish event.topic event.payload =
        { c.prepare s with desk := d', journal := (c.prepare s).journal ++ closed } :=
      publish_of_settles hs
    simp only [he, prepare_journal]

theorem step_sourced (c : Console) (s : Step) : (c.step s).sourced = c.sourced := by
  obtain ⟨-, he⟩ | ⟨_, _, _, _, -, -, he⟩ := step_cases c s <;> rw [he] <;>
    exact prepare_sourced c s

/-- A property of the desk passes through a step if its own change and every settling keep it. -/
theorem step_desk {P : Desk → Prop} {c : Console} {s : Step} (hprepare : P (c.prepare s).desk)
    (hsettles : ∀ {d d' : Desk} {event : Event} {opened closed : List Event},
      Settles c.sourced d event d' opened closed → P d → P d') :
    P (c.step s).desk := by
  obtain ⟨-, he⟩ | ⟨_, _, _, _, -, hs, he⟩ := step_cases c s
  · rwa [he]
  · rw [he]
    exact hsettles hs hprepare

end QueryDesk.Console
