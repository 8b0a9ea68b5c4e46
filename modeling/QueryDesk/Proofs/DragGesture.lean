import Mathlib.Tactic.SplitIfs
import QueryDesk.Proofs.AppRun
import QueryDesk.Proofs.Past

/-!
# Drag gestures

The splitter is dragged from a press of the left button on its handle to the release. Press and
release are mouse events, and the console takes those only while it is in front and has a layout. A
release that comes while it does not is lost: the drag stays open, and the next drag with the button
moves the splitter wherever its press was. This is the only way in which a drag outlives the button.
-/
namespace QueryDesk

open QueryDesk.Preferences (Store)
open QueryDesk.Files (Disk)
open QueryDesk.Layout (ConsoleLayout)

namespace Console

theorem step_splitter (c : Console) (s : Step) : (c.step s).splitter = (c.prepare s).splitter := by
  obtain ⟨-, he⟩ | ⟨_, _, _, _, -, -, he⟩ := step_cases c s <;> rw [he]

theorem move_dragging (s : Splitter) (row : Nat) : (s.move row).1.drag.isSome = s.drag.isSome := by
  unfold Splitter.move
  split
  · rfl
  · rename_i drag hdrag
    split <;> simp [hdrag]

/-- Only a press opens a drag and only a release ends it. -/
theorem step_dragging (c : Console) (s : Step) :
    (c.step s).splitter.drag.isSome =
      match s with
      | .press .. => true
      | .release => false
      | _ => c.splitter.drag.isSome := by
  rw [step_splitter]
  cases s with
  | move row => exact move_dragging c.splitter row
  | copyExport => rw [prepare_copyExport]
  | _ => rfl

end Console

namespace App

variable {app : App}

theorem update_dragging (app : App) (action : Action) :
    (app.update action).dragging =
      match action with
      | .splitterDragStart _ => app.layout.isSome || app.dragging
      | .splitterDragEnd => false
      | _ => app.dragging := by
  have hstep (s : Console.Step) := Console.step_dragging app.console s
  have hconsole := update_console app action
  unfold dragging
  rw [hconsole]
  cases action with
  | growEditor | shrinkEditor | splitterDragStart =>
    simp only [stepOf?]
    cases app.layout <;> simp [hstep]
  | scrollUp | scrollDown | pageUp | pageDown =>
    simp only [stepOf?]
    split <;> simp [hstep]
  | _ => simp [stepOf?, hstep]

/-- An action, if there is one, that neither opens nor ends a drag. -/
def Apart (action : Option Action) : Prop :=
  (∀ row, action ≠ some (.splitterDragStart row)) ∧ action ≠ some .splitterDragEnd

theorem apart_none : Apart none := ⟨nofun, nofun⟩

theorem Apart.perform {action : Option Action} (h : Apart action) (app : App) :
    (app.perform action).dragging = app.dragging := by
  cases action with
  | none => rfl
  | some action =>
    rw [App.perform, update_dragging]
    split
    · exact absurd rfl (h.1 _)
    · exact absurd rfl h.2
    · rfl

theorem apart_globalAction? (key : Key) : Apart (globalAction? key) := by
  unfold globalAction?
  split <;> simp [Apart]

theorem apart_editorAction? (key : Key) : Apart (Editor.action? key) := by
  unfold Editor.action?
  split
  · exact ⟨nofun, nofun⟩
  · cases key.code <;> exact ⟨nofun, nofun⟩

theorem apart_consoleAction? (key : Key) : Apart (consoleAction? key) := by
  unfold consoleAction?
  split <;> first | exact apart_editorAction? key | simp [Apart]

/-- No key opens or ends a drag. -/
theorem apart_keyAction? (app : App) (key : Key) : Apart (app.keyAction? key) := by
  have hhelp : Apart (Help.action? key) := by
    unfold Help.action?
    split <;> simp [Apart]
  have hglobal := apart_globalAction? key
  unfold keyAction?
  split
  · rename_i action haction
    exact haction ▸ hglobal
  · split
    · exact hhelp
    · exact apart_consoleAction? key

namespace Input

/-- The left button goes down. -/
def pressesLeft : Input → Bool
  | .mouse ⟨.down .left, _, _⟩ => true
  | _ => false

/-- The left button goes up. -/
def releasesLeft : Input → Bool
  | .mouse ⟨.up .left, _, _⟩ => true
  | _ => false

/-- Whether an input can come with the left button held or not: it goes down only when it is up, and
is dragged and goes up only when it is down. -/
def fits (held : Bool) : Input → Bool
  | .mouse ⟨.down .left, _, _⟩ => !held
  | .mouse ⟨.drag .left, _, _⟩ => held
  | .mouse ⟨.up .left, _, _⟩ => held
  | _ => true

/-- Whether the left button is held after an input. -/
def holds (held : Bool) (input : Input) : Bool :=
  input.pressesLeft || held && !input.releasesLeft

end Input

/-- Whether the left button is held after inputs, if each of them can come when it does. -/
def leftButton? (held : Bool) : List Input → Option Bool
  | [] => some held
  | input :: rest => if input.fits held then leftButton? (input.holds held) rest else none

/-- Whether mouse events reach the console: it is in front and has been drawn. -/
def takesMouse (app : App) : Bool := decide (app.panel = .console) && app.layout.isSome

namespace Moment

def pressesLeft (m : Moment) : Bool := m.2.pressesLeft

/-- The left button goes down on the handle of the layout that was drawn last. -/
def hitsHandle (m : Moment) : Bool :=
  match m.2 with
  | .mouse ⟨.down .left, column, row⟩ =>
      m.1.takesMouse && m.1.layout.any (·.splitter.hit column row)
  | _ => false

/-- A release that reaches the console. -/
def endsDrag (m : Moment) : Bool := m.2.releasesLeft && m.1.takesMouse

/-- A release, in the middle of a drag, that does not reach the console. -/
def losesRelease (m : Moment) : Bool := m.2.releasesLeft && !m.1.takesMouse && m.1.dragging

end Moment

theorem takesMouse_iff :
    app.takesMouse = true ↔ app.panel = .console ∧ ∃ layout, app.layout = some layout := by
  simp [takesMouse, Option.isSome_iff_exists]

theorem mouseAction?_of_not_taken (h : app.takesMouse = false) (mouse : Mouse) :
    app.mouseAction? mouse = none := by
  unfold mouseAction?
  split
  · simp_all [takesMouse]
  · rfl

theorem apart_pressAction? {layout : ConsoleLayout} {column row : Nat}
    (h : layout.splitter.hit column row = false) : Apart (pressAction? layout column row) := by
  unfold pressAction?
  dsimp only
  rw [if_neg (by rw [h]; exact Bool.false_ne_true)]
  split_ifs <;> simp [Apart]

/-- What a press of the left button on a drawn console does to a drag. -/
theorem press_dragging {layout : ConsoleLayout} (hl : app.layout = some layout)
    (column row : Nat) :
    (app.perform (pressAction? layout column row)).dragging =
      (layout.splitter.hit column row || app.dragging) := by
  cases hhit : layout.splitter.hit column row with
  | false => exact (apart_pressAction? hhit).perform app
  | true =>
    have haction : pressAction? layout column row = some (.splitterDragStart row) := if_pos hhit
    rw [haction, perform, update_dragging, hl]
    rfl

/-- A mouse event opens a drag by a press on the handle and ends one by a release that arrives. -/
theorem mouse_dragging (app : App) (mouse : Mouse) :
    (app.perform (app.mouseAction? mouse)).dragging =
      (Moment.hitsHandle (app, .mouse mouse) ||
        app.dragging && !Moment.endsDrag (app, .mouse mouse)) := by
  cases htaken : app.takesMouse with
  | false =>
    have hhit : Moment.hitsHandle (app, .mouse mouse) = false := by
      unfold Moment.hitsHandle
      split <;> simp_all
    rw [mouseAction?_of_not_taken htaken, hhit, Moment.endsDrag, htaken]
    simp [perform]
  | true =>
    obtain ⟨hpanel, layout, hlayout⟩ := takesMouse_iff.1 htaken
    obtain ⟨kind, column, row⟩ := mouse
    have hother (action : Option Action) (h : Apart action) :
        (app.perform action).dragging = (false || app.dragging && !false) := by
      simpa using h.perform app
    simp only [mouseAction?, hpanel, hlayout, Moment.endsDrag, htaken, Bool.and_true]
    cases kind with
    | down button =>
      cases button with
      | left =>
        have hpress := press_dragging hlayout column row
        simpa [Moment.hitsHandle, Input.releasesLeft, htaken, hlayout] using hpress
      | _ => exact hother none apart_none
    | up button =>
      cases button with
      | left =>
        cases hdrag : app.dragging with
        | true =>
          simp only [if_true, perform, update_dragging]
          rfl
        | false => simp [perform, hdrag, Moment.hitsHandle]
      | _ => exact hother none apart_none
    | drag button =>
      cases button with
      | left =>
        refine hother _ ?_
        dsimp only
        split <;> simp [Apart]
      | _ => exact hother none apart_none
    | scrollUp | scrollDown =>
      refine hother _ ?_
      dsimp only
      split <;> simp [Apart]
    | _ => exact hother none apart_none

/-- What an input does to a drag. -/
theorem handle_dragging (app : App) (input : Input) :
    (app.handle input).dragging =
      (Moment.hitsHandle (app, input) || app.dragging && !Moment.endsDrag (app, input)) := by
  have hother {after : App} (h : after.dragging = app.dragging) :
      after.dragging = (false || app.dragging && !false) := by
    simpa using h
  cases input with
  | key key => exact hother ((apart_keyAction? app key).perform app)
  | mouse mouse => exact mouse_dragging app mouse
  | paste | resize | tick => exact hother (update_dragging app _)
  | draw screen area =>
    refine hother ?_
    unfold dragging
    rw [handle, draw_console]
  | shutdown =>
    refine hother ?_
    unfold dragging
    rw [handle, shutdown, publish, Console.publish_preferencesSave]
  | files | clock => exact hother rfl

theorem leftButton?_append (held : Bool) (inputs more : List Input) :
    leftButton? held (inputs ++ more) =
      (leftButton? held inputs).bind fun now => leftButton? now more := by
  induction inputs generalizing held with
  | nil => rfl
  | cons input rest ih =>
    simp only [List.cons_append, leftButton?, ih]
    split <;> rfl

/-- A drag is in progress if the button is held after a press on the handle, or if a release was
lost and none has arrived since. -/
def Explains (held : Bool) (past : List Moment) (app : App) : Prop :=
  app.dragging = true ↔
    held = true ∧ Lasting Moment.hitsHandle Moment.pressesLeft past ∨
      Lasting Moment.losesRelease Moment.endsDrag past

theorem hits_presses {input : Input} (h : input.pressesLeft = false) :
    Moment.hitsHandle (app, input) = false := by
  unfold Moment.hitsHandle
  split
  · rename_i hpress
    dsimp only at hpress
    simp [Input.pressesLeft, hpress] at h
  · rfl

theorem fits_press {held : Bool} {input : Input} (h : input.pressesLeft = true)
    (hf : input.fits held = true) : held = false ∧ input.releasesLeft = false := by
  unfold Input.pressesLeft at h
  split at h
  · exact ⟨by simpa [Input.fits] using hf, rfl⟩
  · cases h

theorem fits_release {held : Bool} {input : Input} (h : input.releasesLeft = true)
    (hf : input.fits held = true) : held = true := by
  unfold Input.releasesLeft at h
  split at h
  · exact hf
  · cases h

/-- An input that can come leaves a drag that is explained. -/
theorem Explains.handle {held : Bool} {past : List Moment} (h : Explains held past app)
    {input : Input} (hf : input.fits held = true) :
    Explains (input.holds held) (past ++ [(app, input)]) (app.handle input) := by
  unfold Explains at h ⊢
  rw [handle_dragging, lasting_concat, lasting_concat]
  cases hp : input.pressesLeft with
  | true =>
    obtain ⟨rfl, hr⟩ := fits_press hp hf
    simp only [Bool.false_eq_true, false_and, false_or] at h
    simp [Input.holds, Moment.pressesLeft, Moment.losesRelease, Moment.endsDrag, hp, hr, h]
  | false =>
    have hhit : Moment.hitsHandle (app, input) = false := hits_presses hp
    cases hr : input.releasesLeft with
    | false =>
      simp [Input.holds, Moment.pressesLeft, Moment.losesRelease, Moment.endsDrag, hp, hr, hhit, h]
    | true =>
      obtain rfl := fits_release hr hf
      cases htaken : app.takesMouse with
      | true =>
        simp [Input.holds, Moment.losesRelease, Moment.endsDrag, hp, hr, hhit, htaken]
      | false =>
        -- the drag goes on: whatever explained it before, this release is the lost one
        simp only [Input.holds, Moment.losesRelease, Moment.endsDrag, hp, hr, hhit, htaken,
          Bool.false_or, Bool.and_false, Bool.not_false, Bool.and_true, Bool.true_and,
          Bool.not_true, Bool.false_eq_true, false_and, false_or, true_and]
        exact ⟨.inl, fun hlost => hlost.elim id fun hlost => h.2 (.inr hlost)⟩

theorem Explains.run {held now : Bool} {past : List Moment} {inputs : List Input}
    (h : Explains held past app) (hn : leftButton? held inputs = some now) :
    Explains now (past ++ app.moments inputs) (app.run inputs) := by
  induction inputs generalizing held past app with
  | nil =>
    obtain rfl := Option.some.inj hn
    rwa [moments, List.append_nil]
  | cons input rest ih =>
    rw [leftButton?] at hn
    split at hn
    · rename_i hf
      have hrest := ih (h.handle hf) hn
      rwa [List.append_assoc] at hrest
    · cases hn

/-- A drag of the left button is one of the splitter if it reaches the console while a drag is on. -/
theorem drag_action_iff (app : App) (column row : Nat) :
    app.mouseAction? ⟨.drag .left, column, row⟩ = some (.splitterDrag row) ↔
      app.takesMouse = true ∧ app.dragging = true := by
  cases htaken : app.takesMouse with
  | false => simp [mouseAction?_of_not_taken htaken]
  | true =>
    obtain ⟨hpanel, layout, hlayout⟩ := takesMouse_iff.1 htaken
    simp [mouseAction?, hpanel, hlayout]

theorem explains_start (link : ExportLink) (cell : Nat) (store : Option Store) (source : Source)
    (files : Disk) (now : Clock) :
    Explains false [] (start link cell store source files now) := by
  have hdrag : (start link cell store source files now).dragging = false := by
    unfold dragging
    rw [start_console]
    simp only [Console.run, List.foldl_cons, List.foldl_nil, Console.step_dragging]
    rfl
  simp [Explains, hdrag, not_lasting_nil]

/-- A release that can come leaves the button up. -/
theorem leftButton?_release {held now : Bool} {before after : List Input} {input : Input}
    (h : leftButton? held (before ++ input :: after) = some now)
    (hr : input.releasesLeft = true) : leftButton? held (before ++ [input]) = some false := by
  rw [leftButton?_append] at h ⊢
  obtain ⟨reached, hreached, h⟩ := Option.bind_eq_some_iff.1 h
  rw [leftButton?] at h
  split at h
  · rename_i hf
    have hp : input.pressesLeft = false := by
      rw [Bool.eq_false_iff]
      intro hp
      exact Bool.false_ne_true ((fits_press hp hf).2.symm.trans hr)
    simp [hreached, leftButton?, hf, Input.holds, hp, hr]
  · cases h

/-- A drag goes on through a release that is lost. -/
theorem dragging_of_lost {m : Moment} (h : m.losesRelease = true) :
    m.2.releasesLeft = true ∧ (m.1.handle m.2).dragging = true := by
  simp only [Moment.losesRelease, Bool.and_eq_true, Bool.not_eq_true'] at h
  obtain ⟨⟨hr, htaken⟩, hdragging⟩ := h
  refine ⟨hr, ?_⟩
  rw [handle_dragging, hdragging, Moment.endsDrag, htaken]
  simp

/-- In a run whose mouse events can come, with the button held, a drag moves the splitter exactly if
it reaches the console and the last press was on the handle or a release was lost before; with the
button up, a drag is in progress exactly if a release was lost and none has arrived since. So the
splitter never outlives the button along a run if and only if no release is lost in it. -/
theorem drag_outlives_button_iff (link : ExportLink) (cell : Nat) (store : Option Store)
    (source : Source) (files : Disk) (now : Clock) {inputs : List Input} {held : Bool}
    (hn : leftButton? false inputs = some held) :
    let started := start link cell store source files now
    let app := started.run inputs
    let past := started.moments inputs
    let lost := Lasting Moment.losesRelease Moment.endsDrag past
    (held = true → ∀ column row,
      app.mouseAction? ⟨.drag .left, column, row⟩ = some (.splitterDrag row) ↔
        app.takesMouse = true ∧ (Lasting Moment.hitsHandle Moment.pressesLeft past ∨ lost)) ∧
    (held = false → (app.dragging = true ↔ lost)) ∧
    ((∀ before after, inputs = before ++ after → leftButton? false before = some false →
        (started.run before).dragging = false) ↔
      ∀ m ∈ past, m.losesRelease = false) := by
  intro started app past lost
  have hstart : Explains false [] started := explains_start link cell store source files now
  have hrun : Explains held past app := hstart.run hn
  unfold Explains at hrun
  refine ⟨fun hheld column row => ?_, fun hheld => ?_, fun hnever m hm => ?_,
    fun hnone before after he hup => ?_⟩
  · rw [drag_action_iff, hrun, hheld]
    simp [lost]
  · rw [hrun, hheld]
    simp [lost]
  · obtain ⟨before, after, rfl, hbefore⟩ := exists_of_mem_moments hm
    rw [Bool.eq_false_iff]
    intro hlost
    obtain ⟨hr, hdragging⟩ := dragging_of_lost hlost
    have hstill := hnever (before ++ [m.2]) after (by simp) (leftButton?_release hn hr)
    rw [run_append, ← hbefore] at hstill
    exact Bool.false_ne_true (hstill.symm.trans hdragging)
  · have hbefore : Explains false (started.moments before) (started.run before) := hstart.run hup
    unfold Explains at hbefore
    rw [Bool.eq_false_iff, Ne, hbefore]
    rintro (⟨hheld, -⟩ | ⟨front, m, rest, hm, hlost, -⟩)
    · exact Bool.false_ne_true hheld
    · have hmem : m ∈ past := by
        simp only [past, he, moments_append, hm]
        simp
      exact Bool.false_ne_true ((hnone m hmem).symm.trans hlost)

/-- A draw of all of a screen of 80 columns and 50 rows. -/
def drawAll : Input := .draw (.blank 80 50) ⟨0, 0, 80, 50⟩

/-- The handle pressed, the help brought to the front before the release and sent back after it, and
a press in the middle of the editor, with a draw wherever something else is to be seen. -/
def lostRelease : List Input :=
  [drawAll, .mouse ⟨.down .left, 40, 21⟩, .key ⟨.function 1, false, false, false⟩, drawAll,
    .mouse ⟨.up .left, 40, 21⟩, .key ⟨.function 2, false, false, false⟩, drawAll,
    .mouse ⟨.down .left, 40, 5⟩]

/-- A desk with the built-in table and no store. -/
def sampleDesk : App := start ⟨[]⟩ 16 none .sample .empty ⟨0, 0, 0⟩

theorem drag_after_lost_release :
    leftButton? false lostRelease = some true ∧
    ((sampleDesk.run lostRelease).mouseAction? ⟨.drag .left, 40, 30⟩ = some (.splitterDrag 30) ↔
      (sampleDesk.run lostRelease).takesMouse = true ∧
        (Lasting Moment.hitsHandle Moment.pressesLeft (sampleDesk.moments lostRelease) ∨
          Lasting Moment.losesRelease Moment.endsDrag (sampleDesk.moments lostRelease))) :=
  ⟨by decide, (drag_outlives_button_iff ⟨[]⟩ 16 none .sample .empty ⟨0, 0, 0⟩ (by decide)).1 rfl
    40 30⟩

/-- After the lost release the button is up and the splitter is still dragged; the drag from the
editor then moves it by nine rows. -/
theorem lost_release_moves_splitter :
    leftButton? false (lostRelease.take 5) = some false ∧
    (sampleDesk.run (lostRelease.take 5)).dragging = true ∧
    leftButton? false lostRelease = some true ∧
    ¬Lasting Moment.hitsHandle Moment.pressesLeft (sampleDesk.moments lostRelease) ∧
    (sampleDesk.run lostRelease).mouseAction? ⟨.drag .left, 40, 30⟩ = some (.splitterDrag 30) ∧
    (sampleDesk.run lostRelease).console.desk.height.pixels = 350 ∧
    (sampleDesk.run
      (lostRelease ++ [.mouse ⟨.drag .left, 40, 30⟩])).console.desk.height.pixels = 494 := by
  refine ⟨by decide, by decide, by decide, ?_, by decide, by decide, by decide⟩
  have hlast : sampleDesk.moments lostRelease = sampleDesk.moments (lostRelease.take 7) ++
      [(sampleDesk.run (lostRelease.take 7), .mouse ⟨.down .left, 40, 5⟩)] :=
    moments_append sampleDesk (lostRelease.take 7) [.mouse ⟨.down .left, 40, 5⟩]
  rw [hlast]
  exact not_lasting_concat (by decide) rfl

end App

end QueryDesk
