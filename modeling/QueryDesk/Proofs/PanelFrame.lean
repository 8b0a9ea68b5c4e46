import QueryDesk.Proofs.Coherence

/-!
# The panel in front takes the input

While the help is in front, no input but the return to the console reaches the editor or the
console: the keys are those of the help, the mouse is not heard, pasted text goes nowhere, and what
a new size or the help's own announcement has the desk do is done already. While the console is in
front, nothing scrolls the help.
-/
namespace QueryDesk

namespace Desk

variable {d : Desk}

/-- A desk that shows its height already does not change when it is laid out again. -/
theorem Coherent.applyHeight_eq (h : Coherent d) : d.applyHeight = d := by
  show { d with targets := { d.targets with editorBasis := d.height.pixels } } = d
  rw [← h.basis]

theorem showPanel_of_hidden (hvisible : d.visible = false) (hshown : d.targets.panelShown = false)
    {name : String} (hname : name ≠ panelName) : d.showPanel name = d := by
  have hdecide : decide (name = panelName) = false := decide_eq_false hname
  calc d.showPanel name
      = { d with visible := false, targets := { d.targets with panelShown := false } } := by
        simp only [showPanel, hdecide]
    _ = { d with
          visible := d.visible
          targets := { d.targets with panelShown := d.targets.panelShown } } := by
        rw [hvisible, hshown]
    _ = d := rfl

theorem eq_at_time {after : Desk} (h : after = d) : after = { d with now := after.now } := by
  rw [h]

end Desk

namespace App

variable {app : App} {link : ExportLink} {past : List Moment}

/-- What the editor and the console hold is the same before and after; only the time may have passed
and what the console has announced may have grown. -/
structure Untouched (app after : App) : Prop where
  editor : after.editor = app.editor
  desk : after.console.desk = { app.console.desk with now := after.console.desk.now }
  splitter : after.console.splitter = app.console.splitter
  copied : after.console.copied = app.console.copied

theorem Untouched.refl (app : App) : Untouched app app := ⟨rfl, rfl, rfl, rfl⟩

theorem Untouched.trans {middle after : App} (h : Untouched app middle)
    (h' : Untouched middle after) : Untouched app after where
  editor := h'.editor.trans h.editor
  desk := by rw [h'.desk, h.desk]
  splitter := h'.splitter.trans h.splitter
  copied := h'.copied.trans h.copied

/-- The inputs while the program runs by itself: all but the end and what other hands do to the
files. -/
def Input.undisturbed : Input → Bool
  | .shutdown | .files _ => false
  | _ => true

/-- The actions that an input can ask for while the help is in front, the return to the console
apart. -/
def asideActions (action : Action) : Bool :=
  match action with
  | .tick | .quit | .showHelp | .scrollUp | .scrollDown | .pageUp | .pageDown => true
  | .resize .. | .editorPaste _ => true
  | _ => false

theorem aside_of_key {key : Key} (hpanel : app.panel = .help) {action : Action}
    (ha : app.keyAction? key = some action) (hc : action ≠ .showConsole) :
    asideActions action = true := by
  unfold keyAction? at ha
  cases hg : globalAction? key with
  | some asked =>
    rw [hg] at ha
    obtain rfl := Option.some.inj ha
    unfold globalAction? at hg
    split at hg <;> cases hg <;> first | rfl | exact absurd rfl hc
  | none =>
    rw [hg, hpanel] at ha
    change Help.action? key = some action at ha
    unfold Help.action? at ha
    split at ha <;> cases ha <;> first | rfl | exact absurd rfl hc

/-- Under the help an input asks for the return to the console, or for nothing that concerns it. -/
theorem aside_of_input {input : Input} (hpanel : app.panel = .help) {action : Action}
    (ha : app.action? input = some action) (hc : action ≠ .showConsole) :
    asideActions action = true := by
  cases input with
  | key key => exact aside_of_key hpanel ha hc
  | mouse mouse =>
    change app.mouseAction? mouse = some action at ha
    unfold mouseAction? at ha
    rw [hpanel] at ha
    cases ha
  | paste | resize | tick =>
    obtain rfl := Option.some.inj ha
    rfl
  | _ => cases ha

theorem Coherent.hidden (h : Coherent link past app) (hpanel : app.panel = .help) :
    app.console.desk.visible = false := by
  by_cases hv : app.console.desk.visible = true
  · have hfront := h.front.2 hv
    rw [hpanel] at hfront
    cases hfront
  · exact Bool.eq_false_iff.2 hv

/-- The help announces itself, which changes nothing once it is in front. -/
theorem untouched_showHelp (h : Coherent link past app) (hpanel : app.panel = .help) :
    Untouched app (app.update .showHelp) := by
  have hvisible := h.hidden hpanel
  have hshown : app.console.desk.targets.panelShown = false := h.shown.trans hvisible
  have hname : Panel.help.name ≠ Desk.panelName := by decide
  have hconsole : (app.update .showHelp).console =
      app.console.publish Topic.panelActive (.panel Panel.help.name) := rfl
  rw [Console.publish_panelActive] at hconsole
  constructor
  · rfl
  · rw [hconsole]
    exact Desk.eq_at_time (Desk.showPanel_of_hidden hvisible hshown hname)
  · rw [hconsole]
  · rw [hconsole]

theorem untouched_resize (h : Coherent link past app) (width height : Nat) :
    Untouched app (app.update (.resize width height)) := by
  have hconsole : (app.update (.resize width height)).console =
      app.console.publish Topic.windowResize (.area (.ofTerminal width height)) := rfl
  rw [Console.publish_windowResize] at hconsole
  constructor
  · rfl
  · rw [hconsole]
    exact Desk.eq_at_time h.desk.applyHeight_eq
  · rw [hconsole]
  · rw [hconsole]

theorem untouched_update (h : Coherent link past app) (hpanel : app.panel = .help)
    {action : Action} (ha : asideActions action = true) : Untouched app (app.update action) := by
  have hscroll (action : Action) : Untouched app (app.scroll action) := by
    unfold scroll
    rw [hpanel]
    exact ⟨rfl, rfl, rfl, rfl⟩
  cases action with
  | tick | quit => exact ⟨rfl, rfl, rfl, rfl⟩
  | showHelp => exact untouched_showHelp h hpanel
  | resize width height => exact untouched_resize h width height
  | scrollUp | scrollDown | pageUp | pageDown => exact hscroll _
  | editorPaste text =>
    show Untouched app (app.edit (.editorPaste text))
    unfold edit
    rw [hpanel]
    exact Untouched.refl app
  | _ => cases ha

theorem untouched_draw (h : Coherent link past app) (hpanel : app.panel = .help)
    (screen : Screen) (area : Rect) : Untouched app (app.draw screen area).1 := by
  have hshown : app.console.desk.targets.panelShown = false := h.shown.trans (h.hidden hpanel)
  dsimp only [draw]
  rw [hshown]
  exact ⟨rfl, rfl, rfl, rfl⟩

theorem panel_of_aside {action : Action} (hpanel : app.panel = .help)
    (ha : asideActions action = true) : (app.update action).panel = .help := by
  by_cases hh : action = .showHelp
  · rw [hh]
    rfl
  · have hc : action ≠ .showConsole := by
      rintro rfl
      cases ha
    rw [(update_frame app action).2.2 hc hh, hpanel]

/-- One input under the help that does not ask for the console leaves everything in its place, the
help in front included. -/
theorem untouched_handle (h : Coherent link past app) (hpanel : app.panel = .help) {input : Input}
    (hi : input.undisturbed = true) (hc : app.action? input ≠ some .showConsole) :
    Untouched app (app.handle input) ∧ (app.handle input).panel = .help := by
  have hperform : Untouched app (app.perform (app.action? input)) ∧
      (app.perform (app.action? input)).panel = .help := by
    cases ha : app.action? input with
    | none => exact ⟨Untouched.refl app, hpanel⟩
    | some action =>
      have haside := aside_of_input hpanel ha fun he => hc (ha.trans (congrArg some he))
      exact ⟨untouched_update h hpanel haside, panel_of_aside hpanel haside⟩
  cases input with
  | draw screen area =>
    exact ⟨untouched_draw h hpanel screen area, (draw_panel app screen area).trans hpanel⟩
  | clock now => exact ⟨⟨rfl, rfl, rfl, rfl⟩, hpanel⟩
  | shutdown | files => cases hi
  | _ => exact hperform

theorem untouched_run (h : Coherent link past app) (hpanel : app.panel = .help)
    {inputs : List Input} (hi : ∀ input ∈ inputs, input.undisturbed = true)
    (hc : ∀ m ∈ app.moments inputs, m.1.action? m.2 ≠ some .showConsole) :
    Untouched app (app.run inputs) ∧ (app.run inputs).panel = .help := by
  induction inputs generalizing past app with
  | nil => exact ⟨Untouched.refl app, hpanel⟩
  | cons input rest ih =>
    obtain ⟨hstep, hstays⟩ := untouched_handle h hpanel (hi input (List.mem_cons_self ..))
      (hc (app, input) (List.mem_cons_self ..))
    obtain ⟨hrest, hend⟩ := ih (h.handle input) hstays
      (fun next hn => hi next (List.mem_cons_of_mem _ hn))
      (fun m hm => hc m (List.mem_cons_of_mem _ hm))
    exact ⟨hstep.trans hrest, hend⟩

/-- With the console in front, no action scrolls the help. -/
theorem update_help (hpanel : app.panel = .console) (action : Action) :
    (app.update action).help = app.help := by
  cases action with
  | growEditor | shrinkEditor =>
    simp only [update, nudgeSplitter]
    split <;> rfl
  | splitterDragStart =>
    simp only [update]
    split <;> rfl
  | scrollUp | scrollDown | pageUp | pageDown =>
    simp only [update, scroll]
    rw [hpanel]
    rfl
  | editorInput | editorPaste | editorNewline | editorBackspace | editorDelete | cursorLeft
  | cursorRight | cursorUp | cursorDown | cursorHome | cursorEnd =>
    simp only [update, edit]
    rw [hpanel]
  | _ => rfl

theorem handle_help (h : Coherent link past app) (hpanel : app.panel = .console) (input : Input) :
    (app.handle input).help = app.help := by
  obtain ⟨screen, area, rfl⟩ | ⟨action, he⟩ | ⟨s, -, he⟩ | he := handle_cases app input
  · have hshown : app.console.desk.targets.panelShown = true := h.shown.trans (h.front.1 hpanel)
    show (app.draw screen area).1.help = app.help
    dsimp only [draw]
    rw [hshown]
    rfl
  · rw [he]
    exact update_help hpanel action
  · rw [he]
    rfl
  · rw [he]

/-- After any inputs from the start: if the help is in front, every further run of inputs, none of
which asks for the console, leaves the editor, the desk with all that it shows and stores, the
splitter and the clipboard as they were, however much time passes; and if the console is in front,
no input scrolls the help. -/
theorem front_panel_takes_input (link : ExportLink) (cell : Nat) (store : Option Preferences.Store)
    (source : Source) (files : Files.Disk) (now : Clock) (past : List Input) :
    let app := (start link cell store source files now).run past
    (app.panel = .help → ∀ inputs : List Input,
      (∀ input ∈ inputs, input.undisturbed = true) →
      (∀ m ∈ app.moments inputs, m.1.action? m.2 ≠ some .showConsole) →
      let after := app.run inputs
      after.editor = app.editor ∧
      after.console.desk = { app.console.desk with now := after.console.desk.now } ∧
      after.console.splitter = app.console.splitter ∧
      after.console.copied = app.console.copied ∧ after.panel = .help) ∧
    (app.panel = .console → ∀ input : Input, (app.handle input).help = app.help) := by
  intro app
  have h := (coherent_start link cell store source files now).run past
  constructor
  · intro hpanel inputs hi hc
    obtain ⟨hsame, hend⟩ := untouched_run h hpanel hi hc
    exact ⟨hsame.editor, hsame.desk, hsame.splitter, hsame.copied, hend⟩
  · intro hpanel input
    exact handle_help h hpanel input

/-- What a user might try under the help in a minute: typing, pasting, pressing, a new size,
scrolling. -/
def fumbled : List Input :=
  [.key ⟨.char 'x', false, false, false⟩, .paste "drop", .mouse ⟨.down .left, 40, 21⟩,
    .resize 40 10, .key ⟨.down, false, false, false⟩, .clock ⟨0, 1, 0⟩, .tick]

/-- The table of the query that ran before the help came up is still there after it all, and the
help has scrolled; back on the console, turning a page scrolls the grid and not the help. -/
theorem fumbling_leaves_table :
    let app := (start ⟨[]⟩ 16 none .sample .empty ⟨0, 0, 0⟩).run
      [.key ⟨.function 5, false, false, false⟩, .key ⟨.function 1, false, false, false⟩]
    let back := (start ⟨[]⟩ 16 none .sample .empty ⟨0, 0, 0⟩).run
      [.key ⟨.function 1, false, false, false⟩, .key ⟨.esc, false, false, false⟩]
    app.panel = .help ∧ (app.run fumbled).help.scroll = 1 ∧
    (app.run fumbled).console.desk = { app.console.desk with now := ⟨0, 1, 0⟩ } ∧
    (app.run fumbled).editor = app.editor ∧
    back.panel = .console ∧
    (back.handle (.key ⟨.pageDown, false, false, false⟩)).help = back.help := by
  intro app back
  have hpanel : app.panel = .help := rfl
  have hback : back.panel = .console := rfl
  have halone : ∀ input ∈ fumbled, input.undisturbed = true := by decide
  have hasked : ∀ m ∈ app.moments fumbled, m.1.action? m.2 ≠ some .showConsole := by decide
  obtain ⟨hunder, -⟩ := front_panel_takes_input ⟨[]⟩ 16 none .sample .empty ⟨0, 0, 0⟩
    [.key ⟨.function 5, false, false, false⟩, .key ⟨.function 1, false, false, false⟩]
  obtain ⟨-, hover⟩ := front_panel_takes_input ⟨[]⟩ 16 none .sample .empty ⟨0, 0, 0⟩
    [.key ⟨.function 1, false, false, false⟩, .key ⟨.esc, false, false, false⟩]
  obtain ⟨heditor, hdesk, -⟩ := hunder hpanel fumbled halone hasked
  have hnow : (app.run fumbled).console.desk.now = ⟨0, 1, 0⟩ := rfl
  rw [hnow] at hdesk
  exact ⟨hpanel, rfl, hdesk, heditor, hback, hover hback _⟩

end App

end QueryDesk
