import QueryDesk.Proofs.LineStore
import QueryDesk.Proofs.Restart
import QueryDesk.Proofs.UpdateEvents

/-!
# What the parts say of one another

The panel in front, what the screen is to show, the height, the grid and the layout are kept in
places of their own and changed by different hands, and still none of them contradicts another: an
input either brings a panel to the front or is a step that leaves the panel and the visibility
alone, and what the desk says of itself holds through both.
-/
namespace QueryDesk

open QueryDesk.Preferences (Store)
open QueryDesk.Files (Disk)
open QueryDesk.Layout (consoleLayout)

namespace Grid

theorem zero_scroll_lt (rows : List (List String)) : 0 < max 1 rows.length :=
  Nat.lt_of_lt_of_le Nat.zero_lt_one (Nat.le_max_left ..)

/-- Scrolling stays within the rows. -/
theorem update_scroll_lt {g : Grid} (h : g.scroll < max 1 g.rows.length) (action : Action) :
    (g.update action).scroll < max 1 (g.update action).rows.length := by
  have hrows : (g.update action).rows = g.rows := by
    unfold update
    split
    · split <;> rfl
    all_goals rfl
  rw [hrows]
  cases action with
  | scrollDown =>
    simp only [update]
    split
    · dsimp only
      omega
    · exact h
  | scrollUp | pageUp => exact Nat.lt_of_le_of_lt (Nat.sub_le ..) h
  | pageDown =>
    simp only [update]
    omega
  | _ => exact h

end Grid

namespace ExportLink

/-- No link is empty: the parameter's name is in it. -/
theorem encode_ne_empty (link : ExportLink) (query : String) : link.encode query ≠ "" := by
  intro h
  have hlist := congrArg String.toList h
  simp [encode, parameter] at hlist

end ExportLink

namespace Desk

variable {sourced : Bool} {d d' : Desk} {e : Event} {opened closed : List Event}

/-- The basis of the layout is the height in use, the link is that of the grid's query, and the
grid is scrolled to one of its rows. -/
structure Coherent (d : Desk) : Prop where
  basis : d.targets.editorBasis = d.height.pixels
  exportUrl : d.targets.exportUrl = (d.grid.query.map d.link.encode).getD ""
  scroll : d.grid.scroll < max 1 d.grid.rows.length

/-- Only a height loaded from the store is not shown at once. -/
theorem Coherent.heard (h : Coherent d) (he : Heard sourced d e d')
    (hload : e.topic ≠ Topic.preferencesLoad) : Coherent d' := by
  cases he with
  | relayout => exact ⟨rfl, h.exportUrl, h.scroll⟩
  | loaded => exact absurd rfl hload
  | received dataset => exact ⟨h.basis, rfl, Grid.zero_scroll_lt _⟩
  | saved =>
    rw [saveHeight_eq]
    exact ⟨h.basis, h.exportUrl, h.scroll⟩
  | _ => exact ⟨h.basis, h.exportUrl, h.scroll⟩

theorem Heard.visible (he : Heard sourced d e d') (hpanel : e.topic ≠ Topic.panelActive) :
    d'.visible = d.visible := by
  cases he with
  | shown => exact absurd rfl hpanel
  | saved => rw [saveHeight_eq]
  | _ => rfl

/-- An answer loads no height and shows no panel. -/
theorem answer_topic (d : Desk) (query : String) :
    (d.answer query).topic ≠ Topic.preferencesLoad ∧
      (d.answer query).topic ≠ Topic.panelActive := by
  have htopics : ∀ topic ∈ [Topic.queryDataset, Topic.queryError],
      topic ≠ Topic.preferencesLoad ∧ topic ≠ Topic.panelActive := by decide
  refine htopics _ ?_
  unfold answer
  cases d.source.load d.files d.now query <;> simp

theorem Coherent.settles (h : Coherent d) (he : Settles sourced d e d' opened closed)
    (hload : e.topic ≠ Topic.preferencesLoad) : Coherent d' := by
  cases he with
  | quiet he => exact h.heard he hload
  | answered _ he | refreshed _ _ _ he => exact h.heard he (answer_topic d _).1
  | moved pixels =>
    rw [Desk.moved, saveHeight_eq]
    exact ⟨rfl, h.exportUrl, h.scroll⟩
  | nothingToRefresh => exact ⟨h.basis, h.exportUrl, h.scroll⟩
  | _ => exact h

theorem Settles.visible (he : Settles sourced d e d' opened closed)
    (hpanel : e.topic ≠ Topic.panelActive) : d'.visible = d.visible := by
  cases he with
  | quiet he => exact he.visible hpanel
  | answered _ he | refreshed _ _ _ he => exact he.visible (answer_topic d _).2
  | moved pixels => rw [Desk.moved, saveHeight_eq]; rfl
  | _ => rfl

end Desk

namespace Console

open Desk (Coherent)

variable {c : Console} {s : Step}

/-- A step that tells nothing, or a new size, a query or a save, or what the console tells by
itself. -/
def Step.Ordinary : Step → Prop
  | .tell event => event.topic ∈ [Topic.windowResize, Topic.queryExecute, Topic.preferencesSave]
  | _ => True

theorem Step.Ordinary.topic (hs : s.Ordinary) {event : Event} (h : c.telling? s = some event) :
    event.topic ≠ Topic.preferencesLoad ∧ event.topic ≠ Topic.panelActive := by
  have hresize : resizeTopic ≠ Topic.preferencesLoad ∧ resizeTopic ≠ Topic.panelActive := by decide
  cases s with
  | tell told =>
    obtain rfl := Option.some.inj h
    have htopics : ∀ topic ∈ [Topic.windowResize, Topic.queryExecute, Topic.preferencesSave],
        topic ≠ Topic.preferencesLoad ∧ topic ≠ Topic.panelActive := by decide
    exact htopics _ hs
  | refresh =>
    obtain rfl := Option.some.inj h
    exact (by decide : Topic.gridRefresh ≠ Topic.preferencesLoad ∧
      Topic.gridRefresh ≠ Topic.panelActive)
  | move | nudge =>
    obtain ⟨pixels, -, rfl⟩ := Option.map_eq_some_iff.1 h
    exact hresize
  | _ => cases h

theorem coherent_prepare (h : Coherent c.desk) (s : Step) : Coherent (c.prepare s).desk := by
  cases s with
  | copyExport =>
    rw [prepare_copyExport]
    exact h
  | scroll action =>
    refine ⟨h.basis, ?_, Grid.update_scroll_lt h.scroll action⟩
    change c.desk.targets.exportUrl =
      ((c.desk.grid.update action).query.map c.desk.link.encode).getD ""
    rw [grid_update_query]
    exact h.exportUrl
  | _ => exact ⟨h.basis, h.exportUrl, h.scroll⟩

theorem prepare_visible (c : Console) (s : Step) : (c.prepare s).desk.visible = c.desk.visible := by
  cases s with
  | copyExport => rw [prepare_copyExport]
  | _ => rfl

theorem Step.Ordinary.coherent (hs : s.Ordinary) (h : Coherent c.desk) :
    Coherent (c.step s).desk := by
  have hp := coherent_prepare h s
  obtain ⟨-, he⟩ | ⟨event, d', opened, closed, htell, hsettles, he⟩ := step_cases c s
  · rwa [he]
  · rw [he]
    exact hp.settles hsettles (hs.topic htell).1

theorem Step.Ordinary.visible (hs : s.Ordinary) : (c.step s).desk.visible = c.desk.visible := by
  have hp := prepare_visible c s
  obtain ⟨-, he⟩ | ⟨event, d', opened, closed, htell, hsettles, he⟩ := step_cases c s
  · rwa [he]
  · rw [he]
    exact (hsettles.visible (hs.topic htell).2).trans hp

end Console

namespace App

open Console (Follows)

variable {app : App} {link : ExportLink} {past : List Moment}

theorem stepOf?_ordinary {action : Action} (hc : action ≠ .showConsole) (hh : action ≠ .showHelp)
    {s : Console.Step} (h : app.stepOf? action = some s) : s.Ordinary := by
  cases action with
  | showConsole => exact absurd rfl hc
  | showHelp => exact absurd rfl hh
  | growEditor | shrinkEditor | splitterDragStart =>
    obtain ⟨layout, -, rfl⟩ := Option.map_eq_some_iff.1 h
    exact trivial
  | scrollUp | scrollDown | pageUp | pageDown =>
    simp only [stepOf?, Option.ite_none_right_eq_some, Option.some.injEq] at h
    exact h.2 ▸ trivial
  | resize | executeQuery =>
    obtain rfl := Option.some.inj h
    simp [Console.Step.Ordinary]
  | _ => cases h <;> exact trivial

/-- No action touches the layout of the last draw or the height of a cell, and only two bring a
panel to the front. -/
theorem update_frame (app : App) (action : Action) :
    (app.update action).layout = app.layout ∧ (app.update action).cell = app.cell ∧
      (action ≠ .showConsole → action ≠ .showHelp → (app.update action).panel = app.panel) := by
  cases action with
  | showConsole => exact ⟨rfl, rfl, fun h _ => absurd rfl h⟩
  | showHelp => exact ⟨rfl, rfl, fun _ h => absurd rfl h⟩
  | growEditor | shrinkEditor =>
    simp only [update, nudgeSplitter]
    split <;> exact ⟨rfl, rfl, fun _ _ => rfl⟩
  | splitterDragStart =>
    simp only [update]
    split <;> exact ⟨rfl, rfl, fun _ _ => rfl⟩
  | scrollUp | scrollDown | pageUp | pageDown =>
    simp only [update, scroll]
    split <;> exact ⟨rfl, rfl, fun _ _ => rfl⟩
  | editorInput | editorPaste | editorNewline | editorBackspace | editorDelete | cursorLeft
  | cursorRight | cursorUp | cursorDown | cursorHome | cursorEnd =>
    simp only [update, edit]
    split <;> exact ⟨rfl, rfl, fun _ _ => rfl⟩
  | _ => exact ⟨rfl, rfl, fun _ _ => rfl⟩

/-- What an input can do to the panel in front and to the console. -/
inductive Passes (app after : App) : Prop
  | switched (panel : Panel) (h : after = app.switchPanel panel)
  | stepped {s : Console.Step} (hs : s.Ordinary) (hpanel : after.panel = app.panel)
      (hconsole : after.console = app.console.step s)
  | same (hpanel : after.panel = app.panel) (hconsole : after.console = app.console)

theorem passes_update (app : App) (action : Action) : app.Passes (app.update action) := by
  by_cases hc : action = .showConsole
  · exact .switched .console (by rw [hc]; rfl)
  by_cases hh : action = .showHelp
  · exact .switched .help (by rw [hh]; rfl)
  have hpanel := (update_frame app action).2.2 hc hh
  have hconsole := update_console app action
  cases hs : app.stepOf? action with
  | none => exact .same hpanel (by rw [hconsole, hs]; rfl)
  | some s => exact .stepped (stepOf?_ordinary hc hh hs) hpanel (by rw [hconsole, hs]; rfl)

theorem draw_panel (app : App) (screen : Screen) (area : Rect) :
    (app.draw screen area).1.panel = app.panel := by
  dsimp only [draw]
  split <;> rfl

/-- An input that draws nothing is an action, a step of the console, or nothing. -/
theorem handle_cases (app : App) (input : Input) :
    (∃ screen area, input = .draw screen area) ∨
    (∃ action, app.handle input = app.update action) ∨
    (∃ s : Console.Step, s.Ordinary ∧ app.handle input = app.onConsole (·.step s)) ∨
    app.handle input = app := by
  have hperform (action : Option Action) (he : app.handle input = app.perform action) :
      (∃ action, app.handle input = app.update action) ∨
      (∃ s : Console.Step, s.Ordinary ∧ app.handle input = app.onConsole (·.step s)) ∨
      app.handle input = app := by
    cases action with
    | none => exact .inr (.inr he)
    | some action => exact .inl ⟨action, he⟩
  cases input with
  | draw screen area => exact .inl ⟨screen, area, rfl⟩
  | shutdown =>
    have hs : Console.Step.Ordinary (.tell ⟨Topic.preferencesSave, .empty⟩) := by
      simp [Console.Step.Ordinary]
    exact .inr (.inr (.inl ⟨_, hs, rfl⟩))
  | files files => exact .inr (.inr (.inl ⟨.files files, trivial, rfl⟩))
  | clock now => exact .inr (.inr (.inl ⟨.clock now, trivial, rfl⟩))
  | key key => exact .inr (hperform (app.keyAction? key) rfl)
  | mouse mouse => exact .inr (hperform (app.mouseAction? mouse) rfl)
  | paste text => exact .inr (.inl ⟨.editorPaste text, rfl⟩)
  | resize width height => exact .inr (.inl ⟨.resize width height, rfl⟩)
  | tick => exact .inr (.inl ⟨.tick, rfl⟩)

theorem passes_handle (app : App) (input : Input) : app.Passes (app.handle input) := by
  obtain ⟨screen, area, rfl⟩ | ⟨action, he⟩ | ⟨s, hs, he⟩ | he := handle_cases app input
  · exact .same (draw_panel app screen area) (draw_console app screen area)
  · rw [he]
    exact passes_update app action
  · rw [he]
    exact .stepped hs rfl rfl
  · rw [he]
    exact .same rfl rfl

/-- A draw keeps the layout of what it has drawn. -/
theorem draw_layout (app : App) (screen : Screen) (area : Rect) :
    (app.draw screen area).1.layout =
      if app.console.desk.targets.panelShown then
        some (consoleLayout area app.console.desk.targets.editorBasis app.cell)
      else none := by
  dsimp only [draw]
  split <;> rfl

/-- The panel that is in front at a draw. -/
def Moment.drawnPanel? (m : Moment) : Option Panel :=
  match m.2 with
  | .draw .. => some m.1.panel
  | _ => none

/-- An input that draws nothing leaves the layout of the last draw in place. -/
theorem handle_frame {input : Input} (h : Moment.drawnPanel? (app, input) = none) :
    (app.handle input).layout = app.layout ∧ (app.handle input).cell = app.cell := by
  obtain ⟨screen, area, rfl⟩ | ⟨action, he⟩ | ⟨s, -, he⟩ | he := handle_cases app input
  · cases h
  · obtain ⟨hlayout, hcell, -⟩ := update_frame app action
    rw [he]
    exact ⟨hlayout, hcell⟩
  · rw [he]
    exact ⟨rfl, rfl⟩
  · rw [he]
    exact ⟨rfl, rfl⟩

/-- What the parts of an application say of one another after the inputs of its past. -/
structure Coherent (link : ExportLink) (past : List Moment) (app : App) : Prop where
  followed : ∃ happened, Follows link happened app.console.desk
  desk : app.console.desk.Coherent
  front : app.panel = .console ↔ app.console.desk.visible = true
  drawn : app.layout.isSome = true ↔ latest? Moment.drawnPanel? past = some .console

theorem Coherent.shown (h : Coherent link past app) :
    app.console.desk.targets.panelShown = app.console.desk.visible := by
  obtain ⟨happened, hf⟩ := h.followed
  exact hf.shown

theorem followed_step {c : Console} (h : ∃ happened, Follows link happened c.desk)
    (s : Console.Step) : ∃ happened, Follows link happened (c.step s).desk := by
  obtain ⟨happened, hf⟩ := h
  exact ⟨_, hf.step s⟩

theorem switchPanel_desk (app : App) (panel : Panel) :
    (app.switchPanel panel).console.desk = app.console.desk.showPanel panel.name := by
  rw [switchPanel, publish, Console.publish_panelActive]

theorem name_eq_iff (panel : Panel) : panel.name = Desk.panelName ↔ panel = .console := by
  cases panel <;> decide

theorem Coherent.handle (h : Coherent link past app) (input : Input) :
    Coherent link (past ++ [(app, input)]) (app.handle input) := by
  have hdrawn : (app.handle input).layout.isSome = true ↔
      latest? Moment.drawnPanel? (past ++ [(app, input)]) = some .console := by
    rw [latest?_concat]
    cases hpanel : Moment.drawnPanel? (app, input) with
    | none =>
      rw [(handle_frame hpanel).1, Option.none_or]
      exact h.drawn
    | some panel =>
      cases input with
      | draw screen area =>
        obtain rfl := Option.some.inj hpanel
        rw [App.handle, draw_layout, h.shown, Option.some_or, Option.some.injEq, h.front]
        cases app.console.desk.visible <;> simp
      | _ => cases hpanel
  cases passes_handle app input with
  | switched panel he =>
    have hdesk : (app.handle input).console.desk = app.console.desk.showPanel panel.name := by
      rw [he, switchPanel_desk]
    obtain ⟨happened, hf⟩ := h.followed
    refine ⟨⟨_, hdesk ▸ hf.panel panel.name⟩, ?_, ?_, hdrawn⟩
    · rw [hdesk]
      exact ⟨h.desk.basis, h.desk.exportUrl, h.desk.scroll⟩
    · have hpanel : (app.handle input).panel = panel := by rw [he]; rfl
      rw [hpanel, hdesk, ← name_eq_iff]
      simp [Desk.showPanel]
  | stepped hs hpanel hconsole =>
    refine ⟨?_, ?_, ?_, hdrawn⟩
    · rw [hconsole]
      exact followed_step h.followed _
    · rw [hconsole]
      exact hs.coherent h.desk
    · rw [hpanel, hconsole, hs.visible]
      exact h.front
  | same hpanel hconsole =>
    refine ⟨?_, ?_, ?_, hdrawn⟩
    · rw [hconsole]
      exact h.followed
    · rw [hconsole]
      exact h.desk
    · rw [hpanel, hconsole]
      exact h.front

theorem Coherent.run (h : Coherent link past app) (inputs : List Input) :
    Coherent link (past ++ app.moments inputs) (app.run inputs) := by
  induction inputs generalizing past app with
  | nil => rwa [moments, List.append_nil]
  | cons input rest ih =>
    have hrest := ih (h.handle input)
    rwa [List.append_assoc] at hrest

theorem coherent_start (link : ExportLink) (cell : Nat) (store : Option Store) (source : Source)
    (files : Disk) (now : Clock) : Coherent link [] (start link cell store source files now) where
  followed := by
    rw [start_console]
    exact ⟨_, (Console.follows_start link cell store source true files now).run _⟩
  desk := by
    rw [start_desk]
    exact ⟨rfl, rfl, Grid.zero_scroll_lt _⟩
  front := by
    rw [start_desk]
    exact iff_of_true rfl rfl
  drawn := iff_of_false Bool.false_ne_true nofun

/-- After any inputs from the start the parts agree: the console is in front exactly if it is
visible and shown; the layout has the height in use for its basis; one result widget and one view
button are on, those of the view; the export link is that of the query whose rows the grid holds;
the grid is scrolled to one of its rows and the cursor stands in one of the lines; and a layout is
kept exactly if the last draw showed the console. -/
theorem parts_agree (link : ExportLink) (cell : Nat) (store : Option Store) (source : Source)
    (files : Disk) (now : Clock) (inputs : List Input) :
    let started := start link cell store source files now
    let app := started.run inputs
    let desk := app.console.desk
    let targets := desk.targets
    let grid := desk.grid
    let editor := app.editor
    (app.panel = .console ↔ desk.visible = true) ∧
    (desk.visible = true ↔ targets.panelShown = true) ∧
    targets.editorBasis = desk.height.pixels ∧ 1 ≤ targets.editorBasis ∧
    targets.gridShown = decide (targets.view = .grid) ∧
    targets.chartShown = decide (targets.view = .chart) ∧
    targets.gridButton = decide (targets.view = .grid) ∧
    targets.chartButton = decide (targets.view = .chart) ∧
    (targets.gridShown = !targets.chartShown) ∧ (targets.gridButton = !targets.chartButton) ∧
    (targets.exportUrl = "" ↔ grid.query = none) ∧
    (∀ query, grid.query = some query → targets.exportUrl = link.encode query) ∧
    (grid.rows = [] → grid.scroll = 0) ∧ (grid.rows ≠ [] → grid.scroll < grid.rows.length) ∧
    editor.lines ≠ [] ∧
    (∃ line, editor.lines[editor.row]? = some line ∧ editor.column ≤ line.length) ∧
    (app.layout.isSome = true ↔
      latest? Moment.drawnPanel? (started.moments inputs) = some .console) := by
  intro started app desk targets grid editor
  have h : Coherent link (started.moments inputs) app :=
    (coherent_start link cell store source files now).run inputs
  obtain ⟨happened, hf⟩ := h.followed
  have hbasis : targets.editorBasis = desk.height.pixels := h.desk.basis
  have hurl : targets.exportUrl = (grid.query.map link.encode).getD "" := by
    rw [← hf.link_eq]
    exact h.desk.exportUrl
  have hscroll : grid.scroll < max 1 grid.rows.length := h.desk.scroll
  refine ⟨h.front, by rw [h.shown], hbasis, hbasis ▸ desk.height.pos, hf.marked.gridShown,
    hf.marked.chartShown, hf.marked.gridButton, hf.marked.chartButton, ?_, ?_, ?_,
    fun query hquery => ?_, fun hrows => ?_, fun hrows => ?_, by simp [Editor.lines],
    ⟨editor.line, editor.lines_row, ?_⟩, h.drawn⟩
  · rw [hf.marked.gridShown, hf.marked.chartShown]
    cases desk.targets.view <;> rfl
  · rw [hf.marked.gridButton, hf.marked.chartButton]
    cases desk.targets.view <;> rfl
  · rw [hurl]
    cases grid.query with
    | none => simp
    | some query => simpa using link.encode_ne_empty query
  · rw [hurl, hquery]
    rfl
  · rw [hrows] at hscroll
    exact Nat.lt_one_iff.1 hscroll
  · have hlength := List.length_pos_iff.2 hrows
    omega
  · simp only [Editor.column, Editor.line, List.length_append, List.length_reverse]
    omega

end App

end QueryDesk
