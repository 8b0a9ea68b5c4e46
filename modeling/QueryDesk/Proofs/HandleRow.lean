import QueryDesk.Proofs.Coherence
import QueryDesk.Proofs.DragGesture
import QueryDesk.Proofs.EditorRows

/-!
# The row of the handle

The keys that move the splitter reckon from the row in which the handle was drawn, but what they
change is the height that the user prefers, and that is kept as it is on a terminal too small or too
large for it. So a key moves the handle by its row exactly if the handle stands where the height
alone would put it and the editor may have the rows asked for. Otherwise the height comes nearer to
what is shown or goes further away from it, and the console looks as before.
-/
namespace QueryDesk

open QueryDesk.Preferences (Store)
open QueryDesk.Files (Disk)
open QueryDesk.Layout (ConsoleLayout consoleLayout)

namespace Layout

variable {cell : Nat} {area : Rect} {height : SplitHeight}

/-- The handle stands in a layout where the height alone would put it, and the editor may have some
rows more or less. -/
structure Yields (height : SplitHeight) (cell : Nat) (layout : ConsoleLayout) (rows : Int) :
    Prop where
  shown : height.pixels / max cell 1 = layout.editor.height
  least : (minEditorRows : Int) ≤ layout.editor.height + rows
  most : layout.editor.height + rows + (2 + minResultRows) ≤ layout.split.height

/-- The splitter of the console, with a drag or without one. -/
def Divides (s : Splitter) (cell : Nat) : Prop :=
  s.release = .ofCell splitterLowerBound splitterHandleOffset cell

theorem Divides.cell_eq {s : Splitter} (hs : Divides s cell) : s.cell = max cell 1 :=
  congrArg Splitter.cell hs

theorem Divides.bounds_eq {s : Splitter} (hs : Divides s cell) (container : Rect) :
    s.bounds container =
      splitBounds splitterLowerBound splitterHandleOffset cell container.height := by
  have hlower : s.lower = splitterLowerBound := congrArg Splitter.lower hs
  have hoffset : s.offset = splitterHandleOffset := congrArg Splitter.offset hs
  rw [Splitter.bounds, hlower, hoffset, hs.cell_eq, splitBounds_max]

theorem offsetIn_drawn (h : 2 ≤ area.rows - 1) (basis cell : Nat) :
    Splitter.offsetIn (consoleLayout area basis cell).split
      (consoleLayout area basis cell).splitter.y = editorRows basis cell (area.rows - 1) := by
  rw [Splitter.offsetIn, split_eq, (rows_of_layout h basis cell).2]
  exact Nat.add_sub_cancel_left ..

/-- What a nudge of the drawn handle goes by: the range of the editor's rows and the rows shown. It
goes down by a row, or by more to reach the range, and up by a row. -/
theorem nudge_cases {s : Splitter} (hs : Divides s cell) (harea : area.height ≤ maxCoordinate)
    {start : Nat} (hstart : editorRows height.pixels cell (area.rows - 1) = start)
    {rows delta : Int} (hrows : rows = 1 ∨ rows = -1)
    (h : s.nudge rows (consoleLayout area height.pixels cell).splitter.y
      (consoleLayout area height.pixels cell).split = some delta) :
    ∃ least most, Spans (area.rows - 1) least most ∧
      (∀ basis, editorRows basis cell (area.rows - 1) =
        shownRows least most (area.rows - 1) (basis / max cell 1)) ∧
      (rows = 1 ∧ start + 1 ≤ most ∧
          delta = ((clamp least most (start + 1) - start : Nat) : Int) * (max cell 1 : Nat) ∨
        rows = -1 ∧ least < start ∧ delta = -((max cell 1 : Nat) : Int)) := by
  obtain ⟨⟨target, moved⟩, hmoved, rfl⟩ := Option.map_eq_some_iff.1 h
  obtain ⟨least, most, hbounds, htarget, hne, hdirection, hdelta⟩ := Splitter.delta?_eq_some hmoved
  rw [hs.bounds_eq, split_eq] at hbounds
  have hspan : Spans (area.rows - 1) least most := spans_of_bounds hbounds
  have hroom : area.rows - 1 ≤ maxCoordinate := Rect.rows_pred_le harea
  have hshown := editorRows_of_bounds hroom hbounds
  have hle := hspan.le
  have hlt := hspan.lt
  rw [offsetIn_drawn hspan.two_le, hstart] at htarget hne hdirection hdelta
  rw [hs.cell_eq] at hdelta
  have hmost : start ≤ most := by
    rw [← hstart, hshown]
    exact hspan.shownRows_le _
  have hword : start < maxWord32 := by
    have hmax : maxCoordinate < maxWord32 := by decide
    omega
  -- the largest word is a numeral that must not be counted up to
  clear hmoved h
  generalize maxWord32 = word at htarget hdirection hword
  refine ⟨least, most, hspan, hshown, ?_⟩
  rcases hrows with rfl | rfl
  · have hwanted : min ((start : Int) + 1).toNat word = start + 1 := by omega
    rw [hwanted] at htarget hdirection
    have hdown : start < target := hdirection.1 (Nat.lt_succ_self _)
    have htop : target ≤ most := by
      rw [htarget, clamp_eq hle]
      omega
    have hrows : ((target : Int) - start) = ((target - start : Nat) : Int) := by omega
    exact .inl ⟨rfl, by omega, by rw [hdelta, hrows, htarget]⟩
  · have hwanted : min ((start : Int) + -1).toNat word = start - 1 := by omega
    rw [hwanted] at htarget hdirection
    have hup : target < start := by
      have hnot : ¬start < target := fun hlt => absurd (hdirection.2 hlt) (by omega)
      omega
    rw [clamp_eq hle] at htarget
    have hrows : ((target : Int) - start) = -1 := by omega
    exact .inr ⟨rfl, by omega, by rw [hdelta, hrows, Int.neg_one_mul]⟩

theorem yields_iff (h : 2 ≤ area.rows - 1) {start : Nat}
    (hstart : editorRows height.pixels cell (area.rows - 1) = start) (rows : Int) :
    Yields height cell (consoleLayout area height.pixels cell) rows ↔
      height.pixels / max cell 1 = start ∧ (minEditorRows : Int) ≤ start + rows ∧
        start + rows + (2 + minResultRows) ≤ (area.rows - 1 : Nat) := by
  have hheight : (consoleLayout area height.pixels cell).editor.height = start :=
    (rows_of_layout h height.pixels cell).1.trans hstart
  have hsplit : (consoleLayout area height.pixels cell).split.height = area.rows - 1 :=
    congrArg Rect.height (split_eq area height.pixels cell)
  rw [← hheight, ← hsplit]
  constructor
  · rintro ⟨hshown, hleast, hmost⟩
    exact ⟨hshown, hleast, hmost⟩
  · rintro ⟨hshown, hleast, hmost⟩
    exact ⟨hshown, hleast, hmost⟩

/-- With the handle where the height puts it, one row more or less is what the editor gets, and in
all other cases it gets what it had. -/
theorem editorRows_of_nudge {s : Splitter} (hs : Divides s cell) (hcell : cell ≤ maxCoordinate)
    (harea : area.height ≤ maxCoordinate) {start : Nat}
    (hstart : editorRows height.pixels cell (area.rows - 1) = start) {rows delta : Int}
    (hrows : rows = 1 ∨ rows = -1)
    (h : s.nudge rows (consoleLayout area height.pixels cell).splitter.y
      (consoleLayout area height.pixels cell).split = some delta) {again : Nat}
    (hagain : editorRows (height.adjust delta).pixels cell (area.rows - 1) = again) :
    2 ≤ area.rows - 1 ∧
    (Yields height cell (consoleLayout area height.pixels cell) rows →
      (again : Int) = start + rows) ∧
    (¬Yields height cell (consoleLayout area height.pixels cell) rows → again = start) := by
  obtain ⟨least, most, hspan, hshown, hcases⟩ := nudge_cases hs harea hstart hrows h
  have hc := cell_pos cell
  have htwo := hspan.two_le
  refine ⟨htwo, ?_⟩
  rw [yields_iff htwo hstart]
  rw [hshown] at hstart hagain
  have hbound := hspan.shownRows_eq (height.pixels / max cell 1)
  rw [hstart] at hbound
  rcases hcases with ⟨rfl, hmost, rfl⟩ | ⟨rfl, hleast, rfl⟩
  · have hheld : area.rows ≤ maxCoordinate := Nat.le_trans area.rows_le_height harea
    have hword : (area.rows - 1 + 1) * max cell 1 ≤ maxWord32 :=
      Nat.le_trans (Nat.mul_le_mul (by omega : _ ≤ maxCoordinate) (Nat.max_le.2 ⟨hcell, by decide⟩))
        (by decide)
    obtain ⟨hmoves, hstays⟩ := hspan.rows_of_grown height hc hword hstart hmost
    rw [hagain] at hmoves hstays
    simp only [minEditorRows, minResultRows] at hmoves hstays ⊢
    constructor
    · rintro ⟨hyields, -, hroom⟩
      have hmore := hmoves ⟨hyields, by omega⟩
      omega
    · intro hother
      refine hstays ?_
      rintro ⟨hyields, hroom⟩
      exact hother ⟨hyields, by omega, by omega⟩
  · obtain ⟨hmoves, hstays⟩ := hspan.rows_of_shrunk height hc hstart hleast
    rw [hagain] at hmoves hstays
    simp only [minEditorRows, minResultRows] at hmoves hstays ⊢
    constructor
    · rintro ⟨hyields, hmin, -⟩
      have hless := hmoves ⟨hyields, by omega⟩
      omega
    · intro hother
      refine hstays ?_
      rintro ⟨hyields, hmin⟩
      exact hother ⟨hyields, by omega, by omega⟩

end Layout

namespace Desk

/-- A move of the splitter leaves all that is shown as it was, but for the height. -/
theorem moved_targets (d : Desk) (pixels : Int) :
    (d.moved pixels).targets =
      { d.targets with editorBasis := (d.height.adjust pixels).pixels } := by
  rw [moved, saveHeight_eq]
  rfl

theorem moved_height (d : Desk) (pixels : Int) :
    (d.moved pixels).height = d.height.adjust pixels := by
  rw [moved, saveHeight_eq]
  rfl

end Desk

namespace Console

open Layout (Divides)

variable {c : Console} {cell : Nat}

/-- Steps drag the splitter at most. -/
theorem divides_step (h : Divides c.splitter cell) (s : Step) :
    Divides (c.step s).splitter cell := by
  have hprepare : (c.prepare s).splitter.release = c.splitter.release := by
    cases s with
    | copyExport => rw [prepare_copyExport]
    | move row =>
      change (c.splitter.move row).1.release = c.splitter.release
      unfold Splitter.move
      split
      · rfl
      · split <;> rfl
    | _ => rfl
  rw [Divides, step_splitter, hprepare]
  exact h

end Console

namespace App

open Layout (Yields Divides)

variable {app : App}

theorem draw_cell (app : App) (screen : Screen) (area : Rect) :
    (app.draw screen area).1.cell = app.cell := by
  dsimp only [draw]
  split <;> rfl

theorem run_cell (app : App) (inputs : List Input) : (app.run inputs).cell = app.cell := by
  induction inputs generalizing app with
  | nil => rfl
  | cons input rest ih =>
    refine (ih (app.handle input)).trans ?_
    cases input with
    | draw screen area => exact draw_cell app screen area
    | _ => exact (handle_frame rfl).2

/-- The rows by which an action asks the handle to move. -/
def nudge? : Action → Option Int
  | .growEditor => some 1
  | .shrinkEditor => some (-1)
  | _ => none

theorem nudge?_eq_some (app : App) {action : Action} {rows : Int} (h : nudge? action = some rows) :
    (rows = 1 ∨ rows = -1) ∧ app.update action = app.nudgeSplitter rows := by
  cases action with
  | growEditor =>
    obtain rfl := Option.some.inj h
    exact ⟨.inl rfl, rfl⟩
  | shrinkEditor =>
    obtain rfl := Option.some.inj h
    exact ⟨.inr rfl, rfl⟩
  | _ => cases h

/-- A nudge that changes the height is a move of the splitter from the row of the handle. -/
theorem nudged_desk {layout : ConsoleLayout} (hl : app.layout = some layout) {rows : Int}
    (h : (app.nudgeSplitter rows).console.desk.height ≠ app.console.desk.height) :
    ∃ delta, app.console.splitter.nudge rows layout.splitter.y layout.split = some delta ∧
      (app.nudgeSplitter rows).console.desk = app.console.desk.moved delta := by
  simp only [nudgeSplitter, hl, onConsole, Console.nudgeSplitter] at h ⊢
  cases hnudge : app.console.splitter.nudge rows layout.splitter.y layout.split with
  | none =>
    rw [hnudge] at h
    exact absurd rfl h
  | some delta =>
    rw [Console.report, Console.publish_of_settles (.moved app.console.desk delta)]
    exact ⟨delta, rfl, rfl⟩

/-- On an application that any inputs have led to, with the console in front and drawn on an area:
an action that asks for a row more or a row less and changes the height moves the handle by that
row, as the next draw on the same area shows, if the handle stood where the height put it and the
editor may have the rows asked for. In all other cases the next layout is the same as the last. -/
theorem nudged_handle_moves (link : ExportLink) (cell : Nat) (store : Option Store)
    (source : Source) (files : Disk) (now : Clock) (inputs : List Input) (screen screen' : Screen)
    (area : Rect) (hcell : cell ≤ maxCoordinate) (harea : area.height ≤ maxCoordinate) :
    let app := (start link cell store source files now).run inputs
    app.panel = .console →
    let drawn := (app.draw screen area).1
    ∀ action rows, nudge? action = some rows →
    let nudged := drawn.update action
    nudged.console.desk.height ≠ drawn.console.desk.height →
    let layout := consoleLayout area drawn.console.desk.height.pixels cell
    let again := consoleLayout area nudged.console.desk.height.pixels cell
    drawn.layout = some layout ∧ (nudged.draw screen' area).1.layout = some again ∧
    (Yields drawn.console.desk.height cell layout rows →
      (again.splitter.y : Int) = layout.splitter.y + rows) ∧
    (¬Yields drawn.console.desk.height cell layout rows → again = layout) := by
  intro app hpanel drawn action rows hnudge nudged hchanged layout again
  have hcoherent : Coherent link _ app :=
    (coherent_start link cell store source files now).run inputs
  have hconsole : drawn.console = app.console := draw_console app screen area
  have hshown : app.console.desk.targets.panelShown = true := by
    rw [hcoherent.shown, ← hcoherent.front, hpanel]
  have hcellApp : app.cell = cell := run_cell (start link cell store source files now) inputs
  have hlayout : drawn.layout = some layout := by
    rw [draw_layout, hshown, if_pos rfl, hcoherent.desk.basis, hcellApp, ← hconsole]
  have hdivides : Divides drawn.console.splitter cell := by
    rw [hconsole]
    exact run_console_of_start (P := fun c => Divides c.splitter cell) link cell store source files
      now inputs rfl fun _ s h => Console.divides_step h s
  obtain ⟨hrows, hupdate⟩ := nudge?_eq_some drawn hnudge
  rw [show nudged = _ from hupdate] at hchanged
  obtain ⟨delta, hdelta, hdesk⟩ := nudged_desk hlayout hchanged
  have hheight : nudged.console.desk.height = drawn.console.desk.height.adjust delta := by
    rw [show nudged = _ from hupdate, hdesk, Desk.moved_height]
  have hagain : (nudged.draw screen' area).1.layout = some again := by
    have htargets : nudged.console.desk.targets =
        { app.console.desk.targets with editorBasis := nudged.console.desk.height.pixels } := by
      rw [hheight, show nudged = _ from hupdate, hdesk, Desk.moved_targets, hconsole]
    have hcellNudged : nudged.cell = cell :=
      (update_frame drawn action).2.1.trans ((draw_cell app screen area).trans hcellApp)
    rw [draw_layout, htargets, hcellNudged, if_pos hshown]
  obtain ⟨htwo, hmoves, hstays⟩ :=
    Layout.editorRows_of_nudge hdivides hcell harea rfl hrows hdelta rfl
  rw [← hheight] at hmoves hstays
  refine ⟨hlayout, hagain, fun hyields => ?_, fun hother => ?_⟩
  · rw [(Layout.rows_of_layout htwo _ _).2, (Layout.rows_of_layout htwo _ _).2]
    have hrow := hmoves hyields
    omega
  · exact Layout.consoleLayout_congr (hstays hother)

/-- With room for 22 rows a key moves the handle from row 21 to row 22. -/
theorem grow_lowers_handle :
    let app := (start ⟨[]⟩ 16 none .sample .empty ⟨0, 0, 0⟩).run [.resize 80 50]
    let drawn := (app.draw (.blank 80 50) ⟨0, 0, 80, 50⟩).1
    let grown := drawn.update .growEditor
    let layout := consoleLayout ⟨0, 0, 80, 50⟩ drawn.console.desk.height.pixels 16
    let again := consoleLayout ⟨0, 0, 80, 50⟩ grown.console.desk.height.pixels 16
    grown.console.desk.height ≠ drawn.console.desk.height ∧
    drawn.layout = some layout ∧ layout.splitter.y = 21 ∧
    (grown.draw (.blank 80 50) ⟨0, 0, 80, 50⟩).1.layout = some again ∧
    (again.splitter.y : Int) = layout.splitter.y + 1 := by
  obtain ⟨hlayout, hagain, hmoves, -⟩ :=
    nudged_handle_moves ⟨[]⟩ 16 none .sample .empty ⟨0, 0, 0⟩ [.resize 80 50] (.blank 80 50)
      (.blank 80 50) ⟨0, 0, 80, 50⟩ (by decide) (by decide) rfl .growEditor 1 rfl (by decide)
  exact ⟨by decide, hlayout, by decide, hagain, hmoves ⟨by decide, by decide, by decide⟩⟩

/-- A draw of all of a screen of 80 columns and 30 rows. -/
def drawShort : Input := .draw (.blank 80 30) ⟨0, 0, 80, 30⟩

/-- A height of 350 pixels asks for more rows than a short screen has. A key that takes a row from
it changes the height, and the handle stays where it was. -/
theorem shrink_leaves_handle_on_short_screen :
    let shrink : Input := .key ⟨.up, true, false, false⟩
    let drawn := sampleDesk.run [drawShort]
    let shrunk := sampleDesk.run [drawShort, shrink]
    let again := sampleDesk.run [drawShort, shrink, drawShort]
    drawn.action? shrink = some .shrinkEditor ∧
    drawn.console.desk.height.pixels = 350 ∧ shrunk.console.desk.height.pixels = 334 ∧
    drawn.layout.map (·.splitter.y) = some 16 ∧ again.layout.map (·.splitter.y) = some 16 ∧
    again.layout.map (·.splitter.y + 1) ≠ drawn.layout.map (·.splitter.y) := by
  refine ⟨by decide, by decide, by decide, by decide, by decide, by decide⟩

end App

end QueryDesk
