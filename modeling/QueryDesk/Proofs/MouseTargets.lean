import QueryDesk.App
import QueryDesk.Proofs.ConsoleRegions

/-!
# The targets of the mouse

The mouse can be aimed at the splitter handle, at five controls of the toolbar and at the results.
The regions of the console lie one below the other and the controls side by side in one of them, so
no cell of the screen belongs to two targets. The places come from lengths that add up to the room
there is, and that they do on every screen, also where the lengths asked for do not fit. Whoever
looks for the target that was hit may therefore try the targets in any order.
-/
namespace QueryDesk

namespace Rect

variable {r s area outer : Rect}

/-- A rectangle that reaches beyond another on no side. -/
structure Within (r area : Rect) : Prop where
  left : area.x ≤ r.x
  right : r.x + r.width ≤ area.x + area.width
  top : area.y ≤ r.y
  bottom : r.y + r.height ≤ area.y + area.height

/-- No cell of the screen lies in both rectangles. -/
def Apart (r s : Rect) : Prop :=
  ∀ column row, ¬(r.hit column row = true ∧ s.hit column row = true)

theorem Within.trans (h : r.Within area) (ha : area.Within outer) : r.Within outer where
  left := Nat.le_trans ha.left h.left
  right := Nat.le_trans h.right ha.right
  top := Nat.le_trans ha.top h.top
  bottom := Nat.le_trans h.bottom ha.bottom

theorem Apart.symm (h : r.Apart s) : s.Apart r := fun column row hboth =>
  h column row hboth.symm

theorem apart_of_left (h : r.x + r.width ≤ s.x) : r.Apart s := by
  intro column row hboth
  simp only [hit_iff, right] at hboth
  omega

theorem apart_of_above (h : r.y + r.height ≤ s.y) : r.Apart s := by
  intro column row hboth
  simp only [hit_iff, bottom] at hboth
  omega

end Rect

namespace Layout

open Number (total total_cons)

variable {x width top bottom start i j : Nat} {rects : List Rect} {r area : Rect}
  {lengths : List Nat} {place : Nat × Nat}

/-! ### Regions one below the other -/

theorem Stacked.le (h : Stacked x width top rects bottom) : top ≤ bottom := by
  induction rects generalizing top with
  | nil => exact Nat.le_of_eq h
  | cons first below ih => exact Nat.le_trans (Nat.le_add_right ..) (ih h.2)

theorem Stacked.between (h : Stacked x width top rects bottom) (hr : r ∈ rects) :
    r.x = x ∧ r.width = width ∧ top ≤ r.y ∧ r.y + r.height ≤ bottom := by
  induction rects generalizing top with
  | nil => cases hr
  | cons first below ih =>
    obtain ⟨⟨hx, hwidth, hy⟩, hbelow⟩ := h
    rcases List.mem_cons.1 hr with rfl | hmem
    · exact ⟨hx, hwidth, Nat.le_of_eq hy.symm, hy ▸ hbelow.le⟩
    · obtain ⟨hx', hwidth', hy', hbottom⟩ := ih hbelow hmem
      exact ⟨hx', hwidth', Nat.le_trans (Nat.le_add_right ..) hy', hbottom⟩

/-- Of two stacked rectangles the one before ends above the other. -/
theorem Stacked.pairwise (h : Stacked x width top rects bottom) :
    rects.Pairwise fun r s => r.y + r.height ≤ s.y := by
  induction rects generalizing top with
  | nil => exact .nil
  | cons first below ih =>
    obtain ⟨⟨-, -, hy⟩, hbelow⟩ := h
    exact .cons (fun r hr => hy ▸ (hbelow.between hr).2.2.1) (ih hbelow)

/-- Each region above the status line is inside the area. -/
theorem within_of_mem_regions (area : Rect) (basis cell : Nat) :
    let layout := consoleLayout area basis cell
    ∀ r ∈ [layout.editor, layout.splitter, layout.toolbar, layout.results], r.Within area := by
  intro layout r hr
  obtain ⟨hx, hwidth, htop, hbottom⟩ := (stacked_regions area basis cell).between hr
  have hrows : area.rows ≤ area.height := area.rows_le_height
  exact ⟨Nat.le_of_eq hx.symm, by omega, htop, by omega⟩

/-! ### Controls side by side -/

theorem between_of_mem_placed (h : place ∈ placed start lengths) :
    start ≤ place.1 ∧ place.1 + place.2 ≤ start + total lengths := by
  induction lengths generalizing start with
  | nil => cases h
  | cons length lengths ih =>
    rw [total_cons]
    rcases List.mem_cons.1 h with rfl | hmem
    · dsimp only
      omega
    · have hlater := ih hmem
      omega

theorem pairwise_placed (start : Nat) (lengths : List Nat) :
    (placed start lengths).Pairwise fun before after => before.1 + before.2 ≤ after.1 := by
  induction lengths generalizing start with
  | nil => exact .nil
  | cons length lengths ih =>
    exact .cons (fun place hplace => (between_of_mem_placed hplace).1) (ih (start + length))

/-- The part of a toolbar with a number: a control, or a gap. -/
def toolbarPart (area : Rect) (i : Nat) : Rect :=
  let place := (placed area.x (partLengths area.columns toolbarParts))[i]?.getD (area.x, 0)
  ⟨place.1, area.y, place.2, area.height⟩

/-- The controls that the mouse can be aimed at, from left to right. -/
def ToolbarLayout.controls (toolbar : ToolbarLayout) : List Rect :=
  [toolbar.grid, toolbar.chart, toolbar.refresh, toolbar.exportField, toolbar.copy]

theorem controls_eq (area : Rect) :
    (toolbarLayout area).controls = [1, 3, 5, 8, 10].map (toolbarPart area) := rfl

theorem toolbarPart_within (area : Rect) (i : Nat) : (toolbarPart area i).Within area := by
  have hroom : total (partLengths area.columns toolbarParts) = area.columns :=
    total_partLengths (by decide) _
  have hcolumns : area.columns ≤ area.width := by
    simp only [Rect.columns, Rect.right]
    omega
  refine ⟨?_, ?_, Nat.le_refl _, Nat.le_refl _⟩
  all_goals
    simp only [toolbarPart]
    cases hplace : (placed area.x (partLengths area.columns toolbarParts))[i]? with
    | none => simp
    | some place =>
      have hbetween := between_of_mem_placed (List.mem_of_getElem? hplace)
      rw [Option.getD_some]
      omega

theorem toolbarPart_left (hij : i < j) (hj : j < toolbarParts.length) :
    (toolbarPart area i).x + (toolbarPart area i).width ≤ (toolbarPart area j).x := by
  have hlength : (placed area.x (partLengths area.columns toolbarParts)).length =
      toolbarParts.length := by rw [length_placed, length_partLengths]
  have hpairs := List.pairwise_iff_getElem.1
    (pairwise_placed area.x (partLengths area.columns toolbarParts)) i j (by omega) (by omega) hij
  simp only [toolbarPart]
  rwa [List.getElem?_eq_getElem (by omega), List.getElem?_eq_getElem (by omega),
    Option.getD_some, Option.getD_some]

theorem pairwise_controls (area : Rect) :
    (toolbarLayout area).controls.Pairwise fun left right => left.x + left.width ≤ right.x := by
  have hnumbers : [1, 3, 5, 8, 10].Pairwise fun i j => i < j ∧ j < toolbarParts.length := by
    decide
  rw [controls_eq, List.pairwise_map]
  exact hnumbers.imp fun ⟨hij, hj⟩ => toolbarPart_left hij hj

theorem within_of_mem_controls (h : r ∈ (toolbarLayout area).controls) : r.Within area := by
  rw [controls_eq] at h
  obtain ⟨i, -, rfl⟩ := List.mem_map.1 h
  exact toolbarPart_within area i

/-! ### Targets -/

/-- What the mouse can be aimed at: the handle, the controls below it and the results. -/
def ConsoleLayout.targets (layout : ConsoleLayout) : List Rect :=
  layout.splitter :: (toolbarLayout layout.toolbar).controls ++ [layout.results]

theorem targets_within (area : Rect) (basis cell : Nat) :
    ∀ target ∈ (consoleLayout area basis cell).targets, target.Within area := by
  have hregions := within_of_mem_regions area basis cell
  simp only [List.forall_mem_cons] at hregions
  obtain ⟨-, hsplitter, htoolbar, hresults, -⟩ := hregions
  simp only [ConsoleLayout.targets, List.forall_mem_append, List.forall_mem_cons]
  exact ⟨⟨hsplitter, fun control hcontrol => (within_of_mem_controls hcontrol).trans htoolbar⟩,
    hresults, nofun⟩

theorem targets_apart (area : Rect) (basis cell : Nat) :
    (consoleLayout area basis cell).targets.Pairwise Rect.Apart := by
  have hstacked := (stacked_regions area basis cell).pairwise
  simp only [List.pairwise_cons, List.forall_mem_cons] at hstacked
  obtain ⟨-, ⟨hhandle, hresults, -⟩, ⟨hbelow, -⟩, -⟩ := hstacked
  have hcontrols := pairwise_controls (consoleLayout area basis cell).toolbar
  simp only [ConsoleLayout.targets, List.cons_append, List.pairwise_cons, List.pairwise_append,
    List.forall_mem_append, List.forall_mem_singleton]
  refine ⟨⟨fun control hcontrol => ?_, Rect.apart_of_above hresults⟩,
    hcontrols.imp Rect.apart_of_left, ⟨nofun, .nil⟩, fun control hcontrol => ?_⟩
  · exact Rect.apart_of_above
      (Nat.le_trans hhandle (within_of_mem_controls hcontrol).top)
  · exact Rect.apart_of_above
      (Nat.le_trans (within_of_mem_controls hcontrol).bottom hbelow)

end Layout

namespace App

open Layout (ConsoleLayout consoleLayout toolbarLayout)

/-- A region, and what a press of the left button in one of its rows asks for. -/
structure PressTarget where
  region : Rect
  action : Nat → Action

variable {order : List PressTarget} {column row : Nat} {action : Action} {layout : ConsoleLayout}

/-- The targets of a press: all but the results, which only the wheel turns. -/
def pressTargets (layout : ConsoleLayout) : List PressTarget :=
  let toolbar := toolbarLayout layout.toolbar
  [⟨layout.splitter, .splitterDragStart⟩, ⟨toolbar.grid, fun _ => .showGrid⟩,
    ⟨toolbar.chart, fun _ => .showChart⟩, ⟨toolbar.refresh, fun _ => .refreshQuery⟩,
    ⟨toolbar.exportField, fun _ => .selectExportUrl⟩, ⟨toolbar.copy, fun _ => .copyExportUrl⟩]

/-- What a press at a cell asks for if the targets are tried in an order. -/
def firstHit? (order : List PressTarget) (column row : Nat) : Option Action :=
  order.findSome? fun target =>
    if target.region.hit column row then some (target.action row) else none

theorem firstHit?_cons (first : PressTarget) (order : List PressTarget) (column row : Nat) :
    firstHit? (first :: order) column row =
      if first.region.hit column row then some (first.action row)
      else firstHit? order column row := by
  rw [firstHit?, List.findSome?_cons]
  by_cases hhit : first.region.hit column row = true
  · rw [if_pos hhit, if_pos hhit]
  · rw [if_neg hhit, if_neg hhit, firstHit?]

/-- The console tries the targets from top to bottom and from left to right. -/
theorem pressAction?_eq (layout : ConsoleLayout) (column row : Nat) :
    pressAction? layout column row = firstHit? (pressTargets layout) column row := by
  simp only [pressTargets, firstHit?_cons]
  rfl

/-- Where no two targets share a cell, the one that is hit is the one that answers. -/
theorem firstHit?_eq_some_iff
    (h : order.Pairwise fun target other => target.region.Apart other.region) :
    firstHit? order column row = some action ↔
      ∃ target ∈ order, target.region.hit column row = true ∧ target.action row = action := by
  induction order with
  | nil => simp [firstHit?]
  | cons first order ih =>
    obtain ⟨hfirst, hlater⟩ := List.pairwise_cons.1 h
    rw [firstHit?_cons, List.exists_mem_cons_iff]
    by_cases hhit : first.region.hit column row = true
    · have hmiss : ∀ target ∈ order, ¬target.region.hit column row = true :=
        fun target hmem hother => hfirst target hmem column row ⟨hhit, hother⟩
      rw [if_pos hhit, Option.some.injEq]
      constructor
      · intro haction
        exact .inl ⟨hhit, haction⟩
      · rintro (⟨-, haction⟩ | ⟨target, hmem, hother, -⟩)
        · exact haction
        · exact absurd hother (hmiss target hmem)
    · rw [if_neg hhit, ih hlater]
      simp [hhit]

theorem firstHit?_perm {other : List PressTarget} (hperm : order.Perm other)
    (h : other.Pairwise fun target other => target.region.Apart other.region) :
    firstHit? order column row = firstHit? other column row := by
  have horder : order.Pairwise fun target other => target.region.Apart other.region :=
    (hperm.pairwise_iff Rect.Apart.symm).2 h
  refine Option.ext fun action => ?_
  rw [firstHit?_eq_some_iff horder, firstHit?_eq_some_iff h]
  simp only [hperm.mem_iff]

theorem pressTargets_apart (h : layout.targets.Pairwise Rect.Apart) :
    (pressTargets layout).Pairwise fun target other => target.region.Apart other.region := by
  have hregions : ((pressTargets layout).map PressTarget.region).Pairwise Rect.Apart :=
    h.sublist (List.sublist_append_left ..)
  exact List.pairwise_map.1 hregions

/-- On any area, however small, no cell of the screen is hit by two of the seven targets of the
mouse, all of them are inside the area, and the controls of the toolbar follow each other from left
to right. So a press of the left button asks for the same in whatever order its targets are
tried. -/
theorem mouse_targets_apart (area : Rect) (basis cell : Nat) :
    let layout := consoleLayout area basis cell
    let toolbar := toolbarLayout layout.toolbar
    let controls :=
      [toolbar.grid, toolbar.chart, toolbar.refresh, toolbar.exportField, toolbar.copy]
    let targets := layout.splitter :: controls ++ [layout.results]
    targets.Pairwise Rect.Apart ∧
    (∀ target ∈ targets, target.Within area) ∧
    (controls.Pairwise fun left right => left.x + left.width ≤ right.x) ∧
    ∀ (app : App) (order : List PressTarget) (column row : Nat),
      app.panel = .console → app.layout = some layout → order.Perm (pressTargets layout) →
      app.mouseAction? ⟨.down .left, column, row⟩ = firstHit? order column row := by
  intro layout toolbar controls targets
  have hapart : layout.targets.Pairwise Rect.Apart := Layout.targets_apart area basis cell
  refine ⟨hapart, Layout.targets_within area basis cell,
    Layout.pairwise_controls layout.toolbar, ?_⟩
  intro app order column row hpanel hlayout hperm
  have hpress : app.mouseAction? ⟨.down .left, column, row⟩ = pressAction? layout column row := by
    simp only [mouseAction?, hpanel, hlayout]
  rw [hpress, pressAction?_eq, firstHit?_perm hperm (pressTargets_apart hapart)]

/-- On a screen of 12 columns the copy control has a single column left, and answers a press there
also when it is tried first. -/
theorem copy_tried_first_on_narrow_screen :
    let app := ((start ⟨[]⟩ 16 none .sample .empty ⟨0, 0, 0⟩).draw (.blank 12 8) ⟨0, 0, 12, 8⟩).1
    let layout := consoleLayout ⟨0, 0, 12, 8⟩ 350 16
    let order := (pressTargets layout).reverse
    app.panel = .console ∧ app.layout = some layout ∧ order.Perm (pressTargets layout) ∧
    (toolbarLayout layout.toolbar).copy ∈ layout.targets ∧
    (toolbarLayout layout.toolbar).copy.Within ⟨0, 0, 12, 8⟩ ∧
    app.mouseAction? ⟨.down .left, 10, 3⟩ = firstHit? order 10 3 ∧
    firstHit? order 10 3 = some .copyExportUrl := by
  intro app layout order
  obtain ⟨-, hwithin, -, hpress⟩ := mouse_targets_apart ⟨0, 0, 12, 8⟩ 350 16
  have hpanel : app.panel = .console := rfl
  have hlayout : app.layout = some layout := rfl
  have hperm : order.Perm (pressTargets layout) := List.reverse_perm _
  have hcopy : (toolbarLayout layout.toolbar).copy ∈ layout.targets := by
    simp [ConsoleLayout.targets, Layout.ToolbarLayout.controls]
  exact ⟨hpanel, hlayout, hperm, hcopy, hwithin _ hcopy,
    hpress app order 10 3 hpanel hlayout hperm, by decide +kernel⟩

end App

end QueryDesk
