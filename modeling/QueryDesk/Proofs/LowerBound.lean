import QueryDesk.Proofs.FittingRows
import QueryDesk.Proofs.PointerDrag

/-!
# The lower bound of the height

The splitter keeps 200 pixels above its handle, and it does so by rows: a move leads from the row in
which the handle is taken to be to a row of the range, and the height changes by the pixels between
the two. What the height is does not matter to the move. So a move from a row that is not below the
height keeps the bound, and only one from a row below the height can lose it.

Three things take the handle to be below the height. A drag keeps the row that it has reached while
keys take rows from the editor. A layout stays the one of the last draw while the height shrinks.
And with cells of 100 pixels or more the handle is drawn below three rows although the bound is two
of them at most. Without these the bound is kept in every run.
-/
namespace QueryDesk

open QueryDesk.Preferences (Store)
open QueryDesk.Files (Disk)
open QueryDesk.Layout (ConsoleLayout consoleLayout Divides Spans)

namespace SplitHeight

variable {height : SplitHeight}

/-- A height that would keep some pixels without a limit keeps them, as long as they are within the
limit. -/
theorem le_adjust {least : Nat} {delta : Int} (h : (least : Int) ≤ height.pixels + delta)
    (hmax : least ≤ Layout.maxWord32) : least ≤ (height.adjust delta).pixels := by
  simp only [adjust]
  omega

end SplitHeight

namespace Layout

variable {cell rows least most start target wanted : Nat} {height more : SplitHeight}
  {container area : Rect} {s : Splitter} {delta : Int}

/-- The least rows of the range make up the bound. -/
theorem lower_le_least
    (h : splitBounds splitterLowerBound splitterHandleOffset cell rows = some (least, most)) :
    splitterLowerBound ≤ least * max cell 1 := by
  obtain ⟨-, hleast, -⟩ := splitBounds_eq_some h
  exact (least_le_iff (cell_pos cell)).1 (Nat.le_of_eq hleast.symm)

/-- What a move of the handle makes of a height: from a row that is not below the height it leads to
a height in the range. -/
theorem lower_le_of_delta (hs : Divides s cell)
    (h : s.delta? container start wanted = some (target, delta))
    (hstart : start * max cell 1 ≤ height.pixels) :
    splitterLowerBound ≤ (height.adjust delta).pixels := by
  obtain ⟨least, most, hbounds, htarget, -, -, hdelta⟩ := Splitter.delta?_eq_some h
  rw [hs.bounds_eq] at hbounds
  have hmem := (clamp_mem (splitBounds_eq_some hbounds).1 wanted).1
  rw [← htarget] at hmem
  have hlower := lower_le_least hbounds
  have hproduct := Nat.mul_le_mul_right (max cell 1) hmem
  rw [hs.cell_eq, Int.sub_mul, ← Int.natCast_mul, ← Int.natCast_mul] at hdelta
  exact SplitHeight.le_adjust (by omega) (by decide)

/-- A row in which the handle of a container is taken to be, with all that a height has above its
bound between it and the end of the range. -/
structure Grounded (cell : Nat) (height : SplitHeight) (container : Rect) (row : Nat) : Prop where
  rows_le : container.height ≤ maxCoordinate
  reach : ∀ least most,
    splitBounds splitterLowerBound splitterHandleOffset cell container.height = some (least, most) →
    row * max cell 1 + splitterLowerBound ≤ height.pixels + least * max cell 1

theorem Grounded.mono (h : Grounded cell height container start)
    (hle : height.pixels ≤ more.pixels) : Grounded cell more container start where
  rows_le := h.rows_le
  reach least most hb := by
    have hreach := h.reach least most hb
    omega

/-- A move from such a row ends in such a row, and the bound is kept. -/
theorem Grounded.move (hcell : cell ≤ 99) (hs : Divides s cell)
    (h : Grounded cell height container start)
    (hd : s.delta? container start wanted = some (target, delta)) :
    Grounded cell (height.adjust delta) container target ∧
      splitterLowerBound ≤ (height.adjust delta).pixels := by
  obtain ⟨least, most, hbounds, htarget, -, -, hdelta⟩ := Splitter.delta?_eq_some hd
  rw [hs.bounds_eq] at hbounds
  have hmem := clamp_mem (splitBounds_eq_some hbounds).1 wanted
  rw [← htarget] at hmem
  have hlt := (spans_of_bounds hbounds).lt
  have hrows := h.rows_le
  have hreach := h.reach least most hbounds
  have hleast := Nat.mul_le_mul_right (max cell 1) hmem.1
  have hfew : target * max cell 1 ≤ maxCoordinate * 99 :=
    Nat.mul_le_mul (by omega) (Nat.max_le.2 ⟨hcell, by decide⟩)
  rw [hs.cell_eq, Int.sub_mul, ← Int.natCast_mul, ← Int.natCast_mul] at hdelta
  have hkept : target * max cell 1 + splitterLowerBound - least * max cell 1 ≤
      (height.adjust delta).pixels := by
    refine SplitHeight.le_adjust (by omega) (Nat.le_trans (Nat.sub_le ..) ?_)
    exact Nat.le_trans (Nat.add_le_add_right hfew _) (by decide)
  refine ⟨⟨hrows, fun least' most' hb => ?_⟩, by omega⟩
  obtain ⟨rfl, rfl⟩ := Prod.mk.inj (Option.some.inj (hbounds.symm.trans hb))
  omega

/-- With cells of at most 99 pixels the range leaves at least the rows that an editor has on any
screen, so a handle that is drawn for a height in the range is in such a row. -/
theorem grounded_of_drawn (hcell : cell ≤ 99) (harea : area.height ≤ maxCoordinate)
    (hheight : splitterLowerBound ≤ height.pixels) :
    Grounded cell height (consoleLayout area height.pixels cell).split
      (Splitter.offsetIn (consoleLayout area height.pixels cell).split
        (consoleLayout area height.pixels cell).splitter.y) := by
  have hsplit := split_eq area height.pixels cell
  have hrows : area.rows - 1 ≤ maxCoordinate := Rect.rows_pred_le harea
  refine ⟨by rw [hsplit]; exact hrows, fun least most hb => ?_⟩
  rw [hsplit] at hb ⊢
  change splitBounds splitterLowerBound splitterHandleOffset cell (area.rows - 1) = _ at hb
  have hspan := spans_of_bounds hb
  have hpos := cell_pos cell
  have hthree : 3 ≤ least := by
    obtain ⟨-, hleast, -⟩ := splitBounds_eq_some hb
    have hsmall : max cell 1 ≤ 99 := Nat.max_le.2 ⟨hcell, by decide⟩
    rw [hleast, Nat.le_div_iff_mul_le hpos]
    simp only [splitterLowerBound]
    omega
  have hlower := lower_le_least hb
  rw [← hsplit, offsetIn_drawn hspan.two_le, editorRows_of_bounds hrows hb, hspan.shownRows_eq]
  have hshown : min (max (max least (min most (height.pixels / max cell 1))) 3)
      (area.rows - 1 - 5) ≤ max least (height.pixels / max cell 1) := by omega
  have hproduct := Nat.mul_le_mul_right (max cell 1) hshown
  have hquotient := Nat.div_mul_le_self height.pixels (max cell 1)
  -- the handle is shown no lower than the height puts it or than the range begins
  rcases Nat.le_total least (height.pixels / max cell 1) with hle | hle
  · rw [Nat.max_eq_right hle] at hproduct
    omega
  · rw [Nat.max_eq_left hle] at hproduct
    omega

/-- So is every row in which the drawn handle can be hit. -/
theorem grounded_of_hit (hcell : cell ≤ 99) (harea : area.height ≤ maxCoordinate)
    (hheight : splitterLowerBound ≤ height.pixels) {column row : Nat}
    (hhit : (consoleLayout area height.pixels cell).splitter.hit column row = true) :
    Grounded cell height (consoleLayout area height.pixels cell).split
      (Splitter.offsetIn (consoleLayout area height.pixels cell).split row) := by
  have hdrawn := grounded_of_drawn hcell harea hheight
  refine ⟨hdrawn.rows_le, fun least most hb => ?_⟩
  have hreach := hdrawn.reach least most hb
  have hrow : row = (consoleLayout area height.pixels cell).splitter.y := by
    rw [split_eq] at hb
    have hone := congrArg Rect.height
      (regions_of_layout (spans_of_bounds hb).two_le height.pixels cell).2
    obtain ⟨-, hlow, hhigh⟩ := (Rect.hit_iff ..).1 hhit
    rw [Rect.bottom, hone] at hhigh
    exact Nat.le_antisymm (Nat.le_of_lt_succ (Nat.lt_of_lt_of_le hhigh (Nat.min_le_left ..))) hlow
  rwa [hrow]

end Layout

namespace Desk

variable {sourced : Bool} {d d' : Desk} {e : Event} {opened closed : List Event}

theorem Heard.height (he : Heard sourced d e d') (hload : e.topic ≠ Topic.preferencesLoad) :
    d'.height = d.height := by
  cases he with
  | loaded => exact absurd rfl hload
  | saved => rw [saveHeight_eq]
  | _ => rfl

/-- Only a load and a move of the splitter change the height. -/
theorem Settles.height (he : Settles sourced d e d' opened closed)
    (hload : e.topic ≠ Topic.preferencesLoad) (hmove : e.topic ≠ Console.resizeTopic) :
    d'.height = d.height := by
  cases he with
  | quiet he => exact he.height hload
  | answered _ he | refreshed _ _ _ he => exact he.height (answer_topic d _).1
  | moved => exact absurd rfl hmove
  | _ => rfl

end Desk

namespace Console

variable {c : Console} {cell : Nat} {s : Step}

/-- A step that tells neither of a height to load nor of a move that nobody has made. -/
def Step.Plain : Step → Prop
  | .tell event => event.topic ≠ Topic.preferencesLoad ∧ event.topic ≠ resizeTopic
  | _ => True

/-- The row in which a step takes the handle to be, if it asks for a move. -/
def reckoned? (c : Console) : Step → Option Nat
  | .move _ => c.splitter.drag.map (·.offset)
  | .nudge _ row container => some (Splitter.offsetIn container row)
  | _ => none

/-- What a plain step makes of the height and the drag. -/
inductive Handles (c : Console) : Step → SplitHeight → Option Drag → Prop
  | idle (s : Step) : Handles c s c.desk.height c.splitter.drag
  | press (row : Nat) (container : Rect) :
      Handles c (.press row container) c.desk.height
        (some ⟨container, Splitter.offsetIn container row⟩)
  | release : Handles c .release c.desk.height none
  | move {row target : Nat} {drag : Drag} {delta : Int} (hdrag : c.splitter.drag = some drag)
      (hdelta : c.splitter.delta? drag.container drag.offset
        (Splitter.offsetIn drag.container row) = some (target, delta)) :
      Handles c (.move row) (c.desk.height.adjust delta) (some { drag with offset := target })
  | nudge {rows delta : Int} {row : Nat} {container : Rect}
      (hdelta : c.splitter.nudge rows row container = some delta) :
      Handles c (.nudge rows row container) (c.desk.height.adjust delta) c.splitter.drag

theorem prepare_height (c : Console) (s : Step) : (c.prepare s).desk.height = c.desk.height := by
  cases s with
  | copyExport => rw [prepare_copyExport]
  | _ => rfl

/-- A step that asks for no move leaves the height alone. -/
theorem step_height (htold : ∀ event, c.telling? s = some event →
    event.topic ≠ Topic.preferencesLoad ∧ event.topic ≠ resizeTopic) :
    (c.step s).desk.height = c.desk.height := by
  obtain ⟨-, he⟩ | ⟨event, d', opened, closed, htell, hsettles, he⟩ := step_cases c s
  · rw [he, prepare_height]
  · obtain ⟨hload, hmove⟩ := htold event htell
    rw [he]
    exact (hsettles.height hload hmove).trans (prepare_height c s)

theorem handles_move (c : Console) (row : Nat) :
    c.Handles (.move row) (c.step (.move row)).desk.height (c.step (.move row)).splitter.drag := by
  rw [step_splitter]
  simp only [step, moveSplitter, (report_ends _ _).2, prepare, Splitter.move]
  cases hdrag : c.splitter.drag with
  | none => exact .idle _
  | some drag =>
    dsimp only
    cases hdelta : c.splitter.delta? drag.container drag.offset
      (Splitter.offsetIn drag.container row) with
    | none => exact .idle _
    | some moved => exact .move hdrag hdelta

theorem handles_nudge (c : Console) (rows : Int) (row : Nat) (container : Rect) :
    c.Handles (.nudge rows row container) (c.step (.nudge rows row container)).desk.height
      (c.step (.nudge rows row container)).splitter.drag := by
  rw [step_splitter]
  simp only [step, nudgeSplitter, (report_ends _ _).2, prepare]
  cases hdelta : c.splitter.nudge rows row container with
  | none => exact .idle _
  | some delta => exact .nudge hdelta

theorem handles_step (hs : s.Plain) :
    c.Handles s (c.step s).desk.height (c.step s).splitter.drag := by
  have hsilent {drag : Option Drag} (htold : c.telling? s = none)
      (hd : (c.step s).splitter.drag = drag)
      (h : c.Handles s c.desk.height drag) :
      c.Handles s (c.step s).desk.height (c.step s).splitter.drag := by
    rwa [step_height (by rw [htold]; exact nofun), hd]
  cases s with
  | move row => exact handles_move c row
  | nudge rows row container => exact handles_nudge c rows row container
  | press row container => exact hsilent rfl rfl (.press row container)
  | release => exact hsilent rfl rfl .release
  | tell event =>
    rw [step_height (by rintro _ ⟨⟩; exact hs), step_splitter]
    exact .idle _
  | refresh =>
    rw [step_height (by rintro _ ⟨⟩; exact ⟨by decide, by decide⟩), step_splitter]
    exact .idle _
  | copyExport =>
    refine hsilent rfl ?_ (.idle _)
    rw [step_splitter, prepare_copyExport]
  | _ => exact hsilent rfl rfl (.idle _)

/-- The bound is lost from a row below the height only. -/
theorem Handles.below {height : SplitHeight} {drag : Option Drag} (h : c.Handles s height drag)
    (hdivides : Divides c.splitter cell)
    (hbound : Layout.splitterLowerBound ≤ c.desk.height.pixels)
    (hlost : height.pixels < Layout.splitterLowerBound) :
    ∃ start, c.reckoned? s = some start ∧ c.desk.height.pixels < start * max cell 1 := by
  have hbelow {container : Rect} {start wanted target : Nat} {delta : Int}
      (hd : c.splitter.delta? container start wanted = some (target, delta))
      (hlow : (c.desk.height.adjust delta).pixels < Layout.splitterLowerBound) :
      c.desk.height.pixels < start * max cell 1 := by
    by_contra hle
    have hkept := Layout.lower_le_of_delta hdivides hd (Nat.le_of_not_lt hle)
    omega
  cases h with
  | move hdrag hdelta => exact ⟨_, by rw [reckoned?, hdrag]; rfl, hbelow hdelta hlost⟩
  | nudge hdelta =>
    obtain ⟨⟨target, moved⟩, hmoved, rfl⟩ := Option.map_eq_some_iff.1 hdelta
    exact ⟨_, rfl, hbelow hmoved hlost⟩
  | _ => omega

end Console

namespace App

variable {app : App} {link : ExportLink} {cell : Nat} {input : Input} {s : Console.Step}

theorem stepOf?_plain {action : Action} (h : app.stepOf? action = some s) : s.Plain := by
  have hpanel : Topic.panelActive ≠ Topic.preferencesLoad ∧
      Topic.panelActive ≠ Console.resizeTopic := by decide
  by_cases hc : action = .showConsole
  · subst hc
    exact Option.some.inj h ▸ hpanel
  by_cases hh : action = .showHelp
  · subst hh
    exact Option.some.inj h ▸ hpanel
  have hordinary := stepOf?_ordinary hc hh h
  cases s with
  | tell event =>
    have htopics : ∀ topic ∈ [Topic.windowResize, Topic.queryExecute, Topic.preferencesSave],
        topic ≠ Topic.preferencesLoad ∧ topic ≠ Console.resizeTopic := by decide
    exact htopics _ hordinary
  | _ => trivial

/-- An input that is a step asks for an action, or is a save at the end, or comes from elsewhere. -/
theorem inputStep?_cases (h : app.inputStep? input = some s) :
    (∃ action, app.action? input = some action ∧ app.stepOf? action = some s) ∨
      s = .tell ⟨Topic.preferencesSave, .empty⟩ ∨ (∃ files, s = .files files) ∨
      ∃ now, s = .clock now := by
  have hasks (h : (app.action? input).bind app.stepOf? = some s) :=
    Option.bind_eq_some_iff.1 h
  cases input with
  | draw => cases h
  | shutdown => exact .inr (.inl (Option.some.inj h).symm)
  | files files => exact .inr (.inr (.inl ⟨files, (Option.some.inj h).symm⟩))
  | clock now => exact .inr (.inr (.inr ⟨now, (Option.some.inj h).symm⟩))
  | _ => exact .inl (hasks h)

theorem inputStep?_plain (h : app.inputStep? input = some s) : s.Plain := by
  obtain ⟨action, -, hs⟩ | rfl | ⟨files, rfl⟩ | ⟨now, rfl⟩ := inputStep?_cases h
  · exact stepOf?_plain hs
  · exact (by decide : Topic.preferencesSave ≠ Topic.preferencesLoad ∧
      Topic.preferencesSave ≠ Console.resizeTopic)
  · trivial
  · trivial

/-- A press comes from a press of the left button on the handle that was drawn last. -/
theorem hit_of_press {row : Nat} (h : app.action? input = some (.splitterDragStart row)) :
    ∃ layout column, app.layout = some layout ∧ layout.splitter.hit column row = true := by
  cases input with
  | key key => exact absurd h ((apart_keyAction? app key).1 row)
  | mouse mouse =>
    simp only [action?, mouseAction?] at h
    split at h
    · rename_i layout _ hlayout
      split at h
      · by_cases hhit : layout.splitter.hit mouse.column mouse.row = true
        · rw [pressAction?, if_pos hhit] at h
          cases h
          exact ⟨layout, mouse.column, hlayout, hhit⟩
        · exact absurd h ((apart_pressAction? (Bool.eq_false_iff.2 hhit)).1 row)
      all_goals first | cases h | (split at h <;> cases h)
    · cases h
  | _ => cases h

theorem stepOf?_press {action : Action} {row : Nat} {container : Rect}
    (h : app.stepOf? action = some (.press row container)) :
    action = .splitterDragStart row ∧
      ∃ layout, app.layout = some layout ∧ container = layout.split := by
  cases action with
  | splitterDragStart =>
    obtain ⟨layout, hlayout, hs⟩ := Option.map_eq_some_iff.1 h
    cases hs
    exact ⟨rfl, layout, hlayout, rfl⟩
  | growEditor | shrinkEditor =>
    obtain ⟨_, _, hs⟩ := Option.map_eq_some_iff.1 h
    cases hs
  | scrollUp | scrollDown | pageUp | pageDown =>
    simp only [stepOf?] at h
    split at h <;> cases h
  | _ => cases h

theorem stepOf?_nudge {action : Action} {rows : Int} {row : Nat} {container : Rect}
    (h : app.stepOf? action = some (.nudge rows row container)) :
    (action = .growEditor ∧ rows = 1 ∨ action = .shrinkEditor ∧ rows = -1) ∧
      ∃ layout, app.layout = some layout ∧ row = layout.splitter.y ∧ container = layout.split := by
  cases action with
  | growEditor =>
    obtain ⟨layout, hlayout, hs⟩ := Option.map_eq_some_iff.1 h
    cases hs
    exact ⟨.inl ⟨rfl, rfl⟩, layout, hlayout, rfl, rfl⟩
  | shrinkEditor =>
    obtain ⟨layout, hlayout, hs⟩ := Option.map_eq_some_iff.1 h
    cases hs
    exact ⟨.inr ⟨rfl, rfl⟩, layout, hlayout, rfl, rfl⟩
  | splitterDragStart =>
    obtain ⟨_, _, hs⟩ := Option.map_eq_some_iff.1 h
    cases hs
  | scrollUp | scrollDown | pageUp | pageDown =>
    simp only [stepOf?] at h
    split at h <;> cases h
  | _ => cases h

/-- Whether an input draws on an area that a terminal can have. -/
def Input.draws : Input → Bool
  | .draw _ area => decide (area.height ≤ maxCoordinate)
  | _ => false

/-- Whether an input comes in time: a press on the handle and a key that moves it right after a
draw, and a key that takes a row from the editor only while the handle is not dragged. -/
def inTime (app : App) (drawn : Bool) (input : Input) : Bool :=
  match app.action? input with
  | some .shrinkEditor => drawn && !app.dragging
  | some .growEditor => drawn
  | some (.splitterDragStart _) => drawn
  | _ => true

/-- Whether all inputs of a run come in time. -/
def steady (app : App) (drawn : Bool) : List Input → Bool
  | [] => true
  | input :: rest => app.inTime drawn input && (app.handle input).steady input.draws rest

theorem steady_of_append {drawn : Bool} {before after : List Input}
    (h : app.steady drawn (before ++ after) = true) : app.steady drawn before = true := by
  induction before generalizing app drawn with
  | nil => rfl
  | cons input rest ih =>
    rw [List.cons_append, steady, Bool.and_eq_true] at h
    rw [steady, Bool.and_eq_true]
    exact ⟨h.1, ih h.2⟩

/-- The layout, if there is one, is that of the height in use. -/
def Fresh (app : App) : Prop :=
  ∀ layout, app.layout = some layout → ∃ area : Rect, area.height ≤ maxCoordinate ∧
    layout = consoleLayout area app.console.desk.height.pixels app.cell

/-- The height is in the range, and a drag is in a row from which it stays there. -/
structure Bounded (link : ExportLink) (cell : Nat) (app : App) : Prop where
  coherent : ∃ past, Coherent link past app
  cell_eq : app.cell = cell
  divides : Divides app.console.splitter cell
  bound : Layout.splitterLowerBound ≤ app.console.desk.height.pixels
  drag : ∀ drag, app.console.splitter.drag = some drag →
    Layout.Grounded cell app.console.desk.height drag.container drag.offset

namespace Bounded

theorem fresh_of_draw (h : Bounded link cell app) (hdraws : input.draws = true) :
    (app.handle input).Fresh := by
  cases input with
  | draw screen area =>
    intro layout hlayout
    obtain ⟨past, hcoherent⟩ := h.coherent
    rw [handle, draw_layout, hcoherent.desk.basis] at hlayout
    split at hlayout
    · refine ⟨area, of_decide_eq_true hdraws, ?_⟩
      rw [handle, draw_console, draw_cell]
      exact (Option.some.inj hlayout).symm
    · cases hlayout
  | _ => cases hdraws

/-- What a step that comes in time makes of the height and the drag. -/
theorem step (h : Bounded link cell app) (hcell : cell ≤ 99) {drawn : Bool}
    (hfresh : drawn = true → app.Fresh) (htime : app.inTime drawn input = true)
    (hs : app.inputStep? input = some s) {height : SplitHeight} {drag : Option Drag}
    (hh : app.console.Handles s height drag) :
    Layout.splitterLowerBound ≤ height.pixels ∧ ∀ reached, drag = some reached →
      Layout.Grounded cell height reached.container reached.offset := by
  have hcellApp := h.cell_eq
  cases hh with
  | idle => exact ⟨h.bound, h.drag⟩
  | release => exact ⟨h.bound, nofun⟩
  | move hdrag hdelta =>
    obtain ⟨hgrounded, hbound⟩ := (h.drag _ hdrag).move hcell h.divides hdelta
    refine ⟨hbound, fun reached hreached => ?_⟩
    cases hreached
    exact hgrounded
  | press row container =>
    obtain ⟨action, haction, hpress⟩ | hs | ⟨files, hs⟩ | ⟨now, hs⟩ := inputStep?_cases hs
    · obtain ⟨rfl, layout, hlayout, rfl⟩ := stepOf?_press hpress
      obtain ⟨drawnLast, column, hdrawnLast, hhit⟩ := hit_of_press haction
      obtain rfl := Option.some.inj (hlayout.symm.trans hdrawnLast)
      rw [inTime, haction] at htime
      obtain ⟨area, harea, rfl⟩ := hfresh htime layout hlayout
      refine ⟨h.bound, fun reached hreached => ?_⟩
      cases hreached
      rw [hcellApp] at hhit ⊢
      exact Layout.grounded_of_hit hcell harea h.bound hhit
    all_goals cases hs
  | @nudge rows delta row container hdelta =>
    obtain ⟨action, haction, hnudge⟩ | hs | ⟨files, hs⟩ | ⟨now, hs⟩ := inputStep?_cases hs
    · obtain ⟨hasks, layout, hlayout, rfl, rfl⟩ := stepOf?_nudge hnudge
      have hdrawn : drawn = true ∧ (rows = 1 ∨ app.dragging = false) := by
        obtain ⟨rfl, rfl⟩ | ⟨rfl, rfl⟩ := hasks
        · rw [inTime, haction] at htime
          exact ⟨htime, .inl rfl⟩
        · simp only [inTime, haction, Bool.and_eq_true, Bool.not_eq_true'] at htime
          exact ⟨htime.1, .inr htime.2⟩
      obtain ⟨area, harea, rfl⟩ := hfresh hdrawn.1 layout hlayout
      rw [hcellApp] at hdelta
      obtain ⟨⟨target, moved⟩, hmoved, rfl⟩ := Option.map_eq_some_iff.1 hdelta
      have hdrawnRow := Layout.grounded_of_drawn hcell harea h.bound
      refine ⟨(hdrawnRow.move hcell h.divides hmoved).2, fun reached hreached => ?_⟩
      -- a drag is not told of the key: a row more leaves it grounded, and a row less finds no drag
      rcases hdrawn.2 with rfl | hidle
      · obtain ⟨least, most, -, -, ⟨-, -, hgrown⟩ | ⟨hother, -⟩⟩ :=
          Layout.nudge_cases h.divides harea rfl (.inl rfl) hdelta
        · refine (h.drag reached hreached).mono (SplitHeight.le_adjust ?_ ?_)
          · rw [hgrown, ← Int.natCast_mul]
            omega
          · exact app.console.desk.height.le_max
        · cases hother
      · rw [dragging, hreached] at hidle
        cases hidle
    all_goals cases hs

theorem handle (h : Bounded link cell app) (hcell : cell ≤ 99) {drawn : Bool}
    (hfresh : drawn = true → app.Fresh) (htime : app.inTime drawn input = true) :
    Bounded link cell (app.handle input) := by
  obtain ⟨past, hcoherent⟩ := h.coherent
  have hcellAfter : (app.handle input).cell = cell := (run_cell app [input]).trans h.cell_eq
  have hconsole := handle_console app input
  cases hs : app.inputStep? input with
  | none =>
    rw [hs] at hconsole
    change _ = app.console at hconsole
    exact ⟨⟨_, hcoherent.handle input⟩, hcellAfter, hconsole ▸ h.divides, hconsole ▸ h.bound,
      hconsole ▸ h.drag⟩
  | some s =>
    rw [hs] at hconsole
    change _ = app.console.step s at hconsole
    obtain ⟨hbound, hdrag⟩ :=
      h.step hcell hfresh htime hs (Console.handles_step (inputStep?_plain hs))
    exact ⟨⟨_, hcoherent.handle input⟩, hcellAfter, hconsole ▸ Console.divides_step h.divides s,
      hconsole ▸ hbound, hconsole ▸ hdrag⟩

theorem run (h : Bounded link cell app) (hcell : cell ≤ 99) {drawn : Bool}
    (hfresh : drawn = true → app.Fresh) {inputs : List Input}
    (hsteady : app.steady drawn inputs = true) : Bounded link cell (app.run inputs) := by
  induction inputs generalizing app drawn with
  | nil => exact h
  | cons input rest ih =>
    rw [steady, Bool.and_eq_true] at hsteady
    exact ih (h.handle hcell hfresh hsteady.1) h.fresh_of_draw hsteady.2

end Bounded

theorem start_drag (link : ExportLink) (cell : Nat) (store : Option Store) (source : Source)
    (files : Disk) (now : Clock) :
    (start link cell store source files now).console.splitter.drag = none := by
  rw [← Option.not_isSome_iff_eq_none]
  intro hdrag
  obtain ⟨hheld, -⟩ | hlost := (explains_start link cell store source files now).1 hdrag
  · cases hheld
  · exact not_lasting_nil _ _ hlost

theorem Bounded.of_start {store : Option Store} {source : Source} {files : Disk} {now : Clock}
    (he : app = start link cell store source files now)
    (h : Layout.splitterLowerBound ≤ app.console.desk.height.pixels) : Bounded link cell app where
  coherent := ⟨[], he ▸ coherent_start link cell store source files now⟩
  cell_eq := he ▸ rfl
  divides := he ▸ run_divides link cell store source files now []
  bound := h
  drag drag hsome := by
    rw [he, start_drag] at hsome
    cases hsome

/-- On an application that starts with a height of at least the 200 pixels of the bound: whatever
the inputs are, an input that takes the height below the bound asks for a move from a row that is
below the height. And the height keeps the bound throughout, if cells have at most 99 pixels and all
inputs come in time. -/
theorem lower_bound_kept (link : ExportLink) (cell : Nat) (store : Option Store)
    (source : Source) (files : Disk) (now : Clock) (inputs : List Input) :
    let started := start link cell store source files now
    Layout.splitterLowerBound ≤ started.console.desk.height.pixels →
    (∀ before input after, inputs = before ++ input :: after →
      let app := started.run before
      Layout.splitterLowerBound ≤ app.console.desk.height.pixels →
      (app.handle input).console.desk.height.pixels < Layout.splitterLowerBound →
      ∃ s row, app.inputStep? input = some s ∧ app.console.reckoned? s = some row ∧
        app.console.desk.height.pixels < row * max cell 1) ∧
    (cell ≤ 99 → started.steady false inputs = true →
      ∀ before after, inputs = before ++ after →
        Layout.splitterLowerBound ≤ (started.run before).console.desk.height.pixels) := by
  intro started hbound
  refine ⟨fun before input after _ => ?_, fun hcell hsteady before after he => ?_⟩
  · intro app hkept hlost
    have hdivides : Divides app.console.splitter cell :=
      run_divides link cell store source files now before
    rw [handle_console] at hlost
    cases hs : app.inputStep? input with
    | none =>
      rw [hs] at hlost
      exact absurd hlost (Nat.not_lt.2 hkept)
    | some s =>
      rw [hs] at hlost
      obtain ⟨row, hrow, hbelow⟩ :=
        (Console.handles_step (inputStep?_plain hs)).below hdivides hkept hlost
      exact ⟨s, row, rfl, hrow, hbelow⟩
  · have hstart : Bounded link cell started := .of_start rfl hbound
    have hbefore : started.steady false before = true := steady_of_append (he ▸ hsteady)
    exact (hstart.run hcell (fun hdrawn => absurd hdrawn Bool.false_ne_true) hbefore).bound

/-- The handle dragged to the top and down again and released, and a key after the next draw. -/
def dragThenKey : List Input :=
  [drawAll, .mouse ⟨.down .left, 40, 21⟩, .mouse ⟨.drag .left, 40, 2⟩, .mouse ⟨.drag .left, 40, 15⟩,
    .mouse ⟨.up .left, 40, 15⟩, drawAll, .key ⟨.up, true, false, false⟩]

theorem drag_then_key_keeps_bound :
    Layout.splitterLowerBound ≤ sampleDesk.console.desk.height.pixels ∧
    sampleDesk.steady false dragThenKey = true ∧
    (sampleDesk.run (dragThenKey.take 3)).console.desk.height.pixels = 222 ∧
    Layout.splitterLowerBound ≤ (sampleDesk.run dragThenKey).console.desk.height.pixels := by
  refine ⟨by decide, by decide, by decide, ?_⟩
  obtain ⟨-, hkept⟩ :=
    lower_bound_kept ⟨[]⟩ 16 none .sample .empty ⟨0, 0, 0⟩ dragThenKey (by decide)
  exact hkept (by decide) (by decide) dragThenKey [] (List.append_nil _).symm

/-- The handle pressed, two rows taken from the editor by keys, each followed by a draw, and the
handle dragged to the top. -/
def keysInDrag : List Input :=
  [drawAll, .mouse ⟨.down .left, 40, 21⟩, .key ⟨.up, true, false, false⟩, drawAll,
    .key ⟨.up, true, false, false⟩, drawAll, .mouse ⟨.drag .left, 40, 5⟩]

/-- The keys leave the handle in row 19, but the drag reckons from row 21. -/
theorem keys_in_drag_lose_bound :
    Layout.splitterLowerBound ≤ sampleDesk.console.desk.height.pixels ∧
    (sampleDesk.run (keysInDrag.take 6)).console.desk.height.pixels = 318 ∧
    (sampleDesk.run (keysInDrag.take 6)).layout.map (·.splitter.y) = some 19 ∧
    (sampleDesk.run keysInDrag).console.desk.height.pixels = 190 ∧
    190 < Layout.splitterLowerBound := by
  refine ⟨by decide, by decide, by decide, by decide, by decide⟩

/-- With cells of 100 pixels keys alone lose the bound, although each follows a draw. -/
example :
    let shrink : Input := .key ⟨.up, true, false, false⟩
    let tall := start ⟨[]⟩ 100 none .sample .empty ⟨0, 0, 0⟩
    tall.steady false [drawAll, shrink, drawAll, shrink] = true ∧
    (tall.run [drawAll, shrink]).console.desk.height.pixels = 250 ∧
    (tall.run [drawAll, shrink, drawAll, shrink]).console.desk.height.pixels = 150 := by
  decide

end App

end QueryDesk
