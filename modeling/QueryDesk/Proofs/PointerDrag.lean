import QueryDesk.Proofs.HandleRow

/-!
# The handle under the pointer

A drag goes by rows while the height is kept in pixels, so a height that is no whole number of rows
has a rest below the row of its handle. A drag that starts from the drawn handle, in the range of
the splitter, carries this rest along: after each move the height is the row reached and the same
rest. The height that a drag ends with therefore depends on its last row only, and the next draw has
the handle in that row.

With cells of at most 49 pixels the range of the splitter leaves at least five rows on either side
of the handle. The rows that the editor has at least and the screen needs besides are fewer, so the
range alone says where the handle is drawn.
-/
namespace QueryDesk

open QueryDesk.Preferences (Store)
open QueryDesk.Files (Disk)
open QueryDesk.Layout (ConsoleLayout consoleLayout Divides)

namespace Layout

variable {cell rows least most : Nat}

/-- A range so far from both ends of the split region that neither bound on the editor's rows comes
into play. -/
theorem range_of_small_cell (hcell : cell ≤ 49)
    (h : splitBounds splitterLowerBound splitterHandleOffset cell rows = some (least, most)) :
    minEditorRows ≤ least ∧ most + (2 + minResultRows) ≤ rows := by
  obtain ⟨hle, hleast, hmost⟩ := splitBounds_eq_some h
  have hlt := (spans_of_bounds h).lt
  have hpos := cell_pos cell
  have hsmall : max cell 1 ≤ 49 := Nat.max_le.2 ⟨hcell, by decide⟩
  generalize max cell 1 = c at hpos hsmall hleast hmost
  simp only [splitterLowerBound, splitterHandleOffset] at hleast hmost
  simp only [minEditorRows, minResultRows]
  have hfive : 5 ≤ least := by
    rw [hleast, Nat.le_div_iff_mul_le hpos]
    omega
  have hroom : most * c ≤ rows * c - 200 := (Nat.le_div_iff_mul_le hpos).1 (Nat.le_of_eq hmost)
  have hfew : (most + 4) * c < rows * c := by
    have hsum : (most + 4) * c = most * c + 4 * c := Nat.add_mul ..
    have hpart : 1 ≤ most * c := Nat.le_trans hpos (Nat.le_mul_of_pos_left c (by omega))
    omega
  exact ⟨by omega, Nat.lt_of_mul_lt_mul_right hfew⟩

/-- There the editor has the rows of its height, brought into the range. -/
theorem editorRows_of_small_cell (hcell : cell ≤ 49) (hrows : rows ≤ maxCoordinate)
    (h : splitBounds splitterLowerBound splitterHandleOffset cell rows = some (least, most))
    (basis : Nat) : editorRows basis cell rows = clamp least most (basis / max cell 1) := by
  obtain ⟨hleast, hmost⟩ := range_of_small_cell hcell h
  have hspan := spans_of_bounds h
  have hle := hspan.le
  rw [editorRows_of_bounds hrows h, hspan.shownRows_eq, clamp_eq hle]
  simp only [minEditorRows, minResultRows] at hleast hmost
  omega

theorem clamp_of_mem {n : Nat} (hleast : least ≤ n) (hmost : n ≤ most) :
    clamp least most n = n := by
  rw [clamp_eq (Nat.le_trans hleast hmost)]
  omega

theorem clamp_mem (h : least ≤ most) (n : Nat) :
    least ≤ clamp least most n ∧ clamp least most n ≤ most := by
  rw [clamp_eq h]
  omega

end Layout

namespace SplitHeight

/-- A height that stays in range moves by exactly what it is moved by. -/
theorem adjust_pixels {height : SplitHeight} {delta : Int}
    (hlow : 1 ≤ (height.pixels : Int) + delta)
    (hhigh : (height.pixels : Int) + delta ≤ (Layout.maxWord32 : Nat)) :
    ((height.adjust delta).pixels : Int) = height.pixels + delta := by
  simp only [adjust]
  omega

/-- A height of some rows and a rest that moves by whole rows keeps the rest. -/
theorem adjust_rows {height : SplitHeight} {cell row target rest : Nat}
    (h : height.pixels = row * cell + rest) (hpos : 1 ≤ target * cell)
    (hmax : target * cell + rest ≤ Layout.maxWord32) :
    (height.adjust (((target : Int) - row) * cell)).pixels = target * cell + rest := by
  have hsum : (height.pixels : Int) + ((target : Int) - row) * cell =
      (target * cell + rest : Nat) := by
    rw [h, Int.sub_mul, ← Int.natCast_mul, ← Int.natCast_mul]
    omega
  have hadjust : ((height.adjust (((target : Int) - row) * cell)).pixels : Int) = _ :=
    adjust_pixels (by omega) (by omega)
  omega

end SplitHeight

namespace Splitter

variable {s : Splitter} {container : Rect} {least most start wanted row target : Nat}

/-- The way between two rows of a range fits 32 bits if the way from the top to the last row does.
-/
theorem way_fits {cell : Nat} (htarget : target ≤ most) (hstart : start ≤ most)
    (hfit : most * cell < 0x80000000) :
    -0x80000000 ≤ ((target : Int) - start) * cell ∧
      ((target : Int) - start) * cell < 0x80000000 := by
  have hway : ((target : Int) - start) * cell = (target * cell : Nat) - (start * cell : Nat) := by
    rw [Int.sub_mul, Int.natCast_mul, Int.natCast_mul]
  have htargetWay := Nat.mul_le_mul_right cell htarget
  have hstartWay := Nat.mul_le_mul_right cell hstart
  rw [hway]
  omega

/-- From a row in the range the handle goes to any row wanted, as far as the range reaches. -/
theorem delta?_of_mem (hb : s.bounds container = some (least, most)) (hleast : least ≤ start)
    (hmost : start ≤ most) (hfit : most * s.cell < 0x80000000)
    (ht : Layout.clamp least most wanted = target) :
    s.delta? container start wanted =
      if target = start then none else some (target, ((target : Int) - start) * s.cell) := by
  have hle := Nat.le_trans hleast hmost
  have hmem := Layout.clamp_mem hle wanted
  have hclamp := Layout.clamp_eq hle wanted
  rw [ht] at hmem hclamp
  simp only [delta?, hb, Option.bind_eq_bind, Option.bind_some, ht]
  by_cases hsame : target = start
  · simp [hsame]
  · have hdirection : start < wanted ↔ start < target := by omega
    simp [hsame, hdirection, way_fits hmem.2 hmost hfit]

/-- A drag from a row in the range is in the row wanted afterwards, as far as the range reaches. -/
theorem move_of_mem (hd : s.drag = some ⟨container, start⟩)
    (hb : s.bounds container = some (least, most)) (hleast : least ≤ start) (hmost : start ≤ most)
    (hfit : most * s.cell < 0x80000000)
    (ht : Layout.clamp least most (offsetIn container row) = target) :
    s.move row = ({ s with drag := some ⟨container, target⟩ },
      if target = start then none else some (((target : Int) - start) * s.cell)) := by
  simp only [move, hd, delta?_of_mem hb hleast hmost hfit ht]
  by_cases hsame : target = start
  · simp only [hsame, if_true, ← hd]
  · simp only [hsame, if_false]

end Splitter

namespace Console

/-- A move that goes some pixels moves the desk by them. -/
theorem moveSplitter_desk {c : Console} {row : Nat} {s : Splitter} {pixels : Option Int}
    (h : c.splitter.move row = (s, pixels)) :
    (c.moveSplitter row).splitter = s ∧
      (c.moveSplitter row).desk = (pixels.map c.desk.moved).getD c.desk := by
  simp only [moveSplitter, h]
  cases pixels with
  | none => exact ⟨rfl, rfl⟩
  | some pixels =>
    have hsettles := publish_of_settles (c := { c with splitter := s }) (.moved c.desk pixels)
    exact ⟨congrArg Console.splitter hsettles, congrArg Console.desk hsettles⟩

end Console

namespace App

variable {app : App}

/-- What happens while the handle is held: the pointer comes to a row, or the area is drawn again.
-/
inductive Pull where
  | point (row : Nat)
  | draw (screen : Screen)

def pull (area : Rect) (app : App) : Pull → App
  | .point row => app.update (.splitterDrag row)
  | .draw screen => (app.draw screen area).1

/-- The splitter is held in a row of its range, and the height is that row and a rest. -/
structure Pulled (area : Rect) (cell least most rest row : Nat) (app : App) : Prop where
  cell_eq : app.cell = cell
  shown : app.console.desk.targets.panelShown = true
  basis : app.console.desk.targets.editorBasis = app.console.desk.height.pixels
  divides : Divides app.console.splitter cell
  drag : app.console.splitter.drag = some ⟨⟨area.x, area.y, area.width, area.rows - 1⟩, row⟩
  least_le : least ≤ row
  le_most : row ≤ most
  height : app.console.desk.height.pixels = row * max cell 1 + rest

namespace Pulled

variable {area : Rect} {cell least most rest row : Nat}

theorem draw (h : Pulled area cell least most rest row app) (screen : Screen) (other : Rect) :
    Pulled area cell least most rest row (app.draw screen other).1 where
  cell_eq := (draw_cell app screen other).trans h.cell_eq
  shown := by
    rw [draw_console]
    exact h.shown
  basis := by
    rw [draw_console]
    exact h.basis
  divides := by
    rw [draw_console]
    exact h.divides
  drag := by
    rw [draw_console]
    exact h.drag
  least_le := h.least_le
  le_most := h.le_most
  height := by
    rw [draw_console]
    exact h.height

section

variable (hcell : cell ≤ 49) (harea : area.height ≤ maxCoordinate)
  (hb : Layout.splitBounds Layout.splitterLowerBound Layout.splitterHandleOffset cell
    (area.rows - 1) = some (least, most))
include hcell harea hb

/-- The pixels of a row in the range, and of the rows above it, are few. -/
theorem pixels_le {target : Nat} (htarget : target ≤ most) (hrest : rest < max cell 1) :
    target * max cell 1 + rest < 0x80000000 := by
  have hlt := (Layout.spans_of_bounds hb).lt
  have hsmall : max cell 1 ≤ 49 := Nat.max_le.2 ⟨hcell, by decide⟩
  have hrows : target ≤ 65535 := by
    have hheld := Nat.le_trans area.rows_le_height harea
    simp only [maxCoordinate] at hheld
    omega
  have hproduct := Nat.mul_le_mul hrows hsmall
  omega

/-- The pointer takes the handle along, as far as the range reaches, and the height keeps its rest.
-/
theorem point (h : Pulled area cell least most rest row app) (hrest : rest < max cell 1)
    (wanted : Nat) :
    Pulled area cell least most rest (Layout.clamp least most (wanted - area.y))
      (app.update (.splitterDrag wanted)) := by
  have hmem := Layout.clamp_mem (Nat.le_trans h.least_le h.le_most) (wanted - area.y)
  have hbounds := (h.divides.bounds_eq ⟨area.x, area.y, area.width, area.rows - 1⟩).trans hb
  have hfit : most * app.console.splitter.cell < 0x80000000 := by
    rw [h.divides.cell_eq]
    exact pixels_le hcell harea hb (Nat.le_refl _) (Layout.cell_pos cell)
  generalize ht : Layout.clamp least most (wanted - area.y) = target at hmem ⊢
  obtain ⟨hsplitter, hdesk⟩ := Console.moveSplitter_desk
    (Splitter.move_of_mem h.drag hbounds h.least_le h.le_most hfit ht)
  have hcellAfter : (app.update (.splitterDrag wanted)).cell = cell :=
    (update_frame app (.splitterDrag wanted)).2.1.trans h.cell_eq
  have hdivides : Divides (app.console.moveSplitter wanted).splitter cell := by
    rw [hsplitter]
    exact h.divides
  have hdrag := congrArg Splitter.drag hsplitter
  by_cases hsame : target = row
  · rw [if_pos hsame] at hdesk
    change _ = app.console.desk at hdesk
    exact ⟨hcellAfter, hdesk ▸ h.shown, hdesk ▸ h.basis, hdivides, hdrag, hmem.1, hmem.2,
      hdesk ▸ hsame ▸ h.height⟩
  · rw [if_neg hsame, h.divides.cell_eq] at hdesk
    change _ = app.console.desk.moved _ at hdesk
    have hpos : 1 ≤ target * max cell 1 :=
      Nat.mul_pos (Nat.le_trans (Layout.spans_of_bounds hb).pos hmem.1) (Layout.cell_pos cell)
    have hmax : target * max cell 1 + rest ≤ Layout.maxWord32 :=
      Nat.le_trans (Nat.le_of_lt (pixels_le hcell harea hb hmem.2 hrest)) (by decide)
    have hheight := SplitHeight.adjust_rows h.height hpos hmax
    rw [← Desk.moved_height, ← hdesk] at hheight
    have htargets := Desk.moved_targets app.console.desk
      (((target : Int) - row) * (max cell 1 : Nat))
    rw [← Desk.moved_height, ← hdesk] at htargets
    refine ⟨hcellAfter, ?_, ?_, hdivides, hdrag, hmem.1, hmem.2, hheight⟩
    · exact (congrArg Targets.panelShown htargets).trans h.shown
    · exact congrArg Targets.editorBasis htargets

/-- Held in a row, the handle is drawn in it. -/
theorem drawn_rows (h : Pulled area cell least most rest row app) (hrest : rest < max cell 1)
    (screen : Screen) :
    ∃ layout, (app.draw screen area).1.layout = some layout ∧ layout.editor.height = row := by
  have htwo := (Layout.spans_of_bounds hb).two_le
  refine ⟨_, by rw [draw_layout, h.shown, if_pos rfl], ?_⟩
  rw [(Layout.rows_of_layout htwo _ _).1, h.cell_eq, h.basis, h.height,
    Layout.editorRows_of_small_cell hcell (Rect.rows_pred_le harea) hb,
    Nat.mul_comm row, Nat.mul_add_div (Layout.cell_pos cell), Nat.div_eq_of_lt hrest, Nat.add_zero,
    Layout.clamp_of_mem h.least_le h.le_most]

/-- The handle stays in the range, wherever the pointer goes and whatever is drawn. -/
theorem pulls (h : Pulled area cell least most rest row app) (hrest : rest < max cell 1)
    (pulls : List Pull) :
    ∃ reached, Pulled area cell least most rest reached (pulls.foldl (pull area) app) := by
  induction pulls generalizing app row with
  | nil => exact ⟨row, h⟩
  | cons first later ih =>
    cases first with
    | point wanted => exact ih (h.point hcell harea hb hrest wanted)
    | draw screen => exact ih (h.draw screen area)

end

theorem draws (h : Pulled area cell least most rest row app) (screens : List Screen) :
    Pulled area cell least most rest row ((screens.map .draw).foldl (pull area) app) := by
  induction screens generalizing app with
  | nil => exact h
  | cons screen later ih => exact ih (h.draw screen area)

end Pulled

/-- A draw of a console in front, after any inputs, keeps the layout for the height in use. -/
theorem Coherent.layout_of_draw {link : ExportLink} {past : List Moment}
    (h : Coherent link past app) (hpanel : app.panel = .console) (screen : Screen) (area : Rect) :
    (app.draw screen area).1.layout =
      some (consoleLayout area app.console.desk.height.pixels app.cell) := by
  rw [draw_layout, h.shown, h.front.1 hpanel, if_pos rfl, h.desk.basis]

/-- The splitter of a console keeps its bounds in every run. -/
theorem run_divides (link : ExportLink) (cell : Nat) (store : Option Store) (source : Source)
    (files : Disk) (now : Clock) (inputs : List Input) :
    Divides ((start link cell store source files now).run inputs).console.splitter cell :=
  run_console_of_start (P := fun c => Divides c.splitter cell) link cell store source files now
    inputs rfl fun _ s h => Console.divides_step h s

/-- A press on the drawn handle, in the range, holds the handle in the row of the height. -/
theorem pulled_of_press {link : ExportLink} {past : List Moment} (h : Coherent link past app)
    (hpanel : app.panel = .console) (hdivides : Divides app.console.splitter app.cell)
    (screen : Screen) (area : Rect) {least most : Nat} (hcell : app.cell ≤ 49)
    (harea : area.height ≤ maxCoordinate)
    (hb : Layout.splitBounds Layout.splitterLowerBound Layout.splitterHandleOffset app.cell
      (area.rows - 1) = some (least, most))
    (hleast : least ≤ app.console.desk.height.pixels / max app.cell 1)
    (hmost : app.console.desk.height.pixels / max app.cell 1 ≤ most) :
    Pulled area app.cell least most (app.console.desk.height.pixels % max app.cell 1)
      (app.console.desk.height.pixels / max app.cell 1)
      ((app.draw screen area).1.update (.splitterDragStart
        (consoleLayout area app.console.desk.height.pixels app.cell).splitter.y)) := by
  have hlayout := h.layout_of_draw hpanel screen area
  have hconsole := draw_console app screen area
  have hrow : Splitter.offsetIn (consoleLayout area app.console.desk.height.pixels app.cell).split
      (consoleLayout area app.console.desk.height.pixels app.cell).splitter.y =
        app.console.desk.height.pixels / max app.cell 1 := by
    rw [Layout.offsetIn_drawn (Layout.spans_of_bounds hb).two_le,
      Layout.editorRows_of_small_cell hcell (Rect.rows_pred_le harea) hb,
      Layout.clamp_of_mem hleast hmost]
  rw [Layout.split_eq] at hrow
  simp only [update, hlayout, onConsole, Console.pressSplitter, Splitter.press, hconsole,
    Layout.split_eq, hrow]
  exact ⟨draw_cell app screen area, h.shown.trans (h.front.1 hpanel), h.desk.basis, hdivides, rfl,
    hleast, hmost, (Nat.div_add_mod' _ _).symm⟩

/-- On an application that any inputs have led to, with the console in front and drawn on an area,
cells of at most 49 pixels and the row of the height in the range of the splitter: a press on the
handle, then moves of the pointer with draws of the area between them, up to a last move. The height
ends as if the pointer had gone to the last row at once; the next draw has the handle there, if the
range allows, or else at the end of the range; and back in the row of the press the height is the
one before the press. -/
theorem handle_follows_pointer (link : ExportLink) (cell : Nat) (store : Option Store)
    (source : Source) (files : Disk) (now : Clock) (inputs : List Input) (screen : Screen)
    (area : Rect) (hcell : cell ≤ 49) (harea : area.height ≤ maxCoordinate) :
    let app := (start link cell store source files now).run inputs
    app.panel = .console →
    let drawn := (app.draw screen area).1
    let height := drawn.console.desk.height.pixels
    let layout := consoleLayout area height cell
    drawn.layout = some layout ∧
    ∀ least most, Layout.splitBounds 200 200 cell layout.split.height = some (least, most) →
    least ≤ height / max cell 1 → height / max cell 1 ≤ most →
    ∀ (pulls : List Pull) (row : Nat) (screens : List Screen),
    let pressed := drawn.update (.splitterDragStart layout.splitter.y)
    let dragged := (pulls ++ Pull.point row :: screens.map Pull.draw).foldl (pull area) pressed
    let reached := Layout.clamp least most (row - layout.split.y)
    (dragged.console.desk.height.pixels : Int) =
        height + ((reached : Int) - (height / max cell 1 : Nat)) * (max cell 1 : Nat) ∧
    (∀ screen', ∃ again, (dragged.draw screen' area).1.layout = some again ∧
      again.editor.height = reached) ∧
    (row = layout.splitter.y → dragged.console.desk.height = drawn.console.desk.height) := by
  intro app hpanel drawn height layout
  have hcoherent : Coherent link _ app :=
    (coherent_start link cell store source files now).run inputs
  have hcellApp : app.cell = cell := run_cell (start link cell store source files now) inputs
  have hheight : height = app.console.desk.height.pixels := by
    change (app.draw screen area).1.console.desk.height.pixels = _
    rw [draw_console]
  have hlayout : drawn.layout = some layout := by
    change (app.draw screen area).1.layout = some (consoleLayout area height cell)
    rw [hcoherent.layout_of_draw hpanel, hheight, hcellApp]
  refine ⟨hlayout, fun least most hb hleast hmost pulls row screens => ?_⟩
  intro pressed dragged reached
  have hsplit : layout.split = ⟨area.x, area.y, area.width, area.rows - 1⟩ :=
    Layout.split_eq area height cell
  have hdivides : Divides app.console.splitter app.cell :=
    hcellApp.symm ▸ run_divides link cell store source files now inputs
  have hrest : height % max cell 1 < max cell 1 := Nat.mod_lt _ (Layout.cell_pos cell)
  change Layout.splitBounds Layout.splitterLowerBound Layout.splitterHandleOffset cell
    layout.split.height = _ at hb
  rw [hsplit] at hb
  have hpressed : Pulled area cell least most (height % max cell 1) (height / max cell 1)
      pressed := by
    have hpress := @pulled_of_press _ _ _ hcoherent hpanel hdivides screen area least most
    rw [hcellApp, ← hheight] at hpress
    exact hpress hcell harea hb hleast hmost
  -- the row that the earlier pulls reach is lost again; the rest of the height is what they keep
  obtain ⟨before, hbefore⟩ := hpressed.pulls hcell harea hb hrest pulls
  have hdragged : Pulled area cell least most (height % max cell 1) reached dragged := by
    have hlast := hbefore.point hcell harea hb hrest row
    simp only [dragged, List.foldl_append, List.foldl_cons, reached, hsplit]
    exact hlast.draws screens
  have hstart : height / max cell 1 * max cell 1 + height % max cell 1 = height :=
    Nat.div_add_mod' ..
  refine ⟨?_, fun screen' => hdragged.drawn_rows hcell harea hb hrest screen', fun hrow => ?_⟩
  · rw [hdragged.height, Int.sub_mul, ← Int.natCast_mul, ← Int.natCast_mul]
    omega
  · have hback : row - layout.split.y = height / max cell 1 := by
      have hdrawn := Layout.offsetIn_drawn (Layout.spans_of_bounds hb).two_le height cell
      rw [Layout.editorRows_of_small_cell hcell (Rect.rows_pred_le harea) hb,
        Layout.clamp_of_mem hleast hmost] at hdrawn
      rw [hrow]
      exact hdrawn
    have hreached : reached = height / max cell 1 := by
      simp only [reached, hback, Layout.clamp_of_mem hleast hmost]
    have hpixels : dragged.console.desk.height.pixels = drawn.console.desk.height.pixels := by
      rw [hdragged.height, hreached, hstart]
    rw [← SplitHeight.ofNat_pixels dragged.console.desk.height, hpixels, SplitHeight.ofNat_pixels]

/-- With room for 13 to 36 rows of 16 pixels, the handle in row 21 and 14 pixels below it: a pointer
that goes to the top, past the bottom and then to row 30 leaves the height nine rows larger. -/
theorem drag_ends_in_row_thirty :
    let app := (start ⟨[]⟩ 16 none .sample .empty ⟨0, 0, 0⟩).run [.resize 80 50]
    let drawn := (app.draw (.blank 80 50) ⟨0, 0, 80, 50⟩).1
    let layout := consoleLayout ⟨0, 0, 80, 50⟩ drawn.console.desk.height.pixels 16
    let pulls := [Pull.point 0, .draw (.blank 80 50), .point 49]
    let dragged := (pulls ++ [Pull.point 30]).foldl (pull ⟨0, 0, 80, 50⟩)
      (drawn.update (.splitterDragStart layout.splitter.y))
    Layout.splitBounds 200 200 16 layout.split.height = some (13, 36) ∧
    drawn.console.desk.height.pixels = 350 ∧ layout.splitter.y = 21 ∧
    (dragged.console.desk.height.pixels : Int) = 350 + (30 - 21) * 16 := by
  obtain ⟨-, hdrag⟩ := handle_follows_pointer ⟨[]⟩ 16 none .sample .empty ⟨0, 0, 0⟩ [.resize 80 50]
    (.blank 80 50) ⟨0, 0, 80, 50⟩ (by decide) (by decide) rfl
  exact ⟨by decide, by decide, by decide, (hdrag 13 36 (by decide) (by decide) (by decide)
    [.point 0, .draw (.blank 80 50), .point 49] 30 []).1⟩

end App

end QueryDesk
