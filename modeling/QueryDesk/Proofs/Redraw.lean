import QueryDesk.Proofs.Coherence
import QueryDesk.Proofs.EditorView

/-!
# Drawing again

Drawing is the one input that looks without touching: it keeps the area and the layout for the mouse
events to come and brings the scroll position of the panel in front back into range, and that is
all. A position that has been brought back is in range, so with nothing in between the same picture
is drawn again and nothing moves.
-/
namespace QueryDesk

open QueryDesk.Preferences (Store)
open QueryDesk.Files (Disk)
open QueryDesk.Layout (ConsoleLayout consoleLayout)

namespace Editor

/-- A view that shows the cursor stays where it is. -/
theorem scrolledTo_scrolledTo (e : Editor) (height : Nat) :
    (e.scrolledTo height).scrolledTo height = e.scrolledTo height := by
  rcases Nat.eq_zero_or_pos height with rfl | hheight
  · simp only [scrolledTo, if_true]
  · have hrow : (e.scrolledTo height).row = e.row := by
      rw [scrolledTo_eq]
      rfl
    obtain ⟨hupper, hlower, -⟩ := e.scrolledTo_in_view hheight
    obtain ⟨-, -, hstill⟩ := (e.scrolledTo height).scrolledTo_in_view hheight
    rw [hrow] at hstill
    rw [scrolledTo_eq, hstill hupper hlower]

/-- What is drawn on a second screen is what the first time would have drawn there. -/
theorem draw_draw (e : Editor) (s next : Screen) (area : Rect) :
    (e.draw s area).1.draw next area = e.draw next area := by
  have htext : (e.scrolledTo (area.height - 2)).text = e.text := by
    rw [scrolledTo_eq]
    rfl
  rw [e.draw_eq s area, draw_eq, draw_eq, scrolledTo_scrolledTo, htext]

end Editor

namespace Help

theorem draw_draw (h : Help) (s next : Screen) (area : Rect) :
    (h.draw s area).1.draw next area = h.draw next area := by
  simp only [draw, Nat.min_assoc, Nat.min_self]

end Help

namespace App

variable {app : App}

theorem draw_of_shown (h : app.console.desk.targets.panelShown = true) (s : Screen) (area : Rect) :
    app.draw s area = { app with area }.drawConsole s area := if_pos h

theorem draw_of_hidden (h : app.console.desk.targets.panelShown ≠ true) (s : Screen) (area : Rect) :
    app.draw s area = ({ app with area, help := (app.help.draw s area).1, layout := none },
      (app.help.draw s area).2, none) := if_neg h

/-- Of the editor a picture of the console has only what the editor draws, and of the layout of the
draw before nothing. -/
theorem drawConsole_congr (app : App) {other : Editor} (kept : Option ConsoleLayout) (s : Screen)
    (area : Rect)
    (h : let layout := consoleLayout area app.console.desk.targets.editorBasis app.cell
      other.draw s layout.editor = app.editor.draw s layout.editor) :
    { app with editor := other, layout := kept }.drawConsole s area = app.drawConsole s area := by
  simp only [drawConsole, h]
  rfl

/-- On a second screen the first draw would have drawn the same and left the same behind. -/
theorem draw_draw (app : App) (s next : Screen) (area : Rect) :
    (app.draw s area).1.draw next area = app.draw next area := by
  have hconsole : (app.draw s area).1.console = app.console := draw_console app s area
  by_cases hshown : app.console.desk.targets.panelShown = true
  · have hagain : (app.draw s area).1.console.desk.targets.panelShown = true := by
      rwa [hconsole]
    rw [draw_of_shown hagain, draw_of_shown hshown, draw_of_shown hshown]
    exact drawConsole_congr { app with area } _ next area (Editor.draw_draw _ s next _)
  · have hagain : (app.draw s area).1.console.desk.targets.panelShown ≠ true := by
      rwa [hconsole]
    rw [draw_of_hidden hagain, draw_of_hidden hshown, draw_of_hidden hshown, Help.draw_draw]

/-- A draw changes where the editor and the help are scrolled to and what it keeps of itself. -/
theorem draw_frame (app : App) (s : Screen) (area : Rect) :
    let drawn := (app.draw s area).1
    drawn = { app with
      editor := { app.editor with scroll := drawn.editor.scroll }
      help := { scroll := drawn.help.scroll }
      area
      layout := drawn.layout } := by
  intro drawn
  by_cases hshown : app.console.desk.targets.panelShown = true
  · have hdrawn : drawn = ({ app with area }.drawConsole s area).1 :=
      congrArg Prod.fst (draw_of_shown hshown s area)
    have heditor : drawn.editor = { app.editor with scroll := drawn.editor.scroll } := by
      rw [hdrawn]
      exact Editor.scrolledTo_eq ..
    rw [← heditor, hdrawn]
    rfl
  · have hdrawn : drawn = { app with
        area
        help := (app.help.draw s area).1
        layout := none } := congrArg Prod.fst (draw_of_hidden hshown s area)
    rw [hdrawn]

/-- After any inputs from the start, a draw on any part of any screen: nothing but the area and the
layout that it keeps and the scroll positions of the editor and the help are changed, of these two
only the one in front, and nothing is told to anyone. Drawn there again with no input in between,
the cells with their styles, the cursor and what is left behind are the same. -/
theorem draw_again (link : ExportLink) (cell : Nat) (store : Option Store) (source : Source)
    (files : Disk) (now : Clock) (inputs : List Input) (s : Screen) (area : Rect) :
    let app := (start link cell store source files now).run inputs
    let drawn := (app.draw s area).1
    drawn = { app with
      editor := { app.editor with scroll := drawn.editor.scroll }
      help := { scroll := drawn.help.scroll }
      area
      layout := drawn.layout } ∧
    drawn.console.journal = app.console.journal ∧
    (drawn.help = app.help ∨ app.panel = .help) ∧
    (drawn.editor = app.editor ∨ app.panel = .console) ∧
    drawn.draw s area = app.draw s area := by
  intro app drawn
  have h : Coherent link _ app := (coherent_start link cell store source files now).run inputs
  have hjournal : drawn.console.journal = app.console.journal :=
    congrArg Console.journal (draw_console app s area)
  refine ⟨app.draw_frame s area, hjournal, ?_, ?_, app.draw_draw s s area⟩
  · cases hpanel : app.panel with
    | help => exact .inr rfl
    | console =>
      have hshown : app.console.desk.targets.panelShown = true :=
        h.shown.trans (h.front.1 hpanel)
      exact .inl (congrArg (·.1.help) (draw_of_shown hshown s area))
  · cases hpanel : app.panel with
    | console => exact .inr rfl
    | help =>
      have hhidden : app.console.desk.targets.panelShown ≠ true := by
        rw [h.shown, ne_eq, ← h.front, hpanel]
        decide
      exact .inl (congrArg (·.1.editor) (draw_of_hidden hhidden s area))

end App
end QueryDesk
