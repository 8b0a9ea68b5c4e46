import QueryDesk.Proofs.Coherence
import QueryDesk.Proofs.DrawnRows

/-!
# The view of the grid

A grid hears datasets and errors on the bus and is scrolled by the user. Datasets come with fewer
rows than the last one and errors with none, and still the first row in view is always one of the
rows. What is drawn below the header line and the rule are the rows from there on, each in a line
that does not depend on where the view begins. Steps of one row lead to any row from any other.
-/
namespace QueryDesk

open Screen (Cell.inked Line RowShows Scrollbar Style inkAt cutRow rowShows_inside_all)

/-! ### The scroll bar -/

namespace Screen

variable {s : Screen} {area : Rect} {column x y : Nat}

/-- Symbols put into one column leave the other columns alone. -/
theorem cell?_foldl_put (symbols : List (String × Nat)) (h : column ≠ x) :
    (symbols.foldl (fun s symbol => s.put x (area.y + symbol.2) symbol.1 .plain) s).cell? column y =
      s.cell? column y := by
  induction symbols generalizing s with
  | nil => rfl
  | cons symbol symbols ih =>
    rw [List.foldl_cons, ih, put, cell?_modify, if_neg fun hhere => h hhere.1]

/-- A scroll bar takes the last column of its area. -/
theorem Scrollbar.cell?_draw (bar : Scrollbar) (h : column ≠ area.right - 1) :
    (bar.draw s area).cell? column y = s.cell? column y := by
  rw [Scrollbar.draw]
  split
  · rfl
  · exact cell?_foldl_put _ h

/-- The lines that show in the rows inside the border of an area, from the upper edge down, in the
cells of the screen before. In the last column of the area there may be something else. -/
def ViewShows (before after : Screen) (area : Rect) (lines : List Line) : Prop :=
  ∀ k < area.height - 2, ∀ column ≠ area.right - 1,
    after.cell? column (area.y + 1 + k) =
      (before.cell? column (area.y + 1 + k)).map
        (Cell.inked (inkAt (area.x + 1)
          (cutRow (area.width - 2) 0 (lines[k]?.getD []).inked) column))

end Screen

/-- What happens to a grid: a query has an answer or fails, or the user asks for something. -/
inductive GridStep where
  | dataset (dataset : Dataset)
  | error (message : String)
  | act (action : Action)

namespace Grid

variable {g : Grid} {dataset : Dataset} {action : Action} {row n : Nat}

/-! ### Scrolling -/

/-- The actions that scroll. -/
def scrollActions : List Action := [.scrollUp, .scrollDown, .pageUp, .pageDown]

theorem foldl_scrollUp (g : Grid) (n : Nat) :
    (List.replicate n Action.scrollUp).foldl update g = { g with scroll := g.scroll - n } := by
  induction n generalizing g with
  | zero => rfl
  | succ n ih =>
    rw [List.replicate_succ, List.foldl_cons, ih]
    simp only [update]
    rw [Nat.sub_sub, Nat.add_comm 1 n]

theorem foldl_scrollDown (h : g.scroll + n < g.rows.length) :
    (List.replicate n Action.scrollDown).foldl update g = { g with scroll := g.scroll + n } := by
  induction n generalizing g with
  | zero => rfl
  | succ n ih =>
    have hstep : g.update .scrollDown = { g with scroll := g.scroll + 1 } :=
      if_pos (by omega)
    have hrows : ({ g with scroll := g.scroll + 1 } : Grid).rows = g.rows := rfl
    rw [List.replicate_succ, List.foldl_cons, hstep, ih (by rw [hrows]; dsimp only; omega)]
    dsimp only
    rw [Nat.add_assoc, Nat.add_comm 1 n]

/-- Steps up or steps down make any row the first in view and change nothing else. -/
theorem exists_scroll_to (h : row < g.rows.length) :
    ∃ actions : List Action, (∀ action ∈ actions, action ∈ scrollActions) ∧
      actions.foldl update g = { g with scroll := row } := by
  rcases Nat.le_total row g.scroll with hup | hdown
  · refine ⟨List.replicate (g.scroll - row) .scrollUp, fun action haction => ?_, ?_⟩
    · rw [List.eq_of_mem_replicate haction]
      decide
    · rw [foldl_scrollUp, Nat.sub_sub_self hup]
  · refine ⟨List.replicate (row - g.scroll) .scrollDown, fun action haction => ?_, ?_⟩
    · rw [List.eq_of_mem_replicate haction]
      decide
    · rw [foldl_scrollDown (by omega), Nat.add_sub_cancel' hdown]

/-! ### What is drawn -/

/-- The line of a row of a dataset. Its columns are those of the whole table. -/
def rowLine (dataset : Dataset) (row : List String) : Line :=
  Table.row (Table.columnWidths dataset.headers dataset.rows) (.ink .white) row

/-- The two lines above the rows. -/
def headLines (dataset : Dataset) : List Line :=
  let widths := Table.columnWidths dataset.headers dataset.rows
  [Table.row widths (Style.ink .cyan).inBold dataset.headers, Table.rule widths]

theorem lines_eq (h : dataset.headers ≠ []) :
    Table.lines dataset.headers dataset.rows =
      headLines dataset ++ dataset.rows.map (rowLine dataset) := by
  rw [Table.lines, if_neg (by simpa using h)]
  rfl

/-- The head stays and the rows before the first in view are left out. -/
theorem content_eq (h : dataset.headers ≠ []) (scroll : Nat) :
    content dataset scroll =
      headLines dataset ++ (dataset.rows.drop scroll).map (rowLine dataset) := by
  rw [content, lines_eq h, List.map_drop]
  rfl

/-- The border of a grid without an error. -/
def frame (g : Grid) (s : Screen) (area : Rect) : Screen :=
  ({ title := g.title, borderStyle := .ink .darkGray } : Screen.Panel).draw s area

theorem withoutEndRows_right (area : Rect) (h : 2 ≤ area.height) :
    area.withoutEndRows.right = area.right := by
  rw [Rect.withoutEndRows, if_neg (Nat.not_lt.2 h)]
  rfl

/-- Inside its border a grid without an error shows its table, and beside it at most a scroll
bar. -/
theorem draw_shows (hdataset : g.dataset = some dataset) (herror : g.error = none) (s : Screen)
    {area : Rect} (hright : area.x + area.width ≤ maxCoordinate)
    (hbottom : area.y + area.height ≤ maxCoordinate) :
    Screen.ViewShows (g.frame s area) (g.draw s area) area (content dataset g.scroll) := by
  intro k hk column hcolumn
  have hline := rowShows_inside_all (g.frame s area) (content dataset g.scroll) hk hright hbottom
    column
  rw [← hline]
  simp only [draw, herror, hdataset]
  split
  · rw [Scrollbar.cell?_draw]
    · rfl
    · rwa [withoutEndRows_right area (by omega)]
  · rfl

end Grid

namespace Desk

variable {d : Desk} {steps : List GridStep}

/-- Tells an event on a bus on which only the grid listens. -/
def tellGrid (d : Desk) (topic : String) (payload : Payload) : Desk :=
  match Bus.publish react Console.depth topic payload ⟨Console.gridRegistrations, d⟩ with
  | some (world, _) => world.state
  | none => d

def gridStep (d : Desk) : GridStep → Desk
  | .dataset dataset => d.tellGrid Topic.queryDataset (.dataset dataset)
  | .error message => d.tellGrid Topic.queryError (.error message)
  | .act action => { d with grid := d.grid.update action }

theorem gridStep_dataset (d : Desk) (dataset : Dataset) :
    d.gridStep (.dataset dataset) = { d with grid := .ofDataset dataset } := rfl

theorem gridStep_error (d : Desk) (message : String) :
    d.gridStep (.error message) = { d with grid := d.grid.fail message } := rfl

theorem gridSteps_act (d : Desk) (actions : List Action) :
    (actions.map GridStep.act).foldl gridStep d =
      { d with grid := actions.foldl Grid.update d.grid } := by
  induction actions generalizing d with
  | nil => rfl
  | cons action actions ih => exact ih _

/-- A grid is scrolled to one of its rows, or not at all if it has none. -/
theorem scroll_gridStep (h : d.grid.scroll < max 1 d.grid.rows.length) (step : GridStep) :
    (d.gridStep step).grid.scroll < max 1 (d.gridStep step).grid.rows.length := by
  cases step with
  | dataset dataset =>
    rw [gridStep_dataset]
    exact Grid.zero_scroll_lt _
  | error message =>
    rw [gridStep_error]
    exact h
  | act action => exact Grid.update_scroll_lt h action

theorem scroll_gridSteps (h : d.grid.scroll < max 1 d.grid.rows.length) (steps : List GridStep) :
    (steps.foldl gridStep d).grid.scroll < max 1 (steps.foldl gridStep d).grid.rows.length := by
  induction steps generalizing d with
  | nil => exact h
  | cons step steps ih => exact ih (scroll_gridStep h step)

/-- After any datasets, errors and actions, the first row in view is one of the rows, or zero if
there are none. A dataset is seen from its first row and an error scrolls nothing. As long as there
is no error, the header line, the rule and the lines of the rows from the first in view on show
inside the border of a dataset with columns. And any row can be made the first of them by
scrolling, which changes nothing else. -/
theorem rows_in_view (d : Desk) (steps : List GridStep) :
    let desk := steps.foldl gridStep { d with grid := {} }
    let grid := desk.grid
    (if grid.rows = [] then grid.scroll = 0 else grid.scroll < grid.rows.length) ∧
    (∀ dataset, (desk.gridStep (.dataset dataset)).grid.scroll = 0) ∧
    (∀ message, (desk.gridStep (.error message)).grid.scroll = grid.scroll) ∧
    (∀ dataset, grid.dataset = some dataset → grid.error = none → dataset.headers ≠ [] →
      let widths := Table.columnWidths dataset.headers dataset.rows
      let content := Table.row widths (Style.ink .cyan).inBold dataset.headers ::
        Table.rule widths :: (grid.rows.drop grid.scroll).map (Table.row widths (.ink .white))
      Grid.content dataset grid.scroll = content ∧
      ∀ (s : Screen) (area : Rect), area.x + area.width ≤ maxCoordinate →
        area.y + area.height ≤ maxCoordinate →
        Screen.ViewShows (grid.frame s area) (grid.draw s area) area content) ∧
    ∀ number row, grid.rows[number]? = some row → ∃ actions : List Action,
      (∀ action ∈ actions, action ∈ Grid.scrollActions) ∧
      let reached := ((actions.map GridStep.act).foldl gridStep desk).grid
      reached = { grid with scroll := number } ∧
      (reached.rows.drop reached.scroll).head? = some row := by
  intro desk grid
  have hscroll : grid.scroll < max 1 grid.rows.length :=
    scroll_gridSteps (Grid.zero_scroll_lt _) steps
  refine ⟨?_, fun dataset => rfl, fun message => rfl, ?_, ?_⟩
  · split
    · next hnone =>
      rw [hnone] at hscroll
      exact Nat.lt_one_iff.1 hscroll
    · next hsome =>
      have hlength := List.length_pos_iff.2 hsome
      omega
  · intro dataset hdataset herror hheaders widths content
    have hrows : grid.rows = dataset.rows := by
      rw [Grid.rows, hdataset]
      rfl
    have hcontent : Grid.content dataset grid.scroll = content := by
      simp only [content, hrows]
      exact Grid.content_eq hheaders grid.scroll
    refine ⟨hcontent, fun s area hright hbottom => ?_⟩
    rw [← hcontent]
    exact Grid.draw_shows hdataset herror s hright hbottom
  · intro number row hrow
    obtain ⟨actions, hactions, hreached⟩ :=
      Grid.exists_scroll_to (List.getElem?_eq_some_iff.1 hrow).1
    refine ⟨actions, hactions, ?_⟩
    rw [gridSteps_act]
    refine ⟨hreached, ?_⟩
    rw [hreached, List.head?_drop]
    exact hrow

/-- A page down, an error and a shorter dataset later, the second of two rows is the only one in
view, and the first can be scrolled to. -/
theorem second_row_in_view :
    let d := (Console.start ⟨[]⟩ 16 none .sample false .empty .midnight).desk
    let many : Dataset := ⟨"p", ["id"], List.replicate 12 ["0"], .midnight⟩
    let few : Dataset := ⟨"q", ["id"], [["1"], ["22"]], .midnight⟩
    let desk := [.dataset many, .act .pageDown, .error "no", .dataset few, .act .scrollDown].foldl
      gridStep { d with grid := {} }
    let area : Rect := ⟨0, 0, 20, 6⟩
    let widths := Table.columnWidths ["id"] few.rows
    desk.grid.dataset = some few ∧ desk.grid.error = none ∧ few.headers ≠ [] ∧
    area.x + area.width ≤ maxCoordinate ∧ area.y + area.height ≤ maxCoordinate ∧
    desk.grid.scroll = 1 ∧ desk.grid.scroll < desk.grid.rows.length ∧
    Screen.ViewShows (desk.grid.frame (.blank 20 6) area) (desk.grid.draw (.blank 20 6) area) area
      [Table.row widths (Style.ink .cyan).inBold ["id"], Table.rule widths,
        Table.row widths (.ink .white) ["22"]] ∧
    desk.grid.rows[0]? = some ["1"] ∧
    ∃ actions : List Action,
      ((actions.map GridStep.act).foldl gridStep desk).grid = { desk.grid with scroll := 0 } := by
  intro d many few desk area widths
  have hdataset : desk.grid.dataset = some few := rfl
  have hheaders : few.headers ≠ [] := by decide
  have hright : area.x + area.width ≤ maxCoordinate := by decide
  have hbottom : area.y + area.height ≤ maxCoordinate := by decide
  obtain ⟨hscroll, -, -, hshows, hreach⟩ := rows_in_view d
    [.dataset many, .act .pageDown, .error "no", .dataset few, .act .scrollDown]
  obtain ⟨actions, -, hreached, -⟩ := hreach 0 ["1"] rfl
  rw [if_neg (by decide)] at hscroll
  exact ⟨hdataset, rfl, hheaders, hright, hbottom, rfl, hscroll,
    (hshows few hdataset rfl hheaders).2 _ area hright hbottom, rfl, actions, hreached⟩

end Desk

end QueryDesk
