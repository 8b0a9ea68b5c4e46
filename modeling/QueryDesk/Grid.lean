import QueryDesk.Action
import QueryDesk.Dataset
import QueryDesk.Screen.Panel
import QueryDesk.Screen.Paragraph
import QueryDesk.Screen.Scrollbar
import QueryDesk.Table

/-!
# The result grid

The grid keeps the last dataset, the last error since and the first row in view. An
error hides the rows but keeps them; the next dataset starts at its first row.
-/
namespace QueryDesk

structure Grid where
  dataset : Option Dataset := none
  error : Option String := none
  /-- The first data row in view. -/
  scroll : Nat := 0
  deriving DecidableEq, Repr, Inhabited

namespace Grid

/-- How far a page key scrolls. -/
def page : Nat := 10

def rows (g : Grid) : List (List String) := (g.dataset.map (·.rows)).getD []

def query (g : Grid) : Option String := g.dataset.map (·.query)

def time (g : Grid) : Option String := g.dataset.map (·.time.text)

def ofDataset (dataset : Dataset) : Grid := { dataset := some dataset }

def fail (g : Grid) (message : String) : Grid := { g with error := some message }

/-- Scrolls, with the last row as the last stop. -/
def update (g : Grid) : Action → Grid
  | .scrollDown =>
      if g.scroll < g.rows.length - 1 then { g with scroll := g.scroll + 1 } else g
  | .scrollUp => { g with scroll := g.scroll - 1 }
  | .pageDown => { g with scroll := min (g.scroll + page) (g.rows.length - 1) }
  | .pageUp => { g with scroll := g.scroll - page }
  | _ => g

def title (g : Grid) : String :=
  match g.time with
  | some time => " Grid · " ++ toString g.rows.length ++ " rows · " ++ time ++ " "
  | none => " Grid "

/-- The table of a dataset with the header and the rule kept in place and the rows from the first in
view on. -/
def content (dataset : Dataset) (scroll : Nat) : List Screen.Line :=
  let lines := Table.lines dataset.headers dataset.rows
  lines.take 2 ++ (lines.drop 2).drop scroll

def draw (g : Grid) (s : Screen) (area : Rect) : Screen :=
  let inside := Screen.Panel.inside area
  let frame (color : Screen.Color) : Screen :=
    ({ title := g.title, borderStyle := .ink color } : Screen.Panel).draw s area
  match g.error, g.dataset with
  | some message, _ => (frame .red).drawWrapped inside [[{ text := message, style := .ink .red }]]
  | none, none =>
      (frame .darkGray).drawLines inside
        [[{ text := "Run a query (F5) to see results", style := .ink .darkGray }]] 0
  | none, some dataset =>
      let s := (frame .darkGray).drawLines inside (content dataset g.scroll) 0
      if area.height - 2 < dataset.rows.length + 2 then
        ({ length := dataset.rows.length - 1, position := g.scroll } : Screen.Scrollbar).draw s
          area.withoutEndRows
      else s

end Grid

end QueryDesk
