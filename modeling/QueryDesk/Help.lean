import QueryDesk.Action
import QueryDesk.Screen.Panel
import QueryDesk.Screen.Paragraph
import QueryDesk.Screen.Scrollbar
import QueryDesk.Table

/-!
# The help panel

A panel with every key binding. It scrolls freely and is brought back to its last
page when it is drawn.
-/
namespace QueryDesk

structure Help where
  scroll : Nat := 0
  deriving DecidableEq, Repr, Inhabited

namespace Help

open QueryDesk.Screen (Style Span Line)

/-- The action of a key. -/
def action? (key : Key) : Option Action :=
  match key.code with
  | .esc | .char 'q' => some .showConsole
  | .char 'j' | .down => some .scrollDown
  | .char 'k' | .up => some .scrollUp
  | .pageDown => some .pageDown
  | .pageUp => some .pageUp
  | _ => none

def update (h : Help) : Action → Help
  | .scrollDown => ⟨h.scroll + 1⟩
  | .scrollUp => ⟨h.scroll - 1⟩
  | .pageDown => ⟨h.scroll + 10⟩
  | .pageUp => ⟨h.scroll - 10⟩
  | _ => h

/-- The sections with their keys. -/
def sections : List (String × List (String × String)) :=
  [("Query",
      [("F5 / Ctrl+e", "Run the query in the editor"), ("Ctrl+r", "Re-run the last query")]),
    ("Results",
      [("Ctrl+g", "Show results as a grid"), ("Ctrl+t", "Show results as a chart"),
        ("PgUp / PgDn", "Scroll the grid"), ("Mouse wheel", "Scroll the grid")]),
    ("Export Link",
      [("Ctrl+l", "Select the export link"), ("Ctrl+y", "Copy the export link")]),
    ("Layout",
      [("Ctrl+↑ / Ctrl+↓", "Move the splitter"),
        ("Drag divider", "Resize editor and results")]),
    ("Application",
      [("F1", "Show this help"), ("F2 / Esc", "Back to the console"), ("Ctrl+q", "Quit")])]

/-- The key of a shortcut, padded to fourteen characters. -/
def keyLine (key description : String) : Line :=
  [{ text := "  " ++ key ++ Table.spaces (14 - key.length), style := (Style.ink .cyan).inBold },
    { text := description, style := .ink .white }]

def sectionLines (title : String) (keys : List (String × String)) : List Line :=
  [] :: [{ text := "  " ++ title ++ " ", style := (Style.ink .yellow).inBold }]
    :: [{ text := "  " ++ String.ofList (List.replicate (title.length + 2) '─')
          style := .ink .darkGray }]
    :: keys.map fun (key, description) => keyLine key description

def lines : List Line := sections.flatMap fun (title, keys) => sectionLines title keys

def panel : Screen.Panel :=
  { title := " Help · F2 or Esc returns to the console "
    titleStyle := (Style.ink .cyan).inBold
    borderStyle := .ink .cyan }

/-- The last line that can be the first in a view of some rows. -/
def lastScroll (height : Nat) : Nat := lines.length - height

def draw (h : Help) (s : Screen) (area : Rect) : Help × Screen :=
  let height := area.height - 2
  let last := lastScroll height
  let scroll := min h.scroll last
  let s := (panel.draw s area).drawLines (Screen.Panel.inside area) lines scroll
  let s :=
    if height < lines.length then
      ({ length := last, position := scroll } : Screen.Scrollbar).draw s area.withoutEndRows
    else s
  (⟨scroll⟩, s)

end Help

end QueryDesk
