import QueryDesk.Screen.Style
import QueryDesk.Text.Width

/-!
# Tables of text

Rows of cells in columns of equal width. A column is as wide as its widest header or
cell, at least one and at most fifty columns of the display; a cell that is wider is
cut and marked with an ellipsis.
-/
namespace QueryDesk.Table

open QueryDesk.Screen (Style Span Line)
open QueryDesk.Text (charWidth)

def columnLimit : Nat := 50

/-- The display columns of a cell. -/
def cellWidth (text : String) : Nat := Text.width .line text.toList

/-- The characters that fit into a number of columns, and how many they take. -/
def cut (room : Nat) : List Char → List Char × Nat
  | [] => ([], 0)
  | c :: rest =>
      if charWidth c ≤ room then
        let (taken, used) := cut (room - charWidth c) rest
        (c :: taken, charWidth c + used)
      else ([], 0)

def spaces (n : Nat) : String := String.ofList (List.replicate n ' ')

/-- A text padded or cut to a number of columns. -/
def fit (text : String) (width : Nat) : String :=
  let textWidth := cellWidth text
  if textWidth ≤ width then text ++ spaces (width - textWidth)
  else
    let (taken, used) := cut (width - 1) text.toList
    String.ofList taken ++ "…" ++ spaces (width - (used + 1))

/-- The width of each column under a header. -/
def columnWidths (headers : List String) (rows : List (List String)) : List Nat :=
  headers.zipIdx.map fun (header, i) =>
    let widest := (rows.filterMap (·[i]?)).foldl (fun w cell => max w (cellWidth cell))
      (max (cellWidth header) 1)
    min widest columnLimit

def ruleStyle : Style := .ink .darkGray

/-- A row of cells, each with a bar behind it. Cells beyond the columns are left out and missing ones
are blank. -/
def row (widths : List Nat) (style : Style) (cells : List String) : Line :=
  widths.zipIdx.flatMap fun (width, i) =>
    [{ text := fit (cells[i]?.getD "") width, style }, { text := " │ ", style := ruleStyle }]

def rule (widths : List Nat) : Line :=
  [{ text := "─┼─".intercalate (widths.map fun n => String.ofList (List.replicate n '─'))
     style := ruleStyle }]

/-- The header line, the rule and one line for each row. -/
def lines (headers : List String) (rows : List (List String)) : List Line :=
  if headers.isEmpty then [[{ text := "Query returned no columns", style := .plain }]]
  else
    let widths := columnWidths headers rows
    row widths (Style.ink .cyan).inBold headers :: rule widths
      :: rows.map (row widths (.ink .white))

end QueryDesk.Table
