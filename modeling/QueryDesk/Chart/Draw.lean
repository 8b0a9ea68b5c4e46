import QueryDesk.Chart
import QueryDesk.Screen.Bars
import QueryDesk.Screen.Paragraph

/-!
# Drawing a chart

The bars of a chart in a panel that names what is plotted, or a hint in their place.
-/
namespace QueryDesk.Chart

def title (chart : Chart) : String :=
  match chart.subject with
  | some subject => " Chart · " ++ subject ++ " "
  | none => " Chart "

def barStyle : Screen.BarStyle :=
  { bar := .ink .cyan, value := (Screen.Style.ink .black).on .cyan }

def draw (chart : Chart) (s : Screen) (area : Rect) : Screen :=
  let panel : Screen.Panel := { title := chart.title, borderStyle := .ink .darkGray }
  let inside := Screen.Panel.inside area
  let s := panel.draw s area
  if chart.bars.isEmpty then
    let message := chart.hint.getD "Run a query (F5) to chart results"
    s.drawLines inside [[{ text := message, style := .ink .darkGray }]] 0
  else
    let top := largest chart.bars
    barStyle.draw s inside scale <| chart.bars.map fun bar =>
      { label := bar.label, length := (scaled bar.value top).toNat, value := valueText bar.value }

end QueryDesk.Chart
