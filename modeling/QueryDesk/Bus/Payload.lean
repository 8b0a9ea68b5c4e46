import QueryDesk.Dataset
import QueryDesk.Layout.Rect

/-!
# Topics and payloads

What the parts of the desk tell each other.
-/
namespace QueryDesk

/-- What is told under a topic. -/
inductive Payload where
  | empty
  | query (text : String)
  | panel (name : String)
  /-- Pixels that a splitter has moved. -/
  | delta (pixels : Int)
  | area (rect : Rect)
  | error (message : String)
  | dataset (dataset : Dataset)
  deriving DecidableEq, Repr

/-- What is told, and under which topic. -/
structure Event where
  topic : String
  payload : Payload
  deriving DecidableEq, Repr

namespace Topic

def queryDataset : String := "query.dataset"

def queryError : String := "query.error"

def queryExecute : String := "query.execute"

/-- Another panel is in front. -/
def panelActive : String := "panel.active"

/-- The last query is to be run again. -/
def gridRefresh : String := "grid.refresh"

def preferencesSave : String := "preferences.save"

def preferencesLoad : String := "preferences.load"

def windowResize : String := "window.resize"

/-- A named splitter has moved. -/
def splitterResize (name : String) : String := "splitter." ++ name ++ ".resize"

end Topic

end QueryDesk
