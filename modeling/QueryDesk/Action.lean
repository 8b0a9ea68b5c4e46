/-!
# Actions and input

What the user can ask for, and the keys and mouse events that ask for it.
-/
namespace QueryDesk

inductive Action where
  | tick
  | resize (width height : Nat)
  | quit
  | showConsole
  | showHelp
  | executeQuery
  | refreshQuery
  | showGrid
  | showChart
  | selectExportUrl
  | copyExportUrl
  | growEditor
  | shrinkEditor
  | splitterDragStart (row : Nat)
  | splitterDrag (row : Nat)
  | splitterDragEnd
  | scrollUp
  | scrollDown
  | pageUp
  | pageDown
  | editorInput (c : Char)
  | editorPaste (text : String)
  | editorNewline
  | editorBackspace
  | editorDelete
  | cursorLeft
  | cursorRight
  | cursorUp
  | cursorDown
  | cursorHome
  | cursorEnd
  deriving DecidableEq, Repr

/-- The text of an action in a log. -/
def Action.text : Action → String
  | .tick => "Tick"
  | .resize width height => "Resize(" ++ toString width ++ ", " ++ toString height ++ ")"
  | .quit => "Quit"
  | .showConsole => "ShowConsole"
  | .showHelp => "ShowHelp"
  | .executeQuery => "ExecuteQuery"
  | .refreshQuery => "RefreshQuery"
  | .showGrid => "ShowGrid"
  | .showChart => "ShowChart"
  | .selectExportUrl => "SelectExportUrl"
  | .copyExportUrl => "CopyExportUrl"
  | .growEditor => "GrowEditor"
  | .shrinkEditor => "ShrinkEditor"
  | .splitterDragStart row => "SplitterDragStart(" ++ toString row ++ ")"
  | .splitterDrag row => "SplitterDrag(" ++ toString row ++ ")"
  | .splitterDragEnd => "SplitterDragEnd"
  | .scrollUp => "ScrollUp"
  | .scrollDown => "ScrollDown"
  | .pageUp => "PageUp"
  | .pageDown => "PageDown"
  | .editorInput c => "EditorInput('" ++ c.toString ++ "')"
  | .editorPaste text => "EditorPaste(" ++ toString text.length ++ " chars)"
  | .editorNewline => "EditorNewline"
  | .editorBackspace => "EditorBackspace"
  | .editorDelete => "EditorDelete"
  | .cursorLeft => "CursorLeft"
  | .cursorRight => "CursorRight"
  | .cursorUp => "CursorUp"
  | .cursorDown => "CursorDown"
  | .cursorHome => "CursorHome"
  | .cursorEnd => "CursorEnd"

inductive KeyCode where
  | char (c : Char)
  | function (n : Nat)
  | up | down | left | right | enter | backspace | delete | insert | tab | backTab | home | end
  | pageUp | pageDown | esc | null
  deriving DecidableEq, Repr

structure Key where
  code : KeyCode
  control : Bool := false
  alt : Bool := false
  shift : Bool := false
  deriving DecidableEq, Repr

inductive Button where
  | left | right | middle
  deriving DecidableEq, Repr

inductive MouseKind where
  | down (button : Button)
  | up (button : Button)
  | drag (button : Button)
  | moved | scrollUp | scrollDown | scrollLeft | scrollRight
  deriving DecidableEq, Repr

structure Mouse where
  kind : MouseKind
  column : Nat
  row : Nat
  deriving DecidableEq, Repr

end QueryDesk
