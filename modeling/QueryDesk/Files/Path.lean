import QueryDesk.Text.Utf8

/-!
# Paths

A path is a text with names between slashes. Names are kept as written, so a single
and a double dot are still steps to take when the path is followed.
-/
namespace QueryDesk.Files

structure Path where
  /-- A slash comes first. -/
  absolute : Bool
  /-- What stands between slashes; nothing between two slashes is no name. -/
  names : List String
  /-- A slash comes after the last name. -/
  slash : Bool
  deriving DecidableEq, Repr

namespace Path

def ofText (text : String) : Path where
  absolute := text.toList.head? = some '/'
  names := ((text.toList.splitOn '/').filter (!·.isEmpty)).map String.ofList
  slash := text.toList.getLast? = some '/'

/-- A name in a folder. -/
def within (folder name : String) : String :=
  if folder.toList.getLast? = some '/' then folder ++ name else folder ++ "/" ++ name

theorem toList_within {folder : String} (hslash : folder.toList.getLast? ≠ some '/')
    (name : String) : (within folder name).toList = folder.toList ++ '/' :: name.toList := by
  simp [within, hslash]

/-- A name in a folder is one more name. -/
theorem names_within {folder name : String} (hslash : folder.toList.getLast? ≠ some '/')
    (hname : '/' ∉ name.toList) (hempty : name.toList ≠ []) :
    (ofText (within folder name)).names = (ofText folder).names ++ [name] := by
  simp [ofText, toList_within hslash, List.splitOn_append_cons_self, List.splitOn_eq_singleton hname,
    hempty]

theorem absolute_within {folder : String} (hslash : folder.toList.getLast? ≠ some '/')
    (hfolder : folder.toList ≠ []) (name : String) :
    (ofText (within folder name)).absolute = (ofText folder).absolute := by
  obtain ⟨c, cs, hcs⟩ := List.exists_cons_of_ne_nil hfolder
  rw [ofText, ofText, toList_within hslash, hcs, List.cons_append, List.head?_cons, List.head?_cons]

/-- The names that matter for what a path is called: a single dot counts only as the first step of a
relative path. -/
def steps (path : Path) : List String :=
  match path.absolute, path.names with
  | false, "." :: names => "." :: names.filter (· ≠ ".")
  | _, names => names.filter (· ≠ ".")

/-- The path without its last step, if it has one. -/
def parent? (path : Path) : Option Path :=
  if path.steps.isEmpty then none
  else some ⟨path.absolute, path.steps.dropLast, false⟩

/-- Neither a name nor a slash. -/
def isEmpty (path : Path) : Bool := !path.absolute && path.names.isEmpty

/-- The last step, unless it is a dot or two. -/
def fileName? (path : Path) : Option String :=
  match path.steps.getLast? with
  | some "." => none
  | some ".." => none
  | name => name

/-- What a path is called: its last name, or all of it if that is no name. -/
def displayName (text : String) : String := ((ofText text).fileName?).getD text

end Path

end QueryDesk.Files
