import QueryDesk.Text.Utf8

/-!
# Files and folders

A tree of folders and files with the bytes they hold, and what goes wrong in following
a path, reading, writing and making folders.
-/
namespace QueryDesk.Files

inductive Tree where
  | file (bytes : List UInt8)
  | folder (entries : List (String × Tree))
  deriving Repr

inductive FileError where
  | missing
  | alreadyThere
  | notFolder
  | isFolder
  | nameTooLong
  | zeroByte
  | badText
  deriving DecidableEq, Repr

def FileError.message : FileError → String
  | .missing => "No such file or directory (os error 2)"
  | .alreadyThere => "File exists (os error 17)"
  | .notFolder => "Not a directory (os error 20)"
  | .isFolder => "Is a directory (os error 21)"
  | .nameTooLong => "File name too long (os error 36)"
  | .zeroByte => "file name contained an unexpected NUL byte"
  | .badText => "stream did not contain valid UTF-8"

/-- The longest name, in bytes. -/
def maxName : Nat := 255

namespace Tree

def empty : Tree := .folder []

def isFolder : Tree → Bool
  | .folder _ => true
  | .file _ => false

/-- The bytes of something that was found. -/
def bytes : Tree → Except FileError (List UInt8)
  | .file bytes => .ok bytes
  | .folder _ => .error .isFolder

/-- What a folder has under a name. -/
def child? (t : Tree) (name : String) : Option Tree :=
  match t with
  | .file _ => none
  | .folder entries => entries.lookup name

/-- What is found along plain names. -/
def find? (t : Tree) : List String → Option Tree
  | [] => some t
  | name :: names => (t.child? name).bind (find? · names)

/-- A folder with one entry changed; a file becomes a folder with that entry. -/
def setChild (t : Tree) (name : String) (entry : Option Tree) : Tree :=
  let others := match t with
    | .file _ => []
    | .folder entries => entries.filter (·.1 ≠ name)
  .folder (match entry with
    | some entry => (name, entry) :: others
    | none => others)

/-- The tree with something put at, or taken from, the end of plain names; the folders on the way
are made if need be. -/
def put (t : Tree) (entry : Option Tree) : List String → Tree
  | [] => entry.getD empty
  | [name] => t.setChild name entry
  | name :: names => t.setChild name (some (put ((t.child? name).getD empty) entry names))

/-- One step along a path, from plain names to plain names. Above the root is the root. -/
def step (t : Tree) (spot : List String) (name : String) : Except FileError (List String) :=
  match t.find? spot with
  | none => .error .missing
  | some (.file _) => .error .notFolder
  | some (.folder _) =>
      if name = "." then .ok spot
      else if name = ".." then .ok spot.dropLast
      else if maxName < Text.utf8Length name.toList then .error .nameTooLong
      else if (t.find? (spot ++ [name])).isSome then .ok (spot ++ [name])
      else .error .missing

end Tree

end QueryDesk.Files
