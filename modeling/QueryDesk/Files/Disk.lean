import QueryDesk.Files.Path
import QueryDesk.Files.Tree

/-!
# Following paths

A disk is a tree of files and folders with a place in it where relative paths start.
An absolute path starts at the root.
-/
namespace QueryDesk.Files

structure Disk where
  root : Tree
  /-- The names from the root to the folder in which relative paths start. -/
  working : List String
  deriving Repr

/-- The longest path, in bytes. -/
def maxPath : Nat := 4095

namespace Disk

/-- A disk with nothing on it. -/
def empty : Disk := ⟨.empty, []⟩

/-- The disk with something put at, or taken from, the end of plain names. -/
def put (d : Disk) (entry : Option Tree) (names : List String) : Disk :=
  { d with root := d.root.put entry names }

/-- The names at which a path starts. -/
def start (d : Disk) (absolute : Bool) : List String := if absolute then [] else d.working

/-- The steps of a path from where it starts. -/
def walk (d : Disk) (absolute : Bool) (names : List String) : Except FileError (List String) :=
  names.foldlM d.root.step (d.start absolute)

/-- What keeps a text from being a path at all. -/
def badPath? (text : String) : Option FileError :=
  if text.toList.contains '\x00' then some .zeroByte
  else if text.toList.isEmpty then some .missing
  else if maxPath < Text.utf8Length text.toList then some .nameTooLong
  else none

/-- Where a path leads; with a slash at its end it leads to a folder. -/
def locate (d : Disk) (text : String) : Except FileError Tree :=
  match badPath? text with
  | some error => .error error
  | none =>
      let path := Path.ofText text
      match d.walk path.absolute path.names with
      | .error error => .error error
      | .ok spot =>
          match d.root.find? spot with
          | none => .error .missing
          | some found =>
              if path.slash && !found.isFolder then .error .notFolder else .ok found

def pathExists (d : Disk) (text : String) : Bool := (d.locate text).isOk

def read (d : Disk) (text : String) : Except FileError (List UInt8) :=
  (d.locate text).bind Tree.bytes

/-- The characters of a file. -/
def readText (d : Disk) (text : String) : Except FileError (List Char) :=
  match d.read text with
  | .error error => .error error
  | .ok bytes =>
      match Text.readUtf8 bytes with
      | .ok chars => .ok chars
      | .error _ => .error .badText

def isDots (name : String) : Bool := name = "." || name = ".."

/-- The folder in which the last name of a path would be, and that name. -/
def place (d : Disk) (absolute : Bool) (names : List String) :
    Except FileError (List String × Option String) :=
  match d.walk absolute names.dropLast with
  | .error error => .error error
  | .ok around =>
      match d.root.find? around with
      | none => .error .missing
      | some (.file _) => .error .notFolder
      | some (.folder _) => .ok (around, names.getLast?)

/-- The disk with a file replaced or made; its folder must be there. -/
def write (d : Disk) (text : String) (bytes : List UInt8) : Except FileError Disk :=
  match badPath? text with
  | some error => .error error
  | none =>
      let path := Path.ofText text
      match d.place path.absolute path.names with
      | .error error => .error error
      | .ok (_, none) => .error .isFolder
      | .ok (around, some name) =>
          if path.slash || isDots name then .error .isFolder
          else if maxName < Text.utf8Length name.toList then .error .nameTooLong
          else match d.root.find? (around ++ [name]) with
            | some (.folder _) => .error .isFolder
            | _ => .ok (d.put (some (.file bytes)) (around ++ [name]))

/-- The disk with one new folder; the folder around it must be there. -/
def makeFolder (d : Disk) (absolute : Bool) (names : List String) : Except FileError Disk :=
  match d.place absolute names with
  | .error error => .error error
  | .ok (_, none) => .error .alreadyThere
  | .ok (around, some name) =>
      if isDots name then .error .alreadyThere
      else if maxName < Text.utf8Length name.toList then .error .nameTooLong
      else if (d.root.find? (around ++ [name])).isSome then .error .alreadyThere
      else .ok (d.put (some .empty) (around ++ [name]))

/-- Whether a folder is at the end of the names. -/
private def leadsToFolder (d : Disk) (absolute : Bool) (names : List String) : Bool :=
  match d.walk absolute names with
  | .ok spot => (d.root.find? spot).any Tree.isFolder
  | .error _ => false

/-- Makes a folder, and first the folders around it if they are missing; the names come last one
first. What has been made stays when a later step fails. -/
private def makeAll (absolute : Bool) : List String → Disk → Disk × Option FileError
  | [], d => (d, none)
  | name :: around, d =>
      let names := (name :: around).reverse
      let settle (d : Disk) (error : FileError) : Disk × Option FileError :=
        if leadsToFolder d absolute names then (d, none) else (d, some error)
      match d.makeFolder absolute names with
      | .ok d => (d, none)
      | .error .missing =>
          match makeAll absolute around d with
          | (d, some error) => (d, some error)
          | (d, none) =>
              match d.makeFolder absolute names with
              | .ok d => (d, none)
              | .error error => settle d error
      | .error error => settle d error

/-- Makes a folder and those around it. -/
def makeFolders (d : Disk) (path : Path) : Disk × Option FileError :=
  makeAll path.absolute path.steps.reverse d

end Disk

end QueryDesk.Files
