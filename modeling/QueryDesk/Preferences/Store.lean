import QueryDesk.Files.Disk
import QueryDesk.Json.Pretty
import QueryDesk.Json.StringMap
import QueryDesk.Preferences.Entries

/-!
# Preference stores

A store keeps text under keys. One kind keeps it in memory, and such a store may be
unable to give or to take; the other kind keeps it as a JSON map in a file, which is
read anew for every request. A file that is absent or blank is an empty map. Writing
replaces a file that cannot be read, and makes the folders on the way to it.
-/
namespace QueryDesk.Preferences

open QueryDesk.Files (Disk FileError Path)

inductive StoreError where
  | file (error : FileError)
  | unavailable
  /-- A text that is no map of strings, with what is wrong in it. -/
  | format (source : List Char) (error : Json.Error)
  deriving DecidableEq, Repr

def StoreError.message : StoreError → String
  | .file error => "preference file I/O failed: " ++ error.message
  | .unavailable => "preference file I/O failed: not available"
  | .format source error => "preference file is not valid JSON: " ++ error.message source

/-- The map in a file. -/
def readEntries (files : Disk) (path : String) : Except StoreError Entries :=
  if !files.pathExists path then .ok .empty
  else match files.readText path with
    | .error error => .error (.file error)
    | .ok source =>
        if source.all Text.isBlank then .ok .empty
        else match Json.readStringMap source with
          | .error error => .error (.format source error)
          | .ok pairs => .ok (.ofList pairs)

/-- The bytes of a file that holds a map. -/
def fileBytes (entries : Entries) : List UInt8 :=
  Text.utf8 (Json.prettyStringMap entries.pairs)

/-- The folders around a path, made if they are missing. -/
def makeParents (files : Disk) (path : String) : Disk × Option FileError :=
  match (Path.ofText path).parent? with
  | none => (files, none)
  | some folder =>
      if folder.isEmpty || (files.walk folder.absolute folder.names).isOk then (files, none)
      else files.makeFolders folder

/-- Puts a value into the map of a file. -/
def writeEntry (files : Disk) (path key value : String) : Disk × Option StoreError :=
  let entries := match readEntries files path with
    | .ok entries => entries
    | .error _ => .empty
  match makeParents files path with
  | (files, some error) => (files, some (.file error))
  | (files, none) =>
      match files.write path (fileBytes (entries.insert key value)) with
      | .ok files => (files, none)
      | .error error => (files, some (.file error))

inductive Store where
  | memory (entries : Entries) (readable writable : Bool)
  | file (path : String)

namespace Store

/-- The value under a key. -/
def get (store : Store) (files : Disk) (key : String) : Except StoreError (Option String) :=
  match store with
  | .memory entries readable _ =>
      if readable then .ok (entries.find? key) else .error .unavailable
  | .file path => (readEntries files path).map (·.find? key)

/-- Puts a value under a key. -/
def set (store : Store) (files : Disk) (key value : String) :
    (Store × Disk) × Option StoreError :=
  match store with
  | .memory entries readable writable =>
      if writable then ((.memory (entries.insert key value) readable writable, files), none)
      else ((store, files), some .unavailable)
  | .file path =>
      let (files, error) := writeEntry files path key value
      ((store, files), error)

end Store

end QueryDesk.Preferences
