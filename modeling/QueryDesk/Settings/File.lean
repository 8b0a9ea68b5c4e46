import QueryDesk.Settings.Read

/-!
# The file of the settings

Loading gives nothing if the file is absent or no settings can be read from it; what
is loaded is sensible. Saving writes the settings as they are and makes the folder if
it is missing.
-/
namespace QueryDesk.Settings

open QueryDesk.Files (Disk FileError Path)

inductive SaveError where
  /-- The home folder is not known. -/
  | noFolder
  | file (error : FileError)
  deriving DecidableEq, Repr

def SaveError.message : SaveError → String
  | .noFolder => "Could not determine config directory"
  | .file error => error.message

/-- The settings in the file below a home folder. -/
def load? (files : Disk) (home : Option String) : Option Settings :=
  match file? home with
  | none => none
  | some path =>
      if !files.pathExists path then none
      else match files.readText path with
        | .error _ => none
        | .ok source => (ofWritten? source).map sanitized

def loadOrStandard (files : Disk) (home : Option String) : Settings :=
  (load? files home).getD standard

/-- The files after the settings have been written, and what went wrong. -/
def save (settings : Settings) (files : Disk) (home : Option String) :
    Disk × Option SaveError :=
  match folder? home, file? home with
  | some folder, some path =>
      let (files, error) :=
        if files.pathExists folder then (files, none)
        else files.makeFolders (Path.ofText folder)
      match error with
      | some error => (files, some (.file error))
      | none =>
          match files.write path (Text.utf8 settings.written) with
          | .ok files => (files, none)
          | .error error => (files, some (.file error))
  | _, _ => (files, some .noFolder)

end QueryDesk.Settings
