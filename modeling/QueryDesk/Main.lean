import QueryDesk.CommandLine

/-!
# The program

The outermost layer: it finds the files of the home folder that count, runs the command
line on them and puts the settings back if they have changed. When the application
starts, its first screen is printed as text.
-/
namespace QueryDesk.Program

open QueryDesk.Files (Disk Path Tree)

/-- The plain names from the root to where a path leads. -/
def plainNames (d : Disk) (path : Path) : List String :=
  path.names.foldl
    (fun names name =>
      if name = "." then names
      else if name = ".." then names.dropLast
      else names ++ [name])
    (d.start path.absolute)

/-- The disk with the file at a path, if it is there. -/
def addFile (d : Disk) (path : String) : IO Disk := do
  match ← (IO.FS.readBinFile path).toBaseIO with
  | .ok bytes => pure (d.put (some (.file bytes.toList)) (plainNames d (.ofText path)))
  | .error _ => pure d

/-- The files that a run may look at, and the working folder. -/
def diskOf (home : Option String) : IO Disk := do
  let here := (Path.ofText (toString (← IO.currentDir))).names
  ((Settings.file? home).toList ++ (Settings.preferencesFile? home).toList).foldlM addFile
    ⟨Tree.empty.put (some .empty) here, here⟩

/-- Writes the settings of a disk to their file if they differ from those before. -/
def keepSettings (home : Option String) (before after : Disk) : IO Unit := do
  match Settings.folder? home, Settings.file? home with
  | some folder, some path =>
      match after.read path, before.read path with
      | .ok bytes, .ok old =>
          if bytes ≠ old then IO.FS.writeBinFile path (ByteArray.mk bytes.toArray)
      | .ok bytes, .error _ =>
          IO.FS.createDirAll folder
          IO.FS.writeBinFile path (ByteArray.mk bytes.toArray)
      | .error _, _ => pure ()
  | _, _ => pure ()

/-- The columns of the screen that is printed. -/
def screenWidth : Nat := 80

/-- The rows of the screen that is printed. -/
def screenHeight : Nat := 24

/-- The rows of the first screen of an application. -/
def firstScreen (app : App) : List String :=
  let blank := Screen.blank screenWidth screenHeight
  let (_, screen, _) := app.draw blank blank.area
  screen.rows.toList.map Screen.rowText

/-- One run: the files are read, the command line decides, and what it reports is printed. -/
def program (arguments : List String) : IO UInt32 := do
  let home ← IO.getEnv "HOME"
  let files ← diskOf home
  match CommandLine.run home arguments files .midnight with
  | .finished after report =>
      IO.print report.stdout
      IO.eprint report.stderr
      match ← (keepSettings home files after).toBaseIO with
      | .ok _ => pure report.code
      | .error error =>
          IO.eprint ("Error: " ++ toString error ++ "\n")
          pure 1
  | .started app =>
      for row in firstScreen app do
        IO.println row
      pure 0

end QueryDesk.Program

def main (arguments : List String) : IO UInt32 := QueryDesk.Program.program arguments
