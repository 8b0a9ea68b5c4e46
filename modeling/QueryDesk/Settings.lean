import QueryDesk.Files.Disk
import QueryDesk.Json.Pretty
import QueryDesk.Text.Blank

/-!
# Settings

The address that export links begin with, the height of a terminal row in pixels and
the time between two ticks. They are kept in a file below the home folder. Values
that make no sense there give way to the standard ones when the file is read.
-/
namespace QueryDesk

structure Settings where
  exportBaseUrl : String
  cellHeight : UInt16
  tickRate : UInt64
  deriving DecidableEq, Repr

namespace Settings

def standard : Settings := ⟨"http://localhost:9000", 16, 100⟩

/-- The settings with standard values for those that are zero or blank. -/
def sanitized (settings : Settings) : Settings where
  exportBaseUrl :=
    if Text.allBlank settings.exportBaseUrl then standard.exportBaseUrl
    else settings.exportBaseUrl
  cellHeight := if settings.cellHeight = 0 then standard.cellHeight else settings.cellHeight
  tickRate := if settings.tickRate = 0 then standard.tickRate else settings.tickRate

theorem sanitized_sanitized (settings : Settings) :
    settings.sanitized.sanitized = settings.sanitized := by
  have h : Text.allBlank standard.exportBaseUrl = false := by decide +kernel
  simp only [sanitized, mk.injEq]
  refine ⟨?_, ?_, ?_⟩
  · split <;> simp_all
  · split <;> simp_all [standard]
  · split <;> simp_all [standard]

def urlKey : String := "export_base_url"

def cellHeightKey : String := "cell_height_px"

def tickRateKey : String := "tick_rate_ms"

private def decimal (n : Nat) : List Char := (toString n).toList

/-- The settings as a JSON object. -/
def written (settings : Settings) : List Char :=
  Json.prettyObject
    [(urlKey.toList, Json.quote settings.exportBaseUrl.toList),
      (cellHeightKey.toList, decimal settings.cellHeight.toNat),
      (tickRateKey.toList, decimal settings.tickRate.toNat)]

/-- The folder of the settings; without a name the home folder is unknown. -/
def folder? (home : Option String) : Option String :=
  match home with
  | none => none
  | some home => if home.isEmpty then none else some (Files.Path.within home ".query-console")

def file? (home : Option String) : Option String :=
  (folder? home).map (Files.Path.within · "config.json")

/-- The file of the preferences, beside that of the settings. -/
def preferencesFile? (home : Option String) : Option String :=
  (folder? home).map (Files.Path.within · "preferences.json")

end Settings

end QueryDesk
