import QueryDesk.App
import QueryDesk.Settings.File

/-!
# The command line

Arguments are read from left to right, and the first one that is wrong, or asks for
help or the version, ends the reading. With the options in place of loaded settings the
program either saves the settings or starts the application.
-/
namespace QueryDesk

open QueryDesk.Files (Disk)

/-- What the arguments ask for. -/
structure Options where
  data : Option String := none
  baseUrl : Option String := none
  cellHeight : Option UInt16 := none
  noStorage : Bool := false
  saveConfig : Bool := false
  deriving DecidableEq, Repr, Inhabited

/-- What ends the reading of arguments early. -/
inductive Stop where
  | help
  | version
  | unexpected (argument : String)
  | repeated (option : String)
  | missingValue (option : String)
  | badValue (option value : String)
  deriving DecidableEq, Repr

namespace CommandLine

def helpLines : List String :=
  ["Terminal query console",
    "",
    "Usage: query-console [OPTIONS] [DATA]",
    "",
    "Arguments:",
    "  [DATA]  CSV file to query; the bundled sample is used when omitted",
    "",
    "Options:",
    "      --base-url <BASE_URL>        Server the export link points at",
    "      --cell-height <CELL_HEIGHT>  Pixel height of one terminal row",
    "      --no-storage                 Do not read or write saved preferences",
    "      --save-config                Write the effective configuration to disk and exit",
    "  -h, --help                       Print help",
    "  -V, --version                    Print version"]

def helpText : String := String.join (helpLines.map (· ++ "\n"))

def versionText : String := "query-console 0.1.0\n"

def baseUrlOption : String := "--base-url"

def cellHeightOption : String := "--cell-height"

/-- A cell height: digits with a sign, of which a minus sign goes with zero alone. -/
def readCellHeight? (text : String) : Option UInt16 :=
  let (negative, digits) := Number.takeSign text.toList
  let value := Number.digitsValue digits
  if digits.isEmpty || !digits.all Text.isAsciiDigit || (negative && value ≠ 0) then none
  else if value < UInt16.size then some value.toUInt16 else none

/-- The options with a value for the base address. -/
def setBaseUrl (options : Options) (value : String) : Except Stop Options :=
  if options.baseUrl.isSome then .error (.repeated baseUrlOption)
  else .ok { options with baseUrl := some value }

/-- The options with a value for the cell height. -/
def setCellHeight (options : Options) (value : String) : Except Stop Options :=
  match readCellHeight? value with
  | none => .error (.badValue cellHeightOption value)
  | some height =>
      if options.cellHeight.isSome then .error (.repeated cellHeightOption)
      else .ok { options with cellHeight := some height }

/-- The options with a data file, which needs a name. -/
def setData (options : Options) (value : String) : Except Stop Options :=
  if options.data.isSome then .error (.unexpected value)
  else if value.isEmpty then .error (.badValue "[DATA]" value)
  else .ok { options with data := some value }

/-- An argument that begins with a hyphen and is more than that. -/
def isDashed (argument : String) : Bool :=
  argument.toList.head? = some '-' && argument ≠ "-"

/-- The options with the value that comes next, which may not look like an option. -/
def withNext (set : Options → String → Except Stop Options) (option : String)
    (options : Options) : List String → Except Stop (Options × List String)
  | [] => .error (.missingValue option)
  | value :: rest =>
      if isDashed value then .error (.missingValue option)
      else (set options value).map (·, rest)

/-- What stands behind the first equals sign of an argument, and what before it. -/
def splitEquals (argument : String) : String × Option String :=
  let cs := argument.toList
  (String.ofList (cs.takeWhile (· ≠ '=')),
    match cs.dropWhile (· ≠ '=') with
    | _ :: value => some (String.ofList value)
    | [] => none)

/-- One argument that begins with two hyphens, and what it takes from the rest. -/
def readLong (options : Options) (argument : String) (rest : List String) :
    Except Stop (Options × List String) :=
  match splitEquals argument with
  | ("--base-url", some value) => (setBaseUrl options value).map (·, rest)
  | ("--base-url", none) => withNext setBaseUrl baseUrlOption options rest
  | ("--cell-height", some value) => (setCellHeight options value).map (·, rest)
  | ("--cell-height", none) => withNext setCellHeight cellHeightOption options rest
  | ("--no-storage", none) =>
      if options.noStorage then .error (.repeated "--no-storage")
      else .ok ({ options with noStorage := true }, rest)
  | ("--save-config", none) =>
      if options.saveConfig then .error (.repeated "--save-config")
      else .ok ({ options with saveConfig := true }, rest)
  | ("--help", none) => .error .help
  | ("--version", none) => .error .version
  | _ => .error (.unexpected argument)

/-- One argument with a single hyphen. -/
def readShort (argument : String) : Stop :=
  match argument.toList with
  | '-' :: 'h' :: _ => .help
  | '-' :: 'V' :: _ => .version
  | _ => .unexpected argument

/-- The arguments after two bare hyphens are all data. -/
def readRest (options : Options) : List String → Except Stop Options
  | [] => .ok options
  | argument :: rest => (setData options argument).bind (readRest · rest)

/-- Reads the arguments; each step takes at least one. -/
def readArguments : Nat → Options → List String → Except Stop Options
  | _, options, [] => .ok options
  | 0, _, argument :: _ => .error (.unexpected argument)
  | fuel + 1, options, argument :: rest =>
      if argument = "--" then readRest options rest
      else if argument.toList.take 2 = ['-', '-'] then
        match readLong options argument rest with
        | .error stop => .error stop
        | .ok (options, rest) => readArguments fuel options rest
      else if isDashed argument then .error (readShort argument)
      else
        match setData options argument with
        | .error stop => .error stop
        | .ok options => readArguments fuel options rest

/-- The options of a command line. -/
def readOptions (arguments : List String) : Except Stop Options :=
  readArguments arguments.length {} arguments

def reason : Stop → String
  | .help => ""
  | .version => ""
  | .unexpected argument => "unexpected argument '" ++ argument ++ "' found"
  | .repeated option => "the argument '" ++ option ++ "' cannot be used multiple times"
  | .missingValue option =>
      "a value is required for '" ++ option ++ "' but none was supplied"
  | .badValue option value => "invalid value '" ++ value ++ "' for '" ++ option ++ "'"

/-- What a run of the program leaves: how it ends and what it prints. -/
structure Report where
  code : UInt32
  stdout : String := ""
  stderr : String := ""
  deriving DecidableEq, Repr, Inhabited

/-- How the reading of arguments ends a run. -/
def stopReport (stop : Stop) : Report :=
  match stop with
  | .help => { code := 0, stdout := helpText }
  | .version => { code := 0, stdout := versionText }
  | stop =>
      { code := 2
        stderr := "error: " ++ reason stop
          ++ "\n\nUsage: query-console [OPTIONS] [DATA]\n\nFor more information, try '--help'.\n" }

/-- A text with spaces before every line but the first. -/
def indented (spaces : Nat) (text : String) : String :=
  String.ofList <| text.toList.flatMap fun c =>
    if c = '\n' then c :: List.replicate spaces ' ' else [c]

/-- An error with the chain of its causes; several causes are numbered. -/
def errorText (message : String) (causes : List String) : String :=
  let lines : List String :=
    match causes with
    | [] => []
    | [cause] => ["\n\nCaused by:", "\n    " ++ indented 4 cause]
    | causes =>
        "\n\nCaused by:" :: causes.zipIdx.map fun (cause, i) =>
          "\n    " ++ toString i ++ ": " ++ indented 7 cause
  "Error: " ++ message ++ String.join lines ++ "\n"

def failure (message : String) (causes : List String) : Report :=
  { code := 1, stderr := errorText message causes }

/-- The settings under options. -/
def effective (settings : Settings) (options : Options) : Settings :=
  Settings.sanitized
    { settings with
      exportBaseUrl := options.baseUrl.getD settings.exportBaseUrl
      cellHeight := options.cellHeight.getD settings.cellHeight }

/-- What a run comes to before anything is drawn. -/
inductive Run where
  /-- The run is over. -/
  | finished (files : Disk) (report : Report)
  /-- The application starts. -/
  | started (app : App)

/-- A run with the home folder, the arguments and the files it finds. -/
def run (home : Option String) (arguments : List String) (files : Disk) (now : Clock) : Run :=
  match readOptions arguments with
  | .error stop => .finished files (stopReport stop)
  | .ok options =>
      let settings := effective (Settings.loadOrStandard files home) options
      if options.saveConfig then
        match settings.save files home with
        | (files, none) => .finished files { code := 0 }
        | (files, some error) => .finished files (failure error.message [])
      else
        match ExportLink.ofBase settings.exportBaseUrl with
        | .error error =>
            .finished files <|
              failure ("invalid export base url '" ++ settings.exportBaseUrl ++ "'")
                (error.summary :: error.cause?.toList)
        | .ok link =>
            let store :=
              if options.noStorage then none
              else (Settings.preferencesFile? home).map Preferences.Store.file
            .started
              (App.start link settings.cellHeight.toNat store (.ofPath? options.data) files now)

end CommandLine

end QueryDesk
