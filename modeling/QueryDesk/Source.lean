import QueryDesk.Csv
import QueryDesk.Dataset
import QueryDesk.Files.Disk

/-!
# Sources of datasets

Every query that is not blank has the same answer: the table in a file, or a built-in
one. The file is read anew for each query.
-/
namespace QueryDesk

open QueryDesk.Files (Disk FileError Path)

inductive Source where
  | sample
  | file (path : String)
  deriving DecidableEq, Repr

inductive LoadError where
  | blankQuery
  /-- Nothing is found where the path leads. -/
  | cannotOpen (path : String) (error : FileError)
  | cannotRead (path : String) (error : FileError)
  | badTable (path : String) (error : Csv.Error)
  deriving DecidableEq, Repr

def LoadError.message : LoadError → String
  | .blankQuery => "query is empty"
  | .cannotOpen path error => "cannot open data file " ++ path ++ ": " ++ error.message
  | .cannotRead path error => "cannot read " ++ path ++ ": " ++ error.message
  | .badTable path error => "cannot read " ++ path ++ ": " ++ error.message

namespace Source

def sampleHeaders : List String := ["symbol", "side", "price", "amount", "timestamp"]

def sampleRows : List (List String) :=
  [["BTC-USD", "buy", "61234.50", "0.25", "2024-05-01T09:00:00Z"],
    ["ETH-USD", "sell", "2987.10", "1.50", "2024-05-01T09:00:02Z"],
    ["SOL-USD", "buy", "142.35", "12.00", "2024-05-01T09:00:03Z"],
    ["BTC-USD", "sell", "61230.00", "0.10", "2024-05-01T09:00:05Z"],
    ["ADA-USD", "buy", "0.46", "2500.00", "2024-05-01T09:00:07Z"],
    ["ETH-USD", "buy", "2988.40", "0.75", "2024-05-01T09:00:09Z"],
    ["XRP-USD", "sell", "0.52", "1800.00", "2024-05-01T09:00:12Z"],
    ["DOGE-USD", "buy", "0.14", "9000.00", "2024-05-01T09:00:15Z"]]

def ofPath? (path : Option String) : Source := (path.map file).getD sample

/-- What the source is called. -/
def name : Source → String
  | .sample => "sample.csv"
  | .file path => Path.displayName path

/-- The table of a file. -/
def readFile (files : Disk) (path : String) :
    Except LoadError (List String × List (List String)) :=
  match files.locate path with
  | .error error => .error (.cannotOpen path error)
  | .ok found =>
      match found.bytes with
      | .error error => .error (.cannotRead path error)
      | .ok bytes => (Csv.read bytes).mapError (.badTable path)

/-- The answer to a query at a time of day. -/
def load (source : Source) (files : Disk) (now : Clock) (query : String) :
    Except LoadError Dataset :=
  if Text.allBlank query then .error .blankQuery
  else
    let table : Except LoadError (List String × List (List String)) :=
      match source with
      | .sample => .ok (sampleHeaders, sampleRows)
      | .file path => readFile files path
    table.map fun (headers, rows) => ⟨query, headers, rows, now⟩

end Source

end QueryDesk
