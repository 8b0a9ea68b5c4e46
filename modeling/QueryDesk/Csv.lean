import QueryDesk.Text.Utf8

/-!
# Comma-separated tables

A record is a line of fields between commas. A quotation mark opens a quoted part only
at the start of a field; in it, commas and line ends are text and two marks are one.
Lines end with a line feed, a carriage return or both, and empty lines are no records.
The first record is the header; records may have any number of fields.
-/
namespace QueryDesk.Csv

/-- A place in the bytes of a table: how many are before it, and its line from one. -/
structure Place where
  byte : Nat
  line : Nat
  deriving DecidableEq, Repr

def Place.start : Place := ⟨0, 1⟩

/-- The place after one more byte. -/
def Place.after (place : Place) (b : UInt8) : Place :=
  ⟨place.byte + 1, if b = 10 then place.line + 1 else place.line⟩

/-- A record, and the place where the one before it ended. -/
structure Record where
  start : Place
  fields : List (List UInt8)
  deriving DecidableEq, Repr

/-- What the next byte is read as. -/
inductive Mode where
  /-- Between records. -/
  | between
  /-- At the start of a field. -/
  | opening
  | plain
  | quoted
  /-- After a quotation mark in a quoted part. -/
  | closing
  deriving DecidableEq, Repr

/-- What has been read of a record; the last bytes and fields come first. -/
structure Progress where
  mode : Mode
  field : List UInt8
  fields : List (List UInt8)
  start : Place
  place : Place
  deriving DecidableEq, Repr

namespace Progress

/-- Nothing has been read after a place. -/
def beginning (start place : Place) : Progress := ⟨.between, [], [], start, place⟩

def endField (p : Progress) : Progress :=
  { p with mode := .opening, field := [], fields := p.field.reverse :: p.fields }

def keep (p : Progress) (mode : Mode) (b : UInt8) : Progress :=
  { p with mode, field := b :: p.field }

/-- The record that ends here. -/
def record (p : Progress) : Record := ⟨p.start, p.endField.fields.reverse⟩

end Progress

def isLineEnd (b : UInt8) : Bool := b = 10 || b = 13

def comma : UInt8 := 44

def mark : UInt8 := 34

/-- One byte outside of quotes: a comma and a line end separate, and all else is text. -/
def plainStep (p : Progress) (b : UInt8) : Progress × Option Record :=
  if b = comma then (p.endField, none)
  else if isLineEnd b then (.beginning p.place p.place, some p.record)
  else (p.keep .plain b, none)

/-- One byte, and the record that it ends. -/
def step (p : Progress) (b : UInt8) : Progress × Option Record :=
  let p := { p with place := p.place.after b }
  match p.mode with
  | .between =>
      if isLineEnd b then (p, none)
      else if b = mark then ({ p with mode := .quoted }, none)
      else plainStep p b
  | .opening => if b = mark then ({ p with mode := .quoted }, none) else plainStep p b
  | .plain => plainStep p b
  | .quoted => if b = mark then ({ p with mode := .closing }, none) else (p.keep .quoted b, none)
  | .closing => if b = mark then (p.keep .quoted b, none) else plainStep p b

/-- The records of the rest of a table. What has begun at the end is a record, an open quote
included. -/
def recordsFrom (p : Progress) : List UInt8 → List Record
  | [] => if p.mode = .between then [] else [p.record]
  | b :: rest =>
      match step p b with
      | (p, none) => recordsFrom p rest
      | (p, some record) => record :: recordsFrom p rest

/-- The records of a table. A byte order mark before the first takes up bytes but is no text. -/
def records : List UInt8 → List Record
  | 0xEF :: 0xBB :: 0xBF :: rest => recordsFrom (.beginning .start ⟨3, 1⟩) rest
  | bytes => recordsFrom (.beginning .start .start) bytes

/-- A field that is no text: where its record starts and how many of its bytes are good. -/
structure Error where
  record : Nat
  start : Place
  field : Nat
  good : Nat
  deriving DecidableEq, Repr

def Error.message (e : Error) : String :=
  "CSV parse error: record " ++ toString e.record ++ " (line " ++ toString e.start.line
    ++ ", field: " ++ toString e.field ++ ", byte: " ++ toString e.start.byte
    ++ "): invalid utf-8: invalid UTF-8 in field " ++ toString e.field ++ " near byte index "
    ++ toString e.good

/-- The texts of the fields from some field on. -/
def readFields (record : Nat) (start : Place) (field : Nat) :
    List (List UInt8) → Except Error (List String)
  | [] => .ok []
  | bytes :: rest =>
      match Text.readUtf8 bytes with
      | .error good => .error ⟨record, start, field, good⟩
      | .ok text => (readFields record start (field + 1) rest).map (String.ofList text :: ·)

/-- The texts of the records from some record on. -/
def readRows (index : Nat) : List Record → Except Error (List (List String))
  | [] => .ok []
  | record :: rest =>
      match readFields index record.start 0 record.fields with
      | .error error => .error error
      | .ok row => (readRows (index + 1) rest).map (row :: ·)

/-- The header and the rows of a table; a table without records has an empty header. -/
def read (bytes : List UInt8) : Except Error (List String × List (List String)) :=
  (readRows 0 (records bytes)).map fun
    | [] => ([], [])
    | headers :: rows => (headers, rows)

end QueryDesk.Csv
