import BankReconciliation.Text.Encoding

/-! Records of a delimited file, read from bytes. A field may stand between double quotes, inside
which a doubled quote stands for one; text after a closing quote is appended to the field. Records
end with a line feed, a carriage return, or both; empty lines are skipped. -/

namespace BankReconciliation.Csv

open Text (Bytes)

abbrev quote : UInt8 := 0x22
abbrev lineFeed : UInt8 := 0x0A
abbrev carriageReturn : UInt8 := 0x0D

structure Record where
  /-- The line on which the reader stood before it looked for the record, from 1. -/
  line : Nat
  fields : List Bytes
deriving DecidableEq

inductive Mode
  /-- Before the first byte of a record. -/
  | recordStart
  /-- After the carriage return that ended a record. -/
  | afterReturn
  /-- Before the first byte of a field that is not its record's first byte. -/
  | fieldStart
  | plain
  | inQuotes
  /-- After a quote inside a quoted field. -/
  | afterQuote
deriving DecidableEq

/-- The reader between two bytes: the field and the fields read so far of the current record, and
its line number. -/
structure State where
  mode : Mode := .recordStart
  field : Bytes := []
  fields : List Bytes := []
  /-- The line at which the current record was asked for. -/
  start : Nat := 1
  /-- One more than the number of line feeds seen. -/
  line : Nat := 1
deriving DecidableEq

namespace State

def push (s : State) (mode : Mode) (b : UInt8) : State := { s with mode, field := s.field ++ [b] }

def endField (s : State) : State :=
  { s with mode := .fieldStart, field := [], fields := s.fields ++ [s.field] }

def record (s : State) : Record := ⟨s.start, s.fields ++ [s.field]⟩

def endRecord (s : State) (mode : Mode) : State :=
  { mode, field := [], fields := [], start := s.line, line := s.line }

end State

/-- Reads a byte outside quotes and gives the record that it ends, if it ends one. -/
def stepOpen (delimiter b : UInt8) (s : State) : State × Option Record :=
  if b = delimiter then (s.endField, none)
  else if b = lineFeed then (s.endRecord .recordStart, some s.record)
  else if b = carriageReturn then (s.endRecord .afterReturn, some s.record)
  else (s.push .plain b, none)

def stepFieldStart (delimiter b : UInt8) (s : State) : State × Option Record :=
  if b = quote then ({ s with mode := .inQuotes }, none) else stepOpen delimiter b s

def step (delimiter b : UInt8) (s : State) : State × Option Record :=
  let s := if b = lineFeed then { s with line := s.line + 1 } else s
  match s.mode with
  | .recordStart =>
    if b = lineFeed ∨ b = carriageReturn then (s, none) else stepFieldStart delimiter b s
  | .afterReturn =>
    if b = lineFeed ∨ b = carriageReturn then ({ s with mode := .recordStart }, none)
    else stepFieldStart delimiter b s
  | .fieldStart => stepFieldStart delimiter b s
  | .plain => stepOpen delimiter b s
  | .inQuotes =>
    if b = quote then ({ s with mode := .afterQuote }, none) else (s.push .inQuotes b, none)
  | .afterQuote => if b = quote then (s.push .inQuotes b, none) else stepOpen delimiter b s

/-- The record that the end of the file ends, if one has begun. -/
def finish (s : State) : List Record :=
  match s.mode with
  | .recordStart | .afterReturn => []
  | _ => [s.record]

def readFrom (delimiter : UInt8) : State → Bytes → List Record
  | s, [] => finish s
  | s, b :: bytes =>
    let (s, record) := step delimiter b s
    record.toList ++ readFrom delimiter s bytes

def dropMark : Bytes → Bytes
  | 0xEF :: 0xBB :: 0xBF :: bytes => bytes
  | bytes => bytes

/-- The records of a file, the header among them. -/
def records (delimiter : UInt8) (bytes : Bytes) : List Record :=
  readFrom delimiter {} (dropMark bytes)

end BankReconciliation.Csv
