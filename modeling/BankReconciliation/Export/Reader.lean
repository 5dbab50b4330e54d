import BankReconciliation.Amount
import BankReconciliation.Csv.Reader
import BankReconciliation.Export.Problem
import BankReconciliation.Statement.Basic
import BankReconciliation.Text.NormalForm
import BankReconciliation.Time.DatePattern

/-! Statement lines out of a file. The header says where the columns are; balance rows and empty
rows are skipped, and one bad row fails the whole file. -/

namespace BankReconciliation

open Text (Bytes)

/-- The layout of one bank's statement files. -/
structure Dialect where
  bankCode : String
  bankNames : List String
  delimiter : UInt8
  datePattern : String
  dateColumn : String
  descriptionColumn : String
  /-- A file may lack this column. -/
  referenceColumn : String
  amountColumn : String
  /-- Descriptions of rows that show a balance and are no transactions. -/
  skippedDescriptions : List String
deriving DecidableEq

def Dialect.bancoDoBrasil : Dialect where
  bankCode := "BB"
  bankNames := ["Banco do Brasil", "Banco do Brasil S.A.", "BB"]
  delimiter := ','.toNat.toUInt8
  datePattern := "%d/%m/%Y"
  dateColumn := "Data"
  descriptionColumn := "Histórico"
  referenceColumn := "Número do documento"
  amountColumn := "Valor"
  skippedDescriptions := ["Saldo Anterior", "S A L D O", "Saldo do dia", "Saldo"]

/-- What is stamped onto every line of a file. -/
structure Batch where
  bank : BankSnapshot
  account : AccountSnapshot
  month : Int32
  year : Int32
deriving DecidableEq

namespace Export

def defaultDescription : String := "Sem descrição"

structure Columns where
  date : Nat
  description : Nat
  reference : Option Nat
  amount : Nat
deriving DecidableEq

/-- The first header with the label's normal form. -/
def column? (headers : List (List Char)) (label : String) : Option Nat :=
  headers.findIdx? fun h => Text.normalChars h == Text.normalChars label.toList

def requiredColumn (headers : List (List Char)) (label : String) : Except ExportProblem Nat :=
  match column? headers label with
  | some i => .ok i
  | none => .error (.missingColumn label)

def columns (d : Dialect) (headers : List (List Char)) : Except ExportProblem Columns := do
  let date ← requiredColumn headers d.dateColumn
  let description ← requiredColumn headers d.descriptionColumn
  let amount ← requiredColumn headers d.amountColumn
  return ⟨date, description, column? headers d.referenceColumn, amount⟩

/-- A cell of a row; cells past its end are empty. -/
def cell (cells : List (List Char)) (i : Nat) : List Char := cells.getD i []

def isBlankRow (cells : List (List Char)) : Bool := cells.all List.isEmpty

def isSkipped (d : Dialect) (description : List Char) : Bool :=
  (d.skippedDescriptions.map fun s => Text.normalChars s.toList).contains
    (Text.normalChars description)

/-- The bank's code in front of the reference, or nothing when there is no reference. -/
def fitId (d : Dialect) (reference : List Char) : String :=
  if reference = [] then "" else s!"{d.bankCode}:{String.ofList reference}"

/-- The cells by their headers; columns without a header are left out. -/
def raw (headers cells : List (List Char)) : Members Json :=
  Members.ofList (((headers.zip cells).filter fun (h, _) => !h.isEmpty).map fun (h, c) =>
    (String.ofList h, .str (String.ofList c)))

def transaction (d : Dialect) (batch : Batch) (headers : List (List Char)) (columns : Columns)
    (line : Nat) (cells : List (List Char)) : Except ExportProblem Line := do
  let dateCell := cell cells columns.date
  let amountCell := cell cells columns.amount
  let some postedAt := DatePattern.read? d.datePattern.toList dateCell
    | .error (.invalidRow line (.date (String.ofList dateCell)))
  let some signed := Amount.read? amountCell
    | .error (.invalidRow line (.amount (String.ofList amountCell)))
  let written := cell cells columns.description
  let description := if written = [] then defaultDescription else String.ofList written
  let amount := signed.abs
  return {
    bank := batch.bank
    account := batch.account
    postedAt
    amount
    description
    direction := .ofSigned signed
    fitId := fitId d ((columns.reference.map (cell cells)).getD [])
    hash := Fingerprint.compute postedAt amount description
    month := batch.month
    year := batch.year
    raw := raw headers cells }

def row (d : Dialect) (batch : Batch) (headers : List (List Char)) (columns : Columns)
    (record : Csv.Record) : Except ExportProblem (Option Line) :=
  let cells := record.fields.map Text.decodeCell
  if isBlankRow cells || isSkipped d (cell cells columns.description) then .ok none
  else (transaction d batch headers columns record.line cells).map some

/-- The lines of a file, of which the first record is the header. -/
def lines (d : Dialect) (batch : Batch) (content : Bytes) : Except ExportProblem (List Line) := do
  let records := Csv.records d.delimiter content
  let headers := ((records.head?.map Csv.Record.fields).getD []).map Text.decodeCell
  let columns ← columns d headers
  let rows ← records.tail.mapM (row d batch headers columns)
  return rows.filterMap id

end Export

end BankReconciliation
