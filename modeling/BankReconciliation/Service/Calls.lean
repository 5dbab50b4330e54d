import BankReconciliation.Export.Parser
import BankReconciliation.Ledger.Record
import BankReconciliation.Metric
import BankReconciliation.Program

/-! What the service asks of its collaborators: the statement store, the ledger, the directory of
banks, the import queue, notifications, files, the clock, fresh identifiers and counters. -/

namespace BankReconciliation

structure ImportJob where
  churchId : String
  bank : Bank
  account : Account
  month : Int32
  year : Int32
  location : String
  uploadedBy : String
  queuedAt : Instant
deriving DecidableEq

def ImportJob.batch (j : ImportJob) : Batch :=
  ⟨j.bank.snapshot, j.account.snapshot, j.month, j.year⟩

structure Summary where
  churchId : String
  bank : BankSnapshot
  account : AccountSnapshot
  month : Int32
  year : Int32
  uploadedBy : String
  totalLines : Nat
  inserted : Nat
  duplicates : Nat
  matched : Nat
  pending : Nat
deriving DecidableEq

/-- A page of a listing; the next page is asked for with its token. -/
structure Page where
  items : List Statement
  next : Option String

inductive Call
  /-- Whether the bank of the church has a statement with the reference. -/
  | existsByFitId (churchId bankId fitId : String)
  | existsByHash (churchId bankId hash : String)
  /-- Stores the statements that collide with no stored one, and answers their ids. -/
  | insertMany (statements : List Statement)
  | findStatement (churchId : String) (id : Uuid)
  /-- Stores the statement's reconciliation. -/
  | updateReconciliation (statement : Statement)
  | list (filter : StatementFilter) (pageSize : Int32) (token : Option Uuid)
  /-- The earliest ledger record that the filter accepts. -/
  | findOne (filter : RecordFilter)
  | findRecord (churchId id : String)
  /-- Asks the ledger to change a record's status. -/
  | dispatchStatus (record : LedgerRecord) (status : RecordStatus)
  | findBank (id : String)
  | findAccount (churchId id : String)
  | enqueue (job : ImportJob)
  | notify (topic : String) (payload : Json)
  | openFile (location : String)
  | removeFile (location : String)
  | now
  /-- An identifier that was never given before. -/
  | newId
  | count (event : MetricEvent)

abbrev Reply := Except ServiceError

def Call.Answer : Call → Type
  | .existsByFitId .. | .existsByHash .. => Reply Bool
  | .insertMany _ => Reply (List Uuid)
  | .findStatement .. => Reply (Option Statement)
  | .updateReconciliation _ => Reply Unit
  | .list .. => Reply Page
  | .findOne _ | .findRecord .. => Reply (Option LedgerRecord)
  | .dispatchStatus .. => Reply Unit
  | .findBank _ => Reply (Option Bank)
  | .findAccount .. => Reply (Option Account)
  | .enqueue _ | .notify .. => Reply Unit
  | .openFile _ => Opened
  | .removeFile _ => Except FileError Unit
  | .now => Instant
  | .newId => Uuid
  | .count _ => Unit

def Collaborators : Interface := ⟨Call, Call.Answer⟩

abbrev Task := Program Collaborators

abbrev Operation := ExceptT ServiceError Task

namespace Task

def request (c : Call) : Task c.Answer := Program.request (I := Collaborators) c

def existsByFitId (churchId bankId fitId : String) : Operation Bool :=
  request (.existsByFitId churchId bankId fitId)

def existsByHash (churchId bankId hash : String) : Operation Bool :=
  request (.existsByHash churchId bankId hash)

def insertMany (statements : List Statement) : Operation (List Uuid) :=
  request (.insertMany statements)

def findStatement (churchId : String) (id : Uuid) : Operation (Option Statement) :=
  request (.findStatement churchId id)

def updateReconciliation (s : Statement) : Operation Unit := request (.updateReconciliation s)

def list (filter : StatementFilter) (pageSize : Int32) (token : Option Uuid) : Operation Page :=
  request (.list filter pageSize token)

def findOne (filter : RecordFilter) : Operation (Option LedgerRecord) := request (.findOne filter)

def findRecord (churchId id : String) : Operation (Option LedgerRecord) :=
  request (.findRecord churchId id)

def dispatchStatus (record : LedgerRecord) (status : RecordStatus) : Operation Unit :=
  request (.dispatchStatus record status)

def findBank (id : String) : Operation (Option Bank) := request (.findBank id)

def findAccount (churchId id : String) : Operation (Option Account) :=
  request (.findAccount churchId id)

def enqueue (job : ImportJob) : Operation Unit := request (.enqueue job)

def notify (topic : String) (payload : Json) : Operation Unit := request (.notify topic payload)

def openFile (location : String) : Task Opened := request (.openFile location)

def removeFile (location : String) : Task (Except FileError Unit) := request (.removeFile location)

def now : Task Instant := request .now

def newId : Task Uuid := request .newId

def count (event : MetricEvent) : Task Unit := request (.count event)

end Task

end BankReconciliation
