import BankReconciliation.Service.Calls

/-! The ledger: its records, and the updates of their status that it was asked for. -/

namespace BankReconciliation.Store

structure Ledger where
  records : List LedgerRecord := []
  /-- The records' ids and new statuses, in the order of the requests. -/
  updates : List (String × RecordStatus) := []
  /-- How often a record was looked for by a filter. -/
  queries : Nat := 0

namespace Ledger

/-- The earlier of two records; those of one date are ordered by their ids. -/
def precedes (a b : LedgerRecord) : Prop := a.date < b.date ∨ a.date = b.date ∧ a.id < b.id

instance (a b : LedgerRecord) : Decidable (precedes a b) := by unfold precedes; infer_instance

/-- The first of the earliest records. -/
def earliest? : List LedgerRecord → Option LedgerRecord
  | [] => none
  | r :: rs => some (rs.foldl (fun best r => if precedes r best then r else best) r)

def findOne (l : Ledger) (filter : RecordFilter) : Option LedgerRecord :=
  earliest? (l.records.filter filter.accepts)

def find? (l : Ledger) (churchId id : String) : Option LedgerRecord :=
  l.records.find? fun r => r.churchId == churchId && r.id == id

def insert (l : Ledger) (r : LedgerRecord) : Ledger := { l with records := l.records ++ [r] }

/-- Sets the status of the first record with the key. -/
def setStatus (key : String × String) (status : RecordStatus) :
    List LedgerRecord → List LedgerRecord
  | [] => []
  | r :: rs => if r.key = key then { r with status } :: rs else r :: setStatus key status rs

def dispatch (l : Ledger) (record : LedgerRecord) (status : RecordStatus) : Ledger :=
  { l with
    records := setStatus record.key status l.records
    updates := l.updates ++ [(record.id, status)] }

end Ledger

end BankReconciliation.Store
