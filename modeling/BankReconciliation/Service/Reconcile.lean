import BankReconciliation.Matching
import BankReconciliation.Service.Calls

/-! Matching a stored statement with the ledger. -/

namespace BankReconciliation

structure Outcome where
  matched : Bool
  recordId : Option String
deriving DecidableEq

structure Attempt where
  statement : Statement
  result : Reply Outcome

namespace Service

/-- Asks the ledger to mark a record as reconciled. A failure is counted and has no other effect. -/
def announce (record : LedgerRecord) : Task Unit := do
  match ← (Task.dispatchStatus record .reconciled).run with
  | .ok () => return ()
  | .error _ => Task.count (.error "ledger_status_dispatch")

/-- Binds a statement to a record, stores the binding and then tells the ledger. -/
def settle (s : Statement) (record : LedgerRecord) : Task Attempt := do
  let now ← Task.now
  let s := s.markReconciled record.id now
  match ← (Task.updateReconciliation s).run with
  | .error e => return ⟨s, .error e⟩
  | .ok () =>
    announce record
    return ⟨s, .ok ⟨true, some record.id⟩⟩

def unmatch (s : Statement) : Task Attempt := do
  let now ← Task.now
  let s := s.markUnmatched now
  match ← (Task.updateReconciliation s).run with
  | .error e => return ⟨s, .error e⟩
  | .ok () => return ⟨s, .ok ⟨false, none⟩⟩

/-- Matches a stored statement, whatever its state, with the ledger and stores its new state. -/
def reconcile (s : Statement) : Task Attempt :=
  match Matching.filterFor? s with
  | none => .abort
  | some filter => do
    match ← (Task.findOne filter).run with
    | .error e => return ⟨s, .error e⟩
    | .ok none => unmatch s
    | .ok (some record) => settle s record

end Service

end BankReconciliation
