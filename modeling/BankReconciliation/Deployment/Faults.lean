import BankReconciliation.Service.Calls

/-! Plans of failures: which calls on the stores are refused instead of being answered. -/

namespace BankReconciliation

inductive CallKind
  | existsByFitId | existsByHash | insertMany | updateReconciliation | findStatement | list
  | findOne | findRecord | dispatchStatus
deriving DecidableEq

namespace CallKind

def name : CallKind → String
  | .existsByFitId => "exists_by_fit_id"
  | .existsByHash => "exists_by_hash"
  | .insertMany => "insert_many"
  | .updateReconciliation => "update_reconciliation"
  | .findStatement => "find_statement"
  | .list => "list"
  | .findOne => "find_one"
  | .findRecord => "find_record"
  | .dispatchStatus => "dispatch_status_update"

def all : List CallKind :=
  [.existsByFitId, .existsByHash, .insertMany, .updateReconciliation, .findStatement, .list,
    .findOne, .findRecord, .dispatchStatus]

def ofName? (s : String) : Option CallKind := all.find? (·.name == s)

end CallKind

def Call.kind? : Call → Option CallKind
  | .existsByFitId .. => some .existsByFitId
  | .existsByHash .. => some .existsByHash
  | .insertMany _ => some .insertMany
  | .findStatement .. => some .findStatement
  | .updateReconciliation _ => some .updateReconciliation
  | .list .. => some .list
  | .findOne _ => some .findOne
  | .findRecord .. => some .findRecord
  | .dispatchStatus .. => some .dispatchStatus
  | _ => none

def Call.refuse (e : ServiceError) : (c : Call) → Option c.Answer
  | .existsByFitId .. => some (.error e)
  | .existsByHash .. => some (.error e)
  | .insertMany _ => some (.error e)
  | .findStatement .. => some (.error e)
  | .updateReconciliation _ => some (.error e)
  | .list .. => some (.error e)
  | .findOne _ => some (.error e)
  | .findRecord .. => some (.error e)
  | .dispatchStatus .. => some (.error e)
  | _ => none

/-- Which calls of a kind fail: all, or those with some numbers, counted from 0. -/
inductive FaultRule
  | every
  | numbered (numbers : List Nat)
deriving DecidableEq

structure FaultPlan where
  rules : List (CallKind × FaultRule) := []
  /-- The kinds of the calls that were made under the plan. -/
  made : List CallKind := []
deriving DecidableEq

namespace FaultPlan

def strikes (p : FaultPlan) (kind : CallKind) : Bool :=
  match p.rules.lookup kind with
  | none => false
  | some .every => true
  | some (.numbered numbers) => numbers.contains (p.made.count kind)

def note (p : FaultPlan) (kind : CallKind) : FaultPlan := { p with made := kind :: p.made }

def error (kind : CallKind) : ServiceError := .database (.text s!"injected {kind.name}")

end FaultPlan

end BankReconciliation
