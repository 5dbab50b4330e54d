import BankReconciliation.Statement.Basic

/-! Statements as rows of a table, with words for the direction and the status and with optional
columns for the ledger record and the time of reconciliation. -/

namespace BankReconciliation.Statement

structure Row where
  id : Uuid
  churchId : String
  bankId : String
  bankName : String
  bankTag : String
  accountId : String
  accountName : String
  postedAt : Instant
  amount : Decimal
  description : String
  direction : String
  fitId : String
  hash : String
  month : Int32
  year : Int32
  status : String
  recordId : Option String
  reconciledAt : Option Instant
  raw : Members Json
  createdAt : Instant
  updatedAt : Instant

def reconciliationOfRow (row : Row) : Except ServiceError Reconciliation :=
  match ReconciliationStatus.ofWord? row.status, row.recordId, row.reconciledAt with
  | none, _, _ => .error (.database (.unknownStoredStatus row.status))
  | some .pending, _, _ => .ok .pending
  | some .unmatched, _, _ => .ok .unmatched
  | some .reconciled, some recordId, some time => .ok (.reconciled recordId time)
  | some .reconciled, _, _ => .error (.database (.missingRecord row.id))

def ofRow (row : Row) : Except ServiceError Statement := do
  let reconciliation ← reconciliationOfRow row
  let direction ← Direction.parse row.direction
  return {
    id := row.id
    churchId := row.churchId
    bank := ⟨row.bankId, row.bankName, row.bankTag⟩
    account := ⟨row.accountId, row.accountName⟩
    postedAt := row.postedAt
    amount := row.amount
    description := row.description
    direction
    fitId := row.fitId
    hash := row.hash
    month := row.month
    year := row.year
    reconciliation
    raw := row.raw
    createdAt := row.createdAt
    updatedAt := row.updatedAt }

def toRow (s : Statement) : Row where
  id := s.id
  churchId := s.churchId
  bankId := s.bank.id
  bankName := s.bank.name
  bankTag := s.bank.tag
  accountId := s.account.id
  accountName := s.account.name
  postedAt := s.postedAt
  amount := s.amount
  description := s.description
  direction := s.direction.word
  fitId := s.fitId
  hash := s.hash
  month := s.month
  year := s.year
  status := s.status.word
  recordId := s.recordId?
  reconciledAt := s.reconciliation.time?
  raw := s.raw
  createdAt := s.createdAt
  updatedAt := s.updatedAt

end BankReconciliation.Statement
