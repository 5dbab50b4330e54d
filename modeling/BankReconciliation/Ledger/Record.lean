import BankReconciliation.Error
import BankReconciliation.Decimal.Basic
import BankReconciliation.Time.Instant

/-! Records of the church ledger. -/

namespace BankReconciliation

inductive RecordType | income | outgo | purchase
deriving DecidableEq

namespace RecordType

def word : RecordType → String
  | .income => "INCOME"
  | .outgo => "OUTGO"
  | .purchase => "PURCHASE"

def ofWord? : String → Option RecordType
  | "INCOME" => some .income
  | "OUTGO" => some .outgo
  | "PURCHASE" => some .purchase
  | _ => none

@[simp] theorem ofWord?_word (t : RecordType) : ofWord? t.word = some t := by cases t <;> rfl

def parse (word : String) : Except ServiceError RecordType :=
  match ofWord? word with
  | some t => .ok t
  | none => .error (.database (.unknownWord .recordType word))

end RecordType

inductive RecordStatus | pending | cleared | reconciled | void
deriving DecidableEq

namespace RecordStatus

def word : RecordStatus → String
  | .pending => "PENDING"
  | .cleared => "CLEARED"
  | .reconciled => "RECONCILED"
  | .void => "VOID"

def ofWord? : String → Option RecordStatus
  | "PENDING" => some .pending
  | "CLEARED" => some .cleared
  | "RECONCILED" => some .reconciled
  | "VOID" => some .void
  | _ => none

@[simp] theorem ofWord?_word (s : RecordStatus) : ofWord? s.word = some s := by cases s <;> rfl

def parse (word : String) : Except ServiceError RecordStatus :=
  match ofWord? word with
  | some s => .ok s
  | none => .error (.database (.unknownWord .recordStatus word))

end RecordStatus

/-- A record of the ledger, which its church and its id name. -/
structure LedgerRecord where
  id : String
  churchId : String
  amount : Decimal
  date : Instant
  type : RecordType
  status : RecordStatus
  accountId : String
deriving DecidableEq

namespace LedgerRecord

def key (r : LedgerRecord) : String × String := (r.churchId, r.id)

structure Row where
  id : String
  churchId : String
  amount : Decimal
  date : Instant
  type : String
  status : String
  accountId : String
deriving DecidableEq

def ofRow (row : Row) : Except ServiceError LedgerRecord := do
  let type ← RecordType.parse row.type
  let status ← RecordStatus.parse row.status
  return ⟨row.id, row.churchId, row.amount, row.date, type, status, row.accountId⟩

def toRow (r : LedgerRecord) : Row :=
  ⟨r.id, r.churchId, r.amount, r.date, r.type.word, r.status.word, r.accountId⟩

theorem ofRow_toRow (r : LedgerRecord) : ofRow r.toRow = .ok r := by
  simp [ofRow, toRow, RecordType.parse, RecordStatus.parse, bind, Except.bind, pure, Except.pure]

end LedgerRecord

/-- Conditions on ledger records, all of which have to hold. -/
structure RecordFilter where
  churchId : String
  amount : Decimal
  /-- The first instant that is taken. -/
  dateFrom : Instant
  /-- The first instant that is no longer taken. -/
  dateUntil : Instant
  types : List RecordType
  statuses : List RecordStatus
  accountId : String
deriving DecidableEq

/-- Amounts are compared as numbers, whatever their places. -/
def RecordFilter.accepts (f : RecordFilter) (r : LedgerRecord) : Bool :=
  r.churchId == f.churchId && r.amount.sameValue f.amount &&
    decide (f.dateFrom ≤ r.date) && decide (r.date < f.dateUntil) &&
    f.types.contains r.type && f.statuses.contains r.status && r.accountId == f.accountId

end BankReconciliation
