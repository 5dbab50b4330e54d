import BankReconciliation.Bank
import BankReconciliation.Decimal.Basic
import BankReconciliation.Digest.Sha256
import BankReconciliation.Error
import BankReconciliation.Time.Timestamp

/-! Lines of bank statements and the state of their reconciliation with the ledger. The content of a
line is digested: its posting time to the millisecond, its amount in hundredths, and the beginning
of its description. -/

namespace BankReconciliation

/-- Which way money flows; the amount of a statement is a magnitude. -/
inductive Direction | income | outgo
deriving DecidableEq

namespace Direction

/-- The direction of a signed amount. Zero counts as income, whatever its sign. -/
def ofSigned (d : Decimal) : Direction := if d.negative && !d.isZero then .outgo else .income

def word : Direction → String
  | .income => "INCOME"
  | .outgo => "OUTGO"

def ofWord? : String → Option Direction
  | "INCOME" => some .income
  | "OUTGO" => some .outgo
  | _ => none

@[simp] theorem ofWord?_word (d : Direction) : ofWord? d.word = some d := by cases d <;> rfl

def parse (word : String) : Except ServiceError Direction :=
  match ofWord? word with
  | some d => .ok d
  | none => .error (.database (.unknownWord .direction word))

end Direction

inductive ReconciliationStatus | pending | reconciled | unmatched
deriving DecidableEq

namespace ReconciliationStatus

def word : ReconciliationStatus → String
  | .pending => "PENDING"
  | .reconciled => "RECONCILED"
  | .unmatched => "UNMATCHED"

def ofWord? : String → Option ReconciliationStatus
  | "PENDING" => some .pending
  | "RECONCILED" => some .reconciled
  | "UNMATCHED" => some .unmatched
  | _ => none

@[simp] theorem ofWord?_word (s : ReconciliationStatus) : ofWord? s.word = some s := by
  cases s <;> rfl

def parse (word : String) : Except ServiceError ReconciliationStatus :=
  match ofWord? word with
  | some s => .ok s
  | none => .error (.badRequest (.unknownWord .reconciliationStatus word))

end ReconciliationStatus

/-- The state of a statement. Only a reconciled one has a ledger record and a time. -/
inductive Reconciliation
  | pending
  | unmatched
  | reconciled (recordId : String) (time : Instant)
deriving DecidableEq

namespace Reconciliation

def status : Reconciliation → ReconciliationStatus
  | .pending => .pending
  | .unmatched => .unmatched
  | .reconciled _ _ => .reconciled

def recordId? : Reconciliation → Option String
  | .reconciled id _ => some id
  | _ => none

def time? : Reconciliation → Option Instant
  | .reconciled _ t => some t
  | _ => none

end Reconciliation

structure Line where
  bank : BankSnapshot
  account : AccountSnapshot
  postedAt : Instant
  amount : Decimal
  description : String
  direction : Direction
  /-- The bank's own reference; empty when it gives none. -/
  fitId : String
  /-- The digest of the line's content, by which lines without a reference are told apart. -/
  hash : String
  month : Int32
  year : Int32
  /-- The cells of the line by their headers. -/
  raw : Members Json

structure Statement where
  id : Uuid
  churchId : String
  bank : BankSnapshot
  account : AccountSnapshot
  postedAt : Instant
  amount : Decimal
  description : String
  direction : Direction
  fitId : String
  hash : String
  month : Int32
  year : Int32
  reconciliation : Reconciliation
  raw : Members Json
  createdAt : Instant
  updatedAt : Instant

def Line.hasFitId (l : Line) : Bool := l.fitId != ""

namespace Statement

/-- A new statement, which is pending; its amount is a magnitude. -/
def ofLine (id : Uuid) (churchId : String) (now : Instant) (l : Line) : Statement where
  id
  churchId
  bank := l.bank
  account := l.account
  postedAt := l.postedAt
  amount := l.amount.abs
  description := l.description
  direction := l.direction
  fitId := l.fitId
  hash := l.hash
  month := l.month
  year := l.year
  reconciliation := .pending
  raw := l.raw
  createdAt := now
  updatedAt := now

def status (s : Statement) : ReconciliationStatus := s.reconciliation.status

def recordId? (s : Statement) : Option String := s.reconciliation.recordId?

def hasFitId (s : Statement) : Bool := s.fitId != ""

def markReconciled (s : Statement) (recordId : String) (now : Instant) : Statement :=
  { s with reconciliation := .reconciled recordId now, updatedAt := now }

def markUnmatched (s : Statement) (now : Instant) : Statement :=
  { s with reconciliation := .unmatched, updatedAt := now }

/-- Listings are ordered by posting time, statements of one time by their ids. -/
def precedes (a b : Statement) : Prop :=
  a.postedAt < b.postedAt ∨ a.postedAt = b.postedAt ∧ a.id < b.id

instance (a b : Statement) : Decidable (precedes a b) := by unfold precedes; infer_instance

end Statement

/-- Conditions on statements, all of which have to hold; those left out hold of every statement. -/
structure StatementFilter where
  churchId : String
  bankId : Option String := none
  accountId : Option String := none
  status : Option ReconciliationStatus := none
  month : Option Int32 := none
  year : Option Int32 := none
  /-- The first instant that is taken. -/
  postedFrom : Option Instant := none
  /-- The first instant that is no longer taken. -/
  postedUntil : Option Instant := none
deriving DecidableEq

def StatementFilter.accepts (f : StatementFilter) (s : Statement) : Bool :=
  s.churchId == f.churchId && f.bankId.all (· == s.bank.id) &&
    f.accountId.all (· == s.account.id) &&
    f.status.all (· == s.status) && f.month.all (· == s.month) && f.year.all (· == s.year) &&
    f.postedFrom.all (fun t => decide (t ≤ s.postedAt)) &&
    f.postedUntil.all (fun t => decide (s.postedAt < t))

namespace Fingerprint

def descriptionLength : Nat := 80

def content (postedAt : Instant) (amount : Decimal) (description : List Char) : List Char :=
  Timestamp.millisChars postedAt ++ '|' :: amount.centsChars ++
    '|' :: description.take descriptionLength

def compute (postedAt : Instant) (amount : Decimal) (description : String) : String :=
  String.ofList (Digest.hex (Digest.sha256 (Text.encodeUtf8
    (content postedAt amount description.toList))))

end Fingerprint

end BankReconciliation
