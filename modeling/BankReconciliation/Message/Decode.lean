import BankReconciliation.Json.Basic
import BankReconciliation.Decimal.Reader
import BankReconciliation.Service.Operations
import BankReconciliation.Time.Timestamp

/-! Reading values from their JSON form. A structure is an object, whose unknown members do not
count, or a list of just its fields in order. -/

namespace BankReconciliation

namespace Json

/-- The fields of a structure, by their place and their name. -/
def fields? (count : Nat) : Json → Option (Nat → String → Option Json)
  | .obj members => some fun _ name => members.lookup name
  | .arr items => if items.length = count then some fun i _ => items[i]? else none
  | _ => none

def optionalStr? : Json → Option (Option String)
  | .str s => some (some s)
  | .null => some none
  | _ => none

def int32? : Json → Option Int32
  | .int n => int32OfInt? n
  | _ => none

/-- A word, alone or as the name of an object's one member, which is `null`. -/
def word? : Json → Option String
  | .str s => some s
  | .obj [(s, .null)] => some s
  | _ => none

end Json

def Decimal.ofJson? : Json → Option Decimal
  | .str s => Decimal.ofString? s
  | .int n => Decimal.ofInt? n
  | .real negative magnitude => Decimal.ofBinary? negative magnitude
  | _ => none

def Instant.ofJson? (j : Json) : Option Instant := j.str?.bind Timestamp.ofString?

def Direction.ofJson? (j : Json) : Option Direction := j.word?.bind ofWord?

def ReconciliationStatus.ofJson? (j : Json) : Option ReconciliationStatus := j.word?.bind ofWord?

def RecordType.ofJson? (j : Json) : Option RecordType := j.word?.bind ofWord?

def RecordStatus.ofJson? (j : Json) : Option RecordStatus := j.word?.bind ofWord?

/-- The status comes first in a list and anywhere in an object; no list holds more than it needs. -/
def Reconciliation.ofJson? : Json → Option Reconciliation
  | .obj members => do
    match ← ReconciliationStatus.ofWord? (← (← members.lookup "status").str?) with
    | .pending => return .pending
    | .unmatched => return .unmatched
    | .reconciled =>
      let recordId ← (← members.lookup "financial_record_id").str?
      let time ← Instant.ofJson? (← members.lookup "reconciled_at")
      return .reconciled recordId time
  | .arr (status :: rest) => do
    match ← ReconciliationStatus.ofWord? (← status.str?), rest with
    | .pending, [] => return .pending
    | .unmatched, [] => return .unmatched
    | .reconciled, [recordId, time] => return .reconciled (← recordId.str?) (← Instant.ofJson? time)
    | _, _ => none
  | _ => none

def BankSnapshot.ofJson? (j : Json) : Option BankSnapshot := do
  let field ← j.fields? 3
  return {
    id := ← (← field 0 "bank_id").str?
    name := ← (← field 1 "name").str?
    tag := ← (← field 2 "tag").str? }

def AccountSnapshot.ofJson? (j : Json) : Option AccountSnapshot := do
  let field ← j.fields? 2
  return {
    id := ← (← field 0 "availability_account_id").str?
    name := ← (← field 1 "account_name").str? }

def Bank.ofJson? (j : Json) : Option Bank := do
  let field ← j.fields? 5
  return {
    id := ← (← field 0 "bank_id").str?
    churchId := ← (← field 1 "church_id").str?
    name := ← (← field 2 "name").str?
    tag := ← (← field 3 "tag").str?
    accountId := ← ((field 4 "availability_account_id").getD .null).optionalStr? }

def Account.ofJson? (j : Json) : Option Account := do
  let field ← j.fields? 3
  return {
    id := ← (← field 0 "availability_account_id").str?
    churchId := ← (← field 1 "church_id").str?
    name := ← (← field 2 "account_name").str? }

def LedgerRecord.ofJson? (j : Json) : Option LedgerRecord := do
  let field ← j.fields? 7
  return {
    id := ← (← field 0 "financial_record_id").str?
    churchId := ← (← field 1 "church_id").str?
    amount := ← Decimal.ofJson? (← field 2 "amount")
    date := ← Instant.ofJson? (← field 3 "date")
    type := ← RecordType.ofJson? (← field 4 "record_type")
    status := ← RecordStatus.ofJson? (← field 5 "status")
    accountId := ← (← field 6 "availability_account_id").str? }

def ImportJob.ofJson? (j : Json) : Option ImportJob := do
  let field ← j.fields? 8
  return {
    churchId := ← (← field 0 "church_id").str?
    bank := ← Bank.ofJson? (← field 1 "bank")
    account := ← Account.ofJson? (← field 2 "availability_account")
    month := ← (← field 3 "month").int32?
    year := ← (← field 4 "year").int32?
    location := ← (← field 5 "file_location").str?
    uploadedBy := ← (← field 6 "uploaded_by").str?
    queuedAt := ← Instant.ofJson? (← field 7 "queued_at") }

def ImportRequest.ofJson? (j : Json) : Option ImportRequest := do
  let field ← j.fields? 6
  return {
    churchId := ← (← field 0 "church_id").str?
    bankId := ← (← field 1 "bank_id").str?
    month := ← (← field 2 "month").int32?
    year := ← (← field 3 "year").int32?
    uploadedBy := ← (← field 4 "uploaded_by").str?
    location := ← (← field 5 "file_location").str? }

def ImportRequest.toJson (r : ImportRequest) : Json :=
  .ofMembers [("church_id", .str r.churchId), ("bank_id", .str r.bankId),
    ("month", .int r.month.toInt), ("year", .int r.year.toInt), ("uploaded_by", .str r.uploadedBy),
    ("file_location", .str r.location)]

end BankReconciliation
