import BankReconciliation.Service.Calls
import BankReconciliation.Time.Timestamp

/-! The JSON form of the values that are stored, queued, sent and shown. -/

namespace BankReconciliation

def Decimal.toJson (d : Decimal) : Json := .str d.render

def Instant.toJson (t : Instant) : Json := .str (Timestamp.render t)

def Uuid.toJson (u : Uuid) : Json := .str u.render

def Json.ofInt32 (n : Int32) : Json := .int n.toInt

def Direction.toJson (d : Direction) : Json := .str d.word

def ReconciliationStatus.toJson (s : ReconciliationStatus) : Json := .str s.word

def RecordType.toJson (t : RecordType) : Json := .str t.word

def RecordStatus.toJson (s : RecordStatus) : Json := .str s.word

def Reconciliation.toJson : Reconciliation → Json
  | .pending => .ofMembers [("status", ReconciliationStatus.pending.toJson)]
  | .unmatched => .ofMembers [("status", ReconciliationStatus.unmatched.toJson)]
  | .reconciled recordId time =>
    .ofMembers [("status", ReconciliationStatus.reconciled.toJson),
      ("financial_record_id", .str recordId), ("reconciled_at", time.toJson)]

def BankSnapshot.toJson (b : BankSnapshot) : Json :=
  .ofMembers [("bank_id", .str b.id), ("name", .str b.name), ("tag", .str b.tag)]

def AccountSnapshot.toJson (a : AccountSnapshot) : Json :=
  .ofMembers [("availability_account_id", .str a.id), ("account_name", .str a.name)]

def Bank.toJson (b : Bank) : Json :=
  .ofMembers [("bank_id", .str b.id), ("church_id", .str b.churchId), ("name", .str b.name),
    ("tag", .str b.tag), ("availability_account_id", .ofOption b.accountId)]

def Account.toJson (a : Account) : Json :=
  .ofMembers [("availability_account_id", .str a.id), ("church_id", .str a.churchId),
    ("account_name", .str a.name)]

def LedgerRecord.toJson (r : LedgerRecord) : Json :=
  .ofMembers [("financial_record_id", .str r.id), ("church_id", .str r.churchId),
    ("amount", r.amount.toJson), ("date", r.date.toJson), ("record_type", r.type.toJson),
    ("status", r.status.toJson), ("availability_account_id", .str r.accountId)]

def RecordFilter.toJson (f : RecordFilter) : Json :=
  .ofMembers [("church_id", .str f.churchId), ("amount", f.amount.toJson),
    ("date_from", f.dateFrom.toJson), ("date_until", f.dateUntil.toJson),
    ("record_types", .arr (f.types.map RecordType.toJson)),
    ("statuses", .arr (f.statuses.map RecordStatus.toJson)),
    ("availability_account_id", .str f.accountId)]

def Line.toJson (l : Line) : Json :=
  .ofMembers [("bank", l.bank.toJson), ("availability_account", l.account.toJson),
    ("posted_at", l.postedAt.toJson), ("amount", l.amount.toJson),
    ("description", .str l.description), ("direction", l.direction.toJson),
    ("fit_id", .str l.fitId), ("hash", .str l.hash), ("month", .ofInt32 l.month),
    ("year", .ofInt32 l.year), ("raw", .obj l.raw)]

def Statement.toJson (s : Statement) : Json :=
  .ofMembers [("bank_statement_id", s.id.toJson), ("church_id", .str s.churchId),
    ("bank", s.bank.toJson), ("availability_account", s.account.toJson),
    ("posted_at", s.postedAt.toJson), ("amount", s.amount.toJson),
    ("description", .str s.description), ("direction", s.direction.toJson),
    ("fit_id", .str s.fitId), ("hash", .str s.hash), ("month", .ofInt32 s.month),
    ("year", .ofInt32 s.year), ("reconciliation", s.reconciliation.toJson), ("raw", .obj s.raw),
    ("created_at", s.createdAt.toJson), ("updated_at", s.updatedAt.toJson)]

def ImportJob.toJson (j : ImportJob) : Json :=
  .ofMembers [("church_id", .str j.churchId), ("bank", j.bank.toJson),
    ("availability_account", j.account.toJson), ("month", .ofInt32 j.month),
    ("year", .ofInt32 j.year), ("file_location", .str j.location),
    ("uploaded_by", .str j.uploadedBy), ("queued_at", j.queuedAt.toJson)]

def Summary.toJson (s : Summary) : Json :=
  .ofMembers [
    ("churchId", .str s.churchId), ("bank", s.bank.toJson),
    ("availabilityAccount", s.account.toJson), ("month", .ofInt32 s.month),
    ("year", .ofInt32 s.year), ("uploadedBy", .str s.uploadedBy),
    ("totalLines", .ofNat s.totalLines), ("inserted", .ofNat s.inserted),
    ("duplicates", .ofNat s.duplicates), ("matched", .ofNat s.matched),
    ("pending", .ofNat s.pending)]

def statusChange (record : LedgerRecord) (status : RecordStatus) : Json :=
  .ofMembers [("churchId", .str record.churchId), ("financialRecordId", .str record.id),
    ("status", status.toJson)]

end BankReconciliation
