import BankReconciliation.Ledger.Record
import BankReconciliation.Sql.Failure
import BankReconciliation.Sql.Query
import BankReconciliation.Statement.Row

/-! Rows of the tables as lists of named cells. -/

namespace BankReconciliation

namespace Sql

def cell {α : Type} (cells : Cells) (column : String) (read? : Value → Option α) :
    Except Failure α :=
  match cells.lookup column with
  | none => .error (.noColumn column)
  | some v =>
    match read? v with
    | some a => .ok a
    | none => .error (.protocol s!"unexpected value in column {column}")

namespace Value

def bool? : Value → Option Bool
  | .bool b => some b
  | _ => none

def text? : Value → Option String
  | .text s => some s
  | _ => none

def optionalText? : Value → Option (Option String)
  | .text s => some (some s)
  | .null => some none
  | _ => none

def uuid? : Value → Option Uuid
  | .uuid u => some u
  | _ => none

def int32? : Value → Option Int32
  | .int n => int32OfInt? n
  | _ => none

def time? : Value → Option Instant
  | .time t => some t
  | _ => none

def optionalTime? : Value → Option (Option Instant)
  | .time t => some (some t)
  | .null => some none
  | _ => none

def decimal? : Value → Option Decimal
  | .decimal d => some d
  | _ => none

def object? : Value → Option (Members Json)
  | .json (.obj members) => some members
  | _ => none

end Value

end Sql

open Sql

namespace Statement.Row

def toCells (r : Row) : Cells :=
  [("bank_statement_id", .uuid r.id), ("church_id", .text r.churchId), ("bank_id", .text r.bankId),
    ("bank_name", .text r.bankName), ("bank_tag", .text r.bankTag),
    ("availability_account_id", .text r.accountId),
    ("availability_account_name", .text r.accountName), ("posted_at", .time r.postedAt),
    ("amount", .decimal r.amount), ("description", .text r.description),
    ("direction", .text r.direction), ("fit_id", .text r.fitId), ("hash", .text r.hash),
    ("month", .int r.month.toInt), ("year", .int r.year.toInt),
    ("reconciliation_status", .text r.status), ("financial_record_id", .ofText? r.recordId),
    ("reconciled_at", .ofTime? r.reconciledAt), ("raw", .json (.obj r.raw)),
    ("created_at", .time r.createdAt), ("updated_at", .time r.updatedAt)]

def ofCells (cells : Cells) : Except Failure Row := do
  return {
    id := ← cell cells "bank_statement_id" Value.uuid?
    churchId := ← cell cells "church_id" Value.text?
    bankId := ← cell cells "bank_id" Value.text?
    bankName := ← cell cells "bank_name" Value.text?
    bankTag := ← cell cells "bank_tag" Value.text?
    accountId := ← cell cells "availability_account_id" Value.text?
    accountName := ← cell cells "availability_account_name" Value.text?
    postedAt := ← cell cells "posted_at" Value.time?
    amount := ← cell cells "amount" Value.decimal?
    description := ← cell cells "description" Value.text?
    direction := ← cell cells "direction" Value.text?
    fitId := ← cell cells "fit_id" Value.text?
    hash := ← cell cells "hash" Value.text?
    month := ← cell cells "month" Value.int32?
    year := ← cell cells "year" Value.int32?
    status := ← cell cells "reconciliation_status" Value.text?
    recordId := ← cell cells "financial_record_id" Value.optionalText?
    reconciledAt := ← cell cells "reconciled_at" Value.optionalTime?
    raw := ← cell cells "raw" Value.object?
    createdAt := ← cell cells "created_at" Value.time?
    updatedAt := ← cell cells "updated_at" Value.time? }

end Statement.Row

namespace Bank

def toCells (b : Bank) : Cells :=
  [("bank_id", .text b.id), ("church_id", .text b.churchId), ("name", .text b.name),
    ("tag", .text b.tag), ("availability_account_id", .ofText? b.accountId)]

def ofCells (cells : Cells) : Except Failure Bank := do
  return {
    id := ← cell cells "bank_id" Value.text?
    churchId := ← cell cells "church_id" Value.text?
    name := ← cell cells "name" Value.text?
    tag := ← cell cells "tag" Value.text?
    accountId := ← cell cells "availability_account_id" Value.optionalText? }

end Bank

namespace Account

def toCells (a : Account) : Cells :=
  [("availability_account_id", .text a.id), ("church_id", .text a.churchId),
    ("account_name", .text a.name)]

def ofCells (cells : Cells) : Except Failure Account := do
  return {
    id := ← cell cells "availability_account_id" Value.text?
    churchId := ← cell cells "church_id" Value.text?
    name := ← cell cells "account_name" Value.text? }

end Account

namespace LedgerRecord.Row

def toCells (r : Row) : Cells :=
  [("financial_record_id", .text r.id), ("church_id", .text r.churchId),
    ("amount", .decimal r.amount), ("date", .time r.date), ("record_type", .text r.type),
    ("status", .text r.status), ("availability_account_id", .text r.accountId)]

def ofCells (cells : Cells) : Except Failure Row := do
  return {
    id := ← cell cells "financial_record_id" Value.text?
    churchId := ← cell cells "church_id" Value.text?
    amount := ← cell cells "amount" Value.decimal?
    date := ← cell cells "date" Value.time?
    type := ← cell cells "record_type" Value.text?
    status := ← cell cells "status" Value.text?
    accountId := ← cell cells "availability_account_id" Value.text? }

end LedgerRecord.Row

end BankReconciliation
