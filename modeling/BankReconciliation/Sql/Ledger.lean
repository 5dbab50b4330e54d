import BankReconciliation.Sql.Statements

/-! The ledger, the outbox of events and the health check over a database. -/

namespace BankReconciliation.Sql

/-- Records that a reconciled statement is bound to are never found, even while the ledger has not
carried out the change of their status. -/
def recordPieces (f : RecordFilter) : List Piece :=
  [.sql ("SELECT fr.financial_record_id, fr.church_id, fr.amount, fr.date, " ++
      "fr.type AS record_type, fr.status, fr.availability_account_id " ++
      "FROM financial_records fr WHERE fr.church_id = "),
    .bind (.text f.churchId), .sql " AND fr.amount = ", .bind (.decimal f.amount),
    .sql " AND fr.date >= ", .bind (.time f.dateFrom), .sql " AND fr.date < ",
    .bind (.time f.dateUntil), .sql " AND fr.type = ANY(", .bind (.texts (f.types.map (·.word))),
    .sql ") AND fr.status = ANY(", .bind (.texts (f.statuses.map (·.word))),
    .sql ") AND fr.availability_account_id = ", .bind (.text f.accountId),
    .sql (" AND NOT EXISTS ( SELECT 1 FROM bank_statements bs WHERE bs.church_id = fr.church_id " ++
      "AND bs.financial_record_id = fr.financial_record_id " ++
      "AND bs.reconciliation_status = 'RECONCILED' ) " ++
      "ORDER BY fr.date, fr.financial_record_id LIMIT 1")]

def readRecord (action : Action) (r : Result) : Exchange (Option LedgerRecord) := do
  match ← readFirst action LedgerRecord.Row.ofCells r with
  | none => return none
  | some row => return some (← LedgerRecord.ofRow row)

def findOne (f : RecordFilter) : Exchange (Option LedgerRecord) := do
  let r ← exec .queryRecords (recordPieces f)
  readRecord .queryRecords r

def findRecord (churchId id : String) : Exchange (Option LedgerRecord) := do
  let r ← exec .getRecord
    [.sql ("SELECT financial_record_id, church_id, amount, date, type AS record_type, status, " ++
        "availability_account_id FROM financial_records WHERE church_id = "),
      .bind (.text churchId),
      .sql " AND financial_record_id = ", .bind (.text id)]
  readRecord .getRecord r

/-- Writes an event, which a process outside the service sends on. -/
def writeEvent (id : Uuid) (topic : String) (payload : Json) : Exchange Unit := do
  let _ ← exec .writeEvent
    [.sql "INSERT INTO outbox_events (event_id, topic, payload) VALUES (", .bind (.uuid id),
      .sql ", ", .bind (.text topic), .sql ", ", .bind (.json payload), .sql ")"]
  return ()

def checkHealth : Exchange Unit := do
  let _ ← exec .checkHealth [.sql "SELECT 1"]
  return ()

end BankReconciliation.Sql
