import BankReconciliation.Sql.Statements

/-! The directory of banks over a database. -/

namespace BankReconciliation.Sql

def bankPieces (id : String) : List Piece :=
  [.sql "SELECT bank_id, church_id, name, tag, availability_account_id FROM banks WHERE bank_id = ",
    .bind (.text id)]

def findBank (id : String) : Exchange (Option Bank) := do
  let r ← exec .getBank (bankPieces id)
  readFirst .getBank Bank.ofCells r

def accountPieces (churchId id : String) : List Piece :=
  [.sql ("SELECT availability_account_id, church_id, account_name FROM availability_accounts " ++
      "WHERE church_id = "), .bind (.text churchId),
    .sql " AND availability_account_id = ", .bind (.text id)]

def findAccount (churchId id : String) : Exchange (Option Account) := do
  let r ← exec .getAccount (accountPieces churchId id)
  readFirst .getAccount Account.ofCells r

end BankReconciliation.Sql
