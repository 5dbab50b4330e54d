import BankReconciliation.Service.Calls
import BankReconciliation.Sql.Rows
import BankReconciliation.Sql.Wire
import BankReconciliation.Store.Statements

/-! The statement store over a database. -/

namespace BankReconciliation.Sql

def statementColumns : List String :=
  ["bank_statement_id", "church_id", "bank_id", "bank_name", "bank_tag", "availability_account_id",
    "availability_account_name", "posted_at", "amount", "description", "direction", "fit_id",
    "hash", "month", "year", "reconciliation_status", "financial_record_id", "reconciled_at", "raw",
    "created_at", "updated_at"]

def columnList : String := ", ".intercalate statementColumns

def readRows {α : Type} (action : Action) (read : Cells → Except Failure α) (r : Result) :
    Exchange (List α) := explain action (r.rows.mapM read)

def readFirst {α : Type} (action : Action) (read : Cells → Except Failure α) (r : Result) :
    Exchange (Option α) :=
  match r.rows with
  | [] => pure none
  | row :: _ => do return some (← explain action (read row))

def readFlag (action : Action) (r : Result) : Exchange Bool :=
  match r.rows with
  | [] => explain action (.error .noRow)
  | row :: _ => explain action (cell row "exists" Value.bool?)

def existsPieces (churchId bankId column value : String) : List Piece :=
  [.sql "SELECT EXISTS ( SELECT 1 FROM bank_statements WHERE church_id = ", .bind (.text churchId),
    .sql " AND bank_id = ", .bind (.text bankId), .sql s!" AND {column} = ", .bind (.text value),
    .sql " )"]

/-- The empty reference is nowhere; for it nothing is sent. -/
def existsByFitId (churchId bankId fitId : String) : Exchange Bool :=
  if fitId = "" then pure false
  else do
    let r ← exec .lookUpFitId (existsPieces churchId bankId "fit_id" fitId)
    readFlag .lookUpFitId r

def existsByHash (churchId bankId hash : String) : Exchange Bool := do
  let r ← exec .lookUpHash (existsPieces churchId bankId "hash" hash)
  readFlag .lookUpHash r

def insertLimit : Nat := 1000

def tuple (values : List Value) : List Piece :=
  .sql "(" :: ([Piece.sql ", "].intercalate (values.map fun v => [.bind v])) ++ [.sql ")"]

def statementValues (s : Statement) : List Value := s.toRow.toCells.map Prod.snd

def insertPieces (statements : List Statement) : List Piece :=
  .sql s!"INSERT INTO bank_statements ({columnList}) VALUES " ::
    ([Piece.sql ", "].intercalate (statements.map fun s => tuple (statementValues s))) ++
      [.sql " ON CONFLICT DO NOTHING RETURNING bank_statement_id"]

def chunks {α : Type} (size : Nat) (xs : List α) : List (List α) :=
  if _ : 0 < size ∧ xs ≠ [] then xs.take size :: chunks size (xs.drop size) else []
termination_by xs.length
decreasing_by
  have h : 0 < size ∧ xs ≠ [] := by assumption
  have := List.length_pos_iff.2 h.2
  simp only [List.length_drop]
  omega

def insertChunks : List (List Statement) → Exchange (List Uuid)
  | [] => return []
  | part :: parts => do
    let r ← exec .insertStatements (insertPieces part)
    let ids ← readRows .insertStatements (fun row => cell row "bank_statement_id" Value.uuid?) r
    let rest ← insertChunks parts
    return ids ++ rest

/-- Inserts statements in one transaction; those that collide are passed over. -/
def insertMany (statements : List Statement) : Exchange (List Uuid) :=
  if statements.isEmpty then pure []
  else do
    let begun ← ExceptT.lift begin
    explain .beginTransaction begun
    let ids ← tryCatch (insertChunks (chunks insertLimit statements)) fun e => do
      ExceptT.lift rollback
      throw e
    match ← ExceptT.lift commit with
    | .ok () => return ids
    | .error e =>
      ExceptT.lift rollback
      throw (.database (.storage .commitTransaction e))

def findPieces (churchId : String) (id : Uuid) : List Piece :=
  [.sql s!"SELECT {columnList} FROM bank_statements WHERE church_id = ", .bind (.text churchId),
    .sql " AND bank_statement_id = ", .bind (.uuid id)]

def findStatement (churchId : String) (id : Uuid) : Exchange (Option Statement) := do
  let r ← exec .getStatement (findPieces churchId id)
  match ← readFirst .getStatement Statement.Row.ofCells r with
  | none => return none
  | some row => return some (← Statement.ofRow row)

def updateCells (s : Statement) : Cells :=
  [("reconciliation_status", .text s.status.word), ("financial_record_id", .ofText? s.recordId?),
    ("reconciled_at", .ofTime? s.reconciliation.time?), ("updated_at", .time s.updatedAt)]

/-- The update names the row by its first two parameters. -/
def updateQuery (s : Statement) : Query where
  text := "UPDATE bank_statements SET reconciliation_status = $3, financial_record_id = $4, " ++
    "reconciled_at = $5, updated_at = $6 WHERE church_id = $1 AND bank_statement_id = $2"
  params := .text s.churchId :: .uuid s.id :: (updateCells s).map Prod.snd

def updateReconciliation (s : Statement) : Exchange Unit := do
  let sent ← ExceptT.lift (query (updateQuery s))
  let r ← explain .updateReconciliation sent
  if r.affected = 0 then throw (.notFound (.statementNotFound s.id))

inductive Condition
  | equal (column : String) (value : Value)
  | notBefore (column : String) (value : Value)
  | before (column : String) (value : Value)
  /-- The row comes after the one that a token names. -/
  | after (token : Uuid)

def Condition.pieces : Condition → List Piece
  | .equal column value => [.sql s!"{column} = ", .bind value]
  | .notBefore column value => [.sql s!"{column} >= ", .bind value]
  | .before column value => [.sql s!"{column} < ", .bind value]
  | .after token =>
    [.sql ("(posted_at, bank_statement_id) > (SELECT posted_at, bank_statement_id " ++
      "FROM bank_statements WHERE bank_statement_id = "), .bind (.uuid token), .sql ")"]

def conditions (f : StatementFilter) (token : Option Uuid) : List Condition :=
  [.equal "church_id" (.text f.churchId)] ++
    (f.bankId.map fun v => Condition.equal "bank_id" (.text v)).toList ++
    (f.accountId.map fun v => Condition.equal "availability_account_id" (.text v)).toList ++
    (f.status.map fun v => Condition.equal "reconciliation_status" (.text v.word)).toList ++
    (f.month.map fun v => Condition.equal "month" (.int v.toInt)).toList ++
    (f.year.map fun v => Condition.equal "year" (.int v.toInt)).toList ++
    (f.postedFrom.map fun v => Condition.notBefore "posted_at" (.time v)).toList ++
    (f.postedUntil.map fun v => Condition.before "posted_at" (.time v)).toList ++
    (token.map Condition.after).toList

def listPieces (conditions : List Condition) (limit : Nat) : List Piece :=
  .sql s!"SELECT {columnList} FROM bank_statements WHERE " ::
    ([Piece.sql " AND "].intercalate (conditions.map Condition.pieces)) ++
      [.sql " ORDER BY posted_at, bank_statement_id LIMIT ", .bind (.int limit)]

/-- One row more than fits the page is asked for; it shows that another page follows. -/
def list (f : StatementFilter) (pageSize : Int32) (token : Option Uuid) : Exchange Page := do
  let limit := pageLimit pageSize
  let r ← exec .listStatements (listPieces (conditions f token) (limit + 1))
  let rows ← readRows .listStatements Statement.Row.ofCells r
  let statements ← rows.mapM fun row => (Statement.ofRow row : Exchange Statement)
  if limit < rows.length then
    let items := statements.dropLast
    return ⟨items, items.getLast?.map (·.id.render)⟩
  else return ⟨statements, none⟩

end BankReconciliation.Sql
