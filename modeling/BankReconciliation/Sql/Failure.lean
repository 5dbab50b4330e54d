/-! Why a database does not answer. -/

namespace BankReconciliation.Sql

inductive Failure
  /-- A row was asked for and none came. -/
  | noRow
  | poolClosed
  | poolTimedOut
  | noColumn (name : String)
  | protocol (text : String)
  /-- The address of the database cannot be understood. -/
  | address (text : String)
  /-- The server's own error. -/
  | server (text : String)
deriving DecidableEq

def Failure.message : Failure → String
  | .noRow => "no rows returned by a query that expected to return at least one row"
  | .poolClosed => "attempted to acquire a connection on a closed pool"
  | .poolTimedOut => "pool timed out while waiting for an open connection"
  | .noColumn name => s!"no column found for name: {name}"
  | .protocol text => s!"encountered unexpected or invalid data: {text}"
  | .address text => s!"error with configuration: {text}"
  | .server text => s!"error returned from database: {text}"

inductive Action
  | connect | migrate | checkHealth
  | lookUpFitId | lookUpHash | beginTransaction | insertStatements | commitTransaction
  | getStatement | updateReconciliation | listStatements | getBank | getAccount
  | queryRecords | getRecord | writeEvent
deriving DecidableEq

def Action.complaint : Action → String
  | .connect => "Failed to connect"
  | .migrate => "Migration failed"
  | .checkHealth => "Health check failed"
  | .lookUpFitId => "Failed to look up fit_id"
  | .lookUpHash => "Failed to look up hash"
  | .beginTransaction => "Failed to begin transaction"
  | .insertStatements => "Failed to insert statements"
  | .commitTransaction => "Failed to commit transaction"
  | .getStatement => "Failed to get statement"
  | .updateReconciliation => "Failed to update reconciliation"
  | .listStatements => "Failed to list statements"
  | .getBank => "Failed to get bank"
  | .getAccount => "Failed to get availability account"
  | .queryRecords => "Failed to query financial records"
  | .getRecord => "Failed to get financial record"
  | .writeEvent => "Failed to write outbox event"

end BankReconciliation.Sql
