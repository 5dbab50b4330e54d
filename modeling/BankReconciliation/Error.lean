import BankReconciliation.Export.Problem
import BankReconciliation.Settings.Problem
import BankReconciliation.Sql.Failure
import BankReconciliation.Text.Classes
import BankReconciliation.Uuid

/-! The errors of the service: a kind, by which callers and counters tell them apart, and a
cause. -/

namespace BankReconciliation

inductive Vocabulary
  | direction | reconciliationStatus | recordType | recordStatus
deriving DecidableEq

def Vocabulary.describe : Vocabulary → String
  | .direction => "statement direction"
  | .reconciliationStatus => "reconciliation status"
  | .recordType => "financial record type"
  | .recordStatus => "financial record status"

inductive Cause
  | text (s : String)
  | file (e : FileError)
  | exportFile (e : ExportProblem)
  | storage (action : Sql.Action) (e : Sql.Failure)
  | sql (e : Sql.Failure)
  | settings (e : SettingsProblem)
  | unknownWord (vocabulary : Vocabulary) (word : String)
  /-- An unknown status in a stored statement. -/
  | unknownStoredStatus (word : String)
  /-- A stored statement is reconciled with nothing. -/
  | missingRecord (id : Uuid)
  | invalidMonth (month : Int)
  | bankNotFound (id : String)
  | bankWithoutAccount (name : String)
  | accountNotFound (id : String)
  | noParser (bank : String)
  | invalidStatementId
  | invalidPageToken
  | statementNotFound (id : Uuid)
  | recordNotFound (id : String)
  | rowNotFound
  | queueClosed
  | channelClosed
deriving DecidableEq

namespace Cause

def message : Cause → String
  | .text s => s
  | .file e => e.message
  | .exportFile e => e.message
  | .storage action e => s!"{action.complaint}: {e.message}"
  | .sql e => e.message
  | .settings e => e.message
  | .unknownWord vocabulary word => s!"Unknown {vocabulary.describe}: {word}"
  | .unknownStoredStatus word => s!"Bad request: Unknown reconciliation status: {word}"
  | .missingRecord id => s!"Reconciled statement {id.render} is missing its financial record"
  | .invalidMonth month => s!"Invalid month: {month}"
  | .bankNotFound id => s!"Bank {id} not found"
  | .bankWithoutAccount name => s!"Bank {name} has no availability account"
  | .accountNotFound id => s!"Availability account {id} not found"
  | .noParser bank => s!"No parser for bank {bank}"
  | .invalidStatementId => "Invalid bank_statement_id"
  | .invalidPageToken => "Invalid page_token"
  | .statementNotFound id => s!"Bank statement {id.render} not found"
  | .recordNotFound id => s!"Financial record {id} not found"
  | .rowNotFound => "Row not found"
  | .queueClosed => "Import queue closed"
  | .channelClosed => "Notification channel closed: channel closed"

def details : Cause → String
  | .file e => s!"Custom \x7b\n    kind: Other,\n    error: {Text.quoted e.message},\n\x7d"
  | .exportFile (.task reason) => s!"Task(\n    {Text.quoted reason},\n)"
  | cause => Text.quoted cause.message

end Cause

inductive ServiceError
  | badRequest (cause : Cause)
  | notFound (cause : Cause)
  | internal (cause : Cause)
  | unavailable
  | database (cause : Cause)
  | settings (cause : Cause)
deriving DecidableEq

namespace ServiceError

/-- A short label, under which errors are counted. -/
def kind : ServiceError → String
  | .badRequest _ => "bad_request"
  | .notFound _ => "not_found"
  | .internal _ => "internal"
  | .unavailable => "unavailable"
  | .database _ => "database"
  | .settings _ => "config"

def message : ServiceError → String
  | .badRequest cause => s!"Bad request: {cause.message}"
  | .notFound cause => s!"Not found: {cause.message}"
  | .internal cause => s!"Internal server error: {cause.message}"
  | .unavailable => "Service Unavailable"
  | .database cause => s!"Database error: {cause.message}"
  | .settings cause => s!"Configuration error: {cause.message}"

/-- A file that cannot be read is the sender's fault; giving up is not. -/
def ofExport : ExportProblem → ServiceError
  | .task reason => .internal (.exportFile (.task reason))
  | e => .badRequest (.exportFile e)

def ofSql : Sql.Failure → ServiceError
  | .noRow => .notFound .rowNotFound
  | e => .database (.sql e)

def status : ServiceError → Nat
  | .badRequest _ => 400
  | .notFound _ => 404
  | .unavailable => 503
  | _ => 500

/-- What the response says. Errors within the service are described under `details`. -/
def response : ServiceError → Json
  | .badRequest cause => .ofMembers [("error", .str cause.message)]
  | .notFound cause => .ofMembers [("error", .str cause.message)]
  | .internal cause =>
    .ofMembers [("error", .str "Internal server error"), ("details", .str cause.details)]
  | .unavailable => .ofMembers [("error", .str "Service unavailable")]
  | .database cause =>
    .ofMembers [("error", .str "Database error"), ("details", .str cause.message)]
  | .settings cause =>
    .ofMembers [("error", .str "Configuration error"), ("details", .str cause.message)]

def contentType : String := "application/json"

end ServiceError

end BankReconciliation
