import BankReconciliation.Service.Reconcile

/-! What callers ask of the service: to queue a file for import, to reconcile a statement again, to
link it with a record by hand, and to list statements. -/

namespace BankReconciliation

structure ImportRequest where
  churchId : String
  bankId : String
  month : Int32
  year : Int32
  uploadedBy : String
  location : String
deriving DecidableEq

structure Accepted where
  queuedAt : Instant
  location : String
deriving DecidableEq

namespace Service

def requireSome {α : Type} (e : ServiceError) : Option α → Operation α
  | some a => pure a
  | none => throw e

/-- Checks a request and queues it. Nothing is parsed yet. -/
def requestImport (registry : Registry) (request : ImportRequest) : Operation Accepted := do
  if request.month < 1 ∨ 12 < request.month then
    throw (.badRequest (.invalidMonth request.month.toInt))
  let found ← Task.findBank request.bankId
  let bank ← requireSome (.notFound (.bankNotFound request.bankId))
    (found.filter (·.churchId == request.churchId))
  let accountId ← requireSome (.badRequest (.bankWithoutAccount bank.name)) bank.accountId
  let found ← Task.findAccount request.churchId accountId
  let account ← requireSome (.notFound (.accountNotFound accountId)) found
  if !registry.isSupported bank.name then throw (.badRequest (.noParser bank.name))
  let queuedAt ← ExceptT.lift Task.now
  Task.enqueue {
    churchId := request.churchId
    bank
    account
    month := request.month
    year := request.year
    location := request.location
    uploadedBy := request.uploadedBy
    queuedAt }
  return ⟨queuedAt, request.location⟩

def fetch (churchId id : String) : Operation Statement := do
  let id ← requireSome (.badRequest .invalidStatementId) (Uuid.ofString? id)
  let found ← Task.findStatement churchId id
  requireSome (.notFound (.statementNotFound id)) found

/-- Matches a statement again, whatever its state. -/
def retry (churchId id : String) : Operation Outcome := do
  let s ← fetch churchId id
  let attempt ← ExceptT.lift (reconcile s)
  let outcome ← attempt.result
  ExceptT.lift (Task.count (.reconciliation "retry" outcome.matched))
  return outcome

/-- Binds a statement to the record that the caller names. The rules of matching do not apply. -/
def link (churchId id recordId : String) : Operation Statement := do
  let s ← fetch churchId id
  let found ← Task.findRecord churchId recordId
  let record ← requireSome (.notFound (.recordNotFound recordId)) found
  let now ← ExceptT.lift Task.now
  let s := s.markReconciled record.id now
  Task.updateReconciliation s
  ExceptT.lift (Task.count (.reconciliation "manual" true))
  ExceptT.lift (announce record)
  return s

/-- One page of the statements that a filter accepts. An empty token asks for the first page. -/
def list (filter : StatementFilter) (pageSize : Int32) (token : Option String) :
    Operation Page := do
  let cursor ← match token.filter (· != "") with
    | none => pure none
    | some t => some <$> requireSome (.badRequest .invalidPageToken) (Uuid.ofString? t)
  Task.list filter pageSize cursor

end Service

end BankReconciliation
