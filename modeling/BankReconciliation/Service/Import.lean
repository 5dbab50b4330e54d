import BankReconciliation.Message.Encode
import BankReconciliation.Service.Reconcile

/-! Importing a statement file: its lines are parsed, the new ones are stored and reconciled, and a
summary is sent. -/

namespace BankReconciliation

structure ImportSetup where
  registry : Registry
  summaryTopic : String

/-- The keys of the lines of a file that have been kept so far. -/
structure Seen where
  fitIds : List String := []
  hashes : List String := []
deriving DecidableEq

namespace Seen

/-- Remembers a kept line; an empty reference is no key. -/
def add (seen : Seen) (l : Line) : Seen :=
  ⟨if l.hasFitId then l.fitId :: seen.fitIds else seen.fitIds, l.hash :: seen.hashes⟩

end Seen

namespace Service

def knownFitId (churchId bankId : String) (seen : Seen) (l : Line) : Operation Bool :=
  if !l.hasFitId then pure false
  else if seen.fitIds.contains l.fitId then pure true
  else Task.existsByFitId churchId bankId l.fitId

def knownHash (churchId bankId : String) (seen : Seen) (l : Line) : Operation Bool :=
  if seen.hashes.contains l.hash then pure true else Task.existsByHash churchId bankId l.hash

/-- Whether a line repeats one that is stored or came earlier in its file. -/
def isDuplicate (churchId bankId : String) (seen : Seen) (l : Line) : Operation Bool := do
  if ← knownFitId churchId bankId seen l then return true
  else knownHash churchId bankId seen l

def newLines (churchId bankId : String) : Seen → List Line → Operation (List Line)
  | _, [] => return []
  | seen, l :: ls => do
    if ← isDuplicate churchId bankId seen l then newLines churchId bankId seen ls
    else
      let rest ← newLines churchId bankId (seen.add l) ls
      return l :: rest

def makeStatements (churchId : String) (now : Instant) : List Line → Task (List Statement)
  | [] => return []
  | l :: ls => do
    let id ← Task.newId
    let rest ← makeStatements churchId now ls
    return .ofLine id churchId now l :: rest

/-- Reconciles one statement of an import and answers whether it matched. A failure is counted and
leaves the statement as it is stored. -/
def reconcileOne (s : Statement) : Task Bool := do
  match (← reconcile s).result with
  | .ok outcome =>
    Task.count (.reconciliation "auto" outcome.matched)
    return outcome.matched
  | .error e =>
    Task.count (.error e.kind)
    return false

def reconcileAll : List Statement → Task Nat
  | [] => return 0
  | s :: ss => do
    let matched ← reconcileOne s
    let rest ← reconcileAll ss
    return rest + matched.toNat

/-- Stores and reconciles the lines of a file. Statements that the store does not take, because
another import was faster, count as duplicates. -/
def storeLines (job : ImportJob) (lines : List Line) : Operation Summary := do
  let now ← ExceptT.lift Task.now
  let kept ← newLines job.churchId job.bank.id {} lines
  let candidates ← ExceptT.lift (makeStatements job.churchId now kept)
  let ids ← Task.insertMany candidates
  let raced := candidates.length - ids.eraseDups.length
  let duplicates := lines.length - kept.length + raced
  let inserted := candidates.filter fun s => ids.contains s.id
  ExceptT.lift (Task.count (.lines "inserted" inserted.length))
  ExceptT.lift (Task.count (.lines "duplicate" duplicates))
  let matched ← ExceptT.lift (reconcileAll inserted)
  return {
    churchId := job.churchId
    bank := job.bank.snapshot
    account := job.account.snapshot
    month := job.month
    year := job.year
    uploadedBy := job.uploadedBy
    totalLines := lines.length
    inserted := inserted.length
    duplicates
    matched
    pending := inserted.length - matched }

def readLines (setup : ImportSetup) (job : ImportJob) : Operation (List Line) := do
  match setup.registry.resolve job.bank.name with
  | .error e => throw (.ofExport e)
  | .ok parser =>
    let opened ← ExceptT.lift (Task.openFile job.location)
    match parser.parse job.batch job.location opened with
    | .error e => throw (.ofExport e)
    | .ok lines => return lines

def importFile (setup : ImportSetup) (job : ImportJob) : Operation Summary := do
  let lines ← readLines setup job
  storeLines job lines

/-- Removes a local file; whether that succeeds does not matter. -/
def discard (location : String) : Task Unit := do
  if isRemote location then return ()
  else
    let _ ← Task.removeFile location
    return ()

/-- Sends the summary of an import. A failure is counted and has no other effect. -/
def report (topic : String) (summary : Summary) : Task Unit := do
  match ← (Task.notify topic summary.toJson).run with
  | .ok () => return ()
  | .error _ => Task.count (.error "notification")

/-- Runs an import. Its file is removed whether the import succeeds or not. -/
def handle (setup : ImportSetup) (job : ImportJob) : Task (Reply Summary) := do
  let result ← (importFile setup job).run
  discard job.location
  match result with
  | .ok summary =>
    Task.count (.imported "success")
    report setup.summaryTopic summary
  | .error e =>
    Task.count (.imported "failed")
    Task.count (.error e.kind)
  return result

end Service

end BankReconciliation
