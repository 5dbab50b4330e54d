import BankReconciliation.Deployment.Faults
import BankReconciliation.Deployment.Memory
import BankReconciliation.Message.Encode

/-! A deployment in memory that is driven step by step: callers' requests, changes of the ledger,
failures of collaborators, and rival imports that store the same lines a moment earlier. -/

namespace BankReconciliation

structure Session where
  memory : Memory
  setup : ImportSetup
  faults : FaultPlan := {}
  /-- The numbers of the candidates that a rival import stores just before the next insertion. -/
  rivals : List Nat := []

/-- The copy of a candidate that a rival import stores; it differs in its id. -/
def Statement.rivalCopy (s : Statement) : Statement :=
  { s with id := .ofNat (0xffffffff * twoTo 96 + s.id.value % twoTo 96) }

namespace Session

/-- Lets the rival import come first. It stores its copies in the order of the candidates. -/
def race (s : Session) (candidates : List Statement) : Session :=
  let copies := candidates.zipIdx.filterMap fun (c, i) =>
    if s.rivals.contains i then some c.rivalCopy else none
  { s with
    memory.statements := (s.memory.statements.insertMany copies).2
    rivals := [] }

/-- Takes back the identifiers of candidates that the store refused as a whole. -/
def takeBack (s : Session) (candidates : List Statement) : Session :=
  { s with memory.issued := s.memory.issued - candidates.length }

def answer : Program.Handler Collaborators Session
  | call, s =>
    let struck := call.kind?.filter s.faults.strikes
    let s := match call.kind? with
      | some kind => { s with faults := s.faults.note kind }
      | none => s
    match struck.bind fun kind => call.refuse (FaultPlan.error kind) with
    | some refusal =>
      match call with
      | .insertMany candidates => (refusal, s.takeBack candidates)
      | _ => (refusal, s)
    | none =>
      let s := match call with
        | .insertMany candidates => s.race candidates
        | _ => s
      let (a, memory) := Memory.answer call s.memory
      (a, { s with memory })

def perform {α : Type} (s : Session) (task : Task α) : Program.Outcome α × Session :=
  task.run answer s

def attempt {α : Type} (s : Session) (operation : Operation α) :
    Program.Outcome (Reply α) × Session := s.perform operation.run

def fetchNotices (s : Session) : List Store.Notice × Session :=
  let (notices, channel) := s.memory.channel.fetch
  (notices, { s with memory.channel := channel })

def putFile (s : Session) (location : String) (entry : FileEntry) : Session :=
  { s with memory.files := s.memory.files.put location entry }

def importJob (s : Session) (job : ImportJob) (rivals : List Nat) :
    Program.Outcome (Reply Summary) × Session :=
  { s with rivals }.perform (Service.handle s.setup job)

def requestImport (s : Session) (request : ImportRequest) :
    Program.Outcome (Reply Accepted) × Session :=
  s.attempt (Service.requestImport s.setup.registry request)

def retry (s : Session) (churchId id : String) : Program.Outcome (Reply Outcome) × Session :=
  s.attempt (Service.retry churchId id)

def link (s : Session) (churchId id recordId : String) :
    Program.Outcome (Reply Statement) × Session :=
  s.attempt (Service.link churchId id recordId)

def list (s : Session) (filter : StatementFilter) (pageSize : Int32) (token : Option String) :
    Program.Outcome (Reply Page) × Session :=
  s.attempt (Service.list filter pageSize token)

def reconcile (s : Session) (statement : Statement) : Program.Outcome Attempt × Session :=
  s.perform (Service.reconcile statement)

/-- Asks a collaborator directly; no failure is made to happen. -/
def ask (s : Session) (call : Call) : call.Answer × Session :=
  let (a, memory) := Memory.answer call s.memory
  (a, { s with memory })

def addRecord (s : Session) (record : LedgerRecord) : Session :=
  { s with memory.ledger := s.memory.ledger.insert record }

def setFaults (s : Session) (rules : List (CallKind × FaultRule)) : Session :=
  { s with faults := { rules } }

def disconnect (s : Session) : Session :=
  { s with memory.channel := s.memory.channel.disconnect }

def isWorking (s : Session) : Bool :=
  !s.memory.worker.stopping && match s.memory.worker.distributor with
    | .receiving | .holding _ | .permitted _ => true
    | _ => false

def step (s : Session) (event : Worker.Event ImportJob) : Session :=
  match s.memory.worker.step event with
  | some worker => { s with memory.worker := worker }
  | none => s

def runNext (s : Session) : Session :=
  match s.memory.worker.waiting with
  | [] => s
  | job :: _ =>
    let s := ((s.step .receive).step .acquire).step .spawn
    ((s.perform (Service.handle s.setup job)).2).step .finish

def drain (s : Session) : Session :=
  if s.isWorking then
    (List.range s.memory.worker.waiting.length).foldl (fun s _ => s.runNext) s
  else s

/-- Starts the worker and lets it run what waits. A worker that was told to stop before stops at
once. The flag says whether the distributor started. -/
def startWorker (s : Session) : Bool × Session :=
  let started := s.memory.worker.start?.isSome
  (started, ((s.step .start).step .stop).drain)

def shutdown (s : Session) : Session := (s.step .shutdown).step .stop

end Session

end BankReconciliation
