import BankReconciliation.Error

/-! The import worker: a bounded queue, a distributor that takes jobs out of it in order, and a
bounded number of jobs that run at a time. What happens is a sequence of events, each of which may
happen only in some states. -/

namespace BankReconciliation

structure WorkerSettings where
  enabled : Bool := true
  workerCount : Nat := 4
  queueSize : Nat := 100
deriving DecidableEq

namespace WorkerSettings

def permits (s : WorkerSettings) : Nat := max 1 s.workerCount

def capacity (s : WorkerSettings) : Nat := max 1 s.queueSize

end WorkerSettings

inductive Distributor (Job : Type)
  | idle
  /-- It waits for a job. -/
  | receiving
  /-- It has taken a job and waits for a permit. -/
  | holding (job : Job)
  /-- It has a permit for the job that it has taken. -/
  | permitted (job : Job)
  | ended
deriving DecidableEq

structure Worker (Job : Type) where
  settings : WorkerSettings
  waiting : List Job := []
  distributor : Distributor Job := .idle
  /-- The number of jobs that run. -/
  running : Nat := 0
  /-- The jobs that were handed over to run, in order. -/
  handed : List Job := []
  /-- Whether the worker was told to stop. -/
  stopping : Bool := false

namespace Worker

variable {Job : Type}

/-- The queue is closed once the distributor has ended. -/
def isClosed (w : Worker Job) : Bool :=
  match w.distributor with
  | .ended => true
  | _ => false

def enqueue (w : Worker Job) (job : Job) : Except ServiceError (Worker Job) :=
  if w.isClosed then .error (.internal .queueClosed)
  else if w.settings.capacity ≤ w.waiting.length then .error .unavailable
  else .ok { w with waiting := w.waiting ++ [job] }

/-- Starts the distributor. A worker that is not enabled, or was started before, does not start. -/
def start? (w : Worker Job) : Option (Worker Job) :=
  match w.settings.enabled, w.distributor with
  | true, .idle => some { w with distributor := .receiving }
  | _, _ => none

inductive Event (Job : Type)
  | start
  | enqueue (job : Job)
  /-- The distributor takes the first waiting job. -/
  | receive
  /-- The distributor gets a permit for the job that it holds. -/
  | acquire
  /-- The job with a permit is handed over and runs. -/
  | spawn
  /-- A running job ends, as it should or by breaking off. -/
  | finish
  | shutdown
  /-- The distributor notices, while it waits, that it shall stop, and drops a job that it holds. -/
  | stop
deriving DecidableEq

/-- The state after an event; none where the event cannot happen. Calls that are refused change
nothing. -/
def step (w : Worker Job) : Event Job → Option (Worker Job)
  | .start => some (w.start?.getD w)
  | .enqueue job => some (match w.enqueue job with
      | .ok w => w
      | .error _ => w)
  | .receive =>
    match w.distributor, w.waiting with
    | .receiving, job :: rest => some { w with distributor := .holding job, waiting := rest }
    | _, _ => none
  | .acquire =>
    match w.distributor with
    | .holding job =>
      if w.running < w.settings.permits then some { w with distributor := .permitted job }
      else none
    | _ => none
  | .spawn =>
    match w.distributor with
    | .permitted job =>
      some { w with
        distributor := .receiving, running := w.running + 1, handed := w.handed ++ [job] }
    | _ => none
  | .finish => if 0 < w.running then some { w with running := w.running - 1 } else none
  | .shutdown => some { w with stopping := true }
  | .stop =>
    if !w.stopping then none
    else match w.distributor with
      | .receiving | .holding _ => some { w with distributor := .ended, waiting := [] }
      | _ => none

def run? (w : Worker Job) : List (Event Job) → Option (Worker Job)
  | [] => some w
  | e :: es => (w.step e).bind (·.run? es)

end Worker

end BankReconciliation
