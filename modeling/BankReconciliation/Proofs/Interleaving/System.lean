import BankReconciliation.Deployment.Memory
import Mathlib.Logic.Function.Basic
import Mathlib.Logic.Relation

/-! Operations of the service that run side by side over one memory. A call on a collaborator is one
step, which nothing interrupts; between two calls of an operation the others may take any steps. -/

namespace BankReconciliation

namespace Service

inductive Request
  | importFile (job : ImportJob)
  | queueImport (request : ImportRequest)
  | retry (churchId id : String)
  | link (churchId id recordId : String)
  | list (filter : StatementFilter) (pageSize : Int32) (token : Option String)

inductive Response
  | imported (reply : Reply Summary)
  | queued (reply : Reply Accepted)
  | retried (reply : Reply Outcome)
  | linked (reply : Reply Statement)
  | listed (reply : Reply Page)

namespace Request

def isLink : Request → Bool
  | .link .. => true
  | _ => false

def task (setup : ImportSetup) : Request → Task Response
  | .importFile job => .imported <$> handle setup job
  | .queueImport request => .queued <$> (requestImport setup.registry request).run
  | .retry churchId id => .retried <$> (Service.retry churchId id).run
  | .link churchId id recordId => .linked <$> (Service.link churchId id recordId).run
  | .list filter pageSize token => .listed <$> (Service.list filter pageSize token).run

end Request

end Service

namespace Program

/-- Whether a program has come to its end, be it that it was aborted. -/
def Ended {I : Interface} {α : Type} : Program I α → Prop
  | .call .. => False
  | _ => True

end Program

/-- An operation that was started: what it serves, and what it has left to do. -/
structure Activity where
  request : Service.Request
  rest : Task Service.Response

structure System where
  memory : Memory
  activity : Nat → Option Activity

/-- Memories that differ neither in what the stores hold nor in the identifiers to come. -/
structure Memory.SameStores (m m' : Memory) : Prop where
  statements : m'.statements = m.statements
  records : m'.ledger.records = m.ledger.records
  supply : m'.supply = m.supply
  issued : m'.issued = m.issued

namespace System

/-- An operation was started and did not come to its end. -/
def Running (S : System) (i : Nat) : Prop := ∃ a, S.activity i = some a ∧ ¬ a.rest.Ended

/-- No operation is under way. -/
def Idle (S : System) : Prop := ∀ i, ¬ S.Running i

/-- A system in which nothing was started yet. -/
def Unused (S : System) : Prop := ∀ i, S.activity i = none

def withActivity (S : System) (i : Nat) (a : Activity) : System :=
  { S with activity := Function.update S.activity i (some a) }

/-- One step of a system. Which operations may start in which systems is a parameter. -/
inductive Step (setup : ImportSetup) (admits : System → Service.Request → Prop) :
    System → System → Prop
  /-- An operation starts. -/
  | start {S i request} (hi : S.activity i = none) (h : admits S request) :
    Step setup admits S (S.withActivity i ⟨request, request.task setup⟩)
  /-- An operation makes its next call. -/
  | call {S i request c next} (hi : S.activity i = some ⟨request, .call c next⟩) :
    Step setup admits S
      (withActivity ⟨(Memory.answer c S.memory).2, S.activity⟩ i
        ⟨request, next (Memory.answer c S.memory).1⟩)
  /-- The ledger gets a record under a key that it does not use yet. -/
  | addRecord {S record} (h : ∀ r ∈ S.memory.ledger.records, r.key ≠ record.key) :
    Step setup admits S { S with memory.ledger := S.memory.ledger.insert record }
  /-- Time goes by, files come and go, and all else that is not held in the stores changes. -/
  | surroundings {S m} (h : S.memory.SameStores m) : Step setup admits S { S with memory := m }

def Reaches (setup : ImportSetup) (admits : System → Service.Request → Prop) :
    System → System → Prop :=
  Relation.ReflTransGen (Step setup admits)

/-- Operations may start at any time. -/
def anything : System → Service.Request → Prop := fun _ _ => True

/-- An operation starts only when no other is under way. -/
def oneAtATime : System → Service.Request → Prop := fun S _ => S.Idle

/-- Nothing but links by hand is left out. -/
def automatic : System → Service.Request → Prop := fun _ request => request.isLink = false

variable {S : System} {i j : Nat} {a : Activity}

@[simp] theorem withActivity_memory : (S.withActivity i a).memory = S.memory := rfl

@[simp] theorem withActivity_same : (S.withActivity i a).activity i = some a := by
  simp [withActivity]

theorem withActivity_of_ne (h : j ≠ i) : (S.withActivity i a).activity j = S.activity j := by
  simp [withActivity, h]

theorem running_of_withActivity (h : (S.withActivity i a).Running j) : j = i ∨ S.Running j := by
  by_cases hj : j = i
  · exact .inl hj
  · obtain ⟨b, hb, hend⟩ := h
    rw [withActivity_of_ne hj] at hb
    exact .inr ⟨b, hb, hend⟩

theorem idle_of_unused (h : S.Unused) : S.Idle := by
  rintro i ⟨b, hb, -⟩
  rw [h i] at hb
  cases hb

end System

end BankReconciliation
