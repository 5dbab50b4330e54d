import BankReconciliation.Proofs.Interleaving.System
import BankReconciliation.Proofs.Service.Reconcile

/-! Steps that can be computed: the next call of an operation, a sequence of such calls in a given
order, and a whole operation with nothing in between. -/

namespace BankReconciliation

def Program.Outcome.ended {I : Interface} {α : Type} : Outcome α → Program I α
  | .returned a => .done a
  | .aborted => .abort

theorem Program.ended_ended {I : Interface} {α : Type} (o : Outcome α) :
    (o.ended : Program I α).Ended := by
  cases o <;> trivial

namespace System

/-- The system with a new operation, which has made no call yet. -/
def starting (setup : ImportSetup) (S : System) (i : Nat) (request : Service.Request) : System :=
  S.withActivity i ⟨request, request.task setup⟩

/-- The system after the next call of an operation; nothing happens when it has none to make. -/
def next (S : System) (i : Nat) : System :=
  match S.activity i with
  | some ⟨request, .call c next⟩ =>
    withActivity ⟨(Memory.answer c S.memory).2, S.activity⟩ i
      ⟨request, next (Memory.answer c S.memory).1⟩
  | _ => S

/-- The system after calls of operations in the given order. -/
def turns (S : System) (order : List Nat) : System := order.foldl next S

/-- The system after an operation was started and ran to its end. -/
def serving (setup : ImportSetup) (S : System) (i : Nat) (request : Service.Request) : System :=
  let (outcome, memory) := (request.task setup).run Memory.answer S.memory
  withActivity ⟨memory, S.activity⟩ i ⟨request, outcome.ended⟩

variable {setup : ImportSetup} {admits : System → Service.Request → Prop} {S : System} {i : Nat}
  {request : Service.Request}

theorem reaches_starting (hi : S.activity i = none) (h : admits S request) :
    Reaches setup admits S (S.starting setup i request) :=
  .single (.start hi h)

theorem reaches_next (S : System) (i : Nat) : Reaches setup admits S (S.next i) := by
  unfold next
  split
  · rename_i request c next hi
    exact .single (.call hi)
  · exact .refl

theorem reaches_turns (S : System) (order : List Nat) :
    Reaches setup admits S (S.turns order) := by
  induction order generalizing S with
  | nil => exact .refl
  | cons i order ih => exact (reaches_next S i).trans (ih (S.next i))

theorem activity_turns {order : List Nat} {k : Nat} (h : S.activity k = none) :
    (S.turns order).activity k = none := by
  induction order generalizing S with
  | nil => exact h
  | cons i order ih =>
    refine ih (S := S.next i) ?_
    unfold next
    split
    · rename_i request c next hi
      have hki : k ≠ i := by
        rintro rfl
        rw [h] at hi
        cases hi
      rw [withActivity_of_ne hki]
      exact h
    · exact h

theorem withActivity_eq_self {a : Activity} (hi : S.activity i = some a) :
    S.withActivity i a = S := by
  rw [withActivity, ← hi, Function.update_eq_self]

@[simp] theorem withActivity_withActivity {m : Memory} {a b : Activity} :
    withActivity ⟨m, (S.withActivity i a).activity⟩ i b = withActivity ⟨m, S.activity⟩ i b := by
  simp [withActivity]

theorem reaches_run {rest : Task Service.Response} (hi : S.activity i = some ⟨request, rest⟩) :
    Reaches setup admits S
      (withActivity ⟨(rest.run Memory.answer S.memory).2, S.activity⟩ i
        ⟨request, (rest.run Memory.answer S.memory).1.ended⟩) := by
  induction rest generalizing S with
  | done a =>
    have hend : S.withActivity i ⟨request, .done a⟩ = S := withActivity_eq_self hi
    exact hend.symm ▸ Relation.ReflTransGen.refl
  | abort =>
    have hend : S.withActivity i ⟨request, .abort⟩ = S := withActivity_eq_self hi
    exact hend.symm ▸ Relation.ReflTransGen.refl
  | call c next ih =>
    have hrest := ih (Memory.answer c S.memory).1
      (S := withActivity ⟨(Memory.answer c S.memory).2, S.activity⟩ i
        ⟨request, next (Memory.answer c S.memory).1⟩) withActivity_same
    rw [withActivity_withActivity] at hrest
    exact .head (.call hi) hrest

theorem reaches_serving (hi : S.activity i = none) (h : admits S request) :
    Reaches setup admits S (S.serving setup i request) := by
  have hrun : Reaches setup admits (S.starting setup i request) _ := reaches_run withActivity_same
  rw [starting, withActivity_withActivity] at hrun
  exact (reaches_starting hi h).trans hrun

theorem idle_serving (h : S.Idle) : (S.serving setup i request).Idle := by
  intro j hj
  rcases running_of_withActivity hj with rfl | hj
  · obtain ⟨a, ha, hend⟩ := hj
    rw [serving, withActivity_same] at ha
    exact hend (Option.some.inj ha ▸ Program.ended_ended _)
  · exact h j hj

end System

namespace Sample

def parser : Parser where
  code := "sample"
  names := []
  supports _ := true
  parse _ location _ := .ok [line location]

def setup : ImportSetup := ⟨⟨[parser], []⟩, "imports"⟩

def importOf (location : String) : Service.Request :=
  .importFile {
    churchId := "church"
    bank := ⟨"bb", "church", "Banco do Brasil", "bb", some "account"⟩
    account := ⟨"account", "church", "Main account"⟩
    month := 1
    year := 2025
    location
    uploadedBy := "treasurer"
    queuedAt := .midnight day }

def start : System := ⟨memory, fun _ => none⟩

theorem unused_start : start.Unused := fun _ => rfl

end Sample

end BankReconciliation
