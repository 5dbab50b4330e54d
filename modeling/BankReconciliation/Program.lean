/-! Programs that call on their surroundings. A program ends with a value, or makes a request and
goes on with the answer, or is aborted. Every program makes finitely many requests. -/

namespace BankReconciliation

/-- What can be asked, and what kind of answer each request has. -/
structure Interface where
  Request : Type
  Answer : Request → Type

inductive Program (I : Interface) (α : Type) where
  | done (a : α)
  /-- The program breaks off and never gives a value. -/
  | abort
  | call (request : I.Request) (next : I.Answer request → Program I α)

namespace Program

variable {I : Interface} {α β γ : Type}

def bind : Program I α → (α → Program I β) → Program I β
  | .done a, f => f a
  | .abort, _ => .abort
  | .call r next, f => .call r fun a => (next a).bind f

instance : Monad (Program I) where
  pure := .done
  bind := .bind

@[simp] theorem pure_def (a : α) : (pure a : Program I α) = .done a := rfl
@[simp] theorem done_bind (a : α) (f : α → Program I β) : (Program.done a >>= f) = f a := rfl
@[simp] theorem abort_bind (f : α → Program I β) : (Program.abort >>= f) = .abort := rfl
@[simp] theorem call_bind (r : I.Request) (next : I.Answer r → Program I α) (f : α → Program I β) :
    (Program.call r next >>= f) = .call r fun a => next a >>= f := rfl

theorem bind_done (p : Program I α) : (p >>= .done) = p := by
  induction p with
  | done a => rfl
  | abort => rfl
  | call r next ih => simp only [call_bind, ih]

theorem bind_assoc (p : Program I α) (f : α → Program I β) (g : β → Program I γ) :
    (p >>= f >>= g) = p >>= fun a => f a >>= g := by
  induction p with
  | done a => rfl
  | abort => rfl
  | call r next ih => simp only [call_bind, ih]

instance : LawfulMonad (Program I) :=
  LawfulMonad.mk' (Program I) bind_done (fun _ _ => rfl) bind_assoc

def request (r : I.Request) : Program I (I.Answer r) := .call r .done

/-- The end of a program: its value, or that it was aborted. -/
inductive Outcome (α : Type)
  | returned (a : α)
  | aborted
deriving DecidableEq

/-- Surroundings with a state, which answer every request. -/
def Handler (I : Interface) (σ : Type) := (r : I.Request) → σ → I.Answer r × σ

/-- Runs a program to its end with nothing else happening in between. -/
def run {σ : Type} (h : Handler I σ) : Program I α → σ → Outcome α × σ
  | .done a, s => (.returned a, s)
  | .abort, s => (.aborted, s)
  | .call r next, s => (next (h r s).1).run h (h r s).2

@[simp] theorem run_done {σ : Type} (h : Handler I σ) (a : α) (s : σ) :
    (Program.done a).run h s = (.returned a, s) := rfl

@[simp] theorem run_abort {σ : Type} (h : Handler I σ) (s : σ) :
    (Program.abort : Program I α).run h s = (.aborted, s) := rfl

@[simp] theorem run_call {σ : Type} (h : Handler I σ) (r : I.Request)
    (next : I.Answer r → Program I α) (s : σ) :
    (Program.call r next).run h s = (next (h r s).1).run h (h r s).2 := rfl

theorem run_bind {σ : Type} (h : Handler I σ) (p : Program I α) (f : α → Program I β) (s : σ) :
    (p >>= f).run h s = match p.run h s with
      | (.returned a, t) => (f a).run h t
      | (.aborted, t) => (.aborted, t) := by
  induction p generalizing s with
  | done a => rfl
  | abort => rfl
  | call r next ih => simp only [call_bind, run_call, ih]

end Program

end BankReconciliation
