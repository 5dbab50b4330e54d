import BankReconciliation.Proofs.Interleaving.System
import BankReconciliation.Proofs.Transcript
import BankReconciliation.Proofs.Store.Statements
import BankReconciliation.Proofs.Store.Ledger

/-! The rules that operations keep while they run. An operation has a standing: whom it serves, the
identifiers that it has drawn, the statements that it knows to be stored, and how far it is with
binding one of them. A turn is a call with its answer and leads to the next standing. -/

namespace BankReconciliation

/-- The answers that a call gets from one memory or another. -/
def Call.CanGet (c : Call) (a : c.Answer) : Prop := ∃ m, (Memory.answer c m).1 = a

def Call.isLook : Call → Bool
  | .insertMany _ | .updateReconciliation _ | .dispatchStatus .. | .newId => false
  | _ => true

theorem Memory.SameStores.refl (m : Memory) : m.SameStores m := ⟨rfl, rfl, rfl, rfl⟩

theorem Memory.sameStores_of_isLook {c : Call} (hc : c.isLook = true) (m : Memory) :
    m.SameStores (Memory.answer c m).2 := by
  cases c with
  | insertMany _ | updateReconciliation _ | dispatchStatus _ _ | newId => cases hc
  | enqueue job =>
    cases hw : m.worker.enqueue job <;> simp only [Memory.answer, hw] <;> exact ⟨rfl, rfl, rfl, rfl⟩
  | removeFile location =>
    cases hf : m.files.remove location <;> simp only [Memory.answer, hf] <;>
      exact ⟨rfl, rfl, rfl, rfl⟩
  | _ => exact ⟨rfl, rfl, rfl, rfl⟩

namespace Task

variable {Standing α β : Type} {turn : Standing → (c : Call) → c.Answer → Standing → Prop}

/-- A task keeps to the turns that are allowed, whatever its calls get for an answer, and comes to
its ends only in standings that `ends` permits. -/
def Follows (turn : Standing → (c : Call) → c.Answer → Standing → Prop)
    (ends : Program.Outcome α → Standing → Prop) : Task α → Standing → Prop
  | .done a, g => ends (.returned a) g
  | .abort, g => ends .aborted g
  | .call c next, g => ∀ a, Call.CanGet c a → ∃ g', turn g c a g' ∧ Follows turn ends (next a) g'

/-- The ends of a first part from which a second part keeps to the turns. -/
def GoesOn (turn : Standing → (c : Call) → c.Answer → Standing → Prop) (f : α → Task β)
    (ends : Program.Outcome β → Standing → Prop) : Program.Outcome α → Standing → Prop
  | .returned a, g => (f a).Follows turn ends g
  | .aborted, g => ends .aborted g

theorem Follows.bind {p : Task α} {f : α → Task β} {g : Standing}
    {ends : Program.Outcome β → Standing → Prop} (h : p.Follows turn (GoesOn turn f ends) g) :
    (p >>= f).Follows turn ends g := by
  induction p generalizing g with
  | done a => exact h
  | abort => exact h
  | call c next ih =>
    intro a hget
    obtain ⟨g', hturn, hnext⟩ := h a hget
    exact ⟨g', hturn, ih a hnext⟩

theorem Follows.mono {p : Task α} {g : Standing} {ends ends' : Program.Outcome α → Standing → Prop}
    (h : p.Follows turn ends g) (he : ∀ o g', ends o g' → ends' o g') : p.Follows turn ends' g := by
  induction p generalizing g with
  | done a => exact he _ g h
  | abort => exact he _ g h
  | call c next ih =>
    intro a hget
    obtain ⟨g', hturn, hnext⟩ := h a hget
    exact ⟨g', hturn, ih a hnext⟩

theorem Follows.map {p : Task α} {g : Standing} {ends : Program.Outcome β → Standing → Prop}
    (f : α → β) (h : p.Follows turn (GoesOn turn (fun a => .done (f a)) ends) g) :
    (f <$> p).Follows turn ends g := by
  rw [map_eq_pure_bind]
  exact Follows.bind h

def GoesOnReply (turn : Standing → (c : Call) → c.Answer → Standing → Prop) (f : α → Operation β)
    (ends : Program.Outcome (Reply β) → Standing → Prop) :
    Program.Outcome (Reply α) → Standing → Prop
  | .returned (.ok a), g => Follows turn ends (f a).run g
  | .returned (.error e), g => ends (.returned (.error e)) g
  | .aborted, g => ends .aborted g

theorem Follows.bindReply {p : Operation α} {f : α → Operation β} {g : Standing}
    {ends : Program.Outcome (Reply β) → Standing → Prop}
    (h : Follows turn (GoesOnReply turn f ends) p.run g) : Follows turn ends (p >>= f).run g := by
  rw [ExceptT.run_bind]
  refine Follows.bind (h.mono ?_)
  rintro ((_ | _) | _) g' hg' <;> exact hg'

theorem Follows.bindLift {p : Task α} {f : α → Operation β} {g : Standing}
    {ends : Program.Outcome (Reply β) → Standing → Prop}
    (h : p.Follows turn (GoesOn turn (fun a => (f a).run) ends) g) :
    Follows turn ends (ExceptT.lift p >>= f : Operation β).run g := by
  rw [Program.lift_bind_run]
  exact Follows.bind h

def Looks : Task α → Prop
  | .call c next => c.isLook = true ∧ ∀ a, Looks (next a)
  | _ => True

theorem Looks.bind {p : Task α} {f : α → Task β} (hp : p.Looks) (hf : ∀ a, (f a).Looks) :
    (p >>= f).Looks := by
  induction p with
  | done a => exact hf a
  | abort => trivial
  | call c next ih => exact ⟨hp.1, fun a => ih a (hp.2 a)⟩

theorem Looks.bindReply {p : Operation α} {f : α → Operation β} (hp : Looks p.run)
    (hf : ∀ a, Looks (f a).run) : Looks (p >>= f).run := by
  rw [ExceptT.run_bind]
  refine hp.bind ?_
  intro a
  cases a with
  | ok a => exact hf a
  | error e => trivial

theorem Looks.bindLift {p : Task α} {f : α → Operation β} (hp : p.Looks)
    (hf : ∀ a, Looks (f a).run) : Looks (ExceptT.lift p >>= f : Operation β).run := by
  rw [Program.lift_bind_run]
  exact hp.bind hf

theorem looks_call {c : Call} (hc : c.isLook = true) : Looks (Task.request c) :=
  ⟨hc, fun _ => trivial⟩

theorem Looks.of_within {p : Task α} {allowed : Call → Bool}
    (hp : Program.Within (I := Collaborators) allowed p)
    (hlook : ∀ c, allowed c = true → c.isLook = true) : p.Looks := by
  induction p with
  | done a => trivial
  | abort => trivial
  | call c next ih => exact ⟨hlook c hp.1, fun a => ih a (hp.2 a)⟩

end Task

inductive Stage
  | free
  /-- The ledger was searched for the statement; what was found, if anything, is to be stored. -/
  | chosen (statement : Statement) (choice : Option LedgerRecord)
  /-- The binding to the record with the key is stored, and the ledger is to be told. -/
  | bound (key : String × String)

structure Standing where
  /-- Whether it serves a link by hand. -/
  byHand : Bool := false
  /-- The identifiers that it has drawn and not used yet, the last one first. -/
  drawn : List Uuid := []
  /-- Statements of which it knows that they are stored. -/
  known : List Statement := []
  stage : Stage := .free

def Stage.afterStoring (key : String × String) : Reply Unit → Stage
  | .ok () => .bound key
  | .error _ => .free

/-- The turns that an operation may take. Only an operation that serves a link by hand may choose a
record without searching for it. -/
inductive Turn : Standing → (c : Call) → c.Answer → Standing → Prop
  | look {g c a} (hg : g.stage = .free) (hc : c.isLook = true) : Turn g c a g
  | draw {g id} (hg : g.stage = .free) : Turn g .newId id { g with drawn := id :: g.drawn }
  | insert {g candidates ids} (churchId : String) (hg : g.stage = .free)
      (hids : candidates.map (·.id) = g.drawn.reverse)
      (hnew : ∀ s ∈ candidates, s.reconciliation = .pending ∧ s.churchId = churchId) :
    Turn g (.insertMany candidates) (.ok ids)
      { g with
        drawn := []
        known := candidates.filter (fun s => ids.contains s.id) ++ g.known }
  | fetch {g churchId id s} (hg : g.stage = .free) (hs : s.name = (churchId, id)) :
    Turn g (.findStatement churchId id) (.ok (some s)) { g with known := s :: g.known }
  | search {g s filter choice} (hm : g.byHand = false) (hg : g.stage = .free) (hs : s ∈ g.known)
      (hf : Matching.filterFor? s = some filter) :
    Turn g (.findOne filter) (.ok choice) { g with stage := .chosen s choice }
  | pick {g s recordId record} (hm : g.byHand = true) (hg : g.stage = .free) (hs : s ∈ g.known)
      (hr : record.key = (s.churchId, recordId)) :
    Turn g (.findRecord s.churchId recordId) (.ok (some record))
      { g with stage := .chosen s (some record) }
  | clock {g s choice t} (hg : g.stage = .chosen s choice) : Turn g .now t g
  | bind {g s record t a} (hg : g.stage = .chosen s (some record)) :
    Turn g (.updateReconciliation (s.markReconciled record.id t)) a
      { g with stage := .afterStoring record.key a }
  | unbind {g s t a} (hg : g.stage = .chosen s none) :
    Turn g (.updateReconciliation (s.markUnmatched t)) a { g with stage := .free }
  | tally {g key event a} (hm : g.byHand = true) (hg : g.stage = .bound key) :
    Turn g (.count event) a g
  | announce {g record a} (hg : g.stage = .bound record.key) :
    Turn g (.dispatchStatus record .reconciled) a { g with stage := .free }

namespace Task

variable {α : Type} {g : Standing}

theorem Looks.follows {p : Task α} {ends : Program.Outcome α → Standing → Prop} (hp : p.Looks)
    (hg : g.stage = .free) (he : ∀ o, ends o g) : p.Follows Turn ends g := by
  induction p with
  | done a => exact he _
  | abort => exact he _
  | call c next ih => exact fun a _ => ⟨g, .look hg hp.1, ih a (hp.2 a)⟩

end Task

end BankReconciliation
