import BankReconciliation.Proofs.Transcript
import BankReconciliation.Service.Calls
import Mathlib.Data.List.Basic

/-! What the service and its collaborators say to one another: calls with their answers, in order,
and what can be read off them. -/

namespace BankReconciliation

abbrev Dialogue := List (Interface.Exchange Collaborators)

namespace Call

def looksUp : Call → Bool
  | .existsByFitId .. | .existsByHash .. => true
  | _ => false

/-- The calls that an import makes before it stores anything. -/
def prepares : Call → Bool
  | .openFile _ | .now | .newId => true
  | c => c.looksUp

def fetches : Call → Bool
  | .findStatement .. | .findRecord .. => true
  | _ => false

def closes : Call → Bool
  | .removeFile _ | .notify .. | .count _ => true
  | _ => false

/-- The calls that store no new statements, send no notices and remove no files. -/
def isQuiet : Call → Bool
  | .insertMany _ | .notify .. | .removeFile _ => false
  | _ => true

variable {c : Call}

theorem prepares_of_looksUp (h : c.looksUp = true) : c.prepares = true := by
  cases c with
  | openFile _ | now | newId => rfl
  | _ => exact h

theorem isQuiet_of_prepares (h : c.prepares = true) : c.isQuiet = true := by
  cases c with
  | insertMany _ | notify _ _ | removeFile _ => exact h
  | _ => rfl

end Call

namespace Dialogue

def drawn (d : Dialogue) : List Uuid :=
  d.filterMap fun
    | ⟨.newId, id⟩ => some id
    | _ => none

def inserted (d : Dialogue) : List Uuid :=
  d.flatMap fun
    | ⟨.insertMany _, .ok ids⟩ => ids
    | _ => []

def updates (d : Dialogue) : List Statement :=
  d.filterMap fun
    | ⟨.updateReconciliation s, _⟩ => some s
    | _ => none

def events (d : Dialogue) : List MetricEvent :=
  d.filterMap fun
    | ⟨.count event, _⟩ => some event
    | _ => none

def notices (d : Dialogue) : List (String × Json) :=
  d.filterMap fun
    | ⟨.notify topic payload, _⟩ => some (topic, payload)
    | _ => none

def removals (d : Dialogue) : List String :=
  d.filterMap fun
    | ⟨.removeFile location, _⟩ => some location
    | _ => none

def stores (d : Dialogue) : Bool :=
  d.any fun
    | ⟨.insertMany _, .ok _⟩ => true
    | _ => false

/-- The ledger has found a record for a statement. -/
def finds (d : Dialogue) : Bool :=
  d.any fun
    | ⟨.findOne _, .ok (some _)⟩ => true
    | _ => false

def confirms (d : Dialogue) : Bool :=
  d.any fun
    | ⟨.updateReconciliation _, .ok ()⟩ => true
    | _ => false

variable {d d₁ d₂ : Dialogue}

@[simp] theorem stores_append : stores (d₁ ++ d₂) = (stores d₁ || stores d₂) := List.any_append
@[simp] theorem drawn_append : drawn (d₁ ++ d₂) = drawn d₁ ++ drawn d₂ := List.filterMap_append
@[simp] theorem inserted_append : inserted (d₁ ++ d₂) = inserted d₁ ++ inserted d₂ :=
  List.flatMap_append
@[simp] theorem updates_append : updates (d₁ ++ d₂) = updates d₁ ++ updates d₂ :=
  List.filterMap_append
@[simp] theorem events_append : events (d₁ ++ d₂) = events d₁ ++ events d₂ :=
  List.filterMap_append
@[simp] theorem notices_append : notices (d₁ ++ d₂) = notices d₁ ++ notices d₂ :=
  List.filterMap_append
@[simp] theorem removals_append : removals (d₁ ++ d₂) = removals d₁ ++ removals d₂ :=
  List.filterMap_append

theorem mem_updates_iff {s : Statement} :
    s ∈ d.updates ↔ ∃ a, ⟨.updateReconciliation s, a⟩ ∈ d := by
  constructor
  · intro hs
    obtain ⟨⟨c, a⟩, hx, hc⟩ := List.mem_filterMap.mp hs
    cases c with
    | updateReconciliation t =>
      obtain rfl := Option.some.inj hc
      exact ⟨a, hx⟩
    | _ => cases hc
  · rintro ⟨a, hx⟩
    exact List.mem_filterMap.mpr ⟨_, hx, rfl⟩

theorem quiet (h : ∀ x ∈ d, Call.isQuiet x.request = true) :
    stores d = false ∧ notices d = [] ∧ removals d = [] := by
  refine ⟨List.any_eq_false.mpr ?_, List.filterMap_eq_nil_iff.mpr ?_,
    List.filterMap_eq_nil_iff.mpr ?_⟩
  all_goals
    rintro ⟨c, a⟩ hx
    have hc := h _ hx
    cases c with
    | insertMany _ | notify _ _ | removeFile _ => cases hc
    | _ => simp

theorem drawn_of_lookups (h : ∀ x ∈ d, Call.looksUp x.request = true) : drawn d = [] := by
  refine List.filterMap_eq_nil_iff.mpr ?_
  rintro ⟨c, a⟩ hx
  have hc := h _ hx
  cases c with
  | existsByFitId _ _ _ | existsByHash _ _ _ => rfl
  | _ => cases hc

theorem prepared (h : ∀ x ∈ d, Call.prepares x.request = true) :
    inserted d = [] ∧ updates d = [] ∧ events d = [] := by
  refine ⟨List.flatMap_eq_nil_iff.mpr ?_, List.filterMap_eq_nil_iff.mpr ?_,
    List.filterMap_eq_nil_iff.mpr ?_⟩
  all_goals
    rintro ⟨c, a⟩ hx
    have hc := h _ hx
    cases c with
    | openFile _ | now | newId | existsByFitId _ _ _ | existsByHash _ _ _ => rfl
    | _ => cases hc

/-- The call neither tells the ledger anything nor stores a binding. -/
def Silent : Interface.Exchange Collaborators → Prop
  | ⟨.dispatchStatus .., _⟩ => False
  | ⟨.updateReconciliation s, .ok ()⟩ => s.recordId? = none
  | _ => True

/-- The ledger is told of the bindings that are stored and of nothing else: of each as soon as the
store has confirmed it, but for counting. -/
inductive TellsBindings : Dialogue → Prop
  | nil : TellsBindings []
  | silent {x d} (hx : Silent x) (h : TellsBindings d) : TellsBindings (x :: d)
  | binding {s record counts a d} (hs : s.recordId? = some record.id)
      (hcounts : ∀ x ∈ counts, ∃ event, x = ⟨.count event, ()⟩) (h : TellsBindings d) :
    TellsBindings (⟨.updateReconciliation s, .ok ()⟩ ::
      (counts ++ ⟨.dispatchStatus record .reconciled, a⟩ :: d))

theorem TellsBindings.append (h₁ : TellsBindings d₁) (h₂ : TellsBindings d₂) :
    TellsBindings (d₁ ++ d₂) := by
  induction h₁ with
  | nil => exact h₂
  | silent hx h ih => exact .silent hx ih
  | binding hs hcounts h ih =>
    rw [List.cons_append, List.append_assoc, List.cons_append]
    exact .binding hs hcounts ih

theorem TellsBindings.of_silent (h : ∀ x ∈ d, Silent x) : TellsBindings d := by
  induction d with
  | nil => exact .nil
  | cons x d ih =>
    obtain ⟨hx, hd⟩ := List.forall_mem_cons.mp h
    exact .silent hx (ih hd)

theorem TellsBindings.of_kind {kind : Call → Bool}
    (hupdate : ∀ s, kind (.updateReconciliation s) = false)
    (hdispatch : ∀ record status, kind (.dispatchStatus record status) = false)
    (h : ∀ x ∈ d, kind x.request = true) : TellsBindings d := by
  refine .of_silent ?_
  rintro ⟨c, a⟩ hx
  have hc := h _ hx
  cases c with
  | updateReconciliation s => exact absurd ((hupdate s).symm.trans hc) Bool.false_ne_true
  | dispatchStatus r status => exact absurd ((hdispatch r status).symm.trans hc) Bool.false_ne_true
  | _ => trivial

end Dialogue

end BankReconciliation
