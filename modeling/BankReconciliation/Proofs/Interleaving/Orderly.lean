import BankReconciliation.Proofs.Interleaving.Service
import BankReconciliation.Proofs.Matching

/-! What one step can do to the memory and to the standings of the operations. All that the system
keeps to follows from this by induction on the steps. -/

namespace BankReconciliation

/-- What the turn of an operation does to the memory, and where the operation stands then. -/
inductive Effect (m : Memory) (g : Standing) : Memory → Standing → Prop
  | quiet {m' known} (hm : m.SameStores m')
      (hknown : ∀ s ∈ known, s ∈ g.known ∨ s ∈ m.statements) : Effect m g m' { g with known }
  | draw : Effect m g { m with issued := m.issued + 1 }
      { g with drawn := m.supply m.issued :: g.drawn }
  | insert {candidates added} (churchId : String) (hg : g.stage = .free)
      (hids : candidates.map (·.id) = g.drawn.reverse)
      (hnew : ∀ s ∈ candidates, s.reconciliation = .pending ∧ s.churchId = churchId)
      (hsub : List.Sublist added candidates)
      (hadd : m.statements.insertMany candidates = (added.map (·.id), m.statements ++ added)) :
    Effect m g { m with statements := m.statements ++ added }
      { g with
        drawn := []
        known := candidates.filter (fun s => (added.map (·.id)).contains s.id) ++ g.known }
  | choose {m' s choice} (hm : m.SameStores m') (hg : g.stage = .free) (hs : s ∈ g.known)
      (hchoice : ∀ r, choice = some r → r ∈ m.ledger.records ∧ r.churchId = s.churchId ∧
        (g.byHand = false → r.status ≠ .reconciled)) :
    Effect m g m' { g with stage := .chosen s choice }
  | bind {s r t statements} (hg : g.stage = .chosen s (some r))
      (h : m.statements.replace? (s.markReconciled r.id t) = some statements) :
    Effect m g { m with statements } { g with stage := .bound r.key }
  | unbind {s t statements} (hg : g.stage = .chosen s none)
      (h : m.statements.replace? (s.markUnmatched t) = some statements) :
    Effect m g { m with statements } { g with stage := .free }
  | lose {s choice} (hg : g.stage = .chosen s choice) : Effect m g m { g with stage := .free }
  | announce {r} (hg : g.stage = .bound r.key) :
    Effect m g { m with ledger := m.ledger.dispatch r .reconciled } { g with stage := .free }

theorem Turn.effect {g g' : Standing} {c : Call} {m : Memory}
    (h : Turn g c (Memory.answer c m).1 g') : Effect m g (Memory.answer c m).2 g' := by
  generalize ha : (Memory.answer c m).1 = a at h
  cases h with
  | look _ hc => exact .quiet (Memory.sameStores_of_isLook hc m) fun s hs => .inl hs
  | clock _ => exact .quiet (Memory.SameStores.refl m) fun s hs => .inl hs
  | tally _ _ => exact .quiet ⟨rfl, rfl, rfl, rfl⟩ fun s hs => .inl hs
  | draw _ =>
    subst ha
    exact .draw
  | @insert candidates ids churchId hg hids hnew =>
    obtain ⟨added, hsub, hadd⟩ := Store.Statements.exists_added m.statements candidates
    have hm : (Memory.answer (.insertMany candidates) m).2 =
        { m with statements := m.statements ++ added } := by
      simp only [Memory.answer, hadd]
    have hids' : ids = added.map (·.id) := by
      simp only [Memory.answer, hadd] at ha
      exact (Except.ok.inj ha).symm
    rw [hm, hids']
    exact .insert churchId hg hids hnew hsub hadd
  | fetch hg _ =>
    refine .quiet ⟨rfl, rfl, rfl, rfl⟩ ?_
    intro s hs
    rcases List.mem_cons.mp hs with rfl | hs
    · exact .inr (List.mem_of_find?_eq_some (Except.ok.inj ha))
    · exact .inl hs
  | search _ hg hs hf =>
    refine .choose ⟨rfl, rfl, rfl, rfl⟩ hg hs ?_
    rintro r rfl
    obtain ⟨hr, haccepts⟩ := Store.Ledger.mem_of_findOne (Except.ok.inj ha)
    exact ⟨hr, Matching.churchId_of_accepts hf haccepts,
      fun _ => Matching.ne_reconciled_of_accepts hf haccepts⟩
  | pick hm hg hs hkey =>
    -- a link takes its record whatever the status is
    refine .choose ⟨rfl, rfl, rfl, rfl⟩ hg hs ?_
    rintro r hr
    obtain rfl := Option.some.inj hr
    refine ⟨(Store.Ledger.mem_of_find? (Except.ok.inj ha)).1, congrArg Prod.fst hkey, ?_⟩
    intro hauto
    rw [hm] at hauto
    cases hauto
  | @bind s r t _ hg =>
    cases hr : m.statements.replace? (s.markReconciled r.id t) with
    | none =>
      simp only [Memory.answer, hr] at ha ⊢
      subst ha
      exact .lose hg
    | some statements =>
      simp only [Memory.answer, hr] at ha ⊢
      subst ha
      exact .bind hg hr
  | @unbind s t _ hg =>
    cases hr : m.statements.replace? (s.markUnmatched t) with
    | none =>
      simp only [Memory.answer, hr]
      exact .lose hg
    | some statements =>
      simp only [Memory.answer, hr]
      exact .unbind hg hr
  | announce hg => exact .announce hg

namespace Effect

variable {m m' : Memory} {g g' : Standing} {s t : Statement} {r : LedgerRecord}
  {key : String × String}

theorem byHand (h : Effect m g m' g') : g'.byHand = g.byHand := by
  cases h <;> rfl

theorem bound_of_mem (h : Effect m g m' g') (ht : t ∈ m'.statements)
    (hk : t.boundKey? = some key) :
    t ∈ m.statements ∨ ∃ s r, g.stage = .chosen s (some r) ∧ g'.stage = .bound r.key ∧
      t.name = s.name ∧ key = (s.churchId, r.id) := by
  cases h with
  | quiet hm _ => exact .inl (hm.statements ▸ ht)
  | draw => exact .inl ht
  | insert _ _ _ hnew hsub _ =>
    rcases List.mem_append.mp ht with ht | ht
    · exact .inl ht
    · rw [Statement.boundKey?_of_pending (hnew t (hsub.subset ht)).1] at hk
      cases hk
  | choose hm _ _ _ => exact .inl (hm.statements ▸ ht)
  | @bind s r time statements hg hrep =>
    rcases Store.Statements.mem_replace? hrep ht with rfl | ht
    · rw [Statement.boundKey?_markReconciled] at hk
      exact .inr ⟨s, r, hg, rfl, Statement.name_markReconciled s r.id time,
        (Option.some.inj hk).symm⟩
    · exact .inl ht
  | unbind _ hrep =>
    rcases Store.Statements.mem_replace? hrep ht with rfl | ht
    · rw [Statement.boundKey?_markUnmatched] at hk
      cases hk
    · exact .inl ht
  | lose _ => exact .inl ht
  | announce _ => exact .inl ht

theorem chosen (h : Effect m g m' g') (hg' : g'.stage = .chosen s (some r)) :
    g.stage = .chosen s (some r) ∨ g.stage = .free ∧ s ∈ g.known ∧ r ∈ m.ledger.records ∧
      r.churchId = s.churchId ∧ (g.byHand = false → r.status ≠ .reconciled) := by
  cases h with
  | quiet _ _ => exact .inl hg'
  | draw => exact .inl hg'
  | insert _ _ _ _ _ _ => exact .inl hg'
  | choose _ hg hs hchoice =>
    obtain ⟨rfl, hr⟩ := Stage.chosen.inj hg'
    exact .inr ⟨hg, hs, hchoice r hr⟩
  | bind _ _ => cases hg'
  | unbind _ _ => cases hg'
  | lose _ => cases hg'
  | announce _ => cases hg'

end Effect

/-- What a step does to the memory and to the standings. -/
inductive Advance (m : Memory) (g : Nat → Standing) : Memory → (Nat → Standing) → Prop
  | start {i byHand} (hi : g i = {}) : Advance m g m (Function.update g i { byHand })
  | turn {i m' gi} (h : Effect m (g i) m' gi) : Advance m g m' (Function.update g i gi)
  | addRecord {record} (h : ∀ r ∈ m.ledger.records, r.key ≠ record.key) :
    Advance m g { m with ledger := m.ledger.insert record } g
  | surroundings {m'} (h : m.SameStores m') : Advance m g m' g

theorem stage_of_update {g : Nat → Standing} {gi : Standing} {i j : Nat} {stage : Stage}
    (h : (Function.update g i gi j).stage = stage) :
    j = i ∧ gi.stage = stage ∨ j ≠ i ∧ (g j).stage = stage := by
  by_cases hj : j = i
  · subst hj
    rw [Function.update_self] at h
    exact .inl ⟨rfl, h⟩
  · rw [Function.update_of_ne hj] at h
    exact .inr ⟨hj, h⟩

/-- A stage that an operation has is kept if the update of the standings keeps it. -/
theorem stage_update {g : Nat → Standing} {gi : Standing} {i j : Nat} {stage : Stage}
    (hj : (g j).stage = stage)
    (hi : (g i).stage = stage → gi.stage = stage) : (Function.update g i gi j).stage = stage := by
  by_cases hji : j = i
  · subst hji
    rw [Function.update_self]
    exact hi hj
  · rw [Function.update_of_ne hji]
    exact hj

/-- A step that is no turn leaves the statements as they are and chooses nothing. -/
theorem Advance.turn_or {m m' : Memory} {g g' : Nat → Standing} (h : Advance m g m' g') :
    (∃ i gi, Effect m (g i) m' gi ∧ g' = Function.update g i gi) ∨
      m'.statements = m.statements ∧
        ∀ i s choice, (g' i).stage = .chosen s choice → g' i = g i := by
  cases h with
  | @start i byHand hi =>
    refine .inr ⟨rfl, fun j s choice hj => ?_⟩
    rcases stage_of_update hj with ⟨-, hgi⟩ | ⟨hji, -⟩
    · cases hgi
    · rw [Function.update_of_ne hji]
  | @turn i m' gi he => exact .inl ⟨i, gi, he, rfl⟩
  | addRecord _ => exact .inr ⟨rfl, fun _ _ _ _ => rfl⟩
  | surroundings hm => exact .inr ⟨hm.statements, fun _ _ _ _ => rfl⟩

theorem Turn.byHand {g g' : Standing} {c : Call} {a : c.Answer} (h : Turn g c a g') :
    g'.byHand = g.byHand := by
  cases h <;> rfl

theorem Turn.binding {g g' : Standing} {s : Statement} {a : Reply Unit} {key : String × String}
    (h : Turn g (.updateReconciliation s) a g') (hk : s.boundKey? = some key) :
    ∃ t r time, s = t.markReconciled r.id time ∧ key = (t.churchId, r.id) ∧
      g.stage = .chosen t (some r) := by
  cases h with
  | look _ hc => cases hc
  | @bind t r time _ hg => exact ⟨t, r, time, rfl, (Option.some.inj hk).symm, hg⟩
  | unbind _ => cases hk

theorem Turn.of_chosen {g g' : Standing} {c : Call} {a : c.Answer} {s : Statement}
    {r : LedgerRecord} (h : Turn g c a g') (hg : g.stage = .chosen s (some r)) :
    c = .now ∧ g' = g ∨ ∃ time, c = .updateReconciliation (s.markReconciled r.id time) := by
  cases h with
  | clock _ => exact .inl ⟨rfl, rfl⟩
  | bind hg' =>
    obtain ⟨rfl, hr⟩ := Stage.chosen.inj (hg.symm.trans hg')
    obtain rfl := Option.some.inj hr
    exact .inr ⟨_, rfl⟩
  -- the other turns are taken in other stages
  | _ => simp_all

/-- The standing is one from which the operation keeps to its turns. -/
def Standing.Fits (g : Standing) : Option Activity → Prop
  | none => g = {}
  | some a => a.rest.Follows Turn Service.Settled g ∧ g.byHand = a.request.isLink

/-- Each standing fits what the operation has left to do. -/
def Orderly (S : System) (g : Nat → Standing) : Prop := ∀ i, (g i).Fits (S.activity i)

namespace Orderly

variable {setup : ImportSetup} {admits : System → Service.Request → Prop} {S S' : System}
  {g : Nat → Standing} {i : Nat}

theorem of_unused (h : S.Unused) : Orderly S fun _ => {} := by
  intro i
  rw [h i]
  exact rfl

theorem fits (h : Orderly S g) {a : Activity} (hi : S.activity i = some a) :
    a.rest.Follows Turn Service.Settled (g i) ∧ (g i).byHand = a.request.isLink := by
  have hfits := h i
  rw [hi] at hfits
  exact hfits

theorem absent (h : Orderly S g) (hi : S.activity i = none) : g i = {} := by
  have hfits := h i
  rw [hi] at hfits
  exact hfits

theorem running {stage : Stage} (h : Orderly S g) (hg : (g i).stage = stage)
    (hs : stage ≠ .free) : S.Running i := by
  cases hi : S.activity i with
  | none =>
    rw [h.absent hi] at hg
    exact absurd hg.symm hs
  | some a =>
    refine ⟨a, hi, ?_⟩
    intro hend
    obtain ⟨hf, -⟩ := h.fits hi
    obtain ⟨request, rest⟩ := a
    cases rest with
    | done r => exact hs (hg.symm.trans hf)
    | abort => exact hs (hg.symm.trans hf)
    | call c next => exact hend

theorem update {m : Memory} {a : Activity} {gi : Standing} (h : Orderly S g)
    (ha : gi.Fits (some a)) :
    Orderly (System.withActivity ⟨m, S.activity⟩ i a) (Function.update g i gi) := by
  intro j
  by_cases hji : j = i
  · subst hji
    rw [System.withActivity_same, Function.update_self]
    exact ha
  · rw [System.withActivity_of_ne hji, Function.update_of_ne hji]
    exact h j

theorem step (h : Orderly S g) (hs : System.Step setup admits S S') :
    ∃ g', Orderly S' g' ∧ Advance S.memory g S'.memory g' := by
  cases hs with
  | @start i request hi _ =>
    refine ⟨Function.update g i { byHand := request.isLink }, ?_, .start (h.absent hi)⟩
    exact h.update (m := S.memory) ⟨Service.follows_task setup request, rfl⟩
  | @call i request c next hi =>
    obtain ⟨hf, hb⟩ := h.fits hi
    obtain ⟨gi, hturn, hnext⟩ := hf _ ⟨S.memory, rfl⟩
    refine ⟨Function.update g i gi, h.update ⟨hnext, ?_⟩, .turn hturn.effect⟩
    rw [hturn.byHand, hb]
  | addRecord hr => exact ⟨g, h, .addRecord hr⟩
  | surroundings hm => exact ⟨g, h, .surroundings hm⟩

/-- What every step of some kind preserves holds in every state that such steps reach. -/
theorem reaches {R : System → System → Prop} {Inv : System → (Nat → Standing) → Prop}
    (hR : ∀ S S', R S S' → System.Step setup admits S S')
    (hstep : ∀ S S' g g', Orderly S g → Orderly S' g' → R S S' →
      Advance S.memory g S'.memory g' → Inv S g → Inv S' g')
    (h : Orderly S g) (hi : Inv S g) (hs : Relation.ReflTransGen R S S') :
    ∃ g', Orderly S' g' ∧ Inv S' g' := by
  induction hs with
  | refl => exact ⟨g, h, hi⟩
  | tail _ hlast ih =>
    obtain ⟨g₁, h₁, hi₁⟩ := ih
    obtain ⟨g₂, h₂, ha⟩ := h₁.step (hR _ _ hlast)
    exact ⟨g₂, h₂, hstep _ _ g₁ g₂ h₁ h₂ hlast ha hi₁⟩

end Orderly

end BankReconciliation
