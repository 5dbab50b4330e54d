import BankReconciliation.Proofs.Interleaving.Backing
import BankReconciliation.Proofs.Interleaving.Serving

/-! Operations one after another. Between two of them the ledger has a reconciled record for every
binding, and no search binds a statement to a record that is taken. -/

namespace BankReconciliation

variable {m m' : Memory} {g g' : Nat → Standing} {gi : Standing} {i : Nat}

/-- No two operations are in the midst of binding a statement. -/
def TakeTurns (g : Nat → Standing) : Prop :=
  ∀ i j, (g i).stage ≠ .free → (g j).stage ≠ .free → i = j

/-- What a search has chosen is not taken. -/
def ChoicesOpen (m : Memory) (g : Nat → Standing) : Prop :=
  ∀ i s r, (g i).byHand = false → (g i).stage = .chosen s (some r) →
    ∀ t ∈ m.statements, t.boundKey? ≠ some r.key

namespace ChoicesOpen

theorem untaken {r : LedgerRecord} (hb : Backed m g) (hr : r ∈ m.ledger.records)
    (hopen : r.status ≠ .reconciled) (hfree : ∀ j, (g j).stage = .free) :
    ∀ t ∈ m.statements, t.boundKey? ≠ some r.key := by
  intro t ht hk
  obtain ⟨a, ha, hak, hstatus | ⟨j, hj⟩⟩ := hb.bound t ht _ hk
  · rw [Store.Ledger.eq_of_key_eq hb.keys ha hr hak] at hstatus
    exact hopen hstatus
  · rw [hfree j] at hj
    cases hj

theorem turn (h : ChoicesOpen m g) (hb : Backed m g) (hg : TakeTurns g)
    (hg' : TakeTurns (Function.update g i gi)) (he : Effect m (g i) m' gi) :
    ChoicesOpen m' (Function.update g i gi) := by
  intro j s r hauto hj t ht hk
  have hbusy : (Function.update g i gi j).stage ≠ .free := by
    rw [hj]
    exact nofun
  rcases he.bound_of_mem ht hk with ht | ⟨s', r', hchosen, hbound, -, -⟩
  · rcases stage_of_update hj with ⟨rfl, hgi⟩ | ⟨hji, hj⟩
    · rw [Function.update_self, he.byHand] at hauto
      rcases he.chosen hgi with hold | ⟨hfree, -, hr, -, hopen⟩
      · exact h j s r hauto hold t ht hk
      · refine untaken hb hr (hopen hauto) ?_ t ht hk
        intro l
        by_contra hl
        have hlj : l ≠ j := by
          rintro rfl
          exact hl hfree
        refine hlj (hg' l j ?_ hbusy)
        rw [Function.update_of_ne hlj]
        exact hl
    · rw [Function.update_of_ne hji] at hauto
      exact h j s r hauto hj t ht hk
  · -- the operation that binds is the only one in the midst of it, and has chosen nothing more
    rcases stage_of_update hj with ⟨rfl, hgi⟩ | ⟨hji, hj⟩
    · rw [hbound] at hgi
      cases hgi
    · refine hji (hg j i ?_ ?_)
      · rw [hj]
        exact nofun
      · rw [hchosen]
        exact nofun

theorem advance (h : ChoicesOpen m g) (hb : Backed m g) (hg : TakeTurns g) (hg' : TakeTurns g')
    (ha : Advance m g m' g') : ChoicesOpen m' g' := by
  rcases ha.turn_or with ⟨i, gi, he, rfl⟩ | ⟨hs, hsame⟩
  · exact h.turn hb hg hg' he
  · intro j s r hauto hj t ht
    rw [hsame j s _ hj] at hauto hj
    exact h j s r hauto hj t (hs ▸ ht)

end ChoicesOpen

namespace System

/-- At most one operation is under way. -/
def Alone (S : System) : Prop := ∀ i j, S.Running i → S.Running j → i = j

variable {setup : ImportSetup} {S S' : System}

theorem Alone.step (h : S.Alone) (hs : Step setup oneAtATime S S') : S'.Alone := by
  cases hs with
  | @start i request hi hidle =>
    have hnew : ∀ j, (S.withActivity i ⟨request, request.task setup⟩).Running j → j = i := by
      intro j hj
      exact (running_of_withActivity hj).resolve_right (hidle j)
    intro j k hj hk
    rw [hnew j hj, hnew k hk]
  | @call i request c next hi =>
    have hrun : S.Running i := ⟨_, hi, fun hend => hend⟩
    have hold : ∀ j, (withActivity ⟨(Memory.answer c S.memory).2, S.activity⟩ i
        ⟨request, next (Memory.answer c S.memory).1⟩).Running j → S.Running j := by
      intro j hj
      rcases running_of_withActivity hj with rfl | hj
      · exact hrun
      · exact hj
    intro j k hj hk
    exact h j k (hold j hj) (hold k hk)
  | addRecord _ => exact h
  | surroundings _ => exact h

end System

/-- What holds in every state of a sequential run. -/
structure InSequence (S : System) (g : Nat → Standing) : Prop where
  alone : S.Alone
  backed : Backed S.memory g
  choices : ChoicesOpen S.memory g

namespace InSequence

variable {setup : ImportSetup} {S S' : System}

theorem of_unused (hu : S.Unused) (hs : ∀ s ∈ S.memory.statements, s.boundKey? = none)
    (hk : Store.Ledger.KeysDistinct S.memory.ledger.records) : InSequence S fun _ => {} where
  alone i _ hi := by
    obtain ⟨a, ha, -⟩ := hi
    rw [hu i] at ha
    cases ha
  backed := .of_unbound hk hs
  choices _ _ _ _ hc := by cases hc

theorem takeTurns (ho : Orderly S g) (ha : S.Alone) : TakeTurns g :=
  fun i j hi hj => ha i j (ho.running rfl hi) (ho.running rfl hj)

theorem step (ho : Orderly S g) (ho' : Orderly S' g')
    (hs : System.Step setup System.oneAtATime S S') (ha : Advance S.memory g S'.memory g')
    (h : InSequence S g) : InSequence S' g' := by
  have halone : S'.Alone := h.alone.step hs
  refine ⟨halone, h.backed.advance ha, ?_⟩
  exact h.choices.advance h.backed (takeTurns ho h.alone) (takeTurns ho' halone) ha

theorem reconciled_of_idle {s : Statement} {key : String × String} (ho : Orderly S g)
    (h : InSequence S g) (hidle : S.Idle) (hs : s ∈ S.memory.statements)
    (hk : s.boundKey? = some key) :
    ∃ r ∈ S.memory.ledger.records, r.key = key ∧ r.status = .reconciled := by
  obtain ⟨r, hr, hrk, hstatus | ⟨i, hi⟩⟩ := h.backed.bound s hs key hk
  · exact ⟨r, hr, hrk, hstatus⟩
  · exact absurd (ho.running hi nofun) (hidle i)

theorem untaken_of_binding {request : Service.Request} {s t : Statement}
    {next : Reply Unit → Task Service.Response} {key : String × String} (ho : Orderly S g)
    (h : InSequence S g) (hi : S.activity i = some ⟨request, .call (.updateReconciliation s) next⟩)
    (hauto : request.isLink = false) (hk : s.boundKey? = some key)
    (ht : t ∈ S.memory.statements) : t.boundKey? ≠ some key := by
  obtain ⟨hf, hb⟩ := ho.fits hi
  obtain ⟨gi, hturn, -⟩ := hf _ ⟨S.memory, rfl⟩
  obtain ⟨s, r, -, -, rfl, hchosen⟩ := hturn.binding hk
  rw [← (h.backed.chosen i s r hchosen).1]
  exact h.choices i s r (hb.trans hauto) hchosen t ht

end InSequence

namespace System

variable {setup : ImportSetup} {S₀ S : System}

/-- When operations run one after another, from an empty store of statements on, every statement
that is bound between two of them has a reconciled record in the ledger; and no statement of the
church, itself included, has the record to which a search is about to bind one. -/
theorem bindings_of_oneAtATime (hunused : S₀.Unused) (hempty : S₀.memory.statements = [])
    (hkeys : Store.Ledger.KeysDistinct S₀.memory.ledger.records)
    (h : Reaches setup oneAtATime S₀ S) :
    (S.Idle → ∀ s ∈ S.memory.statements, ∀ id, s.recordId? = some id →
      ∃ r ∈ S.memory.ledger.records, r.key = (s.churchId, id) ∧ r.status = .reconciled) ∧
    ∀ i request s id next,
      S.activity i = some ⟨request, .call (.updateReconciliation s) next⟩ →
      request.isLink = false → s.recordId? = some id →
      ∀ t ∈ S.memory.statements, t.churchId = s.churchId → t.recordId? ≠ some id := by
  have hunbound : ∀ s ∈ S₀.memory.statements, s.boundKey? = none := by
    simp [hempty]
  obtain ⟨g, ho, hg⟩ := (Orderly.of_unused hunused).reaches (fun _ _ => id)
    (fun _ _ _ _ => InSequence.step) (InSequence.of_unused hunused hunbound hkeys) h
  constructor
  · intro hidle s hs id hid
    exact hg.reconciled_of_idle ho hidle hs (Statement.boundKey?_eq_some hid)
  · intro i request s id next hi hauto hid t ht hchurch htid
    refine hg.untaken_of_binding ho hi hauto (Statement.boundKey?_eq_some hid) ht ?_
    rw [← hchurch]
    exact Statement.boundKey?_eq_some htid

/-- The import of a file whose line fits the ledger's record. -/
theorem bindings_of_oneAtATime_import :
    ∃ S, Reaches Sample.setup oneAtATime Sample.start S ∧ S.Idle ∧
      (∃ s ∈ S.memory.statements, s.recordId? = some "fr-1") ∧
      ∀ s ∈ S.memory.statements, ∀ id, s.recordId? = some id →
        ∃ r ∈ S.memory.ledger.records, r.key = (s.churchId, id) ∧ r.status = .reconciled := by
  have hreach : Reaches Sample.setup oneAtATime Sample.start
      (Sample.start.serving Sample.setup 0 (Sample.importOf "https://a")) :=
    reaches_serving rfl (idle_of_unused Sample.unused_start)
  have hidle : (Sample.start.serving Sample.setup 0 (Sample.importOf "https://a")).Idle :=
    idle_serving (idle_of_unused Sample.unused_start)
  have hbound : ∃ s ∈ (Sample.start.serving Sample.setup 0
      (Sample.importOf "https://a")).memory.statements, s.recordId? = some "fr-1" := by
    decide +kernel
  exact ⟨_, hreach, hidle, hbound, (bindings_of_oneAtATime Sample.unused_start rfl
    (List.nodup_singleton _) hreach).1 hidle⟩

end System

end BankReconciliation
