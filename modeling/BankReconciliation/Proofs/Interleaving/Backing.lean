import BankReconciliation.Proofs.Interleaving.Orderly

/-! Every binding that is stored is known to the ledger, or the operation that stored it is about to
tell the ledger. This holds whatever operations run side by side, links by hand included. -/

namespace BankReconciliation

variable {m m' : Memory} {g g' : Nat → Standing} {gi : Standing} {i : Nat}
  {key : String × String}

/-- The ledger has a record with the key, and it is reconciled or an operation is about to ask
for that. -/
def Backs (m : Memory) (g : Nat → Standing) (key : String × String) : Prop :=
  ∃ r ∈ m.ledger.records, r.key = key ∧ (r.status = .reconciled ∨ ∃ i, (g i).stage = .bound key)

theorem Backs.mono (h : Backs m g key) (hr : m'.ledger.records = m.ledger.records)
    (hg : ∀ i, (g i).stage = .bound key → (g' i).stage = .bound key) : Backs m' g' key := by
  obtain ⟨r, hmem, hk, hstatus⟩ := h
  refine ⟨r, hr ▸ hmem, hk, hstatus.imp_right ?_⟩
  rintro ⟨i, hi⟩
  exact ⟨i, hg i hi⟩

/-- When the ledger is told of one binding, those to other records stay backed as they are. -/
theorem Backs.announce {r : LedgerRecord} (h : Backs m g key)
    (hk : Store.Ledger.KeysDistinct m.ledger.records) (hg : (g i).stage = .bound r.key) :
    Backs { m with ledger := m.ledger.dispatch r .reconciled }
      (Function.update g i { g i with stage := .free }) key := by
  obtain ⟨a, ha, hak, hstatus⟩ := h
  have hmem := Store.Ledger.mem_setStatus r.key .reconciled hk ha
  by_cases hr : a.key = r.key
  · rw [if_pos hr] at hmem
    exact ⟨_, hmem, hak, .inl rfl⟩
  · rw [if_neg hr] at hmem
    refine ⟨a, hmem, hak, hstatus.imp_right ?_⟩
    rintro ⟨j, hj⟩
    refine ⟨j, stage_update hj fun hi => ?_⟩
    rw [hg] at hi
    exact absurd (hak.trans (Stage.bound.inj hi).symm) hr

structure Backed (m : Memory) (g : Nat → Standing) : Prop where
  keys : Store.Ledger.KeysDistinct m.ledger.records
  chosen : ∀ i s r, (g i).stage = .chosen s (some r) →
    r.churchId = s.churchId ∧ r.key ∈ m.ledger.records.map LedgerRecord.key
  bound : ∀ t ∈ m.statements, ∀ key, t.boundKey? = some key → Backs m g key

namespace Backed

theorem of_unbound (hk : Store.Ledger.KeysDistinct m.ledger.records)
    (hs : ∀ t ∈ m.statements, t.boundKey? = none) : Backed m fun _ => {} where
  keys := hk
  chosen i s r hc := by cases hc
  bound t ht key hb := by
    rw [hs t ht] at hb
    cases hb

/-- A change of one standing that drops no debt to the ledger and chooses nothing. -/
theorem update (h : Backed m g) (hr : m'.ledger.records = m.ledger.records)
    (hchosen : ∀ s r, gi.stage = .chosen s (some r) → (g i).stage = .chosen s (some r))
    (howed : ∀ key, (g i).stage = .bound key → gi.stage = .bound key)
    (hs : ∀ t ∈ m'.statements, t ∈ m.statements ∨
      ∀ key, t.boundKey? = some key → Backs m' (Function.update g i gi) key) :
    Backed m' (Function.update g i gi) where
  keys := hr ▸ h.keys
  chosen j s r hj := by
    rw [hr]
    rcases stage_of_update hj with ⟨rfl, hgi⟩ | ⟨-, hj⟩
    · exact h.chosen j s r (hchosen s r hgi)
    · exact h.chosen j s r hj
  bound t ht key hk := by
    rcases hs t ht with ht | hnew
    · exact (h.bound t ht key hk).mono hr fun j hj => stage_update hj (howed key)
    · exact hnew key hk

theorem leave {s : Statement} {choice : Option LedgerRecord} (h : Backed m g)
    (hr : m'.ledger.records = m.ledger.records) (hg : (g i).stage = .chosen s choice)
    (hgi : ∀ t r, gi.stage ≠ .chosen t (some r))
    (hs : ∀ t ∈ m'.statements, t ∈ m.statements ∨
      ∀ key, t.boundKey? = some key → Backs m' (Function.update g i gi) key) :
    Backed m' (Function.update g i gi) := by
  refine h.update hr (fun t r hj => absurd hj (hgi t r)) ?_ hs
  intro key hi
  rw [hg] at hi
  cases hi

theorem choose {s : Statement} {choice : Option LedgerRecord} (h : Backed m g)
    (hm : m.SameStores m') (hg : (g i).stage = .free)
    (hchoice : ∀ r, choice = some r → r ∈ m.ledger.records ∧ r.churchId = s.churchId) :
    Backed m' (Function.update g i { g i with stage := .chosen s choice }) where
  keys := hm.records ▸ h.keys
  chosen j a r hj := by
    rw [hm.records]
    rcases stage_of_update hj with ⟨-, hj⟩ | ⟨-, hj⟩
    · obtain ⟨rfl, hr⟩ := Stage.chosen.inj hj
      obtain ⟨hmem, hchurch⟩ := hchoice r hr
      exact ⟨hchurch, List.mem_map_of_mem hmem⟩
    · exact h.chosen j a r hj
  bound t ht key hk := by
    rw [hm.statements] at ht
    refine (h.bound t ht key hk).mono hm.records fun j hj => stage_update hj fun hi => ?_
    rw [hg] at hi
    cases hi

theorem announce {r : LedgerRecord} (h : Backed m g) (hg : (g i).stage = .bound r.key) :
    Backed { m with ledger := m.ledger.dispatch r .reconciled }
      (Function.update g i { g i with stage := .free }) where
  keys := Store.Ledger.keysDistinct_dispatch r .reconciled h.keys
  chosen j s a hj := by
    rw [Store.Ledger.dispatch, Store.Ledger.keys_setStatus]
    rcases stage_of_update hj with ⟨-, hj⟩ | ⟨-, hj⟩
    · cases hj
    · exact h.chosen j s a hj
  bound t ht key hk := (h.bound t ht key hk).announce h.keys hg

theorem turn (h : Backed m g) (he : Effect m (g i) m' gi) :
    Backed m' (Function.update g i gi) := by
  cases he with
  | quiet hm _ =>
    refine h.update hm.records (fun _ _ hj => hj) (fun _ hi => hi) ?_
    intro t ht
    exact .inl (hm.statements ▸ ht)
  | draw => exact h.update rfl (fun _ _ hj => hj) (fun _ hi => hi) fun t ht => .inl ht
  | insert _ _ _ hnew hsub _ =>
    refine h.update rfl (fun _ _ hj => hj) (fun _ hi => hi) ?_
    intro t ht
    rcases List.mem_append.mp ht with ht | ht
    · exact .inl ht
    · refine .inr fun key hk => ?_
      rw [Statement.boundKey?_of_pending (hnew t (hsub.subset ht)).1] at hk
      cases hk
  | choose hm hg _ hchoice =>
    exact h.choose hm hg fun r hr => ⟨(hchoice r hr).1, (hchoice r hr).2.1⟩
  | @bind s r t statements hg hrep =>
    obtain ⟨hchurch, hkey⟩ := h.chosen i s r hg
    refine h.leave rfl hg (by simp) ?_
    intro u hu
    rcases Store.Statements.mem_replace? hrep hu with rfl | hu
    · refine .inr fun key hk => ?_
      have hkr : key = r.key := by
        rw [LedgerRecord.key, hchurch]
        exact (Option.some.inj hk).symm
      obtain ⟨a, ha, hak⟩ := List.mem_map.mp hkey
      exact ⟨a, ha, hak.trans hkr.symm, .inr ⟨i, by rw [Function.update_self, hkr]⟩⟩
    · exact .inl hu
  | unbind hg hrep =>
    refine h.leave rfl hg (by simp) ?_
    intro u hu
    rcases Store.Statements.mem_replace? hrep hu with rfl | hu
    · refine .inr fun key hk => ?_
      rw [Statement.boundKey?_markUnmatched] at hk
      cases hk
    · exact .inl hu
  | lose hg =>
    exact h.leave rfl hg (by simp) fun t ht => .inl ht
  | announce hg => exact h.announce hg

theorem addRecord {record : LedgerRecord} (h : Backed m g)
    (hr : ∀ r ∈ m.ledger.records, r.key ≠ record.key) :
    Backed { m with ledger := m.ledger.insert record } g where
  keys := Store.Ledger.keysDistinct_insert h.keys hr
  chosen j s r hj := by
    obtain ⟨hchurch, hkey⟩ := h.chosen j s r hj
    refine ⟨hchurch, ?_⟩
    rw [Store.Ledger.insert, List.map_append]
    exact List.mem_append_left _ hkey
  bound t ht key hk := by
    obtain ⟨r, hr, hb⟩ := h.bound t ht key hk
    exact ⟨r, List.mem_append_left _ hr, hb⟩

theorem surroundings (h : Backed m g) (hm : m.SameStores m') : Backed m' g where
  keys := hm.records ▸ h.keys
  chosen := hm.records ▸ h.chosen
  bound t ht key hk := by
    rw [hm.statements] at ht
    exact (h.bound t ht key hk).mono hm.records fun _ hj => hj

theorem advance (h : Backed m g) (ha : Advance m g m' g') : Backed m' g' := by
  cases ha with
  | @start i byHand hi =>
    refine h.update rfl (by simp) ?_ fun t ht => .inl ht
    intro key hb
    rw [hi] at hb
    cases hb
  | turn he => exact h.turn he
  | addRecord hr => exact h.addRecord hr
  | surroundings hm => exact h.surroundings hm

end Backed

end BankReconciliation
