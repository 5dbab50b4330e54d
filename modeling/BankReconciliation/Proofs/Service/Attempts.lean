import BankReconciliation.Proofs.Service.Reconcile
import BankReconciliation.Proofs.Program
import BankReconciliation.Service.Import

/-! What attempts at reconciliation make of statements and of the ledger, told without the calls
that they make. Attempts go on to the first statement whose day has no window. -/

namespace BankReconciliation

namespace Service

/-- A statement and the ledger after an attempt, which needs a window. -/
def attempt? (now : Instant) (ledger : Store.Ledger) (s : Statement) :
    Option (Statement × Store.Ledger) :=
  (Matching.filterFor? s).map fun f =>
    let searched := { ledger with queries := ledger.queries + 1 }
    match ledger.findOne f with
    | none => (s.markUnmatched now, searched)
    | some r => (s.markReconciled r.id now, searched.dispatch r .reconciled)

/-- Statements after attempts at one after another, and the ledger then. -/
def attemptAll (now : Instant) : Store.Ledger → List Statement → List Statement × Store.Ledger
  | ledger, [] => ([], ledger)
  | ledger, s :: ss =>
    match attempt? now ledger s with
    | none => ([], ledger)
    | some (s, ledger) =>
      let (rest, ledger) := attemptAll now ledger ss
      (s :: rest, ledger)

variable {now : Instant} {ledger ledger' : Store.Ledger} {s s' : Statement} {ss : List Statement}
  {m : Memory}

theorem attempt?_eq_none_iff :
    attempt? now ledger s = none ↔ ¬ Matching.HasWindow s.postedAt.date := by
  rw [attempt?, Option.map_eq_none_iff, Matching.filterFor?_eq_none_iff]

theorem exists_attempt (now : Instant) (ledger : Store.Ledger)
    (h : Matching.HasWindow s.postedAt.date) :
    ∃ s' ledger', attempt? now ledger s = some (s', ledger') := by
  have hsome : attempt? now ledger s ≠ none := fun hnone => attempt?_eq_none_iff.mp hnone h
  obtain ⟨⟨s', ledger'⟩, h⟩ := Option.ne_none_iff_exists'.mp hsome
  exact ⟨s', ledger', h⟩

/-- An attempt binds the statement to an open record of its church and closes that record, or finds
none and leaves the records as they are. -/
theorem attempt?_cases (h : attempt? now ledger s = some (s', ledger')) :
    (s' = s.markUnmatched now ∧ ledger'.records = ledger.records) ∨
    ∃ r ∈ ledger.records, r.churchId = s.churchId ∧ r.status ≠ .reconciled ∧
      s' = s.markReconciled r.id now ∧
      ledger'.records = Store.Ledger.setStatus r.key .reconciled ledger.records := by
  obtain ⟨f, hf, h⟩ := Option.map_eq_some_iff.mp h
  cases hr : ledger.findOne f with
  | none =>
    simp only [hr] at h
    obtain ⟨rfl, rfl⟩ := Prod.mk.inj h
    exact .inl ⟨rfl, rfl⟩
  | some r =>
    simp only [hr] at h
    obtain ⟨rfl, rfl⟩ := Prod.mk.inj h
    obtain ⟨hmem, haccepts⟩ := Store.Ledger.mem_of_findOne hr
    exact .inr ⟨r, hmem, Matching.churchId_of_accepts hf haccepts,
      Matching.ne_reconciled_of_accepts hf haccepts, rfl, rfl⟩

theorem name_of_attempt (h : attempt? now ledger s = some (s', ledger')) : s'.name = s.name := by
  obtain ⟨rfl, -⟩ | ⟨r, -, -, -, rfl, -⟩ := attempt?_cases h
  · rw [Statement.name_markUnmatched]
  · rw [Statement.name_markReconciled]

theorem entry_of_attempt (h : attempt? now ledger s = some (s', ledger')) :
    s'.entry = s.entry := by
  obtain ⟨rfl, -⟩ | ⟨r, -, -, -, rfl, -⟩ := attempt?_cases h
  · rw [Statement.entry_markUnmatched]
  · rw [Statement.entry_markReconciled]

theorem status_of_attempt (h : attempt? now ledger s = some (s', ledger')) :
    s'.status = .reconciled ∨ s'.status = .unmatched := by
  obtain ⟨rfl, -⟩ | ⟨r, -, -, -, rfl, -⟩ := attempt?_cases h
  · exact .inr rfl
  · exact .inl rfl

theorem attemptAll_cons_of_none (h : attempt? now ledger s = none) :
    attemptAll now ledger (s :: ss) = ([], ledger) := by
  rw [attemptAll, h]

theorem attemptAll_cons_of_some (h : attempt? now ledger s = some (s', ledger')) :
    attemptAll now ledger (s :: ss) =
      (s' :: (attemptAll now ledger' ss).1, (attemptAll now ledger' ss).2) := by
  rw [attemptAll, h]

/-- Whatever attempts leave alone of a statement is the same before and after, up to where they
break off. -/
theorem map_attemptAll {α : Type} (g : Statement → α)
    (hg : ∀ ledger s s' ledger', attempt? now ledger s = some (s', ledger') → g s' = g s)
    (ledger : Store.Ledger) (ss : List Statement) :
    (attemptAll now ledger ss).1.map g =
      (ss.take (attemptAll now ledger ss).1.length).map g := by
  induction ss generalizing ledger with
  | nil => rfl
  | cons s ss ih =>
    cases h : attempt? now ledger s with
    | none => rw [attemptAll_cons_of_none h]; rfl
    | some p =>
      rw [attemptAll_cons_of_some h, List.map_cons, ih, List.length_cons, List.take_succ_cons,
        List.map_cons, hg ledger s p.1 p.2 h]

theorem length_attemptAll (h : ∀ s ∈ ss, Matching.HasWindow s.postedAt.date) :
    (attemptAll now ledger ss).1.length = ss.length := by
  induction ss generalizing ledger with
  | nil => rfl
  | cons s ss ih =>
    obtain ⟨s', ledger', hs⟩ := exists_attempt now ledger (h s List.mem_cons_self)
    rw [attemptAll_cons_of_some hs, List.length_cons, List.length_cons,
      ih fun t ht => h t (List.mem_cons_of_mem s ht)]

theorem attemptAll_append (h : ∀ s ∈ ss, Matching.HasWindow s.postedAt.date)
    (ts : List Statement) :
    attemptAll now ledger (ss ++ ts) =
      ((attemptAll now ledger ss).1 ++ (attemptAll now (attemptAll now ledger ss).2 ts).1,
        (attemptAll now (attemptAll now ledger ss).2 ts).2) := by
  induction ss generalizing ledger with
  | nil => rfl
  | cons s ss ih =>
    obtain ⟨s', ledger', hs⟩ := exists_attempt now ledger (h s List.mem_cons_self)
    rw [List.cons_append, attemptAll_cons_of_some hs, attemptAll_cons_of_some hs,
      ih fun t ht => h t (List.mem_cons_of_mem s ht)]
    rfl

theorem status_of_mem_attemptAll (h : s ∈ (attemptAll now ledger ss).1) :
    s.status = .reconciled ∨ s.status = .unmatched := by
  induction ss generalizing ledger with
  | nil => cases h
  | cons t ts ih =>
    cases ht : attempt? now ledger t with
    | none =>
      rw [attemptAll_cons_of_none ht] at h
      cases h
    | some p =>
      rw [attemptAll_cons_of_some ht] at h
      rcases List.mem_cons.mp h with rfl | h
      · exact status_of_attempt ht
      · exact ih h

theorem run_reconcile_of_attempt (hs : s.name ∈ m.statements.map Statement.name)
    (h : attempt? m.clock m.ledger s = some (s', ledger')) :
    (reconcile s).run Memory.answer m =
      (.returned ⟨s', .ok ⟨decide (s'.status = .reconciled), s'.recordId?⟩⟩,
        { m with statements := m.statements.put s', ledger := ledger' }) := by
  obtain ⟨f, hf, h⟩ := Option.map_eq_some_iff.mp h
  cases hr : m.ledger.findOne f with
  | none =>
    obtain ⟨statements, hrep, hrun⟩ := run_reconcile_of_no_match hs hf hr
    simp only [hr] at h
    obtain ⟨rfl, rfl⟩ := Prod.mk.inj h
    rw [hrun, Store.Statements.put, hrep]
    rfl
  | some r =>
    obtain ⟨statements, hrep, hrun⟩ := run_reconcile_of_match hs hf hr
    simp only [hr] at h
    obtain ⟨rfl, rfl⟩ := Prod.mk.inj h
    rw [hrun, Store.Statements.put, hrep]
    rfl

theorem run_reconcile_of_no_window (h : ¬ Matching.HasWindow s.postedAt.date) (m : Memory) :
    (reconcile s).run Memory.answer m = (.aborted, m) := by
  rw [reconcile, Matching.filterFor?_eq_none_iff.mpr h, Program.run_abort]

theorem run_reconcileOne_of_attempt (hs : s.name ∈ m.statements.map Statement.name)
    (h : attempt? m.clock m.ledger s = some (s', ledger')) :
    ∃ metrics, (reconcileOne s).run Memory.answer m =
      (.returned (decide (s'.status = .reconciled)),
        { m with statements := m.statements.put s', ledger := ledger', metrics }) := by
  rw [reconcileOne, Program.run_bind_of_returned (run_reconcile_of_attempt hs h)]
  exact ⟨_, rfl⟩

/-- Attempts at stored statements break off exactly if one of the statements has no window, and
otherwise answer how many matched. -/
theorem run_reconcileAll (m : Memory) (ss : List Statement)
    (hss : ∀ s ∈ ss, s.name ∈ m.statements.map Statement.name) :
    ∃ metrics, (reconcileAll ss).run Memory.answer m =
      (if ∀ s ∈ ss, Matching.HasWindow s.postedAt.date then
          .returned ((attemptAll m.clock m.ledger ss).1.countP (·.status = .reconciled))
        else .aborted,
        { m with
          statements := m.statements.putAll (attemptAll m.clock m.ledger ss).1
          ledger := (attemptAll m.clock m.ledger ss).2
          metrics }) := by
  -- the memory is general: each attempt starts from the stores that the one before it has left
  induction ss generalizing m with
  | nil => exact ⟨m.metrics, rfl⟩
  | cons s ss ih =>
    have hs := hss s List.mem_cons_self
    rw [reconcileAll]
    by_cases hw : Matching.HasWindow s.postedAt.date
    · obtain ⟨s', ledger', h⟩ := exists_attempt m.clock m.ledger hw
      obtain ⟨metrics₁, hrun⟩ := run_reconcileOne_of_attempt hs h
      let m₁ : Memory :=
        { m with statements := m.statements.put s', ledger := ledger', metrics := metrics₁ }
      obtain ⟨metrics, hrest⟩ := ih m₁ fun t ht => by
        rw [Store.Statements.names_put]
        exact hss t (List.mem_cons_of_mem s ht)
      refine ⟨metrics, ?_⟩
      rw [Program.run_bind_of_returned hrun, attemptAll_cons_of_some h]
      simp only [List.forall_mem_cons, hw, true_and]
      by_cases hws : ∀ t ∈ ss, Matching.HasWindow t.postedAt.date
      · rw [if_pos hws] at hrest ⊢
        rw [Program.run_bind_of_returned hrest, List.countP_cons]
        cases decide (s'.status = .reconciled) <;> simp [m₁]
      · rw [if_neg hws] at hrest ⊢
        rw [Program.run_bind_of_aborted hrest]
        rfl
    · refine ⟨m.metrics, ?_⟩
      have hone : (reconcileOne s).run Memory.answer m = (.aborted, m) := by
        rw [reconcileOne, Program.run_bind_of_aborted (run_reconcile_of_no_window hw m)]
      rw [Program.run_bind_of_aborted hone, attemptAll_cons_of_none (attempt?_eq_none_iff.mpr hw),
        if_neg fun h => hw (h s List.mem_cons_self)]
      rfl

end Service

end BankReconciliation
