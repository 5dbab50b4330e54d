import BankReconciliation.Deployment.Memory
import BankReconciliation.Proofs.Matching
import BankReconciliation.Proofs.Store.Ledger
import BankReconciliation.Proofs.Store.Statements

/-! Reconciling a statement with nothing else happening meanwhile, once and a second time. The first
match closes the record that it finds, so that a second run never comes to the same. -/

namespace BankReconciliation

namespace Service

variable {m : Memory} {s : Statement} {f : RecordFilter} {r : LedgerRecord}
  {statements : Store.Statements} {later : Instant}

theorem run_now (m : Memory) : Task.now.run Memory.answer m = (.returned m.clock, m) := rfl

theorem run_findOne (f : RecordFilter) (m : Memory) :
    Program.run Memory.answer (Task.findOne f).run m =
      (.returned (.ok (m.ledger.findOne f)), { m with ledger.queries := m.ledger.queries + 1 }) :=
  rfl

theorem run_updateReconciliation (hs : m.statements.replace? s = some statements) :
    Program.run Memory.answer (Task.updateReconciliation s).run m =
      (.returned (.ok ()), { m with statements }) := by
  have hanswer : Memory.answer (.updateReconciliation s) m = (.ok (), { m with statements }) := by
    simp only [Memory.answer, hs]
  exact congrArg (fun p => (Program.Outcome.returned p.1, p.2)) hanswer

theorem run_announce (r : LedgerRecord) (m : Memory) :
    (announce r).run Memory.answer m =
      (.returned (), { m with ledger := m.ledger.dispatch r .reconciled }) :=
  rfl

theorem run_settle (hs : m.statements.replace? (s.markReconciled r.id m.clock) = some statements) :
    (settle s r).run Memory.answer m =
      (.returned ⟨s.markReconciled r.id m.clock, .ok ⟨true, some r.id⟩⟩,
        { m with statements, ledger := m.ledger.dispatch r .reconciled }) := by
  simp only [settle, Program.run_bind, run_now, run_updateReconciliation hs, run_announce]
  rfl

theorem run_unmatch (hs : m.statements.replace? (s.markUnmatched m.clock) = some statements) :
    (unmatch s).run Memory.answer m =
      (.returned ⟨s.markUnmatched m.clock, .ok ⟨false, none⟩⟩, { m with statements }) := by
  simp only [unmatch, Program.run_bind, run_now, run_updateReconciliation hs]
  rfl

theorem run_reconcile (hf : Matching.filterFor? s = some f) :
    (reconcile s).run Memory.answer m =
      (match m.ledger.findOne f with
        | none => unmatch s
        | some r => settle s r).run Memory.answer
          { m with ledger.queries := m.ledger.queries + 1 } := by
  simp only [reconcile, hf, Program.run_bind, run_findOne]
  cases m.ledger.findOne f <;> rfl

/-- A stored statement that matches a record is bound to it, and the record is closed. -/
theorem run_reconcile_of_match (hs : s.name ∈ m.statements.map Statement.name)
    (hf : Matching.filterFor? s = some f) (hr : m.ledger.findOne f = some r) :
    ∃ statements, m.statements.replace? (s.markReconciled r.id m.clock) = some statements ∧
      (reconcile s).run Memory.answer m =
        (.returned ⟨s.markReconciled r.id m.clock, .ok ⟨true, some r.id⟩⟩,
          { m with
            statements
            ledger := Store.Ledger.dispatch { m.ledger with queries := m.ledger.queries + 1 } r
              .reconciled }) := by
  rw [← Statement.name_markReconciled s r.id m.clock] at hs
  obtain ⟨statements, hrep⟩ := Store.Statements.replace?_isSome hs
  refine ⟨statements, hrep, ?_⟩
  rw [run_reconcile hf, hr]
  exact run_settle hrep

/-- A stored statement that matches nothing is unmatched, and the ledger stays as it is. -/
theorem run_reconcile_of_no_match (hs : s.name ∈ m.statements.map Statement.name)
    (hf : Matching.filterFor? s = some f) (hnone : m.ledger.findOne f = none) :
    ∃ statements, m.statements.replace? (s.markUnmatched m.clock) = some statements ∧
      (reconcile s).run Memory.answer m =
        (.returned ⟨s.markUnmatched m.clock, .ok ⟨false, none⟩⟩,
          { m with statements, ledger.queries := m.ledger.queries + 1 }) := by
  rw [← Statement.name_markUnmatched s m.clock] at hs
  obtain ⟨statements, hrep⟩ := Store.Statements.replace?_isSome hs
  refine ⟨statements, hrep, ?_⟩
  rw [run_reconcile hf, hnone]
  exact run_unmatch hrep

def storedState? (stored : Store.Statements) (s : Statement) :
    Option (ReconciliationStatus × Option String) :=
  (stored.find? s.churchId s.id).map fun t => (t.status, t.recordId?)

/-- A second run on the statement as the first one left it, with nothing but time gone by, comes to
the same result and leaves the stored statement as it is. -/
def Repeats (m : Memory) (s : Statement) (later : Instant) : Prop :=
  ∃ first m₁ second m₂,
    (reconcile s).run Memory.answer m = (.returned first, m₁) ∧
    (reconcile first.statement).run Memory.answer { m₁ with clock := later } =
      (.returned second, m₂) ∧
    second.result = first.result ∧ storedState? m₂.statements s = storedState? m₁.statements s

theorem storedState?_of_replace? {stored : Store.Statements} {t : Statement}
    (h : stored.replace? t = some statements) (hname : t.name = s.name) :
    storedState? statements s = some (t.status, t.recordId?) := by
  have hfind := Store.Statements.find?_replace? h
  obtain ⟨hchurch, hid⟩ := Prod.mk.inj hname
  rw [hchurch, hid] at hfind
  rw [storedState?, hfind, Option.map_some]

theorem repeats_of_no_match (hs : s.name ∈ m.statements.map Statement.name)
    (hf : Matching.filterFor? s = some f) (hnone : m.ledger.findOne f = none) :
    Repeats m s later := by
  obtain ⟨statements, hrep, hrun⟩ := run_reconcile_of_no_match hs hf hnone
  have hs' : (s.markUnmatched m.clock).name ∈ statements.map Statement.name := by
    rw [Store.Statements.names_replace? hrep, Statement.name_markUnmatched]
    exact hs
  have hf' : Matching.filterFor? (s.markUnmatched m.clock) = some f := by
    rw [Matching.filterFor?_markUnmatched, hf]
  let m' : Memory := { m with statements, ledger.queries := m.ledger.queries + 1, clock := later }
  obtain ⟨statements', hrep', hrun'⟩ := run_reconcile_of_no_match (m := m') hs' hf' hnone
  have hstate : storedState? statements s = some (.unmatched, none) :=
    storedState?_of_replace? hrep rfl
  have hstate' : storedState? statements' s = some (.unmatched, none) :=
    storedState?_of_replace? hrep' rfl
  exact ⟨_, _, _, _, hrun, hrun', rfl, hstate'.trans hstate.symm⟩

theorem id_ne_of_findOne_dispatch {l : Store.Ledger} {r' : LedgerRecord}
    (hk : Store.Ledger.KeysDistinct l.records) (hf : Matching.filterFor? s = some f)
    (hr : l.findOne f = some r) (hr' : (l.dispatch r .reconciled).findOne f = some r') :
    r'.id ≠ r.id := by
  obtain ⟨hmem, haccepts⟩ := Store.Ledger.mem_of_findOne hr
  obtain ⟨hmem', haccepts'⟩ := Store.Ledger.mem_of_findOne hr'
  intro hid
  have hkey : r'.key = r.key := by
    rw [LedgerRecord.key, LedgerRecord.key, hid, Matching.churchId_of_accepts hf haccepts,
      Matching.churchId_of_accepts hf haccepts']
  exact Matching.ne_reconciled_of_accepts hf haccepts'
    (Store.Ledger.status_of_mem_dispatch hk hmem hmem' hkey)

theorem not_repeats_of_match (hk : Store.Ledger.KeysDistinct m.ledger.records)
    (hs : s.name ∈ m.statements.map Statement.name) (hf : Matching.filterFor? s = some f)
    (hr : m.ledger.findOne f = some r) : ¬ Repeats m s later := by
  rintro ⟨first, m₁, second, m₂, hrun₁, hrun₂, hresult, -⟩
  obtain ⟨statements, hrep, hrun⟩ := run_reconcile_of_match hs hf hr
  obtain ⟨hfirst, rfl⟩ := Prod.mk.inj (hrun₁.symm.trans hrun)
  obtain rfl := Program.Outcome.returned.inj hfirst
  have hs' : (s.markReconciled r.id m.clock).name ∈ statements.map Statement.name := by
    rw [Store.Statements.names_replace? hrep, Statement.name_markReconciled]
    exact hs
  have hf' : Matching.filterFor? (s.markReconciled r.id m.clock) = some f := by
    rw [Matching.filterFor?_markReconciled, hf]
  let l := Store.Ledger.dispatch { m.ledger with queries := m.ledger.queries + 1 } r .reconciled
  let m' : Memory := { m with statements, ledger := l, clock := later }
  cases hr' : m'.ledger.findOne f with
  | none =>
    obtain ⟨statements', -, hrun'⟩ := run_reconcile_of_no_match (m := m') hs' hf' hr'
    obtain ⟨hsecond, -⟩ := Prod.mk.inj (hrun₂.symm.trans hrun')
    rw [Program.Outcome.returned.inj hsecond] at hresult
    exact nomatch Except.ok.inj hresult
  | some r' =>
    obtain ⟨statements', -, hrun'⟩ := run_reconcile_of_match (m := m') hs' hf' hr'
    obtain ⟨hsecond, -⟩ := Prod.mk.inj (hrun₂.symm.trans hrun')
    rw [Program.Outcome.returned.inj hsecond] at hresult
    have hid : r'.id = r.id := Option.some.inj (Outcome.mk.inj (Except.ok.inj hresult)).2
    exact id_ne_of_findOne_dispatch (l := { m.ledger with queries := m.ledger.queries + 1 })
      hk hf hr hr' hid

/-- Reconciling a stored statement again comes to the same exactly if no record matches it. -/
theorem repeats_iff (hk : Store.Ledger.KeysDistinct m.ledger.records)
    (hs : s.name ∈ m.statements.map Statement.name) :
    Repeats m s later ↔
      ∃ f, Matching.filterFor? s = some f ∧ ∀ r ∈ m.ledger.records, f.accepts r = false := by
  constructor
  · intro h
    cases hf : Matching.filterFor? s with
    | none =>
      obtain ⟨first, m₁, -, -, hrun, -⟩ := h
      rw [reconcile, hf] at hrun
      exact nomatch hrun
    | some f =>
      refine ⟨f, rfl, Store.Ledger.findOne_eq_none_iff.mp ?_⟩
      by_contra hfound
      obtain ⟨r, hr⟩ := Option.ne_none_iff_exists'.mp hfound
      exact not_repeats_of_match hk hs hf hr h
  · rintro ⟨f, hf, hnone⟩
    exact repeats_of_no_match hs hf (Store.Ledger.findOne_eq_none_iff.mpr hnone)

end Service

namespace Sample

def day : Date := ⟨2025, 1, 15, by decide⟩

def amount : Decimal := ⟨false, 5000, 2, by decide, by decide⟩

def record : LedgerRecord :=
  ⟨"fr-1", "church", amount, .midnight day, .income, .cleared, "account"⟩

def line (location : String) : Line where
  bank := ⟨"bb", "Banco do Brasil", "bb"⟩
  account := ⟨"account", "Main account"⟩
  postedAt := .midnight day
  amount
  description := "Tithe"
  direction := .income
  fitId := ""
  hash := location
  month := 1
  year := 2025
  raw := []

def statement : Statement := .ofLine (.ofNat 0) "church" (.midnight day) (line "a")

def memory : Memory where
  ledger := { records := [record] }
  worker := { settings := {} }
  clock := .midnight day
  supply := Uuid.ofNat

end Sample

namespace Service

/-- With an empty ledger the statement is unmatched both times. -/
theorem repeats_iff_empty_ledger :
    Repeats { Sample.memory with statements := [Sample.statement], ledger := {} } Sample.statement
      (.midnight Sample.day) := by
  refine (repeats_iff ?_ ?_).mpr ⟨_, rfl, fun _ hr => absurd hr List.not_mem_nil⟩
  · exact List.nodup_nil
  · exact List.mem_singleton_self _

/-- The first run binds the statement to the record, and the second one finds no open record. -/
theorem not_repeats_of_open_record :
    ¬ ∀ (m : Memory) (s : Statement) (later : Instant),
      Store.Ledger.KeysDistinct m.ledger.records → s.name ∈ m.statements.map Statement.name →
      Repeats m s later := by
  intro h
  let m : Memory := { Sample.memory with statements := [Sample.statement] }
  have hk : Store.Ledger.KeysDistinct m.ledger.records := List.nodup_singleton _
  have hs : Sample.statement.name ∈ m.statements.map Statement.name := List.mem_singleton_self _
  refine not_repeats_of_match (r := Sample.record) hk hs rfl ?_ (h m _ (.midnight Sample.day) hk hs)
  decide +kernel

end Service

end BankReconciliation
