import BankReconciliation.Proofs.Service.History
import BankReconciliation.Proofs.Service.References

/-! A file may be imported in parts. One import stores all its new lines before it matches any of
them; of two imports, the second one looks its lines up when those of the first are stored and
matched. What they leave behind is the same, apart from what is generated. -/

namespace BankReconciliation

namespace Reconciliation

def withTime (time : Instant) : Reconciliation → Reconciliation
  | .pending => .pending
  | .unmatched => .unmatched
  | .reconciled recordId _ => .reconciled recordId time

theorem status_withTime (time : Instant) (r : Reconciliation) :
    (r.withTime time).status = r.status := by
  cases r <;> rfl

theorem recordId?_withTime (time : Instant) (r : Reconciliation) :
    (r.withTime time).recordId? = r.recordId? := by
  cases r <;> rfl

end Reconciliation

namespace Statement

/-- A statement apart from what is generated for it, which is its identifier and all times but that
of posting. -/
def ungenerated (s : Statement) : Statement :=
  { s with
    id := .ofNat 0
    reconciliation := s.reconciliation.withTime s.postedAt
    createdAt := s.postedAt
    updatedAt := s.postedAt }

@[simp] theorem status_ungenerated (s : Statement) : s.ungenerated.status = s.status :=
  Reconciliation.status_withTime s.postedAt s.reconciliation

@[simp] theorem recordId?_ungenerated (s : Statement) : s.ungenerated.recordId? = s.recordId? :=
  Reconciliation.recordId?_withTime s.postedAt s.reconciliation

def ofLineOnly (churchId : String) (l : Line) : Statement := ofLine (.ofNat 0) churchId l.postedAt l

theorem ungenerated_ofLine (id : Uuid) (churchId : String) (now : Instant) (l : Line) :
    (ofLine id churchId now l).ungenerated = ofLineOnly churchId l := rfl

theorem holdsKey_ofLine {id : Uuid} {churchId bankId : String} {now : Instant} {k l : Line} :
    (ofLine id churchId now k).HoldsKey churchId bankId l ↔ k.bank.id = bankId ∧ k.SharesKey l := by
  simp only [HoldsKey, Line.SharesKey, ofLine, true_and]

end Statement

namespace Service

def withoutGenerated (p : List Statement × Store.Ledger) : List Statement × Store.Ledger :=
  (p.1.map Statement.ungenerated, p.2)

/-- Neither the identifier of a statement nor any clock has a part in the attempt. -/
theorem attempt?_ungenerated (now now' : Instant) (ledger : Store.Ledger) (s : Statement) :
    (attempt? now ledger s).map (Prod.map Statement.ungenerated id) =
      (attempt? now' ledger s.ungenerated).map (Prod.map Statement.ungenerated id) := by
  have hfilter : Matching.filterFor? s.ungenerated = Matching.filterFor? s := rfl
  rw [attempt?, attempt?, hfilter, Option.map_map, Option.map_map]
  congr 1
  funext f
  cases h : ledger.findOne f <;> simp only [Function.comp_apply, h] <;> rfl

theorem attemptAll_ungenerated (now now' : Instant) (ledger : Store.Ledger)
    (ss : List Statement) :
    withoutGenerated (attemptAll now ledger ss) =
      withoutGenerated (attemptAll now' ledger (ss.map .ungenerated)) := by
  induction ss generalizing ledger with
  | nil => rfl
  | cons s ss ih =>
    have hattempt := attempt?_ungenerated now now' ledger s
    rw [List.map_cons]
    cases hs : attempt? now ledger s with
    | none =>
      rw [hs, Option.map_none, eq_comm, Option.map_eq_none_iff] at hattempt
      rw [attemptAll_cons_of_none hs, attemptAll_cons_of_none hattempt]
    | some p =>
      rw [hs, Option.map_some, eq_comm, Option.map_eq_some_iff] at hattempt
      obtain ⟨q, hq, hpq⟩ := hattempt
      obtain ⟨hfirst, (hledger : q.2 = p.2)⟩ := Prod.mk.inj hpq
      obtain ⟨hrest, hend⟩ := Prod.mk.inj (ih p.2)
      rw [attemptAll_cons_of_some hs, attemptAll_cons_of_some hq, hledger, withoutGenerated,
        withoutGenerated, List.map_cons, List.map_cons, hfirst, hrest, hend]

end Service

namespace Memory

open Service

structure SameBooks (m m' : Memory) : Prop where
  statements : m'.statements = m.statements
  ledger : m'.ledger = m.ledger

variable {m m' : Memory} {churchId bankId : String} {kept lines : List Line}

theorem ungenerated_newStatements (m : Memory) (churchId : String) (lines : List Line) :
    (m.newStatements churchId lines).map Statement.ungenerated =
      lines.map (Statement.ofLineOnly churchId) := by
  induction lines generalizing m with
  | nil => rfl
  | cons l ls ih =>
    rw [newStatements_cons, List.map_cons, List.map_cons, ih, Statement.ungenerated_ofLine]

theorem knows_of_entries (hbank : ∀ k ∈ kept, k.bank.id = bankId)
    (h : m'.statements.map Statement.entry =
      m.statements.map Statement.entry ++ m.newStatements churchId kept) (l : Line) :
    m'.statements.Knows churchId bankId [] l ↔
      m.statements.Knows churchId bankId kept.reverse l := by
  have hentries : ∀ ss : List Statement, (∃ s ∈ ss.map Statement.entry,
      s.HoldsKey churchId bankId l) ↔ ∃ s ∈ ss, s.HoldsKey churchId bankId l := fun ss => by
    simp only [List.mem_map, exists_exists_and_eq_and]
    rfl
  have hnew : (∃ s ∈ m.newStatements churchId kept, s.HoldsKey churchId bankId l) ↔
      ∃ k ∈ kept, k.SharesKey l := by
    constructor
    · rintro ⟨s, hs, hkey⟩
      obtain ⟨i, hi, rfl⟩ := mem_newStatements_iff.mp hs
      exact ⟨kept[i], List.getElem_mem hi, (Statement.holdsKey_ofLine.mp hkey).2⟩
    · rintro ⟨k, hk, hkey⟩
      obtain ⟨i, hi, rfl⟩ := List.getElem_of_mem hk
      exact ⟨_, mem_newStatements_iff.mpr ⟨i, hi, rfl⟩,
        Statement.holdsKey_ofLine.mpr ⟨hbank _ hk, hkey⟩⟩
  rw [Store.Statements.Knows, Store.Statements.Knows, ← hentries, h]
  simp only [List.mem_append, or_and_right, exists_or, hentries, hnew, List.mem_reverse,
    List.not_mem_nil, false_and, exists_false, or_false]

/-- Of lines in two parts, the same are kept at once as when the kept lines of the first part are
stored before the second part is looked up. -/
theorem keptLines_append_of_entries (hbank : ∀ l ∈ lines, l.bank.id = bankId)
    (h : m'.statements.map Statement.entry = m.statements.map Statement.entry ++
      m.newStatements churchId (m.statements.keptLines churchId bankId [] lines))
    (more : List Line) :
    m.statements.keptLines churchId bankId [] (lines ++ more) =
      m.statements.keptLines churchId bankId [] lines ++
        m'.statements.keptLines churchId bankId [] more := by
  have hkept : ∀ k ∈ m.statements.keptLines churchId bankId [] lines, k.bank.id = bankId :=
    fun k hk => hbank k (Store.Statements.mem_of_mem_keptLines hk)
  rw [Store.Statements.keptLines_append, List.append_nil,
    Store.Statements.keptLines_congr (knows_of_entries hkept h)]

/-- New statements of one batch are matched as those of two batches are, if the first attempts do
not break off. -/
theorem attemptAll_newStatements_append (m m₁ m₂ : Memory) (ledger ledger₁ : Store.Ledger)
    (churchId : String) (more : List Line) {attempted : List Statement}
    (hw : ∀ l ∈ kept, Matching.HasWindow l.postedAt.date)
    (h : attemptAll m₁.clock ledger (m₁.newStatements churchId kept) = (attempted, ledger₁)) :
    withoutGenerated (attemptAll m.clock ledger (m.newStatements churchId (kept ++ more))) =
      ((attempted ++ (attemptAll m₂.clock ledger₁ (m₂.newStatements churchId more)).1).map
          Statement.ungenerated,
        (attemptAll m₂.clock ledger₁ (m₂.newStatements churchId more)).2) := by
  have hfirst := attemptAll_ungenerated m₁.clock m.clock ledger (m₁.newStatements churchId kept)
  have hsecond := attemptAll_ungenerated m₂.clock m.clock ledger₁ (m₂.newStatements churchId more)
  rw [ungenerated_newStatements, h] at hfirst
  rw [ungenerated_newStatements] at hsecond
  obtain ⟨hstatements, (hledger : ledger₁ = _)⟩ := Prod.mk.inj hfirst
  obtain ⟨hstatements', hledger'⟩ := Prod.mk.inj hsecond
  have hwindows : ∀ s ∈ kept.map (Statement.ofLineOnly churchId),
      Matching.HasWindow s.postedAt.date := by
    intro s hs
    obtain ⟨l, hl, rfl⟩ := List.mem_map.mp hs
    exact hw l hl
  rw [attemptAll_ungenerated m.clock m.clock, ungenerated_newStatements, List.map_append,
    attemptAll_append hwindows, ← hledger, withoutGenerated, List.map_append, List.map_append,
    ← hstatements, ← hstatements', hledger']

end Memory

namespace Summary

/-- The summary counts the attempted statements, as those of a number of lines. -/
structure Counts (S : Summary) (attempted : List Statement) (lines : Nat) : Prop where
  inserted : S.inserted = attempted.length
  duplicates : S.duplicates + attempted.length = lines
  matched : S.matched = attempted.countP (·.status = .reconciled)
  pending : S.pending + S.matched = attempted.length

/-- The counts of two summaries together are those of one summary. -/
structure AddUp (S S₁ S₂ : Summary) : Prop where
  inserted : S.inserted = S₁.inserted + S₂.inserted
  duplicates : S.duplicates = S₁.duplicates + S₂.duplicates
  matched : S.matched = S₁.matched + S₂.matched
  pending : S.pending = S₁.pending + S₂.pending

theorem Counts.addUp {S S₁ S₂ : Summary} {added added₁ added₂ : List Statement} {n k : Nat}
    (h : S.Counts added (n + k)) (h₁ : S₁.Counts added₁ n) (h₂ : S₂.Counts added₂ k)
    (hsame : added.map Statement.ungenerated = (added₁ ++ added₂).map Statement.ungenerated) :
    S.AddUp S₁ S₂ := by
  have hlength : added.length = added₁.length + added₂.length := by
    rw [← List.length_map, hsame, List.length_map, List.length_append]
  have hcount : added.countP (·.status = .reconciled) =
      added₁.countP (·.status = .reconciled) + added₂.countP (·.status = .reconciled) := by
    have hsum := congrArg (List.countP (·.status = .reconciled)) hsame
    rw [List.countP_map, List.countP_map, List.countP_append] at hsum
    simpa only [Function.comp_def, Statement.status_ungenerated] using hsum
  have hinserted : S.inserted = S₁.inserted + S₂.inserted := by
    rw [h.inserted, h₁.inserted, h₂.inserted, hlength]
  have hmatched : S.matched = S₁.matched + S₂.matched := by
    rw [h.matched, h₁.matched, h₂.matched, hcount]
  have hlines := h.duplicates
  have hpending := h.pending
  rw [← h₁.duplicates, ← h₂.duplicates] at hlines
  rw [hlength, ← h₁.pending, ← h₂.pending] at hpending
  exact ⟨hinserted, by omega, hmatched, by omega⟩

end Summary

/-- The jobs are for the same church and bank. -/
structure ImportJob.SameBank (job job' : ImportJob) : Prop where
  churchId : job'.churchId = job.churchId
  bankId : job'.bank.id = job.bank.id

namespace Service

open Memory

/-- The lines are what a job's file is read as, they are of the job's bank, the days of all of them
have windows, and the identifiers that they are given are new. -/
structure Imports (setup : ImportSetup) (m : Memory) (job : ImportJob) (lines : List Line) :
    Prop where
  parsed : parsedLines setup m.files job = .ok lines
  bank : ∀ l ∈ lines, l.bank.id = job.bank.id
  windows : ∀ l ∈ lines, Matching.HasWindow l.postedAt.date
  ids : m.NewIds (m.issued + (m.keptLines job lines).length)

namespace Imports

variable {setup : ImportSetup} {m : Memory} {job : ImportJob} {lines : List Line}

theorem run (h : Imports setup m job lines) :
    ∃ S m' attempted, (handle setup job).run Memory.answer m = (.returned (.ok S), m') ∧
      attemptAll m.clock m.ledger (m.newStatements job.churchId (m.keptLines job lines)) =
        (attempted, m'.ledger) ∧
      m'.statements = m.statements ++ attempted ∧
      m'.statements.map Statement.entry = m.statements.map Statement.entry ++
        m.newStatements job.churchId (m.keptLines job lines) ∧
      S.Counts attempted lines.length := by
  have hw : m.HasWindows job lines := hasWindows_of_lines h.windows
  have hlength : (m.attempts job lines).1.length = (m.taken job lines).length :=
    length_attemptAll hw
  have hkept : (m.taken job lines).length = (m.keptLines job lines).length := by
    rw [taken_of_bank h.bank, candidates, length_newStatements]
  have hstatements := statements_importing h.ids
  rw [hlength, List.drop_length, List.append_nil] at hstatements
  have hentries := entries_importing h.ids
  rw [taken_of_bank h.bank] at hentries
  obtain ⟨channel, metrics, hrun⟩ := run_handle_of_windows h.parsed hw
  refine ⟨_, _, (m.attempts job lines).1, hrun, ?_, hstatements, hentries,
    ⟨hlength.symm, ?_, rfl, ?_⟩⟩
  · have hattempts : m.attempts job lines =
        attemptAll m.clock m.ledger (m.candidates job lines) := by
      rw [attempts, taken_of_bank h.bank]
    exact hattempts.symm
  · have hle := (Store.Statements.keptLines_sublist m.statements job.churchId job.bank.id []
      lines).length_le
    rw [duplicates_summary h.bank h.ids, hlength, hkept]
    exact Nat.sub_add_cancel hle
  · rw [hlength]
    exact Nat.sub_add_cancel (hlength ▸ List.countP_le_length)

end Imports

variable {setup setup₁ : ImportSetup} {m m₁ : Memory} {job job₁ : ImportJob}
  {lines more : List Line}

/-- A file whose lines are imported at once, or in two parts one after the other, leaves the same
statements and the same ledger behind, with the same updates of its records, and the two imports
count together what the one import counts. -/
theorem handle_append (h : Imports setup m job (lines ++ more)) (hjob₁ : job.SameBank job₁)
    (hm₁ : m.SameBooks m₁) (h₁ : Imports setup₁ m₁ job₁ lines) :
    ∃ S M S₁ M₁ added,
      (handle setup job).run Memory.answer m = (.returned (.ok S), M) ∧
      (handle setup₁ job₁).run Memory.answer m₁ = (.returned (.ok S₁), M₁) ∧
      M.statements = m.statements ++ added ∧
      ∀ setup₂ m₂ job₂, job.SameBank job₂ → M₁.SameBooks m₂ → Imports setup₂ m₂ job₂ more →
        ∃ S₂ M₂ added',
          (handle setup₂ job₂).run Memory.answer m₂ = (.returned (.ok S₂), M₂) ∧
          M₂.statements = m.statements ++ added' ∧
          added.map Statement.ungenerated = added'.map Statement.ungenerated ∧
          M.ledger = M₂.ledger ∧ S.AddUp S₁ S₂ := by
  obtain ⟨S, M, added, hrun, hadded, hstored, -, hcounts⟩ := h.run
  obtain ⟨S₁, M₁, added₁, hrun₁, hadded₁, hstored₁, hentries₁, hcounts₁⟩ := h₁.run
  refine ⟨S, M, S₁, M₁, added, hrun, hrun₁, hstored, ?_⟩
  intro setup₂ m₂ job₂ hjob₂ hm₂ h₂
  obtain ⟨S₂, M₂, added₂, hrun₂, hadded₂, hstored₂, -, hcounts₂⟩ := h₂.run
  have hkept : m.keptLines job (lines ++ more) =
      m₁.keptLines job₁ lines ++ m₂.keptLines job₂ more := by
    rw [← hm₂.statements] at hentries₁
    have hparts := keptLines_append_of_entries h₁.bank hentries₁ more
    rw [keptLines, keptLines, keptLines, hjob₁.churchId, hjob₁.bankId, hjob₂.churchId,
      hjob₂.bankId, ← hm₁.statements]
    rwa [hjob₁.churchId, hjob₁.bankId] at hparts
  have hwindows : ∀ l ∈ m₁.keptLines job₁ lines, Matching.HasWindow l.postedAt.date := fun l hl =>
    h₁.windows l (Store.Statements.mem_of_mem_keptLines hl)
  rw [hm₁.ledger, hjob₁.churchId] at hadded₁
  rw [hm₂.ledger, hjob₂.churchId] at hadded₂
  -- the attempts of the second import go on where those of the first one have left the ledger
  have hattempts := attemptAll_newStatements_append m m₁ m₂ m.ledger M₁.ledger job.churchId
    (m₂.keptLines job₂ more) hwindows hadded₁
  rw [← hkept, hadded, hadded₂] at hattempts
  obtain ⟨hsame, hledger⟩ := Prod.mk.inj hattempts
  rw [List.length_append] at hcounts
  refine ⟨S₂, M₂, added₁ ++ added₂, hrun₂, ?_, hsame, hledger,
    hcounts.addUp hcounts₁ hcounts₂ hsame⟩
  rw [hstored₂, hm₂.statements, hstored₁, hm₁.statements, List.append_assoc]

/-- Two parts of a file that have a line in common, after an import of another line of theirs. -/
theorem handle_append_overlapping :
    ∃ S M S₂ M₂ added added',
      (handle (Sample.reading ([Sample.line "a", Sample.line "b", Sample.line "b"] ++
        [Sample.line "b", Sample.line "c"])) Sample.job).run Memory.answer Sample.used =
          (.returned (.ok S), M) ∧
      (handle (Sample.reading [Sample.line "b", Sample.line "c"]) Sample.again).run Memory.answer
        Sample.afterFirst = (.returned (.ok S₂), M₂) ∧
      M.statements = [Sample.statement] ++ added ∧ M₂.statements = [Sample.statement] ++ added' ∧
      added.map (·.recordId?) = added'.map (·.recordId?) ∧ M.ledger = M₂.ledger := by
  have hwhole : Imports (Sample.reading ([Sample.line "a", Sample.line "b", Sample.line "b"] ++
      [Sample.line "b", Sample.line "c"])) Sample.used Sample.job _ :=
    ⟨rfl, by decide +kernel, by decide +kernel, by decide +kernel⟩
  have hfirst : Imports Sample.twice Sample.used Sample.job _ :=
    ⟨rfl, by decide +kernel, by decide +kernel, by decide +kernel⟩
  have hrest : Imports (Sample.reading [Sample.line "b", Sample.line "c"]) Sample.afterFirst
      Sample.again _ := ⟨rfl, by decide +kernel, by decide +kernel, by decide +kernel⟩
  obtain ⟨S, M, S₁, M₁, added, hrun, hrun₁, hstored, hsecond⟩ :=
    handle_append hwhole ⟨rfl, rfl⟩ ⟨rfl, rfl⟩ hfirst
  have hafter : Sample.afterFirst = M₁ := congrArg Prod.snd hrun₁
  obtain ⟨S₂, M₂, added', hrun₂, hstored₂, hsame, hledger, -⟩ :=
    hsecond _ _ Sample.again ⟨rfl, rfl⟩
      ⟨congrArg Memory.statements hafter, congrArg Memory.ledger hafter⟩ hrest
  refine ⟨S, M, S₂, M₂, added, added', hrun, hrun₂, hstored, hstored₂, ?_, hledger⟩
  have hrecords := congrArg (List.map Statement.recordId?) hsame
  simpa only [List.map_map, Function.comp_def, Statement.recordId?_ungenerated] using hrecords

end Service

end BankReconciliation
