import BankReconciliation.Proofs.Service.Operations

/-! Requests that are served one after another. Nothing that happens takes a stored statement away
or changes what was inserted of it, so that a file whose lines were imported once brings nothing new
at any later time. -/

namespace BankReconciliation

inductive Event
  | serve (request : Service.Request)
  | addRecord (record : LedgerRecord)

/-- The memories that come about while events happen one after another. Which events may happen in
which memories is a parameter. Between them all may change that is not held in the stores. -/
inductive History (setup : ImportSetup) (admits : Memory → Event → Prop) (m₀ : Memory) :
    Memory → Prop
  | start : History setup admits m₀ m₀
  | serve {m request} (h : History setup admits m₀ m) (ha : admits m (.serve request)) :
    History setup admits m₀ ((request.task setup).run Memory.answer m).2
  | addRecord {m record} (h : History setup admits m₀ m) (ha : admits m (.addRecord record)) :
    History setup admits m₀ { m with ledger := m.ledger.insert record }
  | surroundings {m m'} (h : History setup admits m₀ m) (hs : m.SameStores m') :
    History setup admits m₀ m'

namespace Memory

/-- A memory holds all that was inserted into another one, and beyond it only statements with
identifiers that were given out since. -/
structure Grows (m m' : Memory) : Prop where
  entries : m.statements.map Statement.entry <+: m'.statements.map Statement.entry
  ids : ∀ s ∈ m'.statements, (∃ t ∈ m.statements, t.id = s.id) ∨
    ∃ n, m.issued ≤ n ∧ n < m'.issued ∧ m.supply n = s.id
  supply : m'.supply = m.supply
  issued : m.issued ≤ m'.issued

variable {m m' : Memory} {job : ImportJob} {lines : List Line}

namespace Grows

theorem of_entries (he : m'.statements.map Statement.entry = m.statements.map Statement.entry)
    (hs : m'.supply = m.supply) (hi : m'.issued = m.issued) : m.Grows m' where
  entries := he ▸ List.prefix_rfl
  ids s hs := by
    have hmem : s.entry ∈ m.statements.map Statement.entry := he ▸ List.mem_map_of_mem hs
    obtain ⟨t, ht, hts⟩ := List.mem_map.mp hmem
    have hid : t.entry.id = s.entry.id := congrArg Statement.id hts
    exact .inl ⟨t, ht, hid⟩
  supply := hs
  issued := Nat.le_of_eq hi.symm

theorem of_sameStores (h : m.SameStores m') : m.Grows m' :=
  of_entries (by rw [h.statements]) h.supply h.issued

theorem trans {m₁ m₂ m₃ : Memory} (h : m₁.Grows m₂) (h' : m₂.Grows m₃) : m₁.Grows m₃ where
  entries := h.entries.trans h'.entries
  ids s hs := by
    rcases h'.ids s hs with ⟨t, ht, hts⟩ | ⟨n, hle, hlt, hn⟩
    · rcases h.ids t ht with ⟨u, hu, hut⟩ | ⟨n, hle, hlt, hn⟩
      · exact .inl ⟨u, hu, hut.trans hts⟩
      · exact .inr ⟨n, hle, Nat.lt_of_lt_of_le hlt h'.issued, hn.trans hts⟩
    · exact .inr ⟨n, Nat.le_trans h.issued hle, hlt, h.supply ▸ hn⟩
  supply := h'.supply.trans h.supply
  issued := Nat.le_trans h.issued h'.issued

theorem newIds {issued : Nat} (h : m.Grows m') (hids : m.NewIds issued) : m'.NewIds issued := by
  intro n hn hle
  obtain ⟨hnew, hdistinct⟩ := hids n hn (Nat.le_trans h.issued hle)
  rw [h.supply]
  refine ⟨?_, fun k hk hk' => hdistinct k hk (Nat.le_trans h.issued hk')⟩
  intro s hs
  rcases h.ids s hs with ⟨t, ht, hts⟩ | ⟨k, hk, hk', hks⟩
  · exact hts ▸ hnew t ht
  · exact hks ▸ hdistinct k (Nat.lt_of_lt_of_le hk' hle) hk

theorem exists_holdsKey {churchId bankId : String} {l : Line} (h : m.Grows m')
    (hl : ∃ s ∈ m.statements, s.HoldsKey churchId bankId l) :
    ∃ s ∈ m'.statements, s.HoldsKey churchId bankId l := by
  obtain ⟨s, hs, hkey⟩ := hl
  obtain ⟨t, ht, hts⟩ := List.mem_map.mp (h.entries.subset (List.mem_map_of_mem hs))
  have hentry : t.entry.HoldsKey churchId bankId l := hts ▸ hkey
  exact ⟨t, ht, hentry⟩

theorem importing (hids : m.NewIds (m.issued + (m.keptLines job lines).length)) :
    m.Grows (m.importing job lines) where
  entries := by
    rw [entries_importing hids]
    exact List.prefix_append _ _
  ids s hs := by
    have hname : s.name ∈ (m.importing job lines).statements.map Statement.name :=
      List.mem_map_of_mem hs
    rw [Memory.importing, Store.Statements.names_putAll, storing, insertMany_candidates hids,
      List.map_append] at hname
    rcases List.mem_append.mp hname with hname | hname
    · obtain ⟨t, ht, hts⟩ := List.mem_map.mp hname
      exact .inl ⟨t, ht, congrArg Prod.snd hts⟩
    · obtain ⟨t, ht, hts⟩ := List.mem_map.mp hname
      obtain ⟨i, hi, rfl⟩ := mem_newStatements_iff.mp (List.mem_of_mem_filter ht)
      exact .inr ⟨m.issued + i, Nat.le_add_right _ _, Nat.add_lt_add_left hi _,
        congrArg Prod.snd hts⟩
  supply := rfl
  issued := Nat.le_add_right _ _

theorem of_put {churchId id : String} {s s' : Statement} (hs : m.fetched churchId id = .ok s)
    (hname : s'.name = s.name) (hentry : s'.entry = s.entry)
    (hm : m'.statements = m.statements.put s') (hsupply : m'.supply = m.supply)
    (hissued : m'.issued = m.issued) : m.Grows m' := by
  obtain ⟨before, after, hstored, hput⟩ := exists_put_of_fetched hs hname
  refine of_entries ?_ hsupply hissued
  rw [hm, hput, hstored, List.map_append, List.map_append, List.map_cons, List.map_cons, hentry]

end Grows

end Memory

namespace Service

open Memory

variable {setup : ImportSetup} {m m' m₁ m₂ : Memory} {request : Request} {job job' : ImportJob}
  {lines lines' : List Line} {admits : Memory → Event → Prop}

theorem Served.issued_le (h : Served setup m request m') : m.issued ≤ m'.issued := by
  cases h with
  | unchanged h => exact Nat.le_of_eq h.issued.symm
  | imported hlines h => exact Nat.le_trans (Nat.le_add_right _ _) (Nat.le_of_eq h.issued.symm)
  | retried hs ha h => exact Nat.le_of_eq h.issued.symm
  | linked hs hr h => exact Nat.le_of_eq h.issued.symm

theorem Served.grows (h : Served setup m request m') (hids : m.NewIds m'.issued) :
    m.Grows m' := by
  cases h with
  | unchanged h => exact .of_sameStores h
  | imported hlines h =>
    rw [h.issued] at hids
    exact (Grows.importing hids).trans (.of_sameStores h)
  | @retried _ _ s s' ledger _ hs ha h =>
    have hgrows : m.Grows (m.retrying s' ledger) :=
      .of_put hs (name_of_attempt ha) (entry_of_attempt ha) rfl rfl rfl
    exact hgrows.trans (.of_sameStores h)
  | @linked _ _ _ s r _ hs hr h =>
    have hgrows : m.Grows (m.linking s r) := .of_put hs (by simp) (by simp) rfl rfl rfl
    exact hgrows.trans (.of_sameStores h)

end Service

namespace History

variable {setup : ImportSetup} {admits : Memory → Event → Prop} {m m₀ : Memory}

theorem issued_le (h : History setup admits m₀ m) : m₀.issued ≤ m.issued := by
  induction h with
  | start => exact Nat.le_refl _
  | serve h ha ih => exact Nat.le_trans ih (Service.served _ _ _).issued_le
  | addRecord h ha ih => exact ih
  | surroundings h hs ih => exact Nat.le_trans ih (Nat.le_of_eq hs.issued.symm)

theorem grows (h : History setup admits m₀ m) (hids : m₀.NewIds m.issued) : m₀.Grows m := by
  induction h with
  | start => exact .of_sameStores (.refl m₀)
  | @serve m request h ha ih =>
    have hserved := Service.served setup m request
    have hbefore := ih (hids.mono hserved.issued_le)
    exact hbefore.trans (hserved.grows (hbefore.newIds hids))
  | addRecord h ha ih => exact (ih hids).trans (.of_entries rfl rfl rfl)
  | surroundings h hs ih => exact (ih (hs.issued ▸ hids)).trans (.of_sameStores hs)

end History

namespace Service

open Memory

variable {setup : ImportSetup} {m m₁ m₂ : Memory} {job job' : ImportJob}
  {lines lines' : List Line} {l : Line}

/-- After an import of lines of its bank every line, kept or not, repeats a stored statement. -/
theorem exists_holdsKey_importing (hbank : ∀ l ∈ lines, l.bank.id = job.bank.id)
    (hids : m.NewIds (m.issued + (m.keptLines job lines).length)) (hl : l ∈ lines) :
    ∃ s ∈ (m.importing job lines).statements, s.HoldsKey job.churchId job.bank.id l := by
  have hknows : m.statements.Knows job.churchId job.bank.id ([] ++ m.keptLines job lines) l :=
    Store.Statements.knows_keptLines hl
  rw [List.nil_append] at hknows
  rcases hknows with hstored | ⟨k, hkept, hkey⟩
  · exact (Grows.importing hids).exists_holdsKey hstored
  · -- a line that was not kept repeats one that was, whose statement is stored
    obtain ⟨i, hi, rfl⟩ := List.getElem_of_mem hkept
    have hmem : Statement.ofLine (m.supply (m.issued + i)) job.churchId m.clock
        (m.keptLines job lines)[i] ∈
        (m.importing job lines).statements.map Statement.entry := by
      rw [entries_importing hids, taken_of_bank hbank]
      exact List.mem_append_right _ (mem_newStatements_iff.mpr ⟨i, hi, rfl⟩)
    obtain ⟨s, hs, hentry⟩ := List.mem_map.mp hmem
    have hlines := Store.Statements.mem_of_mem_keptLines hkept
    have hholds : s.entry.HoldsKey job.churchId job.bank.id l :=
      hentry ▸ ⟨rfl, hbank _ hlines, hkey⟩
    exact ⟨s, hs, hholds⟩

theorem handle_of_known (h : parsedLines setup m.files job = .ok lines)
    (hknown : ∀ l ∈ lines, ∃ s ∈ m.statements, s.HoldsKey job.churchId job.bank.id l) :
    ∃ summary m', (handle setup job).run Memory.answer m = (.returned (.ok summary), m') ∧
      summary.totalLines = lines.length ∧ summary.duplicates = lines.length ∧
      summary.inserted = 0 ∧ summary.matched = 0 ∧ summary.pending = 0 ∧
      m'.statements = m.statements ∧ m'.ledger = m.ledger := by
  have hkept : m.keptLines job lines = [] :=
    Store.Statements.keptLines_eq_nil fun l hl => .inl (hknown l hl)
  have hcandidates : m.candidates job lines = [] := by rw [candidates, hkept]; rfl
  have htaken : m.taken job lines = [] := by rw [taken, hcandidates]; rfl
  have hattempts : m.attempts job lines = ([], m.ledger) := by rw [attempts, htaken]; rfl
  have hw : m.HasWindows job lines := by
    rw [HasWindows, htaken]
    exact fun _ hs => absurd hs List.not_mem_nil
  obtain ⟨channel, metrics, hrun⟩ := run_handle_of_windows h hw
  refine ⟨_, _, hrun, rfl, ?_, ?_, ?_, ?_, ?_, ?_⟩
  · simp [summary, hkept, hcandidates]
  · simp [summary, htaken]
  · simp [summary, hattempts]
  · simp [summary, htaken]
  · simp only [Memory.importing, storing, hattempts, hcandidates, Store.Statements.putAll_nil,
      Store.Statements.insertMany]
  · simp only [Memory.importing, hattempts]

/-- An import of lines that all come with the content and the reference of some line that was
imported for the church and bank before, whatever happened since, brings nothing new and changes
nothing in the stores. -/
theorem handle_again {admits : Memory → Event → Prop} {outcome : Program.Outcome (Reply Summary)}
    (hlines : parsedLines setup m.files job = .ok lines)
    (hbank : ∀ l ∈ lines, l.bank.id = job.bank.id)
    (hrun : (handle setup job).run Memory.answer m = (outcome, m₁))
    (hhistory : History setup admits m₁ m₂) (hids : m.NewIds m₂.issued)
    (hchurch : job'.churchId = job.churchId) (hbank' : job'.bank.id = job.bank.id)
    (hlines' : parsedLines setup m₂.files job' = .ok lines')
    (hagain : ∀ l' ∈ lines', ∃ l ∈ lines, l.fitId = l'.fitId ∧ l.hash = l'.hash) :
    ∃ summary m₃, (handle setup job').run Memory.answer m₂ = (.returned (.ok summary), m₃) ∧
      summary.totalLines = lines'.length ∧ summary.duplicates = lines'.length ∧
      summary.inserted = 0 ∧ summary.matched = 0 ∧ summary.pending = 0 ∧
      m₃.statements = m₂.statements ∧ m₃.ledger = m₂.ledger := by
  have hsame : (m.importing job lines).SameStores m₁ := by
    have hstores := sameStores_importing hlines
    rw [hrun] at hstores
    exact hstores
  have hissued : m.issued + (m.keptLines job lines).length ≤ m₂.issued := by
    have hle := hhistory.issued_le
    rw [hsame.issued] at hle
    exact hle
  have hfirst : m.Grows m₁ :=
    (Grows.importing (hids.mono hissued)).trans (.of_sameStores hsame)
  have hlater : m₁.Grows m₂ := hhistory.grows (hfirst.newIds hids)
  -- each key is held after the first import, and no later event takes a key away
  refine handle_of_known hlines' ?_
  intro l' hl'
  obtain ⟨l, hl, hfit, hhash⟩ := hagain l' hl'
  obtain ⟨s, hs, hkey⟩ := ((Grows.of_sameStores hsame).trans hlater).exists_holdsKey
    (exists_holdsKey_importing hbank (hids.mono hissued) hl)
  refine ⟨s, hs, ?_⟩
  rw [Statement.HoldsKey, hchurch, hbank', ← hfit, ← hhash]
  exact hkey

end Service

namespace Sample

/-- A deployment whose files hold two lines, one of them twice. -/
def twice : ImportSetup := reading [line "a", line "b", line "b"]

/-- The same file once more, in another month and by somebody else. -/
def again : ImportJob := { job with month := 2, uploadedBy := "deacon" }

/-- The memory after a first import of the file; then after a retry, and after a link by hand. -/
def afterFirst : Memory := ((Service.handle twice job).run Memory.answer used).2

def afterRetry : Memory :=
  ((Service.Request.retry "church" "00000000-0000-0000-0000-000000000001").task twice |>.run
    Memory.answer afterFirst).2

def afterLink : Memory :=
  ((Service.Request.link "church" "00000000-0000-0000-0000-000000000000" "fr-1").task twice |>.run
    Memory.answer afterRetry).2

end Sample

namespace Service

theorem handle_again_after_link :
    ∃ summary m₃, (handle Sample.twice Sample.again).run Memory.answer Sample.afterLink =
      (.returned (.ok summary), m₃) ∧ summary.duplicates = 3 ∧ summary.inserted = 0 ∧
      m₃.statements = Sample.afterLink.statements ∧ m₃.ledger = Sample.afterLink.ledger := by
  have hlines : ∀ files job, parsedLines Sample.twice files job =
      .ok [Sample.line "a", Sample.line "b", Sample.line "b"] := fun _ _ => rfl
  have hhistory : History Sample.twice (fun _ _ => True) Sample.afterFirst Sample.afterLink :=
    .serve (.serve .start trivial) trivial
  obtain ⟨summary, m₃, hrun, -, hduplicates, hinserted, -, -, hstatements, hledger⟩ :=
    handle_again (hlines Sample.used.files Sample.job) (by decide +kernel) rfl hhistory
      (by decide +kernel) (show Sample.again.churchId = _ from rfl) rfl (hlines _ _)
      (fun l hl => ⟨l, hl, rfl, rfl⟩)
  exact ⟨summary, m₃, hrun, hduplicates, hinserted, hstatements, hledger⟩

end Service

end BankReconciliation
