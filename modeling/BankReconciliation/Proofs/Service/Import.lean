import BankReconciliation.Proofs.Files
import BankReconciliation.Proofs.Service.Attempts
import BankReconciliation.Proofs.Service.NewLines

/-! An import from its start to its end when nothing else happens meanwhile: the kept lines are
stored in their order, and matched up to the first one whose day has no window. -/

namespace BankReconciliation

namespace Statement

/-- A new statement repeats another one exactly if its line does. -/
theorem sharesKey_ofLine {s : Statement} {id : Uuid} {churchId : String} {now : Instant}
    {l : Line} : s.SharesKey (ofLine id churchId now l) ↔ s.HoldsKey churchId l.bank.id l := by
  simp only [SharesKey, HoldsKey, ofLine]
  constructor
  · rintro ⟨hc, hb, hh | ⟨hne, hf⟩⟩
    · exact ⟨hc, hb, .inl hh⟩
    · exact ⟨hc, hb, .inr ⟨hf ▸ hne, hf⟩⟩
  · rintro ⟨hc, hb, hh | ⟨hne, hf⟩⟩
    · exact ⟨hc, hb, .inl hh⟩
    · exact ⟨hc, hb, .inr ⟨hf ▸ hne, hf⟩⟩

end Statement

namespace Memory

/-- The identifiers that are given out next, up to a number, are new: no stored statement has one of
them, and they differ from one another. -/
def NewIds (m : Memory) (issued : Nat) : Prop :=
  ∀ n < issued, m.issued ≤ n →
    (∀ s ∈ m.statements, s.id ≠ m.supply n) ∧ ∀ k < n, m.issued ≤ k → m.supply k ≠ m.supply n

instance (m : Memory) (issued : Nat) : Decidable (m.NewIds issued) := by
  unfold NewIds; infer_instance

theorem NewIds.mono {m : Memory} {n issued : Nat} (h : m.NewIds issued) (hn : n ≤ issued) :
    m.NewIds n :=
  fun k hk => h k (Nat.lt_of_lt_of_le hk hn)

/-- New statements for lines, with the identifiers that are given out next. -/
def newStatements (m : Memory) (churchId : String) (lines : List Line) : List Statement :=
  lines.mapIdx fun i l => .ofLine (m.supply (m.issued + i)) churchId m.clock l

variable {m : Memory} {churchId : String} {lines : List Line} {s : Statement} {job : ImportJob}

@[simp] theorem length_newStatements :
    (m.newStatements churchId lines).length = lines.length :=
  List.length_mapIdx

theorem newStatements_cons (m : Memory) (churchId : String) (l : Line) (ls : List Line) :
    m.newStatements churchId (l :: ls) =
      .ofLine (m.supply m.issued) churchId m.clock l ::
        newStatements { m with issued := m.issued + 1 } churchId ls := by
  simp only [newStatements, List.mapIdx_cons, Nat.add_zero, Nat.add_left_comm, Nat.add_comm]

theorem mem_newStatements_iff : s ∈ m.newStatements churchId lines ↔
    ∃ i, ∃ h : i < lines.length,
      .ofLine (m.supply (m.issued + i)) churchId m.clock lines[i] = s :=
  List.mem_mapIdx

theorem entry_of_mem_newStatements (hs : s ∈ m.newStatements churchId lines) : s.entry = s := by
  obtain ⟨i, hi, rfl⟩ := mem_newStatements_iff.mp hs
  rfl

theorem ids_newStatements (hids : m.NewIds (m.issued + lines.length)) :
    ((m.newStatements churchId lines).map (·.id)).Nodup := by
  refine List.pairwise_map.mpr (List.pairwise_iff_getElem.mpr ?_)
  intro i j hi hj hij
  rw [length_newStatements] at hi hj
  simp only [newStatements, List.getElem_mapIdx]
  exact (hids (m.issued + j) (by omega) (by omega)).2 (m.issued + i) (by omega) (by omega)

theorem not_mem_names_newStatements (hids : m.NewIds (m.issued + lines.length))
    (hs : s ∈ m.statements) : s.name ∉ (m.newStatements churchId lines).map Statement.name := by
  intro hname
  obtain ⟨t, ht, hts⟩ := List.mem_map.mp hname
  obtain ⟨i, hi, rfl⟩ := mem_newStatements_iff.mp ht
  exact (hids (m.issued + i) (by omega) (by omega)).1 s hs (congrArg Prod.snd hts).symm

theorem keysDistinct_newStatements (h : lines.Pairwise fun a b => ¬ a.SharesKey b) :
    Store.Statements.KeysDistinct (m.newStatements churchId lines) := by
  refine List.pairwise_iff_getElem.mpr ?_
  intro i j hi hj hij hkey
  rw [length_newStatements] at hi hj
  simp only [newStatements, List.getElem_mapIdx, Statement.sharesKey_ofLine] at hkey
  exact List.pairwise_iff_getElem.mp h i j hi hj hij hkey.2.2

def keptLines (m : Memory) (job : ImportJob) (lines : List Line) : List Line :=
  m.statements.keptLines job.churchId job.bank.id [] lines

/-- The new statements for the kept lines. -/
def candidates (m : Memory) (job : ImportJob) (lines : List Line) : List Statement :=
  m.newStatements job.churchId (m.keptLines job lines)

/-- The statements that an import reconciles. -/
def taken (m : Memory) (job : ImportJob) (lines : List Line) : List Statement :=
  m.statements.taken (m.candidates job lines)

/-- The memory when an import has stored its statements and reconciled none of them. -/
def storing (m : Memory) (job : ImportJob) (lines : List Line) : Memory :=
  { m with
    statements := (m.statements.insertMany (m.candidates job lines)).2
    issued := m.issued + (m.keptLines job lines).length }

/-- What the attempts of an import come to. -/
def attempts (m : Memory) (job : ImportJob) (lines : List Line) :
    List Statement × Store.Ledger :=
  Service.attemptAll m.clock m.ledger (m.taken job lines)

/-- The memory when the attempts are made too. -/
def importing (m : Memory) (job : ImportJob) (lines : List Line) : Memory :=
  { m.storing job lines with
    statements := (m.storing job lines).statements.putAll (m.attempts job lines).1
    ledger := (m.attempts job lines).2 }

/-- The days of all statements that an import reconciles have windows. -/
def HasWindows (m : Memory) (job : ImportJob) (lines : List Line) : Prop :=
  ∀ s ∈ m.taken job lines, Matching.HasWindow s.postedAt.date

instance (m : Memory) (job : ImportJob) (lines : List Line) :
    Decidable (m.HasWindows job lines) := by
  unfold HasWindows; infer_instance

/-- What an import reports of lines. -/
def summary (m : Memory) (job : ImportJob) (lines : List Line) : Summary where
  churchId := job.churchId
  bank := job.bank.snapshot
  account := job.account.snapshot
  month := job.month
  year := job.year
  uploadedBy := job.uploadedBy
  totalLines := lines.length
  inserted := (m.taken job lines).length
  duplicates := lines.length - (m.keptLines job lines).length +
    ((m.candidates job lines).length -
      (m.statements.insertMany (m.candidates job lines)).1.eraseDups.length)
  matched := (m.attempts job lines).1.countP (·.status = .reconciled)
  pending := (m.taken job lines).length -
    (m.attempts job lines).1.countP (·.status = .reconciled)

theorem mem_names_of_mem_taken (hs : s ∈ m.taken job lines) :
    s.name ∈ (m.storing job lines).statements.map Statement.name := by
  obtain ⟨hs, hid⟩ := List.mem_filter.mp hs
  obtain ⟨added, hsub, hinsert⟩ :=
    Store.Statements.exists_added m.statements (m.candidates job lines)
  rw [hinsert] at hid
  rw [storing, hinsert]
  obtain ⟨t, ht, hts⟩ := List.mem_map.mp (List.contains_iff_mem.mp hid)
  obtain ⟨i, hi, rfl⟩ := mem_newStatements_iff.mp hs
  obtain ⟨j, hj, rfl⟩ := mem_newStatements_iff.mp (hsub.subset ht)
  exact List.mem_map.mpr ⟨_, List.mem_append_right _ ht, congrArg (Prod.mk job.churchId) hts⟩

theorem mem_lines_of_mem_taken (hs : s ∈ m.taken job lines) :
    ∃ l ∈ lines, ∃ id, .ofLine id job.churchId m.clock l = s := by
  obtain ⟨i, hi, rfl⟩ := mem_newStatements_iff.mp (List.mem_of_mem_filter hs)
  exact ⟨_, Store.Statements.mem_of_mem_keptLines (List.getElem_mem hi), _, rfl⟩

theorem hasWindows_of_lines (h : ∀ l ∈ lines, Matching.HasWindow l.postedAt.date) :
    m.HasWindows job lines := by
  intro s hs
  obtain ⟨l, hl, id, rfl⟩ := mem_lines_of_mem_taken hs
  exact h l hl

section

variable (hids : m.NewIds (m.issued + (m.keptLines job lines).length))

include hids

theorem insertMany_candidates :
    m.statements.insertMany (m.candidates job lines) =
      ((m.taken job lines).map (·.id), m.statements ++ m.taken job lines) :=
  Store.Statements.insertMany_eq_taken (ids_newStatements hids)

theorem statements_importing :
    (m.importing job lines).statements =
      m.statements ++ (m.attempts job lines).1 ++
        (m.taken job lines).drop (m.attempts job lines).1.length := by
  have hstored : (m.storing job lines).statements =
      m.statements ++ (m.taken job lines).take (m.attempts job lines).1.length ++
        (m.taken job lines).drop (m.attempts job lines).1.length := by
    rw [storing, insertMany_candidates hids, List.append_assoc, List.take_append_drop]
  have hnames : (m.attempts job lines).1.map Statement.name =
      ((m.taken job lines).take (m.attempts job lines).1.length).map Statement.name :=
    Service.map_attemptAll Statement.name (fun _ _ _ _ => Service.name_of_attempt) _ _
  have hsub : List.Sublist ((m.taken job lines).take (m.attempts job lines).1.length)
      (m.candidates job lines) := (List.take_sublist _ _).trans List.filter_sublist
  rw [importing, hstored, Store.Statements.putAll_append hnames]
  · refine List.Nodup.of_map Prod.snd ?_
    rw [List.map_map]
    exact (ids_newStatements hids).sublist (hsub.map _)
  · exact fun s hs hname => not_mem_names_newStatements hids hs ((hsub.map _).subset hname)

theorem entries_importing :
    (m.importing job lines).statements.map Statement.entry =
      m.statements.map Statement.entry ++ m.taken job lines := by
  have hattempts : (m.attempts job lines).1.map Statement.entry =
      ((m.taken job lines).take (m.attempts job lines).1.length).map Statement.entry :=
    Service.map_attemptAll Statement.entry (fun _ _ _ _ => Service.entry_of_attempt) _ _
  have htaken : (m.taken job lines).map Statement.entry = m.taken job lines := by
    refine (List.map_congr_left fun s hs => ?_).trans (List.map_id _)
    exact entry_of_mem_newStatements (List.mem_of_mem_filter hs)
  rw [statements_importing hids, List.append_assoc, List.map_append, List.map_append, hattempts,
    ← List.map_append, List.take_append_drop, htaken]

end

section

variable (hbank : ∀ l ∈ lines, l.bank.id = job.bank.id)

include hbank

theorem not_sharesKey_candidates :
    ∀ c ∈ m.candidates job lines, ∀ s ∈ m.statements, ¬ s.SharesKey c := by
  intro c hc s hs hkey
  obtain ⟨i, hi, rfl⟩ := mem_newStatements_iff.mp hc
  have hkept : (m.keptLines job lines)[i] ∈ m.keptLines job lines := List.getElem_mem hi
  rw [Statement.sharesKey_ofLine,
    hbank _ (Store.Statements.mem_of_mem_keptLines hkept)] at hkey
  exact Store.Statements.not_knows_of_mem_keptLines hkept (.inl ⟨s, hs, hkey⟩)

theorem insertMany_candidates_of_bank :
    m.statements.insertMany (m.candidates job lines) =
      ((m.candidates job lines).map (·.id), m.statements ++ m.candidates job lines) :=
  Store.Statements.insertMany_of_keysDistinct (not_sharesKey_candidates hbank)
    (keysDistinct_newStatements (Store.Statements.keptLines_pairwise _ _ _ _ _))

theorem taken_of_bank : m.taken job lines = m.candidates job lines :=
  Store.Statements.taken_of_keysDistinct (not_sharesKey_candidates hbank)
    (keysDistinct_newStatements (Store.Statements.keptLines_pairwise _ _ _ _ _))

theorem hasWindows_iff_of_bank : m.HasWindows job lines ↔
    ∀ l ∈ m.keptLines job lines, Matching.HasWindow l.postedAt.date := by
  rw [HasWindows, taken_of_bank hbank]
  constructor
  · intro h l hl
    obtain ⟨i, hi, rfl⟩ := List.getElem_of_mem hl
    exact h _ (mem_newStatements_iff.mpr ⟨i, hi, rfl⟩)
  · intro h s hs
    obtain ⟨i, hi, rfl⟩ := mem_newStatements_iff.mp hs
    exact h _ (List.getElem_mem hi)

end

end Memory

namespace Service

open Memory

variable {m : Memory} {setup : ImportSetup} {job : ImportJob} {lines : List Line}

/-- The lines of a job's file, as they are read when the import starts. -/
def parsedLines (setup : ImportSetup) (files : Files) (job : ImportJob) : Reply (List Line) := do
  let parser ← (setup.registry.resolve job.bank.name).mapError ServiceError.ofExport
  (parser.parse job.batch job.location (files.find job.location)).mapError ServiceError.ofExport

theorem run_readLines (setup : ImportSetup) (job : ImportJob) (m : Memory) :
    Program.run Memory.answer (readLines setup job).run m =
      (.returned (parsedLines setup m.files job), m) := by
  unfold readLines parsedLines
  cases setup.registry.resolve job.bank.name with
  | error e => rfl
  | ok parser =>
    have hopen : Program.run Memory.answer (Task.openFile job.location) m =
        (.returned (m.files.find job.location), m) := rfl
    simp only [Program.run_bindLift_of_returned hopen]
    cases hparse : parser.parse job.batch job.location (m.files.find job.location) <;>
      simp [Except.mapError, hparse, bind, Except.bind]

theorem run_makeStatements (m : Memory) (churchId : String) (lines : List Line) :
    (makeStatements churchId m.clock lines).run Memory.answer m =
      (.returned (m.newStatements churchId lines),
        { m with issued := m.issued + lines.length }) := by
  induction lines generalizing m with
  | nil => rfl
  | cons l ls ih =>
    have hid : Task.newId.run Memory.answer m =
      (.returned (m.supply m.issued), { m with issued := m.issued + 1 }) := rfl
    rw [makeStatements, Program.run_bind_of_returned hid,
      Program.run_bind_of_returned (ih { m with issued := m.issued + 1 }), newStatements_cons,
      List.length_cons, Nat.add_comm ls.length, ← Nat.add_assoc]
    rfl

theorem run_insertMany (m : Memory) (candidates : List Statement) :
    Program.run Memory.answer (Task.insertMany candidates).run m =
      (.returned (.ok (m.statements.insertMany candidates).1),
        { m with statements := (m.statements.insertMany candidates).2 }) := rfl

theorem run_count (m : Memory) (event : MetricEvent) :
    (Task.count event).run Memory.answer m =
      (.returned (), { m with metrics := m.metrics ++ [event] }) := rfl

/-- An import breaks off exactly if a statement that it reconciles has no window. -/
theorem run_storeLines (m : Memory) (job : ImportJob) (lines : List Line) :
    ∃ metrics, Program.run Memory.answer (storeLines job lines).run m =
      (if m.HasWindows job lines then .returned (.ok (m.summary job lines)) else .aborted,
        { m.importing job lines with metrics }) := by
  have hkept := run_newLines m job.churchId job.bank.id [] lines
  have hattempts : ∀ metrics, ∃ metrics',
      (reconcileAll (m.taken job lines)).run Memory.answer { m.storing job lines with metrics } =
        (if m.HasWindows job lines then .returned (m.summary job lines).matched else .aborted,
          { m.importing job lines with metrics := metrics' }) := fun metrics =>
    run_reconcileAll { m.storing job lines with metrics } (m.taken job lines)
      fun _ => mem_names_of_mem_taken
  rw [Seen.of_nil] at hkept
  unfold storeLines
  rw [Program.run_bindLift_of_returned (run_now m), Program.run_bindReply_of_ok hkept,
    Program.run_bindLift_of_returned (run_makeStatements m job.churchId _),
    Program.run_bindReply_of_ok (run_insertMany _ _),
    Program.run_bindLift_of_returned (run_count _ _),
    Program.run_bindLift_of_returned (run_count _ _)]
  by_cases hw : m.HasWindows job lines
  · simp only [if_pos hw] at hattempts ⊢
    obtain ⟨metrics, hrun⟩ := hattempts _
    exact ⟨metrics, Program.run_bindLift_of_returned hrun _⟩
  · simp only [if_neg hw] at hattempts ⊢
    obtain ⟨metrics, hrun⟩ := hattempts _
    exact ⟨metrics, Program.run_bindLift_of_aborted hrun _⟩

theorem run_discard (location : String) (m : Memory) :
    (discard location).run Memory.answer m =
      (.returned (), { m with files := m.files.discarding location }) := by
  have hremove : ∃ reply, (Task.removeFile location).run Memory.answer m =
      (.returned reply, { m with files := (m.files.remove location).toOption.getD m.files }) := by
    refine ⟨(Memory.answer (.removeFile location) m).1, ?_⟩
    have hanswer : (Memory.answer (.removeFile location) m).2 =
        { m with files := (m.files.remove location).toOption.getD m.files } := by
      cases hf : m.files.remove location <;> simp only [Memory.answer, hf] <;> rfl
    exact congrArg _ hanswer
  unfold discard Files.discarding
  split
  · rfl
  · obtain ⟨reply, hremove⟩ := hremove
    exact Program.run_bind_of_returned hremove _

theorem run_report (topic : String) (summary : Summary) (m : Memory) :
    ∃ channel metrics, (report topic summary).run Memory.answer m =
      (.returned (), { m with channel, metrics }) := by
  have hnotify : Program.run Memory.answer (Task.notify topic summary.toJson).run m =
      (.returned (m.channel.send ⟨topic, summary.toJson⟩).1,
        { m with channel := (m.channel.send ⟨topic, summary.toJson⟩).2 }) := rfl
  rw [report, Program.run_bind_of_returned hnotify]
  cases (m.channel.send ⟨topic, summary.toJson⟩).1 with
  | ok _ => exact ⟨_, _, rfl⟩
  | error _ => exact ⟨_, _, rfl⟩

theorem run_handle_of_error {e : ServiceError} (h : parsedLines setup m.files job = .error e) :
    ∃ metrics, (handle setup job).run Memory.answer m = (.returned (.error e),
      { m with files := m.files.discarding job.location, metrics }) := by
  have hread := run_readLines setup job m
  rw [h] at hread
  have himport : Program.run Memory.answer (importFile setup job).run m =
      (.returned (.error e), m) := Program.run_bindReply_of_error hread _
  rw [handle, Program.run_bind_of_returned himport, Program.run_bind_of_returned (run_discard _ m)]
  exact ⟨_, rfl⟩

section

variable (h : parsedLines setup m.files job = .ok lines)

include h

theorem run_importFile : ∃ metrics, Program.run Memory.answer (importFile setup job).run m =
    (if m.HasWindows job lines then .returned (.ok (m.summary job lines)) else .aborted,
      { m.importing job lines with metrics }) := by
  have hread := run_readLines setup job m
  rw [h] at hread
  obtain ⟨metrics, hstore⟩ := run_storeLines m job lines
  exact ⟨metrics, (Program.run_bindReply_of_ok hread _).trans hstore⟩

theorem run_handle_of_windows (hw : m.HasWindows job lines) :
    ∃ channel metrics, (handle setup job).run Memory.answer m =
      (.returned (.ok (m.summary job lines)),
        { m.importing job lines with
          files := m.files.discarding job.location
          channel
          metrics }) := by
  obtain ⟨metrics, himport⟩ := run_importFile h
  rw [if_pos hw] at himport
  rw [handle, Program.run_bind_of_returned himport,
    Program.run_bind_of_returned (run_discard job.location _),
    Program.run_bind_of_returned (run_count _ (.imported "success"))]
  obtain ⟨channel, metrics, hreport⟩ := run_report setup.summaryTopic (m.summary job lines) _
  exact ⟨channel, metrics, Program.run_bind_of_returned hreport _⟩

theorem run_handle_of_no_windows (hw : ¬ m.HasWindows job lines) :
    ∃ metrics, (handle setup job).run Memory.answer m =
      (.aborted, { m.importing job lines with metrics }) := by
  obtain ⟨metrics, himport⟩ := run_importFile h
  rw [if_neg hw] at himport
  exact ⟨metrics, Program.run_bind_of_aborted himport _⟩

end

theorem eraseDups_of_nodup {ids : List Uuid} (h : ids.Nodup) : ids.eraseDups = ids := by
  induction ids with
  | nil => rfl
  | cons id ids ih =>
    obtain ⟨hid, hids⟩ := List.nodup_cons.mp h
    have hall : ids.filter (fun other => !other == id) = ids := by
      refine List.filter_eq_self.mpr fun other hother => ?_
      have hne : other ≠ id := fun he => hid (he ▸ hother)
      simpa using hne
    rw [List.eraseDups_cons, hall, ih hids]

/-- An import appends to the store exactly the lines that the rule keeps, in file order, and leaves
each of them reconciled or unmatched. The store refuses nothing that it is given. -/
theorem handle_appends_keptLines (h : parsedLines setup m.files job = .ok lines)
    (hbank : ∀ l ∈ lines, l.bank.id = job.bank.id)
    (hwindow : ∀ l ∈ lines, Matching.HasWindow l.postedAt.date)
    (hids : m.NewIds (m.issued + (m.keptLines job lines).length)) :
    ∃ summary m' appended,
      (handle setup job).run Memory.answer m = (.returned (.ok summary), m') ∧
      m'.statements = m.statements ++ appended ∧
      appended.map Statement.entry = m.newStatements job.churchId (m.keptLines job lines) ∧
      m.statements.insertMany (m.candidates job lines) =
        ((m.candidates job lines).map (·.id), m.statements ++ m.candidates job lines) ∧
      summary.duplicates = lines.length - (m.keptLines job lines).length ∧
      (∀ s ∈ appended, s.status = .reconciled ∨ s.status = .unmatched) ∧
      summary.matched = appended.countP (·.status = .reconciled) := by
  have hw : m.HasWindows job lines := hasWindows_of_lines hwindow
  have hinsert := insertMany_candidates_of_bank (m := m) hbank
  have hlength : (m.attempts job lines).1.length = (m.taken job lines).length :=
    length_attemptAll hw
  have hstatements : (m.importing job lines).statements =
      m.statements ++ (m.attempts job lines).1 := by
    rw [statements_importing hids, hlength, List.drop_length, List.append_nil]
  obtain ⟨channel, metrics, hrun⟩ := run_handle_of_windows h hw
  refine ⟨m.summary job lines, _, (m.attempts job lines).1, hrun, ?_, ?_, hinsert, ?_, ?_, rfl⟩
  · exact hstatements
  · have hentries := entries_importing hids
    rw [hstatements, List.map_append, taken_of_bank hbank] at hentries
    exact List.append_cancel_left hentries
  · have hdistinct : ((m.candidates job lines).map (·.id)).eraseDups =
        (m.candidates job lines).map (·.id) := eraseDups_of_nodup (ids_newStatements hids)
    rw [summary, hinsert, hdistinct, List.length_map, Nat.sub_self, Nat.add_zero]
  · exact fun s hs => status_of_mem_attemptAll hs

end Service

namespace Sample

/-- A deployment whose parser finds the same lines in every file. -/
def reading (lines : List Line) : ImportSetup where
  registry := ⟨[⟨"sample", [], fun _ => true, fun _ _ _ => .ok lines⟩], []⟩
  summaryTopic := "imports"

def job : ImportJob where
  churchId := "church"
  bank := ⟨"bb", "church", "Banco do Brasil", "bb", some "account"⟩
  account := ⟨"account", "church", "Main account"⟩
  month := 1
  year := 2025
  location := "https://statements"
  uploadedBy := "treasurer"
  queuedAt := .midnight day

/-- The memory in which one statement is stored already. -/
def used : Memory := { memory with statements := [statement], issued := 1 }

end Sample

namespace Service

/-- One line of the file is stored already, and another one occurs twice in it. -/
theorem handle_appends_keptLines_repeats :
    ∃ summary m' appended,
      (handle (Sample.reading [Sample.line "a", Sample.line "b", Sample.line "c", Sample.line "b"])
        Sample.job).run Memory.answer Sample.used = (.returned (.ok summary), m') ∧
      m'.statements = [Sample.statement] ++ appended ∧
      appended.map (·.hash) = ["b", "c"] ∧ summary.duplicates = 2 := by
  obtain ⟨summary, m', appended, hrun, hstored, hentries, -, hduplicates, -⟩ :=
    handle_appends_keptLines (m := Sample.used)
      (show parsedLines (Sample.reading [Sample.line "a", Sample.line "b", Sample.line "c",
        Sample.line "b"]) [] Sample.job = .ok _ from rfl)
      (by decide +kernel) (by decide +kernel) (by decide +kernel)
  refine ⟨summary, m', appended, hrun, hstored, ?_, hduplicates.trans (by decide +kernel)⟩
  have hhash := congrArg (List.map Statement.hash) hentries
  rw [List.map_map] at hhash
  exact hhash.trans (by decide +kernel)

end Service

end BankReconciliation
