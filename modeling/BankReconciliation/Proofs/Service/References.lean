import BankReconciliation.Proofs.Service.Delimited

/-! Imports of lines that all have references of their own. A reference does not make up for a
content that is known already: of such lines, those are stored whose content is new. -/

namespace BankReconciliation

namespace Store.Statements

/-- The lines of a file whose content no stored statement of the church and bank has, nor a line
before them in the file. -/
def newContents (stored : Statements) (churchId bankId : String) (lines : List Line) : List Line :=
  (lines.filter fun l => !stored.existsByHash churchId bankId l.hash).eraseDupsBy
    (·.hash == ·.hash)

variable {stored : Statements} {churchId bankId : String} {earlier lines : List Line} {l : Line}

/-- The references of some lines are references indeed, all different, and none is stored. -/
structure NewReferences (stored : Statements) (churchId bankId : String) (lines : List Line) :
    Prop where
  given : ∀ l ∈ lines, l.fitId ≠ ""
  distinct : (lines.map (·.fitId)).Nodup
  unknown : ∀ l ∈ lines, stored.existsByFitId churchId bankId l.fitId = false

instance (stored : Statements) (churchId bankId : String) (lines : List Line) :
    Decidable (stored.NewReferences churchId bankId lines) :=
  decidable_of_iff ((∀ l ∈ lines, l.fitId ≠ "") ∧ (lines.map (·.fitId)).Nodup ∧
      ∀ l ∈ lines, stored.existsByFitId churchId bankId l.fitId = false)
    ⟨fun ⟨hgiven, hdistinct, hunknown⟩ => ⟨hgiven, hdistinct, hunknown⟩,
      fun ⟨hgiven, hdistinct, hunknown⟩ => ⟨hgiven, hdistinct, hunknown⟩⟩

/-- A line whose reference is new is known by its content alone. -/
theorem knows_iff_of_new_reference (hgiven : l.fitId ≠ "")
    (hstored : stored.existsByFitId churchId bankId l.fitId = false)
    (hearlier : ∀ k ∈ earlier, k.fitId ≠ l.fitId) :
    stored.Knows churchId bankId earlier l ↔
      stored.existsByHash churchId bankId l.hash = true ∨ ∃ k ∈ earlier, k.hash = l.hash := by
  have hhash : stored.existsByHash churchId bankId l.hash = true ↔
      ∃ s ∈ stored, s.churchId = churchId ∧ s.bank.id = bankId ∧ s.hash = l.hash := by
    simp [existsByHash, and_assoc]
  have hfit : ¬ ∃ s ∈ stored, s.churchId = churchId ∧ s.bank.id = bankId ∧ s.fitId = l.fitId := by
    simpa [existsByFitId, hgiven] using hstored
  rw [hhash]
  constructor
  · rintro (⟨s, hs, hc, hb, hh | ⟨-, hf⟩⟩ | ⟨k, hk, hh | ⟨-, hf⟩⟩)
    · exact .inl ⟨s, hs, hc, hb, hh⟩
    · exact absurd ⟨s, hs, hc, hb, hf⟩ hfit
    · exact .inr ⟨k, hk, hh⟩
    · exact absurd hf (hearlier k hk)
  · rintro (⟨s, hs, hc, hb, hh⟩ | ⟨k, hk, hh⟩)
    · exact .inl ⟨s, hs, hc, hb, .inl hh⟩
    · exact .inr ⟨k, hk, .inl hh⟩

theorem keptLines_of_newReferences (h : stored.NewReferences churchId bankId lines)
    (hearlier : ∀ l ∈ lines, ∀ k ∈ earlier, k.fitId ≠ l.fitId) :
    stored.keptLines churchId bankId earlier lines =
      (lines.filter fun l => !stored.existsByHash churchId bankId l.hash &&
        !earlier.any (·.hash == l.hash)).eraseDupsBy (·.hash == ·.hash) := by
  induction lines generalizing earlier with
  | nil => rfl
  | cons l ls ih =>
    obtain ⟨hl, hdistinct⟩ := List.nodup_cons.mp h.distinct
    have hlater : stored.NewReferences churchId bankId ls :=
      ⟨fun k hk => h.given k (List.mem_cons_of_mem l hk), hdistinct,
        fun k hk => h.unknown k (List.mem_cons_of_mem l hk)⟩
    have hnext : ∀ k ∈ ls, ∀ k' ∈ earlier, k'.fitId ≠ k.fitId :=
      fun k hk => hearlier k (List.mem_cons_of_mem l hk)
    have hknows := knows_iff_of_new_reference (h.given l List.mem_cons_self)
      (h.unknown l List.mem_cons_self) (hearlier l List.mem_cons_self)
    rw [keptLines]
    by_cases hknown : stored.Knows churchId bankId earlier l
    · rw [if_pos hknown, ih hlater hnext, List.filter_cons_of_neg]
      simpa [imp_iff_not_or] using hknows.mp hknown
    · have hself : ∀ k ∈ ls, ∀ k' ∈ l :: earlier, k'.fitId ≠ k.fitId := by
        intro k hk
        exact List.forall_mem_cons.mpr
          ⟨fun he => hl (List.mem_map.mpr ⟨k, hk, he.symm⟩), hnext k hk⟩
      rw [if_neg hknown, ih hlater hself, List.filter_cons_of_pos, List.eraseDupsBy_cons,
        List.filter_filter]
      · -- a later line is compared with this one by the filter, or when repetitions are erased
        congr 2
        refine List.filter_congr fun k _ => ?_
        rw [List.any_cons, @Bool.beq_comm _ _ _ l.hash]
        cases k.hash == l.hash <;> simp
      · rw [hknows] at hknown
        simpa using hknown

theorem keptLines_eq_newContents (h : stored.NewReferences churchId bankId lines) :
    stored.keptLines churchId bankId [] lines = stored.newContents churchId bankId lines := by
  rw [keptLines_of_newReferences h (by simp), newContents]
  simp

theorem newContents_eq_self_iff (h : stored.NewReferences churchId bankId lines) :
    stored.newContents churchId bankId lines = lines ↔
      (lines.map (·.hash)).Nodup ∧
        ∀ l ∈ lines, stored.existsByHash churchId bankId l.hash = false := by
  constructor
  · intro hall
    rw [← keptLines_eq_newContents h] at hall
    have hpairwise := keptLines_pairwise stored churchId bankId [] lines
    rw [hall] at hpairwise
    refine ⟨List.pairwise_map.mpr (hpairwise.imp fun hkey he => hkey (.inl he)), ?_⟩
    intro l hl
    have hnew := not_knows_of_mem_keptLines (hall.symm ▸ hl)
    rw [knows_iff_of_new_reference (h.given l hl) (h.unknown l hl) (by simp)] at hnew
    exact Bool.eq_false_iff.mpr fun hhash => hnew (.inl hhash)
  · rintro ⟨hdistinct, hstored⟩
    have hfilter : lines.filter (fun l => !stored.existsByHash churchId bankId l.hash) = lines :=
      List.filter_eq_self.mpr fun l hl => by rw [hstored l hl]; rfl
    rw [newContents, hfilter]
    clear hstored hfilter h
    induction lines with
    | nil => rfl
    | cons l ls ih =>
      obtain ⟨hl, hls⟩ := List.nodup_cons.mp hdistinct
      have hothers : ls.filter (fun k => decide ((k.hash == l.hash) = false)) = ls := by
        refine List.filter_eq_self.mpr fun k hk => ?_
        have hne : k.hash ≠ l.hash := fun he => hl (List.mem_map.mpr ⟨k, hk, he⟩)
        simpa using hne
      rw [List.eraseDupsBy_cons, hothers, ih hls]

end Store.Statements

namespace Memory

def newContents (m : Memory) (job : ImportJob) (lines : List Line) : List Line :=
  m.statements.newContents job.churchId job.bank.id lines

theorem duplicates_summary {m : Memory} {job : ImportJob} {lines : List Line}
    (hbank : ∀ l ∈ lines, l.bank.id = job.bank.id)
    (hids : m.NewIds (m.issued + (m.keptLines job lines).length)) :
    (m.summary job lines).duplicates = lines.length - (m.keptLines job lines).length := by
  have hdistinct : ((m.candidates job lines).map (·.id)).eraseDups =
      (m.candidates job lines).map (·.id) := Service.eraseDups_of_nodup (ids_newStatements hids)
  rw [summary, insertMany_candidates_of_bank hbank, hdistinct, List.length_map, Nat.sub_self,
    Nat.add_zero]

end Memory

namespace Service

open Memory

variable {m : Memory} {setup : ImportSetup} {job : ImportJob} {lines : List Line}

/-- An import of lines with new references of their own stores exactly those whose content is new,
and counts the others as duplicates. It stores all of them exactly if no two have the same content
and none of it is stored. -/
theorem handle_appends_newContents (h : parsedLines setup m.files job = .ok lines)
    (hbank : ∀ l ∈ lines, l.bank.id = job.bank.id)
    (hrefs : m.statements.NewReferences job.churchId job.bank.id lines)
    (hids : m.NewIds (m.issued + lines.length)) :
    ∃ outcome m', (handle setup job).run Memory.answer m = (outcome, m') ∧
      m'.statements.map Statement.entry = m.statements.map Statement.entry ++
        m.newStatements job.churchId (m.newContents job lines) ∧
      ((∀ l ∈ m.newContents job lines, Matching.HasWindow l.postedAt.date) →
        ∃ summary, outcome = .returned (.ok summary) ∧
          summary.inserted = (m.newContents job lines).length ∧
          summary.duplicates = lines.length - (m.newContents job lines).length) ∧
      (m.newContents job lines = lines ↔ (lines.map (·.hash)).Nodup ∧
        ∀ l ∈ lines, m.statements.existsByHash job.churchId job.bank.id l.hash = false) := by
  have hkept : m.keptLines job lines = m.newContents job lines :=
    Store.Statements.keptLines_eq_newContents hrefs
  have hsub : List.Sublist (m.keptLines job lines) lines :=
    Store.Statements.keptLines_sublist _ _ _ _ _
  have hnew : m.NewIds (m.issued + (m.keptLines job lines).length) :=
    hids.mono (Nat.add_le_add_left hsub.length_le _)
  have hentries := entries_importing hnew
  rw [taken_of_bank hbank] at hentries
  rw [← hkept]
  refine ⟨_, _, rfl, ?_, ?_, ?_⟩
  · by_cases hw : m.HasWindows job lines
    · obtain ⟨channel, metrics, hrun⟩ := run_handle_of_windows h hw
      rw [hrun]
      exact hentries
    · obtain ⟨metrics, hrun⟩ := run_handle_of_no_windows h hw
      rw [hrun]
      exact hentries
  · intro hwindow
    obtain ⟨channel, metrics, hrun⟩ :=
      run_handle_of_windows h ((hasWindows_iff_of_bank hbank).mpr hwindow)
    refine ⟨m.summary job lines, congrArg Prod.fst hrun, ?_, duplicates_summary hbank hnew⟩
    rw [summary, taken_of_bank hbank, candidates, length_newStatements]
  · rw [hkept]
    exact Store.Statements.newContents_eq_self_iff hrefs

end Service

namespace Sample

/-- A line with a reference of its own. -/
def referenced (reference content : String) : Line := { line content with fitId := reference }

/-- Two payments of one day that differ in their references only. -/
def twins : Text.Bytes :=
  Text.encodeUtf8 ("Data,Historico,Numero do documento,Valor\n" ++
    "15/01/2025,PIX,1,50\n15/01/2025,PIX,2,50\n").toList

def paired : Memory := { memory with files := [(["statements.csv"], .file twins)] }

theorem find_paired : paired.files.find "statements.csv" = .ok (.file twins) := by
  refine Files.find_eq_ok_iff.mpr ⟨["statements.csv"], ?_, rfl⟩
  rw [Files.resolve, Files.refusal?_eq_none_iff.mpr (by decide)]
  rfl

end Sample

namespace Service

/-- The content of the first line is stored already, and that of the second one comes again. -/
theorem handle_appends_newContents_repeats :
    ∃ summary m', (handle (Sample.reading [Sample.referenced "1" "a", Sample.referenced "2" "b",
        Sample.referenced "3" "c", Sample.referenced "4" "b"]) Sample.job).run
        Memory.answer Sample.used = (.returned (.ok summary), m') ∧
      m'.statements.map (·.fitId) = ["", "2", "3"] ∧ summary.duplicates = 2 := by
  obtain ⟨_, m', hrun, hentries, hends, -⟩ := handle_appends_newContents (m := Sample.used)
    (show parsedLines (Sample.reading [Sample.referenced "1" "a", Sample.referenced "2" "b",
        Sample.referenced "3" "c", Sample.referenced "4" "b"]) [] Sample.job = .ok _ from rfl)
    (by decide +kernel)
    ⟨by decide +kernel, by decide +kernel, by decide +kernel⟩ (by decide +kernel)
  obtain ⟨summary, rfl, -, hduplicates⟩ := hends (by decide +kernel)
  refine ⟨summary, m', hrun, ?_, hduplicates.trans (by decide +kernel)⟩
  have hfit := congrArg (List.map Statement.fitId) hentries
  rw [List.map_map] at hfit
  exact hfit.trans (by decide +kernel)

/-- Two payments of one day, with the same amount, the same description and a reference each: the
second one is not stored. -/
theorem not_inserted_of_same_content :
    ¬ ∀ (setup : ImportSetup) (m : Memory) (job : ImportJob) (lines : List Line),
      parsedLines setup m.files job = .ok lines → (∀ l ∈ lines, l.bank.id = job.bank.id) →
      m.statements.NewReferences job.churchId job.bank.id lines →
      ∃ summary m', (handle setup job).run Memory.answer m = (.returned (.ok summary), m') ∧
        summary.inserted = lines.length ∧ summary.duplicates = 0 := by
  intro h
  have hread : (Export.lines .bancoDoBrasil Sample.upload.batch Sample.twins).map (fun lines =>
      (decide (Sample.paired.statements.NewReferences "church" "bb" lines), lines.length,
        (Sample.paired.keptLines Sample.upload lines).length)) = .ok (true, 2, 1) := by
    decide +kernel
  obtain ⟨lines, hlines, hvalue⟩ := Except.map_eq_ok_iff.mp hread
  obtain ⟨hrefs, hrest⟩ := Prod.mk.inj hvalue
  obtain ⟨hlength, hkept⟩ := Prod.mk.inj hrest
  have hparsed : parsedLines Sample.production Sample.paired.files Sample.upload = .ok lines :=
    (parsedLines_eq_ok_iff rfl).mpr ⟨_, Sample.find_paired, hlines⟩
  have hbank : ∀ l ∈ lines, l.bank.id = Sample.upload.bank.id :=
    fun l hl => congrArg BankSnapshot.id (Export.bank_of_mem_lines hlines hl)
  obtain ⟨summary, m', hrun, hinserted, -⟩ :=
    h Sample.production Sample.paired Sample.upload lines hparsed hbank (of_decide_eq_true hrefs)
  have htaken : (Sample.paired.taken Sample.upload lines).length ≤ 1 := by
    have hle := List.length_filter_le (fun s => (Sample.paired.statements.insertMany
      (Sample.paired.candidates Sample.upload lines)).1.contains s.id)
      (Sample.paired.candidates Sample.upload lines)
    rwa [Memory.candidates, Memory.length_newStatements, hkept] at hle
  by_cases hw : Sample.paired.HasWindows Sample.upload lines
  · obtain ⟨channel, metrics, hend⟩ := run_handle_of_windows hparsed hw
    obtain ⟨hsummary, -⟩ := Prod.mk.inj (hrun.symm.trans hend)
    cases hsummary
    have htwo : (Sample.paired.taken Sample.upload lines).length = 2 := hinserted.trans hlength
    omega
  · obtain ⟨metrics, hend⟩ := run_handle_of_no_windows hparsed hw
    exact nomatch (Prod.mk.inj (hrun.symm.trans hend)).1

end Service

end BankReconciliation
