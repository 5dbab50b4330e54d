import BankReconciliation.Proofs.Export
import BankReconciliation.Proofs.Service.Import

/-! Imports of delimited files, such as those of Banco do Brasil. The dates that are read reach to
both ends of the calendar, and an import breaks off at a line so near to one of them that its day
has no window. -/

namespace BankReconciliation

namespace Service

open Memory

variable {setup : ImportSetup} {m m' : Memory} {d : Dialect} {job : ImportJob}
  {lines : List Line} {outcome : Program.Outcome (Reply Summary)}

theorem parsedLines_eq_ok_iff
    (hparser : setup.registry.resolve job.bank.name = .ok (.delimited d)) :
    parsedLines setup m.files job = .ok lines ↔
      ∃ content, m.files.find job.location = .ok (.file content) ∧
        Export.lines d job.batch content = .ok lines := by
  have hparsed : parsedLines setup m.files job =
      ((Parser.delimited d).parse job.batch job.location
        (m.files.find job.location)).mapError ServiceError.ofExport := by
    rw [parsedLines, hparser]
    rfl
  rw [hparsed, ← Parser.parse_delimited_eq_ok_iff]
  cases (Parser.delimited d).parse job.batch job.location (m.files.find job.location) <;>
    simp [Except.mapError]

theorem hasWindows_iff_of_delimited
    (hparser : setup.registry.resolve job.bank.name = .ok (.delimited d))
    (h : parsedLines setup m.files job = .ok lines) :
    m.HasWindows job lines ↔ ∀ l ∈ m.keptLines job lines, Matching.HasWindow l.postedAt.date := by
  obtain ⟨content, -, hlines⟩ := (parsedLines_eq_ok_iff hparser).mp h
  refine hasWindows_iff_of_bank fun l hl => ?_
  rw [Export.bank_of_mem_lines hlines hl]
  rfl

/-- The job's file can be read, and a line of it that is new lies on a day without a window. -/
def BreaksOff (m : Memory) (d : Dialect) (job : ImportJob) : Prop :=
  ∃ content lines, m.files.find job.location = .ok (.file content) ∧
    Export.lines d job.batch content = .ok lines ∧
    ∃ l ∈ m.keptLines job lines, ¬ Matching.HasWindow l.postedAt.date

theorem breaksOff_iff (hparser : setup.registry.resolve job.bank.name = .ok (.delimited d)) :
    BreaksOff m d job ↔
      ∃ lines, parsedLines setup m.files job = .ok lines ∧ ¬ m.HasWindows job lines := by
  constructor
  · rintro ⟨content, lines, hfile, hok, hday⟩
    have hlines := (parsedLines_eq_ok_iff hparser).mpr ⟨content, hfile, hok⟩
    refine ⟨lines, hlines, ?_⟩
    rw [hasWindows_iff_of_delimited hparser hlines]
    simpa using hday
  · rintro ⟨lines, hlines, hday⟩
    obtain ⟨content, hfile, hok⟩ := (parsedLines_eq_ok_iff hparser).mp hlines
    rw [hasWindows_iff_of_delimited hparser hlines] at hday
    exact ⟨content, lines, hfile, hok, by simpa using hday⟩

/-- An import of a file of Banco do Brasil breaks off exactly if the file can be read and a line of
it that is new lies on the first day of the calendar or on one of the last two. It leaves the file
where it is then, and otherwise removes it. -/
theorem handle_aborted_iff
    (hparser : setup.registry.resolve job.bank.name = .ok (.delimited .bancoDoBrasil))
    (hrun : (handle setup job).run Memory.answer m = (outcome, m')) :
    (outcome = .aborted ↔ BreaksOff m .bancoDoBrasil job) ∧
    (outcome = .aborted → m'.files = m.files) ∧
    (outcome ≠ .aborted → isRemote job.location = false → ∀ content,
      m.files.find job.location = .ok (.file content) →
      m'.files.find job.location = .error .notFound) := by
  rw [breaksOff_iff hparser]
  cases hlines : parsedLines setup m.files job with
  | error e =>
    obtain ⟨metrics, hend⟩ := run_handle_of_error hlines
    obtain ⟨rfl, rfl⟩ := Prod.mk.inj (hrun.symm.trans hend)
    refine ⟨⟨nofun, ?_⟩, nofun, fun _ hlocal content hfile => Files.find_discarding hlocal hfile⟩
    rintro ⟨lines, h, -⟩
    cases h
  | ok lines =>
    by_cases hw : m.HasWindows job lines
    · obtain ⟨channel, metrics, hend⟩ := run_handle_of_windows hlines hw
      obtain ⟨rfl, rfl⟩ := Prod.mk.inj (hrun.symm.trans hend)
      refine ⟨⟨nofun, ?_⟩, nofun, fun _ hlocal content hfile => Files.find_discarding hlocal hfile⟩
      rintro ⟨lines', h, hw'⟩
      obtain rfl := Except.ok.inj h
      exact absurd hw hw'
    · obtain ⟨metrics, hend⟩ := run_handle_of_no_windows hlines hw
      obtain ⟨rfl, rfl⟩ := Prod.mk.inj (hrun.symm.trans hend)
      exact ⟨⟨fun _ => ⟨lines, rfl, hw⟩, fun _ => rfl⟩, fun _ => rfl, fun h => absurd rfl h⟩

end Service

namespace Sample

def fileOn (date : String) : Text.Bytes :=
  Text.encodeUtf8 ("Data,Historico,Valor\n" ++ date ++ ",PIX,50\n").toList

def uploaded (date : String) : Memory :=
  { memory with files := [(["statements.csv"], .file (fileOn date))] }

def upload : ImportJob := { job with location := "statements.csv" }

def production : ImportSetup := ⟨.default, "imports"⟩

theorem find_uploaded (date : String) :
    (uploaded date).files.find "statements.csv" = .ok (.file (fileOn date)) := by
  refine Files.find_eq_ok_iff.mpr ⟨["statements.csv"], ?_, rfl⟩
  rw [Files.resolve, Files.refusal?_eq_none_iff.mpr (by decide)]
  rfl

end Sample

namespace Service

/-- A line of a day within the calendar: the import comes to its end and the file is gone. -/
theorem handle_aborted_iff_within :
    ∃ outcome m', (handle Sample.production Sample.upload).run Memory.answer
      (Sample.uploaded "15/01/2025") = (outcome, m') ∧ outcome ≠ .aborted ∧
      m'.files.find "statements.csv" = .error .notFound := by
  have hdays : (Export.lines .bancoDoBrasil Sample.upload.batch
      (Sample.fileOn "15/01/2025")).map (fun lines =>
        lines.all fun l => Matching.HasWindow l.postedAt.date) = .ok true := by
    decide +kernel
  obtain ⟨lines, hlines, hall⟩ := Except.map_eq_ok_iff.mp hdays
  obtain ⟨hiff, -, hgone⟩ := handle_aborted_iff (m := Sample.uploaded "15/01/2025")
    (show Sample.production.registry.resolve Sample.upload.bank.name = _ from rfl) rfl
  have hends : ¬ BreaksOff (Sample.uploaded "15/01/2025") .bancoDoBrasil Sample.upload := by
    rintro ⟨content, lines', hfile, hok, l, hl, hday⟩
    cases (Sample.find_uploaded "15/01/2025").symm.trans hfile
    cases hlines.symm.trans hok
    have hmem := (Store.Statements.keptLines_sublist _ _ _ _ _).subset hl
    exact hday (of_decide_eq_true (List.all_eq_true.mp hall l hmem))
  exact ⟨_, _, rfl, fun h => hends (hiff.mp h), hgone (fun h => hends (hiff.mp h))
    (by decide +kernel) _ (Sample.find_uploaded "15/01/2025")⟩

/-- The import of a line of the last day of the calendar breaks off. -/
theorem handle_aborts_on_last_day :
    ¬ ∀ (setup : ImportSetup) (job : ImportJob) (m : Memory),
      setup.registry.resolve job.bank.name = .ok (.delimited .bancoDoBrasil) →
      ((handle setup job).run Memory.answer m).1 ≠ .aborted := by
  intro h
  have hdays : (Export.lines .bancoDoBrasil Sample.upload.batch
      (Sample.fileOn "31/12/+262142")).map (fun lines =>
        ((Sample.uploaded "31/12/+262142").keptLines Sample.upload lines).any fun l =>
          ¬ Matching.HasWindow l.postedAt.date) = .ok true := by
    decide +kernel
  obtain ⟨lines, hlines, hany⟩ := Except.map_eq_ok_iff.mp hdays
  obtain ⟨l, hl, hday⟩ := List.any_eq_true.mp hany
  have hparsed : parsedLines Sample.production (Sample.uploaded "31/12/+262142").files
      Sample.upload = .ok lines :=
    (parsedLines_eq_ok_iff rfl).mpr ⟨_, Sample.find_uploaded "31/12/+262142", hlines⟩
  have hbreaks : ¬ (Sample.uploaded "31/12/+262142").HasWindows Sample.upload lines := by
    rw [hasWindows_iff_of_delimited rfl hparsed]
    exact fun hall => of_decide_eq_true hday (hall l hl)
  obtain ⟨metrics, hrun⟩ := run_handle_of_no_windows hparsed hbreaks
  exact h Sample.production Sample.upload _ rfl (congrArg Prod.fst hrun)

end Service

end BankReconciliation
