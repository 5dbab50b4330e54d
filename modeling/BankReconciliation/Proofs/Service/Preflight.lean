import BankReconciliation.Proofs.Service.Refusals
import BankReconciliation.Proofs.Worker

/-! The checks of a request for an import. They are made in a fixed order, the first that fails is
answered, and what they admit is a job that the worker finds a parser for. -/

namespace BankReconciliation

/-- A problem of a file and not of the choice of its parser. -/
def ExportProblem.OfFile : ExportProblem → Prop
  | .unsupportedBank _ => False
  | _ => True

namespace Export

variable {d : Dialect} {batch : Batch} {content : Text.Bytes} {e : ExportProblem}

theorem ofFile_of_columns {headers : List (List Char)} (h : columns d headers = .error e) :
    e.OfFile := by
  have hrequired : ∀ {label e}, requiredColumn headers label = .error e → e.OfFile := by
    intro label e h
    unfold requiredColumn at h
    split at h
    · cases h
    · obtain rfl := Except.error.inj h
      trivial
  rcases Except.bind_eq_error_iff.mp h with h | ⟨_, -, h⟩
  · exact hrequired h
  rcases Except.bind_eq_error_iff.mp h with h | ⟨_, -, h⟩
  · exact hrequired h
  rcases Except.bind_eq_error_iff.mp h with h | ⟨_, -, h⟩
  · exact hrequired h
  · cases h

theorem ofFile_of_row {headers : List (List Char)} {columns : Columns} {record : Csv.Record}
    (h : row d batch headers columns record = .error e) : e.OfFile := by
  unfold row at h
  dsimp only at h
  split at h
  · cases h
  · rw [Except.map_eq_error_iff] at h
    unfold transaction at h
    dsimp only at h
    split at h
    · split at h
      · cases h
      · obtain rfl := Except.error.inj h
        trivial
    · obtain rfl := Except.error.inj h
      trivial

theorem ofFile_of_lines (h : lines d batch content = .error e) : e.OfFile := by
  rcases Except.bind_eq_error_iff.mp h with h | ⟨_, -, h⟩
  · exact ofFile_of_columns h
  rcases Except.bind_eq_error_iff.mp h with h | ⟨_, -, h⟩
  · obtain ⟨record, -, hrow⟩ := exists_of_mapM_eq_error h
    exact ofFile_of_row hrow
  · cases h

end Export

theorem Parser.ofFile_of_delimited {d : Dialect} {batch : Batch} {location : String}
    {opened : Opened} {e : ExportProblem}
    (h : (delimited d).parse batch location opened = .error e) : e.OfFile := by
  rcases opened with cause | content | _
  · obtain rfl := Except.error.inj h
    trivial
  · exact Export.ofFile_of_lines h
  · obtain rfl := Except.error.inj h
    trivial

/-- The month is one of the twelve. -/
def ImportRequest.HasMonth (request : ImportRequest) : Prop :=
  1 ≤ request.month ∧ request.month ≤ 12

namespace Memory

def OwnBank (m : Memory) (request : ImportRequest) (bank : Bank) : Prop :=
  m.directory.findBank request.bankId = some bank ∧ bank.churchId = request.churchId

def OwnAccount (m : Memory) (request : ImportRequest) (bank : Bank) (account : Account) : Prop :=
  ∃ id, bank.accountId = some id ∧
    m.directory.findAccount request.churchId id = some account

/-- All that is asked of a request but room in the queue. -/
structure Checked (m : Memory) (registry : Registry) (request : ImportRequest) (bank : Bank)
    (account : Account) : Prop where
  month : request.HasMonth
  ownBank : m.OwnBank request bank
  ownAccount : m.OwnAccount request bank account
  parser : ∃ p, registry.resolve bank.name = .ok p

/-- The checks in their order. A request is refused with the error of the first that fails. -/
inductive Refuses (m : Memory) (registry : Registry) (request : ImportRequest) :
    ServiceError → Prop
  | month (h : ¬ request.HasMonth) :
    Refuses m registry request (.badRequest (.invalidMonth request.month.toInt))
  | bank (hmonth : request.HasMonth) (h : ∀ bank, ¬ m.OwnBank request bank) :
    Refuses m registry request (.notFound (.bankNotFound request.bankId))
  | withoutAccount {bank} (hmonth : request.HasMonth) (hbank : m.OwnBank request bank)
    (h : bank.accountId = none) :
    Refuses m registry request (.badRequest (.bankWithoutAccount bank.name))
  | account {bank id} (hmonth : request.HasMonth) (hbank : m.OwnBank request bank)
    (hid : bank.accountId = some id)
    (h : m.directory.findAccount request.churchId id = none) :
    Refuses m registry request (.notFound (.accountNotFound id))
  | parser {bank account} (hmonth : request.HasMonth) (hbank : m.OwnBank request bank)
    (haccount : m.OwnAccount request bank account)
    (h : ∀ p, registry.resolve bank.name ≠ .ok p) :
    Refuses m registry request (.badRequest (.noParser bank.name))
  | closed {bank account} (hchecked : m.Checked registry request bank account)
    (h : m.worker.isClosed = true) :
    Refuses m registry request (.internal .queueClosed)
  | full {bank account} (hchecked : m.Checked registry request bank account)
    (hopen : m.worker.isClosed = false)
    (h : m.worker.settings.capacity ≤ m.worker.waiting.length) :
    Refuses m registry request .unavailable

variable {m : Memory} {registry : Registry} {request : ImportRequest} {bank : Bank}
  {account : Account} {e : ServiceError}

theorem not_hasMonth_iff :
    ¬ request.HasMonth ↔ request.month < 1 ∨ 12 < request.month := by
  rw [ImportRequest.HasMonth, Decidable.not_and_iff_or_not, Int32.not_le, Int32.not_le]

theorem within_of_hasMonth (h : request.HasMonth) :
    ¬ (request.month < 1 ∨ 12 < request.month) :=
  fun hout => not_hasMonth_iff.mpr hout h

theorem isSupported_eq_true_iff {name : String} :
    registry.isSupported name = true ↔ ∃ p, registry.resolve name = .ok p := by
  rw [Registry.isSupported]
  cases registry.resolve name <;> simp [Except.toBool]

theorem filter_findBank_eq_some_iff :
    (m.directory.findBank request.bankId).filter (·.churchId == request.churchId) = some bank ↔
      m.OwnBank request bank := by
  simp [Option.filter_eq_some_iff, OwnBank]

theorem preflight_of_checked (h : m.Checked registry request bank account) :
    m.preflight registry request = .ok (request.job bank account m.clock) := by
  obtain ⟨hmonth, hbank, ⟨id, hid, haccount⟩, hparser⟩ := h
  rw [preflight, if_neg (within_of_hasMonth hmonth),
    filter_findBank_eq_some_iff.mpr hbank]
  simp only [hid, haccount, isSupported_eq_true_iff.mpr hparser, if_true]

theorem admits_or_refuses (m : Memory) (registry : Registry) (request : ImportRequest) :
    (∃ bank account, m.Checked registry request bank account ∧ m.worker.HasRoom) ∨
      ∃ e, m.Refuses registry request e := by
  by_cases hmonth : request.HasMonth
  swap
  · exact .inr ⟨_, .month hmonth⟩
  by_cases hbank : ∃ bank, m.OwnBank request bank
  swap
  · exact .inr ⟨_, .bank hmonth (not_exists.mp hbank)⟩
  obtain ⟨bank, hbank⟩ := hbank
  cases hid : bank.accountId with
  | none => exact .inr ⟨_, .withoutAccount hmonth hbank hid⟩
  | some id =>
    cases haccount : m.directory.findAccount request.churchId id with
    | none => exact .inr ⟨_, .account hmonth hbank hid haccount⟩
    | some account =>
      by_cases hparser : ∃ p, registry.resolve bank.name = .ok p
      swap
      · exact .inr ⟨_, .parser hmonth hbank ⟨id, hid, haccount⟩ (not_exists.mp hparser)⟩
      have hchecked : m.Checked registry request bank account :=
        ⟨hmonth, hbank, ⟨id, hid, haccount⟩, hparser⟩
      cases hopen : m.worker.isClosed with
      | true => exact .inr ⟨_, .closed hchecked hopen⟩
      | false =>
        by_cases hroom : m.worker.waiting.length < m.worker.settings.capacity
        · exact .inl ⟨bank, account, hchecked, hopen, hroom⟩
        · exact .inr ⟨_, .full hchecked hopen (Nat.not_lt.mp hroom)⟩

end Memory

namespace Service

open Memory

variable {setup : ImportSetup} {m m' : Memory} {registry : Registry} {request : ImportRequest}
  {bank : Bank} {account : Account} {e : ServiceError} {reply : Reply Accepted}

theorem run_requestImport_of_checked (hchecked : m.Checked registry request bank account)
    (hroom : m.worker.HasRoom) :
    Program.run Memory.answer (requestImport registry request).run m =
      (.returned (.ok ⟨m.clock, request.location⟩),
        { m with worker.waiting := m.worker.waiting ++ [request.job bank account m.clock] }) := by
  rw [run_requestImport, preflight_of_checked hchecked]
  simp only [Worker.enqueue_of_hasRoom hroom]

theorem run_requestImport_of_refuses (h : m.Refuses registry request e) :
    Program.run Memory.answer (requestImport registry request).run m =
      (.returned (.error e), m) := by
  rw [run_requestImport]
  cases h with
  | month h => rw [preflight, if_pos (not_hasMonth_iff.mp h)]
  | bank hmonth h =>
    have hnone : (m.directory.findBank request.bankId).filter
        (·.churchId == request.churchId) = none :=
      Option.eq_none_iff_forall_ne_some.mpr fun bank hbank =>
        h bank (filter_findBank_eq_some_iff.mp hbank)
    rw [preflight, if_neg (within_of_hasMonth hmonth), hnone]
  | withoutAccount hmonth hbank h =>
    rw [preflight, if_neg (within_of_hasMonth hmonth),
      filter_findBank_eq_some_iff.mpr hbank]
    simp only [h]
  | account hmonth hbank hid h =>
    rw [preflight, if_neg (within_of_hasMonth hmonth),
      filter_findBank_eq_some_iff.mpr hbank]
    simp only [hid, h]
  | parser hmonth hbank haccount h =>
    obtain ⟨id, hid, haccount⟩ := haccount
    have hnot := isSupported_eq_true_iff.not.mpr (not_exists.mpr h)
    rw [preflight, if_neg (within_of_hasMonth hmonth),
      filter_findBank_eq_some_iff.mpr hbank]
    simp only [hid, haccount, if_neg hnot]
  | closed hchecked h =>
    rw [preflight_of_checked hchecked]
    simp only [Worker.enqueue_of_closed h]
  | full hchecked hopen h =>
    rw [preflight_of_checked hchecked]
    simp only [Worker.enqueue_of_full hopen h]

/-- A job for whose bank a parser was found fails as one of an unknown bank only if that parser
answers so itself. -/
theorem parse_of_unsupported {job : ImportJob} {p : Parser} {name : String}
    (hparser : setup.registry.resolve job.bank.name = .ok p)
    (hrun : ((handle setup job).run Memory.answer m).1 =
      .returned (.error (.badRequest (.exportFile (.unsupportedBank name))))) :
    p.parse job.batch job.location (m.files.find job.location) =
      .error (.unsupportedBank name) := by
  have hparsed : parsedLines setup m.files job = (p.parse job.batch job.location
      (m.files.find job.location)).mapError ServiceError.ofExport := by
    rw [parsedLines, hparser]
    rfl
  cases hlines : parsedLines setup m.files job with
  | ok lines =>
    -- what goes wrong after the file was read is not answered as an error
    by_cases hw : m.HasWindows job lines
    · obtain ⟨channel, metrics, hend⟩ := run_handle_of_windows hlines hw
      rw [hend] at hrun
      exact nomatch hrun
    · obtain ⟨metrics, hend⟩ := run_handle_of_no_windows hlines hw
      rw [hend] at hrun
      exact nomatch hrun
  | error e =>
    obtain ⟨metrics, hend⟩ := run_handle_of_error hlines
    rw [hend] at hrun
    obtain rfl := Except.error.inj (Program.Outcome.returned.inj hrun)
    rw [hlines] at hparsed
    cases hproblem : p.parse job.batch job.location (m.files.find job.location) with
    | ok lines =>
      rw [hproblem] at hparsed
      cases hparsed
    | error problem =>
      rw [hproblem] at hparsed
      have hname := Except.error.inj hparsed
      cases problem with
      | unsupportedBank name' =>
        cases hname
        rfl
      | _ => cases hname

/-- A request is queued exactly if it passes all checks, and otherwise answered with the error of
the first that fails, with nothing changed. A queued job is the one that was asked for, at the end
of the queue, and whenever it is run it has a parser, so that no job fails for want of one. -/
theorem requestImport_exact (m : Memory) (registry : Registry) (request : ImportRequest) :
    ((∃ accepted m', Program.run Memory.answer (requestImport registry request).run m =
        (.returned (.ok accepted), m')) ↔
      ∃ bank account, m.Checked registry request bank account ∧ m.worker.HasRoom) ∧
    (∀ e m', Program.run Memory.answer (requestImport registry request).run m =
        (.returned (.error e), m') ↔ m.Refuses registry request e ∧ m' = m) ∧
    (Program.run Memory.answer (requestImport registry request).run m).1 ≠ .aborted ∧
    ∀ accepted m', Program.run Memory.answer (requestImport registry request).run m =
        (.returned (.ok accepted), m') →
      ∃ bank account p, m.Checked registry request bank account ∧
        registry.resolve bank.name = .ok p ∧ accepted = ⟨m.clock, request.location⟩ ∧
        m' = { m with
          worker.waiting := m.worker.waiting ++ [request.job bank account m.clock] } ∧
        ∀ (setup : ImportSetup) (later : Memory) (name : String), setup.registry = registry →
          ((handle setup (request.job bank account m.clock)).run Memory.answer later).1 =
            .returned (.error (.badRequest (.exportFile (.unsupportedBank name)))) →
          p.parse (request.job bank account m.clock).batch request.location
              (later.files.find request.location) = .error (.unsupportedBank name) ∧
            ∀ d, p ≠ .delimited d := by
  -- each of the two has its own answer, so the answer tells which of them it is
  rcases m.admits_or_refuses registry request with ⟨bank, account, hchecked, hroom⟩ | ⟨e, h⟩
  · have hrun := run_requestImport_of_checked hchecked hroom
    rw [hrun]
    refine ⟨⟨fun _ => ⟨bank, account, hchecked, hroom⟩, fun _ => ⟨_, _, rfl⟩⟩, ?_, nofun, ?_⟩
    · refine fun e m' => ⟨fun h => ?_, fun h => ?_⟩
      · exact nomatch (Prod.mk.inj h).1
      · exact nomatch hrun.symm.trans (run_requestImport_of_refuses h.1)
    · intro accepted m' h
      obtain ⟨haccepted, rfl⟩ := Prod.mk.inj h
      obtain rfl := Except.ok.inj (Program.Outcome.returned.inj haccepted)
      obtain ⟨p, hparser⟩ := hchecked.parser
      refine ⟨bank, account, p, hchecked, hparser, rfl, rfl, fun setup later name hsetup hend => ?_⟩
      have hparse := parse_of_unsupported (hsetup ▸ hparser) hend
      refine ⟨hparse, ?_⟩
      rintro d rfl
      exact Parser.ofFile_of_delimited hparse
  · have hrun := run_requestImport_of_refuses h
    rw [hrun]
    refine ⟨⟨?_, ?_⟩, ?_, nofun, ?_⟩
    · rintro ⟨_, _, h⟩
      exact nomatch (Prod.mk.inj h).1
    · rintro ⟨_, _, hchecked, hroom⟩
      exact nomatch hrun.symm.trans (run_requestImport_of_checked hchecked hroom)
    · refine fun e' m' => ⟨fun hend => ?_, fun ⟨h', hm⟩ => ?_⟩
      · obtain ⟨he, rfl⟩ := Prod.mk.inj hend
        obtain rfl := Except.error.inj (Program.Outcome.returned.inj he)
        exact ⟨h, rfl⟩
      · rw [hm]
        exact hrun.symm.trans (run_requestImport_of_refuses h')
    · intro _ _ h
      exact nomatch (Prod.mk.inj h).1

end Service

namespace Sample

/-- The memory with a bank and its account. -/
def staffed : Memory := { memory with directory := ⟨[job.bank], [job.account]⟩ }

def asked : ImportRequest := ⟨"church", "bb", 1, 2025, "treasurer", "https://statements"⟩

end Sample

namespace Service

/-- A request for a known bank is queued, in the place of its job. -/
theorem requestImport_exact_queues :
    ∃ m', Program.run Memory.answer (requestImport .default Sample.asked).run Sample.staffed =
        (.returned (.ok ⟨.midnight Sample.day, "https://statements"⟩), m') ∧
      m'.worker.waiting = [Sample.job] := by
  have hparser : ∃ p, Registry.default.resolve "Banco do Brasil" = .ok p := ⟨_, rfl⟩
  obtain ⟨hiff, -, -, hjob⟩ :=
    requestImport_exact Sample.staffed .default Sample.asked
  obtain ⟨accepted, m', hrun⟩ := hiff.mpr ⟨Sample.job.bank, Sample.job.account,
    ⟨⟨by decide, by decide⟩, ⟨rfl, rfl⟩, ⟨"account", rfl, rfl⟩, hparser⟩, ⟨rfl, by decide⟩⟩
  obtain ⟨bank, account, p, ⟨-, ⟨hbank, -⟩, ⟨id, hid, haccount⟩, -⟩, -, rfl, rfl, -⟩ :=
    hjob accepted m' hrun
  obtain rfl := Option.some.inj hbank
  obtain rfl := Option.some.inj hid
  obtain rfl := Option.some.inj haccount
  exact ⟨_, hrun, rfl⟩

end Service

end BankReconciliation
