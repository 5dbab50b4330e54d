import BankReconciliation.Proofs.Service.Import
import BankReconciliation.Proofs.Service.Transcripts

/-! Collaborators that fail. What fails before the lines of an import are stored fails the import;
what fails later is counted and changes no result. The ledger hears of no binding that was not
stored. -/

namespace BankReconciliation

open Program

namespace Service

variable {setup : ImportSetup} {job : ImportJob} {s : Statement} {ss : List Statement}
  {d : Dialogue} {attempt : Attempt} {tries : List (Dialogue × Bool)} {matched : Bool}
  {record : LedgerRecord}

theorem Reconciled.isQuiet (h : Reconciled s d attempt) :
    ∀ x ∈ d, Call.isQuiet x.request = true := by
  cases h with
  | matched _ ht => cases ht <;> simp [Call.isQuiet]
  | _ => simp [Call.isQuiet]

theorem Announced.tells (h : Announced record d) (hs : s.recordId? = some record.id)
    (counts : Dialogue) (hcounts : ∀ x ∈ counts, ∃ event, x = ⟨.count event, ()⟩) :
    Dialogue.TellsBindings (⟨.updateReconciliation s, .ok ()⟩ :: (counts ++ d)) := by
  cases h with
  | told => exact .binding hs hcounts .nil
  | untold => exact .binding hs hcounts (.silent trivial .nil)

theorem Reconciled.tells (h : Reconciled s d attempt) : d.TellsBindings := by
  cases h with
  | matched _ ht => exact .silent trivial (.silent trivial (ht.tells rfl [] (by simp)))
  | unmatched _ => exact .silent trivial (.silent trivial (.silent rfl .nil))
  | _ => exact .of_silent (by simp [Dialogue.Silent])

theorem Reconciled.isOk (h : Reconciled s d attempt) : attempt.result.isOk = d.confirms := by
  cases h with
  | matched _ ht => cases ht <;> rfl
  | _ => rfl

theorem Tried.matched_eq (h : Tried s d matched) : matched = (d.finds && d.confirms) := by
  obtain ⟨h⟩ := h
  cases h with
  | matched _ ht => cases ht <;> rfl
  | unstored _ => exact (Bool.and_false _).symm
  | _ => rfl

theorem Tried.isQuiet (h : Tried s d matched) : ∀ x ∈ d, Call.isQuiet x.request = true := by
  obtain ⟨h⟩ := h
  exact List.forall_mem_append.mpr ⟨h.isQuiet, List.forall_mem_singleton.mpr rfl⟩

theorem Tried.tells (h : Tried s d matched) : d.TellsBindings := by
  obtain ⟨h⟩ := h
  exact h.tells.append (.silent trivial .nil)

theorem isQuiet_said (h : TriedAll ss tries) : ∀ x ∈ said tries, Call.isQuiet x.request = true := by
  induction h with
  | nil => exact fun x hx => nomatch hx
  | cons ht _ ih => exact List.forall_mem_append.mpr ⟨ht.isQuiet, ih⟩

theorem tells_said (h : TriedAll ss tries) : (said tries).TellsBindings := by
  induction h with
  | nil => exact .nil
  | cons ht _ ih => exact ht.tells.append ih

theorem matchCount_eq (h : TriedAll ss tries) :
    matchCount tries = (tries.map Prod.fst).countP fun d => d.finds && d.confirms := by
  induction h with
  | nil => rfl
  | cons ht _ ih =>
    rw [matchCount, List.countP_cons, ← matchCount, ih, List.map_cons, List.countP_cons,
      ← ht.matched_eq]

theorem matchCount_le (h : TriedAll ss tries) : matchCount tries ≤ ss.length := by
  rw [List.Forall₂.length_eq h]
  exact List.countP_le_length

theorem Discarded.removals_eq {location : String} (h : Discarded location d) :
    d.removals = if isRemote location then [] else [location] := by
  cases h with
  | remote h => rw [if_pos h]; rfl
  | removed h => rw [if_neg (by simp [h])]; rfl

theorem Discarded.notices_eq {location : String} (h : Discarded location d) : d.notices = [] := by
  cases h <;> rfl

theorem Discarded.closes {location : String} (h : Discarded location d) :
    ∀ x ∈ d, Call.closes x.request = true := by
  cases h <;> simp [Call.closes]

variable {result : Reply Summary}

theorem Closed.notices_eq (h : Closed setup job result d) :
    d.notices = result.toOption.toList.map fun summary => (setup.summaryTopic, summary.toJson) := by
  cases h with
  | succeeded hr ht =>
    rw [Dialogue.notices_append, hr.notices_eq]
    cases ht <;> rfl
  | failed hr =>
    rw [Dialogue.notices_append, hr.notices_eq]
    rfl

theorem Closed.removals_eq (h : Closed setup job result d) :
    d.removals = if isRemote job.location then [] else [job.location] := by
  cases h with
  | succeeded hr ht =>
    rw [Dialogue.removals_append, hr.removals_eq]
    cases ht <;> exact List.append_nil _
  | failed hr =>
    rw [Dialogue.removals_append, hr.removals_eq]
    exact List.append_nil _

theorem Closed.closes (h : Closed setup job result d) :
    ∀ x ∈ d, Call.closes x.request = true := by
  cases h with
  | succeeded hr ht =>
    refine List.forall_mem_append.mpr ⟨hr.closes, ?_⟩
    cases ht <;> simp [Call.closes]
  | failed hr =>
    refine List.forall_mem_append.mpr ⟨hr.closes, ?_⟩
    simp [Call.closes]

theorem Closed.stores_eq (h : Closed setup job result d) : d.stores = false := by
  refine List.any_eq_false.mpr ?_
  rintro ⟨c, a⟩ hx
  have hc := h.closes _ hx
  cases c with
  | insertMany _ => cases hc
  | _ => simp

theorem Closed.tells (h : Closed setup job result d) : d.TellsBindings :=
  .of_kind (fun _ => rfl) (fun _ _ => rfl) h.closes

theorem Intake.exists_line {i : Intake setup job} {ids : List Uuid} (hs : s ∈ i.taken ids) :
    ∃ l ∈ i.lines, s.postedAt = l.postedAt := by
  obtain ⟨_, -, l, hl, rfl⟩ := exists_of_mem_statementsOf (List.mem_of_mem_filter hs)
  exact ⟨l, i.kept_sublist.subset hl, rfl⟩

theorem Intake.quiet (i : Intake setup job) :
    i.dialogue.stores = false ∧ i.dialogue.notices = [] ∧ i.dialogue.removals = [] :=
  Dialogue.quiet fun x hx => Call.isQuiet_of_prepares (i.prepares x hx)

theorem Intake.tells (i : Intake setup job) : i.dialogue.TellsBindings :=
  .of_kind (fun _ => rfl) (fun _ _ => rfl) i.prepares

theorem Imported.isOk (h : Imported setup job d (.returned result)) : result.isOk = d.stores := by
  cases h with
  | refused hd =>
    exact (Dialogue.quiet fun x hx => Call.isQuiet_of_prepares (hd x hx)).1.symm
  | unstored i =>
    rw [Dialogue.stores_append, i.quiet.1]
    rfl
  | finished i ht =>
    rw [Dialogue.stores_append, i.quiet.1]
    rfl

theorem Imported.quiet {o : Program.Outcome (Reply Summary)} (h : Imported setup job d o) :
    d.notices = [] ∧ d.removals = [] := by
  have hstoring : ∀ {ids tries ss} (i : Intake setup job), TriedAll ss tries →
      Dialogue.notices (i.dialogue ++ (i.storing ids ++ said tries)) = [] ∧
        Dialogue.removals (i.dialogue ++ (i.storing ids ++ said tries)) = [] := by
    intro ids tries ss i ht
    obtain ⟨-, hn, hr⟩ := i.quiet
    obtain ⟨-, hn', hr'⟩ := Dialogue.quiet (isQuiet_said ht)
    simp only [Dialogue.notices_append, Dialogue.removals_append, hn, hr, hn', hr']
    exact ⟨rfl, rfl⟩
  cases h with
  | refused hd => exact (Dialogue.quiet fun x hx => Call.isQuiet_of_prepares (hd x hx)).2
  | unstored i =>
    rw [Dialogue.notices_append, Dialogue.removals_append, i.quiet.2.1, i.quiet.2.2]
    exact ⟨rfl, rfl⟩
  | finished i ht => exact hstoring i ht
  | brokenOff i _ ht _ => exact hstoring i ht

theorem Imported.tells {o : Program.Outcome (Reply Summary)} (h : Imported setup job d o) :
    d.TellsBindings := by
  have hstoring : ∀ i : Intake setup job, ∀ ids, (i.storing ids).TellsBindings := fun i ids =>
    .silent trivial (.silent trivial (.silent trivial .nil))
  cases h with
  | refused hd => exact .of_kind (fun _ => rfl) (fun _ _ => rfl) hd
  | unstored i => exact i.tells.append (.silent trivial .nil)
  | finished i ht => exact i.tells.append ((hstoring i _).append (tells_said ht))
  | brokenOff i _ ht _ => exact i.tells.append ((hstoring i _).append (tells_said ht))

/-- What becomes of an import, whatever fails. -/
structure Resilient (setup : ImportSetup) (job : ImportJob) (d : Dialogue)
    (result : Reply Summary) : Prop where
  /-- The import succeeds exactly if its lines were stored. -/
  isOk : result.isOk = d.stores
  /-- The result is settled before the file is removed, and the removal is attempted once, unless
  the file lies on the network. -/
  settled : ∃ work closing, d = work ++ closing ∧
    Transcript (importFile setup job).run work (.returned result) ∧ work.removals = [] ∧
    closing.removals = (if isRemote job.location then [] else [job.location]) ∧
    ∀ x ∈ closing, Call.closes x.request = true
  /-- Every statement that was inserted is attempted, in order; those for which a record was found
  and the binding was stored are matched, and the others are pending. -/
  attempts : ∀ summary, result = .ok summary →
    ∃ (i : Intake setup job) (ids : List Uuid) (tries : List (Dialogue × Bool))
      (closing : Dialogue),
      d = i.dialogue ++ (i.storing ids ++ said tries) ++ closing ∧ TriedAll (i.taken ids) tries ∧
      summary.inserted = (i.taken ids).length ∧
      summary.matched = (tries.map Prod.fst).countP (fun d => d.finds && d.confirms) ∧
      summary.matched + summary.pending = summary.inserted
  /-- One summary is sent by an import that succeeds, and none by one that fails. -/
  notices : d.notices =
    result.toOption.toList.map fun summary => (setup.summaryTopic, summary.toJson)
  tells : d.TellsBindings

theorem resilient_of_transcript {o : Program.Outcome (Reply Summary)}
    (hwindows : ∀ opened lines, ⟨.openFile job.location, opened⟩ ∈ d →
      linesFrom setup job opened = .ok lines → ∀ l ∈ lines, Matching.HasWindow l.postedAt.date)
    (h : (handle setup job).Transcript d o) :
    ∃ result, o = .returned result ∧ Resilient setup job d result := by
  rcases transcript_handle h with ⟨result, work, closing, rfl, rfl, hwork, hclosing⟩ | ⟨-, hwork⟩
  · have himported := transcript_importFile hwork
    obtain ⟨hnotices, hremovals⟩ := himported.quiet
    refine ⟨result, rfl, ?_, ?_, ?_, ?_, ?_⟩
    · rw [himported.isOk, Dialogue.stores_append, hclosing.stores_eq, Bool.or_false]
    · exact ⟨work, closing, rfl, hwork, hremovals, hclosing.removals_eq, hclosing.closes⟩
    · rintro summary rfl
      cases himported with
      | @finished ids tries i ht =>
        refine ⟨i, ids, tries, closing, rfl, ht, rfl, matchCount_eq ht, ?_⟩
        exact Nat.add_sub_cancel' (matchCount_le ht)
    · rw [Dialogue.notices_append, hnotices, hclosing.notices_eq]
      rfl
    · exact himported.tells.append hclosing.tells
  · cases transcript_importFile hwork with
    | @brokenOff ids done s rest tries i htaken _ hs =>
      have hmem : s ∈ i.taken ids := htaken ▸ List.mem_append_right _ List.mem_cons_self
      obtain ⟨l, hl, hposted⟩ := Intake.exists_line hmem
      rw [hposted] at hs
      have hopened := List.mem_append_left (i.storing ids ++ said tries) i.mem_dialogue
      exact absurd (hwindows i.opened i.lines hopened i.lines_eq l hl) hs

variable {churchId id recordId : String}

theorem Retried.tells {result : Reply Outcome} (h : Retried d result) : d.TellsBindings := by
  cases h with
  | refused hd => exact .of_kind (fun _ => rfl) (fun _ _ => rfl) hd
  | failed h => exact .silent trivial h.tells
  | retried h => exact .silent trivial (h.tells.append (.silent trivial .nil))

theorem Linked.tells {result : Reply Statement} (h : Linked churchId id recordId d result) :
    d.TellsBindings := by
  cases h with
  | refused hd => exact .of_kind (fun _ => rfl) (fun _ _ => rfl) hd
  | unstored _ => exact .of_silent (by simp [Dialogue.Silent])
  | linked _ ht =>
    refine .silent trivial (.silent trivial (.silent trivial ?_))
    exact ht.tells rfl [⟨.count _, ()⟩] (List.forall_mem_singleton.mpr ⟨_, rfl⟩)

theorem confirms_of_fetches (h : ∀ x ∈ d, Call.fetches x.request = true) :
    d.confirms = false := by
  refine List.any_eq_false.mpr ?_
  rintro ⟨c, a⟩ hx
  have hc := h _ hx
  cases c with
  | updateReconciliation _ => cases hc
  | _ => simp

theorem Retried.isOk {result : Reply Outcome} (h : Retried d result) :
    result.isOk = d.confirms := by
  cases h with
  | refused hd => exact (confirms_of_fetches hd).symm
  | failed h => exact h.isOk
  | retried h =>
    have hconfirms := h.isOk
    rw [Dialogue.confirms] at hconfirms ⊢
    rw [List.any_cons, List.any_append, ← hconfirms]
    rfl

theorem Linked.isOk {result : Reply Statement} (h : Linked churchId id recordId d result) :
    result.isOk = d.confirms := by
  cases h with
  | refused hd => exact (confirms_of_fetches hd).symm
  | unstored _ => rfl
  | linked _ _ => rfl

/-- Whatever the collaborators answer, an import of lines that have windows gives a result, and no
failure after the insertion fails it. Imports, retries and links tell the ledger of the bindings
that were stored and of nothing else, and whether it can be told does not matter. -/
theorem resilient_of_failures {σ : Type} (h : Handler Collaborators σ) (m : σ)
    (setup : ImportSetup) (job : ImportJob) (churchId id recordId : String)
    (hwindows : ∀ opened lines,
      ⟨.openFile job.location, opened⟩ ∈ (handle setup job).exchanges h m →
      linesFrom setup job opened = .ok lines → ∀ l ∈ lines, Matching.HasWindow l.postedAt.date) :
    (∃ result, ((handle setup job).run h m).1 = .returned result ∧
      Resilient setup job ((handle setup job).exchanges h m) result) ∧
    (Dialogue.TellsBindings (exchanges h (retry churchId id).run m) ∧
      ((∃ outcome, (Program.run h (retry churchId id).run m).1 = .returned (.ok outcome)) ↔
        Dialogue.confirms (exchanges h (retry churchId id).run m) = true)) ∧
    Dialogue.TellsBindings (exchanges h (link churchId id recordId).run m) ∧
      ((∃ s, (Program.run h (link churchId id recordId).run m).1 = .returned (.ok s)) ↔
        Dialogue.confirms (exchanges h (link churchId id recordId).run m) = true) := by
  have hretry := transcript_exchanges h (retry churchId id).run m
  have hlink := transcript_exchanges h (link churchId id recordId).run m
  refine ⟨resilient_of_transcript hwindows (transcript_exchanges h _ m), ?_, ?_⟩
  · rcases transcript_retry hretry with ⟨result, ho, hretried⟩ | ⟨ho, uuid, s, -, hd⟩
    · refine ⟨hretried.tells, ?_⟩
      rw [ho, ← hretried.isOk]
      cases result <;> simp [Except.isOk, Except.toBool]
    · rw [ho, hd]
      exact ⟨.silent trivial .nil, by simp [Dialogue.confirms]⟩
  · obtain ⟨result, ho, hlinked⟩ := transcript_link hlink
    refine ⟨hlinked.tells, ?_⟩
    rw [ho, ← hlinked.isOk]
    cases result <;> simp [Except.isOk, Except.toBool]

end Service

/-- A memory from which the ledger cannot be told anything and no notice can be sent. -/
def Sample.mute : Handler Collaborators Memory
  | .dispatchStatus .., m => (.error .unavailable, m)
  | .notify .., m => (.error .unavailable, m)
  | c, m => Memory.answer c m

namespace Service

/-- The one line of a file is stored and matched, though nobody can be told of it. -/
theorem resilient_of_failures_mute :
    ∃ summary, ((handle (Sample.reading [Sample.line "a"]) Sample.job).run Sample.mute
        Sample.memory).1 = .returned (.ok summary) ∧
      summary.matched + summary.pending = summary.inserted := by
  obtain ⟨⟨result, hrun, hresilient⟩, -⟩ := resilient_of_failures Sample.mute Sample.memory
    (Sample.reading [Sample.line "a"]) Sample.job "church" "" "" (by
      intro opened lines _ hlines
      obtain rfl : [Sample.line "a"] = lines := Except.ok.inj hlines
      decide +kernel)
  have hok : result.isOk = true := hresilient.isOk.trans (by decide +kernel)
  cases result with
  | error e => cases hok
  | ok summary =>
    obtain ⟨_, _, _, _, -, -, -, -, hpending⟩ := hresilient.attempts summary rfl
    exact ⟨summary, hrun, hpending⟩

end Service

end BankReconciliation
