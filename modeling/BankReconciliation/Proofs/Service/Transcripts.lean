import BankReconciliation.Proofs.Matching
import BankReconciliation.Proofs.Service.NewLines
import BankReconciliation.Service.Operations
import Mathlib.Data.List.Forall2

/-! What the operations of the service say to their collaborators, whatever these answer. Each
operation has one lemma, which tells its transcripts apart; nothing else opens its program. -/

namespace BankReconciliation

def Statement.settled (s : Statement) (choice : Option LedgerRecord) (now : Instant) : Statement :=
  match choice with
  | none => s.markUnmatched now
  | some record => s.markReconciled record.id now

namespace Service

open Program

inductive Announced (record : LedgerRecord) : Dialogue → Prop
  | told : Announced record [⟨.dispatchStatus record .reconciled, .ok ()⟩]
  | untold {e} : Announced record [⟨.dispatchStatus record .reconciled, .error e⟩,
      ⟨.count (.error "ledger_status_dispatch"), ()⟩]

/-- What is said in an attempt at a statement, and what the attempt comes to. -/
inductive Reconciled (s : Statement) : Dialogue → Attempt → Prop
  | unanswered {f e} (hf : Matching.filterFor? s = some f) :
    Reconciled s [⟨.findOne f, .error e⟩] ⟨s, .error e⟩
  | unstored {f choice now e} (hf : Matching.filterFor? s = some f) :
    Reconciled s [⟨.findOne f, .ok choice⟩, ⟨.now, now⟩,
      ⟨.updateReconciliation (s.settled choice now), .error e⟩] ⟨s.settled choice now, .error e⟩
  | unmatched {f now} (hf : Matching.filterFor? s = some f) :
    Reconciled s [⟨.findOne f, .ok none⟩, ⟨.now, now⟩,
      ⟨.updateReconciliation (s.markUnmatched now), .ok ()⟩]
      ⟨s.markUnmatched now, .ok ⟨false, none⟩⟩
  | matched {f record now told} (hf : Matching.filterFor? s = some f)
      (ht : Announced record told) :
    Reconciled s (⟨.findOne f, .ok (some record)⟩ :: ⟨.now, now⟩ ::
      ⟨.updateReconciliation (s.markReconciled record.id now), .ok ()⟩ :: told)
      ⟨s.markReconciled record.id now, .ok ⟨true, some record.id⟩⟩

variable {s : Statement} {ss : List Statement} {d : Dialogue} {record : LedgerRecord}

theorem transcript_announce {o : Program.Outcome Unit}
    (h : (announce record).Transcript d o) : Announced record d ∧ o = .returned () := by
  obtain ⟨a, rest, rfl, h⟩ := h
  cases a with
  | ok _ =>
    obtain ⟨rfl, rfl⟩ := h
    exact ⟨.told, rfl⟩
  | error e =>
    obtain ⟨_, rest, rfl, rfl, rfl⟩ := h
    exact ⟨.untold, rfl⟩

/-- An attempt breaks off at once exactly if the statement has no window. -/
theorem transcript_reconcile {o : Program.Outcome Attempt}
    (h : (reconcile s).Transcript d o) :
    (∃ attempt, o = .returned attempt ∧ Reconciled s d attempt) ∨
      ¬ Matching.HasWindow s.postedAt.date ∧ d = [] ∧ o = .aborted := by
  unfold reconcile at h
  cases hf : Matching.filterFor? s with
  | none =>
    rw [hf] at h
    exact .inr ⟨Matching.filterFor?_eq_none_iff.mp hf, h⟩
  | some f =>
    rw [hf] at h
    obtain ⟨a, rest, rfl, h⟩ := h
    left
    rcases a with e | _ | record
    · obtain ⟨rfl, rfl⟩ := h
      exact ⟨_, rfl, .unanswered hf⟩
    · obtain ⟨now, rest, rfl, a, rest, rfl, h⟩ := h
      rcases a with e | _
      · obtain ⟨rfl, rfl⟩ := h
        exact ⟨_, rfl, @Reconciled.unstored s f none now e hf⟩
      · obtain ⟨rfl, rfl⟩ := h
        exact ⟨_, rfl, .unmatched hf⟩
    · obtain ⟨now, rest, rfl, a, rest, rfl, h⟩ := h
      rcases a with e | _
      · obtain ⟨rfl, rfl⟩ := h
        exact ⟨_, rfl, @Reconciled.unstored s f (some record) now e hf⟩
      · rcases transcript_bind (p := announce record) h with
          ⟨_, told, _, rfl, ht, rfl, rfl⟩ | ⟨ht, -⟩
        · rw [List.append_nil]
          exact ⟨_, rfl, .matched hf (transcript_announce ht).1⟩
        · exact nomatch (transcript_announce ht).2

def isMatch : Reply Outcome → Bool
  | .ok outcome => outcome.matched
  | .error _ => false

def attemptEvent : Reply Outcome → MetricEvent
  | .ok outcome => .reconciliation "auto" outcome.matched
  | .error e => .error e.kind

/-- What is said in an attempt of an import, and whether it matched. -/
inductive Tried (s : Statement) : Dialogue → Bool → Prop
  | intro {said attempt} (h : Reconciled s said attempt) :
    Tried s (said ++ [⟨.count (attemptEvent attempt.result), ()⟩]) (isMatch attempt.result)

abbrev TriedAll (ss : List Statement) (tries : List (Dialogue × Bool)) : Prop :=
  List.Forall₂ (fun s t => Tried s t.1 t.2) ss tries

/-- All that is said in some attempts. -/
def said (tries : List (Dialogue × Bool)) : Dialogue := (tries.map Prod.fst).flatten

def matchCount (tries : List (Dialogue × Bool)) : Nat := tries.countP (·.2)

theorem transcript_reconcileOne {o : Program.Outcome Bool} (h : (reconcileOne s).Transcript d o) :
    (∃ matched, o = .returned matched ∧ Tried s d matched) ∨
      ¬ Matching.HasWindow s.postedAt.date ∧ d = [] ∧ o = .aborted := by
  rcases transcript_bind h with ⟨attempt, said, es, rfl, hs, h⟩ | ⟨hs, rfl⟩
  · rcases transcript_reconcile hs with ⟨_, hattempt, hs⟩ | ⟨-, -, hnone⟩
    · obtain rfl := Program.Outcome.returned.inj hattempt
      left
      obtain ⟨t, result⟩ := attempt
      cases result with
      | ok outcome =>
        obtain ⟨_, _, rfl, rfl, rfl⟩ := h
        exact ⟨_, rfl, .intro hs⟩
      | error e =>
        obtain ⟨_, _, rfl, rfl, rfl⟩ := h
        exact ⟨_, rfl, .intro hs⟩
    · exact nomatch hnone
  · rcases transcript_reconcile hs with ⟨_, hnone, -⟩ | h
    · exact nomatch hnone
    · obtain ⟨hwindow, rfl, -⟩ := h
      exact .inr ⟨hwindow, rfl, rfl⟩

/-- Attempts are made at one statement after the other, to the first that has no window. -/
theorem transcript_reconcileAll {o : Program.Outcome Nat} (h : (reconcileAll ss).Transcript d o) :
    (∃ tries, TriedAll ss tries ∧ d = said tries ∧ o = .returned (matchCount tries)) ∨
      ∃ done s rest tries, ss = done ++ s :: rest ∧ TriedAll done tries ∧ d = said tries ∧
        ¬ Matching.HasWindow s.postedAt.date ∧ o = .aborted := by
  induction ss generalizing d o with
  | nil =>
    obtain ⟨rfl, rfl⟩ := h
    exact .inl ⟨[], .nil, rfl, rfl⟩
  | cons s ss ih =>
    rcases transcript_bind h with ⟨matched, d₁, d₂, rfl, hs, h⟩ | ⟨hs, rfl⟩
    · rcases transcript_reconcileOne hs with ⟨_, hmatched, hs⟩ | ⟨-, -, hnone⟩
      · obtain rfl := Program.Outcome.returned.inj hmatched
        rcases transcript_bind h with ⟨n, d₃, _, rfl, hss, rfl, rfl⟩ | ⟨hss, rfl⟩
        · rcases ih hss with ⟨tries, ht, rfl, hn⟩ | ⟨_, _, _, _, _, _, _, _, hnone⟩
          · obtain rfl := Program.Outcome.returned.inj hn
            refine .inl ⟨(d₁, matched) :: tries, .cons hs ht, by simp [said], ?_⟩
            simp only [matchCount, List.countP_cons]
            cases matched <;> rfl
          · exact nomatch hnone
        · rcases ih hss with ⟨_, _, _, hnone⟩ | ⟨done, t, rest, tries, rfl, ht, rfl, hw, -⟩
          · exact nomatch hnone
          · exact .inr ⟨s :: done, t, rest, (d₁, matched) :: tries, rfl, .cons hs ht, rfl, hw, rfl⟩
      · exact nomatch hnone
    · rcases transcript_reconcileOne hs with ⟨_, hnone, -⟩ | ⟨hw, rfl, -⟩
      · exact nomatch hnone
      · exact .inr ⟨[], s, ss, [], rfl, .nil, rfl, hw, rfl⟩

def linesFrom (setup : ImportSetup) (job : ImportJob) (opened : Opened) : Reply (List Line) := do
  let parser ← (setup.registry.resolve job.bank.name).mapError ServiceError.ofExport
  (parser.parse job.batch job.location opened).mapError ServiceError.ofExport

variable {setup : ImportSetup} {job : ImportJob} {lines : List Line}

theorem transcript_readLines {o : Program.Outcome (Reply (List Line))}
    (h : Transcript (readLines setup job).run d o) :
    (∃ opened, d = [⟨.openFile job.location, opened⟩] ∧
      o = .returned (linesFrom setup job opened)) ∨ d = [] ∧ ∃ e, o = .returned (.error e) := by
  unfold readLines at h
  cases hresolve : setup.registry.resolve job.bank.name with
  | error e =>
    rw [hresolve] at h
    obtain ⟨rfl, rfl⟩ := h
    exact .inr ⟨rfl, _, rfl⟩
  | ok parser =>
    rw [hresolve] at h
    rcases transcript_bindLift h with ⟨opened, _, _, rfl, ⟨_, _, rfl, rfl, ho⟩, hp⟩ | ⟨ho, -⟩
    · obtain rfl := Program.Outcome.returned.inj ho
      left
      unfold linesFrom
      rw [hresolve]
      cases hparse : parser.parse job.batch job.location opened with
      | error e =>
        rw [hparse] at hp
        obtain ⟨rfl, rfl⟩ := hp
        exact ⟨opened, rfl, by simp [Except.mapError, hparse, Bind.bind, Except.bind]⟩
      | ok lines =>
        rw [hparse] at hp
        obtain ⟨rfl, rfl⟩ := hp
        exact ⟨opened, rfl, by simp [Except.mapError, hparse, Bind.bind, Except.bind]⟩
    · obtain ⟨_, _, -, -, ho⟩ := ho
      exact nomatch ho

theorem transcript_newLines {churchId bankId : String} {seen : Seen} {kept : List Line}
    (h : Transcript (newLines churchId bankId seen lines).run d (.returned (.ok kept))) :
    kept.Sublist lines := by
  induction lines generalizing seen d kept with
  | nil =>
    obtain ⟨-, hkept⟩ := h
    obtain rfl := Except.ok.inj (Program.Outcome.returned.inj hkept)
    exact .slnil
  | cons l ls ih =>
    rcases transcript_bindReply h with ⟨duplicate, d₁, d₂, rfl, -, h⟩ | ⟨_, -, h⟩ | ⟨-, h⟩
    · cases duplicate with
      | true => exact (ih h).cons l
      | false =>
        rcases transcript_bindReply (p := newLines churchId bankId (seen.add l) ls) h with
          ⟨rest, d₃, _, rfl, hrest, -, hkept⟩ | ⟨_, -, h⟩ | ⟨-, h⟩
        · obtain rfl := Except.ok.inj (Program.Outcome.returned.inj hkept)
          exact (ih hrest).cons_cons l
        · exact nomatch h
        · exact nomatch h
    · exact nomatch h
    · exact nomatch h

def statementsOf (churchId : String) (now : Instant) (ids : List Uuid) (lines : List Line) :
    List Statement :=
  List.zipWith (fun id l => .ofLine id churchId now l) ids lines

theorem exists_of_mem_statementsOf {churchId : String} {now : Instant} {ids : List Uuid}
    (hs : s ∈ statementsOf churchId now ids lines) :
    ∃ id ∈ ids, ∃ l ∈ lines, s = .ofLine id churchId now l := by
  obtain ⟨i, hi, rfl⟩ := List.getElem_of_mem hs
  unfold statementsOf at hi
  rw [List.length_zipWith] at hi
  refine ⟨ids[i], List.getElem_mem _, lines[i], List.getElem_mem _, ?_⟩
  exact List.getElem_zipWith

theorem transcript_makeStatements {churchId : String} {now : Instant}
    {o : Program.Outcome (List Statement)}
    (h : (makeStatements churchId now lines).Transcript d o) :
    (∀ x ∈ d, Call.prepares x.request = true) ∧ d.drawn.length = lines.length ∧
      o = .returned (statementsOf churchId now d.drawn lines) := by
  induction lines generalizing d o with
  | nil =>
    obtain ⟨rfl, rfl⟩ := h
    exact ⟨by simp, rfl, rfl⟩
  | cons l ls ih =>
    obtain ⟨id, rest, rfl, h⟩ := h
    rcases transcript_bind (p := makeStatements churchId now ls) h with
      ⟨new, d₁, _, rfl, hnew, rfl, rfl⟩ | ⟨hnew, -⟩
    · obtain ⟨hprepares, hlength, hnew⟩ := ih hnew
      obtain rfl := Program.Outcome.returned.inj hnew
      rw [List.append_nil]
      refine ⟨List.forall_mem_cons.mpr ⟨rfl, hprepares⟩, ?_, rfl⟩
      exact congrArg (· + 1) hlength
    · exact nomatch (ih hnew).2.2

/-- What an import has said, and what it has found out, when it comes to store its statements. -/
structure Intake (setup : ImportSetup) (job : ImportJob) where
  dialogue : Dialogue
  opened : Opened
  lines : List Line
  now : Instant
  /-- The lines that are no duplicates. -/
  kept : List Line
  prepares : ∀ x ∈ dialogue, Call.prepares x.request = true
  mem_dialogue : ⟨.openFile job.location, opened⟩ ∈ dialogue
  lines_eq : linesFrom setup job opened = .ok lines
  kept_sublist : kept.Sublist lines
  length_drawn : dialogue.drawn.length = kept.length

namespace Intake

def candidates (i : Intake setup job) : List Statement :=
  statementsOf job.churchId i.now i.dialogue.drawn i.kept

def taken (i : Intake setup job) (ids : List Uuid) : List Statement :=
  i.candidates.filter fun s => ids.contains s.id

def duplicates (i : Intake setup job) (ids : List Uuid) : Nat :=
  i.lines.length - i.kept.length + (i.candidates.length - ids.eraseDups.length)

def storing (i : Intake setup job) (ids : List Uuid) : Dialogue :=
  [⟨.insertMany i.candidates, .ok ids⟩, ⟨.count (.lines "inserted" (i.taken ids).length), ()⟩,
    ⟨.count (.lines "duplicate" (i.duplicates ids)), ()⟩]

def summary (i : Intake setup job) (ids : List Uuid) (matched : Nat) : Summary where
  churchId := job.churchId
  bank := job.bank.snapshot
  account := job.account.snapshot
  month := job.month
  year := job.year
  uploadedBy := job.uploadedBy
  totalLines := i.lines.length
  inserted := (i.taken ids).length
  duplicates := i.duplicates ids
  matched
  pending := (i.taken ids).length - matched

end Intake

/-- What is said in an import, and what the import comes to. -/
inductive Imported (setup : ImportSetup) (job : ImportJob) :
    Dialogue → Program.Outcome (Reply Summary) → Prop
  | refused {d e} (hd : ∀ x ∈ d, Call.prepares x.request = true) :
    Imported setup job d (.returned (.error e))
  | unstored {e} (i : Intake setup job) :
    Imported setup job (i.dialogue ++ [⟨.insertMany i.candidates, .error e⟩])
      (.returned (.error e))
  | finished {ids tries} (i : Intake setup job) (ht : TriedAll (i.taken ids) tries) :
    Imported setup job (i.dialogue ++ (i.storing ids ++ said tries))
      (.returned (.ok (i.summary ids (matchCount tries))))
  | brokenOff {ids done s rest tries} (i : Intake setup job)
      (htaken : i.taken ids = done ++ s :: rest) (ht : TriedAll done tries)
      (hs : ¬ Matching.HasWindow s.postedAt.date) :
    Imported setup job (i.dialogue ++ (i.storing ids ++ said tries)) .aborted

theorem transcript_storeLines {opened : Opened} {o : Program.Outcome (Reply Summary)}
    (hlines : linesFrom setup job opened = .ok lines)
    (h : Transcript (storeLines job lines).run d o) :
    Imported setup job (⟨.openFile job.location, opened⟩ :: d) o := by
  obtain ⟨now, rest, rfl, h⟩ := h
  rcases transcript_bindReply (p := newLines job.churchId job.bank.id {} lines) h with
    ⟨kept, d₁, d₂, rfl, hkept, hrest⟩ | ⟨e, hkept, rfl⟩ | ⟨hkept, -⟩
  · have hlookups := ((within_newLines _ _ _ _).transcript hkept).2
    rcases transcript_bindLift hrest with ⟨new, d₃, d₄, rfl, hnew, hstore⟩ | ⟨hnew, -⟩
    · obtain ⟨hprepares, hlength, hnew⟩ := transcript_makeStatements hnew
      obtain rfl := Program.Outcome.returned.inj hnew
      have hdrawn : Dialogue.drawn (d₁ ++ d₃) = Dialogue.drawn d₃ := by
        rw [Dialogue.drawn_append, Dialogue.drawn_of_lookups hlookups, List.nil_append]
      -- the lookups draw no id, so the ids of the candidates are those drawn afterwards
      let i : Intake setup job := {
        dialogue := ⟨.openFile job.location, opened⟩ :: ⟨.now, now⟩ :: (d₁ ++ d₃)
        opened, lines, now, kept
        prepares := by
          refine List.forall_mem_cons.mpr ⟨rfl, List.forall_mem_cons.mpr ⟨rfl, ?_⟩⟩
          refine List.forall_mem_append.mpr ⟨?_, hprepares⟩
          exact fun x hx => Call.prepares_of_looksUp (hlookups x hx)
        mem_dialogue := List.mem_cons_self
        lines_eq := hlines
        kept_sublist := transcript_newLines hkept
        length_drawn := (congrArg List.length hdrawn).trans hlength }
      have hcandidates : i.candidates = statementsOf job.churchId now (Dialogue.drawn d₃) kept :=
        congrArg (statementsOf job.churchId now · kept) hdrawn
      have hdialogue : ∀ d', i.dialogue ++ d' =
          ⟨.openFile job.location, opened⟩ :: ⟨.now, now⟩ :: (d₁ ++ (d₃ ++ d')) :=
        fun d' => congrArg (_ :: _ :: ·) (List.append_assoc d₁ d₃ d')
      rw [← hcandidates] at hstore
      obtain ⟨a, rest, rfl, hstored⟩ := hstore
      rw [← hdialogue]
      cases a with
      | error e =>
        obtain ⟨rfl, rfl⟩ := hstored
        exact .unstored i
      | ok ids =>
        obtain ⟨_, _, rfl, _, _, rfl, hmatch⟩ := hstored
        rcases transcript_bindLift (p := reconcileAll (i.taken ids)) hmatch with
          ⟨n, d₅, _, rfl, hall, rfl, rfl⟩ | ⟨hall, rfl⟩
        · rcases transcript_reconcileAll hall with
            ⟨tries, ht, rfl, hn⟩ | ⟨_, _, _, _, _, _, _, _, ho⟩
          · obtain rfl := Program.Outcome.returned.inj hn
            rw [List.append_nil]
            exact .finished i ht
          · exact nomatch ho
        · rcases transcript_reconcileAll hall with
            ⟨_, _, _, ho⟩ | ⟨done, s, rest, tries, hs, ht, rfl, hw, -⟩
          · exact nomatch ho
          · exact .brokenOff i hs ht hw
    · exact nomatch (transcript_makeStatements hnew).2.2
  · refine .refused (List.forall_mem_cons.mpr ⟨rfl, List.forall_mem_cons.mpr ⟨rfl, ?_⟩⟩)
    exact fun x hx => Call.prepares_of_looksUp (((within_newLines _ _ _ _).transcript hkept).2 x hx)
  · obtain ⟨⟨_, ho⟩, -⟩ := (within_newLines _ _ _ _).transcript hkept
    exact nomatch ho

theorem transcript_importFile {o : Program.Outcome (Reply Summary)}
    (h : Transcript (importFile setup job).run d o) : Imported setup job d o := by
  rcases transcript_bindReply h with ⟨lines, d₁, d₂, rfl, hread, hp⟩ | ⟨e, hread, rfl⟩ | ⟨hread, -⟩
  · rcases transcript_readLines hread with ⟨opened, rfl, hlines⟩ | ⟨-, e, he⟩
    · exact transcript_storeLines (Program.Outcome.returned.inj hlines).symm hp
    · exact nomatch he
  · refine .refused ?_
    rcases transcript_readLines hread with ⟨opened, rfl, -⟩ | ⟨rfl, -⟩
    · exact List.forall_mem_singleton.mpr rfl
    · exact fun x hx => nomatch hx
  · rcases transcript_readLines hread with ⟨_, -, ho⟩ | ⟨-, _, ho⟩ <;> exact nomatch ho

inductive Discarded (location : String) : Dialogue → Prop
  | remote (h : isRemote location = true) : Discarded location []
  | removed {a} (h : isRemote location = false) : Discarded location [⟨.removeFile location, a⟩]

inductive Reported (topic : String) (summary : Summary) : Dialogue → Prop
  | sent : Reported topic summary [⟨.notify topic summary.toJson, .ok ()⟩]
  | unsent {e} : Reported topic summary [⟨.notify topic summary.toJson, .error e⟩,
      ⟨.count (.error "notification"), ()⟩]

inductive Closed (setup : ImportSetup) (job : ImportJob) : Reply Summary → Dialogue → Prop
  | succeeded {summary removal told} (hr : Discarded job.location removal)
      (ht : Reported setup.summaryTopic summary told) :
    Closed setup job (.ok summary) (removal ++ ⟨.count (.imported "success"), ()⟩ :: told)
  | failed {e removal} (hr : Discarded job.location removal) :
    Closed setup job (.error e)
      (removal ++ [⟨.count (.imported "failed"), ()⟩, ⟨.count (.error e.kind), ()⟩])

theorem transcript_discard {location : String} {o : Program.Outcome Unit}
    (h : (discard location).Transcript d o) : Discarded location d ∧ o = .returned () := by
  unfold discard at h
  cases hremote : isRemote location with
  | true =>
    rw [hremote] at h
    obtain ⟨rfl, rfl⟩ := h
    exact ⟨.remote hremote, rfl⟩
  | false =>
    rw [hremote] at h
    obtain ⟨a, _, rfl, rfl, rfl⟩ := h
    exact ⟨.removed hremote, rfl⟩

theorem transcript_report {topic : String} {summary : Summary} {o : Program.Outcome Unit}
    (h : (report topic summary).Transcript d o) : Reported topic summary d ∧ o = .returned () := by
  obtain ⟨a, rest, rfl, h⟩ := h
  cases a with
  | ok _ =>
    obtain ⟨rfl, rfl⟩ := h
    exact ⟨.sent, rfl⟩
  | error e =>
    obtain ⟨_, _, rfl, rfl, rfl⟩ := h
    exact ⟨.unsent, rfl⟩

/-- Whatever comes after the work of an import leaves its result as it is. -/
theorem transcript_handle {o : Program.Outcome (Reply Summary)}
    (h : (handle setup job).Transcript d o) :
    (∃ result work closing, d = work ++ closing ∧ o = .returned result ∧
      Transcript (importFile setup job).run work (.returned result) ∧
      Closed setup job result closing) ∨
    o = .aborted ∧ Transcript (importFile setup job).run d .aborted := by
  rcases transcript_bind h with ⟨result, work, d₂, rfl, hwork, hrest⟩ | ⟨hwork, rfl⟩
  · left
    rcases transcript_bind hrest with ⟨_, removal, d₃, rfl, hremoval, hclosing⟩ | ⟨hremoval, -⟩
    · obtain ⟨hremoval, -⟩ := transcript_discard hremoval
      refine ⟨result, work, _, rfl, ?_⟩
      cases result with
      | ok summary =>
        obtain ⟨_, rest, rfl, hreport⟩ := hclosing
        rcases transcript_bind (p := report setup.summaryTopic summary) hreport with
          ⟨_, told, _, rfl, ht, rfl, rfl⟩ | ⟨ht, -⟩
        · rw [List.append_nil]
          exact ⟨rfl, hwork, .succeeded hremoval (transcript_report ht).1⟩
        · exact nomatch (transcript_report ht).2
      | error e =>
        obtain ⟨_, _, rfl, _, _, rfl, rfl, rfl⟩ := hclosing
        exact ⟨rfl, hwork, .failed hremoval⟩
    · exact nomatch (transcript_discard hremoval).2
  · exact .inr ⟨rfl, hwork⟩

inductive Retried : Dialogue → Reply Outcome → Prop
  | refused {d e} (hd : ∀ x ∈ d, Call.fetches x.request = true) : Retried d (.error e)
  | failed {churchId id s t told e} (h : Reconciled s told ⟨t, .error e⟩) :
    Retried (⟨.findStatement churchId id, .ok (some s)⟩ :: told) (.error e)
  | retried {churchId id s t told outcome} (h : Reconciled s told ⟨t, .ok outcome⟩) :
    Retried (⟨.findStatement churchId id, .ok (some s)⟩ ::
      (told ++ [⟨.count (.reconciliation "retry" outcome.matched), ()⟩])) (.ok outcome)

inductive Linked (churchId id recordId : String) : Dialogue → Reply Statement → Prop
  | refused {d e} (hd : ∀ x ∈ d, Call.fetches x.request = true) :
    Linked churchId id recordId d (.error e)
  | unstored {uuid s record now e} (hid : Uuid.ofString? id = some uuid) :
    Linked churchId id recordId [⟨.findStatement churchId uuid, .ok (some s)⟩,
      ⟨.findRecord churchId recordId, .ok (some record)⟩, ⟨.now, now⟩,
      ⟨.updateReconciliation (s.markReconciled record.id now), .error e⟩] (.error e)
  | linked {uuid s record now told} (hid : Uuid.ofString? id = some uuid)
      (ht : Announced record told) :
    Linked churchId id recordId (⟨.findStatement churchId uuid, .ok (some s)⟩ ::
      ⟨.findRecord churchId recordId, .ok (some record)⟩ :: ⟨.now, now⟩ ::
      ⟨.updateReconciliation (s.markReconciled record.id now), .ok ()⟩ ::
      ⟨.count (.reconciliation "manual" true), ()⟩ :: told) (.ok (s.markReconciled record.id now))

variable {churchId id recordId : String}

theorem transcript_fetch {o : Program.Outcome (Reply Statement)}
    (h : Transcript (fetch churchId id).run d o) :
    (∃ e, o = .returned (.error e) ∧ ∀ x ∈ d, Call.fetches x.request = true) ∨
      ∃ uuid s, Uuid.ofString? id = some uuid ∧
        d = [⟨.findStatement churchId uuid, .ok (some s)⟩] ∧ o = .returned (.ok s) := by
  unfold fetch at h
  cases hid : Uuid.ofString? id with
  | none =>
    rw [hid] at h
    obtain ⟨rfl, rfl⟩ := h
    exact .inl ⟨_, rfl, fun x hx => nomatch hx⟩
  | some uuid =>
    rw [hid] at h
    obtain ⟨a, rest, rfl, h⟩ := h
    rcases a with e | _ | s
    · obtain ⟨rfl, rfl⟩ := h
      exact .inl ⟨_, rfl, List.forall_mem_singleton.mpr rfl⟩
    · obtain ⟨rfl, rfl⟩ := h
      exact .inl ⟨_, rfl, List.forall_mem_singleton.mpr rfl⟩
    · obtain ⟨rfl, rfl⟩ := h
      exact .inr ⟨uuid, s, rfl, rfl, rfl⟩

theorem transcript_retry {o : Program.Outcome (Reply Outcome)}
    (h : Transcript (retry churchId id).run d o) :
    (∃ result, o = .returned result ∧ Retried d result) ∨
      o = .aborted ∧ ∃ uuid s, ¬ Matching.HasWindow s.postedAt.date ∧
        d = [⟨.findStatement churchId uuid, .ok (some s)⟩] := by
  rcases transcript_bindReply h with ⟨s, d₁, d₂, rfl, hfetch, hp⟩ | ⟨e, hfetch, rfl⟩ | ⟨hfetch, -⟩
  · rcases transcript_fetch hfetch with ⟨_, ho, -⟩ | ⟨uuid, _, -, rfl, hs⟩
    · exact nomatch ho
    · obtain rfl := Except.ok.inj (Program.Outcome.returned.inj hs)
      rcases transcript_bindLift hp with
        ⟨⟨t, result⟩, told, d₃, rfl, hattempt, hend⟩ | ⟨hattempt, rfl⟩
      · rcases transcript_reconcile hattempt with ⟨_, ht, hattempt⟩ | ⟨-, -, ho⟩
        · obtain rfl := Program.Outcome.returned.inj ht
          left
          cases result with
          | error e =>
            obtain ⟨rfl, rfl⟩ := hend
            rw [List.append_nil]
            exact ⟨_, rfl, .failed hattempt⟩
          | ok outcome =>
            obtain ⟨_, _, rfl, rfl, rfl⟩ := hend
            exact ⟨_, rfl, .retried hattempt⟩
        · exact nomatch ho
      · rcases transcript_reconcile hattempt with ⟨_, ho, -⟩ | ⟨hwindow, rfl, -⟩
        · exact nomatch ho
        · exact .inr ⟨rfl, uuid, s, hwindow, rfl⟩
  · rcases transcript_fetch hfetch with ⟨_, -, hd⟩ | ⟨_, _, -, -, ho⟩
    · exact .inl ⟨_, rfl, .refused hd⟩
    · exact nomatch ho
  · rcases transcript_fetch hfetch with ⟨_, ho, -⟩ | ⟨_, _, -, -, ho⟩ <;> exact nomatch ho

theorem transcript_link {o : Program.Outcome (Reply Statement)}
    (h : Transcript (link churchId id recordId).run d o) :
    ∃ result, o = .returned result ∧ Linked churchId id recordId d result := by
  rcases transcript_bindReply h with ⟨s, d₁, d₂, rfl, hfetch, hp⟩ | ⟨e, hfetch, rfl⟩ | ⟨hfetch, -⟩
  · rcases transcript_fetch hfetch with ⟨_, ho, -⟩ | ⟨uuid, _, hid, rfl, hs⟩
    · exact nomatch ho
    · obtain rfl := Except.ok.inj (Program.Outcome.returned.inj hs)
      obtain ⟨a, rest, rfl, hfound⟩ := hp
      rcases a with e | _ | record
      · obtain ⟨rfl, rfl⟩ := hfound
        exact ⟨_, rfl, .refused (by simp [Call.fetches])⟩
      · obtain ⟨rfl, rfl⟩ := hfound
        exact ⟨_, rfl, .refused (by simp [Call.fetches])⟩
      · obtain ⟨now, rest, rfl, a, rest, rfl, hstored⟩ := hfound
        rcases a with e | _
        · obtain ⟨rfl, rfl⟩ := hstored
          exact ⟨_, rfl, .unstored hid⟩
        · obtain ⟨_, rest, rfl, htold⟩ := hstored
          rcases transcript_bindLift (p := announce record) htold with
            ⟨_, told, _, rfl, ht, rfl, rfl⟩ | ⟨ht, -⟩
          · rw [List.append_nil]
            exact ⟨_, rfl, .linked hid (transcript_announce ht).1⟩
          · exact nomatch (transcript_announce ht).2
  · rcases transcript_fetch hfetch with ⟨_, -, hd⟩ | ⟨_, _, -, -, ho⟩
    · exact ⟨_, rfl, .refused hd⟩
    · exact nomatch ho
  · rcases transcript_fetch hfetch with ⟨_, ho, -⟩ | ⟨_, _, -, -, ho⟩ <;> exact nomatch ho

end Service

end BankReconciliation
