import BankReconciliation.Proofs.Interleaving.Service
import BankReconciliation.Proofs.Matching

/-! Operations stay within their church. Whatever an import, a retry, a link by hand or a listing
asks of its collaborators is about the church that it serves, and about its own file. -/

namespace BankReconciliation

open BankReconciliation.Task

/-- Whom an operation serves: a church, with the file that it imports and the token with which it
goes on with a listing. -/
structure Party where
  churchId : String
  location : Option String := none
  token : Option Uuid := none

def Call.concerns (party : Party) : Call → Bool
  | .existsByFitId churchId _ _ => churchId == party.churchId
  | .existsByHash churchId _ _ => churchId == party.churchId
  | .insertMany statements => statements.all (·.churchId == party.churchId)
  | .findStatement churchId _ => churchId == party.churchId
  | .updateReconciliation s => s.churchId == party.churchId
  | .list filter _ token => filter.churchId == party.churchId && token == party.token
  | .findOne filter => filter.churchId == party.churchId
  | .findRecord churchId _ => churchId == party.churchId
  | .dispatchStatus record _ => record.churchId == party.churchId
  | .findBank _ | .findAccount .. | .enqueue _ => false
  | .openFile location => party.location == some location
  | .removeFile location => party.location == some location && !isRemote location
  | .notify .. | .now | .newId | .count _ => true

namespace Task

variable {α β : Type} {party : Party}

def Keeping (party : Party) : Unit → (c : Call) → c.Answer → Unit → Prop :=
  fun _ c _ _ => c.concerns party = true

/-- A task stays with its party, whatever its calls get for an answer, and comes to no value but
those that `ends` permits. -/
def KeepsTo (party : Party) (ends : α → Prop) (p : Task α) : Prop :=
  p.Follows (Keeping party) (fun o _ => ∀ a, o = .returned a → ends a) ()

variable {ends : α → Prop} {ends' : β → Prop}

theorem keepsTo_done {a : α} (h : ends a) : KeepsTo party ends (.done a) := by
  rintro b hb
  obtain rfl := Program.Outcome.returned.inj hb
  exact h

theorem keepsTo_abort : KeepsTo party ends (.abort : Task α) :=
  fun _ h => nomatch h

theorem keepsTo_call {c : Call} {next : c.Answer → Task α} (hc : c.concerns party = true)
    (hnext : ∀ a, Call.CanGet c a → (next a).KeepsTo party ends) :
    KeepsTo party ends (.call c next) :=
  fun a hget => ⟨(), hc, hnext a hget⟩

theorem KeepsTo.next {c : Call} {next : c.Answer → Task α} {a : c.Answer}
    (hp : KeepsTo party ends (.call c next)) (hget : Call.CanGet c a) :
    c.concerns party = true ∧ (next a).KeepsTo party ends := by
  obtain ⟨_, hc, hnext⟩ := hp a hget
  exact ⟨hc, hnext⟩

def Whatever {α : Type} (_ : α) : Prop := True

theorem keepsTo_request {c : Call} (hc : c.concerns party = true) :
    (Task.request c).KeepsTo party Whatever :=
  keepsTo_call hc fun _ _ => keepsTo_done trivial

theorem KeepsTo.bind {p : Task α} {f : α → Task β} (hp : p.KeepsTo party ends)
    (hf : ∀ a, ends a → (f a).KeepsTo party ends') : (p >>= f).KeepsTo party ends' := by
  refine Follows.bind (Follows.mono hp ?_)
  rintro (a | _) g he
  · exact hf a (he a rfl)
  · exact fun _ h => nomatch h

theorem KeepsTo.map {p : Task α} (f : α → β) (hp : p.KeepsTo party ends)
    (hf : ∀ a, ends a → ends' (f a)) : (f <$> p).KeepsTo party ends' := by
  rw [map_eq_pure_bind]
  exact hp.bind fun a ha => keepsTo_done (hf a ha)

/-- The values of a reply that is not an error. -/
def Succeeding (ends : α → Prop) (reply : Reply α) : Prop := ∀ a, reply = .ok a → ends a

theorem succeeding_error {e : ServiceError} : Succeeding ends (.error e) := fun _ h => nomatch h

theorem succeeding_ok {a : α} (h : ends a) : Succeeding ends (.ok a) := by
  rintro b hb
  obtain rfl := Except.ok.inj hb
  exact h

theorem succeeding_whatever (reply : Reply α) : Succeeding Whatever reply :=
  fun _ _ => trivial

theorem KeepsTo.bindReply {p : Operation α} {f : α → Operation β}
    (hp : KeepsTo party (Succeeding ends) p.run)
    (hf : ∀ a, ends a → KeepsTo party (Succeeding ends') (f a).run) :
    KeepsTo party (Succeeding ends') (p >>= f).run := by
  rw [ExceptT.run_bind]
  refine hp.bind ?_
  rintro (e | a) ha
  · exact keepsTo_done succeeding_error
  · exact hf a (ha a rfl)

theorem KeepsTo.bindLift {p : Task α} {f : α → Operation β} (hp : p.KeepsTo party ends)
    (hf : ∀ a, ends a → KeepsTo party (Succeeding ends') (f a).run) :
    KeepsTo party (Succeeding ends') (ExceptT.lift p >>= f : Operation β).run := by
  rw [Program.lift_bind_run]
  exact hp.bind hf

theorem keepsTo_of_within {p : Task α} (h : ∀ a, ends a)
    (hp : Program.Within (I := Collaborators) (Call.concerns party) p) :
    p.KeepsTo party ends := by
  induction p with
  | done a => exact keepsTo_done (h a)
  | abort => exact hp.elim
  | call c next ih => exact keepsTo_call hp.1 fun a _ => ih a (hp.2 a)

end Task

namespace Service

section

variable {party : Party} {s : Statement}

theorem keepsTo_announce {record : LedgerRecord} (h : record.churchId = party.churchId) :
    (announce record).KeepsTo party Whatever := by
  refine keepsTo_call (beq_iff_eq.mpr h) fun reply _ => ?_
  cases reply with
  | ok _ => exact keepsTo_done trivial
  | error _ => exact keepsTo_call rfl fun _ _ => keepsTo_done trivial

theorem keepsTo_settle {record : LedgerRecord} (hs : s.churchId = party.churchId)
    (hrecord : record.churchId = party.churchId) : (settle s record).KeepsTo party Whatever := by
  refine keepsTo_call rfl fun now _ => ?_
  refine keepsTo_call (beq_iff_eq.mpr hs) fun reply _ => ?_
  cases reply with
  | ok _ => exact (keepsTo_announce hrecord).bind fun _ _ => keepsTo_done trivial
  | error e => exact keepsTo_done trivial

theorem keepsTo_unmatch (hs : s.churchId = party.churchId) :
    (unmatch s).KeepsTo party Whatever := by
  refine keepsTo_call rfl fun now _ => ?_
  refine keepsTo_call (beq_iff_eq.mpr hs) fun reply _ => ?_
  cases reply with
  | ok _ => exact keepsTo_done trivial
  | error e => exact keepsTo_done trivial

theorem keepsTo_reconcile (hs : s.churchId = party.churchId) :
    (reconcile s).KeepsTo party Whatever := by
  unfold reconcile
  cases hf : Matching.filterFor? s with
  | none => exact keepsTo_abort
  | some filter =>
    have hfilter : filter.churchId = party.churchId := by
      obtain ⟨_, _, _, _, _, _, rfl⟩ := Matching.filterFor?_eq_some_iff.mp hf
      exact hs
    refine keepsTo_call (beq_iff_eq.mpr hfilter) ?_
    rintro reply ⟨m, rfl⟩
    cases hfound : m.ledger.findOne filter with
    | none =>
      simp only [Memory.answer, hfound]
      exact keepsTo_unmatch hs
    | some record =>
      have hrecord : record.churchId = party.churchId :=
        (Matching.churchId_of_accepts hf (Store.Ledger.mem_of_findOne hfound).2).trans hs
      simp only [Memory.answer, hfound]
      exact keepsTo_settle hs hrecord

theorem keepsTo_fetch (churchId id : String) (hchurch : churchId = party.churchId) :
    KeepsTo party (Succeeding fun s => s.churchId = party.churchId) (fetch churchId id).run := by
  unfold fetch
  cases Uuid.ofString? id with
  | none => exact keepsTo_done succeeding_error
  | some id =>
    refine keepsTo_call (beq_iff_eq.mpr hchurch) ?_
    rintro reply ⟨m, rfl⟩
    cases hfound : m.statements.find? churchId id with
    | none =>
      simp only [Memory.answer, hfound]
      exact keepsTo_done succeeding_error
    | some s =>
      have hname : s.name = (churchId, id) := Statement.isNamed_iff.mp (List.find?_some hfound)
      simp only [Memory.answer, hfound]
      exact keepsTo_done (succeeding_ok ((congrArg Prod.fst hname).trans hchurch))

theorem keepsTo_retry (churchId id : String) (hchurch : churchId = party.churchId) :
    KeepsTo party (Succeeding Whatever) (retry churchId id).run := by
  refine (keepsTo_fetch churchId id hchurch).bindReply fun s hs => ?_
  refine (keepsTo_reconcile hs).bindLift fun attempt _ => ?_
  rcases attempt with ⟨_, (_ | outcome)⟩
  · exact keepsTo_done succeeding_error
  · exact keepsTo_call rfl fun _ _ => keepsTo_done (succeeding_whatever _)

theorem keepsTo_link (churchId id recordId : String) (hchurch : churchId = party.churchId) :
    KeepsTo party (Succeeding Whatever) (link churchId id recordId).run := by
  refine (keepsTo_fetch churchId id hchurch).bindReply fun s hs => ?_
  refine keepsTo_call (beq_iff_eq.mpr hchurch) ?_
  rintro reply ⟨m, rfl⟩
  cases hfound : m.ledger.find? churchId recordId with
  | none =>
    simp only [Memory.answer, hfound]
    exact keepsTo_done succeeding_error
  | some record =>
    have hrecord : record.churchId = party.churchId :=
      (congrArg Prod.fst (Store.Ledger.mem_of_find? hfound).2).trans hchurch
    simp only [Memory.answer, hfound]
    refine keepsTo_call rfl fun now _ => ?_
    refine keepsTo_call (beq_iff_eq.mpr hs) fun reply _ => ?_
    cases reply with
    | error e => exact keepsTo_done succeeding_error
    | ok _ =>
      refine keepsTo_call rfl fun _ _ => ?_
      exact (keepsTo_announce hrecord).bindLift fun _ _ => keepsTo_done (succeeding_whatever _)

/-- The identifier that a token asks to go on after. An empty token asks for the first page. -/
def cursorOf (token : Option String) : Option Uuid := (token.filter (· != "")).bind Uuid.ofString?

theorem keepsTo_list (filter : StatementFilter) (pageSize : Int32) (token : Option String)
    (hchurch : filter.churchId = party.churchId) (htoken : cursorOf token = party.token) :
    KeepsTo party (Succeeding Whatever) (list filter pageSize token).run := by
  have hcall : ∀ cursor, cursor = party.token →
      KeepsTo party (Succeeding Whatever) (Task.list filter pageSize cursor).run := by
    rintro cursor rfl
    have hconcerns : (Call.list filter pageSize party.token).concerns party = true := by
      simp [Call.concerns, hchurch]
    exact keepsTo_call hconcerns fun _ _ => keepsTo_done (succeeding_whatever _)
  unfold cursorOf at htoken
  unfold list
  split
  · rename_i htext
    rw [htext] at htoken
    exact hcall none htoken
  · rename_i text htext
    rw [htext, Option.bind_some] at htoken
    cases hid : Uuid.ofString? text with
    | none => exact keepsTo_done succeeding_error
    | some id => exact hcall (some id) (hid ▸ htoken)

theorem keepsTo_makeStatements (now : Instant) (lines : List Line) :
    (makeStatements party.churchId now lines).KeepsTo party
      (fun new => ∀ s ∈ new, s.churchId = party.churchId) := by
  induction lines with
  | nil => exact keepsTo_done (by simp)
  | cons l ls ih =>
    refine keepsTo_call rfl fun id _ => ?_
    refine KeepsTo.bind (p := makeStatements party.churchId now ls) ih fun new hnew => ?_
    exact keepsTo_done (List.forall_mem_cons.mpr ⟨rfl, hnew⟩)

theorem keepsTo_reconcileAll {new : List Statement}
    (hnew : ∀ s ∈ new, s.churchId = party.churchId) :
    (reconcileAll new).KeepsTo party Whatever := by
  induction new with
  | nil => exact keepsTo_done trivial
  | cons s ss ih =>
    obtain ⟨hs, hss⟩ := List.forall_mem_cons.mp hnew
    have hone : (reconcileOne s).KeepsTo party Whatever := by
      refine (keepsTo_reconcile hs).bind fun attempt _ => ?_
      rcases attempt with ⟨_, (_ | outcome)⟩
      · exact keepsTo_call rfl fun _ _ => keepsTo_done trivial
      · exact keepsTo_call rfl fun _ _ => keepsTo_done trivial
    exact hone.bind fun _ _ => (ih hss).bind fun _ _ => keepsTo_done trivial

theorem keepsTo_storeLines (job : ImportJob) (lines : List Line)
    (hchurch : job.churchId = party.churchId) :
    KeepsTo party (Succeeding Whatever) (storeLines job lines).run := by
  have hlookups : Program.Within (I := Collaborators) (Call.concerns party)
      (newLines job.churchId job.bank.id {} lines).run :=
    within_newLines_of (by simp [Call.concerns, hchurch]) (by simp [Call.concerns, hchurch]) {}
      lines
  unfold storeLines
  rw [hchurch] at hlookups ⊢
  refine (keepsTo_request rfl).bindLift fun now _ => ?_
  refine (keepsTo_of_within succeeding_whatever hlookups).bindReply fun kept _ => ?_
  refine (keepsTo_makeStatements now kept).bindLift fun candidates hcandidates => ?_
  have hinsert : (Call.insertMany candidates).concerns party = true := by
    simpa [Call.concerns] using hcandidates
  refine keepsTo_call hinsert fun reply _ => ?_
  cases reply with
  | error e => exact keepsTo_done succeeding_error
  | ok ids =>
    refine keepsTo_call rfl fun _ _ => ?_
    refine keepsTo_call rfl fun _ _ => ?_
    have hinserted : ∀ s ∈ candidates.filter (fun s => ids.contains s.id),
        s.churchId = party.churchId := fun s hs => hcandidates s (List.mem_of_mem_filter hs)
    exact (keepsTo_reconcileAll hinserted).bindLift fun _ _ => keepsTo_done (succeeding_whatever _)

theorem keepsTo_readLines (setup : ImportSetup) (job : ImportJob)
    (hlocation : party.location = some job.location) :
    KeepsTo party (Succeeding Whatever) (readLines setup job).run := by
  unfold readLines
  split
  · exact keepsTo_done succeeding_error
  · have hopen : (Call.openFile job.location).concerns party = true := beq_iff_eq.mpr hlocation
    refine (keepsTo_request hopen).bindLift fun opened _ => ?_
    split
    · exact keepsTo_done succeeding_error
    · exact keepsTo_done (succeeding_whatever _)

theorem keepsTo_discard (location : String) (hlocation : party.location = some location) :
    (discard location).KeepsTo party Whatever := by
  unfold discard
  split
  · exact keepsTo_done trivial
  · rename_i hlocal
    have hremove : (Call.removeFile location).concerns party = true := by
      simp [Call.concerns, hlocation, hlocal]
    exact keepsTo_call hremove fun _ _ => keepsTo_done trivial

theorem keepsTo_report (topic : String) (summary : Summary) :
    (report topic summary).KeepsTo party Whatever := by
  refine keepsTo_call rfl fun reply _ => ?_
  cases reply with
  | ok _ => exact keepsTo_done trivial
  | error _ => exact keepsTo_call rfl fun _ _ => keepsTo_done trivial

theorem keepsTo_handle (setup : ImportSetup) (job : ImportJob)
    (hchurch : job.churchId = party.churchId) (hlocation : party.location = some job.location) :
    (handle setup job).KeepsTo party Whatever := by
  have himport : KeepsTo party (Succeeding Whatever) (importFile setup job).run :=
    (keepsTo_readLines setup job hlocation).bindReply fun lines _ =>
      keepsTo_storeLines job lines hchurch
  refine himport.bind fun result _ => ?_
  refine (keepsTo_discard job.location hlocation).bind fun _ _ => ?_
  cases result with
  | ok summary =>
    refine keepsTo_call rfl fun _ _ => ?_
    exact (keepsTo_report setup.summaryTopic summary).bind fun _ _ => keepsTo_done trivial
  | error e =>
    refine keepsTo_call rfl fun _ _ => ?_
    exact keepsTo_call rfl fun _ _ => keepsTo_done trivial

end

def Request.party : Request → Party
  | .importFile job => { churchId := job.churchId, location := some job.location }
  | .queueImport request => { churchId := request.churchId }
  | .retry churchId _ => { churchId }
  | .link churchId _ _ => { churchId }
  | .list filter _ token => { churchId := filter.churchId, token := cursorOf token }

def Request.isQueueing : Request → Bool
  | .queueImport _ => true
  | _ => false

/-- A request that is served at once stays with its party. -/
theorem keepsTo_task (setup : ImportSetup) {request : Request}
    (h : request.isQueueing = false) :
    (request.task setup).KeepsTo request.party Whatever := by
  cases request with
  | importFile job => exact (keepsTo_handle setup job rfl rfl).map _ fun _ _ => trivial
  | queueImport request => cases h
  | retry churchId id => exact (keepsTo_retry churchId id rfl).map _ fun _ _ => trivial
  | link churchId id recordId =>
    exact (keepsTo_link churchId id recordId rfl).map _ fun _ _ => trivial
  | list filter pageSize token =>
    exact (keepsTo_list filter pageSize token rfl rfl).map _ fun _ _ => trivial

end Service

end BankReconciliation
