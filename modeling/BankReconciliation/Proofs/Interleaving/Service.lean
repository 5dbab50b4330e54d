import BankReconciliation.Proofs.Interleaving.Conduct
import BankReconciliation.Proofs.Service.NewLines

/-! Every operation of the service keeps to its turns, whatever happens between its calls. -/

namespace BankReconciliation

open BankReconciliation.Task

namespace Service

variable {byHand : Bool} {drawn : List Uuid} {known : List Statement} {s : Statement}

/-- An operation ends with nothing left half done. -/
def Settled {α : Type} (_ : Program.Outcome α) (g : Standing) : Prop := g.stage = .free

theorem looks_requireSome {α : Type} (e : ServiceError) (a : Option α) :
    Looks (requireSome e a).run := by
  cases a <;> trivial

theorem looks_newLines (churchId bankId : String) (seen : Seen) (lines : List Line) :
    Looks (newLines churchId bankId seen lines).run := by
  refine Looks.of_within (within_newLines churchId bankId seen lines) ?_
  intro c hc
  cases c with
  | existsByFitId _ _ _ | existsByHash _ _ _ => rfl
  | _ => cases hc

theorem looks_readLines (setup : ImportSetup) (job : ImportJob) :
    Looks (readLines setup job).run := by
  unfold readLines
  split
  · trivial
  · refine Looks.bindReply (looks_call rfl) ?_
    intro opened
    split <;> trivial

theorem looks_discard (location : String) : Looks (discard location) := by
  unfold discard
  split
  · trivial
  · exact Looks.bind (looks_call rfl) fun _ => trivial

theorem looks_report (topic : String) (summary : Summary) : Looks (report topic summary) := by
  refine Looks.bind (looks_call rfl) ?_
  intro reply
  cases reply with
  | ok _ => trivial
  | error _ => exact looks_call rfl

theorem looks_requestImport (registry : Registry) (request : ImportRequest) :
    Looks (requestImport registry request).run := by
  unfold requestImport
  split
  · trivial
  · refine Looks.bindReply (looks_call rfl) fun found => ?_
    refine Looks.bindReply (looks_requireSome _ _) fun bank => ?_
    refine Looks.bindReply (looks_requireSome _ _) fun accountId => ?_
    refine Looks.bindReply (looks_call rfl) fun found => ?_
    refine Looks.bindReply (looks_requireSome _ _) fun account => ?_
    split
    · trivial
    · refine Looks.bindLift (looks_call rfl) fun queuedAt => ?_
      exact Looks.bindReply (looks_call rfl) fun _ => trivial

theorem looks_list (filter : StatementFilter) (pageSize : Int32) (token : Option String) :
    Looks (list filter pageSize token).run := by
  unfold list
  split
  · exact looks_call rfl
  · cases Uuid.ofString? _ with
    | none => trivial
    | some id => exact looks_call rfl

theorem follows_announce {record : LedgerRecord} {ends : Program.Outcome Unit → Standing → Prop}
    (he : ends (.returned ()) ⟨byHand, drawn, known, .free⟩) :
    (announce record).Follows Turn ends ⟨byHand, drawn, known, .bound record.key⟩ := by
  intro a _
  refine ⟨⟨byHand, drawn, known, .free⟩, .announce rfl, ?_⟩
  cases a with
  | ok _ => exact he
  | error _ => exact fun _ _ => ⟨_, .look rfl rfl, he⟩

theorem follows_settle {record : LedgerRecord} {ends : Program.Outcome Attempt → Standing → Prop}
    (he : ∀ o, ends o ⟨byHand, drawn, known, .free⟩) :
    (settle s record).Follows Turn ends ⟨byHand, drawn, known, .chosen s (some record)⟩ := by
  intro t _
  refine ⟨_, .clock rfl, ?_⟩
  intro a _
  refine ⟨_, .bind rfl, ?_⟩
  cases a with
  | ok _ => exact Follows.bind (p := announce record) (follows_announce (he (.returned _)))
  | error e => exact he _

theorem follows_unmatch {ends : Program.Outcome Attempt → Standing → Prop}
    (he : ∀ o, ends o ⟨byHand, drawn, known, .free⟩) :
    (unmatch s).Follows Turn ends ⟨byHand, drawn, known, .chosen s none⟩ := by
  intro t _
  refine ⟨_, .clock rfl, ?_⟩
  intro a _
  refine ⟨_, .unbind rfl, ?_⟩
  cases a with
  | ok _ => exact he _
  | error e => exact he _

theorem follows_reconcile {ends : Program.Outcome Attempt → Standing → Prop} (hs : s ∈ known)
    (he : ∀ o, ends o ⟨false, drawn, known, .free⟩) :
    (reconcile s).Follows Turn ends ⟨false, drawn, known, .free⟩ := by
  unfold reconcile
  cases hf : Matching.filterFor? s with
  | none => exact he .aborted
  | some filter =>
    rintro a ⟨m, rfl⟩
    refine ⟨_, .search rfl rfl hs hf, ?_⟩
    cases hc : m.ledger.findOne filter with
    | none =>
      simp only [Memory.answer, hc]
      exact follows_unmatch he
    | some record =>
      simp only [Memory.answer, hc]
      exact follows_settle he

theorem follows_fetch {churchId id : String}
    {ends : Program.Outcome (Reply Statement) → Standing → Prop}
    (hok : ∀ s, s.churchId = churchId → ends (.returned (.ok s)) ⟨byHand, drawn, s :: known, .free⟩)
    (herr : ∀ e, ends (.returned (.error e)) ⟨byHand, drawn, known, .free⟩) :
    Follows Turn ends (fetch churchId id).run ⟨byHand, drawn, known, .free⟩ := by
  unfold fetch
  cases Uuid.ofString? id with
  | none => exact herr _
  | some id =>
    rintro a ⟨m, rfl⟩
    cases hf : m.statements.find? churchId id with
    | none =>
      simp only [Memory.answer, hf]
      exact ⟨_, .look rfl rfl, herr _⟩
    | some s =>
      have hname : s.name = (churchId, id) := Statement.isNamed_iff.mp (List.find?_some hf)
      simp only [Memory.answer, hf]
      exact ⟨_, .fetch rfl hname, hok s (congrArg Prod.fst hname)⟩

theorem follows_retry (churchId id : String) :
    Follows Turn Settled (retry churchId id).run {} := by
  refine Follows.bindReply (follows_fetch (fun s _ => ?_) fun _ => rfl)
  refine Follows.bindLift (follows_reconcile (by simp) ?_)
  rintro (⟨_, (_ | outcome)⟩ | _)
  · rfl
  · intro _ _
    exact ⟨_, .look rfl rfl, rfl⟩
  · rfl

theorem follows_link (churchId id recordId : String) :
    Follows Turn Settled (link churchId id recordId).run { byHand := true } := by
  refine Follows.bindReply (follows_fetch (fun s hs => ?_) fun _ => rfl)
  subst hs
  rintro a ⟨m, rfl⟩
  cases hf : m.ledger.find? s.churchId recordId with
  | none =>
    simp only [Memory.answer, hf]
    exact ⟨_, .look rfl rfl, rfl⟩
  | some record =>
    have hkey := (Store.Ledger.mem_of_find? hf).2
    simp only [Memory.answer, hf]
    refine ⟨_, .pick rfl rfl (by simp) hkey, ?_⟩
    intro t _
    refine ⟨_, .clock rfl, ?_⟩
    intro a _
    refine ⟨_, .bind rfl, ?_⟩
    cases a with
    | error e => rfl
    | ok _ =>
      intro a _
      refine ⟨_, .tally rfl rfl, ?_⟩
      exact Follows.bindLift (p := announce record) (follows_announce rfl)

theorem follows_makeStatements {churchId : String} {now : Instant} {lines : List Line}
    {ends : Program.Outcome (List Statement) → Standing → Prop}
    (he : ∀ new : List Statement,
      (∀ s ∈ new, s.reconciliation = .pending ∧ s.churchId = churchId) →
      ends (.returned new) ⟨byHand, (new.map (·.id)).reverse ++ drawn, known, .free⟩) :
    (makeStatements churchId now lines).Follows Turn ends ⟨byHand, drawn, known, .free⟩ := by
  induction lines generalizing drawn ends with
  | nil => exact he [] (by simp)
  | cons l ls ih =>
    intro id _
    refine ⟨_, .draw rfl, Follows.bind (p := makeStatements churchId now ls) (ih ?_)⟩
    intro new hnew
    have hall : ∀ s ∈ Statement.ofLine id churchId now l :: new,
        s.reconciliation = .pending ∧ s.churchId = churchId := by
      intro s hs
      rcases List.mem_cons.mp hs with rfl | hs
      · exact ⟨rfl, rfl⟩
      · exact hnew s hs
    have hend := he _ hall
    rw [List.map_cons, List.reverse_cons, List.append_assoc, List.singleton_append] at hend
    exact hend

theorem follows_reconcileOne {ends : Program.Outcome Bool → Standing → Prop} (hs : s ∈ known)
    (he : ∀ o, ends o ⟨false, drawn, known, .free⟩) :
    (reconcileOne s).Follows Turn ends ⟨false, drawn, known, .free⟩ := by
  refine Follows.bind (follows_reconcile hs ?_)
  rintro (⟨_, (_ | outcome)⟩ | _)
  · exact fun _ _ => ⟨_, .look rfl rfl, he _⟩
  · exact fun _ _ => ⟨_, .look rfl rfl, he _⟩
  · exact he _

theorem follows_reconcileAll {new : List Statement} {ends : Program.Outcome Nat → Standing → Prop}
    (hs : ∀ s ∈ new, s ∈ known) (he : ∀ o, ends o ⟨false, drawn, known, .free⟩) :
    (reconcileAll new).Follows Turn ends ⟨false, drawn, known, .free⟩ := by
  induction new generalizing ends with
  | nil => exact he _
  | cons s ss ih =>
    refine Follows.bind (follows_reconcileOne (hs s (by simp)) ?_)
    rintro (_ | _)
    · refine Follows.bind (ih (fun t ht => hs t (by simp [ht])) ?_)
      rintro (_ | _) <;> exact he _
    · exact he _

theorem follows_storeLines (job : ImportJob) (lines : List Line) :
    Follows Turn Settled (storeLines job lines).run {} := by
  unfold storeLines
  refine Follows.bindLift ((looks_call rfl).follows rfl ?_)
  rintro (now | _)
  · refine Follows.bindReply ((looks_newLines _ _ _ _).follows rfl ?_)
    rintro ((e | kept) | _)
    · rfl
    · refine Follows.bindLift (follows_makeStatements fun new hnew => ?_)
      rintro a ⟨m, rfl⟩
      refine ⟨_, .insert job.churchId rfl (by simp) hnew, ?_⟩
      intro _ _
      refine ⟨_, .look rfl rfl, ?_⟩
      intro _ _
      refine ⟨_, .look rfl rfl, ?_⟩
      refine Follows.bindLift (p := reconcileAll _) (follows_reconcileAll ?_ ?_)
      · intro s hs
        exact List.mem_append_left _ hs
      · rintro (_ | _) <;> rfl
    · rfl
  · rfl

theorem follows_handle (setup : ImportSetup) (job : ImportJob) :
    (handle setup job).Follows Turn Settled {} := by
  have himport : Follows Turn Settled (importFile setup job).run {} := by
    refine Follows.bindReply ((looks_readLines setup job).follows rfl ?_)
    rintro ((e | lines) | _)
    · rfl
    · exact follows_storeLines job lines
    · rfl
  refine Follows.bind (himport.mono ?_)
  rintro (result | _) ⟨byHand, drawn, known, stage⟩ hg
  · refine Follows.bind ((looks_discard _).follows hg ?_)
    rintro (_ | _)
    · cases result with
      | ok summary =>
        intro _ _
        refine ⟨_, .look hg rfl, ?_⟩
        refine Follows.bind (p := report _ _) ((looks_report _ _).follows hg ?_)
        rintro (_ | _) <;> exact hg
      | error e =>
        intro _ _
        refine ⟨_, .look hg rfl, ?_⟩
        intro _ _
        exact ⟨_, .look hg rfl, hg⟩
    · exact hg
  · exact hg

/-- Every operation keeps the rules from its start on. -/
theorem follows_task (setup : ImportSetup) (request : Request) :
    (request.task setup).Follows Turn Settled { byHand := request.isLink } := by
  have hmap : ∀ {α : Type} {p : Task α} {g : Standing} (f : α → Response),
      p.Follows Turn Settled g → (f <$> p).Follows Turn Settled g := by
    intro α p g f hp
    refine Follows.map f (hp.mono ?_)
    rintro (_ | _) g hg <;> exact hg
  cases request with
  | importFile job => exact hmap .imported (follows_handle setup job)
  | queueImport request =>
    exact hmap .queued ((looks_requestImport _ _).follows rfl fun _ => rfl)
  | retry churchId id => exact hmap .retried (follows_retry churchId id)
  | link churchId id recordId => exact hmap .linked (follows_link churchId id recordId)
  | list filter pageSize token =>
    exact hmap .listed ((looks_list _ _ _).follows rfl fun _ => rfl)

end Service

end BankReconciliation
