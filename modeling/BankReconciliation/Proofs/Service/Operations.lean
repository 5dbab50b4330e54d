import BankReconciliation.Proofs.Interleaving.Service
import BankReconciliation.Proofs.Service.Import
import BankReconciliation.Proofs.Uuid

/-! What serving a request to its end does to the stores when nothing else happens meanwhile. -/

namespace BankReconciliation

namespace Memory

variable {m m' : Memory}

theorem SameStores.trans {m₁ m₂ m₃ : Memory} (h : m₁.SameStores m₂) (h' : m₂.SameStores m₃) :
    m₁.SameStores m₃ where
  statements := h'.statements.trans h.statements
  records := h'.records.trans h.records
  supply := h'.supply.trans h.supply
  issued := h'.issued.trans h.issued

theorem sameStores_of_looks {α : Type} {p : Task α} (hp : p.Looks) (m : Memory) :
    m.SameStores (p.run answer m).2 := by
  induction p generalizing m with
  | done a => exact .refl m
  | abort => exact .refl m
  | call c next ih =>
    exact (sameStores_of_isLook hp.1 m).trans (ih _ (hp.2 _) (answer c m).2)

def fetched (m : Memory) (churchId id : String) : Reply Statement :=
  match Uuid.ofString? id with
  | none => .error (.badRequest .invalidStatementId)
  | some id => (m.statements.find? churchId id).elim (.error (.notFound (.statementNotFound id))) .ok

/-- The memory after a statement was matched. -/
def retrying (m : Memory) (s : Statement) (ledger : Store.Ledger) : Memory :=
  { m with statements := m.statements.put s, ledger }

/-- The memory after a statement was bound to a record by hand. -/
def linking (m : Memory) (s : Statement) (r : LedgerRecord) : Memory :=
  { m with
    statements := m.statements.put (s.markReconciled r.id m.clock)
    ledger := m.ledger.dispatch r .reconciled }

theorem find?_of_fetched {churchId id : String} {s : Statement}
    (h : m.fetched churchId id = .ok s) :
    s.churchId = churchId ∧ m.statements.find? s.churchId s.id = some s := by
  unfold fetched at h
  split at h
  · cases h
  · rename_i uuid _
    cases hs : m.statements.find? churchId uuid with
    | none =>
      rw [hs] at h
      cases h
    | some t =>
      rw [hs] at h
      obtain rfl := Except.ok.inj h
      obtain ⟨rfl, rfl⟩ := Prod.mk.inj (Statement.isNamed_iff.mp (List.find?_some hs))
      exact ⟨rfl, hs⟩

theorem exists_put_of_fetched {churchId id : String} {s s' : Statement}
    (h : m.fetched churchId id = .ok s) (hname : s'.name = s.name) :
    ∃ before after, m.statements = before ++ s :: after ∧
      m.statements.put s' = before ++ s' :: after := by
  obtain ⟨hchurch, hid⟩ := Prod.mk.inj hname
  refine Store.Statements.exists_put ?_
  rw [hchurch, hid]
  exact (find?_of_fetched h).2

end Memory

namespace Service

open Memory

/-- What serving a request may do to the stores. -/
inductive Served (setup : ImportSetup) (m : Memory) : Request → Memory → Prop
  | unchanged {request m'} (h : m.SameStores m') : Served setup m request m'
  | imported {job lines m'} (hlines : parsedLines setup m.files job = .ok lines)
      (h : (m.importing job lines).SameStores m') : Served setup m (.importFile job) m'
  | retried {churchId id s s' ledger m'} (hs : m.fetched churchId id = .ok s)
      (ha : attempt? m.clock m.ledger s = some (s', ledger))
      (h : (m.retrying s' ledger).SameStores m') : Served setup m (.retry churchId id) m'
  | linked {churchId id recordId s r m'} (hs : m.fetched churchId id = .ok s)
      (hr : m.ledger.find? churchId recordId = some r) (h : (m.linking s r).SameStores m') :
    Served setup m (.link churchId id recordId) m'

variable {m m' : Memory} {churchId id recordId : String} {s s' : Statement}
  {ledger : Store.Ledger} {r : LedgerRecord} {e : ServiceError}

theorem run_fetch (m : Memory) (churchId id : String) :
    Program.run Memory.answer (fetch churchId id).run m =
      (.returned (m.fetched churchId id), m) := by
  unfold fetch fetched
  cases Uuid.ofString? id with
  | none => rfl
  | some uuid =>
    have hfind : Program.run Memory.answer (Task.findStatement churchId uuid).run m =
        (.returned (.ok (m.statements.find? churchId uuid)), m) := rfl
    refine (Program.run_bindReply_of_ok hfind _).trans ?_
    cases hs : m.statements.find? churchId uuid <;> simp only [hs] <;> rfl

theorem mem_names_of_fetched (h : m.fetched churchId id = .ok s) :
    s.name ∈ m.statements.map Statement.name :=
  List.mem_map_of_mem (List.mem_of_find?_eq_some (find?_of_fetched h).2)

theorem run_retry_of_error (h : m.fetched churchId id = .error e) :
    Program.run Memory.answer (retry churchId id).run m = (.returned (.error e), m) := by
  have hfetch := run_fetch m churchId id
  rw [h] at hfetch
  exact Program.run_bindReply_of_error hfetch _

theorem run_retry_of_attempt (h : m.fetched churchId id = .ok s)
    (ha : attempt? m.clock m.ledger s = some (s', ledger)) :
    ∃ metrics, Program.run Memory.answer (retry churchId id).run m =
      (.returned (.ok ⟨decide (s'.status = .reconciled), s'.recordId?⟩),
        { m.retrying s' ledger with metrics }) := by
  have hfetch := run_fetch m churchId id
  rw [h] at hfetch
  rw [retry, Program.run_bindReply_of_ok hfetch,
    Program.run_bindLift_of_returned (run_reconcile_of_attempt (mem_names_of_fetched h) ha)]
  exact ⟨_, rfl⟩

theorem run_retry_of_no_window (h : m.fetched churchId id = .ok s)
    (ha : attempt? m.clock m.ledger s = none) :
    Program.run Memory.answer (retry churchId id).run m = (.aborted, m) := by
  have hfetch := run_fetch m churchId id
  rw [h] at hfetch
  rw [retry, Program.run_bindReply_of_ok hfetch, Program.run_bindLift_of_aborted
    (run_reconcile_of_no_window (attempt?_eq_none_iff.mp ha) m)]

theorem run_link_of_error (h : m.fetched churchId id = .error e) :
    Program.run Memory.answer (link churchId id recordId).run m = (.returned (.error e), m) := by
  have hfetch := run_fetch m churchId id
  rw [h] at hfetch
  exact Program.run_bindReply_of_error hfetch _

theorem run_findRecord (m : Memory) (churchId recordId : String) :
    Program.run Memory.answer (Task.findRecord churchId recordId).run m =
      (.returned (.ok (m.ledger.find? churchId recordId)), m) := rfl

theorem run_link_of_no_record (h : m.fetched churchId id = .ok s)
    (hr : m.ledger.find? churchId recordId = none) :
    Program.run Memory.answer (link churchId id recordId).run m =
      (.returned (.error (.notFound (.recordNotFound recordId))), m) := by
  have hfetch := run_fetch m churchId id
  rw [h] at hfetch
  rw [link, Program.run_bindReply_of_ok hfetch, Program.run_bindReply_of_ok (run_findRecord m _ _),
    hr]
  rfl

theorem run_link_of_record (h : m.fetched churchId id = .ok s)
    (hr : m.ledger.find? churchId recordId = some r) :
    ∃ metrics, Program.run Memory.answer (link churchId id recordId).run m =
      (.returned (.ok (s.markReconciled r.id m.clock)), { m.linking s r with metrics }) := by
  have hfetch := run_fetch m churchId id
  rw [h] at hfetch
  have hname := mem_names_of_fetched h
  rw [← Statement.name_markReconciled s r.id m.clock] at hname
  have hrecord : Program.run Memory.answer (requireSome
      (.notFound (.recordNotFound recordId)) (m.ledger.find? churchId recordId)).run m =
      (.returned (.ok r), m) := by
    rw [hr]
    rfl
  rw [link, Program.run_bindReply_of_ok hfetch,
    Program.run_bindReply_of_ok (run_findRecord m _ _), Program.run_bindReply_of_ok hrecord,
    Program.run_bindLift_of_returned (run_now m),
    Program.run_bindReply_of_ok (run_updateReconciliation (Store.Statements.replace?_eq_put hname))]
  exact ⟨_, rfl⟩

/-- The identifier of a token is read back, and so every token that was given is answered. -/
theorem run_list (m : Memory) (filter : StatementFilter) (pageSize : Int32)
    (token : Option Uuid) :
    Program.run Memory.answer (list filter pageSize (token.map Uuid.render)).run m =
      (.returned (.ok (m.statements.page filter pageSize token)), m) := by
  cases token with
  | none => rfl
  | some id =>
    have htoken : (some id.render).filter (· != "") = some id.render := by
      simp [id.render_ne_empty]
    rw [Option.map_some, list, htoken]
    simp only [id.ofString?_render]
    rfl

/-- Whether it comes to its end or not, an import leaves the stores as its attempts left them. -/
theorem sameStores_importing {setup : ImportSetup} {job : ImportJob} {lines : List Line}
    (h : parsedLines setup m.files job = .ok lines) :
    (m.importing job lines).SameStores ((handle setup job).run Memory.answer m).2 := by
  by_cases hw : m.HasWindows job lines
  · obtain ⟨channel, metrics, hrun⟩ := run_handle_of_windows h hw
    rw [hrun]
    exact ⟨rfl, rfl, rfl, rfl⟩
  · obtain ⟨metrics, hrun⟩ := run_handle_of_no_windows h hw
    rw [hrun]
    exact ⟨rfl, rfl, rfl, rfl⟩

theorem served (setup : ImportSetup) (m : Memory) (request : Request) :
    Served setup m request ((request.task setup).run Memory.answer m).2 := by
  cases request with
  | importFile job =>
    rw [Request.task, Program.run_map_snd]
    cases hlines : parsedLines setup m.files job with
    | error e =>
      obtain ⟨metrics, hrun⟩ := run_handle_of_error hlines
      rw [hrun]
      exact .unchanged ⟨rfl, rfl, rfl, rfl⟩
    | ok lines => exact .imported hlines (sameStores_importing hlines)
  | queueImport request =>
    rw [Request.task, Program.run_map_snd]
    exact .unchanged (sameStores_of_looks (looks_requestImport _ _) m)
  | list filter pageSize token =>
    rw [Request.task, Program.run_map_snd]
    exact .unchanged (sameStores_of_looks (looks_list _ _ _) m)
  | retry churchId id =>
    rw [Request.task, Program.run_map_snd]
    cases hs : m.fetched churchId id with
    | error e =>
      rw [run_retry_of_error hs]
      exact .unchanged (.refl m)
    | ok s =>
      cases ha : attempt? m.clock m.ledger s with
      | none =>
        rw [run_retry_of_no_window hs ha]
        exact .unchanged (.refl m)
      | some p =>
        obtain ⟨metrics, hrun⟩ := run_retry_of_attempt hs ha
        rw [hrun]
        exact .retried hs ha ⟨rfl, rfl, rfl, rfl⟩
  | link churchId id recordId =>
    rw [Request.task, Program.run_map_snd]
    cases hs : m.fetched churchId id with
    | error e =>
      rw [run_link_of_error hs]
      exact .unchanged (.refl m)
    | ok s =>
      cases hr : m.ledger.find? churchId recordId with
      | none =>
        rw [run_link_of_no_record hs hr]
        exact .unchanged (.refl m)
      | some r =>
        obtain ⟨metrics, hrun⟩ := run_link_of_record hs hr
        rw [hrun]
        exact .linked hs hr ⟨rfl, rfl, rfl, rfl⟩

end Service

end BankReconciliation
