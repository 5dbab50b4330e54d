import BankReconciliation.Proofs.Service.History

/-! Requests that fail. Whatever is found wrong is found before anything is written, so that a
request which ends with an error leaves all that the service holds as it was. -/

namespace BankReconciliation

/-- The job that a request asks for, for the bank and the account that it was found to name. -/
def ImportRequest.job (request : ImportRequest) (bank : Bank) (account : Account) (now : Instant) :
    ImportJob where
  churchId := request.churchId
  bank
  account
  month := request.month
  year := request.year
  location := request.location
  uploadedBy := request.uploadedBy
  queuedAt := now

namespace Memory

/-- Memories with the same statements, ledger, queue and notices. -/
structure SameHoldings (m m' : Memory) : Prop where
  statements : m'.statements = m.statements
  ledger : m'.ledger = m.ledger
  worker : m'.worker = m.worker
  channel : m'.channel = m.channel

/-- The job that a request for an import asks for, or what is wrong with the request. -/
def preflight (m : Memory) (registry : Registry) (request : ImportRequest) : Reply ImportJob :=
  if request.month < 1 ∨ 12 < request.month then
    .error (.badRequest (.invalidMonth request.month.toInt))
  else
    match (m.directory.findBank request.bankId).filter (·.churchId == request.churchId) with
    | none => .error (.notFound (.bankNotFound request.bankId))
    | some bank =>
      match bank.accountId with
      | none => .error (.badRequest (.bankWithoutAccount bank.name))
      | some accountId =>
        match m.directory.findAccount request.churchId accountId with
        | none => .error (.notFound (.accountNotFound accountId))
        | some account =>
          if registry.isSupported bank.name then .ok (request.job bank account m.clock)
          else .error (.badRequest (.noParser bank.name))

variable {m m' : Memory}

theorem SameHoldings.refl (m : Memory) : m.SameHoldings m := ⟨rfl, rfl, rfl, rfl⟩

end Memory

namespace Service

def Response.error? : Response → Option ServiceError
  | .imported (.error e) => some e
  | .queued (.error e) => some e
  | .retried (.error e) => some e
  | .linked (.error e) => some e
  | .listed (.error e) => some e
  | _ => none

open Memory

variable {setup : ImportSetup} {m m' : Memory} {request : Request} {response : Response}
  {e : ServiceError} {job : ImportJob} {churchId id recordId : String}

theorem run_requireSome {α : Type} (e : ServiceError) (a : α) (m : Memory) :
    Program.run Memory.answer (requireSome e (some a)).run m = (.returned (.ok a), m) := rfl

theorem run_enqueue (m : Memory) (job : ImportJob) :
    Program.run Memory.answer (Task.enqueue job).run m =
      match m.worker.enqueue job with
      | .ok worker => (.returned (.ok ()), { m with worker })
      | .error e => (.returned (.error e), m) := by
  have hrun : Program.run Memory.answer (Task.enqueue job).run m =
      (.returned (Memory.answer (.enqueue job) m).1, (Memory.answer (.enqueue job) m).2) := rfl
  rw [hrun]
  cases hjob : m.worker.enqueue job <;> simp only [Memory.answer, hjob]

theorem run_requestImport (registry : Registry) (request : ImportRequest) (m : Memory) :
    Program.run Memory.answer (requestImport registry request).run m =
      match m.preflight registry request with
      | .error e => (.returned (.error e), m)
      | .ok job =>
        match m.worker.enqueue job with
        | .ok worker => (.returned (.ok ⟨m.clock, request.location⟩), { m with worker })
        | .error e => (.returned (.error e), m) := by
  have hbank : Program.run Memory.answer (Task.findBank request.bankId).run m =
      (.returned (.ok (m.directory.findBank request.bankId)), m) := rfl
  have haccount : ∀ id, Program.run Memory.answer (Task.findAccount request.churchId id).run m =
      (.returned (.ok (m.directory.findAccount request.churchId id)), m) := fun _ => rfl
  unfold requestImport preflight
  by_cases hmonth : request.month < 1 ∨ 12 < request.month
  · rw [if_pos hmonth, if_pos hmonth]
    rfl
  rw [if_neg hmonth, if_neg hmonth]
  refine (Program.run_bindReply_of_ok hbank _).trans ?_
  cases (m.directory.findBank request.bankId).filter (·.churchId == request.churchId) with
  | none => rfl
  | some bank =>
    refine (Program.run_bindReply_of_ok (run_requireSome _ bank m) _).trans ?_
    cases haccountId : bank.accountId with
    | none =>
      simp only [haccountId]
      rfl
    | some accountId =>
      simp only [haccountId]
      refine (Program.run_bindReply_of_ok (run_requireSome _ accountId m) _).trans ?_
      refine (Program.run_bindReply_of_ok (haccount accountId) _).trans ?_
      cases m.directory.findAccount request.churchId accountId with
      | none => rfl
      | some account =>
        refine (Program.run_bindReply_of_ok (run_requireSome _ account m) _).trans ?_
        cases registry.isSupported bank.name with
        | false => rfl
        | true =>
          refine (Program.run_bindLift_of_returned (run_now m) _).trans ?_
          have hput := run_enqueue m (request.job bank account m.clock)
          simp only [if_true]
          cases hjob : m.worker.enqueue (request.job bank account m.clock) with
          | ok worker =>
            rw [hjob] at hput
            exact Program.run_bindReply_of_ok hput _
          | error e =>
            rw [hjob] at hput
            exact Program.run_bindReply_of_error hput _

theorem sameHoldings_of_handle
    (hrun : (handle setup job).run Memory.answer m = (.returned (.error e), m')) :
    m.SameHoldings m' := by
  cases hlines : parsedLines setup m.files job with
  | error _ =>
    obtain ⟨metrics, hend⟩ := run_handle_of_error hlines
    obtain ⟨-, rfl⟩ := Prod.mk.inj (hrun.symm.trans hend)
    exact ⟨rfl, rfl, rfl, rfl⟩
  | ok lines =>
    -- an import whose lines were read has a summary, or breaks off
    by_cases hw : m.HasWindows job lines
    · obtain ⟨channel, metrics, hend⟩ := run_handle_of_windows hlines hw
      exact nomatch (Prod.mk.inj (hrun.symm.trans hend)).1
    · obtain ⟨metrics, hend⟩ := run_handle_of_no_windows hlines hw
      exact nomatch (Prod.mk.inj (hrun.symm.trans hend)).1

theorem eq_of_requestImport {registry : Registry} {request : ImportRequest}
    (hrun : Program.run Memory.answer (requestImport registry request).run m =
      (.returned (.error e), m')) : m' = m := by
  rw [run_requestImport] at hrun
  cases hjob : m.preflight registry request with
  | error _ =>
    rw [hjob] at hrun
    exact (Prod.mk.inj hrun).2.symm
  | ok job =>
    simp only [hjob] at hrun
    cases hworker : m.worker.enqueue job with
    | error _ =>
      rw [hworker] at hrun
      exact (Prod.mk.inj hrun).2.symm
    | ok worker =>
      rw [hworker] at hrun
      exact nomatch (Prod.mk.inj hrun).1

theorem eq_of_retry
    (hrun : Program.run Memory.answer (retry churchId id).run m = (.returned (.error e), m')) :
    m' = m := by
  cases hs : m.fetched churchId id with
  | error _ => exact (Prod.mk.inj (hrun.symm.trans (run_retry_of_error hs))).2
  | ok s =>
    cases ha : attempt? m.clock m.ledger s with
    | none => exact nomatch (Prod.mk.inj (hrun.symm.trans (run_retry_of_no_window hs ha))).1
    | some p =>
      obtain ⟨metrics, hend⟩ := run_retry_of_attempt hs ha
      exact nomatch (Prod.mk.inj (hrun.symm.trans hend)).1

theorem eq_of_link
    (hrun : Program.run Memory.answer (link churchId id recordId).run m =
      (.returned (.error e), m')) : m' = m := by
  cases hs : m.fetched churchId id with
  | error _ => exact (Prod.mk.inj (hrun.symm.trans (run_link_of_error hs))).2
  | ok s =>
    cases hr : m.ledger.find? churchId recordId with
    | none => exact (Prod.mk.inj (hrun.symm.trans (run_link_of_no_record hs hr))).2
    | some r =>
      obtain ⟨metrics, hend⟩ := run_link_of_record hs hr
      exact nomatch (Prod.mk.inj (hrun.symm.trans hend)).1

theorem run_list_snd (filter : StatementFilter) (pageSize : Int32) (token : Option String)
    (m : Memory) : (Program.run Memory.answer (list filter pageSize token).run m).2 = m := by
  unfold list
  split
  · rfl
  · cases Uuid.ofString? _ <;> rfl

/-- A request that fails, whatever it was and whatever was wrong with it, leaves the statements, the
ledger with its log of updates, the queue and the notices as they were. -/
theorem sameHoldings_of_error
    (hrun : (request.task setup).run Memory.answer m = (.returned response, m'))
    (herror : response.error? = some e) : m.SameHoldings m' := by
  cases request with
  | importFile job =>
    obtain ⟨_ | _, hcall, rfl⟩ := Program.exists_of_run_map hrun
    · exact sameHoldings_of_handle hcall
    · exact nomatch herror
  | queueImport request =>
    obtain ⟨_ | _, hcall, rfl⟩ := Program.exists_of_run_map hrun
    · exact eq_of_requestImport hcall ▸ .refl m
    · exact nomatch herror
  | retry churchId id =>
    obtain ⟨_ | _, hcall, rfl⟩ := Program.exists_of_run_map hrun
    · exact eq_of_retry hcall ▸ .refl m
    · exact nomatch herror
  | link churchId id recordId =>
    obtain ⟨_ | _, hcall, rfl⟩ := Program.exists_of_run_map hrun
    · exact eq_of_link hcall ▸ .refl m
    · exact nomatch herror
  | list filter pageSize token =>
    obtain ⟨_, hcall, rfl⟩ := Program.exists_of_run_map hrun
    have hsame := run_list_snd filter pageSize token m
    rw [hcall] at hsame
    exact hsame ▸ .refl m

/-- A link of a stored statement to a record that the ledger does not have. -/
theorem sameHoldings_of_error_link :
    ∃ m', ((Request.link "church" "00000000-0000-0000-0000-000000000000" "fr-2").task
      Sample.twice).run Memory.answer Sample.used =
        (.returned (.linked (.error (.notFound (.recordNotFound "fr-2")))), m') ∧
      Sample.used.SameHoldings m' := by
  obtain ⟨m', hrun⟩ : ∃ m', ((Request.link "church" "00000000-0000-0000-0000-000000000000"
      "fr-2").task Sample.twice).run Memory.answer Sample.used =
        (.returned (.linked (.error (.notFound (.recordNotFound "fr-2")))), m') := ⟨_, rfl⟩
  exact ⟨m', hrun, sameHoldings_of_error hrun rfl⟩

end Service

end BankReconciliation
