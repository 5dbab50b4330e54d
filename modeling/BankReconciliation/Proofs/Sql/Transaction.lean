import BankReconciliation.Proofs.Sql.Rows
import BankReconciliation.Proofs.Sql.Wire
import Mathlib.Data.List.Basic
import Mathlib.Tactic.ByContra

/-! Insertions over a database, whatever server answers. The statements are cut into parts, each of
which is one query of a single transaction, and the first failure ends it. -/

namespace BankReconciliation

namespace Sql

variable {σ : Type}

section Chunks

variable {α : Type} {size : Nat} {xs part : List α}

theorem chunks_nil : chunks size ([] : List α) = [] := by
  rw [chunks, dif_neg (by simp)]

theorem chunks_of_ne_nil (hsize : 0 < size) (hxs : xs ≠ []) :
    chunks size xs = xs.take size :: chunks size (xs.drop size) := by
  rw [chunks, dif_pos ⟨hsize, hxs⟩]

theorem flatten_chunks (hsize : 0 < size) (xs : List α) : (chunks size xs).flatten = xs := by
  induction xs using chunks.induct size with
  | case1 xs h ih => rw [chunks_of_ne_nil hsize h.2, List.flatten_cons, ih, List.take_append_drop]
  | case2 xs h =>
    obtain rfl : xs = [] := by
      by_contra hxs
      exact h ⟨hsize, hxs⟩
    rw [chunks_nil, List.flatten_nil]

theorem mem_chunks (h : part ∈ chunks size xs) : part ≠ [] ∧ part.length ≤ size := by
  induction xs using chunks.induct size with
  | case1 xs hxs ih =>
    rw [chunks_of_ne_nil hxs.1 hxs.2] at h
    rcases List.mem_cons.mp h with rfl | h
    · refine ⟨?_, List.length_take_le size xs⟩
      rw [Ne, List.take_eq_nil_iff]
      rintro (hzero | hnil)
      · omega
      · exact hxs.2 hnil
    · exact ih h
  | case2 xs hxs =>
    rw [chunks, dif_neg hxs] at h
    cases h

theorem chunks_flatten (hsize : 0 < size) {parts : List (List α)}
    (h : ∀ part ∈ parts, part.length = size) : chunks size parts.flatten = parts := by
  induction parts with
  | nil => exact chunks_nil
  | cons part rest ih =>
    obtain ⟨hpart, hrest⟩ := List.forall_mem_cons.mp h
    have hne : (part :: rest).flatten ≠ [] := by
      intro he
      rw [List.flatten_cons] at he
      have hlength := congrArg List.length he
      rw [List.length_append, List.length_nil] at hlength
      omega
    rw [chunks_of_ne_nil hsize hne, List.flatten_cons, List.take_left' hpart,
      List.drop_left' hpart, ih hrest]

end Chunks

/-- The query that inserts rows with the given values in its columns, as far as none is there that
stands in their way, and that answers the ids of those that it inserts. -/
def insertionQuery (tuples : List (List Value)) : Query :=
  .ofPieces (.sql s!"INSERT INTO bank_statements ({columnList}) VALUES " ::
    ([Piece.sql ", "].intercalate (tuples.map tuple)) ++
      [.sql " ON CONFLICT DO NOTHING RETURNING bank_statement_id"])

def insertion (part : List Statement) : Query := insertionQuery (part.map statementValues)

theorem ofPieces_insertPieces (part : List Statement) :
    Query.ofPieces (insertPieces part) = insertion part := by
  rw [insertion, insertionQuery, insertPieces, List.map_map]
  rfl

theorem params_insertionQuery (tuples : List (List Value)) :
    (insertionQuery tuples).params = tuples.flatten := by
  change Query.valuesOf _ = _
  rw [List.cons_append, Query.valuesOf_sql, Query.valuesOf_append, Query.valuesOf_intercalate,
    Query.valuesOf_sql, Query.valuesOf_nil, List.append_nil, List.flatMap_map,
    List.flatten_eq_flatMap]
  exact List.flatMap_congr fun values _ => Query.valuesOf_tuple values

theorem params_insertion (part : List Statement) :
    (insertion part).params = part.flatMap statementValues := by
  rw [insertion, params_insertionQuery, List.flatMap_def]

theorem length_params_insertion (part : List Statement) :
    (insertion part).params.length = 21 * part.length := by
  rw [params_insertion, List.length_flatMap]
  simp [Nat.mul_comm]

def insertedIds (a : Except Failure Result) : Except ServiceError (List Uuid) :=
  readAnswer .insertStatements (cell · "bank_statement_id" Value.uuid?) a

theorem run_insertChunks_cons (part : List Statement) (parts : List (List Statement)) :
    (insertChunks (part :: parts)).run =
      ask (.query (insertion part)) fun a =>
        match insertedIds a with
        | .ok ids => (insertChunks parts).run >>= fun rest => .done (rest.map (ids ++ ·))
        | .error e => .done (.error e) := by
  rw [insertChunks, run_exec_readRows, ofPieces_insertPieces]
  refine congrArg (ask (.query (insertion part))) (funext fun a => ?_)
  unfold insertedIds
  cases readAnswer .insertStatements (cell · "bank_statement_id" Value.uuid?) a with
  | error e => rfl
  | ok ids =>
    simp only [ExceptT.run_bind]
    refine congrArg (Program.bind (insertChunks parts).run) (funext fun rest => ?_)
    cases rest <;> rfl

theorem not_refused_of_insertedIds {part : List Statement} {a : Except Failure Result}
    {ids : List Uuid} (h : insertedIds a = .ok ids) : ¬ Refused ⟨.query (insertion part), a⟩ := by
  cases a with
  | error e => cases h
  | ok r => exact Bool.false_ne_true

/-- The parts are sent in their order, up to the first for which no ids are answered. -/
theorem insertChunks_cases {parts : List (List Statement)} {es : List (Interface.Exchange Wire)}
    {o : Program.Outcome (Except ServiceError (List Uuid))}
    (h : Program.Transcript (insertChunks parts).run es o) :
    (∃ ids, o = .returned (.ok ids) ∧
      Completes (parts.map fun part => .query (insertion part)) es) ∨
    ∃ e, o = .returned (.error e) ∧
      BreaksOff (parts.map fun part => .query (insertion part)) es := by
  induction parts generalizing es o with
  | nil =>
    obtain ⟨rfl, rfl⟩ := h
    exact .inl ⟨[], rfl, completes_nil⟩
  | cons part parts ih =>
    rw [run_insertChunks_cons] at h
    obtain ⟨(a : Except Failure Result), rest, rfl, hrest⟩ := transcript_ask h
    cases ha : insertedIds a with
    | error e =>
      rw [ha] at hrest
      obtain ⟨rfl, rfl⟩ := hrest
      exact .inr ⟨e, rfl, (breaksOff_singleton (.query (insertion part)) a).append _⟩
    | ok ids =>
      have haccepted : ¬ Refused ⟨.query (insertion part), a⟩ := not_refused_of_insertedIds ha
      have hfirst := completes_singleton haccepted
      rw [ha] at hrest
      rcases Program.transcript_bind hrest with ⟨reply, es₁, es₂, rfl, hparts, rfl, rfl⟩ | habort
      · rw [List.append_nil]
        rcases ih hparts with ⟨later, hreply, hes⟩ | ⟨e, hreply, hes⟩
        · obtain rfl := Program.Outcome.returned.inj hreply
          exact .inl ⟨ids ++ later, rfl, hfirst.append hes⟩
        · obtain rfl := Program.Outcome.returned.inj hreply
          exact .inr ⟨e, rfl, hfirst.append_breaksOff hes⟩
      -- a query that is refused is an answer, so the later parts do not abort
      · rcases ih habort.1 with ⟨_, hreply, -⟩ | ⟨_, hreply, -⟩ <;> cases hreply

/-- The end of a transaction in which the parts were inserted, or not all of them. -/
def conclude : Except ServiceError (List Uuid) → Dialogue (Except ServiceError (List Uuid))
  | .error e => ask .rollback fun _ => .done (.error e)
  | .ok ids => ask .commit fun
    | .ok () => .done (.ok ids)
    | .error e => ask .rollback fun _ => .done (.error (.database (.storage .commitTransaction e)))

theorem run_insertMany {statements : List Statement} (h : statements ≠ []) :
    (insertMany statements).run = ask .begin fun
      | .ok () => (insertChunks (chunks insertLimit statements)).run >>= conclude
      | .error e => .done (.error (.database (.storage .beginTransaction e))) := by
  rw [insertMany, if_neg (by simpa using h), Program.lift_bind_run]
  refine congrArg (ask .begin) (funext fun a => ?_)
  cases a with
  | error e => rfl
  | ok _ =>
    refine (ExceptT.run_bind (tryCatch (insertChunks (chunks insertLimit statements)) _) _).trans ?_
    rw [ExceptT.run_tryCatch, bind_assoc]
    refine congrArg (Program.bind (insertChunks (chunks insertLimit statements)).run)
      (funext fun reply => ?_)
    cases reply with
    | error e => rfl
    | ok ids =>
      refine congrArg (ask .commit) (funext fun a => ?_)
      cases a <;> rfl

def script (parts : List (List Statement)) : List Command :=
  [.begin] ++ (parts.map fun part => .query (insertion part)) ++ [.commit]

/-- Either the whole script is sent and answered, or one of its commands fails; it is the last one
then, but for the one that gives the transaction up if it was begun. -/
theorem insertMany_cases {statements : List Statement} (hne : statements ≠ [])
    {es : List (Interface.Exchange Wire)} {o : Program.Outcome (Except ServiceError (List Uuid))}
    (h : Program.Transcript (insertMany statements).run es o) :
    (∃ ids, o = .returned (.ok ids) ∧ Completes (script (chunks insertLimit statements)) es) ∨
    ∃ e es', o = .returned (.error e) ∧ BreaksOff (script (chunks insertLimit statements)) es' ∧
      (es = es' ∧ sent es = [.begin] ∨ ∃ a, es = es' ++ [⟨.rollback, a⟩]) := by
  rw [run_insertMany hne] at h
  obtain ⟨begun | begun, rest, rfl, hbegun⟩ := transcript_ask h
  · obtain ⟨rfl, rfl⟩ := hbegun
    refine .inr ⟨_, _, rfl, ?_, .inl ⟨rfl, rfl⟩⟩
    exact ((breaksOff_singleton .begin _).append _).append _
  have hbegin : Completes [.begin] [⟨.begin, .ok begun⟩] := completes_singleton Bool.false_ne_true
  rcases Program.transcript_bind hbegun with ⟨reply, es₁, es₂, rfl, hparts, hend⟩ | habort
  · rcases insertChunks_cases hparts with ⟨ids, hreply, hes⟩ | ⟨e, hreply, hes⟩
    · obtain rfl := Program.Outcome.returned.inj hreply
      have hboth := hbegin.append hes
      obtain ⟨committed | committed, rest, rfl, hcommitted⟩ := transcript_ask hend
      · obtain ⟨a, last, rfl, hlast⟩ := transcript_ask hcommitted
        obtain ⟨rfl, rfl⟩ := hlast
        have hlast := hboth.append_breaksOff (breaksOff_singleton .commit (.error committed))
        exact .inr ⟨_, _, rfl, hlast, .inr ⟨a, by simp⟩⟩
      · obtain ⟨rfl, rfl⟩ := hcommitted
        have hcommit : Completes [.commit] [⟨.commit, .ok committed⟩] :=
          completes_singleton Bool.false_ne_true
        exact .inl ⟨ids, rfl, hboth.append hcommit⟩
    · obtain rfl := Program.Outcome.returned.inj hreply
      obtain ⟨a, last, rfl, hlast⟩ := transcript_ask hend
      obtain ⟨rfl, rfl⟩ := hlast
      exact .inr ⟨e, _, rfl, (hbegin.append_breaksOff hes).append _, .inr ⟨a, rfl⟩⟩
  · rcases insertChunks_cases habort.1 with ⟨_, hreply, -⟩ | ⟨_, hreply, -⟩ <;> cases hreply

/-- What passes between the program and a server while statements are inserted, and what comes of
it. -/
structure Transacts (statements : List Statement) (es : List (Interface.Exchange Wire))
    (reply : Except ServiceError (List Uuid)) : Prop where
  /-- For no statements nothing is sent. -/
  nothing : statements = [] → es = [] ∧ reply = .ok []
  /-- No command binds more values than a server takes. -/
  params_le : ∀ c ∈ sent es, c.params.length ≤ 65535
  /-- The statements are inserted in parts in their order, all in one transaction. Either all its
  commands are answered, or one fails; it is the last one then, but for the one that gives the
  transaction up if it was begun. -/
  commands : statements ≠ [] → ∃ parts, parts.flatten = statements ∧ (∀ part ∈ parts, part ≠ []) ∧
    ((∃ ids, reply = .ok ids ∧ Completes (script parts) es) ∨
      ∃ e es', reply = .error e ∧ BreaksOff (script parts) es' ∧
        (es = es' ∧ sent es = [.begin] ∨ ∃ a, es = es' ++ [⟨.rollback, a⟩]))
  /-- Each statement is bound once and in its place. -/
  binds : ∀ ids, reply = .ok ids →
    (sent es).flatMap Command.params = statements.flatMap statementValues
  /-- The insertion fails if a command is refused. -/
  fails : ∀ x ∈ es, x.request ≠ .rollback → Refused x → ∃ e, reply = .error e
  /-- Nothing is committed after a command that is refused. -/
  gives_up : ∀ before x after, es = before ++ x :: after → Refused x →
    sent after = [] ∨ sent after = [.rollback]

theorem params_script_le {parts : List (List Statement)}
    (h : ∀ part ∈ parts, part.length ≤ insertLimit) {c : Command} (hc : c ∈ script parts) :
    c.params.length ≤ 65535 := by
  simp only [script, List.mem_append, List.mem_singleton, List.mem_map] at hc
  rcases hc with (rfl | ⟨part, hpart, rfl⟩) | rfl
  · exact Nat.zero_le _
  · have hlength := h part hpart
    rw [insertLimit] at hlength
    rw [Command.params, length_params_insertion]
    omega
  · exact Nat.zero_le _

theorem flatMap_params_script (parts : List (List Statement)) :
    (script parts).flatMap Command.params = parts.flatten.flatMap statementValues := by
  have hparts : (parts.map fun part => Command.query (insertion part)).flatMap Command.params =
      parts.flatten.flatMap statementValues := by
    induction parts with
    | nil => rfl
    | cons part parts ih =>
      rw [List.map_cons, List.flatMap_cons, ih, List.flatten_cons, List.flatMap_append,
        Command.params, params_insertion]
  rw [script, List.flatMap_append, List.flatMap_append, hparts]
  simp [Command.params]

section Transacts

variable {statements : List Statement} {es : List (Interface.Exchange Wire)}

theorem transacts_nil : Transacts [] [] (.ok []) where
  nothing _ := ⟨rfl, rfl⟩
  params_le c hc := nomatch hc
  commands h := absurd rfl h
  binds _ _ := rfl
  fails x hx := nomatch hx
  gives_up before x after h := absurd h (by simp)

theorem transacts_of_completes {ids : List Uuid} (hne : statements ≠ [])
    (hes : Completes (script (chunks insertLimit statements)) es) :
    Transacts statements es (.ok ids) where
  nothing h := absurd h hne
  params_le c hc := params_script_le (fun _ h => (mem_chunks h).2) (hes.sent_eq ▸ hc)
  commands _ := ⟨_, flatten_chunks (by decide) statements, fun _ h => (mem_chunks h).1,
    .inl ⟨ids, rfl, hes⟩⟩
  binds _ _ := by
    rw [hes.sent_eq, flatMap_params_script, flatten_chunks (by decide)]
  fails x hx _ hrefused := absurd hrefused (hes.not_refused x hx)
  gives_up before x after h hrefused :=
    absurd hrefused (hes.not_refused x (h ▸ List.mem_append_right _ List.mem_cons_self))

theorem transacts_of_breaksOff {e : ServiceError} {es' : List (Interface.Exchange Wire)}
    (hne : statements ≠ []) (hes' : BreaksOff (script (chunks insertLimit statements)) es')
    (hend : es = es' ∧ sent es = [.begin] ∨ ∃ a, es = es' ++ [⟨.rollback, a⟩]) :
    Transacts statements es (.error e) where
  nothing h := absurd h hne
  params_le c hc := by
    have hscript : ∀ c ∈ sent es', c.params.length ≤ 65535 := fun c hc =>
      params_script_le (fun _ h => (mem_chunks h).2) (hes'.sent_prefix.subset hc)
    rcases hend with ⟨rfl, -⟩ | ⟨a, rfl⟩
    · exact hscript c hc
    · rw [sent_append] at hc
      rcases List.mem_append.mp hc with hc | hc
      · exact hscript c hc
      · rw [List.mem_singleton.mp hc]
        exact Nat.zero_le _
  commands _ := ⟨_, flatten_chunks (by decide) statements, fun _ h => (mem_chunks h).1,
    .inr ⟨e, es', rfl, hes', hend⟩⟩
  binds _ h := nomatch h
  fails _ _ _ _ := ⟨e, rfl⟩
  gives_up before x after h hrefused := by
    rcases hend with ⟨rfl, -⟩ | ⟨a, rfl⟩
    · subst h
      rw [hes'.eq_nil_of_refused hrefused]
      exact .inl rfl
    · rcases List.eq_nil_or_concat' after with rfl | ⟨rest, y, rfl⟩
      · exact .inl rfl
      · rw [← List.cons_append, ← List.append_assoc] at h
        obtain ⟨rfl, hy⟩ := List.append_inj' h rfl
        obtain rfl := List.singleton_injective hy
        rw [hes'.eq_nil_of_refused hrefused]
        exact .inr rfl

end Transacts

/-- Of queries, none but insertions are sent. -/
theorem Transacts.eq_insertion {reply : Except ServiceError (List Uuid)} {q : Query}
    (h : Transacts statements es reply) (hq : .query q ∈ sent es) : ∃ part, q = insertion part := by
  have hscript : ∀ parts, Command.query q ∈ script parts → ∃ part, q = insertion part := by
    intro parts hmem
    obtain ⟨part, -, he⟩ : ∃ part ∈ parts, insertion part = q := by simpa [script] using hmem
    exact ⟨part, he.symm⟩
  by_cases hne : statements = []
  · rw [(h.nothing hne).1] at hq
    cases hq
  obtain ⟨parts, -, -, ⟨_, -, hes⟩ | ⟨_, es', -, hes', ⟨rfl, -⟩ | ⟨a, rfl⟩⟩⟩ := h.commands hne
  · exact hscript parts (hes.sent_eq ▸ hq)
  · exact hscript parts (hes'.sent_prefix.subset hq)
  · rw [sent_append] at hq
    rcases List.mem_append.mp hq with hq | hq
    · exact hscript parts (hes'.sent_prefix.subset hq)
    · cases List.mem_singleton.mp hq

theorem transacts_insertMany (server : Program.Handler Wire σ) (statements : List Statement)
    (s : σ) : ∃ reply, (Program.run server (insertMany statements).run s).1 = .returned reply ∧
      Transacts statements (Program.exchanges server (insertMany statements).run s) reply := by
  by_cases hne : statements = []
  · subst hne
    exact ⟨.ok [], rfl, transacts_nil⟩
  rcases insertMany_cases hne (Program.transcript_exchanges server (insertMany statements).run s)
    with ⟨ids, hreply, hes⟩ | ⟨e, es', hreply, hes', hend⟩
  · exact ⟨.ok ids, hreply, transacts_of_completes hne hes⟩
  · exact ⟨.error e, hreply, transacts_of_breaksOff hne hes' hend⟩

end Sql

end BankReconciliation
