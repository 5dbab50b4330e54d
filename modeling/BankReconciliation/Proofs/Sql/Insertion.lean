import BankReconciliation.Proofs.Except
import BankReconciliation.Proofs.Service.Reconcile
import BankReconciliation.Proofs.Sql.Table
import BankReconciliation.Proofs.Sql.Transaction

/-! Insertions over a database whose server takes up the rows of a query one after the other. It
ends up with the rows of the statements that the store would hold, and answers the same ids. -/

namespace BankReconciliation

namespace Sql

open Statement (Row)
open Store (Statements)
open Store.Statements (FreshIds)

variable {σ : Type}

/-- The values stand for the row in the columns that an insertion names. -/
def Fills (values : List Value) (r : Row) : Prop :=
  values.length = statementColumns.length ∧ statementColumns.zip values = r.toCells

theorem fills_statementValues (part : List Statement) :
    List.Forall₂ Fills (part.map statementValues) (part.map Statement.toRow) := by
  rw [List.forall₂_map_left_iff, List.forall₂_map_right_iff, List.forall₂_same]
  exact fun s _ => ⟨rfl, zip_statementValues s⟩

/-- What an insertion relies on. `table` gives the rows of the table in a state of the server, and
`keep` is what the types of the columns make of a row: they may round its amount and its times, and
leave what the indexes are made of. Nothing is asked of a server that answers with an error, as it
does to a row that violates a check of the table. -/
structure Inserts (server : Program.Handler Wire σ) (table : σ → List Row) (keep : Row → Row) :
    Prop where
  keys_keep : ∀ r, (keep r).keys = r.keys
  begin_table : ∀ s, ¬ Refused ⟨.begin, (server .begin s).1⟩ → table (server .begin s).2 = table s
  commit_table : ∀ s, ¬ Refused ⟨.commit, (server .commit s).1⟩ →
    table (server .commit s).2 = table s
  /-- The rows are taken one after the other, those that violate a unique index are passed over, and
  the ids of the others are answered in their order. -/
  insert : ∀ s tuples rows r, List.Forall₂ Fills tuples rows →
    (server (.query (insertionQuery tuples)) s).1 = Except.ok r →
      r.rows = (keptRows (table s) rows).map (fun row => [("bank_statement_id", .uuid row.id)]) ∧
        table (server (.query (insertionQuery tuples)) s).2 =
          table s ++ (keptRows (table s) rows).map keep

section Agreement

variable {server : Program.Handler Wire σ} {table : σ → List Row} {keep : Row → Row}
  {stored : Statements} {statements part : List Statement} {s : σ}

theorem exists_ok_of_not_refused {q : Query} {a : Except Failure Result}
    (h : ¬ Refused ⟨.query q, a⟩) : ∃ r, a = .ok r := by
  cases a with
  | error e => exact absurd rfl h
  | ok r => exact ⟨r, rfl⟩

theorem insertedIds_ok {r : Result} {rows : List Row}
    (h : r.rows = rows.map fun row => [("bank_statement_id", .uuid row.id)]) :
    insertedIds (.ok r) = .ok (rows.map Row.id) := by
  have hread : (r.rows.mapM fun row => cell row "bank_statement_id" Value.uuid?) =
      .ok (rows.map Row.id) := by
    refine mapM_of_forall₂ ?_
    rw [h, List.forall₂_map_left_iff, List.forall₂_map_right_iff, List.forall₂_same]
    intro row _
    rfl
  unfold insertedIds readAnswer
  change explain _ (r.rows.mapM _) = _
  rw [hread]
  rfl

theorem answer_insertion (hserver : Inserts server table keep)
    (htable : table s = stored.map fun t => keep t.toRow) (hfresh : FreshIds stored part)
    {r : Result} (hr : (server (.query (insertion part)) s).1 = Except.ok r) :
    insertedIds (.ok r) = .ok (stored.insertMany part).1 ∧
      table (server (.query (insertion part)) s).2 =
        (stored.insertMany part).2.map fun t => keep t.toRow := by
  obtain ⟨added, hadded, hkept⟩ := Store.Statements.exists_added_of_freshIds hfresh
  have hkeys : (table s).map Row.keys = (stored.map Statement.toRow).map Row.keys := by
    rw [htable, List.map_map, List.map_map]
    exact List.map_congr_left fun t _ => hserver.keys_keep t.toRow
  obtain ⟨hrows, hnext⟩ := hserver.insert s _ _ r (fills_statementValues part) hr
  rw [keptRows_congr hkeys, hkept] at hrows hnext
  constructor
  · rw [insertedIds_ok hrows, hadded, List.map_map]
    rfl
  · rw [insertion, hnext, hadded, htable, List.map_append, List.map_map]
    rfl

theorem run_insertChunks (hserver : Inserts server table keep) {parts : List (List Statement)}
    (htable : table s = stored.map fun t => keep t.toRow) (hfresh : FreshIds stored parts.flatten)
    (hcalm : ∀ x ∈ Program.exchanges server (insertChunks parts).run s, ¬ Refused x) :
    ∃ s', Program.run server (insertChunks parts).run s =
        (.returned (.ok (stored.insertMany parts.flatten).1), s') ∧
      table s' = (stored.insertMany parts.flatten).2.map fun t => keep t.toRow := by
  induction parts generalizing stored s with
  | nil => exact ⟨s, rfl, htable⟩
  | cons part parts ih =>
    rw [List.flatten_cons] at hfresh ⊢
    obtain ⟨hpart, hrest⟩ := hfresh.of_append
    rw [run_insertChunks_cons, exchanges_ask] at hcalm
    obtain ⟨hfirst, hlater⟩ := List.forall_mem_cons.mp hcalm
    obtain ⟨r, hr⟩ := exists_ok_of_not_refused hfirst
    obtain ⟨hids, hnext⟩ := answer_insertion hserver htable hpart hr
    rw [hr, hids] at hlater
    obtain ⟨s', hrun, htable'⟩ := ih hnext hrest fun x hx =>
      hlater x ((Program.exchanges_prefix _ _ _ _).subset hx)
    rw [run_insertChunks_cons, run_ask, hr, hids, Store.Statements.insertMany_append]
    exact ⟨s', Program.run_bind_of_returned hrun _, htable'⟩

/-- Unless a command is refused, the ids of the statements that the store would take up are
answered, and the table holds the rows of what the store would hold. -/
theorem run_insertMany_of_calm (hserver : Inserts server table keep)
    (htable : table s = stored.map fun t => keep t.toRow) (hfresh : FreshIds stored statements)
    (hcalm : ∀ x ∈ Program.exchanges server (insertMany statements).run s, ¬ Refused x) :
    ∃ s', Program.run server (insertMany statements).run s =
        (.returned (.ok (stored.insertMany statements).1), s') ∧
      table s' = (stored.insertMany statements).2.map fun t => keep t.toRow := by
  by_cases hne : statements = []
  · subst hne
    exact ⟨s, rfl, htable⟩
  have hflatten := flatten_chunks (show 0 < insertLimit by decide) statements
  rw [run_insertMany hne] at hcalm ⊢
  obtain ⟨hbegin, hlater⟩ := List.forall_mem_cons.mp hcalm
  have hbegun := (hserver.begin_table s hbegin).trans htable
  rw [run_ask]
  cases hanswer : (server .begin s).1 with
  | error e =>
    rw [hanswer] at hbegin
    exact absurd rfl hbegin
  | ok _ =>
    rw [hanswer] at hlater
    obtain ⟨t, hrun, htaken⟩ := run_insertChunks hserver hbegun (hflatten.symm ▸ hfresh)
      fun x hx => hlater x ((Program.exchanges_prefix _ _ _ _).subset hx)
    rw [hflatten] at hrun htaken
    have hcommit : ¬ Refused ⟨.commit, (server .commit t).1⟩ := by
      refine hlater _ ?_
      rw [Program.exchanges_bind hrun conclude]
      exact List.mem_append_right _ List.mem_cons_self
    refine ⟨(server .commit t).2, ?_, (hserver.commit_table t hcommit).trans htaken⟩
    refine (Program.run_bind_of_returned hrun conclude).trans ?_
    rw [conclude, run_ask]
    cases hanswer : (server .commit t).1 with
    | error e =>
      rw [hanswer] at hcommit
      exact absurd rfl hcommit
    | ok _ => rfl

end Agreement

/-- With any server an insertion keeps to one transaction, which it gives up at the first failure.
With one that takes up the rows one after the other, and as long as no command is refused, it does
to the table what the store does to its statements, and answers the same ids. -/
theorem insertMany_agrees (server : Program.Handler Wire σ) (statements : List Statement) (s : σ) :
    ∃ reply, (Program.run server (insertMany statements).run s).1 = .returned reply ∧
      Transacts statements (Program.exchanges server (insertMany statements).run s) reply ∧
      ∀ (table : σ → List Row) (keep : Row → Row) (stored : Statements),
        Inserts server table keep → table s = stored.map (fun t => keep t.toRow) →
        FreshIds stored statements →
        (∀ x ∈ Program.exchanges server (insertMany statements).run s, ¬ Refused x) →
          reply = .ok (stored.insertMany statements).1 ∧
            table (Program.run server (insertMany statements).run s).2 =
              (stored.insertMany statements).2.map fun t => keep t.toRow := by
  obtain ⟨reply, hreply, htransacts⟩ := transacts_insertMany server statements s
  refine ⟨reply, hreply, htransacts, fun table keep stored hserver htable hfresh hcalm => ?_⟩
  obtain ⟨s', hrun, htaken⟩ := run_insertMany_of_calm hserver htable hfresh hcalm
  rw [hrun] at hreply ⊢
  exact ⟨(Program.Outcome.returned.inj hreply).symm, htaken⟩

end Sql

namespace Sample

open Statement (Row)
open Sql

/-- A database of one table, with what was in it when the transaction began. -/
structure Database where
  committed : List Row
  current : List Row

def insertedRows? (q : Query) : Option (List Row) :=
  let tuples := chunks statementColumns.length q.params
  if q.text = (insertionQuery tuples).text then
    (tuples.mapM fun values => Row.ofCells (statementColumns.zip values)).toOption
  else none

def execute : Program.Handler Wire Database
  | .begin, d => (Except.ok (), { d with committed := d.current })
  | .commit, d => (Except.ok (), { d with committed := d.current })
  | .rollback, d => (Except.ok (), { d with current := d.committed })
  | .query q, d =>
    match insertedRows? q with
    | none => (Except.error (.server "syntax error"), d)
    | some rows =>
      let kept := keptRows d.current rows
      (Except.ok ⟨kept.map fun row => [("bank_statement_id", .uuid row.id)], kept.length⟩,
        { d with current := d.current ++ kept })

theorem insertedRows?_insertionQuery {tuples : List (List Value)} {rows : List Row}
    (h : List.Forall₂ Fills tuples rows) : insertedRows? (insertionQuery tuples) = some rows := by
  obtain ⟨hlength, hcells⟩ := (List.forall₂_and_left _ _).mp h
  have hrows :
      (tuples.mapM fun values => Row.ofCells (statementColumns.zip values)) = .ok rows := by
    refine mapM_of_forall₂ (hcells.imp fun values row hrow => ?_)
    rw [hrow, Row.ofCells_toCells]
  rw [insertedRows?, params_insertionQuery, chunks_flatten (by decide) hlength, if_pos rfl, hrows]
  rfl

theorem execute_insertion {tuples : List (List Value)} {rows : List Row}
    (h : List.Forall₂ Fills tuples rows) (d : Database) :
    execute (.query (insertionQuery tuples)) d =
      (Except.ok ⟨(keptRows d.current rows).map fun row => [("bank_statement_id", .uuid row.id)],
        (keptRows d.current rows).length⟩,
        { d with current := d.current ++ keptRows d.current rows }) := by
  rw [execute, insertedRows?_insertionQuery h]
  rfl

theorem inserts_execute : Inserts execute Database.current id where
  keys_keep _ := rfl
  begin_table _ _ := rfl
  commit_table _ _ := rfl
  insert d tuples rows r h hr := by
    rw [execute_insertion h] at hr ⊢
    obtain rfl := Except.ok.inj hr
    exact ⟨rfl, by rw [List.map_id]⟩

theorem not_refused_execute {statements : List Statement} {d : Database} :
    ∀ x ∈ Program.exchanges execute (insertMany statements).run d, ¬ Refused x := by
  obtain ⟨reply, -, htransacts⟩ := transacts_insertMany execute statements d
  intro x hx
  have hsent : x.request ∈ sent (Program.exchanges execute (insertMany statements).run d) :=
    List.mem_map_of_mem hx
  obtain ⟨t, ht⟩ := Program.exists_state_of_mem_exchanges hx
  generalize x.request = c at hsent ht
  subst ht
  cases c with
  | query q =>
    obtain ⟨part, rfl⟩ := htransacts.eq_insertion hsent
    rw [insertion, execute_insertion (fills_statementValues part)]
    exact Bool.false_ne_true
  | _ => exact Bool.false_ne_true

/-- The same line as that of the first statement. -/
def repeated : Statement := .ofLine (.ofNat 1) "church" (.midnight day) (line "a")

def newer : Statement := .ofLine (.ofNat 2) "church" (.midnight day) (line "b")

def database : Database := ⟨[statement.toRow], [statement.toRow]⟩

end Sample

namespace Sql

theorem insertMany_agrees_again :
    ∃ d, Program.run Sample.execute (insertMany [Sample.repeated, Sample.newer]).run Sample.database =
        (.returned (.ok [.ofNat 2]), d) ∧
      d.current = [Sample.statement.toRow, Sample.newer.toRow] := by
  obtain ⟨reply, hreply, -, hagrees⟩ := insertMany_agrees Sample.execute
    [Sample.repeated, Sample.newer] Sample.database
  have hfresh : Store.Statements.FreshIds [Sample.statement] [Sample.repeated, Sample.newer] :=
    ⟨by decide, by decide⟩
  obtain ⟨rfl, htable⟩ := hagrees Sample.Database.current id [Sample.statement]
    Sample.inserts_execute rfl hfresh Sample.not_refused_execute
  exact ⟨_, Prod.ext hreply rfl, htable⟩

end Sql

end BankReconciliation
