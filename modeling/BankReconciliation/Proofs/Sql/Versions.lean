import BankReconciliation.Proofs.Decimal.Value
import BankReconciliation.Proofs.Sql.Insertion
import BankReconciliation.Proofs.Sql.Reading

/-! Statements kept as rows of a table. The row that an insertion writes for a statement follows its
versions from one update to the next, and each row that the checks of the table let through is the
row of a statement. -/

namespace BankReconciliation

theorem Direction.ofWord?_eq_none_iff {word : String} :
    ofWord? word = none ↔ word ∉ ["INCOME", "OUTGO"] := by
  unfold ofWord?
  split <;> simp_all

namespace ReconciliationStatus

theorem ofWord?_eq_none_iff {word : String} :
    ofWord? word = none ↔ word ∉ ["PENDING", "RECONCILED", "UNMATCHED"] := by
  unfold ofWord?
  split <;> simp_all

theorem eq_word_of_ofWord? {word : String} {s : ReconciliationStatus}
    (h : ofWord? word = some s) : word = s.word := by
  unfold ofWord? at h
  split at h <;> cases h <;> rfl

end ReconciliationStatus

namespace Statement

inductive Mark
  | reconciled (recordId : String) (now : Instant)
  | unmatched (now : Instant)

def mark (s : Statement) : Mark → Statement
  | .reconciled recordId now => s.markReconciled recordId now
  | .unmatched now => s.markUnmatched now

/-- The later versions of a statement, one for each mark. -/
def versions (s : Statement) : List Mark → List Statement
  | [] => []
  | m :: ms => s.mark m :: (s.mark m).versions ms

namespace Row

/-- The words of the row are not known, or what makes it reconciled is not there. -/
def Unreadable (r : Row) : Prop :=
  r.direction ∉ ["INCOME", "OUTGO"] ∨ r.status ∉ ["PENDING", "RECONCILED", "UNMATCHED"] ∨
    r.status = "RECONCILED" ∧ (r.recordId = none ∨ r.reconciledAt = none)

structure Checked (r : Row) : Prop where
  amount : 0 ≤ r.amount.value
  direction : r.direction ∈ ["INCOME", "OUTGO"]
  month : 1 ≤ r.month ∧ r.month ≤ 12
  status : r.status ∈ ["PENDING", "RECONCILED", "UNMATCHED"]
  reconciled : r.status = "RECONCILED" ∧ r.recordId ≠ none ∧ r.reconciledAt ≠ none ∨
    r.status ≠ "RECONCILED" ∧ r.recordId = none ∧ r.reconciledAt = none

theorem Checked.exists_direction {r : Row} (h : r.Checked) :
    ∃ d : Direction, d.word = r.direction := by
  obtain hword | hword : r.direction = "INCOME" ∨ r.direction = "OUTGO" := by
    simpa using h.direction
  · exact ⟨.income, hword.symm⟩
  · exact ⟨.outgo, hword.symm⟩

theorem Checked.exists_reconciliation {r : Row} (h : r.Checked) : ∃ c : Reconciliation,
    c.status.word = r.status ∧ c.recordId? = r.recordId ∧ c.time? = r.reconciledAt := by
  obtain ⟨hstatus, hrecord, htime⟩ | ⟨hstatus, hrecord, htime⟩ := h.reconciled
  · obtain ⟨recordId, hrecord⟩ := Option.ne_none_iff_exists'.mp hrecord
    obtain ⟨time, htime⟩ := Option.ne_none_iff_exists'.mp htime
    exact ⟨.reconciled recordId time, hstatus.symm, hrecord.symm, htime.symm⟩
  · obtain hword | hword : r.status = "PENDING" ∨ r.status = "UNMATCHED" := by
      simpa [hstatus] using h.status
    · exact ⟨.pending, hword.symm, hrecord.symm, htime.symm⟩
    · exact ⟨.unmatched, hword.symm, hrecord.symm, htime.symm⟩

theorem Checked.exists_toRow {r : Row} (h : r.Checked) : ∃ s : Statement, s.toRow = r := by
  obtain ⟨direction, hdirection⟩ := h.exists_direction
  obtain ⟨reconciliation, hstatus, hrecord, htime⟩ := h.exists_reconciliation
  refine ⟨⟨r.id, r.churchId, ⟨r.bankId, r.bankName, r.bankTag⟩, ⟨r.accountId, r.accountName⟩,
    r.postedAt, r.amount, r.description, direction, r.fitId, r.hash, r.month, r.year,
    reconciliation, r.raw, r.createdAt, r.updatedAt⟩, ?_⟩
  simp only [toRow, Statement.status, recordId?, hdirection, hstatus, hrecord, htime]

end Row

theorem exists_error_parse {word : String} :
    (∃ e, Direction.parse word = .error e) ↔ word ∉ ["INCOME", "OUTGO"] := by
  rw [← Direction.ofWord?_eq_none_iff, Direction.parse]
  cases Direction.ofWord? word <;> simp

theorem exists_error_reconciliationOfRow {r : Row} : (∃ e, reconciliationOfRow r = .error e) ↔
    r.status ∉ ["PENDING", "RECONCILED", "UNMATCHED"] ∨
      r.status = "RECONCILED" ∧ (r.recordId = none ∨ r.reconciledAt = none) := by
  rw [← ReconciliationStatus.ofWord?_eq_none_iff, reconciliationOfRow]
  cases hword : ReconciliationStatus.ofWord? r.status with
  | none => simp
  | some status =>
    rw [ReconciliationStatus.eq_word_of_ofWord? hword]
    cases status with
    | pending => simp [ReconciliationStatus.word]
    | unmatched => simp [ReconciliationStatus.word]
    | reconciled =>
      cases r.recordId <;> cases r.reconciledAt <;> simp [ReconciliationStatus.word]

theorem exists_error_ofRow {r : Row} : (∃ e, ofRow r = .error e) ↔ r.Unreadable := by
  have hparts : (∃ e, ofRow r = .error e) ↔
      (∃ e, Direction.parse r.direction = .error e) ∨ ∃ e, reconciliationOfRow r = .error e := by
    rw [ofRow]
    cases reconciliationOfRow r with
    | error e => simp [Except.bind, bind]
    | ok c =>
      cases Direction.parse r.direction <;> simp [Except.bind, bind, pure, Except.pure]
  rw [hparts, exists_error_parse, exists_error_reconciliationOfRow, Row.Unreadable]

end Statement

namespace Sql

open Statement (Row Mark)

variable {σ : Type}

/-- The row of a version is found by the update for the next one, which makes the row of that of
it. -/
theorem updates_mark (s : Statement) (m : Mark) :
    (updateQuery (s.mark m)).Updates s.toRow.toCells (s.mark m).toRow.toCells := by
  refine ⟨_, _, update?_updateQuery _, ?_, ?_, ?_⟩
  · have hchurch : (s.mark m).churchId = s.churchId := by cases m <;> rfl
    have hid : (s.mark m).id = s.id := by cases m <;> rfl
    rw [hchurch, hid]
    simp [Statement.toRow, Row.toCells]
  · simp [updateCells, Row.toCells]
  · cases m <;> rfl

/-- Updates are carried out one after the other, and each of them finds the row. -/
inductive Carried : List Query → Cells → Cells → Prop
  | nil (row : Cells) : Carried [] row row
  | cons {q : Query} {qs : List Query} {before between after : Cells} :
    q.Updates before between → Carried qs between after → Carried (q :: qs) before after

theorem carried_versions (s : Statement) (ms : List Mark) :
    Carried ((s.versions ms).map updateQuery) s.toRow.toCells
      (ms.foldl Statement.mark s).toRow.toCells := by
  induction ms generalizing s with
  | nil => exact .nil _
  | cons m ms ih => exact .cons (updates_mark s m) (ih (s.mark m))

def Reads (row : Cells) (s : Statement) : Prop :=
  ∃ cells r, (Query.ofPieces (findPieces s.churchId s.id)).Selects row cells ∧
    Row.ofCells cells = .ok r ∧ Statement.ofRow r = .ok s

theorem selects_findPieces (s : Statement) :
    (Query.ofPieces (findPieces s.churchId s.id)).Selects s.toRow.toCells s.toRow.toCells := by
  refine ⟨_, _, selection?_findPieces s.churchId s.id, ?_, rfl⟩
  simp [Statement.toRow, Row.toCells]

theorem reads_toCells (s : Statement) : Reads s.toRow.toCells s :=
  ⟨_, s.toRow, selects_findPieces s, Row.ofCells_toCells s.toRow, Statement.ofRow_toRow s⟩

def queries (es : List (Interface.Exchange Wire)) : List Query :=
  (sent es).filterMap fun
    | .query q => some q
    | _ => none

theorem queries_updateReconciliation (server : Program.Handler Wire σ) (s : Statement) (state : σ) :
    queries (Program.exchanges server (updateReconciliation s).run state) = [updateQuery s] := by
  let result (r : Result) : Except ServiceError Unit :=
    if r.affected = 0 then .error (.notFound (.statementNotFound s.id)) else .ok ()
  have hrun : (updateReconciliation s).run = ask (.query (updateQuery s)) fun a =>
      .done ((explain .updateReconciliation a).bind result) := by
    refine congrArg (ask (.query (updateQuery s))) (funext fun a => ?_)
    cases a with
    | error e => rfl
    | ok r =>
      change ExceptT.run (if r.affected = 0 then throw (.notFound (.statementNotFound s.id))
        else pure ()) = Program.done (result r)
      simp only [result]
      split <;> rfl
  rw [hrun, exchanges_ask]
  rfl

theorem insertedRows?_insertion (part : List Statement) :
    (insertion part).insertedRows? = some (part.map fun s => s.toRow.toCells) := by
  have hlength : ∀ values ∈ part.map statementValues, values.length = statementColumns.length := by
    intro values hvalues
    obtain ⟨s, -, rfl⟩ := List.mem_map.mp hvalues
    rfl
  rw [insertion, insertedRows?_insertionQuery hlength, List.map_map]
  rfl

def insertedRows? (es : List (Interface.Exchange Wire)) : Option (List Cells) :=
  ((queries es).mapM Query.insertedRows?).map List.flatten

theorem insertedRows?_of_returned {server : Program.Handler Wire σ} {statements : List Statement}
    {state : σ} {ids : List Uuid}
    (h : (Program.run server (insertMany statements).run state).1 = .returned (.ok ids)) :
    insertedRows? (Program.exchanges server (insertMany statements).run state) =
      some (statements.map fun s => s.toRow.toCells) := by
  obtain ⟨reply, hreply, htransacts⟩ := transacts_insertMany server statements state
  obtain rfl : Except.ok ids = reply := Program.Outcome.returned.inj (h.symm.trans hreply)
  by_cases hne : statements = []
  · subst hne
    rfl
  obtain ⟨parts, hparts, -, ⟨_, -, hes⟩ | ⟨_, _, herror, -⟩⟩ := htransacts.commands hne
  · have hqueries : queries (Program.exchanges server (insertMany statements).run state) =
        parts.map insertion := by
      rw [queries, hes.sent_eq, script]
      simp
    have hrows : Query.insertedRows? ∘ insertion =
        fun part => pure (part.map fun s => s.toRow.toCells) := funext insertedRows?_insertion
    rw [insertedRows?, hqueries, List.mapM_map, hrows, List.mapM_pure, ← hparts, List.map_flatten]
    rfl
  · cases herror

/-- Rows and statements say the same. The row that is inserted for a statement, with the columns of
every later update overwritten, is read as the last version of the statement; a row that passes the
checks of the table is the one that is inserted for what it is read as; and a row is not read only
if its words are not known or it is reconciled with nothing. -/
theorem rows_keep_statements (server : Program.Handler Wire σ) (state : σ)
    (statements : List Statement) :
    (∀ ids, (Program.run server (insertMany statements).run state).1 = .returned (.ok ids) →
      ∃ rows,
        insertedRows? (Program.exchanges server (insertMany statements).run state) = some rows ∧
        List.Forall₂ (fun s row => ∀ ms, ∃ row',
          Carried ((s.versions ms).map updateQuery) row row' ∧
            Reads row' (ms.foldl Statement.mark s)) statements rows) ∧
    (∀ s, queries (Program.exchanges server (updateReconciliation s).run state) =
      [updateQuery s]) ∧
    (∀ r : Row, r.Checked → ∃ s, Statement.ofRow r = .ok s ∧
      (insertion [s]).insertedRows? = some [r.toCells]) ∧
    ∀ r : Row, (∃ e, Statement.ofRow r = .error e) ↔ r.Unreadable := by
  refine ⟨fun ids h => ⟨_, insertedRows?_of_returned h, ?_⟩,
    fun s => queries_updateReconciliation server s state, fun r hr => ?_,
    fun r => Statement.exists_error_ofRow⟩
  · rw [List.forall₂_map_right_iff, List.forall₂_same]
    exact fun s _ ms => ⟨_, carried_versions s ms, reads_toCells _⟩
  · obtain ⟨s, rfl⟩ := hr.exists_toRow
    exact ⟨s, Statement.ofRow_toRow s, insertedRows?_insertion [s]⟩

/-- A statement that is bound to a record and later found without one. -/
theorem rows_keep_statements_unmatched :
    let es := Program.exchanges Sample.execute (insertMany [Sample.newer]).run Sample.database
    let ms := [Mark.reconciled "fr-1" (.midnight Sample.day), .unmatched (.midnight Sample.day)]
    (∃ row row', insertedRows? es = some [row] ∧
      Carried ((Sample.newer.versions ms).map updateQuery) row row' ∧
      Reads row' (Sample.newer.markUnmatched (.midnight Sample.day))) ∧
    (∃ s, Statement.ofRow Sample.newer.toRow = .ok s ∧
      (insertion [s]).insertedRows? = some [Sample.newer.toRow.toCells]) ∧
    ∃ e, Statement.ofRow { Sample.newer.toRow with status := "RECONCILED" } = .error e := by
  have hfresh : Store.Statements.FreshIds [Sample.statement] [Sample.newer] :=
    ⟨by decide, by decide⟩
  obtain ⟨_, hrun, -⟩ := run_insertMany_of_calm (s := Sample.database) Sample.inserts_execute rfl
    hfresh Sample.not_refused_execute
  have hchecked : Sample.newer.toRow.Checked :=
    { amount := Decimal.value_nonneg rfl
      direction := by decide
      month := by decide
      status := by decide
      reconciled := by decide }
  obtain ⟨hinserted, -, hkept, hread⟩ :=
    rows_keep_statements Sample.execute Sample.database [Sample.newer]
  obtain ⟨rows, hrows, hall⟩ := hinserted _ (congrArg Prod.fst hrun)
  obtain ⟨row, _, hrow, hnil, rfl⟩ := List.forall₂_cons_left_iff.mp hall
  obtain rfl := List.forall₂_nil_left_iff.mp hnil
  obtain ⟨row', hcarried, hreads⟩ := hrow _
  exact ⟨⟨row, row', hrows, hcarried, hreads⟩, hkept _ hchecked,
    (hread _).mpr (.inr (.inr ⟨rfl, .inl rfl⟩))⟩

end Sql

end BankReconciliation
