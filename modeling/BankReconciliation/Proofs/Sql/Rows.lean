import BankReconciliation.Sql.Statements

/-! Rows of the table of statements, written and read back. The values that an insertion binds stand
in the columns that it names, and what they say is the statement. -/

namespace BankReconciliation

theorem int32OfInt?_toInt (n : Int32) : int32OfInt? n.toInt = some n := by
  have hlow := n.le_toInt
  have hhigh := n.toInt_lt
  rw [int32OfInt?, if_pos ⟨by simpa using hlow, by simpa using hhigh⟩, Int32.ofInt_toInt]

namespace Sql

theorem cell_eq_ok {α : Type} {cells : Cells} {column : String} {read? : Value → Option α}
    {v : Value} {a : α} (hv : cells.lookup column = some v) (ha : read? v = some a) :
    cell cells column read? = .ok a := by
  rw [cell, hv]
  simp only [ha]

@[simp] theorem length_statementValues (s : Statement) : (statementValues s).length = 21 := rfl

theorem zip_statementValues (s : Statement) :
    statementColumns.zip (statementValues s) = s.toRow.toCells := rfl

end Sql

namespace Statement

open Sql

namespace Row

theorem ofCells_toCells (r : Row) : ofCells r.toCells = .ok r := by
  have hmonth : cell r.toCells "month" Value.int32? = .ok r.month :=
    cell_eq_ok rfl (int32OfInt?_toInt r.month)
  have hyear : cell r.toCells "year" Value.int32? = .ok r.year :=
    cell_eq_ok rfl (int32OfInt?_toInt r.year)
  have hrecord : cell r.toCells "financial_record_id" Value.optionalText? = .ok r.recordId :=
    cell_eq_ok rfl (by cases r.recordId <;> rfl)
  have htime : cell r.toCells "reconciled_at" Value.optionalTime? = .ok r.reconciledAt :=
    cell_eq_ok rfl (by cases r.reconciledAt <;> rfl)
  rw [ofCells, hmonth, hyear, hrecord, htime]
  rfl

end Row

theorem reconciliationOfRow_toRow (s : Statement) :
    reconciliationOfRow s.toRow = .ok s.reconciliation := by
  cases h : s.reconciliation <;>
    simp [reconciliationOfRow, toRow, status, recordId?, h, Reconciliation.status,
      Reconciliation.recordId?, Reconciliation.time?]

theorem ofRow_toRow (s : Statement) : ofRow s.toRow = .ok s := by
  have hdirection : Direction.parse s.toRow.direction = .ok s.direction := by
    simp [Direction.parse, toRow]
  rw [ofRow, reconciliationOfRow_toRow, hdirection]
  rfl

end Statement

end BankReconciliation
