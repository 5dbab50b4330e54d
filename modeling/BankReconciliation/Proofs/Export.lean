import BankReconciliation.Export.Parser
import BankReconciliation.Proofs.Except

/-! What the parser of delimited files gives: lines of the batch's bank, out of a file that was
opened and is well formed. -/

namespace BankReconciliation

open Text (Bytes)

namespace Export

variable {d : Dialect} {batch : Batch} {content : Bytes} {ls : List Line} {l : Line}

theorem bank_of_transaction {headers cells : List (List Char)} {columns : Columns} {line : Nat}
    (h : transaction d batch headers columns line cells = .ok l) : l.bank = batch.bank := by
  unfold transaction at h
  dsimp only at h
  split at h
  · split at h
    · obtain rfl := Except.ok.inj h
      rfl
    · cases h
  · cases h

theorem bank_of_row {headers : List (List Char)} {columns : Columns} {record : Csv.Record}
    (h : row d batch headers columns record = .ok (some l)) : l.bank = batch.bank := by
  unfold row at h
  dsimp only at h
  split at h
  · cases Except.ok.inj h
  · obtain ⟨l', hl', h⟩ := Except.map_eq_ok_iff.mp h
    obtain rfl := Option.some.inj h
    exact bank_of_transaction hl'

theorem bank_of_mem_lines (h : lines d batch content = .ok ls) (hl : l ∈ ls) :
    l.bank = batch.bank := by
  obtain ⟨columns, -, h⟩ := Except.bind_eq_ok_iff.mp h
  obtain ⟨rows, hrows, h⟩ := Except.bind_eq_ok_iff.mp h
  obtain rfl := Except.ok.inj h
  obtain ⟨l', hl', heq⟩ := List.mem_filterMap.mp hl
  obtain rfl : l' = some l := heq
  obtain ⟨record, -, hrow⟩ := exists_of_mem_mapM hrows hl'
  exact bank_of_row hrow

theorem lines_of_records {content : Bytes} {header : Csv.Record} {records : List Csv.Record}
    (h : Csv.records d.delimiter content = header :: records) :
    lines d batch content = (do
      let columns ← columns d (header.fields.map Text.decodeCell)
      let rows ← records.mapM (row d batch (header.fields.map Text.decodeCell) columns)
      return rows.filterMap id) := by
  rw [lines, h]
  rfl

end Export

theorem Parser.parse_delimited_eq_ok_iff {d : Dialect} {batch : Batch} {location : String}
    {opened : Opened} {ls : List Line} :
    (delimited d).parse batch location opened = .ok ls ↔
      ∃ content, opened = .ok (.file content) ∧ Export.lines d batch content = .ok ls := by
  rcases opened with e | content | _ <;> simp [delimited]

end BankReconciliation
