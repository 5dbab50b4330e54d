import BankReconciliation.Proofs.Csv.Places
import BankReconciliation.Proofs.Export.Transactions

/-! The row that an error points at. A file fails at its first row that is to be read and cannot be,
but the line that is reported is the one on which the record before that row ended. -/

namespace BankReconciliation

open Text (Bytes)

namespace Export

variable {d : Dialect} {batch : Batch} {headers cells : List (List Char)} {places : Columns}
  {record : Csv.Record} {content stood gap : Bytes} {n line : Nat} {fault : RowFault}
  {problem : ExportProblem}

def Unreadable (d : Dialect) (places : Columns) (cells : List (List Char)) : Prop :=
  DatePattern.read? d.datePattern.toList (cell cells places.date) = none ∨
    Amount.read? (cell cells places.amount) = none

/-- A row that is neither blank nor a balance and cannot be read. -/
structure Faulty (d : Dialect) (places : Columns) (record : Csv.Record) : Prop where
  full : isBlankRow (record.fields.map Text.decodeCell) = false
  kept : isSkipped d (cell (record.fields.map Text.decodeCell) places.description) = false
  unreadable : Unreadable d places (record.fields.map Text.decodeCell)

theorem transaction_of_unreadable (h : Unreadable d places cells) :
    ∃ fault, transaction d batch headers places line cells = .error (.invalidRow line fault) := by
  unfold transaction
  dsimp only
  split
  next postedAt hdate =>
    split
    next amount hamount => rcases h with h | h <;> simp_all
    next => exact ⟨_, rfl⟩
  next => exact ⟨_, rfl⟩

theorem unreadable_of_transaction
    (h : transaction d batch headers places line cells = .error problem) :
    Unreadable d places cells := by
  unfold transaction at h
  dsimp only at h
  split at h
  next =>
    split at h
    next => cases h
    next hamount => exact .inr (Option.eq_none_iff_forall_not_mem.mpr hamount)
  next hdate => exact .inl (Option.eq_none_iff_forall_not_mem.mpr hdate)

theorem row_of_faulty (h : Faulty d places record) :
    ∃ fault, row d batch headers places record = .error (.invalidRow record.line fault) := by
  have htransaction : ∃ fault, transaction d batch headers places record.line
      (record.fields.map Text.decodeCell) = .error (.invalidRow record.line fault) :=
    transaction_of_unreadable h.unreadable
  obtain ⟨fault, hfault⟩ := htransaction
  refine ⟨fault, ?_⟩
  unfold row
  dsimp only
  rw [h.full, h.kept, hfault]
  rfl

/-- Only a faulty row fails. -/
theorem faulty_of_row (h : row d batch headers places record = .error problem) :
    Faulty d places record := by
  unfold row at h
  dsimp only at h
  split at h
  next => cases h
  next hkept =>
    obtain ⟨hfull, hkept⟩ := Bool.or_eq_false_iff.mp (Bool.not_eq_true _ ▸ hkept)
    exact ⟨hfull, hkept, unreadable_of_transaction (Except.map_eq_error_iff.mp h)⟩

theorem columns_ne_invalidRow : columns d headers ≠ .error (.invalidRow n fault) := by
  have hrequired : ∀ label, requiredColumn headers label ≠ .error (.invalidRow n fault) := by
    intro label h
    unfold requiredColumn at h
    split at h <;> cases h
  intro h
  rcases Except.bind_eq_error_iff.mp h with h | ⟨_, -, h⟩
  · exact hrequired _ h
  rcases Except.bind_eq_error_iff.mp h with h | ⟨_, -, h⟩
  · exact hrequired _ h
  rcases Except.bind_eq_error_iff.mp h with h | ⟨_, -, h⟩
  · exact hrequired _ h
  · cases h

/-- The first faulty row of a file stands behind the bytes with which the record before it ends, and
the line ends that are skipped after them. -/
inductive FirstFault (d : Dialect) (content stood gap : Bytes) : Prop
  | intro {header record : Csv.Record} {earlier later : List Csv.Record} {places : Columns}
    {first : UInt8} {body : Bytes}
    (hrecords : Csv.records d.delimiter content = header :: (earlier ++ record :: later))
    (hcolumns : columns d (header.fields.map Text.decodeCell) = .ok places)
    (hearlier : ∀ r ∈ earlier, ¬Faulty d places r) (hrecord : Faulty d places record)
    (hcontent : Csv.dropMark content = stood ++ gap ++ first :: body)
    (hplace : Csv.Behind d.delimiter (header :: earlier) stood gap)
    (hfirst : ¬Csv.IsLineEnd first) : FirstFault d content stood gap

theorem FirstFault.unique {stood' gap' : Bytes} (h : FirstFault d content stood gap)
    (h' : FirstFault d content stood' gap') : stood = stood' ∧ gap = gap' := by
  obtain ⟨hrecords, hcolumns, hearlier, hrecord, hcontent, hplace, hfirst⟩ := h
  obtain ⟨hrecords', hcolumns', hearlier', hrecord', hcontent', hplace', hfirst'⟩ := h'
  obtain ⟨rfl, hrows⟩ := List.cons.inj (hrecords.symm.trans hrecords')
  obtain rfl := Except.ok.inj (hcolumns.symm.trans hcolumns')
  obtain ⟨rfl, -⟩ := Csv.append_cons_inj hearlier hearlier' (not_not_intro hrecord)
    (not_not_intro hrecord') hrows
  exact hplace.unique hplace' hfirst hfirst' (hcontent.symm.trans hcontent')

theorem exists_firstFault (h : lines d batch content = .error (.invalidRow n fault)) :
    ∃ stood gap, FirstFault d content stood gap ∧ n = 1 + stood.count Csv.lineFeed := by
  rw [lines] at h
  obtain h | ⟨places, hcolumns, h⟩ := Except.bind_eq_error_iff.mp h
  · exact absurd h columns_ne_invalidRow
  obtain h | ⟨_, -, h⟩ := Except.bind_eq_error_iff.mp h
  · obtain ⟨earlier, record, later, hrows, hearlier, h⟩ := mapM_eq_error_iff.mp h
    cases hrecords : Csv.records d.delimiter content with
    | nil =>
      rw [hrecords] at hrows
      simp at hrows
    | cons header rows =>
      rw [hrecords] at hrows hcolumns
      obtain rfl : rows = earlier ++ record :: later := hrows
      have hsound : ∀ r ∈ earlier, ¬Faulty d places r := by
        intro r hr hfaulty
        obtain ⟨_, hok⟩ := hearlier r hr
        obtain ⟨_, herror⟩ := row_of_faulty hfaulty
        cases hok.symm.trans herror
      have hfaulty := faulty_of_row h
      obtain ⟨_, herror⟩ := row_of_faulty hfaulty
      obtain ⟨rfl, -⟩ := ExportProblem.invalidRow.inj (Except.error.inj (h.symm.trans herror))
      have hstands : Csv.Stands d.delimiter (header :: earlier) record (Csv.dropMark content) :=
        Csv.stands_of_records hrecords
      obtain ⟨stood, gap, first, body, hcontent, hplace, hfirst, hline⟩ := hstands
      exact ⟨stood, gap, ⟨hrecords, hcolumns, hsound, hfaulty, hcontent, hplace, hfirst⟩, hline⟩
  · cases h

/-- The line that is reported is the one on which the record before the first faulty row ended. That
is the line on which the row begins exactly if no line feed is skipped in between. -/
theorem line_of_invalidRow (h : lines d batch content = .error (.invalidRow n fault)) :
    (∃ stood gap, FirstFault d content stood gap) ∧
      ∀ stood gap, FirstFault d content stood gap →
        n = 1 + stood.count Csv.lineFeed ∧
          (n = 1 + (stood ++ gap).count Csv.lineFeed ↔ Csv.lineFeed ∉ gap) := by
  obtain ⟨stood, gap, hfault, hline⟩ := exists_firstFault h
  refine ⟨⟨stood, gap, hfault⟩, ?_⟩
  intro stood' gap' hfault'
  obtain ⟨rfl, rfl⟩ := hfault.unique hfault'
  refine ⟨hline, ?_⟩
  rw [hline, List.count_append, ← List.count_eq_zero]
  omega

end Export

namespace Sample

def labels : Csv.Record :=
  ⟨1, ["Data", "Histórico", "Valor"].map fun label => Text.encodeUtf8 label.toList⟩

def unpriced : List Bytes :=
  ["10/05/2024", "a", "x"].map fun text => Text.encodeUtf8 text.toList

def unpricedFile (lineEnd : Csv.LineEnd) : Bytes :=
  Text.encodeUtf8 "Data,Histórico,Valor".toList ++ lineEnd.bytes ++
    (Text.encodeUtf8 "10/05/2024,a,x".toList ++ lineEnd.bytes)

end Sample

namespace Export

theorem line_of_invalidRow_unpriced :
    lines .bancoDoBrasil Sample.period (Sample.unpricedFile .lf) =
        .error (.invalidRow 2 (.amount "x")) ∧
      (∃ stood gap, FirstFault .bancoDoBrasil (Sample.unpricedFile .lf) stood gap) ∧
        ∀ stood gap, FirstFault .bancoDoBrasil (Sample.unpricedFile .lf) stood gap →
          2 = 1 + stood.count Csv.lineFeed ∧
            (2 = 1 + (stood ++ gap).count Csv.lineFeed ↔ Csv.lineFeed ∉ gap) := by
  have hlines : lines .bancoDoBrasil Sample.period (Sample.unpricedFile .lf) =
      .error (.invalidRow 2 (.amount "x")) :=
    Except.map_eq_error_iff (f := List.length) |>.mp (by decide +kernel)
  exact ⟨hlines, line_of_invalidRow hlines⟩

/-- Lines end with a line feed, alone or after a carriage return. -/
def EndsInFeeds (content : Bytes) : Prop :=
  ∀ i : Fin content.length, content[i] = Csv.carriageReturn →
    content[i.val + 1]? = some Csv.lineFeed

/-- The line of the first faulty row is not reported if lines end with a carriage return and a line
feed: the line feed in front of the row is not counted. -/
theorem not_line_of_firstFault :
    ¬ ∀ (content stood gap : Bytes) (n : Nat) (fault : RowFault), EndsInFeeds content →
      lines .bancoDoBrasil Sample.period content = .error (.invalidRow n fault) →
      FirstFault .bancoDoBrasil content stood gap →
      n = 1 + (stood ++ gap).count Csv.lineFeed := by
  intro h
  have hends : EndsInFeeds (Sample.unpricedFile .crlf) := by
    unfold EndsInFeeds
    decide +kernel
  have hlines : lines .bancoDoBrasil Sample.period (Sample.unpricedFile .crlf) =
      .error (.invalidRow 1 (.amount "x")) :=
    Except.map_eq_error_iff (f := List.length) |>.mp (by decide +kernel)
  have hrecords : Csv.records Dialect.bancoDoBrasil.delimiter (Sample.unpricedFile .crlf) =
      Sample.labels :: ([] ++ ⟨1, Sample.unpriced⟩ :: []) := by decide +kernel
  have hcolumns : columns .bancoDoBrasil (Sample.labels.fields.map Text.decodeCell) =
      .ok ⟨0, 1, none, 2⟩ := by decide +kernel
  have hrow : Faulty .bancoDoBrasil ⟨0, 1, none, 2⟩ ⟨1, Sample.unpriced⟩ :=
    ⟨by decide +kernel, by decide +kernel, .inr (by decide +kernel)⟩
  have hplace : Csv.Behind Dialect.bancoDoBrasil.delimiter [Sample.labels]
      (Text.encodeUtf8 "Data,Histórico,Valor\r".toList) [Csv.lineFeed] :=
    ⟨by decide +kernel, by decide +kernel, List.forall_mem_singleton.mpr (.inl rfl)⟩
  have hcontent : Csv.dropMark (Sample.unpricedFile .crlf) =
      Text.encodeUtf8 "Data,Histórico,Valor\r".toList ++ [Csv.lineFeed] ++
        '1'.toNat.toUInt8 :: Text.encodeUtf8 "0/05/2024,a,x\r\n".toList := by decide +kernel
  have hfault := FirstFault.intro hrecords hcolumns (List.forall_mem_nil _) hrow hcontent hplace
    (by decide)
  exact absurd (h _ _ _ _ _ hends hlines hfault) (by decide +kernel)

end Export

end BankReconciliation
