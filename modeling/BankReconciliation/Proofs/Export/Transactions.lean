import BankReconciliation.Export.Reader
import BankReconciliation.Proofs.Amount
import BankReconciliation.Proofs.Csv
import BankReconciliation.Proofs.Export
import BankReconciliation.Proofs.Text.Cell
import BankReconciliation.Proofs.Time.DatePattern

/-! Files that are written row by row out of transactions, balances and empty rows give the
transactions back, in their order and with nothing lost. -/

namespace BankReconciliation

open Text (Bytes Padded)

namespace Dialect

variable {d : Dialect}

/-- The labels of the columns, in the order in which files are written. -/
def labels (d : Dialect) : List String :=
  [d.dateColumn, d.descriptionColumn, d.referenceColumn, d.amountColumn]

/-- Days are written as day, month and year, the delimiter can stand between quoted fields, and each
label is told from the others when it is read. -/
structure Regular (d : Dialect) : Prop where
  datePattern : d.datePattern = "%d/%m/%Y"
  delimiter : Csv.Divides d.delimiter
  unmarked : ∀ label ∈ d.labels, label.toList.head? ≠ some Text.byteOrderMark
  distinct : (d.labels.map Text.normalForm).Nodup

def headers (d : Dialect) : List (List Char) := d.labels.map fun label => Text.trim label.toList

theorem ne_normalChars {s t : String} (h : Text.normalForm s ≠ Text.normalForm t) :
    Text.normalChars s.toList ≠ Text.normalChars t.toList :=
  fun hchars => h (congrArg String.ofList hchars)

theorem columns_headers (hd : d.Regular) :
    Export.columns d d.headers = .ok ⟨0, 1, some 2, 3⟩ := by
  have hdistinct := hd.distinct
  simp only [labels, List.map_cons, List.map_nil, List.nodup_cons, List.mem_cons, List.not_mem_nil,
    or_false, not_or] at hdistinct
  obtain ⟨⟨h01, h02, h03⟩, ⟨h12, h13⟩, h23, -⟩ := hdistinct
  have hdate : Export.column? d.headers d.dateColumn = some 0 := by
    simp [Export.column?, headers, labels, List.findIdx?_cons]
  have hdescription : Export.column? d.headers d.descriptionColumn = some 1 := by
    simp [Export.column?, headers, labels, List.findIdx?_cons, ne_normalChars h01]
  have hreference : Export.column? d.headers d.referenceColumn = some 2 := by
    simp [Export.column?, headers, labels, List.findIdx?_cons, ne_normalChars h02,
      ne_normalChars h12]
  have hamount : Export.column? d.headers d.amountColumn = some 3 := by
    simp [Export.column?, headers, labels, List.findIdx?_cons, ne_normalChars h03,
      ne_normalChars h13, ne_normalChars h23]
  simp only [Export.columns, Export.requiredColumn, hdate, hdescription, hreference, hamount]
  rfl

end Dialect

/-- A transaction of which a bank gives account in a file of the dialect. -/
structure Transaction (d : Dialect) where
  date : Date
  amount : Decimal
  /-- The amount as it is written. -/
  written : List Char
  description : List Char
  reference : List Char
  year_le : 0 ≤ date.year ∧ date.year ≤ 9999
  writes : Amount.Writes amount written
  clean_description : Text.Clean description
  clean_reference : Text.Clean reference
  not_skipped : Export.isSkipped d description = false

namespace Transaction

variable {d : Dialect} {batch : Batch}

def title (t : Transaction d) : String :=
  if t.description = [] then "Sem descrição" else String.ofList t.description

def line (batch : Batch) (t : Transaction d) : Line where
  bank := batch.bank
  account := batch.account
  postedAt := .midnight t.date
  amount := t.amount.abs
  description := t.title
  direction := if t.amount.units < 0 then .outgo else .income
  fitId := if t.reference = [] then "" else d.bankCode ++ ":" ++ String.ofList t.reference
  hash := Fingerprint.compute (.midnight t.date) t.amount.abs t.title
  month := batch.month
  year := batch.year
  raw := Export.raw d.headers
    [DatePattern.dayMonthYear t.date, t.description, t.reference, Text.trim t.written]

end Transaction

theorem Direction.ofSigned_eq (d : Decimal) :
    Direction.ofSigned d = if d.units < 0 then .outgo else .income := by
  have hzero : d.isZero = decide (d.mantissa = 0) := rfl
  rw [ofSigned, Decimal.units, hzero]
  cases d.negative with
  | false => simp
  | true => by_cases h : d.mantissa = 0 <;> simp [h, Nat.pos_of_ne_zero]

namespace Export

variable {d : Dialect} {batch : Batch} {record : Csv.Record} {cells : List Bytes}
  {entry : Option (Transaction d)}

/-- The rows of a file: what each of them tells, and the cells that tell it. Cells may have white
space around them. -/
inductive Tells (d : Dialect) : Option (Transaction d) → List Bytes → Prop
  | transaction (t : Transaction d) {date description reference amount : Bytes}
    (hdate : Padded (DatePattern.dayMonthYear t.date) date)
    (hdescription : Padded t.description description) (hreference : Padded t.reference reference)
    (hamount : Padded t.written amount) :
    Tells d (some t) [date, description, reference, amount]
  | balance {text : List Char} {date description reference amount : Bytes}
    (hskipped : isSkipped d text = true) (hmark : text.head? ≠ some Text.byteOrderMark)
    (hdescription : Padded text description) :
    Tells d none [date, description, reference, amount]
  | blank {date description reference amount : Bytes} (hdate : Padded [] date)
    (hdescription : Padded [] description) (hreference : Padded [] reference)
    (hamount : Padded [] amount) :
    Tells d none [date, description, reference, amount]

theorem Tells.ne_nil (h : Tells d entry cells) : cells ≠ [] := by
  cases h <;> exact List.cons_ne_nil _ _

theorem transaction_texts (hd : d.Regular) (t : Transaction d) (n : Nat) :
    transaction d batch d.headers ⟨0, 1, some 2, 3⟩ n
      [DatePattern.dayMonthYear t.date, t.description, t.reference, Text.trim t.written] =
        .ok (t.line batch) := by
  obtain ⟨w, hread, habs, hunits⟩ := Amount.read?_of_writes t.writes
  have hdate : DatePattern.read? d.datePattern.toList (DatePattern.dayMonthYear t.date) =
      some (.midnight t.date) := by
    rw [hd.datePattern]
    exact DatePattern.read?_dayMonthYear t.year_le
  have hamount : Amount.read? (Text.trim t.written) = some w := (Amount.read?_trim _).trans hread
  have hdirection : Direction.ofSigned w = if t.amount.units < 0 then .outgo else .income := by
    rw [Direction.ofSigned_eq, hunits]
  have hfitId : fitId d t.reference =
      if t.reference = [] then "" else d.bankCode ++ ":" ++ String.ofList t.reference := rfl
  simp only [transaction, cell, List.getD_cons_zero, List.getD_cons_succ, hdate, hamount, habs,
    hdirection, Option.map_some, Option.getD_some, hfitId]
  rfl

theorem isSkipped_trim (text : List Char) : isSkipped d (Text.trim text) = isSkipped d text := by
  rw [isSkipped, isSkipped, Text.normalChars_trim]

theorem row_of_tells (hd : d.Regular) (h : Tells d entry record.fields) :
    row d batch d.headers ⟨0, 1, some 2, 3⟩ record = .ok (entry.map (Transaction.line batch)) := by
  generalize hfields : record.fields = cells at h
  cases h with
  | transaction t hdate hdescription hreference hamount =>
    have hday := Text.decodeCell_of_clean (DatePattern.clean_dayMonthYear t.date) hdate
    have htext := Text.decodeCell_of_clean t.clean_description hdescription
    have href := Text.decodeCell_of_clean t.clean_reference hreference
    have hwritten := Text.decodeCell_padded hamount t.writes.head?_ne
    have hfull : isBlankRow [DatePattern.dayMonthYear t.date, t.description, t.reference,
        Text.trim t.written] = false := by
      have hne := DatePattern.dayMonthYear_ne_nil t.date
      simp [isBlankRow, hne]
    have hkept : isSkipped d (cell [DatePattern.dayMonthYear t.date, t.description, t.reference,
        Text.trim t.written] 1) = false := t.not_skipped
    rw [row, hfields]
    simp only [List.map_cons, List.map_nil, hday, htext, href, hwritten]
    rw [hfull, hkept, transaction_texts hd]
    rfl
  | balance hskipped hmark hdescription =>
    have htext := Text.decodeCell_padded hdescription hmark
    have hskip : ∀ {a b c}, isSkipped d (cell [a, Text.trim _, b, c] 1) = true :=
      (isSkipped_trim _).trans hskipped
    rw [row, hfields]
    simp only [List.map_cons, List.map_nil, htext]
    rw [hskip, Bool.or_true]
    rfl
  | blank hdate hdescription hreference hamount =>
    have hnone : ∀ {bytes}, Padded [] bytes → Text.decodeCell bytes = [] := fun h =>
      Text.decodeCell_of_clean Text.clean_nil h
    rw [row, hfields]
    simp only [List.map_cons, List.map_nil, hnone hdate, hnone hdescription, hnone hreference,
      hnone hamount]
    rfl

theorem map_decodeCell_of_padded {labels : List String} {header : List Bytes}
    (hmark : ∀ label ∈ labels, label.toList.head? ≠ some Text.byteOrderMark)
    (h : List.Forall₂ (fun label cell => Padded label.toList cell) labels header) :
    header.map Text.decodeCell = labels.map fun label => Text.trim label.toList := by
  induction h with
  | nil => rfl
  | cons hcell _ ih =>
    obtain ⟨hlabel, hmark⟩ := List.forall_mem_cons.mp hmark
    rw [List.map_cons, List.map_cons, ih hmark, Text.decodeCell_padded hcell hlabel]

theorem ne_nil_of_tells {rows : List (List Bytes × Csv.LineEnd)}
    {entries : List (Option (Transaction d))}
    (h : List.Forall₂ (fun entry row => Tells d entry row.1) entries rows) :
    ∀ row ∈ rows, row.1 ≠ [] := by
  induction h with
  | nil => exact List.forall_mem_nil _
  | cons hrow _ ih => exact List.forall_mem_cons.mpr ⟨hrow.ne_nil, ih⟩

theorem mapM_row_of_tells {rows : List (List Bytes × Csv.LineEnd)}
    {entries : List (Option (Transaction d))} {records : List Csv.Record} (hd : d.Regular)
    (hrows : List.Forall₂ (fun entry row => Tells d entry row.1) entries rows)
    (hrecords : records.map Csv.Record.fields = rows.map Prod.fst) :
    records.mapM (row d batch d.headers ⟨0, 1, some 2, 3⟩) =
      .ok (entries.map (Option.map (Transaction.line batch))) := by
  have hcells : List.Forall₂ (Tells d) entries (records.map Csv.Record.fields) := by
    rw [hrecords, List.forall₂_map_right_iff]
    exact hrows
  refine mapM_of_forall₂ (List.forall₂_map_right_iff.mpr ?_)
  exact (List.forall₂_map_right_iff.mp hcells).flip.imp fun _ _ h => row_of_tells hd h

/-- A file with a header and rows is read as the transactions that its rows tell, in their order. -/
theorem lines_document {header : List Bytes} {rows : List (List Bytes × Csv.LineEnd)}
    {entries : List (Option (Transaction d))} (hd : d.Regular)
    (hheader : List.Forall₂ (fun label cell => Padded label.toList cell) d.labels header)
    (hrows : List.Forall₂ (fun entry row => Tells d entry row.1) entries rows)
    (marked : Bool) (lineEnd : Csv.LineEnd) :
    lines d batch (Csv.mark marked ++ Csv.document d.delimiter ((header, lineEnd) :: rows)) =
      .ok (entries.filterMap (Option.map (Transaction.line batch))) := by
  have hheaders : header.map Text.decodeCell = d.headers :=
    map_decodeCell_of_padded hd.unmarked hheader
  have hne : header ≠ [] := by
    rintro rfl
    cases hheader
  have hrowsNe : ∀ row ∈ (header, lineEnd) :: rows, row.1 ≠ [] :=
    List.forall_mem_cons.mpr ⟨hne, ne_nil_of_tells hrows⟩
  -- the records read are the cells laid out, the first of them the header
  obtain ⟨first, rest, hrecords, rfl, hrest⟩ :=
    List.map_eq_cons_iff.mp (Csv.fields_records hd.delimiter hrowsNe marked)
  rw [lines, hrecords]
  simp only [List.head?_cons, List.tail_cons, Option.map_some, Option.getD_some, hheaders]
  refine Except.bind_eq_ok_iff.mpr ⟨_, Dialect.columns_headers hd, ?_⟩
  refine Except.bind_eq_ok_iff.mpr ⟨_, mapM_row_of_tells hd hrows hrest, ?_⟩
  have hkept : (entries.map (Option.map (Transaction.line batch))).filterMap id =
      entries.filterMap (Option.map (Transaction.line batch)) := List.filterMap_map
  exact congrArg Except.ok hkept

end Export

namespace Sample

/-- A purchase that is written with a currency symbol, and with quotes, the delimiter and a line end
in its description. -/
def purchase : Transaction .bancoDoBrasil where
  date := ⟨2024, 5, 1, by decide⟩
  amount := ⟨true, 12345, 1, by decide, by decide⟩
  written := "R$ -1.234,5".toList
  description := "Compra, \"A\"\nB".toList
  reference := "42".toList
  year_le := by decide
  writes := ⟨true, "-1.234,5".toList, .plain, .symbol (.blank rfl (.self (by decide)))⟩
  clean_description := by decide
  clean_reference := by decide
  not_skipped := by decide

def period : Batch := ⟨⟨"bank-1", "Banco do Brasil", "BB"⟩, ⟨"acc-1", "Caixa"⟩, 5, 2024⟩

def header : List Bytes :=
  Dialect.bancoDoBrasil.labels.map fun label => Text.encodeUtf8 label.toList

def rows : List (List Bytes × Csv.LineEnd) := [
  ([Text.encodeUtf8 " 01/05/2024".toList, Text.encodeUtf8 purchase.description,
    Text.encodeUtf8 purchase.reference, Text.encodeUtf8 purchase.written], .lf),
  ([Text.encodeUtf8 "31/05".toList, Text.encodeUtf8 "Saldo ".toList, [], []], .crlf),
  ([[], Text.encodeUtf8 " ".toList, [], []], .lf)]

end Sample

namespace Export

theorem lines_document_purchase :
    lines .bancoDoBrasil Sample.period (Csv.mark true ++
      Csv.document ','.toNat.toUInt8 ((Sample.header, .crlf) :: Sample.rows)) =
        .ok [Sample.purchase.line Sample.period] := by
  have hregular : Dialect.bancoDoBrasil.Regular := ⟨rfl, by decide, by decide, by decide⟩
  have hself : ∀ text, Padded text (Text.encodeUtf8 text) := Text.padded_encodeUtf8
  have hheader : List.Forall₂ (fun label cell => Padded label.toList cell)
      Dialect.bancoDoBrasil.labels Sample.header :=
    .cons (hself _) (.cons (hself _) (.cons (hself _) (.cons (hself _) .nil)))
  have hdate : Padded (DatePattern.dayMonthYear Sample.purchase.date)
      (Text.encodeUtf8 " 01/05/2024".toList) := ⟨[' '], [], by decide, by decide, by decide⟩
  have hskipped : isSkipped .bancoDoBrasil "Saldo".toList = true := by decide
  have hbalance : Padded "Saldo".toList (Text.encodeUtf8 "Saldo ".toList) :=
    ⟨[], [' '], by decide, by decide, by decide⟩
  have hempty : Padded [] [] := hself []
  have hblank : Padded [] (Text.encodeUtf8 " ".toList) := ⟨[' '], [], by decide, by decide, rfl⟩
  have hrows : List.Forall₂ (fun entry row => Tells .bancoDoBrasil entry row.1)
      [some Sample.purchase, none, none] Sample.rows :=
    .cons (.transaction _ hdate (hself _) (hself _) (hself _))
      (.cons (.balance hskipped (by decide) hbalance)
        (.cons (.blank hempty hblank hempty hempty) .nil))
  exact lines_document hregular hheader hrows true .crlf

namespace Sample

def markedBalance : Dialect := { Dialect.bancoDoBrasil with skippedDescriptions := ["\uFEFFSaldo"] }

end Sample

/-- A balance is read as a transaction if its description starts with a byte order mark, since a
cell loses the mark. -/
theorem exists_line_of_marked_balance :
    ¬ ∀ (d : Dialect) (batch : Batch) (text : List Char) (date reference amount : Bytes),
      d.Regular → isSkipped d text = true →
      lines d batch (Csv.document d.delimiter
        [(d.labels.map fun label => Text.encodeUtf8 label.toList, .lf),
          ([date, Text.encodeUtf8 text, reference, amount], .lf)]) = .ok [] := by
  intro h
  have hlines := h Sample.markedBalance Sample.period "\uFEFFSaldo".toList
    (Text.encodeUtf8 "31/05/2024".toList) [] (Text.encodeUtf8 "360,44".toList)
    ⟨rfl, by decide, by decide, by decide⟩ (by decide)
  have hcount := congrArg (Except.map List.length) hlines
  revert hcount
  decide +kernel

end Export

end BankReconciliation
