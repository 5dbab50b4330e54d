import BankReconciliation.Proofs.Export.Transactions
import Mathlib.Data.Fin.VecNotation
import Mathlib.Data.List.FinRange

/-! The columns of a file are found by their headers, so their order does not matter. -/

namespace BankReconciliation

open Text (Bytes)

namespace Members

variable {α : Type} {a b n : String} {x y v : α} {m : Members α}
  {entries entries' : List (String × α)}

theorem set_of_lt (h : a < n) : set a x ((n, v) :: m) = (a, x) :: (n, v) :: m := if_pos h

theorem set_of_eq : set n x ((n, v) :: m) = (n, x) :: m := by
  rw [set, if_neg (String.lt_irrefl n), if_pos rfl]

theorem set_of_gt (h : n < a) : set a x ((n, v) :: m) = (n, v) :: set a x m := by
  have hne : a ≠ n := by
    rintro rfl
    exact String.lt_irrefl a h
  rw [set, if_neg (String.lt_asymm h), if_neg hne]

theorem set_comm_of_lt (h : a < b) : (m.set a x).set b y = (m.set b y).set a x := by
  induction m with
  | nil => rw [set_nil, set_nil, set_of_gt h, set_of_lt h, set_nil]
  | cons entry m ih =>
    obtain ⟨n, v⟩ := entry
    rcases Std.lt_trichotomy b n with hb | rfl | hb
    · rw [set_of_lt (String.lt_trans h hb), set_of_gt h, set_of_lt hb, set_of_lt h]
    · rw [set_of_lt h, set_of_gt h, set_of_eq, set_of_lt h]
    · rcases Std.lt_trichotomy a n with ha | rfl | ha
      · rw [set_of_lt ha, set_of_gt h, set_of_gt hb, set_of_lt ha]
      · rw [set_of_eq, set_of_gt h, set_of_gt h, set_of_eq]
      · rw [set_of_gt ha, set_of_gt hb, set_of_gt hb, set_of_gt ha, ih]

theorem set_comm (h : a ≠ b) : (m.set a x).set b y = (m.set b y).set a x := by
  rcases Std.lt_trichotomy a b with hlt | heq | hlt
  · exact set_comm_of_lt hlt
  · exact absurd heq h
  · exact (set_comm_of_lt hlt).symm

theorem ofList_perm (h : entries.Perm entries')
    (hnames : ∀ e ∈ entries, ∀ e' ∈ entries, e.1 = e'.1 → e = e') :
    ofList entries = ofList entries' := by
  apply h.foldl_eq'
  intro e he e' he' m
  by_cases hsame : e.1 = e'.1
  · rw [hnames e he e' he' hsame]
  · exact set_comm hsame

end Members

namespace Csv

variable {n : Nat} {σ : Equiv.Perm (Fin n)} {fields fields' : List Bytes}

/-- The fields of one row in two orders. -/
def Shuffled (σ : Equiv.Perm (Fin n)) (fields fields' : List Bytes) : Prop :=
  ∃ cells : Fin n → Bytes, fields = List.ofFn cells ∧ fields' = List.ofFn (cells ∘ σ)

theorem Shuffled.feeds_eq (h : Shuffled σ fields fields') :
    (fields = [] ↔ fields' = []) ∧ feeds fields = feeds fields' := by
  obtain ⟨cells, rfl, rfl⟩ := h
  have hperm : (List.ofFn (cells ∘ σ)).Perm (List.ofFn cells) := σ.ofFn_comp_perm cells
  constructor
  · rw [List.ofFn_eq_nil_iff, List.ofFn_eq_nil_iff]
  · exact (hperm.flatten.count_eq lineFeed).symm

end Csv

namespace Export

/-- A file with as many cells in each row as there are headers. -/
structure Table (n : Nat) where
  marked : Bool
  header : Fin n → Bytes
  headerEnd : Csv.LineEnd
  rows : List ((Fin n → Bytes) × Csv.LineEnd)

namespace Table

variable {n : Nat}

/-- The columns in another order. -/
def reordered (t : Table n) (σ : Equiv.Perm (Fin n)) : Table n where
  marked := t.marked
  header := t.header ∘ σ
  headerEnd := t.headerEnd
  rows := t.rows.map fun (cells, lineEnd) => (cells ∘ σ, lineEnd)

def body (t : Table n) : List (List Bytes × Csv.LineEnd) :=
  t.rows.map fun (cells, lineEnd) => (List.ofFn cells, lineEnd)

def file (t : Table n) (delimiter : UInt8) : Bytes :=
  Csv.mark t.marked ++ Csv.document delimiter ((List.ofFn t.header, t.headerEnd) :: t.body)

theorem records_file {delimiter : UInt8} (t : Table (n + 1)) (hdelimiter : Csv.Divides delimiter) :
    Csv.records delimiter (t.file delimiter) = ⟨1, List.ofFn t.header⟩ ::
      Csv.layout (t.headerEnd.next (1 + Csv.feeds (List.ofFn t.header)))
        (1 + Csv.feeds (List.ofFn t.header) + 1) t.body := by
  have hheader : List.ofFn t.header ≠ [] := by simp
  rw [file, Csv.records_document hdelimiter, Csv.layout, if_neg hheader]

theorem body_reordered (t : Table n) (σ : Equiv.Perm (Fin n)) :
    List.Forall₂ (fun row row' => Csv.Shuffled σ row.1 row'.1 ∧ row.2 = row'.2)
      t.body (t.reordered σ).body := by
  rw [body, body, reordered, List.map_map, List.forall₂_map_left_iff, List.forall₂_map_right_iff,
    List.forall₂_same]
  exact fun row _ => ⟨⟨row.1, rfl, rfl⟩, rfl⟩

end Table

variable {n : Nat} {σ : Equiv.Perm (Fin n)} {d : Dialect} {batch : Batch} {label : String}
  {headers cells : Fin n → List Char} {i : Nat}

/-- Where the column is that stands at a place after the columns have been put in another order. -/
def place (σ : Equiv.Perm (Fin n)) (i : Nat) : Nat := if h : i < n then σ ⟨i, h⟩ else i

theorem cell_place (cells : Fin n → List Char) (i : Nat) :
    cell (List.ofFn cells) (place σ i) = cell (List.ofFn (cells ∘ σ)) i := by
  rw [cell, cell, List.getD_eq_getElem?_getD, List.getD_eq_getElem?_getD, List.getElem?_ofFn,
    List.getElem?_ofFn, place]
  by_cases h : i < n
  · rw [dif_pos h, dif_pos (σ ⟨i, h⟩).isLt, dif_pos h]
    rfl
  · rw [dif_neg h, dif_neg h, dif_neg h]

theorem column?_eq_some_iff
    (hdistinct : Function.Injective fun k => Text.normalChars (headers k)) :
    column? (List.ofFn headers) label = some i ↔
      ∃ k : Fin n, k = i ∧ Text.normalChars (headers k) = Text.normalChars label.toList := by
  rw [column?, List.findIdx?_eq_some_iff_getElem]
  simp only [List.getElem_ofFn, List.length_ofFn, beq_iff_eq]
  constructor
  · rintro ⟨hi, hlabel, -⟩
    exact ⟨⟨i, hi⟩, rfl, hlabel⟩
  · rintro ⟨k, rfl, hlabel⟩
    refine ⟨k.isLt, hlabel, fun j hj hother => ?_⟩
    have hsame := hdistinct (hother.trans hlabel.symm)
    exact absurd (congrArg Fin.val hsame) (Nat.ne_of_lt hj)

theorem column?_place (hdistinct : Function.Injective fun k => Text.normalChars (headers k)) :
    column? (List.ofFn headers) label =
      (column? (List.ofFn (headers ∘ σ)) label).map (place σ) := by
  have hdistinct' : Function.Injective fun k => Text.normalChars ((headers ∘ σ) k) :=
    hdistinct.comp σ.injective
  ext i
  rw [column?_eq_some_iff hdistinct, Option.map_eq_some_iff]
  constructor
  · rintro ⟨k, rfl, hlabel⟩
    have hplace : place σ (σ.symm k) = k := by simp [place]
    refine ⟨σ.symm k, (column?_eq_some_iff hdistinct').mpr ⟨_, rfl, ?_⟩, hplace⟩
    simpa using hlabel
  · rintro ⟨j, hj, rfl⟩
    obtain ⟨k, rfl, hlabel⟩ := (column?_eq_some_iff hdistinct').mp hj
    exact ⟨σ k, by simp [place], hlabel⟩

theorem requiredColumn_place
    (hdistinct : Function.Injective fun k => Text.normalChars (headers k)) :
    requiredColumn (List.ofFn headers) label =
      (requiredColumn (List.ofFn (headers ∘ σ)) label).map (place σ) := by
  rw [requiredColumn, requiredColumn, column?_place hdistinct]
  cases column? (List.ofFn (headers ∘ σ)) label <;> rfl

def Columns.placed (σ : Equiv.Perm (Fin n)) (c : Columns) : Columns where
  date := place σ c.date
  description := place σ c.description
  reference := c.reference.map (place σ)
  amount := place σ c.amount

theorem columns_place (hdistinct : Function.Injective fun k => Text.normalChars (headers k)) :
    columns d (List.ofFn headers) =
      (columns d (List.ofFn (headers ∘ σ))).map (Columns.placed σ) := by
  rw [columns, columns, column?_place hdistinct, requiredColumn_place hdistinct,
    requiredColumn_place hdistinct, requiredColumn_place hdistinct]
  cases requiredColumn (List.ofFn (headers ∘ σ)) d.dateColumn with
  | error e => rfl
  | ok date =>
    cases requiredColumn (List.ofFn (headers ∘ σ)) d.descriptionColumn with
    | error e => rfl
    | ok description =>
      cases requiredColumn (List.ofFn (headers ∘ σ)) d.amountColumn <;> rfl

theorem zip_ofFn {α β : Type} (f : Fin n → α) (g : Fin n → β) :
    (List.ofFn f).zip (List.ofFn g) = List.ofFn fun i => (f i, g i) := by
  apply List.ext_getElem
  · simp
  · intro i hi hi'
    simp

/-- The cells by their headers do not depend on the order of the columns. -/
theorem raw_reordered (hdistinct : Function.Injective headers) :
    raw (List.ofFn headers) (List.ofFn cells) =
      raw (List.ofFn (headers ∘ σ)) (List.ofFn (cells ∘ σ)) := by
  rw [raw, raw, zip_ofFn, zip_ofFn]
  have hperm : (List.ofFn fun i => ((headers ∘ σ) i, (cells ∘ σ) i)).Perm
      (List.ofFn fun i => (headers i, cells i)) := σ.ofFn_comp_perm fun i => (headers i, cells i)
  apply Members.ofList_perm ((hperm.symm.filter _).map _)
  intro e he e' he' hname
  obtain ⟨⟨h, c⟩, hmem, rfl⟩ := List.mem_map.mp he
  obtain ⟨⟨h', c'⟩, hmem', rfl⟩ := List.mem_map.mp he'
  obtain ⟨k, hk⟩ := List.mem_ofFn.mp (List.mem_of_mem_filter hmem)
  obtain ⟨k', hk'⟩ := List.mem_ofFn.mp (List.mem_of_mem_filter hmem')
  obtain ⟨rfl, rfl⟩ := Prod.mk.inj hk
  obtain ⟨rfl, rfl⟩ := Prod.mk.inj hk'
  rw [hdistinct (String.ofList_injective hname)]

theorem transaction_reordered (hdistinct : Function.Injective headers) (columns : Columns)
    (line : Nat) :
    transaction d batch (List.ofFn headers) (columns.placed σ) line (List.ofFn cells) =
      transaction d batch (List.ofFn (headers ∘ σ)) columns line (List.ofFn (cells ∘ σ)) := by
  have hreference : (columns.reference.map (place σ)).map (cell (List.ofFn cells)) =
      columns.reference.map (cell (List.ofFn (cells ∘ σ))) := by
    rw [Option.map_map]
    exact congrArg (fun f => columns.reference.map f) (funext (cell_place cells))
  simp only [transaction, Columns.placed, cell_place, hreference,
    raw_reordered (σ := σ) hdistinct]

theorem row_reordered {record record' : Csv.Record} (hdistinct : Function.Injective headers)
    (columns : Columns) (hline : record.line = record'.line)
    (hfields : Csv.Shuffled σ record.fields record'.fields) :
    row d batch (List.ofFn headers) (columns.placed σ) record =
      row d batch (List.ofFn (headers ∘ σ)) columns record' := by
  obtain ⟨cells, hcells, hcells'⟩ := hfields
  have hblank : isBlankRow (List.ofFn (Text.decodeCell ∘ cells)) =
      isBlankRow (List.ofFn (Text.decodeCell ∘ cells ∘ σ)) :=
    (σ.ofFn_comp_perm (Text.decodeCell ∘ cells)).symm.all_eq
  have hdescription : cell (List.ofFn (Text.decodeCell ∘ cells)) (columns.placed σ).description =
      cell (List.ofFn (Text.decodeCell ∘ cells ∘ σ)) columns.description :=
    cell_place _ _
  rw [row, row, hcells, hcells', List.map_ofFn, List.map_ofFn, hblank, hline, hdescription,
    transaction_reordered hdistinct]
  rfl

theorem mapM_row_reordered (t : Table n) (hdistinct : Function.Injective headers)
    (columns : Columns) (start line : Nat) :
    (Csv.layout start line t.body).mapM
        (row d batch (List.ofFn headers) (columns.placed σ)) =
      (Csv.layout start line (t.reordered σ).body).mapM
        (row d batch (List.ofFn (headers ∘ σ)) columns) := by
  apply mapM_congr
  refine (Csv.layout_forall₂ Csv.Shuffled.feeds_eq (t.body_reordered σ) start line).imp ?_
  exact fun _ _ h => row_reordered hdistinct columns h.1 h.2

/-- The order of the columns does not matter: with headers that differ in their normal forms, a file
gives the same lines, or the same problem, in whatever order its columns are. -/
theorem lines_reordered (t : Table n) (hdelimiter : Csv.Divides d.delimiter)
    (hdistinct : Function.Injective fun i => Text.normalChars (Text.decodeCell (t.header i)))
    (σ : Equiv.Perm (Fin n)) :
    lines d batch ((t.reordered σ).file d.delimiter) = lines d batch (t.file d.delimiter) := by
  cases n with
  | zero =>
    have hempty : ∀ cells : Fin 0 → Bytes, cells ∘ σ = cells := fun _ => Subsingleton.elim _ _
    simp [Table.reordered, hempty]
  | succ n =>
    have hheaders : Function.Injective (Text.decodeCell ∘ t.header) := fun i j h =>
      hdistinct (congrArg Text.normalChars h)
    have hheader : (t.reordered σ).header = t.header ∘ σ := rfl
    have hheaderEnd : (t.reordered σ).headerEnd = t.headerEnd := rfl
    have hfeeds : Csv.feeds (List.ofFn t.header) = Csv.feeds (List.ofFn (t.header ∘ σ)) :=
      (Csv.Shuffled.feeds_eq ⟨t.header, rfl, rfl⟩).2
    have hcolumns : columns d (List.ofFn (Text.decodeCell ∘ t.header)) =
        (columns d (List.ofFn ((Text.decodeCell ∘ t.header) ∘ σ))).map (Columns.placed σ) :=
      columns_place hdistinct
    rw [lines_of_records (t.records_file hdelimiter),
      lines_of_records ((t.reordered σ).records_file hdelimiter), hheader, hheaderEnd, ← hfeeds,
      List.map_ofFn, List.map_ofFn, ← Function.comp_assoc, hcolumns]
    cases columns d (List.ofFn ((Text.decodeCell ∘ t.header) ∘ σ)) with
    | error e => rfl
    | ok columns =>
      exact congrArg (fun rows => rows >>= fun rows => pure (rows.filterMap id))
        (mapM_row_reordered t hheaders columns _ _).symm

end Export

namespace Sample

def table : Export.Table 3 where
  marked := false
  header := ![Text.encodeUtf8 "Data".toList, Text.encodeUtf8 "Histórico".toList,
    Text.encodeUtf8 "Valor".toList]
  headerEnd := .lf
  rows := [(![Text.encodeUtf8 "01/05/2024".toList, Text.encodeUtf8 "Compra".toList,
    Text.encodeUtf8 "-10,00".toList], .crlf)]

end Sample

namespace Export

/-- With the amounts in the first column and the dates in the last one. -/
theorem lines_reordered_swap :
    let t := Sample.table
    let d := Dialect.bancoDoBrasil
    lines d Sample.period ((t.reordered (Equiv.swap 0 2)).file d.delimiter) =
        lines d Sample.period (t.file d.delimiter) ∧
      (lines d Sample.period (t.file d.delimiter)).map List.length = .ok 1 := by
  have hdistinct : Function.Injective fun i =>
      Text.normalChars (Text.decodeCell (Sample.table.header i)) := by
    intro i j
    revert i j
    decide +kernel
  exact ⟨lines_reordered Sample.table (by decide) hdistinct _, by decide +kernel⟩

end Export

end BankReconciliation
