import BankReconciliation.Csv.Reader
import Mathlib.Data.List.Forall2
import Mathlib.Tactic.SplitIfs

/-! What is written with every field quoted is read back: any bytes may stand in a field, line ends,
quotes and the delimiter among them. -/

namespace BankReconciliation.Csv

open Text (Bytes)

def escape (field : Bytes) : Bytes :=
  field.flatMap fun b => if b = quote then [quote, quote] else [b]

def quotedField (field : Bytes) : Bytes := quote :: escape field ++ [quote]

def line (delimiter : UInt8) : List Bytes → Bytes
  | [] => []
  | [f] => quotedField f
  | f :: fs => quotedField f ++ delimiter :: line delimiter fs

inductive LineEnd | lf | crlf
deriving DecidableEq

def LineEnd.bytes : LineEnd → Bytes
  | .lf => [lineFeed]
  | .crlf => [carriageReturn, lineFeed]

/-- A byte that can stand between two quoted fields. -/
def Divides (delimiter : UInt8) : Prop :=
  delimiter ≠ quote ∧ delimiter ≠ carriageReturn ∧ delimiter ≠ lineFeed

instance (delimiter : UInt8) : Decidable (Divides delimiter) := by unfold Divides; infer_instance

variable {delimiter b : UInt8} {s s' : State} {field rest : Bytes} {fields : List Bytes}
  {record : Record}

theorem readFrom_of_step (h : step delimiter b s = (s', none)) :
    readFrom delimiter s (b :: rest) = readFrom delimiter s' rest := by
  rw [readFrom, h]
  rfl

theorem readFrom_of_step_some (h : step delimiter b s = (s', some record)) :
    readFrom delimiter s (b :: rest) = record :: readFrom delimiter s' rest := by
  rw [readFrom, h]
  rfl

theorem escape_cons (b : UInt8) (field : Bytes) :
    escape (b :: field) = (if b = quote then [quote, quote] else [b]) ++ escape field :=
  List.flatMap_cons

namespace State

/-- Before the first byte of a field, the record's first or a later one. -/
def AtField (s : State) : Prop := s.mode = .recordStart ∨ s.mode = .fieldStart

def within (s : State) (b : UInt8) : State :=
  { s with field := s.field ++ [b], line := if b = lineFeed then s.line + 1 else s.line }

/-- After the closing quote of a field. -/
def quoted (s : State) (field : Bytes) : State :=
  { s with mode := .afterQuote, field := s.field ++ field, line := s.line + field.count lineFeed }

theorem quoted_cons (s : State) (b : UInt8) (field : Bytes) :
    s.quoted (b :: field) = (s.within b).quoted field := by
  by_cases hb : b = lineFeed <;> simp [quoted, within, hb, Nat.add_assoc, Nat.add_comm]

end State

theorem step_quote (h : s.AtField) :
    step delimiter quote s = ({ s with mode := .inQuotes }, none) := by
  obtain ⟨mode, field, fields, start, line⟩ := s
  rcases h with rfl | rfl <;> rfl

theorem step_quote_inQuotes (h : s.mode = .inQuotes) :
    step delimiter quote s = (s.quoted [], none) := by
  obtain ⟨mode, field, fields, start, line⟩ := s
  obtain rfl : mode = .inQuotes := h
  rw [State.quoted, List.append_nil]
  rfl

theorem step_inQuotes (h : s.mode = .inQuotes) (hb : b ≠ quote) :
    step delimiter b s = (s.within b, none) := by
  obtain ⟨mode, field, fields, start, line⟩ := s
  obtain rfl : mode = .inQuotes := h
  by_cases hfeed : b = lineFeed
  · subst hfeed
    simp [step, State.within, State.push, hb]
  · simp [step, State.within, State.push, hb, hfeed]

/-- A byte within quotes is read into the field, a quote once for the two that stand for it. -/
theorem readFrom_escape_byte (h : s.mode = .inQuotes) :
    readFrom delimiter s ((if b = quote then [quote, quote] else [b]) ++ rest) =
      readFrom delimiter (s.within b) rest := by
  by_cases hb : b = quote
  · subst hb
    have hreopen : step delimiter quote (s.quoted []) = (s.within quote, none) := by
      obtain ⟨mode, field, fields, start, line⟩ := s
      obtain rfl : mode = .inQuotes := h
      rw [State.quoted, List.append_nil]
      rfl
    rw [if_pos rfl]
    exact (readFrom_of_step (step_quote_inQuotes h)).trans (readFrom_of_step hreopen)
  · rw [if_neg hb]
    exact readFrom_of_step (step_inQuotes h hb)

theorem readFrom_escape (h : s.mode = .inQuotes) :
    readFrom delimiter s (escape field ++ quote :: rest) =
      readFrom delimiter (s.quoted field) rest := by
  induction field generalizing s with
  | nil => exact readFrom_of_step (step_quote_inQuotes h)
  | cons b field ih =>
    have hwithin : (s.within b).mode = .inQuotes := h
    rw [escape_cons, List.append_assoc, readFrom_escape_byte h, ih hwithin, State.quoted_cons]

theorem readFrom_quotedField (h : s.AtField) :
    readFrom delimiter s (quotedField field ++ rest) =
      readFrom delimiter (s.quoted field) rest := by
  have hbytes : quotedField field ++ rest = quote :: (escape field ++ quote :: rest) := by
    simp [quotedField]
  rw [hbytes, readFrom_of_step (step_quote h), readFrom_escape rfl]
  rfl

/-- The number of line feeds in the fields of a record. -/
def feeds (fields : List Bytes) : Nat := fields.flatten.count lineFeed

/-- Where the next record is asked for after one that ends on the given line. The line feed of a pair
is read only then. -/
def LineEnd.next : LineEnd → Nat → Nat
  | .lf, line => line + 1
  | .crlf, line => line

theorem step_delimiter (hdelimiter : Divides delimiter) (h : s.mode = .afterQuote) :
    step delimiter delimiter s = (s.endField, none) := by
  obtain ⟨hquote, -, hfeed⟩ := hdelimiter
  simp [step, stepOpen, h, hquote, hfeed]

theorem readFrom_lineEnd (hdelimiter : Divides delimiter) (h : s.mode = .afterQuote)
    (lineEnd : LineEnd) :
    readFrom delimiter s (lineEnd.bytes ++ rest) =
      s.record :: readFrom delimiter { start := lineEnd.next s.line, line := s.line + 1 } rest := by
  obtain ⟨-, hreturn, hfeed⟩ := hdelimiter
  obtain ⟨mode, field, fields, start, line⟩ := s
  obtain rfl : mode = .afterQuote := h
  cases lineEnd with
  | lf =>
    have hquote : lineFeed ≠ quote := by decide
    have hend : step delimiter lineFeed ⟨.afterQuote, field, fields, start, line⟩ =
        ({ start := line + 1, line := line + 1 }, some ⟨start, fields ++ [field]⟩) := by
      simp [step, stepOpen, State.endRecord, State.record, hfeed.symm, hquote]
    exact readFrom_of_step_some hend
  | crlf =>
    have hquote : carriageReturn ≠ quote := by decide
    have hpair : carriageReturn ≠ lineFeed := by decide
    have hend : step delimiter carriageReturn ⟨.afterQuote, field, fields, start, line⟩ =
        ({ mode := .afterReturn, start := line, line }, some ⟨start, fields ++ [field]⟩) := by
      simp [step, stepOpen, State.endRecord, State.record, hreturn.symm, hquote, hpair]
    have hfeed : step delimiter lineFeed { mode := .afterReturn, start := line, line } =
        ({ start := line, line := line + 1 }, none) := rfl
    exact (readFrom_of_step_some hend).trans (congrArg _ (readFrom_of_step hfeed))

theorem readFrom_line (hdelimiter : Divides delimiter) (h : s.AtField) (hfield : s.field = [])
    (hfields : fields ≠ []) (lineEnd : LineEnd) :
    readFrom delimiter s (line delimiter fields ++ (lineEnd.bytes ++ rest)) =
      ⟨s.start, s.fields ++ fields⟩ :: readFrom delimiter
        { start := lineEnd.next (s.line + feeds fields)
          line := s.line + feeds fields + 1 } rest := by
  induction fields generalizing s with
  | nil => exact absurd rfl hfields
  | cons field fields ih =>
    cases fields with
    | nil =>
      rw [line, readFrom_quotedField h, readFrom_lineEnd hdelimiter rfl]
      simp [State.record, State.quoted, feeds, hfield]
    | cons field' fields =>
      have hbytes : line delimiter (field :: field' :: fields) ++ (lineEnd.bytes ++ rest) =
          quotedField field ++ delimiter ::
            (line delimiter (field' :: fields) ++ (lineEnd.bytes ++ rest)) := by
        simp [line]
      rw [hbytes, readFrom_quotedField h, readFrom_of_step (step_delimiter hdelimiter rfl),
        ih (.inr rfl) rfl (List.cons_ne_nil _ _)]
      simp [State.endField, State.quoted, feeds, hfield, Nat.add_assoc]

/-- Records one after the other, each with its own end. -/
def document (delimiter : UInt8) (rows : List (List Bytes × LineEnd)) : Bytes :=
  rows.flatMap fun (fields, lineEnd) => line delimiter fields ++ lineEnd.bytes

def mark (marked : Bool) : Bytes := if marked then Text.encodeUtf8 [Text.byteOrderMark] else []

variable {rows : List (List Bytes × LineEnd)}

theorem document_cons (fields : List Bytes) (lineEnd : LineEnd) :
    document delimiter ((fields, lineEnd) :: rows) =
      line delimiter fields ++ (lineEnd.bytes ++ document delimiter rows) := by
  simp [document]

/-- The records of a document, each with the line on which it is asked for. A line without fields is
skipped. -/
def layout : Nat → Nat → List (List Bytes × LineEnd) → List Record
  | _, _, [] => []
  | start, line, (fields, lineEnd) :: rows =>
    if fields = [] then layout start (line + 1) rows
    else ⟨start, fields⟩ ::
      layout (lineEnd.next (line + feeds fields)) (line + feeds fields + 1) rows

theorem readFrom_blank (lineEnd : LineEnd) (start line : Nat) :
    readFrom delimiter { start, line } (lineEnd.bytes ++ rest) =
      readFrom delimiter { start, line := line + 1 } rest := by
  cases lineEnd with
  | lf => exact readFrom_of_step rfl
  | crlf => exact (readFrom_of_step rfl).trans (readFrom_of_step rfl)

/-- A document is read back record by record. -/
theorem readFrom_document (hdelimiter : Divides delimiter) (start line : Nat) :
    readFrom delimiter { start, line } (document delimiter rows) = layout start line rows := by
  induction rows generalizing start line with
  | nil => rfl
  | cons row rows ih =>
    obtain ⟨fields, lineEnd⟩ := row
    rw [document_cons, layout]
    split_ifs with hfields
    · subst hfields
      rw [Csv.line, List.nil_append, readFrom_blank, ih]
    · rw [readFrom_line hdelimiter (.inl rfl) rfl hfields, ih, List.nil_append]

theorem fields_layout (hrows : ∀ row ∈ rows, row.1 ≠ []) (start line : Nat) :
    (layout start line rows).map Record.fields = rows.map Prod.fst := by
  induction rows generalizing start line with
  | nil => rfl
  | cons row rows ih =>
    obtain ⟨hrow, hrows⟩ := List.forall_mem_cons.mp hrows
    rw [layout, if_neg hrow, List.map_cons, List.map_cons, ih hrows]

/-- Rows that correspond, with as many line feeds in them, are laid out on the same lines. -/
theorem layout_forall₂ {rows' : List (List Bytes × LineEnd)} {R : List Bytes → List Bytes → Prop}
    (hfeeds : ∀ {fields fields'}, R fields fields' →
      (fields = [] ↔ fields' = []) ∧ feeds fields = feeds fields')
    (h : List.Forall₂ (fun row row' => R row.1 row'.1 ∧ row.2 = row'.2) rows rows')
    (start line : Nat) :
    List.Forall₂ (fun r r' => r.line = r'.line ∧ R r.fields r'.fields)
      (layout start line rows) (layout start line rows') := by
  induction h generalizing start line with
  | nil => exact .nil
  | @cons row row' rows rows' hrow _ ih =>
    obtain ⟨hfields, hend⟩ := hrow
    obtain ⟨hempty, hfeeds⟩ := hfeeds hfields
    rw [layout, layout]
    by_cases hrow : row.1 = []
    · rw [if_pos hrow, if_pos (hempty.mp hrow)]
      exact ih start (line + 1)
    · rw [if_neg hrow, if_neg (hempty.not.mp hrow), ← hfeeds, ← hend]
      exact .cons ⟨rfl, hfields⟩ (ih _ _)

theorem dropMark_document (marked : Bool) :
    dropMark (mark marked ++ document delimiter rows) = document delimiter rows := by
  cases marked with
  | true => rfl
  | false =>
    rcases rows with _ | ⟨⟨_ | ⟨field, fields⟩, lineEnd⟩, rows⟩
    · rfl
    · cases lineEnd <;> rfl
    · have hquote : ∃ bytes, line delimiter (field :: fields) = quote :: bytes := by
        cases fields <;> simp [line, quotedField]
      obtain ⟨bytes, hbytes⟩ := hquote
      rw [document_cons, hbytes]
      rfl

theorem records_document (hdelimiter : Divides delimiter) (marked : Bool) :
    records delimiter (mark marked ++ document delimiter rows) = layout 1 1 rows := by
  rw [records, dropMark_document]
  exact readFrom_document hdelimiter 1 1

theorem fields_records (hdelimiter : Divides delimiter) (hrows : ∀ row ∈ rows, row.1 ≠ [])
    (marked : Bool) :
    (records delimiter (mark marked ++ document delimiter rows)).map Record.fields =
      rows.map Prod.fst := by
  rw [records_document hdelimiter, fields_layout hrows]

end BankReconciliation.Csv
