import BankReconciliation.Proofs.Sql.Transaction
import BankReconciliation.Proofs.Text.Digits
import BankReconciliation.Proofs.Text.Separated

/-! The texts of insertions, updates and selections, read again as a server reads them: which columns
they name, and which of the bound values belongs to each. An insertion is read as the rows that its
values make up. -/

namespace BankReconciliation.Sql

/-- What stands in each pair of parentheses, as long as none is within another. -/
def groups : List Char → List (List Char)
  | [] => []
  | c :: cs => if c = '(' then cs.takeWhile (· != ')') :: groups cs else groups cs

def items (cs : List Char) : List (List Char) := (cs.filter (· != ' ')).splitOn ','

def listed (parts : List (List Char)) : List Char := [',', ' '].intercalate parts

theorem groups_append {before cs : List Char} (h : '(' ∉ before) :
    groups (before ++ cs) = groups cs := by
  induction before with
  | nil => rfl
  | cons c before ih =>
    obtain ⟨hc, hbefore⟩ := not_or.mp (mt List.mem_cons.mpr h)
    rw [List.cons_append, groups, if_neg (Ne.symm hc), ih hbefore]

theorem groups_eq_nil {cs : List Char} (h : '(' ∉ cs) : groups cs = [] := by
  have hall : groups (cs ++ []) = groups [] := groups_append h
  rwa [List.append_nil] at hall

theorem groups_group {content cs : List Char} (hopen : '(' ∉ content) (hclose : ')' ∉ content) :
    groups ('(' :: (content ++ ')' :: cs)) = content :: groups cs := by
  have htake : (content ++ ')' :: cs).takeWhile (· != ')') = content := by
    rw [List.takeWhile_append_of_pos fun c hc => bne_iff_ne.mpr (ne_of_mem_of_not_mem hc hclose)]
    exact List.append_nil content
  rw [groups, if_pos rfl, htake, groups_append hopen, groups, if_neg (by decide)]

theorem not_mem_listed {c : Char} (hc : c ∉ [',', ' ']) {parts : List (List Char)}
    (h : ∀ part ∈ parts, c ∉ part) : c ∉ listed parts := by
  intro hmem
  rcases mem_intercalate hmem with hmem | ⟨part, hpart, hmem⟩
  · exact hc hmem
  · exact h part hpart hmem

theorem items_listed {parts : List (List Char)} (hne : parts ≠ [])
    (hspace : ∀ part ∈ parts, ' ' ∉ part) (hcomma : ∀ part ∈ parts, ',' ∉ part) :
    items (listed parts) = parts := by
  have hstay : parts.map (List.filter (· != ' ')) = parts := by
    refine (List.map_congr_left fun part hpart => ?_).trans (List.map_id parts)
    exact List.filter_eq_self.mpr fun c hc =>
      bne_iff_ne.mpr (ne_of_mem_of_not_mem hc (hspace part hpart))
  rw [items, listed, filter_intercalate, hstay]
  exact List.splitOn_intercalate ',' hcomma hne

/-- The text by which a query names one of its parameters. -/
def slot (n : Nat) : List Char := '$' :: Text.digits n

def slots (first count : Nat) : List (List Char) := (List.range' first count).map slot

theorem not_mem_slot {c : Char} (hc : c.isDigit = false) (hdollar : c ≠ '$') (n : Nat) :
    c ∉ slot n := by
  intro h
  rcases List.mem_cons.mp h with h | h
  · exact hdollar h
  · rw [Text.isDigit_of_mem_digits h] at hc
    cases hc

theorem not_mem_of_mem_slots {c : Char} (hc : c.isDigit = false) (hdollar : c ≠ '$')
    {first count : Nat} {part : List Char} (h : part ∈ slots first count) : c ∉ part := by
  obtain ⟨n, -, rfl⟩ := List.mem_map.mp h
  exact not_mem_slot hc hdollar n

theorem items_slots {first count : Nat} (hcount : count ≠ 0) :
    items (listed (slots first count)) = slots first count := by
  refine items_listed ?_ (fun _ => not_mem_of_mem_slots (by decide) (by decide))
    (fun _ => not_mem_of_mem_slots (by decide) (by decide))
  simpa [slots] using hcount

theorem not_mem_listed_slots {c : Char} (hc : c.isDigit = false) (hother : c ∉ ['$', ',', ' '])
    (first count : Nat) : c ∉ listed (slots first count) := by
  obtain ⟨hdollar, hseparator⟩ := not_or.mp (mt List.mem_cons.mpr hother)
  exact not_mem_listed hseparator fun _ => not_mem_of_mem_slots hc hdollar

namespace Query

/-- The value of the parameter that an item names; parameters are numbered from 1. -/
def param? (q : Query) : List Char → Option Value
  | '$' :: ds =>
    match Text.readDigits? ds with
    | some (n + 1) => q.params[n]?
    | _ => none
  | _ => none

theorem param?_slot (q : Query) (n : Nat) : q.param? (slot (n + 1)) = q.params[n]? := by
  have hread : Text.readDigits? (Text.digits (n + 1)) = some (n + 1) := by
    rw [Text.readDigits?, if_pos, Text.digitsValue_digits]
    exact ⟨Nat.toDigits_ne_nil, List.all_eq_true.mpr fun c => Text.isDigit_of_mem_digits⟩
  rw [slot, param?, hread]

theorem mapM_param?_slots {q : Query} {before values after : List Value}
    (h : q.params = before ++ (values ++ after)) :
    (slots (before.length + 1) values.length).mapM q.param? = some values := by
  induction values generalizing before with
  | nil => rfl
  | cons v values ih =>
    have hrest : q.params = (before ++ [v]) ++ (values ++ after) := by simp [h]
    have hlater := ih hrest
    rw [List.length_append, List.length_singleton] at hlater
    have hfirst : q.param? (slot (before.length + 1)) = some v := by
      rw [param?_slot, h]
      simp
    have hslots : slots (before.length + 1) (v :: values).length =
        slot (before.length + 1) :: slots (before.length + 1 + 1) values.length := by
      rw [slots, List.length_cons, List.range'_succ]
      rfl
    rw [hslots, List.mapM_cons, hfirst, hlater]
    rfl

theorem textFrom_append (n : Nat) (xs ys : List Piece) :
    textFrom n (xs ++ ys) = textFrom n xs ++ textFrom (n + (valuesOf xs).length) ys := by
  induction xs generalizing n with
  | nil => exact String.empty_append.symm
  | cons x xs ih =>
    cases x with
    | sql s => rw [List.cons_append, textFrom, textFrom, ih, valuesOf_sql, String.append_assoc]
    | bind v =>
      rw [List.cons_append, textFrom, textFrom, ih, valuesOf_bind, List.length_cons,
        Nat.add_right_comm n 1, ← Nat.add_assoc, String.append_assoc, String.append_assoc,
        String.append_assoc]

theorem toList_textFrom_binds (n : Nat) (values : List Value) :
    (textFrom n ([Piece.sql ", "].intercalate (values.map fun v => [.bind v]))).toList =
      listed (slots n values.length) := by
  induction values generalizing n with
  | nil => rfl
  | cons v values ih =>
    cases values with
    | nil => simp [textFrom, slots, slot, listed]
    | cons w values =>
      have hlater := ih (n + 1)
      simp only [List.map_cons, List.intercalate_cons_cons, textFrom, List.cons_append,
        List.nil_append, slots, List.length_cons, List.range'_succ, listed, String.toList_append,
        String.toList_ofList] at hlater ⊢
      rw [hlater]
      simp [slot]

theorem toList_textFrom_tuple (n : Nat) (values : List Value) (rest : List Piece) :
    (textFrom n (tuple values ++ rest)).toList =
      '(' :: (listed (slots n values.length) ++
        ')' :: (textFrom (n + values.length) rest).toList) := by
  rw [textFrom_append, valuesOf_tuple, String.toList_append, tuple, List.cons_append, textFrom,
    textFrom_append, String.toList_append, String.toList_append, toList_textFrom_binds]
  simp [textFrom]

def row? (q : Query) (columns tuple : List Char) : Option Cells := do
  let values ← (items tuple).mapM q.param?
  let names := (items columns).map String.ofList
  if names.length = values.length then some (names.zip values) else none

def insertedRows? (q : Query) : Option (List Cells) :=
  if "INSERT INTO bank_statements (".toList.isPrefixOf q.text.toList then
    match groups q.text.toList with
    | [] => none
    | columns :: tuples => tuples.mapM (q.row? columns)
  else none

theorem groups_textFrom_tuple (n : Nat) (values : List Value) (rest : List Piece) :
    groups (textFrom n (tuple values ++ rest)).toList =
      listed (slots n values.length) :: groups (textFrom (n + values.length) rest).toList := by
  rw [toList_textFrom_tuple]
  exact groups_group (not_mem_listed_slots (by decide) (by decide) n _)
    (not_mem_listed_slots (by decide) (by decide) n _)

theorem row?_slots {q : Query} {columns : List Char} {names : List String}
    {before values after : List Value} (hnames : (items columns).map String.ofList = names)
    (hne : values ≠ []) (hlength : values.length = names.length)
    (hparams : q.params = before ++ (values ++ after)) :
    q.row? columns (listed (slots (before.length + 1) values.length)) =
      some (names.zip values) := by
  rw [row?, items_slots (by simpa using hne), mapM_param?_slots hparams, hnames]
  exact if_pos hlength.symm

/-- Each tuple of an insertion is read as the row of its values. The induction is on the tuples that
are left, with the values of the earlier ones before them among the parameters. -/
theorem mapM_row?_tuples {q : Query} {columns : List Char} {names : List String} {after : String}
    (hnames : (items columns).map String.ofList = names) (hne : names ≠ [])
    (hafter : '(' ∉ after.toList) {before : List Value} {tuples : List (List Value)}
    (hlength : ∀ values ∈ tuples, values.length = names.length)
    (hparams : q.params = before ++ tuples.flatten) :
    (groups (textFrom (before.length + 1)
      ([Piece.sql ", "].intercalate (tuples.map tuple) ++ [.sql after])).toList).mapM
        (q.row? columns) = some (tuples.map names.zip) := by
  induction tuples generalizing before with
  | nil =>
    have hnone : groups (textFrom (before.length + 1) [Piece.sql after]).toList = [] := by
      simpa [textFrom] using groups_eq_nil hafter
    simp [List.intercalate, hnone]
  | cons values tuples ih =>
    obtain ⟨hfirst, hlater⟩ := List.forall_mem_cons.mp hlength
    have hnil : values ≠ [] := by
      rintro rfl
      exact hne (List.eq_nil_of_length_eq_zero hfirst.symm)
    have hrow := row?_slots hnames hnil hfirst hparams
    have hparams' : q.params = (before ++ values) ++ tuples.flatten := by simp [hparams]
    have hrest := ih hlater hparams'
    rw [List.length_append, Nat.add_right_comm] at hrest
    have hgroups : groups (textFrom (before.length + 1)
        ([Piece.sql ", "].intercalate ((values :: tuples).map tuple) ++ [.sql after])).toList =
          listed (slots (before.length + 1) values.length) ::
            groups (textFrom (before.length + 1 + values.length)
              ([Piece.sql ", "].intercalate (tuples.map tuple) ++ [.sql after])).toList := by
      cases tuples with
      | nil =>
        rw [List.map_cons, List.map_nil, List.intercalate_singleton, groups_textFrom_tuple]
        rfl
      | cons next tuples =>
        rw [List.map_cons, List.map_cons, List.intercalate_cons_cons, List.append_assoc,
          List.append_assoc, groups_textFrom_tuple, List.singleton_append, textFrom,
          String.toList_append, groups_append (by decide)]
    rw [hgroups, List.mapM_cons, hrow, hrest]
    rfl

end Query

theorem toList_columnList : columnList.toList = listed (statementColumns.map String.toList) :=
  String.toList_intercalate

theorem map_items_columnList : (items columnList.toList).map String.ofList = statementColumns := by
  rw [toList_columnList, items_listed (by decide) (by decide) (by decide), List.map_map]
  exact List.map_id'' (fun _ => String.ofList_toList) _

def tuplePieces (tuples : List (List Value)) : List Piece :=
  [Piece.sql ", "].intercalate (tuples.map tuple) ++
    [.sql " ON CONFLICT DO NOTHING RETURNING bank_statement_id"]

theorem toList_insertionQuery (tuples : List (List Value)) :
    (insertionQuery tuples).text.toList = "INSERT INTO bank_statements (".toList ++
      (columnList.toList ++ (") VALUES ".toList ++
        (Query.textFrom 1 (tuplePieces tuples)).toList)) := by
  rw [insertionQuery, Query.ofPieces, List.cons_append, Query.textFrom, String.toList_append,
    String.toList_append, String.toList_append, List.append_assoc, List.append_assoc]
  rfl

theorem groups_insertionQuery (tuples : List (List Value)) :
    groups (insertionQuery tuples).text.toList =
      columnList.toList :: groups (Query.textFrom 1 (tuplePieces tuples)).toList := by
  have hopen : "INSERT INTO bank_statements (".toList =
      "INSERT INTO bank_statements ".toList ++ ['('] := by decide
  have hclose : ") VALUES ".toList = ')' :: " VALUES ".toList := by decide
  rw [toList_insertionQuery, hopen, hclose, List.append_assoc, List.singleton_append,
    List.cons_append, groups_append (by decide), toList_columnList,
    groups_group (not_mem_listed (by decide) (by decide))
      (not_mem_listed (by decide) (by decide)), groups_append (by decide)]

/-- An insertion is read as one row for each tuple, whose values stand in the columns in their
order. -/
theorem insertedRows?_insertionQuery {tuples : List (List Value)}
    (h : ∀ values ∈ tuples, values.length = statementColumns.length) :
    (insertionQuery tuples).insertedRows? = some (tuples.map statementColumns.zip) := by
  have hprefix : "INSERT INTO bank_statements (".toList.isPrefixOf
      (insertionQuery tuples).text.toList = true := by
    rw [toList_insertionQuery]
    exact List.isPrefixOf_iff_prefix.mpr (List.prefix_append _ _)
  have hend : '(' ∉ " ON CONFLICT DO NOTHING RETURNING bank_statement_id".toList := by
    decide +kernel
  have hparams : (insertionQuery tuples).params = [] ++ tuples.flatten :=
    params_insertionQuery tuples
  have hrows := Query.mapM_row?_tuples map_items_columnList (by decide) hend h hparams
  rw [Query.insertedRows?, if_pos hprefix, groups_insertionQuery]
  exact hrows

def equation? (cs : List Char) : Option (String × List Char) :=
  match cs.splitOn '=' with
  | [column, item] => some (String.ofList column, item)
  | _ => none

def conditions? (ws : List String) : Option (List (String × List Char)) :=
  (ws.splitOn "AND").mapM fun ws => equation? (ws.flatMap String.toList)

def assignments? (text : List Char) :
    Option (List (String × List Char) × List (String × List Char)) :=
  match ((Text.words text).map String.ofList).splitOn "WHERE" with
  | ["UPDATE" :: "bank_statements" :: "SET" :: assignments, conditions] => do
    return (← (items (assignments.flatMap String.toList)).mapM equation?, ← conditions? conditions)
  | _ => none

def columns? (text : List Char) : Option (List String × List (String × List Char)) :=
  match ((Text.words text).map String.ofList).splitOn "WHERE" with
  | ["SELECT" :: selected, conditions] =>
    match selected.splitOn "FROM" with
    | [columns, ["bank_statements"]] => do
      return ((items (columns.flatMap String.toList)).map String.ofList, ← conditions? conditions)
    | _ => none
  | _ => none

namespace Query

def cells? (q : Query) (equations : List (String × List Char)) : Option Cells :=
  equations.mapM fun (column, item) => (q.param? item).map (column, ·)

def update? (q : Query) : Option (Cells × Cells) := do
  let (assignments, conditions) ← assignments? q.text.toList
  return (← q.cells? assignments, ← q.cells? conditions)

def selection? (q : Query) : Option (List String × Cells) := do
  let (columns, conditions) ← columns? q.text.toList
  return (columns, ← q.cells? conditions)

end Query

def overwrite (written row : Cells) : Cells :=
  row.map fun (column, value) => (column, (written.lookup column).getD value)

/-- An update finds a row and makes another of it. -/
def Query.Updates (q : Query) (before after : Cells) : Prop :=
  ∃ written found, q.update? = some (written, found) ∧ found ⊆ before ∧
    written.map Prod.fst ⊆ before.map Prod.fst ∧ after = overwrite written before

def Query.Selects (q : Query) (row cells : Cells) : Prop :=
  ∃ columns found, q.selection? = some (columns, found) ∧ found ⊆ row ∧
    columns.mapM (fun column => (row.lookup column).map (column, ·)) = some cells

theorem assignments?_updateQuery (s : Statement) : assignments? (updateQuery s).text.toList =
    some ([("reconciliation_status", slot 3), ("financial_record_id", slot 4),
      ("reconciled_at", slot 5), ("updated_at", slot 6)],
      [("church_id", slot 1), ("bank_statement_id", slot 2)]) := by
  unfold updateQuery
  -- the text is left in its two parts, which the kernel reads faster than the whole
  simp only [String.toList_append]
  decide +kernel

theorem update?_updateQuery (s : Statement) : (updateQuery s).update? =
    some (updateCells s, [("church_id", .text s.churchId), ("bank_statement_id", .uuid s.id)]) := by
  have hparams : (updateQuery s).params = .text s.churchId :: .uuid s.id ::
    (updateCells s).map Prod.snd := rfl
  unfold Query.update?
  simp only [assignments?_updateQuery]
  simp [Query.cells?, Query.param?_slot, hparams, updateCells]

theorem columns?_findPieces (churchId : String) (id : Uuid) :
    columns? (Query.ofPieces (findPieces churchId id)).text.toList =
      some (statementColumns, [("church_id", slot 1), ("bank_statement_id", slot 2)]) := by
  have htext : (Query.ofPieces (findPieces churchId id)).text.toList = "SELECT ".toList ++
      (listed (statementColumns.map String.toList) ++
        (" FROM bank_statements WHERE church_id = ".toList ++ (slot 1 ++
          (" AND bank_statement_id = ".toList ++ slot 2)))) := by
    rw [← toList_columnList]
    unfold findPieces Query.ofPieces
    simp only [Query.textFrom, String.toList_append, String.toList_ofList, List.append_assoc]
    rfl
  rw [htext]
  decide +kernel

theorem selection?_findPieces (churchId : String) (id : Uuid) :
    (Query.ofPieces (findPieces churchId id)).selection? =
      some (statementColumns,
        [("church_id", .text churchId), ("bank_statement_id", .uuid id)]) := by
  have hparams : (Query.ofPieces (findPieces churchId id)).params =
    [.text churchId, .uuid id] := rfl
  unfold Query.selection?
  simp only [columns?_findPieces]
  simp [Query.cells?, Query.param?_slot, hparams]

end BankReconciliation.Sql
