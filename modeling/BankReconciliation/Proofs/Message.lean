import BankReconciliation.Message.Decode
import BankReconciliation.Message.Encode
import BankReconciliation.Proofs.Decimal.Reader
import BankReconciliation.Proofs.Json.Widening
import BankReconciliation.Proofs.Sql.Rows
import BankReconciliation.Proofs.Time.Reading

/-! Stored messages. Import jobs, reconciliations and ledger records are read back from their JSON
form, also when its members stand in another order and others have been added to them. -/

namespace BankReconciliation

/-- The same number, a zero without its sign. -/
def Decimal.plain (d : Decimal) : Decimal := { d with negative := d.negative && d.mantissa != 0 }

theorem Decimal.sameValue_plain (d : Decimal) : d.plain.sameValue d = true := by
  have hunits : d.plain.units = d.units := by
    rw [units, units]
    by_cases hzero : d.mantissa = 0 <;> simp [plain, hzero]
  rw [sameValue, hunits]
  exact beq_self_eq_true _

theorem Decimal.ofString?_render (d : Decimal) : ofString? d.render = some d.plain := by
  rw [ofString?, render, String.toList_ofList, toChars, read?_signed d.mantissa_lt d.scale_le]
  exact dif_pos ⟨d.mantissa_lt, d.scale_le⟩

namespace Json

variable {α : Type} {depth : Nat} {entries members : Members Json} {read : Json → Option α}
  {a : Json} {x : α}

/-- Every form that carries a value is read as the same. -/
def Reads (read : Json → Option α) (a : Json) (x : α) : Prop := ∀ j, Carries a j → read j = some x

theorem reads_str (s : String) : Reads str? (.str s) s := by
  intro j h
  cases h
  rfl

theorem reads_int32 (n : Int32) : Reads int32? (.ofInt32 n) n := by
  intro j h
  cases h
  exact int32OfInt?_toInt n

theorem reads_optionalStr (o : Option String) : Reads optionalStr? (.ofOption o) o := by
  intro j h
  cases o with
  | none =>
    cases h
    rfl
  | some s =>
    cases h
    rfl

theorem reads_instant (t : Instant) : Reads Instant.ofJson? t.toJson t := by
  intro j h
  cases h
  rw [Instant.ofJson?, str?, Option.bind_some, Timestamp.ofString?_render]

theorem reads_decimal (d : Decimal) : Reads Decimal.ofJson? d.toJson d.plain := by
  intro j h
  cases h
  exact d.ofString?_render

theorem reads_recordType (t : RecordType) : Reads RecordType.ofJson? t.toJson t := by
  intro j h
  cases h
  exact t.ofWord?_word

theorem reads_recordStatus (s : RecordStatus) : Reads RecordStatus.ofJson? s.toJson s := by
  intro j h
  cases h
  exact s.ofWord?_word

theorem lookup_bind_read (name : String) (hread : Reads read a x) (hmem : (name, a) ∈ entries)
    (h : ∀ e ∈ entries, ∃ j, members.lookup e.1 = some j ∧ Carries e.2 j) :
    (members.lookup name).bind read = some x := by
  obtain ⟨j, hlookup, hcarries⟩ := h _ hmem
  rw [hlookup]
  exact hread j hcarries

theorem reads_account (b : Account) : Reads Account.ofJson? b.toJson b := by
  intro j h
  obtain ⟨members, rfl, hmembers⟩ := h.lookup (by simp)
  have hid := lookup_bind_read "availability_account_id" (reads_str b.id) (by simp) hmembers
  have hchurch := lookup_bind_read "church_id" (reads_str b.churchId) (by simp) hmembers
  have hname := lookup_bind_read "account_name" (reads_str b.name) (by simp) hmembers
  simp only [Account.ofJson?, fields?, bind, ← Option.bind_assoc, Option.bind_some,
    hid, hchurch, hname]
  rfl

theorem reads_bank (b : Bank) : Reads Bank.ofJson? b.toJson b := by
  intro j h
  obtain ⟨members, rfl, hmembers⟩ := h.lookup (by simp)
  have hid := lookup_bind_read "bank_id" (reads_str b.id) (by simp) hmembers
  have hchurch := lookup_bind_read "church_id" (reads_str b.churchId) (by simp) hmembers
  have hname := lookup_bind_read "name" (reads_str b.name) (by simp) hmembers
  have htag := lookup_bind_read "tag" (reads_str b.tag) (by simp) hmembers
  obtain ⟨account, hlookup, haccount⟩ :=
    hmembers ("availability_account_id", .ofOption b.accountId) (by simp)
  have haccount := reads_optionalStr b.accountId account haccount
  simp only [Bank.ofJson?, fields?, bind, ← Option.bind_assoc, Option.bind_some,
    hid, hchurch, hname, htag, hlookup, Option.getD_some, haccount]
  rfl

/-- The amount of a record comes back as the same number with the same places. -/
theorem reads_record (r : LedgerRecord) :
    Reads LedgerRecord.ofJson? r.toJson { r with amount := r.amount.plain } := by
  intro j h
  obtain ⟨members, rfl, hmembers⟩ := h.lookup (by simp)
  have hid := lookup_bind_read "financial_record_id" (reads_str r.id) (by simp) hmembers
  have hchurch := lookup_bind_read "church_id" (reads_str r.churchId) (by simp) hmembers
  have hamount := lookup_bind_read "amount" (reads_decimal r.amount) (by simp) hmembers
  have hdate := lookup_bind_read "date" (reads_instant r.date) (by simp) hmembers
  have htype := lookup_bind_read "record_type" (reads_recordType r.type) (by simp) hmembers
  have hstatus := lookup_bind_read "status" (reads_recordStatus r.status) (by simp) hmembers
  have haccount := lookup_bind_read "availability_account_id" (reads_str r.accountId)
    (by simp) hmembers
  simp only [LedgerRecord.ofJson?, fields?, bind, ← Option.bind_assoc, Option.bind_some,
    hid, hchurch, hamount, hdate, htype, hstatus, haccount]
  rfl

theorem reads_importJob (j : ImportJob) : Reads ImportJob.ofJson? j.toJson j := by
  intro json h
  obtain ⟨members, rfl, hmembers⟩ := h.lookup (by simp)
  have hchurch := lookup_bind_read "church_id" (reads_str j.churchId) (by simp) hmembers
  have hbank := lookup_bind_read "bank" (reads_bank j.bank) (by simp) hmembers
  have haccount := lookup_bind_read "availability_account" (reads_account j.account)
    (by simp) hmembers
  have hmonth := lookup_bind_read "month" (reads_int32 j.month) (by simp) hmembers
  have hyear := lookup_bind_read "year" (reads_int32 j.year) (by simp) hmembers
  have hlocation := lookup_bind_read "file_location" (reads_str j.location) (by simp) hmembers
  have huploader := lookup_bind_read "uploaded_by" (reads_str j.uploadedBy) (by simp) hmembers
  have htime := lookup_bind_read "queued_at" (reads_instant j.queuedAt) (by simp) hmembers
  simp only [ImportJob.ofJson?, fields?, bind, ← Option.bind_assoc, Option.bind_some,
    hchurch, hbank, haccount, hmonth, hyear, hlocation, huploader, htime]
  rfl

theorem reads_reconciliation (r : Reconciliation) : Reads Reconciliation.ofJson? r.toJson r := by
  intro j h
  cases r with
  | pending =>
    obtain ⟨members, rfl, hmembers⟩ := h.lookup (by simp)
    have hstatus := lookup_bind_read "status" (reads_str "PENDING") (.head _) hmembers
    simp only [Reconciliation.ofJson?, bind, ← Option.bind_assoc, hstatus, Option.bind_some]
    rfl
  | unmatched =>
    obtain ⟨members, rfl, hmembers⟩ := h.lookup (by simp)
    have hstatus := lookup_bind_read "status" (reads_str "UNMATCHED") (.head _) hmembers
    simp only [Reconciliation.ofJson?, bind, ← Option.bind_assoc, hstatus, Option.bind_some]
    rfl
  | reconciled recordId time =>
    obtain ⟨members, rfl, hmembers⟩ := h.lookup (by simp)
    have hstatus := lookup_bind_read "status" (reads_str "RECONCILED") (.head _) hmembers
    have hrecord := lookup_bind_read "financial_record_id" (reads_str recordId) (by simp) hmembers
    have htime := lookup_bind_read "reconciled_at" (reads_instant time) (by simp) hmembers
    simp only [Reconciliation.ofJson?, bind, ← Option.bind_assoc, hstatus, hrecord, htime,
      Option.bind_some]
    rfl

def decode? (read : Json → Option α) (s : String) : Option α := (parse s).toOption.bind read

/-- A value that is one of its own widened forms and whose text is taken by the reader. -/
structure Printable (depth : Nat) (a : Json) : Prop where
  widens : Widens a a
  legible : Legible depth a

@[simp] theorem printable_str (s : String) : Printable depth (.str s) := ⟨.str s, .str s⟩

@[simp] theorem printable_ofInt32 (n : Int32) : Printable depth (.ofInt32 n) := by
  have hlow : smallest ≤ -(2 ^ 31) := by decide
  have hhigh : 2 ^ 31 ≤ largest := by decide
  have hrange : smallest ≤ n.toInt ∧ n.toInt ≤ largest :=
    ⟨Int.le_trans hlow n.le_toInt, Int.le_trans (Int.le_of_lt n.toInt_lt) hhigh⟩
  exact ⟨.int _, .int hrange⟩

@[simp] theorem printable_ofOption (o : Option String) : Printable depth (.ofOption o) := by
  cases o with
  | none => exact ⟨.null, .null⟩
  | some s => exact printable_str s

theorem printable_ofMembers (hnames : (entries.map Prod.fst).Nodup)
    (h : ∀ e ∈ entries, Printable depth e.2) : Printable (depth + 1) (ofMembers entries) :=
  ⟨widens_ofMembers hnames fun e he => (h e he).widens,
    legible_ofMembers fun e he => (h e he).legible⟩

@[simp] theorem printable_instant (t : Instant) : Printable depth t.toJson := printable_str _

@[simp] theorem printable_decimal (d : Decimal) : Printable depth d.toJson := printable_str _

@[simp] theorem printable_recordType (t : RecordType) : Printable depth t.toJson := printable_str _

@[simp] theorem printable_recordStatus (s : RecordStatus) : Printable depth s.toJson :=
  printable_str _

@[simp] theorem printable_status (s : ReconciliationStatus) : Printable depth s.toJson :=
  printable_str _

@[simp] theorem printable_bank (b : Bank) : Printable (depth + 1) b.toJson :=
  printable_ofMembers (by simp) (by simp)

@[simp] theorem printable_account (b : Account) : Printable (depth + 1) b.toJson :=
  printable_ofMembers (by simp) (by simp)

theorem printable_record (r : LedgerRecord) : Printable (depth + 1) r.toJson :=
  printable_ofMembers (by simp) (by simp)

theorem printable_importJob (j : ImportJob) : Printable (depth + 2) j.toJson :=
  printable_ofMembers (by simp) (by simp)

theorem printable_reconciliation (r : Reconciliation) : Printable (depth + 1) r.toJson := by
  cases r <;> exact printable_ofMembers (by simp) (by simp)

/-- A value survives its JSON form: it is read back from the text of that form, and also from any
value and any text in which the members stand in another order or others have been added. -/
structure Survives (a : Json) (read : Json → Option α) (x : α) : Prop where
  encoded : decode? read a.render = some x
  widened : ∀ j, Widens a j → read j = some x
  written : ∀ j, Widens a j → Legible depthLimit j → decode? read j.render = some x

theorem survives_of_reads (hprint : Printable depthLimit a) (h : Reads read a x) :
    Survives a read x := by
  have hwritten : ∀ j, Widens a j → Legible depthLimit j → decode? read j.render = some x := by
    intro j hwide hlegible
    rw [decode?, parse_render hlegible]
    exact h _ hwide.carries_reread
  exact ⟨hwritten a hprint.widens hprint.legible, fun j hwide => h j hwide.carries, hwritten⟩

/-- Import jobs, reconciliations and ledger records survive their JSON form. The amount of a record
comes back as the same number with the same places; only the sign of a zero is lost. -/
theorem messages_survive :
    (∀ job : ImportJob, Survives job.toJson ImportJob.ofJson? job) ∧
    (∀ r : Reconciliation, Survives r.toJson Reconciliation.ofJson? r) ∧
    ∀ record : LedgerRecord, ∃ amount : Decimal,
      amount.sameValue record.amount = true ∧ amount.scale = record.amount.scale ∧
        Survives record.toJson LedgerRecord.ofJson? { record with amount } := by
  refine ⟨fun job => ?_, fun r => ?_, fun record => ?_⟩
  · exact survives_of_reads (printable_importJob job) (reads_importJob job)
  · exact survives_of_reads (printable_reconciliation r) (reads_reconciliation r)
  · exact ⟨record.amount.plain, record.amount.sameValue_plain, rfl,
      survives_of_reads (printable_record record) (reads_record record)⟩

/-- A link made in a leap second before the year 0. -/
theorem messages_survive_reversed :
    decode? Reconciliation.ofJson? (obj [("note", .arr [.null]), ("status", .str "RECONCILED"),
      ("reconciled_at", .str "-0001-12-31T23:59:60.500Z"),
      ("financial_record_id", .str "r-1")]).render =
        some (.reconciled "r-1" ⟨⟨-1, 12, 31, by decide⟩, 86399, 1500000000,
          by decide, by decide, by decide⟩) := by
  have hnote : Legible 126 (.arr [.null]) := .arr (List.forall_mem_singleton.mpr .null)
  refine (messages_survive.2.1 _).written _ ?_ (.obj (by simp [hnote, Legible.str]))
  refine @Widens.obj _ [("note", .arr [.null])] _ (fun name =>
    if name = "status" then .str "RECONCILED"
    else if name = "reconciled_at" then .str "-0001-12-31T23:59:60.500Z"
    else .str "r-1") ?_ ?_ ?_
  · intro e he
    have hmem := Members.mem_of_mem_ofList he
    simp only [List.mem_cons, List.not_mem_nil, or_false] at hmem
    rcases hmem with rfl | rfl | rfl
    · exact .str _
    · exact .str _
    · exact .str _
  · intro e he e' he'
    have hmem := Members.mem_of_mem_ofList he'
    rw [List.mem_singleton.mp he]
    simp only [List.mem_cons, List.not_mem_nil, or_false] at hmem
    rcases hmem with rfl | rfl | rfl <;> decide
  · exact List.reverse_perm [("financial_record_id", Json.str "r-1"),
      ("reconciled_at", .str "-0001-12-31T23:59:60.500Z"), ("status", .str "RECONCILED"),
      ("note", .arr [.null])]

end Json

end BankReconciliation
