import BankReconciliation.Proofs.Sql.Rows
import BankReconciliation.Proofs.Store.Listing

/-! What a database does with the table of statements, on lists of rows: which rows of an insertion
it keeps, and which ones a listing selects. On the rows of statements it does what the store does
with the statements. -/

namespace BankReconciliation

namespace Sql

/-- An entry in one of the unique indexes of the table. -/
inductive Key
  | id (id : Uuid)
  | fitId (churchId bankId fitId : String)
  | hash (churchId bankId hash : String)
deriving DecidableEq

end Sql

open Sql

namespace Statement.Row

/-- The entries of a row in the unique indexes. The one of references leaves out the rows whose
reference is empty. -/
def keys (r : Row) : List Key :=
  [.id r.id, .hash r.churchId r.bankId r.hash] ++
    if r.fitId = "" then [] else [.fitId r.churchId r.bankId r.fitId]

/-- Two rows that have an entry in common cannot stand in one table. -/
def clashes (a b : Row) : Bool := a.keys.any b.keys.contains

/-- The order of listings. -/
def precedes (a b : Row) : Prop :=
  a.postedAt < b.postedAt ∨ a.postedAt = b.postedAt ∧ a.id < b.id

instance (a b : Row) : Decidable (precedes a b) := by unfold precedes; infer_instance

end Statement.Row

namespace Sql

open Statement (Row)

/-- The rows of an insertion that a table takes up: one after the other, each that clashes with none
that is there by then. -/
def keptRows : List Row → List Row → List Row
  | _, [] => []
  | table, r :: rs =>
    if table.any (·.clashes r) then keptRows table rs else r :: keptRows (table ++ [r]) rs

def Value.equals : Value → Value → Bool
  | .text a, .text b => a == b
  | .int a, .int b => a == b
  | _, _ => false

/-- Whether a time is known to be before another. -/
def Value.isBefore : Value → Value → Bool
  | .time a, .time b => decide (a < b)
  | _, _ => false

def Value.isUntil : Value → Value → Bool
  | .time a, .time b => decide (a ≤ b)
  | _, _ => false

/-- Whether a condition is true of a row. To come after a row that is not there is not true. -/
def Condition.holds (table : List Row) (r : Row) : Condition → Bool
  | .equal column value => (r.toCells.lookup column).any (·.equals value)
  | .notBefore column value => (r.toCells.lookup column).any value.isUntil
  | .before column value => (r.toCells.lookup column).any (·.isBefore value)
  | .after token => (table.find? (·.id == token)).any fun t => decide (t.precedes r)

/-- The first rows of which all conditions are true, in the order of listings. -/
def select (table : List Row) (conditions : List Condition) (limit : Nat) : List Row :=
  ((table.filter fun r => conditions.all (·.holds table r)).mergeSort
    fun a b => decide ¬ b.precedes a).take limit

theorem keptRows_congr {table table' : List Row} (h : table.map Row.keys = table'.map Row.keys)
    (rows : List Row) : keptRows table rows = keptRows table' rows := by
  induction rows generalizing table table' with
  | nil => rfl
  | cons r rs ih =>
    have hany : ∀ t : List Row, t.any (·.clashes r) = (t.map Row.keys).any fun ks =>
        ks.any r.keys.contains := by
      intro t
      rw [List.any_map]
      rfl
    have happend : (table ++ [r]).map Row.keys = (table' ++ [r]).map Row.keys := by
      rw [List.map_append, List.map_append, h]
    rw [keptRows, keptRows, hany, hany, h, ih h, ih happend]

/-- The rows of two statements clash if these have the same id or share a key. -/
theorem clashes_toRow {s c : Statement} :
    s.toRow.clashes c.toRow = true ↔ s.id = c.id ∨ s.SharesKey c := by
  have hkeys : ∀ (t : Statement) (k : Key), k ∈ t.toRow.keys ↔
      k = .id t.id ∨ k = .hash t.churchId t.bank.id t.hash ∨
        t.fitId ≠ "" ∧ k = .fitId t.churchId t.bank.id t.fitId := by
    intro t k
    by_cases ht : t.fitId = "" <;> simp [Row.keys, Statement.toRow, ht]
  rw [Row.clashes, List.any_eq_true]
  simp only [List.contains_iff_mem, hkeys, Statement.SharesKey]
  constructor
  · rintro ⟨k, rfl | rfl | ⟨hs, rfl⟩, hc⟩
    · left
      simpa using hc
    · right
      obtain ⟨hchurch, hbank, hhash⟩ : _ ∧ _ ∧ _ := by simpa using hc
      exact ⟨hchurch, hbank, .inl hhash⟩
    · right
      obtain ⟨-, hchurch, hbank, hfit⟩ : _ ∧ _ ∧ _ ∧ _ := by simpa using hc
      exact ⟨hchurch, hbank, .inr ⟨hs, hfit⟩⟩
  · rintro (hid | ⟨hchurch, hbank, hhash | ⟨hs, hfit⟩⟩)
    · exact ⟨.id s.id, .inl rfl, .inl (by rw [hid])⟩
    · exact ⟨_, .inr (.inl rfl), .inr (.inl (by rw [hchurch, hbank, hhash]))⟩
    · exact ⟨_, .inr (.inr ⟨hs, rfl⟩), .inr (.inr ⟨hfit ▸ hs, by rw [hchurch, hbank, hfit]⟩)⟩

end Sql

namespace Store.Statements

open Sql

variable {stored : Statements} {candidates : List Statement} {s : Statement}

structure FreshIds (stored : Statements) (candidates : List Statement) : Prop where
  nodup : (candidates.map Statement.id).Nodup
  unused : ∀ s ∈ stored, s.id ∉ candidates.map Statement.id

theorem exists_added_of_freshIds (h : FreshIds stored candidates) :
    ∃ added, stored.insertMany candidates = (added.map Statement.id, stored ++ added) ∧
      keptRows (stored.map Statement.toRow) (candidates.map Statement.toRow) =
        added.map Statement.toRow := by
  -- the stored statements grow with each candidate that is kept
  induction candidates generalizing stored with
  | nil => exact ⟨[], by simp [insertMany], rfl⟩
  | cons c cs ih =>
    obtain ⟨hc, hcs⟩ := List.nodup_cons.mp h.nodup
    have hclash : (stored.map Statement.toRow).any (·.clashes c.toRow) =
        stored.any (·.collides c) := by
      rw [List.any_map, Bool.eq_iff_iff, List.any_eq_true, List.any_eq_true]
      refine exists_congr fun s => and_congr_right fun hs => ?_
      -- a fresh id leaves the two keys of the content as what may clash
      have hne : s.id ≠ c.id := fun he => h.unused s hs (he ▸ List.mem_cons_self)
      rw [Function.comp_apply, clashes_toRow, Statement.collides_iff, or_iff_right hne]
    have hold : ∀ s ∈ stored, s.id ∉ cs.map Statement.id := fun s hs hmem =>
      h.unused s hs (List.mem_cons_of_mem _ hmem)
    rw [List.map_cons, keptRows, hclash, insertMany]
    by_cases hcollides : stored.any (·.collides c) = true
    · rw [if_pos hcollides, if_pos hcollides]
      exact ih ⟨hcs, hold⟩
    · have hnext : ∀ s ∈ stored ++ [c], s.id ∉ cs.map Statement.id := by
        intro s hs
        rcases List.mem_append.mp hs with hs | hs
        · exact hold s hs
        · rw [List.mem_singleton.mp hs]
          exact hc
      obtain ⟨added, hadded, hkept⟩ := ih ⟨hcs, hnext⟩
      refine ⟨c :: added, ?_, ?_⟩
      · rw [if_neg hcollides, hadded]
        simp
      · rw [List.map_append, List.map_singleton] at hkept
        rw [if_neg hcollides, hkept, List.map_cons]

theorem insertMany_append (stored : Statements) (xs ys : List Statement) :
    stored.insertMany (xs ++ ys) =
      ((stored.insertMany xs).1 ++ ((stored.insertMany xs).2.insertMany ys).1,
        ((stored.insertMany xs).2.insertMany ys).2) := by
  induction xs generalizing stored with
  | nil => rfl
  | cons x xs ih =>
    by_cases hx : stored.any (·.collides x) = true
    · simp only [List.cons_append, insertMany, hx, if_true, ih]
    · simp only [List.cons_append, insertMany, hx, ih, Bool.false_eq_true, if_false]

theorem FreshIds.of_append {xs ys : List Statement} (h : FreshIds stored (xs ++ ys)) :
    FreshIds stored xs ∧ FreshIds (stored.insertMany xs).2 ys := by
  obtain ⟨hnodup, hunused⟩ := h
  rw [List.map_append] at hnodup hunused
  obtain ⟨hxs, hys, hapart⟩ := List.nodup_append.mp hnodup
  obtain ⟨added, hsub, hadded⟩ := exists_added stored xs
  refine ⟨⟨hxs, fun s hs hmem => hunused s hs (List.mem_append_left _ hmem)⟩, hys, ?_⟩
  intro s hs hmem
  rw [hadded] at hs
  rcases List.mem_append.mp hs with hs | hs
  · exact hunused s hs (List.mem_append_right _ hmem)
  · exact hapart s.id (List.mem_map_of_mem (hsub.subset hs)) s.id hmem rfl

end Store.Statements

theorem ReconciliationStatus.word_inj {a b : ReconciliationStatus} : a.word = b.word ↔ a = b := by
  constructor
  · intro h
    have hread : ofWord? a.word = ofWord? b.word := congrArg ofWord? h
    rw [ofWord?_word, ofWord?_word] at hread
    exact Option.some.inj hread
  · exact congrArg word

namespace Sql

variable {α β : Type}

theorem all_map_toList (o : Option α) (f : α → β) (p : β → Bool) :
    (o.map f).toList.all p = o.all fun a => p (f a) := by
  cases o <;> simp

/-- In an order without ties it makes no difference whether a list is sorted before or after some of
it is picked out. -/
theorem filter_mergeSort {le : α → α → Bool} {xs : List α}
    (htrans : ∀ a b c, le a b = true → le b c = true → le a c = true)
    (htotal : ∀ a b, (le a b || le b a) = true)
    (hanti : ∀ a ∈ xs, ∀ b ∈ xs, le a b = true → le b a = true → a = b) (p : α → Bool) :
    (xs.mergeSort le).filter p = (xs.filter p).mergeSort le := by
  have hsame : ((xs.mergeSort le).filter p).Perm ((xs.filter p).mergeSort le) :=
    ((List.mergeSort_perm xs le).filter p).trans (List.mergeSort_perm _ le).symm
  refine List.Perm.eq_of_pairwise ?_ ((List.pairwise_mergeSort htrans htotal xs).filter p)
    (List.pairwise_mergeSort htrans htotal _) hsame
  intro a b ha hb
  have hfirst : a ∈ xs := (List.mergeSort_perm xs le).subset (List.mem_of_mem_filter ha)
  have hsecond : b ∈ xs := List.mem_of_mem_filter ((List.mergeSort_perm _ le).subset hb)
  exact hanti a hfirst b hsecond

end Sql

namespace Store.Statements

variable {stored : Statements} {filter : StatementFilter} {token : Option Uuid} {s : Statement}

/-- The conditions of a filter are true of the rows of the statements that it accepts. -/
theorem all_holds_filter (filter : StatementFilter) (table : List Statement.Row) :
    (conditions filter none).all (·.holds table s.toRow) = filter.accepts s := by
  have hnumber : ∀ n v : Int32, (n.toInt == v.toInt) = (v == n) := by
    intro n v
    rw [Bool.eq_iff_iff, beq_iff_eq, beq_iff_eq, Int32.toInt_inj, eq_comm]
  have hword : ∀ v : ReconciliationStatus, (s.status.word == v.word) = (v == s.status) := by
    intro v
    rw [Bool.eq_iff_iff, beq_iff_eq, beq_iff_eq, ReconciliationStatus.word_inj, eq_comm]
  have hchurch : (Condition.equal "church_id" (.text filter.churchId)).holds table s.toRow =
      (s.churchId == filter.churchId) := rfl
  have hbank : ∀ v, (Condition.equal "bank_id" (.text v)).holds table s.toRow =
      (v == s.bank.id) := fun _ => BEq.comm
  have haccount : ∀ v, (Condition.equal "availability_account_id" (.text v)).holds table s.toRow =
      (v == s.account.id) := fun _ => BEq.comm
  have hstatus : ∀ v : ReconciliationStatus,
      (Condition.equal "reconciliation_status" (.text v.word)).holds table s.toRow =
        (v == s.status) := hword
  have hmonth : ∀ v : Int32, (Condition.equal "month" (.int v.toInt)).holds table s.toRow =
      (v == s.month) := hnumber s.month
  have hyear : ∀ v : Int32, (Condition.equal "year" (.int v.toInt)).holds table s.toRow =
      (v == s.year) := hnumber s.year
  have hfrom : ∀ v, (Condition.notBefore "posted_at" (.time v)).holds table s.toRow =
      decide (v ≤ s.postedAt) := fun _ => rfl
  have huntil : ∀ v, (Condition.before "posted_at" (.time v)).holds table s.toRow =
      decide (s.postedAt < v) := fun _ => rfl
  simp only [conditions, List.all_append, List.all_cons, List.all_nil, Bool.and_true,
    all_map_toList, Option.all_none, hchurch, hbank, haccount, hstatus, hmonth, hyear, hfrom,
    huntil, StatementFilter.accepts]

theorem all_holds_toRow (filter : StatementFilter) (token : Option Uuid) :
    (conditions filter token).all (·.holds (stored.map Statement.toRow) s.toRow) =
      (filter.accepts s &&
        token.all fun id => (stored.cursor? (some id)).any (·.precedes s)) := by
  have hsplit : conditions filter token =
      conditions filter none ++ (token.map Condition.after).toList := by simp [conditions]
  have hafter : ∀ id, (Condition.after id).holds (stored.map Statement.toRow) s.toRow =
      (stored.cursor? (some id)).any (·.precedes s) := by
    intro id
    rw [Condition.holds, List.find?_map, cursor?, Option.bind_some, Option.any_map]
    rfl
  rw [hsplit, List.all_append, all_holds_filter, all_map_toList]
  simp only [hafter]

/-- The accepted statements that come after the one that a token names. There are none if it names
none. -/
def selected (stored : Statements) (filter : StatementFilter) (token : Option Uuid) :
    List Statement :=
  (stored.accepted filter).filter fun s =>
    token.all fun id => (stored.cursor? (some id)).any (·.precedes s)

/-- The token, if there is one, is the id of a stored statement. -/
def Names (stored : Statements) (token : Option Uuid) : Prop :=
  ∀ id, token = some id → ∃ s ∈ stored, s.id = id

theorem selected_of_names (h : stored.Names token) :
    stored.selected filter token = stored.following filter (stored.cursor? token) := by
  cases token with
  | none => rfl
  | some id =>
    obtain ⟨s, hs, hid⟩ := h id rfl
    cases hcursor : stored.cursor? (some id) with
    | none => exact absurd (beq_iff_eq.mpr hid) (List.find?_eq_none.mp hcursor s hs)
    | some c =>
      rw [selected, following]
      simp [hcursor]

theorem cursor?_of_not_names (h : ¬ stored.Names token) : stored.cursor? token = none := by
  cases token with
  | none => rfl
  | some id =>
    refine List.find?_eq_none.mpr fun s hs hid => h ?_
    intro id' hid'
    exact ⟨s, hs, (beq_iff_eq.mp hid).trans (Option.some.inj hid')⟩

theorem selected_of_not_names (h : ¬ stored.Names token) : stored.selected filter token = [] := by
  have hcursor := cursor?_of_not_names h
  cases token with
  | none => exact absurd (fun _ hid => nomatch hid) h
  | some id =>
    rw [selected, List.filter_eq_nil_iff]
    simp [hcursor]

/-- Without ties, it makes no difference whether the statements are sorted before they are picked
out. -/
theorem selected_eq_mergeSort (hids : (stored.map Statement.id).Nodup) :
    stored.selected filter token =
      (List.filter (fun s => filter.accepts s &&
        token.all fun id => (stored.cursor? (some id)).any (·.precedes s)) stored).mergeSort
          fun a b => decide ¬ b.precedes a := by
  have hle : ∀ a b : Statement, decide (¬ b.precedes a) = true ↔ a.place ≤ b.place := by
    intro a b
    rw [decide_eq_true_iff, Statement.precedes_iff, not_lt]
  rw [selected, accepted, filter_mergeSort, List.filter_filter]
  · simp only [Bool.and_comm]
  · intro a b c hab hbc
    exact (hle a c).mpr (((hle a b).mp hab).trans ((hle b c).mp hbc))
  · intro a b
    rw [Bool.or_eq_true, hle, hle]
    exact le_total _ _
  · intro a ha b hb hab hba
    have hplace : a.place = b.place := le_antisymm ((hle a b).mp hab) ((hle b a).mp hba)
    exact List.inj_on_of_nodup_map hids (List.mem_of_mem_filter ha) (List.mem_of_mem_filter hb)
      (Statement.id_eq_of_place_eq hplace)

/-- The rows that a query selects are those of the statements that come first. -/
theorem select_toRow (hids : (stored.map Statement.id).Nodup) (limit : Nat) :
    select (stored.map Statement.toRow) (conditions filter token) limit =
      ((stored.selected filter token).take limit).map Statement.toRow := by
  have hholds : ((fun r => (conditions filter token).all
      (·.holds (stored.map Statement.toRow) r)) ∘ Statement.toRow) = fun s =>
        filter.accepts s && token.all fun id => (stored.cursor? (some id)).any (·.precedes s) :=
    funext fun _ => all_holds_toRow filter token
  rw [selected_eq_mergeSort hids, select, List.filter_map, hholds, List.map_take]
  refine congrArg (List.take limit) (List.map_mergeSort ?_).symm
  exact fun _ _ _ _ => rfl

end Store.Statements

end BankReconciliation
