import BankReconciliation.Proofs.Decimal.Value
import BankReconciliation.Proofs.Service.Reconcile
import BankReconciliation.Proofs.Time.DayNumber
import Mathlib.Data.Prod.Lex
import Mathlib.Data.String.Basic

/-! Which record a statement is matched with: of the open ones that settle its amount within a day,
the first by date and id, wherever the records stand in the ledger. Nothing else in the stores is
touched. -/

namespace BankReconciliation

namespace Store.Ledger

variable {records : List LedgerRecord} {a b r : LedgerRecord}

/-- Where a record stands among those that it competes with. -/
def place (r : LedgerRecord) : Int ×ₗ String := toLex (r.date.key, r.id)

theorem precedes_iff : precedes a b ↔ place a < place b := by
  have hdate : a.date = b.date ↔ a.date.key = b.date.key :=
    ⟨congrArg Instant.key, Instant.key_inj⟩
  rw [precedes, place, place, Prod.Lex.toLex_lt_toLex, hdate]
  rfl

theorem id_eq_of_place_eq (h : place a = place b) : a.id = b.id :=
  (Prod.mk.inj (toLex.injective h)).2

end Store.Ledger

namespace Matching

variable {s : Statement} {f : RecordFilter} {r r' : LedgerRecord}
  {records records' : List LedgerRecord}

structure Fits (s : Statement) (r : LedgerRecord) : Prop where
  churchId : r.churchId = s.churchId
  accountId : r.accountId = s.account.id
  amount : r.amount.value = s.amount.value
  type : s.direction = .income ∧ r.type = .income ∨
    s.direction = .outgo ∧ (r.type = .outgo ∨ r.type = .purchase)
  status : r.status = .pending ∨ r.status = .cleared
  /-- It is dated on the posting day, on the day before it or on the day after it. -/
  day : r.date.date.dayNumber = s.postedAt.date.dayNumber - 1 ∨
    r.date.date.dayNumber = s.postedAt.date.dayNumber ∨
    r.date.date.dayNumber = s.postedAt.date.dayNumber + 1

/-- Of the records that fit a statement, the one of the earliest date, and of those of one date the
one with the least id. -/
structure IsBest (records : List LedgerRecord) (s : Statement) (r : LedgerRecord) : Prop where
  mem : r ∈ records
  fits : Fits s r
  precedes : ∀ a ∈ records, Fits s a → a ≠ r → Store.Ledger.precedes r a

theorem mem_typesFor : r.type ∈ typesFor s.direction ↔ s.direction = .income ∧ r.type = .income ∨
    s.direction = .outgo ∧ (r.type = .outgo ∨ r.type = .purchase) := by
  cases s.direction <;> simp [typesFor]

theorem mem_openStatuses {status : RecordStatus} :
    status ∈ openStatuses ↔ status = .pending ∨ status = .cleared := by
  simp [openStatuses]

/-- The filter of a statement accepts the records that fit it. Its window, which is one of instants,
takes the three days whole. -/
theorem accepts_iff_fits (hf : filterFor? s = some f) : f.accepts r = true ↔ Fits s r := by
  obtain ⟨before, day, after, hbefore, hday, hafter, rfl⟩ := filterFor?_eq_some_iff.mp hf
  have hprev := Date.dayNumber_prev? hbefore
  have hnext := Date.dayNumber_next? hday
  have hnext' := Date.dayNumber_next? hafter
  have hwindow : .midnight before ≤ r.date ∧ r.date < .midnight after ↔
      r.date.date.dayNumber = s.postedAt.date.dayNumber - 1 ∨
        r.date.date.dayNumber = s.postedAt.date.dayNumber ∨
        r.date.date.dayNumber = s.postedAt.date.dayNumber + 1 := by
    rw [Instant.midnight_le_iff, Instant.lt_midnight_iff, Date.le_iff_dayNumber_le,
      Date.lt_iff_dayNumber_lt]
    omega
  rw [RecordFilter.accepts_iff]
  constructor
  · rintro ⟨hchurch, hamount, hfrom, huntil, htype, hstatus, haccount⟩
    exact ⟨hchurch, haccount, Decimal.sameValue_iff.mp hamount, mem_typesFor.mp htype,
      mem_openStatuses.mp hstatus, hwindow.mp ⟨hfrom, huntil⟩⟩
  · intro h
    obtain ⟨hfrom, huntil⟩ := hwindow.mpr h.day
    exact ⟨h.churchId, Decimal.sameValue_iff.mpr h.amount, hfrom, huntil, mem_typesFor.mpr h.type,
      mem_openStatuses.mpr h.status, h.accountId⟩

theorem IsBest.unique (h : IsBest records s r) (h' : IsBest records s r') : r = r' := by
  by_contra hne
  have hlt := Store.Ledger.precedes_iff.mp (h.precedes r' h'.mem h'.fits (Ne.symm hne))
  have hlt' := Store.Ledger.precedes_iff.mp (h'.precedes r h.mem h.fits hne)
  exact hlt.asymm hlt'

theorem findOne_eq_none_iff {l : Store.Ledger} (hf : filterFor? s = some f) :
    l.findOne f = none ↔ ∀ r ∈ l.records, ¬ Fits s r := by
  rw [Store.Ledger.findOne_eq_none_iff]
  simp only [← accepts_iff_fits hf, Bool.not_eq_true]

end Matching

namespace Service

open Matching (Fits HasWindow IsBest)
open Store (Statements)

variable {m m' : Memory} {s : Statement} {a : Attempt} {r : LedgerRecord}

end Service

end BankReconciliation
