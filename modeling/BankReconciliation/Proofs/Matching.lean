import BankReconciliation.Matching
import BankReconciliation.Proofs.Time.Date

/-! What the condition of a match says about the records that it accepts, and when there is one. -/

namespace BankReconciliation

theorem RecordFilter.accepts_iff {f : RecordFilter} {r : LedgerRecord} :
    f.accepts r = true ↔ r.churchId = f.churchId ∧ r.amount.sameValue f.amount = true ∧
      f.dateFrom ≤ r.date ∧ r.date < f.dateUntil ∧ r.type ∈ f.types ∧ r.status ∈ f.statuses ∧
      r.accountId = f.accountId := by
  simp only [accepts, Bool.and_eq_true, beq_iff_eq, decide_eq_true_eq, List.contains_iff_mem,
    and_assoc]

namespace Matching

variable {s : Statement} {f : RecordFilter} {r : LedgerRecord}

theorem filterFor?_eq_some_iff : filterFor? s = some f ↔
    ∃ before day after, s.postedAt.date.prev? = some before ∧ s.postedAt.date.next? = some day ∧
      day.next? = some after ∧
      f = ⟨s.churchId, s.amount, .midnight before, .midnight after, typesFor s.direction,
        openStatuses, s.account.id⟩ := by
  simp only [filterFor?, Option.bind_eq_bind, Option.bind_eq_some_iff, Option.pure_def,
    Option.some.injEq]
  constructor
  · rintro ⟨before, hb, after, ⟨day, hd, ha⟩, rfl⟩
    exact ⟨before, day, after, hb, hd, ha, rfl⟩
  · rintro ⟨before, day, after, hb, hd, ha, rfl⟩
    exact ⟨before, hb, after, ⟨day, hd, ha⟩, rfl⟩

/-- The window of a match fits around the day: it is neither the first day of the calendar nor one
of the last two. -/
def HasWindow (d : Date) : Prop := d ≠ .first ∧ d ≠ .secondLast ∧ d ≠ .last

instance (d : Date) : Decidable (HasWindow d) := by unfold HasWindow; infer_instance

theorem filterFor?_eq_none_iff : filterFor? s = none ↔ ¬ HasWindow s.postedAt.date := by
  have hafter : (s.postedAt.date.next? >>= Date.next?) = none ↔
      s.postedAt.date = .last ∨ s.postedAt.date = .secondLast := by
    rw [← Date.next?_eq_none_iff, ← Date.next?_eq_some_last_iff]
    cases hday : s.postedAt.date.next? with
    | none => simp
    | some day => simp [Date.next?_eq_none_iff]
  have hfilter : filterFor? s = none ↔
      s.postedAt.date.prev? = none ∨ (s.postedAt.date.next? >>= Date.next?) = none := by
    unfold filterFor?
    cases s.postedAt.date.prev? <;> cases s.postedAt.date.next? >>= Date.next? <;> simp
  rw [hfilter, hafter, Date.prev?_eq_none_iff, HasWindow]
  tauto

/-- The state of a statement's reconciliation has no part in what it is matched by. -/
@[simp] theorem filterFor?_markReconciled (id : String) (t : Instant) :
    filterFor? (s.markReconciled id t) = filterFor? s := rfl

@[simp] theorem filterFor?_markUnmatched (t : Instant) :
    filterFor? (s.markUnmatched t) = filterFor? s := rfl

theorem churchId_of_accepts (hf : filterFor? s = some f) (hr : f.accepts r = true) :
    r.churchId = s.churchId := by
  obtain ⟨before, day, after, _, _, _, rfl⟩ := filterFor?_eq_some_iff.mp hf
  exact (RecordFilter.accepts_iff.mp hr).1

theorem status_of_accepts (hf : filterFor? s = some f) (hr : f.accepts r = true) :
    r.status ∈ openStatuses := by
  obtain ⟨before, day, after, _, _, _, rfl⟩ := filterFor?_eq_some_iff.mp hf
  exact (RecordFilter.accepts_iff.mp hr).2.2.2.2.2.1

theorem ne_reconciled_of_accepts (hf : filterFor? s = some f) (hr : f.accepts r = true) :
    r.status ≠ .reconciled := by
  intro hs
  have hopen := status_of_accepts hf hr
  rw [hs] at hopen
  exact absurd hopen (by decide)

end Matching

end BankReconciliation
