import BankReconciliation.Time.Date
import Mathlib.Tactic.Common

/-! The days at the ends of the calendar: every day but the first has one before it, and every day
but the last has one after it. -/

namespace BankReconciliation

namespace Calendar

theorem one_le_daysInMonth (year : Int) (month : Nat) : 1 ≤ daysInMonth year month := by
  unfold daysInMonth
  split
  · split <;> omega
  all_goals omega

theorem daysInMonth_le (year : Int) (month : Nat) : daysInMonth year month ≤ 31 := by
  unfold daysInMonth
  split
  · split <;> omega
  all_goals omega

@[simp] theorem daysInMonth_december (year : Int) : daysInMonth year 12 = 31 := rfl

end Calendar

namespace Date

variable {d e : Date} {year : Int} {month day : Nat}

def first : Date := ⟨Calendar.firstYear, 1, 1, by decide⟩

def secondLast : Date := ⟨Calendar.lastYear, 12, 30, by decide⟩

def last : Date := ⟨Calendar.lastYear, 12, 31, by decide⟩

theorem eq_iff : d = e ↔ d.year = e.year ∧ d.month = e.month ∧ d.day = e.day := by
  obtain ⟨y, m, n, _⟩ := d
  rw [Date.mk.injEq]

theorem of?_eq_none_iff : of? year month day = none ↔ ¬ Calendar.Valid year month day := by
  unfold of?
  split <;> simp_all

theorem of?_eq_some_iff :
    of? year month day = some d ↔ year = d.year ∧ month = d.month ∧ day = d.day := by
  unfold of?
  split
  · rw [Option.some.injEq, eq_iff]
  · rename_i hinvalid
    constructor
    · intro h
      cases h
    · rintro ⟨rfl, rfl, rfl⟩
      exact absurd d.valid hinvalid

theorem prev?_eq_none_iff : d.prev? = none ↔ d = first := by
  obtain ⟨⟨hfirst, hlast⟩, ⟨hm, hm'⟩, hn, hn'⟩ := d.valid
  rw [eq_iff, prev?]
  simp only [first]
  by_cases hday : 1 < d.day
  · rw [if_pos hday, of?_eq_none_iff, Calendar.Valid]
    omega
  · rw [if_neg hday]
    by_cases hmonth : 1 < d.month
    · have hdays := Calendar.one_le_daysInMonth d.year (d.month - 1)
      rw [if_pos hmonth, of?_eq_none_iff, Calendar.Valid]
      omega
    · rw [if_neg hmonth, of?_eq_none_iff, Calendar.Valid, Calendar.daysInMonth_december]
      have hyears : Calendar.firstYear < Calendar.lastYear := by decide
      omega

theorem next?_eq_none_iff : d.next? = none ↔ d = last := by
  obtain ⟨⟨hfirst, hlast⟩, ⟨hm, hm'⟩, hn, hn'⟩ := d.valid
  have hmonths := Calendar.one_le_daysInMonth d.year (d.month + 1)
  have hyears := Calendar.one_le_daysInMonth (d.year + 1) 1
  rw [eq_iff, next?]
  simp only [last, Option.orElse_eq_orElse, Option.orElse_eq_or, Option.or_eq_none_iff,
    of?_eq_none_iff, Calendar.Valid]
  by_cases hmonth : d.month = 12
  · rw [hmonth, Calendar.daysInMonth_december] at hn' ⊢
    omega
  · omega

theorem next?_eq_some_last_iff : d.next? = some last ↔ d = secondLast := by
  constructor
  · intro h
    rw [next?] at h
    simp only [Option.orElse_eq_orElse, Option.orElse_eq_or, Option.or_eq_some_iff,
      of?_eq_some_iff] at h
    rw [eq_iff]
    simp only [last, secondLast] at h ⊢
    omega
  · rintro rfl
    decide

end Date

end BankReconciliation
