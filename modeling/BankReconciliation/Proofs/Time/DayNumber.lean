import BankReconciliation.Proofs.Time.Date
import BankReconciliation.Time.Instant

/-! The number of a day counts the days: it grows by one from a day to the next, over the ends of
months and years, and the calendar orders days as their numbers do. -/

namespace BankReconciliation

namespace Calendar

def daysOfMonths (year : Int) : (months : Nat) → Nat
  | 0 => 0
  | months + 1 => daysOfMonths year months + daysInMonth year (months + 1)

def daysBeforeYear (year : Int) : Int :=
  year * 365 + (year - 1) / 4 - (year - 1) / 100 + (year - 1) / 400

variable {year year' : Int} {months months' : Nat}

theorem daysOfMonths_mono (h : months ≤ months') :
    daysOfMonths year months ≤ daysOfMonths year months' := by
  induction h with
  | refl => exact Nat.le_refl _
  | step _ ih => exact Nat.le_trans ih (Nat.le_add_right _ _)

theorem daysOfMonths_twelve (year : Int) :
    daysOfMonths year 12 = if isLeap year then 366 else 365 := by
  cases h : isLeap year <;> simp [daysOfMonths, daysInMonth, h]

theorem daysBeforeYear_succ (year : Int) :
    daysBeforeYear (year + 1) = daysBeforeYear year + daysOfMonths year 12 := by
  have hleap : isLeap year = true ↔ year % 4 = 0 ∧ (year % 100 ≠ 0 ∨ year % 400 = 0) := by
    simp [isLeap]
  rw [daysOfMonths_twelve, daysBeforeYear, daysBeforeYear]
  by_cases h : isLeap year = true
  · rw [if_pos h]
    have hyear := hleap.mp h
    omega
  · rw [if_neg h]
    have hyear := mt hleap.mpr h
    omega

theorem daysBeforeYear_mono (h : year ≤ year') : daysBeforeYear year ≤ daysBeforeYear year' := by
  rw [daysBeforeYear, daysBeforeYear]
  omega

end Calendar

open Calendar

namespace Date

variable {d e : Date}

theorem ordinal_eq (d : Date) : d.ordinal = daysOfMonths d.year (d.month - 1) + d.day := by
  have hmonths : ∀ months n, (List.range months).foldl
      (fun n m => n + daysInMonth d.year (m + 1)) n = daysOfMonths d.year months + n := by
    intro months n
    induction months with
    | zero => exact (Nat.zero_add n).symm
    | succ months ih =>
      rw [List.range_succ, List.foldl_append, ih, List.foldl_cons, List.foldl_nil, daysOfMonths]
      omega
  exact hmonths _ _

theorem dayNumber_eq (d : Date) :
    d.dayNumber = daysBeforeYear d.year + (daysOfMonths d.year (d.month - 1) + d.day : Nat) := by
  rw [← ordinal_eq]
  rfl

theorem day_bounds (d : Date) : 0 < d.day ∧
    daysOfMonths d.year (d.month - 1) + d.day ≤ daysOfMonths d.year d.month := by
  obtain ⟨-, ⟨hm, -⟩, hn, hn'⟩ := d.valid
  obtain ⟨m, hmonth⟩ := Nat.exists_eq_add_of_le' hm
  rw [hmonth] at hn' ⊢
  exact ⟨hn, Nat.add_le_add_left hn' _⟩

theorem dayNumber_next? (h : d.next? = some e) : e.dayNumber = d.dayNumber + 1 := by
  obtain ⟨⟨hfirst, hlast⟩, ⟨hm, hm'⟩, hn, hn'⟩ := d.valid
  obtain ⟨m, hmonth⟩ := Nat.exists_eq_add_of_le' hm
  have hmonths := Calendar.one_le_daysInMonth d.year (d.month + 1)
  rw [next?] at h
  simp only [Option.orElse_eq_orElse, Option.orElse_eq_or, Option.or_eq_some_iff, of?_eq_some_iff,
    of?_eq_none_iff, Calendar.Valid] at h
  rw [dayNumber_eq, dayNumber_eq]
  rcases h with ⟨hy, hmo, hd⟩ | ⟨hinside, ⟨hy, hmo, hd⟩ | ⟨hmonthly, hy, hmo, hd⟩⟩
  · rw [← hy, ← hmo, ← hd]
    omega
  · have hday : d.day = daysInMonth d.year d.month := by omega
    rw [← hy, ← hmo, ← hd, hday, hmonth, Nat.add_sub_cancel, Nat.add_sub_cancel, daysOfMonths]
    omega
  · have hdecember : d.month = 12 := by omega
    have hday : d.day = daysInMonth d.year d.month := by omega
    have hyear : daysOfMonths d.year 12 = daysOfMonths d.year 11 + daysInMonth d.year 12 := rfl
    rw [← hy, ← hmo, ← hd, daysBeforeYear_succ, hyear, hday, hdecember]
    simp only [Nat.sub_self, daysOfMonths]
    omega

theorem dayNumber_prev? (h : d.prev? = some e) : d.dayNumber = e.dayNumber + 1 := by
  obtain ⟨-, ⟨hm, -⟩, hn, -⟩ := d.valid
  obtain ⟨m, hmonth⟩ := Nat.exists_eq_add_of_le' hm
  rw [prev?] at h
  rw [dayNumber_eq, dayNumber_eq]
  split_ifs at h with hday hmonthly
  · obtain ⟨hy, hmo, hd⟩ := of?_eq_some_iff.mp h
    rw [← hy, ← hmo, ← hd]
    omega
  · obtain ⟨hy, hmo, hd⟩ := of?_eq_some_iff.mp h
    obtain ⟨k, rfl⟩ := Nat.exists_eq_add_of_le' (show 1 ≤ m by omega)
    have hone : d.day = 1 := by omega
    rw [← hy, ← hmo, ← hd, hone, hmonth, Nat.add_sub_cancel, Nat.add_sub_cancel, daysOfMonths]
    omega
  · obtain ⟨hy, hmo, hd⟩ := of?_eq_some_iff.mp h
    have hone : d.day = 1 := by omega
    have hjanuary : d.month = 1 := by omega
    have hyear : daysOfMonths e.year 12 = daysOfMonths e.year 11 + daysInMonth e.year 12 := rfl
    have hsucc : d.year = e.year + 1 := by omega
    rw [hsucc, daysBeforeYear_succ, hyear, ← hmo, ← hd, hone, hjanuary, daysInMonth_december]
    simp only [Nat.sub_self, daysOfMonths]
    omega

theorem lt_iff : d < e ↔ d.year < e.year ∨
    d.year = e.year ∧ (d.month < e.month ∨ d.month = e.month ∧ d.day < e.day) := by
  obtain ⟨-, hm, hn, hn'⟩ := d.valid
  obtain ⟨-, hk, hl, hl'⟩ := e.valid
  have hdays := daysInMonth_le d.year d.month
  have hdays' := daysInMonth_le e.year e.month
  change d.key < e.key ↔ _
  rw [key, key]
  omega

theorem dayNumber_lt_of_lt (h : d < e) : d.dayNumber < e.dayNumber := by
  obtain ⟨-, ⟨-, hm'⟩, -⟩ := d.valid
  obtain ⟨hn, hend⟩ := day_bounds d
  obtain ⟨hl, hend'⟩ := day_bounds e
  rw [dayNumber_eq, dayNumber_eq]
  rcases lt_iff.mp h with hyear | ⟨hyear, hmonth | ⟨hmonth, hday⟩⟩
  · have hyears := daysBeforeYear_mono hyear
    have hmonths : daysOfMonths d.year d.month ≤ daysOfMonths d.year 12 := daysOfMonths_mono hm'
    have hsucc := daysBeforeYear_succ d.year
    omega
  · have hmonths : daysOfMonths d.year d.month ≤ daysOfMonths d.year (e.month - 1) :=
      daysOfMonths_mono (by omega)
    rw [← hyear]
    omega
  · rw [hyear, hmonth]
    omega

theorem lt_iff_dayNumber_lt : d < e ↔ d.dayNumber < e.dayNumber := by
  refine ⟨dayNumber_lt_of_lt, fun h => ?_⟩
  by_contra hnot
  rcases Int.lt_or_eq_of_le (Int.not_lt.mp hnot) with hlt | heq
  · have hlater := dayNumber_lt_of_lt (show e < d from hlt)
    omega
  · rw [key_inj heq] at h
    omega

theorem le_iff_dayNumber_le : d ≤ e ↔ d.dayNumber ≤ e.dayNumber := by
  have hnot : d ≤ e ↔ ¬ e < d := Int.not_lt.symm
  rw [hnot, lt_iff_dayNumber_lt, Int.not_lt]

end Date

namespace Instant

variable {d : Date} {t : Instant}

theorem midnight_le_iff : midnight d ≤ t ↔ d ≤ t.date := by
  have hsecond := t.second_lt
  have hnano := t.nano_lt
  have hsame : midnight d ≤ t ↔ (midnight d).key ≤ t.key := Iff.rfl
  have hdays : d ≤ t.date ↔ d.key ≤ t.date.key := Iff.rfl
  rw [hsame, hdays, key, key]
  simp only [midnight, nanosPerSecond] at hnano ⊢
  omega

/-- The last leap second of a day still comes before the midnight of the next. -/
theorem lt_midnight_iff : t < midnight d ↔ t.date < d := by
  have hinstants : t < midnight d ↔ ¬ midnight d ≤ t := Int.not_le.symm
  have hdays : t.date < d ↔ ¬ d ≤ t.date := Int.not_le.symm
  rw [hinstants, hdays, midnight_le_iff]

end Instant

end BankReconciliation
