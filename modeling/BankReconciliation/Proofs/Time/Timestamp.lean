import BankReconciliation.Proofs.Text.Digits
import BankReconciliation.Proofs.Text.Separated
import BankReconciliation.Proofs.Time.Date
import BankReconciliation.Time.Timestamp

/-! What the written form of an instant tells of it: everything down to the millisecond. -/

namespace BankReconciliation

/-- The instant without what is finer than a millisecond. A leap second stays one. -/
def Instant.truncated (t : Instant) : Instant where
  date := t.date
  second := t.second
  nano := t.nano / 1000000 * 1000000
  second_lt := t.second_lt
  nano_lt := Nat.lt_of_le_of_lt (Nat.div_mul_le_self _ _) t.nano_lt
  leap h := t.leap (Nat.le_trans h (Nat.div_mul_le_self _ _))

theorem Instant.eq_iff {t u : Instant} :
    t = u ↔ t.date = u.date ∧ t.second = u.second ∧ t.nano = u.nano := by
  obtain ⟨d, s, n, _⟩ := t
  rw [Instant.mk.injEq]

namespace Timestamp

open Text (padded padded_inj not_mem_padded)

variable {t u : Instant} {d e : Date} {year year' : Int} {c : Char}

theorem mem_yearChars (hc : c ∈ yearChars year) : c = '-' ∨ c = '+' ∨ c.isDigit = true := by
  rw [yearChars] at hc
  split_ifs at hc
  · exact .inr (.inr (Text.isDigit_of_mem_padded hc))
  · exact (List.mem_cons.mp hc).imp_right fun hc => .inr (Text.isDigit_of_mem_padded hc)
  · exact .inr ((List.mem_cons.mp hc).imp_right Text.isDigit_of_mem_padded)

/-- A year is written in one way, also when it needs a sign. -/
theorem yearChars_inj (h : yearChars year = yearChars year') : year = year' := by
  have hsign : ∀ {c : Char} {cs : List Char} {n : Nat}, c.isDigit = false →
      padded 4 n ≠ c :: cs := fun hc h =>
    not_mem_padded hc (h ▸ List.mem_cons_self)
  rw [yearChars, yearChars] at h
  split_ifs at h with hplain hplain' hnegative' hnegative hplain' hnegative' hnegative'
  · have hyears := padded_inj h
    omega
  · exact absurd h (hsign rfl)
  · exact absurd h (hsign rfl)
  · exact absurd h.symm (hsign rfl)
  · have hyears := padded_inj (List.cons.inj h).2
    omega
  · cases (List.cons.inj h).1
  · exact absurd h.symm (hsign rfl)
  · cases (List.cons.inj h).1
  · have hyears := padded_inj (List.cons.inj h).2
    omega

theorem dateChars_inj (h : dateChars d = dateChars e) : d = e := by
  have hmark : ∀ {width n : Nat}, '-' ∉ padded width n := not_mem_padded rfl
  obtain ⟨hmonths, hday⟩ := (append_last_separator_inj hmark hmark).mp h
  obtain ⟨hyear, hmonth⟩ := (append_last_separator_inj hmark hmark).mp hmonths
  exact Date.eq_iff.mpr ⟨yearChars_inj hyear, padded_inj hmonth, padded_inj hday⟩

theorem clockChars_inj (h : clockChars t = clockChars u) : t.second = u.second ∧
    t.nano / nanosPerSecond = u.nano / nanosPerSecond := by
  have hmark : ∀ {width n : Nat}, ':' ∉ padded width n := not_mem_padded rfl
  obtain ⟨hminutes, hseconds⟩ := (append_last_separator_inj hmark hmark).mp h
  obtain ⟨hhours, hminutes⟩ := (append_last_separator_inj hmark hmark).mp hminutes
  have hhour := padded_inj hhours
  have hminute := padded_inj hminutes
  have hsecond := padded_inj hseconds
  have hleap := t.leap
  have hleap' := u.leap
  have hnano := t.nano_lt
  have hnano' := u.nano_lt
  -- the second 60 is written for a leap second only
  rw [nanosPerSecond] at *
  omega

theorem not_mem_clockChars (hc : c.isDigit = false) (hmark : c ≠ ':') : c ∉ clockChars t := by
  have hpadded : ∀ {width n : Nat}, c ∉ padded width n := not_mem_padded hc
  simp [clockChars, hpadded, hmark]

theorem not_mem_dateChars (hc : c.isDigit = false) (hmark : c ≠ '-') (hplus : c ≠ '+') :
    c ∉ dateChars d := by
  have hpadded : ∀ {width n : Nat}, c ∉ padded width n := not_mem_padded hc
  have hyear : c ∉ yearChars d.year := by
    intro hmem
    rcases mem_yearChars hmem with h | h | h
    · exact hmark h
    · exact hplus h
    · exact Text.ne_of_isDigit h hc rfl
  simp [dateChars, hpadded, hmark, hyear]

theorem not_mem_millisChars (hc : c.isDigit = false) (hmark : c ∉ ['-', '+', ':', 'T', '.', 'Z']) :
    c ∉ millisChars t := by
  simp only [List.mem_cons, List.not_mem_nil, or_false, not_or] at hmark
  obtain ⟨hminus, hplus, hcolon, htime, hpoint, hzulu⟩ := hmark
  simp [millisChars, not_mem_dateChars hc hminus hplus, not_mem_clockChars hc hcolon,
    not_mem_padded hc, htime, hpoint, hzulu]

theorem millisChars_truncated (t : Instant) : millisChars t.truncated = millisChars t := by
  have hwhole : t.nano / 1000000 * 1000000 / nanosPerSecond = t.nano / nanosPerSecond := by
    rw [nanosPerSecond]
    omega
  have hmillis : t.nano / 1000000 * 1000000 % nanosPerSecond / 1000000 =
      t.nano % nanosPerSecond / 1000000 := by
    rw [nanosPerSecond]
    omega
  simp only [millisChars, clockChars, Instant.truncated, hwhole, hmillis]

/-- Two instants are written alike exactly if they are the same to the millisecond. -/
theorem millisChars_eq_iff : millisChars t = millisChars u ↔ t.truncated = u.truncated := by
  constructor
  · intro h
    have hclock : ∀ {t : Instant}, '.' ∉ dateChars t.date ++ 'T' :: clockChars t := fun {t} => by
      simp [not_mem_dateChars, not_mem_clockChars]
    have htime : ∀ {d : Date}, 'T' ∉ dateChars d :=
      not_mem_dateChars rfl (by decide) (by decide)
    obtain ⟨hseconds, hmillis⟩ :=
      (append_separator_inj hclock hclock).mp (List.append_cancel_right h)
    obtain ⟨hdate, hseconds⟩ := (append_separator_inj htime htime).mp hseconds
    obtain ⟨hsecond, hleap⟩ := clockChars_inj hseconds
    have hmilli := padded_inj hmillis
    refine Instant.eq_iff.mpr ⟨dateChars_inj hdate, hsecond, ?_⟩
    change t.nano / 1000000 * 1000000 = u.nano / 1000000 * 1000000
    rw [nanosPerSecond] at hleap hmilli
    omega
  · intro h
    rw [← millisChars_truncated t, h, millisChars_truncated]

end Timestamp

end BankReconciliation
