import BankReconciliation.Proofs.Time.DatePattern
import BankReconciliation.Proofs.Time.Timestamp

/-! A written instant is read back: the year with its sign, a leap second, and as many digits of the
second as were written. -/

namespace BankReconciliation.Timestamp

open Text (padded)

variable {t : Instant} {ds rest : List Char} {c : Char} {n width : Nat} {year : Int}

theorem takeWhile_take (hds : ∀ c ∈ ds, c.isDigit = true) (hc : c.isDigit = false)
    (hwidth : ds.length ≤ width) :
    ((ds ++ c :: rest).take width).takeWhile Char.isDigit = ds := by
  have hstop : ∀ k, ((c :: rest).take k).takeWhile Char.isDigit = [] := by
    intro k
    cases k with
    | zero => rfl
    | succ k => exact List.takeWhile_cons_of_neg (by simp [hc])
  rw [List.take_append, List.take_of_length_le hwidth, List.takeWhile_append_of_pos hds, hstop,
    List.append_nil]

theorem number?_until (hds : ∀ c ∈ ds, c.isDigit = true) (hne : ds ≠ []) (hc : c.isDigit = false)
    (hwidth : ds.length ≤ width) :
    number? width (ds ++ c :: rest) = some (Text.digitsValue ds, c :: rest) := by
  rw [number?, takeWhile_take hds hc hwidth, if_neg hne, List.drop_left]

theorem year?_yearChars : year? (yearChars year ++ '-' :: rest) = some (year, '-' :: rest) := by
  have hnumber : number? (padded 4 year.natAbs ++ '-' :: rest).length
      (padded 4 year.natAbs ++ '-' :: rest) = some (year.natAbs, '-' :: rest) := by
    rw [number?_until (fun _ => Text.isDigit_of_mem_padded) (Text.padded_ne_nil (by decide)) rfl
      (by simp), Text.digitsValue_padded]
  rw [yearChars]
  split_ifs with hplain hnegative
  · have hlength : (padded 4 year.toNat).length = 4 :=
      Text.length_padded_of_lt (by decide) (by omega)
    rw [year?_append (fun _ => Text.isDigit_of_mem_padded) hlength, Text.digitsValue_padded,
      Int.toNat_of_nonneg hplain.1]
  · have hread : year? ('-' :: padded 4 year.natAbs ++ '-' :: rest) =
        (number? (padded 4 year.natAbs ++ '-' :: rest).length
          (padded 4 year.natAbs ++ '-' :: rest)).map fun p => (-(p.1 : Int), p.2) := rfl
    have hvalue : -(year.natAbs : Int) = year := by omega
    rw [hread, hnumber, Option.map_some]
    simp only [hvalue]
  · have hread : year? ('+' :: padded 4 year.natAbs ++ '-' :: rest) =
        (number? (padded 4 year.natAbs ++ '-' :: rest).length
          (padded 4 year.natAbs ++ '-' :: rest)).map fun p => ((p.1 : Int), p.2) := rfl
    have hvalue : (year.natAbs : Int) = year := by omega
    rw [hread, hnumber, Option.map_some]
    simp only [hvalue]

theorem mark?_cons (hc : Text.isBlank c = false) : mark? c (c :: rest) = some rest := by
  rw [mark?, Text.trimStart, List.dropWhile_cons_of_neg (by simp [hc])]
  exact if_pos rfl

theorem field?_padded (hn : n < 100) : field? 2 (padded 2 n ++ rest) = some (n, rest) := by
  have hlength : (padded 2 n).length = 2 := Text.length_padded_of_lt (by decide) hn
  rw [field?_append (fun _ => Text.isDigit_of_mem_padded) hlength (by decide),
    Text.digitsValue_padded]

theorem nanos?_padded (hwidth : 0 < width ∧ width ≤ 9) (hn : n < 10 ^ width) :
    nanos? ('.' :: padded width n ++ ['Z']) = some (some (n * 10 ^ (9 - width)), ['Z']) := by
  have hlength : (padded width n).length = width := Text.length_padded_of_lt hwidth.1 hn
  have hkept : ((padded width n ++ ['Z']).take 9).takeWhile Char.isDigit = padded width n :=
    takeWhile_take (fun _ => Text.isDigit_of_mem_padded) rfl (by omega)
  have hread : nanos? ('.' :: padded width n ++ ['Z']) =
      (let kept := ((padded width n ++ ['Z']).take 9).takeWhile Char.isDigit
      if kept = [] then none
      else some (some (Text.digitsValue kept * 10 ^ (9 - kept.length)),
        ((padded width n ++ ['Z']).drop kept.length).dropWhile Char.isDigit)) := rfl
  rw [hread, hkept]
  simp only [if_neg (Text.padded_ne_nil hwidth.1), Text.digitsValue_padded, List.drop_left]
  rw [hlength]
  rfl

theorem exists_nanos?_fractionChars (t : Instant) :
    ∃ nano, nanos? (fractionChars t ++ ['Z']) = some (nano, ['Z']) ∧
      nano.getD 0 = t.nano % nanosPerSecond := by
  have hlt : t.nano % nanosPerSecond < nanosPerSecond := Nat.mod_lt _ (by decide)
  rw [fractionChars]
  generalize t.nano % nanosPerSecond = n at hlt
  rw [nanosPerSecond] at hlt
  by_cases hnone : n = 0
  · rw [if_pos hnone]
    exact ⟨none, rfl, hnone.symm⟩
  rw [if_neg hnone]
  by_cases hmillis : n % 1000000 = 0
  · rw [if_pos hmillis]
    refine ⟨_, nanos?_padded (by decide) (by omega), ?_⟩
    rw [Option.getD_some]
    omega
  rw [if_neg hmillis]
  by_cases hmicros : n % 1000 = 0
  · rw [if_pos hmicros]
    refine ⟨_, nanos?_padded (by decide) (by omega), ?_⟩
    rw [Option.getD_some]
    omega
  · rw [if_neg hmicros]
    refine ⟨_, nanos?_padded (by decide) (by omega), ?_⟩
    rw [Option.getD_some]
    omega

theorem exists_parts?_toChars (t : Instant) :
    ∃ nano, parts? (toChars t) = some (⟨t.date.year, t.date.month, t.date.day, t.second / 3600,
      t.second / 60 % 60, t.second % 60 + t.nano / nanosPerSecond, nano, 0⟩, []) ∧
        nano.getD 0 = t.nano % nanosPerSecond := by
  obtain ⟨nano, hnano, hvalue⟩ := exists_nanos?_fractionChars t
  refine ⟨nano, ?_, hvalue⟩
  obtain ⟨-, ⟨-, hmonth⟩, -, hday⟩ := t.date.valid
  have hday : t.date.day ≤ 31 := hday.trans (Calendar.daysInMonth_le _ _)
  have hsecond := t.second_lt
  have hnanos := t.nano_lt
  rw [nanosPerSecond] at hnanos
  have hseconds : t.second % 60 + t.nano / nanosPerSecond < 100 := by
    rw [nanosPerSecond]
    omega
  have hchars : toChars t = yearChars t.date.year ++ '-' :: (padded 2 t.date.month ++ '-' ::
      (padded 2 t.date.day ++ 'T' :: (padded 2 (t.second / 3600) ++ ':' ::
        (padded 2 (t.second / 60 % 60) ++ ':' ::
          (padded 2 (t.second % 60 + t.nano / nanosPerSecond) ++
            (fractionChars t ++ ['Z'])))))) := by
    simp [toChars, dateChars, clockChars]
  have hzone : zone? (Text.trimStart ['Z']) = some (0, []) := rfl
  have hhyphen : ∀ rest, mark? '-' ('-' :: rest) = some rest := fun _ => mark?_cons rfl
  have hcolon : ∀ rest, mark? ':' (':' :: rest) = some rest := fun _ => mark?_cons rfl
  simp (disch := omega) only [parts?, hchars, year?_yearChars, hhyphen, hcolon, field?_padded,
    hnano, hzone, bind, Option.bind]

theorem shift?_zero (t : Instant) : Instant.shift? t.date t.second t.nano 0 = some t := by
  have hof : Instant.of? t.date t.second t.nano = some t :=
    dif_pos ⟨t.second_lt, t.nano_lt, t.leap⟩
  have hsecond := t.second_lt
  rw [Instant.shift?]
  simp only [Int.add_zero]
  rw [if_neg (by omega), if_pos (by omega), Int.toNat_natCast, hof]

/-- The parts of an instant name it. The second 60 is the second 59 with a fraction of one second or
longer. -/
theorem instant?_parts {nano : Option Nat} (h : nano.getD 0 = t.nano % nanosPerSecond) :
    Parts.instant? ⟨t.date.year, t.date.month, t.date.day, t.second / 3600, t.second / 60 % 60,
      t.second % 60 + t.nano / nanosPerSecond, nano, 0⟩ = some t := by
  have hdate : Date.of? t.date.year t.date.month t.date.day = some t.date :=
    Date.of?_eq_some_iff.mpr ⟨rfl, rfl, rfl⟩
  have hsecond := t.second_lt
  have hnanos := t.nano_lt
  have hleap := t.leap
  have hshift := shift?_zero t
  rw [nanosPerSecond] at hnanos hleap
  have hclock : ¬(24 ≤ t.second / 3600 ∨ 60 ≤ t.second / 60 % 60 ∨
      61 ≤ t.second % 60 + t.nano / nanosPerSecond ∨ 86400 ≤ (0 : Int).natAbs) := by
    rw [nanosPerSecond]
    omega
  rw [Parts.instant?]
  simp only [hdate, h, bind, Option.bind, if_neg hclock, Int.neg_zero]
  by_cases hlong : 1000000000 ≤ t.nano
  · have hsixty : t.second % 60 + t.nano / nanosPerSecond = 60 := by
      rw [nanosPerSecond]
      have hlast := hleap hlong
      omega
    have htime : t.second / 3600 * 3600 + t.second / 60 % 60 * 60 + 59 = t.second := by
      have hlast := hleap hlong
      omega
    have hnano : t.nano % nanosPerSecond + nanosPerSecond = t.nano := by
      rw [nanosPerSecond]
      omega
    simp only [if_pos hsixty, htime, hnano, hshift]
  · have hplain : t.nano / nanosPerSecond = 0 := by
      rw [nanosPerSecond]
      omega
    have hother : ¬t.second % 60 + t.nano / nanosPerSecond = 60 := by omega
    have htime : t.second / 3600 * 3600 + t.second / 60 % 60 * 60 +
        (t.second % 60 + t.nano / nanosPerSecond) = t.second := by omega
    have hnano : t.nano % nanosPerSecond = t.nano := by
      rw [nanosPerSecond]
      omega
    simp only [if_neg hother, htime, hnano, hshift]

theorem read?_toChars (t : Instant) : read? (toChars t) = some t := by
  obtain ⟨nano, hparts, hnano⟩ := exists_parts?_toChars t
  rw [read?, hparts]
  simp only [bind, Option.bind, Text.trimStart_nil, if_pos]
  exact instant?_parts hnano

theorem ofString?_render (t : Instant) : ofString? (render t) = some t := by
  rw [ofString?, render, String.toList_ofList, read?_toChars]

end BankReconciliation.Timestamp
