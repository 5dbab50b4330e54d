import BankReconciliation.Proofs.Decimal.Reader
import BankReconciliation.Proofs.Decimal.Value
import Mathlib.Tactic.Linarith
import Mathlib.Tactic.Ring

/-! What is read as a decimal number consists of digits with at most one point, and the number is
the one that the digits write. Digits that do not fit are rounded away. -/

namespace BankReconciliation.Decimal

variable {negative point seen : Bool} {m s v : Nat} {c : Char} {cs ds ps : List Char}
  {d e : Decimal}

theorem isDigit_of_digitValue? (h : Text.digitValue? c = some v) : c.isDigit = true := by
  by_contra hc
  simp [Text.digitValue?, hc] at h

theorem isDigit_of_finish? (h : finish? negative m s cs = some d) (hcs : '_' ∉ cs) :
    ∀ c ∈ cs, c.isDigit = true := by
  rw [finish?] at h
  split at h
  · rename_i hall
    intro c hc
    have hchar := List.all_eq_true.mp hall c hc
    by_cases hscore : c = '_'
    · exact absurd (hscore ▸ hc) hcs
    · simpa [hscore] using hchar
  · cases h

theorem isDigit_of_readFrom? (h : readFrom? negative true seen m s cs = some d)
    (hcs : '_' ∉ cs) : ∀ c ∈ cs, c.isDigit = true := by
  induction cs generalizing seen m s with
  | nil => exact List.forall_mem_nil _
  | cons c cs ih =>
    obtain ⟨hc, hrest⟩ := not_or.mp (List.mem_cons.not.mp hcs)
    rw [readFrom?] at h
    cases hvalue : Text.digitValue? c with
    | some v =>
      refine List.forall_mem_cons.mpr ⟨isDigit_of_digitValue? hvalue, ?_⟩
      simp only [hvalue] at h
      split_ifs at h with hfull hlast
      · exact (List.forall_mem_cons.mp (isDigit_of_finish? h hcs)).2
      · exact isDigit_of_finish? h hrest
      · exact ih h hrest
    | none =>
      simp [hvalue, Ne.symm hc] at h

theorem exists_digits_of_readFrom? (h : readFrom? negative false seen m s cs = some d)
    (hcs : '_' ∉ cs) :
    ∃ ws, (∀ c ∈ ws, c.isDigit = true) ∧
      (cs = ws ∨ ∃ ps, cs = ws ++ '.' :: ps ∧ ∀ c ∈ ps, c.isDigit = true) := by
  induction cs generalizing seen m s with
  | nil => exact ⟨[], List.forall_mem_nil _, .inl rfl⟩
  | cons c cs ih =>
    obtain ⟨hc, hrest⟩ := not_or.mp (List.mem_cons.not.mp hcs)
    rw [readFrom?] at h
    cases hvalue : Text.digitValue? c with
    | some v =>
      have hdigit := isDigit_of_digitValue? hvalue
      simp only [hvalue, Bool.false_and, Bool.false_eq_true, if_false] at h
      split_ifs at h
      obtain ⟨ws, hws, hshape⟩ := ih h hrest
      refine ⟨c :: ws, List.forall_mem_cons.mpr ⟨hdigit, hws⟩, ?_⟩
      rcases hshape with rfl | ⟨ps, rfl, hps⟩
      · exact .inl rfl
      · exact .inr ⟨ps, rfl, hps⟩
    | none =>
      by_cases hpoint : c = '.'
      · subst hpoint
        simp only [hvalue, Bool.not_false, Bool.and_true, decide_true, if_true] at h
        exact ⟨[], List.forall_mem_nil _, .inr ⟨cs, rfl, isDigit_of_readFrom? h hrest⟩⟩
      · simp [hvalue, hpoint, Ne.symm hc] at h

theorem ofDigitChars_lt_of_readFrom? {rest : List Char}
    (h : readFrom? negative false seen m s (ds ++ rest) = some d)
    (hds : ∀ c ∈ ds, c.isDigit = true) (hm : m < capacity) :
    Nat.ofDigitChars 10 ds m < capacity := by
  induction ds generalizing seen m s with
  | nil => exact hm
  | cons c ds ih =>
    obtain ⟨hc, hds⟩ := List.forall_mem_cons.mp hds
    have hvalue := Text.digitValue?_of_isDigit hc
    rw [List.cons_append, readFrom?] at h
    simp only [hvalue, Bool.false_and, Bool.false_eq_true, if_false] at h
    split_ifs at h with hfull
    rw [Nat.ofDigitChars_cons, Nat.mul_comm]
    exact ih h hds (Nat.not_le.mp hfull)

/-- The magnitude is as near to `x` as its places allow, and it is `x` if any decimal has it. -/
structure Approximates (d : Decimal) (x : ℚ) : Prop where
  near : |d.magnitude - x| ≤ 1 / 2 / 10 ^ d.scale
  exact : ∀ e : Decimal, e.magnitude = x → d.magnitude = x

theorem Approximates.of_eq {x : ℚ} (h : d.magnitude = x) : d.Approximates x where
  near := by
    rw [h, sub_self, abs_zero]
    positivity
  exact _ _ := h

theorem ofParts?_eq_some (h : ofParts? negative m s = some d) :
    d.mantissa = m ∧ d.scale = s ∧ d.negative = (negative && m != 0) := by
  rw [ofParts?] at h
  split_ifs at h
  obtain rfl := Option.some.inj h
  exact ⟨rfl, rfl, rfl⟩

theorem value_of_negative (h : d.negative = (negative && d.mantissa != 0)) :
    d.value = if negative then -d.magnitude else d.magnitude := by
  rw [value_eq_magnitude, h]
  by_cases hzero : d.mantissa = 0
  · simp [magnitude, hzero]
  · simp [hzero]

theorem negative_of_ofParts? (h : ofParts? negative m s = some d) :
    d.negative = (negative && d.mantissa != 0) := by
  obtain ⟨hmantissa, -, hnegative⟩ := ofParts?_eq_some h
  rw [hnegative, hmantissa]

theorem negative_of_roundUp? (h : roundUp? negative m s = some d) :
    d.negative = (negative && d.mantissa != 0) := by
  rw [roundUp?] at h
  split_ifs at h
  · exact negative_of_ofParts? h
  · exact negative_of_ofParts? h

theorem negative_of_finish? (h : finish? negative m s cs = some d) :
    d.negative = (negative && d.mantissa != 0) := by
  rw [finish?] at h
  split_ifs at h
  split at h
  · split_ifs at h
    · exact negative_of_roundUp? h
    · exact negative_of_ofParts? h
  · exact negative_of_ofParts? h

/-- What is read has the sign that is written, unless it is zero. -/
theorem negative_of_readFrom? (h : readFrom? negative point seen m s cs = some d) :
    d.negative = (negative && d.mantissa != 0) := by
  induction cs generalizing point seen m s with
  | nil =>
    rw [readFrom?] at h
    split_ifs at h
    exact negative_of_ofParts? h
  | cons c cs ih =>
    rw [readFrom?] at h
    cases hvalue : Text.digitValue? c with
    | some v =>
      simp only [hvalue] at h
      split_ifs at h
      · exact negative_of_finish? h
      · exact negative_of_finish? h
      · exact ih h
      · exact negative_of_finish? h
      · exact ih h
    | none =>
      simp only [hvalue] at h
      split_ifs at h
      · exact ih h
      · exact ih h

/-- What is left of the digits when the first of them fill the number: the last place that is kept
is rounded at the first digit that is left. -/
structure Cuts (negative : Bool) (m s : Nat) (dropped : List Char) (d : Decimal) : Prop where
  fits : m < capacity
  scale_le : s ≤ 28
  finished : finish? negative m s dropped = some d
  full : s < 28 → ∀ c ∈ dropped.head?, capacity ≤ m * 10 + (c.toNat - '0'.toNat)

theorem exists_cuts (h : readFrom? negative true true m s ps = some d)
    (hps : ∀ c ∈ ps, c.isDigit = true) (hm : m < capacity) (hs : s < 28) :
    ∃ kept dropped, ps = kept ++ dropped ∧
      Cuts negative (Nat.ofDigitChars 10 kept m) (s + kept.length) dropped d := by
  induction ps generalizing m s with
  | nil =>
    rw [readFrom?_nil] at h
    refine ⟨[], [], rfl, hm, Nat.le_of_lt hs, ?_, ?_⟩
    · simpa [finish?] using h
    · simp
  | cons c ps ih =>
    obtain ⟨hc, hps⟩ := List.forall_mem_cons.mp hps
    have hvalue := Text.digitValue?_of_isDigit hc
    rw [readFrom?] at h
    simp only [hvalue, Bool.true_and, if_true, decide_eq_true_eq] at h
    -- the digits end where the capacity is passed, at the last place, or later
    split_ifs at h with hfull hlast
    · refine ⟨[], c :: ps, rfl, hm, Nat.le_of_lt hs, h, ?_⟩
      simpa using fun _ => hfull
    · refine ⟨[c], ps, rfl, ?_, ?_, ?_, ?_⟩
      · simpa [Nat.ofDigitChars_cons, Nat.mul_comm] using hfull
      · simp only [List.length_singleton]
        omega
      · simpa [Nat.ofDigitChars_cons, Nat.mul_comm] using h
      · simp only [List.length_singleton]
        omega
    · obtain ⟨kept, dropped, rfl, hcuts⟩ := ih h hps (Nat.not_le.mp hfull) (Nat.not_le.mp hlast)
      refine ⟨c :: kept, dropped, rfl, ?_⟩
      rw [Nat.ofDigitChars_cons, List.length_cons, Nat.mul_comm 10 m, Nat.add_comm kept.length,
        ← Nat.add_assoc]
      exact hcuts

theorem finish?_digits (hc : c.isDigit = true) (hds : ∀ c ∈ ds, c.isDigit = true) :
    finish? negative m s (c :: ds) =
      if 5 ≤ c.toNat - '0'.toNat then roundUp? negative m s else ofParts? negative m s := by
  have hall : (c :: ds).all (fun c => c.isDigit || c == '_') = true := by
    refine List.all_eq_true.mpr (List.forall_mem_cons.mpr ⟨by simp [hc], ?_⟩)
    intro c hmem
    simp [hds c hmem]
  rw [finish?, if_pos hall, List.find?_cons_of_pos hc]
  simp [Text.digitValue?_of_isDigit hc]

def fraction (ds : List Char) : ℚ := Nat.ofDigitChars 10 ds 0 / 10 ^ ds.length

theorem fraction_nil : fraction [] = 0 := by simp [fraction]

theorem ofDigitChars_div (ds : List Char) (m : Nat) :
    (Nat.ofDigitChars 10 ds m : ℚ) / 10 ^ ds.length = m + fraction ds := by
  rw [Nat.ofDigitChars_eq_ofDigitChars_zero, fraction]
  push_cast
  field_simp

theorem fraction_cons (c : Char) (ds : List Char) :
    fraction (c :: ds) = ((c.toNat - '0'.toNat : Nat) + fraction ds) / 10 := by
  rw [← ofDigitChars_div, fraction, Nat.ofDigitChars_cons, List.length_cons, pow_succ]
  simp [div_div]

theorem fraction_nonneg (ds : List Char) : 0 ≤ fraction ds := by
  unfold fraction
  positivity

theorem fraction_lt_one (hds : ∀ c ∈ ds, c.isDigit = true) : fraction ds < 1 := by
  induction ds with
  | nil => simp [fraction_nil]
  | cons c ds ih =>
    obtain ⟨hc, hds⟩ := List.forall_mem_cons.mp hds
    have hvalue : ((c.toNat - '0'.toNat : Nat) : ℚ) ≤ 9 := by
      exact_mod_cast Text.digit_le_nine hc
    rw [fraction_cons]
    linarith [ih hds]

theorem near_div {n y b : ℚ} (h : |n - y| ≤ b) (s : Nat) :
    |n / 10 ^ s - y / 10 ^ s| ≤ b / 10 ^ s := by
  have hpower : (0 : ℚ) < 10 ^ s := by positivity
  rw [← sub_div, abs_div, abs_of_pos hpower]
  exact (div_le_div_iff_of_pos_right hpower).mpr h

theorem ten_pow_ne_zero (k : Nat) : (10 : ℚ) ^ k ≠ 0 := pow_ne_zero k (by norm_num)

/-- The units of a decimal that has no more places are whole numbers of the last place. -/
theorem fraction_eq_zero_of_coarse (hds : ∀ c ∈ ds, c.isDigit = true) (hscale : e.scale ≤ s)
    (he : e.magnitude = (m + fraction ds) / 10 ^ s) : fraction ds = 0 := by
  have hlower := fraction_nonneg ds
  have hupper := fraction_lt_one hds
  obtain ⟨k, rfl⟩ := Nat.exists_eq_add_of_le hscale
  have hwhole : (e.mantissa : ℚ) * 10 ^ k = m + fraction ds := by
    rw [magnitude, div_eq_div_iff (ten_pow_ne_zero _) (ten_pow_ne_zero _), pow_add,
      mul_comm (10 ^ e.scale : ℚ), ← mul_assoc] at he
    exact mul_right_cancel₀ (ten_pow_ne_zero _) he
  have hle : m ≤ e.mantissa * 10 ^ k := by
    have : (m : ℚ) ≤ (e.mantissa : ℚ) * 10 ^ k := by linarith
    exact_mod_cast this
  have hlt : e.mantissa * 10 ^ k < m + 1 := by
    have : (e.mantissa : ℚ) * 10 ^ k < m + 1 := by linarith
    exact_mod_cast this
  have heq : (e.mantissa : ℚ) * 10 ^ k = m := by
    exact_mod_cast Nat.le_antisymm (Nat.le_of_lt_succ hlt) hle
  linarith

/-- A decimal with more places has no room for the first digit that is left. -/
theorem magnitude_ne_of_fine (hfull : capacity ≤ m * 10 + (c.toNat - '0'.toNat))
    (hscale : s < e.scale) : e.magnitude ≠ (m + fraction (c :: ds)) / 10 ^ s := by
  intro he
  obtain ⟨k, hk⟩ := Nat.exists_eq_add_of_lt hscale
  have hmantissa : (e.mantissa : ℚ) = (m + fraction (c :: ds)) * 10 * 10 ^ k := by
    rw [magnitude, div_eq_div_iff (ten_pow_ne_zero _) (ten_pow_ne_zero _), hk, pow_succ,
      pow_add] at he
    refine mul_right_cancel₀ (ten_pow_ne_zero s) ?_
    linarith
  have hplace : (capacity : ℚ) ≤ (m + fraction (c :: ds)) * 10 := by
    have hcast : (capacity : ℚ) ≤ m * 10 + (c.toNat - '0'.toNat : Nat) := by
      exact_mod_cast hfull
    refine hcast.trans ?_
    rw [fraction_cons, add_mul, div_mul_cancel₀ _ (by norm_num)]
    linarith [fraction_nonneg ds]
  have hone : (1 : ℚ) ≤ 10 ^ k := one_le_pow₀ (by norm_num)
  have hlarge : (capacity : ℚ) ≤ e.mantissa := by
    rw [hmantissa]
    nlinarith
  have hfits : (e.mantissa : ℚ) < capacity := by exact_mod_cast e.mantissa_lt
  linarith

/-- A decimal has the number only if nothing but zeros is dropped. -/
theorem Cuts.fraction_eq_zero (h : Cuts negative m s ds d) (hds : ∀ c ∈ ds, c.isDigit = true)
    (he : e.magnitude = (m + fraction ds) / 10 ^ s) : fraction ds = 0 := by
  by_cases hscale : e.scale ≤ s
  · exact fraction_eq_zero_of_coarse hds hscale he
  · have hroom : s < 28 := Nat.lt_of_lt_of_le (Nat.not_le.mp hscale) e.scale_le
    cases ds with
    | nil => exact fraction_nil
    | cons c ds =>
      exact absurd he (magnitude_ne_of_fine (h.full hroom c rfl) (Nat.not_le.mp hscale))

theorem Cuts.approximates_of_down (h : Cuts negative m s ds d) (hds : ∀ c ∈ ds, c.isDigit = true)
    (hparts : ofParts? negative m s = some d) (hhalf : fraction ds ≤ 1 / 2) :
    d.Approximates ((m + fraction ds) / 10 ^ s) := by
  obtain ⟨hmantissa, hscale, -⟩ := ofParts?_eq_some hparts
  have hmagnitude : d.magnitude = m / 10 ^ s := by rw [magnitude, hmantissa, hscale]
  constructor
  · rw [hmagnitude, hscale]
    apply near_div
    rw [abs_le]
    constructor <;> linarith [fraction_nonneg ds]
  · intro e he
    rw [hmagnitude, h.fraction_eq_zero hds he, add_zero]

theorem Cuts.approximates_of_up (h : Cuts negative m s ds d) (hds : ∀ c ∈ ds, c.isDigit = true)
    (hup : roundUp? negative m s = some d) (hhalf : 1 / 2 ≤ fraction ds) :
    d.Approximates ((m + fraction ds) / 10 ^ s) := by
  have hlt := fraction_lt_one hds
  refine ⟨?_, fun e he => ?_⟩
  · rw [roundUp?] at hup
    split_ifs at hup with hroom hzero
    · obtain ⟨hmantissa, hscale, -⟩ := ofParts?_eq_some hup
      rw [magnitude, hmantissa, hscale]
      apply near_div
      push_cast
      rw [abs_le]
      constructor <;> linarith
    · -- the largest mantissa, and so the next place is known
      obtain ⟨hmantissa, hscale, -⟩ := ofParts?_eq_some hup
      have hten : (m + 5) / 10 * 10 = m + 5 := by
        have hfits := h.fits
        have hlast : capacity % 10 = 6 := by decide
        omega
      have htenth : (((m + 5) / 10 : Nat) : ℚ) * 10 = m + 5 := by exact_mod_cast hten
      have hplace : ∀ n : ℚ, n / 10 ^ (s - 1) = n * 10 / 10 ^ s := fun n => by
        obtain ⟨k, rfl⟩ := Nat.exists_eq_add_of_lt (Nat.pos_of_ne_zero hzero)
        rw [Nat.zero_add, Nat.add_sub_cancel, pow_succ, mul_div_mul_right _ _ (by norm_num)]
      rw [magnitude, hmantissa, hscale, hplace, hplace (1 / 2), htenth]
      apply near_div
      rw [abs_le]
      constructor <;> linarith
  · have hzero := h.fraction_eq_zero hds he
    linarith

/-- What is kept is the number rounded at its last place, half up. -/
theorem Cuts.approximates (h : Cuts negative m s ds d) (hds : ∀ c ∈ ds, c.isDigit = true) :
    d.Approximates ((m + fraction ds) / 10 ^ s) := by
  have hfinished := h.finished
  cases ds with
  | nil =>
    exact h.approximates_of_down hds (by simpa [finish?] using hfinished) (by simp [fraction_nil])
  | cons c ds =>
    obtain ⟨hc, hrest⟩ := List.forall_mem_cons.mp hds
    rw [finish?_digits hc hrest] at hfinished
    split_ifs at hfinished with hfive
    · refine h.approximates_of_up hds hfinished ?_
      have hvalue : (5 : ℚ) ≤ (c.toNat - '0'.toNat : Nat) := by exact_mod_cast hfive
      rw [fraction_cons]
      linarith [fraction_nonneg ds]
    · refine h.approximates_of_down hds hfinished ?_
      have hvalue : ((c.toNat - '0'.toNat : Nat) : ℚ) ≤ 4 := by
        exact_mod_cast Nat.le_of_lt_succ (Nat.not_le.mp hfive)
      rw [fraction_cons]
      linarith [fraction_lt_one hrest]

/-- Digits with places behind a point, or without them, are read as the number that they write. -/
theorem approximates_of_readFrom? {ws : List Char}
    (h : readFrom? negative false false 0 0 (ws ++ if ps = [] then [] else '.' :: ps) = some d)
    (hws : ∀ c ∈ ws, c.isDigit = true) (hps : ∀ c ∈ ps, c.isDigit = true) (hne : ws ≠ []) :
    d.Approximates (Text.digitsValue (ws ++ ps) / 10 ^ ps.length) := by
  have hwhole := ofDigitChars_lt_of_readFrom? h hws (by decide)
  rw [readFrom?_whole hws hne hwhole] at h
  rw [Text.digitsValue, Nat.ofDigitChars_append]
  split_ifs at h with hnone
  · subst hnone
    obtain ⟨hmantissa, hscale, -⟩ := ofParts?_eq_some (readFrom?_nil.symm.trans h)
    apply Approximates.of_eq
    rw [magnitude, hmantissa, hscale]
    simp
  · rw [readFrom?_point] at h
    obtain ⟨kept, dropped, rfl, hcuts⟩ := exists_cuts h hps hwhole (by decide)
    have hdropped : ∀ c ∈ dropped, c.isDigit = true := fun c hc =>
      hps c (List.mem_append_right kept hc)
    rw [Nat.ofDigitChars_append, List.length_append, Nat.add_comm, pow_add, ← div_div,
      ofDigitChars_div]
    simpa using hcuts.approximates hdropped

end BankReconciliation.Decimal
