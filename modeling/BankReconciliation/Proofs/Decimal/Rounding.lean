import BankReconciliation.Decimal.Basic
import BankReconciliation.Proofs.Decimal.Reader
import BankReconciliation.Proofs.Decimal.Value
import BankReconciliation.Proofs.Text.Separated
import Mathlib.Tactic.Linarith

/-! Rounding half to even, and the text of what is rounded. -/

namespace BankReconciliation

/-- A whole number that is nearest to `x`, and even if another one is as near. -/
structure RoundsHalfEven (x : ℚ) (n : ℤ) : Prop where
  nearest : |x - n| ≤ 1 / 2
  even : |x - n| = 1 / 2 → Even n

namespace RoundsHalfEven

variable {x : ℚ} {m n : ℤ}

theorem of_eq (h : x = n) : RoundsHalfEven x n where
  nearest := by
    rw [h, sub_self, abs_zero]
    norm_num
  even htie := by
    rw [h, sub_self, abs_zero] at htie
    norm_num at htie

theorem of_lt (h : |x - n| < 1 / 2) : RoundsHalfEven x n where
  nearest := h.le
  even htie := absurd htie h.ne

/-- There is one such number at most. -/
theorem unique (hm : RoundsHalfEven x m) (hn : RoundsHalfEven x n) : m = n := by
  by_contra hne
  have hapart : (1 : ℚ) ≤ |(m : ℚ) - n| := by
    exact_mod_cast Int.one_le_abs (sub_ne_zero.mpr hne)
  have htriangle : |(m : ℚ) - n| ≤ |x - m| + |x - n| := by
    rw [abs_sub_comm x m]
    exact abs_sub_le _ _ _
  -- both are at a distance of a half, one on each side, and only one of them is even
  have hnear := hm.nearest
  have hnear' := hn.nearest
  have hodd : |m - n| = 1 := by
    have hone : |(m : ℚ) - n| = 1 := by linarith
    exact_mod_cast hone
  have heven : Even |m - n| := by
    rw [even_abs]
    exact (hm.even (by linarith)).sub (hn.even (by linarith))
  rw [hodd] at heven
  revert heven
  decide

/-! A whole number `q` and a part `f` of one. -/

variable {q : Nat} {f : ℚ}

theorem of_lt_half (hf : 0 ≤ f) (hhalf : f < 1 / 2) : RoundsHalfEven (q + f) q := by
  apply of_lt
  rwa [Int.cast_natCast, add_sub_cancel_left, abs_of_nonneg hf]

theorem of_half : RoundsHalfEven (q + 1 / 2 : ℚ) (q + q % 2 : Nat) := by
  rcases Nat.mod_two_eq_zero_or_one q with heven | hodd
  · rw [heven]
    constructor
    · simp
    · intro
      rw [Nat.add_zero, Int.even_coe_nat]
      exact Nat.even_iff.mpr heven
  · rw [hodd]
    constructor
    · push_cast
      rw [abs_le]
      constructor <;> linarith
    · intro
      rw [Int.even_coe_nat]
      exact Nat.even_iff.mpr (by omega)

theorem of_half_lt (hhalf : 1 / 2 < f) (hf : f < 1) : RoundsHalfEven (q + f) (q + 1 : Nat) := by
  apply of_lt
  push_cast
  rw [abs_lt]
  constructor <;> linarith

end RoundsHalfEven

/-- Twice the rest of a division is compared with the divisor as its fraction is with a half. -/
theorem fraction_lt_half_iff {r d : Nat} (hd : 0 < d) : (r : ℚ) / d < 1 / 2 ↔ 2 * r < d := by
  have hpos : (0 : ℚ) < d := by exact_mod_cast hd
  rw [div_lt_div_iff₀ hpos (by norm_num), mul_comm, one_mul]
  exact_mod_cast Iff.rfl

theorem fraction_eq_half_iff {r d : Nat} (hd : 0 < d) : (r : ℚ) / d = 1 / 2 ↔ 2 * r = d := by
  have hne : (d : ℚ) ≠ 0 := by exact_mod_cast hd.ne'
  rw [div_eq_div_iff hne (by norm_num), mul_comm, one_mul]
  exact_mod_cast Iff.rfl

theorem roundsHalfEven_divHalfEven (n : Nat) {d : Nat} (hd : 0 < d) :
    RoundsHalfEven (n / d : ℚ) (divHalfEven n d) := by
  have hpos : (0 : ℚ) < d := by exact_mod_cast hd
  have hsplit : (n / d : ℚ) = (n / d : Nat) + ((n % d : Nat) : ℚ) / d := by
    field_simp
    exact_mod_cast (Nat.div_add_mod n d).symm
  rw [hsplit, divHalfEven]
  split_ifs with hless htie
  · exact .of_lt_half (by positivity) ((fraction_lt_half_iff hd).mpr hless)
  · rw [(fraction_eq_half_iff hd).mpr htie]
    exact .of_half
  · apply RoundsHalfEven.of_half_lt
    · exact lt_of_le_of_ne (not_lt.mp ((fraction_lt_half_iff hd).not.mpr hless))
        (Ne.symm ((fraction_eq_half_iff hd).not.mpr htie))
    · rw [div_lt_one hpos]
      exact_mod_cast Nat.mod_lt n hd

namespace Decimal

variable {a b : Decimal} {places m n : Nat} {c : Char}

theorem roundsHalfEven_cents (a : Decimal) : RoundsHalfEven (a.magnitude * 100) a.cents := by
  rw [cents, magnitude]
  split_ifs with hscale
  · apply RoundsHalfEven.of_eq
    obtain ⟨k, hk⟩ := Nat.exists_eq_add_of_le hscale
    have hpower : (100 : ℚ) = 10 ^ a.scale * 10 ^ k := by
      rw [← pow_add, ← hk]
      norm_num
    rw [hk, Nat.add_sub_cancel_left, hpower]
    push_cast
    field_simp
  · obtain ⟨k, hk⟩ := Nat.exists_eq_add_of_lt (Nat.not_le.mp hscale)
    have hrest : a.scale - 2 = k + 1 := by omega
    have hvalue : (a.mantissa : ℚ) / 10 ^ a.scale * 100 = a.mantissa / (10 ^ (k + 1) : Nat) := by
      rw [hk]
      push_cast
      field_simp
      ring
    rw [hvalue, hrest]
    exact roundsHalfEven_divHalfEven _ (by positivity)

theorem cents_eq_iff : a.cents = b.cents ↔
    ∃ n : ℤ, RoundsHalfEven (a.magnitude * 100) n ∧ RoundsHalfEven (b.magnitude * 100) n := by
  constructor
  · intro h
    exact ⟨a.cents, a.roundsHalfEven_cents, h ▸ b.roundsHalfEven_cents⟩
  · rintro ⟨n, ha, hb⟩
    have hcents := (a.roundsHalfEven_cents.unique ha).trans (b.roundsHalfEven_cents.unique hb).symm
    exact_mod_cast hcents

theorem pointed_inj (h : pointed places m = pointed places n) : m = n := by
  have hdigits : ∀ k, (pointed places k).filter (· != '.') = Text.padded (places + 1) k := by
    intro k
    have hplain : ∀ ds : List Char, (∀ c ∈ ds, c.isDigit = true) → ds.filter (· != '.') = ds :=
      fun ds hds => List.filter_eq_self.mpr fun c hc =>
        bne_iff_ne.mpr (Text.ne_of_isDigit (hds c hc) rfl)
    have hall : ∀ c ∈ Text.padded (places + 1) k, c.isDigit = true :=
      fun c => Text.isDigit_of_mem_padded
    rw [pointed]
    split_ifs
    · exact hplain _ hall
    · rw [List.filter_append, List.filter_cons_of_neg (by decide), ← List.filter_append,
        List.take_append_drop]
      exact hplain _ hall
  exact Text.padded_inj (by rw [← hdigits m, h, hdigits n])

/-- Without a sign, which a zero may carry too, the text is the one of the hundredths. -/
theorem centsChars_of_nonneg (h : a.negative = false) : a.centsChars = pointed 2 a.cents := by
  rw [centsChars, h]
  rfl

end Decimal

end BankReconciliation
