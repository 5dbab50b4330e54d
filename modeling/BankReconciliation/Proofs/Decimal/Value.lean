import BankReconciliation.Decimal.Basic
import Mathlib.Algebra.Order.Field.Basic
import Mathlib.Data.Rat.Lemmas
import Mathlib.Tactic.FieldSimp
import Mathlib.Tactic.NormNum
import Mathlib.Tactic.Ring

/-! Decimals as rational numbers. -/

namespace BankReconciliation.Decimal

variable {a b : Decimal}

def value (d : Decimal) : ℚ := d.units / 10 ^ d.scale

theorem value_eq_of_units_eq (hunits : a.units = b.units) (hscale : a.scale = b.scale) :
    a.value = b.value := by
  rw [value, value, hunits, hscale]

theorem value_nonneg (h : a.negative = false) : 0 ≤ a.value := by
  rw [value, units, h]
  exact div_nonneg (Int.cast_nonneg (Int.natCast_nonneg _)) (by positivity)

theorem sameValue_iff : a.sameValue b = true ↔ a.value = b.value := by
  have hpower : ∀ n : Nat, (10 : ℚ) ^ n ≠ 0 := fun n => pow_ne_zero n (by norm_num)
  rw [sameValue, beq_iff_eq, value, value, div_eq_div_iff (hpower _) (hpower _)]
  exact_mod_cast Iff.rfl

def magnitude (d : Decimal) : ℚ := d.mantissa / 10 ^ d.scale

theorem value_eq_magnitude (d : Decimal) :
    d.value = if d.negative then -d.magnitude else d.magnitude := by
  rw [value, units, magnitude]
  split <;> push_cast <;> ring

theorem magnitude_nonneg (d : Decimal) : 0 ≤ d.magnitude := by
  unfold magnitude
  positivity

theorem abs_value (d : Decimal) : |d.value| = d.magnitude := by
  rw [value_eq_magnitude]
  split_ifs <;> simp [abs_of_nonneg d.magnitude_nonneg]

theorem value_abs_neg (d : Decimal) : d.abs.neg.value = -d.magnitude := by
  rw [value_eq_magnitude]
  rfl

end BankReconciliation.Decimal
