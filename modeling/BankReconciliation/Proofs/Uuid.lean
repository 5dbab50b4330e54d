import BankReconciliation.Uuid
import Mathlib.Data.List.Basic

/-! An identifier is read back from its written form. -/

namespace BankReconciliation.Uuid

theorem hexValue?_digitChar {d : Nat} (h : d < 16) : Text.hexValue? (Nat.digitChar d) = some d := by
  have hall : ∀ d : Fin 16, Text.hexValue? (Nat.digitChar d) = some d.val := by decide
  exact hall ⟨d, h⟩

@[simp] theorem length_hexDigits (width n : Nat) : (hexDigits width n).length = width := by
  induction width generalizing n with
  | zero => rfl
  | succ k ih => rw [hexDigits, List.length_append, ih, List.length_singleton]

theorem hexDigits_add (k width n : Nat) :
    hexDigits (k + width) n = hexDigits k (n / 16 ^ width) ++ hexDigits width n := by
  induction width generalizing n with
  | zero => simp [hexDigits]
  | succ width ih =>
    rw [← Nat.add_assoc, hexDigits, ih, hexDigits, Nat.div_div_eq_div_mul, ← Nat.pow_succ',
      List.append_assoc]

/-- Reading the last digits of a number gives the number without what stands before them. -/
theorem readHex?_hexDigits (width n : Nat) :
    readHex? (hexDigits width n) = some (n % 16 ^ width) := by
  induction width generalizing n with
  | zero => simp [readHex?, hexDigits, Nat.mod_one]
  | succ k ih =>
    have hdigit : Text.hexValue? (Nat.digitChar (n % 16)) = some (n % 16) :=
      hexValue?_digitChar (Nat.mod_lt _ (by decide))
    have hlow : n / 16 % 16 ^ k * 16 + n % 16 = n % 16 ^ (k + 1) := by
      rw [Nat.pow_succ', Nat.mod_mul, Nat.add_comm, Nat.mul_comm]
    have hread := ih (n / 16)
    rw [readHex?] at hread ⊢
    rw [hexDigits, List.foldlM_append, hread]
    simp [hdigit, hlow]

theorem dropHyphens?_groups {a b c d e : List Char} (ha : a.length = 8) (hb : b.length = 4)
    (hc : c.length = 4) (hd : d.length = 4) (he : e.length = 12) :
    dropHyphens? (a ++ '-' :: b ++ '-' :: c ++ '-' :: d ++ '-' :: e) =
      some (a ++ b ++ c ++ d ++ e) := by
  have hlength : (a ++ '-' :: b ++ '-' :: c ++ '-' :: d ++ '-' :: e).length = 36 := by
    simp [ha, hb, hc, hd, he]
  rw [dropHyphens?, if_pos]
  · simp [List.drop_append, List.drop_eq_nil_of_le, ha, hb, hc, hd]
  · refine ⟨hlength, ?_, ?_, ?_, ?_⟩ <;> simp [List.getElem?_append, ha, hb, hc, hd]

theorem dropHyphens?_toChars (u : Uuid) : dropHyphens? u.toChars = some (hexDigits 32 u.value) := by
  have hdigits : hexDigits 32 u.value = hexDigits 8 (u.value / twoTo 96) ++
      hexDigits 4 (u.value / twoTo 80) ++ hexDigits 4 (u.value / twoTo 64) ++
      hexDigits 4 (u.value / twoTo 48) ++ hexDigits 12 u.value := by
    rw [hexDigits_add 20 12, hexDigits_add 16 4, hexDigits_add 12 4, hexDigits_add 8 4]
    simp only [Nat.div_div_eq_div_mul]
  rw [toChars, dropHyphens?_groups (length_hexDigits _ _) (length_hexDigits _ _)
    (length_hexDigits _ _) (length_hexDigits _ _) (length_hexDigits _ _), hdigits]

theorem ofString?_render (u : Uuid) : ofString? u.render = some u := by
  have hlength : u.toChars.length = 36 := by simp [toChars]
  have hvalue : u.value % 16 ^ 32 = u.value := Nat.mod_eq_of_lt u.value_lt
  have hdigits : digits? u.toChars = some (hexDigits 32 u.value) := by
    rw [digits?, hlength, if_neg (by decide), if_neg (by simp), if_neg (by simp),
      dropHyphens?_toChars]
  have hread : readHex? (hexDigits 32 u.value) = some u.value := by
    rw [readHex?_hexDigits, hvalue]
  rw [ofString?, render, String.toList_ofList, read?, hdigits]
  simp [hread, u.value_lt]

theorem render_ne_empty (u : Uuid) : u.render ≠ "" := by
  intro h
  have hread := ofString?_render u
  have hnone : ofString? "" = none := by decide
  rw [h, hnone] at hread
  cases hread

end BankReconciliation.Uuid
