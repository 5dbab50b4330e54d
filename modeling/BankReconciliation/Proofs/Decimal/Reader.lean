import BankReconciliation.Decimal.Reader
import BankReconciliation.Proofs.Text.Digits
import Mathlib.Data.List.TakeWhile

/-! The plain text of a decimal number is read back, down to the last of its places. -/

namespace BankReconciliation

namespace Decimal

variable {negative point seen : Bool} {m s d : Nat} {c : Char} {ds rest : List Char}

theorem readFrom?_nil : readFrom? negative point true m s [] = ofParts? negative m s := by
  rw [readFrom?, if_pos rfl]

theorem readFrom?_digit (hc : Text.digitValue? c = some d) (hm : m * 10 + d < capacity) :
    readFrom? negative false seen m s (c :: rest) =
      readFrom? negative false true (m * 10 + d) 0 rest := by
  simp [readFrom?, hc, Nat.not_le.mpr hm]

theorem readFrom?_point :
    readFrom? negative false seen m s ('.' :: rest) = readFrom? negative true seen m s rest := by
  simp [readFrom?, Text.digitValue?]

theorem readFrom?_place (hc : Text.digitValue? c = some d) (hm : m * 10 + d < capacity)
    (hs : s + 1 < 28) :
    readFrom? negative true seen m s (c :: rest) =
      readFrom? negative true true (m * 10 + d) (s + 1) rest := by
  simp [readFrom?, hc, Nat.not_le.mpr hm, Nat.not_le.mpr hs]

/-- The digit at the greatest scale makes the number full. -/
theorem readFrom?_last_place (hc : Text.digitValue? c = some d) (hm : m * 10 + d < capacity)
    (hs : s + 1 = 28) :
    readFrom? negative true seen m s [c] = ofParts? negative (m * 10 + d) (s + 1) := by
  simp [readFrom?, hc, Nat.not_le.mpr hm, hs, finish?]

theorem readFrom?_whole (hds : ∀ c ∈ ds, c.isDigit = true) (hne : ds ≠ [])
    (hm : Nat.ofDigitChars 10 ds m < capacity) :
    readFrom? negative false seen m s (ds ++ rest) =
      readFrom? negative false true (Nat.ofDigitChars 10 ds m) 0 rest := by
  induction ds generalizing m s seen with
  | nil => exact absurd rfl hne
  | cons c ds ih =>
    obtain ⟨hc, hds⟩ := List.forall_mem_cons.mp hds
    rw [Nat.ofDigitChars_cons, Nat.mul_comm] at hm ⊢
    have hgrown := Nat.lt_of_le_of_lt (Text.le_ofDigitChars ds _) hm
    rw [List.cons_append, readFrom?_digit (Text.digitValue?_of_isDigit hc) hgrown]
    by_cases hnil : ds = []
    · rw [hnil]
      rfl
    · exact ih hds hnil hm

theorem readFrom?_places (hds : ∀ c ∈ ds, c.isDigit = true)
    (hm : Nat.ofDigitChars 10 ds m < capacity) (hs : s + ds.length ≤ 28) :
    readFrom? negative true true m s ds =
      ofParts? negative (Nat.ofDigitChars 10 ds m) (s + ds.length) := by
  induction ds generalizing m s with
  | nil => exact readFrom?_nil
  | cons c ds ih =>
    obtain ⟨hc, hds⟩ := List.forall_mem_cons.mp hds
    have hvalue := Text.digitValue?_of_isDigit hc
    rw [Nat.ofDigitChars_cons, Nat.mul_comm] at hm ⊢
    rw [List.length_cons] at hs ⊢
    have hgrown := Nat.lt_of_le_of_lt (Text.le_ofDigitChars ds _) hm
    by_cases hfull : s + 1 = 28
    · obtain rfl : ds = [] := List.eq_nil_of_length_eq_zero (by omega)
      exact readFrom?_last_place hvalue hgrown hfull
    · rw [readFrom?_place hvalue hgrown (by omega), ih hds hm (by omega), Nat.add_assoc,
        Nat.add_comm 1]

/-- The digits before the point, of which there is at least one. -/
def whole (scale mantissa : Nat) : List Char :=
  (Text.padded (scale + 1) mantissa).take ((Text.padded (scale + 1) mantissa).length - scale)

def places (scale mantissa : Nat) : List Char :=
  (Text.padded (scale + 1) mantissa).drop ((Text.padded (scale + 1) mantissa).length - scale)

variable {scale mantissa : Nat}

theorem whole_append_places (scale mantissa : Nat) :
    whole scale mantissa ++ places scale mantissa = Text.padded (scale + 1) mantissa :=
  List.take_append_drop _ _

theorem isDigit_of_mem_whole (hc : c ∈ whole scale mantissa) : c.isDigit = true :=
  Text.isDigit_of_mem_padded (List.mem_of_mem_take hc)

theorem isDigit_of_mem_places (hc : c ∈ places scale mantissa) : c.isDigit = true :=
  Text.isDigit_of_mem_padded (List.mem_of_mem_drop hc)

theorem whole_ne_nil (scale mantissa : Nat) : whole scale mantissa ≠ [] := by
  have hlength := Text.le_length_padded (scale + 1) mantissa
  refine List.ne_nil_of_length_pos ?_
  rw [whole, List.length_take]
  omega

theorem length_places (scale mantissa : Nat) : (places scale mantissa).length = scale := by
  have hlength := Text.le_length_padded (scale + 1) mantissa
  rw [places, List.length_drop]
  omega

theorem pointed_eq (scale mantissa : Nat) :
    pointed scale mantissa = whole scale mantissa ++
      (if scale = 0 then [] else '.' :: places scale mantissa) := by
  rw [pointed]
  split
  · rename_i h
    subst h
    simp [whole]
  · rfl

/-- The text of a number without its sign. -/
theorem readFrom?_pointed (hm : mantissa < capacity) (hs : scale ≤ 28) :
    readFrom? negative false false 0 0 (pointed scale mantissa) =
      ofParts? negative mantissa scale := by
  have hvalue : Nat.ofDigitChars 10 (places scale mantissa)
      (Nat.ofDigitChars 10 (whole scale mantissa) 0) = mantissa := by
    rw [← Nat.ofDigitChars_append, whole_append_places]
    exact Text.digitsValue_padded (scale + 1) mantissa
  have hwhole : Nat.ofDigitChars 10 (whole scale mantissa) 0 < capacity := by
    refine Nat.lt_of_le_of_lt (Text.le_ofDigitChars (places scale mantissa) _) ?_
    rwa [hvalue]
  rw [pointed_eq, readFrom?_whole (fun _ => isDigit_of_mem_whole) (whole_ne_nil _ _) hwhole]
  split
  · rename_i hzero
    subst hzero
    have hnone : places 0 mantissa = [] := List.eq_nil_of_length_eq_zero (length_places 0 mantissa)
    rw [hnone, Nat.ofDigitChars_nil] at hvalue
    rw [readFrom?_nil, hvalue]
  · have hlength := length_places scale mantissa
    rw [readFrom?_point, readFrom?_places (fun _ => isDigit_of_mem_places) (by rwa [hvalue])
      (by omega), hvalue, hlength, Nat.zero_add]

theorem exists_pointed_eq_cons (scale mantissa : Nat) :
    ∃ c cs, pointed scale mantissa = c :: cs ∧ c.isDigit = true := by
  obtain ⟨c, cs, hcs⟩ := List.exists_cons_of_ne_nil (whole_ne_nil scale mantissa)
  have hc : c ∈ whole scale mantissa := hcs ▸ List.mem_cons_self
  exact ⟨c, _, by rw [pointed_eq, hcs]; rfl, isDigit_of_mem_whole hc⟩

theorem readPlain?_signed (hm : mantissa < capacity) (hs : scale ≤ 28) :
    readPlain? (signed negative (pointed scale mantissa)) = ofParts? negative mantissa scale := by
  cases negative with
  | true => exact readFrom?_pointed hm hs
  | false =>
    have hread : readFrom? false false false 0 0 (pointed scale mantissa) =
        ofParts? false mantissa scale := readFrom?_pointed hm hs
    obtain ⟨c, cs, hcs, hc⟩ := exists_pointed_eq_cons scale mantissa
    have hminus : c ≠ '-' := Text.ne_of_isDigit hc rfl
    have hplus : c ≠ '+' := Text.ne_of_isDigit hc rfl
    rw [signed, if_neg (by decide)]
    rw [hcs] at hread ⊢
    unfold readPlain?
    split
    · rename_i heq
      exact absurd (List.cons.inj heq).1 hminus
    · rename_i heq
      exact absurd (List.cons.inj heq).1 hplus
    · exact hread

theorem mem_pointed (hc : c ∈ pointed scale mantissa) : c = '.' ∨ c.isDigit = true := by
  rw [pointed_eq] at hc
  rcases List.mem_append.mp hc with hc | hc
  · exact .inr (isDigit_of_mem_whole hc)
  · split at hc
    · cases hc
    · exact (List.mem_cons.mp hc).imp_right isDigit_of_mem_places

theorem mem_signed (hc : c ∈ signed negative ds) : c = '-' ∨ c ∈ ds := by
  cases negative with
  | true => exact List.mem_cons.mp hc
  | false => exact .inr hc

theorem read?_eq_readPlain? (hlower : 'e' ∉ ds) (hupper : 'E' ∉ ds) : read? ds = readPlain? ds := by
  have hnone : ds.dropWhile (fun c => !isExponentMark c) = [] := by
    refine List.dropWhile_eq_nil_iff.mpr fun c hc => ?_
    have hlower : c ≠ 'e' := ne_of_mem_of_not_mem hc hlower
    have hupper : c ≠ 'E' := ne_of_mem_of_not_mem hc hupper
    simp [isExponentMark, hlower, hupper]
  rw [read?, hnone]

/-- The text of a number is read back whole: no part of it is a power of ten. -/
theorem read?_signed (hm : mantissa < capacity) (hs : scale ≤ 28) :
    read? (signed negative (pointed scale mantissa)) = ofParts? negative mantissa scale := by
  have hletter : ∀ c : Char, c.isDigit = false → c ≠ '-' → c ≠ '.' →
      c ∉ signed negative (pointed scale mantissa) := by
    intro c hc hminus hpoint hmem
    rcases mem_signed hmem with h | hmem
    · exact hminus h
    · rcases mem_pointed hmem with h | h
      · exact hpoint h
      · rw [hc] at h
        cases h
  rw [read?_eq_readPlain? (hletter _ rfl (by decide) (by decide))
    (hletter _ rfl (by decide) (by decide))]
  exact readPlain?_signed hm hs

end Decimal

end BankReconciliation
