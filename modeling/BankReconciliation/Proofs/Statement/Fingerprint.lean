import BankReconciliation.Proofs.Decimal.Rounding
import BankReconciliation.Proofs.Text.Cell
import BankReconciliation.Proofs.Time.Timestamp
import BankReconciliation.Statement.Basic

/-! What the digest of a line's content is taken over: contents that differ have different bytes,
whatever the description holds. -/

namespace BankReconciliation

open Text (Bytes)

namespace Digest

variable {m n : Nat} {bytes bytes' : Bytes}

theorem hexChar_inj (hm : m < 16) (hn : n < 16) (h : hexChar m = hexChar n) : m = n := by
  have hall : ∀ m < 16, ∀ n < 16, Nat.digitChar m = Nat.digitChar n → m = n := by decide
  exact hall m hm n hn h

theorem hex_inj (h : hex bytes = hex bytes') : bytes = bytes' := by
  induction bytes generalizing bytes' with
  | nil =>
    cases bytes' with
    | nil => rfl
    | cons b' bytes' => cases h
  | cons b bytes ih =>
    cases bytes' with
    | nil => cases h
    | cons b' bytes' =>
      simp only [hex, List.flatMap_cons, List.cons_append, List.nil_append, List.cons.injEq] at h
      obtain ⟨hupper, hlower, hrest⟩ := h
      have hlt := b.toNat_lt
      have hlt' := b'.toNat_lt
      have hupper := hexChar_inj (by omega) (by omega) hupper
      have hlower := hexChar_inj (by omega) (by omega) hlower
      have hbyte : b = b' := UInt8.toNat_inj.mp (by omega)
      rw [hbyte, ih hrest]

def Collide (bytes bytes' : Bytes) : Prop := bytes ≠ bytes' ∧ sha256 bytes = sha256 bytes'

end Digest

namespace Fingerprint

variable {t u : Instant} {a b : Decimal} {cs ds : List Char} {s s' : String}

def digested (postedAt : Instant) (amount : Decimal) (description : String) : Bytes :=
  Text.encodeUtf8 (content postedAt amount description.toList)

theorem compute_eq_iff : compute t a s = compute u b s' ↔
    digested t a s = digested u b s' ∨ Digest.Collide (digested t a s) (digested u b s') := by
  have hcompute : compute t a s = compute u b s' ↔
      Digest.sha256 (digested t a s) = Digest.sha256 (digested u b s') :=
    ⟨fun h => Digest.hex_inj (String.ofList_injective h),
      fun h => congrArg (fun bytes => String.ofList (Digest.hex bytes)) h⟩
  rw [hcompute, Digest.Collide]
  constructor
  · intro h
    by_cases hbytes : digested t a s = digested u b s'
    · exact .inl hbytes
    · exact .inr ⟨hbytes, h⟩
  · rintro (h | ⟨-, h⟩)
    · exact congrArg Digest.sha256 h
    · exact h

theorem not_mem_centsChars (h : a.negative = false) : '|' ∉ a.centsChars := by
  rw [Decimal.centsChars_of_nonneg h]
  intro hmem
  rcases Decimal.mem_pointed hmem with h | h
  · cases h
  · cases h

/-- The parts of the content are told apart at its first two bars: only the description may have
others. -/
theorem content_eq_iff (ha : a.negative = false) (hb : b.negative = false) :
    content t a cs = content u b ds ↔
      Timestamp.millisChars t = Timestamp.millisChars u ∧ a.centsChars = b.centsChars ∧
        cs.take descriptionLength = ds.take descriptionLength := by
  have htime : ∀ {t : Instant}, '|' ∉ Timestamp.millisChars t :=
    Timestamp.not_mem_millisChars rfl (by decide)
  rw [content, content, List.append_assoc, List.append_assoc, List.cons_append, List.cons_append,
    append_separator_inj htime htime,
    append_separator_inj (not_mem_centsChars ha) (not_mem_centsChars hb)]

theorem centsChars_eq_iff (ha : a.negative = false) (hb : b.negative = false) :
    a.centsChars = b.centsChars ↔
      ∃ n : ℤ, RoundsHalfEven (a.value * 100) n ∧ RoundsHalfEven (b.value * 100) n := by
  have hvalue : ∀ {a : Decimal}, a.negative = false → a.value = a.magnitude := fun {a} h => by
    rw [Decimal.value_eq_magnitude, h]
    rfl
  rw [Decimal.centsChars_of_nonneg ha, Decimal.centsChars_of_nonneg hb, hvalue ha, hvalue hb,
    ← Decimal.cents_eq_iff]
  exact ⟨Decimal.pointed_inj, fun h => by rw [h]⟩

/-- For amounts without a sign, as those of lines are, the same bytes are digested exactly if the
instants are the same to the millisecond, the amounts are rounded to the same number of hundredths,
and the descriptions begin with the same characters. -/
theorem digested_eq_iff (ha : a.negative = false) (hb : b.negative = false) :
    digested t a s = digested u b s' ↔
      t.truncated = u.truncated ∧
        (∃ n : ℤ, RoundsHalfEven (a.value * 100) n ∧ RoundsHalfEven (b.value * 100) n) ∧
          s.toList.take 80 = s'.toList.take 80 := by
  rw [digested, digested, Text.encodeUtf8_inj, content_eq_iff ha hb, Timestamp.millisChars_eq_iff,
    centsChars_eq_iff ha hb, descriptionLength]

/-- Half a hundredth is rounded to the even neighbour, and finer parts of a second do not count, nor
do further bars. -/
theorem digested_eq_iff_half :
    let day : Date := ⟨-44, 3, 15, by decide⟩
    let t : Instant := ⟨day, 59, 1500400300, by decide, by decide, by decide⟩
    let u : Instant := ⟨day, 59, 1500000000, by decide, by decide, by decide⟩
    let a : Decimal := ⟨false, 10005, 3, by decide, by decide⟩
    let b : Decimal := ⟨false, 10, 0, by decide, by decide⟩
    a.negative = false ∧ b.negative = false ∧ digested t a "Pix | A" = digested u b "Pix | A" := by
  intro day t u a b
  refine ⟨rfl, rfl, (digested_eq_iff rfl rfl).mpr ⟨by decide, ⟨1000, ?_, ?_⟩, rfl⟩⟩
  · have hvalue : a.value * 100 = 1000 + 1 / 2 := by norm_num [a, Decimal.value, Decimal.units]
    rw [hvalue]
    constructor
    · norm_num
    · exact fun _ => by decide
  · apply RoundsHalfEven.of_eq
    norm_num [b, Decimal.value, Decimal.units]

end Fingerprint

end BankReconciliation
