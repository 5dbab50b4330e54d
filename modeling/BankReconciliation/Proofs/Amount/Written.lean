import BankReconciliation.Proofs.Amount
import BankReconciliation.Proofs.Decimal.Value

/-! The ways to write an amount: its sign as a minus, as parentheses or as a mark behind it, a
currency symbol before the whole or before the figures, and white space anywhere but in the symbol.
Each of them is read back to the amount with its scale. -/

namespace BankReconciliation.Amount

def symbol : List Char := ['R', '$']

/-- The texts of an amount without white space: with no symbol, with one before the whole or with
one before the figures. -/
inductive Written (grouped : Bool) (d : Decimal) : List Char → Prop
  | bare {cs : List Char} (h : Signed d (figures grouped d) cs) : Written grouped d cs
  | beforeWhole {cs : List Char} (h : Signed d (figures grouped d) cs) :
    Written grouped d (symbol ++ cs)
  | beforeFigures {cs : List Char} (h : Signed d (symbol ++ figures grouped d) cs) :
    Written grouped d cs

/-- A text, and the same one with white space put in anywhere except inside a symbol. -/
inductive Loosened : (tight text : List Char) → Prop
  | nil : Loosened [] []
  | blank {c : Char} {cs text : List Char} (hc : Text.isBlank c = true) (h : Loosened cs text) :
    Loosened cs (c :: text)
  | symbol {cs text : List Char} (h : Loosened cs text) : Loosened (symbol ++ cs) (symbol ++ text)
  | char {c : Char} {cs text : List Char} (hc : c ≠ 'R') (h : Loosened cs text) :
    Loosened (c :: cs) (c :: text)

variable {cs ds fs bare bare' text text' : List Char} {d : Decimal} {grouped : Bool}

theorem Spaced.append (h : Spaced bare text) (h' : Spaced bare' text') :
    Spaced (bare ++ bare') (text ++ text') := by
  induction h with
  | nil => exact h'
  | blank hc _ ih => exact .blank hc ih
  | symbol _ ih => exact .symbol ih
  | char hc hblank _ ih => exact .char hc hblank ih

theorem Spaced.loosened (h : Loosened cs text) (hcs : Spaced bare cs) : Spaced bare text := by
  induction h generalizing bare with
  | nil => exact hcs
  | blank hc _ ih => exact .blank hc (ih hcs)
  | symbol _ ih =>
    cases hcs with
    | blank hc => cases hc
    | symbol hcs => exact .symbol (ih hcs)
    | char hc => exact absurd rfl hc
  | char hc _ ih =>
    cases hcs with
    | blank hblank hcs => exact .blank hblank (ih hcs)
    | symbol => exact absurd rfl hc
    | char _ hblank hcs => exact .char hc hblank (ih hcs)

theorem spaced_figures (grouped : Bool) (d : Decimal) :
    Spaced (figures grouped d) (figures grouped d) := by
  refine Spaced.self (List.all_eq_true.mpr fun c hc => ?_)
  rcases mem_figures hc with rfl | rfl | hc
  · rfl
  · rfl
  · have hletter : c ≠ 'R' := Text.ne_of_isDigit hc rfl
    simp [hletter, Text.isBlank_of_isDigit hc]

/-- The sign is shown around the text of the figures as it is around the figures. -/
theorem Signed.exists_spaced (hds : Spaced fs ds) (h : Signed d ds cs) :
    ∃ bare, Signed d fs bare ∧ Spaced bare cs := by
  have hself : ∀ c : Char, (c != 'R' && !Text.isBlank c) = true → Spaced [c] [c] := fun c hc =>
    .self (by rw [List.all_cons, hc, List.all_nil, Bool.and_self])
  cases h with
  | plain =>
    refine ⟨_, .plain, ?_⟩
    cases d.negative with
    | true => exact (hself '-' rfl).append hds
    | false => exact hds
  | parentheses h => exact ⟨_, .parentheses h, ((hself '(' rfl).append hds).append (hself ')' rfl)⟩
  | debit hc h =>
    refine ⟨_, .debit hc h, hds.append (hself _ ?_)⟩
    rcases hc with rfl | rfl <;> rfl
  | credit hc h =>
    refine ⟨_, .credit hc h, hds.append (hself _ ?_)⟩
    rcases hc with rfl | rfl <;> rfl

theorem Written.writes (h : Written grouped d cs) (htext : Loosened cs text) : Writes d text := by
  have hfigures := spaced_figures grouped d
  have hspaced : ∃ bare, Signed d (figures grouped d) bare ∧ Spaced bare cs := by
    cases h with
    | bare h => exact h.exists_spaced hfigures
    | beforeWhole h =>
      obtain ⟨bare, hsigned, hbare⟩ := h.exists_spaced hfigures
      exact ⟨bare, hsigned, .symbol hbare⟩
    | beforeFigures h => exact h.exists_spaced (.symbol hfigures)
  obtain ⟨bare, hsigned, hbare⟩ := hspaced
  exact ⟨grouped, bare, hsigned, hbare.loosened htext⟩

theorem eq_of_abs_eq {w : Decimal} (habs : w.abs = d.abs) (hunits : w.units = d.units)
    (hzero : d.isZero = false) : w = d := by
  obtain ⟨negative, mantissa, scale, _, _⟩ := d
  obtain ⟨negative', mantissa', scale', _, _⟩ := w
  simp only [Decimal.abs, Decimal.mk.injEq, true_and] at habs
  obtain ⟨rfl, rfl⟩ := habs
  simp only [Decimal.isZero, beq_eq_false_iff_ne] at hzero
  simp only [Decimal.units] at hunits
  cases negative <;> cases negative' <;> simp_all

/-- An amount that is written in any of these ways, with or without points between the thousands, is
read with the value and the scale that it has. Only the sign of a zero may be lost. -/
theorem ofString?_of_written {text : String} (h : Written grouped d cs)
    (htext : Loosened cs text.toList) :
    ∃ w, ofString? text = some w ∧ w.value = d.value ∧ w.scale = d.scale ∧
      (d.isZero = false → w = d) := by
  obtain ⟨w, hread, habs, hunits⟩ := read?_of_writes (h.writes htext)
  have hscale : w.abs.scale = d.abs.scale := congrArg Decimal.scale habs
  rw [Decimal.abs_scale, Decimal.abs_scale] at hscale
  exact ⟨w, hread, Decimal.value_eq_of_units_eq hunits hscale, hscale, eq_of_abs_eq habs hunits⟩

theorem loosened_self (h : 'R' ∉ cs) : Loosened cs cs := by
  induction cs with
  | nil => exact .nil
  | cons c cs ih =>
    obtain ⟨hc, hcs⟩ := not_or.mp (List.mem_cons.not.mp h)
    exact .char (Ne.symm hc) (ih hcs)

/-- A debit of more than a million in parentheses. -/
theorem ofString?_of_written_debit :
    ∃ w, ofString? "R$ (1.234.567,80)" = some w ∧ w.units = -123456780 ∧ w.scale = 2 := by
  let d : Decimal := ⟨true, 123456780, 2, by decide, by decide⟩
  have hbare : '(' :: figures true d ++ [')'] = "(1.234.567,80)".toList := by decide +kernel
  have hwritten : Written true d (symbol ++ "(1.234.567,80)".toList) := by
    rw [← hbare]
    exact .beforeWhole (.parentheses rfl)
  have hloosened : Loosened (symbol ++ "(1.234.567,80)".toList) "R$ (1.234.567,80)".toList :=
    .symbol (.blank rfl (loosened_self (by decide)))
  obtain ⟨w, hread, -, hscale, hself⟩ := ofString?_of_written hwritten hloosened
  exact ⟨w, hread, by rw [hself rfl]; rfl, hscale⟩

end BankReconciliation.Amount
