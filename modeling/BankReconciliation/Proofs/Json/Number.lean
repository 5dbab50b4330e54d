import BankReconciliation.Json.Printer
import BankReconciliation.Json.Reader
import BankReconciliation.Proofs.Except
import BankReconciliation.Proofs.Text.Digits
import Mathlib.Data.List.Induction
import Mathlib.Data.List.TakeWhile

/-! Numbers in JSON text. A number that is read where a text ends is read in the same way in front
of other text that does not go on with it, and a whole number of 64 bits is read back from its
digits. -/

namespace BankReconciliation.Json

variable {negative isZero : Bool} {cs rest rest' : List Char} {j : Json} {n : Nat}
  {s : Significand}

/-- A text that does not go on with a number in front of it. -/
def Stops (rest : List Char) : Prop :=
  ∀ c ∈ rest.head?, c.isDigit = false ∧ c ≠ '.' ∧ isPowerMark c = false

theorem stops_nil : Stops [] := fun _ h => by cases h

theorem stops_cons {c : Char} (hdigit : c.isDigit = false) (hpoint : c ≠ '.')
    (hmark : isPowerMark c = false) : Stops (c :: rest) := by
  intro d hd
  obtain rfl := Option.some.inj hd
  exact ⟨hdigit, hpoint, hmark⟩

theorem takeWhile_append_stops (h : Stops rest) :
    (cs ++ rest).takeWhile Char.isDigit = cs.takeWhile Char.isDigit := by
  induction cs with
  | nil =>
    cases rest with
    | nil => rfl
    | cons c rest => exact List.takeWhile_cons_of_neg (by simp [(h c rfl).1])
  | cons c cs ih =>
    rw [List.cons_append, List.takeWhile_cons, List.takeWhile_cons, ih]

theorem dropWhile_append_stops (h : Stops rest) :
    (cs ++ rest).dropWhile Char.isDigit = cs.dropWhile Char.isDigit ++ rest := by
  induction cs with
  | nil =>
    cases rest with
    | nil => rfl
    | cons c rest => exact List.dropWhile_cons_of_neg (by simp [(h c rfl).1])
  | cons c cs ih =>
    rw [List.cons_append, List.dropWhile_cons, List.dropWhile_cons]
    split
    · exact ih
    · rfl

theorem afterOverflow?_append (h : Stops rest) :
    afterOverflow? n (cs ++ rest) = (afterOverflow? n cs).map (· ++ rest) := by
  induction cs generalizing n with
  | nil =>
    cases rest with
    | nil => rfl
    | cons c rest => simp [afterOverflow?, Text.digitValue?, (h c rfl).1]
  | cons c cs ih =>
    rw [List.cons_append, afterOverflow?, afterOverflow?]
    split
    · rfl
    · split
      · rfl
      · exact ih

def powerDigits (isZero : Bool) (sign : Int) (cs : List Char) : Attempt (Option Int × List Char) :=
  match cs with
  | [] => failAt .endInValue []
  | c :: _ =>
    if c.isDigit then
      match afterOverflow? 0 cs with
      | none =>
        .ok (some (sign * Text.digitsValue (cs.takeWhile Char.isDigit)), cs.dropWhile Char.isDigit)
      | some after =>
        if isZero || sign == -1 then .ok (none, cs.dropWhile Char.isDigit)
        else failAt .numberOutOfRange after
    else failPeek .invalidNumber cs

theorem power_plus : power isZero ('+' :: cs) = powerDigits isZero 1 cs := rfl

theorem power_minus : power isZero ('-' :: cs) = powerDigits isZero (-1) cs := rfl

theorem power_unsigned {c : Char} (hplus : c ≠ '+') (hminus : c ≠ '-') :
    power isZero (c :: cs) = powerDigits isZero 1 (c :: cs) := by
  unfold power
  split
  rename_i heq
  split at heq
  · simp_all
  · simp_all
  · obtain ⟨rfl, rfl⟩ := Prod.mk.inj heq
    rfl

theorem powerDigits_append {sign : Int} {p : Option Int} (h : Stops rest)
    (hread : powerDigits isZero sign cs = .ok (p, rest')) :
    powerDigits isZero sign (cs ++ rest) = .ok (p, rest' ++ rest) := by
  cases cs with
  | nil => cases hread
  | cons c cs =>
    rw [powerDigits] at hread
    rw [List.cons_append, powerDigits, ← List.cons_append, afterOverflow?_append h,
      takeWhile_append_stops h, dropWhile_append_stops h]
    cases hafter : afterOverflow? 0 (c :: cs) with
    | none =>
      rw [hafter] at hread
      dsimp only [Option.map_none] at hread ⊢
      split_ifs at hread ⊢
      · obtain ⟨rfl, rfl⟩ := Prod.mk.inj (Except.ok.inj hread)
        rfl
      · cases hread
    | some after =>
      rw [hafter] at hread
      dsimp only [Option.map_some] at hread ⊢
      split_ifs at hread ⊢
      · obtain ⟨rfl, rfl⟩ := Prod.mk.inj (Except.ok.inj hread)
        rfl
      · cases hread
      · cases hread

theorem power_append {p : Option Int} (h : Stops rest) (hread : power isZero cs = .ok (p, rest')) :
    power isZero (cs ++ rest) = .ok (p, rest' ++ rest) := by
  cases cs with
  | nil => cases hread
  | cons c cs =>
    by_cases hplus : c = '+'
    · subst hplus
      rw [power_plus] at hread
      rw [List.cons_append, power_plus]
      exact powerDigits_append h hread
    by_cases hminus : c = '-'
    · subst hminus
      rw [power_minus] at hread
      rw [List.cons_append, power_minus]
      exact powerDigits_append h hread
    · rw [power_unsigned hplus hminus] at hread
      rw [List.cons_append, power_unsigned hplus hminus]
      exact powerDigits_append h hread

theorem fraction_append {power : Int} (hread : fraction negative s power cs = .ok (j, rest')) :
    fraction negative s power (cs ++ rest) = .ok (j, rest' ++ rest) := by
  unfold fraction at hread ⊢
  split at hread
  · obtain ⟨rfl, rfl⟩ := Prod.mk.inj (Except.ok.inj hread)
    rfl
  · cases hread

theorem afterPlaces_of_stops (h : Stops rest) :
    afterPlaces negative s rest = fraction negative s 0 rest := by
  cases rest with
  | nil => rfl
  | cons c rest => rw [afterPlaces, (h c rfl).2.2, if_neg Bool.false_ne_true]

theorem afterPlaces_append (h : Stops rest) (hread : afterPlaces negative s cs = .ok (j, rest')) :
    afterPlaces negative s (cs ++ rest) = .ok (j, rest' ++ rest) := by
  cases cs with
  | nil =>
    rw [List.nil_append, afterPlaces_of_stops h]
    rw [afterPlaces] at hread
    rw [← List.nil_append rest]
    exact fraction_append hread
  | cons c cs =>
    rw [afterPlaces] at hread
    rw [List.cons_append, afterPlaces]
    split_ifs at hread ⊢
    · obtain ⟨⟨p, after⟩, hpower, hread⟩ := Except.bind_eq_ok_iff.mp hread
      refine Except.bind_eq_ok_iff.mpr ⟨_, power_append h hpower, ?_⟩
      cases p with
      | some p => exact fraction_append hread
      | none =>
        obtain ⟨rfl, rfl⟩ := Prod.mk.inj (Except.ok.inj hread)
        rfl
    · rw [← List.cons_append]
      exact fraction_append hread

/-- What stands behind the digits of a number without a point and without a power of ten. -/
def wholeEnd (negative : Bool) (s : Significand) (cs : List Char) : Attempt (Json × List Char) :=
  if s.power ≠ 0 then fraction negative s 0 cs
  else match wholeNumber? negative s.digits with
    | some j => .ok (j, cs)
    | none => failAt .numberOutOfRange cs

def significand (whole : List Char) : Significand :=
  (digitValues whole).foldl Significand.addWhole {}

theorem afterWhole_nil {whole : List Char} :
    afterWhole negative whole [] = wholeEnd negative (significand whole) [] := rfl

theorem afterWhole_point {whole : List Char} (hplaces : cs.takeWhile Char.isDigit ≠ []) :
    afterWhole negative whole ('.' :: cs) =
      afterPlaces negative ((significand whole).addPlaces (digitValues (cs.takeWhile Char.isDigit)))
        (cs.dropWhile Char.isDigit) := by
  rw [afterWhole]
  exact if_neg hplaces

theorem places_ne_nil {whole : List Char}
    (hread : afterWhole negative whole ('.' :: cs) = .ok (j, rest)) :
    cs.takeWhile Char.isDigit ≠ [] := by
  intro hplaces
  rw [afterWhole] at hread
  rw [if_pos hplaces] at hread
  split at hread <;> cases hread

theorem afterWhole_cons {whole : List Char} {c : Char} (hpoint : c ≠ '.') :
    afterWhole negative whole (c :: cs) =
      if isPowerMark c then afterPlaces negative (significand whole) (c :: cs)
      else wholeEnd negative (significand whole) (c :: cs) := by
  unfold afterWhole
  dsimp only
  split
  · rename_i heq
    exact absurd (List.cons.inj heq).1 hpoint
  · rename_i heq
    obtain ⟨rfl, rfl⟩ := List.cons.inj heq
    rfl
  · rename_i heq
    cases heq

theorem afterWhole_of_stops {whole : List Char} (h : Stops rest) :
    afterWhole negative whole rest = wholeEnd negative (significand whole) rest := by
  cases rest with
  | nil => rfl
  | cons c rest =>
    obtain ⟨-, hpoint, hmark⟩ := h c rfl
    rw [afterWhole_cons hpoint, hmark, if_neg Bool.false_ne_true]

theorem wholeEnd_append (hread : wholeEnd negative s cs = .ok (j, rest')) :
    wholeEnd negative s (cs ++ rest) = .ok (j, rest' ++ rest) := by
  unfold wholeEnd at hread ⊢
  split_ifs at hread ⊢
  · exact fraction_append hread
  · split at hread
    · obtain ⟨rfl, rfl⟩ := Prod.mk.inj (Except.ok.inj hread)
      rfl
    · cases hread

theorem afterWhole_append {whole : List Char} (h : Stops rest)
    (hread : afterWhole negative whole cs = .ok (j, rest')) :
    afterWhole negative whole (cs ++ rest) = .ok (j, rest' ++ rest) := by
  cases cs with
  | nil =>
    rw [List.nil_append, afterWhole_of_stops h]
    exact wholeEnd_append hread
  | cons c cs =>
    by_cases hpoint : c = '.'
    · subst hpoint
      have hplaces := places_ne_nil hread
      rw [afterWhole_point hplaces] at hread
      rw [List.cons_append, afterWhole_point (by rwa [takeWhile_append_stops h]),
        takeWhile_append_stops h, dropWhile_append_stops h]
      exact afterPlaces_append h hread
    · rw [afterWhole_cons hpoint] at hread
      rw [List.cons_append, afterWhole_cons hpoint]
      split_ifs at hread ⊢
      · exact afterPlaces_append h hread
      · exact wholeEnd_append hread

theorem exists_digit_of_number (hread : number negative cs = .ok (j, rest)) :
    ∃ c cs', cs = c :: cs' ∧ c.isDigit = true := by
  cases cs with
  | nil => cases hread
  | cons c cs =>
    refine ⟨c, cs, rfl, ?_⟩
    unfold number at hread
    split at hread
    · rename_i heq
      cases heq
    · rename_i heq
      obtain ⟨rfl, -⟩ := List.cons.inj heq
      rfl
    · rename_i heq
      obtain ⟨rfl, rfl⟩ := List.cons.inj heq
      by_contra hdigit
      rw [if_neg hdigit] at hread
      cases hread

theorem number_zero (h : ∀ c ∈ cs.head?, c.isDigit = false) :
    number negative ('0' :: cs) = afterWhole negative ['0'] cs := by
  have hhead : (cs.head?.map Char.isDigit).getD false = false := by
    cases cs with
    | nil => rfl
    | cons c cs => exact h c rfl
  rw [number, hhead, if_neg Bool.false_ne_true]

theorem number_digit {c : Char} (hc : c.isDigit = true) (hzero : c ≠ '0') :
    number negative (c :: cs) = afterWhole negative ((c :: cs).takeWhile Char.isDigit)
      ((c :: cs).dropWhile Char.isDigit) := by
  unfold number
  split
  · rename_i heq
    cases heq
  · rename_i heq
    exact absurd (List.cons.inj heq).1 hzero
  · rename_i heq
    obtain ⟨rfl, rfl⟩ := List.cons.inj heq
    rw [if_pos hc]

/-- A number is read in front of a text that does not go on with it as it is read alone. -/
theorem number_append (h : Stops rest) (hread : number negative cs = .ok (j, rest')) :
    number negative (cs ++ rest) = .ok (j, rest' ++ rest) := by
  obtain ⟨c, cs, rfl, hc⟩ := exists_digit_of_number hread
  by_cases hzero : c = '0'
  · subst hzero
    have hhead : ∀ c ∈ cs.head?, c.isDigit = false := by
      intro c hc
      by_contra hdigit
      rw [number, hc] at hread
      rw [Bool.not_eq_false] at hdigit
      simp [hdigit, failPeek] at hread
    have hhead' : ∀ c ∈ (cs ++ rest).head?, c.isDigit = false := by
      cases cs with
      | nil => exact fun c hc => (h c hc).1
      | cons d cs => exact hhead
    rw [number_zero hhead] at hread
    rw [List.cons_append, number_zero hhead']
    exact afterWhole_append h hread
  · rw [number_digit hc hzero] at hread
    rw [List.cons_append, number_digit hc hzero, ← List.cons_append, takeWhile_append_stops h,
      dropWhile_append_stops h]
    exact afterWhole_append h hread

theorem significand_of_lt (hcs : ∀ c ∈ cs, c.isDigit = true)
    (hlt : Text.digitsValue cs < twoTo 64) : significand cs = ⟨Text.digitsValue cs, 0⟩ := by
  induction cs using List.reverseRecOn with
  | nil => rfl
  | append_singleton cs c ih =>
    obtain ⟨hcs, hc⟩ := List.forall_mem_append.mp hcs
    have hvalue : Text.digitsValue (cs ++ [c]) =
        Text.digitsValue cs * 10 + (c.toNat - '0'.toNat) := by
      rw [Text.digitsValue, Nat.ofDigitChars_append, Nat.ofDigitChars_cons, Nat.ofDigitChars_nil,
        Nat.mul_comm]
      rfl
    rw [hvalue] at hlt ⊢
    have hfits : significand cs = ⟨Text.digitsValue cs, 0⟩ := ih hcs (by omega)
    have hstep : significand (cs ++ [c]) = (significand cs).addWhole (c.toNat - '0'.toNat) := by
      simp [significand, digitValues]
    rw [hstep, hfits, Significand.addWhole, if_pos ⟨rfl, hlt⟩]

theorem head?_digits_ne (hn : 0 < n) : (Text.digits n).head? ≠ some '0' := by
  induction n using Nat.strongRecOn with
  | ind n ih =>
    rw [Text.digits, Nat.toDigits_eq_if (by decide)]
    split
    · rename_i hsmall
      have hdigit : ∀ d : Fin 10, 0 < d.val → d.val.digitChar ≠ '0' := by decide
      simpa using hdigit ⟨n, hsmall⟩ hn
    · have hne : Nat.toDigits 10 (n / 10) ≠ [] := Nat.toDigits_ne_nil
      rw [List.head?_append_of_ne_nil _ hne]
      exact ih (n / 10) (by omega) (by omega)

theorem number_digits (hlt : n < twoTo 64) :
    number negative (Text.digits n) = wholeEnd negative ⟨n, 0⟩ [] := by
  have hdigits : ∀ c ∈ Text.digits n, c.isDigit = true := fun _ => Text.isDigit_of_mem_digits
  have hsignificand : significand (Text.digits n) = ⟨n, 0⟩ := by
    rw [significand_of_lt hdigits (by rwa [Text.digitsValue_digits]), Text.digitsValue_digits]
  rcases Nat.eq_zero_or_pos n with rfl | hn
  · exact (number_zero (fun _ h => by cases h)).trans afterWhole_nil
  · have hhead := head?_digits_ne hn
    obtain ⟨c, cs, hcs⟩ := List.exists_cons_of_ne_nil (Nat.toDigits_ne_nil (b := 10) (n := n))
    have hcs : Text.digits n = c :: cs := hcs
    rw [hcs] at hdigits hhead hsignificand ⊢
    have hzero : c ≠ '0' := fun h => hhead (congrArg some h)
    rw [number_digit (hdigits c List.mem_cons_self) hzero, List.takeWhile_eq_self_iff.mpr hdigits,
      List.dropWhile_eq_nil_iff.mpr hdigits, afterWhole_nil, hsignificand]

theorem number_natural (hlt : n < twoTo 64) :
    number false (Text.digits n) = .ok (.int n, []) := by
  rw [number_digits hlt]
  rfl

theorem number_opposite (hpos : 0 < n) (hle : n ≤ twoTo 63) :
    number true (Text.digits n) = .ok (.int (-n), []) := by
  have hlt : twoTo 63 < twoTo 64 := by decide
  have hrange : ¬(n = 0 ∨ twoTo 63 < n) := by omega
  rw [number_digits (Nat.lt_of_le_of_lt hle hlt), wholeEnd, wholeNumber?]
  simp [hrange]

end BankReconciliation.Json
