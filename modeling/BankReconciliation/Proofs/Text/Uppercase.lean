import BankReconciliation.Text.NormalForm
import Mathlib.Data.List.Dedup
import Mathlib.Tactic.Common

/-! What upper-casing gives: characters that have no other upper case and are no white space, and no
accented letter of the list unless it was given one. The tables are compared run by run. -/

namespace BankReconciliation.Text

namespace CaseRun

variable {r q : CaseRun} {code target : Nat}

/-- No image of the first run is a code point of the second: where the two overlap, the second goes
in twos and the images are of the other parity. -/
def spares (r q : CaseRun) : Bool :=
  bif q.first.ble (r.target + (r.last - r.first)) then
    bif r.target.ble q.last then
      (r.step == 2 || r.first == r.last) && q.step == 2 && (r.target + q.first) % 2 == 1
    else true
  else true

def single (code : Nat) : CaseRun := ⟨code, code, 1, code⟩

theorem upper?_eq_some_iff : r.upper? code = some target ↔
    (r.first ≤ code ∧ code ≤ r.last ∧ (code - r.first) % r.step = 0) ∧
      r.target + (code - r.first) = target := by
  rw [upper?]
  split_ifs with h <;> simp [h]

theorem upper?_eq_none_iff : r.upper? code = none ↔
    ¬ (r.first ≤ code ∧ code ≤ r.last ∧ (code - r.first) % r.step = 0) := by
  rw [upper?]
  split_ifs with h <;> simp [h]

theorem upper?_single_eq_none_iff : (single code).upper? target = none ↔ target ≠ code := by
  simp only [upper?_eq_none_iff, single, Nat.mod_one, and_true]
  omega

theorem upper?_single (code : Nat) : (single code).upper? code = some code := by
  simp [upper?_eq_some_iff, single]

theorem upper?_eq_none_of_spares (h : r.spares q = true) (htarget : r.upper? code = some target) :
    q.upper? target = none := by
  obtain ⟨⟨hfirst, hlast, hstep⟩, rfl⟩ := upper?_eq_some_iff.mp htarget
  rw [upper?_eq_none_iff]
  rintro ⟨hfirst', hlast', hstep'⟩
  have hstart : q.first.ble (r.target + (r.last - r.first)) = true := Nat.ble_eq.mpr (by omega)
  have hend : r.target.ble q.last = true := Nat.ble_eq.mpr (by omega)
  simp only [spares, hstart, hend, cond_true, Bool.and_eq_true, Bool.or_eq_true, beq_iff_eq] at h
  obtain ⟨⟨hr, hq⟩, hparity⟩ := h
  rw [hq] at hstep'
  rcases hr with hr | hr
  · rw [hr] at hstep
    omega
  · omega

end CaseRun

open CaseRun (single)

/-- The code points that upper-casing gives together with others, each as a run. -/
def expanded : List CaseRun := (caseExpansions.flatMap Prod.snd).dedup.map single

def cased : List CaseRun := caseRuns ++ caseExpansions.map fun e => single e.1

def accentCodes : List Nat := accents.map fun a => a.1.toNat

variable {code target : Nat} {targets : List Nat} {r q : CaseRun}

theorem spares_cased (hr : r ∈ caseRuns ++ expanded)
    (hq : q ∈ cased ++ blankCodes.map single) : r.spares q = true := by
  have hall : ((caseRuns ++ expanded).all fun r => caseRuns.all r.spares &&
      caseExpansions.all (fun e => r.spares (single e.1)) &&
        blankCodes.all fun b => r.spares (single b)) = true := by
    decide +kernel
  have hcheck := List.all_eq_true.mp hall r hr
  simp only [Bool.and_eq_true, List.all_eq_true] at hcheck
  obtain ⟨⟨hruns, hexpansions⟩, hblanks⟩ := hcheck
  simp only [cased, List.mem_append, List.mem_map] at hq
  rcases hq with (hq | ⟨e, he, rfl⟩) | ⟨b, hb, rfl⟩
  · exact hruns q hq
  · exact hexpansions e he
  · exact hblanks b hb

theorem spares_accent_of_expanded (hr : r ∈ expanded) (ha : target ∈ accentCodes) :
    r.spares (single target) = true := by
  have hall : (expanded.all fun r => accentCodes.all fun a => r.spares (single a)) = true := by
    decide +kernel
  exact List.all_eq_true.mp (List.all_eq_true.mp hall r hr) target ha

theorem accent_of_run (hr : r ∈ caseRuns) (h : r.upper? code = some target)
    (ha : target ∈ accentCodes) : code ∈ accentCodes := by
  have hall : (caseRuns.all fun r => accentCodes.all fun a =>
      r.spares (single a) || accentCodes.contains (r.first + (a - r.target))) = true := by
    decide +kernel
  have hcheck := List.all_eq_true.mp (List.all_eq_true.mp hall r hr) target ha
  simp only [Bool.or_eq_true, List.contains_iff_mem] at hcheck
  rcases hcheck with hspares | hmem
  · have hnone := CaseRun.upper?_eq_none_of_spares hspares h
    exact absurd rfl (CaseRun.upper?_single_eq_none_iff.mp hnone)
  · obtain ⟨⟨hfirst, -, -⟩, htarget⟩ := CaseRun.upper?_eq_some_iff.mp h
    have hcode : r.first + (target - r.target) = code := by omega
    rwa [hcode] at hmem

theorem isValidChar_of_upper? (hr : r ∈ caseRuns ++ expanded) (h : r.upper? code = some target) :
    target.isValidChar := by
  have hall : ∀ r ∈ caseRuns ++ expanded, r.target + (r.last - r.first) < 0xD800 ∨
      (0xDFFF < r.target ∧ r.target + (r.last - r.first) < 0x110000) := by
    decide +kernel
  obtain ⟨⟨hfirst, hlast, -⟩, rfl⟩ := CaseRun.upper?_eq_some_iff.mp h
  have hends := hall r hr
  rw [Nat.isValidChar]
  omega

theorem upperCodes_eq_self (h : ∀ q ∈ cased, q.upper? code = none) :
    upperCodes code = [code] := by
  have hruns : caseRuns.findSome? (·.upper? code) = none :=
    List.findSome?_eq_none_iff.mpr fun r hr => h r (List.mem_append_left _ hr)
  have hexpansions : caseExpansions.lookup code = none := by
    rw [List.lookup_eq_none_iff]
    intro e he
    have hsingle := h (single e.1) (List.mem_append_right _ (List.mem_map_of_mem he))
    simpa using CaseRun.upper?_single_eq_none_iff.mp hsingle
  rw [upperCodes, hruns, hexpansions, Option.getD_none]

/-- The upper case of a code point is the code point, its image in a run, or an expansion. -/
theorem upperCodes_cases (code : Nat) : upperCodes code = [code] ∨
    (∃ r ∈ caseRuns, ∃ target, r.upper? code = some target ∧ upperCodes code = [target]) ∨
      upperCodes code ≠ [] ∧ ∀ target ∈ upperCodes code, single target ∈ expanded := by
  cases hruns : caseRuns.findSome? (·.upper? code) with
  | some target =>
    obtain ⟨r, hr, htarget⟩ := List.exists_of_findSome?_eq_some hruns
    refine .inr (.inl ⟨r, hr, target, htarget, ?_⟩)
    rw [upperCodes, hruns]
  | none =>
    cases hexpansions : caseExpansions.lookup code with
    | none =>
      left
      rw [upperCodes, hruns, hexpansions, Option.getD_none]
    | some targets =>
      have hcodes : upperCodes code = targets := by
        rw [upperCodes, hruns, hexpansions, Option.getD_some]
      obtain ⟨before, after, he, -⟩ := List.lookup_eq_some_iff.mp hexpansions
      have hmem : (code, targets) ∈ caseExpansions := by simp [he]
      have hfull : ∀ e ∈ caseExpansions, e.2 ≠ [] := by decide +kernel
      refine .inr (.inr ⟨hcodes ▸ hfull _ hmem, fun target htarget => ?_⟩)
      rw [hcodes] at htarget
      exact List.mem_map_of_mem (List.mem_dedup.mpr (List.mem_flatMap_of_mem hmem htarget))

/-- A code point out of upper-casing another: it stays as it is, and it is accented only if the
other one is. -/
structure Settled (code target : Nat) : Prop where
  upperCodes_eq : upperCodes target = [target]
  not_blank : target ∉ blankCodes
  isValidChar : target.isValidChar
  accent : target ∈ accentCodes → code ∈ accentCodes

theorem settled_of_upper? {c : Nat} (hr : r ∈ caseRuns ++ expanded) (h : r.upper? c = some target)
    (haccent : target ∈ accentCodes → code ∈ accentCodes) : Settled code target where
  upperCodes_eq := upperCodes_eq_self fun _ hq =>
    CaseRun.upper?_eq_none_of_spares (spares_cased hr (List.mem_append_left _ hq)) h
  not_blank hblank := by
    have hspares := spares_cased hr (List.mem_append_right _ (List.mem_map_of_mem hblank))
    have hnone := CaseRun.upper?_eq_none_of_spares hspares h
    exact CaseRun.upper?_single_eq_none_iff.mp hnone rfl
  isValidChar := isValidChar_of_upper? hr h
  accent := haccent

theorem settled_upperCodes (code : Nat) : upperCodes code = [code] ∨
    upperCodes code ≠ [] ∧ ∀ target ∈ upperCodes code, Settled code target := by
  rcases upperCodes_cases code with hself | ⟨r, hr, target, htarget, hcodes⟩ | ⟨hne, hall⟩
  · exact .inl hself
  · refine .inr ⟨by simp [hcodes], fun t ht => ?_⟩
    rw [hcodes, List.mem_singleton] at ht
    subst ht
    exact settled_of_upper? (List.mem_append_left _ hr) htarget (accent_of_run hr htarget)
  · refine .inr ⟨hne, fun target htarget => ?_⟩
    have hsingle := CaseRun.upper?_single target
    refine settled_of_upper? (List.mem_append_right _ (hall target htarget)) hsingle fun ha => ?_
    have hspares := spares_accent_of_expanded (hall target htarget) ha
    have hnone := CaseRun.upper?_eq_none_of_spares hspares hsingle
    exact absurd rfl (CaseRun.upper?_single_eq_none_iff.mp hnone)

variable {c d : Char}

theorem upperChar_eq_self (h : upperCodes c.toNat = [c.toNat]) : upperChar c = [c] := by
  simp [upperChar, h]

def IsAccented (c : Char) : Prop := c ∈ accents.map Prod.fst

instance (c : Char) : Decidable (IsAccented c) := by unfold IsAccented; infer_instance

theorem mem_accentCodes_iff : c.toNat ∈ accentCodes ↔ IsAccented c := by
  simp [accentCodes, IsAccented, Char.toNat_inj]

/-- A character has no upper case but itself, or its upper case consists of characters that stay as
they are. -/
theorem upperChar_cases (c : Char) : upperChar c = [c] ∨
    upperChar c ≠ [] ∧ ∀ d ∈ upperChar c, upperChar d = [d] ∧ isBlank d = false ∧
      (IsAccented d → IsAccented c) := by
  by_cases hsmall : c.toNat < 0x61
  · exact .inl (if_pos hsmall)
  · rcases settled_upperCodes c.toNat with hself | ⟨hne, hall⟩
    · exact .inl (upperChar_eq_self hself)
    · right
      rw [upperChar, if_neg hsmall]
      refine ⟨by simpa using hne, ?_⟩
      simp only [List.mem_map, forall_exists_index, and_imp]
      rintro d target htarget rfl
      obtain ⟨hcodes, hblank, hvalid, haccent⟩ := hall target htarget
      have hcode : (Char.ofNat target).toNat = target := by
        rw [Char.ofNat, dif_pos hvalid]
        rfl
      refine ⟨upperChar_eq_self ?_, ?_, ?_⟩
      · rw [hcode, hcodes]
      · simpa [isBlank, hcode] using hblank
      · rwa [← mem_accentCodes_iff, ← mem_accentCodes_iff, hcode]

theorem upperChar_of_mem_upperChar (h : d ∈ upperChar c) : upperChar d = [d] := by
  rcases upperChar_cases c with hself | ⟨-, hall⟩
  · rw [hself, List.mem_singleton] at h
    rw [h, hself]
  · exact (hall d h).1

theorem upperChar_ne_nil (c : Char) : upperChar c ≠ [] := by
  rcases upperChar_cases c with hself | ⟨hne, -⟩
  · simp [hself]
  · exact hne

theorem upperChar_of_isBlank (h : isBlank c = true) : upperChar c = [c] := by
  have hall : ∀ code ∈ blankCodes, upperCodes code = [code] := by decide +kernel
  exact upperChar_eq_self (hall c.toNat (by simpa [isBlank] using h))

theorem isBlank_of_mem_upperChar (hc : isBlank c = false) (h : d ∈ upperChar c) :
    isBlank d = false := by
  rcases upperChar_cases c with hself | ⟨-, hall⟩
  · rw [hself, List.mem_singleton] at h
    rwa [h]
  · exact (hall d h).2.1

theorem isAccented_of_mem_upperChar (h : d ∈ upperChar c) (hd : IsAccented d) : IsAccented c := by
  rcases upperChar_cases c with hself | ⟨-, hall⟩
  · rw [hself, List.mem_singleton] at h
    rwa [← h]
  · exact (hall d h).2.2 hd

end BankReconciliation.Text
