import Mathlib.Tactic.Common

/-! Parts that are put together with a separator between them. -/

namespace BankReconciliation

theorem filter_intercalate {α : Type} (p : α → Bool) (sep : List α) (parts : List (List α)) :
    (sep.intercalate parts).filter p = (sep.filter p).intercalate (parts.map (List.filter p)) := by
  induction parts with
  | nil => rfl
  | cons part rest ih =>
    cases rest with
    | nil => simp
    | cons next rest =>
      rw [List.intercalate_cons_cons, List.filter_append, List.filter_append, ih]
      simp

theorem mem_intercalate {α : Type} {a : α} {sep : List α} {parts : List (List α)}
    (h : a ∈ sep.intercalate parts) : a ∈ sep ∨ ∃ part ∈ parts, a ∈ part := by
  induction parts with
  | nil => cases h
  | cons part rest ih =>
    cases rest with
    | nil => exact .inr ⟨part, by simp, by simpa using h⟩
    | cons next rest =>
      rw [List.intercalate_cons_cons, List.mem_append, List.mem_append] at h
      rcases h with (h | h) | h
      · exact .inr ⟨part, List.mem_cons_self, h⟩
      · exact .inl h
      · exact (ih h).imp_right fun ⟨p, hp, ha⟩ => ⟨p, List.mem_cons_of_mem _ hp, ha⟩

theorem mem_intercalate_of_mem {α : Type} {a : α} {sep : List α} {parts : List (List α)}
    (h : a ∈ parts.flatten) : a ∈ sep.intercalate parts := by
  induction parts with
  | nil => exact h
  | cons part rest ih =>
    cases rest with
    | nil => simpa using h
    | cons next rest =>
      rw [List.intercalate_cons_cons, List.append_assoc, List.mem_append]
      rcases List.mem_append.mp (List.flatten_cons ▸ h) with h | h
      · exact .inl h
      · exact .inr (List.mem_append_right _ (ih h))

theorem intercalate_head {α : Type} (sep : List α) (a : α) (part : List α) (parts : List (List α)) :
    sep.intercalate ((a :: part) :: parts) = a :: sep.intercalate (part :: parts) := by
  cases parts with
  | nil => simp
  | cons next rest => simp [List.intercalate_cons_cons]

theorem nil_intercalate {α : Type} (parts : List (List α)) :
    ([] : List α).intercalate parts = parts.flatten := by
  induction parts with
  | nil => rfl
  | cons part rest ih =>
    cases rest with
    | nil => simp
    | cons next rest =>
      rw [List.intercalate_cons_cons, ih]
      simp

/-- Texts that are put together with a separator are told apart at the first one. -/
theorem append_separator_inj {α : Type} {sep : α} {xs ys as bs : List α} (hxs : sep ∉ xs)
    (hys : sep ∉ ys) : xs ++ sep :: as = ys ++ sep :: bs ↔ xs = ys ∧ as = bs := by
  constructor
  · intro h
    induction xs generalizing ys with
    | nil =>
      cases ys with
      | nil => exact ⟨rfl, (List.cons.inj h).2⟩
      | cons y ys => exact absurd ((List.cons.inj h).1 ▸ List.mem_cons_self) hys
    | cons x xs ih =>
      cases ys with
      | nil => exact absurd ((List.cons.inj h).1 ▸ List.mem_cons_self) hxs
      | cons y ys =>
        obtain ⟨rfl, hrest⟩ := List.cons.inj h
        have hparts := ih (fun hmem => hxs (List.mem_cons_of_mem _ hmem))
          (fun hmem => hys (List.mem_cons_of_mem _ hmem)) hrest
        rw [hparts.1]
        exact ⟨rfl, hparts.2⟩
  · rintro ⟨rfl, rfl⟩
    rfl

theorem append_last_separator_inj {α : Type} {sep : α} {xs ys as bs : List α} (has : sep ∉ as)
    (hbs : sep ∉ bs) : xs ++ sep :: as = ys ++ sep :: bs ↔ xs = ys ∧ as = bs := by
  have hreversed : as.reverse ++ sep :: xs.reverse = bs.reverse ++ sep :: ys.reverse ↔
      as.reverse = bs.reverse ∧ xs.reverse = ys.reverse :=
    append_separator_inj (List.mem_reverse.not.mpr has) (List.mem_reverse.not.mpr hbs)
  rw [List.reverse_inj, List.reverse_inj, and_comm] at hreversed
  rw [← hreversed, ← List.reverse_inj]
  simp

theorem not_mem_of_mem_splitOn {sep : Char} {cs part : List Char} (h : part ∈ cs.splitOn sep) :
    sep ∉ part := by
  rw [List.splitOn_eq_splitOnP] at h
  induction cs generalizing part with
  | nil =>
    rw [List.splitOnP_nil, List.mem_singleton] at h
    simp [h]
  | cons c cs ih =>
    rw [List.splitOnP_cons_eq_if_modifyHead] at h
    split_ifs at h with hsep
    · rcases List.mem_cons.mp h with rfl | h
      · simp
      · exact ih h
    · cases hparts : cs.splitOnP (· == sep) with
      | nil => exact absurd hparts (List.splitOnP_ne_nil _ _)
      | cons first parts =>
        rw [hparts] at ih h
        rw [List.modifyHead_cons, List.mem_cons] at h
        rcases h with rfl | h
        · have hfirst : sep ∉ first := ih List.mem_cons_self
          simp only [beq_iff_eq] at hsep
          simp [Ne.symm hsep, hfirst]
        · exact ih (List.mem_cons_of_mem _ h)

end BankReconciliation
