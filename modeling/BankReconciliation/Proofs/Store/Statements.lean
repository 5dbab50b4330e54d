import BankReconciliation.Store.Statements
import Mathlib.Data.List.Nodup

/-! What the calls on the statement store do to its contents: an insertion appends, and an update
replaces one statement by another of its name. -/

namespace BankReconciliation

namespace Statement

def name (s : Statement) : String × Uuid := (s.churchId, s.id)

/-- The statement as it was when it was inserted: all that reconciling it never changes. -/
def entry (s : Statement) : Statement :=
  { s with reconciliation := .pending, updatedAt := s.createdAt }

def boundKey? (s : Statement) : Option (String × String) := s.recordId?.map (s.churchId, ·)

/-- Two statements of one church and bank that have the same content or the same reference. -/
def SharesKey (a b : Statement) : Prop :=
  a.churchId = b.churchId ∧ a.bank.id = b.bank.id ∧
    (a.hash = b.hash ∨ a.fitId ≠ "" ∧ a.fitId = b.fitId)

@[simp] theorem entry_markReconciled (s : Statement) (r : String) (t : Instant) :
    (s.markReconciled r t).entry = s.entry := rfl
@[simp] theorem entry_markUnmatched (s : Statement) (t : Instant) :
    (s.markUnmatched t).entry = s.entry := rfl
@[simp] theorem name_markReconciled (s : Statement) (r : String) (t : Instant) :
    (s.markReconciled r t).name = s.name := rfl
@[simp] theorem name_markUnmatched (s : Statement) (t : Instant) :
    (s.markUnmatched t).name = s.name := rfl
@[simp] theorem boundKey?_markReconciled (s : Statement) (r : String) (t : Instant) :
    (s.markReconciled r t).boundKey? = some (s.churchId, r) := rfl
@[simp] theorem boundKey?_markUnmatched (s : Statement) (t : Instant) :
    (s.markUnmatched t).boundKey? = none := rfl

theorem ids_eq_of_entries_eq {ss ts : List Statement} (h : ss.map entry = ts.map entry) :
    ss.map Statement.id = ts.map Statement.id := by
  have hids := congrArg (List.map Statement.id) h
  rw [List.map_map, List.map_map] at hids
  exact hids

theorem isNamed_iff {churchId : String} {id : Uuid} {s : Statement} :
    s.isNamed churchId id = true ↔ s.name = (churchId, id) := by
  simp [isNamed, name]

theorem boundKey?_of_pending {s : Statement} (h : s.reconciliation = .pending) :
    s.boundKey? = none := by
  simp [boundKey?, recordId?, h, Reconciliation.recordId?]

theorem boundKey?_eq_none_iff {s : Statement} : s.boundKey? = none ↔ s.status ≠ .reconciled := by
  cases h : s.reconciliation <;>
    simp [boundKey?, recordId?, status, h, Reconciliation.recordId?, Reconciliation.status]

theorem boundKey?_eq_some {s : Statement} {id : String} (h : s.recordId? = some id) :
    s.boundKey? = some (s.churchId, id) := by
  rw [boundKey?, h, Option.map_some]

theorem collides_iff {stored candidate : Statement} :
    stored.collides candidate = true ↔ stored.SharesKey candidate := by
  simp only [collides, SharesKey, hasFitId, Bool.and_eq_true, Bool.or_eq_true, beq_iff_eq,
    bne_iff_ne, and_assoc]
  constructor
  · rintro ⟨hc, hb, ⟨hne, hf⟩ | hh⟩
    · exact ⟨hc, hb, .inr ⟨hf ▸ hne, hf⟩⟩
    · exact ⟨hc, hb, .inl hh⟩
  · rintro ⟨hc, hb, hh | ⟨hne, hf⟩⟩
    · exact ⟨hc, hb, .inr hh⟩
    · exact ⟨hc, hb, .inl ⟨hf ▸ hne, hf⟩⟩

end Statement

namespace Store.Statements

/-- No two statements of one church and bank share their content or their reference. -/
def KeysDistinct (stored : Statements) : Prop :=
  List.Pairwise (fun a b : Statement => ¬ a.SharesKey b) stored

variable {stored stored' : Statements} {s : Statement}

/-- An insertion appends some of the candidates, in their order, and answers their ids. -/
theorem exists_added (stored : Statements) (candidates : List Statement) :
    ∃ added, List.Sublist added candidates ∧
      stored.insertMany candidates = (added.map (·.id), stored ++ added) := by
  induction candidates generalizing stored with
  | nil => exact ⟨[], .slnil, by simp [insertMany]⟩
  | cons c cs ih =>
    by_cases hc : stored.any (·.collides c) = true
    · obtain ⟨added, hsub, h⟩ := ih stored
      exact ⟨added, hsub.cons c, by rw [insertMany, if_pos hc, h]⟩
    · obtain ⟨added, hsub, h⟩ := ih (stored ++ [c])
      refine ⟨c :: added, hsub.cons_cons c, ?_⟩
      rw [insertMany, if_neg hc, h]
      simp

theorem keysDistinct_insertMany (candidates : List Statement) (h : stored.KeysDistinct) :
    (stored.insertMany candidates).2.KeysDistinct := by
  induction candidates generalizing stored with
  | nil => exact h
  | cons c cs ih =>
    by_cases hc : stored.any (·.collides c) = true
    · rw [insertMany, if_pos hc]
      exact ih h
    · have hnew : KeysDistinct (stored ++ [c]) := by
        refine List.pairwise_append.mpr ⟨h, List.pairwise_singleton _ _, ?_⟩
        intro a ha b hb hab
        rw [List.mem_singleton.mp hb] at hab
        exact hc (List.any_eq_true.mpr ⟨a, ha, Statement.collides_iff.mpr hab⟩)
      rw [insertMany, if_neg hc]
      exact ih hnew

theorem insertMany_of_keysDistinct {candidates : List Statement}
    (hstored : ∀ c ∈ candidates, ∀ s ∈ stored, ¬ s.SharesKey c)
    (hnew : KeysDistinct candidates) :
    stored.insertMany candidates = (candidates.map (·.id), stored ++ candidates) := by
  induction candidates generalizing stored with
  | nil => simp [insertMany]
  | cons c cs ih =>
    obtain ⟨hc, hcs⟩ := List.pairwise_cons.mp hnew
    have haccept : ¬ stored.any (·.collides c) = true := by
      rw [List.any_eq_true]
      rintro ⟨s, hs, hsc⟩
      exact hstored c List.mem_cons_self s hs (Statement.collides_iff.mp hsc)
    have hlater : ∀ d ∈ cs, ∀ s ∈ stored ++ [c], ¬ s.SharesKey d := by
      intro d hd s hs
      rcases List.mem_append.mp hs with hs | hs
      · exact hstored d (List.mem_cons_of_mem c hd) s hs
      · rw [List.mem_singleton.mp hs]
        exact hc d hd
    rw [insertMany, if_neg haccept, ih hlater hcs]
    simp

def taken (stored : Statements) (candidates : List Statement) : List Statement :=
  candidates.filter fun s => (stored.insertMany candidates).1.contains s.id

theorem filter_ids_of_sublist {added candidates : List Statement}
    (hsub : List.Sublist added candidates) (hids : (candidates.map (·.id)).Nodup) :
    candidates.filter (fun s => (added.map (·.id)).contains s.id) = added := by
  induction hsub with
  | slnil => rfl
  | @cons added candidates c hsub ih =>
    obtain ⟨hc, hids⟩ := List.nodup_cons.mp hids
    have hnot : c.id ∉ added.map (·.id) := fun h => hc ((hsub.map _).subset h)
    rw [List.filter_cons_of_neg (by simpa using hnot), ih hids]
  | @cons_cons added candidates c hsub ih =>
    obtain ⟨hc, hids⟩ := List.nodup_cons.mp hids
    have hrest : ∀ s ∈ candidates, ((c :: added).map (·.id)).contains s.id =
        (added.map (·.id)).contains s.id := by
      intro s hs
      have hne : s.id ≠ c.id := fun he => hc (List.mem_map.mpr ⟨s, hs, he⟩)
      simp [hne]
    rw [List.filter_cons_of_pos (by simp), List.filter_congr hrest, ih hids]

/-- Of candidates whose ids differ, those are added whose ids are answered. -/
theorem insertMany_eq_taken {candidates : List Statement}
    (hids : (candidates.map (·.id)).Nodup) :
    stored.insertMany candidates =
      ((stored.taken candidates).map (·.id), stored ++ stored.taken candidates) := by
  obtain ⟨added, hsub, h⟩ := exists_added stored candidates
  have htaken : stored.taken candidates = added := by
    rw [taken, h]
    exact filter_ids_of_sublist hsub hids
  rw [htaken, h]

theorem taken_of_keysDistinct {candidates : List Statement}
    (hstored : ∀ c ∈ candidates, ∀ s ∈ stored, ¬ s.SharesKey c)
    (hnew : KeysDistinct candidates) : stored.taken candidates = candidates := by
  rw [taken, insertMany_of_keysDistinct hstored hnew, List.filter_eq_self]
  intro c hc
  exact List.contains_iff_mem.mpr (List.mem_map_of_mem hc)

theorem keysDistinct_of_entries (he : stored'.map Statement.entry = stored.map Statement.entry)
    (h : stored.KeysDistinct) : stored'.KeysDistinct := by
  have hp : ((stored.map Statement.entry).Pairwise fun a b => ¬ a.SharesKey b) :=
    List.pairwise_map.mpr h
  rw [← he] at hp
  exact List.pairwise_map.mp hp

theorem exists_replaced (h : stored.replace? s = some stored') :
    ∃ before old after, stored = before ++ old :: after ∧ stored' = before ++ s :: after ∧
      old.name = s.name := by
  induction stored generalizing stored' with
  | nil => simp [replace?] at h
  | cons t ts ih =>
    by_cases ht : t.isNamed s.churchId s.id = true
    · rw [replace?, if_pos ht] at h
      exact ⟨[], t, ts, rfl, (Option.some.inj h).symm, Statement.isNamed_iff.mp ht⟩
    · rw [replace?, if_neg ht] at h
      obtain ⟨rest, hrest, rfl⟩ := Option.map_eq_some_iff.mp h
      obtain ⟨before, old, after, rfl, rfl, hname⟩ := ih hrest
      exact ⟨t :: before, old, after, rfl, rfl, hname⟩

theorem replace?_isSome (h : s.name ∈ stored.map Statement.name) :
    ∃ stored', stored.replace? s = some stored' := by
  induction stored with
  | nil => simp at h
  | cons t ts ih =>
    by_cases ht : t.isNamed s.churchId s.id = true
    · exact ⟨s :: ts, by rw [replace?, if_pos ht]⟩
    · have hne : s.name ≠ t.name := fun he => ht (Statement.isNamed_iff.mpr he.symm)
      obtain ⟨rest, hrest⟩ := ih ((List.mem_cons.mp h).resolve_left hne)
      exact ⟨t :: rest, by rw [replace?, if_neg ht, hrest]; rfl⟩

theorem names_replace? (h : stored.replace? s = some stored') :
    stored'.map Statement.name = stored.map Statement.name := by
  obtain ⟨before, old, after, rfl, rfl, hname⟩ := exists_replaced h
  simp [hname]

theorem entries_replace? (h : stored.replace? s = some stored')
    (hs : ∀ t ∈ stored, t.name = s.name → t.entry = s.entry) :
    stored'.map Statement.entry = stored.map Statement.entry := by
  obtain ⟨before, old, after, rfl, rfl, hname⟩ := exists_replaced h
  have hold : old.entry = s.entry := hs old (by simp) hname
  simp [hold]

/-- What was put in place is found under its name. -/
theorem find?_replace? (h : stored.replace? s = some stored') :
    stored'.find? s.churchId s.id = some s := by
  induction stored generalizing stored' with
  | nil => simp [replace?] at h
  | cons t ts ih =>
    by_cases ht : t.isNamed s.churchId s.id = true
    · rw [replace?, if_pos ht] at h
      rw [← Option.some.inj h, find?, List.find?_cons_of_pos (Statement.isNamed_iff.mpr rfl)]
    · rw [replace?, if_neg ht] at h
      obtain ⟨rest, hrest, rfl⟩ := Option.map_eq_some_iff.mp h
      rw [find?, List.find?_cons_of_neg ht]
      exact ih hrest

theorem find?_replace?_of_ne {churchId : String} {id : Uuid} (h : stored.replace? s = some stored')
    (hne : s.name ≠ (churchId, id)) : stored'.find? churchId id = stored.find? churchId id := by
  obtain ⟨before, old, after, rfl, rfl, hname⟩ := exists_replaced h
  have hs : ¬ s.isNamed churchId id = true := fun he => hne (Statement.isNamed_iff.mp he)
  have hold : ¬ old.isNamed churchId id = true := fun he =>
    hne (hname.symm.trans (Statement.isNamed_iff.mp he))
  rw [find?, find?, List.find?_append, List.find?_append, List.find?_cons_of_neg hs,
    List.find?_cons_of_neg hold]

theorem mem_replace? {t : Statement} (h : stored.replace? s = some stored') (ht : t ∈ stored') :
    t = s ∨ t ∈ stored := by
  obtain ⟨before, old, after, rfl, rfl, _⟩ := exists_replaced h
  simp only [List.mem_append, List.mem_cons] at ht ⊢
  tauto

theorem mem_replace?_of_ne {t : Statement} (h : stored.replace? s = some stored')
    (ht : t ∈ stored) (hne : t.name ≠ s.name) : t ∈ stored' := by
  obtain ⟨before, old, after, rfl, rfl, hname⟩ := exists_replaced h
  have hold : t ≠ old := fun he => hne (he ▸ hname)
  simp only [List.mem_append, List.mem_cons] at ht ⊢
  tauto

theorem self_mem_replace? (h : stored.replace? s = some stored') : s ∈ stored' := by
  obtain ⟨before, old, after, rfl, rfl, _⟩ := exists_replaced h
  simp

theorem replace?_append {before after : Statements} {old : Statement} (hname : old.name = s.name)
    (hfirst : ∀ t ∈ before, t.name ≠ s.name) :
    (before ++ old :: after).replace? s = some (before ++ s :: after) := by
  induction before with
  | nil =>
    have hold : old.isNamed s.churchId s.id = true := Statement.isNamed_iff.mpr hname
    rw [List.nil_append, replace?, if_pos hold, List.nil_append]
  | cons t ts ih =>
    have ht : ¬ t.isNamed s.churchId s.id = true := fun h =>
      hfirst t List.mem_cons_self (Statement.isNamed_iff.mp h)
    have hrest := ih fun u hu => hfirst u (List.mem_cons_of_mem t hu)
    rw [List.cons_append, replace?, if_neg ht, hrest, Option.map_some, List.cons_append]

/-- Puts a statement in the place of the stored one with its name, if there is one. -/
def put (stored : Statements) (s : Statement) : Statements := (stored.replace? s).getD stored

def putAll (stored : Statements) (statements : List Statement) : Statements :=
  statements.foldl put stored

@[simp] theorem putAll_nil (stored : Statements) : stored.putAll [] = stored := rfl
@[simp] theorem putAll_cons (stored : Statements) (s : Statement) (ss : List Statement) :
    stored.putAll (s :: ss) = (stored.put s).putAll ss := rfl

theorem replace?_eq_put (h : s.name ∈ stored.map Statement.name) :
    stored.replace? s = some (stored.put s) := by
  obtain ⟨stored', h⟩ := replace?_isSome h
  rw [put, h, Option.getD_some]

@[simp] theorem names_put (stored : Statements) (s : Statement) :
    (stored.put s).map Statement.name = stored.map Statement.name := by
  unfold put
  cases h : stored.replace? s with
  | none => rfl
  | some stored' => exact names_replace? h

@[simp] theorem names_putAll (stored : Statements) (ss : List Statement) :
    (stored.putAll ss).map Statement.name = stored.map Statement.name := by
  induction ss generalizing stored with
  | nil => rfl
  | cons s ss ih => rw [putAll_cons, ih, names_put]

theorem exists_put {t : Statement} (h : stored.find? s.churchId s.id = some t) :
    ∃ before after, stored = before ++ t :: after ∧ stored.put s = before ++ s :: after := by
  obtain ⟨ht, before, after, rfl, hbefore⟩ := List.find?_eq_some_iff_append.mp h
  have hfirst : ∀ u ∈ before, u.name ≠ s.name := by
    intro u hu he
    have hnot := hbefore u hu
    rw [Statement.isNamed_iff.mpr he] at hnot
    cases hnot
  refine ⟨before, after, rfl, ?_⟩
  rw [put, replace?_append (Statement.isNamed_iff.mp ht) hfirst, Option.getD_some]

/-- Versions of statements that no other shares its name with take their places. -/
theorem putAll_append {before old new after : Statements}
    (hnames : new.map Statement.name = old.map Statement.name)
    (hold : (old.map Statement.name).Nodup)
    (hbefore : ∀ u ∈ before, u.name ∉ old.map Statement.name) :
    (before ++ old ++ after).putAll new = before ++ new ++ after := by
  induction new generalizing before old with
  | nil =>
    rw [List.map_eq_nil_iff.mp hnames.symm, putAll_nil]
  | cons s ss ih =>
    obtain ⟨t, ts, rfl, hst, hrest⟩ := List.map_eq_cons_iff.mp hnames.symm
    obtain ⟨ht, hts⟩ := List.nodup_cons.mp hold
    have hput : (before ++ (t :: ts) ++ after).put s = (before ++ [s]) ++ ts ++ after := by
      have hfirst : ∀ u ∈ before, u.name ≠ s.name := fun u hu he =>
        hbefore u hu (List.mem_map.mpr ⟨t, List.mem_cons_self, hst.trans he.symm⟩)
      rw [put, List.append_assoc, List.cons_append, replace?_append hst hfirst, Option.getD_some]
      simp
    have hnext : ∀ u ∈ before ++ [s], u.name ∉ ts.map Statement.name := by
      intro u hu
      rcases List.mem_append.mp hu with hu | hu
      · exact fun hmem => hbefore u hu (List.mem_cons_of_mem _ hmem)
      · rw [List.mem_singleton.mp hu, ← hst]
        exact ht
    rw [putAll_cons, hput, ih hrest.symm hts hnext]
    simp

end Store.Statements

end BankReconciliation
