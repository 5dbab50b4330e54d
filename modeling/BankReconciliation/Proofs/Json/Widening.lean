import BankReconciliation.Proofs.Json.Reading
import Mathlib.Data.List.Nodup

/-! Objects with members in another order and with members that nothing asks for. What is looked up
in them is what was looked up before, also after they have been printed and read again. -/

namespace BankReconciliation

namespace Members

variable {α : Type} {n name : String} {v value : α} {m entries : Members α}

theorem lookup_cons_eq_ite :
    List.lookup n ((name, value) :: m) = if n = name then some value else m.lookup n := by
  rw [List.lookup_cons]
  by_cases h : n = name
  · rw [if_pos h, beq_iff_eq.mpr h]
  · rw [if_neg h, beq_eq_false_iff_ne.mpr h]

theorem lookup_set :
    (m.set name value).lookup n = if n = name then some value else m.lookup n := by
  induction m with
  | nil => exact lookup_cons_eq_ite
  | cons e m ih =>
    obtain ⟨k, w⟩ := e
    rw [set]
    by_cases hlt : name < k
    · rw [if_pos hlt, lookup_cons_eq_ite]
    rw [if_neg hlt]
    by_cases heq : name = k
    · subst heq
      rw [if_pos rfl, lookup_cons_eq_ite, lookup_cons_eq_ite]
      split_ifs <;> rfl
    · rw [if_neg heq, lookup_cons_eq_ite, lookup_cons_eq_ite, ih]
      split_ifs with hn hn'
      · exact absurd (hn'.symm.trans hn) heq
      · rfl
      · rfl
      · rfl

theorem ofList_snoc (e : String × α) : ofList (entries ++ [e]) = (ofList entries).set e.1 e.2 := by
  rw [ofList, List.foldl_append]
  rfl

theorem lookup_ofList : (ofList entries).lookup n = entries.reverse.lookup n := by
  induction entries using List.reverseRecOn with
  | nil => rfl
  | append_singleton entries e ih =>
    rw [ofList_snoc, lookup_set, ih, List.reverse_append, List.reverse_singleton,
      List.singleton_append, lookup_cons_eq_ite]

/-- A name with one value is looked up as that value, wherever its entry stands. -/
theorem lookup_eq_some (hmem : (n, v) ∈ entries) (hone : ∀ w, (n, w) ∈ entries → w = v) :
    entries.lookup n = some v := by
  induction entries with
  | nil => cases hmem
  | cons e entries ih =>
    obtain ⟨k, w⟩ := e
    rw [lookup_cons_eq_ite]
    by_cases h : n = k
    · subst h
      rw [if_pos rfl, hone w List.mem_cons_self]
    · have htail : (n, v) ∈ entries := by
        rcases List.mem_cons.mp hmem with heq | htail
        · exact absurd (Prod.mk.inj heq).1 h
        · exact htail
      rw [if_neg h]
      exact ih htail fun w hw => hone w (List.mem_cons_of_mem _ hw)

theorem lookup_ofList_eq_some (hmem : (n, v) ∈ entries) (hone : ∀ w, (n, w) ∈ entries → w = v) :
    (ofList entries).lookup n = some v := by
  rw [lookup_ofList]
  exact lookup_eq_some (List.mem_reverse.mpr hmem) fun w hw => hone w (List.mem_reverse.mp hw)

theorem mem_of_mem_set {e : String × α} (h : e ∈ m.set name value) : e = (name, value) ∨ e ∈ m := by
  induction m with
  | nil => exact .inl (List.mem_singleton.mp h)
  | cons d m ih =>
    obtain ⟨k, w⟩ := d
    rw [set] at h
    split_ifs at h
    · exact List.mem_cons.mp h
    · exact (List.mem_cons.mp h).imp_right (List.mem_cons_of_mem _)
    · rcases List.mem_cons.mp h with rfl | h
      · exact .inr List.mem_cons_self
      · exact (ih h).imp_right (List.mem_cons_of_mem _)

theorem mem_of_mem_ofList {e : String × α} (h : e ∈ ofList entries) : e ∈ entries := by
  induction entries using List.reverseRecOn with
  | nil => exact h
  | append_singleton entries d ih =>
    rw [ofList_snoc] at h
    rcases mem_of_mem_set h with rfl | h
    · simp
    · exact List.mem_append_left _ (ih h)

theorem mem_of_lookup (h : entries.lookup n = some v) : (n, v) ∈ entries := by
  obtain ⟨before, after, rfl, -⟩ := List.lookup_eq_some_iff.mp h
  simp

theorem eq_of_nodup (h : (entries.map Prod.fst).Nodup) (hv : (n, v) ∈ entries)
    (hw : (n, value) ∈ entries) : value = v :=
  (Prod.mk.inj (List.inj_on_of_nodup_map h hw hv rfl)).2

theorem lookup_ofList_of_nodup (h : (entries.map Prod.fst).Nodup) (hmem : (n, v) ∈ entries) :
    (ofList entries).lookup n = some v :=
  lookup_ofList_eq_some hmem fun _ hw => eq_of_nodup h hmem hw

end Members

namespace Json

/-- A value with its members in any order and other members among them. The values of the members
are widened too. -/
inductive Widens : Json → Json → Prop
  | null : Widens .null .null
  | int (n : Int) : Widens (.int n) (.int n)
  | str (s : String) : Widens (.str s) (.str s)
  | obj {known unknown written : Members Json} (wide : String → Json)
    (hwide : ∀ e ∈ known, Widens e.2 (wide e.1))
    (hunknown : ∀ e ∈ unknown, ∀ e' ∈ known, e.1 ≠ e'.1)
    (hwritten : written.Perm ((known.map fun e => (e.1, wide e.1)) ++ unknown)) :
    Widens (.obj known) (.obj written)

/-- The members of the first value are looked up in the second, and so are theirs. -/
inductive Carries : Json → Json → Prop
  | null : Carries .null .null
  | int (n : Int) : Carries (.int n) (.int n)
  | str (s : String) : Carries (.str s) (.str s)
  | obj {known written : Members Json} (wide : String → Json)
    (hwide : ∀ e ∈ known, Carries e.2 (wide e.1))
    (hlookup : ∀ e ∈ known, written.lookup e.1 = some (wide e.1)) :
    Carries (.obj known) (.obj written)

variable {a j : Json} {entries known unknown written : Members Json} {wide : String → Json}

/-- A known name stands for one value. -/
theorem mem_written_iff (hunknown : ∀ e ∈ unknown, ∀ e' ∈ known, e.1 ≠ e'.1)
    (hwritten : written.Perm ((known.map fun e => (e.1, wide e.1)) ++ unknown))
    {e : String × Json} (he : e ∈ known) {w : Json} : (e.1, w) ∈ written ↔ w = wide e.1 := by
  rw [hwritten.mem_iff, List.mem_append, List.mem_map]
  constructor
  · rintro (⟨e', -, heq⟩ | hmem)
    · obtain ⟨hname, rfl⟩ := Prod.mk.inj heq
      rw [hname]
    · exact absurd rfl (hunknown _ hmem e he)
  · rintro rfl
    exact .inl ⟨e, he, rfl⟩

theorem Widens.carries (h : Widens a j) : Carries a j := by
  induction h with
  | null => exact .null
  | int n => exact .int n
  | str s => exact .str s
  | obj wide _ hunknown hwritten ih =>
    refine .obj wide ih fun e he => ?_
    have hmem := fun w => mem_written_iff hunknown hwritten he (w := w)
    exact Members.lookup_eq_some ((hmem _).mpr rfl) fun w => (hmem w).mp

/-- The members are still there when the text of the value has been read. -/
theorem Widens.carries_reread (h : Widens a j) : Carries a j.reread := by
  induction h with
  | null =>
    rw [reread]
    exact .null
  | int n =>
    rw [reread]
    exact .int n
  | str s =>
    rw [reread]
    exact .str s
  | obj wide _ hunknown hwritten ih =>
    rw [reread]
    refine .obj (fun name => reread (wide name)) ih fun e he => ?_
    have hmem := fun w => mem_written_iff hunknown hwritten he (w := w)
    refine Members.lookup_ofList_eq_some ?_ ?_
    · exact List.mem_map.mpr ⟨_, (hmem _).mpr rfl, rfl⟩
    · intro w hw
      obtain ⟨⟨name, w'⟩, hw', heq⟩ := List.mem_map.mp hw
      obtain ⟨rfl, rfl⟩ := Prod.mk.inj heq
      rw [(hmem w').mp hw']

/-- An object with different names is one of its own widened forms. -/
theorem widens_ofMembers (hnames : (entries.map Prod.fst).Nodup)
    (h : ∀ e ∈ entries, Widens e.2 e.2) : Widens (ofMembers entries) (ofMembers entries) := by
  have hlookup : ∀ e ∈ Members.ofList entries, (Members.ofList entries).lookup e.1 = some e.2 :=
    fun e he => Members.lookup_ofList_of_nodup hnames (Members.mem_of_mem_ofList he)
  have hself : (Members.ofList entries).map (fun e =>
      (e.1, ((Members.ofList entries).lookup e.1).getD .null)) = Members.ofList entries := by
    refine (List.map_congr_left fun e he => ?_).trans (List.map_id _)
    rw [hlookup e he]
    rfl
  refine @Widens.obj _ [] _ (fun name => ((Members.ofList entries).lookup name).getD .null) ?_
    (List.forall_mem_nil _) ?_
  · intro e he
    rw [hlookup e he]
    exact h e (Members.mem_of_mem_ofList he)
  · rw [List.append_nil, hself]

theorem legible_ofMembers {depth : Nat} (h : ∀ e ∈ entries, Legible depth e.2) :
    Legible (depth + 1) (ofMembers entries) :=
  .obj fun e he => h e (Members.mem_of_mem_ofList he)

theorem Carries.lookup (hnames : (entries.map Prod.fst).Nodup) (h : Carries (ofMembers entries) j) :
    ∃ members, j = .obj members ∧
      ∀ e ∈ entries, ∃ w, members.lookup e.1 = some w ∧ Carries e.2 w := by
  cases h with
  | @obj _ written wide hwide hlookup =>
    refine ⟨written, rfl, fun e he => ?_⟩
    have hmem : e ∈ Members.ofList entries :=
      Members.mem_of_lookup (Members.lookup_ofList_of_nodup hnames he)
    exact ⟨wide e.1, hlookup e hmem, hwide e hmem⟩

end Json

end BankReconciliation
