import BankReconciliation.Proofs.Interleaving.Knowledge
import BankReconciliation.Proofs.Interleaving.Serving

/-! No two stored statements share a key, whatever operations run side by side. An insertion checks
the keys of what it adds, and an update is a later version of the statement in whose place it is
put, since every identifier is held in one place only. -/

namespace BankReconciliation

variable {m m' : Memory} {g g' : Nat → Standing} {gi : Standing} {i : Nat}

/-- No identifier was given out twice. -/
def Memory.IdsFresh (m : Memory) : Prop :=
  ∀ a < m.issued, ∀ b < m.issued, m.supply a = m.supply b → a = b

instance (m : Memory) : Decidable m.IdsFresh := by unfold Memory.IdsFresh; infer_instance

/-- The identifiers that the store holds, and those that an operation has drawn and not used yet. -/
def heldIds (m : Memory) (g : Nat → Standing) : Option Nat → List Uuid
  | none => m.statements.map (·.id)
  | some i => (g i).drawn

/-- Identifiers that were given out are held once, and in one place. -/
structure HeldApart (m : Memory) (held : Option Nat → List Uuid) : Prop where
  nodup : ∀ o, (held o).Nodup
  disjoint : ∀ o o', o ≠ o' → List.Disjoint (held o) (held o')
  issued : ∀ o id, id ∈ held o → ∃ n < m.issued, m.supply n = id

namespace HeldApart

variable {held held' : Option Nat → List Uuid} {o o' : Option Nat} {l : List Uuid}

theorem sublist (h : HeldApart m held) (hsub : ∀ o, List.Sublist (held' o) (held o)) :
    HeldApart m held' where
  nodup o := (h.nodup o).sublist (hsub o)
  disjoint o o' ho _ hid hid' := h.disjoint o o' ho ((hsub o).subset hid) ((hsub o').subset hid')
  issued o _ hid := h.issued o _ ((hsub o).subset hid)

theorem mono (h : HeldApart m held) (hs : m'.supply = m.supply) (hi : m.issued ≤ m'.issued) :
    HeldApart m' held where
  nodup := h.nodup
  disjoint := h.disjoint
  issued o id hid := by
    obtain ⟨n, hn, hid⟩ := h.issued o id hid
    exact ⟨n, Nat.lt_of_lt_of_le hn hi, by rw [hs, hid]⟩

theorem add (ids : List Uuid) (h : HeldApart m held) (hl : l.Perm (ids ++ held o))
    (hnodup : ids.Nodup) (hnew : ∀ p, List.Disjoint ids (held p))
    (hissued : ∀ id ∈ ids, ∃ n < m.issued, m.supply n = id) :
    HeldApart m (Function.update held o l) := by
  have hmem : ∀ p, ∀ id ∈ Function.update held o l p, p = o ∧ id ∈ ids ∨ id ∈ held p := by
    intro p id hid
    by_cases hp : p = o
    · subst hp
      rw [Function.update_self] at hid
      exact (List.mem_append.mp (hl.subset hid)).imp_left fun hid => ⟨rfl, hid⟩
    · rw [Function.update_of_ne hp] at hid
      exact .inr hid
  refine ⟨?_, ?_, ?_⟩
  · intro p
    by_cases hp : p = o
    · subst hp
      rw [Function.update_self, hl.nodup_iff]
      exact List.Nodup.append hnodup (h.nodup p) (hnew p)
    · rw [Function.update_of_ne hp]
      exact h.nodup p
  · intro p q hpq id hid hid'
    rcases hmem p id hid with ⟨hp, hin⟩ | hin
    · rcases hmem q id hid' with ⟨hq, -⟩ | hin'
      · exact hpq (hp.trans hq.symm)
      · exact hnew q hin hin'
    · rcases hmem q id hid' with ⟨-, hin'⟩ | hin'
      · exact hnew p hin' hin
      · exact h.disjoint p q hpq hin hin'
  · intro p id hid
    rcases hmem p id hid with ⟨-, hid⟩ | hid
    · exact hissued id hid
    · exact h.issued p id hid

theorem draw (h : HeldApart m held) (hf : Memory.IdsFresh { m with issued := m.issued + 1 }) :
    HeldApart { m with issued := m.issued + 1 }
      (Function.update held o (m.supply m.issued :: held o)) := by
  have h' : HeldApart { m with issued := m.issued + 1 } held := h.mono rfl (Nat.le_succ _)
  refine h'.add [m.supply m.issued] (.refl _) (List.nodup_singleton _) ?_ ?_
  · intro p
    refine List.singleton_disjoint.mpr fun hp => ?_
    obtain ⟨n, hn, hid⟩ := h.issued p _ hp
    have hsame : n = m.issued := hf n (Nat.lt_succ_of_lt hn) m.issued (Nat.lt_succ_self _) hid
    omega
  · intro id hid
    exact ⟨m.issued, Nat.lt_succ_self _, (List.mem_singleton.mp hid).symm⟩

theorem move {ids : List Uuid} (h : HeldApart m held) (ho : o' ≠ o)
    (hids : List.Sublist ids (held o).reverse) :
    HeldApart m (Function.update (Function.update held o []) o' (held o' ++ ids)) := by
  have hfrom : ∀ id ∈ ids, id ∈ held o := fun id hid => List.mem_reverse.mp (hids.subset hid)
  have hforget : ∀ p, List.Sublist (Function.update held o [] p) (held p) := by
    intro p
    by_cases hp : p = o
    · subst hp
      rw [Function.update_self]
      exact List.nil_sublist _
    · rw [Function.update_of_ne hp]
  refine (h.sublist hforget).add ids ?_ ?_ ?_ ?_
  · rw [Function.update_of_ne ho]
    exact List.perm_append_comm
  · exact (List.nodup_reverse.mpr (h.nodup o)).sublist hids
  · intro p id hid hid'
    by_cases hp : p = o
    · subst hp
      rw [Function.update_self] at hid'
      cases hid'
    · rw [Function.update_of_ne hp] at hid'
      exact h.disjoint o p (Ne.symm hp) (hfrom id hid) hid'
  · intro id hid
    exact h.issued o id (hfrom id hid)

end HeldApart

theorem heldIds_of_update (hs : m'.statements.map Statement.id = m.statements.map Statement.id)
    (hd : gi.drawn = (g i).drawn) : heldIds m' (Function.update g i gi) = heldIds m g := by
  funext o
  cases o with
  | none => exact hs
  | some j =>
    by_cases hj : j = i
    · subst hj
      rw [heldIds, Function.update_self]
      exact hd
    · rw [heldIds, Function.update_of_ne hj]
      rfl

/-- What keeps the keys of the stored statements apart. -/
structure Filed (m : Memory) (g : Nat → Standing) : Prop where
  keys : m.statements.KeysDistinct
  held : HeldApart m (heldIds m g)
  informed : ∀ i, (g i).Informed Statement.entry m

namespace Filed

theorem entries_replace? {s : Statement} {statements : List Statement} (h : Filed m g)
    (hs : s.entry ∈ m.statements.map Statement.entry)
    (hrep : m.statements.replace? s = some statements) :
    statements.map Statement.entry = m.statements.map Statement.entry := by
  refine Store.Statements.entries_replace? hrep ?_
  intro t ht hname
  obtain ⟨u, hu, hentry⟩ := List.mem_map.mp hs
  have hut : u = t := by
    refine List.inj_on_of_nodup_map (h.held.nodup none) hu ht ?_
    exact (congrArg Statement.id hentry).trans (congrArg Prod.snd hname).symm
  rw [← hut, hentry]

theorem update (h : Filed m g)
    (hs : m'.statements.map Statement.entry = m.statements.map Statement.entry)
    (hsupply : m'.supply = m.supply) (hissued : m'.issued = m.issued)
    (hd : gi.drawn = (g i).drawn) (hi : gi.Informed Statement.entry m') :
    Filed m' (Function.update g i gi) where
  keys := Store.Statements.keysDistinct_of_entries hs h.keys
  held := by
    rw [heldIds_of_update (Statement.ids_eq_of_entries_eq hs) hd]
    exact h.held.mono hsupply (Nat.le_of_eq hissued.symm)
  informed := informed_update (hs ▸ List.Subset.refl _) h.informed hi

theorem candidates_apart {candidates : List Statement} (h : Filed m g)
    (hids : candidates.map (·.id) = (g i).drawn.reverse) :
    ∀ s ∈ candidates, ∀ t ∈ candidates, s.id = t.id → s = t := by
  have hnodup : (candidates.map (·.id)).Nodup := by
    rw [hids]
    exact List.nodup_reverse.mpr (h.held.nodup (some i))
  exact fun s hs t ht hid => List.inj_on_of_nodup_map hnodup hs ht hid

theorem draw (h : Filed m g) (hf : Memory.IdsFresh { m with issued := m.issued + 1 }) :
    Filed { m with issued := m.issued + 1 }
      (Function.update g i { g i with drawn := m.supply m.issued :: (g i).drawn }) where
  keys := h.keys
  held := by
    have hheld := h.held.draw (o := some i) hf
    refine hheld.sublist ?_
    rintro (_ | j)
    · exact List.Sublist.refl _
    · by_cases hj : j = i
      · subst hj
        rw [Function.update_self, heldIds, Function.update_self]
        exact List.Sublist.refl _
      · rw [Function.update_of_ne (by simpa using hj), heldIds, Function.update_of_ne hj]
        exact List.Sublist.refl _
  informed := by
    have hinformed : ∀ j, (g j).Informed Statement.entry { m with issued := m.issued + 1 } :=
      fun j => (h.informed j).mono (List.Subset.refl _)
    exact informed_update (List.Subset.refl _) hinformed
      ⟨(hinformed i).known, (hinformed i).chosen⟩

theorem insert {candidates added : List Statement} (h : Filed m g)
    (hids : candidates.map (·.id) = (g i).drawn.reverse) (hd : gi.drawn = [])
    (hsub : List.Sublist added candidates)
    (hadd : m.statements.insertMany candidates = (added.map (·.id), m.statements ++ added))
    (hi : gi.Informed Statement.entry { m with statements := m.statements ++ added }) :
    Filed { m with statements := m.statements ++ added } (Function.update g i gi) where
  keys := by
    have hkeys := Store.Statements.keysDistinct_insertMany candidates h.keys
    rw [hadd] at hkeys
    exact hkeys
  held := by
    have hmoved : List.Sublist (added.map (·.id)) (heldIds m g (some i)).reverse := by
      rw [heldIds, ← hids]
      exact hsub.map _
    have hne : none ≠ some i := (Option.some_ne_none i).symm
    have hheld : HeldApart { m with statements := m.statements ++ added } _ :=
      (h.held.move hne hmoved).mono rfl (Nat.le_refl _)
    refine hheld.sublist ?_
    rintro (_ | j)
    · rw [Function.update_self, heldIds, heldIds, List.map_append]
    · rw [Function.update_of_ne (Option.some_ne_none j)]
      by_cases hj : j = i
      · subst hj
        have hnone : heldIds { m with statements := m.statements ++ added }
            (Function.update g j gi) (some j) = [] := by
          rw [heldIds, Function.update_self, hd]
        rw [hnone]
        exact List.nil_sublist _
      · rw [heldIds, Function.update_of_ne hj, Function.update_of_ne (by simpa using hj)]
        exact List.Sublist.refl _
  informed := by
    refine informed_update ?_ h.informed hi
    rw [List.map_append]
    exact List.subset_append_left _ _

theorem turn (h : Filed m g) (he : Effect m (g i) m' gi) (hf : m'.IdsFresh) :
    Filed m' (Function.update g i gi) := by
  have hinformed : m.statements.map Statement.entry ⊆ m'.statements.map Statement.entry →
      gi.Informed Statement.entry m' := by
    intro hsub
    refine (h.informed i).turn he hsub ?_
    intro candidates _ hids _ s hs t ht hid
    rw [h.candidates_apart hids s hs t ht hid]
  cases he with
  | quiet hm _ =>
    have hs : m'.statements.map Statement.entry = m.statements.map Statement.entry := by
      rw [hm.statements]
    exact h.update hs hm.supply hm.issued rfl (hinformed fun _ he => hs.symm ▸ he)
  | draw => exact h.draw hf
  | insert _ _ hids _ hsub hadd =>
    refine h.insert hids rfl hsub hadd (hinformed ?_)
    rw [List.map_append]
    exact List.subset_append_left _ _
  | choose hm _ _ _ =>
    have hs : m'.statements.map Statement.entry = m.statements.map Statement.entry := by
      rw [hm.statements]
    exact h.update hs hm.supply hm.issued rfl (hinformed fun _ he => hs.symm ▸ he)
  | @bind s r t statements hg hrep =>
    have hentry := (h.informed i).chosen s _ hg
    rw [← Statement.entry_markReconciled s r.id t] at hentry
    have hs := h.entries_replace? hentry hrep
    exact h.update hs rfl rfl rfl (hinformed fun _ he => hs.symm ▸ he)
  | @unbind s t statements hg hrep =>
    have hentry := (h.informed i).chosen s _ hg
    rw [← Statement.entry_markUnmatched s t] at hentry
    have hs := h.entries_replace? hentry hrep
    exact h.update hs rfl rfl rfl (hinformed fun _ he => hs.symm ▸ he)
  | lose _ => exact h.update rfl rfl rfl rfl (hinformed (List.Subset.refl _))
  | announce _ => exact h.update rfl rfl rfl rfl (hinformed (List.Subset.refl _))

theorem advance (h : Filed m g) (ha : Advance m g m' g') (hf : m'.IdsFresh) : Filed m' g' := by
  cases ha with
  | @start i byHand hi =>
    refine h.update rfl rfl rfl ?_ .empty
    rw [hi]
  | turn he => exact h.turn he hf
  | addRecord _ =>
    refine ⟨h.keys, h.held.mono rfl (Nat.le_refl _), ?_⟩
    exact fun i => (h.informed i).mono (List.Subset.refl _)
  | surroundings hm =>
    refine ⟨hm.statements ▸ h.keys, ?_, fun i => (h.informed i).mono ?_⟩
    · have hheld : heldIds m' g = heldIds m g := by
        funext o
        cases o with
        | none => rw [heldIds, heldIds, hm.statements]
        | some i => rfl
      rw [hheld]
      exact h.held.mono hm.supply (Nat.le_of_eq hm.issued.symm)
    · rw [hm.statements]
      exact List.Subset.refl _

end Filed

theorem Advance.idsFresh (ha : Advance m g m' g') (hf : m'.IdsFresh) : m.IdsFresh := by
  obtain ⟨hsupply, hissued⟩ : m'.supply = m.supply ∧ m.issued ≤ m'.issued := by
    cases ha with
    | turn he =>
      cases he with
      | quiet hm _ => exact ⟨hm.supply, Nat.le_of_eq hm.issued.symm⟩
      | choose hm _ _ _ => exact ⟨hm.supply, Nat.le_of_eq hm.issued.symm⟩
      | draw => exact ⟨rfl, Nat.le_succ _⟩
      | _ => exact ⟨rfl, Nat.le_refl _⟩
    | surroundings hm => exact ⟨hm.supply, Nat.le_of_eq hm.issued.symm⟩
    | _ => exact ⟨rfl, Nat.le_refl _⟩
  intro a ha b hb hab
  refine hf a (Nat.lt_of_lt_of_le ha hissued) b (Nat.lt_of_lt_of_le hb hissued) ?_
  rw [hsupply]
  exact hab

namespace Filed

theorem of_empty (h : m.statements = []) : Filed m fun _ => {} := by
  have hheld : ∀ o, heldIds m (fun _ => {}) o = [] := by
    rintro (_ | i)
    · rw [heldIds, h]
      rfl
    · rfl
  refine ⟨h ▸ List.Pairwise.nil, ⟨?_, ?_, ?_⟩, fun _ => .empty⟩
  · intro o
    rw [hheld]
    exact List.nodup_nil
  · intro o o' _
    rw [hheld]
    exact List.disjoint_nil_left _
  · intro o id hid
    rw [hheld] at hid
    cases hid

end Filed

namespace System

variable {setup : ImportSetup} {admits : System → Service.Request → Prop} {S₀ S : System}

/-- From an empty store on, no two stored statements of a church and bank have the same content or
the same reference, whatever operations run side by side. -/
theorem keysDistinct_of_reaches (hunused : S₀.Unused) (hempty : S₀.memory.statements = [])
    (h : Reaches setup admits S₀ S) (hfresh : S.memory.IdsFresh) :
    Store.Statements.KeysDistinct S.memory.statements := by
  have hstep : ∀ (S S' : System) (g g' : Nat → Standing), Orderly S g → Orderly S' g' →
      Step setup admits S S' → Advance S.memory g S'.memory g' →
      (S.memory.IdsFresh → Filed S.memory g) → S'.memory.IdsFresh → Filed S'.memory g' :=
    fun _ _ _ _ _ _ _ ha hfiled hf => (hfiled (ha.idsFresh hf)).advance ha hf
  obtain ⟨g, -, hg⟩ := (Orderly.of_unused hunused).reaches (fun _ _ => id) hstep
    (fun _ => .of_empty hempty) h
  exact (hg hfresh).keys

/-- Two imports of one file that make their calls in turns: one of them stores the file's line. -/
theorem keysDistinct_of_reaches_imports :
    ∃ S, Reaches Sample.setup anything Sample.start S ∧ S.memory.issued = 2 ∧
      S.memory.statements.length = 1 ∧ Store.Statements.KeysDistinct S.memory.statements := by
  have hreach : Reaches Sample.setup anything Sample.start
      (((Sample.start.starting Sample.setup 0 (Sample.importOf "https://a")).starting
        Sample.setup 1 (Sample.importOf "https://a")).turns
          [0, 1, 0, 1, 0, 1, 0, 1, 0, 1, 0, 1]) :=
    ((reaches_starting rfl trivial).trans (reaches_starting rfl trivial)).trans (reaches_turns _ _)
  exact ⟨_, hreach, by decide +kernel, by decide +kernel,
    keysDistinct_of_reaches Sample.unused_start rfl hreach (by decide +kernel)⟩

end System

end BankReconciliation
