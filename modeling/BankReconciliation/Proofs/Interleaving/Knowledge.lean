import BankReconciliation.Proofs.Interleaving.Orderly

/-! What an operation knows to be stored is stored, at least as far as the name goes: nothing is
ever taken out of the store, and an update leaves the names as they are. -/

namespace BankReconciliation

variable {β : Type} {f : Statement → β} {m m' : Memory} {g : Nat → Standing} {gi : Standing}

/-- As far as `f` tells, the statements that an operation knows are stored, and so is the one that
it has chosen a record for. -/
structure Standing.Informed (f : Statement → β) (m : Memory) (g : Standing) : Prop where
  known : ∀ s ∈ g.known, f s ∈ m.statements.map f
  chosen : ∀ s choice, g.stage = .chosen s choice → f s ∈ m.statements.map f

namespace Standing.Informed

variable {g g' : Standing}

theorem empty {byHand : Bool} : Informed f m { byHand } where
  known s hs := by cases hs
  chosen s choice hc := by cases hc

theorem mono (h : g.Informed f m) (hsub : m.statements.map f ⊆ m'.statements.map f) :
    g.Informed f m' where
  known s hs := hsub (h.known s hs)
  chosen s choice hc := hsub (h.chosen s choice hc)

theorem turn (h : g.Informed f m) (he : Effect m g m' g')
    (hsub : m.statements.map f ⊆ m'.statements.map f)
    (hapart : ∀ (candidates : List Statement) churchId, candidates.map (·.id) = g.drawn.reverse →
      (∀ s ∈ candidates, s.churchId = churchId) →
      ∀ s ∈ candidates, ∀ t ∈ candidates, s.id = t.id → f s = f t) :
    g'.Informed f m' := by
  have hold : g.Informed f m' := h.mono hsub
  cases he with
  | quiet _ hknown =>
    refine ⟨?_, hold.chosen⟩
    intro s hs
    rcases hknown s hs with hs | hs
    · exact hold.known s hs
    · exact hsub (List.mem_map_of_mem hs)
  | draw => exact ⟨hold.known, hold.chosen⟩
  | @insert candidates added churchId hg hids hnew hsublist _ =>
    refine ⟨?_, hold.chosen⟩
    intro s hs
    rcases List.mem_append.mp hs with hs | hs
    · obtain ⟨hcandidate, hin⟩ := List.mem_filter.mp hs
      obtain ⟨a, ha, hid⟩ := List.mem_map.mp (List.contains_iff_mem.mp hin)
      have hsame : f s = f a := hapart candidates churchId hids (fun t ht => (hnew t ht).2)
        s hcandidate a (hsublist.subset ha) hid.symm
      rw [hsame]
      exact List.mem_map_of_mem (List.mem_append_right _ ha)
    · exact hold.known s hs
  | choose _ _ hs _ =>
    refine ⟨hold.known, ?_⟩
    intro t choice hc
    obtain ⟨rfl, -⟩ := Stage.chosen.inj hc
    exact hold.known _ hs
  | bind _ _ => exact ⟨hold.known, fun _ _ hc => nomatch hc⟩
  | unbind _ _ => exact ⟨hold.known, fun _ _ hc => nomatch hc⟩
  | lose _ => exact ⟨hold.known, fun _ _ hc => nomatch hc⟩
  | announce _ => exact ⟨hold.known, fun _ _ hc => nomatch hc⟩

end Standing.Informed

theorem informed_update {i : Nat} (hsub : m.statements.map f ⊆ m'.statements.map f)
    (h : ∀ j, (g j).Informed f m) (hi : gi.Informed f m') :
    ∀ j, (Function.update g i gi j).Informed f m' := by
  intro j
  by_cases hj : j = i
  · subst hj
    rw [Function.update_self]
    exact hi
  · rw [Function.update_of_ne hj]
    exact (h j).mono hsub

theorem Effect.names_subset {g g' : Standing} (he : Effect m g m' g') :
    m.statements.map Statement.name ⊆ m'.statements.map Statement.name := by
  cases he with
  | quiet hm _ => exact hm.statements ▸ List.Subset.refl _
  | insert _ _ _ _ _ _ =>
    rw [List.map_append]
    exact List.subset_append_left _ _
  | choose hm _ _ _ => exact hm.statements ▸ List.Subset.refl _
  | bind _ hrep => exact Store.Statements.names_replace? hrep ▸ List.Subset.refl _
  | unbind _ hrep => exact Store.Statements.names_replace? hrep ▸ List.Subset.refl _
  | _ => exact List.Subset.refl _

theorem Advance.informed {g' : Nat → Standing} (ha : Advance m g m' g')
    (h : ∀ i, (g i).Informed Statement.name m) : ∀ i, (g' i).Informed Statement.name m' := by
  cases ha with
  | start _ => exact informed_update (List.Subset.refl _) h .empty
  | @turn i m' gi he =>
    refine informed_update he.names_subset h ((h i).turn he he.names_subset ?_)
    intro candidates churchId _ hchurch s hs t ht hid
    rw [Statement.name, Statement.name, hchurch s hs, hchurch t ht, hid]
  | addRecord _ => exact fun i => (h i).mono (List.Subset.refl _)
  | surroundings hm => exact fun i => (h i).mono (hm.statements ▸ List.Subset.refl _)

end BankReconciliation
