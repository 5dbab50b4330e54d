import BankReconciliation.Proofs.Files
import BankReconciliation.Proofs.Service.Confinement
import BankReconciliation.Proofs.Store.Church

/-! An operation that stays with its party, seen from outside. What it comes to can be told from the
part of the memory that the party sees, and it leaves all the rest as it was. -/

namespace BankReconciliation

open Store (Statements Ledger)

/-- What an operation is given besides the memory on which it runs: the readings of the clock and
the new identifiers, in the order in which it asks for them. -/
structure Provision where
  readings : Nat → Instant
  ids : Nat → Uuid

namespace Memory

def answerWith : Program.Handler Collaborators (Provision × Memory)
  | .now, (v, m) => (v.readings 0, { v with readings := fun n => v.readings (n + 1) }, m)
  | .newId, (v, m) => (v.ids 0, { v with ids := fun n => v.ids (n + 1) }, m)
  | c, (v, m) => ((answer c m).1, v, (answer c m).2)

/-- What a memory itself gives to the next operation. -/
def provision (m : Memory) : Provision := ⟨fun _ => m.clock, fun n => m.supply (m.issued + n)⟩

/-- An operation with the provision of its memory runs as it does on the memory alone, but that the
identifiers which it gets are not counted there. -/
theorem run_answerWith_provision {α : Type} (p : Task α) (m : Memory) (issued : Nat) :
    ∃ v, p.run answerWith (m.provision, { m with issued }) =
      ((p.run answer m).1, v, { (p.run answer m).2 with issued }) := by
  induction p generalizing m with
  | done a => exact ⟨_, rfl⟩
  | abort => exact ⟨_, rfl⟩
  | call c next ih =>
    have hstep : answerWith c (m.provision, { m with issued }) =
        ((answer c m).1, (answer c m).2.provision, { (answer c m).2 with issued }) := by
      cases c with
      | newId =>
        have hids : (fun n => m.supply (m.issued + (n + 1))) =
            fun n => m.supply (m.issued + 1 + n) := by
          funext n
          rw [Nat.add_right_comm, Nat.add_assoc]
        simp only [answerWith, answer, provision, hids, Nat.add_zero]
      | updateReconciliation s =>
        cases h : m.statements.replace? s <;> simp only [answerWith, answer, h, provision]
      | enqueue job =>
        cases h : m.worker.enqueue job <;> simp only [answerWith, answer, h, provision]
      | removeFile location =>
        cases h : m.files.remove location <;> simp only [answerWith, answer, h, provision]
      | _ => rfl
    obtain ⟨v, hrest⟩ := ih (answer c m).1 (answer c m).2
    refine ⟨v, ?_⟩
    rw [Program.run_call, hstep]
    exact hrest

/-- Memories in which a party sees the same. -/
structure Alike (party : Party) (m m' : Memory) : Prop where
  statements : m.statements.ofChurch party.churchId = m'.statements.ofChurch party.churchId
  records : Ledger.ofChurch m.ledger.records party.churchId =
    Ledger.ofChurch m'.ledger.records party.churchId
  enabled : m.channel.enabled = m'.channel.enabled
  connected : m.channel.connected = m'.channel.connected
  file : ∀ location ∈ party.location, m.files.find location = m'.files.find location

/-- What an operation may do to the memory: it leaves the statements and records of other churches,
every statement and record in its place, and every file but its own. -/
structure Leaves (party : Party) (m m' : Memory) : Prop where
  statements : ∀ churchId ≠ party.churchId,
    m'.statements.ofChurch churchId = m.statements.ofChurch churchId
  names : m.statements.map Statement.name <+: m'.statements.map Statement.name
  records : ∀ churchId ≠ party.churchId,
    Ledger.ofChurch m'.ledger.records churchId = Ledger.ofChurch m.ledger.records churchId
  keys : m'.ledger.records.map LedgerRecord.key = m.ledger.records.map LedgerRecord.key
  enabled : m'.channel.enabled = m.channel.enabled
  connected : m'.channel.connected = m.channel.connected
  files : m'.files = m.files ∨ ∃ location ∈ party.location, m'.files = m.files.discarding location

variable {party other : Party} {m m' m₁ m₂ m₃ : Memory} {c : Call} {v : Provision}

theorem Leaves.refl (party : Party) (m : Memory) : m.Leaves party m :=
  ⟨fun _ _ => rfl, List.prefix_rfl, fun _ _ => rfl, rfl, rfl, rfl, .inl rfl⟩

theorem Leaves.trans (h : m₁.Leaves party m₂) (h' : m₂.Leaves party m₃) : m₁.Leaves party m₃ where
  statements churchId hne := (h'.statements churchId hne).trans (h.statements churchId hne)
  names := h.names.trans h'.names
  records churchId hne := (h'.records churchId hne).trans (h.records churchId hne)
  keys := h'.keys.trans h.keys
  enabled := h'.enabled.trans h.enabled
  connected := h'.connected.trans h.connected
  files := by
    rcases h.files with hfiles | ⟨location, hlocation, hfiles⟩
    · rw [← hfiles]
      exact h'.files
    · refine .inr ⟨location, hlocation, ?_⟩
      rcases h'.files with hfiles' | ⟨location', hlocation', hfiles'⟩
      · rw [hfiles', hfiles]
      · obtain rfl := Option.some.inj (hlocation'.symm.trans hlocation)
        rw [hfiles', hfiles, Files.discarding_discarding]

theorem answer_removeFile {location : String} (hlocal : isRemote location = false) (m : Memory) :
    answer (.removeFile location) m = ((m.files.remove location).map fun _ => (),
      { m with files := m.files.discarding location }) := by
  have hfiles : m.files.discarding location = (m.files.remove location).toOption.getD m.files := by
    rw [Files.discarding, if_neg (by simp [hlocal])]
  rw [hfiles]
  cases h : m.files.remove location <;> simp only [answer, h] <;> rfl

theorem send_congr {c c' : Store.Channel} (henabled : c.enabled = c'.enabled)
    (hconnected : c.connected = c'.connected) (notice : Store.Notice) :
    (c.send notice).1 = (c'.send notice).1 := by
  simp only [Store.Channel.send, henabled, hconnected]
  split
  · rfl
  · split <;> rfl

theorem enabled_send (c : Store.Channel) (notice : Store.Notice) :
    (c.send notice).2.enabled = c.enabled ∧ (c.send notice).2.connected = c.connected := by
  unfold Store.Channel.send
  split
  · exact ⟨rfl, rfl⟩
  · split <;> exact ⟨rfl, rfl⟩

/-- A call for the party is answered alike in memories in which it sees the same, and it sees the
same afterwards. -/
theorem Alike.step (h : m.Alike party m') (ht : m.statements.OwnToken party.churchId party.token)
    (ht' : m'.statements.OwnToken party.churchId party.token) (hc : c.concerns party = true)
    (v : Provision) :
    (answerWith c (v, m)).1 = (answerWith c (v, m')).1 ∧
      (answerWith c (v, m)).2.1 = (answerWith c (v, m')).2.1 ∧
      (answerWith c (v, m)).2.2.Alike party (answerWith c (v, m')).2.2 := by
  -- every lookup and every write is one of the party's own part, and these parts are the same
  cases c with
  | existsByFitId churchId bankId fitId =>
    obtain rfl : churchId = party.churchId := beq_iff_eq.mp hc
    have hsame := congrArg (·.existsByFitId party.churchId bankId fitId) h.statements
    simp only [Statements.existsByFitId_ofChurch] at hsame
    exact ⟨congrArg Except.ok hsame, rfl, h⟩
  | existsByHash churchId bankId hash =>
    obtain rfl : churchId = party.churchId := beq_iff_eq.mp hc
    have hsame := congrArg (·.existsByHash party.churchId bankId hash) h.statements
    simp only [Statements.existsByHash_ofChurch] at hsame
    exact ⟨congrArg Except.ok hsame, rfl, h⟩
  | insertMany candidates =>
    have hown : ∀ s ∈ candidates, s.churchId = party.churchId := by
      simpa [Call.concerns] using hc
    have hsame := congrArg (·.insertMany candidates) h.statements
    simp only [Statements.insertMany_ofChurch hown, Prod.mk.injEq] at hsame
    exact ⟨congrArg Except.ok hsame.1, rfl, { h with statements := hsame.2 }⟩
  | findStatement churchId id =>
    obtain rfl : churchId = party.churchId := beq_iff_eq.mp hc
    have hsame := congrArg (·.find? party.churchId id) h.statements
    simp only [Statements.find?_ofChurch] at hsame
    exact ⟨congrArg Except.ok hsame, rfl, h⟩
  | updateReconciliation s =>
    have hown : s.churchId = party.churchId := beq_iff_eq.mp hc
    have hsame := congrArg (·.replace? s) h.statements
    simp only [Statements.replace?_ofChurch hown] at hsame
    cases hm : m.statements.replace? s with
    | none =>
      rw [hm, Option.map_none, eq_comm, Option.map_eq_none_iff] at hsame
      simp only [answerWith, answer, hm, hsame]
      exact ⟨rfl, trivial, h⟩
    | some stored =>
      rw [hm, Option.map_some, eq_comm, Option.map_eq_some_iff] at hsame
      obtain ⟨stored', hm', hparts⟩ := hsame
      simp only [answerWith, answer, hm, hm']
      exact ⟨rfl, trivial, { h with statements := hparts.symm }⟩
  | list filter pageSize token =>
    obtain ⟨hchurch, rfl⟩ : filter.churchId = party.churchId ∧ token = party.token := by
      simpa [Call.concerns] using hc
    have hsame := congrArg (·.page filter pageSize party.token) h.statements
    rw [← hchurch] at ht ht' hsame
    simp only [Statements.page_ofChurch ht.tokenWithin,
      Statements.page_ofChurch ht'.tokenWithin] at hsame
    exact ⟨congrArg Except.ok hsame, rfl, h⟩
  | findOne filter =>
    have hown : filter.churchId = party.churchId := beq_iff_eq.mp hc
    have hsame : m.ledger.findOne filter = m'.ledger.findOne filter :=
      Ledger.findOne_eq_of_ofChurch (hown ▸ h.records)
    exact ⟨congrArg Except.ok hsame, rfl, { h with }⟩
  | findRecord churchId id =>
    obtain rfl : churchId = party.churchId := beq_iff_eq.mp hc
    have hsame : m.ledger.find? party.churchId id = m'.ledger.find? party.churchId id :=
      Ledger.find?_eq_of_ofChurch h.records
    exact ⟨congrArg Except.ok hsame, rfl, h⟩
  | dispatchStatus record status =>
    have hown : record.key.1 = party.churchId := beq_iff_eq.mp hc
    have hrecords := h.records
    rw [← hown] at hrecords
    refine ⟨rfl, rfl, { h with records := ?_ }⟩
    rw [← hown]
    exact Ledger.ofChurch_setStatus.trans
      ((congrArg _ hrecords).trans Ledger.ofChurch_setStatus.symm)
  | findBank _ | findAccount _ _ | enqueue _ => cases hc
  | notify topic payload =>
    obtain ⟨henabled, hconnected⟩ := enabled_send m.channel ⟨topic, payload⟩
    obtain ⟨henabled', hconnected'⟩ := enabled_send m'.channel ⟨topic, payload⟩
    refine ⟨send_congr h.enabled h.connected ⟨topic, payload⟩, rfl, { h with
      enabled := ?_, connected := ?_ }⟩
    · exact henabled.trans (h.enabled.trans henabled'.symm)
    · exact hconnected.trans (h.connected.trans hconnected'.symm)
  | openFile location => exact ⟨h.file location (beq_iff_eq.mp hc), rfl, h⟩
  | removeFile location =>
    obtain ⟨hlocation, hlocal⟩ : party.location = some location ∧ isRemote location = false := by
      simpa [Call.concerns] using hc
    have hfound := h.file location hlocation
    have hremove : (m.files.remove location).map (fun _ => ()) =
        (m'.files.remove location).map fun _ => () := by
      rw [Files.map_remove, Files.map_remove, hfound]
    change (answer (.removeFile location) m).1 = (answer (.removeFile location) m').1 ∧ _ ∧
      (answer (.removeFile location) m).2.Alike party (answer (.removeFile location) m').2
    rw [answer_removeFile hlocal, answer_removeFile hlocal]
    refine ⟨hremove, rfl, { h with file := fun location' hlocation' => ?_ }⟩
    obtain rfl := Option.some.inj (hlocation'.symm.trans hlocation)
    exact Files.find_discarding_congr hfound
  | now => exact ⟨rfl, rfl, h⟩
  | newId => exact ⟨rfl, rfl, h⟩
  | count event => exact ⟨rfl, rfl, { h with }⟩

theorem leaves_answerWith (hc : c.concerns party = true) (v : Provision) (m : Memory) :
    m.Leaves party (answerWith c (v, m)).2.2 := by
  have hrefl := Leaves.refl party m
  cases c with
  | insertMany candidates =>
    have hown : ∀ s ∈ candidates, s.churchId = party.churchId := by
      simpa [Call.concerns] using hc
    obtain ⟨added, -, hinsert⟩ := Statements.exists_added m.statements candidates
    refine { hrefl with statements := ?_, names := ?_ }
    · exact fun churchId hne => Statements.insertMany_ofChurch_of_ne hown hne
    · have hstored : (m.statements.insertMany candidates).2 = m.statements ++ added := by
        rw [hinsert]
      change _ <+: (m.statements.insertMany candidates).2.map Statement.name
      rw [hstored, List.map_append]
      exact List.prefix_append _ _
  | updateReconciliation s =>
    have hown : s.churchId = party.churchId := beq_iff_eq.mp hc
    cases hm : m.statements.replace? s with
    | none =>
      simp only [answerWith, answer, hm]
      exact hrefl
    | some stored =>
      simp only [answerWith, answer, hm]
      refine { hrefl with statements := ?_, names := ?_ }
      · exact fun churchId hne => Statements.replace?_ofChurch_of_ne hm (hown ▸ hne)
      · exact (Statements.names_replace? hm) ▸ List.prefix_rfl
  | dispatchStatus record status =>
    have hown : record.key.1 = party.churchId := beq_iff_eq.mp hc
    refine { hrefl with records := ?_, keys := Ledger.keys_setStatus status }
    exact fun churchId hne => Ledger.ofChurch_setStatus_of_ne (hown ▸ hne)
  | enqueue job => cases hc
  | notify topic payload =>
    obtain ⟨henabled, hconnected⟩ := enabled_send m.channel ⟨topic, payload⟩
    exact { hrefl with enabled := henabled, connected := hconnected }
  | removeFile location =>
    obtain ⟨hlocation, hlocal⟩ : party.location = some location ∧ isRemote location = false := by
      simpa [Call.concerns] using hc
    change m.Leaves party (answer (.removeFile location) m).2
    rw [answer_removeFile hlocal]
    exact { hrefl with files := .inr ⟨location, hlocation, rfl⟩ }
  | _ => exact { hrefl with }

variable {α : Type} {ends : α → Prop} {p : Task α}

theorem canGet_answerWith (c : Call) (v : Provision) (m : Memory) :
    c.CanGet (answerWith c (v, m)).1 := by
  cases c with
  | now => exact ⟨{ m with clock := v.readings 0 }, rfl⟩
  | newId => exact ⟨{ m with supply := v.ids, issued := 0 }, rfl⟩
  | _ => exact ⟨m, rfl⟩

theorem leaves_run (hp : p.KeepsTo party ends) (v : Provision) (m : Memory) :
    m.Leaves party (p.run answerWith (v, m)).2.2 := by
  induction p generalizing v m with
  | done a => exact .refl party m
  | abort => exact .refl party m
  | call c next ih =>
    obtain ⟨hc, hnext⟩ := hp.next (canGet_answerWith c v m)
    exact (leaves_answerWith hc v m).trans (ih _ hnext _ _)

/-- An operation comes to the same in memories in which its party sees the same. -/
theorem Alike.run (h : m.Alike party m') (hp : p.KeepsTo party ends)
    (ht : m.statements.OwnToken party.churchId party.token)
    (ht' : m'.statements.OwnToken party.churchId party.token) (v : Provision) :
    (p.run answerWith (v, m)).1 = (p.run answerWith (v, m')).1 ∧
      (p.run answerWith (v, m)).2.2.Alike party (p.run answerWith (v, m')).2.2 := by
  induction p generalizing v m m' with
  | done a => exact ⟨rfl, h⟩
  | abort => exact ⟨rfl, h⟩
  | call c next ih =>
    obtain ⟨hc, hnext⟩ := hp.next (canGet_answerWith c v m)
    have hstep := h.step ht ht' hc v
    have ht := ht.mono (leaves_answerWith hc v m).names
    have ht' := ht'.mono (leaves_answerWith hc v m').names
    rw [Program.run_call, Program.run_call]
    generalize answerWith c (v, m) = r at *
    generalize answerWith c (v, m') = r' at *
    obtain ⟨a, v₁, n⟩ := r
    obtain ⟨a', v₁', n'⟩ := r'
    obtain ⟨rfl, rfl, hafter⟩ := hstep
    exact ih a hafter hnext ht ht' v₁

/-- What an operation of another church does is not seen, unless it discards the party's file. -/
theorem Leaves.alike (h : m.Leaves other m') (hne : party.churchId ≠ other.churchId)
    (hfiles : ∀ a ∈ party.location, ∀ b ∈ other.location, m.files.Apart a b) :
    m.Alike party m' where
  statements := (h.statements party.churchId hne).symm
  records := (h.records party.churchId hne).symm
  enabled := h.enabled.symm
  connected := h.connected.symm
  file a ha := by
    rcases h.files with hsame | ⟨b, hb, hdiscarded⟩
    · rw [hsame]
    · rw [hdiscarded]
      exact (hfiles a ha b hb).2.symm

end Memory

end BankReconciliation
