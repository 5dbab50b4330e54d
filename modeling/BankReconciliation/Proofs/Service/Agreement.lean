import BankReconciliation.Proofs.Service.History

/-! When requests are served one after another, the statements and the ledger agree: each reconciled
record is the one that exactly one statement is bound to. Imports keep them in agreement, and so do
retries of statements that are not bound. A link by hand, which is never refused for the sake of
another binding, keeps it exactly if it takes no binding away and no record twice. -/

namespace BankReconciliation

namespace Store

open Ledger (KeysDistinct setStatus)

namespace Statements

/-- How many statements are bound to the record with a key. -/
def bound (stored : Statements) (key : String × String) : Nat :=
  stored.countP fun s => s.boundKey? = some key

variable {stored before after : Statements} {s : Statement} {key : String × String}

theorem bound_eq_zero_iff : stored.bound key = 0 ↔ ∀ s ∈ stored, s.boundKey? ≠ some key := by
  simp [bound, List.countP_eq_zero]

theorem bound_append (stored added : Statements) (key : String × String) :
    bound (stored ++ added) key = stored.bound key + added.bound key :=
  List.countP_append

theorem bound_insert (before after : Statements) (s : Statement) (key : String × String) :
    bound (before ++ s :: after) key =
      bound (before ++ after) key + if s.boundKey? = some key then 1 else 0 := by
  simp only [bound, List.countP_append, List.countP_cons, decide_eq_true_eq]
  omega

end Statements

/-- The statements and the records of the ledger agree. -/
structure Agree (stored : Statements) (records : List LedgerRecord) : Prop where
  keys : KeysDistinct records
  claimed : ∀ r ∈ records, r.status = .reconciled → stored.bound r.key = 1
  backed : ∀ s ∈ stored, ∀ key, s.boundKey? = some key →
    ∃ r ∈ records, r.key = key ∧ r.status = .reconciled

namespace Agree

variable {stored added before after : Statements} {old new : Statement}
  {records : List LedgerRecord} {r : LedgerRecord}

theorem append (h : Agree stored records) (hadded : ∀ s ∈ added, s.boundKey? = none) :
    Agree (stored ++ added) records where
  keys := h.keys
  claimed a ha hstatus := by
    have hnone : added.bound a.key = 0 :=
      Statements.bound_eq_zero_iff.mpr fun s hs hk => by rw [hadded s hs] at hk; cases hk
    rw [Statements.bound_append, hnone, h.claimed a ha hstatus]
  backed s hs key hk := by
    rcases List.mem_append.mp hs with hs | hs
    · exact h.backed s hs key hk
    · rw [hadded s hs] at hk
      cases hk

theorem addRecord (h : Agree stored records) (hnew : ∀ a ∈ records, a.key ≠ r.key)
    (hopen : r.status ≠ .reconciled) : Agree stored (records ++ [r]) where
  keys := Ledger.keysDistinct_insert h.keys hnew
  claimed a ha hstatus := by
    rcases List.mem_append.mp ha with ha | ha
    · exact h.claimed a ha hstatus
    · rw [List.mem_singleton.mp ha] at hstatus
      exact absurd hstatus hopen
  backed s hs key hk := by
    obtain ⟨a, ha, hak, hstatus⟩ := h.backed s hs key hk
    exact ⟨a, List.mem_append_left _ ha, hak, hstatus⟩

theorem rewrite (h : Agree (before ++ old :: after) records)
    (hsame : new.boundKey? = old.boundKey?) : Agree (before ++ new :: after) records where
  keys := h.keys
  claimed a ha hstatus := by
    have hclaimed := h.claimed a ha hstatus
    rw [Statements.bound_insert] at hclaimed ⊢
    rw [hsame, hclaimed]
  backed s hs key hk := by
    rcases List.mem_append.mp hs with hs | hs
    · exact h.backed s (by simp [hs]) key hk
    · rcases List.mem_cons.mp hs with rfl | hs
      · exact h.backed old (by simp) key (hsame ▸ hk)
      · exact h.backed s (by simp [hs]) key hk

theorem bound_of_open (h : Agree stored records) (hr : r ∈ records)
    (hopen : r.status ≠ .reconciled) : stored.bound r.key = 0 := by
  refine Statements.bound_eq_zero_iff.mpr fun s hs hk => ?_
  obtain ⟨a, ha, hak, hstatus⟩ := h.backed s hs _ hk
  rw [Ledger.eq_of_key_eq h.keys ha hr hak] at hstatus
  exact hopen hstatus

/-- A statement that is bound to nothing is bound to an open record, which is closed. -/
theorem bind (h : Agree (before ++ old :: after) records) (hold : old.boundKey? = none)
    (hr : r ∈ records) (hopen : r.status ≠ .reconciled) (hnew : new.boundKey? = some r.key) :
    Agree (before ++ new :: after) (setStatus r.key .reconciled records) := by
  have hbefore : ∀ key, Statements.bound (before ++ old :: after) key =
      Statements.bound (before ++ after) key := by
    intro key
    rw [Statements.bound_insert, hold, if_neg nofun, Nat.add_zero]
  refine ⟨?_, ?_, ?_⟩
  · rw [KeysDistinct, Ledger.keys_setStatus]
    exact h.keys
  · intro a ha hstatus
    rw [Ledger.setStatus_eq_map _ h.keys] at ha
    obtain ⟨b, hb, rfl⟩ := List.mem_map.mp ha
    rw [Statements.bound_insert, ← hbefore, hnew]
    by_cases hk : b.key = r.key
    · obtain rfl := Ledger.eq_of_key_eq h.keys hb hr hk
      have hkey : ({ b with status := .reconciled } : LedgerRecord).key = b.key := rfl
      rw [if_pos rfl, hkey, if_pos rfl, h.bound_of_open hr hopen]
    · rw [if_neg hk] at hstatus ⊢
      rw [h.claimed b hb hstatus, if_neg fun he => hk (Option.some.inj he).symm]
  · have hclosed : ∀ a ∈ records, a.status = .reconciled →
        ∃ b ∈ setStatus r.key .reconciled records, b.key = a.key ∧ b.status = .reconciled := by
      intro a ha hstatus
      refine ⟨_, Ledger.mem_setStatus r.key .reconciled h.keys ha, ?_⟩
      split
      · exact ⟨rfl, rfl⟩
      · exact ⟨rfl, hstatus⟩
    intro s hs key hk
    by_cases hsnew : s = new
    · rw [hsnew, hnew] at hk
      refine ⟨_, Ledger.mem_setStatus r.key .reconciled h.keys hr, ?_⟩
      rw [if_pos rfl]
      exact ⟨Option.some.inj hk, rfl⟩
    · have hsold : s ∈ before ++ old :: after := by
        simp only [List.mem_append, List.mem_cons, hsnew, false_or] at hs ⊢
        tauto
      obtain ⟨a, ha, rfl, hstatus⟩ := h.backed s hsold key hk
      exact hclosed a ha hstatus

/-- Binding a statement to a record, whatever either is bound to, leaves each reconciled record with
one statement exactly if the binding is there already or takes nothing away. -/
theorem claimed_bind_iff (h : Agree (before ++ old :: after) records) (hr : r ∈ records)
    (hnew : new.boundKey? = some r.key) :
    (∀ a ∈ setStatus r.key .reconciled records, a.status = .reconciled →
      Statements.bound (before ++ new :: after) a.key = 1) ↔
      old.boundKey? = some r.key ∨ old.boundKey? = none ∧ r.status ≠ .reconciled := by
  constructor
  · intro hall
    cases hold : old.boundKey? with
    | none =>
      refine .inr ⟨rfl, fun hstatus => ?_⟩
      have hmem := Ledger.mem_setStatus r.key .reconciled h.keys hr
      rw [if_pos rfl] at hmem
      have htwo := hall _ hmem rfl
      have hone := h.claimed r hr hstatus
      have hkey : ({ r with status := .reconciled } : LedgerRecord).key = r.key := rfl
      rw [Statements.bound_insert, hold, if_neg nofun] at hone
      rw [Statements.bound_insert, hkey, hnew, if_pos rfl] at htwo
      omega
    | some key =>
      by_cases hkey : key = r.key
      · exact .inl (congrArg some hkey)
      · obtain ⟨a, ha, rfl, hstatus⟩ := h.backed old (by simp) key hold
        have hmem := Ledger.mem_setStatus r.key .reconciled h.keys ha
        rw [if_neg hkey] at hmem
        have hafter := hall a hmem hstatus
        have hbefore := h.claimed a ha hstatus
        rw [Statements.bound_insert, hold, if_pos rfl] at hbefore
        rw [Statements.bound_insert, hnew, if_neg fun he => hkey (Option.some.inj he).symm] at hafter
        omega
  · rintro (hold | ⟨hold, hopen⟩)
    · obtain ⟨a, ha, hak, hstatus⟩ := h.backed old (by simp) _ hold
      obtain rfl := Ledger.eq_of_key_eq h.keys ha hr hak
      rw [Ledger.setStatus_of_status h.keys hr hstatus]
      exact (h.rewrite (hnew.trans hold.symm)).claimed
    · exact (h.bind hold hr hopen hnew).claimed

/-- An attempt keeps the agreement if its statement is bound to nothing. -/
theorem attempt {now : Instant} {s s' : Statement} {ledger ledger' : Ledger}
    (h : Agree (before ++ s :: after) ledger.records) (hs : s.boundKey? = none)
    (ha : Service.attempt? now ledger s = some (s', ledger')) :
    Agree (before ++ s' :: after) ledger'.records := by
  obtain ⟨rfl, hrecords⟩ | ⟨r, hr, hchurch, hopen, rfl, hrecords⟩ := Service.attempt?_cases ha
  · rw [hrecords]
    exact h.rewrite (by rw [Statement.boundKey?_markUnmatched, hs])
  · rw [hrecords]
    refine h.bind hs hr hopen ?_
    rw [Statement.boundKey?_markReconciled, ← hchurch, LedgerRecord.key]

theorem attemptAll {now : Instant} {ss : List Statement} {ledger : Ledger}
    (h : Agree (before ++ ss) ledger.records) (hss : ∀ s ∈ ss, s.boundKey? = none) :
    Agree (before ++ (Service.attemptAll now ledger ss).1 ++
        ss.drop (Service.attemptAll now ledger ss).1.length)
      (Service.attemptAll now ledger ss).2.records := by
  induction ss generalizing before ledger with
  | nil => simpa [Service.attemptAll] using h
  | cons s ss ih =>
    cases ha : Service.attempt? now ledger s with
    | none => simpa [Service.attemptAll_cons_of_none ha] using h
    | some p =>
      have hnext : Agree ((before ++ [p.1]) ++ ss) p.2.records := by
        simpa using h.attempt (hss s List.mem_cons_self) ha
      have hrest := ih hnext fun t ht => hss t (List.mem_cons_of_mem s ht)
      simpa [Service.attemptAll_cons_of_some ha] using hrest

end Agree

end Store

namespace Memory

/-- Every reconciled record is the one of exactly one reconciled statement of its church. -/
def ClaimedOnce (m : Memory) : Prop :=
  ∀ r ∈ m.ledger.records, r.status = .reconciled → m.statements.bound r.key = 1

instance (m : Memory) : Decidable m.ClaimedOnce := by unfold ClaimedOnce; infer_instance

/-- Events that undo no binding and bind no record a second time: a statement that is retried is not
reconciled; one that is linked is bound to the record already, or neither of the two is reconciled;
a record that is added is new and open. -/
def Careful (m : Memory) : Event → Prop
  | .serve (.retry churchId id) => ∀ s, m.fetched churchId id = .ok s → s.status ≠ .reconciled
  | .serve (.link churchId id recordId) => ∀ s r, m.fetched churchId id = .ok s →
      m.ledger.find? churchId recordId = some r →
      s.boundKey? = some r.key ∨ s.status ≠ .reconciled ∧ r.status ≠ .reconciled
  | .serve _ => True
  | .addRecord record =>
    record.status ≠ .reconciled ∧ ∀ r ∈ m.ledger.records, r.key ≠ record.key

variable {m : Memory} {job : ImportJob} {lines : List Line} {churchId id recordId : String}
  {s : Statement} {r : LedgerRecord}

theorem agree_importing (hids : m.NewIds (m.issued + (m.keptLines job lines).length))
    (h : Store.Agree m.statements m.ledger.records) :
    Store.Agree (m.importing job lines).statements (m.importing job lines).ledger.records := by
  have hpending : ∀ s ∈ m.taken job lines, s.boundKey? = none := by
    intro s hs
    obtain ⟨l, hl, id, rfl⟩ := mem_lines_of_mem_taken hs
    exact Statement.boundKey?_of_pending rfl
  rw [statements_importing hids]
  exact (h.append hpending).attemptAll hpending

theorem exists_linking (hs : m.fetched churchId id = .ok s)
    (hr : m.ledger.find? churchId recordId = some r) :
    r ∈ m.ledger.records ∧ (s.markReconciled r.id m.clock).boundKey? = some r.key ∧
    ∃ before after, m.statements = before ++ s :: after ∧
      (m.linking s r).statements = before ++ s.markReconciled r.id m.clock :: after := by
  obtain ⟨hmem, hkey⟩ := Store.Ledger.mem_of_find? hr
  have hchurch : r.churchId = s.churchId :=
    (congrArg Prod.fst hkey).trans (find?_of_fetched hs).1.symm
  refine ⟨hmem, ?_, exists_put_of_fetched hs (Statement.name_markReconciled _ _ _)⟩
  rw [Statement.boundKey?_markReconciled, ← hchurch, LedgerRecord.key]

theorem agree_linking (h : Store.Agree m.statements m.ledger.records)
    (hs : m.fetched churchId id = .ok s) (hr : m.ledger.find? churchId recordId = some r)
    (hc : s.boundKey? = some r.key ∨ s.status ≠ .reconciled ∧ r.status ≠ .reconciled) :
    Store.Agree (m.linking s r).statements (m.linking s r).ledger.records := by
  obtain ⟨hmem, hbound, before, after, hstored, hput⟩ := exists_linking hs hr
  rw [hstored] at h
  rw [hput]
  rcases hc with hsame | ⟨hopen, hropen⟩
  · obtain ⟨a, ha, hak, hstatus⟩ := h.backed s (by simp) _ hsame
    obtain rfl := Store.Ledger.eq_of_key_eq h.keys ha hmem hak
    rw [linking, Store.Ledger.dispatch, Store.Ledger.setStatus_of_status h.keys hmem hstatus]
    exact h.rewrite (hbound.trans hsame.symm)
  · exact h.bind (Statement.boundKey?_eq_none_iff.mpr hopen) hmem hropen hbound

theorem claimedOnce_linking_iff (h : Store.Agree m.statements m.ledger.records)
    (hs : m.fetched churchId id = .ok s) (hr : m.ledger.find? churchId recordId = some r) :
    (m.linking s r).ClaimedOnce ↔
      s.boundKey? = some r.key ∨ s.status ≠ .reconciled ∧ r.status ≠ .reconciled := by
  obtain ⟨hmem, hbound, before, after, hstored, hput⟩ := exists_linking hs hr
  rw [hstored] at h
  rw [ClaimedOnce, hput, ← Statement.boundKey?_eq_none_iff]
  exact h.claimed_bind_iff hmem hbound

end Memory

namespace Service

open Memory

variable {setup : ImportSetup} {m m' : Memory} {request : Request}

theorem Served.agree (hserved : Served setup m request m') (hids : m.NewIds m'.issued)
    (hcareful : m.Careful (.serve request)) (h : Store.Agree m.statements m.ledger.records) :
    Store.Agree m'.statements m'.ledger.records := by
  cases hserved with
  | unchanged hsame => rwa [hsame.statements, hsame.records]
  | imported hlines hsame =>
    rw [hsame.issued] at hids
    rw [hsame.statements, hsame.records]
    exact agree_importing hids h
  | @retried _ _ s s' ledger _ hs ha hsame =>
    have hopen : s.boundKey? = none := Statement.boundKey?_eq_none_iff.mpr (hcareful s hs)
    obtain ⟨before, after, hstored, hput⟩ := exists_put_of_fetched hs (name_of_attempt ha)
    rw [hsame.statements, hsame.records, retrying, hput]
    rw [hstored] at h
    exact h.attempt hopen ha
  | linked hs hr hsame =>
    rw [hsame.statements, hsame.records]
    exact agree_linking h hs hr (hcareful _ _ hs hr)

end Service

namespace History

variable {setup : ImportSetup} {m₀ m : Memory}

theorem agree (hhistory : History setup Memory.Careful m₀ m) (hids : m₀.NewIds m.issued)
    (h : Store.Agree m₀.statements m₀.ledger.records) :
    Store.Agree m.statements m.ledger.records := by
  induction hhistory with
  | start => exact h
  | @serve m request hhistory hcareful ih =>
    have hserved := Service.served setup m request
    have hbefore := hids.mono hserved.issued_le
    exact hserved.agree ((hhistory.grows hbefore).newIds hids) hcareful (ih hbefore)
  | addRecord hhistory hcareful ih => exact (ih hids).addRecord hcareful.2 hcareful.1
  | surroundings hhistory hsame ih =>
    rw [hsame.statements, hsame.records]
    exact ih (hsame.issued ▸ hids)

/-- While all that happens is careful, every reconciled record is the one of exactly one reconciled
statement of its church, and a link by hand that is not careful always ends that. -/
theorem claimedOnce_of_careful (hempty : m₀.statements = [])
    (hkeys : Store.Ledger.KeysDistinct m₀.ledger.records)
    (hopen : ∀ r ∈ m₀.ledger.records, r.status ≠ .reconciled)
    (hhistory : History setup Memory.Careful m₀ m) (hids : m₀.NewIds m.issued) :
    m.ClaimedOnce ∧ ∀ churchId id recordId,
      (((Service.Request.link churchId id recordId).task setup).run Memory.answer m).2.ClaimedOnce ↔
        m.Careful (.serve (.link churchId id recordId)) := by
  have hstart : Store.Agree m₀.statements m₀.ledger.records :=
    ⟨hkeys, fun r hr hstatus => absurd hstatus (hopen r hr), by simp [hempty]⟩
  have h := hhistory.agree hids hstart
  refine ⟨h.claimed, fun churchId id recordId => ?_⟩
  rw [Service.Request.task, Program.run_map_snd]
  -- a link that does not find its statement and its record writes nothing, and is careful
  cases hs : m.fetched churchId id with
  | error e =>
    rw [Service.run_link_of_error hs]
    refine iff_of_true h.claimed fun s r hs' => ?_
    rw [hs] at hs'
    cases hs'
  | ok s =>
    cases hr : m.ledger.find? churchId recordId with
    | none =>
      rw [Service.run_link_of_no_record hs hr]
      refine iff_of_true h.claimed fun s r _ hr' => ?_
      rw [hr] at hr'
      cases hr'
    | some r =>
      obtain ⟨metrics, hrun⟩ := Service.run_link_of_record hs hr
      rw [hrun]
      refine (Memory.claimedOnce_linking_iff h hs hr).trans ?_
      constructor
      · intro hc s' r' hs' hr'
        obtain rfl := Except.ok.inj (hs.symm.trans hs')
        obtain rfl := Option.some.inj (hr.symm.trans hr')
        exact hc
      · exact fun hc => hc s r hs hr

end History

namespace Sample

theorem keysDistinct_memory : Store.Ledger.KeysDistinct memory.ledger.records :=
  List.nodup_singleton _

def imported : Memory := ((Service.Request.importFile job).task twice |>.run
  Memory.answer memory).2

def linkTo (recordId : String) : Service.Request :=
  .link "church" "00000000-0000-0000-0000-000000000001" recordId

def recorded : Memory :=
  { imported with ledger := imported.ledger.insert { record with id := "fr-2" } }

end Sample

namespace History

theorem claimedOnce_of_careful_link :
    ∃ m, History Sample.twice Memory.Careful Sample.memory m ∧
      m.ledger.records.map (·.status) = [.reconciled, .reconciled] ∧ m.ClaimedOnce := by
  have hstatus : (Sample.recorded.fetched "church"
      "00000000-0000-0000-0000-000000000001").toOption.map (·.status) = some .unmatched := by
    decide +kernel
  have hrecord : (Sample.recorded.ledger.find? "church" "fr-2").map (·.status) =
      some .cleared := by
    decide +kernel
  have hcareful : Sample.recorded.Careful (.serve (Sample.linkTo "fr-2")) := by
    intro s r hs hr
    rw [hs] at hstatus
    rw [hr] at hrecord
    have hunmatched : s.status = .unmatched := Option.some.inj hstatus
    have hcleared : r.status = .cleared := Option.some.inj hrecord
    exact .inr ⟨hunmatched ▸ nofun, hcleared ▸ nofun⟩
  have himported : History Sample.twice Memory.Careful Sample.memory Sample.imported :=
    .serve .start trivial
  have hrecorded : History Sample.twice Memory.Careful Sample.memory Sample.recorded :=
    .addRecord himported ⟨nofun, by decide +kernel⟩
  have hlinked := hrecorded.serve hcareful
  exact ⟨_, hlinked, by decide +kernel, (claimedOnce_of_careful rfl Sample.keysDistinct_memory
    (by decide +kernel) hlinked (by decide +kernel)).1⟩

/-- Two statements are linked to one record. -/
theorem not_claimedOnce_of_link :
    ¬ ∀ (setup : ImportSetup) (m₀ m : Memory), m₀.statements = [] →
      Store.Ledger.KeysDistinct m₀.ledger.records →
      (∀ r ∈ m₀.ledger.records, r.status ≠ .reconciled) →
      History setup (fun _ e => ∃ request, e = .serve request) m₀ m → m₀.NewIds m.issued →
      m.ClaimedOnce := by
  intro h
  have hhistory : History Sample.twice (fun _ e => ∃ request, e = .serve request) Sample.memory
      (((Sample.linkTo "fr-1").task Sample.twice).run Memory.answer Sample.imported).2 :=
    .serve (.serve .start ⟨_, rfl⟩) ⟨_, rfl⟩
  have htwice := h _ _ _ rfl Sample.keysDistinct_memory (by decide +kernel) hhistory
    (by decide +kernel)
  exact absurd htwice (by decide +kernel)

end History

end BankReconciliation
