import BankReconciliation.Proofs.Interleaving.Backing
import BankReconciliation.Proofs.Interleaving.Knowledge
import BankReconciliation.Proofs.Interleaving.Serving

/-! Matching that runs side by side. Between the search for a record and the moment when the ledger
is told of the binding, the record looks open to every other search, so that two statements may be
bound to it. This can happen wherever operations contend for a record, and nowhere else. -/

namespace BankReconciliation

namespace Task

variable {α : Type} {id : Uuid} {key : String × String} {g : Standing}

/-- All that a task does next is to bind the statement with the id to the record with the key. -/
def Aims (id : Uuid) (key : String × String) : Task α → Prop
  | .call (.updateReconciliation s) _ => s.id = id ∧ s.boundKey? = some key
  | .call .now next => ∀ t, Aims id key (next t)
  | _ => False

def Announces (key : String × String) : Task α → Prop
  | .call (.dispatchStatus record _) _ => record.key = key
  | _ => False

theorem aims_of_chosen {p : Task α} {s : Statement} {r : LedgerRecord} (m : Memory)
    (hp : p.Follows Turn Service.Settled g) (hg : g.stage = .chosen s (some r))
    (hr : r.churchId = s.churchId) : p.Aims s.id r.key := by
  induction p with
  | done a => exact nomatch hg.symm.trans hp
  | abort => exact nomatch hg.symm.trans hp
  | call c next ih =>
    obtain ⟨g', hturn, -⟩ := hp _ ⟨m, rfl⟩
    rcases hturn.of_chosen hg with ⟨rfl, -⟩ | ⟨time, rfl⟩
    · intro t
      obtain ⟨g', hturn, hnext⟩ := hp t ⟨{ m with clock := t }, rfl⟩
      rcases hturn.of_chosen hg with ⟨-, rfl⟩ | ⟨time, hc⟩
      · exact ih t hnext
      · cases hc
    · refine ⟨rfl, ?_⟩
      rw [LedgerRecord.key, hr]
      rfl

theorem chosen_of_aims {p : Task α} (m : Memory) (hp : p.Follows Turn Service.Settled g)
    (ha : p.Aims id key) :
    ∃ s r, g.stage = .chosen s (some r) ∧ s.id = id ∧ key = (s.churchId, r.id) := by
  induction p generalizing g with
  | done a => exact ha.elim
  | abort => exact ha.elim
  | call c next ih =>
    obtain ⟨g', hturn, hnext⟩ := hp _ ⟨m, rfl⟩
    cases c with
    | updateReconciliation s =>
      obtain ⟨hid, hk⟩ := ha
      obtain ⟨s, r, time, rfl, hkey, hg⟩ := hturn.binding hk
      exact ⟨s, r, hg, hid, hkey⟩
    | now =>
      obtain ⟨s, r, hg', hs⟩ := ih _ hnext (ha _)
      have hsame : g' = g := by
        cases hturn with
        | look _ _ => rfl
        | clock _ => rfl
      exact ⟨s, r, hsame ▸ hg', hs⟩
    | _ => exact ha.elim

theorem announces_of_bound {p : Task α} (m : Memory) (hp : p.Follows Turn Service.Settled g)
    (hg : g.stage = .bound key) (hauto : g.byHand = false) : p.Announces key := by
  cases p with
  | done a => exact nomatch hg.symm.trans hp
  | abort => exact nomatch hg.symm.trans hp
  | call c next =>
    obtain ⟨g', hturn, -⟩ := hp _ ⟨m, rfl⟩
    generalize (Memory.answer c m).1 = a at hturn
    cases hturn with
    | announce hg' => exact Stage.bound.inj (hg'.symm.trans hg)
    | tally hm _ => exact nomatch hm.symm.trans hauto
    -- the other turns are taken in other stages
    | _ => simp_all

end Task

/-- Two different statements of a church are bound to one record. -/
def Store.Statements.DoublyBound (stored : Statements) : Prop :=
  ∃ s ∈ stored, ∃ t ∈ stored, s.id ≠ t.id ∧ s.churchId = t.churchId ∧
    s.recordId? ≠ none ∧ s.recordId? = t.recordId?

instance (stored : Store.Statements) : Decidable stored.DoublyBound := by
  unfold Store.Statements.DoublyBound; infer_instance

theorem Store.Statements.doublyBound_iff {stored : Statements} :
    stored.DoublyBound ↔ ∃ s ∈ stored, ∃ t ∈ stored, s.id ≠ t.id ∧
      ∃ key, s.boundKey? = some key ∧ t.boundKey? = some key := by
  constructor
  · rintro ⟨s, hs, t, ht, hne, hchurch, hsome, hsame⟩
    obtain ⟨id, hid⟩ := Option.ne_none_iff_exists'.mp hsome
    refine ⟨s, hs, t, ht, hne, _, Statement.boundKey?_eq_some hid, ?_⟩
    rw [hchurch]
    exact Statement.boundKey?_eq_some (hsame ▸ hid)
  · rintro ⟨s, hs, t, ht, hne, key, hk, hk'⟩
    obtain ⟨id, hid, rfl⟩ := Option.map_eq_some_iff.mp hk
    obtain ⟨id', hid', heq⟩ := Option.map_eq_some_iff.mp hk'
    obtain ⟨hchurch, rfl⟩ := Prod.mk.inj heq
    exact ⟨s, hs, t, ht, hne, hchurch.symm, by simp [hid], hid.trans hid'.symm⟩

namespace System

/-- An operation is about to bind a statement to a record while another is about to bind a different
statement to it, or has bound one and has not told the ledger yet. -/
def Contended (S : System) : Prop :=
  ∃ i a id key, S.activity i = some a ∧ a.rest.Aims id key ∧
    ((∃ j b id', S.activity j = some b ∧ b.rest.Aims id' key ∧ id' ≠ id) ∨
      ∃ t ∈ S.memory.statements, t.id ≠ id ∧ t.boundKey? = some key ∧
        ∃ j b, S.activity j = some b ∧ b.rest.Announces key)

variable {setup : ImportSetup} {admits : System → Service.Request → Prop} {S S' : System}
  {g : Nat → Standing} {i j : Nat} {s t : Statement} {r : LedgerRecord}

theorem reaches_binding {request : Service.Request} {p : Task Service.Response} {gi : Standing}
    (hi : S.activity i = some ⟨request, p⟩) (hp : p.Follows Turn Service.Settled gi)
    (hg : gi.stage = .chosen s (some r)) (hs : s.name ∈ S.memory.statements.map Statement.name) :
    ∃ S' time, Reaches setup admits S S' ∧
      S.memory.statements.replace? (s.markReconciled r.id time) = some S'.memory.statements ∧
      ∀ j, j ≠ i → S'.activity j = S.activity j := by
  induction p generalizing S with
  | done a => exact nomatch hg.symm.trans hp
  | abort => exact nomatch hg.symm.trans hp
  | call c next ih =>
    obtain ⟨g', hturn, hnext⟩ := hp _ ⟨S.memory, rfl⟩
    rcases hturn.of_chosen hg with ⟨rfl, rfl⟩ | ⟨time, rfl⟩
    · obtain ⟨S', time, hreach, hrep, hother⟩ :=
        ih _ (S := withActivity ⟨S.memory, S.activity⟩ i ⟨request, next S.memory.clock⟩)
          withActivity_same hnext hs
      refine ⟨S', time, .head (.call hi) hreach, hrep, ?_⟩
      intro j hj
      rw [hother j hj, withActivity_of_ne hj]
    · have hname : (s.markReconciled r.id time).name ∈ S.memory.statements.map Statement.name := by
        rw [Statement.name_markReconciled]
        exact hs
      obtain ⟨statements, hrep⟩ := Store.Statements.replace?_isSome hname
      refine ⟨_, time, .single (.call hi), ?_, fun j hj => withActivity_of_ne hj⟩
      simp only [withActivity_memory, Memory.answer, hrep]

/-- No operation serves a link by hand. -/
def Unlinked (S : System) : Prop := ∀ i a, S.activity i = some a → a.request.isLink = false

theorem Unlinked.step (h : S.Unlinked) (hs : Step setup automatic S S') : S'.Unlinked := by
  cases hs with
  | @start i request _ hauto =>
    intro j a hj
    by_cases hji : j = i
    · subst hji
      rw [withActivity_same] at hj
      exact Option.some.inj hj ▸ hauto
    · rw [withActivity_of_ne hji] at hj
      exact h j a hj
  | @call i request c next hi =>
    intro j a hj
    by_cases hji : j = i
    · subst hji
      have hlink := h j _ hi
      rw [withActivity_same] at hj
      rw [← Option.some.inj hj]
      exact hlink
    · rw [withActivity_of_ne hji] at hj
      exact h j a hj
  | addRecord _ => exact h
  | surroundings _ => exact h

theorem Unlinked.byHand (h : S.Unlinked) (ho : Orderly S g) (i : Nat) : (g i).byHand = false := by
  cases hi : S.activity i with
  | none => rw [ho.absent hi]
  | some a => rw [(ho.fits hi).2, h i a hi]

theorem contended_of_bound (ho : Orderly S g) (hu : S.Unlinked)
    (hi : (g i).stage = .chosen s (some r)) (hr : r.churchId = s.churchId)
    (hj : (g j).stage = .bound r.key) (ht : t ∈ S.memory.statements)
    (hk : t.boundKey? = some r.key) (hne : t.id ≠ s.id) : S.Contended := by
  obtain ⟨a, ha, -⟩ := ho.running hi nofun
  obtain ⟨b, hb, -⟩ := ho.running hj nofun
  have haims : a.rest.Aims s.id r.key := Task.aims_of_chosen S.memory (ho.fits ha).1 hi hr
  have hannounces : b.rest.Announces r.key :=
    Task.announces_of_bound S.memory (ho.fits hb).1 hj (hu.byHand ho j)
  exact ⟨i, a, s.id, r.key, ha, haims, .inr ⟨t, ht, hne, hk, j, b, hb, hannounces⟩⟩

/-- A step of automatic operations that leads to no contention. -/
def CalmStep (setup : ImportSetup) (S S' : System) : Prop :=
  Step setup automatic S S' ∧ ¬ S'.Contended

/-- What holds as long as operations do not contend. -/
structure Calm (S : System) (g : Nat → Standing) : Prop where
  unlinked : S.Unlinked
  backed : Backed S.memory g
  chosen : ∀ i s r, (g i).stage = .chosen s (some r) →
    ∀ t ∈ S.memory.statements, t.boundKey? = some r.key → t.id = s.id
  single : ∀ s ∈ S.memory.statements, ∀ t ∈ S.memory.statements, ∀ key,
    s.boundKey? = some key → t.boundKey? = some key → s.id = t.id

namespace Calm

variable {g' : Nat → Standing} {m' : Memory} {gi : Standing}

theorem of_unused (hu : S.Unused) (hs : ∀ s ∈ S.memory.statements, s.boundKey? = none)
    (hk : Store.Ledger.KeysDistinct S.memory.ledger.records) : Calm S fun _ => {} where
  unlinked i a hi := by
    rw [hu i] at hi
    cases hi
  backed := .of_unbound hk hs
  chosen i s r hc := by cases hc
  single s hs' t _ key hkey := by
    rw [hs s hs'] at hkey
    cases hkey

theorem chosen_turn (h : Calm S g) (ho : Orderly S g) (ho' : Orderly S' (Function.update g i gi))
    (hu' : S'.Unlinked) (hb' : Backed S'.memory (Function.update g i gi))
    (hcalm : ¬ S'.Contended) (he : Effect S.memory (g i) S'.memory gi)
    (hj : (Function.update g i gi j).stage = .chosen s (some r))
    (ht : t ∈ S'.memory.statements) (hk : t.boundKey? = some r.key) : t.id = s.id := by
  by_contra hne
  have hbusy : ∀ l, (Function.update g i gi l).stage ≠ .bound r.key := by
    intro l hl
    exact hcalm (contended_of_bound ho' hu' hj (hb'.chosen j s r hj).1 hl ht hk hne)
  rcases he.bound_of_mem ht hk with ht | ⟨s', r', hchosen, hbound, -, hkey⟩
  · rcases stage_of_update hj with ⟨rfl, hgi⟩ | ⟨-, hj⟩
    · rcases he.chosen hgi with hold | ⟨hfree, -, hr, -, hopen⟩
      · exact hne (h.chosen j s r hold t ht hk)
      · -- the record is open although it is bound, so the ledger was not told of that yet
        obtain ⟨a, ha, hak, hstatus | ⟨l, hl⟩⟩ := h.backed.bound t ht _ hk
        · rw [Store.Ledger.eq_of_key_eq h.backed.keys ha hr hak] at hstatus
          exact hopen (h.unlinked.byHand ho j) hstatus
        · refine hbusy l (stage_update hl fun hj => ?_)
          exact nomatch hfree.symm.trans hj
    · exact hne (h.chosen j s r hj t ht hk)
  · refine hbusy i ?_
    have hchurch : r'.churchId = s'.churchId := (h.backed.chosen i s' r' hchosen).1
    rw [Function.update_self, hbound, LedgerRecord.key, hchurch, ← hkey]

theorem single_turn {key : String × String} (h : Calm S g)
    (he : Effect S.memory (g i) S'.memory gi) (hs : s ∈ S'.memory.statements)
    (ht : t ∈ S'.memory.statements) (hks : s.boundKey? = some key)
    (hkt : t.boundKey? = some key) : s.id = t.id := by
  have hnew : ∀ u ∈ S.memory.statements, u.boundKey? = some key → ∀ s' r',
      (g i).stage = .chosen s' (some r') → key = (s'.churchId, r'.id) → u.id = s'.id := by
    intro u hu hku s' r' hchosen hkey
    refine h.chosen i s' r' hchosen u hu ?_
    rw [hku, hkey, LedgerRecord.key, (h.backed.chosen i s' r' hchosen).1]
  rcases he.bound_of_mem hs hks with hs | ⟨s', r', hchosen, -, hname, hkey⟩
  · rcases he.bound_of_mem ht hkt with ht | ⟨t', r', hchosen, -, hname, hkey⟩
    · exact h.single s hs t ht key hks hkt
    · exact (hnew s hs hks t' r' hchosen hkey).trans (congrArg Prod.snd hname).symm
  · rcases he.bound_of_mem ht hkt with ht | ⟨t', r'', hchosen', -, hname', -⟩
    · exact (congrArg Prod.snd hname).trans (hnew t ht hkt s' r' hchosen hkey).symm
    · obtain ⟨rfl, -⟩ := Stage.chosen.inj (hchosen.symm.trans hchosen')
      exact (congrArg Prod.snd hname).trans (congrArg Prod.snd hname').symm

theorem step (ho : Orderly S g) (ho' : Orderly S' g') (hs : CalmStep setup S S')
    (ha : Advance S.memory g S'.memory g') (h : Calm S g) : Calm S' g' := by
  have hu' : S'.Unlinked := h.unlinked.step hs.1
  have hb' : Backed S'.memory g' := h.backed.advance ha
  rcases ha.turn_or with ⟨i, gi, he, rfl⟩ | ⟨hstatements, hsame⟩
  · refine ⟨hu', hb', ?_, ?_⟩
    · intro j s r hj t ht hk
      exact h.chosen_turn ho ho' hu' hb' hs.2 he hj ht hk
    · intro s hs t ht key hks hkt
      exact h.single_turn he hs ht hks hkt
  · refine ⟨hu', hb', ?_, ?_⟩
    · intro j s r hj t ht hk
      rw [hsame j s _ hj] at hj
      exact h.chosen j s r hj t (hstatements ▸ ht) hk
    · rw [hstatements]
      exact h.single

theorem not_doublyBound (h : Calm S g) : ¬ S.memory.statements.DoublyBound := by
  intro hdouble
  obtain ⟨s, hs, t, ht, hne, key, hks, hkt⟩ := Store.Statements.doublyBound_iff.mp hdouble
  exact hne (h.single s hs t ht key hks hkt)

end Calm

theorem exists_doublyBound_of_chosen {s' : Statement} {r' : LedgerRecord} (ho : Orderly S g)
    (hinf : ∀ i, (g i).Informed Statement.name S.memory)
    (hi : (g i).stage = .chosen s (some r)) (hj : (g j).stage = .chosen s' (some r'))
    (hkey : (s.churchId, r.id) = (s'.churchId, r'.id)) (hne : s'.id ≠ s.id) :
    ∃ S', Reaches setup admits S S' ∧ S'.memory.statements.DoublyBound := by
  obtain ⟨a, ha, -⟩ := ho.running hi nofun
  obtain ⟨b, hb, -⟩ := ho.running hj nofun
  have hij : j ≠ i := by
    rintro rfl
    exact hne (congrArg Statement.id (Stage.chosen.inj (hj.symm.trans hi)).1)
  -- one is run to its update and then the other, which has chosen already and looks no more
  obtain ⟨S₁, time, hreach, hrep, hother⟩ :=
    reaches_binding ha (ho.fits ha).1 hi ((hinf i).chosen s _ hi)
  have hb₁ : S₁.activity j = some b := (hother j hij).trans hb
  have hname : s'.name ∈ S₁.memory.statements.map Statement.name := by
    rw [Store.Statements.names_replace? hrep]
    exact (hinf j).chosen s' _ hj
  obtain ⟨S₂, time', hreach', hrep', -⟩ := reaches_binding hb₁ (ho.fits hb).1 hj hname
  have hdiffers : (s.markReconciled r.id time).name ≠ (s'.markReconciled r'.id time').name :=
    fun h => hne (congrArg Prod.snd h).symm
  have hs : s.markReconciled r.id time ∈ S₂.memory.statements :=
    Store.Statements.mem_replace?_of_ne hrep' (Store.Statements.self_mem_replace? hrep) hdiffers
  have hs' : s'.markReconciled r'.id time' ∈ S₂.memory.statements :=
    Store.Statements.self_mem_replace? hrep'
  refine ⟨S₂, hreach.trans hreach', Store.Statements.doublyBound_iff.mpr ?_⟩
  refine ⟨_, hs', _, hs, hne, (s'.churchId, r'.id), Statement.boundKey?_markReconciled .., ?_⟩
  rw [Statement.boundKey?_markReconciled, hkey]

theorem exists_doublyBound_of_bound (ho : Orderly S g)
    (hinf : ∀ i, (g i).Informed Statement.name S.memory)
    (hi : (g i).stage = .chosen s (some r)) (ht : t ∈ S.memory.statements)
    (hk : t.boundKey? = some (s.churchId, r.id)) (hne : t.id ≠ s.id) :
    ∃ S', Reaches setup admits S S' ∧ S'.memory.statements.DoublyBound := by
  obtain ⟨a, ha, -⟩ := ho.running hi nofun
  obtain ⟨S', time, hreach, hrep, -⟩ :=
    reaches_binding ha (ho.fits ha).1 hi ((hinf i).chosen s _ hi)
  have hdiffers : t.name ≠ (s.markReconciled r.id time).name := fun h => hne (congrArg Prod.snd h)
  refine ⟨S', hreach, Store.Statements.doublyBound_iff.mpr ?_⟩
  exact ⟨t, Store.Statements.mem_replace?_of_ne hrep ht hdiffers, _,
    Store.Statements.self_mem_replace? hrep, hne, _, hk, Statement.boundKey?_markReconciled ..⟩

theorem exists_doublyBound (ho : Orderly S g)
    (hinf : ∀ i, (g i).Informed Statement.name S.memory) (h : S.Contended) :
    ∃ S', Reaches setup admits S S' ∧ S'.memory.statements.DoublyBound := by
  obtain ⟨i, a, id, key, ha, haims, hrival⟩ := h
  obtain ⟨s, r, hi, rfl, rfl⟩ := Task.chosen_of_aims S.memory (ho.fits ha).1 haims
  rcases hrival with ⟨j, b, id', hb, haims', hne⟩ | ⟨t, ht, hne, hk, -⟩
  · obtain ⟨s', r', hj, rfl, hkey⟩ := Task.chosen_of_aims S.memory (ho.fits hb).1 haims'
    exact exists_doublyBound_of_chosen ho hinf hi hj hkey hne
  · exact exists_doublyBound_of_bound ho hinf hi ht hk hne

variable {S₀ : System}

theorem calm_of_reaches (h : Reaches setup automatic S₀ S)
    (hnone : ∀ S, Reaches setup automatic S₀ S → ¬ S.Contended) :
    Relation.ReflTransGen (CalmStep setup) S₀ S := by
  induction h with
  | refl => exact .refl
  | tail hreach hstep ih => exact ih.tail ⟨hstep, hnone _ (hreach.tail hstep)⟩

theorem not_doublyBound_of_calm (hunused : S₀.Unused)
    (hnone : ∀ s ∈ S₀.memory.statements, s.boundKey? = none)
    (hkeys : Store.Ledger.KeysDistinct S₀.memory.ledger.records)
    (h : Relation.ReflTransGen (CalmStep setup) S₀ S) : ¬ S.memory.statements.DoublyBound := by
  have hcalm : Calm S₀ fun _ => {} := .of_unused hunused hnone hkeys
  obtain ⟨g, -, hg⟩ := (Orderly.of_unused hunused).reaches (fun _ _ h => h.1)
    (fun _ _ _ _ => Calm.step) hcalm h
  exact hg.not_doublyBound

theorem exists_doublyBound_of_contended (hunused : S₀.Unused) (h : Reaches setup automatic S₀ S)
    (hcontended : S.Contended) :
    ∃ S', Reaches setup automatic S S' ∧ S'.memory.statements.DoublyBound := by
  have hempty : ∀ i : Nat, Standing.Informed Statement.name S₀.memory {} := fun _ => .empty
  obtain ⟨g, hg, hinf⟩ := (Orderly.of_unused hunused).reaches (fun _ _ => id)
    (fun _ _ _ _ _ _ _ ha hi => ha.informed hi) hempty h
  exact exists_doublyBound hg hinf hcontended

/-- When nothing is bound at the start and nobody links by hand, no record is bound to two
statements as long as operations do not contend; wherever they do, it can come to that. So a record
can come to be bound twice exactly if operations can come to contend. -/
theorem doublyBound_by_contention (hunused : S₀.Unused)
    (hunbound : ∀ s ∈ S₀.memory.statements, s.recordId? = none)
    (hkeys : Store.Ledger.KeysDistinct S₀.memory.ledger.records) :
    (∀ S, Relation.ReflTransGen (CalmStep setup) S₀ S → ¬ S.memory.statements.DoublyBound) ∧
    (∀ S, Reaches setup automatic S₀ S → S.Contended →
      ∃ S', Reaches setup automatic S S' ∧ S'.memory.statements.DoublyBound) ∧
    ((∃ S, Reaches setup automatic S₀ S ∧ S.memory.statements.DoublyBound) ↔
      ∃ S, Reaches setup automatic S₀ S ∧ S.Contended) := by
  have hnone : ∀ s ∈ S₀.memory.statements, s.boundKey? = none := by
    intro s hs
    rw [Statement.boundKey?, hunbound s hs, Option.map_none]
  refine ⟨?_, ?_, ?_, ?_⟩
  · intro S hS
    exact not_doublyBound_of_calm hunused hnone hkeys hS
  · intro S hS hcontended
    exact exists_doublyBound_of_contended hunused hS hcontended
  · rintro ⟨S, hS, hdouble⟩
    by_contra hnever
    have hcalm : Relation.ReflTransGen (CalmStep setup) S₀ S :=
      calm_of_reaches hS fun T hT hcontended => hnever ⟨T, hT, hcontended⟩
    exact not_doublyBound_of_calm hunused hnone hkeys hcalm hdouble
  · rintro ⟨S, hS, hcontended⟩
    obtain ⟨S', hS', hdouble⟩ := exists_doublyBound_of_contended hunused hS hcontended
    exact ⟨S', hS.trans hS', hdouble⟩

/-- Two imports of one line each: the second one searches the ledger while the first one has stored
its binding and is about to tell the ledger. -/
theorem reaches_doublyBound_sample :
    ∃ S, Reaches Sample.setup automatic Sample.start S ∧ S.memory.statements.DoublyBound := by
  have hreach : Reaches Sample.setup automatic Sample.start
      (((Sample.start.starting Sample.setup 0 (Sample.importOf "https://a")).starting
        Sample.setup 1 (Sample.importOf "https://b")).turns
          (List.replicate 10 0 ++ List.replicate 10 1)) :=
    ((reaches_starting rfl rfl).trans (reaches_starting rfl rfl)).trans (reaches_turns _ _)
  exact ⟨_, hreach, by decide +kernel⟩

/-- In the small deployment operations can come to contend. -/
theorem doublyBound_by_contention_sample :
    ∃ S, Reaches Sample.setup automatic Sample.start S ∧ S.Contended :=
  (doublyBound_by_contention Sample.unused_start (fun _ hs => absurd hs List.not_mem_nil)
    (List.nodup_singleton _)).2.2.mp reaches_doublyBound_sample

theorem doublyBound_of_imports :
    ¬ ∀ (setup : ImportSetup) (S₀ S : System), S₀.Unused →
      (∀ s ∈ S₀.memory.statements, s.recordId? = none) →
      Store.Ledger.KeysDistinct S₀.memory.ledger.records → Reaches setup automatic S₀ S →
      ¬ S.memory.statements.DoublyBound := by
  intro h
  obtain ⟨S, hreach, hdouble⟩ := reaches_doublyBound_sample
  exact h _ _ S Sample.unused_start (fun _ hs => absurd hs List.not_mem_nil)
    (List.nodup_singleton _) hreach hdouble

end System

end BankReconciliation
