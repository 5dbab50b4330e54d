import BankReconciliation.Proofs.Interleaving.Knowledge
import BankReconciliation.Proofs.Service.Dialogue

/-! Runs of a system with all that the operations have said. The log of a run tells what the stores
hold and which identifiers were given out, and what an operation has said is a transcript of it. -/

namespace BankReconciliation

structure Entry where
  actor : Nat
  exchange : Interface.Exchange Collaborators

abbrev Log := List Entry

namespace Log

/-- What all operations have said. -/
def dialogue (log : Log) : Dialogue := log.map Entry.exchange

def own (log : Log) (i : Nat) : Dialogue := dialogue (log.filter fun e => e.actor = i)

variable {log log' : Log} {i j : Nat} {x : Interface.Exchange Collaborators}

@[simp] theorem dialogue_append : dialogue (log ++ log') = dialogue log ++ dialogue log' :=
  List.map_append
@[simp] theorem dialogue_singleton : dialogue [⟨i, x⟩] = [x] := rfl

@[simp] theorem own_append : own (log ++ log') i = own log i ++ own log' i := by
  rw [own, List.filter_append, dialogue_append, ← own, ← own]
@[simp] theorem own_singleton_self : own [⟨i, x⟩] i = [x] := by
  simp [own, dialogue]
theorem own_singleton_of_ne (h : j ≠ i) : own [⟨j, x⟩] i = [] := by
  simp [own, dialogue, h]

theorem mem_own_iff : x ∈ own log i ↔ ⟨i, x⟩ ∈ log := by
  simp only [own, dialogue, List.mem_map, List.mem_filter, decide_eq_true_eq]
  constructor
  · rintro ⟨⟨j, y⟩, ⟨he, rfl⟩, rfl⟩
    exact he
  · exact fun h => ⟨_, ⟨h, rfl⟩, rfl⟩

end Log

theorem Dialogue.of_isLook {c : Call} (a : c.Answer) (hc : c.isLook = true) :
    inserted [⟨c, a⟩] = [] ∧ drawn [⟨c, a⟩] = [] ∧ updates [⟨c, a⟩] = [] := by
  cases c with
  | insertMany _ | updateReconciliation _ | dispatchStatus _ _ | newId => cases hc
  | _ => exact ⟨rfl, rfl, rfl⟩

namespace Memory

/-- The identifiers that are given out next. -/
def upcoming (m : Memory) (n : Nat) : List Uuid :=
  (List.range n).map fun k => m.supply (m.issued + k)

theorem upcoming_add {m m' : Memory} {n : Nat} (hsupply : m'.supply = m.supply)
    (hissued : m'.issued = m.issued + n) (k : Nat) :
    m.upcoming (n + k) = m.upcoming n ++ m'.upcoming k := by
  simp only [upcoming, List.range_add, List.map_append, List.map_map, hsupply, hissued,
    Function.comp_def, Nat.add_assoc]

theorem ids_answer (c : Call) (m : Memory) :
    (answer c m).2.statements.map (·.id) =
      m.statements.map (·.id) ++ Dialogue.inserted [⟨c, (answer c m).1⟩] := by
  by_cases hc : c.isLook = true
  · have hnone := (Dialogue.of_isLook (answer c m).1 hc).1
    rw [(sameStores_of_isLook hc m).statements, hnone, List.append_nil]
  cases c with
  | insertMany candidates =>
    obtain ⟨added, -, hadd⟩ := Store.Statements.exists_added m.statements candidates
    simp [answer, hadd, Dialogue.inserted]
  | updateReconciliation s =>
    refine Eq.trans ?_ (List.append_nil _).symm
    cases hr : m.statements.replace? s with
    | none => simp [answer, hr]
    | some statements =>
      have hnames := congrArg (List.map Prod.snd) (Store.Statements.names_replace? hr)
      rw [List.map_map, List.map_map] at hnames
      simp only [answer, hr]
      exact hnames
  | newId | dispatchStatus _ _ => exact (List.append_nil _).symm
  | _ => exact absurd rfl hc

theorem drawn_answer (c : Call) (m : Memory) :
    (answer c m).2.supply = m.supply ∧
      (answer c m).2.issued = m.issued + (Dialogue.drawn [⟨c, (answer c m).1⟩]).length ∧
      Dialogue.drawn [⟨c, (answer c m).1⟩] =
        m.upcoming (Dialogue.drawn [⟨c, (answer c m).1⟩]).length := by
  by_cases hc : c.isLook = true
  · have hnone := (Dialogue.of_isLook (answer c m).1 hc).2.1
    rw [hnone]
    exact ⟨(sameStores_of_isLook hc m).supply, (sameStores_of_isLook hc m).issued, rfl⟩
  cases c with
  | updateReconciliation s =>
    cases hr : m.statements.replace? s <;> simp only [answer, hr] <;>
      exact ⟨trivial, rfl, rfl⟩
  | newId | insertMany _ | dispatchStatus _ _ => exact ⟨rfl, rfl, rfl⟩
  | _ => exact absurd rfl hc

end Memory

theorem Turn.inserted {g g' : Standing} {c : Call} {m : Memory} {ids drawn : List Uuid}
    (h : Turn g c (Memory.answer c m).1 g') (hids : List.Sublist (ids ++ g.drawn.reverse) drawn) :
    List.Sublist (ids ++ Dialogue.inserted [⟨c, (Memory.answer c m).1⟩] ++ g'.drawn.reverse)
      (drawn ++ Dialogue.drawn [⟨c, (Memory.answer c m).1⟩]) := by
  have hkept : List.Sublist (ids ++ [] ++ g.drawn.reverse) (drawn ++ []) := by simpa using hids
  have hdraw : ∀ id : Uuid,
      List.Sublist (ids ++ [] ++ (id :: g.drawn).reverse) (drawn ++ [id]) := by
    intro id
    rw [List.append_nil, List.reverse_cons, ← List.append_assoc]
    exact hids.append (List.Sublist.refl _)
  generalize ha : (Memory.answer c m).1 = a at h
  cases h with
  | look _ hc =>
    obtain ⟨hinserted, hdrawn, -⟩ := Dialogue.of_isLook a hc
    rw [hinserted, hdrawn]
    exact hkept
  | draw _ => exact hdraw _
  | @insert candidates ids' _ _ hsame _ =>
    obtain ⟨added, hsub, hadd⟩ := Store.Statements.exists_added m.statements candidates
    have hids' : List.Sublist ids' g.drawn.reverse := by
      simp only [Memory.answer, hadd] at ha
      rw [← Except.ok.inj ha, ← hsame]
      exact hsub.map _
    have hinserted : Dialogue.inserted [⟨.insertMany candidates, .ok ids'⟩] = ids' :=
      List.append_nil _
    rw [hinserted, List.reverse_nil, List.append_nil]
    exact ((hids'.append_left ids).trans hids).trans (List.sublist_append_left _ _)
  -- the other turns neither draw nor insert
  | _ => exact hkept

theorem Turn.confirmed {g g' : Standing} {s : Statement} {m : Memory}
    (h : Turn g (.updateReconciliation s) (Memory.answer (.updateReconciliation s) m).1 g')
    (hinformed : g.Informed Statement.name m) :
    (Memory.answer (.updateReconciliation s) m).1 = .ok () := by
  have hname : s.name ∈ m.statements.map Statement.name := by
    cases h with
    | look _ hc => cases hc
    | @bind t r time _ hg =>
      rw [Statement.name_markReconciled]
      exact hinformed.chosen t _ hg
    | @unbind t time _ hg =>
      rw [Statement.name_markUnmatched]
      exact hinformed.chosen t _ hg
  obtain ⟨statements, hr⟩ := Store.Statements.replace?_isSome hname
  simp only [Memory.answer, hr]
  rfl

namespace System

/-- The runs of a system, with their logs. -/
inductive Logged (setup : ImportSetup) (admits : System → Service.Request → Prop) (S₀ : System) :
    Log → System → Prop
  | nil : Logged setup admits S₀ [] S₀
  | start {log S i request} (h : Logged setup admits S₀ log S) (hi : S.activity i = none)
      (ha : admits S request) :
    Logged setup admits S₀ log (S.withActivity i ⟨request, request.task setup⟩)
  | call {log S i request c next} (h : Logged setup admits S₀ log S)
      (hi : S.activity i = some ⟨request, .call c next⟩) :
    Logged setup admits S₀ (log ++ [⟨i, c, (Memory.answer c S.memory).1⟩])
      (withActivity ⟨(Memory.answer c S.memory).2, S.activity⟩ i
        ⟨request, next (Memory.answer c S.memory).1⟩)
  | addRecord {log S record} (h : Logged setup admits S₀ log S)
      (hr : ∀ r ∈ S.memory.ledger.records, r.key ≠ record.key) :
    Logged setup admits S₀ log { S with memory.ledger := S.memory.ledger.insert record }
  | surroundings {log S m} (h : Logged setup admits S₀ log S) (hm : S.memory.SameStores m) :
    Logged setup admits S₀ log { S with memory := m }

variable {setup : ImportSetup} {admits : System → Service.Request → Prop} {S₀ S : System}
  {log : Log} {i : Nat}

/-- Every run has a log, and there are no logs but those of runs. -/
theorem reaches_iff_logged : Reaches setup admits S₀ S ↔ ∃ log, Logged setup admits S₀ log S := by
  constructor
  · intro h
    induction h with
    | refl => exact ⟨[], .nil⟩
    | tail _ hstep ih =>
      obtain ⟨log, hlog⟩ := ih
      cases hstep with
      | start hi ha => exact ⟨log, hlog.start hi ha⟩
      | call hi => exact ⟨_, hlog.call hi⟩
      | addRecord hr => exact ⟨log, hlog.addRecord hr⟩
      | surroundings hm => exact ⟨log, hlog.surroundings hm⟩
  · rintro ⟨log, h⟩
    induction h with
    | nil => exact .refl
    | start _ hi ha ih => exact ih.tail (.start hi ha)
    | call _ hi ih => exact ih.tail (.call hi)
    | addRecord _ hr ih => exact ih.tail (.addRecord hr)
    | surroundings _ hm ih => exact ih.tail (.surroundings hm)

namespace Logged

/-- What holds of the log and the memory when every call keeps it, and so does every change that
leaves the statements and the identifiers as they are. -/
theorem memory_induction {P : Log → Memory → Prop} (hnil : P [] S₀.memory)
    (hcall : ∀ log m i (c : Call), P log m →
      P (log ++ [⟨i, c, (Memory.answer c m).1⟩]) (Memory.answer c m).2)
    (hrest : ∀ log m m', m'.statements = m.statements → m'.supply = m.supply →
      m'.issued = m.issued → P log m → P log m')
    (h : Logged setup admits S₀ log S) : P log S.memory := by
  induction h with
  | nil => exact hnil
  | start _ _ _ ih => exact ih
  | call _ _ ih => exact hcall _ _ _ _ ih
  | @addRecord log S record _ _ ih => exact hrest log S.memory _ rfl rfl rfl ih
  | surroundings _ hm ih => exact hrest _ _ _ hm.statements hm.supply hm.issued ih

theorem canGet (h : Logged setup admits S₀ log S) :
    ∀ x ∈ log.dialogue, Call.CanGet x.request x.answer := by
  refine h.memory_induction (P := fun log _ => ∀ x ∈ log.dialogue, Call.CanGet x.request x.answer)
    (fun x hx => nomatch hx) ?_ fun _ _ _ _ _ _ hP => hP
  intro log m i c hP
  rw [Log.dialogue_append]
  exact List.forall_mem_append.mpr ⟨hP, List.forall_mem_singleton.mpr ⟨m, rfl⟩⟩

theorem ids_eq (h : Logged setup admits S₀ log S) :
    S.memory.statements.map (·.id) = S₀.memory.statements.map (·.id) ++ log.dialogue.inserted := by
  refine h.memory_induction (P := fun log m =>
    m.statements.map (·.id) = S₀.memory.statements.map (·.id) ++ log.dialogue.inserted)
    (List.append_nil _).symm ?_ fun _ _ _ hs _ _ hP => hs ▸ hP
  intro log m i c hP
  rw [Memory.ids_answer, Log.dialogue_append, Dialogue.inserted_append, ← List.append_assoc, ← hP,
    Log.dialogue_singleton]

theorem drawn_eq (h : Logged setup admits S₀ log S) :
    S.memory.supply = S₀.memory.supply ∧
      S.memory.issued = S₀.memory.issued + log.dialogue.drawn.length ∧
      log.dialogue.drawn = S₀.memory.upcoming log.dialogue.drawn.length := by
  refine h.memory_induction (P := fun log m => m.supply = S₀.memory.supply ∧
      m.issued = S₀.memory.issued + log.dialogue.drawn.length ∧
      log.dialogue.drawn = S₀.memory.upcoming log.dialogue.drawn.length) ⟨rfl, rfl, rfl⟩ ?_ ?_
  · rintro log m i c ⟨hsupply, hissued, hdrawn⟩
    obtain ⟨hsupply', hissued', hdrawn'⟩ := m.drawn_answer c
    rw [Log.dialogue_append, Dialogue.drawn_append, Log.dialogue_singleton, List.length_append,
      Memory.upcoming_add hsupply hissued, ← hdrawn, ← hdrawn', ← Nat.add_assoc, ← hissued]
    exact ⟨hsupply'.trans hsupply, hissued', rfl⟩
  · rintro log m m' - hs hi ⟨hsupply, hissued, hdrawn⟩
    exact ⟨hs.trans hsupply, hi.trans hissued, hdrawn⟩

/-- What is to be done next continues what was said: the whole is a transcript of the operation. -/
def Continues (setup : ImportSetup) : Option Activity → Dialogue → Prop
  | none, d => d = []
  | some a, d => ∀ es o, a.rest.Transcript es o → (a.request.task setup).Transcript (d ++ es) o

theorem continues (hunused : S₀.Unused) (h : Logged setup admits S₀ log S) :
    ∀ i, Continues setup (S.activity i) (log.own i) := by
  induction h with
  | nil => exact fun i => hunused i ▸ rfl
  | @start log S j request h hj _ ih =>
    intro i
    by_cases hij : i = j
    · subst hij
      have hsilent := ih i
      rw [hj] at hsilent
      rw [withActivity_same, hsilent]
      exact fun es o hes => hes
    · rw [withActivity_of_ne hij]
      exact ih i
  | @call log S j request c next h hj ih =>
    intro i
    rw [Log.own_append]
    by_cases hij : i = j
    · subst hij
      have hcontinues := ih i
      rw [hj] at hcontinues
      rw [withActivity_same, Log.own_singleton_self]
      intro es o hes
      rw [List.append_assoc]
      exact hcontinues _ o ⟨_, es, rfl, hes⟩
    · rw [withActivity_of_ne hij, Log.own_singleton_of_ne (Ne.symm hij), List.append_nil]
      exact ih i
  | addRecord _ _ ih => exact ih
  | surroundings _ _ ih => exact ih

theorem transcript_of_ended {a : Activity} (hunused : S₀.Unused)
    (h : Logged setup admits S₀ log S) (hi : S.activity i = some a) (hend : a.rest.Ended) :
    ∃ o, (a.request.task setup).Transcript (log.own i) o := by
  have hcontinues := h.continues hunused i
  rw [hi] at hcontinues
  rw [← List.append_nil (log.own i)]
  obtain ⟨request, rest⟩ := a
  cases rest with
  | done response => exact ⟨_, hcontinues [] _ ⟨rfl, rfl⟩⟩
  | abort => exact ⟨_, hcontinues [] _ ⟨rfl, rfl⟩⟩
  | call c next => exact hend.elim

theorem transcript {request : Service.Request} {response : Service.Response} (hunused : S₀.Unused)
    (h : Logged setup admits S₀ log S) (hi : S.activity i = some ⟨request, .done response⟩) :
    (request.task setup).Transcript (log.own i) (.returned response) := by
  have hcontinues := h.continues hunused i
  rw [hi] at hcontinues
  rw [← List.append_nil (log.own i)]
  exact hcontinues [] _ ⟨rfl, rfl⟩

theorem isSome_of_mem {e : Entry} (hunused : S₀.Unused) (h : Logged setup admits S₀ log S)
    (he : e ∈ log) : S.activity e.actor ≠ none := by
  intro hnone
  have hcontinues := h.continues hunused e.actor
  rw [hnone] at hcontinues
  have hmem : e.exchange ∈ log.own e.actor := Log.mem_own_iff.mpr he
  rw [show log.own e.actor = [] from hcontinues] at hmem
  cases hmem

end Logged

/-- What the standings of the operations tell of the log. -/
structure Told (log : Log) (m : Memory) (g : Nat → Standing) : Prop where
  informed : ∀ i, (g i).Informed Statement.name m
  /-- Every update was confirmed. -/
  confirmed : ∀ s a, ⟨.updateReconciliation s, a⟩ ∈ log.dialogue → a = .ok ()
  /-- An operation inserts no other ids than those that it has drawn, in their order. -/
  inserted : ∀ i, List.Sublist ((log.own i).inserted ++ (g i).drawn.reverse) (log.own i).drawn

theorem Told.of_eq {m m' : Memory} {g : Nat → Standing} (h : Told log m g)
    (hs : m'.statements = m.statements) : Told log m' g where
  informed i := (h.informed i).mono (hs ▸ List.Subset.refl _)
  confirmed := h.confirmed
  inserted := h.inserted

theorem Told.turn {m : Memory} {g : Nat → Standing} {gi : Standing} {c : Call} (h : Told log m g)
    (hturn : Turn (g i) c (Memory.answer c m).1 gi) :
    Told (log ++ [⟨i, c, (Memory.answer c m).1⟩]) (Memory.answer c m).2
      (Function.update g i gi) where
  informed := Advance.informed (.turn hturn.effect) h.informed
  confirmed s a hmem := by
    rw [Log.dialogue_append, Log.dialogue_singleton] at hmem
    rcases List.mem_append.mp hmem with hmem | hmem
    · exact h.confirmed s a hmem
    · cases List.mem_singleton.mp hmem
      exact hturn.confirmed (h.informed i)
  inserted j := by
    rw [Log.own_append]
    by_cases hij : j = i
    · subst hij
      rw [Log.own_singleton_self, Dialogue.inserted_append, Dialogue.drawn_append,
        Function.update_self]
      exact hturn.inserted (h.inserted j)
    · rw [Log.own_singleton_of_ne (Ne.symm hij), List.append_nil, Function.update_of_ne hij]
      exact h.inserted j

namespace Logged

theorem exists_told (hunused : S₀.Unused) (h : Logged setup admits S₀ log S) :
    ∃ g, Orderly S g ∧ Told log S.memory g := by
  induction h with
  | nil =>
    refine ⟨fun _ => {}, Orderly.of_unused hunused, fun _ => .empty, ?_, ?_⟩
    · exact fun s a hmem => nomatch hmem
    · exact fun i => List.Sublist.refl _
  | @start log S i request _ hi _ ih =>
    obtain ⟨g, hg, htold⟩ := ih
    have hgi := hg.absent hi
    have hfits : Standing.Fits { byHand := request.isLink } (some ⟨request, request.task setup⟩) :=
      ⟨Service.follows_task setup request, rfl⟩
    refine ⟨_, hg.update hfits, ?_, htold.confirmed, ?_⟩
    · exact Advance.informed (.start hgi) htold.informed
    · intro j
      have hdrawn : (Function.update g i { byHand := request.isLink } j).drawn = (g j).drawn := by
        by_cases hji : j = i
        · subst hji
          rw [Function.update_self, hgi]
        · rw [Function.update_of_ne hji]
      rw [hdrawn]
      exact htold.inserted j
  | @call log S i request c next _ hi ih =>
    obtain ⟨g, hg, htold⟩ := ih
    obtain ⟨hf, hb⟩ := hg.fits hi
    obtain ⟨gi, hturn, hnext⟩ := hf _ ⟨S.memory, rfl⟩
    exact ⟨_, hg.update ⟨hnext, hturn.byHand.trans hb⟩, htold.turn hturn⟩
  | @addRecord log S record _ _ ih =>
    obtain ⟨g, hg, htold⟩ := ih
    exact ⟨g, hg, htold.of_eq rfl⟩
  | surroundings _ hm ih =>
    obtain ⟨g, hg, htold⟩ := ih
    exact ⟨g, hg, htold.of_eq hm.statements⟩

theorem confirmed {s : Statement} {a : Reply Unit} (hunused : S₀.Unused)
    (h : Logged setup admits S₀ log S)
    (hs : ⟨.updateReconciliation s, a⟩ ∈ log.own i) : a = .ok () := by
  obtain ⟨g, -, htold⟩ := h.exists_told hunused
  exact htold.confirmed s a (List.mem_map_of_mem (Log.mem_own_iff.mp hs))

theorem inserted_subset (hunused : S₀.Unused) (h : Logged setup admits S₀ log S) :
    (log.own i).inserted ⊆ (log.own i).drawn := by
  obtain ⟨g, -, htold⟩ := h.exists_told hunused
  exact fun id hid => (htold.inserted i).subset (List.mem_append_left _ hid)

end Logged

end System

end BankReconciliation
