import BankReconciliation.Proofs.Interleaving.Listing
import BankReconciliation.Proofs.Service.Failures

/-! What becomes of a stored statement while operations run. It stays in its place, all that it was
inserted with stays as it is, and once it is decided it is never pending again. -/

namespace BankReconciliation

namespace Statement

@[simp] theorem status_markReconciled (s : Statement) (r : String) (t : Instant) :
    (s.markReconciled r t).status = .reconciled := rfl
@[simp] theorem status_markUnmatched (s : Statement) (t : Instant) :
    (s.markUnmatched t).status = .unmatched := rfl

/-- A later state of the same statement. -/
structure Later (s t : Statement) : Prop where
  entry : t.entry = s.entry
  decided : s.status ≠ .pending → t.status ≠ .pending

variable {s t u : Statement}

theorem Later.refl (s : Statement) : s.Later s := ⟨rfl, fun h => h⟩

theorem Later.trans (h : s.Later t) (h' : t.Later u) : s.Later u :=
  ⟨h'.entry.trans h.entry, h'.decided ∘ h.decided⟩

theorem Later.amount (h : s.Later t) : t.amount = s.amount := by
  have hentry : t.entry.amount = s.entry.amount := congrArg Statement.amount h.entry
  exact hentry

end Statement

namespace Store.Statements

/-- In the place of each statement there is still that statement, in a later state. -/
def Keeps (stored stored' : Statements) : Prop :=
  ∀ (i : Nat) (s : Statement), stored[i]? = some s → ∃ t, stored'[i]? = some t ∧ s.Later t

variable {stored stored' stored'' : Statements} {s t : Statement}

namespace Keeps

theorem refl (stored : Statements) : stored.Keeps stored := fun _ s hs => ⟨s, hs, .refl s⟩

theorem trans (h : stored.Keeps stored') (h' : stored'.Keeps stored'') : stored.Keeps stored'' := by
  intro i s hs
  obtain ⟨t, ht, hst⟩ := h i s hs
  obtain ⟨u, hu, htu⟩ := h' i t ht
  exact ⟨u, hu, hst.trans htu⟩

theorem exists_earlier (h : stored.Keeps stored') (hlength : stored'.length = stored.length)
    (ht : t ∈ stored') : ∃ s ∈ stored, s.Later t := by
  obtain ⟨i, hi, rfl⟩ := List.getElem_of_mem ht
  have hs : stored[i]? = some stored[i] := List.getElem?_eq_getElem (hlength ▸ hi)
  obtain ⟨u, hu, hlater⟩ := h i _ hs
  rw [List.getElem?_eq_getElem hi] at hu
  exact ⟨_, List.getElem_mem _, Option.some.inj hu ▸ hlater⟩

end Keeps

theorem keeps_append (stored added : Statements) : stored.Keeps (stored ++ added) := by
  intro i s hs
  obtain ⟨hi, -⟩ := List.getElem?_eq_some_iff.mp hs
  exact ⟨s, by rw [List.getElem?_append_left hi, hs], .refl s⟩

theorem keeps_replace? (h : stored.replace? s = some stored')
    (hentries : stored'.map Statement.entry = stored.map Statement.entry)
    (hs : s.status ≠ .pending) : stored.Keeps stored' := by
  obtain ⟨before, old, after, rfl, rfl, -⟩ := exists_replaced h
  have hentry : s.entry = old.entry := by simpa using hentries
  intro i u hu
  rcases Nat.lt_trichotomy i before.length with hi | rfl | hi
  · rw [List.getElem?_append_left hi] at hu ⊢
    exact ⟨u, hu, .refl u⟩
  · rw [List.getElem?_append_right (Nat.le_refl _), Nat.sub_self] at hu ⊢
    obtain rfl := Option.some.inj hu
    exact ⟨s, rfl, hentry, fun _ => hs⟩
  · obtain ⟨j, hj⟩ := Nat.exists_eq_add_of_lt hi
    rw [List.getElem?_append_right (Nat.le_of_lt hi)] at hu ⊢
    rw [show i - before.length = j + 1 by omega, List.getElem?_cons_succ] at hu ⊢
    exact ⟨u, hu, .refl u⟩

theorem keeps_pending_refl (stored : Statements) :
    stored.Keeps stored ∧ ∀ s ∈ stored.drop stored.length, s.status = .pending := by
  rw [List.drop_length]
  exact ⟨.refl _, fun s hs => nomatch hs⟩

theorem keeps_pending_replace? (h : stored.replace? s = some stored')
    (hentries : stored'.map Statement.entry = stored.map Statement.entry)
    (hs : s.status ≠ .pending) :
    stored.Keeps stored' ∧ ∀ t ∈ stored'.drop stored.length, t.status = .pending := by
  have hlength : stored'.length = stored.length := by simpa using congrArg List.length hentries
  refine ⟨keeps_replace? h hentries hs, ?_⟩
  rw [← hlength]
  exact (keeps_pending_refl stored').2

end Store.Statements

variable {m m' : Memory} {g g' : Nat → Standing} {gi : Standing} {i : Nat}

/-- A turn leaves the stored statements in their places, and those that it adds are pending. -/
theorem Effect.keeps (he : Effect m (g i) m' gi) (h : Filed m g) :
    m.statements.Keeps m'.statements ∧
      ∀ s ∈ m'.statements.drop m.statements.length, s.status = .pending := by
  have hquiet : ∀ {stored : Store.Statements}, stored = m.statements →
      m.statements.Keeps stored ∧
        ∀ s ∈ stored.drop m.statements.length, s.status = .pending := by
    rintro _ rfl
    exact Store.Statements.keeps_pending_refl _
  cases he with
  | quiet hm _ => exact hquiet hm.statements
  | @insert candidates added _ _ _ hnew hsub _ =>
    refine ⟨Store.Statements.keeps_append _ _, fun s hs => ?_⟩
    rw [List.drop_left] at hs
    rw [Statement.status, (hnew s (hsub.subset hs)).1]
    rfl
  | choose hm _ _ _ => exact hquiet hm.statements
  | @bind s r t statements hg hrep =>
    have hentry : (s.markReconciled r.id t).entry ∈ m.statements.map Statement.entry :=
      (h.informed i).chosen s _ hg
    exact Store.Statements.keeps_pending_replace? hrep (h.entries_replace? hentry hrep) (by simp)
  | @unbind s t statements hg hrep =>
    have hentry : (s.markUnmatched t).entry ∈ m.statements.map Statement.entry :=
      (h.informed i).chosen s _ hg
    exact Store.Statements.keeps_pending_replace? hrep (h.entries_replace? hentry hrep) (by simp)
  | _ => exact hquiet rfl

theorem Advance.keeps (ha : Advance m g m' g') (h : Filed m g) :
    m.statements.Keeps m'.statements ∧
      ∀ s ∈ m'.statements.drop m.statements.length, s.status = .pending := by
  rcases ha.turn_or with ⟨i, gi, he, -⟩ | ⟨hsame, -⟩
  · exact he.keeps h
  · rw [hsame]
    exact Store.Statements.keeps_pending_refl _

namespace System

variable {setup : ImportSetup} {admits : System → Service.Request → Prop} {S₀ S S' : System}

theorem Sound.keeps_step (h : S.Sound) (hs : Step setup admits S S') :
    S.memory.statements.Keeps S'.memory.statements ∧
      ∀ s ∈ S'.memory.statements.drop S.memory.statements.length, s.status = .pending := by
  obtain ⟨g, hg, hfiled⟩ := h
  obtain ⟨g', -, ha⟩ := hg.step hs
  exact ha.keeps hfiled

theorem Sound.keeps (h : S.Sound) (hreach : Reaches setup admits S S')
    (hf : S'.memory.IdsFresh) : S.memory.statements.Keeps S'.memory.statements := by
  induction hreach with
  | refl => exact .refl _
  | tail hreach hlast ih =>
    have hfresh := idsFresh_of_reaches (.single hlast) hf
    exact (ih hfresh).trans ((h.reaches hreach hfresh).1.keeps_step hlast).1

end System

namespace Dialogue

def InsertsMagnitudes (d : Dialogue) : Prop :=
  ∀ candidates a, ⟨.insertMany candidates, a⟩ ∈ d → ∀ s ∈ candidates, s.amount.negative = false

variable {d d₁ d₂ : Dialogue}

theorem InsertsMagnitudes.of_kind {kind : Call → Bool}
    (hkind : ∀ candidates, kind (.insertMany candidates) = false)
    (h : ∀ x ∈ d, kind x.request = true) : d.InsertsMagnitudes := by
  intro candidates a hmem
  have hcall := h _ hmem
  rw [hkind] at hcall
  cases hcall

theorem InsertsMagnitudes.of_quiet (h : ∀ x ∈ d, Call.isQuiet x.request = true) :
    d.InsertsMagnitudes := .of_kind (fun _ => rfl) h

theorem InsertsMagnitudes.append (h₁ : InsertsMagnitudes d₁) (h₂ : InsertsMagnitudes d₂) :
    InsertsMagnitudes (d₁ ++ d₂) := by
  intro candidates a hmem
  rcases List.mem_append.mp hmem with hmem | hmem
  · exact h₁ candidates a hmem
  · exact h₂ candidates a hmem

end Dialogue

theorem Task.Looks.transcript {α : Type} {p : Task α} {d : Dialogue} {o : Program.Outcome α}
    (hp : p.Looks) (h : p.Transcript d o) : ∀ x ∈ d, Call.isLook x.request = true := by
  induction p generalizing d with
  | done a =>
    obtain ⟨rfl, -⟩ := h
    exact fun x hx => nomatch hx
  | abort =>
    obtain ⟨rfl, -⟩ := h
    exact fun x hx => nomatch hx
  | call c next ih =>
    obtain ⟨a, rest, rfl, h⟩ := h
    exact List.forall_mem_cons.mpr ⟨hp.1, ih a (hp.2 a) h⟩

namespace Service

open Program

variable {setup : ImportSetup} {job : ImportJob} {d : Dialogue}

theorem Intake.insertsMagnitudes (i : Intake setup job) {a : Reply (List Uuid)} :
    Dialogue.InsertsMagnitudes (i.dialogue ++ [⟨.insertMany i.candidates, a⟩]) := by
  refine .append (.of_kind (fun _ => rfl) i.prepares) ?_
  intro candidates b hmem s hs
  cases List.mem_singleton.mp hmem
  obtain ⟨id, -, l, -, rfl⟩ := exists_of_mem_statementsOf hs
  rfl

theorem Imported.insertsMagnitudes {o : Program.Outcome (Reply Summary)}
    (h : Imported setup job d o) : d.InsertsMagnitudes := by
  have hstoring : ∀ (i : Intake setup job) ids ss tries, TriedAll ss tries →
      Dialogue.InsertsMagnitudes (i.dialogue ++ (i.storing ids ++ said tries)) := by
    intro i ids ss tries ht
    have hlater : Dialogue.InsertsMagnitudes (⟨.count (.lines "inserted" (i.taken ids).length), ()⟩
        :: ⟨.count (.lines "duplicate" (i.duplicates ids)), ()⟩ :: said tries) :=
      .of_quiet (List.forall_mem_cons.mpr
        ⟨rfl, List.forall_mem_cons.mpr ⟨rfl, isQuiet_said ht⟩⟩)
    have hall := (i.insertsMagnitudes (a := .ok ids)).append hlater
    rwa [List.append_assoc] at hall
  cases h with
  | refused hd => exact .of_kind (fun _ => rfl) hd
  | unstored i => exact i.insertsMagnitudes
  | finished i ht => exact hstoring i _ _ _ ht
  | brokenOff i _ ht _ => exact hstoring i _ _ _ ht

theorem isQuiet_of_fetches (h : ∀ x ∈ d, Call.fetches x.request = true) :
    ∀ x ∈ d, Call.isQuiet x.request = true := by
  intro x hx
  have hc := h x hx
  obtain ⟨c, a⟩ := x
  cases c with
  | insertMany _ | notify _ _ | removeFile _ => cases hc
  | _ => rfl

theorem Retried.isQuiet {result : Reply Outcome} (h : Retried d result) :
    ∀ x ∈ d, Call.isQuiet x.request = true := by
  cases h with
  | refused hd => exact isQuiet_of_fetches hd
  | failed h => exact List.forall_mem_cons.mpr ⟨rfl, h.isQuiet⟩
  | retried h =>
    refine List.forall_mem_cons.mpr ⟨rfl, ?_⟩
    exact List.forall_mem_append.mpr ⟨h.isQuiet, List.forall_mem_singleton.mpr rfl⟩

theorem Linked.isQuiet {churchId id recordId : String} {result : Reply Statement}
    (h : Linked churchId id recordId d result) : ∀ x ∈ d, Call.isQuiet x.request = true := by
  cases h with
  | refused hd => exact isQuiet_of_fetches hd
  | unstored _ => simp [Call.isQuiet]
  | linked _ ht => cases ht <;> simp [Call.isQuiet]

/-- Whatever is asked of the service, it inserts no statement with a negative amount. -/
theorem insertsMagnitudes_of_task {request : Request} {o : Program.Outcome Response}
    (h : (request.task setup).Transcript d o) : d.InsertsMagnitudes := by
  have hwork : ∀ {α : Type} {f : α → Response} {p : Task α},
      (∀ o, p.Transcript d o → d.InsertsMagnitudes) → (f <$> p).Transcript d o →
      d.InsertsMagnitudes := by
    intro α f p hp h
    rcases transcript_map h with ⟨a, h, -⟩ | ⟨h, -⟩
    · exact hp _ h
    · exact hp _ h
  cases request with
  | importFile job =>
    refine hwork (fun o h => ?_) h
    rcases transcript_handle h with ⟨result, work, closing, rfl, -, hwork, hclosing⟩ | ⟨-, hwork⟩
    · exact (transcript_importFile hwork).insertsMagnitudes.append
        (.of_kind (fun _ => rfl) hclosing.closes)
    · exact (transcript_importFile hwork).insertsMagnitudes
  | queueImport request =>
    exact hwork (fun o h => .of_kind (fun _ => rfl) ((looks_requestImport _ _).transcript h)) h
  | retry churchId id =>
    refine hwork (fun o h => .of_quiet ?_) h
    rcases transcript_retry h with ⟨result, -, hretried⟩ | ⟨-, uuid, s, -, rfl⟩
    · exact hretried.isQuiet
    · exact List.forall_mem_singleton.mpr rfl
  | link churchId id recordId =>
    refine hwork (fun o h => .of_quiet ?_) h
    obtain ⟨result, -, hlinked⟩ := transcript_link h
    exact hlinked.isQuiet
  | list filter pageSize token =>
    exact hwork (fun o h => .of_kind (fun _ => rfl) ((looks_list _ _ _).transcript h)) h

end Service

namespace System

variable {setup : ImportSetup} {admits : System → Service.Request → Prop} {S₀ S S' : System}

theorem magnitudes_of_insertMany {i : Nat} {request : Service.Request}
    {candidates : List Statement} {next : Reply (List Uuid) → Task Service.Response}
    (hunused : S₀.Unused) (h : Reaches setup admits S₀ S)
    (hi : S.activity i = some ⟨request, .call (.insertMany candidates) next⟩) :
    ∀ s ∈ candidates, s.amount.negative = false := by
  obtain ⟨log, hlog⟩ := reaches_iff_logged.mp h
  have hcontinues := hlog.continues hunused i
  rw [hi] at hcontinues
  have hwhole := hcontinues _ _ (Program.transcript_exchanges Memory.answer _ S.memory)
  exact Service.insertsMagnitudes_of_task hwhole candidates
    (Memory.answer (.insertMany candidates) S.memory).1
    (List.mem_append_right _ List.mem_cons_self)

theorem magnitudes_of_reaches (hunused : S₀.Unused) (hempty : S₀.memory.statements = [])
    (h : Reaches setup admits S₀ S) (hfresh : S.memory.IdsFresh) :
    ∀ s ∈ S.memory.statements, s.amount.negative = false := by
  induction h with
  | refl =>
    rw [hempty]
    exact fun s hs => nomatch hs
  | @tail S S' h hlast ih =>
    have hf := idsFresh_of_reaches (.single hlast) hfresh
    have hsound : S.Sound := ((Sound.of_empty hunused hempty).reaches h hf).1
    obtain ⟨hkeeps, -⟩ := hsound.keeps_step hlast
    have hkept : S'.memory.statements.length = S.memory.statements.length →
        ∀ s ∈ S'.memory.statements, s.amount.negative = false := by
      intro hlength s hs
      obtain ⟨t, ht, hlater⟩ := hkeeps.exists_earlier hlength hs
      rw [hlater.amount]
      exact ih hf t ht
    -- the steps that add nothing keep the amounts, so only the insertion is left to look at
    cases hlast with
    | start _ _ => exact ih hf
    | @call i request c next hi =>
      have hids := congrArg List.length (Memory.ids_answer c S.memory)
      rw [List.length_append, List.length_map, List.length_map] at hids
      cases c with
      | insertMany candidates =>
        obtain ⟨added, hsub, hadd⟩ :=
          Store.Statements.exists_added S.memory.statements candidates
        intro s hs
        simp only [withActivity_memory, Memory.answer, hadd] at hs
        rcases List.mem_append.mp hs with hs | hs
        · exact ih hf s hs
        · exact magnitudes_of_insertMany hunused h hi s (hsub.subset hs)
      | _ => exact hkept hids
    | addRecord _ => exact ih hf
    | surroundings hm => exact hm.statements ▸ ih hf

/-- From an empty store on, whatever operations run side by side, each stored statement stays in its
place with all that it was inserted with, its amount is not negative, and it is never pending again
once it is decided. What a step adds is pending. -/
theorem permanent_of_reaches (hunused : S₀.Unused) (hempty : S₀.memory.statements = [])
    (h : Reaches setup admits S₀ S) (h' : Reaches setup admits S S')
    (hfresh : S'.memory.IdsFresh) :
    S.memory.statements.Keeps S'.memory.statements ∧
      (∀ s ∈ S'.memory.statements, s.amount.negative = false) ∧
      (Step setup admits S S' →
        ∀ s ∈ S'.memory.statements.drop S.memory.statements.length, s.status = .pending) := by
  have hsound : S.Sound :=
    ((Sound.of_empty hunused hempty).reaches h (idsFresh_of_reaches h' hfresh)).1
  exact ⟨hsound.keeps h' hfresh, magnitudes_of_reaches hunused hempty (h.trans h') hfresh,
    fun hstep => (hsound.keeps_step hstep).2⟩

/-- Two imports have inserted a statement each; the first is reconciled then. -/
theorem permanent_of_reaches_inserted :
    ∃ S, Reaches Sample.setup anything Sample.inserted S ∧
      Sample.inserted.memory.statements.map Statement.status = [.pending, .pending] ∧
      S.memory.statements.map Statement.status = [.reconciled, .pending] ∧
      Sample.inserted.memory.statements.Keeps S.memory.statements :=
  ⟨Sample.inserted.turns (List.replicate 10 0), reaches_turns _ _, by decide +kernel,
    by decide +kernel, (permanent_of_reaches Sample.unused_start rfl reaches_inserted
      (reaches_turns _ _) (by decide +kernel)).1⟩

end System

end BankReconciliation
