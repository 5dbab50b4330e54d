import BankReconciliation.Proofs.Interleaving.Deduplication
import BankReconciliation.Proofs.Interleaving.Log
import BankReconciliation.Proofs.Service.Operations
import BankReconciliation.Proofs.Store.Walk

/-! Callers that walk through a listing, page after page, while operations run. -/

namespace BankReconciliation

theorem Advance.entries_subset {m m' : Memory} {g g' : Nat → Standing} (ha : Advance m g m' g')
    (h : Filed m g) : m.statements.map Statement.entry ⊆ m'.statements.map Statement.entry := by
  rcases ha.turn_or with ⟨i, gi, he, -⟩ | ⟨hsame, -⟩
  · cases he with
    | quiet hm _ => exact hm.statements ▸ List.Subset.refl _
    | insert _ _ _ _ _ _ =>
      rw [List.map_append]
      exact List.subset_append_left _ _
    | choose hm _ _ _ => exact hm.statements ▸ List.Subset.refl _
    | @bind s r t statements hg hrep =>
      have hentry : (s.markReconciled r.id t).entry ∈ _ := (h.informed i).chosen s _ hg
      exact h.entries_replace? hentry hrep ▸ List.Subset.refl _
    | @unbind s t statements hg hrep =>
      have hentry : (s.markUnmatched t).entry ∈ _ := (h.informed i).chosen s _ hg
      exact h.entries_replace? hentry hrep ▸ List.Subset.refl _
    | _ => exact List.Subset.refl _
  · exact hsame ▸ List.Subset.refl _

namespace System

open Store (Statements)

variable {setup : ImportSetup} {admits : System → Service.Request → Prop} {S S' S₀ : System}
  {filter : StatementFilter} {pageSize : Int32}

theorem idsFresh_of_reaches (h : Reaches setup admits S S') (hf : S'.memory.IdsFresh) :
    S.memory.IdsFresh := by
  obtain ⟨log, hlog⟩ := reaches_iff_logged.mp h
  obtain ⟨hsupply, hissued, -⟩ := hlog.drawn_eq
  intro a ha b hb hab
  exact hf a (by omega) b (by omega) (hsupply ▸ hab)

/-- The operations keep to their turns, and all that is stored is in its place. -/
def Sound (S : System) : Prop := ∃ g, Orderly S g ∧ Filed S.memory g

namespace Sound

theorem of_empty (hunused : S.Unused) (hempty : S.memory.statements = []) : S.Sound :=
  ⟨_, .of_unused hunused, .of_empty hempty⟩

theorem nodup (h : S.Sound) : (S.memory.statements.map Statement.id).Nodup := by
  obtain ⟨g, -, hfiled⟩ := h
  exact hfiled.held.nodup none

theorem reaches (h : S.Sound) (hreach : Reaches setup admits S S') (hf : S'.memory.IdsFresh) :
    S'.Sound ∧
      S.memory.statements.map Statement.entry ⊆ S'.memory.statements.map Statement.entry := by
  obtain ⟨g, hg, hfiled⟩ := h
  have hstep : ∀ (T T' : System) (g g' : Nat → Standing), Orderly T g → Orderly T' g' →
      Step setup admits T T' → Advance T.memory g T'.memory g' →
      (T.memory.IdsFresh → Filed T.memory g ∧
        S.memory.statements.map Statement.entry ⊆ T.memory.statements.map Statement.entry) →
      T'.memory.IdsFresh → Filed T'.memory g' ∧
        S.memory.statements.map Statement.entry ⊆ T'.memory.statements.map Statement.entry := by
    intro T T' g g' _ _ _ ha hinv hf
    obtain ⟨hfiled, hsub⟩ := hinv (ha.idsFresh hf)
    exact ⟨hfiled.advance ha hf, List.Subset.trans hsub (ha.entries_subset hfiled)⟩
  obtain ⟨g', hg', hinv⟩ := hg.reaches (fun _ _ => id) hstep
    (fun _ => ⟨hfiled, List.Subset.refl _⟩) hreach
  obtain ⟨hfiled', hsub⟩ := hinv hf
  exact ⟨⟨g', hg', hfiled'⟩, hsub⟩

end Sound

/-- A listing answers with a page, and leaves the memory as it is. -/
def Lists (S : System) (filter : StatementFilter) (pageSize : Int32) (token : Option String)
    (page : Page) : Prop :=
  (Service.list filter pageSize token).run.run Memory.answer S.memory =
    (.returned (.ok page), S.memory)

/-- A walk through a listing: it goes on with a token in one system, has more pages, each with what
is stored when it is asked for, and comes to a page without a token in another system. -/
inductive Walk (setup : ImportSetup) (admits : System → Service.Request → Prop)
    (filter : StatementFilter) (pageSize : Int32) :
    Option String → System → List (Statements × Page) → System → Prop
  | last {token S page} (h : S.Lists filter pageSize token page) (hnext : page.next = none) :
    Walk setup admits filter pageSize token S [(S.memory.statements, page)] S
  | next {token t S S' final page pages} (h : S.Lists filter pageSize token page)
    (hnext : page.next = some t) (hreach : Reaches setup admits S S')
    (hrest : Walk setup admits filter pageSize (some t) S' pages final) :
    Walk setup admits filter pageSize token S ((S.memory.statements, page) :: pages) final

def tokenOf (cursor : Option Statement) : Option String := (cursor.map Statement.id).map Uuid.render

theorem lists_iff {cursor : Option Statement} {page : Page} :
    S.Lists filter pageSize (tokenOf cursor) page ↔
      page = S.memory.statements.page filter pageSize (cursor.map Statement.id) := by
  rw [Lists, tokenOf, Service.run_list]
  constructor
  · intro h
    obtain ⟨h, -⟩ := Prod.mk.inj h
    exact (Except.ok.inj (Program.Outcome.returned.inj h)).symm
  · rintro rfl
    rfl

theorem Lists.cut {cursor : Option Statement} {page : Page}
    (h : S.Lists filter pageSize (tokenOf cursor) page)
    (hids : (S.memory.statements.map Statement.id).Nodup)
    (hc : ∀ c ∈ cursor, c.entry ∈ S.memory.statements.map Statement.entry) :
    Statements.Cut (pageLimit pageSize) (S.memory.statements.following filter cursor) page :=
  lists_iff.mp h ▸ Statements.cut_page hids hc

theorem Walk.idsFresh {token : Option String} {pages : List (Statements × Page)}
    (h : Walk setup admits filter pageSize token S pages S') (hf : S'.memory.IdsFresh) :
    S.memory.IdsFresh := by
  induction h with
  | last _ _ => exact hf
  | next _ _ hreach _ ih => exact idsFresh_of_reaches hreach (ih hf)

theorem Walk.toStatements {token : Option String} {pages : List (Statements × Page)}
    {cursor : Option Statement} (h : Walk setup admits filter pageSize token S pages S')
    (hs : S.Sound) (hf : S'.memory.IdsFresh) (htoken : token = tokenOf cursor)
    (hc : ∀ c ∈ cursor, c.entry ∈ S.memory.statements.map Statement.entry) :
    Statements.Walk filter (pageLimit pageSize) cursor S.memory.statements pages := by
  induction h generalizing cursor with
  | @last token S page hlists hnext =>
    subst htoken
    have hcut := hlists.cut hs.nodup hc
    generalize hrest : S.memory.statements.following filter cursor = rest at hcut
    cases hcut with
    | last hsize =>
      subst hrest
      exact .last hs.nodup hsize
    | more _ _ => cases hnext
  | @next token t S T final page pages hlists hnext hreach hwalk ih =>
    subst htoken
    have hcut := hlists.cut hs.nodup hc
    generalize hrest : S.memory.statements.following filter cursor = rest at hcut
    cases hcut with
    | last _ => cases hnext
    | @more before c after hsize hafter =>
      obtain ⟨hs', hkept⟩ := hs.reaches hreach (hwalk.idsFresh hf)
      have hmem : c ∈ S.memory.statements := Statements.mem_of_following_eq hrest
      refine .next hs.nodup hrest hafter hsize hkept (ih hs' hf hnext.symm ?_)
      rintro d hd
      obtain rfl := Option.some.inj hd
      exact hkept (List.mem_map_of_mem hmem)

theorem exists_walk (hids : (S.memory.statements.map Statement.id).Nodup)
    (cursor : Option Statement)
    (hc : ∀ c ∈ cursor, c.entry ∈ S.memory.statements.map Statement.entry) :
    ∃ pages, Walk setup admits filter pageSize (tokenOf cursor) S pages S ∧
      ∀ p ∈ pages, p.1 = S.memory.statements := by
  generalize hn : (S.memory.statements.following filter cursor).length = n
  induction n using Nat.strong_induction_on generalizing cursor with
  | _ n ih =>
    obtain ⟨page, hlists⟩ : ∃ page, S.Lists filter pageSize (tokenOf cursor) page :=
      ⟨_, lists_iff.mpr rfl⟩
    have hcut := hlists.cut hids hc
    generalize hrest : S.memory.statements.following filter cursor = rest at hn hcut
    cases hcut with
    | last _ => exact ⟨_, .last hlists rfl, List.forall_mem_singleton.mpr rfl⟩
    | @more before c after _ _ =>
      have hshorter : (S.memory.statements.following filter (some c)).length < n := by
        rw [← hn, Statements.following_of_append hids hrest, List.length_append, List.length_cons]
        omega
      have hentry : ∀ d ∈ some c, d.entry ∈ S.memory.statements.map Statement.entry := by
        rintro d hd
        obtain rfl := Option.some.inj hd
        exact List.mem_map_of_mem (Statements.mem_of_following_eq hrest)
      obtain ⟨pages, hwalk, hsame⟩ := ih _ hshorter (some c) hentry rfl
      exact ⟨_, .next hlists rfl .refl hwalk, List.forall_mem_cons.mpr ⟨rfl, hsame⟩⟩

/-- What a walk through a listing finds, from its first page to its last. -/
structure Complete (filter : StatementFilter) (pageSize : Int32)
    (pages : List (Statements × Page)) : Prop where
  distinct : ((Statements.listed pages).map Statement.id).Nodup
  increasing : (Statements.listed pages).Pairwise Statement.precedes
  /-- What is stored and accepted at every call is listed once. -/
  once : ∀ id, (∀ p ∈ pages, ∃ s ∈ p.1, s.id = id ∧ filter.accepts s = true) →
    ((Statements.listed pages).map Statement.id).count id = 1
  listed : ∀ p ∈ pages, ∀ s ∈ p.2.items, s ∈ p.1 ∧ filter.accepts s = true
  size : ∀ p ∈ pages, (p.2.items.length : Int) ≤ max 1 (min 100 pageSize.toInt)
  /-- A page has a token if and only if an accepted statement comes after all that was listed. -/
  token : ∀ earlier p later, pages = earlier ++ p :: later → (p.2.next.isSome = true ↔
    ∃ s ∈ p.1, filter.accepts s = true ∧
      ∀ t ∈ Statements.listed (earlier ++ [p]), t.precedes s)
  /-- Any system goes on with the tokens of the pages. -/
  answered : ∀ p ∈ pages, ∀ t, p.2.next = some t →
    ∀ S : System, ∃ page, S.Lists filter pageSize (some t) page
  unchanged : ∀ stored : Statements, (∀ p ∈ pages, p.1 = stored) →
    (Statements.listed pages).Perm (List.filter filter.accepts stored)

theorem complete_of_walk {stored : Statements} {pages : List (Statements × Page)}
    (h : Statements.Walk filter (pageLimit pageSize) none stored pages) :
    Complete filter pageSize pages where
  distinct := h.nodup_listed
  increasing := h.pairwise
  once id hmatch := by
    refine List.count_eq_one_of_mem h.nodup_listed (h.mem_ids_listed hmatch ?_)
    exact fun s _ _ => Statements.follows_none s
  listed p hp := (h.page_sound hp).2
  size p hp := by
    have hsize := (h.page_sound hp).1
    unfold pageLimit at hsize
    omega
  token earlier p later hpages := by
    rw [h.isSome_next_iff hpages]
    simp only [Statements.follows_none, true_and]
  answered p hp t ht S := by
    obtain ⟨c, rfl⟩ := h.exists_of_next hp ht
    have hlists : S.Lists filter pageSize (tokenOf (some c)) _ := lists_iff.mpr rfl
    exact ⟨_, hlists⟩
  unchanged stored' hsame := by
    obtain ⟨page, rest, rfl⟩ := h.exists_head
    obtain rfl : stored = stored' := hsame _ List.mem_cons_self
    rw [h.listed_eq hsame, Statements.following_none]
    exact Statements.accepted_perm _ _

/-- In a store that was filled by the service, a walk through a listing comes to its end if nothing
changes meanwhile; and every walk that comes to its end, whatever operations do meanwhile, lists
each statement once that was there to be listed all the time. -/
theorem walks_complete_of_reaches (hunused : S₀.Unused) (hempty : S₀.memory.statements = [])
    (h : Reaches setup admits S₀ S) (hfresh : S.memory.IdsFresh) :
    (∃ pages, Walk setup admits filter pageSize none S pages S ∧
      ∀ p ∈ pages, p.1 = S.memory.statements) ∧
    ∀ pages S', Walk setup admits filter pageSize none S pages S' → S'.memory.IdsFresh →
      Complete filter pageSize pages := by
  obtain ⟨hs, -⟩ := (Sound.of_empty hunused hempty).reaches h hfresh
  have hnone : ∀ c ∈ (none : Option Statement), c.entry ∈ S.memory.statements.map Statement.entry :=
    fun _ hc => nomatch hc
  refine ⟨exists_walk hs.nodup none hnone, fun pages S' hwalk hfresh' => ?_⟩
  exact complete_of_walk (hwalk.toStatements hs hfresh' rfl hnone)

end System

/-- Two imports have inserted a statement each and go on to reconcile them. -/
def Sample.inserted : System :=
  ((start.starting setup 0 (importOf "https://a")).starting setup 1 (importOf "https://b")).turns
    (List.replicate 7 0 ++ List.replicate 7 1)

def Sample.pending : StatementFilter := { churchId := "church", status := some .pending }

namespace System

theorem reaches_inserted : Reaches Sample.setup anything Sample.start Sample.inserted :=
  ((reaches_starting rfl trivial).trans (reaches_starting rfl trivial)).trans (reaches_turns _ _)

/-- A walk through the pending statements, one by one; the first is reconciled before the second is
asked for with its token. -/
theorem walks_complete_of_reaches_pending :
    ∃ pages S, Walk Sample.setup anything Sample.pending 1 none Sample.inserted pages S ∧
      (Store.Statements.listed pages).map Statement.id = [.ofNat 0, .ofNat 1] ∧
      (S.memory.statements.accepted Sample.pending).map Statement.id = [.ofNat 1] ∧
      Complete Sample.pending 1 pages := by
  let S := Sample.inserted.turns (List.replicate 10 0)
  have hsorted : Sample.inserted.memory.statements.accepted Sample.pending =
      List.filter Sample.pending.accepts Sample.inserted.memory.statements :=
    Store.Statements.accepted_of_pairwise (by decide +kernel)
  have hsorted' : S.memory.statements.accepted Sample.pending =
      List.filter Sample.pending.accepts S.memory.statements :=
    Store.Statements.accepted_of_pairwise (by decide +kernel)
  have hwalk : Walk Sample.setup anything Sample.pending 1 none Sample.inserted
      [(Sample.inserted.memory.statements,
          Sample.inserted.memory.statements.page Sample.pending 1 none),
        (S.memory.statements, S.memory.statements.page Sample.pending 1 (some (.ofNat 0)))] S := by
    refine .next rfl (t := (Uuid.ofNat 0).render) ?_ (reaches_turns _ _) (.last rfl ?_)
    · rw [Store.Statements.page, hsorted]
      decide +kernel
    · rw [Store.Statements.page, hsorted']
      decide +kernel
  refine ⟨_, S, hwalk, ?_, ?_, ?_⟩
  · rw [Store.Statements.page, hsorted, Store.Statements.page, hsorted']
    decide +kernel
  · rw [hsorted']
    decide +kernel
  · exact (walks_complete_of_reaches Sample.unused_start rfl reaches_inserted
      (by decide +kernel)).2 _ S hwalk (by decide +kernel)

end System

end BankReconciliation
