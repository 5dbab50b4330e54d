import BankReconciliation.Proofs.Service.Operations
import BankReconciliation.Proofs.Store.Church

/-! What a listing discloses of other churches. The statements on a page are always those of the
filter's church, but a token is looked for among the statements of all churches, and the place of
the one that it names decides where the page begins. -/

namespace BankReconciliation

namespace Store.Statements

variable {stored stored' : Statements} {filter : StatementFilter} {pageSize : Int32}
  {token : Option Uuid} {cursor cursor' : Option Statement} {s t : Statement}

theorem Follows.of_precedes (h : Follows cursor s) (hst : s = t ∨ s.precedes t) :
    Follows cursor t := by
  intro c hc
  rcases hst with rfl | hst
  · exact h c hc
  · exact (h c hc).trans hst

theorem page_eq_following : stored.page filter pageSize token =
    ⟨(stored.following filter (stored.cursor? token)).take (pageLimit pageSize),
      if pageLimit pageSize < (stored.following filter (stored.cursor? token)).length then
        ((stored.following filter (stored.cursor? token)).take
          (pageLimit pageSize)).getLast?.map (·.id.render)
      else none⟩ := rfl

theorem following_of_ofChurch
    (hsame : stored.ofChurch filter.churchId = stored'.ofChurch filter.churchId) :
    stored.following filter cursor = stored'.following filter cursor := by
  rw [following, following, ← accepted_ofChurch, hsame, accepted_ofChurch]

theorem following_congr
    (h : ∀ s ∈ stored, filter.accepts s = true → (Follows cursor s ↔ Follows cursor' s)) :
    stored.following filter cursor = stored.following filter cursor' := by
  refine List.filter_congr fun s hs => ?_
  obtain ⟨hstored, haccepts⟩ := mem_accepted.mp hs
  have hiff : ∀ c : Option Statement, (c.all (·.precedes s)) = true ↔ Follows c s := by
    intro c
    cases c <;> simp [Follows]
  rw [Bool.eq_iff_iff, hiff, hiff]
  exact h s hstored haccepts

/-- The first page after a cursor shows whatever else comes after it. -/
theorem follows_of_take_eq (hids : (stored.map Statement.id).Nodup) {limit : Nat}
    (hlimit : 0 < limit) (hs : s ∈ stored.following filter cursor)
    (h : (stored.following filter cursor).take limit =
      (stored.following filter cursor').take limit) : Follows cursor' s := by
  cases hrest : stored.following filter cursor with
  | nil =>
    rw [hrest] at hs
    cases hs
  | cons first rest =>
    have hfirst : first ∈ (stored.following filter cursor').take limit := by
      obtain ⟨n, rfl⟩ := Nat.exists_eq_add_one.mpr hlimit
      rw [← h, hrest, List.take_succ_cons]
      exact List.mem_cons_self
    have hfollows : Follows cursor' first := (mem_following.mp (List.mem_of_mem_take hfirst)).2.2
    have hpair : (first :: rest).Pairwise Statement.precedes := hrest ▸ pairwise_following hids
    refine hfollows.of_precedes ?_
    rcases List.mem_cons.mp (hrest ▸ hs) with rfl | hlater
    · exact .inl rfl
    · exact .inr (List.rel_of_pairwise_cons hpair hlater)

/-- Two stores with the same statements of a church show it the same page exactly if their cursors
cut its statements at the same place. -/
theorem page_eq_page_iff (hids : (stored.map Statement.id).Nodup)
    (hsame : stored.ofChurch filter.churchId = stored'.ofChurch filter.churchId) :
    stored.page filter pageSize token = stored'.page filter pageSize token ↔
      ∀ s ∈ stored, filter.accepts s = true →
        (Follows (stored.cursor? token) s ↔ Follows (stored'.cursor? token) s) := by
  rw [page_eq_following, page_eq_following, ← following_of_ofChurch hsame]
  constructor
  · intro h s hstored haccepts
    have htake := congrArg Page.items h
    have hlimit := pageLimit_pos pageSize
    constructor
    · intro hs
      exact follows_of_take_eq hids hlimit (mem_following.mpr ⟨hstored, haccepts, hs⟩) htake
    · intro hs
      exact follows_of_take_eq hids hlimit (mem_following.mpr ⟨hstored, haccepts, hs⟩) htake.symm
  · intro h
    rw [following_congr h]

end Store.Statements

namespace Service

open Store (Statements)

variable {m m' : Memory} {filter : StatementFilter} {pageSize : Int32} {token : Option Uuid}

/-- A listing for one church answers alike on two stores that hold the same statements of the church
exactly if the token stands for the same place among them. It does so whenever the statement that
the token names, if there is one, is of the church. -/
theorem list_discloses_iff (hids : (m.statements.map Statement.id).Nodup)
    (hsame : m.statements.ofChurch filter.churchId = m'.statements.ofChurch filter.churchId) :
    ((Program.run Memory.answer (list filter pageSize (token.map Uuid.render)).run m).1 =
        (Program.run Memory.answer (list filter pageSize (token.map Uuid.render)).run m').1 ↔
      ∀ s ∈ m.statements, filter.accepts s = true →
        (Statements.Follows (m.statements.cursor? token) s ↔
          Statements.Follows (m'.statements.cursor? token) s)) ∧
    (m.statements.TokenWithin filter.churchId token →
      m'.statements.TokenWithin filter.churchId token →
      (Program.run Memory.answer (list filter pageSize (token.map Uuid.render)).run m).1 =
        (Program.run Memory.answer (list filter pageSize (token.map Uuid.render)).run m').1) := by
  simp only [run_list, Program.Outcome.returned.injEq, Except.ok.injEq]
  refine ⟨Statements.page_eq_page_iff hids hsame, fun htoken htoken' => ?_⟩
  rw [← Statements.page_ofChurch htoken, hsame, Statements.page_ofChurch htoken']

end Service

namespace Sample

/-- A statement of another church, posted a day after the other ones. -/
def foreign : Statement :=
  { statement with
    id := .ofNat 7, churchId := "other", postedAt := .midnight ⟨2025, 1, 16, by decide⟩ }

def shared : Memory := { used with statements := [statement, foreign] }

def whole : StatementFilter := { churchId := "church" }

end Sample

namespace Service

open Store (Statements)

/-- The first page is the same whatever the other church has stored. -/
theorem list_discloses_iff_first_page :
    (Program.run Memory.answer (list Sample.whole 10 ((none : Option Uuid).map Uuid.render)).run
        Sample.used).1 =
      (Program.run Memory.answer (list Sample.whole 10 ((none : Option Uuid).map Uuid.render)).run
        Sample.shared).1 :=
  (list_discloses_iff (by decide) rfl).2 Statements.tokenWithin_none Statements.tokenWithin_none

/-- A church that asks with the id of another church's statement finds out whether it is stored and
when it was posted: the page begins after its place. -/
theorem not_list_discloses_nothing :
    ¬ ∀ (m m' : Memory) (filter : StatementFilter) (pageSize : Int32) (token : Option Uuid),
      (m.statements.map Statement.id).Nodup → (m'.statements.map Statement.id).Nodup →
      m.statements.ofChurch filter.churchId = m'.statements.ofChurch filter.churchId →
      (Program.run Memory.answer (list filter pageSize (token.map Uuid.render)).run m).1 =
        (Program.run Memory.answer (list filter pageSize (token.map Uuid.render)).run m').1 := by
  intro h
  have hpages := h Sample.used Sample.shared Sample.whole 10 (some (.ofNat 7)) (by decide)
    (by decide) rfl
  simp only [run_list, Program.Outcome.returned.injEq, Except.ok.injEq] at hpages
  have hids : (Sample.used.statements.map Statement.id).Nodup := by decide
  have hsame : Sample.used.statements.ofChurch "church" =
      Sample.shared.statements.ofChurch "church" := rfl
  have haccepts : Sample.whole.accepts Sample.statement = true := by decide
  have hplaces := (Statements.page_eq_page_iff hids hsame).mp hpages Sample.statement
    List.mem_cons_self haccepts
  -- the token names nothing in the one store and the later statement in the other
  have hfirst : Statements.Follows (Sample.used.statements.cursor? (some (.ofNat 7)))
      Sample.statement := Statements.follows_none _
  have hcut : Sample.foreign.precedes Sample.statement := hplaces.mp hfirst Sample.foreign rfl
  exact absurd hcut (by decide)

end Service

end BankReconciliation
