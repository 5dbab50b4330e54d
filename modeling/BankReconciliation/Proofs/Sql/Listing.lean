import BankReconciliation.Proofs.Except
import BankReconciliation.Proofs.Service.Reconcile
import BankReconciliation.Proofs.Sql.Table
import BankReconciliation.Proofs.Sql.Wire

/-! Listings over a database. Its pages are those of the store as long as the token, if there is
one, names a stored statement. -/

namespace BankReconciliation

namespace Sql

open Statement (Row)
open Store (Statements)

variable {σ : Type}

/-- The first page of some statements, with the last one on it for a token if more follow. -/
def pageOf (limit : Nat) (rest : List Statement) : Page :=
  ⟨rest.take limit,
    if limit < rest.length then (rest.take limit).getLast?.map (·.id.render) else none⟩

theorem page_eq_pageOf {stored : Statements} {f : StatementFilter} {pageSize : Int32}
    {token : Option Uuid} : stored.page f pageSize token =
      pageOf (pageLimit pageSize) (stored.following f (stored.cursor? token)) := rfl

theorem pageOf_eq_nil_iff {limit : Nat} (hlimit : 0 < limit) {rest : List Statement} :
    pageOf limit rest = ⟨[], none⟩ ↔ rest = [] := by
  constructor
  · intro h
    have hitems := congrArg Page.items h
    rcases List.take_eq_nil_iff.mp hitems with hzero | hnil
    · omega
    · exact hnil
  · rintro rfl
    simp [pageOf]

/-- One statement more than fits the page shows whether others follow it. -/
theorem pageOf_eq (limit : Nat) (rest : List Statement) :
    pageOf limit rest = if limit < (rest.take (limit + 1)).length then
      ⟨(rest.take (limit + 1)).dropLast,
        (rest.take (limit + 1)).dropLast.getLast?.map (·.id.render)⟩
      else ⟨rest.take (limit + 1), none⟩ := by
  by_cases h : limit < rest.length
  · have hlength : (rest.take (limit + 1)).length = limit + 1 := by
      rw [List.length_take]
      omega
    have hfirst : (rest.take (limit + 1)).dropLast = rest.take limit := by
      rw [List.dropLast_eq_take, hlength, List.take_take, Nat.add_sub_cancel,
        Nat.min_eq_left (Nat.le_succ limit)]
    rw [pageOf, if_pos h, if_pos (by omega), hfirst]
  · have hlength : (rest.take (limit + 1)).length = rest.length := by
      rw [List.length_take]
      omega
    rw [pageOf, if_neg h, if_neg (by omega), List.take_of_length_le (by omega),
      List.take_of_length_le (by omega)]

/-- The query of a listing. It asks for one row more than fits the page. -/
def listing (f : StatementFilter) (pageSize : Int32) (token : Option Uuid) : Query :=
  .ofPieces (listPieces (conditions f token) (pageLimit pageSize + 1))

/-- What a listing relies on: the query is answered with the rows that it selects of the table. -/
def Selects (server : Program.Handler Wire σ) (table : List Row) (s : σ) (f : StatementFilter)
    (pageSize : Int32) (token : Option Uuid) : Prop :=
  ∃ r, (server (.query (listing f pageSize token)) s).1 = Except.ok r ∧
    r.rows = (select table (conditions f token) (pageLimit pageSize + 1)).map Row.toCells

theorem mapM_ofRow (statements : List Statement) :
    ((statements.map Statement.toRow).mapM fun row => (Statement.ofRow row : Exchange Statement)) =
      pure statements := by
  induction statements with
  | nil => rfl
  | cons s ss ih =>
    rw [List.map_cons, List.mapM_cons, ih, Statement.ofRow_toRow]
    rfl

theorem readAnswer_ok (action : Action) {r : Result} {rows : List Row}
    (h : r.rows = rows.map Row.toCells) : readAnswer action Row.ofCells (.ok r) = .ok rows := by
  have hread : r.rows.mapM Row.ofCells = .ok rows := by
    refine mapM_of_forall₂ ?_
    rw [h, List.forall₂_map_left_iff, List.forall₂_same]
    exact fun row _ => row.ofCells_toCells
  change explain _ (r.rows.mapM _) = _
  rw [hread]
  rfl

section

variable {server : Program.Handler Wire σ} {stored : Statements} {s : σ} {f : StatementFilter}
  {pageSize : Int32} {token : Option Uuid}

theorem run_list (hids : (stored.map Statement.id).Nodup)
    (hserver : Selects server (stored.map Statement.toRow) s f pageSize token) :
    (Program.run server (list f pageSize token).run s).1 =
      .returned (.ok (pageOf (pageLimit pageSize) (stored.selected f token))) := by
  obtain ⟨r, hr, hrows⟩ := hserver
  rw [Store.Statements.select_toRow hids] at hrows
  have hread := readAnswer_ok .listStatements hrows
  rw [listing] at hr
  unfold list
  rw [run_exec_readRows, run_ask, hr, hread]
  simp only [mapM_ofRow, pure_bind, List.length_map]
  rw [pageOf_eq]
  split <;> rfl

/-- With a token that names no statement the database answers an empty page. -/
theorem run_list_of_not_names (hids : (stored.map Statement.id).Nodup)
    (hserver : Selects server (stored.map Statement.toRow) s f pageSize token)
    (hnames : ¬ stored.Names token) :
    (Program.run server (list f pageSize token).run s).1 = .returned (.ok ⟨[], none⟩) := by
  rw [run_list hids hserver, Store.Statements.selected_of_not_names hnames,
    (pageOf_eq_nil_iff (pageLimit_pos pageSize)).mpr rfl]

theorem page_of_not_names (hnames : ¬ stored.Names token) :
    stored.page f pageSize token = stored.page f pageSize none := by
  rw [page_eq_pageOf, page_eq_pageOf, Store.Statements.cursor?_of_not_names hnames]
  rfl

theorem page_none_eq_nil_iff :
    stored.page f pageSize none = ⟨[], none⟩ ↔ stored.accepted f = [] := by
  rw [page_eq_pageOf, pageOf_eq_nil_iff (pageLimit_pos pageSize)]
  exact Eq.congr_left Store.Statements.following_none

/-- The database answers a listing with the page of the store exactly if the token, if there is one,
names a stored statement, or the filter accepts none. With a token that names none the database
answers an empty page, and the store its first page. -/
theorem list_agrees_iff (hids : (stored.map Statement.id).Nodup)
    (hserver : Selects server (stored.map Statement.toRow) s f pageSize token) :
    ((Program.run server (list f pageSize token).run s).1 =
        .returned (.ok (stored.page f pageSize token)) ↔
      stored.Names token ∨ stored.accepted f = []) ∧
    (¬ stored.Names token →
      (Program.run server (list f pageSize token).run s).1 = .returned (.ok ⟨[], none⟩) ∧
        stored.page f pageSize token = stored.page f pageSize none) := by
  by_cases hnames : stored.Names token
  · refine ⟨iff_of_true ?_ (.inl hnames), fun h => absurd hnames h⟩
    rw [run_list hids hserver, page_eq_pageOf, Store.Statements.selected_of_names hnames]
  · have hrun := run_list_of_not_names hids hserver hnames
    refine ⟨?_, fun _ => ⟨hrun, page_of_not_names hnames⟩⟩
    rw [hrun, page_of_not_names hnames, Program.Outcome.returned.injEq, Except.ok.injEq, eq_comm,
      page_none_eq_nil_iff, or_iff_right hnames]

end

end Sql

namespace Sample

open Statement (Row)
open Sql

/-- The conditions and the limit of a query, if it is a listing of a whole church. -/
def selection? (q : Query) : Option (List Condition × Nat) :=
  let read (churchId : String) (token : Option Uuid) (limit : Int) :=
    let asked := conditions { churchId } token
    if q.text = (Query.ofPieces (listPieces asked limit.toNat)).text then
      some (asked, limit.toNat)
    else none
  match q.params with
  | [.text churchId, .int limit] => read churchId none limit
  | [.text churchId, .uuid token, .int limit] => read churchId (some token) limit
  | _ => none

def answerListing : Program.Handler Wire (List Row)
  | .begin, table | .commit, table | .rollback, table => (Except.ok (), table)
  | .query q, table =>
    match selection? q with
    | none => (Except.error (.server "syntax error"), table)
    | some (asked, limit) =>
      let rows := (select table asked limit).map Row.toCells
      (Except.ok ⟨rows, rows.length⟩, table)

theorem selection?_listing (churchId : String) (pageSize : Int32) (token : Option Uuid) :
    selection? (listing { churchId } pageSize token) =
      some (conditions { churchId } token, pageLimit pageSize + 1) := by
  cases token with
  | none =>
    have hparams : (listing { churchId } pageSize none).params =
        [.text churchId, .int (pageLimit pageSize + 1 : Nat)] := rfl
    simp only [selection?, hparams, Int.toNat_natCast]
    exact if_pos rfl
  | some id =>
    have hparams : (listing { churchId } pageSize (some id)).params =
        [.text churchId, .uuid id, .int (pageLimit pageSize + 1 : Nat)] := rfl
    simp only [selection?, hparams, Int.toNat_natCast]
    exact if_pos rfl

theorem selects_answerListing (table : List Row) (churchId : String) (pageSize : Int32)
    (token : Option Uuid) : Selects answerListing table table { churchId } pageSize token := by
  let rows :=
    (select table (conditions { churchId } token) (pageLimit pageSize + 1)).map Row.toCells
  refine ⟨⟨rows, rows.length⟩, ?_, rfl⟩
  rw [answerListing, selection?_listing]

end Sample

namespace Sql

theorem list_agrees_iff_first_page :
    (Program.run Sample.answerListing (list { churchId := "church" } 10 none).run
        [Sample.statement.toRow]).1 =
      .returned (.ok (Store.Statements.page [Sample.statement] { churchId := "church" } 10 none)) := by
  have hids : (List.map Statement.id [Sample.statement]).Nodup := by decide
  have hserver := Sample.selects_answerListing [Sample.statement.toRow] "church" 10 none
  exact (list_agrees_iff hids hserver).1.mpr (.inl fun _ h => nomatch h)

/-- With a token that names no statement the database answers nothing, where the store answers its
first page. -/
theorem not_list_agrees :
    ¬ ∀ (server : Program.Handler Wire (List Statement.Row)) (stored : Store.Statements)
      (f : StatementFilter) (pageSize : Int32) (token : Option Uuid),
      (stored.map Statement.id).Nodup →
      Selects server (stored.map Statement.toRow) (stored.map Statement.toRow) f pageSize token →
      (Program.run server (list f pageSize token).run (stored.map Statement.toRow)).1 =
        .returned (.ok (stored.page f pageSize token)) := by
  intro h
  have hserver := Sample.selects_answerListing [Sample.statement.toRow] "church" 10 (some (.ofNat 7))
  have hnames : ¬ Store.Statements.Names [Sample.statement] (some (.ofNat 7)) := by
    intro hnames
    obtain ⟨s, hs, hid⟩ := hnames _ rfl
    rw [List.mem_singleton.mp hs] at hid
    exact absurd hid (by decide)
  have hpage := h Sample.answerListing [Sample.statement] { churchId := "church" } 10
    (some (.ofNat 7)) (by decide) hserver
  rw [page_of_not_names hnames] at hpage
  have hempty := (run_list_of_not_names (by decide) hserver hnames).symm.trans hpage
  have hnone : Store.Statements.accepted [Sample.statement] { churchId := "church" } = [] :=
    page_none_eq_nil_iff.mp (Except.ok.inj (Program.Outcome.returned.inj hempty)).symm
  have haccepted : Sample.statement ∈
      Store.Statements.accepted [Sample.statement] { churchId := "church" } :=
    Store.Statements.mem_accepted.mpr ⟨List.mem_singleton_self _, by decide⟩
  rw [hnone] at haccepted
  cases haccepted

end Sql

end BankReconciliation
