import BankReconciliation.Proofs.Store.Statements
import Mathlib.Data.List.Sort
import Mathlib.Data.Prod.Lex

/-! The pages of a listing. The accepted statements have an order without ties as long as their ids
differ, and a page holds the first of those that come after its cursor. -/

namespace BankReconciliation

theorem Uuid.ext {u v : Uuid} (h : u.value = v.value) : u = v := by
  cases u
  cases v
  cases h
  rfl

namespace Statement

variable {a b : Statement}

/-- Where a statement stands in listings. -/
def place (s : Statement) : Int ×ₗ Nat := toLex (s.postedAt.key, s.id.value)

theorem precedes_iff : a.precedes b ↔ a.place < b.place := by
  have hposted : a.postedAt = b.postedAt ↔ a.postedAt.key = b.postedAt.key :=
    ⟨congrArg Instant.key, Instant.key_inj⟩
  rw [precedes, place, place, Prod.Lex.toLex_lt_toLex, hposted]
  rfl

/-- Nothing that happens to a stored statement moves it. -/
theorem place_eq_of_entry_eq (h : a.entry = b.entry) : a.place = b.place := by
  have hplace := congrArg place h
  exact hplace

theorem precedes.trans {c : Statement} (hab : a.precedes b) (hbc : b.precedes c) :
    a.precedes c := by
  rw [precedes_iff] at hab hbc ⊢
  exact hab.trans hbc

theorem id_eq_of_place_eq (h : a.place = b.place) : a.id = b.id := by
  obtain ⟨-, hvalue⟩ := Prod.mk.inj (toLex.injective h)
  exact Uuid.ext hvalue

theorem id_eq_of_entry_eq (h : a.entry = b.entry) : a.id = b.id :=
  id_eq_of_place_eq (place_eq_of_entry_eq h)

theorem precedes_congr_left {c : Statement} (h : a.entry = b.entry) :
    a.precedes c ↔ b.precedes c := by
  rw [precedes_iff, precedes_iff, place_eq_of_entry_eq h]

end Statement

theorem pageLimit_pos (pageSize : Int32) : 0 < pageLimit pageSize := by
  unfold pageLimit
  omega

namespace Store.Statements

variable {stored : Statements} {filter : StatementFilter} {pageSize : Int32}
  {cursor : Option Statement} {c s : Statement}

theorem accepted_perm (stored : Statements) (filter : StatementFilter) :
    (stored.accepted filter).Perm (List.filter filter.accepts stored) :=
  List.mergeSort_perm _ _

theorem mem_accepted : s ∈ stored.accepted filter ↔ s ∈ stored ∧ filter.accepts s = true := by
  rw [(accepted_perm stored filter).mem_iff, List.mem_filter]

theorem pairwise_accepted (hids : (stored.map Statement.id).Nodup) :
    (stored.accepted filter).Pairwise Statement.precedes := by
  have hsorted : (stored.accepted filter).Pairwise fun a b => a.place ≤ b.place := by
    have hle : ∀ a b : Statement, decide (¬ b.precedes a) = true ↔ a.place ≤ b.place := by
      intro a b
      rw [decide_eq_true_iff, Statement.precedes_iff, not_lt]
    refine (List.pairwise_mergeSort ?_ ?_ _).imp fun h => (hle _ _).mp h
    · intro a b c hab hbc
      exact (hle a c).mpr (((hle a b).mp hab).trans ((hle b c).mp hbc))
    · intro a b
      rw [Bool.or_eq_true, hle, hle]
      exact le_total _ _
  have hapart : ((stored.accepted filter).map Statement.id).Nodup := by
    rw [((accepted_perm stored filter).map _).nodup_iff]
    exact hids.sublist (List.filter_sublist.map _)
  refine hsorted.imp₂ ?_ (List.pairwise_map.mp hapart)
  intro a b hle hne
  refine Statement.precedes_iff.mpr (lt_of_le_of_ne hle fun he => ?_)
  exact hne (Statement.id_eq_of_place_eq he)

theorem accepted_of_pairwise (h : (List.filter filter.accepts stored).Pairwise Statement.precedes) :
    stored.accepted filter = List.filter filter.accepts stored := by
  refine List.mergeSort_of_pairwise (h.imp fun {a b} hab => ?_)
  rw [Statement.precedes_iff] at hab
  rw [decide_eq_true_iff, Statement.precedes_iff, not_lt]
  exact hab.le

/-- A statement comes after a cursor; without one every statement does. -/
def Follows (cursor : Option Statement) (s : Statement) : Prop := ∀ c ∈ cursor, c.precedes s

@[simp] theorem follows_none (s : Statement) : Follows none s :=
  fun _ hc => nomatch hc

def following (stored : Statements) (filter : StatementFilter) (cursor : Option Statement) :
    List Statement :=
  (stored.accepted filter).filter fun s => cursor.all (·.precedes s)

theorem mem_following : s ∈ stored.following filter cursor ↔
    s ∈ stored ∧ filter.accepts s = true ∧ Follows cursor s := by
  rw [following, List.mem_filter, mem_accepted, and_assoc]
  cases cursor <;> simp [Follows]

@[simp] theorem following_none : stored.following filter none = stored.accepted filter := by
  simp [following]

theorem pairwise_following (hids : (stored.map Statement.id).Nodup) :
    (stored.following filter cursor).Pairwise Statement.precedes :=
  (pairwise_accepted hids).filter _

theorem mem_of_following_eq {before after : List Statement}
    (h : stored.following filter cursor = before ++ c :: after) : c ∈ stored := by
  have hc : c ∈ stored.following filter cursor :=
    h ▸ List.mem_append_right before List.mem_cons_self
  exact (mem_following.mp hc).1

theorem pairwise_of_following_eq {before after : List Statement}
    (hids : (stored.map Statement.id).Nodup)
    (h : stored.following filter cursor = before ++ c :: after) :
    (before ++ c :: after).Pairwise Statement.precedes :=
  h ▸ pairwise_following hids

theorem following_of_append {before after : List Statement}
    (hids : (stored.map Statement.id).Nodup)
    (h : stored.following filter cursor = before ++ c :: after) :
    stored.following filter (some c) = after := by
  obtain ⟨-, hrest, hbefore⟩ := List.pairwise_append.mp (pairwise_of_following_eq hids h)
  have hfollows : Follows cursor c := by
    have hmem : c ∈ stored.following filter cursor := h ▸ List.mem_append_right _ List.mem_cons_self
    exact (mem_following.mp hmem).2.2
  have hnarrow : stored.following filter (some c) =
      (stored.following filter cursor).filter fun s => decide (c.precedes s) := by
    rw [following, following, List.filter_filter]
    refine List.filter_congr fun s _ => ?_
    cases cursor with
    | none => simp
    | some d =>
      have hdc : d.precedes c := hfollows d rfl
      simp only [Option.all_some]
      by_cases hcs : c.precedes s
      · simp [hcs, hdc.trans hcs]
      · simp [hcs]
  rw [hnarrow, h, List.filter_append, List.filter_cons_of_neg, List.filter_eq_nil_iff.mpr,
    List.nil_append, List.filter_eq_self.mpr]
  · intro s hs
    exact decide_eq_true (List.rel_of_pairwise_cons hrest hs)
  · intro s hs
    have hsc := hbefore s hs c List.mem_cons_self
    rw [Statement.precedes_iff] at hsc
    simpa [Statement.precedes_iff] using hsc.le
  · simp [Statement.precedes_iff]

theorem cursor?_of_mem (hids : (stored.map Statement.id).Nodup) (hs : s ∈ stored) :
    stored.cursor? (some s.id) = some s := by
  rw [cursor?, Option.bind_some]
  cases h : List.find? (fun t => t.id == s.id) stored with
  | none => exact absurd (List.find?_eq_none.mp h s hs) (by simp)
  | some t =>
    have hid : t.id = s.id := by simpa using List.find?_some h
    rw [List.inj_on_of_nodup_map hids (List.mem_of_find?_eq_some h) hs hid]

/-- A token stands for the place of the statement that it was made from, wherever it is stored. -/
theorem page_eq (hids : (stored.map Statement.id).Nodup)
    (hc : ∀ c ∈ cursor, c.entry ∈ stored.map Statement.entry) :
    stored.page filter pageSize (cursor.map Statement.id) =
      ⟨(stored.following filter cursor).take (pageLimit pageSize),
        if pageLimit pageSize < (stored.following filter cursor).length then
          ((stored.following filter cursor).take (pageLimit pageSize)).getLast?.map (·.id.render)
        else none⟩ := by
  have hsame : ((stored.accepted filter).filter fun s =>
      (stored.cursor? (cursor.map Statement.id)).all (·.precedes s)) =
        stored.following filter cursor := by
    cases cursor with
    | none => rfl
    | some c =>
      obtain ⟨d, hd, hentry⟩ := List.mem_map.mp (hc c rfl)
      rw [Option.map_some, ← Statement.id_eq_of_entry_eq hentry, cursor?_of_mem hids hd, following]
      simp only [Option.all_some, Statement.precedes_congr_left hentry]
  rw [page, hsame]

/-- The page that a listing cuts off: all that is left if it fits, or else the first statements with
the last one of them for a token. -/
inductive Cut (limit : Nat) : List Statement → Page → Prop
  | last {rest} (h : rest.length ≤ limit) : Cut limit rest ⟨rest, none⟩
  | more {before c after} (h : before.length + 1 = limit) (hafter : after ≠ []) :
    Cut limit (before ++ c :: after) ⟨before ++ [c], some c.id.render⟩

theorem cut_take {limit : Nat} (hlimit : 0 < limit) (rest : List Statement) :
    Cut limit rest ⟨rest.take limit,
      if limit < rest.length then (rest.take limit).getLast?.map (·.id.render) else none⟩ := by
  by_cases h : limit < rest.length
  · obtain ⟨n, rfl⟩ : ∃ n, limit = n + 1 := ⟨limit - 1, by omega⟩
    have hn : n < rest.length := by omega
    have hafter : rest.drop (n + 1) ≠ [] := by
      rw [Ne, List.drop_eq_nil_iff]
      omega
    have hcut : Cut (n + 1) (rest.take n ++ rest[n] :: rest.drop (n + 1))
        ⟨rest.take n ++ [rest[n]], some rest[n].id.render⟩ :=
      .more (by rw [List.length_take]; omega) hafter
    rw [← List.drop_eq_getElem_cons, List.take_append_drop] at hcut
    rw [if_pos h, List.take_add_one, List.getElem?_eq_getElem hn, Option.toList_some,
      List.getLast?_concat]
    exact hcut
  · have hcut : Cut limit rest ⟨rest, none⟩ := .last (by omega)
    rw [if_neg h, List.take_of_length_le (by omega)]
    exact hcut

theorem cut_page (hids : (stored.map Statement.id).Nodup)
    (hc : ∀ c ∈ cursor, c.entry ∈ stored.map Statement.entry) :
    Cut (pageLimit pageSize) (stored.following filter cursor)
      (stored.page filter pageSize (cursor.map Statement.id)) := by
  rw [page_eq hids hc]
  exact cut_take (pageLimit_pos pageSize) _

end Store.Statements

end BankReconciliation
