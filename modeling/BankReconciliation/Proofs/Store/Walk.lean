import BankReconciliation.Proofs.Store.Listing

/-! Walks through a listing, page after page, while the store changes. The places of the stored
statements stay as they are, and so a walk comes past each of them once. -/

namespace BankReconciliation.Store.Statements

/-- The pages of a walk that goes on after a cursor, each with what is stored when it is asked
for. -/
inductive Walk (filter : StatementFilter) (limit : Nat) :
    Option Statement → Statements → List (Statements × Page) → Prop
  | last {cursor stored} (hids : (stored.map Statement.id).Nodup)
    (hsize : (stored.following filter cursor).length ≤ limit) :
    Walk filter limit cursor stored [(stored, ⟨stored.following filter cursor, none⟩)]
  | next {cursor c stored stored' before after pages} (hids : (stored.map Statement.id).Nodup)
    (hcut : stored.following filter cursor = before ++ c :: after) (hafter : after ≠ [])
    (hsize : before.length + 1 = limit)
    (hkept : stored.map Statement.entry ⊆ stored'.map Statement.entry)
    (hwalk : Walk filter limit (some c) stored' pages) :
    Walk filter limit cursor stored ((stored, ⟨before ++ [c], some c.id.render⟩) :: pages)

/-- All that the pages hold. -/
def listed (pages : List (Statements × Page)) : List Statement := pages.flatMap (·.2.items)

variable {filter : StatementFilter} {limit : Nat} {cursor : Option Statement} {c s : Statement}
  {stored stored' : Statements} {before after : List Statement} {pages : List (Statements × Page)}

@[simp] theorem listed_nil : listed [] = [] := rfl

@[simp] theorem listed_cons {p : Statements × Page} :
    listed (p :: pages) = p.2.items ++ listed pages := List.flatMap_cons

theorem mem_following_of_mem_page (hcut : stored.following filter cursor = before ++ c :: after)
    (hs : s ∈ before ++ [c]) : s ∈ stored.following filter cursor := by
  rw [hcut, List.append_cons]
  exact List.mem_append_left after hs

/-- What comes after the last statement of a page comes after the cursor and after the page. -/
theorem follows_some_iff (hids : (stored.map Statement.id).Nodup)
    (hcut : stored.following filter cursor = before ++ c :: after) :
    Follows (some c) s ↔ Follows cursor s ∧ ∀ t ∈ before ++ [c], t.precedes s := by
  obtain ⟨-, -, hbefore⟩ := List.pairwise_append.mp (pairwise_of_following_eq hids hcut)
  have hc : Follows cursor c := (mem_following.mp (mem_following_of_mem_page hcut (by simp))).2.2
  constructor
  · intro hs
    have hcs : c.precedes s := hs c rfl
    refine ⟨fun d hd => (hc d hd).trans hcs, fun t ht => ?_⟩
    rcases List.mem_append.mp ht with ht | ht
    · exact (hbefore t ht c List.mem_cons_self).trans hcs
    · exact List.mem_singleton.mp ht ▸ hcs
  · rintro ⟨-, hs⟩ d hd
    obtain rfl := Option.some.inj hd
    exact hs _ (List.mem_append_right _ List.mem_cons_self)

namespace Walk

theorem nodup (h : Walk filter limit cursor stored pages) : (stored.map Statement.id).Nodup := by
  cases h with
  | last hids _ => exact hids
  | next hids _ _ _ _ _ => exact hids

theorem page_sound (h : Walk filter limit cursor stored pages) {p : Statements × Page}
    (hp : p ∈ pages) : p.2.items.length ≤ limit ∧
      ∀ s ∈ p.2.items, s ∈ p.1 ∧ filter.accepts s = true := by
  induction h with
  | last _ hsize =>
    rw [List.mem_singleton.mp hp]
    exact ⟨hsize, fun s hs => ⟨(mem_following.mp hs).1, (mem_following.mp hs).2.1⟩⟩
  | next _ hcut _ hsize _ _ ih =>
    rcases List.mem_cons.mp hp with rfl | hp
    · refine ⟨by rw [List.length_append, List.length_singleton, hsize], fun s hs => ?_⟩
      obtain ⟨hmem, haccepts, -⟩ := mem_following.mp (mem_following_of_mem_page hcut hs)
      exact ⟨hmem, haccepts⟩
    · exact ih hp

theorem exists_of_next {p : Statements × Page} {token : String}
    (h : Walk filter limit cursor stored pages) (hp : p ∈ pages) (hnext : p.2.next = some token) :
    ∃ c : Statement, token = c.id.render := by
  induction h with
  | last _ _ =>
    rw [List.mem_singleton.mp hp] at hnext
    cases hnext
  | @next cursor c stored stored' before after pages _ _ _ _ _ _ ih =>
    rcases List.mem_cons.mp hp with rfl | hp
    · exact ⟨c, (Option.some.inj hnext).symm⟩
    · exact ih hp

theorem follows (h : Walk filter limit cursor stored pages) (hs : s ∈ listed pages) :
    Follows cursor s := by
  induction h with
  | last _ _ =>
    rw [listed_cons, listed_nil, List.append_nil] at hs
    exact (mem_following.mp hs).2.2
  | next hids hcut _ _ _ _ ih =>
    rcases List.mem_append.mp (listed_cons ▸ hs) with hs | hs
    · exact (mem_following.mp (mem_following_of_mem_page hcut hs)).2.2
    · exact ((follows_some_iff hids hcut).mp (ih hs)).1

theorem pairwise (h : Walk filter limit cursor stored pages) :
    (listed pages).Pairwise Statement.precedes := by
  induction h with
  | last hids _ =>
    rw [listed_cons, listed_nil, List.append_nil]
    exact pairwise_following hids
  | @next cursor c stored stored' before after pages hids hcut _ _ _ hwalk ih =>
    have hsorted := pairwise_of_following_eq hids hcut
    rw [List.append_cons] at hsorted
    rw [listed_cons]
    refine List.pairwise_append.mpr ⟨(List.pairwise_append.mp hsorted).1, ih, ?_⟩
    intro t ht s hs
    exact ((follows_some_iff hids hcut).mp (hwalk.follows hs)).2 t ht

theorem exists_final (h : Walk filter limit cursor stored pages) :
    ∃ final : Statements, (final.map Statement.id).Nodup ∧
      stored.map Statement.entry ⊆ final.map Statement.entry ∧
      ∀ s ∈ listed pages, s.entry ∈ final.map Statement.entry := by
  induction h with
  | @last cursor stored hids _ =>
    refine ⟨stored, hids, List.Subset.refl _, fun s hs => ?_⟩
    rw [listed_cons, listed_nil, List.append_nil] at hs
    exact List.mem_map_of_mem (mem_following.mp hs).1
  | next _ hcut _ _ hkept _ ih =>
    obtain ⟨final, hids, hfinal, hlisted⟩ := ih
    refine ⟨final, hids, List.Subset.trans hkept hfinal, fun s hs => ?_⟩
    rcases List.mem_append.mp (listed_cons ▸ hs) with hs | hs
    · have hmem := (mem_following.mp (mem_following_of_mem_page hcut hs)).1
      exact hfinal (hkept (List.mem_map_of_mem hmem))
    · exact hlisted s hs

/-- No identifier is listed twice: it always names the same place. -/
theorem nodup_listed (h : Walk filter limit cursor stored pages) :
    ((listed pages).map Statement.id).Nodup := by
  obtain ⟨final, hids, -, hlisted⟩ := h.exists_final
  refine List.pairwise_map.mpr (h.pairwise.imp_of_mem ?_)
  intro a b ha hb hab hid
  obtain ⟨a', ha', hea⟩ := List.mem_map.mp (hlisted a ha)
  obtain ⟨b', hb', heb⟩ := List.mem_map.mp (hlisted b hb)
  have hsame : a' = b' := by
    refine List.inj_on_of_nodup_map hids ha' hb' ?_
    rw [Statement.id_eq_of_entry_eq hea, hid, Statement.id_eq_of_entry_eq heb]
  have hentry : a.entry = b.entry := by rw [← hea, ← heb, hsame]
  rw [Statement.precedes_iff, Statement.place_eq_of_entry_eq hentry] at hab
  exact lt_irrefl _ hab

theorem mem_ids_listed {id : Uuid} (h : Walk filter limit cursor stored pages)
    (hmatch : ∀ p ∈ pages, ∃ s ∈ p.1, s.id = id ∧ filter.accepts s = true)
    (hahead : ∀ s ∈ stored, s.id = id → Follows cursor s) :
    id ∈ (listed pages).map Statement.id := by
  induction h with
  | last _ _ =>
    obtain ⟨s, hs, hid, haccepts⟩ := hmatch _ List.mem_cons_self
    rw [listed_cons, listed_nil, List.append_nil]
    exact List.mem_map.mpr ⟨s, mem_following.mpr ⟨hs, haccepts, hahead s hs hid⟩, hid⟩
  | @next cursor c stored stored' before after pages hids hcut _ _ hkept hwalk ih =>
    obtain ⟨s, hs, hid, haccepts⟩ := hmatch _ List.mem_cons_self
    have hmem : s ∈ stored.following filter cursor :=
      mem_following.mpr ⟨hs, haccepts, hahead s hs hid⟩
    rw [listed_cons, List.map_append]
    rw [hcut, List.append_cons] at hmem
    -- the statement is on this page, or its place is after the cursor of the next one
    rcases List.mem_append.mp hmem with hmem | hmem
    · exact List.mem_append_left _ (List.mem_map.mpr ⟨s, hmem, hid⟩)
    · refine List.mem_append_right _ (ih (fun p hp => hmatch p (List.mem_cons_of_mem _ hp)) ?_)
      rintro t ht hidt d hd
      obtain rfl := Option.some.inj hd
      -- the cursor comes before the statement as it was at this call, and it keeps its place
      have hcs : c.precedes s := by
        rw [← following_of_append hids hcut] at hmem
        exact (mem_following.mp hmem).2.2 c rfl
      obtain ⟨u, hu, hentry⟩ := List.mem_map.mp (hkept (List.mem_map_of_mem hs))
      have hut : u = t := by
        refine List.inj_on_of_nodup_map hwalk.nodup hu ht ?_
        rw [Statement.id_eq_of_entry_eq hentry, hid, hidt]
      rw [Statement.precedes_iff] at hcs ⊢
      rw [← hut, Statement.place_eq_of_entry_eq hentry]
      exact hcs

/-- A page has a token exactly if an accepted statement is left that comes after all that was listed
until then. -/
theorem isSome_next_iff {p : Statements × Page} {earlier later : List (Statements × Page)}
    (h : Walk filter limit cursor stored pages) (hpages : pages = earlier ++ p :: later) :
    p.2.next.isSome = true ↔ ∃ s ∈ p.1, filter.accepts s = true ∧ Follows cursor s ∧
      ∀ t ∈ listed (earlier ++ [p]), t.precedes s := by
  induction h generalizing earlier with
  | @last cursor stored hids hsize =>
    obtain ⟨rfl, hp⟩ := List.append_eq_singleton_iff.mp hpages.symm |>.resolve_right nofun
    obtain ⟨rfl, rfl⟩ := List.cons.inj hp
    refine ⟨nofun, ?_⟩
    rintro ⟨s, hs, haccepts, hfollows, hafter⟩
    have hself := hafter s (by simpa using mem_following.mpr ⟨hs, haccepts, hfollows⟩)
    exact absurd (Statement.precedes_iff.mp hself) (lt_irrefl _)
  | @next cursor c stored stored' before after pages hids hcut hafter hsize hkept hwalk ih =>
    cases earlier with
    | nil =>
      obtain ⟨rfl, rfl⟩ := List.cons.inj hpages
      obtain ⟨s, rest, rfl⟩ := List.exists_cons_of_ne_nil hafter
      have hcs : Follows (some c) s := by
        have hmem : s ∈ stored.following filter (some c) :=
          following_of_append hids hcut ▸ List.mem_cons_self
        exact (mem_following.mp hmem).2.2
      obtain ⟨hfollows, hpage⟩ := (follows_some_iff hids hcut).mp hcs
      have hmem : s ∈ stored.following filter cursor := by
        rw [hcut]
        simp
      obtain ⟨hs, haccepts, -⟩ := mem_following.mp hmem
      exact iff_of_true rfl ⟨s, hs, haccepts, hfollows, by simpa using hpage⟩
    | cons first earlier =>
      obtain ⟨rfl, hrest⟩ := List.cons.inj hpages
      rw [ih hrest]
      refine exists_congr fun s => and_congr_right fun _ => and_congr_right fun _ => ?_
      rw [follows_some_iff hids hcut, and_assoc, ← List.forall_mem_append, List.cons_append,
        listed_cons]

theorem exists_head (h : Walk filter limit cursor stored pages) :
    ∃ page rest, pages = (stored, page) :: rest := by
  cases h with
  | last _ _ => exact ⟨_, _, rfl⟩
  | next _ _ _ _ _ _ => exact ⟨_, _, rfl⟩

theorem listed_eq (h : Walk filter limit cursor stored pages)
    (hsame : ∀ p ∈ pages, p.1 = stored) : listed pages = stored.following filter cursor := by
  induction h with
  | last _ _ => rw [listed_cons, listed_nil, List.append_nil]
  | @next cursor c stored stored' before after pages hids hcut _ _ _ hwalk ih =>
    have hrest : ∀ p ∈ pages, p.1 = stored := fun p hp => hsame p (List.mem_cons_of_mem _ hp)
    obtain ⟨page, rest, rfl⟩ := hwalk.exists_head
    obtain rfl : stored' = stored := hrest _ List.mem_cons_self
    rw [listed_cons, ih hrest, following_of_append hids hcut, hcut, ← List.append_cons]

end Walk

end BankReconciliation.Store.Statements
