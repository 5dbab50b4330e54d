import BankReconciliation.Proofs.Store.Ledger
import BankReconciliation.Proofs.Store.Listing

/-! The parts of the stores that belong to one church. Every call on a store names a church. What it
answers and what it does to that church's part can be told from that part alone, and the parts of
the other churches stay as they are. -/

namespace BankReconciliation

section Parts

variable {α κ : Type} [DecidableEq κ] {key : α → κ} {l l' : List α}

/-- Two lists whose parts are equal, key by key, differ at most in how the parts are mixed. -/
theorem perm_of_parts (h : ∀ k, l.filter (fun a => key a == k) = l'.filter fun a => key a == k) :
    l.Perm l' := by
  induction l generalizing l' with
  | nil =>
    cases l' with
    | nil => exact .nil
    | cons b bs =>
      have hb := h (key b)
      simp at hb
  | cons a as ih =>
    have ha := h (key a)
    rw [List.filter_cons_of_pos (by simp)] at ha
    obtain ⟨before, after, rfl, hbefore, -, hafter⟩ := List.filter_eq_cons_iff.mp ha.symm
    have hrest : as.Perm (before ++ after) := by
      refine ih fun k => ?_
      by_cases hk : key a = k
      · subst hk
        rw [List.filter_append, List.filter_eq_nil_iff.mpr hbefore, List.nil_append, hafter]
      · have hk' := h k
        simpa [List.filter_append, List.filter_cons, hk] using hk'
    exact (hrest.cons a).trans List.perm_middle.symm

theorem eq_of_parts (hkeys : l.map key = l'.map key)
    (h : ∀ k, l.filter (fun a => key a == k) = l'.filter fun a => key a == k) : l = l' := by
  induction l generalizing l' with
  | nil => exact (List.map_eq_nil_iff.mp hkeys.symm).symm
  | cons a as ih =>
    obtain ⟨b, bs, rfl, hb, hrest⟩ := List.map_eq_cons_iff.mp hkeys.symm
    have ha := h (key a)
    rw [List.filter_cons_of_pos (by simp), List.filter_cons_of_pos (by simp [hb])] at ha
    obtain ⟨rfl, -⟩ := List.cons.inj ha
    refine congrArg (a :: ·) (ih hrest.symm fun k => ?_)
    have hk := h k
    by_cases hak : key a = k
    · rw [List.filter_cons_of_pos (by simp [hak]), List.filter_cons_of_pos (by simp [hak])] at hk
      exact (List.cons.inj hk).2
    · rw [List.filter_cons_of_neg (by simp [hak]), List.filter_cons_of_neg (by simp [hak])] at hk
      exact hk

theorem find?_filter_and (p q : α → Bool) (l : List α) :
    (l.filter p).find? q = l.find? fun a => p a && q a := by
  rw [List.find?_filter]
  refine congrArg (List.find? · l) (funext fun a => ?_)
  cases p a <;> cases q a <;> rfl

end Parts

namespace Store.Statements

def ofChurch (stored : Statements) (churchId : String) : Statements :=
  List.filter (fun s => s.churchId == churchId) stored

variable {stored stored' : Statements} {candidates : List Statement} {s : Statement}
  {churchId other : String}

@[simp] theorem ofChurch_nil : ofChurch [] churchId = [] := rfl

@[simp] theorem ofChurch_append :
    ofChurch (stored ++ stored') churchId = stored.ofChurch churchId ++ stored'.ofChurch churchId :=
  List.filter_append _ _

theorem ofChurch_eq_nil (h : ∀ s ∈ stored, s.churchId ≠ churchId) :
    stored.ofChurch churchId = [] :=
  List.filter_eq_nil_iff.mpr fun s hs => mt beq_iff_eq.mp (h s hs)

theorem ofChurch_cons_self (h : s.churchId = churchId) :
    ofChurch (s :: stored) churchId = s :: stored.ofChurch churchId :=
  List.filter_cons_of_pos (beq_iff_eq.mpr h)

theorem ofChurch_cons_of_ne (h : s.churchId ≠ churchId) :
    ofChurch (s :: stored) churchId = stored.ofChurch churchId :=
  List.filter_cons_of_neg (mt beq_iff_eq.mp h)

theorem any_ofChurch {p : Statement → Bool} (h : ∀ s, p s = true → s.churchId = churchId) :
    (stored.ofChurch churchId).any p = List.any stored p := by
  rw [ofChurch, List.any_filter]
  refine congrArg (List.any stored) (funext fun s => ?_)
  cases hp : p s with
  | false => exact Bool.and_false _
  | true => rw [beq_iff_eq.mpr (h s hp), Bool.and_self]

theorem existsByFitId_ofChurch (bankId fitId : String) :
    (stored.ofChurch churchId).existsByFitId churchId bankId fitId =
      stored.existsByFitId churchId bankId fitId := by
  rw [existsByFitId, existsByFitId, any_ofChurch]
  intro s hs
  simp only [Bool.and_eq_true, beq_iff_eq] at hs
  exact hs.1.1

theorem existsByHash_ofChurch (bankId hash : String) :
    (stored.ofChurch churchId).existsByHash churchId bankId hash =
      stored.existsByHash churchId bankId hash := by
  rw [existsByHash, existsByHash, any_ofChurch]
  intro s hs
  simp only [Bool.and_eq_true, beq_iff_eq] at hs
  exact hs.1.1

theorem find?_ofChurch (id : Uuid) :
    (stored.ofChurch churchId).find? churchId id = stored.find? churchId id := by
  rw [find?, find?, ofChurch, find?_filter_and]
  refine congrArg (List.find? · stored) (funext fun s => ?_)
  cases hs : s.churchId == churchId <;> simp [Statement.isNamed, hs]

theorem collides_ofChurch (h : s.churchId = churchId) :
    (stored.ofChurch churchId).any (·.collides s) = List.any stored (·.collides s) := by
  refine any_ofChurch fun t ht => ?_
  exact (Statement.collides_iff.mp ht).1.trans h

theorem insertMany_ofChurch (h : ∀ c ∈ candidates, c.churchId = churchId) :
    (stored.ofChurch churchId).insertMany candidates =
      ((stored.insertMany candidates).1, (stored.insertMany candidates).2.ofChurch churchId) := by
  induction candidates generalizing stored with
  | nil => rfl
  | cons c cs ih =>
    obtain ⟨hc, hcs⟩ := List.forall_mem_cons.mp h
    rw [insertMany, insertMany, collides_ofChurch hc]
    by_cases hknown : List.any stored (·.collides c) = true
    · rw [if_pos hknown, if_pos hknown, ih hcs]
    · have happend : stored.ofChurch churchId ++ [c] = ofChurch (stored ++ [c]) churchId := by
        rw [ofChurch_append, ofChurch_cons_self hc, ofChurch_nil]
      rw [if_neg hknown, if_neg hknown, happend, ih hcs]

theorem insertMany_ofChurch_of_ne (h : ∀ c ∈ candidates, c.churchId = other)
    (hne : churchId ≠ other) :
    (stored.insertMany candidates).2.ofChurch churchId = stored.ofChurch churchId := by
  obtain ⟨added, hsub, hinsert⟩ := exists_added stored candidates
  have hadded : ofChurch added churchId = [] :=
    ofChurch_eq_nil fun s hs he => hne (he.symm.trans (h s (hsub.subset hs)))
  rw [hinsert, ofChurch_append, hadded, List.append_nil]

theorem replace?_ofChurch (h : s.churchId = churchId) :
    (stored.ofChurch churchId).replace? s = (stored.replace? s).map (·.ofChurch churchId) := by
  induction stored with
  | nil => rfl
  | cons t ts ih =>
    rw [replace?]
    by_cases ht : t.isNamed s.churchId s.id = true
    · have hchurch : t.churchId = churchId :=
        (congrArg Prod.fst (Statement.isNamed_iff.mp ht)).trans h
      rw [ofChurch_cons_self hchurch, replace?, if_pos ht, if_pos ht, Option.map_some,
        ofChurch_cons_self h]
    · rw [if_neg ht]
      by_cases hchurch : t.churchId = churchId
      · rw [ofChurch_cons_self hchurch, replace?, if_neg ht, ih, Option.map_map, Option.map_map]
        exact congrArg (Option.map · _) (funext fun us => (ofChurch_cons_self hchurch).symm)
      · rw [ofChurch_cons_of_ne hchurch, ih, Option.map_map]
        exact congrArg (Option.map · _) (funext fun us => (ofChurch_cons_of_ne hchurch).symm)

theorem replace?_ofChurch_of_ne (h : stored.replace? s = some stored')
    (hne : churchId ≠ s.churchId) :
    stored'.ofChurch churchId = stored.ofChurch churchId := by
  obtain ⟨before, old, after, rfl, rfl, hname⟩ := exists_replaced h
  have hold : old.churchId ≠ churchId := fun he =>
    hne (he.symm.trans (congrArg Prod.fst hname))
  rw [ofChurch_append, ofChurch_append, ofChurch_cons_of_ne hold, ofChurch_cons_of_ne hne.symm]

variable {filter : StatementFilter} {pageSize : Int32} {token : Option Uuid}

theorem accepted_ofChurch : (stored.ofChurch filter.churchId).accepted filter =
    stored.accepted filter := by
  rw [accepted, accepted, ofChurch, List.filter_filter]
  refine congrArg (fun p => (List.filter p stored).mergeSort _) (funext fun s => ?_)
  by_cases hs : s.churchId = filter.churchId <;> simp [StatementFilter.accepts, hs]

/-- The first statement with the token's id is one of the church, or there is none. -/
def TokenWithin (stored : Statements) (churchId : String) (token : Option Uuid) : Prop :=
  ∀ s, stored.cursor? token = some s → s.churchId = churchId

@[simp] theorem tokenWithin_none : stored.TokenWithin churchId none :=
  fun _ hs => nomatch hs

theorem cursor?_ofChurch (h : stored.TokenWithin churchId token) :
    (stored.ofChurch churchId).cursor? token = stored.cursor? token := by
  cases token with
  | none => rfl
  | some id =>
    have hsplit : (stored.ofChurch churchId).cursor? (some id) =
        List.find? (fun s => s.churchId == churchId && s.id == id) stored :=
      find?_filter_and _ _ _
    rw [hsplit]
    cases hfirst : stored.cursor? (some id) with
    | none =>
      refine List.find?_eq_none.mpr fun s hs hboth => ?_
      exact List.find?_eq_none.mp hfirst s hs (Bool.and_eq_true_iff.mp hboth).2
    | some s =>
      obtain ⟨hid, before, after, rfl, hbefore⟩ := List.find?_eq_some_iff_append.mp hfirst
      refine List.find?_eq_some_iff_append.mpr
        ⟨by simp [h s hfirst, hid], before, after, rfl, fun t ht => ?_⟩
      simp [hbefore t ht]

def OwnToken (stored : Statements) (churchId : String) (token : Option Uuid) : Prop :=
  ∀ id ∈ token, ∃ s ∈ stored.cursor? (some id), s.churchId = churchId

theorem OwnToken.tokenWithin (h : stored.OwnToken churchId token) :
    stored.TokenWithin churchId token := by
  intro s hs
  cases token with
  | none => cases hs
  | some id =>
    obtain ⟨t, ht, hchurch⟩ := h id rfl
    obtain rfl := Option.some.inj (hs.symm.trans ht)
    exact hchurch

theorem ownToken_of_mem (hids : (stored.map Statement.id).Nodup) (hs : s ∈ stored) :
    stored.OwnToken s.churchId (some s.id) := by
  rintro id hid
  obtain rfl := Option.some.inj hid
  exact ⟨s, cursor?_of_mem hids hs, rfl⟩

/-- What is inserted later does not take the place of what a token names. -/
theorem OwnToken.mono (h : stored.OwnToken churchId token)
    (hnames : stored.map Statement.name <+: stored'.map Statement.name) :
    stored'.OwnToken churchId token := by
  have hnamed : ∀ (ss : Statements) (id : Uuid), (ss.cursor? (some id)).map Statement.name =
      (ss.map Statement.name).find? (·.2 == id) := by
    intro ss id
    rw [List.find?_map]
    rfl
  intro id hid
  obtain ⟨s, hs, hchurch⟩ := h id hid
  obtain ⟨added, hadded⟩ := hnames
  have hname : (stored'.cursor? (some id)).map Statement.name = some s.name := by
    have hfirst := hnamed stored id
    rw [Option.mem_def.mp hs, Option.map_some] at hfirst
    rw [hnamed, ← hadded, List.find?_append, ← hfirst, Option.some_or]
  obtain ⟨t, ht, hsame⟩ := Option.map_eq_some_iff.mp hname
  exact ⟨t, ht, (congrArg Prod.fst hsame).trans hchurch⟩

/-- A page can be told from the part of its church, unless its token names a statement of another
church. -/
theorem page_ofChurch (h : stored.TokenWithin filter.churchId token) :
    (stored.ofChurch filter.churchId).page filter pageSize token =
      stored.page filter pageSize token := by
  rw [page, page, accepted_ofChurch, cursor?_ofChurch h]

end Store.Statements

namespace Store.Ledger

def ofChurch (records : List LedgerRecord) (churchId : String) : List LedgerRecord :=
  records.filter fun r => r.churchId == churchId

variable {l l' : Ledger} {records : List LedgerRecord} {key : String × String}
  {status : RecordStatus} {churchId : String}

theorem ofChurch_cons_self {r : LedgerRecord} (h : r.churchId = churchId) :
    ofChurch (r :: records) churchId = r :: ofChurch records churchId :=
  List.filter_cons_of_pos (beq_iff_eq.mpr h)

theorem ofChurch_cons_of_ne {r : LedgerRecord} (h : r.churchId ≠ churchId) :
    ofChurch (r :: records) churchId = ofChurch records churchId :=
  List.filter_cons_of_neg (mt beq_iff_eq.mp h)

theorem findOne_eq_of_ofChurch {filter : RecordFilter}
    (h : ofChurch l.records filter.churchId = ofChurch l'.records filter.churchId) :
    l.findOne filter = l'.findOne filter := by
  have hpart : ∀ rs : List LedgerRecord,
      rs.filter filter.accepts = (ofChurch rs filter.churchId).filter filter.accepts := by
    intro rs
    rw [ofChurch, List.filter_filter]
    refine congrArg (List.filter · rs) (funext fun r => ?_)
    by_cases hr : r.churchId = filter.churchId <;> simp [RecordFilter.accepts, hr]
  rw [findOne, findOne, hpart l.records, hpart l'.records, h]

theorem find?_eq_of_ofChurch {id : String}
    (h : ofChurch l.records churchId = ofChurch l'.records churchId) :
    l.find? churchId id = l'.find? churchId id := by
  have hpart : ∀ rs : List LedgerRecord,
      rs.find? (fun r => r.churchId == churchId && r.id == id) =
        (ofChurch rs churchId).find? (fun r => r.id == id) :=
    fun rs => (find?_filter_and _ _ _).symm
  rw [find?, find?, hpart l.records, hpart l'.records, h]

theorem ofChurch_setStatus :
    ofChurch (setStatus key status records) key.1 =
      setStatus key status (ofChurch records key.1) := by
  induction records with
  | nil => rfl
  | cons r rs ih =>
    rw [setStatus]
    by_cases hr : r.key = key
    · have hchurch : r.churchId = key.1 := congrArg Prod.fst hr
      simp [ofChurch, hr, hchurch, setStatus]
    · rw [if_neg hr]
      by_cases hchurch : r.churchId = key.1
      · rw [ofChurch_cons_self hchurch, ofChurch_cons_self hchurch, ih, setStatus, if_neg hr]
      · rw [ofChurch_cons_of_ne hchurch, ofChurch_cons_of_ne hchurch, ih]

theorem ofChurch_setStatus_of_ne (h : churchId ≠ key.1) :
    ofChurch (setStatus key status records) churchId = ofChurch records churchId := by
  induction records with
  | nil => rfl
  | cons r rs ih =>
    rw [setStatus]
    by_cases hr : r.key = key
    · have hchurch : r.churchId ≠ churchId := fun he => h (he.symm.trans (congrArg Prod.fst hr))
      rw [if_pos hr, ofChurch_cons_of_ne hchurch]
      exact ofChurch_cons_of_ne hchurch
    · rw [if_neg hr, ofChurch, ofChurch, List.filter_cons, List.filter_cons, ← ofChurch,
        ← ofChurch, ih]

end Store.Ledger

end BankReconciliation
