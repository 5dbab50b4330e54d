import BankReconciliation.Proofs.Interleaving.Balance

/-! Links by hand beside imports. An import writes the statements that it has inserted as it knows
them, whatever was written since: a link is lost to it exactly if the import is late. -/

namespace BankReconciliation

namespace Dialogue

def lastUpdate? (d : Dialogue) (name : String × Uuid) : Option Statement :=
  (d.updates.filter (·.name = name)).getLast?

variable {d d' : Dialogue} {name : String × Uuid} {s : Statement}

theorem lastUpdate?_update (t : Statement) (a : Reply Unit) (name : String × Uuid) :
    lastUpdate? [⟨.updateReconciliation t, a⟩] name = if t.name = name then some t else none := by
  have hupdates : updates [⟨.updateReconciliation t, a⟩] = [t] := rfl
  rw [lastUpdate?, hupdates]
  by_cases hname : t.name = name <;> simp [hname]

theorem lastUpdate?_append : (d ++ d').lastUpdate? name =
    (d'.lastUpdate? name).or (d.lastUpdate? name) := by
  rw [lastUpdate?, updates_append, List.filter_append, List.getLast?_append]
  rfl

theorem mem_of_lastUpdate? (h : d.lastUpdate? name = some s) : s ∈ d.updates ∧ s.name = name := by
  obtain ⟨hs, hname⟩ := List.mem_filter.mp (List.mem_of_getLast? h)
  exact ⟨hs, of_decide_eq_true hname⟩

theorem not_mem_of_lastUpdate? (h : d.lastUpdate? name = none) (hs : s ∈ d.updates) :
    s.name ≠ name := by
  intro hname
  have hmem : s ∈ d.updates.filter (·.name = name) :=
    List.mem_filter.mpr ⟨hs, decide_eq_true hname⟩
  rw [List.getLast?_eq_none_iff.mp h] at hmem
  cases hmem

end Dialogue

theorem Memory.find?_answer {c : Call} {m : Memory} {name : String × Uuid} {s : Statement}
    (hconfirmed : ∀ t a, ⟨.updateReconciliation t, a⟩ ∈ ([⟨c, (answer c m).1⟩] : Dialogue) →
      a = .ok ())
    (h : (Dialogue.lastUpdate? [⟨c, (answer c m).1⟩] name).or
      (m.statements.find? name.1 name.2) = some s) :
    (answer c m).2.statements.find? name.1 name.2 = some s := by
  by_cases hc : c.isLook = true
  · have hnone : Dialogue.lastUpdate? [⟨c, (answer c m).1⟩] name = none := by
      have hupdates := (Dialogue.of_isLook (answer c m).1 hc).2.2
      rw [Dialogue.lastUpdate?, hupdates]
      rfl
    rw [hnone] at h
    rw [(sameStores_of_isLook hc m).statements]
    exact h
  cases c with
  | updateReconciliation t =>
    have hok := hconfirmed t _ (List.mem_singleton_self _)
    cases hr : m.statements.replace? t with
    | none =>
      simp only [answer, hr] at hok
      cases hok
    | some statements =>
      simp only [answer, hr] at h ⊢
      rw [Dialogue.lastUpdate?_update] at h
      by_cases hname : t.name = name
      · rw [if_pos hname, Option.some_or] at h
        subst hname
        rw [← Option.some.inj h]
        exact Store.Statements.find?_replace? hr
      · rw [if_neg hname, Option.none_or] at h
        rw [Store.Statements.find?_replace?_of_ne hr hname]
        exact h
  | insertMany candidates =>
    obtain ⟨added, -, hadd⟩ := Store.Statements.exists_added m.statements candidates
    simp only [answer, hadd]
    have hfound : m.statements.find? name.1 name.2 = some s := h
    rw [Store.Statements.find?] at hfound ⊢
    rw [List.find?_append, hfound, Option.some_or]
  | newId | dispatchStatus _ _ => exact h
  | _ => exact absurd rfl hc

namespace Log

open Dialogue

variable {before after : Log} {i j k : Nat} {x : Interface.Exchange Collaborators} {s t : Statement}
  {a b : Reply Unit}

theorem own_middle :
    own (before ++ ⟨j, x⟩ :: after) k = own before k ++ own [⟨j, x⟩] k ++ own after k := by
  rw [← List.singleton_append, own_append, own_append, List.append_assoc]

theorem mem_own_middle {y : Interface.Exchange Collaborators} (hy : y ∈ own after k) :
    y ∈ own (before ++ ⟨j, x⟩ :: after) k := by
  rw [own_middle]
  exact List.mem_append_right _ hy

/-- When an operation writes one statement, and one other operation may write, then what is written
afterwards is written by that one. -/
theorem mem_own_of_late
    (hj : updates (own (before ++ ⟨j, .updateReconciliation s, a⟩ :: after) j) = [s])
    (hothers : ∀ e ∈ after, e.actor ≠ i → e.actor = j)
    (ht : ⟨.updateReconciliation t, b⟩ ∈ dialogue after) :
    ⟨.updateReconciliation t, b⟩ ∈ own after i := by
  have hquiet : updates (own after j) = [] := by
    have hone : updates [⟨.updateReconciliation s, a⟩] = [s] := rfl
    have hlength := congrArg List.length hj
    rw [own_middle, own_singleton_self, updates_append, updates_append, hone, List.length_append,
      List.length_append, List.length_singleton] at hlength
    exact List.eq_nil_of_length_eq_zero (by omega)
  obtain ⟨⟨k, x⟩, he, rfl⟩ := List.mem_map.mp ht
  by_cases hki : k = i
  · exact mem_own_iff.mpr (hki ▸ he)
  · obtain rfl : k = j := hothers _ he hki
    have hmem := mem_updates_iff.mpr ⟨b, mem_own_iff.mpr he⟩
    rw [hquiet] at hmem
    cases hmem

theorem lastUpdate?_middle :
    lastUpdate? (dialogue (before ++ ⟨j, .updateReconciliation s, a⟩ :: after)) s.name =
      some ((lastUpdate? (dialogue after) s.name).getD s) := by
  rw [← List.singleton_append, dialogue_append, dialogue_append, dialogue_singleton,
    lastUpdate?_append, lastUpdate?_append, lastUpdate?_update, if_pos rfl]
  cases lastUpdate? (dialogue after) s.name <;> rfl

end Log

namespace Service

variable {setup : ImportSetup} {job : ImportJob} {d : Dialogue}
  {o : Program.Outcome (Reply Summary)} {churchId id recordId : String} {s : Statement}

theorem Imported.nodup_updates (h : Imported setup job d o)
    (hget : ∀ x ∈ d, Call.CanGet x.request x.answer)
    (hconfirmed : ∀ t a, ⟨.updateReconciliation t, a⟩ ∈ d → a = .ok ())
    (hnodup : d.drawn.Nodup) : (d.updates.map (·.id)).Nodup := by
  have hstored : ∀ {ids tries ss} (i : Intake setup job), List.Sublist ss (i.taken ids) →
      TriedAll ss tries → d = i.dialogue ++ (i.storing ids ++ said tries) →
      (d.updates.map (·.id)).Nodup := by
    intro ids tries ss i hss ht hd
    subst hd
    obtain ⟨hentries, -, -⟩ := updates_said ht
      (fun x hx => hget x (List.mem_append_right _ (List.mem_append_right _ hx)))
      (fun t a hx => hconfirmed t a (List.mem_append_right _ (List.mem_append_right _ hx)))
    have hids : (said tries).updates.map (·.id) = ss.map (·.id) :=
      Statement.ids_eq_of_entries_eq hentries
    have hupdates : Dialogue.updates (i.dialogue ++ (i.storing ids ++ said tries)) =
        (said tries).updates := by
      rw [Dialogue.updates_append, (Dialogue.prepared i.prepares).2.1]
      rfl
    rw [hupdates, hids]
    refine List.Nodup.sublist ((hss.trans List.filter_sublist).map _) ?_
    rw [i.ids_candidates]
    rw [Dialogue.drawn_append] at hnodup
    exact (List.nodup_append.mp hnodup).1
  cases h with
  | refused hd =>
    rw [(Dialogue.prepared hd).2.1]
    exact List.nodup_nil
  | unstored i =>
    rw [Dialogue.updates_append, (Dialogue.prepared i.prepares).2.1]
    exact List.nodup_nil
  | finished i ht => exact hstored i (List.Sublist.refl _) ht rfl
  | brokenOff i htaken ht _ =>
    exact hstored i (htaken ▸ List.sublist_append_left _ _) ht rfl

theorem nodup_updates_of_handle (h : (handle setup job).Transcript d o)
    (hget : ∀ x ∈ d, Call.CanGet x.request x.answer)
    (hconfirmed : ∀ t a, ⟨.updateReconciliation t, a⟩ ∈ d → a = .ok ())
    (hnodup : d.drawn.Nodup) : (d.updates.map (·.id)).Nodup := by
  rcases transcript_handle h with ⟨result, work, closing, rfl, -, hwork, hclosing⟩ | ⟨-, hwork⟩
  · obtain ⟨-, -, hupdates⟩ := hclosing.silent
    rw [Dialogue.updates_append, hupdates, List.append_nil]
    rw [Dialogue.drawn_append] at hnodup
    exact (transcript_importFile hwork).nodup_updates
      (fun x hx => hget x (List.mem_append_left _ hx))
      (fun t a hx => hconfirmed t a (List.mem_append_left _ hx)) (List.nodup_append.mp hnodup).1
  · exact (transcript_importFile hwork).nodup_updates hget hconfirmed hnodup

theorem Linked.updates_eq (h : Linked churchId id recordId d (.ok s))
    (hget : ∀ x ∈ d, Call.CanGet x.request x.answer) :
    d.inserted = [] ∧ d.updates = [s] ∧ s.recordId? = some recordId := by
  cases h with
  | @linked uuid t record now told _ ht =>
    refine ⟨by cases ht <;> rfl, by cases ht <;> rfl, ?_⟩
    obtain ⟨m, hm⟩ := hget ⟨.findRecord churchId recordId, .ok (some record)⟩ (by simp)
    have hkey := (Store.Ledger.mem_of_find? (Except.ok.inj hm)).2
    exact congrArg some (congrArg Prod.snd hkey)

end Service

namespace System

open Service

variable {setup : ImportSetup} {admits : System → Service.Request → Prop} {S₀ S : System}
  {log : Log} {name : String × Uuid} {s : Statement}

theorem Logged.find?_of_lastUpdate? (hunused : S₀.Unused) (h : Logged setup admits S₀ log S)
    (hs : log.dialogue.lastUpdate? name = some s) :
    S.memory.statements.find? name.1 name.2 = some s := by
  have hstored : (∀ t a, ⟨.updateReconciliation t, a⟩ ∈ log.dialogue → a = .ok ()) →
      ∀ s, log.dialogue.lastUpdate? name = some s →
        S.memory.statements.find? name.1 name.2 = some s := by
    refine h.memory_induction (P := fun log m =>
      (∀ t a, ⟨.updateReconciliation t, a⟩ ∈ log.dialogue → a = .ok ()) →
      ∀ s, log.dialogue.lastUpdate? name = some s → m.statements.find? name.1 name.2 = some s)
      (fun _ s hs => nomatch hs) ?_ fun _ _ _ hs _ _ hP => hs ▸ hP
    intro log m i c hP hconfirmed s hs
    rw [Log.dialogue_append, Log.dialogue_singleton] at hconfirmed hs
    refine Memory.find?_answer (fun t a ht => hconfirmed t a (List.mem_append_right _ ht)) ?_
    rw [Dialogue.lastUpdate?_append] at hs
    cases hlast : Dialogue.lastUpdate? [⟨c, (Memory.answer c m).1⟩] name with
    | some t =>
      rw [hlast] at hs
      exact hs
    | none =>
      rw [hlast, Option.none_or] at hs
      exact hP (fun t a ht => hconfirmed t a (List.mem_append_left _ ht)) s hs
  obtain ⟨g, -, htold⟩ := h.exists_told hunused
  exact hstored htold.confirmed s hs

def HoldsLink (S : System) (name : String × Uuid) (recordId : String) : Prop :=
  ∃ t, S.memory.statements.find? name.1 name.2 = some t ∧ t.status = .reconciled ∧
    t.recordId? = some recordId

theorem holdsLink_iff_of_find? {t : Statement} {recordId : String}
    (ht : S.memory.statements.find? name.1 name.2 = some t) :
    S.HoldsLink name recordId ↔ t.recordId? = some recordId := by
  constructor
  · rintro ⟨u, hu, -, hrecord⟩
    obtain rfl := Option.some.inj (ht.symm.trans hu)
    exact hrecord
  · intro hrecord
    refine ⟨t, ht, ?_, hrecord⟩
    by_contra hstatus
    have hnone := Statement.boundKey?_eq_none_iff.mpr hstatus
    rw [Statement.boundKey?_eq_some hrecord] at hnone
    cases hnone

section

variable {i j : Nat} {job : ImportJob} {churchId id recordId : String} {before after : Log}

theorem Logged.nodup_updates {rest : Task Response} (hunused : S₀.Unused)
    (h : Logged setup admits S₀ log S) (hnew : S₀.memory.NewIds S.memory.issued)
    (hi : S.activity i = some ⟨.importFile job, rest⟩) (hend : rest.Ended) :
    ((log.own i).updates.map (·.id)).Nodup := by
  have hget : ∀ x ∈ log.own i, Call.CanGet x.request x.answer := fun x hx =>
    h.canGet x (List.mem_map_of_mem (Log.mem_own_iff.mp hx))
  have hconfirmed : ∀ t a, ⟨.updateReconciliation t, a⟩ ∈ log.own i → a = .ok () :=
    fun t a ht => h.confirmed hunused ht
  have hdrawn := (h.nodup_drawn hnew).1.sublist (log.drawn_own_sublist i)
  obtain ⟨o, ho⟩ := h.transcript_of_ended hunused hi hend
  rcases Program.transcript_map ho with ⟨reply, hhandle, -⟩ | ⟨hhandle, -⟩
  · exact nodup_updates_of_handle hhandle hget hconfirmed hdrawn
  · exact nodup_updates_of_handle hhandle hget hconfirmed hdrawn

/-- A link that has succeeded has written the statement that it answered, and nothing else. -/
theorem Logged.updates_eq_of_link (hunused : S₀.Unused) (h : Logged setup admits S₀ log S)
    (hj : S.activity j = some ⟨.link churchId id recordId, .done (.linked (.ok s))⟩) :
    (log.own j).inserted = [] ∧ (log.own j).updates = [s] ∧ s.recordId? = some recordId := by
  have hget : ∀ x ∈ log.own j, Call.CanGet x.request x.answer := fun x hx =>
    h.canGet x (List.mem_map_of_mem (Log.mem_own_iff.mp hx))
  rcases Program.transcript_map (h.transcript hunused hj) with ⟨reply, hlink, ho⟩ | ⟨-, ho⟩
  · obtain rfl := Response.linked.inj (Program.Outcome.returned.inj ho)
    obtain ⟨result, hresult, hlinked⟩ := transcript_link hlink
    obtain rfl := Program.Outcome.returned.inj hresult
    exact hlinked.updates_eq hget
  · exact nomatch ho

/-- When only two operations were started, what is written after the one statement that the second
writes is written by the first. -/
theorem Logged.mem_own_of_late (hunused : S₀.Unused)
    (h : Logged setup admits S₀ (before ++ ⟨j, .updateReconciliation s, .ok ()⟩ :: after) S)
    (hwritten : Dialogue.updates
      (Log.own (before ++ ⟨j, .updateReconciliation s, .ok ()⟩ :: after) j) = [s])
    (hothers : ∀ k, k ≠ i → k ≠ j → S.activity k = none) :
    ∀ t ∈ Dialogue.updates (Log.dialogue after),
      ⟨.updateReconciliation t, .ok ()⟩ ∈ Log.own after i := by
  intro t ht
  obtain ⟨b, hx⟩ := Dialogue.mem_updates_iff.mp ht
  have hown : ⟨.updateReconciliation t, b⟩ ∈ Log.own after i := by
    refine Log.mem_own_of_late hwritten (fun e he hne => ?_) hx
    by_contra hnej
    have hmem : e ∈ before ++ ⟨j, .updateReconciliation s, .ok ()⟩ :: after :=
      List.mem_append_right _ (List.mem_cons_of_mem _ he)
    exact h.isSome_of_mem hunused hmem (hothers _ hne hnej)
  obtain rfl := h.confirmed hunused (Log.mem_own_middle hown)
  exact hown

end

/-- When an import and a link have both ended, the link is lost exactly if the import has written
its statement after it, and not the same binding. -/
theorem holdsLink_iff_late_import {i j : Nat} {job : ImportJob} {rest : Task Response}
    {churchId id recordId : String} (hunused : S₀.Unused) (h : Logged setup admits S₀ log S)
    (hnew : S₀.memory.NewIds S.memory.issued)
    (hi : S.activity i = some ⟨.importFile job, rest⟩) (hend : rest.Ended)
    (hj : S.activity j = some ⟨.link churchId id recordId, .done (.linked (.ok s))⟩)
    (hothers : ∀ k, k ≠ i → k ≠ j → S.activity k = none) :
    ∃ before after : Log, log = before ++ ⟨j, .updateReconciliation s, .ok ()⟩ :: after ∧
      (S.HoldsLink s.name recordId ↔
        ∀ t, ⟨.updateReconciliation t, .ok ()⟩ ∈ after.own i → t.name = s.name →
          t.recordId? = some recordId) := by
  have hnodup := h.nodup_updates hunused hnew hi hend
  obtain ⟨-, hwritten, hrecord⟩ := h.updates_eq_of_link hunused hj
  obtain ⟨a, ha⟩ := Dialogue.mem_updates_iff.mp (hwritten ▸ List.mem_singleton_self s)
  obtain rfl := h.confirmed hunused ha
  obtain ⟨before, after, rfl⟩ := List.append_of_mem (Log.mem_own_iff.mp ha)
  refine ⟨before, after, rfl, ?_⟩
  have hlate := h.mem_own_of_late hunused hwritten hothers
  -- the last update of the name decides, and after the link only the import updates, each name once
  have hlast := h.find?_of_lastUpdate? hunused Log.lastUpdate?_middle
  rw [holdsLink_iff_of_find? hlast]
  cases hafter : Dialogue.lastUpdate? (Log.dialogue after) s.name with
  | none =>
    refine iff_of_true hrecord fun t ht hname => ?_
    have hupdate := Dialogue.mem_updates_iff.mpr
      ⟨_, List.mem_map_of_mem (f := Entry.exchange) (Log.mem_own_iff.mp ht)⟩
    exact absurd hname (Dialogue.not_mem_of_lastUpdate? hafter hupdate)
  | some u =>
    obtain ⟨hu, huname⟩ := Dialogue.mem_of_lastUpdate? hafter
    have hwrites : ∀ t, ⟨.updateReconciliation t, .ok ()⟩ ∈ Log.own after i →
        t ∈ Dialogue.updates
          (Log.own (before ++ ⟨j, .updateReconciliation s, .ok ()⟩ :: after) i) :=
      fun t ht => Dialogue.mem_updates_iff.mpr ⟨_, Log.mem_own_middle ht⟩
    constructor
    · intro hkept t ht hname
      have hsame : t.id = u.id := congrArg Prod.snd (hname.trans huname.symm)
      rw [List.inj_on_of_nodup_map hnodup (hwrites t ht) (hwrites u (hlate u hu)) hsame]
      exact hkept
    · exact fun hkept => hkept u (hlate u hu) huname

end System

def Activity.linked? : Activity → Option (String × String × String × Statement)
  | ⟨.link churchId id recordId, .done (.linked (.ok s))⟩ => some (churchId, id, recordId, s)
  | _ => none

theorem Activity.eq_of_linked? {a : Activity} {churchId id recordId : String} {s : Statement}
    (h : a.linked? = some (churchId, id, recordId, s)) :
    a = ⟨.link churchId id recordId, .done (.linked (.ok s))⟩ := by
  unfold linked? at h
  split at h
  · cases h
    rfl
  · cases h

def Sample.overtaken : System :=
  ((start.starting setup 0 (importOf "https://a")).starting setup 1
    (.link "church" (Uuid.ofNat 0).render "fr-1")).turns
      (List.replicate 7 0 ++ List.replicate 6 1 ++ List.replicate 8 0)

namespace System

theorem reaches_overtaken : Reaches Sample.setup anything Sample.start Sample.overtaken :=
  ((reaches_starting rfl trivial).trans (reaches_starting rfl trivial)).trans (reaches_turns _ _)

theorem activity_overtaken : (∃ job summary,
      Sample.overtaken.activity 0 = some ⟨.importFile job, .done (.imported (.ok summary))⟩) ∧
    (∃ id s, Sample.overtaken.activity 1 =
      some ⟨.link "church" id "fr-1", .done (.linked (.ok s))⟩ ∧
      s.name = ("church", Uuid.ofNat 0) ∧ ¬ Sample.overtaken.HoldsLink s.name "fr-1") ∧
    ∀ k, k ≠ 0 → k ≠ 1 → Sample.overtaken.activity k = none := by
  refine ⟨?_, ?_, ?_⟩
  · have hdone : (((Sample.overtaken.activity 0).bind Activity.imported?).isSome) = true := by
      decide +kernel
    obtain ⟨⟨job, summary⟩, hresult⟩ := Option.isSome_iff_exists.mp hdone
    obtain ⟨a, hactivity, ha⟩ := Option.bind_eq_some_iff.mp hresult
    rw [Activity.eq_of_imported? ha] at hactivity
    exact ⟨job, summary, hactivity⟩
  · have hdone : ((Sample.overtaken.activity 1).bind Activity.linked?).map
        (fun r => (r.1, r.2.2.1, r.2.2.2.name)) =
          some ("church", "fr-1", ("church", Uuid.ofNat 0)) := by decide +kernel
    obtain ⟨⟨churchId, id, recordId, s⟩, hresult, hsame⟩ := Option.map_eq_some_iff.mp hdone
    obtain ⟨a, hactivity, ha⟩ := Option.bind_eq_some_iff.mp hresult
    obtain ⟨rfl, hsame⟩ := Prod.mk.inj hsame
    obtain ⟨rfl, hname⟩ := Prod.mk.inj hsame
    rw [Activity.eq_of_linked? ha] at hactivity
    refine ⟨id, s, hactivity, hname, ?_⟩
    rintro ⟨t, ht, -, hrecord⟩
    have hlost : (Sample.overtaken.memory.statements.find? "church" (Uuid.ofNat 0)).bind
        Statement.recordId? = none := by decide +kernel
    have hname' : s.name = ("church", Uuid.ofNat 0) := hname
    rw [hname'] at ht
    rw [ht, Option.bind_some, hrecord] at hlost
    cases hlost
  · intro k hk₀ hk₁
    refine activity_turns ?_
    rw [starting, withActivity_of_ne hk₁, starting, withActivity_of_ne hk₀]
    rfl

theorem mem_inserted_overtaken {log : Log} {id : String} {s : Statement}
    (h : Logged Sample.setup anything Sample.start log Sample.overtaken)
    (hlink : Sample.overtaken.activity 1 =
      some ⟨.link "church" id "fr-1", .done (.linked (.ok s))⟩)
    (hs : s.id ∈ Sample.overtaken.memory.statements.map (·.id)) :
    s.id ∈ (log.own 0).inserted := by
  rw [h.ids_eq] at hs
  obtain ⟨e, he, hmem⟩ := Log.exists_inserted hs
  by_cases hactor : e.actor = 0
  · exact hactor ▸ hmem
  · have hone : e.actor = 1 := by
      by_contra hne
      exact h.isSome_of_mem Sample.unused_start he (activity_overtaken.2.2 _ hactor hne)
    rw [hone, (h.updates_eq_of_link Sample.unused_start hlink).1] at hmem
    cases hmem

/-- The link of the sample is lost: the import has written its statement after it. -/
theorem holdsLink_iff_late_import_overtaken :
    ∃ (s : Statement) (before after : Log),
      Logged Sample.setup anything Sample.start
        (before ++ ⟨1, .updateReconciliation s, .ok ()⟩ :: after) Sample.overtaken ∧
      ∃ t, ⟨.updateReconciliation t, .ok ()⟩ ∈ after.own 0 ∧ t.name = s.name ∧
        t.recordId? ≠ some "fr-1" := by
  obtain ⟨⟨job, summary, himport⟩, ⟨id, s, hlink, -, hlost⟩, hothers⟩ := activity_overtaken
  obtain ⟨log, hlog⟩ := reaches_iff_logged.mp reaches_overtaken
  obtain ⟨before, after, rfl, hiff⟩ := holdsLink_iff_late_import Sample.unused_start hlog
    (by decide +kernel) himport trivial hlink hothers
  refine ⟨s, before, after, hlog, ?_⟩
  by_contra hnone
  refine hlost (hiff.mpr fun t ht hname => ?_)
  by_contra hrecord
  exact hnone ⟨t, ht, hname, hrecord⟩

/-- A link of a statement can be lost to the import that has inserted it. -/
theorem not_holdsLink_of_import :
    ¬ ∀ (setup : ImportSetup) (S₀ S : System) (log : Log) (i j : Nat) (job : ImportJob)
      (summary : Summary) (churchId id recordId : String) (s : Statement), S₀.Unused →
      S₀.memory.statements = [] → Logged setup anything S₀ log S →
      S₀.memory.NewIds S.memory.issued →
      S.activity i = some ⟨.importFile job, .done (.imported (.ok summary))⟩ →
      S.activity j = some ⟨.link churchId id recordId, .done (.linked (.ok s))⟩ →
      (∀ k, k ≠ i → k ≠ j → S.activity k = none) → s.id ∈ (log.own i).inserted →
      S.HoldsLink s.name recordId := by
  intro h
  obtain ⟨⟨job, summary, himport⟩, ⟨id, s, hlink, hname, hlost⟩, hothers⟩ := activity_overtaken
  obtain ⟨log, hlog⟩ := reaches_iff_logged.mp reaches_overtaken
  have hid : s.id = Uuid.ofNat 0 := congrArg Prod.snd hname
  have hstored : s.id ∈ Sample.overtaken.memory.statements.map (·.id) := by
    rw [hid]
    decide +kernel
  exact hlost (h _ _ _ log 0 1 job summary _ id _ s Sample.unused_start rfl hlog
    (by decide +kernel) himport hlink hothers (mem_inserted_overtaken hlog hlink hstored))

end System

end BankReconciliation
