import BankReconciliation.Proofs.Interleaving.Log
import BankReconciliation.Proofs.Interleaving.Serving
import BankReconciliation.Proofs.Metric
import BankReconciliation.Proofs.Service.Failures

/-! The counts of an import balance, whatever other operations do between its calls. An import
inserts only ids that it has drawn, so that what it has stored can be told from what others have;
and it writes each statement that it has stored once. -/

namespace BankReconciliation

namespace MetricEvent

def insertedLines : String := series "bank_statement_lines_total" [("outcome", "inserted")]

def duplicateLines : String := series "bank_statement_lines_total" [("outcome", "duplicate")]

def autoMatches : String :=
  series "bank_statement_reconciliations_total" [("method", "auto"), ("result", "matched")]

end MetricEvent

open MetricEvent

/-- By how much the counters of inserted lines, of duplicate lines and of matches grow. -/
structure Counted (events : List MetricEvent) (inserted duplicates matched : Nat) : Prop where
  inserted : grown insertedLines events = inserted
  duplicates : grown duplicateLines events = duplicates
  matched : grown autoMatches events = matched

namespace Counted

theorem nil : Counted [] 0 0 0 := ⟨rfl, rfl, rfl⟩

theorem append {events events' : List MetricEvent} {n m k n' m' k' : Nat}
    (h : Counted events n m k) (h' : Counted events' n' m' k') :
    Counted (events ++ events') (n + n') (m + m') (k + k') := by
  refine ⟨?_, ?_, ?_⟩ <;> rw [grown_append]
  · rw [h.inserted, h'.inserted]
  · rw [h.duplicates, h'.duplicates]
  · rw [h.matched, h'.matched]

theorem lines (n m : Nat) : Counted [.lines "inserted" n, .lines "duplicate" m] n m 0 := by
  have hgrowth : List.flatMap growth [.lines "inserted" n, .lines "duplicate" m] =
      [(insertedLines, n), (duplicateLines, m)] := rfl
  have hne : insertedLines ≠ duplicateLines ∧ insertedLines ≠ autoMatches ∧
      duplicateLines ≠ autoMatches := by decide +kernel
  refine ⟨?_, ?_, ?_⟩ <;> rw [grown_eq, hgrowth] <;> simp [addedTo, hne, hne.1.symm]

theorem reconciliations (results : List Bool) :
    Counted (results.map (.reconciliation "auto")) 0 0 (results.countP id) := by
  induction results with
  | nil => exact nil
  | cons matched rest ih =>
    have hone : Counted [.reconciliation "auto" matched] 0 0 matched.toNat := by
      cases matched <;> exact ⟨by decide +kernel, by decide +kernel, by decide +kernel⟩
    have hcount : (matched :: rest).countP id = matched.toNat + rest.countP id := by
      cases matched <;> simp [Nat.add_comm]
    rw [hcount]
    exact hone.append ih

end Counted

namespace Service

variable {setup : ImportSetup} {job : ImportJob} {s : Statement} {ss : List Statement}
  {d : Dialogue} {attempt : Attempt} {tries : List (Dialogue × Bool)} {matched : Bool}
  {result : Reply Summary}

theorem Announced.of_memory {record : LedgerRecord} (h : Announced record d)
    (hget : ∀ x ∈ d, Call.CanGet x.request x.answer) :
    d = [⟨.dispatchStatus record .reconciled, .ok ()⟩] := by
  cases h with
  | told => rfl
  | untold =>
    obtain ⟨m, hm⟩ := hget _ List.mem_cons_self
    exact nomatch hm

/-- What an attempt has written: a later version of the statement, and whether it matched. -/
structure Wrote (s : Statement) (d : Dialogue) (matched : Bool) (t : Statement) : Prop where
  updates : d.updates = [t]
  entry : t.entry = s.entry
  status : t.status = if matched then .reconciled else .unmatched
  events : d.events = [.reconciliation "auto" matched]

theorem Tried.wrote (h : Tried s d matched)
    (hget : ∀ x ∈ d, Call.CanGet x.request x.answer)
    (hconfirmed : ∀ t a, ⟨.updateReconciliation t, a⟩ ∈ d → a = .ok ()) :
    ∃ t, Wrote s d matched t := by
  obtain ⟨h⟩ := h
  cases h with
  | unanswered _ =>
    obtain ⟨m, hm⟩ := hget _ List.mem_cons_self
    exact nomatch hm
  | @unstored f choice now e _ =>
    exact nomatch hconfirmed (s.settled choice now) (.error e) (by simp)
  | @unmatched f now _ => exact ⟨s.markUnmatched now, rfl, rfl, rfl, rfl⟩
  | @matched f record now told _ ht =>
    have htold := ht.of_memory fun x hx => hget x (by simp [hx])
    subst htold
    exact ⟨s.markReconciled record.id now, rfl, rfl, rfl, rfl⟩

theorem updates_said (h : TriedAll ss tries)
    (hget : ∀ x ∈ said tries, Call.CanGet x.request x.answer)
    (hconfirmed : ∀ t a, ⟨.updateReconciliation t, a⟩ ∈ said tries → a = .ok ()) :
    (said tries).updates.map Statement.entry = ss.map Statement.entry ∧
      (said tries).updates.countP (·.status = .reconciled) = matchCount tries ∧
      (said tries).events = (tries.map Prod.snd).map (.reconciliation "auto") := by
  induction h with
  | nil => exact ⟨rfl, rfl, rfl⟩
  | @cons s t ss tries ht _ ih =>
    obtain ⟨d, matched⟩ := t
    have hsaid : said ((d, matched) :: tries) = d ++ said tries := rfl
    rw [hsaid] at hget hconfirmed ⊢
    obtain ⟨new, hupdates, hentry, hstatus, hevents⟩ := ht.wrote
      (fun x hx => hget x (List.mem_append_left _ hx))
      (fun t a hx => hconfirmed t a (List.mem_append_left _ hx))
    obtain ⟨ihentries, ihmatched, ihevents⟩ := ih
      (fun x hx => hget x (List.mem_append_right _ hx))
      (fun t a hx => hconfirmed t a (List.mem_append_right _ hx))
    rw [Dialogue.updates_append, Dialogue.events_append]
    refine ⟨?_, ?_, ?_⟩
    · rw [List.map_append, hupdates, ihentries, List.map_singleton, hentry]
      rfl
    · rw [hupdates, List.singleton_append, List.countP_cons, ihmatched, matchCount, matchCount,
        List.countP_cons, hstatus]
      cases matched <;> rfl
    · rw [hevents, ihevents]
      rfl

theorem Closed.silent (h : Closed setup job result d) :
    d.drawn = [] ∧ d.inserted = [] ∧ d.updates = [] := by
  cases h with
  | succeeded hr ht => cases hr <;> cases ht <;> exact ⟨rfl, rfl, rfl⟩
  | failed hr => cases hr <;> exact ⟨rfl, rfl, rfl⟩

theorem Closed.counted {summary : Summary} (h : Closed setup job (.ok summary) d) :
    Counted d.events 0 0 0 := by
  have hsuccess : Counted [.imported "success"] 0 0 0 :=
    ⟨by decide +kernel, by decide +kernel, by decide +kernel⟩
  have hnotice : Counted [.error "notification"] 0 0 0 :=
    ⟨by decide +kernel, by decide +kernel, by decide +kernel⟩
  cases h with
  | succeeded hr ht =>
    cases hr <;> cases ht
    · exact hsuccess
    · exact hsuccess.append hnotice
    · exact hsuccess
    · exact hsuccess.append hnotice

theorem silent_said (h : TriedAll ss tries) :
    (said tries).drawn = [] ∧ (said tries).inserted = [] := by
  induction h with
  | nil => exact ⟨rfl, rfl⟩
  | @cons s t ss tries ht _ ih =>
    obtain ⟨d, matched⟩ := t
    have hsaid : said ((d, matched) :: tries) = d ++ said tries := rfl
    have hone : d.drawn = [] ∧ d.inserted = [] := by
      obtain ⟨h⟩ := ht
      cases h with
      | matched _ ht => cases ht <;> exact ⟨rfl, rfl⟩
      | _ => exact ⟨rfl, rfl⟩
    rw [hsaid, Dialogue.drawn_append, Dialogue.inserted_append, hone.1, hone.2, ih.1, ih.2]
    exact ⟨rfl, rfl⟩

theorem ids_statementsOf {churchId : String} {now : Instant} {ids : List Uuid} {lines : List Line}
    (h : ids.length = lines.length) : (statementsOf churchId now ids lines).map (·.id) = ids := by
  induction ids generalizing lines with
  | nil => rfl
  | cons id ids ih =>
    cases lines with
    | nil => cases h
    | cons l ls => exact congrArg (id :: ·) (ih (Nat.succ.inj h))

theorem length_eraseDups_le (ids : List Uuid) : ids.eraseDups.length ≤ ids.length := by
  match ids with
  | [] => exact Nat.le_refl 0
  | id :: ids =>
    have hfilter := ids.length_filter_le fun other => !other == id
    have hrest := length_eraseDups_le (ids.filter fun other => !other == id)
    rw [List.eraseDups_cons]
    exact Nat.succ_le_succ (Nat.le_trans hrest hfilter)
termination_by ids.length
decreasing_by exact Nat.lt_succ_of_le hfilter

theorem length_ids_of_memory {candidates : List Statement} {ids : List Uuid}
    (hget : Call.CanGet (.insertMany candidates) (.ok ids)) :
    ids.eraseDups.length ≤ candidates.length := by
  obtain ⟨m, hm⟩ := hget
  obtain ⟨added, hsub, hadd⟩ := Store.Statements.exists_added m.statements candidates
  simp only [Memory.answer, hadd] at hm
  obtain rfl : added.map (·.id) = ids := Except.ok.inj hm
  have hlength := length_eraseDups_le (added.map (·.id))
  rw [List.length_map] at hlength
  exact Nat.le_trans hlength hsub.length_le

namespace Intake

variable {i : Intake setup job} {ids : List Uuid}

theorem ids_candidates (i : Intake setup job) : i.candidates.map (·.id) = i.dialogue.drawn :=
  ids_statementsOf i.length_drawn

theorem taken_of_memory (hget : Call.CanGet (.insertMany i.candidates) (.ok ids))
    (hnodup : i.dialogue.drawn.Nodup) :
    List.Sublist (i.taken ids) i.candidates ∧ (i.taken ids).map (·.id) = ids ∧
      ids.eraseDups.length = (i.taken ids).length := by
  obtain ⟨m, hm⟩ := hget
  obtain ⟨added, hsub, hadd⟩ := Store.Statements.exists_added m.statements i.candidates
  simp only [Memory.answer, hadd] at hm
  obtain rfl : added.map (·.id) = ids := Except.ok.inj hm
  have hcandidates : (i.candidates.map (·.id)).Nodup := i.ids_candidates ▸ hnodup
  have htaken : i.taken (added.map (·.id)) = added :=
    Store.Statements.filter_ids_of_sublist hsub hcandidates
  rw [htaken, eraseDups_of_nodup (hcandidates.sublist (hsub.map _)), List.length_map]
  exact ⟨hsub, rfl, rfl⟩

theorem length_lines (i : Intake setup job) (hsub : List.Sublist (i.taken ids) i.candidates)
    (hlength : ids.eraseDups.length = (i.taken ids).length) :
    i.lines.length = (i.taken ids).length + i.duplicates ids := by
  have hcandidates : i.candidates.length = i.kept.length := by
    rw [← List.length_map, i.ids_candidates, i.length_drawn]
  have hle := hsub.length_le
  have hkept := i.kept_sublist.length_le
  rw [duplicates]
  omega

theorem entry_of_mem_candidates (hs : s ∈ i.candidates) : s.entry = s := by
  obtain ⟨_, _, _, _, rfl⟩ := exists_of_mem_statementsOf hs
  rfl

/-- What can be read off the dialogue of an import that has come to its end. -/
theorem readings {closing : Dialogue} (i : Intake setup job) (ids : List Uuid)
    (ht : TriedAll ss tries) (hclosing : Closed setup job result closing) :
    let d : Dialogue := i.dialogue ++ (i.storing ids ++ said tries) ++ closing
    d.drawn = i.dialogue.drawn ∧ d.inserted = ids ∧ d.updates = (said tries).updates ∧
      d.events = [.lines "inserted" (i.taken ids).length, .lines "duplicate" (i.duplicates ids)] ++
        (said tries).events ++ closing.events := by
  obtain ⟨hinserted, hupdates, hevents⟩ := Dialogue.prepared i.prepares
  obtain ⟨hdrawn', hinserted', hupdates'⟩ := hclosing.silent
  obtain ⟨hdrawn'', hinserted''⟩ := silent_said ht
  have hstoring : (i.storing ids).drawn = [] ∧ (i.storing ids).inserted = ids ∧
      (i.storing ids).updates = [] := ⟨rfl, List.append_nil _, rfl⟩
  refine ⟨?_, ?_, ?_, ?_⟩
  · simp only [Dialogue.drawn_append, hdrawn', hdrawn'', hstoring.1, List.append_nil]
  · simp only [Dialogue.inserted_append, hinserted, hinserted', hinserted'', hstoring.2.1,
      List.append_nil, List.nil_append]
  · simp only [Dialogue.updates_append, hupdates, hupdates', hstoring.2.2, List.append_nil,
      List.nil_append]
  · simp only [Dialogue.events_append, hevents, List.nil_append]
    rfl

end Intake

end Service

namespace Memory

variable {m : Memory} {n : Nat}

theorem NewIds.upcoming (h : m.NewIds (m.issued + n)) :
    (m.upcoming n).Nodup ∧ ∀ s ∈ m.statements, s.id ∉ m.upcoming n := by
  constructor
  · refine List.pairwise_map.mpr (List.pairwise_lt_range.imp_of_mem ?_)
    intro a b ha hb hab
    have hb' := List.mem_range.mp hb
    exact (h (m.issued + b) (by omega) (by omega)).2 (m.issued + a) (by omega) (by omega)
  · intro s hs hmem
    obtain ⟨k, hk, hid⟩ := List.mem_map.mp hmem
    have hk' := List.mem_range.mp hk
    exact (h (m.issued + k) (by omega) (by omega)).1 s hs hid.symm

end Memory

namespace Log

open Dialogue

variable {log : Log} {i j : Nat}

theorem drawn_own_sublist (log : Log) (i : Nat) :
    List.Sublist (log.own i).drawn log.dialogue.drawn :=
  (List.filter_sublist.map _).filterMap _

theorem disjoint_drawn (h : log.dialogue.drawn.Nodup) (hij : j ≠ i) :
    List.Disjoint (log.own i).drawn (log.own j).drawn := by
  let others : Log := log.filter fun e => !decide (e.actor = i)
  have hperm : (drawn (log.own i) ++ drawn others.dialogue).Perm log.dialogue.drawn := by
    rw [own, ← Dialogue.drawn_append, ← dialogue_append]
    exact ((List.filter_append_perm _ log).map _).filterMap _
  have hothers : others.own j = log.own j := by
    rw [own, List.filter_filter, own]
    refine congrArg dialogue (List.filter_congr fun e _ => ?_)
    by_cases hj : e.actor = j <;> simp [hj, hij]
  have hdisjoint := List.disjoint_of_nodup_append (hperm.nodup_iff.mpr h)
  intro id hi hj
  rw [← hothers] at hj
  exact hdisjoint hi ((drawn_own_sublist others j).subset hj)

theorem mem_inserted_own {e : Entry} {id : Uuid} (he : e ∈ log)
    (hid : id ∈ Dialogue.inserted [e.exchange]) : id ∈ (log.own e.actor).inserted := by
  obtain ⟨x, hx, hid⟩ := List.mem_flatMap.mp hid
  obtain rfl := List.mem_singleton.mp hx
  exact List.mem_flatMap.mpr ⟨_, mem_own_iff.mpr he, hid⟩

theorem exists_inserted {id : Uuid} (hid : id ∈ log.dialogue.inserted) :
    ∃ e ∈ log, id ∈ (log.own e.actor).inserted := by
  obtain ⟨x, hx, hid⟩ := List.mem_flatMap.mp hid
  obtain ⟨e, he, rfl⟩ := List.mem_map.mp hx
  exact ⟨e, he, mem_inserted_own he (List.mem_flatMap.mpr ⟨_, List.mem_singleton_self _, hid⟩)⟩

theorem inserted_filter (ids : List Uuid) (hown : ∀ id ∈ (log.own i).inserted, id ∈ ids)
    (hother : ∀ j, j ≠ i → ∀ id ∈ (log.own j).inserted, id ∉ ids) :
    log.dialogue.inserted.filter (· ∈ ids) = (log.own i).inserted := by
  have hentry : ∀ e ∈ log, ∀ id ∈ Dialogue.inserted [e.exchange], id ∈ ids ↔ e.actor = i := by
    intro e he id hid
    have hmem := mem_inserted_own he hid
    by_cases hactor : e.actor = i
    · exact iff_of_true (hown id (hactor ▸ hmem)) hactor
    · exact iff_of_false (hother _ hactor id hmem) hactor
  clear hown hother
  induction log with
  | nil => rfl
  | cons e log ih =>
    obtain ⟨he, hrest⟩ := List.forall_mem_cons.mp hentry
    have hsplit : dialogue (e :: log) = [e.exchange] ++ dialogue log := rfl
    have hown : own ([e] ++ log) i = own [e] i ++ own log i := own_append
    rw [List.singleton_append] at hown
    rw [hsplit, hown, Dialogue.inserted_append, Dialogue.inserted_append, List.filter_append,
      ih hrest]
    congr 1
    obtain ⟨j, x⟩ := e
    by_cases hj : j = i
    · subst hj
      rw [own_singleton_self]
      exact List.filter_eq_self.mpr fun id hid => decide_eq_true ((he id hid).mpr rfl)
    · rw [own_singleton_of_ne hj]
      refine List.filter_eq_nil_iff.mpr fun id hid hmem => ?_
      exact hj ((he id hid).mp (of_decide_eq_true hmem))

end Log

namespace System

open Service

/-- The counts of an import, with what was stored, written and counted on its account. -/
structure Balanced (setup : ImportSetup) (job : ImportJob) (S : System) (d : Dialogue)
    (summary : Summary) : Prop where
  total : summary.totalLines = summary.inserted + summary.duplicates
  inserted : summary.inserted = summary.matched + summary.pending
  /-- The store answers no more ids than it was given statements. -/
  answered : ∀ candidates ids, ⟨.insertMany candidates, .ok ids⟩ ∈ d →
    ids.eraseDups.length ≤ candidates.length
  /-- What is stored under the identifiers that the import has drawn is what it has inserted. -/
  stored : S.memory.statements.countP (fun s => s.id ∈ d.drawn) = summary.inserted
  /-- The import has written each of these statements once, in the order in which they are stored,
  and no other. -/
  written : d.updates.map (·.id) = (S.memory.statements.map (·.id)).filter (· ∈ d.drawn)
  nodup : (d.updates.map (·.id)).Nodup
  confirmed : ∀ s a, ⟨.updateReconciliation s, a⟩ ∈ d → a = .ok ()
  matched : d.updates.countP (·.status = .reconciled) = summary.matched
  /-- That order is the one of the lines in the file. -/
  fileOrder : ∃ opened lines now kept, ⟨.openFile job.location, opened⟩ ∈ d ∧
    linesFrom setup job opened = .ok lines ∧ summary.totalLines = lines.length ∧
    List.Sublist kept lines ∧ List.Sublist (d.updates.map Statement.entry)
      (statementsOf job.churchId now d.drawn kept)
  counted : Counted d.events summary.inserted summary.duplicates summary.matched

variable {setup : ImportSetup} {admits : System → Service.Request → Prop} {S₀ S : System}
  {log : Log} {i : Nat} {job : ImportJob} {summary : Summary}

theorem Logged.nodup_drawn (h : Logged setup admits S₀ log S)
    (hnew : S₀.memory.NewIds S.memory.issued) :
    log.dialogue.drawn.Nodup ∧ ∀ s ∈ S₀.memory.statements, s.id ∉ log.dialogue.drawn := by
  obtain ⟨-, hissued, hdrawn⟩ := h.drawn_eq
  rw [hissued] at hnew
  rw [hdrawn]
  exact hnew.upcoming

/-- What is stored under the identifiers that an operation has drawn is what it has inserted. -/
theorem Logged.filter_ids (hunused : S₀.Unused) (h : Logged setup admits S₀ log S)
    (hnew : S₀.memory.NewIds S.memory.issued) :
    (S.memory.statements.map (·.id)).filter (· ∈ (log.own i).drawn) = (log.own i).inserted := by
  obtain ⟨hnodup, hstart⟩ := h.nodup_drawn hnew
  have hbefore : (S₀.memory.statements.map (·.id)).filter (· ∈ (log.own i).drawn) = [] := by
    refine List.filter_eq_nil_iff.mpr ?_
    intro id hid hmem
    obtain ⟨s, hs, rfl⟩ := List.mem_map.mp hid
    exact hstart s hs ((log.drawn_own_sublist i).subset (of_decide_eq_true hmem))
  rw [h.ids_eq, List.filter_append, hbefore, List.nil_append]
  refine Log.inserted_filter _ (h.inserted_subset hunused) ?_
  intro j hj id hid hmem
  exact Log.disjoint_drawn hnodup hj hmem (h.inserted_subset hunused hid)

/-- An import that has come to its end on a memory, with identifiers that differ. -/
theorem balanced_of_finished {ids : List Uuid} {tries : List (Dialogue × Bool)} {closing : Dialogue}
    (intake : Intake setup job) (ht : TriedAll (intake.taken ids) tries)
    (hclosing : Closed setup job (.ok (intake.summary ids (matchCount tries))) closing)
    (hget : ∀ x ∈ intake.dialogue ++ (intake.storing ids ++ said tries) ++ closing,
      Call.CanGet x.request x.answer)
    (hconfirmed : ∀ s a, ⟨.updateReconciliation s, a⟩ ∈
      intake.dialogue ++ (intake.storing ids ++ said tries) ++ closing → a = .ok ())
    (hnodup : intake.dialogue.drawn.Nodup)
    (hstored : (S.memory.statements.map (·.id)).filter (· ∈ intake.dialogue.drawn) = ids) :
    Balanced setup job S (intake.dialogue ++ (intake.storing ids ++ said tries) ++ closing)
      (intake.summary ids (matchCount tries)) := by
  have hstoring : ∀ x ∈ intake.storing ids ++ said tries,
      x ∈ intake.dialogue ++ (intake.storing ids ++ said tries) ++ closing :=
    fun x hx => List.mem_append_left _ (List.mem_append_right _ hx)
  have hsaid : ∀ x ∈ said tries, x ∈ intake.storing ids ++ said tries :=
    fun x hx => List.mem_append_right _ hx
  have hinsert : ⟨.insertMany intake.candidates, .ok ids⟩ ∈ intake.storing ids ++ said tries :=
    List.mem_append_left _ List.mem_cons_self
  obtain ⟨hdrawn, hinserted, hupdates, hevents⟩ := intake.readings ids ht hclosing
  obtain ⟨hsub, hids, hlength⟩ := intake.taken_of_memory (hget _ (hstoring _ hinsert)) hnodup
  obtain ⟨hentries, hmatched, hattempts⟩ := updates_said ht
    (fun x hx => hget x (hstoring x (hsaid x hx)))
    (fun s a hx => hconfirmed s a (hstoring _ (hsaid _ hx)))
  have hsame : ∀ s ∈ intake.taken ids, s.entry = s := fun s hs =>
    Intake.entry_of_mem_candidates (hsub.subset hs)
  have htaken : (intake.taken ids).map Statement.entry = intake.taken ids :=
    (List.map_congr_left hsame).trans (List.map_id _)
  have hwritten : (said tries).updates.map (·.id) = ids :=
    (Statement.ids_eq_of_entries_eq hentries).trans hids
  -- the statements tried are those taken, in their order, whatever the attempts have written
  refine ⟨intake.length_lines hsub hlength, (Nat.add_sub_cancel' (matchCount_le ht)).symm, ?_, ?_,
    ?_, ?_, hconfirmed, ?_, ?_, ?_⟩
  · exact fun candidates ids' hx => length_ids_of_memory (hget _ hx)
  · have hlengths := congrArg List.length hstored
    rw [List.filter_map, List.length_map, ← List.countP_eq_length_filter, ← hids,
      List.length_map] at hlengths
    rw [hdrawn]
    exact hlengths
  · rw [hupdates, hwritten, hdrawn, hstored]
  · rw [hupdates, hwritten, ← hids]
    exact (intake.ids_candidates ▸ hnodup).sublist (hsub.map _)
  · exact hupdates ▸ hmatched
  · refine ⟨intake.opened, intake.lines, intake.now, intake.kept, ?_, intake.lines_eq, rfl,
      intake.kept_sublist, ?_⟩
    · exact List.mem_append_left _ (List.mem_append_left _ intake.mem_dialogue)
    · rw [hupdates, hentries, htaken, hdrawn]
      exact hsub
  · have hreconciliations := Counted.reconciliations (tries.map Prod.snd)
    rw [List.countP_map] at hreconciliations
    have hlines := Counted.lines (intake.taken ids).length (intake.duplicates ids)
    have hall := (hlines.append hreconciliations).append hclosing.counted
    rw [Nat.zero_add] at hall
    rw [hevents, hattempts]
    exact hall

/-- The counts of an import balance, whatever other operations do between its calls. -/
theorem balanced_of_logged (hunused : S₀.Unused) (h : Logged setup admits S₀ log S)
    (hnew : S₀.memory.NewIds S.memory.issued)
    (hi : S.activity i = some ⟨.importFile job, .done (.imported (.ok summary))⟩) :
    Balanced setup job S (log.own i) summary := by
  have hget : ∀ x ∈ log.own i, Call.CanGet x.request x.answer := fun x hx =>
    h.canGet x (List.mem_map_of_mem (Log.mem_own_iff.mp hx))
  have hconfirmed : ∀ s a, ⟨.updateReconciliation s, a⟩ ∈ log.own i → a = .ok () :=
    fun s a hs => h.confirmed hunused hs
  have hstored := h.filter_ids (i := i) hunused hnew
  have hnodup := (h.nodup_drawn hnew).1.sublist (log.drawn_own_sublist i)
  rcases Program.transcript_map (h.transcript hunused hi) with ⟨reply, hhandle, ho⟩ | ⟨-, ho⟩
  · obtain rfl := Response.imported.inj (Program.Outcome.returned.inj ho)
    generalize log.own i = d at *
    rcases transcript_handle hhandle with
      ⟨result, work, closing, rfl, ho, hwork, hclosing⟩ | ⟨ho, -⟩
    · obtain rfl := Program.Outcome.returned.inj ho
      cases transcript_importFile hwork with
      | @finished ids tries intake ht =>
        obtain ⟨hdrawn, hinserted, -, -⟩ := intake.readings ids ht hclosing
        rw [hdrawn, hinserted] at hstored
        rw [hdrawn] at hnodup
        exact balanced_of_finished intake ht hclosing hget hconfirmed hnodup hstored
    · exact nomatch ho
  · exact nomatch ho

end System

def Activity.imported? : Activity → Option (ImportJob × Summary)
  | ⟨.importFile job, .done (.imported (.ok summary))⟩ => some (job, summary)
  | _ => none

theorem Activity.eq_of_imported? {a : Activity} {job : ImportJob} {summary : Summary}
    (h : a.imported? = some (job, summary)) :
    a = ⟨.importFile job, .done (.imported (.ok summary))⟩ := by
  unfold imported? at h
  split at h
  · obtain ⟨rfl, rfl⟩ := Prod.mk.inj (Option.some.inj h)
    rfl
  · cases h

namespace System

/-- Two imports of one file that make their calls in turns. Both take its line for a new one, and
the one that comes second to store it counts it as a duplicate. -/
theorem balanced_of_logged_race :
    ∃ log S job summary, Logged Sample.setup anything Sample.start log S ∧
      summary.inserted = 0 ∧ summary.duplicates = 1 ∧
      Balanced Sample.setup job S (log.own 1) summary := by
  let S := ((Sample.start.starting Sample.setup 0 (Sample.importOf "https://a")).starting
    Sample.setup 1 (Sample.importOf "https://a")).turns (List.replicate 14 [0, 1]).flatten
  have hreach : Reaches Sample.setup anything Sample.start S :=
    ((reaches_starting rfl trivial).trans (reaches_starting rfl trivial)).trans (reaches_turns _ _)
  have hdone : ((S.activity 1).bind Activity.imported?).map
      (fun result => (result.2.inserted, result.2.duplicates)) = some (0, 1) := by decide +kernel
  obtain ⟨⟨job, summary⟩, hresult, hcounts⟩ := Option.map_eq_some_iff.mp hdone
  obtain ⟨a, hactivity, ha⟩ := Option.bind_eq_some_iff.mp hresult
  rw [Activity.eq_of_imported? ha] at hactivity
  obtain ⟨log, hlog⟩ := reaches_iff_logged.mp hreach
  obtain ⟨hinserted, hduplicates⟩ := Prod.mk.inj hcounts
  exact ⟨log, S, job, summary, hlog, hinserted, hduplicates,
    balanced_of_logged Sample.unused_start hlog (by decide +kernel) hactivity⟩

end System

end BankReconciliation
