import BankReconciliation.Csv.Reader
import Mathlib.Data.List.Induction
import Mathlib.Tactic.SplitIfs

/-! Where the records of a file stand in it. A record is asked for as soon as the one before it has
ended. The line ends in front of its first byte are skipped after that, so its line number counts
the line feeds up to the end of the record before, and not those that are skipped. -/

namespace BankReconciliation.Csv

open Text (Bytes)

variable {delimiter b : UInt8} {s s' : State} {record : Record} {ended : Option Record}
  {earlier later : List Record} {bytes passed stood gap body : Bytes}

def IsLineEnd (b : UInt8) : Prop := b = lineFeed ∨ b = carriageReturn

instance (b : UInt8) : Decidable (IsLineEnd b) := by unfold IsLineEnd; infer_instance

namespace State

/-- Between two records. -/
def Resting (s : State) : Prop := s.mode = .recordStart ∨ s.mode = .afterReturn

/-- The line feeds up to a byte, the byte with them, are counted before it is read. -/
def counted (s : State) (b : UInt8) : State :=
  if b = lineFeed then { s with line := s.line + 1 } else s

@[simp] theorem mode_counted : (s.counted b).mode = s.mode := by
  unfold counted
  split_ifs <;> rfl

@[simp] theorem start_counted : (s.counted b).start = s.start := by
  unfold counted
  split_ifs <;> rfl

@[simp] theorem record_counted : (s.counted b).record = s.record := by
  unfold counted
  split_ifs <;> rfl

theorem line_counted : (s.counted b).line = s.line + [b].count lineFeed := by
  by_cases hb : b = lineFeed <;> simp [counted, hb]

@[simp] theorem resting_counted : (s.counted b).Resting ↔ s.Resting := by simp [Resting]

def next (delimiter : UInt8) (s : State) (b : UInt8) : State := (step delimiter b s).1

end State

/-- What a byte does: a line end between two records is skipped, another byte there opens a record,
and a byte of a record either keeps it open or ends it. -/
inductive Effect (s : State) (b : UInt8) (s' : State) : Option Record → Prop
  | skipped (hs : s.Resting) (hb : IsLineEnd b) (hs' : s'.Resting) (hstart : s'.start = s.start) :
    Effect s b s' none
  | opened (hs : s.Resting) (hb : ¬IsLineEnd b) (hs' : ¬s'.Resting) (hstart : s'.start = s.start) :
    Effect s b s' none
  | kept (hs : ¬s.Resting) (hs' : ¬s'.Resting) (hstart : s'.start = s.start) : Effect s b s' none
  | ended (hs : ¬s.Resting) (hs' : s'.Resting) (hstart : s'.start = s'.line) :
    Effect s b s' (some s.record)

theorem Effect.of_counted (h : Effect (s.counted b) b s' ended) : Effect s b s' ended := by
  cases h with
  | skipped hs hb hs' hstart =>
    exact .skipped (State.resting_counted.mp hs) hb hs' (hstart.trans State.start_counted)
  | opened hs hb hs' hstart =>
    exact .opened (State.resting_counted.mp hs) hb hs' (hstart.trans State.start_counted)
  | kept hs hs' hstart =>
    exact .kept ((not_congr State.resting_counted).mp hs) hs' (hstart.trans State.start_counted)
  | ended hs hs' hstart =>
    rw [State.record_counted]
    exact .ended ((not_congr State.resting_counted).mp hs) hs' hstart

theorem effect_stepOpen (hs : ¬s.Resting) :
    Effect s b (stepOpen delimiter b s).1 (stepOpen delimiter b s).2 := by
  unfold stepOpen
  split_ifs
  · exact .kept hs (by simp [State.Resting, State.endField]) rfl
  · exact .ended hs (.inl rfl) rfl
  · exact .ended hs (.inr rfl) rfl
  · exact .kept hs (by simp [State.Resting, State.push]) rfl

theorem effect_stepFieldStart (hs : ¬s.Resting) :
    Effect s b (stepFieldStart delimiter b s).1 (stepFieldStart delimiter b s).2 := by
  unfold stepFieldStart
  split_ifs
  · exact .kept hs (by simp [State.Resting]) rfl
  · exact effect_stepOpen hs

/-- The first byte of a record does not end it, whatever divides the fields. -/
theorem effect_stepFieldStart_of_resting (hs : s.Resting) (hb : ¬IsLineEnd b) :
    Effect s b (stepFieldStart delimiter b s).1 (stepFieldStart delimiter b s).2 := by
  obtain ⟨hfeed, hreturn⟩ := not_or.mp hb
  unfold stepFieldStart stepOpen
  rw [if_neg hfeed, if_neg hreturn]
  split_ifs
  · exact .opened hs hb (by simp [State.Resting]) rfl
  · exact .opened hs hb (by simp [State.Resting, State.endField]) rfl
  · exact .opened hs hb (by simp [State.Resting, State.push]) rfl

theorem effect_step : Effect s b (s.next delimiter b) (step delimiter b s).2 := by
  apply Effect.of_counted
  have hcounted : (if b = lineFeed then { s with line := s.line + 1 } else s) = s.counted b := rfl
  simp only [State.next, step, hcounted]
  generalize s.counted b = s
  obtain ⟨mode, field, fields, start, line⟩ := s
  cases mode <;> dsimp only
  case recordStart =>
    split_ifs with hb
    · exact .skipped (.inl rfl) hb (.inl rfl) rfl
    · exact effect_stepFieldStart_of_resting (.inl rfl) hb
  case afterReturn =>
    split_ifs with hb
    · exact .skipped (.inr rfl) hb (.inl rfl) rfl
    · exact effect_stepFieldStart_of_resting (.inr rfl) hb
  case fieldStart => exact effect_stepFieldStart (by simp [State.Resting])
  case plain => exact effect_stepOpen (by simp [State.Resting])
  case inQuotes =>
    split_ifs
    · exact .kept (by simp [State.Resting]) (by simp [State.Resting]) rfl
    · exact .kept (by simp [State.Resting]) (by simp [State.Resting, State.push]) rfl
  case afterQuote =>
    split_ifs
    · exact .kept (by simp [State.Resting]) (by simp [State.Resting, State.push]) rfl
    · exact effect_stepOpen (by simp [State.Resting])

theorem line_stepOpen : (stepOpen delimiter b s).1.line = s.line := by
  unfold stepOpen
  split_ifs <;> rfl

theorem line_stepFieldStart : (stepFieldStart delimiter b s).1.line = s.line := by
  unfold stepFieldStart
  split_ifs
  · rfl
  · exact line_stepOpen

theorem line_next : (s.next delimiter b).line = s.line + [b].count lineFeed := by
  have hcounted : (if b = lineFeed then { s with line := s.line + 1 } else s) = s.counted b := rfl
  rw [← State.line_counted]
  simp only [State.next, step, hcounted]
  generalize s.counted b = s
  obtain ⟨mode, field, fields, start, line⟩ := s
  cases mode <;> dsimp only
  case plain => exact line_stepOpen
  case fieldStart => exact line_stepFieldStart
  case inQuotes => split_ifs <;> rfl
  case afterQuote =>
    split_ifs
    · rfl
    · exact line_stepOpen
  all_goals
    split_ifs
    · rfl
    · exact line_stepFieldStart

/-- The state after the first bytes of a file. -/
def reached (delimiter : UInt8) (passed : Bytes) : State := passed.foldl (State.next delimiter) {}

def completedFrom (delimiter : UInt8) : State → Bytes → List Record
  | _, [] => []
  | s, b :: bytes =>
    (step delimiter b s).2.toList ++ completedFrom delimiter (s.next delimiter b) bytes

/-- The records that end within the first bytes of a file. -/
def completed (delimiter : UInt8) (passed : Bytes) : List Record :=
  completedFrom delimiter {} passed

theorem reached_snoc :
    reached delimiter (passed ++ [b]) = (reached delimiter passed).next delimiter b := by
  rw [reached, List.foldl_append]
  rfl

theorem completedFrom_snoc : completedFrom delimiter s (bytes ++ [b]) =
    completedFrom delimiter s bytes ++
      (step delimiter b (bytes.foldl (State.next delimiter) s)).2.toList := by
  induction bytes generalizing s with
  | nil => exact List.append_nil _
  | cons c bytes ih =>
    rw [List.cons_append, completedFrom, ih, completedFrom, List.append_assoc]
    rfl

theorem completed_snoc : completed delimiter (passed ++ [b]) =
    completed delimiter passed ++ (step delimiter b (reached delimiter passed)).2.toList :=
  completedFrom_snoc

theorem readFrom_eq : readFrom delimiter s bytes =
    completedFrom delimiter s bytes ++ finish (bytes.foldl (State.next delimiter) s) := by
  induction bytes generalizing s with
  | nil => rfl
  | cons b bytes ih =>
    rw [completedFrom, List.append_assoc, List.foldl_cons, ← ih]
    rfl

/-- The records of a file are those that end in it, and the one that its end ends. -/
theorem records_eq {content : Bytes} : records delimiter content =
    completed delimiter (dropMark content) ++ finish (reached delimiter (dropMark content)) :=
  readFrom_eq

theorem line_reached : (reached delimiter passed).line = 1 + passed.count lineFeed := by
  induction passed using List.reverseRecOn with
  | nil => rfl
  | append_singleton passed b ih =>
    rw [reached_snoc, line_next, ih, List.count_append, Nat.add_assoc]

/-- There is one way to cut a list at its first element without a property. -/
theorem append_cons_inj {α : Type} {P : α → Prop} {as as' cs cs' : List α} {a a' : α}
    (has : ∀ c ∈ as, P c) (has' : ∀ c ∈ as', P c) (ha : ¬P a) (ha' : ¬P a')
    (h : as ++ a :: cs = as' ++ a' :: cs') : as = as' ∧ a = a' ∧ cs = cs' := by
  induction as generalizing as' with
  | nil =>
    cases as' with
    | nil => exact ⟨rfl, List.cons.inj h⟩
    | cons c as' =>
      obtain ⟨rfl, -⟩ := List.cons.inj h
      exact absurd (has' a List.mem_cons_self) ha
  | cons c as ih =>
    cases as' with
    | nil =>
      obtain ⟨rfl, -⟩ := List.cons.inj h
      exact absurd (has c List.mem_cons_self) ha'
    | cons c' as' =>
      obtain ⟨rfl, htail⟩ := List.cons.inj h
      obtain ⟨rfl, hrest⟩ :=
        ih (List.forall_mem_cons.mp has).2 (List.forall_mem_cons.mp has').2 htail
      exact ⟨rfl, hrest⟩

/-- A place behind some records: some bytes with which the last of them ends (none, if there is
none), and line ends that are skipped. -/
structure Behind (delimiter : UInt8) (earlier : List Record) (stood gap : Bytes) : Prop where
  completes : completed delimiter stood = earlier
  ends : stood ≠ [] → completed delimiter stood.dropLast ≠ earlier
  skips : ∀ b ∈ gap, IsLineEnd b

theorem completed_prefix (h : stood <+: bytes) :
    completed delimiter stood <+: completed delimiter bytes := by
  obtain ⟨rest, rfl⟩ := h
  induction rest using List.reverseRecOn with
  | nil => exact (List.append_nil stood).symm ▸ List.prefix_rfl
  | append_singleton rest b ih =>
    rw [← List.append_assoc, completed_snoc]
    exact ih.trans (List.prefix_append _ _)

theorem Behind.eq_of_prefix {stood' gap' : Bytes} (h : Behind delimiter earlier stood gap)
    (h' : Behind delimiter earlier stood' gap') (hbegin : stood <+: stood') : stood = stood' := by
  obtain ⟨rest, rfl⟩ := hbegin
  by_contra hne
  have hrest : rest ≠ [] := by
    rintro rfl
    exact hne (List.append_nil _).symm
  have hdrop : stood <+: (stood ++ rest).dropLast := by
    rw [List.dropLast_append_of_ne_nil hrest]
    exact List.prefix_append _ _
  have hmore : earlier <+: completed delimiter (stood ++ rest).dropLast :=
    h.completes ▸ completed_prefix hdrop
  have hless : completed delimiter (stood ++ rest).dropLast <+: earlier :=
    h'.completes ▸ completed_prefix (List.dropLast_prefix _)
  exact h'.ends (List.append_ne_nil_of_right_ne_nil _ hrest) (hless.eq_of_length_le hmore.length_le)

theorem Behind.unique {stood' gap' body' : Bytes} {first first' : UInt8}
    (h : Behind delimiter earlier stood gap) (h' : Behind delimiter earlier stood' gap')
    (hfirst : ¬IsLineEnd first) (hfirst' : ¬IsLineEnd first')
    (hbytes : stood ++ gap ++ first :: body = stood' ++ gap' ++ first' :: body') :
    stood = stood' ∧ gap = gap' := by
  rw [List.append_assoc, List.append_assoc] at hbytes
  have hstood : stood = stood' := by
    rcases List.prefix_or_prefix_of_prefix (List.prefix_append stood _)
      (hbytes ▸ List.prefix_append stood' _) with hbegin | hbegin
    · exact h.eq_of_prefix h' hbegin
    · exact (h'.eq_of_prefix h hbegin).symm
  subst hstood
  exact ⟨rfl, (append_cons_inj h.skips h'.skips hfirst hfirst' (List.append_cancel_left hbytes)).1⟩

/-- How far a file has been read: up to a place between two records, or into a record. -/
inductive Situation (delimiter : UInt8) : Bytes → Prop
  | between {stood gap : Bytes} (hresting : (reached delimiter (stood ++ gap)).Resting)
    (hplace : Behind delimiter (completed delimiter (stood ++ gap)) stood gap)
    (hstart : (reached delimiter (stood ++ gap)).start = 1 + stood.count lineFeed) :
    Situation delimiter (stood ++ gap)
  | within {stood gap body : Bytes} {first : UInt8}
    (hreading : ¬(reached delimiter (stood ++ gap ++ first :: body)).Resting)
    (hplace : Behind delimiter (completed delimiter (stood ++ gap ++ first :: body)) stood gap)
    (hfirst : ¬IsLineEnd first)
    (hstart : (reached delimiter (stood ++ gap ++ first :: body)).start =
      1 + stood.count lineFeed) : Situation delimiter (stood ++ gap ++ first :: body)

theorem Situation.behind (hresting : (reached delimiter passed).Resting)
    (hends : passed ≠ [] → completed delimiter passed.dropLast ≠ completed delimiter passed)
    (hstart : (reached delimiter passed).start = (reached delimiter passed).line) :
    Situation delimiter passed := by
  have hplace : Behind delimiter (completed delimiter (passed ++ [])) passed [] := by
    rw [List.append_nil]
    exact ⟨rfl, hends, List.forall_mem_nil _⟩
  have hsituation := @Situation.between delimiter passed []
  rw [List.append_nil] at hsituation hplace
  exact hsituation hresting hplace (hstart.trans line_reached)

/-- One more byte skips a line end, opens a record, keeps it open or ends it. -/
theorem Situation.snoc (h : Situation delimiter passed) : Situation delimiter (passed ++ [b]) := by
  have heffect := @effect_step delimiter b (reached delimiter passed)
  have hcompleted := @completed_snoc delimiter b passed
  rw [← reached_snoc] at heffect
  generalize (step delimiter b (reached delimiter passed)).2 = ended at heffect hcompleted
  cases heffect with
  | skipped hs hb hs' hstart =>
    rw [Option.toList_none, List.append_nil] at hcompleted
    cases h with
    | within hreading => exact absurd hs hreading
    | @between stood gap _ hplace hbefore =>
      rw [List.append_assoc] at hs' hcompleted hstart ⊢
      have hskips : ∀ c ∈ gap ++ [b], IsLineEnd c :=
        List.forall_mem_append.mpr ⟨hplace.skips, List.forall_mem_singleton.mpr hb⟩
      rw [← hcompleted] at hplace
      exact .between hs' ⟨hplace.completes, hplace.ends, hskips⟩ (hstart.trans hbefore)
  | opened hs hb hs' hstart =>
    rw [Option.toList_none, List.append_nil] at hcompleted
    cases h with
    | within hreading => exact absurd hs hreading
    | @between stood gap _ hplace hbefore =>
      rw [← hcompleted] at hplace
      exact .within hs' hplace hb (hstart.trans hbefore)
  | kept hs hs' hstart =>
    rw [Option.toList_none, List.append_nil] at hcompleted
    cases h with
    | between hresting => exact absurd hresting hs
    | @within stood gap body first _ hplace hfirst hbefore =>
      rw [List.append_assoc, List.cons_append] at hs' hcompleted hstart ⊢
      rw [← hcompleted] at hplace
      exact .within hs' hplace hfirst (hstart.trans hbefore)
  | ended hs hs' hstart =>
    rw [Option.toList_some] at hcompleted
    -- The bytes up to here are those with which the record ends.
    have hends : completed delimiter (passed ++ [b]).dropLast ≠
        completed delimiter (passed ++ [b]) := by
      rw [List.dropLast_concat, hcompleted]
      exact fun h => List.cons_ne_nil _ _ (List.self_eq_append_right.mp h)
    exact .behind hs' (fun _ => hends) hstart

theorem situation (delimiter : UInt8) (passed : Bytes) : Situation delimiter passed := by
  induction passed using List.reverseRecOn with
  | nil => exact .behind (.inl rfl) (fun h => absurd rfl h) rfl
  | append_singleton passed b ih => exact ih.snoc

/-- A record stands in some bytes behind the earlier ones, and its line number counts the line feeds
up to the end of the last of these. -/
def Stands (delimiter : UInt8) (earlier : List Record) (record : Record) (bytes : Bytes) : Prop :=
  ∃ stood gap first body, bytes = stood ++ gap ++ first :: body ∧
    Behind delimiter earlier stood gap ∧ ¬IsLineEnd first ∧ record.line = 1 + stood.count lineFeed

theorem Stands.snoc (h : Stands delimiter earlier record passed) :
    Stands delimiter earlier record (passed ++ [b]) := by
  obtain ⟨stood, gap, first, body, rfl, hplace⟩ := h
  exact ⟨stood, gap, first, body ++ [b], by simp, hplace⟩

theorem stands_of_reading (h : ¬(reached delimiter passed).Resting) :
    Stands delimiter (completed delimiter passed) (reached delimiter passed).record passed := by
  cases situation delimiter passed with
  | between hresting => exact absurd hresting h
  | within _ hplace hfirst hstart => exact ⟨_, _, _, _, rfl, hplace, hfirst, hstart⟩

theorem stands_of_last (hreading : ¬(reached delimiter passed).Resting)
    (hcompleted : ∀ later, completed delimiter passed = earlier ++ record :: later →
      Stands delimiter earlier record passed)
    (h : completed delimiter passed ++ [(reached delimiter passed).record] =
      earlier ++ record :: later) : Stands delimiter earlier record passed := by
  rcases List.eq_nil_or_concat later with rfl | ⟨later, last, rfl⟩
  · obtain ⟨rfl, hrecord⟩ := List.append_inj' h rfl
    obtain rfl := (List.cons.inj hrecord).1
    exact stands_of_reading hreading
  · rw [List.concat_eq_append, ← List.cons_append, ← List.append_assoc] at h
    exact hcompleted later (List.append_inj' h rfl).1

theorem stands_of_completed (h : completed delimiter passed = earlier ++ record :: later) :
    Stands delimiter earlier record passed := by
  induction passed using List.reverseRecOn generalizing later with
  | nil => exact absurd h.symm (by simp [completed, completedFrom])
  | append_singleton passed b ih =>
    have heffect := @effect_step delimiter b (reached delimiter passed)
    rw [completed_snoc] at h
    generalize (step delimiter b (reached delimiter passed)).2 = ended at heffect h
    cases heffect with
    | skipped => exact (ih ((List.append_nil _).symm.trans h)).snoc
    | opened => exact (ih ((List.append_nil _).symm.trans h)).snoc
    | kept => exact (ih ((List.append_nil _).symm.trans h)).snoc
    | ended hreading => exact (stands_of_last hreading (fun _ => ih) h).snoc

theorem finish_of_resting (h : s.Resting) : finish s = [] := by
  rcases h with hmode | hmode <;> rw [finish, hmode]

theorem finish_of_reading (h : ¬s.Resting) : finish s = [s.record] := by
  unfold finish
  split
  · exact absurd (.inl ‹_›) h
  · exact absurd (.inr ‹_›) h
  · rfl

/-- Every record of a file stands in it behind the earlier ones. -/
theorem stands_of_records {content : Bytes}
    (h : records delimiter content = earlier ++ record :: later) :
    Stands delimiter earlier record (dropMark content) := by
  rw [records_eq] at h
  by_cases hresting : (reached delimiter (dropMark content)).Resting
  · rw [finish_of_resting hresting, List.append_nil] at h
    exact stands_of_completed h
  · rw [finish_of_reading hresting] at h
    exact stands_of_last hresting (fun _ => stands_of_completed) h

end BankReconciliation.Csv
