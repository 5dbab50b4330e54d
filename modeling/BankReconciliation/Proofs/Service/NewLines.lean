import BankReconciliation.Deployment.Memory
import BankReconciliation.Proofs.Service.Dialogue
import Mathlib.Tactic.Common

/-! Which lines of a file are new. The rule goes through the lines in order and keeps one if neither
a stored statement nor a line kept before it has its content or its reference; looking them up one
by one comes to the same. -/

namespace BankReconciliation

/-- The second line has the content or the reference of the first. -/
def Line.SharesKey (a b : Line) : Prop := a.hash = b.hash ∨ b.fitId ≠ "" ∧ a.fitId = b.fitId

/-- A statement of the church and bank that has the content or the reference of a line. -/
def Statement.HoldsKey (churchId bankId : String) (l : Line) (s : Statement) : Prop :=
  s.churchId = churchId ∧ s.bank.id = bankId ∧
    (s.hash = l.hash ∨ l.fitId ≠ "" ∧ s.fitId = l.fitId)

instance (a b : Line) : Decidable (a.SharesKey b) := by unfold Line.SharesKey; infer_instance

instance (churchId bankId : String) (l : Line) (s : Statement) :
    Decidable (s.HoldsKey churchId bankId l) := by
  unfold Statement.HoldsKey; infer_instance

@[simp] theorem Line.sharesKey_self (l : Line) : l.SharesKey l := .inl rfl

namespace Store.Statements

/-- A line repeats a stored statement of the church and bank, or one of the lines before it. -/
def Knows (stored : Statements) (churchId bankId : String) (earlier : List Line) (l : Line) : Prop :=
  (∃ s ∈ stored, s.HoldsKey churchId bankId l) ∨ ∃ k ∈ earlier, k.SharesKey l

instance (stored : Statements) (churchId bankId : String) (earlier : List Line) (l : Line) :
    Decidable (stored.Knows churchId bankId earlier l) := by
  unfold Knows; infer_instance

/-- The lines that are kept of a file, after some others of it. -/
def keptLines (stored : Statements) (churchId bankId : String) :
    (earlier : List Line) → List Line → List Line
  | _, [] => []
  | earlier, l :: ls =>
    if stored.Knows churchId bankId earlier l then keptLines stored churchId bankId earlier ls
    else l :: keptLines stored churchId bankId (l :: earlier) ls

variable {stored : Statements} {churchId bankId : String} {earlier lines : List Line} {l : Line}

theorem keptLines_sublist (stored : Statements) (churchId bankId : String)
    (earlier lines : List Line) :
    List.Sublist (stored.keptLines churchId bankId earlier lines) lines := by
  induction lines generalizing earlier with
  | nil => exact .slnil
  | cons l ls ih =>
    rw [keptLines]
    split
    · exact (ih earlier).cons l
    · exact (ih (l :: earlier)).cons_cons l

theorem mem_of_mem_keptLines (h : l ∈ stored.keptLines churchId bankId earlier lines) :
    l ∈ lines :=
  (keptLines_sublist stored churchId bankId earlier lines).subset h

theorem not_knows_of_mem_keptLines
    (h : l ∈ stored.keptLines churchId bankId earlier lines) :
    ¬ stored.Knows churchId bankId earlier l := by
  induction lines generalizing earlier with
  | nil => cases h
  | cons a ls ih =>
    rw [keptLines] at h
    split at h
    · exact ih h
    · rename_i hnew
      rcases List.mem_cons.mp h with rfl | h
      · exact hnew
      · rintro (hstored | ⟨k, hk, hkey⟩)
        · exact ih h (.inl hstored)
        · exact ih h (.inr ⟨k, List.mem_cons_of_mem _ hk, hkey⟩)

theorem keptLines_pairwise (stored : Statements) (churchId bankId : String)
    (earlier lines : List Line) :
    (stored.keptLines churchId bankId earlier lines).Pairwise fun a b => ¬ a.SharesKey b := by
  induction lines generalizing earlier with
  | nil => exact .nil
  | cons l ls ih =>
    rw [keptLines]
    split
    · exact ih earlier
    · refine .cons ?_ (ih (l :: earlier))
      intro b hb hkey
      exact not_knows_of_mem_keptLines hb (.inr ⟨l, List.mem_cons_self, hkey⟩)

/-- A line that is not kept repeats something that is stored or kept. -/
theorem knows_keptLines (h : l ∈ lines) :
    stored.Knows churchId bankId (earlier ++ stored.keptLines churchId bankId earlier lines) l := by
  induction lines generalizing earlier with
  | nil => cases h
  | cons a ls ih =>
    have hlater : ∀ k, k ∈ a :: earlier ++ keptLines stored churchId bankId (a :: earlier) ls →
        k ∈ earlier ++ a :: keptLines stored churchId bankId (a :: earlier) ls := by
      simp only [List.cons_append, List.mem_cons, List.mem_append]
      tauto
    rw [keptLines]
    split
    · rename_i hknown
      rcases List.mem_cons.mp h with rfl | h
      · rcases hknown with hstored | ⟨k, hk, hkey⟩
        · exact .inl hstored
        · exact .inr ⟨k, List.mem_append_left _ hk, hkey⟩
      · exact ih h
    · rcases List.mem_cons.mp h with rfl | h
      · exact .inr ⟨l, hlater l (by simp), l.sharesKey_self⟩
      · have hknown : stored.Knows churchId bankId
            (a :: earlier ++ keptLines stored churchId bankId (a :: earlier) ls) l := ih h
        rcases hknown with hstored | ⟨k, hk, hkey⟩
        · exact .inl hstored
        · exact .inr ⟨k, hlater k hk, hkey⟩

theorem keptLines_eq_nil (h : ∀ l ∈ lines, stored.Knows churchId bankId earlier l) :
    stored.keptLines churchId bankId earlier lines = [] := by
  induction lines with
  | nil => rfl
  | cons l ls ih =>
    rw [keptLines, if_pos (h l List.mem_cons_self)]
    exact ih fun k hk => h k (List.mem_cons_of_mem _ hk)

theorem knows_cons {k : Line} : stored.Knows churchId bankId (k :: earlier) l ↔
    k.SharesKey l ∨ stored.Knows churchId bankId earlier l := by
  rw [Knows, Knows, List.exists_mem_cons_iff]
  exact or_left_comm

theorem keptLines_congr {stored' : Statements} {earlier' : List Line}
    (h : ∀ l, stored.Knows churchId bankId earlier l ↔ stored'.Knows churchId bankId earlier' l)
    (lines : List Line) :
    stored.keptLines churchId bankId earlier lines =
      stored'.keptLines churchId bankId earlier' lines := by
  induction lines generalizing earlier earlier' with
  | nil => rfl
  | cons l ls ih =>
    have hlater : ∀ k, stored.Knows churchId bankId (l :: earlier) k ↔
        stored'.Knows churchId bankId (l :: earlier') k := fun k => by
      rw [knows_cons, knows_cons, h k]
    by_cases hknown : stored.Knows churchId bankId earlier l
    · rw [keptLines, keptLines, if_pos hknown, if_pos ((h l).mp hknown), ih h]
    · rw [keptLines, keptLines, if_neg hknown, if_neg (mt (h l).mpr hknown), ih hlater]

/-- Of lines in two parts, what is kept of the second part is kept after what is kept of the
first. -/
theorem keptLines_append (stored : Statements) (churchId bankId : String)
    (earlier lines more : List Line) :
    stored.keptLines churchId bankId earlier (lines ++ more) =
      stored.keptLines churchId bankId earlier lines ++
        stored.keptLines churchId bankId
          ((stored.keptLines churchId bankId earlier lines).reverse ++ earlier) more := by
  -- `earlier` holds the kept lines with the last one first
  induction lines generalizing earlier with
  | nil => rfl
  | cons l ls ih =>
    rw [List.cons_append, keptLines, keptLines]
    split
    · exact ih earlier
    · rw [ih (l :: earlier), List.reverse_cons, List.append_assoc]
      rfl

end Store.Statements

namespace Seen

def of (lines : List Line) : Seen := lines.foldr (fun l seen => seen.add l) {}

@[simp] theorem of_nil : of [] = {} := rfl
@[simp] theorem of_cons (l : Line) (ls : List Line) : of (l :: ls) = (of ls).add l := rfl

theorem mem_hashes_of {lines : List Line} {hash : String} :
    hash ∈ (of lines).hashes ↔ ∃ k ∈ lines, k.hash = hash := by
  induction lines with
  | nil => simp
  | cons l ls ih =>
    rw [of_cons, add, List.mem_cons, ih, @eq_comm _ hash]
    simp

theorem mem_fitIds_of {lines : List Line} {fitId : String} :
    fitId ∈ (of lines).fitIds ↔ fitId ≠ "" ∧ ∃ k ∈ lines, k.fitId = fitId := by
  induction lines with
  | nil => simp
  | cons l ls ih =>
    have hadd : fitId ∈ ((of ls).add l).fitIds ↔
        l.fitId ≠ "" ∧ l.fitId = fitId ∨ fitId ∈ (of ls).fitIds := by
      by_cases hl : l.fitId = ""
      · simp [add, Line.hasFitId, hl]
      · have hremembered : ((of ls).add l).fitIds = l.fitId :: (of ls).fitIds := by
          simp [add, Line.hasFitId, hl]
        rw [hremembered, List.mem_cons, @eq_comm _ fitId]
        simp [hl]
    rw [of_cons, hadd, ih]
    simp only [List.mem_cons, exists_eq_or_imp]
    constructor
    · rintro (⟨hne, rfl⟩ | ⟨hne, hk⟩)
      · exact ⟨hne, .inl rfl⟩
      · exact ⟨hne, .inr hk⟩
    · rintro ⟨hne, rfl | hk⟩
      · exact .inl ⟨hne, rfl⟩
      · exact .inr ⟨hne, hk⟩

end Seen

namespace Service

variable {m : Memory} {churchId bankId : String} {earlier lines : List Line} {l : Line}

theorem run_knownFitId (m : Memory) (churchId bankId : String) (earlier : List Line) (l : Line) :
    Program.run Memory.answer (knownFitId churchId bankId (.of earlier) l).run m =
      (.returned (.ok (decide (l.fitId ≠ "" ∧ ((∃ k ∈ earlier, k.fitId = l.fitId) ∨
        ∃ s ∈ m.statements, s.churchId = churchId ∧ s.bank.id = bankId ∧ s.fitId = l.fitId)))),
        m) := by
  unfold knownFitId
  by_cases hfit : l.fitId = ""
  · rw [if_pos (by simp [Line.hasFitId, hfit])]
    simp [hfit]
  · rw [if_neg (by simp [Line.hasFitId, hfit])]
    by_cases hseen : ∃ k ∈ earlier, k.fitId = l.fitId
    · have hmem : l.fitId ∈ (Seen.of earlier).fitIds := Seen.mem_fitIds_of.mpr ⟨hfit, hseen⟩
      rw [if_pos (List.contains_iff_mem.mpr hmem)]
      simp [hfit, hseen]
    · have hmem : l.fitId ∉ (Seen.of earlier).fitIds := fun h => hseen (Seen.mem_fitIds_of.mp h).2
      rw [if_neg (fun h => hmem (List.contains_iff_mem.mp h))]
      have hanswer : m.statements.existsByFitId churchId bankId l.fitId =
          decide (∃ s ∈ m.statements, s.churchId = churchId ∧ s.bank.id = bankId ∧
            s.fitId = l.fitId) := by
        rw [Bool.eq_iff_iff]
        simp [Store.Statements.existsByFitId, hfit, and_assoc]
      have hrun : Program.run Memory.answer (Task.existsByFitId churchId bankId l.fitId).run m =
          (.returned (.ok (m.statements.existsByFitId churchId bankId l.fitId)), m) := rfl
      rw [hrun, hanswer]
      simp [hfit, hseen]

theorem run_knownHash (m : Memory) (churchId bankId : String) (earlier : List Line) (l : Line) :
    Program.run Memory.answer (knownHash churchId bankId (.of earlier) l).run m =
      (.returned (.ok (decide ((∃ k ∈ earlier, k.hash = l.hash) ∨
        ∃ s ∈ m.statements, s.churchId = churchId ∧ s.bank.id = bankId ∧ s.hash = l.hash))),
        m) := by
  unfold knownHash
  by_cases hseen : ∃ k ∈ earlier, k.hash = l.hash
  · rw [if_pos (List.contains_iff_mem.mpr (Seen.mem_hashes_of.mpr hseen))]
    simp [hseen]
  · rw [if_neg (fun h => hseen (Seen.mem_hashes_of.mp (List.contains_iff_mem.mp h)))]
    have hanswer : m.statements.existsByHash churchId bankId l.hash =
        decide (∃ s ∈ m.statements, s.churchId = churchId ∧ s.bank.id = bankId ∧
          s.hash = l.hash) := by
      rw [Bool.eq_iff_iff]
      simp [Store.Statements.existsByHash, and_assoc]
    have hrun : Program.run Memory.answer (Task.existsByHash churchId bankId l.hash).run m =
        (.returned (.ok (m.statements.existsByHash churchId bankId l.hash)), m) := rfl
    rw [hrun, hanswer]
    simp [hseen]

theorem run_isDuplicate (m : Memory) (churchId bankId : String) (earlier : List Line) (l : Line) :
    Program.run Memory.answer (isDuplicate churchId bankId (.of earlier) l).run m =
      (.returned (.ok (decide (m.statements.Knows churchId bankId earlier l))), m) := by
  have hknows : m.statements.Knows churchId bankId earlier l ↔
      (l.fitId ≠ "" ∧ ((∃ k ∈ earlier, k.fitId = l.fitId) ∨
        ∃ s ∈ m.statements, s.churchId = churchId ∧ s.bank.id = bankId ∧ s.fitId = l.fitId)) ∨
      (∃ k ∈ earlier, k.hash = l.hash) ∨
        ∃ s ∈ m.statements, s.churchId = churchId ∧ s.bank.id = bankId ∧ s.hash = l.hash := by
    constructor
    · rintro (⟨s, hs, hc, hb, hh | ⟨hne, hf⟩⟩ | ⟨k, hk, hh | ⟨hne, hf⟩⟩)
      · exact .inr (.inr ⟨s, hs, hc, hb, hh⟩)
      · exact .inl ⟨hne, .inr ⟨s, hs, hc, hb, hf⟩⟩
      · exact .inr (.inl ⟨k, hk, hh⟩)
      · exact .inl ⟨hne, .inl ⟨k, hk, hf⟩⟩
    · rintro (⟨hne, ⟨k, hk, hf⟩ | ⟨s, hs, hc, hb, hf⟩⟩ | ⟨k, hk, hh⟩ | ⟨s, hs, hc, hb, hh⟩)
      · exact .inr ⟨k, hk, .inr ⟨hne, hf⟩⟩
      · exact .inl ⟨s, hs, hc, hb, .inr ⟨hne, hf⟩⟩
      · exact .inr ⟨k, hk, .inl hh⟩
      · exact .inl ⟨s, hs, hc, hb, .inl hh⟩
  unfold isDuplicate
  rw [Program.run_bindReply_of_ok (run_knownFitId m churchId bankId earlier l)]
  split
  · rename_i hfit
    simp only [decide_eq_true_eq] at hfit
    rw [decide_eq_true (hknows.mpr (.inl hfit))]
    rfl
  · rename_i hfit
    simp only [decide_eq_true_eq] at hfit
    rw [run_knownHash]
    simp only [hknows, hfit, false_or]

/-- Looking the lines up one by one keeps those that the rule keeps, and changes nothing. -/
theorem run_newLines (m : Memory) (churchId bankId : String) (earlier lines : List Line) :
    Program.run Memory.answer (newLines churchId bankId (.of earlier) lines).run m =
      (.returned (.ok (m.statements.keptLines churchId bankId earlier lines)), m) := by
  induction lines generalizing earlier with
  | nil => rfl
  | cons l ls ih =>
    rw [newLines, Program.run_bindReply_of_ok (run_isDuplicate m churchId bankId earlier l),
      Store.Statements.keptLines]
    by_cases hknown : m.statements.Knows churchId bankId earlier l
    · rw [if_pos (decide_eq_true hknown), if_pos hknown]
      exact ih earlier
    · rw [if_neg (by simpa using hknown), if_neg hknown, ← Seen.of_cons,
        Program.run_bindReply_of_ok (ih (l :: earlier))]
      rfl

section

variable {allowed : Call → Bool}
  (hfit : ∀ fitId, allowed (.existsByFitId churchId bankId fitId) = true)
  (hhash : ∀ hash, allowed (.existsByHash churchId bankId hash) = true)

include hfit hhash

theorem within_isDuplicate_of (seen : Seen) (l : Line) :
    Program.Within (I := Collaborators) allowed (isDuplicate churchId bankId seen l).run := by
  have hknownFitId : Program.Within (I := Collaborators) allowed
      (knownFitId churchId bankId seen l).run := by
    unfold knownFitId
    split
    · trivial
    · split
      · trivial
      · exact ⟨hfit _, fun _ => trivial⟩
  have hknownHash : Program.Within (I := Collaborators) allowed
      (knownHash churchId bankId seen l).run := by
    unfold knownHash
    split
    · trivial
    · exact ⟨hhash _, fun _ => trivial⟩
  refine Program.Within.bindReply hknownFitId ?_
  intro duplicate
  cases duplicate with
  | true => trivial
  | false => exact hknownHash

theorem within_newLines_of (seen : Seen) (lines : List Line) :
    Program.Within (I := Collaborators) allowed (newLines churchId bankId seen lines).run := by
  induction lines generalizing seen with
  | nil => trivial
  | cons l ls ih =>
    refine Program.Within.bindReply (within_isDuplicate_of hfit hhash seen l) ?_
    intro duplicate
    cases duplicate with
    | true => exact ih seen
    | false => exact Program.Within.bindReply (ih (seen.add l)) fun _ => trivial

end

theorem within_newLines (churchId bankId : String) (seen : Seen) (lines : List Line) :
    Program.Within (I := Collaborators) Call.looksUp (newLines churchId bankId seen lines).run :=
  within_newLines_of (fun _ => rfl) (fun _ => rfl) seen lines

end Service

end BankReconciliation
