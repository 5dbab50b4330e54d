import BankReconciliation.Text.NormalForm
import Mathlib.Data.List.TakeWhile

/-! White space around a text: trimming takes it away, and the words of the text and its normal form
do not depend on it. -/

namespace BankReconciliation.Text

/-- Nothing but white space. -/
def AllBlank (cs : List Char) : Prop := ∀ c ∈ cs, isBlank c = true

instance (cs : List Char) : Decidable (AllBlank cs) := List.decidableBAll _ cs

variable {before after cs text : List Char} {c : Char}

theorem allBlank_nil : AllBlank [] := fun _ h => nomatch h

theorem ne_of_isBlank {d : Char} (hc : isBlank c = true) (hd : isBlank d = false) : c ≠ d := by
  rintro rfl
  rw [hc] at hd
  cases hd

theorem trimStart_append (h : AllBlank before) : trimStart (before ++ cs) = trimStart cs :=
  List.dropWhile_append_of_pos h

theorem trimEnd_append (h : AllBlank after) : trimEnd (cs ++ after) = trimEnd cs := by
  have hreverse : ∀ c ∈ after.reverse, isBlank c = true := fun c hc => h c (List.mem_reverse.mp hc)
  rw [trimEnd, trimEnd, List.reverse_append, List.dropWhile_append_of_pos hreverse]

theorem trimStart_of_allBlank (h : AllBlank cs) : trimStart cs = [] :=
  List.dropWhile_eq_nil_iff.mpr h

theorem trim_padded (hbefore : AllBlank before) (hafter : AllBlank after) (text : List Char) :
    trim (before ++ text ++ after) = trim text := by
  have hstart : trimEnd (trimStart (text ++ after)) = trimEnd (trimStart text) := by
    have hrest : trimStart (text ++ after) =
        if (trimStart text).isEmpty then trimStart after else trimStart text ++ after :=
      List.dropWhile_append
    rw [hrest]
    split
    · rename_i hempty
      rw [trimStart_of_allBlank hafter, List.isEmpty_iff.mp hempty]
    · exact trimEnd_append hafter
  rw [trim, trim, List.append_assoc, trimStart_append hbefore, hstart]

theorem exists_padding (cs : List Char) :
    ∃ before after, AllBlank before ∧ AllBlank after ∧ cs = before ++ trim cs ++ after := by
  have hblank : ∀ {ds : List Char}, AllBlank (ds.takeWhile isBlank) := fun {ds} c hc =>
    (List.mem_takeWhile_imp hc)
  refine ⟨cs.takeWhile isBlank, ((trimStart cs).reverse.takeWhile isBlank).reverse, hblank, ?_, ?_⟩
  · exact fun c hc => hblank c (List.mem_reverse.mp hc)
  · have hend : trim cs ++ ((trimStart cs).reverse.takeWhile isBlank).reverse = trimStart cs := by
      rw [trim, trimEnd, ← List.reverse_append, List.takeWhile_append_dropWhile,
        List.reverse_reverse]
    rw [List.append_assoc, hend, trimStart, List.takeWhile_append_dropWhile]

theorem trim_eq_self (hhead : ∀ c, cs.head? = some c → isBlank c = false)
    (hlast : ∀ c, cs.getLast? = some c → isBlank c = false) : trim cs = cs := by
  have hstay : ∀ {ds : List Char}, (∀ c, ds.head? = some c → isBlank c = false) →
      ds.dropWhile isBlank = ds := by
    intro ds hds
    cases ds with
    | nil => rfl
    | cons d ds => rw [List.dropWhile_cons_of_neg (by simp [hds d rfl])]
  have hend : cs.reverse.dropWhile isBlank = cs.reverse :=
    hstay fun c hc => hlast c (by rwa [List.head?_reverse] at hc)
  rw [trim, trimStart, hstay hhead, trimEnd, hend, List.reverse_reverse]

theorem words_append (hc : isBlank c = true) :
    words (before ++ c :: cs) = words before ++ words cs := by
  rw [words, List.splitOnP_append_cons _ _ hc, List.filter_append]
  rfl

theorem words_append_allBlank (h : AllBlank after) : words (cs ++ after) = words cs := by
  induction after generalizing cs with
  | nil => rw [List.append_nil]
  | cons c after ih =>
    obtain ⟨hc, hafter⟩ := List.forall_mem_cons.mp h
    have hnone : words ([] ++ after) = words [] := ih hafter
    rw [List.nil_append] at hnone
    rw [words_append hc, hnone]
    exact List.append_nil _

theorem words_allBlank_append (h : AllBlank before) : words (before ++ cs) = words cs := by
  induction before with
  | nil => rfl
  | cons c before ih =>
    obtain ⟨hc, hbefore⟩ := List.forall_mem_cons.mp h
    have hsplit : words ([] ++ c :: (before ++ cs)) = words [] ++ words (before ++ cs) :=
      words_append hc
    rw [List.cons_append, ← ih hbefore]
    exact hsplit

/-- Where white space divides a text, it does not matter how much there is of it. -/
theorem words_append_run {run : List Char} (h : AllBlank run) (hne : run ≠ []) :
    words (before ++ run ++ after) = words before ++ words after := by
  obtain ⟨c, run, rfl⟩ := List.exists_cons_of_ne_nil hne
  obtain ⟨hc, hrun⟩ := List.forall_mem_cons.mp h
  rw [List.append_assoc, List.cons_append, words_append hc, words_allBlank_append hrun]

theorem words_trim (cs : List Char) : words (trim cs) = words cs := by
  obtain ⟨before, after, hbefore, hafter, hcs⟩ := exists_padding cs
  have hwords : words (before ++ trim cs ++ after) = words (trim cs) := by
    rw [words_append_allBlank hafter, words_allBlank_append hbefore]
  rw [← hcs] at hwords
  exact hwords.symm

@[simp] theorem normalChars_trim (cs : List Char) : normalChars (trim cs) = normalChars cs := by
  rw [normalChars, words_trim, normalChars]

/-- Characters without white space among them, and at least one of them. -/
def IsWord (w : List Char) : Prop := w ≠ [] ∧ ∀ c ∈ w, isBlank c = false

@[simp] theorem words_nil : words [] = [] := by simp [words]

theorem words_of_isWord {w : List Char} (h : IsWord w) : words w = [w] := by
  rw [words, List.splitOnP_eq_singleton h.2]
  simp [h.1]

/-- A text has no white space in it, or it goes on after the first white space. -/
theorem words_induction {motive : List Char → Prop} (cs : List Char)
    (letters : ∀ w, (∀ c ∈ w, isBlank c = false) → motive w)
    (blank : ∀ w c cs, (∀ c ∈ w, isBlank c = false) → isBlank c = true → motive cs →
      motive (w ++ c :: cs)) : motive cs := by
  have hafter : ∀ w, (∀ c ∈ w, isBlank c = false) → motive (w ++ cs) := by
    induction cs with
    | nil => simpa using letters
    | cons c cs ih =>
      intro w hw
      cases hc : isBlank c with
      | true => exact blank w c cs hw hc (by simpa using ih [])
      | false =>
        have hword : ∀ d ∈ w ++ [c], isBlank d = false := by
          simpa [or_imp, forall_and, hc] using hw
        simpa using ih (w ++ [c]) hword
  simpa using hafter []

theorem isWord_of_mem_words {w : List Char} (h : w ∈ words cs) : IsWord w := by
  have hletters : ∀ v : List Char, (∀ c ∈ v, isBlank c = false) → w ∈ words v → IsWord w := by
    intro v hv hw
    by_cases hnil : v = []
    · simp [hnil] at hw
    · rw [words_of_isWord ⟨hnil, hv⟩, List.mem_singleton] at hw
      exact hw ▸ ⟨hnil, hv⟩
  induction cs using words_induction with
  | letters v hv => exact hletters v hv h
  | blank v c cs hv hc ih =>
    rw [words_append hc] at h
    exact (List.mem_append.mp h).elim (hletters v hv) ih

/-- The words of a text whose characters are each replaced by a word, white space apart. -/
theorem words_flatMap {f : Char → List Char} (hblank : ∀ c, isBlank c = true → f c = [c])
    (hletter : ∀ c, isBlank c = false → IsWord (f c)) (cs : List Char) :
    words (cs.flatMap f) = (words cs).map fun w => w.flatMap f := by
  have hletters : ∀ w : List Char, (∀ c ∈ w, isBlank c = false) →
      words (w.flatMap f) = (words w).map fun w => w.flatMap f := by
    intro w hw
    by_cases hnil : w = []
    · simp [hnil]
    · have hword : IsWord (w.flatMap f) := by
        constructor
        · obtain ⟨c, w, rfl⟩ := List.exists_cons_of_ne_nil hnil
          simp [(hletter c (hw c List.mem_cons_self)).1]
        · intro d hd
          obtain ⟨c, hc, hd⟩ := List.mem_flatMap.mp hd
          exact (hletter c (hw c hc)).2 d hd
      rw [words_of_isWord hword, words_of_isWord ⟨hnil, hw⟩, List.map_singleton]
  induction cs using words_induction with
  | letters w hw => exact hletters w hw
  | blank w c cs hw hc ih =>
    rw [List.flatMap_append, List.flatMap_cons, hblank c hc, List.singleton_append, words_append hc,
      words_append hc, hletters w hw, ih, List.map_append]

theorem words_unwords {ws : List (List Char)} (h : ∀ w ∈ ws, IsWord w) :
    words (unwords ws) = ws := by
  induction ws with
  | nil => simp
  | cons w ws ih =>
    obtain ⟨hw, hws⟩ := List.forall_mem_cons.mp h
    cases ws with
    | nil => exact words_of_isWord hw
    | cons v ws =>
      rw [unwords_cons_cons, words_append rfl, words_of_isWord hw, ih hws, List.singleton_append]

theorem flatMap_unwords {f : Char → List Char} (hspace : f ' ' = [' ']) (ws : List (List Char)) :
    (unwords ws).flatMap f = unwords (ws.map fun w => w.flatMap f) := by
  induction ws with
  | nil => rfl
  | cons w ws ih =>
    cases ws with
    | nil => rfl
    | cons v ws => simp_all

end BankReconciliation.Text
