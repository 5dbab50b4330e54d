import BankReconciliation.Proofs.Text.Blank
import BankReconciliation.Proofs.Text.Uppercase
import Mathlib.Data.List.Chain

/-! The normal form of a name: a text that is its own normal form, and the same for all spellings
that differ in case, in listed accents, and in how much white space stands between and around the
words. -/

namespace BankReconciliation.Text

variable {c d p : Char} {cs ds : List Char} {ws : List (List Char)}

theorem foldAccent_of_accent {a : Char × Char} (h : a ∈ accents) : foldAccent a.1 = a.2 := by
  revert a
  decide

theorem foldAccent_of_not_isAccented (h : ¬ IsAccented c) : foldAccent c = c := by
  have hlookup : accents.lookup c = none := by
    rw [List.lookup_eq_none_iff]
    intro a ha
    rw [bne_iff_ne]
    rintro rfl
    exact h (List.mem_map_of_mem ha)
  rw [foldAccent, hlookup, Option.getD_none]

theorem plain_of_accent {a : Char × Char} (h : a ∈ accents) :
    isBlank a.1 = false ∧ isBlank a.2 = false ∧ ¬ IsAccented a.2 := by
  revert a
  decide

theorem not_isAccented_foldAccent (c : Char) : ¬ IsAccented (foldAccent c) := by
  by_cases h : IsAccented c
  · obtain ⟨a, ha, rfl⟩ := List.mem_map.mp h
    rw [foldAccent_of_accent ha]
    exact (plain_of_accent ha).2.2
  · rwa [foldAccent_of_not_isAccented h]

theorem isBlank_foldAccent (c : Char) : isBlank (foldAccent c) = isBlank c := by
  by_cases h : IsAccented c
  · obtain ⟨a, ha, rfl⟩ := List.mem_map.mp h
    rw [foldAccent_of_accent ha, (plain_of_accent ha).1, (plain_of_accent ha).2.1]
  · rw [foldAccent_of_not_isAccented h]

def normalChar (c : Char) : List Char := upperChar (foldAccent c)

theorem normalChar_of_isBlank (h : isBlank c = true) : normalChar c = [c] := by
  have hplain : ¬ IsAccented c := by
    intro haccent
    obtain ⟨a, ha, rfl⟩ := List.mem_map.mp haccent
    rw [(plain_of_accent ha).1] at h
    cases h
  rw [normalChar, foldAccent_of_not_isAccented hplain, upperChar_of_isBlank h]

theorem isWord_normalChar (h : isBlank c = false) : IsWord (normalChar c) := by
  have hfold : isBlank (foldAccent c) = false := (isBlank_foldAccent c).trans h
  exact ⟨upperChar_ne_nil _, fun d hd => isBlank_of_mem_upperChar hfold hd⟩

theorem not_isAccented_of_mem_normalChar (h : d ∈ normalChar c) : ¬ IsAccented d := fun hd =>
  not_isAccented_foldAccent c (isAccented_of_mem_upperChar h hd)

/-- The accented letter and the plain one are alike. -/
theorem normalChar_of_accent (h : (c, p) ∈ accents) : normalChar p = normalChar c := by
  have hfold : foldAccent c = p := foldAccent_of_accent h
  rw [normalChar, normalChar, hfold, foldAccent_of_not_isAccented (plain_of_accent h).2.2]

theorem normalChar_of_mem_normalChar (h : d ∈ normalChar c) : normalChar d = [d] := by
  rw [normalChar, foldAccent_of_not_isAccented (not_isAccented_of_mem_normalChar h),
    upperChar_of_mem_upperChar h]

/-- Upper case makes no difference, be it taken before the accents are folded. -/
theorem flatMap_normalChar_upperChar (c : Char) :
    (upperChar c).flatMap normalChar = normalChar c := by
  by_cases h : IsAccented c
  · have hall : ∀ a ∈ accents, (upperChar a.1).flatMap normalChar = normalChar a.1 := by
      decide +kernel
    obtain ⟨a, ha, rfl⟩ := List.mem_map.mp h
    exact hall a ha
  · have hself : ∀ d ∈ upperChar c, normalChar d = [d] := by
      intro d hd
      have hplain : ¬ IsAccented d := fun haccent => h (isAccented_of_mem_upperChar hd haccent)
      rw [normalChar, foldAccent_of_not_isAccented hplain, upperChar_of_mem_upperChar hd]
    rw [List.flatMap_congr hself, List.flatMap_singleton', normalChar,
      foldAccent_of_not_isAccented h]

theorem normalChars_eq (cs : List Char) :
    normalChars cs = unwords (words (cs.flatMap normalChar)) := by
  have hfold : ∀ w : List Char, (w.map foldAccent).flatMap upperChar = w.flatMap normalChar :=
    fun w => List.flatMap_map foldAccent upperChar w
  rw [words_flatMap (fun _ => normalChar_of_isBlank) (fun _ => isWord_normalChar), normalChars,
    upper, flatMap_unwords rfl, List.map_map]
  exact congrArg unwords (List.map_congr_left fun w _ => hfold w)

/-- A text that the normal form of a name can be: one white space between neighbouring words and
none around them, and no accented letter of the list. -/
structure Canonical (cs : List Char) : Prop where
  start : ∀ c, cs.head? = some c → isBlank c = false
  stop : ∀ c, cs.getLast? = some c → isBlank c = false
  apart : cs.IsChain fun c d => isBlank c = true → isBlank d = false
  plain : ∀ c ∈ cs, ¬ IsAccented c

theorem canonical_nil : Canonical [] := ⟨nofun, nofun, .nil, nofun⟩

theorem canonical_of_isWord {w : List Char} (hw : IsWord w) (hplain : ∀ c ∈ w, ¬ IsAccented c) :
    Canonical w where
  start c hc := hw.2 c (List.mem_of_mem_head? hc)
  stop c hc := hw.2 c (List.mem_of_getLast? hc)
  apart := List.Pairwise.isChain (List.pairwise_of_forall_mem_list fun _ _ d hd _ => hw.2 d hd)
  plain := hplain

theorem Canonical.word_append {w : List Char} (hcs : Canonical cs) (hw : IsWord w)
    (hplain : ∀ c ∈ w, ¬ IsAccented c) (hne : cs ≠ []) : Canonical (w ++ ' ' :: cs) where
  start c hc := by
    rw [List.head?_append_of_ne_nil _ hw.1] at hc
    exact hw.2 c (List.mem_of_mem_head? hc)
  stop c hc := by
    rw [List.getLast?_append_of_ne_nil _ (List.cons_ne_nil _ _),
      List.getLast?_cons_of_ne_nil hne] at hc
    exact hcs.stop c hc
  apart := by
    refine List.isChain_append.mpr ⟨(canonical_of_isWord hw hplain).apart, ?_, ?_⟩
    · exact List.isChain_cons.mpr ⟨fun d hd _ => hcs.start d hd, hcs.apart⟩
    · intro c hc d _ hblank
      rw [hw.2 c (List.mem_of_getLast? hc)] at hblank
      cases hblank
  plain c hc := by
    rcases List.mem_append.mp hc with hc | hc
    · exact hplain c hc
    · rcases List.mem_cons.mp hc with rfl | hc
      · decide
      · exact hcs.plain c hc

theorem unwords_ne_nil {w : List Char} (hw : IsWord w) : unwords (w :: ws) ≠ [] := by
  cases ws <;> simp [hw.1]

theorem canonical_unwords (hws : ∀ w ∈ ws, IsWord w) (hplain : ∀ w ∈ ws, ∀ c ∈ w, ¬ IsAccented c) :
    Canonical (unwords ws) := by
  induction ws with
  | nil => exact canonical_nil
  | cons w ws ih =>
    obtain ⟨hw, hws⟩ := List.forall_mem_cons.mp hws
    obtain ⟨hletters, hplain⟩ := List.forall_mem_cons.mp hplain
    cases ws with
    | nil => exact canonical_of_isWord hw hletters
    | cons v ws =>
      exact (ih hws hplain).word_append hw hletters (unwords_ne_nil (hws v List.mem_cons_self))

theorem mem_normalChar_of_mem_words {w : List Char} (hw : w ∈ words (cs.flatMap normalChar))
    (hc : c ∈ w) : ∃ d, c ∈ normalChar d := by
  rw [words_flatMap (fun _ => normalChar_of_isBlank) fun _ => isWord_normalChar] at hw
  obtain ⟨v, -, rfl⟩ := List.mem_map.mp hw
  obtain ⟨d, -, hd⟩ := List.mem_flatMap.mp hc
  exact ⟨d, hd⟩

theorem canonical_normalChars (cs : List Char) : Canonical (normalChars cs) := by
  rw [normalChars_eq]
  apply canonical_unwords
  · exact fun w => isWord_of_mem_words
  · intro w hw c hc
    obtain ⟨d, hd⟩ := mem_normalChar_of_mem_words hw hc
    exact not_isAccented_of_mem_normalChar hd

theorem normalChars_normalChars (cs : List Char) :
    normalChars (normalChars cs) = normalChars cs := by
  have hfixed : ∀ w ∈ words (cs.flatMap normalChar), w.flatMap normalChar = w := by
    intro w hw
    have hself : ∀ c ∈ w, normalChar c = [c] := by
      intro c hc
      obtain ⟨d, hd⟩ := mem_normalChar_of_mem_words hw hc
      exact normalChar_of_mem_normalChar hd
    rw [List.flatMap_congr hself, List.flatMap_singleton']
  rw [normalChars_eq (normalChars cs), normalChars_eq cs,
    flatMap_unwords (normalChar_of_isBlank rfl), List.map_congr_left hfixed, List.map_id',
    words_unwords fun w => isWord_of_mem_words]

/-- Changes to a text that its normal form does not show. -/
inductive Respelled : List Char → List Char → Prop
  | upper (cs : List Char) : Respelled cs (upper cs)
  | padded {before after : List Char} (cs : List Char) (hbefore : AllBlank before)
    (hafter : AllBlank after) : Respelled cs (before ++ cs ++ after)
  | spaced {run run' : List Char} (before after : List Char) (hrun : AllBlank run) (hne : run ≠ [])
    (hrun' : AllBlank run') (hne' : run' ≠ []) :
    Respelled (before ++ run ++ after) (before ++ run' ++ after)
  | plain {c p : Char} (before after : List Char) (h : (c, p) ∈ accents) :
    Respelled (before ++ c :: after) (before ++ p :: after)

theorem normalChars_of_respelled (h : Respelled cs ds) : normalChars ds = normalChars cs := by
  cases h with
  | upper =>
    rw [normalChars_eq, normalChars_eq, upper, List.flatMap_assoc]
    simp only [flatMap_normalChar_upperChar]
  | padded _ hbefore hafter =>
    rw [normalChars, words_append_allBlank hafter, words_allBlank_append hbefore, normalChars]
  | spaced before after hrun hne hrun' hne' =>
    rw [normalChars, words_append_run hrun' hne', normalChars, words_append_run hrun hne]
  | plain before after h =>
    have hsame : normalChar _ = normalChar _ := normalChar_of_accent h
    rw [normalChars_eq, normalChars_eq, List.flatMap_append, List.flatMap_append, List.flatMap_cons,
      List.flatMap_cons, hsame]

/-- A normal form is its own normal form, it has neither needless white space nor listed accents,
and spellings that differ in case, accents and white space share it. -/
theorem canonical_normalForm (s : String) :
    normalForm (normalForm s) = normalForm s ∧ Canonical (normalForm s).toList ∧
      ∀ t : String, Respelled s.toList t.toList → normalForm t = normalForm s := by
  refine ⟨?_, ?_, fun t ht => ?_⟩
  · rw [normalForm, toList_normalForm, normalChars_normalChars, normalForm]
  · rw [toList_normalForm]
    exact canonical_normalChars s.toList
  · rw [normalForm, normalChars_of_respelled ht, normalForm]

theorem canonical_normalForm_accented :
    Respelled "Itaú Unibanco".toList "Itau Unibanco".toList ∧
      normalForm "Itau Unibanco" = normalForm "Itaú Unibanco" ∧
        normalForm "Itaú Unibanco" = "ITAU UNIBANCO" := by
  have hplain : Respelled "Itaú Unibanco".toList "Itau Unibanco".toList :=
    .plain "Ita".toList " Unibanco".toList (by decide)
  exact ⟨hplain, (canonical_normalForm _).2.2 _ hplain, by decide +kernel⟩

end BankReconciliation.Text
