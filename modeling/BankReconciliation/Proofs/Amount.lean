import BankReconciliation.Amount
import BankReconciliation.Proofs.Decimal.Reader
import BankReconciliation.Proofs.Text.Blank
import BankReconciliation.Text.Encoding

/-! Amounts as Brazilian banks write them, with or without points between the thousands, are read
back with their sign and all their places. -/

namespace BankReconciliation.Amount

open Text (AllBlank)

/-- The characters of an amount, and a text that has white space and currency symbols anywhere
between them. -/
inductive Spaced : (bare text : List Char) → Prop
  | nil : Spaced [] []
  | blank {c : Char} {bare text : List Char} (hc : Text.isBlank c = true) (h : Spaced bare text) :
    Spaced bare (c :: text)
  | symbol {bare text : List Char} (h : Spaced bare text) : Spaced bare ('R' :: '$' :: text)
  | char {c : Char} {bare text : List Char} (hc : c ≠ 'R') (hblank : Text.isBlank c = false)
    (h : Spaced bare text) : Spaced (c :: bare) (c :: text)

variable {c : Char} {cs ds bare text before after : List Char} {d : Decimal}

theorem removeSymbol_cons (hc : c ≠ 'R') : removeSymbol (c :: cs) = c :: removeSymbol cs := by
  rw [removeSymbol]
  rintro cs' rfl
  exact absurd rfl hc

theorem Spaced.self (h : cs.all (fun c => c != 'R' && !Text.isBlank c) = true) : Spaced cs cs := by
  induction cs with
  | nil => exact .nil
  | cons c cs ih =>
    simp only [List.all_cons, Bool.and_eq_true, bne_iff_ne, Bool.not_eq_true'] at h
    obtain ⟨⟨hc, hblank⟩, hcs⟩ := h
    exact .char hc hblank (ih hcs)

theorem Spaced.removed (h : Spaced bare text) : Text.removeBlanks (removeSymbol text) = bare := by
  induction h with
  | nil => rfl
  | blank hc _ ih =>
    rw [removeSymbol_cons (Text.ne_of_isBlank hc rfl), ← ih]
    simp [Text.removeBlanks, hc]
  | symbol _ ih => rw [removeSymbol, ih]
  | char hc hblank _ ih =>
    rw [removeSymbol_cons hc, ← ih]
    simp [Text.removeBlanks, hblank]

/-- White space and symbols are no byte order mark. -/
theorem Spaced.head?_ne (h : Spaced bare text) (hbare : bare.head? ≠ some Text.byteOrderMark) :
    text.head? ≠ some Text.byteOrderMark := by
  cases h with
  | nil => exact hbare
  | blank hc _ => simpa using Text.ne_of_isBlank hc rfl
  | symbol _ => simp [Text.byteOrderMark]
  | char _ _ _ => exact hbare

theorem removed_blank_append (h : AllBlank before) :
    Text.removeBlanks (removeSymbol (before ++ cs)) = Text.removeBlanks (removeSymbol cs) := by
  induction before with
  | nil => rfl
  | cons c before ih =>
    obtain ⟨hc, hbefore⟩ := List.forall_mem_cons.mp h
    rw [List.cons_append, removeSymbol_cons (Text.ne_of_isBlank hc rfl), ← ih hbefore]
    simp [Text.removeBlanks, hc]

/-- No symbol starts in the text and ends in white space behind it. -/
theorem removed_append_blank (h : AllBlank after) :
    Text.removeBlanks (removeSymbol (cs ++ after)) = Text.removeBlanks (removeSymbol cs) := by
  fun_induction removeSymbol cs with
  | case1 cs ih => exact ih
  | case2 c cs hsymbol ih =>
    have hnone : ∀ ds, c = 'R' → cs ++ after = '$' :: ds → False := by
      intro ds hc heq
      cases cs with
      | nil =>
        obtain rfl : after = '$' :: ds := heq
        cases h '$' List.mem_cons_self
      | cons c' cs =>
        obtain rfl : c' = '$' := (List.cons.inj heq).1
        exact hsymbol cs hc rfl
    rw [List.cons_append, removeSymbol.eq_2 _ _ hnone, Text.removeBlanks, Text.removeBlanks,
      List.filter_cons, List.filter_cons]
    rw [Text.removeBlanks, Text.removeBlanks] at ih
    rw [ih]
  | case3 =>
    have hnone : Text.removeBlanks (removeSymbol (after ++ [])) =
        Text.removeBlanks (removeSymbol []) := removed_blank_append h
    rwa [List.append_nil] at hnone

theorem read?_trim (cs : List Char) : read? (Text.trim cs) = read? cs := by
  obtain ⟨before, after, hbefore, hafter, hcs⟩ := Text.exists_padding cs
  have hremoved : Text.removeBlanks (removeSymbol cs) =
      Text.removeBlanks (removeSymbol (Text.trim cs)) := by
    rw [hcs, removed_append_blank hafter, removed_blank_append hbefore, ← hcs]
  rw [read?, read?, plainText, plainText, hremoved]

/-- Points between the thousands of a whole number. -/
def thousands : List Char → List Char
  | [] => []
  | c :: cs =>
    if cs ≠ [] ∧ cs.length % 3 = 0 then c :: '.' :: thousands cs else c :: thousands cs

/-- The magnitude of an amount, with points between the thousands or without them, and with a comma
before the places. -/
def figures (grouped : Bool) (d : Decimal) : List Char :=
  (if grouped then thousands (Decimal.whole d.scale d.mantissa)
    else Decimal.whole d.scale d.mantissa) ++
  (if d.scale = 0 then [] else ',' :: Decimal.places d.scale d.mantissa)

theorem toPoint_append (cs ds : List Char) : toPoint (cs ++ ds) = toPoint cs ++ toPoint ds := by
  rw [toPoint, List.filter_append, List.map_append]
  rfl

theorem toPoint_digits (hds : ∀ c ∈ ds, c.isDigit = true) : toPoint ds = ds := by
  have hpoint : ds.filter (· != '.') = ds := by
    refine List.filter_eq_self.mpr fun c hc => ?_
    simpa using Text.ne_of_isDigit (hds c hc) rfl
  have hcomma : ds.map (fun c => if c = ',' then '.' else c) = ds.map id :=
    List.map_congr_left fun c hc => if_neg (Text.ne_of_isDigit (hds c hc) rfl)
  rw [toPoint, hpoint, hcomma, List.map_id]

theorem toPoint_thousands (hds : ∀ c ∈ ds, c.isDigit = true) : toPoint (thousands ds) = ds := by
  induction ds with
  | nil => rfl
  | cons c ds ih =>
    obtain ⟨hc, hds⟩ := List.forall_mem_cons.mp hds
    have hhead : toPoint [c] = [c] := toPoint_digits (List.forall_mem_singleton.mpr hc)
    rw [thousands]
    split
    · change toPoint (([c] ++ ['.']) ++ thousands ds) = _
      rw [toPoint_append, toPoint_append, hhead, ih hds]
      rfl
    · change toPoint ([c] ++ thousands ds) = _
      rw [toPoint_append, hhead, ih hds]
      rfl

theorem toPoint_figures (grouped : Bool) (d : Decimal) :
    toPoint (figures grouped d) = Decimal.pointed d.scale d.mantissa := by
  have hwhole : ∀ c ∈ Decimal.whole d.scale d.mantissa, c.isDigit = true := fun _ =>
    Decimal.isDigit_of_mem_whole
  have hplaces : toPoint (if d.scale = 0 then [] else ',' :: Decimal.places d.scale d.mantissa) =
      if d.scale = 0 then [] else '.' :: Decimal.places d.scale d.mantissa := by
    split
    · rfl
    · have hdigits : toPoint (Decimal.places d.scale d.mantissa) = _ :=
        toPoint_digits fun _ => Decimal.isDigit_of_mem_places
      change toPoint ([','] ++ Decimal.places d.scale d.mantissa) = _
      rw [toPoint_append, hdigits]
      rfl
  rw [figures, toPoint_append, hplaces, Decimal.pointed_eq]
  cases grouped with
  | true => rw [if_pos rfl, toPoint_thousands hwhole]
  | false => rw [if_neg (by decide), toPoint_digits hwhole]

theorem mem_thousands (h : c ∈ thousands ds) : c = '.' ∨ c ∈ ds := by
  induction ds with
  | nil => cases h
  | cons c' ds ih =>
    rw [thousands] at h
    split at h
    all_goals simp only [List.mem_cons] at h ⊢
    · rcases h with rfl | rfl | h
      · exact .inr (.inl rfl)
      · exact .inl rfl
      · exact (ih h).imp_right .inr
    · rcases h with rfl | h
      · exact .inr (.inl rfl)
      · exact (ih h).imp_right .inr

theorem mem_figures {grouped : Bool} (h : c ∈ figures grouped d) :
    c = '.' ∨ c = ',' ∨ c.isDigit = true := by
  rcases List.mem_append.mp h with h | h
  · have hwhole : c = '.' ∨ c ∈ Decimal.whole d.scale d.mantissa := by
      cases grouped with
      | true => exact mem_thousands h
      | false => exact .inr h
    exact hwhole.imp_right fun hc => .inr (Decimal.isDigit_of_mem_whole hc)
  · split at h
    · cases h
    · exact .inr ((List.mem_cons.mp h).imp_right Decimal.isDigit_of_mem_places)

theorem figures_ne_nil (grouped : Bool) (d : Decimal) : figures grouped d ≠ [] := by
  intro h
  have hpoint := toPoint_figures grouped d
  rw [h, Decimal.pointed_eq] at hpoint
  exact Decimal.whole_ne_nil _ _ (List.append_eq_nil_iff.mp hpoint.symm).1

/-- The ways to show the sign of an amount beside its figures: a minus sign, parentheses around a
debit, or a mark behind a debit or a credit. -/
inductive Signed (d : Decimal) (fs : List Char) : List Char → Prop
  | plain : Signed d fs (Decimal.signed d.negative fs)
  | parentheses (h : d.negative = true) : Signed d fs ('(' :: fs ++ [')'])
  | debit {c : Char} (hc : c = 'D' ∨ c = 'd') (h : d.negative = true) : Signed d fs (fs ++ [c])
  | credit {c : Char} (hc : c = 'C' ∨ c = 'c') (h : d.negative = false) : Signed d fs (fs ++ [c])

/-- The text writes the amount. -/
def Writes (d : Decimal) (text : List Char) : Prop :=
  ∃ grouped bare, Signed d (figures grouped d) bare ∧ Spaced bare text

/-- No character of the text is a mark or a parenthesis. -/
def Unmarked (cs : List Char) : Prop := ∀ c ∈ cs, c ∉ ['D', 'd', 'C', 'c', '(', ')']

theorem unmarked_figures (grouped : Bool) (d : Decimal) : Unmarked (figures grouped d) := by
  intro c hc
  rcases mem_figures hc with rfl | rfl | hc
  · decide
  · decide
  · intro hmark
    simp only [List.mem_cons, List.not_mem_nil, or_false] at hmark
    rcases hmark with rfl | rfl | rfl | rfl | rfl | rfl <;> cases hc

theorem unmarked_signed (negative : Bool) (h : Unmarked cs) :
    Unmarked (Decimal.signed negative cs) := by
  intro c hc
  rcases Decimal.mem_signed hc with rfl | hc
  · decide
  · exact h c hc

theorem splitMark_debit (hc : c = 'D' ∨ c = 'd') : splitMark (cs ++ [c]) = (true, cs) := by
  rcases hc with rfl | rfl <;> simp [splitMark]

theorem splitMark_credit (hc : c = 'C' ∨ c = 'c') : splitMark (cs ++ [c]) = (false, cs) := by
  rcases hc with rfl | rfl <;> simp [splitMark]

theorem splitMark_of_last (h : ∀ c ∈ ['D', 'd', 'C', 'c'], cs.getLast? ≠ some c) :
    splitMark cs = (false, cs) := by
  rw [splitMark]
  split
  all_goals first | rfl | exact absurd ‹_› (h _ (by decide))

theorem splitMark_of_unmarked (h : Unmarked cs) : splitMark cs = (false, cs) :=
  splitMark_of_last fun c hc hlast =>
    h c (List.mem_of_getLast? hlast) (List.mem_append_left ['(', ')'] hc)

theorem inParentheses?_of_unmarked (h : Unmarked cs) : inParentheses? cs = none :=
  if_neg fun hcs => h _ (List.mem_of_mem_head? hcs.1) (by decide)

theorem inParentheses?_parentheses (hcs : cs ≠ []) :
    inParentheses? ('(' :: cs ++ [')']) = some cs := by
  have hlength : 0 < cs.length := List.length_pos_iff.mpr hcs
  rw [inParentheses?, if_pos ⟨rfl, List.getLast?_concat, by simp; omega⟩]
  simp

theorem toPoint_signed (negative : Bool) (cs : List Char) :
    toPoint (Decimal.signed negative cs) = Decimal.signed negative (toPoint cs) := by
  cases negative <;> rfl

theorem plainText_of_writes (h : Writes d text) :
    plainText text =
        (false, Decimal.signed d.negative (Decimal.pointed d.scale d.mantissa)) ∨
      d.negative = true ∧ plainText text = (true, Decimal.pointed d.scale d.mantissa) := by
  obtain ⟨grouped, bare, hsigned, htext⟩ := h
  have hunmarked := unmarked_figures grouped d
  have hpoint := toPoint_figures grouped d
  rw [plainText, htext.removed]
  cases hsigned with
  | plain =>
    have hsigned := unmarked_signed d.negative hunmarked
    refine .inl ?_
    simp only [splitMark_of_unmarked hsigned, inParentheses?_of_unmarked hsigned, toPoint_signed,
      hpoint]
  | parentheses hnegative =>
    have hsplit : splitMark ('(' :: figures grouped d ++ [')']) =
        (false, '(' :: figures grouped d ++ [')']) := by
      refine splitMark_of_last fun c hc hlast => ?_
      rw [List.getLast?_concat] at hlast
      obtain rfl := Option.some.inj hlast
      revert hc
      decide
    refine .inr ⟨hnegative, ?_⟩
    simp only [hsplit, inParentheses?_parentheses (figures_ne_nil grouped d), hpoint]
  | debit hc hnegative =>
    refine .inr ⟨hnegative, ?_⟩
    simp only [splitMark_debit hc, inParentheses?_of_unmarked hunmarked, hpoint]
  | credit hc hnegative =>
    refine .inl ?_
    simp only [splitMark_credit hc, inParentheses?_of_unmarked hunmarked, hpoint, hnegative,
      Decimal.signed]
    rfl

/-- An amount is read back: its magnitude with all places, and its sign unless it is zero. -/
theorem read?_of_writes (h : Writes d text) :
    ∃ w, read? text = some w ∧ w.abs = d.abs ∧ w.units = d.units := by
  have hparts : ∀ negative, Decimal.ofParts? negative d.mantissa d.scale =
      some { d with negative := negative && d.mantissa != 0 } := fun negative =>
    dif_pos ⟨d.mantissa_lt, d.scale_le⟩
  rcases plainText_of_writes h with htext | ⟨hnegative, htext⟩
  · refine ⟨{ d with negative := d.negative && d.mantissa != 0 }, ?_, rfl, ?_⟩
    · simp only [read?, htext, Decimal.read?_signed d.mantissa_lt d.scale_le, hparts]
      rfl
    · rw [Decimal.units, Decimal.units]
      by_cases hzero : d.mantissa = 0 <;> simp [hzero]
  · have hread : Decimal.read? (Decimal.signed false (Decimal.pointed d.scale d.mantissa)) =
        Decimal.ofParts? false d.mantissa d.scale :=
      Decimal.read?_signed d.mantissa_lt d.scale_le
    rw [Decimal.signed, if_neg (by decide), hparts] at hread
    refine ⟨{ d with negative := true }, ?_, rfl, ?_⟩
    · simp only [read?, htext, hread]
      rfl
    · rw [Decimal.units, Decimal.units, hnegative]

/-- No amount starts with a byte order mark. -/
theorem Writes.head?_ne (h : Writes d text) : text.head? ≠ some Text.byteOrderMark := by
  obtain ⟨grouped, bare, hsigned, htext⟩ := h
  have hfigures : Text.byteOrderMark ∉ figures grouped d := by
    intro hmem
    rcases mem_figures hmem with h | h | h <;> cases h
  refine htext.head?_ne fun hhead => ?_
  have hmem := List.mem_of_mem_head? hhead
  cases hsigned with
  | plain =>
    rcases Decimal.mem_signed hmem with h | h
    · cases h
    · exact hfigures h
  | parentheses =>
    have hfirst : some '(' = some Text.byteOrderMark := hhead
    cases hfirst
  | debit hc =>
    rcases List.mem_append.mp hmem with h | h
    · exact hfigures h
    · rcases hc with rfl | rfl <;> cases List.mem_singleton.mp h
  | credit hc =>
    rcases List.mem_append.mp hmem with h | h
    · exact hfigures h
    · rcases hc with rfl | rfl <;> cases List.mem_singleton.mp h

end BankReconciliation.Amount
