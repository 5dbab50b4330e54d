import BankReconciliation.Proofs.Amount.Notation

/-! What is read as an amount. The points of a text are dropped before its number is read, so a text
is accepted with points anywhere; it denotes the number that is read exactly if its points set off
the thousands and it holds nothing else that only the reader of numbers knows. -/

namespace BankReconciliation.Amount

variable {c : Char} {cs bare : List Char} {text : String} {d e : Decimal} {x : ℚ}

def unsigned : List Char → List Char
  | '+' :: cs => cs
  | '-' :: cs => cs
  | cs => cs

/-- The groups that points set off before the comma. -/
def groups (bare : List Char) : List (List Char) :=
  ((unsigned bare).takeWhile (· != ',')).splitOn '.'

def decimals (bare : List Char) : List Char := (unsigned bare).dropWhile (· != ',')

/-- Points set off groups of three before the comma, a digit stands on each side of the comma, and
there are no underscores and no power of ten. -/
structure Regular (bare : List Char) : Prop where
  plain : ∀ c ∈ bare, c ∉ ['_', 'e', 'E']
  lead : (groups bare).head? ≠ some []
  thousands : ∀ g ∈ (groups bare).tail, g.length = 3
  places : '.' ∉ decimals bare ∧ decimals bare ≠ [',']

theorem regular_iff : Regular bare ↔ (∀ c ∈ bare, c ∉ ['_', 'e', 'E']) ∧
    (groups bare).head? ≠ some [] ∧ (∀ g ∈ (groups bare).tail, g.length = 3) ∧
      '.' ∉ decimals bare ∧ decimals bare ≠ [','] :=
  ⟨fun ⟨h, h', h'', h'''⟩ => ⟨h, h', h'', h'''⟩, fun ⟨h, h', h'', h'''⟩ => ⟨h, h', h'', h'''⟩⟩

instance (bare : List Char) : Decidable (Regular bare) :=
  -- by going through the text, and not through all characters
  have : Decidable (∀ c ∈ bare, c ∉ ['_', 'e', 'E']) := List.decidableBAll _ _
  decidable_of_iff _ regular_iff.symm

theorem unsigned_figures (sign : Sign) (f : Figures) :
    unsigned (sign.chars ++ f.chars) = f.chars := by
  obtain ⟨c, cs, hcs, hc⟩ := f.exists_chars_eq_cons
  rw [hcs]
  cases sign with
  | none =>
    rw [Sign.chars, List.nil_append, unsigned]
    · intro cs' h
      exact Text.ne_of_isDigit hc rfl (List.cons.inj h).1
    · intro cs' h
      exact Text.ne_of_isDigit hc rfl (List.cons.inj h).1
  | plus => rfl
  | minus => rfl

theorem cut_figures (f : Figures) : f.chars.takeWhile (· != ',') = f.whole ∧
    f.chars.dropWhile (· != ',') = if f.places = [] then [] else ',' :: f.places := by
  have hwhole : ∀ c ∈ f.whole, (c != ',') = true := by
    intro c hc
    rcases Figures.mem_whole hc with rfl | hc
    · rfl
    · simpa using Text.ne_of_isDigit hc rfl
  rw [Figures.chars, List.takeWhile_append_of_pos hwhole, List.dropWhile_append_of_pos hwhole]
  split_ifs <;> simp

theorem groups_figures (sign : Sign) (f : Figures) :
    groups (sign.chars ++ f.chars) = f.lead :: f.thousands := by
  rw [groups, unsigned_figures, (cut_figures f).1, Figures.whole]
  apply List.splitOn_intercalate
  · intro g hg hpoint
    cases Figures.isDigit_of_mem_group hg hpoint
  · exact List.cons_ne_nil _ _

theorem regular_figures (sign : Sign) (f : Figures) : Regular (sign.chars ++ f.chars) := by
  constructor
  · intro c hc hmark
    have hnone : ∀ d ∈ ['_', 'e', 'E'], d.isDigit = false ∧ d ∉ ['+', '-', '.', ','] := by simp
    exact not_mem_bare (hnone c hmark).1 (hnone c hmark).2 hc
  · rw [groups_figures, List.head?_cons]
    simpa using f.lead_ne_nil
  · rw [groups_figures]
    exact f.length_thousands
  · rw [decimals, unsigned_figures, (cut_figures f).2]
    split_ifs with hplaces
    · simp
    · refine ⟨fun hpoint => ?_, by simpa using hplaces⟩
      rcases List.mem_cons.mp hpoint with h | h
      · cases h
      · cases Figures.isDigit_of_mem_places h

theorem Sign.chars_injective : Function.Injective Sign.chars := by
  intro s t h
  cases s <;> cases t <;> first | rfl | cases h

theorem figures_places (sign : Sign) (f : Figures) :
    f.places = (decimals (sign.chars ++ f.chars)).tail := by
  rw [decimals, unsigned_figures, (cut_figures f).2]
  split_ifs with h
  · exact h
  · rfl

/-- A text denotes one number at most. -/
theorem Denotes.unique {text : List Char} {x y : ℚ} (hx : Denotes text x) (hy : Denotes text y) :
    x = y := by
  obtain ⟨sign, f, debit, tight, hmarked, hspaced, rfl⟩ := hx
  obtain ⟨sign', f', debit', tight', hmarked', hspaced', rfl⟩ := hy
  have hstrip := (strip_of_spaced hmarked hspaced).symm.trans (strip_of_spaced hmarked' hspaced')
  obtain ⟨rfl, hbare⟩ := Prod.mk.inj hstrip
  have hgroups : f.lead :: f.thousands = f'.lead :: f'.thousands := by
    rw [← groups_figures sign, ← groups_figures sign', hbare]
  have hplaces : f.places = f'.places := by
    rw [figures_places sign, figures_places sign', hbare]
  have hsign : sign = sign' := by
    have hchars : f.chars = f'.chars := by
      rw [Figures.chars, Figures.chars, Figures.whole, Figures.whole, hgroups, hplaces]
    rw [hchars] at hbare
    exact Sign.chars_injective (List.append_cancel_right hbare)
  rw [Figures.magnitude, Figures.magnitude, hgroups, hplaces, hsign]

theorem Sign.readPlain? (sign : Sign) (hc : sign = .none → c ≠ '+' ∧ c ≠ '-') :
    Decimal.readPlain? (sign.chars ++ c :: cs) =
      Decimal.readFrom? (decide (sign = .minus)) false false 0 0 (c :: cs) := by
  cases sign with
  | none =>
    rw [Sign.chars, List.nil_append, Decimal.readPlain?]
    · rfl
    · intro cs' h
      exact (hc rfl).2 (List.cons.inj h).1
    · intro cs' h
      exact (hc rfl).1 (List.cons.inj h).1
  | plus => rfl
  | minus => rfl

theorem toPoint_sign (sign : Sign) (cs : List Char) :
    toPoint (sign.chars ++ cs) = sign.chars ++ toPoint cs := by
  rw [toPoint_append]
  cases sign <;> rfl

theorem approximates_of_figures {sign : Sign} {f : Figures}
    (h : Decimal.read? (toPoint (sign.chars ++ f.chars)) = some e) :
    e.Approximates f.magnitude ∧ e.value = sign.apply e.magnitude := by
  have hplain : ∀ d : Char, d.isDigit = false → d ∉ ['+', '-', '.', ','] →
      d ∉ toPoint (sign.chars ++ f.chars) := by
    intro d hdigit hother hd
    rcases mem_toPoint hd with rfl | hd
    · exact hother (by decide)
    · exact not_mem_bare hdigit hother hd
  rw [Decimal.read?_eq_readPlain? (hplain _ rfl (by decide)) (hplain _ rfl (by decide)),
    toPoint_sign, Figures.toPoint_chars] at h
  obtain ⟨c, cs, hcs, hc⟩ := f.exists_flatten_eq_cons
  have hread : Decimal.readFrom? (decide (sign = .minus)) false false 0 0
      ((f.lead :: f.thousands).flatten ++ if f.places = [] then [] else '.' :: f.places) =
        some e := by
    rw [hcs, List.cons_append] at h ⊢
    rwa [Sign.readPlain? _ fun _ => ⟨Text.ne_of_isDigit hc rfl, Text.ne_of_isDigit hc rfl⟩] at h
  constructor
  · apply Decimal.approximates_of_readFrom? hread
    · exact fun _ => Figures.isDigit_of_mem_flatten
    · exact fun _ => Figures.isDigit_of_mem_places
    · simp [hcs]
  · rw [Decimal.value_of_negative (Decimal.negative_of_readFrom? hread), Sign.apply]
    simp

theorem exists_sign (bare : List Char) : ∃ sign : Sign, bare = sign.chars ++ unsigned bare ∧
    ∀ c cs, sign = .none → bare = c :: cs → c ≠ '+' ∧ c ≠ '-' := by
  fun_cases unsigned bare with
  | case1 cs => exact ⟨.plus, rfl, fun _ _ h => nomatch h⟩
  | case2 cs => exact ⟨.minus, rfl, fun _ _ h => nomatch h⟩
  | case3 cs hplus hminus =>
    refine ⟨.none, rfl, ?_⟩
    rintro c cs - rfl
    exact ⟨fun h => hplus cs (h ▸ rfl), fun h => hminus cs (h ▸ rfl)⟩

theorem intercalate_groups (bare : List Char) :
    ['.'].intercalate (groups bare) ++ decimals bare = unsigned bare := by
  have hwhole : ['.'].intercalate (groups bare) = (unsigned bare).takeWhile (· != ',') :=
    List.intercalate_splitOn '.'
  rw [hwhole, decimals, List.takeWhile_append_dropWhile]

theorem point_not_mem_groups : '.' ∉ (groups bare).flatten := by
  intro hmem
  obtain ⟨g, hg, hpoint⟩ := List.mem_flatten.mp hmem
  exact not_mem_of_mem_splitOn hg hpoint

theorem comma_not_mem_groups : ',' ∉ (groups bare).flatten := by
  intro hmem
  have hwhole : ',' ∈ ['.'].intercalate (groups bare) := mem_intercalate_of_mem hmem
  rw [groups, List.intercalate_splitOn] at hwhole
  simpa using List.mem_takeWhile_imp hwhole

theorem Regular.exists_places (h : Regular bare) :
    ∃ ps, decimals bare = (if ps = [] then [] else ',' :: ps) ∧ '.' ∉ ps := by
  obtain ⟨hpoint, hcomma⟩ := h.places
  cases hdecimals : decimals bare with
  | nil => exact ⟨[], rfl, by simp⟩
  | cons c ps =>
    have hc : c = ',' := by
      have hhead := List.head?_dropWhile_not (· != ',') (unsigned bare)
      rw [← decimals, hdecimals] at hhead
      simpa using hhead
    subst hc
    rw [hdecimals] at hpoint hcomma
    refine ⟨ps, ?_, fun hmem => hpoint (List.mem_cons_of_mem _ hmem)⟩
    rw [if_neg fun hnil => hcomma (by rw [hnil])]

/-- A regular text is made up of a sign, groups with points between them, and places. -/
theorem Regular.exists_groups (h : Regular bare) :
    ∃ (sign : Sign) (c : Char) (cs : List Char) (gs : List (List Char)) (ps : List Char),
      bare = sign.chars ++
        (['.'].intercalate ((c :: cs) :: gs) ++ if ps = [] then [] else ',' :: ps) ∧
      (∀ g ∈ gs, g.length = 3) ∧ '.' ∉ ((c :: cs) :: gs).flatten ++ ps ∧
      ',' ∉ ((c :: cs) :: gs).flatten ∧ (sign = .none → c ≠ '+' ∧ c ≠ '-') := by
  obtain ⟨sign, hsign, hnone⟩ := exists_sign bare
  obtain ⟨ps, hps, hpoints⟩ := h.exists_places
  obtain ⟨g, gs, hgroups⟩ := List.exists_cons_of_ne_nil
    (List.splitOn_ne_nil '.' ((unsigned bare).takeWhile (· != ',')))
  rw [← groups] at hgroups
  have hlead := h.lead
  have hthree := h.thousands
  have hshape := intercalate_groups bare
  have hpoint : '.' ∉ (groups bare).flatten := point_not_mem_groups
  have hcomma : ',' ∉ (groups bare).flatten := comma_not_mem_groups
  rw [hgroups] at hlead hthree hshape hpoint hcomma
  obtain ⟨c, cs, rfl⟩ := List.exists_cons_of_ne_nil fun hnil : g = [] => hlead (by rw [hnil]; rfl)
  have hbare : bare = sign.chars ++ (['.'].intercalate ((c :: cs) :: gs) ++ decimals bare) := by
    rw [hshape]
    exact hsign
  refine ⟨sign, c, cs, gs, ps, hps ▸ hbare, hthree, ?_, hcomma, ?_⟩
  · intro hmem
    exact (List.mem_append.mp hmem).elim hpoint hpoints
  · rintro rfl
    rw [intercalate_head] at hbare
    exact hnone c _ rfl hbare

theorem isDigit_of_read {ws ps : List Char} {negative : Bool}
    (h : Decimal.readFrom? negative false false 0 0
      (ws ++ if ps = [] then [] else '.' :: toPoint ps) = some e)
    (hscore : '_' ∉ ws ++ if ps = [] then [] else '.' :: toPoint ps) (hpoint : '.' ∉ ws ++ ps) :
    ∀ c ∈ ws ++ ps, c.isDigit = true := by
  obtain ⟨hws, hps⟩ := not_or.mp (List.mem_append.not.mp hpoint)
  obtain ⟨ds, hds, hshape⟩ := Decimal.exists_digits_of_readFrom? h hscore
  have hds' : '.' ∉ ds := fun hmem => by cases hds _ hmem
  by_cases hnil : ps = []
  · subst hnil
    rw [if_pos rfl, List.append_nil] at hshape
    rw [List.append_nil]
    rcases hshape with rfl | ⟨ps', rfl, -⟩
    · exact hds
    · exact absurd (by simp) hws
  · rw [if_neg hnil] at hshape
    rcases hshape with heq | ⟨ps', heq, hps'⟩
    · exact absurd (heq ▸ List.mem_append_right _ List.mem_cons_self) hds'
    · obtain ⟨rfl, rfl⟩ := (append_separator_inj hws hds').mp heq
      have hcomma : ',' ∉ ps := by
        intro hmem
        have hmapped : '.' ∈ toPoint ps :=
          List.mem_map.mpr ⟨',', List.mem_filter.mpr ⟨hmem, rfl⟩, rfl⟩
        cases hps' _ hmapped
      rw [toPoint_eq_self hps hcomma] at hps'
      intro c hc
      exact (List.mem_append.mp hc).elim (hds c) (hps' c)

theorem exists_figures (h : Decimal.read? (toPoint bare) = some e) (hbare : Regular bare) :
    ∃ (sign : Sign) (f : Figures), bare = sign.chars ++ f.chars := by
  have hplain : ∀ d ∈ ['_', 'e', 'E'], d ∉ toPoint bare := by
    intro d hd hmem
    rcases mem_toPoint hmem with rfl | hmem
    · revert hd
      decide
    · exact hbare.plain d hmem hd
  obtain ⟨sign, c, cs, gs, ps, hshape, hthree, hpoint, hcomma, hnone⟩ := hbare.exists_groups
  obtain ⟨hpieces, hpoints⟩ := not_or.mp (List.mem_append.not.mp hpoint)
  have htext : toPoint bare = sign.chars ++
      (((c :: cs) :: gs).flatten ++ if ps = [] then [] else '.' :: toPoint ps) := by
    rw [hshape, toPoint_sign, toPoint_append, toPoint_intercalate hpieces hcomma]
    split_ifs <;> rfl
  have hscore : '_' ∉ ((c :: cs) :: gs).flatten ++ if ps = [] then [] else '.' :: toPoint ps :=
    fun hmem => hplain '_' (by decide) (htext ▸ List.mem_append_right _ hmem)
  have hread : Decimal.readFrom? (decide (sign = .minus)) false false 0 0
      (((c :: cs) :: gs).flatten ++ if ps = [] then [] else '.' :: toPoint ps) = some e := by
    rw [Decimal.read?_eq_readPlain? (hplain _ (by decide)) (hplain _ (by decide)), htext] at h
    rwa [List.flatten_cons, List.cons_append, List.cons_append, Sign.readPlain? sign hnone] at h
  exact ⟨sign, ⟨c :: cs, gs, ps, List.cons_ne_nil _ _, hthree, isDigit_of_read hread hscore hpoint⟩,
    hshape⟩

theorem exists_read (h : ofString? text = some d) :
    ∃ e, Decimal.read? (toPoint (remainder text.toList)) = some e ∧
      d = if (strip (Text.removeBlanks (removeSymbol text.toList))).1 then e.abs.neg else e := by
  rw [ofString?, read?_eq] at h
  obtain ⟨e, hread, hd⟩ := Option.map_eq_some_iff.mp h
  exact ⟨e, hread, hd.symm⟩

/-- A text that denotes a number is read as that number, as near as its places allow. -/
theorem approximates_of_denotes (h : ofString? text = some d) (hx : Denotes text.toList x) :
    |d.value - x| ≤ 1 / 2 / 10 ^ d.scale ∧ ∀ e : Decimal, e.value = x → d.value = x := by
  obtain ⟨sign, f, debit, tight, hmarked, hspaced, rfl⟩ := hx
  have hstrip := strip_of_spaced hmarked hspaced
  obtain ⟨e, hread, rfl⟩ := exists_read h
  rw [remainder, hstrip] at hread
  obtain ⟨happroximates, hvalue⟩ := approximates_of_figures hread
  rw [hstrip]
  have hexact : ∀ w : Decimal, |w.value| = f.magnitude → e.magnitude = f.magnitude := fun w hw =>
    happroximates.exact w (w.abs_value.symm.trans hw)
  cases debit with
  | true =>
    simp only [if_true, Decimal.value_abs_neg, Sign.abs_apply sign f.magnitude_nonneg]
    constructor
    · rw [neg_sub_neg, abs_sub_comm]
      exact happroximates.near
    · intro w hw
      rw [hexact w (by rw [hw, abs_neg, abs_of_nonneg f.magnitude_nonneg])]
  | false =>
    simp only [Bool.false_eq_true, if_false, hvalue]
    constructor
    · rw [Sign.apply_sub]
      exact happroximates.near
    · intro w hw
      rw [hexact w (by rw [hw, Sign.abs_apply sign f.magnitude_nonneg])]

theorem regular_of_denotes (hx : Denotes text.toList x) : Regular (remainder text.toList) := by
  obtain ⟨sign, f, debit, tight, hmarked, hspaced, -⟩ := hx
  rw [remainder, strip_of_spaced hmarked hspaced]
  exact regular_figures sign f

theorem exists_denotes (h : ofString? text = some d) (hregular : Regular (remainder text.toList)) :
    ∃ x, Denotes text.toList x := by
  obtain ⟨e, hread, -⟩ := exists_read h
  obtain ⟨sign, f, hfigures⟩ := exists_figures hread hregular
  have hmarked := marked_strip (Text.removeBlanks (removeSymbol text.toList))
  rw [← remainder, hfigures] at hmarked
  have hsymbol : 'R' ∉ Text.removeBlanks (removeSymbol text.toList) :=
    not_mem_of_marked hmarked (not_mem_bare rfl (by decide)) (by decide)
  exact ⟨_, sign, f, _, _, hmarked, spaced_removed hsymbol, rfl⟩

/-- A text that is read as an amount denotes a number exactly if what is left of it is regular, and
the amount is that number, rounded at its last place if no decimal has it. -/
theorem denotes_iff_regular (h : ofString? text = some d) :
    ((∃ x, Denotes text.toList x) ↔ Regular (remainder text.toList)) ∧
      ∀ x, Denotes text.toList x →
        |d.value - x| ≤ 1 / 2 / 10 ^ d.scale ∧ ∀ e : Decimal, e.value = x → d.value = x :=
  ⟨⟨fun ⟨_, hx⟩ => regular_of_denotes hx, exists_denotes h⟩,
    fun _ hx => approximates_of_denotes h hx⟩

/-- Points between the thousands, a currency symbol and the mark of a debit. -/
theorem denotes_iff_regular_debit :
    ∃ (d : Decimal) (x : ℚ), ofString? "R$ 1.234,56 D" = some d ∧ d.value = -123456 / 100 ∧
      Denotes "R$ 1.234,56 D".toList x ∧ |d.value - x| ≤ 1 / 2 / 10 ^ 2 := by
  let d : Decimal := ⟨true, 123456, 2, by decide, by decide⟩
  have hread : ofString? "R$ 1.234,56 D" = some d := by decide +kernel
  have hregular : Regular (remainder "R$ 1.234,56 D".toList) := by decide +kernel
  obtain ⟨hdenotes, hnear⟩ := denotes_iff_regular hread
  obtain ⟨x, hx⟩ := hdenotes.mpr hregular
  exact ⟨d, x, hread, by norm_num [d, Decimal.value, Decimal.units], hx, (hnear x hx).1⟩

/-- The point of a text with two places behind it is dropped. -/
theorem not_denotes_of_decimal_point :
    ¬ ∀ (text : String) (d : Decimal), ofString? text = some d → Denotes text.toList d.value := by
  intro h
  have hread : ofString? "100.00" = some ⟨false, 10000, 0, by decide, by decide⟩ := by
    decide +kernel
  have hregular := regular_of_denotes (h _ _ hread)
  revert hregular
  decide +kernel

end BankReconciliation.Amount
