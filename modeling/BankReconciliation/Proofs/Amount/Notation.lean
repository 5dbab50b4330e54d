import BankReconciliation.Proofs.Amount
import BankReconciliation.Proofs.Decimal.Accepted
import BankReconciliation.Proofs.Text.Separated

/-! The Brazilian notation of amounts: digits, points between the thousands, places behind a comma,
and a sign, a mark or parentheses around them. A text denotes at most one number in it. -/

namespace BankReconciliation.Amount

variable {c : Char} {cs text tight bare bare' : List Char} {debit debit' : Bool} {d e : Decimal}
  {x : ℚ}

theorem mem_toPoint (hc : c ∈ toPoint cs) : c = '.' ∨ c ∈ cs := by
  obtain ⟨c', hc', rfl⟩ := List.mem_map.mp hc
  split_ifs
  · exact .inl rfl
  · exact .inr (List.mem_of_mem_filter hc')

theorem toPoint_eq_self (hpoint : '.' ∉ cs) (hcomma : ',' ∉ cs) : toPoint cs = cs := by
  have hfilter : cs.filter (· != '.') = cs :=
    List.filter_eq_self.mpr fun c hc => bne_iff_ne.mpr (ne_of_mem_of_not_mem hc hpoint)
  rw [toPoint, hfilter]
  exact (List.map_congr_left fun c hc => if_neg (ne_of_mem_of_not_mem hc hcomma)).trans
    (List.map_id cs)

theorem toPoint_intercalate {gs : List (List Char)} (hpoint : '.' ∉ gs.flatten)
    (hcomma : ',' ∉ gs.flatten) : toPoint (['.'].intercalate gs) = gs.flatten := by
  have hgroups : gs.map (List.filter (· != '.')) = gs := by
    refine (List.map_congr_left fun g hg => ?_).trans (List.map_id _)
    refine List.filter_eq_self.mpr fun c hc => bne_iff_ne.mpr ?_
    exact ne_of_mem_of_not_mem (List.mem_flatten.mpr ⟨g, hg, hc⟩) hpoint
  have hfilter : (['.'].intercalate gs).filter (· != '.') = gs.flatten := by
    rw [filter_intercalate, hgroups]
    exact nil_intercalate gs
  calc toPoint (['.'].intercalate gs)
    _ = toPoint ((['.'].intercalate gs).filter (· != '.')) := by simp [toPoint]
    _ = gs.flatten := by rw [hfilter, toPoint_eq_self hpoint hcomma]

/-- The digits of a magnitude. Points set off groups of three digits before the comma. -/
structure Figures where
  lead : List Char
  thousands : List (List Char)
  places : List Char
  lead_ne_nil : lead ≠ []
  length_thousands : ∀ g ∈ thousands, g.length = 3
  digits : ∀ c ∈ (lead :: thousands).flatten ++ places, c.isDigit = true

namespace Figures

variable {f : Figures}

def whole (f : Figures) : List Char := ['.'].intercalate (f.lead :: f.thousands)

def chars (f : Figures) : List Char := f.whole ++ if f.places = [] then [] else ',' :: f.places

def magnitude (f : Figures) : ℚ :=
  Text.digitsValue ((f.lead :: f.thousands).flatten ++ f.places) / 10 ^ f.places.length

theorem magnitude_nonneg (f : Figures) : 0 ≤ f.magnitude := by
  unfold magnitude
  positivity

theorem isDigit_of_mem_flatten (hc : c ∈ (f.lead :: f.thousands).flatten) : c.isDigit = true :=
  f.digits c (List.mem_append_left _ hc)

theorem isDigit_of_mem_group {g : List Char} (hg : g ∈ f.lead :: f.thousands) (hc : c ∈ g) :
    c.isDigit = true :=
  isDigit_of_mem_flatten (List.mem_flatten.mpr ⟨g, hg, hc⟩)

theorem isDigit_of_mem_places (hc : c ∈ f.places) : c.isDigit = true :=
  f.digits c (List.mem_append_right _ hc)

theorem mem_whole (hc : c ∈ f.whole) : c = '.' ∨ c.isDigit = true := by
  rcases mem_intercalate hc with hc | ⟨g, hg, hc⟩
  · exact .inl (List.mem_singleton.mp hc)
  · exact .inr (isDigit_of_mem_group hg hc)

theorem mem_chars (hc : c ∈ f.chars) : c = '.' ∨ c = ',' ∨ c.isDigit = true := by
  rcases List.mem_append.mp hc with hc | hc
  · exact (mem_whole hc).imp_right .inr
  · split_ifs at hc
    · cases hc
    · exact .inr ((List.mem_cons.mp hc).imp_right isDigit_of_mem_places)

theorem exists_flatten_eq_cons (f : Figures) :
    ∃ c cs, (f.lead :: f.thousands).flatten = c :: cs ∧ c.isDigit = true := by
  obtain ⟨c, cs, hlead⟩ := List.exists_cons_of_ne_nil f.lead_ne_nil
  refine ⟨c, cs ++ f.thousands.flatten, by simp [hlead], ?_⟩
  exact isDigit_of_mem_group List.mem_cons_self (hlead ▸ List.mem_cons_self)

theorem exists_chars_eq_cons (f : Figures) : ∃ c cs, f.chars = c :: cs ∧ c.isDigit = true := by
  obtain ⟨c, cs, hlead⟩ := List.exists_cons_of_ne_nil f.lead_ne_nil
  have hdigit : c.isDigit = true :=
    isDigit_of_mem_group List.mem_cons_self (hlead ▸ List.mem_cons_self)
  rw [chars, whole, hlead, intercalate_head]
  exact ⟨c, _, rfl, hdigit⟩

theorem toPoint_chars (f : Figures) : toPoint f.chars =
    (f.lead :: f.thousands).flatten ++ if f.places = [] then [] else '.' :: f.places := by
  have hother : ∀ c, c.isDigit = false → c ∉ (f.lead :: f.thousands).flatten := by
    intro c hc hmem
    rw [isDigit_of_mem_flatten hmem] at hc
    cases hc
  have hplaces : toPoint f.places = f.places := toPoint_digits fun _ => isDigit_of_mem_places
  rw [chars, whole, toPoint_append, toPoint_intercalate (hother _ rfl) (hother _ rfl)]
  split_ifs
  · rfl
  · change _ ++ toPoint ([','] ++ f.places) = _
    rw [toPoint_append, hplaces]
    rfl

end Figures

inductive Sign | none | plus | minus
deriving DecidableEq

namespace Sign

def chars : Sign → List Char
  | none => []
  | plus => ['+']
  | minus => ['-']

def apply (s : Sign) (x : ℚ) : ℚ := if s = minus then -x else x

theorem apply_sub (s : Sign) (x y : ℚ) : |s.apply x - s.apply y| = |x - y| := by
  rw [apply, apply]
  split_ifs
  · rw [neg_sub_neg, abs_sub_comm]
  · rfl

theorem abs_apply (s : Sign) (hx : 0 ≤ x) : |s.apply x| = x := by
  rw [apply]
  split_ifs <;> simp [abs_of_nonneg hx]

end Sign

/-- Parentheses make a debit. -/
inductive Enclosed (bare : List Char) : (debit : Bool) → List Char → Prop
  | plain : Enclosed bare false bare
  | parentheses : Enclosed bare true ('(' :: bare ++ [')'])

/-- A mark behind the amount, and parentheses within it. -/
inductive Marked (bare : List Char) : (debit : Bool) → List Char → Prop
  | plain {debit : Bool} {cs : List Char} (h : Enclosed bare debit cs) : Marked bare debit cs
  | credit {c : Char} {debit : Bool} {cs : List Char} (hc : c = 'C' ∨ c = 'c')
    (h : Enclosed bare debit cs) : Marked bare debit (cs ++ [c])
  | debit {c : Char} {debit : Bool} {cs : List Char} (hc : c = 'D' ∨ c = 'd')
    (h : Enclosed bare debit cs) : Marked bare true (cs ++ [c])

/-- The text denotes the number: it shows a sign and figures, with a mark and parentheses around
them and with white space and currency symbols anywhere between the characters. -/
def Denotes (text : List Char) (x : ℚ) : Prop :=
  ∃ (sign : Sign) (f : Figures) (debit : Bool) (tight : List Char),
    Marked (sign.chars ++ f.chars) debit tight ∧ Spaced tight text ∧
      x = if debit then -|sign.apply f.magnitude| else sign.apply f.magnitude

/-- What is left when the mark and the parentheses are taken away, and whether they make a debit. -/
def strip (cs : List Char) : Bool × List Char :=
  match inParentheses? (splitMark cs).2 with
  | some inner => (true, inner)
  | none => splitMark cs

/-- What is left of an amount without white space, symbols, mark and parentheses. -/
def remainder (text : List Char) : List Char :=
  (strip (Text.removeBlanks (removeSymbol text))).2

theorem enclosed_inParentheses? (h : inParentheses? cs = some bare) : Enclosed bare true cs := by
  rw [inParentheses?] at h
  split_ifs at h with hcs
  obtain ⟨hfirst, hlast, hlength⟩ := hcs
  obtain rfl := Option.some.inj h
  obtain ⟨tail, rfl⟩ := List.head?_eq_some_iff.mp hfirst
  have hne : tail ≠ [] := by
    rintro rfl
    simp at hlength
  have hclose : tail.getLast hne = ')' := by
    rw [List.getLast?_cons_of_ne_nil hne, List.getLast?_eq_some_getLast hne] at hlast
    exact Option.some.inj hlast
  have htail : tail.dropLast ++ [')'] = tail := by
    rw [← hclose, List.dropLast_append_getLast]
  have hparentheses : Enclosed tail.dropLast true ('(' :: tail.dropLast ++ [')']) := .parentheses
  rwa [List.cons_append, htail] at hparentheses

theorem splitMark_cases (cs : List Char) :
    (∃ c ds, (c = 'D' ∨ c = 'd') ∧ cs = ds ++ [c] ∧ splitMark cs = (true, ds)) ∨
      (∃ c ds, (c = 'C' ∨ c = 'c') ∧ cs = ds ++ [c] ∧ splitMark cs = (false, ds)) ∨
        splitMark cs = (false, cs) := by
  have hlast : ∀ {c}, cs.getLast? = some c → cs = cs.dropLast ++ [c] := fun h =>
    (List.dropLast_append_getLast? _ h).symm
  rw [splitMark]
  split
  · exact .inl ⟨_, _, .inl rfl, hlast ‹_›, rfl⟩
  · exact .inl ⟨_, _, .inr rfl, hlast ‹_›, rfl⟩
  · exact .inr (.inl ⟨_, _, .inl rfl, hlast ‹_›, rfl⟩)
  · exact .inr (.inl ⟨_, _, .inr rfl, hlast ‹_›, rfl⟩)
  · exact .inr (.inr rfl)

theorem marked_strip (cs : List Char) : Marked (strip cs).2 (strip cs).1 cs := by
  rcases splitMark_cases cs with ⟨c, ds, hc, rfl, hsplit⟩ | ⟨c, ds, hc, rfl, hsplit⟩ | hsplit
  all_goals rw [strip, hsplit]
  all_goals dsimp only
  all_goals split
  · exact .debit hc (enclosed_inParentheses? ‹_›)
  · exact .debit hc .plain
  · exact .credit hc (enclosed_inParentheses? ‹_›)
  · exact .credit hc .plain
  · exact .plain (enclosed_inParentheses? ‹_›)
  · exact .plain .plain

theorem strip_of_enclosed {mark : Bool} (hbare : Unmarked bare) (hne : bare ≠ [])
    (h : Enclosed bare debit cs) (hsplit : splitMark tight = (mark, cs)) :
    strip tight = (mark || debit, bare) := by
  rw [strip, hsplit]
  cases h with
  | plain => simp [inParentheses?_of_unmarked hbare]
  | parentheses => simp only [inParentheses?_parentheses hne, Bool.or_true]

theorem splitMark_of_enclosed (hbare : Unmarked bare) (h : Enclosed bare debit cs) :
    splitMark cs = (false, cs) := by
  cases h with
  | plain => exact splitMark_of_unmarked hbare
  | parentheses =>
    apply splitMark_of_last
    intro c hc hlast
    rw [List.getLast?_concat] at hlast
    obtain rfl := Option.some.inj hlast
    revert hc
    decide

theorem strip_of_marked (hbare : Unmarked bare) (hne : bare ≠ []) (h : Marked bare debit tight) :
    strip tight = (debit, bare) := by
  cases h with
  | plain h => exact strip_of_enclosed hbare hne h (splitMark_of_enclosed hbare h)
  | credit hc h => exact strip_of_enclosed hbare hne h (splitMark_credit hc)
  | debit hc h => exact strip_of_enclosed hbare hne h (splitMark_debit hc)

theorem read?_eq (text : List Char) : read? text =
    (Decimal.read? (toPoint (remainder text))).map fun d =>
      if (strip (Text.removeBlanks (removeSymbol text))).1 then d.abs.neg else d := by
  have hplain : plainText text = ((strip (Text.removeBlanks (removeSymbol text))).1,
      toPoint (remainder text)) := by
    rw [plainText, remainder, strip]
    dsimp only
    cases inParentheses? (splitMark (Text.removeBlanks (removeSymbol text))).2 <;> rfl
  rw [read?, hplain]

/-- White space and whole symbols are all that is taken out of a text in which no half symbol is
left. -/
theorem spaced_removed (h : 'R' ∉ Text.removeBlanks (removeSymbol text)) :
    Spaced (Text.removeBlanks (removeSymbol text)) text := by
  fun_induction removeSymbol text with
  | case1 cs ih => exact .symbol (ih h)
  | case2 c cs _ ih =>
    rw [Text.removeBlanks, List.filter_cons] at h ⊢
    cases hblank : Text.isBlank c with
    | true =>
      rw [hblank] at h
      exact .blank hblank (ih h)
    | false =>
      rw [hblank] at h
      obtain ⟨hc, hcs⟩ := not_or.mp (List.mem_cons.not.mp h)
      exact .char (Ne.symm hc) hblank (ih hcs)
  | case3 => exact .nil

theorem mem_bare {sign : Sign} {f : Figures} (hc : c ∈ sign.chars ++ f.chars) :
    c ∈ ['+', '-', '.', ','] ∨ c.isDigit = true := by
  rcases List.mem_append.mp hc with hc | hc
  · cases sign <;> simp_all [Sign.chars]
  · rcases Figures.mem_chars hc with rfl | rfl | hc
    · exact .inl (by decide)
    · exact .inl (by decide)
    · exact .inr hc

theorem not_mem_bare {sign : Sign} {f : Figures} (hdigit : c.isDigit = false)
    (hother : c ∉ ['+', '-', '.', ',']) : c ∉ sign.chars ++ f.chars := by
  intro hc
  rcases mem_bare hc with hc | hc
  · exact hother hc
  · rw [hdigit] at hc
    cases hc

theorem unmarked_bare (sign : Sign) (f : Figures) : Unmarked (sign.chars ++ f.chars) := by
  intro c hc hmark
  have hnone : ∀ d ∈ ['D', 'd', 'C', 'c', '(', ')'], d.isDigit = false ∧
      d ∉ ['+', '-', '.', ','] := by simp
  exact not_mem_bare (hnone c hmark).1 (hnone c hmark).2 hc

theorem bare_ne_nil (sign : Sign) (f : Figures) : sign.chars ++ f.chars ≠ [] := by
  obtain ⟨c, cs, hcs, -⟩ := f.exists_chars_eq_cons
  simp [hcs]

theorem not_mem_of_marked (h : Marked bare debit tight) (hbare : c ∉ bare)
    (hc : c ∉ ['(', ')', 'C', 'c', 'D', 'd']) : c ∉ tight := by
  simp only [List.mem_cons, List.not_mem_nil, or_false, not_or] at hc
  have henclosed : ∀ {debit cs}, Enclosed bare debit cs → c ∉ cs := by
    intro debit cs h
    cases h with
    | plain => exact hbare
    | parentheses => simp [hbare, hc]
  cases h with
  | plain h => exact henclosed h
  | credit hmark h => rcases hmark with rfl | rfl <;> simp [henclosed h, hc]
  | debit hmark h => rcases hmark with rfl | rfl <;> simp [henclosed h, hc]

/-- What is left of a text that denotes a number is the sign and the figures. -/
theorem strip_of_spaced {sign : Sign} {f : Figures} (h : Marked (sign.chars ++ f.chars) debit tight)
    (htext : Spaced tight text) :
    strip (Text.removeBlanks (removeSymbol text)) = (debit, sign.chars ++ f.chars) := by
  rw [htext.removed]
  exact strip_of_marked (unmarked_bare sign f) (bare_ne_nil sign f) h

end BankReconciliation.Amount
