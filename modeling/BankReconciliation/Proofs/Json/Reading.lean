import BankReconciliation.Proofs.Json.Number
import BankReconciliation.Proofs.Json.Text

/-! Printed values are read back. The reader sorts the members of an object, keeps the last of each
name, and takes a fraction for what it makes of its digits; everything else comes back as it was. -/

namespace BankReconciliation.Json

/-- A value of which the reader takes the text: whole numbers of 64 bits, fractions in its range,
and no more lists and objects around a part than may be open at once. -/
inductive Legible : (depth : Nat) → Json → Prop
  | null {depth : Nat} : Legible depth .null
  | bool {depth : Nat} (b : Bool) : Legible depth (.bool b)
  | int {depth : Nat} {n : Int} (h : smallest ≤ n ∧ n ≤ largest) : Legible depth (.int n)
  | real {depth : Nat} {negative : Bool} {magnitude : Binary64} {j : Json}
    (h : number negative (realChars false magnitude) = .ok (j, [])) :
    Legible depth (.real negative magnitude)
  | str {depth : Nat} (s : String) : Legible depth (.str s)
  | arr {depth : Nat} {items : List Json} (h : ∀ item ∈ items, Legible depth item) :
    Legible (depth + 1) (.arr items)
  | obj {depth : Nat} {members : List (String × Json)} (h : ∀ e ∈ members, Legible depth e.2) :
    Legible (depth + 1) (.obj members)

/-- What a value's text is taken for. -/
def reread : Json → Json
  | .null => .null
  | .bool b => .bool b
  | .int n => .int n
  | .str s => .str s
  | .real negative magnitude =>
    match number negative (realChars false magnitude) with
    | .ok (j, _) => j
    | .error _ => .null
  | .arr items => .arr (items.map reread)
  | .obj members => ofMembers (members.map fun e => (e.1, reread e.2))
decreasing_by
  · rename_i item h
    have hlt := List.sizeOf_lt_of_mem h
    simp only [arr.sizeOf_spec]
    omega
  · rename_i h
    have hlt := List.sizeOf_lt_of_mem h
    obtain ⟨name, v⟩ := e
    simp only [Prod.mk.sizeOf_spec, obj.sizeOf_spec] at hlt ⊢
    omega

variable {fuel depth : Nat} {rest cs : List Char} {c : Char}

theorem skipSpace_cons (h : isSpace c = false) : skipSpace (c :: cs) = c :: cs :=
  List.dropWhile_cons_of_neg (by simp [h])

theorem isSpace_of_isDigit (hc : c.isDigit = true) : isSpace c = false := by
  have hne : ∀ d : Char, d.isDigit = false → (c == d) = false := fun _ hd =>
    beq_eq_false_iff_ne.mpr (Text.ne_of_isDigit hc hd)
  simp [isSpace, hne]

theorem value_minus : value (fuel + 1) depth ('-' :: cs) = number true cs := by
  rw [value.eq_def]
  rfl

theorem value_digit (hc : c.isDigit = true) :
    value (fuel + 1) depth (c :: cs) = number false (c :: cs) := by
  have hne : ∀ d : Char, d.isDigit = false → c ≠ d := fun _ => Text.ne_of_isDigit hc
  rw [value.eq_def]
  dsimp only
  rw [skipSpace_cons (isSpace_of_isDigit hc)]
  split <;> simp_all

theorem value_quote {s : String} (h : text (cs.length + 1) [] cs = .ok (s, rest)) :
    value (fuel + 1) depth ('"' :: cs) = .ok (.str s, rest) := by
  have hstep : value (fuel + 1) depth ('"' :: cs) =
      text (cs.length + 1) [] cs >>= fun p => .ok (.str p.1, p.2) := by
    rw [value.eq_def]
    rfl
  rw [hstep, h]
  rfl

theorem value_bracket {js : List Json} (h : items fuel depth true cs = .ok (js, rest)) :
    value (fuel + 1) (depth + 1) ('[' :: cs) = .ok (.arr js, rest) := by
  have hstep : value (fuel + 1) (depth + 1) ('[' :: cs) =
      items fuel depth true cs >>= fun p => .ok (.arr p.1, p.2) := by
    rw [value.eq_def]
    rfl
  rw [hstep, h]
  rfl

theorem value_brace {ms : Members Json} (h : members fuel depth true cs = .ok (ms, rest)) :
    value (fuel + 1) (depth + 1) ('\x7b' :: cs) = .ok (ofMembers ms, rest) := by
  have hstep : value (fuel + 1) (depth + 1) ('\x7b' :: cs) =
      members fuel depth true cs >>= fun p => .ok (ofMembers p.1, p.2) := by
    rw [value.eq_def]
    rfl
  rw [hstep, h]
  rfl

theorem items_end {first : Bool} : items (fuel + 1) depth first (']' :: rest) = .ok ([], rest) := by
  rw [items.eq_def]
  cases first <;> rfl

theorem members_end {first : Bool} :
    members (fuel + 1) depth first ('\x7d' :: rest) = .ok ([], rest) := by
  rw [members.eq_def]
  cases first <;> rfl

/-- A character with which the text of a value begins. -/
def Begins (c : Char) : Prop := isSpace c = false ∧ c ≠ ']'

theorem items_first {after : List Char} {j : Json} {js : List Json} (hc : Begins c)
    (hvalue : value fuel depth (c :: cs) = .ok (j, after))
    (hothers : items fuel depth false after = .ok (js, rest)) :
    items (fuel + 1) depth true (c :: cs) = .ok (j :: js, rest) := by
  obtain ⟨hspace, hend⟩ := hc
  have hstep : items (fuel + 1) depth true (c :: cs) =
      value fuel depth (c :: cs) >>= fun p =>
        items fuel depth false p.2 >>= fun q => .ok (p.1 :: q.1, q.2) := by
    rw [items.eq_def]
    dsimp only
    rw [skipSpace_cons hspace]
    split <;> simp_all
  rw [hstep, hvalue]
  simp only [bind, Except.bind, hothers]

theorem items_comma {after : List Char} {j : Json} {js : List Json} (hc : Begins c)
    (hvalue : value fuel depth (c :: cs) = .ok (j, after))
    (hothers : items fuel depth false after = .ok (js, rest)) :
    items (fuel + 1) depth false (',' :: c :: cs) = .ok (j :: js, rest) := by
  obtain ⟨hspace, hend⟩ := hc
  have hstep : items (fuel + 1) depth false (',' :: c :: cs) =
      value fuel depth (c :: cs) >>= fun p =>
        items fuel depth false p.2 >>= fun q => .ok (p.1 :: q.1, q.2) := by
    rw [items.eq_def]
    dsimp only
    have hcomma : skipSpace (',' :: c :: cs) = ',' :: c :: cs := skipSpace_cons rfl
    rw [hcomma]
    simp only
    rw [skipSpace_cons hspace]
    split <;> simp_all
  rw [hstep, hvalue]
  simp only [bind, Except.bind, hothers]

theorem members_first {ms : Members Json} (h : member fuel depth ('"' :: cs) = .ok (ms, rest)) :
    members (fuel + 1) depth true ('"' :: cs) = .ok (ms, rest) := by
  rw [members.eq_def]
  exact h

theorem members_comma {ms : Members Json} (h : member fuel depth ('"' :: cs) = .ok (ms, rest)) :
    members (fuel + 1) depth false (',' :: '"' :: cs) = .ok (ms, rest) := by
  rw [members.eq_def]
  exact h

theorem member_quote {s : String} {after after' : List Char} {j : Json} {ms : Members Json}
    (hname : text (cs.length + 1) [] cs = .ok (s, ':' :: after))
    (hvalue : value fuel depth after = .ok (j, after'))
    (hothers : members fuel depth false after' = .ok (ms, rest)) :
    member (fuel + 1) depth ('"' :: cs) = .ok ((s, j) :: ms, rest) := by
  rw [member.eq_def]
  simp only
  rw [hname]
  have hcolon : skipSpace (':' :: after) = ':' :: after := skipSpace_cons rfl
  simp only [bind, Except.bind, hcolon, hvalue, hothers]

/-- The text of a value is read back wherever something stands behind it that does not go on with a
number. -/
structure ReadsBack (depth : Nat) (j : Json) : Prop where
  begins : ∃ c cs, j.chars = c :: cs ∧ Begins c
  reads : ∀ {fuel : Nat} {rest : List Char}, Stops rest → 2 * j.chars.length ≤ fuel →
    value fuel depth (j.chars ++ rest) = .ok (j.reread, rest)

theorem begins_of_isDigit (hc : c.isDigit = true) : Begins c :=
  ⟨isSpace_of_isDigit hc, Text.ne_of_isDigit hc rfl⟩

theorem readsBack_word {j : Json} (h : j ∈ [.null, .bool true, .bool false]) :
    ReadsBack depth j := by
  simp only [List.mem_cons, List.not_mem_nil, or_false] at h
  rcases h with rfl | rfl | rfl
  all_goals
    refine ⟨⟨_, _, rfl, rfl, by decide⟩, ?_⟩
    intro fuel rest _ hfuel
    obtain ⟨fuel, rfl⟩ : ∃ k, fuel = k + 1 := ⟨fuel - 1, by simp [chars] at hfuel; omega⟩
    rw [reread, value.eq_def]
    rfl

theorem readsBack_number {j j' : Json} {negative : Bool} {ds : List Char}
    (hchars : j.chars = Decimal.signed negative ds) (hreread : j.reread = j')
    (h : number negative ds = .ok (j', [])) : ReadsBack depth j := by
  obtain ⟨c, cs, rfl, hc⟩ := exists_digit_of_number h
  cases negative with
  | true =>
    refine ⟨⟨'-', c :: cs, hchars, rfl, by decide⟩, ?_⟩
    intro fuel rest hrest hfuel
    rw [hchars, Decimal.signed, if_pos rfl, List.length_cons] at hfuel
    obtain ⟨fuel, rfl⟩ : ∃ k, fuel = k + 1 := ⟨fuel - 1, by omega⟩
    rw [hchars, hreread, Decimal.signed, if_pos rfl, List.cons_append, value_minus,
      number_append hrest h, List.nil_append]
  | false =>
    refine ⟨⟨c, cs, hchars, begins_of_isDigit hc⟩, ?_⟩
    intro fuel rest hrest hfuel
    rw [hchars, Decimal.signed, if_neg Bool.false_ne_true, List.length_cons] at hfuel
    obtain ⟨fuel, rfl⟩ : ∃ k, fuel = k + 1 := ⟨fuel - 1, by omega⟩
    rw [hchars, hreread, Decimal.signed, if_neg Bool.false_ne_true, List.cons_append,
      value_digit hc, ← List.cons_append, number_append hrest h, List.nil_append]

theorem readsBack_int {n : Int} (h : smallest ≤ n ∧ n ≤ largest) : ReadsBack depth (.int n) := by
  obtain ⟨hsmallest, hlargest⟩ := h
  rw [smallest] at hsmallest
  rw [largest] at hlargest
  by_cases hn : n < 0
  · have hread : number true (Text.digits n.natAbs) = .ok (.int (-(n.natAbs : Int)), []) :=
      number_opposite (by omega) (by omega)
    have hvalue : -(n.natAbs : Int) = n := by omega
    rw [hvalue] at hread
    exact readsBack_number (by rw [chars, intChars, if_pos hn]; rfl) (by rw [reread]) hread
  · have hread : number false (Text.digits n.natAbs) = .ok (.int n.natAbs, []) :=
      number_natural (by omega)
    have hvalue : (n.natAbs : Int) = n := by omega
    rw [hvalue] at hread
    exact readsBack_number (by rw [chars, intChars, if_neg hn]; rfl) (by rw [reread]) hread

theorem readsBack_real {negative : Bool} {magnitude : Binary64} {j : Json}
    (h : number negative (realChars false magnitude) = .ok (j, [])) :
    ReadsBack depth (.real negative magnitude) := by
  have hreread : reread (.real negative magnitude) = j := by rw [reread, h]
  exact readsBack_number (by cases negative <;> rfl) hreread h

theorem readsBack_str (s : String) : ReadsBack depth (.str s) := by
  refine ⟨⟨'"', _, rfl, rfl, by decide⟩, ?_⟩
  intro fuel rest hrest hfuel
  have hlength : 0 < (chars (.str s)).length := List.length_pos_of_ne_nil (List.cons_ne_nil _ _)
  obtain ⟨fuel, rfl⟩ : ∃ k, fuel = k + 1 := ⟨fuel - 1, by omega⟩
  obtain ⟨cs, hcs, htext⟩ := text_strChars s rest
  have hchars : chars (.str s) ++ rest = '"' :: cs := hcs
  rw [hchars, value_quote htext, reread]

theorem stops_itemChars (js : List Json) : Stops (itemChars js ++ ']' :: rest) := by
  cases js with
  | nil => exact stops_cons rfl (by decide) rfl
  | cons j js => exact stops_cons rfl (by decide) rfl

theorem items_chars {js : List Json} (h : ∀ j ∈ js, ReadsBack depth j)
    (hfuel : 2 * (itemChars js).length < fuel) :
    items fuel depth false (itemChars js ++ ']' :: rest) = .ok (js.map reread, rest) := by
  induction js generalizing fuel with
  | nil =>
    obtain ⟨fuel, rfl⟩ : ∃ k, fuel = k + 1 := ⟨fuel - 1, by omega⟩
    exact items_end
  | cons j js ih =>
    obtain ⟨hj, hjs⟩ := List.forall_mem_cons.mp h
    obtain ⟨c, cs, hcs, hc⟩ := hj.begins
    rw [itemChars, List.length_append, List.length_cons] at hfuel
    obtain ⟨fuel, rfl⟩ : ∃ k, fuel = k + 1 := ⟨fuel - 1, by omega⟩
    have hread : value fuel depth (j.chars ++ (itemChars js ++ ']' :: rest)) =
        .ok (j.reread, itemChars js ++ ']' :: rest) := hj.reads (stops_itemChars js) (by omega)
    have hothers : items fuel depth false (itemChars js ++ ']' :: rest) =
        .ok (js.map reread, rest) := ih hjs (by omega)
    have hchars : itemChars (j :: js) ++ ']' :: rest =
        ',' :: (j.chars ++ (itemChars js ++ ']' :: rest)) := by simp [itemChars]
    rw [hchars, hcs, List.cons_append]
    rw [hcs, List.cons_append] at hread
    exact items_comma hc hread hothers

theorem readsBack_arr {js : List Json} (h : ∀ j ∈ js, ReadsBack depth j) :
    ReadsBack (depth + 1) (.arr js) := by
  have hreread : reread (.arr js) = .arr (js.map reread) := by rw [reread]
  cases js with
  | nil =>
    refine ⟨⟨'[', [']'], rfl, rfl, by decide⟩, ?_⟩
    intro fuel rest hrest hfuel
    rw [chars, List.length_cons, List.length_singleton] at hfuel
    obtain ⟨fuel, rfl⟩ : ∃ k, fuel = k + 2 := ⟨fuel - 2, by omega⟩
    rw [hreread]
    exact value_bracket items_end
  | cons j js =>
    obtain ⟨hj, hjs⟩ := List.forall_mem_cons.mp h
    obtain ⟨c, cs, hcs, hc⟩ := hj.begins
    have hchars : chars (.arr (j :: js)) = '[' :: (j.chars ++ (itemChars js ++ [']'])) := by
      simp [chars]
    refine ⟨⟨'[', _, hchars, rfl, by decide⟩, ?_⟩
    intro fuel rest hrest hfuel
    simp only [hchars, List.length_cons, List.length_append] at hfuel
    obtain ⟨fuel, rfl⟩ : ∃ k, fuel = k + 2 := ⟨fuel - 2, by omega⟩
    have hread : value fuel depth (j.chars ++ (itemChars js ++ ']' :: rest)) =
        .ok (j.reread, itemChars js ++ ']' :: rest) := hj.reads (stops_itemChars js) (by omega)
    have hothers : items fuel depth false (itemChars js ++ ']' :: rest) =
        .ok (js.map reread, rest) := items_chars hjs (by omega)
    have htext : chars (.arr (j :: js)) ++ rest =
        '[' :: (j.chars ++ (itemChars js ++ ']' :: rest)) := by simp [hchars]
    rw [htext, hreread, hcs, List.cons_append]
    rw [hcs, List.cons_append] at hread
    exact value_bracket (items_first hc hread hothers)

theorem stops_memberChars (ms : Members Json) : Stops (memberChars ms ++ '\x7d' :: rest) := by
  cases ms with
  | nil => exact stops_cons rfl (by decide) rfl
  | cons m ms => exact stops_cons rfl (by decide) rfl

theorem member_chars (name : String) {j : Json} {ms ms' : Members Json} (hj : ReadsBack depth j)
    (hfuel : 2 * j.chars.length ≤ fuel)
    (hothers : members fuel depth false (memberChars ms ++ '\x7d' :: rest) = .ok (ms', rest)) :
    ∃ cs, strChars name ++ ':' :: (j.chars ++ (memberChars ms ++ '\x7d' :: rest)) = '"' :: cs ∧
      member (fuel + 1) depth ('"' :: cs) = .ok ((name, j.reread) :: ms', rest) := by
  obtain ⟨cs, hcs, hname⟩ :=
    text_strChars name (':' :: (j.chars ++ (memberChars ms ++ '\x7d' :: rest)))
  exact ⟨cs, hcs, member_quote hname (hj.reads (stops_memberChars ms) hfuel) hothers⟩

theorem members_chars {ms : Members Json} (h : ∀ e ∈ ms, ReadsBack depth e.2)
    (hfuel : 2 * (memberChars ms).length < fuel) :
    members fuel depth false (memberChars ms ++ '\x7d' :: rest) =
      .ok (ms.map fun e => (e.1, reread e.2), rest) := by
  induction ms generalizing fuel with
  | nil =>
    obtain ⟨fuel, rfl⟩ : ∃ k, fuel = k + 1 := ⟨fuel - 1, by omega⟩
    exact members_end
  | cons m ms ih =>
    obtain ⟨name, j⟩ := m
    obtain ⟨hj, hms⟩ := List.forall_mem_cons.mp h
    have hj : ReadsBack depth j := hj
    have hchars : memberChars ((name, j) :: ms) ++ '\x7d' :: rest =
        ',' :: (strChars name ++ ':' :: (j.chars ++ (memberChars ms ++ '\x7d' :: rest))) := by
      simp [memberChars]
    simp only [memberChars, List.length_cons, List.length_append] at hfuel
    obtain ⟨fuel, rfl⟩ : ∃ k, fuel = k + 2 := ⟨fuel - 2, by omega⟩
    have hothers : members fuel depth false (memberChars ms ++ '\x7d' :: rest) =
        .ok (ms.map fun e => (e.1, reread e.2), rest) := ih hms (by omega)
    obtain ⟨cs, hcs, hmember⟩ := member_chars name hj (by omega) hothers
    rw [hchars, hcs]
    exact members_comma hmember

theorem readsBack_obj {ms : Members Json} (h : ∀ e ∈ ms, ReadsBack depth e.2) :
    ReadsBack (depth + 1) (.obj ms) := by
  have hreread : reread (.obj ms) = ofMembers (ms.map fun e => (e.1, reread e.2)) := by rw [reread]
  cases ms with
  | nil =>
    refine ⟨⟨'\x7b', ['\x7d'], rfl, rfl, by decide⟩, ?_⟩
    intro fuel rest hrest hfuel
    rw [chars, List.length_cons, List.length_singleton] at hfuel
    obtain ⟨fuel, rfl⟩ : ∃ k, fuel = k + 2 := ⟨fuel - 2, by omega⟩
    rw [hreread]
    exact value_brace members_end
  | cons m ms =>
    obtain ⟨name, j⟩ := m
    obtain ⟨hj, hms⟩ := List.forall_mem_cons.mp h
    have hj : ReadsBack depth j := hj
    have hchars : chars (.obj ((name, j) :: ms)) =
        '\x7b' :: (strChars name ++ ':' :: (j.chars ++ (memberChars ms ++ ['\x7d']))) := by
      simp [chars]
    refine ⟨⟨'\x7b', _, hchars, rfl, by decide⟩, ?_⟩
    intro fuel rest hrest hfuel
    simp only [hchars, List.length_cons, List.length_append] at hfuel
    obtain ⟨fuel, rfl⟩ : ∃ k, fuel = k + 3 := ⟨fuel - 3, by omega⟩
    have hothers : members fuel depth false (memberChars ms ++ '\x7d' :: rest) =
        .ok (ms.map fun e => (e.1, reread e.2), rest) := members_chars hms (by omega)
    obtain ⟨cs, hcs, hmember⟩ := member_chars name hj (by omega) hothers
    have htext : chars (.obj ((name, j) :: ms)) ++ rest =
        '\x7b' :: (strChars name ++ ':' :: (j.chars ++ (memberChars ms ++ '\x7d' :: rest))) := by
      simp [hchars]
    rw [htext, hreread, hcs]
    exact value_brace (members_first hmember)

theorem Legible.readsBack {j : Json} (h : Legible depth j) : ReadsBack depth j := by
  induction h with
  | null => exact readsBack_word (.head _)
  | bool b =>
    cases b with
    | true => exact readsBack_word (.tail _ (.head _))
    | false => exact readsBack_word (.tail _ (.tail _ (.head _)))
  | int h => exact readsBack_int h
  | real h => exact readsBack_real h
  | str s => exact readsBack_str s
  | arr _ ih => exact readsBack_arr ih
  | obj _ ih => exact readsBack_obj ih

/-- The text of a legible value is read as a document. -/
theorem parse_render {j : Json} (h : Legible depthLimit j) : parse j.render = .ok j.reread := by
  have hread : value (3 * j.chars.length + 3) depthLimit j.chars = .ok (j.reread, []) := by
    have hfuel : 2 * j.chars.length ≤ 3 * j.chars.length + 3 := by omega
    have hreads := h.readsBack.reads stops_nil hfuel
    rwa [List.append_nil] at hreads
  have hdocument : document j.chars = .ok j.reread := by
    rw [document, hread]
    rfl
  rw [parse, render, String.toList_ofList, hdocument]

end BankReconciliation.Json
