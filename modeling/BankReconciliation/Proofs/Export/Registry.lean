import BankReconciliation.Export.Parser
import Mathlib.Tactic.Common

/-! What a registry finds, however the names of its parsers overlap: the parser that was registered
first of those that go by the name of the bank, and if there is none, the first one that supports
it. -/

namespace BankReconciliation

variable {α : Type} {P : α → Prop} {xs : List α} {x : α}

def IsFirst (P : α → Prop) (xs : List α) (x : α) : Prop :=
  ∃ before after, xs = before ++ x :: after ∧ P x ∧ ∀ y ∈ before, ¬ P y

theorem find?_eq_some_iff_isFirst {p : α → Bool} (hp : ∀ x, p x = true ↔ P x) :
    xs.find? p = some x ↔ IsFirst P xs x := by
  rw [List.find?_eq_some_iff_append, IsFirst, hp]
  constructor
  · rintro ⟨hx, before, after, hxs, hbefore⟩
    refine ⟨before, after, hxs, hx, fun y hy => ?_⟩
    rw [← hp, Bool.not_eq_true, ← Bool.not_eq_true']
    exact hbefore y hy
  · rintro ⟨before, after, hxs, hx, hbefore⟩
    refine ⟨hx, before, after, hxs, fun y hy => ?_⟩
    rw [Bool.not_eq_true', ← Bool.not_eq_true, hp]
    exact hbefore y hy

namespace Parser

variable {p : Parser} {bank : String}

/-- The code of the parser or one of its names has the normal form of the bank's name. -/
def Named (p : Parser) (bank : String) : Prop :=
  ∃ n ∈ p.code :: p.names, Text.normalForm n = Text.normalForm bank

instance (p : Parser) (bank : String) : Decidable (p.Named bank) := by
  unfold Named; infer_instance

theorem names?_iff : names? p.code p.names bank = true ↔ p.Named bank := by
  rw [names?, List.any_eq_true, Named]
  simp only [beq_iff_eq]

theorem contains_keys_iff : p.keys.contains (Text.normalForm bank) = true ↔ p.Named bank := by
  rw [List.contains_iff_mem, keys, List.mem_map, Named]

/-- The parser takes the files of the banks that it names, and no others. -/
def TakesNamed (p : Parser) : Prop := p.supports = names? p.code p.names

theorem TakesNamed.supports_iff (h : p.TakesNamed) : p.supports bank = true ↔ p.Named bank := by
  rw [h, names?_iff]

end Parser

namespace Registry

variable {r : Registry} {bank : String} {parsers : List Parser}

def registerAll (r : Registry) (ps : List Parser) : Registry := ps.foldl register r

/-- Gives a name to a parser unless it has an owner. -/
def claim (p : Parser) (owners : List (String × Parser)) (key : String) : List (String × Parser) :=
  if (owners.lookup key).isSome then owners else owners ++ [(key, p)]

theorem owners_register (r : Registry) (p : Parser) :
    (r.register p).owners = p.keys.foldl (claim p) r.owners := rfl

theorem lookup_claim (p : Parser) (owners : List (String × Parser)) (key name : String) :
    (claim p owners key).lookup name =
      (owners.lookup name).or (if name = key then some p else none) := by
  by_cases hname : name = key
  · subst hname
    rw [claim, if_pos rfl]
    cases howner : owners.lookup name with
    | some q => exact howner
    | none => simp [List.lookup_append, howner]
  · rw [claim, if_neg hname, Option.or_none]
    split
    · rfl
    · simp [List.lookup_append, List.lookup_cons, beq_eq_false_iff_ne.mpr hname]

theorem lookup_claims (p : Parser) (keys : List String) (owners : List (String × Parser))
    (name : String) : (keys.foldl (claim p) owners).lookup name =
      (owners.lookup name).or (if keys.contains name then some p else none) := by
  induction keys generalizing owners with
  | nil => simp
  | cons key keys ih =>
    rw [List.foldl_cons, ih, lookup_claim, Option.or_assoc, List.contains_cons]
    by_cases hname : name = key <;> simp [hname]

/-- Each name belongs to the first parser that claims it. -/
def OwnedByFirst (r : Registry) : Prop :=
  ∀ name, r.owners.lookup name = r.parsers.find? (·.keys.contains name)

theorem ownedByFirst_empty : OwnedByFirst empty := fun _ => rfl

theorem OwnedByFirst.register (h : r.OwnedByFirst) (p : Parser) : (r.register p).OwnedByFirst := by
  intro name
  have hparsers : (r.register p).parsers = r.parsers ++ [p] := rfl
  rw [owners_register, lookup_claims, h name, hparsers, List.find?_append]
  simp [List.find?_singleton]

theorem OwnedByFirst.registerAll (h : r.OwnedByFirst) (ps : List Parser) :
    (r.registerAll ps).OwnedByFirst := by
  induction ps generalizing r with
  | nil => exact h
  | cons p ps ih => exact ih (h.register p)

theorem parsers_registerAll (r : Registry) (ps : List Parser) :
    (r.registerAll ps).parsers = r.parsers ++ ps := by
  induction ps generalizing r with
  | nil => exact (List.append_nil _).symm
  | cons p ps ih => exact (ih (r.register p)).trans (List.append_assoc _ _ _)

def search (parsers : List Parser) (bank : String) : Except ExportProblem Parser :=
  match parsers.find? (·.supports bank) with
  | some p => .ok p
  | none => .error (.unsupportedBank bank)

/-- The registry finds the parsers in the order in which they stand in the list. -/
structure Searches (r : Registry) (parsers : List Parser) : Prop where
  resolve_of_named : ∀ bank p, IsFirst (·.Named bank) parsers p → r.resolve bank = .ok p
  resolve_of_supports : ∀ bank p, (∀ q ∈ parsers, ¬ q.Named bank) →
    IsFirst (·.supports bank = true) parsers p → r.resolve bank = .ok p
  resolve_of_unknown : ∀ bank, (∀ p ∈ parsers, ¬ p.Named bank ∧ p.supports bank = false) →
    r.resolve bank = .error (.unsupportedBank bank)
  isSupported_iff : ∀ bank,
    r.isSupported bank = true ↔ ∃ p ∈ parsers, p.Named bank ∨ p.supports bank = true
  /-- With parsers that take the files of the banks that they name, a search comes to the same. -/
  resolve_eq_search : (∀ p ∈ parsers, p.TakesNamed) →
    ∀ bank, r.resolve bank = search parsers bank
  /-- Such parsers are found by the normal form of a name alone. -/
  resolve_congr : (∀ p ∈ parsers, p.TakesNamed) → ∀ bank bank',
    Text.normalForm bank = Text.normalForm bank' →
      (r.resolve bank).toOption = (r.resolve bank').toOption

theorem OwnedByFirst.resolve_eq (h : r.OwnedByFirst) (bank : String) : r.resolve bank =
    match r.parsers.find? (·.keys.contains (Text.normalForm bank)) with
    | some p => .ok p
    | none => search r.parsers bank := by
  rw [resolve, h]
  rfl

theorem find?_keys_eq_none_iff :
    parsers.find? (·.keys.contains (Text.normalForm bank)) = none ↔
      ∀ p ∈ parsers, ¬ p.Named bank := by
  rw [List.find?_eq_none]
  simp only [Parser.contains_keys_iff]

theorem OwnedByFirst.isSupported_iff (h : r.OwnedByFirst) : r.isSupported bank = true ↔
    ∃ p ∈ r.parsers, p.Named bank ∨ p.supports bank = true := by
  have hfound : r.isSupported bank =
      ((r.parsers.find? (·.keys.contains (Text.normalForm bank))).isSome ||
        (r.parsers.find? (·.supports bank)).isSome) := by
    rw [isSupported, h.resolve_eq, search]
    cases r.parsers.find? (·.keys.contains (Text.normalForm bank)) <;>
      cases r.parsers.find? (·.supports bank) <;> rfl
  rw [hfound, Bool.or_eq_true, List.find?_isSome, List.find?_isSome, ← exists_or]
  simp only [Parser.contains_keys_iff, and_or_left]

theorem OwnedByFirst.resolve_eq_search (h : r.OwnedByFirst) (hall : ∀ p ∈ r.parsers, p.TakesNamed)
    (bank : String) : r.resolve bank = search r.parsers bank := by
  have hsame : r.parsers.find? (·.keys.contains (Text.normalForm bank)) =
      r.parsers.find? (·.supports bank) := by
    rw [← List.head?_filter, ← List.head?_filter]
    refine congrArg List.head? (List.filter_congr fun p hp => ?_)
    rw [Bool.eq_iff_iff, Parser.contains_keys_iff, (hall p hp).supports_iff]
  rw [h.resolve_eq, hsame, search]
  cases r.parsers.find? (·.supports bank) <;> rfl

theorem OwnedByFirst.resolve_congr (h : r.OwnedByFirst) (hall : ∀ p ∈ r.parsers, p.TakesNamed)
    {bank bank' : String} (hbank : Text.normalForm bank = Text.normalForm bank') :
    (r.resolve bank).toOption = (r.resolve bank').toOption := by
  have hsupports : ∀ p ∈ r.parsers, p.supports bank = p.supports bank' := by
    intro p hp
    rw [hall p hp, Parser.names?, Parser.names?, hbank]
  rw [h.resolve_eq_search hall, h.resolve_eq_search hall, search, search, ← List.head?_filter,
    List.filter_congr hsupports, List.head?_filter]
  cases r.parsers.find? (·.supports bank') <;> rfl

theorem OwnedByFirst.searches (h : r.OwnedByFirst) : Searches r r.parsers where
  resolve_of_named bank p hp := by
    rw [h.resolve_eq, (find?_eq_some_iff_isFirst fun _ => Parser.contains_keys_iff).mpr hp]
  resolve_of_supports bank p hnone hp := by
    rw [h.resolve_eq, find?_keys_eq_none_iff.mpr hnone, search,
      (find?_eq_some_iff_isFirst fun _ => Iff.rfl).mpr hp]
  resolve_of_unknown bank hnone := by
    have hsupports : r.parsers.find? (·.supports bank) = none :=
      List.find?_eq_none.mpr fun p hp => Bool.eq_false_iff.mp (hnone p hp).2
    rw [h.resolve_eq, find?_keys_eq_none_iff.mpr fun p hp => (hnone p hp).1, search, hsupports]
  isSupported_iff _ := h.isSupported_iff
  resolve_eq_search hall := h.resolve_eq_search hall
  resolve_congr hall _ _ hbank := h.resolve_congr hall hbank

/-- Whatever parsers are registered, with whatever names, the registry finds them in the order of
their registration. In the registry that is given, the parser of Banco do Brasil comes first. -/
theorem searches_registerAll (ps : List Parser) :
    Searches (empty.registerAll ps) ps ∧
      Searches (default.registerAll ps) (.delimited .bancoDoBrasil :: ps) := by
  have hempty := (ownedByFirst_empty.registerAll ps).searches
  have hdefault :=
    ((ownedByFirst_empty.register (.delimited .bancoDoBrasil)).registerAll ps).searches
  rw [parsers_registerAll] at hempty hdefault
  exact ⟨hempty, hdefault⟩

end Registry

namespace Sample

def group : Parser where
  code := "SICREDI"
  names := []
  supports bank := Text.normalForm bank |>.startsWith "SICREDI"
  parse _ _ _ := .ok []

def rival : Parser where
  code := "ITAU"
  names := ["banco  do brasil", "Itaú Unibanco"]
  supports := Parser.names? "ITAU" ["banco  do brasil", "Itaú Unibanco"]
  parse _ _ _ := .ok []

end Sample

namespace Registry

/-- Of two parsers of one name the earlier is found, a name comes before what a parser supports, and
then there is what the others support. -/
theorem searches_registerAll_rival :
    let r := default.registerAll [Sample.group, Sample.rival]
    r.resolve "Banco do Brasil" = .ok (.delimited .bancoDoBrasil) ∧
      r.resolve " itaú  unibanco" = .ok Sample.rival ∧
      r.resolve "Sicredi Pioneira" = .ok Sample.group ∧
      r.resolve "Bradesco" = .error (.unsupportedBank "Bradesco") := by
  have h := (searches_registerAll [Sample.group, Sample.rival]).2
  refine ⟨h.resolve_of_named _ _ ⟨[], _, rfl, by decide +kernel, fun _ hy => nomatch hy⟩,
    h.resolve_of_named _ _ ⟨[_, _], _, rfl, by decide +kernel, by decide +kernel⟩,
    h.resolve_of_supports _ _ (by decide +kernel)
      ⟨[_], _, rfl, by decide +kernel, by decide +kernel⟩,
    h.resolve_of_unknown _ (by decide +kernel)⟩

end Registry

end BankReconciliation
