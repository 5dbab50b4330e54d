import BankReconciliation.Settings.Toml.Quotation
import BankReconciliation.Settings.Toml.Value

/-! Tables of TOML and the rules by which keys and headers add to them. A table is defined once, by
its header, by keys with points in one other table, or in one line. -/

namespace BankReconciliation.Toml

inductive Origin
  /-- It has a header of its own, or is the whole document. -/
  | header
  /-- A header deeper down needs it. -/
  | deeperHeader
  /-- A key with points needs it. -/
  | dottedKey
deriving DecidableEq

mutual

inductive Item where
  | value (v : Value)
  | table (t : Table)
  /-- A list of tables; only its last one can still change. -/
  | tables (last : Table)

inductive Table where
  | mk (origin : Origin) (entries : List (String × Item))

end

inductive Way
  | header | pair | inlinePair
deriving DecidableEq

def Way.origin : Way → Origin
  | .header => .deeperHeader
  | .pair | .inlinePair => .dottedKey

def Item.setting : Item → SettingValue
  | .value v => v.setting
  | .table _ => .table
  | .tables _ => .sequence

namespace Table

def origin : Table → Origin
  | mk origin _ => origin

def entries : Table → List (String × Item)
  | mk _ entries => entries

def empty (origin : Origin) : Table := mk origin []

def get? (t : Table) (name : String) : Option Item := t.entries.lookup name

def set (t : Table) (name : String) (item : Item) : Table :=
  mk t.origin ((t.entries.filter fun (n, _) => n != name) ++ [(name, item)])

/-- The table under the next key of a path; one that is missing is made. `passed` holds the keys
before. Pairs cannot add to tables that are defined elsewhere. -/
def child (way : Way) (passed : List String) (t : Table) (name : String) : Except Cause Table :=
  match t.get? name with
  | none => .ok (empty way.origin)
  | some (.value v) =>
    if way = .inlinePair ∧ v = .plain .table then .error (.duplicate name none)
    else .error (.notTable (passed ++ [name]) v.kind)
  | some (.tables last) => .ok last
  | some (.table t) =>
    if way ≠ .header ∧ t.origin = .header then .error (.duplicate name none) else .ok t

def reach (way : Way) : (passed path : List String) → Table → Except Cause Table
  | _, [], t => .ok t
  | passed, name :: path, t => do
    reach way (passed ++ [name]) path (← t.child way passed name)

def alter (way : Way) (change : Table → Except Cause Table) :
    (passed path : List String) → Table → Except Cause Table
  | _, [], t => change t
  | passed, name :: path, t => do
    let changed ← alter way change (passed ++ [name]) path (← t.child way passed name)
    match t.get? name with
    | some (.tables _) => .ok (t.set name (.tables changed))
    | _ => .ok (t.set name (.table changed))

/-- Adds a value under a key. Keys with points do not add to tables that headers made. `place` holds
the keys of the table for complaints. -/
def add (way : Way) (place : Option (List String)) (t : Table) (key : List String) (v : Value) :
    Except Cause Table :=
  let name := key.getLast?.getD ""
  let path := key.dropLast
  alter way (fun t =>
    if path ≠ [] ∧ t.origin ≠ .dottedKey then .error (.duplicate name none)
    else if (t.get? name).isSome then .error (.duplicate name place)
    else .ok (t.set name (.value v))) [] path t

end Table

/-- The text of a key in a complaint: bare if it can be, else between the quotes that need no
escapes. -/
def keyText (name : String) : String :=
  let cs := name.toList
  let plain := cs.all fun c => isPrintable c
  if cs ≠ [] ∧ cs.all isBareChar then name
  else if plain ∧ !cs.contains '"' ∧ !cs.contains '\\' ∧ !cs.contains '\t' then s!"\"{name}\""
  else if plain ∧ !cs.contains '\'' then s!"'{name}'"
  else String.ofList ('"' :: cs.flatMap escaped ++ ['"'])
where
  escaped (c : Char) : List Char :=
    match c with
    | '\x08' => ['\\', 'b']
    | '\t' => ['\\', 't']
    | '\n' => ['\\', 'n']
    | '\x0c' => ['\\', 'f']
    | '\r' => ['\\', 'r']
    | '"' => ['\\', '"']
    | '\\' => ['\\', '\\']
    | c => if isPrintable c then [c]
      else ['\\', 'u', '0', '0', Nat.digitChar (c.toNat / 16),
        (Nat.digitChar (c.toNat % 16)).toUpper]

/-- A document as it is read. The table that pairs are added to is held apart, with its keys. -/
structure Document where
  root : Table := .empty .header
  current : Table := .empty .header
  header : List String := []
  /-- Whether the current table is the next one of a list. -/
  listed : Bool := false

namespace Document

def whole (d : Document) : Except Cause Table :=
  match d.header.getLast? with
  | none => .ok d.current
  | some name =>
    let item : Item := if d.listed then .tables d.current else .table d.current
    d.root.alter .header (fun t => .ok (t.set name item)) [] d.header.dropLast

def add (d : Document) (key : List String) (v : Value) : Except Cause Document := do
  return { d with current := ← d.current.add .pair (some d.header) key v }

/-- Opens the table of a header. It must be new, except that it may have tables in it already, or
the next one of a list. -/
def enter (d : Document) (header : List String) (listed : Bool) : Except Cause Document := do
  let root ← d.whole
  let name := header.getLast?.getD ""
  let parent ← root.reach .header [] header.dropLast
  match parent.get? name, listed with
  | none, _ => return { root, current := .empty .header, header, listed }
  | some (.tables _), true => return { root, current := .empty .header, header, listed }
  | some (.table t), false =>
    if t.origin = .deeperHeader then
      return { root, current := .mk .header t.entries, header, listed }
    else throw (.duplicate (keyText name) (some header.dropLast))
  | _, _ => throw (.duplicate (keyText name) (some header.dropLast))

end Document

end BankReconciliation.Toml
