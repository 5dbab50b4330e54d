import BankReconciliation.Binary64

/-! JSON values. Numbers are whole numbers of at most 64 bits or binary fractions; the members of an
object are kept in ascending order of their names, and a later member replaces an earlier one of the
same name. -/

namespace BankReconciliation

/-- Entries with their names in ascending order. -/
abbrev Members (α : Type) := List (String × α)

namespace Members

def set {α : Type} (name : String) (value : α) : Members α → Members α
  | [] => [(name, value)]
  | (n, v) :: rest =>
    if name < n then (name, value) :: (n, v) :: rest
    else if name = n then (name, value) :: rest
    else (n, v) :: set name value rest

/-- The last entry of each name. -/
def ofList {α : Type} (entries : List (String × α)) : Members α :=
  entries.foldl (fun m (name, value) => m.set name value) []

@[simp] theorem set_nil {α : Type} (name : String) (value : α) :
    set name value [] = [(name, value)] := rfl

end Members

inductive Json where
  | null
  | bool (b : Bool)
  /-- A number from `-2 ^ 63` to `2 ^ 64 - 1`. -/
  | int (n : Int)
  | real (negative : Bool) (magnitude : Binary64)
  | str (s : String)
  | arr (items : List Json)
  | obj (members : List (String × Json))
deriving Inhabited

namespace Json

def smallest : Int := -(twoTo 63)
def largest : Int := twoTo 64 - 1

/-- An object with the given members, of which the last of each name counts. -/
def ofMembers (members : List (String × Json)) : Json := .obj (Members.ofList members)

def ofNat (n : Nat) : Json := .int n

def ofOption : Option String → Json
  | some s => .str s
  | none => .null

def get? (j : Json) (name : String) : Option Json :=
  match j with
  | .obj members => members.lookup name
  | _ => none

/-- The member of an object, unless it is `null`. -/
def given? (j : Json) (name : String) : Option Json :=
  match j.get? name with
  | some .null => none
  | found => found

def str? : Json → Option String
  | .str s => some s
  | _ => none

def int? : Json → Option Int
  | .int n => some n
  | _ => none

def bool? : Json → Option Bool
  | .bool b => some b
  | _ => none

def arr? : Json → Option (List Json)
  | .arr items => some items
  | _ => none

def obj? : Json → Option (Members Json)
  | .obj members => some members
  | _ => none

end Json

end BankReconciliation
