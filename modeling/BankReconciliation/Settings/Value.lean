import BankReconciliation.Binary64
import BankReconciliation.Settings.Problem

/-! Values of settings, with the place where each was set, and their lenient reading as numbers and
texts. -/

namespace BankReconciliation

inductive SettingValue
  | text (s : String)
  | whole (n : Int)
  | float (negative : Bool) (magnitude : Binary64)
  | infinite (negative : Bool)
  | notNumber
  | bool (b : Bool)
  | unit
  | sequence
  | table
deriving DecidableEq

namespace SettingValue

def fractionText (negative : Bool) (b : Binary64) : String :=
  String.ofList (Decimal.signed negative b.positional)

def infiniteText (negative : Bool) : String := if negative then "-inf" else "inf"

def notNumberText : String := "NaN"

def found : SettingValue → Found
  | .text s => .text s
  | .whole n => .whole n
  | .float negative magnitude => .float (fractionText negative magnitude)
  | .infinite negative => .float (infiniteText negative)
  | .notNumber => .float notNumberText
  | .bool b => .bool b
  | .unit => .unit
  | .sequence => .sequence
  | .table => .table

end SettingValue

structure Setting where
  value : SettingValue
  /-- Where it was set; a table that was made for its parts was set nowhere. -/
  source : Option String
deriving DecidableEq

namespace Setting

def asciiLower (s : String) : String := s.map Char.toLower

def greatest : Nat := twoTo 64 - 1

/-- The whole number nearest to a fraction, a half away from zero, and at most 64 bits. -/
def roundFraction (negative : Bool) (b : Binary64) : Nat :=
  if negative then 0 else min ((2 * b.numerator + b.denominator) / (2 * b.denominator)) greatest

def readBounded? (bound : Nat) (cs : List Char) : Option Nat :=
  let ds := match cs with
    | '+' :: ds => ds
    | ds => ds
  (Text.readDigits? ds).filter (· < bound)

/-- A switch word or a number of at most 64 bits. -/
def readNumber? (s : String) : Option Nat :=
  let word := asciiLower s
  if ["true", "on", "yes"].contains word then some 1
  else if ["false", "off", "no"].contains word then some 0
  else readBounded? (twoTo 64) s.toList

def wrong {α : Type} (s : Setting) (key expected : String) : Except SettingsProblem α :=
  .error (.wrongType s.value.found expected key s.source)

def toNat (key : String) (s : Setting) : Except SettingsProblem Nat :=
  match s.value with
  | .text t =>
    match readNumber? t with
    | some n => .ok n
    | none => s.wrong key "an integer"
  | .whole n => if 0 ≤ n then .ok n.toNat else s.wrong key "an unsigned 64 bit or less integer"
  | .float negative magnitude => .ok (roundFraction negative magnitude)
  | .infinite negative => .ok (if negative then 0 else greatest)
  | .notNumber => .ok 0
  | .bool b => .ok b.toNat
  | .unit | .sequence | .table => s.wrong key "an integer"

/-- A number of 16 bits. That a number is too large is said without the place where it was set. -/
def toPort (key : String) (s : Setting) : Except SettingsProblem Nat := do
  let n ← s.toNat key
  if n < twoTo 16 then return n
  else throw (.wrongType (.unsigned n) "an unsigned 16 bit integer" key none)

def toText (key : String) (s : Setting) : Except SettingsProblem String :=
  match s.value with
  | .text t => .ok t
  | .whole n => .ok (toString n)
  | .float negative magnitude => .ok (SettingValue.fractionText negative magnitude)
  | .infinite negative => .ok (SettingValue.infiniteText negative)
  | .notNumber => .ok SettingValue.notNumberText
  | .bool b => .ok (if b then "true" else "false")
  | .unit | .sequence | .table => s.wrong key "a string"

end Setting

abbrev SettingTable := Members Setting

namespace SettingTable

inductive KeyShape
  | single
  | child
  | item
deriving DecidableEq

/-- Parts of a key may hold spaces. -/
def isKeyChar (c : Char) : Bool := c.isAlphanum || c == '_' || c == '-' || c == ' '

def isIndexSpace (c : Char) : Bool := c == ' ' || c == '\t'

/-- The text after the index of an item and its closing bracket. An index has at most 64 bits with
its sign, and spaces may stand around it. -/
def afterIndex? (cs : List Char) : Option (List Char) :=
  let cs := cs.dropWhile isIndexSpace
  let negative := cs.head? == some '-'
  let cs := if negative then cs.tail else cs
  match Text.readDigits? (cs.takeWhile Char.isDigit) with
  | none => none
  | some n =>
    if twoTo 63 < n ∨ (n = twoTo 63 ∧ !negative) then none
    else match (cs.dropWhile Char.isDigit).dropWhile isIndexSpace with
      | ']' :: rest => some rest
      | _ => none

def isTail : (fuel : Nat) → List Char → Bool
  | 0, _ => false
  | _, [] => true
  | fuel + 1, '.' :: cs =>
    let part := cs.takeWhile isKeyChar
    !part.isEmpty && isTail fuel (cs.drop part.length)
  | fuel + 1, '[' :: cs =>
    match afterIndex? cs with
    | some rest => isTail fuel rest
    | none => false
  | _, _ => false

/-- The first part of a key and what it sets. A key that has no parts is taken whole. -/
def splitKey (key : String) : String × KeyShape :=
  let cs := key.toList
  let first := cs.takeWhile isKeyChar
  let rest := cs.drop first.length
  if first.isEmpty || !isTail (cs.length + 1) rest then (key, .single)
  else match rest with
    | [] => (key, .single)
    | '[' :: _ => (String.ofList first, .item)
    | _ => (String.ofList first, .child)

/-- Sets a value under a key. A key with parts makes a table or a list of what stands there. -/
def put (table : SettingTable) (key : String) (setting : Setting) : SettingTable :=
  match splitKey key with
  | (name, .single) => Members.set name setting table
  | (name, .child) =>
    match table.lookup name with
    | some ⟨.table, _⟩ => table
    | _ => Members.set name ⟨.table, none⟩ table
  | (name, .item) =>
    match table.lookup name with
    | some ⟨.sequence, _⟩ => table
    | _ => Members.set name ⟨.sequence, none⟩ table

def putAll (table : SettingTable) (entries : List (String × Setting)) : SettingTable :=
  entries.foldl (fun t (key, setting) => t.put key setting) table

end SettingTable

end BankReconciliation
