import BankReconciliation.Text.Digits

/-! Identifiers of 128 bits, their written forms, and their order. -/

namespace BankReconciliation

structure Uuid where
  value : Nat
  value_lt : value < twoTo 128
deriving DecidableEq

namespace Uuid

def ofNat (n : Nat) : Uuid := ⟨n % twoTo 128, Nat.mod_lt _ (by decide)⟩

instance : Inhabited Uuid := ⟨ofNat 0⟩

/-- Identifiers are ordered as their sixteen bytes are. -/
instance : LT Uuid := ⟨fun a b => a.value < b.value⟩
instance : LE Uuid := ⟨fun a b => a.value ≤ b.value⟩
instance (a b : Uuid) : Decidable (a < b) := inferInstanceAs (Decidable (a.value < b.value))
instance (a b : Uuid) : Decidable (a ≤ b) := inferInstanceAs (Decidable (a.value ≤ b.value))

def hexDigits : (width : Nat) → Nat → List Char
  | 0, _ => []
  | k + 1, n => hexDigits k (n / 16) ++ [Nat.digitChar (n % 16)]

def toChars (u : Uuid) : List Char :=
  hexDigits 8 (u.value / twoTo 96) ++ '-' :: hexDigits 4 (u.value / twoTo 80) ++
    '-' :: hexDigits 4 (u.value / twoTo 64) ++ '-' :: hexDigits 4 (u.value / twoTo 48) ++
    '-' :: hexDigits 12 u.value

def render (u : Uuid) : String := String.ofList u.toChars

def readHex? (cs : List Char) : Option Nat :=
  cs.foldlM (fun n c => (Text.hexValue? c).map (n * 16 + ·)) 0

/-- Takes out the four hyphens of the hyphenated form, which have fixed places. -/
def dropHyphens? (cs : List Char) : Option (List Char) :=
  if cs.length = 36 ∧ cs[8]? = some '-' ∧ cs[13]? = some '-' ∧ cs[18]? = some '-' ∧
      cs[23]? = some '-' then
    some (cs.take 8 ++ (cs.drop 9).take 4 ++ (cs.drop 14).take 4 ++ (cs.drop 19).take 4 ++
      cs.drop 24)
  else none

def urnMark : List Char := "urn:uuid:".toList

/-- The 32 digits of a written identifier: bare, hyphenated, in braces, or as a URN, whose mark is
read without regard to case. -/
def digits? (cs : List Char) : Option (List Char) :=
  if cs.length = 32 then some cs
  else if cs.length = 38 ∧ cs.head? = some '\x7b' ∧ cs.getLast? = some '\x7d' then
    dropHyphens? cs.tail.dropLast
  else if cs.length = 45 ∧ (cs.take 9).map Char.toLower = urnMark then dropHyphens? (cs.drop 9)
  else dropHyphens? cs

def read? (cs : List Char) : Option Uuid := do
  let n ← readHex? (← digits? cs)
  if h : n < twoTo 128 then some ⟨n, h⟩ else none

def ofString? (s : String) : Option Uuid := read? s.toList

end Uuid

end BankReconciliation
