/-! Bounds of numbers with a fixed number of bits, and the digits of natural numbers: printing,
padding and reading. In this namespace `^` on natural and whole numbers is the core library's, also
where other libraries bring powers of their own. -/

namespace BankReconciliation

attribute [scoped instance (2000)] instPowNat

abbrev twoTo (k : Nat) : Nat := 2 ^ k

/-- The number in 32 bits with a sign, if it fits. -/
def int32OfInt? (n : Int) : Option Int32 :=
  if -(twoTo 31 : Int) ≤ n ∧ n < twoTo 31 then some (.ofInt n) else none

namespace Text

def digits (n : Nat) : List Char := Nat.toDigits 10 n

/-- The digits of `n`, with zeros in front up to the given width. -/
def padded (width n : Nat) : List Char :=
  List.replicate (width - (digits n).length) '0' ++ digits n

def digitValue? (c : Char) : Option Nat := if c.isDigit then some (c.toNat - '0'.toNat) else none

def hexValue? (c : Char) : Option Nat :=
  if c.isDigit then some (c.toNat - '0'.toNat)
  else if 'a' ≤ c ∧ c ≤ 'f' then some (c.toNat - 'a'.toNat + 10)
  else if 'A' ≤ c ∧ c ≤ 'F' then some (c.toNat - 'A'.toNat + 10)
  else none

def digitsValue (cs : List Char) : Nat := Nat.ofDigitChars 10 cs 0

/-- Reads a number made of one digit or more and of nothing else. -/
def readDigits? (cs : List Char) : Option Nat :=
  if cs ≠ [] ∧ cs.all Char.isDigit then some (digitsValue cs) else none

@[simp] theorem digitsValue_digits (n : Nat) : digitsValue (digits n) = n :=
  Nat.ofDigitChars_toDigits (by decide) (by decide)

theorem isDigit_of_mem_digits {n : Nat} {c : Char} (h : c ∈ digits n) : c.isDigit = true :=
  Nat.isDigit_of_mem_toDigits (by decide) (by decide) h

end Text

end BankReconciliation
