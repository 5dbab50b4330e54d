import BankReconciliation.Text.Digits

/-! Decimal numbers of bounded size: a sign, a mantissa of 96 bits and a scale of at most 28
decimal places. The scale is part of the value's text, and a zero may carry a sign. -/

namespace BankReconciliation

/-- The quotient rounded to the nearest whole number, a tie to the even neighbour. -/
def divHalfEven (n d : Nat) : Nat :=
  let q := n / d
  let r := 2 * (n % d)
  if r < d then q else if r = d then q + q % 2 else q + 1

/-- The number `±mantissa / 10 ^ scale`. -/
structure Decimal where
  negative : Bool
  mantissa : Nat
  scale : Nat
  mantissa_lt : mantissa < twoTo 96
  scale_le : scale ≤ 28
deriving DecidableEq

namespace Decimal

def zero : Decimal := ⟨false, 0, 0, by decide, by decide⟩

instance : Inhabited Decimal := ⟨zero⟩

/-- The decimal with the given parts, if they are in range. A zero made this way has no sign. -/
def ofParts? (negative : Bool) (mantissa scale : Nat) : Option Decimal :=
  if h : mantissa < twoTo 96 ∧ scale ≤ 28 then
    some ⟨negative && mantissa != 0, mantissa, scale, h.1, h.2⟩
  else none

def ofInt? (n : Int) : Option Decimal := ofParts? (decide (n < 0)) n.natAbs 0

def isZero (d : Decimal) : Bool := d.mantissa == 0

def abs (d : Decimal) : Decimal := { d with negative := false }

/-- Turns the sign, that of a zero included. -/
def neg (d : Decimal) : Decimal := { d with negative := !d.negative }

def units (d : Decimal) : Int := if d.negative then -(d.mantissa : Int) else d.mantissa

/-- Numerical equality, whatever the scales and the signs of zeros. -/
def sameValue (a b : Decimal) : Bool := a.units * 10 ^ b.scale == b.units * 10 ^ a.scale

@[simp] theorem abs_negative (d : Decimal) : d.abs.negative = false := rfl
@[simp] theorem abs_mantissa (d : Decimal) : d.abs.mantissa = d.mantissa := rfl
@[simp] theorem abs_scale (d : Decimal) : d.abs.scale = d.scale := rfl
@[simp] theorem abs_abs (d : Decimal) : d.abs.abs = d.abs := rfl

/-- Digits with a point before the last `places` of them; at least one digit stands before it. -/
def pointed (places mantissa : Nat) : List Char :=
  let ds := Text.padded (places + 1) mantissa
  if places = 0 then ds
  else ds.take (ds.length - places) ++ '.' :: ds.drop (ds.length - places)

def signed (negative : Bool) (cs : List Char) : List Char := if negative then '-' :: cs else cs

/-- The plain text of a decimal: all its places, and the sign also of a negative zero. -/
def toChars (d : Decimal) : List Char := signed d.negative (pointed d.scale d.mantissa)

def render (d : Decimal) : String := String.ofList d.toChars

def cents (d : Decimal) : Nat :=
  if d.scale ≤ 2 then d.mantissa * 10 ^ (2 - d.scale)
  else divHalfEven d.mantissa (10 ^ (d.scale - 2))

/-- The text with two places. A number that is rounded away to zero loses its sign. -/
def centsChars (d : Decimal) : List Char :=
  signed (d.negative && (decide (d.scale ≤ 2) || d.cents != 0)) (pointed 2 d.cents)

end Decimal

end BankReconciliation
