import BankReconciliation.Decimal.Basic

/-! Magnitudes of binary floating-point numbers of 64 bits, with exact arithmetic that is rounded
once, and the shortest decimal that reads back as such a number. -/

namespace BankReconciliation

/-- The number `mantissa * 2 ^ exponent`, with `mantissa < 2 ^ 53` and `-1074 ≤ exponent ≤ 971`. -/
structure Binary64 where
  mantissa : Nat
  exponent : Int
deriving DecidableEq

namespace Binary64

def zero : Binary64 := ⟨0, -1074⟩

instance : Inhabited Binary64 := ⟨zero⟩

/-- The value is `numerator / denominator`. -/
def numerator (b : Binary64) : Nat := b.mantissa * 2 ^ b.exponent.toNat

def denominator (b : Binary64) : Nat := 2 ^ (-b.exponent).toNat

def isZero (b : Binary64) : Bool := b.mantissa == 0

def scaled (n d : Nat) (e : Int) : Nat :=
  if 0 ≤ e then divHalfEven n (d * 2 ^ e.toNat) else divHalfEven (n * 2 ^ (-e).toNat) d

def exponentOf (n d : Nat) : Int :=
  let e : Int := (n.log2 : Int) - d.log2 - 52
  let low := if 0 ≤ e then n < d * 2 ^ (e.toNat + 52) else n * 2 ^ (-e).toNat < d * twoTo 52
  max (-1074) (if low then e - 1 else e)

/-- The number nearest to `n / d`, a tie to the even mantissa; none when it is past the range. -/
def nearest? (n d : Nat) : Option Binary64 :=
  if n = 0 then some zero
  else
    let e := exponentOf n d
    let m := scaled n d e
    let b : Binary64 := if m = twoTo 53 then ⟨twoTo 52, e + 1⟩ else ⟨m, e⟩
    if 971 < b.exponent then none else some b

def times? (a b : Binary64) : Option Binary64 :=
  nearest? (a.numerator * b.numerator) (a.denominator * b.denominator)

def over? (a b : Binary64) : Option Binary64 :=
  nearest? (a.numerator * b.denominator) (a.denominator * b.numerator)

def ofDecimal? (mantissa : Nat) (exponent : Int) : Option Binary64 :=
  if mantissa = 0 then some zero
  else if 400 < exponent then none
  else if exponent < -(400 + (Text.digits mantissa).length : Int) then some zero
  else if 0 ≤ exponent then nearest? (mantissa * 10 ^ exponent.toNat) 1
  else nearest? mantissa (10 ^ (-exponent).toNat)

def largestPower : Nat := 308

/-- Divides by a power of ten in steps; three steps take every number below `2 ^ 64` to zero. -/
def divideByPower? : (steps : Nat) → Binary64 → (power : Nat) → Option Binary64
  | 0, _, _ => some zero
  | k + 1, b, power =>
    if power ≤ largestPower then (nearest? (10 ^ power) 1).bind b.over?
    else ((nearest? (10 ^ largestPower) 1).bind b.over?).bind fun b =>
      divideByPower? k b (power - largestPower)

/-- Digits and a power of ten, each rounded to the nearest number and then combined. That is off the
nearest number to the whole by a last place at times. -/
def combine? (digits : Nat) (power : Int) : Option Binary64 :=
  (nearest? digits 1).bind fun b =>
    if power < 0 then divideByPower? 3 b (-power).toNat
    else if power ≤ largestPower then (nearest? (10 ^ power.toNat) 1).bind b.times?
    else if digits = 0 then some zero else none

/-- The power of ten of the first digit: the greatest `k` with `10 ^ k ≤ n / d`. -/
def leadingPower (n d : Nat) : Int :=
  if d ≤ n then (Text.digits (n / d)).length - 1
  else
    let k := (Text.digits (d / n)).length - 1
    if d ≤ n * 10 ^ k then -k else -(k + 1)

/-- The multiple of `10 ^ power` next to a number that reads back as it: of the two neighbours the
nearer, and of two as near the greater. -/
def onGrid? (b : Binary64) (power : Int) : Option (Nat × Int) :=
  let (n, d) := (b.numerator * 10 ^ (-power).toNat, b.denominator * 10 ^ power.toNat)
  let low := n / d
  let reads (m : Nat) : Bool := ofDecimal? m power == some b
  match reads low, reads (low + 1) with
  | true, true => some (if 2 * (n % d) < d then low else low + 1, power)
  | true, false => some (low, power)
  | false, true => some (low + 1, power)
  | false, false => none

/-- Digits and their power of ten: the coarsest grid of up to seventeen digits that has a point
which reads back. -/
def shortest (b : Binary64) : Nat × Int :=
  if b.isZero then (0, 0)
  else
    let first := leadingPower b.numerator b.denominator
    ((List.range 17).findSome? fun (k : Nat) => b.onGrid? (first - k)).getD
      (b.numerator * 5 ^ (-b.exponent).toNat, -(-b.exponent).toNat)

def positional (b : Binary64) : List Char :=
  let (m, power) := b.shortest
  if 0 ≤ power then Text.digits (m * 10 ^ power.toNat)
  else Decimal.pointed (-power).toNat m

end Binary64

end BankReconciliation
