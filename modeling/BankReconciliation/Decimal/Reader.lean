import BankReconciliation.Binary64

/-! Reading decimal numbers: an optional sign, digits with at most one point, underscores after the
first digit, and an optional power of ten. Digits past the capacity are rounded half up. -/

namespace BankReconciliation.Decimal

/-- One more than the largest mantissa. -/
abbrev capacity : Nat := twoTo 96

/-- Adds one to the last place; a mantissa that this fills gives up a place. -/
def roundUp? (negative : Bool) (mantissa scale : Nat) : Option Decimal :=
  if mantissa + 1 < capacity then ofParts? negative (mantissa + 1) scale
  else if scale = 0 then none
  else ofParts? negative ((mantissa + 5) / 10) (scale - 1)

/-- Ends a number that is full. Only digits and underscores may follow, and the first digit decides
between rounding down and up. -/
def finish? (negative : Bool) (mantissa scale : Nat) (cs : List Char) : Option Decimal :=
  if cs.all fun c => c.isDigit || c == '_' then
    match (cs.find? Char.isDigit).bind Text.digitValue? with
    | some d => if 5 ≤ d then roundUp? negative mantissa scale else ofParts? negative mantissa scale
    | none => ofParts? negative mantissa scale
  else none

/-- Reads digits into a mantissa. `point` says that the point has been passed and `seen` that a
digit has been read. -/
def readFrom? (negative : Bool) (point seen : Bool) (mantissa scale : Nat) :
    List Char → Option Decimal
  | [] => if seen then ofParts? negative mantissa scale else none
  | c :: rest =>
    match Text.digitValue? c with
    | some d =>
      let grown := mantissa * 10 + d
      if capacity ≤ grown then
        if point then finish? negative mantissa scale (c :: rest) else none
      else
        let scale' := if point then scale + 1 else 0
        if point && decide (28 ≤ scale') then finish? negative grown scale' rest
        else readFrom? negative point true grown scale' rest
    | none =>
      if c = '.' && !point then readFrom? negative true seen mantissa scale rest
      else if c = '_' && seen then readFrom? negative point seen mantissa scale rest
      else none

def readPlain? : List Char → Option Decimal
  | '-' :: cs => readFrom? true false false 0 0 cs
  | '+' :: cs => readFrom? false false false 0 0 cs
  | cs => readFrom? false false false 0 0 cs

def readPower? (cs : List Char) : Option Nat :=
  let ds := match cs with
    | '+' :: ds => ds
    | ds => ds
  match Text.readDigits? ds with
  | some n => if n < twoTo 32 then some n else none
  | none => none

/-- Drops the last digits one by one; the last one dropped decides between rounding down and up. -/
def dropDigits : (count mantissa : Nat) → Nat
  | 0, m => m
  | 1, m => if 5 ≤ m % 10 then m / 10 + 1 else m / 10
  | k + 2, m => dropDigits (k + 1) (m / 10)

/-- Divides by a power of ten, by raising the scale. Places past the capacity are rounded away. -/
def scaleDown? (d : Decimal) (power : Nat) : Option Decimal :=
  if h : d.scale + power ≤ 28 then some { d with scale := d.scale + power, scale_le := h }
  else if 28 < power then none
  else
    (ofParts? false (dropDigits (d.scale + power - 28) d.mantissa) 28).map fun e =>
      { e with negative := d.negative }

def scaleUp? (d : Decimal) (power : Nat) : Option Decimal :=
  if power ≤ d.scale then
    some { d with scale := d.scale - power, scale_le := Nat.le_trans (Nat.sub_le ..) d.scale_le }
  else if 28 < power then none
  else ofParts? d.negative (d.mantissa * 10 ^ (power - d.scale)) 0

def isExponentMark (c : Char) : Bool := c == 'e' || c == 'E'

def read? (cs : List Char) : Option Decimal :=
  match cs.dropWhile fun c => !isExponentMark c with
  | [] => readPlain? cs
  | _ :: power => do
    let base ← readPlain? (cs.takeWhile fun c => !isExponentMark c)
    match power with
    | '-' :: ds => scaleDown? base (← readPower? ds)
    | ds => scaleUp? base (← readPower? ds)

def ofString? (s : String) : Option Decimal := read? s.toList

/-- The decimal that the shortest digits of a binary number read as. Places past the capacity are
rounded, and a zero has no sign. -/
def ofBinary? (negative : Bool) (b : Binary64) : Option Decimal :=
  read? (signed negative b.positional)

end BankReconciliation.Decimal
