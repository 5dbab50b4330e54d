import BankReconciliation.Settings.Toml.Trivia
import BankReconciliation.Settings.Value

/-! Numbers in TOML: whole numbers of 64 bits to four bases, and binary fractions. Single
underscores may stand between two digits. -/

namespace BankReconciliation.Toml

/-- Takes the digits that go on a number. A digit has to follow an underscore. -/
def moreDigits (isDigit : Char → Bool) : List Char → Attempt (List Char × List Char)
  | '_' :: c :: cs =>
    if isDigit c then do
      let (ds, rest) ← moreDigits isDigit cs
      .ok (c :: ds, rest)
    else commit (expecting [.digit] (fail (c :: cs)))
  | ['_'] => commit (expecting [.digit] (fail []))
  | c :: cs =>
    if isDigit c then do
      let (ds, rest) ← moreDigits isDigit cs
      .ok (c :: ds, rest)
    else .ok ([], c :: cs)
  | [] => .ok ([], [])

def someDigits (isDigit : Char → Bool) (cs : List Char) : Attempt (List Char × List Char) :=
  if cs.head?.any isDigit then moreDigits isDigit cs else fail cs

def splitSign : List Char → Bool × List Char
  | '-' :: cs => (true, cs)
  | '+' :: cs => (false, cs)
  | cs => (false, cs)

/-- Takes the digits of a whole number to base ten after its sign. A zero in front is a number of
its own. -/
def wholeDigits (cs : List Char) : Attempt (List Char × List Char) :=
  labelled .integer
    (match cs with
    | '0' :: rest => .ok (['0'], rest)
    | cs => someDigits Char.isDigit cs)

def whole (cs : List Char) (n : Int) : Attempt SettingValue :=
  if n < -(twoTo 63) then commit (failFor .tooSmall cs)
  else if twoTo 63 ≤ n then commit (failFor .tooLarge cs)
  else .ok (.whole n)

def basedInteger (base : Nat) (label : Label) (cs : List Char) :
    Attempt (SettingValue × List Char) := do
  let isDigit (c : Char) : Bool := (Text.hexValue? c).any (· < base)
  let (ds, rest) ← commit (labelled label (someDigits isDigit (cs.drop 2)))
  let n := ds.foldl (fun n c => n * base + (Text.hexValue? c).getD 0) 0
  .ok (← whole cs n, rest)

def integer (cs : List Char) : Attempt (SettingValue × List Char) :=
  match cs with
  | '0' :: 'x' :: _ => basedInteger 16 .hexInteger cs
  | '0' :: 'o' :: _ => basedInteger 8 .octalInteger cs
  | '0' :: 'b' :: _ => basedInteger 2 .binaryInteger cs
  | cs => do
    let (negative, digits) := splitSign cs
    let (ds, rest) ← wholeDigits digits
    let n : Int := Text.digitsValue ds
    .ok (← whole cs (if negative then -n else n), rest)

def places (cs : List Char) : Attempt (List Char × List Char) :=
  match cs with
  | '.' :: rest => commit (expecting [.digit] (someDigits Char.isDigit rest))
  | cs => fail cs

def power (cs : List Char) : Attempt (Int × List Char) :=
  match cs with
  | c :: rest =>
    if c = 'e' ∨ c = 'E' then do
      let (negative, digits) := splitSign rest
      let (ds, rest) ← commit (someDigits Char.isDigit digits)
      let n : Int := Text.digitsValue ds
      .ok (if negative then -n else n, rest)
    else fail cs
  | [] => fail []

/-- The fraction with the given digits. One that is too large is infinite. -/
def fractionOf (negative : Bool) (mantissa : Nat) (power : Int) : SettingValue :=
  match Binary64.ofDecimal? mantissa power with
  | some b => .float negative b
  | none => .infinite negative

def digitFraction (cs : List Char) : Attempt (SettingValue × List Char) := do
  let (negative, digits) := splitSign cs
  let (whole, rest) ← wholeDigits digits
  let (places, rest) ← optional rest (places rest)
  let (power, rest) ← optional rest (power rest)
  if places = none ∧ power = none then fail rest
  else
    let ds := places.getD []
    let v := fractionOf negative (Text.digitsValue (whole ++ ds)) (power.getD 0 - ds.length)
    if v = .infinite false then commit (fail cs) else .ok (v, rest)

def specialFraction (cs : List Char) : Attempt (SettingValue × List Char) :=
  let (negative, word) := splitSign cs
  match word with
  | 'i' :: 'n' :: 'f' :: rest => .ok (.infinite negative, rest)
  | 'n' :: 'a' :: 'n' :: rest => .ok (.notNumber, rest)
  | word => fail word

def fraction (cs : List Char) : Attempt (SettingValue × List Char) :=
  labelled .fraction (orElse (digitFraction cs) fun _ => specialFraction cs)

end BankReconciliation.Toml
