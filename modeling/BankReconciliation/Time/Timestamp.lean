import BankReconciliation.Text.Blank
import BankReconciliation.Text.Digits
import BankReconciliation.Time.Instant

/-! The written form of instants: `2024-05-10T12:30:00.500Z`. Years outside `0 … 9999` carry a sign.
Readers take any offset and are lax about spaces. -/

namespace BankReconciliation.Timestamp

def yearChars (year : Int) : List Char :=
  if 0 ≤ year ∧ year ≤ 9999 then Text.padded 4 year.toNat
  else (if year < 0 then '-' else '+') :: Text.padded 4 year.natAbs

def dateChars (d : Date) : List Char :=
  yearChars d.year ++ '-' :: Text.padded 2 d.month ++ '-' :: Text.padded 2 d.day

/-- Hours, minutes and seconds; a leap second is the second 60. -/
def clockChars (t : Instant) : List Char :=
  Text.padded 2 (t.second / 3600) ++ ':' :: Text.padded 2 (t.second / 60 % 60) ++ ':' ::
    Text.padded 2 (t.second % 60 + t.nano / nanosPerSecond)

/-- No fraction for a whole second, else three, six or nine digits, the fewest that lose nothing. -/
def fractionChars (t : Instant) : List Char :=
  let n := t.nano % nanosPerSecond
  if n = 0 then []
  else if n % 1000000 = 0 then '.' :: Text.padded 3 (n / 1000000)
  else if n % 1000 = 0 then '.' :: Text.padded 6 (n / 1000)
  else '.' :: Text.padded 9 n

def toChars (t : Instant) : List Char :=
  dateChars t.date ++ 'T' :: clockChars t ++ fractionChars t ++ ['Z']

def render (t : Instant) : String := String.ofList (toChars t)

def millisChars (t : Instant) : List Char :=
  dateChars t.date ++ 'T' :: clockChars t ++
    '.' :: Text.padded 3 (t.nano % nanosPerSecond / 1000000) ++ ['Z']

def number? (width : Nat) (cs : List Char) : Option (Nat × List Char) :=
  let ds := (cs.take width).takeWhile Char.isDigit
  if ds = [] then none else some (Text.digitsValue ds, cs.drop ds.length)

def field? (width : Nat) (cs : List Char) : Option (Nat × List Char) :=
  number? width (Text.trimStart cs)

/-- A year: up to four digits, or a sign and any number of them. -/
def year? (cs : List Char) : Option (Int × List Char) :=
  match Text.trimStart cs with
  | '-' :: ds => (number? ds.length ds).map fun (n, rest) => (-(n : Int), rest)
  | '+' :: ds => (number? ds.length ds).map fun (n, rest) => ((n : Int), rest)
  | ds => (number? 4 ds).map fun (n, rest) => ((n : Int), rest)

def mark? (c : Char) (cs : List Char) : Option (List Char) :=
  match Text.trimStart cs with
  | d :: rest => if d = c then some rest else none
  | [] => none

/-- The digits after a point, to the nanosecond, if there is a point; further digits are skipped. -/
def nanos? (cs : List Char) : Option (Option Nat × List Char) :=
  match cs with
  | '.' :: ds =>
    let kept := (ds.take 9).takeWhile Char.isDigit
    if kept = [] then none
    else some (some (Text.digitsValue kept * 10 ^ (9 - kept.length)),
      (ds.drop kept.length).dropWhile Char.isDigit)
  | cs => some (none, cs)

def twoDigits? : List Char → Option (Nat × List Char)
  | a :: b :: rest => do
    let x ← Text.digitValue? a
    let y ← Text.digitValue? b
    some (x * 10 + y, rest)
  | _ => none

/-- The seconds of an offset such as `-03:00`, with or without the colon. A lax offset may end after
the hours. -/
def offset? (lax : Bool) (cs : List Char) : Option (Int × List Char) := do
  let (sign, ds) : Int × List Char ← match cs with
    | '+' :: ds => some (1, ds)
    | '-' :: ds => some (-1, ds)
    | '\u2212' :: ds => some (-1, ds)
    | _ => none
  let (hours, rest) ← twoDigits? ds
  let (minutes, rest) ← match rest.dropWhile fun c => c == ':' || Text.isBlank c with
    | [] => if lax then some (0, []) else none
    | rest => twoDigits? rest
  if 60 ≤ minutes then none else some (sign * (hours * 3600 + minutes * 60 : Nat), rest)

def zuluOrOffset? (lax : Bool) : List Char → Option (Int × List Char)
  | 'Z' :: rest => some (0, rest)
  | 'z' :: rest => some (0, rest)
  | cs => offset? lax cs

def zone? (cs : List Char) : Option (Int × List Char) :=
  if (cs.take 3).map Char.toUpper = ['U', 'T', 'C'] then some (0, cs.drop 3)
  else zuluOrOffset? false cs

structure Parts where
  year : Int
  month : Nat
  day : Nat
  hour : Nat
  minute : Nat
  second : Nat
  nano : Option Nat
  offset : Int
deriving DecidableEq

def parts? (cs : List Char) : Option (Parts × List Char) := do
  let (year, cs) ← year? cs
  let (month, cs) ← field? 2 (← mark? '-' cs)
  let (day, cs) ← field? 2 (← mark? '-' cs)
  let cs ← match cs with
    | 't' :: cs => some cs
    | 'T' :: cs => some cs
    | ' ' :: cs => some cs
    | _ => none
  let (hour, cs) ← field? 2 cs
  let (minute, cs) ← field? 2 (← mark? ':' cs)
  let (second, cs) ← field? 2 (← mark? ':' cs)
  let (nano, cs) ← nanos? cs
  let (offset, cs) ← zone? (Text.trimStart cs)
  some (⟨year, month, day, hour, minute, second, nano, offset⟩, cs)

def Parts.instant? (p : Parts) : Option Instant := do
  let date ← Date.of? p.year p.month p.day
  if 24 ≤ p.hour ∨ 60 ≤ p.minute ∨ 61 ≤ p.second ∨ 86400 ≤ p.offset.natAbs then none
  else
    let nano := p.nano.getD 0
    let (second, nano) :=
      if p.second = 60 then (59, nano + nanosPerSecond) else (p.second, nano)
    Instant.shift? date (p.hour * 3600 + p.minute * 60 + second) nano (-p.offset)

def read? (cs : List Char) : Option Instant := do
  let (parts, rest) ← parts? cs
  if Text.trimStart rest = [] then parts.instant? else none

def ofString? (s : String) : Option Instant := read? s.toList

end BankReconciliation.Timestamp
