import BankReconciliation.Settings.Toml.Trivia
import BankReconciliation.Text.Digits
import BankReconciliation.Time.Date

/-! Dates, times of day and both together in TOML. They are read and written again in one form. -/

namespace BankReconciliation.Toml

def digits (count : Nat) (cs : List Char) : Attempt (Nat × List Char) :=
  match Text.readDigits? (cs.take count) with
  | some n => if (cs.take count).length = count then .ok (n, cs.drop count) else fail cs
  | none => fail cs

def part (low high : Nat) (cs : List Char) : Attempt (Nat × List Char) := do
  let (n, rest) ← digits 2 cs
  if low ≤ n ∧ n ≤ high then .ok (n, rest) else failFor .outOfRange cs

def mark (c : Char) (cs : List Char) : Attempt (List Char) :=
  match cs with
  | d :: rest => if d = c then .ok rest else fail cs
  | [] => fail []

/-- Reads a day and writes it again. After the year and its hyphen nothing else can be meant. -/
def day (cs : List Char) : Attempt (List Char × List Char) := do
  let (year, rest) ← digits 4 cs
  let rest ← mark '-' rest
  commit do
    let (month, rest) ← part 1 12 rest
    let dayStart ← mark '-' rest
    let (day, rest) ← part 1 31 dayStart
    if Calendar.daysInMonth year month < day then failFor .outOfRange dayStart
    else .ok (Text.padded 4 year ++ '-' :: Text.padded 2 month ++ '-' :: Text.padded 2 day, rest)

/-- Reads the digits after the point of a second. Nine of them count, without zeros at the end. -/
def secondPlaces (cs : List Char) : Attempt (List Char × List Char) :=
  match cs with
  | '.' :: rest =>
    let ds := rest.takeWhile Char.isDigit
    if ds = [] then fail rest
    else
      let kept := (((ds.take 9).reverse.dropWhile (· == '0'))).reverse
      .ok (if kept = [] then [] else '.' :: kept, rest.drop ds.length)
  | cs => fail cs

/-- Reads a time of day. After the hour and its colon nothing else can be meant. -/
def time (cs : List Char) : Attempt (List Char × List Char) := do
  let (hour, rest) ← part 0 23 cs
  let rest ← mark ':' rest
  commit do
    let (minute, rest) ← part 0 59 rest
    let (second, rest) ← part 0 60 (← mark ':' rest)
    let (places, rest) ← optional rest (secondPlaces rest)
    .ok (Text.padded 2 hour ++ ':' :: Text.padded 2 minute ++ ':' :: Text.padded 2 second ++
      places.getD [], rest)

/-- Reads what a time of day is off universal time. An offset of zero has a plus sign. -/
def offset (cs : List Char) : Attempt (List Char × List Char) :=
  labelled .offset
    (match cs with
    | 'Z' :: rest => .ok (['Z'], rest)
    | 'z' :: rest => .ok (['Z'], rest)
    | sign :: rest =>
      if sign = '+' ∨ sign = '-' then commit do
        let (hour, rest) ← part 0 23 rest
        let (minute, rest) ← part 0 59 (← mark ':' rest)
        let sign := if hour = 0 ∧ minute = 0 then '+' else sign
        .ok (sign :: Text.padded 2 hour ++ ':' :: Text.padded 2 minute, rest)
      else fail cs
    | [] => fail [])

def timeAfterDay (cs : List Char) : Attempt (List Char × List Char) :=
  match cs with
  | c :: rest =>
    if c = 'T' ∨ c = 't' ∨ c = ' ' then do
      let (time, rest) ← time rest
      let (offset, rest) ← optional rest (offset rest)
      .ok ('T' :: time ++ offset.getD [], rest)
    else fail cs
  | [] => fail []

def dayWithTime (cs : List Char) : Attempt (List Char × List Char) :=
  labelled .moment do
    let (day, rest) ← day cs
    let (time, rest) ← optional rest (timeAfterDay rest)
    .ok (day ++ time.getD [], rest)

def moment (cs : List Char) : Attempt (String × List Char) := do
  let (text, rest) ← orElse (dayWithTime cs) fun _ => labelled .time (time cs)
  .ok (String.ofList text, rest)

end BankReconciliation.Toml
