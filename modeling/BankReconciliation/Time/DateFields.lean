import BankReconciliation.Time.Week

/-! What a text says about a day, field by field, and the day that the fields name. -/

namespace BankReconciliation

inductive DateField
  | year | century | yearOfCentury | isoYear | isoYearOfCentury | quarter | month | day | ordinal
  | sundayWeek | mondayWeek | isoWeek | weekday
  | half | hourOfHalf | minute | second | nano | epochSecond | offset
deriving DecidableEq

abbrev DateFields := List (DateField × Int)

namespace DateFields

/-- Adds a value; a second value for a field has to be the first again. -/
def put? (found : DateFields) (field : DateField) (n : Int) : Option DateFields :=
  match found.lookup field with
  | some m => if m = n then some found else none
  | none => some ((field, n) :: found)

def putAll? (found : DateFields) (facts : List (DateField × Int)) : Option DateFields :=
  facts.foldlM (fun found (field, n) => found.put? field n) found

/-- Whether a day has the value of a field. The fields of the time of day say nothing about it. -/
def agrees (d : Date) : DateField × Int → Bool
  | (.year, n) => n == d.year
  | (.century, n) => decide (0 ≤ d.year) && n == d.year / 100
  | (.yearOfCentury, n) => decide (0 ≤ d.year) && n == d.year % 100
  | (.isoYear, n) => n == d.isoWeek.1
  | (.isoYearOfCentury, n) => decide (0 ≤ d.isoWeek.1) && n == d.isoWeek.1 % 100
  | (.quarter, n) => n == d.quarter
  | (.month, n) => n == d.month
  | (.day, n) => n == d.day
  | (.ordinal, n) => n == d.ordinal
  | (.sundayWeek, n) => n == d.weekFrom 0
  | (.mondayWeek, n) => n == d.weekFrom 1
  | (.isoWeek, n) => n == d.isoWeek.2
  | (.weekday, n) => n == d.weekday
  | (.half, _) | (.hourOfHalf, _) | (.minute, _) | (.second, _) | (.nano, _) | (.epochSecond, _)
  | (.offset, _) => true

/-- The year that a whole year, a century and a year of the century give, if they give one. Two
digits alone stand for 1970 to 2069. Fails when the parts do not fit together or do not suffice. -/
def year? : (whole century rest : Option Int) → Option (Option Int)
  | y, none, none => some y
  | some y, c, r =>
    if 0 ≤ y ∧ c.getD (y / 100) = y / 100 ∧ r.getD (y % 100) = y % 100 then some (some y) else none
  | none, some c, some r => some (some (c * 100 + r))
  | none, none, some r => some (some (if r < 70 then 2000 + r else 1900 + r))
  | none, some _, none => none

def daysIn (found : DateFields) (year : Int) : List Date :=
  match found.lookup .month, found.lookup .day, found.lookup .ordinal with
  | some m, some d, _ => (Date.of? year m.toNat d.toNat).toList
  | _, _, some _ => Date.daysOf year
  | _, _, none =>
    match found.lookup .weekday, found.lookup .sundayWeek, found.lookup .mondayWeek with
    | some _, some _, _ | some _, _, some _ => Date.daysOf year
    | _, _, _ => []

/-- The days that can be meant by a week of an ISO year; such a year starts and ends up to three
days off the calendar year. -/
def daysInIso (found : DateFields) (year : Int) : List Date :=
  match found.lookup .isoWeek, found.lookup .weekday with
  | some _, some _ => Date.daysOf (year - 1) ++ Date.daysOf year ++ Date.daysOf (year + 1)
  | _, _ => []

/-- The day that the fields name. They have to single one out and not to contradict it. -/
def date? (found : DateFields) : Option Date := do
  let year ← year? (found.lookup .year) (found.lookup .century) (found.lookup .yearOfCentury)
  let isoYear ← year? (found.lookup .isoYear) none (found.lookup .isoYearOfCentury)
  let days := ((year.map found.daysIn).getD []) ++ ((isoYear.map found.daysInIso).getD [])
  days.find? fun d => found.all (agrees d)

end DateFields

end BankReconciliation
