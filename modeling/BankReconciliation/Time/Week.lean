import BankReconciliation.Time.Date

/-! Quarters and the three ways of numbering the weeks of a year. -/

namespace BankReconciliation

namespace Calendar

def daysInYear (year : Int) : Nat := if isLeap year then 366 else 365

end Calendar

namespace Date

def quarter (d : Date) : Nat := (d.month + 2) / 3

/-- The days that have passed since the last weekday `start`. -/
def daysSince (d : Date) (start : Nat) : Nat := (d.weekday + 7 - start) % 7

/-- The number of the week, where week 1 starts with the first weekday `start` of the year and the
days before it are in week 0. -/
def weekFrom (d : Date) (start : Nat) : Nat := (d.ordinal + 6 - d.daysSince start) / 7

/-- The year that the week of a day belongs to and the number of the week in it. Weeks start on
Monday and belong to the year that their Thursday is in. -/
def isoWeek (d : Date) : Int × Nat :=
  let thursday : Int := d.ordinal + 3 - d.daysSince 1
  let (year, n) : Int × Int :=
    if thursday < 1 then (d.year - 1, thursday + Calendar.daysInYear (d.year - 1))
    else if Calendar.daysInYear d.year < thursday then
      (d.year + 1, thursday - Calendar.daysInYear d.year)
    else (d.year, thursday)
  (year, ((n + 6) / 7).toNat)

def daysOf (year : Int) : List Date :=
  (List.range 12).flatMap fun m =>
    (List.range (Calendar.daysInMonth year (m + 1))).filterMap fun k => of? year (m + 1) (k + 1)

end Date

end BankReconciliation
