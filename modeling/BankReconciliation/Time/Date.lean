/-! Days of the proleptic Gregorian calendar, in a range of about half a million years. -/

namespace BankReconciliation

namespace Calendar

def firstYear : Int := -262143
def lastYear : Int := 262142

def isLeap (year : Int) : Bool := year % 4 == 0 && (year % 100 != 0 || year % 400 == 0)

def daysInMonth (year : Int) : (month : Nat) → Nat
  | 2 => if isLeap year then 29 else 28
  | 4 | 6 | 9 | 11 => 30
  | _ => 31

def Valid (year : Int) (month day : Nat) : Prop :=
  (firstYear ≤ year ∧ year ≤ lastYear) ∧ (1 ≤ month ∧ month ≤ 12) ∧
    (1 ≤ day ∧ day ≤ daysInMonth year month)

instance (year : Int) (month day : Nat) : Decidable (Valid year month day) := by
  unfold Valid; infer_instance

end Calendar

open Calendar

structure Date where
  year : Int
  month : Nat
  day : Nat
  valid : Calendar.Valid year month day
deriving DecidableEq

namespace Date

def of? (year : Int) (month day : Nat) : Option Date :=
  if h : Calendar.Valid year month day then some ⟨year, month, day, h⟩ else none

/-- The following day; the last representable day has none. -/
def next? (d : Date) : Option Date :=
  of? d.year d.month (d.day + 1) <|> of? d.year (d.month + 1) 1 <|> of? (d.year + 1) 1 1

/-- The day before; the first representable day has none. -/
def prev? (d : Date) : Option Date :=
  if 1 < d.day then of? d.year d.month (d.day - 1)
  else if 1 < d.month then of? d.year (d.month - 1) (daysInMonth d.year (d.month - 1))
  else of? (d.year - 1) 12 31

def key (d : Date) : Int := (d.year * 16 + d.month) * 32 + d.day

instance : LT Date := ⟨fun a b => a.key < b.key⟩
instance : LE Date := ⟨fun a b => a.key ≤ b.key⟩
instance (a b : Date) : Decidable (a < b) := inferInstanceAs (Decidable (a.key < b.key))
instance (a b : Date) : Decidable (a ≤ b) := inferInstanceAs (Decidable (a.key ≤ b.key))

theorem key_inj {a b : Date} (h : a.key = b.key) : a = b := by
  obtain ⟨ya, ma, da, _, ⟨_, hma⟩, ⟨_, hda⟩⟩ := a
  obtain ⟨yb, mb, db, _, ⟨_, hmb⟩, ⟨_, hdb⟩⟩ := b
  have bound : ∀ y m, daysInMonth y m ≤ 31 := by
    intro y m; unfold daysInMonth; split <;> (try split) <;> omega
  have := bound ya ma
  have := bound yb mb
  simp only [key] at h
  have hy : ya = yb := by omega
  have hm : ma = mb := by omega
  have hd : da = db := by omega
  subst hy hm hd
  rfl

def ordinal (d : Date) : Nat :=
  (List.range (d.month - 1)).foldl (fun n m => n + daysInMonth d.year (m + 1)) d.day

/-- Days since the first day of the year 0. -/
def dayNumber (d : Date) : Int :=
  let y := d.year - 1
  d.year * 365 + y / 4 - y / 100 + y / 400 + d.ordinal

def weekday (d : Date) : Nat := ((d.dayNumber + 6) % 7).toNat

end Date

end BankReconciliation
