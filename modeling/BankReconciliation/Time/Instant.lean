import BankReconciliation.Time.Date

/-! Instants of universal time to the nanosecond. A leap second is the second after `:59`, kept as a
fraction of `:59` that is one second or longer. -/

namespace BankReconciliation

def nanosPerSecond : Nat := 1000000000

structure Instant where
  date : Date
  /-- The second of the day. -/
  second : Nat
  nano : Nat
  second_lt : second < 86400
  nano_lt : nano < 2 * nanosPerSecond
  leap : nanosPerSecond ≤ nano → second % 60 = 59
deriving DecidableEq

namespace Instant

def of? (date : Date) (second nano : Nat) : Option Instant :=
  if h : second < 86400 ∧ nano < 2 * nanosPerSecond ∧
      (nanosPerSecond ≤ nano → second % 60 = 59) then
    some ⟨date, second, nano, h.1, h.2.1, h.2.2⟩
  else none

def midnight (d : Date) : Instant := ⟨d, 0, 0, by decide, by decide, by decide⟩

def startOfDay (t : Instant) : Instant := midnight t.date

@[simp] theorem startOfDay_date (t : Instant) : t.startOfDay.date = t.date := rfl
@[simp] theorem midnight_date (d : Date) : (midnight d).date = d := rfl

/-- A number that orders instants as time does; a leap second comes after `:59` and before the next
minute. -/
def key (t : Instant) : Int :=
  (t.date.key * 86400 + t.second) * (2 * nanosPerSecond : Nat) + t.nano

instance : LT Instant := ⟨fun a b => a.key < b.key⟩
instance : LE Instant := ⟨fun a b => a.key ≤ b.key⟩
instance (a b : Instant) : Decidable (a < b) := inferInstanceAs (Decidable (a.key < b.key))
instance (a b : Instant) : Decidable (a ≤ b) := inferInstanceAs (Decidable (a.key ≤ b.key))

theorem key_inj {a b : Instant} (h : a.key = b.key) : a = b := by
  obtain ⟨da, sa, na, hsa, hna, _⟩ := a
  obtain ⟨db, sb, nb, hsb, hnb, _⟩ := b
  have hna' : na < 2000000000 := hna
  have hnb' : nb < 2000000000 := hnb
  simp only [key, nanosPerSecond] at h
  have hd : da.key = db.key := by omega
  have hs : sa = sb := by omega
  have hn : na = nb := by omega
  have := Date.key_inj hd
  subst this hs hn
  rfl

/-- Moves a time of day by a number of seconds shorter than a day; the day changes at midnight. -/
def shift? (date : Date) (second nano : Nat) (seconds : Int) : Option Instant :=
  let s : Int := second + seconds
  if s < 0 then date.prev?.bind fun d => of? d (s + 86400).toNat nano
  else if s < 86400 then of? date s.toNat nano
  else date.next?.bind fun d => of? d (s - 86400).toNat nano

/-- Midnight of the first day of the year 2000, from which a database counts microseconds. -/
def databaseEpoch : Date := ⟨2000, 1, 1, by decide⟩

/-- The instant with a leap second taken as the first second of the next minute. -/
def withoutLeap? (t : Instant) : Option Instant :=
  shift? t.date t.second (t.nano % nanosPerSecond) (t.nano / nanosPerSecond : Nat)

/-- The instant as a database of microseconds keeps it: finer digits are cut off towards the
database's epoch. -/
def toMicros? (t : Instant) : Option Instant :=
  t.withoutLeap?.bind fun u =>
    let cut := u.nano / 1000 * 1000
    if databaseEpoch ≤ u.date ∨ cut = u.nano then shift? u.date u.second cut 0
    else if cut + 1000 < nanosPerSecond then shift? u.date u.second (cut + 1000) 0
    else shift? u.date u.second 0 1

end Instant

end BankReconciliation
