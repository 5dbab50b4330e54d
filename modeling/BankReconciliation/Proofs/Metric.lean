import BankReconciliation.Metric
import Mathlib.Data.List.Basic

/-! By how much the series grow over some events: by the sum of what the single events add. -/

namespace BankReconciliation

def addGrowth (totals : List (String × Nat)) (growth : String × Nat) : List (String × Nat) :=
  if growth.2 = 0 then totals
  else match totals.lookup growth.1 with
    | some m => (growth.1, m + growth.2) :: totals.filter (·.1 != growth.1)
    | none => growth :: totals

/-- By how much a series grows over some events. -/
def grown (name : String) (events : List MetricEvent) : Nat :=
  ((totalGrowth events).lookup name).getD 0

def addedTo (name : String) : List (String × Nat) → Nat
  | [] => 0
  | growth :: growths => (if growth.1 = name then growth.2 else 0) + addedTo name growths

variable {name : String} {totals : List (String × Nat)}

theorem totalGrowth_eq_foldl (events : List MetricEvent) :
    totalGrowth events = (events.flatMap MetricEvent.growth).foldl addGrowth [] := rfl

theorem lookup_filter_ne {other : String} (h : name ≠ other) :
    (totals.filter (·.1 != other)).lookup name = totals.lookup name := by
  induction totals with
  | nil => rfl
  | cons t ts ih =>
    obtain ⟨k, n⟩ := t
    by_cases hk : k = other
    · subst hk
      rw [List.filter_cons_of_neg (by simp), ih, List.lookup_cons, beq_eq_false_iff_ne.mpr h]
    · rw [List.filter_cons_of_pos (by simpa using hk), List.lookup_cons, List.lookup_cons, ih]

theorem lookup_addGrowth (growth : String × Nat) :
    ((addGrowth totals growth).lookup name).getD 0 =
      (totals.lookup name).getD 0 + if growth.1 = name then growth.2 else 0 := by
  obtain ⟨other, n⟩ := growth
  unfold addGrowth
  by_cases hn : n = 0
  · simp [hn]
  rw [if_neg hn]
  by_cases ho : other = name
  · subst ho
    cases hlookup : totals.lookup other <;> simp
  · have hne : (name == other) = false := beq_eq_false_iff_ne.mpr (Ne.symm ho)
    rw [if_neg ho, Nat.add_zero]
    cases hlookup : totals.lookup other with
    | none => simp only [List.lookup_cons, hne]
    | some m => simp only [List.lookup_cons, hne, lookup_filter_ne (Ne.symm ho)]

theorem addedTo_append (growths growths' : List (String × Nat)) :
    addedTo name (growths ++ growths') = addedTo name growths + addedTo name growths' := by
  induction growths with
  | nil => exact (Nat.zero_add _).symm
  | cons growth growths ih => rw [List.cons_append, addedTo, addedTo, ih, Nat.add_assoc]

theorem lookup_foldl_addGrowth (growths : List (String × Nat)) :
    ((growths.foldl addGrowth totals).lookup name).getD 0 =
      (totals.lookup name).getD 0 + addedTo name growths := by
  induction growths generalizing totals with
  | nil => rfl
  | cons growth growths ih => rw [List.foldl_cons, ih, lookup_addGrowth, addedTo, Nat.add_assoc]

theorem grown_eq (name : String) (events : List MetricEvent) :
    grown name events = addedTo name (events.flatMap MetricEvent.growth) := by
  rw [grown, totalGrowth_eq_foldl, lookup_foldl_addGrowth]
  exact Nat.zero_add _

theorem grown_append (name : String) (events events' : List MetricEvent) :
    grown name (events ++ events') = grown name events + grown name events' := by
  rw [grown_eq, grown_eq, grown_eq, List.flatMap_append, addedTo_append]

end BankReconciliation
