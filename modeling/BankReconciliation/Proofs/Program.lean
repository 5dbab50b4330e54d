import BankReconciliation.Program

/-! Runs of programs in sequence, for programs that may fail too: a failure ends them. -/

namespace BankReconciliation.Program

variable {I : Interface} {α β ε σ : Type} {h : Handler I σ} {s t : σ} {a : α} {e : ε}

theorem run_bind_of_returned {p : Program I α} (hp : p.run h s = (.returned a, t))
    (f : α → Program I β) : (p >>= f).run h s = (f a).run h t := by
  rw [run_bind, hp]

theorem run_bind_of_aborted {p : Program I α} (hp : p.run h s = (.aborted, t))
    (f : α → Program I β) : (p >>= f).run h s = (.aborted, t) := by
  rw [run_bind, hp]

@[simp] theorem run_map_snd (f : α → β) (p : Program I α) (s : σ) :
    ((f <$> p).run h s).2 = (p.run h s).2 := by
  rw [map_eq_pure_bind, run_bind]
  rcases p.run h s with ⟨_ | _, _⟩ <;> rfl

theorem exists_of_run_map {f : α → β} {p : Program I α} {b : β}
    (hrun : (f <$> p).run h s = (.returned b, t)) :
    ∃ a, p.run h s = (.returned a, t) ∧ f a = b := by
  rw [map_eq_pure_bind, run_bind] at hrun
  generalize p.run h s = r at hrun ⊢
  obtain ⟨a | _, u⟩ := r
  · obtain ⟨ha, rfl⟩ := Prod.mk.inj hrun
    exact ⟨a, rfl, Outcome.returned.inj ha⟩
  · exact nomatch (Prod.mk.inj hrun).1

variable {p : ExceptT ε (Program I) α}

theorem run_bindReply_of_ok (hp : p.run.run h s = (.returned (.ok a), t))
    (f : α → ExceptT ε (Program I) β) : (p >>= f).run.run h s = (f a).run.run h t := by
  rw [ExceptT.run_bind, run_bind_of_returned hp]

theorem run_bindReply_of_error (hp : p.run.run h s = (.returned (.error e), t))
    (f : α → ExceptT ε (Program I) β) :
    (p >>= f).run.run h s = (.returned (.error e), t) := by
  rw [ExceptT.run_bind, run_bind_of_returned hp]
  rfl

theorem lift_bind_run (p : Program I α) (f : α → ExceptT ε (Program I) β) :
    (ExceptT.lift p >>= f).run = p >>= fun a => (f a).run := by
  rw [ExceptT.run_bind, ExceptT.run_lift, bind_map_left]

theorem run_bindLift_of_returned {p : Program I α} (hp : p.run h s = (.returned a, t))
    (f : α → ExceptT ε (Program I) β) :
    (ExceptT.lift p >>= f).run.run h s = (f a).run.run h t := by
  rw [lift_bind_run, run_bind_of_returned hp]

theorem run_bindLift_of_aborted {p : Program I α} (hp : p.run h s = (.aborted, t))
    (f : α → ExceptT ε (Program I) β) :
    (ExceptT.lift p >>= f).run.run h s = (.aborted, t) := by
  rw [lift_bind_run, run_bind_of_aborted hp]

end BankReconciliation.Program
