import BankReconciliation.Proofs.Program

/-! Transcripts: what a program asks and is answered up to one of its ends, whoever answers. The
transcripts of a sequence are put together from those of its parts. -/

namespace BankReconciliation

structure Interface.Exchange (I : Interface) where
  request : I.Request
  answer : I.Answer request

namespace Program

variable {I : Interface} {α β ε σ : Type} {es : List I.Exchange}

/-- The program makes the requests in their order, gets the answers, and comes to the end. -/
def Transcript : Program I α → List I.Exchange → Outcome α → Prop
  | .done a, es, o => es = [] ∧ o = .returned a
  | .abort, es, o => es = [] ∧ o = .aborted
  | .call r next, es, o => ∃ a rest, es = ⟨r, a⟩ :: rest ∧ (next a).Transcript rest o

def exchanges (h : Handler I σ) : Program I α → σ → List I.Exchange
  | .done _, _ => []
  | .abort, _ => []
  | .call r next, s => ⟨r, (h r s).1⟩ :: (next (h r s).1).exchanges h (h r s).2

theorem transcript_exchanges (h : Handler I σ) (p : Program I α) (s : σ) :
    p.Transcript (p.exchanges h s) (p.run h s).1 := by
  induction p generalizing s with
  | done a => exact ⟨rfl, rfl⟩
  | abort => exact ⟨rfl, rfl⟩
  | call r next ih => exact ⟨_, _, rfl, ih _ _⟩

theorem exists_state_of_mem_exchanges {h : Handler I σ} {p : Program I α} {s : σ} {x : I.Exchange}
    (hx : x ∈ p.exchanges h s) : ∃ t, x = ⟨x.request, (h x.request t).1⟩ := by
  induction p generalizing s with
  | done a => cases hx
  | abort => cases hx
  | call r next ih =>
    rcases List.mem_cons.mp hx with rfl | hx
    · exact ⟨s, rfl⟩
    · exact ih _ hx

theorem exchanges_prefix (h : Handler I σ) (p : Program I α) (f : α → Program I β) (s : σ) :
    p.exchanges h s <+: (p >>= f).exchanges h s := by
  induction p generalizing s with
  | done a => exact List.nil_prefix
  | abort => exact List.nil_prefix
  | call r next ih => exact (List.prefix_cons_inj _).mpr (ih _ _)

theorem exchanges_bind {h : Handler I σ} {p : Program I α} {s t : σ} {a : α}
    (hp : p.run h s = (.returned a, t)) (f : α → Program I β) :
    (p >>= f).exchanges h s = p.exchanges h s ++ (f a).exchanges h t := by
  induction p generalizing s with
  | done b =>
    obtain ⟨hb, rfl⟩ := Prod.mk.inj hp
    obtain rfl := Outcome.returned.inj hb
    rfl
  | abort => exact nomatch (Prod.mk.inj hp).1
  | call r next ih => exact congrArg (_ :: ·) (ih _ hp)

theorem transcript_bind {p : Program I α} {f : α → Program I β} {o : Outcome β}
    (h : (p >>= f).Transcript es o) :
    (∃ a es₁ es₂, es = es₁ ++ es₂ ∧ p.Transcript es₁ (.returned a) ∧ (f a).Transcript es₂ o) ∨
      p.Transcript es .aborted ∧ o = .aborted := by
  induction p generalizing es with
  | done a => exact .inl ⟨a, [], es, rfl, ⟨rfl, rfl⟩, h⟩
  | abort => exact .inr ⟨⟨h.1, rfl⟩, h.2⟩
  | call r next ih =>
    obtain ⟨a, rest, rfl, h⟩ := h
    rcases ih a h with ⟨b, es₁, es₂, rfl, hp, hf⟩ | ⟨hp, ho⟩
    · exact .inl ⟨b, ⟨r, a⟩ :: es₁, es₂, rfl, ⟨a, es₁, rfl, hp⟩, hf⟩
    · exact .inr ⟨⟨a, rest, rfl, hp⟩, ho⟩

theorem transcript_map {p : Program I α} {f : α → β} {o : Outcome β}
    (h : (f <$> p).Transcript es o) :
    (∃ a, p.Transcript es (.returned a) ∧ o = .returned (f a)) ∨
      p.Transcript es .aborted ∧ o = .aborted := by
  rw [map_eq_pure_bind] at h
  rcases transcript_bind h with ⟨a, es₁, es₂, rfl, hp, rfl, rfl⟩ | h
  · exact .inl ⟨a, by rwa [List.append_nil], rfl⟩
  · exact .inr h

/-- The same for programs that may fail. A failure ends them. -/
theorem transcript_bindReply {p : ExceptT ε (Program I) α} {f : α → ExceptT ε (Program I) β}
    {o : Outcome (Except ε β)} (h : Transcript (p >>= f).run es o) :
    (∃ a es₁ es₂, es = es₁ ++ es₂ ∧ Transcript p.run es₁ (.returned (.ok a)) ∧
      Transcript (f a).run es₂ o) ∨
    (∃ e, Transcript p.run es (.returned (.error e)) ∧ o = .returned (.error e)) ∨
      Transcript p.run es .aborted ∧ o = .aborted := by
  rw [ExceptT.run_bind] at h
  rcases transcript_bind h with ⟨a | a, es₁, es₂, rfl, hp, hf⟩ | h
  · obtain ⟨rfl, rfl⟩ := hf
    exact .inr (.inl ⟨a, by rwa [List.append_nil], rfl⟩)
  · exact .inl ⟨a, es₁, es₂, rfl, hp, hf⟩
  · exact .inr (.inr h)

theorem transcript_bindLift {p : Program I α} {f : α → ExceptT ε (Program I) β}
    {o : Outcome (Except ε β)} (h : Transcript (ExceptT.lift p >>= f).run es o) :
    (∃ a es₁ es₂, es = es₁ ++ es₂ ∧ p.Transcript es₁ (.returned a) ∧
      Transcript (f a).run es₂ o) ∨ p.Transcript es .aborted ∧ o = .aborted := by
  rw [lift_bind_run] at h
  exact transcript_bind h

/-- The program makes none but the allowed requests, and is never aborted. -/
def Within (allowed : I.Request → Bool) : Program I α → Prop
  | .done _ => True
  | .abort => False
  | .call r next => allowed r = true ∧ ∀ a, Within allowed (next a)

variable {allowed : I.Request → Bool}

theorem Within.bind {p : Program I α} {f : α → Program I β} (hp : p.Within allowed)
    (hf : ∀ a, (f a).Within allowed) : (p >>= f).Within allowed := by
  induction p with
  | done a => exact hf a
  | abort => exact hp
  | call r next ih => exact ⟨hp.1, fun a => ih a (hp.2 a)⟩

theorem Within.bindReply {p : ExceptT ε (Program I) α} {f : α → ExceptT ε (Program I) β}
    (hp : Within allowed p.run) (hf : ∀ a, Within allowed (f a).run) :
    Within allowed (p >>= f).run := by
  rw [ExceptT.run_bind]
  refine hp.bind ?_
  intro a
  cases a with
  | ok a => exact hf a
  | error e => trivial

theorem Within.transcript {p : Program I α} {o : Outcome α} (hp : p.Within allowed)
    (h : p.Transcript es o) :
    (∃ a, o = .returned a) ∧ ∀ x ∈ es, allowed x.request = true := by
  induction p generalizing es with
  | done a =>
    obtain ⟨rfl, rfl⟩ := h
    exact ⟨⟨a, rfl⟩, by simp⟩
  | abort => exact hp.elim
  | call r next ih =>
    obtain ⟨a, rest, rfl, h⟩ := h
    obtain ⟨ho, hrest⟩ := ih a (hp.2 a) h
    exact ⟨ho, List.forall_mem_cons.mpr ⟨hp.1, hrest⟩⟩

end Program

end BankReconciliation
