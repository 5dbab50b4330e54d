import BankReconciliation.Worker
import Mathlib.Tactic.ByContra

/-! What becomes of the jobs that the queue accepts. They keep their order, from the queue over the
distributor to those that were handed over, and only a distributor that ends drops some of them. -/

namespace BankReconciliation

namespace Distributor

variable {Job : Type}

/-- The job that was taken out of the queue and is not handed over yet. -/
def held? : Distributor Job → Option Job
  | .holding job | .permitted job => some job
  | _ => none

/-- The number of permits that the distributor itself has. -/
def permits : Distributor Job → Nat
  | .permitted _ => 1
  | _ => 0

end Distributor

namespace Worker

variable {Job : Type} {settings : WorkerSettings} {w w' : Worker Job} {e : Event Job}
  {es fs : List (Event Job)} {job : Job}

/-- Whether the queue takes another job. -/
def HasRoom (w : Worker Job) : Prop :=
  w.isClosed = false ∧ w.waiting.length < w.settings.capacity

theorem enqueue_of_hasRoom (h : w.HasRoom) :
    w.enqueue job = .ok { w with waiting := w.waiting ++ [job] } := by
  obtain ⟨hopen, hroom⟩ := h
  rw [enqueue, hopen, if_neg Bool.false_ne_true, if_neg (Nat.not_le.mpr hroom)]

theorem enqueue_of_closed (h : w.isClosed = true) :
    w.enqueue job = .error (.internal .queueClosed) := by
  rw [enqueue, if_pos h]

theorem enqueue_of_full (hopen : w.isClosed = false)
    (h : w.settings.capacity ≤ w.waiting.length) : w.enqueue job = .error .unavailable := by
  rw [enqueue, hopen, if_neg Bool.false_ne_true, if_pos h]

theorem isClosed_iff : w.isClosed = true ↔ w.distributor = .ended := by
  unfold isClosed
  split <;> simp_all

/-- The job that an event brings into the queue. -/
def taken (w : Worker Job) : Event Job → List Job
  | .enqueue job =>
    match w.enqueue job with
    | .ok _ => [job]
    | .error _ => []
  | _ => []

/-- The jobs that the queue accepts while events happen, in order. -/
def accepted : Worker Job → List (Event Job) → List Job
  | _, [] => []
  | w, e :: es =>
    w.taken e ++ match w.step e with
      | some w' => w'.accepted es
      | none => []

/-- The jobs that were handed over, the one that is held and those that wait. -/
def jobs (w : Worker Job) : List Job := w.handed ++ w.distributor.held?.toList ++ w.waiting

inductive Effect (w : Worker Job) : Event Job → Worker Job → Prop
  | started (h : w.distributor = .idle) : Effect w .start { w with distributor := .receiving }
  | ignored : Effect w .start w
  | accepted {job : Job} (h : w.HasRoom) :
    Effect w (.enqueue job) { w with waiting := w.waiting ++ [job] }
  | refused {job : Job} {e : ServiceError} (h : w.enqueue job = .error e) :
    Effect w (.enqueue job) w
  | received {job : Job} {rest : List Job} (h : w.distributor = .receiving)
    (hwaiting : w.waiting = job :: rest) :
    Effect w .receive { w with distributor := .holding job, waiting := rest }
  | acquired {job : Job} (h : w.distributor = .holding job)
    (hfree : w.running < w.settings.permits) :
    Effect w .acquire { w with distributor := .permitted job }
  | spawned {job : Job} (h : w.distributor = .permitted job) :
    Effect w .spawn
      { w with distributor := .receiving, running := w.running + 1, handed := w.handed ++ [job] }
  | finished (h : 0 < w.running) : Effect w .finish { w with running := w.running - 1 }
  | told : Effect w .shutdown { w with stopping := true }
  | stopped (htold : w.stopping = true) (h : w.distributor.permits = 0)
    (hopen : w.isClosed = false) :
    Effect w .stop { w with distributor := .ended, waiting := [] }

theorem effect_of_step (h : w.step e = some w') : Effect w e w' := by
  cases e with
  | start =>
    obtain rfl := Option.some.inj h
    unfold start?
    split
    · exact .started ‹_›
    · exact .ignored
  | enqueue job =>
    obtain rfl := Option.some.inj h
    by_cases hroom : w.HasRoom
    · rw [enqueue_of_hasRoom hroom]
      exact .accepted hroom
    · cases hjob : w.enqueue job with
      | error e => exact .refused hjob
      | ok v =>
        exfalso
        apply hroom
        unfold enqueue at hjob
        split at hjob
        · cases hjob
        · split at hjob
          · cases hjob
          · exact ⟨by simpa using ‹¬ w.isClosed = true›, by omega⟩
  | receive =>
    simp only [step] at h
    split at h
    · obtain rfl := Option.some.inj h
      exact .received ‹_› ‹_›
    · cases h
  | acquire =>
    simp only [step] at h
    split at h
    · split at h
      · obtain rfl := Option.some.inj h
        exact .acquired ‹_› ‹_›
      · cases h
    · cases h
  | spawn =>
    simp only [step] at h
    split at h
    · obtain rfl := Option.some.inj h
      exact .spawned ‹_›
    · cases h
  | finish =>
    simp only [step] at h
    split at h
    · obtain rfl := Option.some.inj h
      exact .finished ‹_›
    · cases h
  | shutdown =>
    obtain rfl := Option.some.inj h
    exact .told
  | stop =>
    simp only [step] at h
    split at h
    · cases h
    · have htold : w.stopping = true := by simpa using ‹¬ (!w.stopping) = true›
      split at h
      · obtain rfl := Option.some.inj h
        exact .stopped htold (by simp [Distributor.permits, *]) (by simp [isClosed, *])
      · obtain rfl := Option.some.inj h
        exact .stopped htold (by simp [Distributor.permits, *]) (by simp [isClosed, *])
      · cases h

theorem run?_cons_eq_some_iff :
    w.run? (e :: es) = some w' ↔ ∃ v, w.step e = some v ∧ v.run? es = some w' :=
  Option.bind_eq_some_iff

@[simp] theorem accepted_nil : w.accepted [] = [] := rfl

theorem accepted_cons_of_step (h : w.step e = some w') :
    w.accepted (e :: es) = w.taken e ++ w'.accepted es := by
  rw [accepted, h]

/-- A queue that is closed stays closed, and nothing is accepted or handed over any more. -/
theorem Effect.of_closed (h : Effect w e w') (hclosed : w.isClosed = true) :
    w'.isClosed = true ∧ w'.handed = w.handed ∧ w.taken e = [] := by
  have hended := isClosed_iff.mp hclosed
  cases h with
  | accepted h => simp [h.1] at hclosed
  | refused hjob => simp [hclosed, taken, hjob]
  | stopped _ _ hopen => simp [hopen] at hclosed
  | started h => simp [h] at hended
  | received h _ => simp [h] at hended
  | acquired h _ => simp [h] at hended
  | spawned h => simp [h] at hended
  | ignored => exact ⟨hclosed, rfl, rfl⟩
  | finished _ => exact ⟨hclosed, rfl, rfl⟩
  | told => exact ⟨hclosed, rfl, rfl⟩

theorem run_of_closed (h : w.run? es = some w') (hclosed : w.isClosed = true) :
    w'.isClosed = true ∧ w'.handed = w.handed ∧ w.accepted es = [] := by
  induction es generalizing w with
  | nil =>
    obtain rfl := Option.some.inj h
    exact ⟨hclosed, rfl, rfl⟩
  | cons e es ih =>
    obtain ⟨v, hv, h⟩ := run?_cons_eq_some_iff.mp h
    obtain ⟨hv', hhanded, htaken⟩ := (effect_of_step hv).of_closed hclosed
    obtain ⟨hw', hhanded', haccepted⟩ := ih h hv'
    exact ⟨hw', hhanded'.trans hhanded, by simp [accepted_cons_of_step hv, htaken, haccepted]⟩

theorem Effect.closes (h : Effect w e w') (hopen : w.isClosed = false)
    (hclosed : w'.isClosed = true) : e = .stop ∧ w.stopping = true ∧ w'.handed = w.handed := by
  cases h with
  | stopped htold _ _ => exact ⟨rfl, htold, rfl⟩
  | refused _ | ignored => simp [hopen] at hclosed
  | _ => simp_all [isClosed]

/-- As long as the queue is open, every job that was accepted is in one place, in its order. -/
theorem Effect.jobs_eq (h : Effect w e w') (hopen : w'.isClosed = false) :
    w'.jobs = w.jobs ++ w.taken e := by
  cases h with
  | accepted h => simp [jobs, taken, enqueue_of_hasRoom h]
  | refused h => simp [jobs, taken, h]
  | stopped _ _ _ => simp [isClosed] at hopen
  | _ => simp_all [jobs, taken, Distributor.held?]

theorem jobs_of_run (h : w.run? es = some w') (hopen : w'.isClosed = false) :
    w'.jobs = w.jobs ++ w.accepted es := by
  induction es generalizing w with
  | nil =>
    obtain rfl := Option.some.inj h
    simp
  | cons e es ih =>
    obtain ⟨v, hv, h⟩ := run?_cons_eq_some_iff.mp h
    cases hclosed : v.isClosed with
    | true => simp [(run_of_closed h hclosed).1] at hopen
    | false =>
      rw [ih h, (effect_of_step hv).jobs_eq hclosed, accepted_cons_of_step hv, List.append_assoc]

/-- The worker keeps to its settings. -/
structure Keeps (settings : WorkerSettings) (w : Worker Job) : Prop where
  settings_eq : w.settings = settings
  permits_le : w.running + w.distributor.permits ≤ settings.permits
  waiting_le : w.waiting.length ≤ settings.capacity

theorem keeps_new (settings : WorkerSettings) : Keeps settings ({ settings } : Worker Job) :=
  ⟨rfl, by simp [Distributor.permits], by simp⟩

theorem Effect.keeps (h : Effect w e w') (hw : w.Keeps settings) : w'.Keeps settings := by
  obtain ⟨rfl, hpermits, hwaiting⟩ := hw
  cases h with
  | refused _ | ignored | told => exact ⟨rfl, hpermits, hwaiting⟩
  | started h => exact ⟨rfl, by simp_all [Distributor.permits], hwaiting⟩
  | accepted h => exact ⟨rfl, hpermits, by simp [Nat.succ_le_of_lt h.2]⟩
  | received h hjobs =>
    refine ⟨rfl, by simp_all [Distributor.permits], ?_⟩
    simp only [hjobs, List.length_cons] at hwaiting
    exact Nat.le_of_succ_le hwaiting
  | acquired h hfree => exact ⟨rfl, hfree, hwaiting⟩
  | spawned h => exact ⟨rfl, by simpa [h, Distributor.permits] using hpermits, hwaiting⟩
  | finished h => exact ⟨rfl, by dsimp only; omega, hwaiting⟩
  | stopped _ h _ =>
    rw [h] at hpermits
    exact ⟨rfl, hpermits, by simp⟩

theorem keeps_of_run (h : w.run? es = some w') (hw : w.Keeps settings) : w'.Keeps settings := by
  induction es generalizing w with
  | nil =>
    obtain rfl := Option.some.inj h
    exact hw
  | cons e es ih =>
    obtain ⟨v, hv, h⟩ := run?_cons_eq_some_iff.mp h
    exact ih h ((effect_of_step hv).keeps hw)

def Event.isFinish : Event Job → Bool
  | .finish => true
  | _ => false

theorem Effect.running_eq (h : Effect w e w') :
    w'.running + [e].countP Event.isFinish + w.handed.length = w.running + w'.handed.length := by
  cases h with
  | spawned _ =>
    simp [Event.isFinish]
    omega
  | finished h =>
    simp [Event.isFinish]
    omega
  | _ => simp [Event.isFinish]

theorem running_of_run (h : w.run? es = some w') :
    w'.running + es.countP Event.isFinish + w.handed.length = w.running + w'.handed.length := by
  induction es generalizing w with
  | nil =>
    obtain rfl := Option.some.inj h
    simp
  | cons e es ih =>
    obtain ⟨v, hv, h⟩ := run?_cons_eq_some_iff.mp h
    have hstep := (effect_of_step hv).running_eq
    have hrest := ih h
    rw [← List.singleton_append, List.countP_append]
    omega

theorem Effect.stopping_eq (h : Effect w e w') (hcalm : e ≠ .shutdown) :
    w'.stopping = w.stopping := by
  cases h with
  | told => exact absurd rfl hcalm
  | _ => rfl

theorem open_of_run (h : w.run? es = some w') (hcalm : Event.shutdown ∉ es)
    (hstopping : w.stopping = false) (hopen : w.isClosed = false) : w'.isClosed = false := by
  induction es generalizing w with
  | nil =>
    obtain rfl := Option.some.inj h
    exact hopen
  | cons e es ih =>
    obtain ⟨v, hv, h⟩ := run?_cons_eq_some_iff.mp h
    simp only [List.mem_cons, not_or] at hcalm
    obtain ⟨he, hes⟩ := hcalm
    have hv' := effect_of_step hv
    refine ih h hes ((hv'.stopping_eq (Ne.symm he)).trans hstopping) ?_
    cases hclosed : v.isClosed with
    | false => rfl
    | true =>
      have htold := (hv'.closes hopen hclosed).2.1
      simp [hstopping] at htold

/-- As long as the worker is not told to stop, no more jobs run than there are permits; the jobs
that were handed over, the one that the distributor holds and those that wait are together the jobs
that were accepted, each once and in their order; and the queue refuses a job exactly if it is
full. -/
theorem conserves_of_run (hrun : run? ({ settings } : Worker Job) es = some w)
    (hcalm : Event.shutdown ∉ es) :
    w.running ≤ settings.permits ∧
      w.running + es.countP Event.isFinish = w.handed.length ∧
      w.handed ++ w.distributor.held?.toList ++ w.waiting = accepted { settings } es ∧
      ∀ job, (w.enqueue job = .error .unavailable ↔ w.waiting.length = settings.capacity) ∧
        (w.waiting.length < settings.capacity →
          w.enqueue job = .ok { w with waiting := w.waiting ++ [job] }) := by
  have hopen : w.isClosed = false := open_of_run hrun hcalm rfl rfl
  obtain ⟨hsettings, hpermits, hwaiting⟩ := keeps_of_run hrun (keeps_new settings)
  have hrunning := running_of_run hrun
  have hjobs := jobs_of_run hrun hopen
  refine ⟨by omega, by simpa using hrunning, by simpa [jobs, Distributor.held?] using hjobs, ?_⟩
  intro job
  have hroom : w.waiting.length < settings.capacity →
      w.enqueue job = .ok { w with waiting := w.waiting ++ [job] } :=
    fun h => enqueue_of_hasRoom ⟨hopen, hsettings ▸ h⟩
  refine ⟨⟨fun h => ?_, fun h => enqueue_of_full hopen (by simp [hsettings, h])⟩, hroom⟩
  by_contra hne
  rw [hroom (by omega)] at h
  cases h

end Worker

namespace Sample

/-- The least of all: one permit, and room for one job. -/
def narrow : WorkerSettings := { workerCount := 0, queueSize := 0 }

def busyDay : List (Worker.Event String) :=
  [.start, .enqueue "march", .receive, .enqueue "april", .acquire, .spawn, .receive, .start,
    .enqueue "may", .enqueue "june"]

/-- The same day, in the end of which the worker is told to stop. -/
def evening : List (Worker.Event String) := busyDay ++ [.shutdown, .stop, .enqueue "july"]

def busy : Worker String :=
  { settings := narrow, waiting := ["may"], distributor := .holding "april", running := 1,
    handed := ["march"] }

def stopped : Worker String :=
  { settings := narrow, distributor := .ended, running := 1, handed := ["march"],
    stopping := true }

end Sample

namespace Worker

variable {Job : Type} {settings : WorkerSettings} {w w' : Worker Job} {es : List (Event Job)}

/-- One job runs, one waits for the permit and one in the queue, which has room for one; a fourth is
refused, and a second start does nothing. -/
theorem conserves_of_run_busy :
    run? { settings := Sample.narrow } Sample.busyDay = some Sample.busy ∧
      Sample.busy.handed ++ Sample.busy.distributor.held?.toList ++ Sample.busy.waiting =
        ["march", "april", "may"] ∧
      ∀ job, Sample.busy.enqueue job = .error .unavailable := by
  have hrun : run? { settings := Sample.narrow } Sample.busyDay = some Sample.busy := rfl
  obtain ⟨-, -, hjobs, hfull⟩ := conserves_of_run hrun (by decide)
  exact ⟨hrun, hjobs, fun job => (hfull job).1.mpr rfl⟩

theorem exists_stop (h : w.run? es = some w') (hopen : w.isClosed = false)
    (hclosed : w'.isClosed = true) :
    ∃ before after last, es = before ++ .stop :: after ∧ w.run? before = some last ∧
      last.isClosed = false ∧ last.stopping = true ∧ w'.handed = last.handed ∧
      w.accepted es = w.accepted before := by
  induction es generalizing w with
  | nil =>
    obtain rfl := Option.some.inj h
    simp [hopen] at hclosed
  | cons e es ih =>
    obtain ⟨v, hv, hrun⟩ := run?_cons_eq_some_iff.mp h
    cases hv' : v.isClosed with
    | true =>
      obtain ⟨rfl, htold, hhanded⟩ := (effect_of_step hv).closes hopen hv'
      obtain ⟨-, hlater, hnone⟩ := run_of_closed hrun hv'
      refine ⟨[], es, w, rfl, rfl, hopen, htold, hlater.trans hhanded, ?_⟩
      simp [accepted_cons_of_step hv, hnone, taken]
    | false =>
      obtain ⟨before, after, last, rfl, hlast, hrest⟩ := ih hrun hv'
      obtain ⟨hlastOpen, htold, hhanded, haccepted⟩ := hrest
      refine ⟨e :: before, after, last, rfl, ?_, hlastOpen, htold, hhanded, ?_⟩
      · exact run?_cons_eq_some_iff.mpr ⟨v, hv, hlast⟩
      · rw [accepted_cons_of_step hv, accepted_cons_of_step hv, haccepted]

/-- When the distributor has ended, the jobs that were accepted are those that were handed over, and
after them the one that the distributor held and those that waited when it noticed that it shall
stop. None is accepted any more. So all of them were handed over exactly if at that moment none was
held and none waited. -/
theorem handed_of_ended (hrun : run? ({ settings } : Worker Job) es = some w)
    (hended : w.distributor = .ended) :
    ∃ before after last, es = before ++ .stop :: after ∧
      run? ({ settings } : Worker Job) before = some last ∧ last.stopping = true ∧
      w.handed = last.handed ∧
      accepted { settings } es = w.handed ++ (last.distributor.held?.toList ++ last.waiting) ∧
      last.waiting.length ≤ settings.capacity ∧
      (w.handed = accepted { settings } es ↔
        last.distributor.held? = none ∧ last.waiting = []) ∧
      ∀ job, w.enqueue job = .error (.internal .queueClosed) := by
  have hclosed : w.isClosed = true := isClosed_iff.mpr hended
  obtain ⟨before, after, last, hes, hlast, hopen, htold, hhanded, haccepted⟩ :=
    exists_stop hrun rfl hclosed
  have hjobs : last.jobs = accepted { settings } before := by
    simpa [jobs, Distributor.held?] using jobs_of_run hlast hopen
  have hall : accepted { settings } es =
      w.handed ++ (last.distributor.held?.toList ++ last.waiting) := by
    rw [haccepted, ← hjobs, hhanded, jobs, List.append_assoc]
  refine ⟨before, after, last, hes, hlast, htold, hhanded, hall,
    (keeps_of_run hlast (keeps_new settings)).waiting_le, ?_, fun job => enqueue_of_closed hclosed⟩
  rw [hall, List.self_eq_append_right, List.append_eq_nil_iff, Option.toList_eq_nil_iff]

/-- Of three jobs one was handed over when the worker stopped. -/
theorem handed_of_ended_evening :
    ∃ last : Worker String, last.stopping = true ∧
      last.distributor.held?.toList ++ last.waiting = ["april", "may"] := by
  have hrun : run? { settings := Sample.narrow } Sample.evening = some Sample.stopped := rfl
  obtain ⟨-, -, last, -, -, htold, -, hall, -⟩ := handed_of_ended hrun rfl
  exact ⟨last, htold, (List.cons.inj hall).2.symm⟩

/-- A job is lost that waits when the worker is told to stop, and so is one that waits for a
permit. -/
theorem exists_lost_of_shutdown :
    ¬ ∀ (settings : WorkerSettings) (es : List (Event String)) (w : Worker String),
      run? { settings } es = some w → w.distributor = .ended →
        w.handed = accepted { settings } es := by
  intro h
  have hlost := h {} [.start, .enqueue "march", .enqueue "april", .receive, .shutdown, .stop]
    { settings := {}, distributor := .ended, stopping := true } rfl rfl
  exact absurd hlost (by decide)

end Worker

end BankReconciliation
