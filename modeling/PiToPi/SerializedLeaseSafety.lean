import PiToPi.SerializedLeaseProofs
import Mathlib.Algebra.Ring.Nat

/-!
What the host sees of a `SerializedLease`: renewals one at a time and in the order of their
requests, none after `stop`, and each promise settled by its own renewal.
-/
namespace PiToPi.SerializedLease
open Transition

variable {ε : Type} {s s' : Lease ε} {front : Nat} {log : List (Entry ε)}

section Log

/-- The callback of a renewal has finished. -/
def Finished (log : List (Entry ε)) (i : Nat) : Prop := ∃ ending, .finished i ending ∈ log

/-- `stop` has been called, by the host or by `start`. -/
def Stopped (log : List (Entry ε)) : Prop := ∃ k, .stopCalled k ∈ log

/-- Why a renewal's promise is settled as it is. -/
def Caused (log : List (Entry ε)) (i : Nat) : Outcome ε → Prop
  | .ok () => .finished i (.ok ()) ∈ log
  | .error .clock => .finished i (.ok ()) ∈ log
  | .error (.thrown error) => .finished i (.error error) ∈ log
  | .error .stopped => Stopped log ∧ .began i ∉ log

/-- What a microtask has to say of a callback has happened. -/
def Job.Justified (log : List (Entry ε)) : Job ε → Prop
  | .resume i ending => .finished i ending ∈ log
  | .settle i outcome => Caused log i outcome
  | _ => True

/-- What may happen after a history. -/
def Allowed (log : List (Entry ε)) : Entry ε → Prop
  | .requested i _ => ∀ j caller, .requested j caller ∈ log → j < i
  | .began i =>
    (∃ caller, .requested i caller ∈ log) ∧ (∀ j, .began j ∈ log → j < i) ∧
      (∀ j < i, .began j ∈ log ∧ Finished log j) ∧ ¬Stopped log ∧
      ∀ j error, .requested j .start ∈ log → .settled j (.error error) ∉ log
  | .finished i _ => .began i ∈ log ∧ ¬Finished log i
  | .settled i outcome => (∀ other, .settled i other ∉ log) ∧ Caused log i outcome
  | .stopCalled _ => True
  | .stopResolved k => .stopCalled k ∈ log ∧ ∀ j, .began j ∈ log → Finished log j

theorem finished_snoc {entry : Entry ε} {i : Nat} :
    Finished (log ++ [entry]) i ↔ Finished log i ∨ ∃ ending, entry = .finished i ending := by
  simp only [Finished, List.mem_append, List.mem_singleton, exists_or, eq_comm]

theorem stopped_snoc {entry : Entry ε} :
    Stopped (log ++ [entry]) ↔ Stopped log ∨ ∃ k, entry = .stopCalled k := by
  simp only [Stopped, List.mem_append, List.mem_singleton, exists_or, eq_comm]

/-- A renewal that has begun has finished, or is on its way. -/
def Running (s : Lease ε) (i : Nat) : Prop :=
  (s.renewals i).phase = .calling ∨ (s.renewals i).phase = .awaiting

/-- What the state says of the history, and the microtasks of their renewals. -/
structure Logged (s : Lease ε) : Prop where
  requested : ∀ i caller, .requested i caller ∈ s.log ↔
    i < s.requested ∧ (s.renewals i).caller = caller
  unbegun : ∀ i, (s.renewals i).phase = .waiting → .began i ∉ s.log
  running : ∀ i, Running s i → .began i ∈ s.log ∧ ¬Finished s.log i
  ended : ∀ i, .began i ∈ s.log → Running s i ∨ Finished s.log i
  began : ∀ i, Finished s.log i → .began i ∈ s.log
  settled : ∀ i outcome, .settled i outcome ∈ s.log ↔ (s.renewals i).phase = .settled outcome
  jobs : ∀ job ∈ s.jobs, job.Justified s.log
  unskipped : ¬Stopped s.log → ∀ i, (s.renewals i).phase ≠ .waiting → .began i ∈ s.log
  stopped : s.state = .stopped ↔ Stopped s.log
  waiting : ∀ n job, (n, job) ∈ s.registered →
    (∃ i, job = .begin i) ∨ ∃ k failure, job = .resolveStop k failure
  history : Each Allowed s.log

theorem caused_snoc {entry : Entry ε} {i : Nat} {outcome : Outcome ε}
    (caused : Caused log i outcome) (other : Stopped log → entry ≠ .began i) :
    Caused (log ++ [entry]) i outcome := by
  rcases outcome with error | _
  · cases error with
    | stopped =>
      refine ⟨stopped_snoc.mpr (.inl caused.1), fun began => ?_⟩
      rcases List.mem_append.mp began with began | began
      · exact caused.2 began
      · exact other caused.1 (List.mem_singleton.mp began).symm
    | thrown error => exact List.mem_append_left _ caused
    | clock => exact List.mem_append_left _ caused
  · exact List.mem_append_left _ caused

/-- A microtask stays justified, for nothing begins after `stop`. -/
theorem Job.Justified.snoc {job : Job ε} {entry : Entry ε} (justified : job.Justified log)
    (other : Stopped log → ∀ i, entry ≠ .began i) : job.Justified (log ++ [entry]) := by
  cases job with
  | resume i ending => exact List.mem_append_left _ justified
  | settle i outcome => exact caused_snoc justified fun stopped => other stopped i
  | begin i => trivial
  | passOn i outcome => trivial
  | caught i outcome => trivial
  | resolveStop k failure => trivial

/-- A change that the host does not see. -/
theorem Logged.frame (logged : Logged s) (log : s'.log = s.log)
    (requested : s'.requested = s.requested)
    (state : s'.state = .stopped ↔ s.state = .stopped)
    (phase : ∀ i, (s'.renewals i).phase = (s.renewals i).phase)
    (caller : ∀ i, (s'.renewals i).caller = (s.renewals i).caller)
    (jobs : ∀ job ∈ s'.jobs, job ∈ s.jobs ∨ job.Justified s.log)
    (registered : ∀ waiter ∈ s'.registered, waiter ∈ s.registered ∨
      (∃ i, waiter.2 = .begin i) ∨ ∃ k failure, waiter.2 = .resolveStop k failure) :
    Logged s' := by
  constructor
  · simpa only [log, requested, caller] using logged.requested
  · simpa only [log, phase] using logged.unbegun
  · simpa only [log, phase, Running] using logged.running
  · simpa only [log, phase, Running] using logged.ended
  · simpa only [log] using logged.began
  · simpa only [log, phase] using logged.settled
  · intro job member
    rw [log]
    rcases jobs job member with member | justified
    · exact logged.jobs job member
    · exact justified
  · simpa only [log, phase] using logged.unskipped
  · simpa only [log, state] using logged.stopped
  · intro n job member
    rcases registered _ member with member | kind
    · exact logged.waiting n job member
    · exact kind
  · simpa only [log] using logged.history

/-- A handler that speaks of no callback waits. -/
theorem Logged.react {n : Nat} {job : Job ε} (logged : Logged s)
    (kind : (∃ i, job = .begin i) ∨ ∃ k failure, job = .resolveStop k failure) :
    Logged (s.react n job) := by
  have quiet : job.Justified s.log := by
    rcases kind with ⟨i, rfl⟩ | ⟨k, failure, rfl⟩ <;> trivial
  unfold Lease.react
  split
  · refine logged.frame rfl rfl .rfl (fun _ => rfl) (fun _ => rfl) (fun other member => ?_)
      (fun _ => .inl)
    rcases List.mem_append.mp member with member | member
    · exact .inl member
    · exact .inr (List.mem_singleton.mp member ▸ quiet)
  · refine logged.frame rfl rfl .rfl (fun _ => rfl) (fun _ => rfl) (fun _ => .inl)
      (fun waiter member => ?_)
    rcases List.mem_append.mp member with member | member
    · exact .inl member
    · exact .inr (List.mem_singleton.mp member ▸ kind)

theorem Logged.addRenewal (logged : Logged s) (places : Places s front) (caller : Caller) :
    Logged (s.addRenewal caller) := by
  have fresh := places.behind s.requested (.inr (Nat.le_refl _))
  have phase (i : Nat) : ((s.addRenewal caller).renewals i).phase = (s.renewals i).phase := by
    rw [Lease.addRenewal_phase]
    split
    next same => rw [same, fresh]
    · rfl
  constructor
  all_goals
    simp only [phase, Running, finished_snoc, stopped_snoc, Lease.addRenewal_log,
      Lease.addRenewal_requested, Lease.addRenewal_jobs, Lease.addRenewal_registered,
      Lease.addRenewal_state, Lease.addRenewal_caller, List.mem_append, List.mem_singleton,
      reduceCtorEq, exists_false, or_false, Entry.requested.injEq]
  · have := logged.requested
    grind
  · exact logged.unbegun
  · exact logged.running
  · exact logged.ended
  · exact logged.began
  · exact logged.settled
  · exact fun job member => (logged.jobs job member).snoc (by simp)
  · exact logged.unskipped
  · exact logged.stopped
  · exact logged.waiting
  · refine logged.history.snoc fun j caller member => ?_
    exact ((logged.requested j caller).mp member).1

/-- `stop` is called: the timer has been cleared, now or before. -/
theorem Logged.addStop (logged : Logged s) (log : s'.log = s.log)
    (requested : s'.requested = s.requested) (state : s'.state = .stopped)
    (renewals : s'.renewals = s.renewals) (jobs : s'.jobs = s.jobs)
    (registered : s'.registered = s.registered) : Logged s'.addStop := by
  constructor
  all_goals
    simp only [Running, finished_snoc, stopped_snoc, Lease.addStop_log, Lease.addStop_requested,
      Lease.addStop_jobs, Lease.addStop_registered, Lease.addStop_state, Lease.addStop_renewals,
      log, requested, state, renewals, jobs, registered, List.mem_append, List.mem_singleton,
      reduceCtorEq, exists_false, or_false, Entry.stopCalled.injEq]
  · exact logged.requested
  · exact logged.unbegun
  · exact logged.running
  · exact logged.ended
  · exact logged.began
  · exact logged.settled
  · exact fun job member => (logged.jobs job member).snoc (by simp)
  · exact fun never => absurd (Or.inr ⟨_, rfl⟩) never
  · simp
  · exact logged.waiting
  · exact logged.history.snoc trivial

theorem Logged.stop (logged : Logged s) (failure : Option (LeaseError ε)) :
    Logged (s.stop failure) := by
  unfold Lease.stop
  refine Logged.react ?_ (.inr ⟨_, _, rfl⟩)
  split
  next stopped => exact logged.addStop rfl rfl stopped rfl rfl rfl
  · exact logged.addStop rfl rfl rfl rfl rfl rfl

theorem Logged.dequeue (logged : Logged s) : Logged s.dequeue :=
  logged.frame rfl rfl .rfl (fun _ => rfl) (fun _ => rfl)
    (fun _ member => .inl (List.mem_of_mem_tail member)) (fun _ => .inl)

theorem Logged.free (logged : Logged s) : Logged (s.setCalling none) :=
  logged.frame rfl rfl .rfl (fun _ => rfl) (fun _ => rfl) (fun _ => .inl) (fun _ => .inl)

/-- A renewal whose turn has come is refused after `stop`. -/
theorem Logged.refuse {i : Nat} (logged : Logged s) (stopped : s.state = .stopped)
    (waiting : (s.renewals i).phase = .waiting) :
    Logged ((s.setPhase i .finished).complete i (.error .stopped)) := by
  constructor
  all_goals
    simp only [Running, Lease.complete_log, Lease.complete_requested, Lease.complete_jobs,
      Lease.complete_registered, Lease.complete_state, Lease.complete_renewals,
      Lease.setPhase_log, Lease.setPhase_requested, Lease.setPhase_jobs,
      Lease.setPhase_registered, Lease.setPhase_state, Lease.setPhase_phase,
      Lease.setPhase_caller, List.mem_append, List.mem_singleton]
  · exact logged.requested
  · have unbegun := logged.unbegun
    grind
  · have running := logged.running
    grind [Running]
  · have ended := logged.ended
    have unbegun := logged.unbegun
    grind [Running]
  · exact logged.began
  · have settled := logged.settled
    grind
  · rintro job (member | rfl)
    · exact logged.jobs job member
    · exact ⟨logged.stopped.mp stopped, logged.unbegun i waiting⟩
  · exact fun never => absurd (logged.stopped.mp stopped) never
  · exact logged.stopped
  · exact logged.waiting
  · exact logged.history

/-- A renewal whose turn has come calls its callback. -/
theorem Logged.call {i : Nat} (logged : Logged s) (waiting : (s.renewals i).phase = .waiting)
    (allowed : Allowed s.log (.began i)) : Logged (s.call i) := by
  have unfinished : ¬Finished s.log i := fun finished =>
    logged.unbegun i waiting (logged.began i finished)
  constructor
  all_goals
    simp only [Running, finished_snoc, stopped_snoc, Lease.call_log, Lease.call_requested,
      Lease.call_jobs, Lease.call_registered, Lease.call_state, Lease.call_phase,
      Lease.call_caller, List.mem_append, List.mem_singleton, reduceCtorEq, or_false,
      exists_false, Entry.began.injEq]
  · exact logged.requested
  · have unbegun := logged.unbegun
    grind
  · have running := logged.running
    grind [Running]
  · have ended := logged.ended
    grind [Running]
  · exact fun j finished => .inl (logged.began j finished)
  · have settled := logged.settled
    grind
  · exact fun job member => (logged.jobs job member).snoc fun stopped =>
      absurd stopped allowed.2.2.2.1
  · have unskipped := logged.unskipped
    grind
  · exact logged.stopped
  · exact logged.waiting
  · exact logged.history.snoc allowed

/-- The callback of a renewal finishes. -/
theorem Logged.finish {i : Nat} (logged : Logged s) (running : Running s i) (ending : Ending ε) :
    Logged (s.finish i ending) := by
  have started := logged.running i running
  constructor
  all_goals
    simp only [Running, finished_snoc, stopped_snoc, Lease.finish_log, Lease.finish_requested,
      Lease.finish_jobs, Lease.finish_registered, Lease.finish_state, Lease.finish_phase,
      Lease.finish_caller, List.mem_append, List.mem_singleton, reduceCtorEq, or_false,
      exists_false, Entry.finished.injEq]
  · exact logged.requested
  · have unbegun := logged.unbegun
    grind
  · have running := logged.running
    grind [Running]
  · have ended := logged.ended
    grind [Running]
  · have began := logged.began
    grind
  · have settled := logged.settled
    rcases running with running | running <;> grind
  · exact fun job member => (logged.jobs job member).snoc (by simp)
  · have unskipped := logged.unskipped
    grind
  · exact logged.stopped
  · exact logged.waiting
  · exact logged.history.snoc started

/-- Justified microtasks come to the queue. -/
theorem Logged.enqueue {jobs : List (Job ε)} (logged : Logged s)
    (justified : ∀ job ∈ jobs, job.Justified s.log) : Logged (s.enqueue jobs) :=
  logged.frame rfl rfl .rfl (fun _ => rfl) (fun _ => rfl)
    (fun job member => (List.mem_append.mp member).imp_right (justified job)) (fun _ => .inl)

/-- The promise of a renewal is settled. -/
theorem Logged.settle {i : Nat} {outcome : Outcome ε} (logged : Logged s)
    (finished : (s.renewals i).phase = .finished) (caused : Caused s.log i outcome) :
    Logged ((s.setPhase i (.settled outcome)).note (.settled i outcome)) := by
  constructor
  all_goals
    simp only [Running, finished_snoc, stopped_snoc, Lease.note_log, Lease.note_requested,
      Lease.note_jobs, Lease.note_registered, Lease.note_state, Lease.note_renewals,
      Lease.setPhase_log, Lease.setPhase_requested, Lease.setPhase_jobs,
      Lease.setPhase_registered, Lease.setPhase_state, Lease.setPhase_phase,
      Lease.setPhase_caller, List.mem_append, List.mem_singleton, reduceCtorEq, or_false,
      exists_false, Entry.settled.injEq]
  · exact logged.requested
  · have unbegun := logged.unbegun
    grind
  · have running := logged.running
    grind [Running]
  · have ended := logged.ended
    grind [Running]
  · exact logged.began
  · have settled := logged.settled
    grind
  · exact fun job member => (logged.jobs job member).snoc (by simp)
  · have unskipped := logged.unskipped
    grind
  · exact logged.stopped
  · exact logged.waiting
  · refine logged.history.snoc ⟨fun other settled => ?_, caused⟩
    rw [logged.settled, finished] at settled
    cases settled

/-- The promise a callback has returned is awaited. -/
theorem Logged.await {i : Nat} (logged : Logged s) (called : (s.renewals i).phase = .calling) :
    Logged ((s.setCalling none).setPhase i .awaiting) := by
  constructor
  all_goals
    simp only [Running, Lease.setPhase_log, Lease.setPhase_requested, Lease.setPhase_jobs,
      Lease.setPhase_registered, Lease.setPhase_state, Lease.setPhase_phase,
      Lease.setPhase_caller, Lease.setCalling_log, Lease.setCalling_requested,
      Lease.setCalling_jobs, Lease.setCalling_registered, Lease.setCalling_state,
      Lease.setCalling_renewals]
  · exact logged.requested
  · have unbegun := logged.unbegun
    grind
  · have running := logged.running
    grind [Running]
  · have ended := logged.ended
    grind [Running]
  · exact logged.began
  · have settled := logged.settled
    grind
  · exact logged.jobs
  · have unskipped := logged.unskipped
    grind
  · exact logged.stopped
  · exact logged.waiting
  · exact logged.history

/-- `stop` resolves. -/
theorem Logged.resolveStop {k : Nat} (logged : Logged s)
    (allowed : Allowed s.log (.stopResolved k)) : Logged (s.note (.stopResolved k)) := by
  constructor
  all_goals
    simp only [Running, finished_snoc, stopped_snoc, Lease.note_log, Lease.note_requested,
      Lease.note_jobs, Lease.note_registered, Lease.note_state, Lease.note_renewals,
      List.mem_append, List.mem_singleton, reduceCtorEq, or_false, exists_false]
  · exact logged.requested
  · exact logged.unbegun
  · exact logged.running
  · exact logged.ended
  · exact logged.began
  · exact logged.settled
  · exact fun job member => (logged.jobs job member).snoc (by simp)
  · exact logged.unskipped
  · exact logged.stopped
  · exact logged.waiting
  · exact logged.history.snoc allowed

end Log

section Stops

/-- The initial renewal has failed with what `start` rejects its promise with. -/
def Blamed (log : List (Entry ε)) (failure : Option (LeaseError ε)) : Prop :=
  ∀ error, failure = some error →
    ∃ i, .requested i .start ∈ log ∧ .settled i (.error error) ∈ log

theorem Blamed.mono {log' : List (Entry ε)} {failure : Option (LeaseError ε)}
    (blamed : Blamed log failure) (grows : ∀ entry ∈ log, entry ∈ log') : Blamed log' failure := by
  intro error same
  obtain ⟨i, requested, settled⟩ := blamed error same
  exact ⟨i, grows _ requested, grows _ settled⟩

def Job.isBegin : Job ε → Bool
  | .begin _ => true
  | _ => false

def Job.isCaught : Job ε → Bool
  | .caught _ _ => true
  | _ => false

/-- The calls of `stop` that wait, the handler of `start`, which no renewal overtakes, and the
timer. -/
structure Stops (s : Lease ε) : Prop where
  resolving : ∀ k failure, .resolveStop k failure ∈ s.jobs →
    .stopCalled k ∈ s.log ∧ (∀ j, .began j ∈ s.log → Finished s.log j) ∧ Blamed s.log failure
  waiting : ∀ n k failure, (n, .resolveStop k failure) ∈ s.registered →
    .stopCalled k ∈ s.log ∧ (∀ j, .began j ∈ s.log → j < n) ∧ Blamed s.log failure
  caught : ∀ i outcome, .caught i outcome ∈ s.jobs → .settled i outcome ∈ s.log
  ordered : s.jobs.Pairwise fun first second => first.isBegin = true → second.isCaught = false
  failing : ∀ i error, .requested i .start ∈ s.log → .settled i (.error error) ∈ s.log →
    .caught i (.error error) ∈ s.jobs ∨ Stopped s.log
  rejected : ∀ error, s.startPromise = some (.rejected error) →
    Stopped s.log ∧ Blamed s.log (some error)
  armed : s.armed = s.timer.toList
  unarmed : s.startPromise = none ∨ s.state = .stopped → s.timer = none

theorem Stopped.mono {log' : List (Entry ε)} (stopped : Stopped log)
    (grows : ∀ entry ∈ log, entry ∈ log') : Stopped log' :=
  stopped.imp fun _ member => grows _ member

/-- A change that calls no `stop`; nothing begins after one. -/
theorem Stops.change (stops : Stops s) (grows : ∀ entry ∈ s.log, entry ∈ s'.log)
    (began : Stopped s.log → ∀ j, .began j ∈ s'.log → .began j ∈ s.log)
    (resolving : ∀ k failure, .resolveStop k failure ∈ s'.jobs → .resolveStop k failure ∈ s.jobs)
    (waiting : ∀ n k failure, (n, .resolveStop k failure) ∈ s'.registered →
      (n, .resolveStop k failure) ∈ s.registered)
    (caught : ∀ i outcome, .caught i outcome ∈ s'.jobs →
      .caught i outcome ∈ s.jobs ∨ .settled i outcome ∈ s'.log)
    (ordered : s'.jobs.Pairwise fun first second =>
      first.isBegin = true → second.isCaught = false)
    (failing : ∀ i error, .requested i .start ∈ s'.log → .settled i (.error error) ∈ s'.log →
      .caught i (.error error) ∈ s'.jobs ∨ Stopped s.log)
    (promise : s'.startPromise = s.startPromise) (armed : s'.armed = s.armed)
    (timer : s'.timer = s.timer) (state : s'.state = s.state) : Stops s' := by
  constructor
  · intro k failure member
    obtain ⟨called, finished, blamed⟩ := stops.resolving k failure (resolving k failure member)
    refine ⟨grows _ called, fun j member => ?_, blamed.mono grows⟩
    exact (finished j (began ⟨k, called⟩ j member)).imp fun _ => grows _
  · intro n k failure member
    obtain ⟨called, before, blamed⟩ := stops.waiting n k failure (waiting n k failure member)
    exact ⟨grows _ called, fun j member => before j (began ⟨k, called⟩ j member),
      blamed.mono grows⟩
  · intro i outcome member
    rcases caught i outcome member with member | settled
    · exact grows _ (stops.caught i outcome member)
    · exact settled
  · exact ordered
  · intro i error requested settled
    exact (failing i error requested settled).imp_right fun stopped => stopped.mono grows
  · intro error rejected
    obtain ⟨stopped, blamed⟩ := stops.rejected error (promise ▸ rejected)
    exact ⟨stopped.mono grows, blamed.mono grows⟩
  · rw [armed, timer, stops.armed]
  · rw [promise, timer, state]
    exact stops.unarmed

/-- A renewal's handler comes to the end of the queue, or waits. -/
theorem Stops.react_begin {n i : Nat} (stops : Stops s) : Stops (s.react n (.begin i)) := by
  unfold Lease.react
  split
  · refine stops.change (fun _ => id) (fun _ _ => id) (fun k failure member => ?_)
      (fun _ _ _ => id) (fun j outcome member => ?_) ?_ (fun j error requested settled => ?_)
      rfl rfl rfl rfl
    · simpa using member
    · exact .inl (by simpa using member)
    · exact List.pairwise_append.mpr ⟨stops.ordered, List.pairwise_singleton _ _, by
        simp [Job.isCaught]⟩
    · exact (stops.failing j error requested settled).imp_left (List.mem_append_left _)
  · refine stops.change (fun _ => id) (fun _ _ => id) (fun _ _ => id) (fun m k failure member => ?_)
      (fun _ _ => .inl) stops.ordered stops.failing rfl rfl rfl rfl
    simpa using member

theorem Stops.renew (stops : Stops s) (logged : Logged s) (places : Places s front)
    (caller : Caller) : Stops (s.renew caller) := by
  unfold Lease.renew
  apply Stops.react_begin
  refine stops.change (fun _ => List.mem_append_left _) (fun _ j member => ?_) (fun _ _ => id)
    (fun _ _ _ => id) (fun _ _ => .inl) stops.ordered (fun i error requested settled => ?_)
    rfl rfl rfl rfl
  · simpa using member
  · simp only [Lease.addRenewal_log, List.mem_append, List.mem_singleton, reduceCtorEq, or_false,
      Entry.requested.injEq] at requested settled
    rcases requested with requested | ⟨rfl, -⟩
    · exact stops.failing i error requested settled
    · rw [logged.settled, places.behind _ (.inr (Nat.le_refl _))] at settled
      cases settled

theorem Logged.arm (logged : Logged s) (running : s.state ≠ .stopped) : Logged s.arm :=
  logged.frame rfl rfl (by simpa using running) (fun _ => rfl) (fun _ => rfl) (fun _ => .inl)
    (fun _ => .inl)

/-- The timer `start` arms is the only one. -/
theorem Stops.arm (stops : Stops s) (fresh : s.startPromise = none) : Stops s.arm where
  resolving := stops.resolving
  waiting := stops.waiting
  caught := stops.caught
  ordered := stops.ordered
  failing := stops.failing
  rejected := by simp
  armed := by simp [stops.armed, stops.unarmed (.inl fresh)]
  unarmed := by simp

theorem Stops.start (stops : Stops s) (logged : Logged s) (places : Places s front) :
    Stops s.start := by
  unfold Lease.start
  split
  · exact stops
  next fresh =>
    simp only [not_or, Bool.not_eq_true, Option.isSome_eq_false_iff, Option.isNone_iff_eq_none]
      at fresh
    exact (stops.arm fresh.2).renew (logged.arm fresh.1) (places.congr rfl rfl rfl) .start

theorem Logged.start (logged : Logged s) (places : Places s front) : Logged s.start := by
  unfold Lease.start
  split
  · exact logged
  next fresh =>
    have armed := logged.arm (not_or.mp fresh).1
    exact (armed.addRenewal (places.congr rfl rfl rfl) .start).react (.inl ⟨_, rfl⟩)

/-- A call of `stop` disarms the timer. -/
theorem Stops.addStop (stops : Stops s) (state : s.state = .stopped) : Stops s.addStop where
  resolving k failure member := by
    obtain ⟨called, finished, blamed⟩ := stops.resolving k failure member
    refine ⟨List.mem_append_left _ called, fun j began => ?_, blamed.mono fun _ =>
      List.mem_append_left _⟩
    exact (finished j (by simpa using began)).imp fun _ => List.mem_append_left _
  waiting n k failure member := by
    obtain ⟨called, before, blamed⟩ := stops.waiting n k failure member
    exact ⟨List.mem_append_left _ called, fun j began => before j (by simpa using began),
      blamed.mono fun _ => List.mem_append_left _⟩
  caught i outcome member := List.mem_append_left _ (stops.caught i outcome member)
  ordered := stops.ordered
  failing i error _ _ := .inr ⟨s.stops, by simp⟩
  rejected error promise := by
    obtain ⟨stopped, blamed⟩ := stops.rejected error promise
    exact ⟨stopped.mono fun _ => List.mem_append_left _, blamed.mono fun _ =>
      List.mem_append_left _⟩
  armed := stops.armed
  unarmed _ := stops.unarmed (.inr state)

theorem Stops.disarm (stops : Stops s) : Stops s.disarm where
  resolving := stops.resolving
  waiting := stops.waiting
  caught := stops.caught
  ordered := stops.ordered
  failing := stops.failing
  rejected := stops.rejected
  armed := by
    cases timer : s.timer with
    | none => simp [stops.armed, timer]
    | some timer' => simp [stops.armed, timer]
  unarmed _ := rfl

/-- A call of `stop` waits for the newest value of `pending`, and with it for every callback. -/
theorem Stops.react_stop {k : Nat} {failure : Option (LeaseError ε)} (stops : Stops s)
    (logged : Logged s) (places : Places s front) (called : .stopCalled k ∈ s.log)
    (blamed : Blamed s.log failure) : Stops (s.react s.requested (.resolveStop k failure)) := by
  have inside (j : Nat) (began : .began j ∈ s.log) : j < s.requested := by
    by_contra beyond
    exact logged.unbegun j (places.behind j (.inr (by omega))) began
  unfold Lease.react
  split
  next resolved =>
    rw [places.resolved_iff] at resolved
    have finished (j : Nat) (began : .began j ∈ s.log) : Finished s.log j := by
      obtain ⟨outcome, settled⟩ := places.before j (Nat.lt_of_lt_of_le (inside j began) resolved)
      refine (logged.ended j began).resolve_left fun running => ?_
      rcases running with running | running <;> simp [settled] at running
    refine { stops with resolving := ?_, caught := ?_, ordered := ?_, failing := ?_ }
    · intro l other member
      rcases List.mem_append.mp member with member | member
      · exact stops.resolving l other member
      · cases List.mem_singleton.mp member
        exact ⟨called, finished, blamed⟩
    · intro i outcome member
      exact stops.caught i outcome (by simpa using member)
    · exact List.pairwise_append.mpr ⟨stops.ordered, List.pairwise_singleton _ _, by
        simp [Job.isCaught]⟩
    · intro i error requested settled
      exact (stops.failing i error requested settled).imp_left (List.mem_append_left _)
  · refine { stops with waiting := ?_ }
    intro n l other member
    rcases List.mem_append.mp member with member | member
    · exact stops.waiting n l other member
    · cases List.mem_singleton.mp member
      exact ⟨called, inside, blamed⟩

theorem Stops.stop (stops : Stops s) (logged : Logged s) (places : Places s front)
    (failure : Option (LeaseError ε)) (blamed : Blamed s.log failure) :
    Stops (s.stop failure) := by
  have later : Blamed (s.log ++ [.stopCalled s.stops]) failure :=
    blamed.mono fun _ => List.mem_append_left _
  unfold Lease.stop
  split
  next state =>
    have added := logged.addStop rfl rfl state rfl rfl rfl
    exact (stops.addStop state).react_stop added (places.congr rfl rfl rfl) (by simp) later
  · have added : Logged s.disarm.addStop := logged.addStop rfl rfl rfl rfl rfl rfl
    exact (stops.disarm.addStop rfl).react_stop added (places.congr rfl rfl rfl) (by simp) later

/-- The first microtask leaves the queue, and no handler of `start` with it. -/
theorem Stops.dequeue {job : Job ε} {jobs : List (Job ε)} (stops : Stops s)
    (queue : s.jobs = job :: jobs)
    (quiet : ∀ i error, job = .caught i (.error error) → .requested i .start ∈ s.log →
      Stopped s.log) : Stops s.dequeue := by
  have inQueue {job : Job ε} (member : job ∈ s.dequeue.jobs) : job ∈ s.jobs :=
    List.mem_of_mem_tail member
  refine stops.change (fun _ => id) (fun _ _ => id) (fun _ _ => inQueue) (fun _ _ _ => id)
    (fun _ _ member => .inl (inQueue member)) ?_ (fun i error requested settled => ?_)
    rfl rfl rfl rfl
  · exact stops.ordered.tail
  · rcases stops.failing i error requested settled with member | stopped
    · rw [queue] at member
      rcases List.mem_cons.mp member with same | member
      · exact .inr (quiet i error same.symm requested)
      · exact .inl (by simpa [queue] using member)
    · exact .inr stopped

theorem Stops.setPhase {i : Nat} {phase : Phase ε} (stops : Stops s) : Stops (s.setPhase i phase) :=
  ⟨stops.resolving, stops.waiting, stops.caught, stops.ordered, stops.failing, stops.rejected,
    stops.armed, stops.unarmed⟩

theorem Stops.setCalling {calling : Option Nat} (stops : Stops s) : Stops (s.setCalling calling) :=
  ⟨stops.resolving, stops.waiting, stops.caught, stops.ordered, stops.failing, stops.rejected,
    stops.armed, stops.unarmed⟩

/-- A microtask of a renewal that goes on comes to the queue. -/
theorem Stops.enqueue {job : Job ε} (stops : Stops s) (uncaught : job.isCaught = false)
    (renewal : ∀ k failure, job ≠ .resolveStop k failure) : Stops (s.enqueue [job]) := by
  refine stops.change (fun _ => id) (fun _ _ => id) (fun k failure member => ?_)
    (fun _ _ _ => id) (fun i outcome member => ?_) ?_ (fun i error requested settled => ?_)
    rfl rfl rfl rfl
  · refine (List.mem_append.mp member).resolve_right fun last => ?_
    exact renewal k failure (List.mem_singleton.mp last).symm
  · refine .inl ((List.mem_append.mp member).resolve_right fun last => ?_)
    rw [← List.mem_singleton.mp last] at uncaught
    cases uncaught
  · refine List.pairwise_append.mpr ⟨stops.ordered, List.pairwise_singleton _ _, ?_⟩
    intro first _ last member
    rw [List.mem_singleton.mp member]
    exact fun _ => uncaught
  · exact (stops.failing i error requested settled).imp_left (List.mem_append_left _)

/-- Something other than a request, a settlement or a beginning after `stop` is seen. -/
theorem Stops.note {entry : Entry ε} (stops : Stops s)
    (began : Stopped s.log → ∀ j, entry ≠ .began j)
    (failing : ∀ i error, entry ≠ .requested i .start ∧ entry ≠ .settled i (.error error)) :
    Stops (s.note entry) := by
  refine stops.change (fun _ => List.mem_append_left _) (fun stopped j member => ?_)
    (fun _ _ => id) (fun _ _ _ => id) (fun _ _ => .inl) stops.ordered
    (fun i error requested settled => ?_) rfl rfl rfl rfl
  · refine (List.mem_append.mp member).resolve_right fun last => ?_
    exact began stopped j (List.mem_singleton.mp last).symm
  · have requested := (List.mem_append.mp requested).resolve_right fun last =>
      (failing i error).1 (List.mem_singleton.mp last).symm
    have settled := (List.mem_append.mp settled).resolve_right fun last =>
      (failing i error).2 (List.mem_singleton.mp last).symm
    exact stops.failing i error requested settled

end Stops

section Runs

/-- The invariant, with the renewal in front. -/
structure Inv (s : Lease ε) (front : Nat) : Prop where
  turns : Turns s front
  logged : Logged s
  stops : Stops s

theorem inv_initial : Inv (initial ε) 0 where
  turns :=
    { passed := by simp [initial], le := Nat.le_refl _, before := nofun
      behind := fun _ _ => rfl, calling := by simp [initial], queue := .none rfl rfl
      registered := nofun, chained := nofun, unchained := fun _ _ => rfl }
  logged :=
    { requested := by simp [initial], unbegun := nofun, running := by simp [initial, Running]
      ended := nofun, began := by simp [initial, Finished], settled := by simp [initial]
      jobs := nofun, unskipped := by simp [initial], stopped := by simp [initial, Stopped]
      waiting := nofun, history := each_nil }
  stops :=
    { resolving := nofun, waiting := nofun, caught := nofun, ordered := .nil, failing := nofun
      rejected := nofun, armed := rfl, unarmed := fun _ => rfl }

/-- The renewal a turn is of, at the head of the queue. -/
theorem Inv.turn {job : Job ε} {jobs : List (Job ε)} (inv : Inv s front)
    (queue : s.jobs = job :: jobs) (isTurn : job.isTurn = true) :
    jobs.filter Job.isTurn = [] ∧ Turn s front [job] := by
  have turn := inv.turns.queue
  rw [queue] at turn
  exact turn.tail isTurn

/-- The renewal whose handler runs has not begun, those before it have finished, and no failure
of the initial one waits behind it. -/
theorem Inv.begin_allowed {i : Nat} {jobs : List (Job ε)} (inv : Inv s front)
    (queue : s.jobs = .begin i :: jobs) (running : s.state ≠ .stopped) :
    Allowed s.log (.began i) := by
  obtain ⟨-, turn⟩ := inv.turn queue rfl
  cases turn with
  | begin inside waiting =>
    have unstopped : ¬Stopped s.log := fun stopped => running (inv.logged.stopped.mpr stopped)
    refine ⟨⟨_, (inv.logged.requested front _).mpr ⟨inside, rfl⟩⟩, fun j began => ?_,
      fun j earlier => ?_, unstopped, fun j error requested settled => ?_⟩
    · have called : (s.renewals j).phase ≠ .waiting := fun waits => inv.logged.unbegun j waits began
      have notBehind : ¬front < j := fun later => called (inv.turns.behind j (.inl later))
      have notFront : j ≠ front := fun same => called (same ▸ waiting)
      omega
    · obtain ⟨outcome, settled⟩ := inv.turns.before j earlier
      have began := inv.logged.unskipped unstopped j (by simp [settled])
      refine ⟨began, (inv.logged.ended j began).resolve_left fun active => ?_⟩
      rcases active with active | active <;> simp [settled] at active
    · rcases inv.stops.failing j error requested settled with caught | stopped
      · have ordered := inv.stops.ordered
        rw [queue] at caught ordered
        have caught := (List.mem_cons.mp caught).resolve_left (by simp)
        exact absurd ((List.pairwise_cons.mp ordered).1 _ caught rfl) (by simp [Job.isCaught])
      · exact unstopped stopped

theorem caused_of_makes {i : Nat} {ending : Ending ε} {outcome : Outcome ε}
    (makes : Makes ending outcome) (finished : .finished i ending ∈ log) :
    Caused log i outcome := by
  cases makes with
  | thrown error => exact finished
  | clock => exact finished
  | renewed => exact finished

theorem Inv.logged_happens (inv : Inv s front) (happens : Happens s s') : Logged s' := by
  have logged := inv.logged
  have places := inv.turns.toPlaces
  cases happens with
  | renewed caller => exact (logged.addRenewal places caller).react (.inl ⟨_, rfl⟩)
  | started => exact logged.start places
  | stopped => exact logged.stop none
  | refused i jobs free queue stopped =>
    obtain ⟨-, turn⟩ := inv.turn queue rfl
    cases turn with
    | begin inside waiting => exact logged.dequeue.refuse stopped waiting
  | called i jobs free queue running =>
    have allowed := inv.begin_allowed queue running
    obtain ⟨-, turn⟩ := inv.turn queue rfl
    cases turn with
    | begin inside waiting => exact logged.dequeue.call waiting allowed
  | resumed i ending outcome renewedAt jobs free queue makes =>
    have finished : .finished i ending ∈ s.log :=
      logged.jobs (.resume i ending) (queue ▸ List.mem_cons_self)
    have renewed : Logged { s.dequeue with lastRenewedAt := renewedAt } :=
      logged.dequeue.frame rfl rfl .rfl (fun _ => rfl) (fun _ => rfl) (fun _ => .inl) (fun _ => .inl)
    refine renewed.enqueue fun job member => ?_
    cases List.mem_singleton.mp member
    exact caused_of_makes makes finished
  | settled i outcome jobs free queue =>
    have caused : Caused s.log i outcome :=
      logged.jobs (.settle i outcome) (queue ▸ List.mem_cons_self)
    obtain ⟨-, turn⟩ := inv.turn queue rfl
    cases turn with
    | settle _ finished =>
      refine (logged.dequeue.settle finished caused).enqueue fun job member => ?_
      split at member <;> simp at member
      · exact member ▸ trivial
      · rcases member with rfl | rfl <;> trivial
  | passed i outcome jobs free queue =>
    refine logged.frame rfl rfl .rfl (fun j => by simp) (fun j => by simp) (fun job member => ?_)
      (fun waiter member => ?_)
    · rcases List.mem_append.mp member with member | member
      · exact .inl (List.mem_of_mem_tail member)
      · obtain ⟨waiter, inside, rfl⟩ := List.mem_map.mp member
        rcases logged.waiting _ _ (List.mem_filter.mp inside).1 with ⟨j, same⟩ | ⟨k, failure, same⟩
        · exact .inr (same ▸ trivial)
        · exact .inr (same ▸ trivial)
    · exact .inl (List.mem_filter.mp member).1
  | caught i outcome jobs free queue lastError quiet promise =>
    exact logged.dequeue.frame rfl rfl .rfl (fun _ => rfl) (fun _ => rfl) (fun _ => .inl)
      (fun _ => .inl)
  | failed i error jobs free queue start => exact logged.dequeue.stop _
  | resolved k failure jobs free queue =>
    obtain ⟨called, finished, -⟩ := inv.stops.resolving k failure (queue ▸ List.mem_cons_self)
    have noted := logged.dequeue.resolveStop ⟨called, finished⟩
    cases failure with
    | none => exact noted
    | some error =>
      exact noted.frame rfl rfl .rfl (fun _ => rfl) (fun _ => rfl) (fun _ => .inl) (fun _ => .inl)
  | awaited i calls => exact logged.await ((places.calling i).mp calls)
  | ended i ending calls =>
    have running : Running s i := .inl ((places.calling i).mp calls)
    refine (Logged.finish (s := s.setCalling none) logged.free running ending).enqueue
      fun job member => ?_
    cases List.mem_singleton.mp member
    simp [Job.Justified]
  | threw i error calls =>
    have running : Running s i := .inl ((places.calling i).mp calls)
    refine (Logged.finish (s := s.setCalling none) logged.free running (.error error)).enqueue
      fun job member => ?_
    cases List.mem_singleton.mp member
    simp [Job.Justified, Caused]
  | finished i ending awaits =>
    refine (logged.finish (.inr awaits) ending).enqueue fun job member => ?_
    cases List.mem_singleton.mp member
    simp [Job.Justified]

/-- A call of `stop` by the first microtask is one after it. -/
theorem dequeue_stop {job : Job ε} {jobs : List (Job ε)} (queue : s.jobs = job :: jobs)
    (failure : Option (LeaseError ε)) :
    s.dequeue.stop failure = (s.stop failure).dequeue := by
  have resolved (t : Lease ε) (n : Nat) : t.dequeue.resolved n = t.resolved n := by
    cases n <;> rfl
  have react (t : Lease ε) (same : t.jobs = job :: jobs) (n : Nat) (later : Job ε) :
      t.dequeue.react n later = (t.react n later).dequeue := by
    unfold Lease.react
    rw [resolved]
    split
    · simp [Lease.enqueue, Lease.dequeue, same]
    · rfl
  unfold Lease.stop
  rw [← react _ (by split <;> exact queue)]
  by_cases stopped : s.state = .stopped
  · simp only [Lease.dequeue_state, stopped, if_true]
    rfl
  · simp only [Lease.dequeue_state, stopped, if_false]
    rfl

theorem Inv.stops_happens (inv : Inv s front) (happens : Happens s s') : Stops s' := by
  have stops := inv.stops
  have logged := inv.logged
  have places := inv.turns.toPlaces
  cases happens with
  | renewed caller => exact stops.renew logged places caller
  | started => exact stops.start logged places
  | stopped => exact stops.stop logged places none nofun
  | refused i jobs free queue stopped =>
    exact (stops.dequeue queue (by simp)).setPhase.enqueue rfl (by simp)
  | called i jobs free queue running =>
    refine ((stops.dequeue queue (by simp)).setPhase.setCalling).note (fun stopped => ?_) (by simp)
    exact absurd (logged.stopped.mpr stopped) running
  | resumed i ending outcome renewedAt jobs free queue makes =>
    have rest := stops.dequeue queue (by simp)
    have renewed : Stops { s.dequeue with lastRenewedAt := renewedAt } :=
      ⟨rest.resolving, rest.waiting, rest.caught, rest.ordered, rest.failing, rest.rejected,
        rest.armed, rest.unarmed⟩
    exact renewed.enqueue rfl (by simp)
  | settled i outcome jobs free queue =>
    have rest := stops.dequeue queue (by simp)
    have quiet := (inv.turn queue rfl).1
    refine rest.change (fun _ => List.mem_append_left _) (fun _ j member => ?_)
      (fun k failure member => ?_) (fun _ _ _ => id) (fun j other member => ?_) ?_
      (fun j error requested settled => ?_) rfl rfl rfl rfl
    · simpa using member
    · refine (List.mem_append.mp member).resolve_right fun added => ?_
      split at added <;> simp at added
    · refine (List.mem_append.mp member).imp_right fun added => ?_
      split at added <;> simp at added
      simp [added]
    · refine List.pairwise_append.mpr ⟨rest.ordered, ?_, fun first member second _ begins => ?_⟩
      · split <;> simp [Job.isBegin]
      · have turn : first ∈ jobs.filter Job.isTurn := by
          refine List.mem_filter.mpr ⟨by simpa [queue] using member, ?_⟩
          cases first <;> simp_all [Job.isBegin, Job.isTurn]
        rw [quiet] at turn
        cases turn
    · replace requested : .requested j .start ∈ s.log := by simpa using requested
      rcases List.mem_append.mp settled with settled | settled
      · exact (rest.failing j error requested settled).imp_left (List.mem_append_left _)
      · cases List.mem_singleton.mp settled
        refine .inl (List.mem_append_right _ ?_)
        rw [((logged.requested i .start).mp requested).2]
        simp
  | passed i outcome jobs free queue =>
    have rest := stops.dequeue queue (by simp)
    obtain ⟨-, turn⟩ := inv.turn queue rfl
    cases turn with
    | passOn _ settled =>
      have finished (j : Nat) (began : .began j ∈ s.log) (before : j < front + 1) :
          Finished s.log j := by
        have settled : ∃ outcome, (s.renewals j).phase = .settled outcome := by
          by_cases last : j = front
          · exact ⟨outcome, last ▸ settled⟩
          · exact places.before j (by omega)
        obtain ⟨outcome, settled⟩ := settled
        refine (logged.ended j began).resolve_left fun running => ?_
        rcases running with running | running <;> simp [settled] at running
      have released (job : Job ε) (member : job ∈ ((s.registered.filter (·.1 = front + 1)).map
          Prod.snd)) : (front + 1, job) ∈ s.registered ∧ job.isCaught = false := by
        obtain ⟨⟨n, other⟩, inside, rfl⟩ := List.mem_map.mp member
        obtain ⟨inside, same⟩ := List.mem_filter.mp inside
        cases of_decide_eq_true same
        refine ⟨inside, ?_⟩
        rcases logged.waiting _ _ inside with ⟨j, rfl⟩ | ⟨k, failure, rfl⟩ <;> rfl
      refine ⟨fun k failure member => ?_, fun n k failure member => ?_, fun j other member => ?_,
        ?_, fun j error requested settled => ?_, rest.rejected, rest.armed, rest.unarmed⟩
      · rcases List.mem_append.mp member with member | member
        · exact rest.resolving k failure member
        · obtain ⟨called, before, blamed⟩ := stops.waiting _ k failure (released _ member).1
          exact ⟨called, fun j began => finished j began (before j began), blamed⟩
      · exact stops.waiting n k failure (List.mem_filter.mp member).1
      · rcases List.mem_append.mp member with member | member
        · exact rest.caught j other member
        · cases (released _ member).2
      · refine List.pairwise_append.mpr ⟨rest.ordered, ?_, fun first _ second member _ =>
          (released second member).2⟩
        exact List.pairwise_of_forall_mem_list fun first _ second member _ =>
          (released second member).2
      · exact (rest.failing j error requested settled).imp_left (List.mem_append_left _)
  | caught i outcome jobs free queue lastError quiet promise unrejected kept =>
    have rest := stops.dequeue queue fun j error same requested => by
      cases same
      exact absurd rfl (quiet error ((logged.requested i .start).mp requested).2)
    exact ⟨rest.resolving, rest.waiting, rest.caught, rest.ordered, rest.failing,
      fun error rejected => rest.rejected error (unrejected error rejected), rest.armed,
      fun off => rest.unarmed (off.imp_left kept)⟩
  | failed i error jobs free queue start =>
    have settled := stops.caught i _ (queue ▸ List.mem_cons_self)
    have inside : i < s.requested := by
      by_contra beyond
      rw [logged.settled, places.behind i (.inr (by omega))] at settled
      cases settled
    have blamed : Blamed s.log (some error) := by
      rintro other ⟨⟩
      exact ⟨i, (logged.requested i .start).mpr ⟨inside, start⟩, settled⟩
    rw [dequeue_stop queue]
    have called : Stopped (s.stop (some error)).log := ⟨s.stops, by
      unfold Lease.stop Lease.react
      split <;> split <;> simp⟩
    obtain ⟨later, same⟩ : ∃ later, (s.stop (some error)).jobs =
        .caught i (.error error) :: later := by
      unfold Lease.stop Lease.react
      split <;> split <;> simp [queue]
    exact (stops.stop logged places _ blamed).dequeue same fun _ _ _ _ => called
  | resolved k failure jobs free queue =>
    have rest : Stops (s.dequeue.note (.stopResolved k)) :=
      (stops.dequeue queue (by simp)).note (by simp) (by simp)
    obtain ⟨called, -, blamed⟩ := stops.resolving k failure (queue ▸ List.mem_cons_self)
    cases failure with
    | none => exact rest
    | some error =>
      refine ⟨rest.resolving, rest.waiting, rest.caught, rest.ordered, rest.failing,
        fun other rejected => ?_, rest.armed, fun off => rest.unarmed (.inr ?_)⟩
      · cases rejected
        exact ⟨⟨k, List.mem_append_left _ called⟩, blamed.mono fun _ => List.mem_append_left _⟩
      · exact off.resolve_left (by simp [Lease.perform])
  | awaited i calls => exact stops.setCalling.setPhase
  | ended i ending calls =>
    exact (stops.setCalling.setPhase.note (by simp) (by simp)).enqueue rfl (by simp)
  | threw i error calls =>
    exact (stops.setCalling.setPhase.note (by simp) (by simp)).enqueue rfl (by simp)
  | finished i ending awaits =>
    exact (stops.setPhase.note (by simp) (by simp)).enqueue rfl (by simp)

theorem Inv.happens (inv : Inv s front) (happens : Happens s s') : ∃ front', Inv s' front' := by
  obtain ⟨front', -, turns⟩ := inv.turns.happens happens
  exact ⟨front', turns, inv.logged_happens happens, inv.stops_happens happens⟩

/-- What a microtask may still cause, at most. -/
def Job.weight : Job ε → Nat
  | .begin _ => 7
  | .resume _ _ => 7
  | .settle _ _ => 6
  | .passOn _ _ => 1
  | .caught _ _ => 2
  | .resolveStop _ _ => 1

def work (s : Lease ε) : Nat :=
  (s.jobs.map Job.weight).sum + (s.registered.map fun waiter => waiter.2.weight).sum

end Runs

end PiToPi.SerializedLease
