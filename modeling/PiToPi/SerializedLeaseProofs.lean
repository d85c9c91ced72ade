import PiToPi.SerializedLease

/-!
What a run of a `SerializedLease` keeps: one renewal at a time has a microtask or a callback,
those behind it wait for the promise before theirs, and what the host has seen follows.
-/
namespace PiToPi.SerializedLease
open Function (update update_apply)
open Transition

variable {ε : Type} {s s' : Lease ε} {front : Nat}

section Renewals

namespace Lease

variable (s : Lease ε) (i j : Nat)

@[simp] theorem setPhase_phase (phase : Phase ε) :
    ((s.setPhase i phase).renewals j).phase = if j = i then phase else (s.renewals j).phase := by
  by_cases same : j = i <;> simp [setPhase, same]

@[simp] theorem setPhase_caller (phase : Phase ε) :
    ((s.setPhase i phase).renewals j).caller = (s.renewals j).caller := by
  by_cases same : j = i <;> simp [setPhase, same]

@[simp] theorem setPhase_passed (phase : Phase ε) :
    ((s.setPhase i phase).renewals j).passed = (s.renewals j).passed := by
  by_cases same : j = i <;> simp [setPhase, same]

@[simp] theorem setPassed_phase :
    ((s.setPassed i).renewals j).phase = (s.renewals j).phase := by
  by_cases same : j = i <;> simp [setPassed, same]

@[simp] theorem setPassed_caller :
    ((s.setPassed i).renewals j).caller = (s.renewals j).caller := by
  by_cases same : j = i <;> simp [setPassed, same]

@[simp] theorem setPassed_passed :
    ((s.setPassed i).renewals j).passed = true ↔ j = i ∨ (s.renewals j).passed = true := by
  by_cases same : j = i <;> simp [setPassed, same]

@[simp] theorem addRenewal_phase (caller : Caller) :
    ((s.addRenewal caller).renewals j).phase =
      if j = s.requested then .waiting else (s.renewals j).phase := by
  by_cases same : j = s.requested <;> simp [addRenewal, same]

@[simp] theorem addRenewal_caller (caller : Caller) :
    ((s.addRenewal caller).renewals j).caller =
      if j = s.requested then caller else (s.renewals j).caller := by
  by_cases same : j = s.requested <;> simp [addRenewal, same]

@[simp] theorem addRenewal_passed (caller : Caller) :
    ((s.addRenewal caller).renewals j).passed = true ↔
      j ≠ s.requested ∧ (s.renewals j).passed = true := by
  by_cases same : j = s.requested <;> simp [addRenewal, same]

@[simp] theorem call_phase :
    ((s.call i).renewals j).phase = if j = i then .calling else (s.renewals j).phase := by
  simp [call]

@[simp] theorem call_caller : ((s.call i).renewals j).caller = (s.renewals j).caller := by
  simp [call]

@[simp] theorem call_passed : ((s.call i).renewals j).passed = (s.renewals j).passed := by
  simp [call]

@[simp] theorem finish_phase (ending : Ending ε) :
    ((s.finish i ending).renewals j).phase = if j = i then .finished else (s.renewals j).phase := by
  simp [finish]

@[simp] theorem finish_caller (ending : Ending ε) :
    ((s.finish i ending).renewals j).caller = (s.renewals j).caller := by
  simp [finish]

@[simp] theorem finish_passed (ending : Ending ε) :
    ((s.finish i ending).renewals j).passed = (s.renewals j).passed := by
  simp [finish]

end Lease

end Renewals

section Turns

/-- A microtask of the renewal whose turn it is. -/
def Job.isTurn : Job ε → Bool
  | .begin _ => true
  | .resume _ _ => true
  | .settle _ _ => true
  | .passOn _ _ => true
  | .caught _ _ => false
  | .resolveStop _ _ => false

/-- The microtasks of the renewal in front, by its phase. -/
inductive Turn (s : Lease ε) (front : Nat) : List (Job ε) → Prop where
  | none (all : front = s.requested) (phase : (s.renewals front).phase = .waiting) :
    Turn s front []
  | begin (inside : front < s.requested) (phase : (s.renewals front).phase = .waiting) :
    Turn s front [.begin front]
  | calling (phase : (s.renewals front).phase = .calling) : Turn s front []
  | awaiting (phase : (s.renewals front).phase = .awaiting) : Turn s front []
  | resume (ending : Ending ε) (phase : (s.renewals front).phase = .finished) :
    Turn s front [.resume front ending]
  | settle (outcome : Outcome ε) (phase : (s.renewals front).phase = .finished) :
    Turn s front [.settle front outcome]
  | passOn (outcome : Outcome ε) (phase : (s.renewals front).phase = .settled outcome) :
    Turn s front [.passOn front outcome]

/-- The renewals before the one in front are settled, those behind it wait. -/
structure Places (s : Lease ε) (front : Nat) : Prop where
  passed : ∀ i, (s.renewals i).passed = true ↔ i < front
  le : front ≤ s.requested
  before : ∀ i < front, ∃ outcome, (s.renewals i).phase = .settled outcome
  behind : ∀ i, front < i ∨ s.requested ≤ i → (s.renewals i).phase = .waiting
  calling : ∀ i, s.calling = some i ↔ (s.renewals i).phase = .calling

/-- The handlers that begin a renewal, of those on the `n`-th value of `pending`. -/
def chained (s : Lease ε) (n : Nat) : List (Nat × Job ε) :=
  (s.registered.filter (·.1 = n)).filter (·.2.isTurn)

/-- The renewals take their turns: the one in front has a microtask or a callback, those behind
it a handler each that waits. -/
structure Turns (s : Lease ε) (front : Nat) : Prop extends Places s front where
  queue : Turn s front (s.jobs.filter Job.isTurn)
  registered : ∀ n job, (n, job) ∈ s.registered → front < n ∧ n ≤ s.requested
  chained : ∀ n, front < n → n < s.requested → chained s n = [(n, .begin n)]
  unchained : ∀ n, s.requested ≤ n → SerializedLease.chained s n = []

theorem Places.resolved_iff (places : Places s front) (n : Nat) :
    s.resolved n = true ↔ n ≤ front := by
  cases n with
  | zero => simp [Lease.resolved]
  | succ n => exact places.passed n

theorem Places.congr (places : Places s front) (renewals : s'.renewals = s.renewals)
    (requested : s'.requested = s.requested) (calling : s'.calling = s.calling) :
    Places s' front := by
  constructor
  · simpa only [renewals] using places.passed
  · simpa only [requested] using places.le
  · simpa only [renewals] using places.before
  · simpa only [renewals, requested] using places.behind
  · simpa only [renewals, calling] using places.calling

/-- A renewal that has left its place in the chain is the one in front, or settled. -/
theorem Places.eq_front {i : Nat} (places : Places s front)
    (unsettled : ∀ o, (s.renewals i).phase ≠ .settled o)
    (called : (s.renewals i).phase ≠ .waiting) : i = front ∧ front < s.requested := by
  have notBefore : ¬i < front := fun earlier =>
    (places.before i earlier).elim fun outcome settled => unsettled outcome settled
  have notBehind : ¬(front < i ∨ s.requested ≤ i) := fun later => called (places.behind i later)
  omega

/-- Only the renewal in front can be on the stack. -/
theorem Places.calling_front {i : Nat} (places : Places s front)
    (called : (s.renewals i).phase = .calling) : i = front :=
  (places.eq_front (by simp [called]) (by simp [called])).1

/-- A turn that is there does not depend on how many renewals follow. -/
theorem Turn.congr {jobs : List (Job ε)} (turn : Turn s front jobs)
    (phase : (s'.renewals front).phase = (s.renewals front).phase)
    (more : s.requested ≤ s'.requested)
    (same : front < s.requested ∨ s'.requested = s.requested) : Turn s' front jobs := by
  cases turn with
  | none all waiting => exact .none (by omega) (by rw [phase, waiting])
  | begin inside waiting => exact .begin (by omega) (by rw [phase, waiting])
  | calling called => exact .calling (by rw [phase, called])
  | awaiting awaits => exact .awaiting (by rw [phase, awaits])
  | resume ending finished => exact .resume ending (by rw [phase, finished])
  | settle outcome finished => exact .settle outcome (by rw [phase, finished])
  | passOn outcome settled => exact .passOn outcome (by rw [phase, settled])

/-- What is left of the queue after its first microtask. -/
theorem Turn.tail {job : Job ε} {jobs : List (Job ε)}
    (turn : Turn s front ((job :: jobs).filter Job.isTurn)) (isTurn : job.isTurn = true) :
    jobs.filter Job.isTurn = [] ∧ Turn s front [job] := by
  rw [List.filter_cons_of_pos isTurn] at turn
  generalize jobs.filter Job.isTurn = rest at turn
  cases turn with
  | begin inside phase => exact ⟨rfl, .begin inside phase⟩
  | resume ending phase => exact ⟨rfl, .resume ending phase⟩
  | settle outcome phase => exact ⟨rfl, .settle outcome phase⟩
  | passOn outcome phase => exact ⟨rfl, .passOn outcome phase⟩

/-- No microtask is a turn while no renewal is left, or while a callback runs. -/
theorem Turns.quiet (turns : Turns s front)
    (callback : front = s.requested ∨ (s.renewals front).phase = .calling ∨
      (s.renewals front).phase = .awaiting) : s.jobs.filter Job.isTurn = [] := by
  have waiting (all : front = s.requested) : (s.renewals front).phase = .waiting :=
    turns.behind front (.inr (by omega))
  have queue := turns.queue
  generalize s.jobs.filter Job.isTurn = turn at queue ⊢
  cases queue with
  | none => rfl
  | begin inside phase =>
    rcases callback with all | callback
    · omega
    · simp [phase] at callback
  | calling => rfl
  | awaiting => rfl
  | resume _ phase => rcases callback with all | callback <;> simp_all
  | settle _ phase => rcases callback with all | callback <;> simp_all
  | passOn _ phase => rcases callback with all | callback <;> simp_all

/-- A change that leaves the renewals and their microtasks alone. -/
theorem Turns.frame (turns : Turns s front) (renewals : s'.renewals = s.renewals)
    (requested : s'.requested = s.requested) (calling : s'.calling = s.calling)
    (jobs : s'.jobs.filter Job.isTurn = s.jobs.filter Job.isTurn)
    (registered : s'.registered = s.registered) : Turns s' front := by
  have chain (n : Nat) : SerializedLease.chained s' n = SerializedLease.chained s n := by
    simp only [SerializedLease.chained, registered]
  refine ⟨turns.toPlaces.congr renewals requested calling, ?_, ?_, ?_, ?_⟩
  · rw [jobs]
    exact turns.queue.congr (by rw [renewals]) (Nat.le_of_eq requested.symm) (.inr requested)
  · simpa only [registered, requested] using turns.registered
  · simpa only [chain, requested] using turns.chained
  · simpa only [chain, requested] using turns.unchained

/-- The renewal in front goes on to another phase. -/
theorem Turns.advance (phase : Phase ε) (turns : Turns s front)
    (phases : ∀ i, (s'.renewals i).phase = if i = front then phase else (s.renewals i).phase)
    (passed : ∀ i, (s'.renewals i).passed = (s.renewals i).passed)
    (requested : s'.requested = s.requested) (inside : front < s.requested)
    (calling : s'.calling = if phase matches .calling then some front else none)
    (queue : (s'.renewals front).phase = phase → Turn s' front (s'.jobs.filter Job.isTurn))
    (registered : s'.registered = s.registered) : Turns s' front := by
  have chain (n : Nat) : SerializedLease.chained s' n = SerializedLease.chained s n := by
    simp only [SerializedLease.chained, registered]
  refine ⟨⟨?_, ?_, fun i earlier => ?_, fun i later => ?_, fun i => ?_⟩,
    queue (by rw [phases, if_pos rfl]), ?_, ?_, ?_⟩
  · simpa only [passed] using turns.passed
  · simpa only [requested] using turns.le
  · rw [phases, if_neg (Nat.ne_of_lt earlier)]
    exact turns.before i earlier
  · rw [requested] at later
    rw [phases, if_neg (by omega)]
    exact turns.behind i later
  · rw [calling, phases]
    by_cases same : i = front
    · cases phase <;> simp [same]
    · have off : (s.renewals i).phase ≠ .calling := fun called => same (turns.calling_front called)
      cases phase <;> simp [same, off, Ne.symm same]
  · simpa only [registered, requested] using turns.registered
  · simpa only [chain, requested] using turns.chained
  · simpa only [chain, requested] using turns.unchained

theorem chained_register (s : Lease ε) (n m : Nat) (job : Job ε) :
    chained (s.register n job) m =
      chained s m ++ if n = m ∧ job.isTurn = true then [(n, job)] else [] := by
  by_cases same : n = m <;> cases turn : job.isTurn <;> simp [chained, same, turn]

/-- A handler that is no turn waits for the newest value of `pending`. -/
theorem Turns.react {job : Job ε} (turns : Turns s front) (other : job.isTurn = false) :
    Turns (s.react s.requested job) front := by
  unfold Lease.react
  split
  · exact turns.frame rfl rfl rfl (by simp [other]) rfl
  next unresolved =>
    rw [turns.resolved_iff] at unresolved
    refine ⟨turns.toPlaces.congr rfl rfl rfl, turns.queue.congr rfl (Nat.le_refl _) (.inr rfl),
      fun n added member => ?_, fun n behind inside => ?_, fun n beyond => ?_⟩
    · rcases List.mem_append.mp member with member | member
      · exact turns.registered n added member
      · cases List.mem_singleton.mp member
        exact ⟨by omega, Nat.le_refl _⟩
    · rw [chained_register, turns.chained n behind inside]
      simp [other]
    · rw [chained_register, turns.unchained n beyond]
      simp [other]

theorem Turns.stop (turns : Turns s front) (failure : Option (LeaseError ε)) :
    Turns (s.stop failure) front := by
  unfold Lease.stop
  split
  · apply Turns.react (s := s.addStop)
    · exact turns.frame rfl rfl rfl rfl rfl
    · rfl
  · apply Turns.react (s := s.disarm.addStop)
    · exact turns.frame rfl rfl rfl rfl rfl
    · rfl

theorem Places.addRenewal (places : Places s front) (caller : Caller) :
    Places (s.addRenewal caller) front := by
  have le := places.le
  have phase (i : Nat) : ((s.addRenewal caller).renewals i).phase = (s.renewals i).phase := by
    rw [Lease.addRenewal_phase]
    split
    next same => rw [same, places.behind s.requested (.inr (Nat.le_refl _))]
    · rfl
  refine ⟨fun i => ?_, Nat.le_succ_of_le le, fun i earlier => ?_, fun i later => ?_, fun i => ?_⟩
  · rw [Lease.addRenewal_passed, places.passed]
    omega
  · rw [phase]
    exact places.before i earlier
  · rw [phase]
    exact places.behind i (later.imp_right Nat.le_of_succ_le)
  · rw [phase]
    exact places.calling i

/-- A new renewal waits for the promise of the one before. -/
theorem Turns.renew (turns : Turns s front) (caller : Caller) : Turns (s.renew caller) front := by
  have le := turns.le
  have places := turns.addRenewal caller
  have phase : ((s.addRenewal caller).renewals front).phase = (s.renewals front).phase := by
    by_cases newest : front = s.requested
    · simp [newest, turns.behind s.requested (.inr (Nat.le_refl _))]
    · simp [newest]
  unfold Lease.renew Lease.react
  split
  next atEnd =>
    have all : front = s.requested := by
      rw [places.resolved_iff] at atEnd
      omega
    refine ⟨places.congr rfl rfl rfl, ?_, fun n job member => ?_, fun n later inside => ?_,
      fun n beyond => ?_⟩
    · rw [Lease.enqueue_jobs, List.filter_append]
      simp only [Lease.addRenewal_jobs, turns.quiet (.inl all), ← all]
      exact .begin (Nat.lt_succ_of_le le)
        (phase.trans (turns.behind front (.inr (Nat.le_of_eq all.symm))))
    · exact (turns.registered n job member).imp_right Nat.le_succ_of_le
    · exact absurd (Nat.lt_of_lt_of_le later (Nat.le_of_lt_succ inside)) (by omega)
    · exact turns.unchained n (Nat.le_of_succ_le beyond)
  next unresolved =>
    have behind : front < s.requested := by
      rw [places.resolved_iff] at unresolved
      omega
    refine ⟨places.congr rfl rfl rfl, turns.queue.congr phase (Nat.le_succ _) (.inl behind),
      fun n job member => ?_, fun n later inside => ?_, fun n beyond => ?_⟩
    · rcases List.mem_append.mp member with member | member
      · exact (turns.registered n job member).imp_right Nat.le_succ_of_le
      · cases List.mem_singleton.mp member
        exact ⟨behind, Nat.le_succ _⟩
    · replace inside : n < s.requested + 1 := inside
      rw [chained_register]
      show SerializedLease.chained s n ++ _ = _
      by_cases newest : s.requested = n
      · rw [turns.unchained n (Nat.le_of_eq newest)]
        simp [newest, Job.isTurn]
      · rw [turns.chained n later (by omega)]
        simp [newest]
    · replace beyond : s.requested + 1 ≤ n := beyond
      rw [chained_register]
      show SerializedLease.chained s n ++ _ = _
      rw [turns.unchained n (Nat.le_of_succ_le beyond)]
      simp [Nat.ne_of_lt beyond]

theorem Turns.start (turns : Turns s front) : Turns s.start front := by
  unfold Lease.start
  split
  · exact turns
  · apply Turns.renew
    exact turns.frame rfl rfl rfl rfl rfl

/-- The promise before the next renewal is resolved, and its handler comes to the queue. -/
theorem Turns.passOn {outcome : Outcome ε} (turns : Turns s front)
    (settled : (s.renewals front).phase = .settled outcome)
    (quiet : s.jobs.tail.filter Job.isTurn = []) :
    Turns (((s.dequeue.setLastError outcome).setPassed front).release (front + 1)) (front + 1) := by
  have inside : front < s.requested := by
    by_contra all
    have waiting := turns.behind front (.inr (by omega))
    simp [waiting] at settled
  have chain (n : Nat) (later : front + 1 < n) :
      SerializedLease.chained (((s.dequeue.setLastError outcome).setPassed front).release
        (front + 1)) n = SerializedLease.chained s n := by
    simp only [SerializedLease.chained, Lease.release_registered, Lease.setPassed_registered,
      Lease.setLastError_registered, Lease.dequeue_registered, List.filter_filter]
    congr 1
    funext waiter
    by_cases same : waiter.1 = n
    · simp [same, Nat.ne_of_gt later]
    · simp [same]
  refine ⟨⟨fun i => ?_, inside, fun i earlier => ?_, fun i later => ?_, fun i => ?_⟩, ?_,
    fun n job member => ?_, fun n later inside => ?_, fun n beyond => ?_⟩
  · simp [turns.passed]
    omega
  · by_cases last : i = front
    · exact ⟨outcome, by simpa [last] using settled⟩
    · simpa using turns.before i (by omega)
  · simpa using turns.behind i (later.imp_left Nat.lt_of_succ_lt)
  · simpa using turns.calling i
  · have released : ((s.registered.filter (·.1 = front + 1)).map Prod.snd).filter Job.isTurn =
        (SerializedLease.chained s (front + 1)).map Prod.snd := by
      rw [List.filter_map]
      rfl
    simp only [Lease.release_jobs, Lease.setPassed_jobs, Lease.setLastError_jobs,
      Lease.setPassed_registered, Lease.setLastError_registered, Lease.dequeue_jobs,
      Lease.dequeue_registered, List.filter_append, quiet, released, List.nil_append]
    have waiting : (s.renewals (front + 1)).phase = .waiting := turns.behind _ (.inl (by omega))
    by_cases last : front + 1 = s.requested
    · rw [turns.unchained _ (Nat.le_of_eq last.symm)]
      exact .none last (by simpa using waiting)
    · have more : front + 1 < s.requested := by omega
      rw [turns.chained _ (Nat.lt_succ_self _) more]
      exact .begin more (by simpa using waiting)
  · simp only [Lease.release_registered, Lease.setPassed_registered, Lease.setLastError_registered,
      Lease.dequeue_registered, List.mem_filter, decide_eq_true_eq] at member
    have waits := turns.registered n job member.1
    exact ⟨by omega, waits.2⟩
  · rw [chain n later]
    exact turns.chained n (by omega) inside
  · by_cases later : front + 1 < n
    · rw [chain n later]
      exact turns.unchained n beyond
    · have same : n = front + 1 := by
        replace beyond : s.requested ≤ n := beyond
        omega
      simp only [SerializedLease.chained, Lease.release_registered, same, List.filter_filter]
      refine List.filter_eq_nil_iff.mpr fun waiter _ => ?_
      by_cases at' : waiter.1 = front + 1 <;> simp [at']

end Turns

section Steps

/-- What the rest of a renewal's handler makes of the end of its callback. -/
inductive Makes : Ending ε → Outcome ε → Prop where
  | thrown (error : ε) : Makes (.error error) (.error (.thrown error))
  | clock : Makes (.ok ()) (.error .clock)
  | renewed : Makes (.ok ()) (.ok ())

/-- What can happen to a lease, one case for each path of its code. -/
inductive Happens (s : Lease ε) : Lease ε → Prop where
  | renewed (caller : Caller) : Happens s (s.renew caller)
  | started : Happens s s.start
  | stopped : Happens s (s.stop none)
  | refused (i : Nat) (jobs : List (Job ε)) (free : s.calling = none)
    (queue : s.jobs = .begin i :: jobs) (stopped : s.state = .stopped) :
    Happens s ((s.dequeue.setPhase i .finished).complete i (.error .stopped))
  | called (i : Nat) (jobs : List (Job ε)) (free : s.calling = none)
    (queue : s.jobs = .begin i :: jobs) (running : s.state ≠ .stopped) :
    Happens s (s.dequeue.call i)
  | resumed (i : Nat) (ending : Ending ε) (outcome : Outcome ε) (renewedAt : Option Nat)
    (jobs : List (Job ε)) (free : s.calling = none) (queue : s.jobs = .resume i ending :: jobs)
    (makes : Makes ending outcome) :
    Happens s ({ s.dequeue with lastRenewedAt := renewedAt }.complete i outcome)
  | settled (i : Nat) (outcome : Outcome ε) (jobs : List (Job ε)) (free : s.calling = none)
    (queue : s.jobs = .settle i outcome :: jobs) :
    Happens s (((s.dequeue.setPhase i (.settled outcome)).note (.settled i outcome)).enqueue <|
      .passOn i outcome :: if (s.renewals i).caller = .host then [] else [.caught i outcome])
  | passed (i : Nat) (outcome : Outcome ε) (jobs : List (Job ε)) (free : s.calling = none)
    (queue : s.jobs = .passOn i outcome :: jobs) :
    Happens s (((s.dequeue.setLastError outcome).setPassed i).release (i + 1))
  | caught (i : Nat) (outcome : Outcome ε) (jobs : List (Job ε)) (free : s.calling = none)
    (queue : s.jobs = .caught i outcome :: jobs) (lastError : Option (LeaseError ε))
    (quiet : ∀ error, (s.renewals i).caller = .start → outcome ≠ .error error)
    (promise : Option (StartPromise ε)) (unrejected : ∀ error, promise = some (.rejected error) →
      s.startPromise = some (.rejected error))
    (kept : promise = none → s.startPromise = none) :
    Happens s { s.dequeue with lastError := lastError, startPromise := promise }
  | failed (i : Nat) (error : LeaseError ε) (jobs : List (Job ε)) (free : s.calling = none)
    (queue : s.jobs = .caught i (.error error) :: jobs) (start : (s.renewals i).caller = .start) :
    Happens s (s.dequeue.stop (some error))
  | resolved (k : Nat) (failure : Option (LeaseError ε)) (jobs : List (Job ε))
    (free : s.calling = none) (queue : s.jobs = .resolveStop k failure :: jobs) :
    Happens s (s.dequeue.perform none (.resolveStop k failure))
  | awaited (i : Nat) (calls : s.calling = some i) :
    Happens s ((s.setCalling none).setPhase i .awaiting)
  | ended (i : Nat) (ending : Ending ε) (calls : s.calling = some i) :
    Happens s (((s.setCalling none).finish i ending).enqueue [.resume i ending])
  | threw (i : Nat) (error : ε) (calls : s.calling = some i) :
    Happens s (((s.setCalling none).finish i (.error error)).complete i (.error (.thrown error)))
  | finished (i : Nat) (ending : Ending ε) (awaits : (s.renewals i).phase = .awaiting) :
    Happens s ((s.finish i ending).enqueue [.resume i ending])

/-- The front after what happens: a renewal that passes its turn on gives it to the next. -/
theorem Turns.happens (turns : Turns s front) (happens : Happens s s') :
    ∃ front', front ≤ front' ∧ Turns s' front' := by
  have turn := turns.queue
  cases happens with
  | renewed caller => exact ⟨front, Nat.le_refl _, turns.renew caller⟩
  | started => exact ⟨front, Nat.le_refl _, turns.start⟩
  | stopped => exact ⟨front, Nat.le_refl _, turns.stop none⟩
  | refused i jobs free queue stopped =>
    rw [queue] at turn
    obtain ⟨rest, turn⟩ := turn.tail rfl
    cases turn with
    | begin inside waiting =>
      refine ⟨front, Nat.le_refl _, turns.advance .finished (by simp) (by simp) rfl inside
        (by simp [free]) (fun finished => ?_) rfl⟩
      simp only [Lease.complete_jobs, Lease.setPhase_jobs, Lease.dequeue_jobs, queue,
        List.tail_cons, List.filter_append, rest]
      exact .settle _ finished
  | called i jobs free queue running =>
    rw [queue] at turn
    obtain ⟨rest, turn⟩ := turn.tail rfl
    cases turn with
    | begin inside waiting =>
      refine ⟨front, Nat.le_refl _, turns.advance .calling (by simp) (by simp) rfl inside
        (by simp) (fun called => ?_) rfl⟩
      simp only [Lease.call_jobs, Lease.dequeue_jobs, queue, List.tail_cons, rest]
      exact .calling called
  | resumed i ending outcome renewedAt jobs free queue makes =>
    rw [queue] at turn
    obtain ⟨rest, turn⟩ := turn.tail rfl
    cases turn with
    | resume _ finished =>
      have inside := (turns.eq_front (i := front) (by simp [finished]) (by simp [finished])).2
      refine ⟨front, Nat.le_refl _, turns.advance .finished (fun j => ?_) (by simp) rfl inside
        (by simp [free]) (fun finished => ?_) rfl⟩
      · by_cases same : j = front <;> simp [same, finished]
      · simp only [Lease.complete_jobs, Lease.dequeue_jobs, queue, List.tail_cons,
          List.filter_append, rest]
        exact .settle _ finished
  | settled i outcome jobs free queue =>
    rw [queue] at turn
    obtain ⟨rest, turn⟩ := turn.tail rfl
    cases turn with
    | settle _ finished =>
      have inside := (turns.eq_front (i := front) (by simp [finished]) (by simp [finished])).2
      refine ⟨front, Nat.le_refl _, turns.advance (.settled outcome) (by simp) (by simp) rfl inside
        (by simp [free]) (fun settled => ?_) rfl⟩
      simp only [Lease.enqueue_jobs, Lease.note_jobs, Lease.setPhase_jobs, Lease.dequeue_jobs,
        queue, List.tail_cons, List.filter_append, rest]
      split
      · exact .passOn _ settled
      · exact .passOn _ settled
  | passed i outcome jobs free queue =>
    rw [queue] at turn
    obtain ⟨rest, turn⟩ := turn.tail rfl
    cases turn with
    | passOn _ settled =>
      exact ⟨front + 1, Nat.le_succ _, turns.passOn settled (by simpa [queue] using rest)⟩
  | caught i outcome jobs free queue lastError quiet promise =>
    exact ⟨front, Nat.le_refl _, turns.frame rfl rfl rfl (by simp [queue, Job.isTurn]) rfl⟩
  | failed i error jobs free queue start =>
    have rest : Turns s.dequeue front :=
      turns.frame rfl rfl rfl (by simp [queue, Job.isTurn]) rfl
    exact ⟨front, Nat.le_refl _, rest.stop _⟩
  | resolved k failure jobs free queue =>
    refine ⟨front, Nat.le_refl _, ?_⟩
    cases failure <;>
      exact turns.frame rfl rfl rfl (by simp [Lease.perform, queue, Job.isTurn]) rfl
  | awaited i calls =>
    have called := (turns.calling i).mp calls
    obtain ⟨rfl, inside⟩ := turns.eq_front (i := i) (by simp [called]) (by simp [called])
    refine ⟨i, Nat.le_refl _, turns.advance .awaiting (by simp) (by simp) rfl inside (by simp)
      (fun awaits => ?_) rfl⟩
    rw [show ((s.setCalling none).setPhase i .awaiting).jobs = s.jobs from rfl,
      turns.quiet (.inr (.inl called))]
    exact .awaiting awaits
  | ended i ending calls =>
    have called := (turns.calling i).mp calls
    obtain ⟨rfl, inside⟩ := turns.eq_front (i := i) (by simp [called]) (by simp [called])
    refine ⟨i, Nat.le_refl _, turns.advance .finished (by simp) (by simp) rfl inside (by simp)
      (fun finished => ?_) rfl⟩
    simp only [Lease.enqueue_jobs, Lease.finish_jobs, Lease.setCalling_jobs, List.filter_append,
      turns.quiet (.inr (.inl called))]
    exact .resume _ finished
  | threw i error calls =>
    have called := (turns.calling i).mp calls
    obtain ⟨rfl, inside⟩ := turns.eq_front (i := i) (by simp [called]) (by simp [called])
    refine ⟨i, Nat.le_refl _, turns.advance .finished (by simp) (by simp) rfl inside (by simp)
      (fun finished => ?_) rfl⟩
    simp only [Lease.complete_jobs, Lease.finish_jobs, Lease.setCalling_jobs, List.filter_append,
      turns.quiet (.inr (.inl called))]
    exact .settle _ finished
  | finished i ending awaits =>
    obtain ⟨rfl, inside⟩ := turns.eq_front (i := i) (by simp [awaits]) (by simp [awaits])
    have free : s.calling = none := by
      cases calls : s.calling with
      | none => rfl
      | some j =>
        have called := (turns.calling j).mp calls
        rw [turns.calling_front called, awaits] at called
        cases called
    refine ⟨i, Nat.le_refl _, turns.advance .finished (by simp) (by simp) rfl inside
      (by simp [free]) (fun finished => ?_) rfl⟩
    simp only [Lease.enqueue_jobs, Lease.finish_jobs, List.filter_append,
      turns.quiet (.inr (.inr awaits))]
    exact .resume _ finished

end Steps

end PiToPi.SerializedLease
