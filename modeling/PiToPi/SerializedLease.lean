import PiToPi.Transition
import Mathlib.Logic.Function.Basic
import Mathlib.Tactic.Simps.Basic

/-!
`SerializedLease` (`discovery/lease.ts`): the chain of promises its renewals wait on, its
interval timer and its stopped flag, over the microtasks that run between the calls of the host.

Renewals are named by their numbers, in the order they are requested, and so are calls of
`stop`. The promise that the renewal with number `n` waits on is the `n`-th value of `pending`:
the first is resolved from the start, the next is resolved by the handler the renewal before
leaves behind. A job is one microtask; where a promise takes another's state over through
further ones that no other code waits on, the model has one job for all of them.
-/
namespace PiToPi.SerializedLease
open Function (update)

/-- What a renewal's promise is rejected with: `LeaseStoppedError`, what the callback threw, or
what `clockValue` throws. -/
inductive LeaseError (ε : Type) where
  | stopped
  | thrown (error : ε)
  | clock
  deriving DecidableEq

/-- How a callback ends. -/
abbrev Ending (ε : Type) := Except ε Unit

/-- How a renewal's promise is settled. -/
abbrev Outcome (ε : Type) := Except (LeaseError ε) Unit

inductive LeaseState where
  | idle
  | running
  | stopped
  deriving DecidableEq

/-- Who has called `renew`. -/
inductive Caller where
  | host
  | timer
  | start
  deriving DecidableEq

/-- Where a renewal is. -/
inductive Phase (ε : Type) where
  /-- Its callback has not been called. -/
  | waiting
  /-- Its callback is on the stack. -/
  | calling
  /-- The promise its callback has returned is pending. -/
  | awaiting
  /-- The callback has finished, or was not called for the lease had stopped. -/
  | finished
  /-- The promise `renew` has returned is settled. -/
  | settled (outcome : Outcome ε)

/-- A microtask. -/
inductive Job (ε : Type) where
  /-- The handler of the renewal, on the promise it waits on. -/
  | begin (renewal : Nat)
  /-- What follows `await this.renewal()`. -/
  | resume (renewal : Nat) (ending : Ending ε)
  /-- The promise of the renewal takes over the state of the handler's. -/
  | settle (renewal : Nat) (outcome : Outcome ε)
  /-- The handlers that resolve the next value of `pending`. -/
  | passOn (renewal : Nat) (outcome : Outcome ε)
  /-- `catch` of the timer's handler or of `start`. -/
  | caught (renewal : Nat) (outcome : Outcome ε)
  /-- What follows `await this.pending` in `stop`, and in `start` what follows `stop`. -/
  | resolveStop (call : Nat) (failure : Option (LeaseError ε))

/-- What happens, as the host sees it. -/
inductive Entry (ε : Type) where
  | requested (renewal : Nat) (caller : Caller)
  | began (renewal : Nat)
  | finished (renewal : Nat) (ending : Ending ε)
  | settled (renewal : Nat) (outcome : Outcome ε)
  | stopCalled (call : Nat)
  | stopResolved (call : Nat)

structure Renewal (ε : Type) where
  caller : Caller
  phase : Phase ε
  /-- The next value of `pending` is resolved. -/
  passed : Bool

/-- The promise `start` returns. -/
inductive StartPromise (ε : Type) where
  | pending
  | fulfilled
  | rejected (error : LeaseError ε)

/-- A lease, with the timers of its scheduler and the microtasks that concern it. -/
structure Lease (ε : Type) where
  state : LeaseState
  timer : Option Nat
  startPromise : Option (StartPromise ε)
  lastRenewedAt : Option Nat
  lastError : Option (LeaseError ε)
  renewals : Nat → Renewal ε
  /-- How many renewals have been requested. -/
  requested : Nat
  /-- How many calls of `stop` there have been. -/
  stops : Nat
  /-- The timers of the scheduler that are armed, and how many there have been. -/
  armed : List Nat
  timers : Nat
  /-- The renewal whose callback is on the stack. -/
  calling : Option Nat
  /-- The microtasks in the queue. -/
  jobs : List (Job ε)
  /-- The handlers that wait, each with the number of its value of `pending`. -/
  registered : List (Nat × Job ε)
  log : List (Entry ε)

/-- `new SerializedLease(options)`. -/
def initial (ε : Type) : Lease ε where
  state := .idle
  timer := none
  startPromise := none
  lastRenewedAt := none
  lastError := none
  renewals _ := ⟨.host, .waiting, false⟩
  requested := 0
  stops := 0
  armed := []
  timers := 0
  calling := none
  jobs := []
  registered := []
  log := []

namespace Lease

variable {ε : Type}

@[simps state timer startPromise lastRenewedAt lastError requested stops armed timers calling jobs
  registered log]
def setPhase (s : Lease ε) (i : Nat) (phase : Phase ε) : Lease ε :=
  { s with renewals := update s.renewals i { s.renewals i with phase := phase } }

@[simps state timer startPromise lastRenewedAt lastError requested stops armed timers calling jobs
  registered log]
def setPassed (s : Lease ε) (i : Nat) : Lease ε :=
  { s with renewals := update s.renewals i { s.renewals i with passed := true } }

/-- Append to the queue of microtasks. -/
@[simps]
def enqueue (s : Lease ε) (jobs : List (Job ε)) : Lease ε := { s with jobs := s.jobs ++ jobs }

/-- Take the first microtask from the queue. -/
@[simps]
def dequeue (s : Lease ε) : Lease ε := { s with jobs := s.jobs.tail }

@[simps]
def note (s : Lease ε) (entry : Entry ε) : Lease ε := { s with log := s.log ++ [entry] }

/-- Whose callback is on the stack. -/
@[simps]
def setCalling (s : Lease ε) (calling : Option Nat) : Lease ε := { s with calling := calling }

@[simps]
def setLastError (s : Lease ε) (outcome : Outcome ε) : Lease ε :=
  { s with
    lastError := match outcome with
      | .error error => some error
      | .ok () => s.lastError }

@[simps]
def setLastRenewedAt (s : Lease ε) (time : Nat) : Lease ε := { s with lastRenewedAt := some time }

@[simps]
def setStartPromise (s : Lease ε) (promise : StartPromise ε) : Lease ε :=
  { s with startPromise := some promise }

/-- The `n`-th value of `pending` is resolved. -/
def resolved (s : Lease ε) : Nat → Bool
  | 0 => true
  | n + 1 => (s.renewals n).passed

/-- `then` on the `n`-th value of `pending`, that is not resolved. -/
@[simps]
def register (s : Lease ε) (n : Nat) (job : Job ε) : Lease ε :=
  { s with registered := s.registered ++ [(n, job)] }

/-- `then` on the `n`-th value of `pending`. -/
def react (s : Lease ε) (n : Nat) (job : Job ε) : Lease ε :=
  if s.resolved n then s.enqueue [job] else s.register n job

/-- The handlers on the `n`-th value of `pending` come to the queue. -/
@[simps]
def release (s : Lease ε) (n : Nat) : Lease ε :=
  { s with
    jobs := s.jobs ++ (s.registered.filter (·.1 = n)).map Prod.snd
    registered := s.registered.filter (·.1 ≠ n) }

/-- Another renewal. -/
@[simps state timer startPromise lastRenewedAt lastError requested stops armed timers calling jobs
  registered log]
def addRenewal (s : Lease ε) (caller : Caller) : Lease ε :=
  { s with
    renewals := update s.renewals s.requested ⟨caller, .waiting, false⟩
    requested := s.requested + 1
    log := s.log ++ [.requested s.requested caller] }

/-- `renew()`. -/
def renew (s : Lease ε) (caller : Caller) : Lease ε :=
  (s.addRenewal caller).react s.requested (.begin s.requested)

/-- `start` up to its renewal. -/
@[simps]
def arm (s : Lease ε) : Lease ε :=
  { s with
    state := .running
    timer := some s.timers
    armed := s.armed ++ [s.timers]
    timers := s.timers + 1
    startPromise := some .pending }

/-- `start()`. -/
def start (s : Lease ε) : Lease ε :=
  if s.state = .stopped ∨ s.startPromise.isSome then s else s.arm.renew .start

/-- The first call of `stop` clears the timer. -/
@[simps]
def disarm (s : Lease ε) : Lease ε :=
  { s with
    state := .stopped
    timer := none
    armed := match s.timer with
      | none => s.armed
      | some timer => s.armed.erase timer }

/-- Another call of `stop`. -/
@[simps]
def addStop (s : Lease ε) : Lease ε :=
  { s with stops := s.stops + 1, log := s.log ++ [.stopCalled s.stops] }

/-- `stop()`, of the host or, with the error it then throws, of `start`. -/
def stop (s : Lease ε) (failure : Option (LeaseError ε)) : Lease ε :=
  (if s.state = .stopped then s else s.disarm).addStop.react s.requested
    (.resolveStop s.stops failure)

/-- The renewal's callback is called. -/
@[simps! state timer startPromise lastRenewedAt lastError requested stops armed timers calling jobs
  registered log]
def call (s : Lease ε) (i : Nat) : Lease ε :=
  ((s.setPhase i .calling).setCalling (some i)).note (.began i)

/-- The promise of the handler is settled. -/
@[simps!]
def complete (s : Lease ε) (i : Nat) (outcome : Outcome ε) : Lease ε :=
  s.enqueue [.settle i outcome]

/-- A microtask; `now` is what `clockValue(this.now)` returns, unless it throws. -/
def perform (s : Lease ε) (now : Option Nat) : Job ε → Lease ε
  | .begin i =>
    if s.state = .stopped then (s.setPhase i .finished).complete i (.error .stopped) else s.call i
  | .resume i ending =>
    match ending, now with
    | .error error, _ => s.complete i (.error (.thrown error))
    | .ok (), none => s.complete i (.error .clock)
    | .ok (), some time => (s.setLastRenewedAt time).complete i (.ok ())
  | .settle i outcome =>
    ((s.setPhase i (.settled outcome)).note (.settled i outcome)).enqueue <|
      .passOn i outcome :: if (s.renewals i).caller = .host then [] else [.caught i outcome]
  | .passOn i outcome => ((s.setLastError outcome).setPassed i).release (i + 1)
  | .caught i outcome =>
    match (s.renewals i).caller, outcome with
    | .timer, .error error => s.setLastError (.error error)
    | .start, .ok () => s.setStartPromise .fulfilled
    | .start, .error error => s.stop (some error)
    | _, _ => s
  | .resolveStop k failure =>
    match failure with
    | none => s.note (.stopResolved k)
    | some error => (s.note (.stopResolved k)).setStartPromise (.rejected error)

/-- A callback finishes. -/
@[simps! state timer startPromise lastRenewedAt lastError requested stops armed timers calling jobs
  registered log]
def finish (s : Lease ε) (i : Nat) (ending : Ending ε) : Lease ε :=
  (s.setPhase i .finished).note (.finished i ending)

end Lease

/-- What a callback returns: a promise that is pending, a value or a promise that is settled, or
nothing, for it throws. -/
inductive Returned (ε : Type) where
  | promise
  | ended (ending : Ending ε)
  | threw (error : ε)

/-- What may happen next. The host may call the lease at any point between two microtasks, and
from inside a callback. -/
inductive Event (ε : Type) where
  | renew
  | start
  | stop
  /-- The scheduler calls the handler of a timer. -/
  | tick (timer : Nat)
  /-- The first microtask runs. -/
  | run (now : Option Nat)
  /-- The callback on the stack returns. -/
  | returns (returned : Returned ε)
  /-- The promise a callback has returned is settled. -/
  | settles (renewal : Nat) (ending : Ending ε)

/-- The effect of an event, where it can happen. -/
def step {ε : Type} (s : Lease ε) : Event ε → Option (Lease ε)
  | .renew => some (s.renew .host)
  | .start => some s.start
  | .stop => some (s.stop none)
  | .tick timer => if timer ∈ s.armed then some (s.renew .timer) else none
  | .run now =>
    match s.calling, s.jobs with
    | none, job :: _ => some (s.dequeue.perform now job)
    | _, _ => none
  | .returns returned =>
    match s.calling with
    | none => none
    | some i =>
      match returned with
      | .promise => some ((s.setCalling none).setPhase i .awaiting)
      | .ended ending => some (((s.setCalling none).finish i ending).enqueue [.resume i ending])
      | .threw error => some <|
        ((s.setCalling none).finish i (.error error)).complete i (.error (.thrown error))
  | .settles i ending =>
    match (s.renewals i).phase with
    | .awaiting => some ((s.finish i ending).enqueue [.resume i ending])
    | _ => none

end PiToPi.SerializedLease
