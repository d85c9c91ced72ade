import PiToPi.Dedupe
import PiToPi.TaskStore

/-!
The timers of a `TaskStore` and of the `MessageRouter` over it, on a host that keeps time.

The store arms a timer for the deadline of a task, on the monotonic clock, and one for the end of
its retention. The router arms one for `expiresAt`, on the wall clock. The system adds to the
store what the host knows of these timers, and when things happened on the monotonic clock.
-/
namespace PiToPi.StoreTimers
open Reentrant Transition

section Router

variable (options : TaskStoreOptions)

/-- The delay of `MessageRouter.scheduleExpiry(requestId, expiresAt)`, unless it is not a number. -/
def routerDelay (expiresAt : JsString) (wallNow : ℚ) : Option ℚ :=
  (Date.parse options.host expiresAt).map fun expiresAtMs => min (max 0 (expiresAtMs - wallNow)) maxTimerDelayMs

/-- The callback that `MessageRouter.scheduleExpiry` arms, up to `finishTask`. -/
def routerExpiryTimer (requestId : JsString) : StoreM Unit := do
  match ← getTask options requestId ⟨true, none⟩ with
  | none => return
  | some current =>
    if !isTerminalTaskState current.state then
      let _ ← expireTask options requestId

end Router

/-- What may be started: an operation of the store, or the callback of a timer that fires at an instant. -/
inductive TimerOp where
  | store (op : StoreOp)
  | expiryFires (record : RecordId) (instant : ℚ)
  | purgeFires (record : RecordId) (instant : ℚ)
  | routerFires (requestId : JsString) (instant : ℚ)

/-- When a timer that expires tasks fired. -/
def TimerOp.bound : TimerOp → Option ℚ
  | .expiryFires _ instant | .routerFires _ instant => some instant
  | _ => none

/-- The record whose purge timer fired. -/
def TimerOp.purges : TimerOp → Option RecordId
  | .purgeFires record _ => some record
  | _ => none

/-- The store with the callbacks of the timers, under every nesting of calls. -/
def timerMachine (options : TaskStoreOptions) : Machine TaskStore StoreCallback TimerOp StoreLoop where
  start
    | .store op => (storeMachine options).start op
    | .expiryFires record _ => finish (expiryTimer options record)
    | .purgeFires record _ => finish (purgeTimer record)
    | .routerFires requestId _ => finish (routerExpiryTimer options requestId)
  round := (storeMachine options).round

abbrev TimerConfig := Config TaskStore StoreCallback TimerOp StoreLoop

/-- An armed timer of the router. -/
structure RouterTimer where
  delay : Option ℚ
  armedAt : ℚ

/-- The store, the instant it is, and since when its timers are armed and its tasks terminal. -/
structure TimedStore where
  config : TimerConfig
  time : ℚ
  expiryArmed : RecordId → ℚ
  purgeArmed : RecordId → ℚ
  settled : RecordId → ℚ
  /-- `MessageRouter.expiryTimers`. -/
  expiryTimers : JsMap JsString RouterTimer

namespace TimedStore

variable (x : TimedStore)

abbrev store : TaskStore := x.config.state

/-- The host fires a timer no earlier than its delay, but at once when that is too long or no number. -/
def MayFire (armedAt : ℚ) (delay : Option ℚ) (instant : ℚ) : Prop :=
  armedAt ≤ instant ∧ ∀ d ∈ delay, d ≤ maxTimerDelayMs → armedAt + d ≤ instant

/-- What the host lets start at an instant. -/
def Starts (instant : ℚ) : TimerOp → Prop
  | .store op => ∀ record, op ≠ .expiryTimer record ∧ op ≠ .purgeTimer record
  | .expiryFires record fired => fired = instant ∧ record < x.store.nextRecord ∧
      (x.store.heap record).expiryTimer.isSome = true ∧
      MayFire (x.expiryArmed record) (x.store.heap record).expiryTimer instant
  | .purgeFires record fired => fired = instant ∧ record < x.store.nextRecord ∧
      (x.store.heap record).purgeTimer.isSome = true ∧
      MayFire (x.purgeArmed record) (x.store.heap record).purgeTimer instant
  | .routerFires requestId fired => fired = instant ∧
      ∃ timer, x.expiryTimers.get? requestId = some timer ∧ MayFire timer.armedAt timer.delay instant

/-- An instant after every reading of the monotonic clock that a segment made, and before every later one. -/
structure Instant (s s' : TaskStore) (instant : ℚ) : Prop where
  made : ∀ k, (s'.monotonicNowFn = fun n => s.monotonicNowFn (n + k)) → ∀ j < k, s.monotonicNowFn j ≤ instant
  next : instant ≤ s'.monotonicNowFn 0

/-- When something that holds now, and did not before, began to hold. -/
def since (began : Prop) [Decidable began] (instant before : ℚ) : ℚ := if began then instant else before

/-- The record is there now and has the property, and was not there before or did not have it. -/
def Begins (s s' : TaskStore) (property : StoredTask → Bool) (record : RecordId) : Prop :=
  property (s'.heap record) = true ∧ (s.nextRecord ≤ record ∨ property (s.heap record) = false)

instance (s s' : TaskStore) (property : StoredTask → Bool) (record : RecordId) :
    Decidable (Begins s s' property record) := inferInstanceAs (Decidable (_ ∧ (_ ∨ _)))

/-- After a segment; timers it armed are armed at the instant. -/
def after (config : TimerConfig) (instant : ℚ) : TimedStore :=
  { x with
    config
    time := instant
    expiryArmed := fun r =>
      since (Begins x.store config.state (·.expiryTimer.isSome) r) instant (x.expiryArmed r)
    purgeArmed := fun r =>
      since (Begins x.store config.state (·.purgeTimer.isSome) r) instant (x.purgeArmed r)
    settled := fun r =>
      since (Begins x.store config.state (fun task => isTerminalTaskState task.state) r) instant (x.settled r) }

/-- The callback of a timer of the router deletes its entry first. -/
def fired (move : Machine.Move TimerOp) : TimedStore :=
  match move with
  | .start (.routerFires requestId _) => { x with expiryTimers := x.expiryTimers.delete requestId }
  | _ => x

/-- `MessageRouter.scheduleExpiry(requestId, expiresAt)`. -/
def scheduleExpiry (options : TaskStoreOptions) (requestId expiresAt : JsString) (wallNow instant : ℚ) :
    TimedStore :=
  if x.expiryTimers.has requestId then x
  else
    let timer := ⟨routerDelay options expiresAt wallNow, instant⟩
    { x with expiryTimers := x.expiryTimers.set requestId timer }

end TimedStore

/-- What happens next: a segment, which starts at an instant and arms timers at another, or the router
arms or clears a timer. -/
inductive TimerLabel where
  | segment (move : Machine.Move TimerOp) (starts instant : ℚ)
  | scheduleExpiry (requestId expiresAt : JsString) (wallNow instant : ℚ)
  | clearExpiry (requestId : JsString)

/-- The move may be made at the instant. -/
def MoveStarts (x : TimedStore) (starts : ℚ) : Machine.Move TimerOp → Prop
  | .start op => x.Starts starts op
  | .resume _ | .round => True

/-- One step. -/
inductive TimerStep (options : TaskStoreOptions) : TimedStore → TimerLabel → TimedStore → Prop where
  | segment {x : TimedStore} {move : Machine.Move TimerOp} {op : TimerOp} {config : TimerConfig} {starts instant : ℚ}
      (taken : (timerMachine options).advance x.config move = some (op, config))
      (later : x.time ≤ starts) (before : starts ≤ x.store.monotonicNowFn 0) (ends : starts ≤ instant)
      (allowed : MoveStarts x starts move) (past : TimedStore.Instant x.store config.state instant) :
      TimerStep options x (.segment move starts instant) ((x.fired move).after config instant)
  | scheduleExpiry {x : TimedStore} (requestId expiresAt : JsString) (wallNow : ℚ) {instant : ℚ}
      (later : x.time ≤ instant) (before : instant ≤ x.store.monotonicNowFn 0) :
      TimerStep options x (.scheduleExpiry requestId expiresAt wallNow instant)
        { x.scheduleExpiry options requestId expiresAt wallNow instant with time := instant }
  | clearExpiry {x : TimedStore} (requestId : JsString) :
      TimerStep options x (.clearExpiry requestId)
        { x with expiryTimers := x.expiryTimers.delete requestId }

/-- A fresh store. Its clock does not go back, and goes on: a run reads it finitely often, and what it would
read later only tells how often. -/
structure TimedStore.Fresh (x : TimedStore) : Prop where
  nextRecord : x.store.nextRecord = 0
  records : x.store.records = ∅
  stack : x.config.stack = []
  clock : Monotone x.store.monotonicNowFn
  unbounded : ∀ time, ∃ n, time < x.store.monotonicNowFn n
  time : x.time ≤ x.store.monotonicNowFn 0
  expiryTimers : x.expiryTimers = ∅

def timerSystem (options : TaskStoreOptions) : System TimedStore TimerLabel where
  init := TimedStore.Fresh
  step := TimerStep options

/-- What a timer must be for its callback not to come too early: the host can wait as long as it asks, the
purge timer of a task finds that task, and the router has asked for what was left of the deadline of the
task its timer finds. -/
def Covered (x : TimedStore) : TimerLabel → Prop
  | .segment (.start (.expiryFires record _)) _ _ =>
    ∀ d ∈ (x.store.heap record).expiryTimer, d ≤ maxTimerDelayMs
  | .segment (.start (.purgeFires record _)) _ _ =>
    (∀ d ∈ (x.store.heap record).purgeTimer, d ≤ maxTimerDelayMs) ∧
      x.store.records.get? (x.store.heap record).requestId = some record
  | .segment (.start (.routerFires requestId _)) _ _ =>
    ∀ timer ∈ x.expiryTimers.get? requestId, ∀ record ∈ x.store.records.get? requestId,
      ∃ d ∈ timer.delay, (x.store.heap record).deadlineMonotonicMs ≤ timer.armedAt + d
  | _ => True

/-- What a callback finds is due: a task to expire has reached its deadline, and one to purge has been terminal
for as long as it is retained. -/
def TimedStore.OnTime (options : TaskStoreOptions) (x : TimedStore) : TimerOp → Prop
  | .expiryFires record fired => (x.store.heap record).deadlineMonotonicMs ≤ fired
  | .routerFires requestId fired =>
    ∀ record ∈ x.store.records.get? requestId, (x.store.heap record).deadlineMonotonicMs ≤ fired
  | .purgeFires record fired => isTerminalTaskState (x.store.heap record).state = true ∧
    ∃ retention, options.terminalRetentionMs = some retention ∧ x.settled record + retention ≤ fired
  | .store _ => True

end PiToPi.StoreTimers
