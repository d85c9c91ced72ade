import PiToPi.Policy

/-!
The routing policy with a callback that may do anything: it may throw, and call the policy again.

An operation is under way as a frame of a stack. The frame on top either goes on, which is one
`run`, or waits for `onExpired`; while it waits, the callback may call operations, which come on
top of it, and then returns or throws. The parts of an operation that no callback comes between
are those of `RoutingPolicy`.
-/
namespace PiToPi.PolicyCallback
open Policy Transition

/-- What an operation does after it has expired what is due. -/
inductive After where
  | finish
  | dequeue
  | admission (entry : EntryId) (startImmediately : Bool) (uuids : List JsString)
  /-- The second sweep of `admit` is over, and the record found runnable is queued. -/
  | enqueue (token : Nat)
  deriving DecidableEq

/-- A sweep of `expire`: its time, the next token when it began and, to say what a sweep skips,
the queued records it has looked at. -/
structure Sweep where
  now : ℚ
  since : Nat
  looked : List Nat
  after : After
  deriving DecidableEq

/-- Where an operation is. -/
inductive Frame where
  /-- `index` queued records are left to look at. -/
  | sweepingQueue (sweep : Sweep) (index : Nat)
  /-- The iterator of the active records has passed those of `visited`. -/
  | sweepingActive (sweep : Sweep) (visited : List Nat)
  /-- At the head of the loop of `dequeue`. -/
  | dequeuing
  /-- `dequeue` has shifted a record and marked it expired, and now removes it. -/
  | dropping (token : Nat)
  /-- `cancel` has marked its record expired, and returns. -/
  | cancelling
  deriving DecidableEq

structure World (τ : Type) where
  policy : RoutingPolicy τ
  /-- The operations under way, the innermost first. -/
  stack : List Frame
  /-- The innermost operation waits for `onExpired`. -/
  calling : Bool
  /-- The records `onExpired` has been called for. -/
  notified : List Nat
  /-- What the sweeps that have ended have skipped. -/
  skipped : List Nat
  /-- A member of `undefined` was read. -/
  faulted : Bool

/-- What happens: an operation is called, by the callback if one runs, an operation goes on, and
the callback returns or throws. -/
inductive Event (τ : Type) where
  | call (operation : Operation τ)
  | run
  | returned
  | thrown

/-- What is retained though it was due, or was queued when the sweep began and not looked at. -/
def Sweep.skips {τ : Type} (sweep : Sweep) (p : RoutingPolicy τ) : List Nat :=
  (p.queue.filter fun token => decide ((p.records token).deadline ≤ sweep.now) ||
      (decide (token < sweep.since) && decide (token ∉ sweep.looked))) ++
    p.active.filter fun token =>
      decide ((p.records token).deadline ≤ sweep.now) && !(p.records token).expired

namespace World

variable {τ : Type} (w : World τ)

/-- The innermost operation is over: it has returned, or thrown. -/
def finish (rest : List Frame) (p : RoutingPolicy τ) : World τ :=
  { w with policy := p, stack := rest, calling := !rest.isEmpty }

/-- The innermost operation is at `frame`. -/
def goOn (frame : Frame) (rest : List Frame) (p : RoutingPolicy τ) : World τ :=
  { w with policy := p, stack := frame :: rest, calling := false }

/-- `markExpired(record)`, with the callback called if it has not been. -/
def markExpired (token : Nat) (frame : Frame) (rest : List Frame) (p : RoutingPolicy τ) : World τ :=
  { w with
    policy := p.markExpired token
    stack := frame :: rest
    calling := !(p.records token).expiryNotified
    notified := if (p.records token).expiryNotified then w.notified else w.notified ++ [token] }

/-- `expire(now)` begins. -/
def startSweep (now : ℚ) (after : After) (rest : List Frame) (p : RoutingPolicy τ) : World τ :=
  w.goOn (.sweepingQueue ⟨now, p.nextToken, [], after⟩ p.queue.length) rest p

/-- An operation that reads the clock and sweeps. -/
def callSweep (now : Option (Option ℚ)) (after : After) : World τ :=
  match w.policy.readMonotonicNow now with
  | (.error _, p) => { w with policy := p }
  | (.ok now, p) => w.startSweep now after w.stack p

/-- `cancel` of the record found. Where it marks the record expired, that is the last it does. -/
def callCancel (lookup : RecordLookup) : World τ :=
  match lookup with
  | .found token =>
    let p := (w.policy.cancelRecord token).2
    if (p.records token).expiryNotified && !(w.policy.records token).expiryNotified then
      { w with
        policy := p
        stack := .cancelling :: w.stack
        calling := true
        notified := w.notified ++ [token] }
    else { w with policy := p }
  | _ => w

/-- The record of a request id, for `cancelByRequestId`. -/
def lookupRequest (p : RoutingPolicy τ) (requestId : JsString) : RecordLookup :=
  match p.requestIds requestId with
  | none | some [] => .notFound
  | some [token] => .found token
  | some _ => .ambiguous

/-- An operation is called. -/
def call : Operation τ → World τ
  | .change entry object =>
    { w with policy := { w.policy with objects := Function.update w.policy.objects entry object } }
  | .admission entry startImmediately now uuids =>
    w.callSweep now (.admission entry startImmediately uuids)
  | .dequeue now => w.callSweep now .dequeue
  | .peek now | .isRunnable _ now | .expire now => w.callSweep now .finish
  | .cancel target requestId => w.callCancel (w.policy.findRecord target requestId)
  | .cancelByRequestId requestId => w.callCancel (lookupRequest w.policy requestId)
  | .release target requestId => { w with policy := (w.policy.release target requestId).2 }

/-- What follows a sweep. -/
def afterSweep (host : Host) (sweep : Sweep) (rest : List Frame) (p : RoutingPolicy τ) : World τ :=
  match sweep.after with
  | .finish => w.finish rest p
  | .dequeue =>
    if p.activeCapacity ≤ p.active.length then w.finish rest p else w.goOn .dequeuing rest p
  | .admission entry startImmediately uuids => match p.createRecord host entry uuids with
    | (.error _, p) => w.finish rest p
    | (.ok token, p) =>
      if !p.isRunnableRecord token sweep.now then w.finish rest p
      else if startImmediately then w.finish rest (p.admitActive token).2
      else match p.readMonotonicNow none with
        | (.error _, p) => w.finish rest p
        | (.ok queueNow, p) => w.startSweep queueNow (.enqueue token) rest p
  | .enqueue token =>
    if !p.isRunnableRecord token sweep.now then w.finish rest p
    else if p.queueCapacity ≤ p.queue.length then w.finish rest p
    else
      let p := (p.registerRecord token).update token fun record => { record with status := .queued }
      w.finish rest { p with queue := p.queue ++ [token] }

/-- The innermost operation goes on, up to its next callback, its end or its next record. -/
def run (host : Host) : World τ :=
  let p := w.policy
  match w.stack with
  | [] => w
  | .sweepingQueue sweep 0 :: rest => w.goOn (.sweepingActive sweep []) rest p
  | .sweepingQueue sweep (index + 1) :: rest => match p.queue[index]? with
    | none => { w.finish rest p with faulted := true }
    | some token =>
      let frame := Frame.sweepingQueue { sweep with looked := token :: sweep.looked } index
      if (p.records token).deadline ≤ sweep.now then
        w.markExpired token frame rest (p.removeRecord token)
      else if !p.isRunnableRecord token sweep.now then w.goOn frame rest (p.removeRecord token)
      else w.goOn frame rest p
  | .sweepingActive sweep visited :: rest => match p.active.find? (· ∉ visited) with
    | none => { w with skipped := w.skipped ++ sweep.skips p }.afterSweep host sweep rest p
    | some token =>
      let frame := Frame.sweepingActive sweep (token :: visited)
      if (p.records token).deadline ≤ sweep.now ∧ (p.records token).expired = false then
        w.markExpired token frame rest p
      else w.goOn frame rest p
  | .dequeuing :: rest => match p.queue with
    | [] => w.finish rest p
    | token :: queue => match { p with queue }.claimRecord token with
      | (.error _, p) => w.finish rest p
      | (.ok (some _), p) => w.finish rest p
      | (.ok none, p) =>
        if p.activeCapacity ≤ p.active.length then w.finish rest { p with queue := token :: p.queue }
        else if p.lastObservedNow.any (fun observed => (p.records token).deadline ≤ observed) ||
            (p.records token).expired then w.markExpired token (.dropping token) rest p
        else w.goOn .dequeuing rest (p.removeRecord token)
  | .dropping token :: rest => w.goOn .dequeuing rest (p.removeRecord token)
  | .cancelling :: rest => w.finish rest p

/-- No caller changes the id or the request id of an entry the policy retains. -/
def permits : Operation τ → Bool
  | .change entry object => (w.policy.entries entry).isNone ||
      (object.id == (w.policy.objects entry).id &&
        object.requestId == (w.policy.objects entry).requestId)
  | _ => w.stack.isEmpty || w.calling

/-- A step; what cannot happen changes nothing. -/
def step (host : Host) : Event τ → World τ
  | .call operation => if w.permits operation then w.call operation else w
  | .run => if w.calling then w else w.run host
  | .returned => { w with calling := false }
  | .thrown => if w.calling then w.finish w.stack.tail w.policy else w

end World

/-- A policy in use, from its constructor on. -/
def callbackSystem (host : Host) (τ : Type) : System (World τ) (Event τ) where
  init w := (∃ options clock objects, RoutingPolicy.new options clock objects = .ok w.policy) ∧
    w.stack = [] ∧ w.calling = false ∧ w.notified = [] ∧ w.skipped = [] ∧ w.faulted = false
  step w event w' := w' = w.step host event

end PiToPi.PolicyCallback
