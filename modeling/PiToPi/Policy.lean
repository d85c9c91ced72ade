import Mathlib.Logic.Function.Basic
import PiToPi.TaskState
import PiToPi.Transition

/-!
`RoutingPolicy`: the bounded admission queue and its active leases.

Records are objects, named here by their token, and entries are objects of the
callers, who may change them between two operations. An operation may end with
an exception half-way, as the clock is read all through it.
-/
namespace PiToPi.Policy

/-- `DEFAULT_QUEUE_CAPACITY`. -/
def defaultQueueCapacity : Nat := 32

/-- A reference to an entry object, and to a lease object. -/
abbrev EntryId := Nat
abbrev LeaseId := Nat

structure RoutingQueueEntry (τ : Type) where
  id : Option JsString
  requestId : Option JsString
  value : τ
  expiresAt : TimestampInput
  cancelled : Bool
  state : Option JsString
  runnable : Option Bool
  aborted : Bool
  /-- What `isCancelled()` answers, if it is there. -/
  isCancelled : Option Bool
  /-- `signal.aborted`. -/
  signalAborted : Bool

inductive RecordStatus where
  | candidate | queued | active | cancelled | released
  deriving DecidableEq, Repr

structure QueueRecord where
  handle : JsString
  entry : EntryId
  deadline : ℚ
  status : RecordStatus
  expired : Bool
  expiryNotified : Bool
  cancellationRequested : Bool
  lease : Option LeaseId

/-- A lease object; `id` is its handle and `value` that of the entry. -/
structure QueueLease where
  object : LeaseId
  handle : JsString
  requestId : Option JsString
  entry : EntryId
  expiresAt : ℚ
  deriving DecidableEq

/-- A target of `release` and the like: an object that may be a lease or an entry,
a reference, or a text. -/
inductive QueueHandle where
  | lease (lease : QueueLease)
  | entry (entry : EntryId)
  | reference (handle : JsString) (requestId : Option JsString)
  | text (target : JsString)

inductive QueueAdmissionDecision where
  | accepted (lease : QueueLease)
  | queued (entry : EntryId) (handle : JsString) (position : Nat)
  | busy (error : ProtocolError)
  | expired (error : ProtocolError)
  | cancelled (error : ProtocolError)

inductive QueueCancellationState where
  | cancelled | cancelling | expired | notFound | ambiguous | notCancelable
  deriving DecidableEq, Repr

/-- `record` is there when the target was found: its entry, handle and request id. -/
structure QueueCancellationDecision where
  state : QueueCancellationState
  record : Option (EntryId × JsString × Option JsString)
  error : ProtocolError

inductive RecordLookup where
  | found (token : Nat)
  | notFound
  | ambiguous
  deriving DecidableEq

inductive PolicyError where
  | rangeError (message : JsString)
  | typeError (message : JsString)
  /-- Not an exception: every UUID drawn so far is taken, and the next is drawn. -/
  | drawing
  deriving DecidableEq

/-- `isRunnableState(state)`. -/
def isRunnableState (state : Option JsString) : Bool :=
  state.all fun (state : JsString) => state == "accepted" || state == "queued"

def RoutingQueueEntry.isCancellationRequested (entry : RoutingQueueEntry τ) : Bool :=
  entry.cancelled || entry.aborted || entry.state == some "cancelled" ||
    entry.state == some "cancelling" || entry.signalAborted || entry.isCancelled == some true

/-- The states that `isTerminalTaskState` holds of. -/
def terminalStates : List JsString :=
  ["completed", "failed", "rejected", "cancelled", "expired"].map JsString.ofString

def isTerminalOrAbortedState (state : Option JsString) : Bool :=
  state.any fun (state : JsString) => state == "aborted" || terminalStates.contains state

/-- `resolveTime(value)`: `none` stands for what is not finite. -/
def resolveTime : Option ℚ → Except PolicyError ℚ
  | some value => .ok value
  | none => .error (.rangeError "queue time must be a finite number or valid Date")

def resolveDeadline (host : Host) : TimestampInput → Except PolicyError ℚ
  | .number (some value) => .ok value
  | .number none => .error (.rangeError "expiresAt must be a finite number")
  | .date time => resolveTime (time.map fun time => (time : ℚ))
  | .wire text => match Date.parse host text with
    | some time => .ok time
    | none => .error (.rangeError
      "expiresAt must be a finite number, valid Date, or RFC 3339 timestamp")

structure RoutingPolicyOptions where
  capacity : Option Int
  queueCapacity : Option Int
  maxQueueEntries : Option Int
  limitsMaxQueueEntries : Option Int
  activeCapacity : Option Int
  maxActiveEntries : Option Int
  /-- `some none` is not finite. -/
  retryAfterMs : Option (Option JsNumber)

/-- `resolveConfiguredCapacity(values, label)`. -/
def resolveConfiguredCapacity (values : List (Option Int)) (label : JsString) :
    Except PolicyError (Option Int) :=
  let configured := values.reduceOption
  if configured.any fun value => some value ≠ configured.head? then
    .error (.rangeError (label ++ " aliases must agree"))
  else .ok configured.head?

def validateCapacity (value : Int) (label : JsString) : Except PolicyError Nat :=
  if value < 1 then .error (.rangeError (label ++ " must be a positive safe integer"))
  else if (defaultQueueCapacity : Int) < value then
    .error (.rangeError (label ++ " must not exceed " ++ .ofNat defaultQueueCapacity))
  else .ok value.toNat

def resolveQueueCapacity (options : RoutingPolicyOptions) : Except PolicyError Nat := do
  let configured ← resolveConfiguredCapacity
    [options.capacity, options.queueCapacity, options.maxQueueEntries, options.limitsMaxQueueEntries]
    "queue capacity"
  validateCapacity (configured.getD defaultQueueCapacity) "queue capacity"

def resolveActiveCapacity (options : RoutingPolicyOptions) (queueCapacity : Nat) :
    Except PolicyError Nat := do
  let configured ← resolveConfiguredCapacity [options.activeCapacity, options.maxActiveEntries]
    "active capacity"
  validateCapacity (configured.getD queueCapacity) "active capacity"

/-- `validateRetryAfterMs(retryAfterMs)`. -/
def validateRetryAfterMs : Option (Option JsNumber) → Except PolicyError (Option JsNumber)
  | none => .ok none
  | some none => .error (.rangeError "retryAfterMs must be a finite positive number")
  | some (some value) =>
    if value.isPositive then .ok (some value)
    else .error (.rangeError "retryAfterMs must be a finite positive number")

structure RoutingPolicy (τ : Type) where
  queueCapacity : Nat
  activeCapacity : Nat
  retryAfterMs : Option JsNumber
  /-- The record objects, by token. -/
  records : Nat → QueueRecord
  nextToken : Nat
  queue : List Nat
  active : List Nat
  handles : JsString → Option Nat
  entries : EntryId → Option (List Nat)
  entryIds : JsString → Option (List Nat)
  requestIds : JsString → Option (List Nat)
  leases : LeaseId → Option Nat
  nextLease : LeaseId
  /-- `none` is minus infinity. -/
  lastObservedNow : Option ℚ
  /-- The readings of the clock, `none` where it is not finite, and how many have
  been made. -/
  monotonicNow : Nat → Option ℚ
  reading : Nat
  /-- The entry objects. -/
  objects : EntryId → RoutingQueueEntry τ
  /-- The entries `onExpired` has been called with. -/
  onExpired : List EntryId

/-- What a call throws or returns, and the policy after it. -/
abbrev Answer (τ α : Type) := Except PolicyError α × RoutingPolicy τ

namespace RoutingPolicy

variable {τ : Type} (p : RoutingPolicy τ)

/-- Assign fields of a record. -/
def update (token : Nat) (change : QueueRecord → QueueRecord) : RoutingPolicy τ :=
  { p with records := Function.update p.records token (change (p.records token)) }

/-- The entry object of a record. -/
def entryOf (token : Nat) : RoutingQueueEntry τ := p.objects (p.records token).entry

/-- `readMonotonicNow(override)`. -/
def readMonotonicNow (override : Option (Option ℚ)) : Answer τ ℚ :=
  let (candidate, p) := match override with
    | some value => (value, p)
    | none => (p.monotonicNow p.reading, { p with reading := p.reading + 1 })
  match resolveTime candidate with
  | .error error => (.error error, p)
  | .ok candidate =>
    if p.lastObservedNow.any fun last => candidate < last then
      (.ok (p.lastObservedNow.getD candidate), p)
    else (.ok candidate, { p with lastObservedNow := some candidate })

/-- `isRunnableRecord(record, now)`. -/
def isRunnableRecord (token : Nat) (now : ℚ) : Bool :=
  let record := p.records token
  let entry := p.entryOf token
  (record.status == .candidate || record.status == .queued) && !record.expired &&
    !record.cancellationRequested && entry.runnable != some false && now < record.deadline &&
    isRunnableState entry.state && !entry.isCancellationRequested

/-- `records.add(record)` in an index of sets. -/
def addTo {κ : Type} [DecidableEq κ] (index : κ → Option (List Nat)) (key : κ) (token : Nat) :
    κ → Option (List Nat) :=
  match index key with
  | none => Function.update index key (some [token])
  | some tokens => Function.update index key (some (tokens.insert token))

/-- `records.delete(record)`; an empty set is removed. -/
def removeFrom {κ : Type} [DecidableEq κ] (index : κ → Option (List Nat)) (key : κ) (token : Nat) :
    κ → Option (List Nat) :=
  match index key with
  | none => index
  | some tokens =>
    if tokens.erase token = [] then Function.update index key none
    else Function.update index key (some (tokens.erase token))

/-- The same under an optional key. -/
def addToMember (index : JsString → Option (List Nat)) (key : Option JsString) (token : Nat) :
    JsString → Option (List Nat) :=
  match key with
  | none => index
  | some key => addTo index key token

def removeFromMember (index : JsString → Option (List Nat)) (key : Option JsString) (token : Nat) :
    JsString → Option (List Nat) :=
  match key with
  | none => index
  | some key => removeFrom index key token

/-- `createRecord(entry)`; `uuids` are the first that `randomUUID` gives. -/
def createRecord (host : Host) (entry : EntryId) (uuids : List JsString) : Answer τ Nat :=
  let object := p.objects entry
  if object.id = some "" ∨ object.requestId = some "" then
    (.error (.typeError "queue entry id and requestId must be non-empty strings when provided"), p)
  else match (uuids.map fun uuid => JsString.ofString "queue:" ++ uuid).find? fun handle =>
      (p.handles handle).isNone with
    | none => (.error .drawing, p)
    | some handle =>
      let token := p.nextToken
      let p := { p with nextToken := token + 1 }
      match resolveDeadline host object.expiresAt with
      | .error error => (.error error, p)
      | .ok deadline =>
        (.ok token, p.update token fun _ =>
          { handle, entry, deadline
            status := .candidate
            expired := false
            expiryNotified := false
            cancellationRequested := false
            lease := none })

/-- `registerRecord(record)`. -/
def registerRecord (token : Nat) : RoutingPolicy τ :=
  let record := p.records token
  let entry := p.entryOf token
  { p with
    handles := Function.update p.handles record.handle (some token)
    entries := addTo p.entries record.entry token
    entryIds := addToMember p.entryIds entry.id token
    requestIds := addToMember p.requestIds entry.requestId token }

/-- `createLease(record)`. -/
def createLease (token : Nat) : QueueLease × RoutingPolicy τ :=
  let record := p.records token
  let lease (object : LeaseId) : QueueLease :=
    { object
      handle := record.handle
      requestId := (p.entryOf token).requestId
      entry := record.entry
      expiresAt := record.deadline }
  match record.lease with
  | some object => (lease object, p)
  | none =>
    let object := p.nextLease
    (lease object,
      { p.update token fun record => { record with lease := some object } with
        leases := Function.update p.leases object (some token)
        nextLease := object + 1 })

/-- `claimRecord(record)`. The second check of the capacity can only repeat the
first, as nothing in between takes a slot. -/
def claimRecord (token : Nat) : Answer τ (Option QueueLease) :=
  if p.activeCapacity ≤ p.active.length then (.ok none, p)
  else match p.readMonotonicNow none with
    | (.error error, p) => (.error error, p)
    | (.ok now, p) =>
      if !p.isRunnableRecord token now then (.ok none, p)
      else match p.readMonotonicNow none with
        | (.error error, p) => (.error error, p)
        | (.ok now, p) =>
          if !p.isRunnableRecord token now then (.ok none, p)
          else if p.activeCapacity ≤ p.active.length then (.ok none, p)
          else
            let p := p.update token fun record => { record with status := .active }
            let (lease, p) := { p with active := p.active ++ [token] }.createLease token
            (.ok (some lease), p)

/-- `removeRecord(record)`. -/
def removeRecord (token : Nat) : RoutingPolicy τ :=
  let record := p.records token
  let entry := p.entryOf token
  let p := if token ∈ p.active then { p with active := p.active.erase token }
    else { p with queue := p.queue.erase token }
  let p := { p with
    handles := if p.handles record.handle = some token then
      Function.update p.handles record.handle none else p.handles
    entries := removeFrom p.entries record.entry token
    entryIds := removeFromMember p.entryIds entry.id token
    requestIds := removeFromMember p.requestIds entry.requestId token
    leases := match record.lease with
      | none => p.leases
      | some object => Function.update p.leases object none }
  p.update token fun record => { record with lease := none, status := .released }

/-- `markExpired(record)`. -/
def markExpired (token : Nat) : RoutingPolicy τ :=
  let p := p.update token fun record => { record with expired := true }
  if (p.records token).expiryNotified then p
  else
    { p.update token fun record => { record with expiryNotified := true } with
      onExpired := p.onExpired ++ [(p.records token).entry] }

/-- `expire` of one queued record. -/
def sweepQueued (now : ℚ) (swept : RoutingPolicy τ × List EntryId) (token : Nat) :
    RoutingPolicy τ × List EntryId :=
  let (p, expired) := swept
  if (p.records token).deadline ≤ now then
    ((p.removeRecord token).markExpired token, expired ++ [(p.records token).entry])
  else if !p.isRunnableRecord token now then (p.removeRecord token, expired)
  else (p, expired)

/-- `expire` of one active record. -/
def sweepActive (now : ℚ) (swept : RoutingPolicy τ × List EntryId) (token : Nat) :
    RoutingPolicy τ × List EntryId :=
  let (p, expired) := swept
  if (p.records token).deadline ≤ now ∧ (p.records token).expired = false then
    (p.markExpired token, expired ++ [(p.records token).entry])
  else (p, expired)

/-- `expire` at a time already observed: the queue from its end, then the active
records. -/
def expireAt (now : ℚ) : RoutingPolicy τ × List EntryId :=
  let (p, expired) := p.queue.reverse.foldl (sweepQueued now) (p, [])
  p.active.foldl (sweepActive now) (p, expired)

/-- `expire(now)`, and `purgeExpired`. -/
def expire (now : Option (Option ℚ)) : Answer τ (List EntryId) :=
  match p.readMonotonicNow now with
  | (.error error, p) => (.error error, p)
  | (.ok now, p) =>
    let (p, expired) := p.expireAt now
    (.ok expired, p)

def expiredError : ProtocolError := createProtocolError .expired "Queue entry has expired"

/-- `admissionDecisionFor(record, now)`. -/
def admissionDecisionFor (token : Nat) (now : ℚ) : QueueAdmissionDecision :=
  if (p.records token).expired || (p.records token).deadline ≤ now then .expired expiredError
  else .cancelled (createProtocolError .cancelled "Queue entry is not runnable")

/-- `busyDecision()`. -/
def busyDecision : QueueAdmissionDecision :=
  let count (n : Nat) : Json := .number (.ofNat n)
  .busy ((createProtocolErrorWith .busy "Routing capacity is temporarily unavailable" p.retryAfterMs
    (some (.record [("capacity", count p.queueCapacity), ("queueCapacity", count p.queueCapacity),
      ("activeCapacity", count p.activeCapacity), ("queued", count p.queue.length),
      ("active", count p.active.length)]))).getD
    (createProtocolError .busy "Routing capacity is temporarily unavailable"))

/-- `admit` of a record found runnable, when it is to start immediately. -/
def admitActive (token : Nat) : Answer τ QueueAdmissionDecision :=
  if p.activeCapacity ≤ p.active.length then (.ok p.busyDecision, p)
  else match (p.registerRecord token).claimRecord token with
    | (.error error, p) => (.error error, p)
    | (.ok (some lease), p) => (.ok (.accepted lease), p)
    | (.ok none, p) =>
      (.ok (p.admissionDecisionFor token (p.lastObservedNow.getD 0)), p.removeRecord token)

/-- `admit` of a record found runnable, when it is to be queued. -/
def admitQueued (token : Nat) : Answer τ QueueAdmissionDecision :=
  match p.readMonotonicNow none with
  | (.error error, p) => (.error error, p)
  | (.ok queueNow, p) =>
    let (p, _) := p.expireAt queueNow
    if !p.isRunnableRecord token queueNow then (.ok (p.admissionDecisionFor token queueNow), p)
    else if p.queueCapacity ≤ p.queue.length then (.ok p.busyDecision, p)
    else
      let p := (p.registerRecord token).update token fun record => { record with status := .queued }
      let p := { p with queue := p.queue ++ [token] }
      (.ok (.queued (p.records token).entry (p.records token).handle p.queue.length), p)

/-- `admit(entry, { startImmediately, now })`; `accept` and `enqueue` are its two
forms. -/
def admitEntry (host : Host) (entry : EntryId) (startImmediately : Bool) (now : Option (Option ℚ))
    (uuids : List JsString) : Answer τ QueueAdmissionDecision :=
  match p.readMonotonicNow now with
  | (.error error, p) => (.error error, p)
  | (.ok now, p) =>
    let (p, _) := p.expireAt now
    match p.createRecord host entry uuids with
    | (.error error, p) => (.error error, p)
    | (.ok token, p) =>
      if !p.isRunnableRecord token now then (.ok (p.admissionDecisionFor token now), p)
      else if startImmediately then p.admitActive token
      else p.admitQueued token

/-- The loop of `dequeue`. Every round shifts the queue, so that its length bounds
the rounds. -/
def dequeueLoop : Nat → RoutingPolicy τ → Answer τ (Option QueueLease)
  | 0, p => (.ok none, p)
  | fuel + 1, p => match p.queue with
    | [] => (.ok none, p)
    | token :: rest => match { p with queue := rest }.claimRecord token with
      | (.error error, p) => (.error error, p)
      | (.ok (some lease), p) => (.ok (some lease), p)
      | (.ok none, p) =>
        if p.activeCapacity ≤ p.active.length then (.ok none, { p with queue := token :: p.queue })
        else
          let p := if p.lastObservedNow.any (fun observed => (p.records token).deadline ≤ observed) ||
              (p.records token).expired then p.markExpired token else p
          dequeueLoop fuel (p.removeRecord token)

/-- `dequeue(now)`. -/
def dequeue (now : Option (Option ℚ)) : Answer τ (Option QueueLease) :=
  match p.readMonotonicNow now with
  | (.error error, p) => (.error error, p)
  | (.ok now, p) =>
    let (p, _) := p.expireAt now
    if p.activeCapacity ≤ p.active.length then (.ok none, p)
    else dequeueLoop p.queue.length p

/-- `lookupEntryRecords(records, requestId)`. -/
def lookupEntryRecords (tokens : List Nat) (requestId : Option JsString) : RecordLookup :=
  let candidates := if requestId.isNone then tokens
    else tokens.filter fun token => (p.entryOf token).requestId = requestId
  match candidates with
  | [] => .notFound
  | [token] => .found token
  | _ => .ambiguous

/-- The last resort of `findRecord` for an object: its `handle`. -/
def findReference (handle : JsString) (requestId : Option JsString) : RecordLookup :=
  match p.handles handle with
  | none => .notFound
  | some token =>
    if requestId.isSome ∧ (p.entryOf token).requestId ≠ requestId then .notFound else .found token

/-- `findRecord` before its last check: the lookup by the kind of the target. -/
def lookupTarget (target : QueueHandle) (requestId : Option JsString) : RecordLookup :=
  match target with
  | .text target => match p.handles target with
    | some token => .found token
    | none => match (p.entryIds target).or (p.requestIds target) with
      | none => .notFound
      | some tokens => p.lookupEntryRecords tokens requestId
  | .lease lease => match p.leases lease.object with
    | some token => .found token
    | none => p.findReference lease.handle lease.requestId
  | .entry entry => match p.entries entry with
    | some tokens => p.lookupEntryRecords tokens requestId
    | none => .notFound
  | .reference handle referenceRequestId => p.findReference handle referenceRequestId

/-- `findRecord(target, requestId)`. -/
def findRecord (target : QueueHandle) (requestId : Option JsString) : RecordLookup :=
  match p.lookupTarget target requestId with
  | .found token =>
    if requestId.isSome ∧ (p.entryOf token).requestId ≠ requestId then .notFound else .found token
  | lookup => lookup

/-- `release(target, requestId)`. -/
def release (target : QueueHandle) (requestId : Option JsString) : Bool × RoutingPolicy τ :=
  match p.findRecord target requestId with
  | .found token =>
    if (p.records token).status ≠ .active ∧ (p.records token).status ≠ .queued then (false, p)
    else (true, p.removeRecord token)
  | _ => (false, p)

/-- What a cancellation says of a record it found. -/
def cancellation (state : QueueCancellationState) (token : Nat) : QueueCancellationDecision where
  state
  record := some ((p.records token).entry, (p.records token).handle, (p.entryOf token).requestId)
  error := match state with
    | .cancelled => createProtocolError .cancelled "Queue entry was cancelled"
    | .cancelling => createProtocolError .cancelled "Active queue lease cancellation was requested"
    | .expired => expiredError
    | _ => createProtocolError .notCancelable "Queue entry is no longer cancelable"

def notFoundCancellation : QueueCancellationDecision where
  state := .notFound
  record := none
  error := createProtocolError .notFound "Queue entry was not found"

def ambiguousCancellation : QueueCancellationDecision where
  state := .ambiguous
  record := none
  error := createProtocolError .ambiguous "Queue handle identifies multiple queue entries"

/-- The record is marked cancelled and removed. -/
def cancelQueued (token : Nat) : Answer τ QueueCancellationDecision :=
  let p := p.update token fun record =>
    { record with cancellationRequested := true, status := .cancelled }
  (.ok (p.cancellation .cancelled token), p.removeRecord token)

/-- `cancelRecord(record)`. -/
def cancelRecord (token : Nat) : Answer τ QueueCancellationDecision :=
  match p.readMonotonicNow none with
  | (.error error, p) => (.error error, p)
  | (.ok now, p) =>
    if (p.records token).expired || (p.records token).deadline ≤ now then
      let p := if (p.records token).status ≠ .active then p.removeRecord token else p
      let p := p.markExpired token
      (.ok (p.cancellation .expired token), p)
    else match (p.records token).status with
      | .active => match p.readMonotonicNow none with
        | (.error error, p) => (.error error, p)
        | (.ok now, p) =>
          if (p.records token).deadline ≤ now then
            let p := p.markExpired token
            (.ok (p.cancellation .expired token), p)
          else if (p.records token).cancellationRequested ||
              (p.entryOf token).isCancellationRequested then
            let p := p.update token fun record => { record with cancellationRequested := true }
            (.ok (p.cancellation .cancelling token), p)
          else if isTerminalOrAbortedState (p.entryOf token).state then
            (.ok (p.cancellation .notCancelable token), p)
          else
            let p := p.update token fun record => { record with cancellationRequested := true }
            (.ok (p.cancellation .cancelling token), p)
      | .queued =>
        if (p.entryOf token).isCancellationRequested then p.cancelQueued token
        else match p.readMonotonicNow none with
          | (.error error, p) => (.error error, p)
          | (.ok now, p) =>
            if (p.records token).deadline ≤ now then
              let p := (p.removeRecord token).markExpired token
              (.ok (p.cancellation .expired token), p)
            else if !p.isRunnableRecord token now then
              if (p.entryOf token).isCancellationRequested then p.cancelQueued token
              else (.ok (p.cancellation .notCancelable token), p.removeRecord token)
            else p.cancelQueued token
      | _ => (.ok (p.cancellation .notCancelable token), p)

/-- `cancel(target, requestId)`. -/
def cancel (target : QueueHandle) (requestId : Option JsString) :
    Answer τ QueueCancellationDecision :=
  match p.findRecord target requestId with
  | .notFound => (.ok notFoundCancellation, p)
  | .ambiguous => (.ok ambiguousCancellation, p)
  | .found token => p.cancelRecord token

def cancelByRequestId (requestId : JsString) : Answer τ QueueCancellationDecision :=
  match p.requestIds requestId with
  | none | some [] => (.ok notFoundCancellation, p)
  | some [token] => p.cancelRecord token
  | some _ => (.ok ambiguousCancellation, p)

/-- `isRunnable(target, now)`. -/
def isRunnable (target : QueueHandle) (now : Option (Option ℚ)) : Answer τ Bool :=
  match p.expire now with
  | (.error error, p) => (.error error, p)
  | (.ok _, p) => match p.findRecord target none with
    | .found token => (.ok (p.isRunnableRecord token (p.lastObservedNow.getD 0)), p)
    | _ => (.ok false, p)

/-- `peek(now)`. -/
def peek (now : Option (Option ℚ)) : Answer τ (Option EntryId) :=
  match p.expire now with
  | (.error error, p) => (.error error, p)
  | (.ok _, p) => (.ok (p.queue.head?.map fun token => (p.records token).entry), p)

/-- `new RoutingPolicy(options)`, with the callers' objects and clock around it. -/
def new (options : RoutingPolicyOptions) (monotonicNow : Nat → Option ℚ)
    (objects : EntryId → RoutingQueueEntry τ) : Except PolicyError (RoutingPolicy τ) := do
  let queueCapacity ← resolveQueueCapacity options
  let activeCapacity ← resolveActiveCapacity options queueCapacity
  let retryAfterMs ← validateRetryAfterMs options.retryAfterMs
  let made : RoutingPolicy τ :=
    { queueCapacity, activeCapacity, retryAfterMs, monotonicNow, objects
      records := fun _ =>
        { handle := "", entry := 0, deadline := 0, status := .released, expired := false
          expiryNotified := false, cancellationRequested := false, lease := none }
      nextToken := 1
      queue := []
      active := []
      handles := fun _ => none
      entries := fun _ => none
      entryIds := fun _ => none
      requestIds := fun _ => none
      leases := fun _ => none
      nextLease := 0
      lastObservedNow := none
      reading := 0
      onExpired := [] }
  match made.readMonotonicNow none with
  | (.error error, _) => .error error
  | (.ok _, made) => .ok made

/-- The policy while the clock gives these readings. -/
def timed (clock : List (Option ℚ)) : RoutingPolicy τ :=
  { p with monotonicNow := fun n => (clock[n]?).join, reading := 0 }

end RoutingPolicy

/-- The operations of the policy, and what a caller does to an entry object. -/
inductive Operation (τ : Type) where
  | change (entry : EntryId) (object : RoutingQueueEntry τ)
  | admission (entry : EntryId) (startImmediately : Bool) (now : Option (Option ℚ))
      (uuids : List JsString)
  | dequeue (now : Option (Option ℚ))
  | peek (now : Option (Option ℚ))
  | isRunnable (target : QueueHandle) (now : Option (Option ℚ))
  | cancel (target : QueueHandle) (requestId : Option JsString)
  | cancelByRequestId (requestId : JsString)
  | release (target : QueueHandle) (requestId : Option JsString)
  | expire (now : Option (Option ℚ))

/-- An operation, with the readings of the clock that it makes. -/
structure PolicyStep (τ : Type) where
  operation : Operation τ
  clock : List (Option ℚ)

/-- A policy in use. The records leases have been handed out of, and those whose slot
has been freed, are noted in order. -/
structure World (τ : Type) where
  policy : RoutingPolicy τ
  handedOut : List Nat
  freed : List Nat

/-- An operation: the lease it hands out, and the policy after it. -/
def Operation.perform (host : Host) (p : RoutingPolicy τ) :
    Operation τ → Option QueueLease × RoutingPolicy τ
  | .change entry object => (none, { p with objects := Function.update p.objects entry object })
  | .admission entry startImmediately now uuids =>
    match p.admitEntry host entry startImmediately now uuids with
    | (.ok (.accepted lease), p) => (some lease, p)
    | (_, p) => (none, p)
  | .dequeue now => match p.dequeue now with
    | (.ok lease, p) => (lease, p)
    | (.error _, p) => (none, p)
  | .peek now => (none, (p.peek now).2)
  | .isRunnable target now => (none, (p.isRunnable target now).2)
  | .cancel target requestId => (none, (p.cancel target requestId).2)
  | .cancelByRequestId requestId => (none, (p.cancelByRequestId requestId).2)
  | .release target requestId => (none, (p.release target requestId).2)
  | .expire now => (none, (p.expire now).2)

namespace World

variable {τ : Type} (w : World τ)

/-- The readings are just those that are made, and no caller changes the id or the
request id of an entry the policy retains. -/
def fits (host : Host) (label : PolicyStep τ) : Bool :=
  (label.operation.perform host (w.policy.timed label.clock)).2.reading == label.clock.length &&
    match label.operation with
    | .change entry object => (w.policy.entries entry).isNone ||
        (object.id == (w.policy.objects entry).id &&
          object.requestId == (w.policy.objects entry).requestId)
    | _ => true

/-- A step; what does not fit changes nothing. -/
def step (host : Host) (label : PolicyStep τ) : World τ :=
  if w.fits host label then
    let (lease, p) := label.operation.perform host (w.policy.timed label.clock)
    { policy := p
      handedOut := w.handedOut ++ (lease.bind fun lease => p.leases lease.object).toList
      freed := w.freed ++ w.policy.active.filter fun token => token ∉ p.active }
  else w

end World

/-- A policy in use, from its constructor on. -/
def policySystem (host : Host) (τ : Type) : Transition.System (World τ) (PolicyStep τ) where
  init w := (∃ options clock objects, RoutingPolicy.new options clock objects = .ok w.policy) ∧
    w.handedOut = [] ∧ w.freed = []
  step w label w' := w' = w.step host label

end PiToPi.Policy
