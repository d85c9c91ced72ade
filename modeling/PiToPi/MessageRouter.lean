import PiToPi.Dedupe
import PiToPi.HostCalls
import PiToPi.Policy
import PiToPi.ReplyContent
import PiToPi.TaskStore
import PiToPi.WireValues

/-!
`MessageRouter` (`router.ts`): what it does with the operations of peers, with the requests it has
admitted and with those it has sent. The calls that wait for a response are those of `Outbound`.

The router composes the task store, the dedupe store and the routing policy. Its operations are
`Code` like theirs: each runs to its end in one turn, up to the next `await`, and calls back to
the hooks of the store and to `onTaskStateChange`. Clocks are numbers supplied one by one.

`isCancelled` of a queue entry reads the task store while the policy runs, and such a read expires
a task that is due. The reads are made before the policy runs, of the requests `asked` gives: which
these are is left open, so that whatever a read in the middle expires is covered.
-/
namespace PiToPi.Routing
open Reentrant Validation Policy

/-- `MAX_TRACKED_TASKS`. -/
def maxTrackedTasks : Nat := 4096

/-- What `dedupeStore` keeps of an operation. -/
inductive Cached where
  | response (response : OperationResponse)
  | task (requestId : JsString)

/-- The options of a router, and the host it runs on. -/
structure RouterConfig where
  host : Host
  schemaHost : SchemaHost
  numberHost : NumberHost
  sha256 : List UInt16 → JsString
  sessionId : JsString
  runtimeId : JsString
  roomId : JsString
  limits : ProtocolLimits
  /-- There is an `authenticator`. -/
  authenticates : Bool
  /-- `options.binding`. -/
  defaultBinding : Option Json
  /-- There is a `requestExecutor`. -/
  executes : Bool
  supportsCancellation : Bool
  supportsNotifications : Bool
  storeOptions : TaskStoreOptions
  retentionGraceMs : ℚ
  /-- `createPeerDescribeResult` of its card. -/
  description : Json
  /-- What `randomUUID` gives for the response to an operation without a valid id. -/
  drawnOperationId : JsString

/-- `InboundRequestRecord`, without the members nothing reads. -/
structure InboundRequestRecord where
  envelope : Json
  terminalSent : Bool

/-- `InboundRequestRecord.expectedResponse`. -/
def InboundRequestRecord.expectedResponse (record : InboundRequestRecord) : Option Json :=
  Envelope.expectedResponse record.envelope

/-- `OutboundRequestRecord`. -/
structure OutboundRequestRecord where
  envelope : Json
  expectedTargetRuntimeId : JsString
  admissionResolved : Bool
  terminalSnapshot : Option TaskSnapshot
  /-- What `completion` is resolved with. -/
  completion : Option TaskSnapshot

/-- Where an execution is. -/
inductive ExecutionPhase where
  /-- The microtask that calls the executor has been queued. -/
  | queued
  | running
  | settled
  deriving DecidableEq, Repr

/-- A call of the executor. -/
structure Execution where
  requestId : JsString
  /-- `context.request`. -/
  request : Json
  /-- `context.snapshot`. -/
  snapshot : TaskSnapshot
  phase : ExecutionPhase

/-- A notification whose handler runs. -/
structure Notification where
  envelope : Json
  reservation : DedupeReservation

structure MessageRouter where
  taskStore : TaskStore
  dedupeStore : DedupeStore Cached Unit
  policy : RoutingPolicy Json
  nextEntry : EntryId
  outboundRequests : JsMap JsString OutboundRequestRecord
  inboundRequests : JsMap JsString InboundRequestRecord
  leases : JsMap JsString QueueLease
  /-- The delays the router's own timers have been armed with. -/
  expiryTimers : JsMap JsString ℚ
  closed : Bool
  /-- The readings `wallNow` is going to give. -/
  wallNow : Nat → ℚ
  /-- The requests each call of the policy asks `isCancelled` of. -/
  asked : Nat → List JsString
  /-- The UUIDs drawn for the handle of each queue record. -/
  handles : Nat → List JsString
  /-- What `randomUUID` gives for the replies. -/
  random : Nat → JsString
  /-- The executor calls made so far. -/
  executions : List Execution
  notifications : List Notification
  /-- The envelopes handed to the delivery. -/
  sent : List Json
  /-- The requests of the terminal replies whose delivery has not ended. -/
  replying : List JsString

/-- Host code an operation runs in place. -/
inductive RouterCallback where
  | store (callback : StoreCallback)
  | taskStateChange (requestId : JsString) (snapshot : TaskSnapshot)

/-- What an operation throws. -/
inductive RouterFault where
  | store (error : StoreError)
  | dedupe (error : DedupeError)
  | policy (error : PolicyError)
  | content (fault : ContentFault)
  | rangeError (message : JsString)
  /-- A `RouterError`. -/
  | protocol (error : ProtocolError)
  /-- Whatever `onTaskStateChange` threw. -/
  | hook

abbrev RouterM (α : Type) := Code MessageRouter RouterCallback RouterFault α

/-- Catch what the code throws. -/
def attempted (code : RouterM α) : RouterM (Except RouterFault α) := code.attempt

/-- An operation of the task store. -/
def storeCall (code : StoreM α) : RouterM α :=
  code.zoom MessageRouter.taskStore (fun router taskStore => { router with taskStore })
    RouterCallback.store RouterFault.store

/-- An operation of the dedupe store. -/
def dedupeCall (call : DedupeStore Cached Unit → Except DedupeError α × DedupeStore Cached Unit) :
    RouterM α := do
  let (answer, dedupeStore) := call (← Code.read).dedupeStore
  Code.modify fun router => { router with dedupeStore }
  Code.ofExcept (answer.mapError .dedupe)

/-- `this.wallNow()`. -/
def wallNow : RouterM ℚ := do
  let now := (← Code.read).wallNow 0
  Code.modify fun router => { router with wallNow := fun n => router.wallNow (n + 1) }
  return now

/-- `asUuidV4(randomUUID())`. -/
def randomUuid : RouterM JsString := do
  let drawn := (← Code.read).random 0
  Code.modify fun router => { router with random := fun n => router.random (n + 1) }
  return drawn

/-- `isBusyResult(value)`. -/
def Cached.isBusyResult : Cached → Bool
  | .response answer => match answer.outcome with
    | .error error => error.get? "code" == some (.string "busy")
    | .ok _ => false
  | .task _ => false

/-- The values of the dedupe store are never changed, so that a clone is as good as the value. -/
def cachedValues : Values Cached Unit where
  clone _ value := (value, ())
  isBusyResult _ := Cached.isBusyResult

section Operations

variable (c : RouterConfig)

/-- An operation as the dedupe store reads it, which validates it with the default limits. -/
def requests : Requests Json where
  operationName envelope := (envelope.get? "operation").bind Json.asString?
  senderRuntimeId envelope := (envelope.get? "senderRuntimeId").bind Json.asString?
  rawExpiresAtMs envelope := parseUtcTimestamp c.host (envelope.get? "expiresAt")
  projection envelope now :=
    match validatedRequestProjection c.host c.schemaHost c.sha256 ⟨now, none, ceilingLimits, none⟩
      envelope with
    | .error message => .error (createProtocolError .internal message)
    | .ok (.failure error) => .error error
    | .ok (.success projection) => .ok
      { operationId := Envelope.operationId envelope
        senderRuntimeId := Envelope.senderRuntimeId envelope
        expiresAt := Envelope.expiresAt envelope
        expiresAtMs := parseUtcTimestamp c.host (envelope.get? "expiresAt")
        fingerprint := projection.fingerprint }

/-- `{ now: this.wallNow(), limits: this.limits }`. -/
def envelopeOptions (now : ℚ) : ValidationOptions := ⟨now, none, c.limits, none⟩

def safeInternalError : ProtocolError := createProtocolError .internal "router operation failed"

section Responses

def zeroTraceId : JsString := ⟨List.replicate 32 0x30⟩

/-- `responseFor(envelope, resultOrError)`. -/
def responseFor (envelope : Json) (outcome : Except Json Json) : OperationResponse where
  operation := (Envelope.operation? envelope).getD .peerDescribe
  operationId :=
    if isUuidV4 (Envelope.operationId envelope) then Envelope.operationId envelope else c.drawnOperationId
  traceId := if isTraceId (Envelope.traceId envelope) then Envelope.traceId envelope else zeroTraceId
  outcome

def errorResponse (envelope : Json) (error : ProtocolError) : OperationResponse :=
  responseFor c envelope (.error error.toJson)

def successResponse (envelope : Json) (result : List (JsString × Json)) : OperationResponse :=
  responseFor c envelope (.ok (.record result))

end Responses

section Authorization

/-- What `authenticate` answers when it succeeds. -/
structure AuthenticatedBinding where
  senderRuntimeId : JsString
  localRuntimeId : JsString
  roomId : JsString

/-- A member of a binding that is a text. -/
def bindingText (binding : Option Json) (key : JsString) : Option JsString :=
  ((binding.filter Json.isRecord).bind (·.get? key)).bind Json.asString?

/-- `bindingRuntimeId(value)`. -/
def bindingRuntimeId (binding : Option Json) : Option JsString :=
  ((bindingText binding "senderRuntimeId").or (bindingText binding "runtimeId")).or
    ((((binding.filter Json.isRecord).bind (·.get? "sender")).bind (·.get? "runtimeId")).bind Json.asString?)

def unboundSender : ProtocolError :=
  createProtocolError .unauthorized "binding sender does not match the envelope"

def otherRuntime : ProtocolError :=
  createProtocolError .unauthorized "operation is addressed to another runtime"

def otherRoom : ProtocolError :=
  createProtocolError .crossRoom "operation belongs to a different room"

def failedAuthentication : ProtocolError :=
  createProtocolError .unauthorized "binding authentication failed"

/-- The part of `authorizeInbound` with an authenticator, whose answer is `none` when it threw and
`some none` when it refused. -/
def authorizeAuthenticated (senderRuntimeId roomId : Option JsString) :
    Option (Option AuthenticatedBinding) → Option ProtocolError
  | none | some none => some failedAuthentication
  | some (some result) =>
    if senderRuntimeId ≠ some result.senderRuntimeId || result.localRuntimeId ≠ c.runtimeId then
      some unboundSender
    else if roomId.any (· ≠ result.roomId) || result.roomId ≠ c.roomId then some otherRoom
    else none

/-- The part without one. -/
def authorizeBound (senderRuntimeId : Option JsString) (binding : Option Json) : Option ProtocolError :=
  if (bindingRuntimeId binding).any fun claimed => senderRuntimeId.any (· ≠ claimed) then
    some unboundSender
  else if (bindingText binding "localRuntimeId").any (· ≠ c.runtimeId) then some otherRuntime
  else if ((bindingText binding "localRoomId").or (bindingText binding "roomId")).any (· ≠ c.roomId) then
    some otherRoom
  else none

/-- `authorizeInbound(envelope, binding)`. -/
def authorizeInbound (fields : Json) (binding : Option Json)
    (authentication : Option (Option AuthenticatedBinding)) : Option ProtocolError :=
  let textOf (key : JsString) : Option JsString := (fields.get? key).bind Json.asString?
  let senderRuntimeId := (((fields.get? "sender").filter Json.isRecord).bind (·.get? "runtimeId")).bind
    Json.asString?
  let refused := if c.authenticates then authorizeAuthenticated c senderRuntimeId (textOf "roomId") authentication
    else authorizeBound c senderRuntimeId (binding.or c.defaultBinding)
  refused.or <|
    if (textOf "roomId").any (· ≠ c.roomId) then some otherRoom
    else if (textOf "recipientRuntimeId").any (· ≠ c.runtimeId) then some otherRuntime
    else none

end Authorization

section Deduplication

/-- `dedupeResponse(decision)`. -/
def dedupeResponse (decision : DedupeDecision Cached) : Option OperationResponse :=
  if decision.kind = .replay then
    match decision.result with
    | some (some (.response response)) => some response
    | _ => none
  else none

/-- What an operation is answered with that has been seen before. -/
def inspectOperation (envelope : Json) (inProgress : JsString) : RouterM (Option OperationResponse) := do
  let existing ← dedupeCall fun s => s.inspect (requests c) cachedValues c.retentionGraceMs envelope
  match dedupeResponse existing with
  | some response => return some response
  | none =>
    if existing.kind = .duplicate then
      return some (errorResponse c envelope
        (existing.error.getD (createProtocolError .duplicate "operationId was reused")))
    else if existing.kind = .pending then
      return some (errorResponse c envelope (createProtocolError .busy inProgress))
    else return none

/-- The reservation of an operation, or what it is answered with. -/
def reserveOperation (envelope : Json) (busy : JsString) :
    RouterM (OperationResponse ⊕ DedupeReservation) := do
  let decision ← dedupeCall fun s => s.reserve (requests c) cachedValues c.retentionGraceMs envelope
  match decision.reservation with
  | some reservation => return .inr reservation
  | none => return .inl (errorResponse c envelope (decision.error.getD (createProtocolError .busy busy)))

def releaseReservation (reservation : DedupeReservation) : RouterM Unit := do
  let _ ← dedupeCall fun s => s.releaseReservation reservation

def commitReservation (reservation : DedupeReservation) (response : OperationResponse)
    (task : Option JsString) : RouterM Unit := do
  let _ ← dedupeCall fun s => s.commitReservation cachedValues reservation (some (.response response))
    (task.map .task)

end Deduplication

section Queueing

/-- `isCancelled` of the entry of a request. -/
def isCancelledRequest (taskStore : TaskStore) (requestId : JsString) : Bool :=
  (taskStore.find requestId).any fun record =>
    (taskStore.heap record).state == .cancelled || (taskStore.heap record).state == .cancelling

/-- `this.taskStore.getTask(requestId)` of each request asked for. -/
def readTasks : List JsString → RouterM Unit
  | [] => return
  | requestId :: rest => do
    let _ ← storeCall (getTask c.storeOptions requestId ⟨true, none⟩)
    readTasks rest

/-- What the entries answer the policy. -/
def answerCancelled (router : MessageRouter) : MessageRouter :=
  { router with
    policy := { router.policy with
      objects := fun entry => { router.policy.objects entry with
        isCancelled := (router.policy.objects entry).requestId.map (isCancelledRequest router.taskStore) } } }

/-- An operation of the policy that may ask its entries whether they are cancelled. -/
def policyCall (call : RoutingPolicy Json → Answer Json α) : RouterM α := do
  let asked := (← Code.read).asked 0
  Code.modify fun router => { router with asked := fun n => router.asked (n + 1) }
  readTasks c asked
  Code.modify answerCancelled
  let (answer, policy) := call (← Code.read).policy
  Code.modify fun router => { router with policy }
  Code.ofExcept (answer.mapError .policy)

/-- `this.policy.release(target)`. -/
def releaseTarget (target : QueueHandle) : RouterM Unit :=
  Code.modify fun router => { router with policy := (router.policy.release target none).2 }

/-- The entry `processMessageRequest` makes of a request. -/
def queueEntry (envelope : Json) (startImmediately : Bool) : RoutingQueueEntry Json where
  id := some (Envelope.requestId envelope)
  requestId := some (Envelope.requestId envelope)
  value := envelope
  expiresAt := .wire (Envelope.expiresAt envelope)
  cancelled := false
  state := some (if startImmediately then "accepted" else "queued")
  runnable := none
  aborted := false
  isCancelled := some false
  signalAborted := false

/-- `admitRequest(entry)` with the entry of the request: the policy's `accept` or `enqueue`. -/
def admitRequest (envelope : Json) : RouterM QueueAdmissionDecision := do
  let router ← Code.read
  let startImmediately := router.policy.active.length < router.policy.activeCapacity
  let entry := router.nextEntry
  Code.modify fun router => { router with
    nextEntry := entry + 1
    handles := fun n => router.handles (n + 1)
    policy := { router.policy with
      objects := Function.update router.policy.objects entry (queueEntry envelope startImmediately) } }
  policyCall c fun policy => policy.admitEntry c.host entry startImmediately none (router.handles 0)

/-- `releaseAdmission(admission)`. -/
def releaseAdmission : QueueAdmissionDecision → RouterM Unit
  | .accepted lease => releaseTarget (.lease lease)
  | .queued _ handle _ => releaseTarget (.text handle)
  | .busy _ | .expired _ | .cancelled _ => return

/-- `releaseLease(requestId, lease)`, with the draining of the queue that follows. -/
def releaseLeaseThen (drain : RouterM Unit) (requestId : JsString) (lease : QueueLease) : RouterM Unit := do
  releaseTarget (.lease lease)
  Code.modify fun router => { router with leases := router.leases.delete requestId }
  drain

/-- `dispatchLease(requestId, lease)`: `lease.value` is the envelope of its entry. -/
def dispatchLeaseThen (drain : RouterM Unit) (requestId : JsString) (lease : QueueLease) :
    RouterM Unit := do
  if !c.executes then return
  else
    match ← storeCall (beginExecution c.storeOptions requestId) with
    | none => releaseLeaseThen drain requestId lease
    | some task =>
      let router ← Code.read
      if !router.inboundRequests.has requestId then releaseLeaseThen drain requestId lease
      else
        Code.modify fun router => { router with
          executions := router.executions ++ [{
            requestId
            request := (router.policy.objects lease.entry).value
            snapshot := task.snapshot
            phase := .queued }] }

/-- The loop of `drainQueue`. Every round shifts the queue, so that its length bounds the rounds. -/
def drainRounds : Nat → RouterM Unit
  | 0 => return
  | rounds + 1 => do
    let router ← Code.read
    if router.policy.activeCapacity ≤ router.policy.active.length then return
    else
      match ← policyCall c fun policy => policy.dequeue none with
      | none => return
      | some lease =>
        let router ← Code.read
        match lease.requestId.filter router.inboundRequests.has with
        | none =>
          releaseTarget (.lease lease)
          drainRounds rounds
        | some requestId =>
          Code.modify fun router => { router with leases := router.leases.set requestId lease }
          dispatchLeaseThen c (drainRounds rounds) requestId lease
          drainRounds rounds

/-- `drainQueue()`. -/
def drainQueue : RouterM Unit := do
  drainRounds c ((← Code.read).policy.queue.length + 1)

def releaseLease (requestId : JsString) (lease : QueueLease) : RouterM Unit :=
  releaseLeaseThen (drainQueue c) requestId lease

def dispatchLease (requestId : JsString) (lease : QueueLease) : RouterM Unit :=
  dispatchLeaseThen c (drainQueue c) requestId lease

end Queueing

section Terminal

/-- `wallTimestamp(value)`. -/
def wallTimestamp (value : ℚ) : RouterM JsString :=
  match (Date.timeClip value).bind Date.toISOString with
  | some text => return text
  | none => Code.throw (.rangeError "protocol clock must return a finite epoch")

/-- The error of a reply, or the one it has by default. -/
def replyError (snapshot : TaskSnapshot) (code : ErrorCode) (message : JsString) : JsString × Json :=
  ("error", (snapshot.error.getD (createProtocolError code message)).toJson)

/-- The payload of the reply that tells a terminal snapshot. -/
def replyPayload (snapshot : TaskSnapshot) : Json :=
  let outcome (name : JsString) (response : JsString × Json) : Json :=
    .record [("outcome", .string name), response]
  match snapshot.state with
  | .completed => outcome "completed" ("content", (snapshot.content.getD (.text "")).toJson)
  | .failed => outcome "failed" (replyError snapshot .internal "task failed")
  | .rejected => outcome "rejected" (replyError snapshot .malformed "task rejected")
  | .cancelled => outcome "cancelled" (replyError snapshot .cancelled "task cancelled")
  | _ => outcome "expired" (replyError snapshot .expired "task expired")

/-- The reply to a request. -/
def replyEnvelope (request : Json) (operationId createdAt : JsString) (snapshot : TaskSnapshot) : Json :=
  .record [
    ("protocolVersion", .string protocolVersion),
    ("operation", .string OperationName.messageReply.name),
    ("operationId", .string operationId),
    ("requestId", .string (Envelope.requestId request)),
    ("sender", .record [("sessionId", .string c.sessionId), ("runtimeId", .string c.runtimeId)]),
    ("recipientRuntimeId", .string (Envelope.senderRuntimeId request)),
    ("roomId", .string c.roomId),
    ("createdAt", .string createdAt),
    ("expiresAt", .string (Envelope.expiresAt request)),
    ("traceId", .string (Envelope.traceId request)),
    ("parentOperationId", .string (Envelope.operationId request)),
    ("payload", replyPayload snapshot)]

/-- `inboundRequests.delete(requestId)`. -/
def forgetRequest (requestId : JsString) : RouterM Unit :=
  Code.modify fun router => { router with inboundRequests := router.inboundRequests.delete requestId }

/-- `sendTerminalReply(record, snapshot)`, up to the end of the delivery. -/
def sendTerminalReply (record : InboundRequestRecord) (snapshot : TaskSnapshot) : RouterM Unit := do
  if !isTerminalTaskState snapshot.state then return
  else
    let requestId := Envelope.requestId record.envelope
    let now ← wallNow
    match Date.parse c.host (Envelope.expiresAt record.envelope) with
    | none => forgetRequest requestId
    | some expiryMs =>
      if (expiryMs : ℚ) ≤ now then forgetRequest requestId
      else
        let operationId ← randomUuid
        let createdAt ← wallTimestamp (min now (expiryMs - 1))
        Code.modify fun router => { router with
          sent := router.sent ++ [replyEnvelope c record.envelope operationId createdAt snapshot]
          replying := router.replying ++ [requestId] }

/-- `clearExpiry(requestId)`. -/
def clearRouterExpiry (requestId : JsString) : RouterM Unit :=
  Code.modify fun router => { router with expiryTimers := router.expiryTimers.delete requestId }

/-- `finishOutboundRequest(requestId, snapshot)`; the promise `completion` is resolved once. -/
def finishOutboundRequest (requestId : JsString) (snapshot : TaskSnapshot) : RouterM Unit := do
  match (← Code.read).outboundRequests.get? requestId with
  | none => return
  | some record =>
    if !isTerminalTaskState snapshot.state || record.terminalSnapshot.isSome then return
    else
      Code.modify fun router => { router with
        outboundRequests := router.outboundRequests.set requestId { record with
          terminalSnapshot := some snapshot
          completion := record.completion.or (some snapshot) } }

/-- The part of `finishTask` about the reply. -/
def replyOnce (requestId : JsString) (snapshot : TaskSnapshot) : RouterM Unit := do
  match (← Code.read).inboundRequests.get? requestId with
  | none => return
  | some record =>
    if record.terminalSent then return
    else
      Code.modify fun router => { router with
        inboundRequests := router.inboundRequests.set requestId { record with terminalSent := true } }
      -- An exception here rejects a promise that nobody looks at.
      let _ ← attempted (sendTerminalReply c record snapshot)
      return

/-- `onTaskStateChange(requestId, snapshot)`. -/
def notifyTaskState (requestId : JsString) (snapshot : TaskSnapshot) : RouterM Unit := do
  match ← Code.call (.taskStateChange requestId snapshot) with
  | some _ => return
  | none => Code.throw .hook

/-- `finishTask(requestId, snapshot)`. -/
def finishTask (requestId : JsString) (snapshot : Option TaskSnapshot) : RouterM (Option TaskSnapshot) := do
  match snapshot with
  | none => return none
  | some snapshot =>
    notifyTaskState requestId snapshot
    if !isTerminalTaskState snapshot.state then return some snapshot
    else
      clearRouterExpiry requestId
      match (← Code.read).leases.get? requestId with
      | some lease => releaseLease c requestId lease
      | none =>
        let _ ← policyCall c fun policy => policy.cancelByRequestId requestId
        drainQueue c
      replyOnce c requestId snapshot
      finishOutboundRequest requestId snapshot
      return some snapshot

/-- `{ content }`, as `toTransitionUpdate` reads a content. -/
def contentUpdate (content : Content) : TaskTransitionUpdate :=
  { TaskTransitionUpdate.empty with content := some (some content) }

/-- `{ error }`. -/
def errorUpdate (error : ProtocolError) : TaskTransitionUpdate :=
  { TaskTransitionUpdate.empty with error := some (some error) }

/-- `validateReplyContent(content, expectedResponse, { now: this.wallNow() })`. -/
def checkReply (content expectedResponse : Json) : RouterM (ValidationResult Json) := do
  let now ← wallNow
  Code.ofExcept ((validateReplyContent c.schemaHost ⟨now, none, ceilingLimits, none⟩ content
    expectedResponse).mapError .content)

/-- `validExpectedReply(content, expectedResponse)`. -/
def validExpectedReply (content : Content) (expectedResponse : Option Json) : RouterM Bool := do
  match expectedResponse with
  | none => return true
  | some expected =>
    match ← checkReply c content.toJson expected with
    | .success _ => return true
    | .failure _ => return false

/-- `completeTask(requestId, content)`. -/
def completeRequest (requestId : JsString) (content : Content) : RouterM (Option TaskSnapshot) := do
  let record := (← Code.read).inboundRequests.get? requestId
  if !(← validExpectedReply c content (record.bind (·.expectedResponse))) then return none
  else finishTask c requestId (← storeCall (completeTask c.storeOptions requestId (contentUpdate content)))

/-- `failTask(requestId, error)`. -/
def failRequest (requestId : JsString) (error : ProtocolError) : RouterM (Option TaskSnapshot) := do
  finishTask c requestId (← storeCall (failTask c.storeOptions requestId (errorUpdate error)))

/-- `rejectTask(requestId, error)`. -/
def rejectRequest (requestId : JsString) (error : ProtocolError) : RouterM (Option TaskSnapshot) := do
  finishTask c requestId (← storeCall (rejectTask c.storeOptions requestId (errorUpdate error)))

/-- `cancelTask(requestId, options)`. -/
def cancelRequest (requestId : JsString) (request : CancellationRequest) : RouterM (Option TaskSnapshot) := do
  match ← storeCall (cancelTask c.storeOptions requestId request) with
  | .success _ _ snapshot => finishTask c requestId (some snapshot)
  | .failure _ snapshot => finishTask c requestId snapshot

/-- The `outcome` of a `TaskExecutorResult`. -/
inductive ExecutorOutcome where
  | completed | failed | rejected
  deriving DecidableEq, Repr

/-- What an executor returns. -/
inductive TaskExecutorResult where
  | nothing
  | content (content : Content)
  /-- An object with the member `outcome`. -/
  | stated (outcome : Option ExecutorOutcome) (content : Option Content) (error : Option ProtocolError)
  /-- An object without it that has the member `content` or `error`. -/
  | parts (content : Option Content) (error : Option ProtocolError)

/-- The content and the error of `taskUpdateForExecutorResult(result)`. -/
def taskUpdateForExecutorResult : TaskExecutorResult → Option Content × Option ProtocolError
  | .nothing => (none, none)
  | .stated (some .failed) _ error =>
    (none, some (error.getD (createProtocolError .internal "request executor failed")))
  | .stated (some .rejected) _ error =>
    (none, some (error.getD (createProtocolError .malformed "request was rejected")))
  | .stated _ content _ => (content, none)
  | .parts content error => (content, error)
  | .content content => (some content, none)

/-- `isRecord(result) && result.outcome === 'rejected'`. -/
def TaskExecutorResult.isRejected : TaskExecutorResult → Bool
  | .stated (some .rejected) _ _ => true
  | _ => false

/-- `getTask(requestId, { includeTerminalResponse: true })`. -/
def currentTask (requestId : JsString) : RouterM (Option TaskSnapshot) :=
  storeCall (getTask c.storeOptions requestId ⟨true, none⟩)

/-- `applyExecutorResult(requestId, result)`. -/
def applyExecutorResult (requestId : JsString) (result : TaskExecutorResult) : RouterM Unit := do
  match ← currentTask c requestId with
  | none => return
  | some current =>
    if isTerminalTaskState current.state then
      let _ ← finishTask c requestId (some current)
    else
      match taskUpdateForExecutorResult result with
      | (some content, _) => let _ ← completeRequest c requestId content
      | (none, some error) =>
        if result.isRejected then
          let _ ← rejectRequest c requestId error
        else
          let _ ← failRequest c requestId error
      | (none, none) => return

/-- The update of a cancellation that the executor acknowledges. -/
def acknowledgedCancellation : TaskTransitionUpdate :=
  { errorUpdate (createProtocolError .cancelled "request executor acknowledged cancellation") with
    cancellationRequested := true }

/-- `handleExecutorFailure(requestId)`. -/
def handleExecutorFailure (requestId : JsString) : RouterM Unit := do
  match ← currentTask c requestId with
  | none => return
  | some current =>
    if isTerminalTaskState current.state then
      let _ ← finishTask c requestId (some current)
    else if current.state = .cancelling then
      let _ ← finishTask c requestId
        (← storeCall (transition c.storeOptions requestId .cancelled acknowledgedCancellation))
    else
      let _ ← failRequest c requestId safeInternalError

/-- The executor has returned, and its result is applied; an exception in that counts as its own. -/
def executorReturned (requestId : JsString) (result : TaskExecutorResult) : RouterM Unit := do
  match ← attempted (applyExecutorResult c requestId result) with
  | .ok () => return
  | .error _ => handleExecutorFailure c requestId

end Terminal

section Handlers

/-- `scheduleExpiry(requestId, expiresAt)`. -/
def scheduleRouterExpiry (requestId : JsString) (expiresAt : JsString) : RouterM Unit := do
  if (← Code.read).expiryTimers.has requestId then return
  else
    let now ← wallNow
    let delay : ℚ := match Date.parse c.host expiresAt with
      | some expiryMs => min (max 0 (expiryMs - now)) maxTimerDelayMs
      | none => 0
    Code.modify fun router => { router with expiryTimers := router.expiryTimers.set requestId delay }

/-- The callback `scheduleExpiry` arms. -/
def routerExpiryTimer (requestId : JsString) : RouterM Unit := do
  if !(← Code.read).expiryTimers.has requestId then return
  else
    clearRouterExpiry requestId
    match ← currentTask c requestId with
    | none => return
    | some current =>
      if isTerminalTaskState current.state then return
      else
        let _ ← finishTask c requestId (← storeCall (expireTask c.storeOptions requestId))

def taskOwner (envelope : Json) : TaskOwner :=
  ⟨Envelope.senderRuntimeId envelope, some (Envelope.senderSessionId envelope)⟩

/-- `{ runtimeId: this.runtimeId, sessionId: this.sessionId }`. -/
def localOwner : TaskOwner := ⟨c.runtimeId, some c.sessionId⟩

/-- The task of a request of a peer. -/
def inboundTask (envelope : Json) (accepted : Bool) : TaskStoreCreateInput :=
  { TaskStoreCreateInput.bare (Envelope.requestId envelope) with
    requester := some (taskOwner envelope)
    localOwner := some (localOwner c)
    expectedTargetRuntimeId := some c.runtimeId
    roomId := some c.roomId
    responseContract := (Envelope.expectedResponse envelope).map ExpectedResponse.ofJson
    ownership := some .inbound
    createdAt := some (.wire (Envelope.createdAt envelope))
    expiresAt := some (.wire (Envelope.expiresAt envelope))
    initialState := some (if accepted then .accepted else .queued) }

/-- The error of an admission that was refused. -/
def refusedAdmission : QueueAdmissionDecision → Option ProtocolError
  | .busy error | .expired error | .cancelled error => some error
  | .accepted _ | .queued .. => none

/-- The lease of an admission that is to start at once. -/
def admittedLease : QueueAdmissionDecision → Option QueueLease
  | .accepted lease => some lease
  | _ => none

/-- `processMessageRequest` once the task is made. -/
def admitTask (envelope : Json) (admission : QueueAdmissionDecision) (reservation : DedupeReservation)
    (snapshot : TaskSnapshot) : RouterM OperationResponse := do
  let requestId := Envelope.requestId envelope
  let response := successResponse c envelope
    [("requestId", .string requestId), ("state", .string snapshot.state.name)]
  commitReservation reservation response (some requestId)
  Code.modify fun router => { router with
    inboundRequests := router.inboundRequests.set requestId { envelope, terminalSent := false } }
  scheduleRouterExpiry c requestId (Envelope.expiresAt envelope)
  match admittedLease admission with
  | none => return response
  | some lease =>
    Code.modify fun router => { router with leases := router.leases.set requestId lease }
    dispatchLease c requestId lease
    return response

/-- `processMessageRequest` once the policy has admitted the request. -/
def reserveRequest (envelope : Json) (admission : QueueAdmissionDecision) : RouterM OperationResponse := do
  let decision ← dedupeCall fun s => s.reserve (requests c) cachedValues c.retentionGraceMs envelope
  match dedupeResponse decision, decision.reservation with
  | some response, _ =>
    releaseAdmission admission
    return response
  | none, none =>
    releaseAdmission admission
    return errorResponse c envelope (decision.error.getD
      (createProtocolError .busy "operation admission is temporarily busy"))
  | none, some reservation =>
    match ← attempted (storeCall (createTask c.storeOptions
        (inboundTask c envelope (admittedLease admission).isSome))) with
    | .ok snapshot => admitTask c envelope admission reservation snapshot
    | .error _ =>
      releaseReservation reservation
      releaseAdmission admission
      return errorResponse c envelope safeInternalError

/-- `processMessageRequest(envelope, binding)`. -/
def processMessageRequest (envelope : Json) : RouterM OperationResponse := do
  match ← inspectOperation c envelope "operation admission is already in progress" with
  | some response => return response
  | none =>
    if maxTrackedTasks ≤ (← Code.read).inboundRequests.size then
      return errorResponse c envelope (createProtocolError .busy "task capacity is temporarily exhausted")
    else
      let admission ← admitRequest c envelope
      match refusedAdmission admission with
      | some error => return errorResponse c envelope error
      | none => reserveRequest c envelope admission

/-- `processMessageNotify(envelope)` up to its handler; `none` when the handler is called. -/
def processMessageNotify (envelope : Json) : RouterM (Option OperationResponse) := do
  if !c.supportsNotifications then
    return some (errorResponse c envelope (createProtocolError .incompatible "notifications are unsupported"))
  else
    match ← inspectOperation c envelope "notification is already in progress" with
    | some response => return some response
    | none =>
      match ← reserveOperation c envelope "notification delivery is temporarily busy" with
      | .inl response => return some response
      | .inr reservation =>
        Code.modify fun router => { router with
          notifications := router.notifications ++ [{ envelope, reservation }] }
        return none

/-- `processMessageNotify` after its handler, which threw or not. -/
def notificationHandled (notification : Notification) (threw : Bool) : RouterM OperationResponse := do
  let response := if threw then errorResponse c notification.envelope safeInternalError
    else successResponse c notification.envelope [("delivered", .bool true)]
  commitReservation notification.reservation response none
  return response

/-- Who may not reply to the request of a task, and why. -/
def replyRefusal (envelope : Json) (binding : Option Json) (task : Option StoredTask)
    (outbound : Option OutboundRequestRecord) : Option ProtocolError :=
  match task with
  | none => some (createProtocolError .unauthorized "reply is not authorized")
  | some task =>
    let expected := task.expectedTargetRuntimeId.or (outbound.map (·.expectedTargetRuntimeId))
    if task.ownership ≠ .outbound then
      some (createProtocolError .unauthorized "reply is not authorized")
    else if expected ≠ some (Envelope.senderRuntimeId envelope) ||
        (bindingRuntimeId binding).any (· ≠ Envelope.senderRuntimeId envelope) then
      some (createProtocolError .unauthorized "reply sender is not authorized")
    else if task.localOwner.runtimeId ≠ c.runtimeId || task.owner.runtimeId ≠ c.runtimeId then
      some (createProtocolError .unauthorized "reply request owner is not authorized")
    else
      let requestExpiry := match outbound with
        | some record => Envelope.expiresAt record.envelope
        | none => task.snapshot.expiresAt
      match Date.parse c.host (Envelope.expiresAt envelope), Date.parse c.host requestExpiry with
      | some replyExpiry, some requestExpiry =>
        if requestExpiry < replyExpiry then
          some (createProtocolError .malformed "reply deadline exceeds request deadline")
        else none
      | _, _ => none

/-- The outcome of a reply. -/
def replyOutcome (envelope : Json) : Option TaskState :=
  TaskState.ofName? ((Envelope.payload envelope).text "outcome")

/-- The content of a completed reply against the contract of its request. -/
def replyContract (envelope : Json) (task : StoredTask) : RouterM (Option ProtocolError) := do
  match task.responseContract with
  | none => return none
  | some contract =>
    if replyOutcome envelope ≠ some .completed then return none
    else
      match ← checkReply c ((Envelope.payload envelope).member "content") contract.toJson with
      | .success _ => return none
      | .failure error => return some error

/-- What a reply that cancels commits. -/
def cancelledReplyUpdate (envelope : Json) : TaskTransitionUpdate :=
  let error := (((Envelope.payload envelope).get? "error").map ProtocolError.ofJson).getD
    (createProtocolError .cancelled "request was cancelled")
  { errorUpdate error with cancellationRequested := true }

def requestedCancellation : TaskTransitionUpdate :=
  { TaskTransitionUpdate.empty with cancellationRequested := true }

/-- The transitions that bring a task to where a reply can end it. -/
def prepareReply (requestId : JsString) (current : TaskSnapshot) : RouterM Unit := do
  let current ← if current.state = .created then do
      let _ ← storeCall (transition c.storeOptions requestId .accepted .empty)
      pure ((← storeCall (getTask c.storeOptions requestId ⟨true, none⟩)).getD current)
    else pure current
  if current.state = .accepted ∨ current.state = .queued then
    let _ ← storeCall (transition c.storeOptions requestId .working .empty)

/-- The transition to the outcome of a reply. -/
def applyReply (envelope : Json) : RouterM (Option TaskSnapshot) := do
  let requestId := Envelope.requestId envelope
  let payload := Envelope.payload envelope
  match replyOutcome envelope with
  | some .completed => storeCall (completeTask c.storeOptions requestId
      (contentUpdate (Content.ofJson (payload.member "content"))))
  | some .failed => storeCall (failTask c.storeOptions requestId
      (errorUpdate (ProtocolError.ofJson (payload.member "error"))))
  | some .rejected => storeCall (rejectTask c.storeOptions requestId
      (errorUpdate (ProtocolError.ofJson (payload.member "error"))))
  | some .cancelled => do
    if ((← storeCall (getTask c.storeOptions requestId ⟨true, none⟩)).map (·.state)) = some .working then
      let _ ← storeCall (transition c.storeOptions requestId .cancelling requestedCancellation)
    storeCall (transition c.storeOptions requestId .cancelled (cancelledReplyUpdate envelope))
  | _ => storeCall (expireTask c.storeOptions requestId)

/-- `processMessageReply` once it has its reservation. -/
def settleReply (envelope : Json) (reservation : DedupeReservation) : RouterM OperationResponse := do
  let requestId := Envelope.requestId envelope
  match ← currentTask c requestId with
  | none =>
    releaseReservation reservation
    return errorResponse c envelope (createProtocolError .notFound "logical request was not found")
  | some current =>
    if isTerminalTaskState current.state then
      releaseReservation reservation
      return errorResponse c envelope (createProtocolError
        (if current.state = .cancelled then .cancelled else .notCancelable)
        "logical request is already terminal")
    else
      prepareReply c requestId current
      match (← applyReply c envelope).filter fun snapshot => isTerminalTaskState snapshot.state with
      | none =>
        releaseReservation reservation
        return errorResponse c envelope
          (createProtocolError .notCancelable "logical request could not transition")
      | some snapshot =>
        finishOutboundRequest requestId snapshot
        let response := successResponse c envelope [("requestId", .string requestId),
          ("outcome", (Envelope.payload envelope).member "outcome"), ("delivered", .bool true)]
        commitReservation reservation response (some requestId)
        return response

/-- `processMessageReply(envelope, binding)`. -/
def processMessageReply (envelope : Json) (binding : Option Json) : RouterM OperationResponse := do
  let requestId := Envelope.requestId envelope
  let task ← storeCall (getRecordMetadata c.storeOptions requestId)
  let outbound := (← Code.read).outboundRequests.get? requestId
  match replyRefusal c envelope binding task outbound, task with
  | some error, _ => return errorResponse c envelope error
  | none, none => return errorResponse c envelope safeInternalError
  | none, some task =>
    match ← replyContract c envelope task with
    | some error => return errorResponse c envelope error
    | none =>
      match ← inspectOperation c envelope "reply delivery is already in progress" with
      | some response => return response
      | none =>
        match ← reserveOperation c envelope "reply delivery is temporarily busy" with
        | .inl response => return response
        | .inr reservation => settleReply c envelope reservation

/-- `processTaskStatus(envelope)`. -/
def processTaskStatus (envelope : Json) : RouterM OperationResponse := do
  let requestId := Envelope.requestId envelope
  match ← storeCall (getRecordMetadata c.storeOptions requestId) with
  | none => return errorResponse c envelope (createProtocolError .notFound "logical request was not found")
  | some _ =>
    let includeTerminalResponse := (((Envelope.payload envelope).get? "includeTerminalResponse").bind
      Json.asBool?).getD true
    match ← storeCall (getStatusResult c.storeOptions requestId
        ⟨includeTerminalResponse, some (Envelope.senderRuntimeId envelope)⟩) with
    | .missing _ =>
      return errorResponse c envelope (createProtocolError .unauthorized "task status is not available")
    | .found snapshot => return successResponse c envelope [("snapshot", snapshot.toJson)]

/-- The code of a failed cancellation, and its name. -/
def cancellationErrorCode : TaskStoreErrorCode → ErrorCode
  | .notFound => .notFound
  | .unauthorized => .unauthorized
  | _ => .notCancelable

/-- `processTaskCancel(envelope)`. -/
def processTaskCancel (envelope : Json) : RouterM OperationResponse := do
  if !c.supportsCancellation then
    return errorResponse c envelope (createProtocolError .incompatible "cancellation is unsupported")
  else
    match ← inspectOperation c envelope "cancellation is already in progress" with
    | some response => return response
    | none =>
      match ← reserveOperation c envelope "cancellation is temporarily busy" with
      | .inl response => return response
      | .inr reservation =>
        let requestId := Envelope.requestId envelope
        let reason := ((Envelope.payload envelope).get? "reason").bind Json.asString?
        match ← storeCall (cancelTask c.storeOptions requestId
            ⟨some (Envelope.senderRuntimeId envelope), reason, none⟩) with
        | .failure code _ =>
          releaseReservation reservation
          let code := cancellationErrorCode code
          return errorResponse c envelope
            (createProtocolError code ("task cancellation failed: " ++ code.name))
        | .success _ state snapshot =>
          if state = .cancelled then
            let _ ← finishTask c requestId (some snapshot)
          let response := successResponse c envelope [("snapshot", snapshot.toJson)]
          commitReservation reservation response (some requestId)
          return response

end Handlers

section Turns

/-- What a peer sends: an object, or a text. -/
inductive RawInbound where
  | object (value : Json)
  | source (text : JsString)

/-- `rawEnvelope(raw)`, of which only a record is looked at. -/
def RawInbound.fields : RawInbound → Json
  | .object value => if value.isRecord then value else .record []
  | .source _ => .record []

/-- The validation of what a peer sent. -/
def validateInbound (now : ℚ) :
    RawInbound → Except RangeError (ValidationResult Json)
  | .object value => validateEnvelope c.host c.schemaHost (envelopeOptions c now) value
  | .source text =>
    validateSerializedEnvelope c.numberHost c.host c.schemaHost (envelopeOptions c now) text

/-- The `switch` of `processInbound`; `none` when a notification is being handled. -/
def dispatchEnvelope (envelope : Json) (binding : Option Json) : RouterM (Option OperationResponse) := do
  match Envelope.operation? envelope with
  | some .peerDescribe => return some (responseFor c envelope (.ok c.description))
  | some .messageRequest => return some (← processMessageRequest c envelope)
  | some .messageReply => return some (← processMessageReply c envelope binding)
  | some .messageNotify => processMessageNotify c envelope
  | some .taskStatus => return some (← processTaskStatus c envelope)
  | some .taskCancel => return some (← processTaskCancel c envelope)
  | none => return some (errorResponse c envelope (createProtocolError .incompatible "operation is unsupported"))

/-- `processInbound(raw, binding)`, after the `await` of its authorization. -/
def processInbound (raw : RawInbound) (binding : Option Json)
    (authentication : Option (Option AuthenticatedBinding)) : RouterM (Option OperationResponse) := do
  match authorizeInbound c raw.fields binding authentication with
  | some error => return some (errorResponse c raw.fields error)
  | none =>
    let now ← wallNow
    match ← Code.ofExcept ((validateInbound c now raw).mapError .rangeError) with
    | .failure error => return some (errorResponse c raw.fields error)
    | .success envelope =>
      match ← attempted (dispatchEnvelope c envelope binding) with
      | .ok response => return response
      | .error _ => return some (errorResponse c envelope safeInternalError)

/-- The rest of `processInbound` of a notification. -/
def notified (notification : Notification) (threw : Bool) : RouterM (Option OperationResponse) := do
  match ← attempted (notificationHandled c notification threw) with
  | .ok response => return some response
  | .error _ => return some (errorResponse c notification.envelope safeInternalError)

/-- `validateOutbound(envelope)`. -/
def validateOutbound (envelope : Json) : RouterM (ValidationResult Json) := do
  if Envelope.roomId envelope ≠ c.roomId then return .failure otherRoom
  else if Envelope.senderRuntimeId envelope ≠ c.runtimeId then
    return .failure (createProtocolError .unauthorized "operation sender is not the local runtime")
  else
    let task ← if Envelope.operation? envelope = some .messageReply then
        storeCall (getRecordMetadata c.storeOptions (Envelope.requestId envelope))
      else pure none
    let late := match task.bind fun task => Date.parse c.host task.snapshot.expiresAt,
        Date.parse c.host (Envelope.expiresAt envelope) with
      | some requestExpiry, some expiry => decide (requestExpiry < expiry)
      | _, _ => false
    if late then
      return .failure (createProtocolError .malformed "reply deadline exceeds request deadline")
    else
      let now ← wallNow
      Code.ofExcept ((validateEnvelope c.host c.schemaHost (envelopeOptions c now) envelope).mapError
        .rangeError)

/-- The task of a request of this runtime. -/
def outboundTask (envelope : Json) : TaskStoreCreateInput :=
  { TaskStoreCreateInput.bare (Envelope.requestId envelope) with
    requester := some (localOwner c)
    localOwner := some (localOwner c)
    expectedTargetRuntimeId := some (Envelope.recipientRuntimeId envelope)
    roomId := some (Envelope.roomId envelope)
    responseContract := (Envelope.expectedResponse envelope).map ExpectedResponse.ofJson
    ownership := some .outbound
    createdAt := some (.wire (Envelope.createdAt envelope))
    expiresAt := some (.wire (Envelope.expiresAt envelope))
    initialState := some .created }

/-- `registerOutboundRequest(envelope)`. -/
def registerOutboundRequest (envelope : Json) : RouterM Unit := do
  if maxTrackedTasks ≤ (← Code.read).outboundRequests.size then
    Code.throw (.protocol (createProtocolError .busy "router request capacity is temporarily exhausted"))
  else
    match ← validateOutbound c envelope with
    | .failure error => Code.throw (.protocol error)
    | .success envelope =>
      let _ ← storeCall (createTask c.storeOptions (outboundTask c envelope))
      Code.modify fun router => { router with
        outboundRequests := router.outboundRequests.set (Envelope.requestId envelope)
          { envelope
            expectedTargetRuntimeId := Envelope.recipientRuntimeId envelope
            admissionResolved := false
            terminalSnapshot := none
            completion := none } }

/-- `sendEnvelope(envelope)`, up to its delivery. -/
def sendEnvelope (envelope : Json) : RouterM Unit := do
  if (← Code.read).closed then
    Code.throw (.protocol (createProtocolError .unreachable "router is closed"))
  else
    match ← validateOutbound c envelope with
    | .failure error => Code.throw (.protocol error)
    | .success envelope => Code.modify fun router => { router with sent := router.sent ++ [envelope] }

/-- `sendRequest(envelope)` up to its delivery, and `createRequest` with the envelope it builds. -/
def sendRequest (envelope : Json) : RouterM Unit := do
  let router ← Code.read
  if router.closed then
    Code.throw (.protocol (createProtocolError .unreachable "router is closed"))
  else
    if !router.outboundRequests.has (Envelope.requestId envelope) then registerOutboundRequest c envelope
    sendEnvelope c envelope

/-- The part of `applyResponse` about the task of a request that was admitted. -/
def applyAdmission (requestId : JsString) (queued : Bool) : RouterM Unit := do
  match (← Code.read).outboundRequests.get? requestId with
  | none => return
  | some record =>
    let _ ← storeCall (transition c.storeOptions requestId .accepted .empty)
    if queued then
      let _ ← storeCall (transition c.storeOptions requestId .queued .empty)
    Code.modify fun router => { router with
      outboundRequests := router.outboundRequests.set requestId { record with admissionResolved := true } }

/-- `clear()` of the task store; its rounds are bounded by the tasks there are. -/
def clearRounds (disposing : Bool) : Nat → List RecordId → StoreM Unit
  | 0, _ => return
  | rounds + 1, visited => do
    match ← clearRound disposing visited with
    | some visited => clearRounds disposing rounds visited
    | none => return

/-- `dispose()` of the task store. -/
def disposeTasks : StoreM Unit := do
  let store ← Code.read
  if store.disposed then return else clearRounds true (store.records.size + 1) []

/-- `close()`. -/
def close : RouterM Unit := do
  if (← Code.read).closed then return
  else
    Code.modify fun router => { router with closed := true }
    storeCall disposeTasks
    Code.modify fun router => { router with dedupeStore := { router.dedupeStore with
      closed := true, records := ∅ } }

end Turns

section Events

/-- What a router does a turn of its own for. The indices are those of the lists the thing that has
happened is taken from. -/
inductive RouterEvent where
  /-- An operation has arrived and its `authorizeInbound` has been awaited. -/
  | inbound (raw : RawInbound) (binding : Option Json)
      (authentication : Option (Option AuthenticatedBinding))
  /-- The handler of a notification has ended. -/
  | notified (index : Nat) (threw : Bool)
  | sendRequest (envelope : Json)
  | sendEnvelope (envelope : Json)
  /-- The response that admits a request has been applied. -/
  | admitted (requestId : JsString) (queued : Bool)
  | completeTask (requestId : JsString) (content : Content)
  | failTask (requestId : JsString) (error : ProtocolError)
  | rejectTask (requestId : JsString) (error : ProtocolError)
  | cancelTask (requestId : JsString) (request : CancellationRequest)
  | taskSnapshot (requestId : JsString)
  /-- The microtask that calls the executor. -/
  | executorCalled (index : Nat)
  | executorReturned (index : Nat) (result : TaskExecutorResult)
  | executorThrew (index : Nat)
  /-- The delivery of a terminal reply has ended; `onUnreachable` may throw then. -/
  | replyDelivered (index : Nat) (threw : Bool)
  | expiryTimer (requestId : JsString)
  | storeExpiryTimer (record : RecordId)
  | storePurgeTimer (record : RecordId)
  | dedupeTimer (record : Nat)
  | close

/-- The execution at an index, which is in this phase and goes on to the next. -/
def takeExecution (index : Nat) (phase next : ExecutionPhase) : RouterM (Option Execution) := do
  match (← Code.read).executions[index]? with
  | none => return none
  | some execution =>
    if execution.phase ≠ phase then return none
    else
      Code.modify fun router => { router with
        executions := router.executions.set index { execution with phase := next } }
      return some execution

/-- The notification at an index, which is being handled no more. -/
def takeNotification (index : Nat) : RouterM (Option Notification) := do
  let notification := (← Code.read).notifications[index]?
  Code.modify fun router => { router with notifications := router.notifications.eraseIdx index }
  return notification

/-- The end of `sendTerminalReply`. -/
def replyDelivered (index : Nat) (threw : Bool) : RouterM Unit := do
  match (← Code.read).replying[index]? with
  | none => return
  | some requestId =>
    Code.modify fun router => { router with replying := router.replying.eraseIdx index }
    if !threw then forgetRequest requestId

/-- What the router does on an event. Whoever it answers to is not looked at. -/
def perform : RouterEvent → RouterM Unit
  | .inbound raw binding authentication => do
    let _ ← processInbound c raw binding authentication
  | .notified index threw => do
    match ← takeNotification index with
    | none => return
    | some notification => let _ ← notified c notification threw
  | .sendRequest envelope => sendRequest c envelope
  | .sendEnvelope envelope => sendEnvelope c envelope
  | .admitted requestId queued => applyAdmission c requestId queued
  | .completeTask requestId content => do let _ ← completeRequest c requestId content
  | .failTask requestId error => do let _ ← failRequest c requestId error
  | .rejectTask requestId error => do let _ ← rejectRequest c requestId error
  | .cancelTask requestId request => do let _ ← cancelRequest c requestId request
  | .taskSnapshot requestId => do let _ ← currentTask c requestId
  | .executorCalled index => do let _ ← takeExecution index .queued .running
  | .executorReturned index result => do
    match ← takeExecution index .running .settled with
    | none => return
    | some execution => executorReturned c execution.requestId result
  | .executorThrew index => do
    match ← takeExecution index .running .settled with
    | none => return
    | some execution => handleExecutorFailure c execution.requestId
  | .replyDelivered index threw => replyDelivered index threw
  | .expiryTimer requestId => routerExpiryTimer c requestId
  | .storeExpiryTimer record => storeCall (expiryTimer c.storeOptions record)
  | .storePurgeTimer record => storeCall (purgeTimer record)
  | .dedupeTimer record =>
    Code.modify fun router => { router with dedupeStore := router.dedupeStore.timer record }
  | .close => close

/-- A router that has just been made. -/
structure Made (router : MessageRouter) : Prop where
  records : router.taskStore.records = ∅
  nextRecord : router.taskStore.nextRecord = 0
  unarmed : ∀ record, (router.taskStore.heap record).purgeTimer = none
  nextEntry : router.nextEntry = 0
  queue : router.policy.queue = []
  active : router.policy.active = []
  outboundRequests : router.outboundRequests = ∅
  inboundRequests : router.inboundRequests = ∅
  leases : router.leases = ∅
  executions : router.executions = []
  notifications : router.notifications = []
  sent : router.sent = []
  replying : router.replying = []

/-- What the host of a router does, as `PiAdapter` does it: it sends requests as such, leaves replies
to the router, and ends the tasks whose execution it has been given. -/
def Proper (router : MessageRouter) : RouterEvent → Prop
  | .sendRequest envelope => Envelope.operation? envelope = some .messageRequest
  | .sendEnvelope envelope => Envelope.operation? envelope ≠ some .messageReply
  | .completeTask requestId _ | .failTask requestId _ | .rejectTask requestId _ =>
    ∃ execution ∈ router.executions, execution.requestId = requestId
  | _ => True

/-- The router with what can happen to it. The host's callbacks answer as they like or throw; they
do not call the router back, as those of `PiToPiRuntimeComposition` do not. -/
def routerSystem : Transition.System MessageRouter RouterEvent where
  init := Made
  step router event router' := ∃ result, Code.Ends (perform c event) router router' result

end Events
end Operations
end PiToPi.Routing
