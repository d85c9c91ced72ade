import PiToPi.TaskStore
import PiToPi.Validation

/-!
The operations a router has sent and waits for (`router.ts`): `sendAndWait`, its deliveries,
`processResponse` and `close`, with `LocalIpcBridge.send` as one kind of delivery.

A call of `sendAndWait` is kept with its response promise. A step is the code between two
awaits; the host may take the steps of different calls in any order. What else a router does
to its tasks is a step of its own. Hooks do not call back into the router.
-/
namespace PiToPi.Outbound
open Reentrant Transition Validation

/-- The fields of an envelope that decide which response it waits for. -/
structure SentEnvelope where
  operation : OperationName
  operationId : JsString
  traceId : JsString
  requestId : Option JsString
  deriving DecidableEq

/-- The request that `sendRequest`, `status` and `cancel` name to `sendAndWait`. -/
def SentEnvelope.namedRequest (envelope : SentEnvelope) : Option JsString :=
  match envelope.operation with
  | .messageRequest | .taskStatus | .taskCancel => envelope.requestId
  | .peerDescribe | .messageReply | .messageNotify => none

/-- A call of `sendAndWait`. -/
abbrev CallId := Nat

/-- `PendingOperation`; `resolve` and `reject` settle the response promise of `call`. -/
structure PendingOperation where
  operation : OperationName
  requestId : Option JsString
  call : CallId
  deriving DecidableEq

/-- How a response promise is settled. -/
inductive Settlement where
  | resolved (response : OperationResponse)
  /-- With the error of the response. -/
  | failed (error : Json)
  /-- With the error of the validator. -/
  | invalid (error : ProtocolError)
  /-- With `router is closed`. -/
  | closed
  deriving DecidableEq

/-- Where `sendEnvelope` is for a call. -/
inductive Delivery where
  | underway
  /-- `LocalIpcBridge.send` has passed on the response of the peer. -/
  | processed
  /-- It has caught an exception, and is to answer that nothing was delivered. -/
  | failing
  | delivered
  | undelivered
  /-- It threw: the router was closed, the envelope could not be checked, or `onUnreachable` threw. -/
  | thrown
  /-- `sendAndWait` threw before it: too many operations are pending. -/
  | refused
  deriving DecidableEq, Repr

def Delivery.hasEnded : Delivery → Bool
  | .underway | .processed | .failing => false
  | .delivered | .undelivered | .thrown | .refused => true

/-- The call ends with the exception of its delivery. -/
def Delivery.hasFailed : Delivery → Bool
  | .undelivered | .thrown | .refused => true
  | .underway | .processed | .failing | .delivered => false

structure Call where
  envelope : SentEnvelope
  delivery : Delivery
  /-- The state of `responsePromise`. -/
  response : Option Settlement
  deriving DecidableEq

/-- The promise the caller holds is settled. -/
def Call.isSettled (call : Call) : Bool :=
  call.delivery.hasFailed || (call.delivery == .delivered && call.response.isSome)

/-- The call is still waited for. -/
def Call.isWaiting (call : Call) : Bool := !call.delivery.hasFailed && call.response.isNone

/-- `OutboundRequestRecord`, as far as responses read and write it. -/
structure OutboundRequestRecord where
  admissionResolved : Bool
  deriving DecidableEq

structure Router where
  limits : ProtocolLimits
  pending : JsMap JsString PendingOperation
  /-- The calls made so far; the index is the `CallId`. -/
  calls : List Call
  outboundRequests : JsMap JsString OutboundRequestRecord
  taskStore : TaskStore
  closed : Bool

def maxPendingOperations : Nat := 4096

/-- What `processResponse` throws. -/
inductive Thrown where
  | rangeError (message : RangeError)
  | store (error : StoreError)

namespace Router

def setDelivery (s : Router) (call : CallId) (delivery : Delivery) : Router :=
  { s with calls := s.calls.modify call fun c => { c with delivery } }

/-- Settle the response promise of a call, once. -/
def settle (s : Router) (call : CallId) (settlement : Settlement) : Router :=
  { s with calls := s.calls.modify call fun c => { c with response := c.response.or (some settlement) } }

/-- `pending.delete(operationId)`. -/
def forget (s : Router) (operationId : JsString) : Router :=
  { s with pending := s.pending.delete operationId }

/-- `sendAndWait(envelope, requestId)` up to its delivery; `sendEnvelope` throws if the router
is closed. -/
def sendAndWait (s : Router) (envelope : SentEnvelope) : Router :=
  if maxPendingOperations ≤ s.pending.size then
    { s with calls := s.calls ++ [{ envelope, delivery := .refused, response := none }] }
  else
    { s with
      pending := s.pending.set envelope.operationId {
        operation := envelope.operation
        requestId := envelope.namedRequest
        call := s.calls.length }
      calls := s.calls ++ [{
        envelope
        delivery := if s.closed then .thrown else .underway
        response := none }] }

/-- `sendAndWait` after its delivery. -/
def endDelivery (s : Router) (call : CallId) (result : Delivery) : Router :=
  match s.calls[call]? with
  | none => s
  | some c =>
    if result = .undelivered then (s.forget c.envelope.operationId).setDelivery call result
    else s.setDelivery call result

/-- The transitions of a request that was admitted. -/
def admission (options : TaskStoreOptions) (requestId : JsString) (result : Json) : StoreM Unit := do
  let _ ← transition options requestId .accepted .empty
  if result.get? "state" = some (.string "queued") then
    let _ ← transition options requestId .queued .empty
  return

/-- The task a result admits, for a call that named it. -/
def admitted (s : Router) (pending : PendingOperation) (response : OperationResponse) (result : Json) :
    Option JsString :=
  if response.operation = .messageRequest then
    pending.requestId.filter fun requestId => s.outboundRequests.has requestId &&
      result.get? "requestId" == some (.string requestId)
  else none

/-- The part of `applyResponse` about the task. -/
def admitTask (options : TaskStoreOptions) (s : Router) (pending : PendingOperation)
    (response : OperationResponse) (result : Json) : Router × Except Thrown Unit :=
  match s.admitted pending response result with
  | none => (s, .ok ())
  | some requestId =>
    let (taskStore, moved) := (admission options requestId result).run s.taskStore
    match moved with
    | .error thrown => ({ s with taskStore }, .error (.store thrown))
    | .ok () =>
      ({ s with taskStore, outboundRequests := s.outboundRequests.set requestId ⟨true⟩ }, .ok ())

/-- `applyResponse(response)`. -/
def applyResponse (options : TaskStoreOptions) (s : Router) (response : OperationResponse) :
    Router × Except Thrown Unit :=
  match s.pending.get? response.operationId with
  | none => (s, .ok ())
  | some pending =>
    let s := s.forget response.operationId
    match response.outcome with
    | .error error => (s.settle pending.call (.failed error), .ok ())
    | .ok result =>
      match s.admitTask options pending response result with
      | (s, .error thrown) => (s, .error thrown)
      | (s, .ok ()) => (s.settle pending.call (.resolved response), .ok ())

/-- `raw.operationId`, of a record that has one. -/
def operationIdOf (raw : Json) : Option JsString :=
  if raw.isRecord then (raw.get? "operationId").bind Json.asString? else none

/-- The entry a raw response is for. -/
def pendingFor (s : Router) (raw : Json) : Option PendingOperation :=
  (operationIdOf raw).bind s.pending.get?

/-- The options `processResponse` validates with. -/
def responseOptions (s : Router) (raw : Json) (now : ℚ) : ValidationOptions where
  now
  maxEnvelopeBytes := none
  limits := s.limits
  expectedRequestId := (s.pendingFor raw).bind PendingOperation.requestId

/-- An invalid response fails the operation it is for. -/
def rejectPending (s : Router) (raw : Json) (error : ProtocolError) : Router :=
  match operationIdOf raw, s.pendingFor raw with
  | some operationId, some pending => (s.settle pending.call (.invalid error)).forget operationId
  | _, _ => s

/-- `processResponse(raw)`; the clock reading is `none` when it is not finite. -/
def processResponse (options : TaskStoreOptions) (s : Router) (raw : Json) (wall : Option ℚ) :
    Router × Except Thrown Unit :=
  match wall with
  | none => (s, .error (.rangeError "router clock must return a finite number"))
  | some now =>
    match validateOperationResponse options.host (s.responseOptions raw now) raw with
    | .error message => (s, .error (.rangeError message))
    | .ok (.failure error) => (s.rejectPending raw error, .ok ())
    | .ok (.success response) => s.applyResponse options response

/-- `LocalIpcBridge.send` with the response of the peer to a call. -/
def exchange (options : TaskStoreOptions) (s : Router) (call : CallId) (raw : Json)
    (wall : Option ℚ) : Router :=
  match s.processResponse options raw wall with
  | (s, .ok ()) => s.setDelivery call .processed
  | (s, .error _) => s.setDelivery call .failing

/-- `close()`, with what disposing leaves of the task store. -/
def close (s : Router) (taskStore : TaskStore) : Router :=
  if s.closed then s
  else
    { (s.pending.values.foldl (fun s pending => s.settle pending.call .closed) s) with
      closed := true, pending := ∅, taskStore }

end Router

inductive Label where
  /-- `sendRequest`, `createRequest`, `notify`, `status`, `cancel` or `describe` sends. -/
  | send (envelope : SentEnvelope)
  /-- The delivery of a call has ended. -/
  | ended (call : CallId) (result : Delivery)
  /-- The host gives a response to `processResponse`. -/
  | respond (raw : Json) (wall : Option ℚ)
  /-- The bridge gives it the response of the peer to a call. -/
  | exchange (call : CallId) (raw : Json) (wall : Option ℚ)
  | close (taskStore : TaskStore)
  /-- Anything else the router does to its tasks. -/
  | elsewhere (taskStore : TaskStore) (outboundRequests : JsMap JsString OutboundRequestRecord)

section System

variable (options : TaskStoreOptions) (bridged : Bool)

/-- How a delivery may end. -/
def Delivery.mayEnd (bridged : Bool) (before after : Delivery) : Prop :=
  match before, after with
  | .underway, .delivered => bridged = false
  | .processed, .delivered => True
  | .underway, .undelivered | .failing, .undelivered => True
  | .underway, .thrown | .failing, .thrown => True
  | _, _ => False

/-- Requests are refused by a closed router, and replies are not waited for. -/
def Label.allowed (s : Router) : Label → Prop
  | .send envelope => envelope.operation ≠ .messageReply ∧
      (s.closed = true → envelope.operation ≠ .messageRequest)
  | .ended call result => ∃ c, s.calls[call]? = some c ∧ c.delivery.mayEnd bridged result
  | .exchange call _ _ => bridged = true ∧ ∃ c, s.calls[call]? = some c ∧ c.delivery = .underway
  | .respond .. | .close _ | .elsewhere .. => True

def Label.apply (s : Router) : Label → Router
  | .send envelope => s.sendAndWait envelope
  | .ended call result => s.endDelivery call result
  | .respond raw wall => (s.processResponse options raw wall).1
  | .exchange call raw wall => s.exchange options call raw wall
  | .close taskStore => s.close taskStore
  | .elsewhere taskStore outboundRequests => { s with taskStore, outboundRequests }

/-- A router with its callers, its deliveries and its peers; `bridged` tells whether the
delivery is a `LocalIpcBridge`. -/
def system : System Router Label where
  init s := s.pending = ∅ ∧ s.calls = [] ∧ s.closed = false
  step s label s' := label.allowed bridged s ∧ s' = label.apply options s

/-- The response a label brings. -/
def Label.response : Label → Option (Json × Option ℚ)
  | .respond raw wall | .exchange _ raw wall => some (raw, wall)
  | .send _ | .ended .. | .close _ | .elsewhere .. => none

end System
end PiToPi.Outbound
