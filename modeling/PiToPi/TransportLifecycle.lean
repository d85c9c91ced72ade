import PiToPi.EndpointCleanup
import PiToPi.Naming

/-!
`LocalIpcTransport` (`transport/local-ipc.ts`): `bind`, `request` and `close` of one transport, with
the events of its servers and sockets.

A call of `bind` or `close` waits for the call before it, and its body then runs from one of its
waits to the next. Everything that is awaited may take any time and may fail, and every deadline may
pass at any time. `closing` stands for `closing` and `closed`, which are set together. A server takes
connections from the moment it listens until the callback of its `close`, and a socket that a factory
gives is a new one.
-/
namespace PiToPi.TransportLifecycle
open EndpointCleanup (PosixSocketIdentity)

/-- `process.platform`. -/
inductive Platform where
  /-- `linux` or `darwin`. -/
  | posix
  | win32
  | other
  deriving DecidableEq

def isPosixRuntime (platform : Platform) : Bool := platform == .posix

inductive ServerState where
  | idle
  | listening
  /-- `server.close` has been called. -/
  | closing
  | closed
  deriving DecidableEq

/-- It may still take connections. -/
def ServerState.active : ServerState → Bool
  | .listening | .closing => true
  | .idle | .closed => false

structure OwnedEndpoint where
  endpoint : JsString
  identity : Option PosixSocketIdentity
  deriving DecidableEq

structure Socket where
  /-- The server that has accepted it; a request has opened the others. -/
  server : Option Nat
  destroyed : Bool
  /-- It has emitted `close`. -/
  closed : Bool
  /-- `readFrame` reads a request from it. -/
  reading : Bool
  /-- It was opened by a request that tries again. -/
  retry : Bool
  /-- It was opened after `close` had been called. -/
  late : Bool
  deriving DecidableEq

/-- A call in the lifecycle queue. Of a `bind`, whether its handler is a function and its endpoint
passes `assertIpcEndpoint`. -/
inductive Body where
  | bind (endpoint : JsString) (accepted : Bool)
  | close
  deriving DecidableEq

/-- What a `bind` does once it has discarded its server. -/
inductive AfterDiscard where
  | recover
  | reject
  deriving DecidableEq

/-- What the body of a `bind` waits for. -/
inductive BindPhase where
  /-- `listenServer(server, endpoint)`, of the first server or of the one after the recovery. -/
  | listening (server : Nat) (retried : Bool)
  /-- `lstatSocket(endpoint)`. -/
  | inspecting (server : Nat)
  | discarding (server : Nat) (next : AfterDiscard)
  /-- `removeStalePosixEndpoint(..)`. -/
  | recovering
  deriving DecidableEq

/-- What the body of `close` waits for. -/
inductive ClosePhase where
  /-- `resourcesCompletion`, within the first or the second deadline. -/
  | shuttingDown (forced : Bool)
  /-- `unlinkOwnedSocket(..)`. -/
  | unlinking
  deriving DecidableEq

inductive Phase where
  | binding (endpoint : JsString) (phase : BindPhase)
  | closing (phase : ClosePhase)
  deriving DecidableEq

inductive Status where
  | waiting
  | running (phase : Phase)
  | resolved
  | rejected
  deriving DecidableEq

def Status.settled : Status → Bool
  | .resolved | .rejected => true
  | .waiting | .running _ => false

structure Call where
  body : Body
  status : Status
  /-- `close` had been called when its body began. -/
  late : Bool
  deriving DecidableEq

inductive DrainPhase where
  | looping
  /-- The wait before the last look at the two sets. -/
  | confirming
  | drained
  deriving DecidableEq

/-- What `closeInternal` has taken from the transport, `serverCloseCompletion` and
`drainResources`. -/
structure Drain where
  server : Option Nat
  ownedEndpoint : Option OwnedEndpoint
  serverClosed : Bool
  serverCloseError : Bool
  phase : DrainPhase
  deriving DecidableEq

inductive RequestPhase where
  | attempting (socket : Nat)
  /-- `socketClosed(attemptSocket)`. -/
  | closing (socket : Nat)
  /-- The millisecond before it tries again. -/
  | waiting
  | ended
  deriving DecidableEq

structure Request where
  phase : RequestPhase
  /-- `overallDeadline` has passed. -/
  expired : Bool
  /-- Its signal is aborted. -/
  aborted : Bool
  /-- Its caller has been told. -/
  settled : Bool
  /-- It was called after `close` had been. -/
  late : Bool
  deriving DecidableEq

/-- What a `bind` leaves that rejects. -/
structure Rejection where
  /-- Its body found the transport bound. -/
  bound : Bool
  server : Option Nat
  boundEndpoint : Option JsString
  /-- A server listens. -/
  listening : Bool
  deriving DecidableEq

/-- How `lstatSocket` ends. -/
inductive Inspection where
  | found (identity : PosixSocketIdentity)
  | missing
  | thrown
  deriving DecidableEq

structure World where
  server : Option Nat
  boundEndpoint : Option JsString
  ownedEndpoint : Option OwnedEndpoint
  /-- `this.handler !== undefined`. -/
  handler : Bool
  closing : Bool
  closePromise : Option Nat
  /-- How many calls are in the lifecycle queue; the tail is the last one's. -/
  lifecycleTail : Nat
  calls : Nat → Call
  nextServer : Nat
  servers : Nat → ServerState
  nextSocket : Nat
  sockets : Nat → Socket
  clientSockets : List Nat
  serverSockets : List Nat
  drain : Option Drain
  nextRequest : Nat
  requests : Nat → Request
  rejections : List Rejection
  /-- For each call of a handler whether `close` had been called. -/
  invoked : List Bool

namespace World

def setStatus (w : World) (call : Nat) (status : Status) : World :=
  { w with calls := Function.update w.calls call { w.calls call with status } }

def setServer (w : World) (server : Nat) (state : ServerState) : World :=
  { w with servers := Function.update w.servers server state }

def setSocket (w : World) (socket : Nat) (state : Socket) : World :=
  { w with sockets := Function.update w.sockets socket state }

def setRequest (w : World) (request : Nat) (state : Request) : World :=
  { w with requests := Function.update w.requests request state }

def listens (w : World) : Bool := (List.range w.nextServer).any fun server => w.servers server == .listening

/-- `destroySocket(socket)`. -/
def destroySocket (w : World) (socket : Nat) : World :=
  w.setSocket socket { w.sockets socket with destroyed := true }

/-- Every socket of the two sets is destroyed. -/
def destroySockets (w : World) : World :=
  { w with
    sockets := fun socket =>
      if socket ∈ w.clientSockets ∨ socket ∈ w.serverSockets then
        { w.sockets socket with destroyed := true }
      else w.sockets socket }

/-- `closeServer(server)` up to its wait. -/
def closeServer (w : World) (server : Nat) : World :=
  { w with
    servers :=
      if w.servers server = .listening then Function.update w.servers server .closing
      else w.servers }

section Bind

def setBind (w : World) (call : Nat) (endpoint : JsString) (phase : BindPhase) : World :=
  w.setStatus call (.running (.binding endpoint phase))

/-- `createServer()`, which is to listen. -/
def createServer (w : World) (call : Nat) (endpoint : JsString) (retried : Bool) : World :=
  { w.setBind call endpoint (.listening w.nextServer retried) with
    server := some w.nextServer
    nextServer := w.nextServer + 1
    servers := Function.update w.servers w.nextServer .idle }

def rejectBind (w : World) (call : Nat) (bound : Bool) : World :=
  { w.setStatus call .rejected with
    rejections := w.rejections ++ [⟨bound, w.server, w.boundEndpoint, w.listens⟩] }

/-- `discard(clearHandler)` up to its wait. -/
def discard (w : World) (call : Nat) (endpoint : JsString) (server : Nat) (next : AfterDiscard) :
    World :=
  (if w.server = some server then
    { w with
      server := none
      boundEndpoint := none
      ownedEndpoint := none
      handler := w.handler && next == .recover }
  else w).closeServer server |>.setBind call endpoint (.discarding server next)

/-- The errors of the two attempts to listen and of `publish`; where `publish` has discarded the
server, there is nothing left to discard. -/
def attemptFails (platform : Platform) (w : World) (call : Nat) (endpoint : JsString) (server : Nat)
    (retried inUse : Bool) : World :=
  if !retried && inUse && isPosixRuntime platform && !w.closing then
    w.discard call endpoint server .recover
  else w.discard call endpoint server .reject

/-- The end of `publish`. -/
def bound (w : World) (call : Nat) (endpoint : JsString) (identity : Option PosixSocketIdentity) :
    World :=
  { w.setStatus call .resolved with
    ownedEndpoint := some ⟨endpoint, identity⟩
    boundEndpoint := some endpoint }

/-- `publish()` up to its wait. -/
def publish (platform : Platform) (w : World) (call : Nat) (endpoint : JsString) (server : Nat) :
    World :=
  if w.closing then w.discard call endpoint server .reject
  else if isPosixRuntime platform then w.setBind call endpoint (.inspecting server)
  else w.bound call endpoint none

/-- `bindInternal(endpoint, handler)` begins. -/
def startBind (w : World) (call : Nat) (endpoint : JsString) (accepted : Bool) : World :=
  if w.closing || !accepted || w.server.isSome || w.boundEndpoint.isSome then
    w.rejectBind call (w.server.isSome || w.boundEndpoint.isSome)
  else { w with handler := true }.createServer call endpoint false

end Bind

section Close

/-- A round of the loop of `drainResources`. -/
def drainRound (w : World) (d : Drain) : World :=
  { w.destroySockets with
    drain := some { d with
      phase :=
        if w.clientSockets = [] ∧ w.serverSockets = [] ∧ d.serverClosed = true then .confirming
        else .looping } }

/-- `closeInternal()` begins. -/
def startClose (w : World) (call : Nat) : World :=
  let taken : Drain := {
    server := w.server
    ownedEndpoint := w.ownedEndpoint
    serverClosed := w.server.isNone
    serverCloseError := false
    phase := .looping }
  let left : World := { w.setStatus call (.running (.closing (.shuttingDown false))) with
    server := none
    boundEndpoint := none
    ownedEndpoint := none
    handler := false }
  (match w.server with
    | none => left
    | some server => left.closeServer server).drainRound taken

/-- `drainResources` goes on. -/
def drainOn (w : World) (d : Drain) : World :=
  match d.phase with
  | .looping => w.drainRound d
  | .confirming =>
    if w.clientSockets = [] ∧ w.serverSockets = [] then
      { w with drain := some { d with phase := .drained } }
    else w.drainRound d
  | .drained => w

/-- `resourcesCompletion` has settled. -/
def confirm (platform : Platform) (w : World) (call : Nat) (d : Drain) : World :=
  if d.serverCloseError then w.setStatus call .rejected
  else if isPosixRuntime platform && d.ownedEndpoint.isSome then
    w.setStatus call (.running (.closing .unlinking))
  else w.setStatus call .resolved

/-- The deadline of a wait for `resourcesCompletion` has passed. -/
def shutdownExpires (w : World) (call : Nat) (forced : Bool) : World :=
  w.destroySockets.setStatus call
    (if forced then .rejected else .running (.closing (.shuttingDown true)))

end Close

section Sockets

/-- `trackSocket(this.clientSockets, this.options.socketFactory(endpoint))`, of a request. -/
def openSocket (w : World) (request : Nat) (state : Request) (retry : Bool) : World :=
  { w.setSocket w.nextSocket ⟨none, false, false, false, retry, w.closing⟩ |>.setRequest request
      { state with phase := .attempting w.nextSocket } with
    nextSocket := w.nextSocket + 1
    clientSockets := w.clientSockets ++ [w.nextSocket] }

/-- `handleConnection(socket)`. -/
def handleConnection (w : World) (server : Nat) : World :=
  { w.setSocket w.nextSocket ⟨some server, !w.handler || w.closing, false, w.handler && !w.closing,
      false, w.closing⟩ with
    nextSocket := w.nextSocket + 1
    serverSockets := w.serverSockets ++ [w.nextSocket] }

/-- `handleServerConnection` has read a request. -/
def requestRead (w : World) (socket : Nat) : World :=
  if w.closing || (w.sockets socket).destroyed then
    w.setSocket socket { w.sockets socket with reading := false, destroyed := true }
  else
    { w.setSocket socket { w.sockets socket with reading := false } with
      invoked := w.invoked ++ [w.closing] }

/-- A socket emits `close`. -/
def socketCloses (w : World) (socket : Nat) : World :=
  { w.setSocket socket { w.sockets socket with destroyed := true, closed := true } with
    clientSockets := w.clientSockets.filter (· ≠ socket)
    serverSockets := w.serverSockets.filter (· ≠ socket) }

/-- The request ends, or its caller is told that it is given up; its socket is destroyed. -/
def endRequest (w : World) (request : Nat) (state : Request) (phase : RequestPhase) : World :=
  (match state.phase with
    | .attempting socket | .closing socket => w.destroySocket socket
    | .waiting | .ended => w).setRequest request { state with phase, settled := true }

/-- `request(endpoint, payload, options)`, accepted where the options and the endpoint are valid,
it has neither expired nor been aborted and the factory gives a socket. -/
def request (w : World) (accepted : Bool) : World :=
  let called : Request := {
    phase := .ended, expired := false, aborted := false, settled := true, late := w.closing }
  let next : World := { w with nextRequest := w.nextRequest + 1 }
  if w.closing || !accepted then next.setRequest w.nextRequest called
  else next.openSocket w.nextRequest { called with settled := false } false

/-- A connection has failed for a reason that is transient on Windows. -/
def transientError (w : World) (request socket : Nat) (state : Request) : World :=
  if state.expired then w.endRequest request state .ended
  else (w.destroySocket socket).setRequest request { state with phase := .closing socket }

/-- A request tries again. -/
def retryRequest (w : World) (request : Nat) (state : Request) (accepted : Bool) : World :=
  if state.expired || state.aborted || !accepted then w.endRequest request state .ended
  else w.openSocket request state true

end Sockets

end World

/-- What may happen to a call of the lifecycle queue. -/
inductive CallEvent where
  /-- The call before this one has released it. -/
  | start
  /-- The server begins to listen. -/
  | listens
  | listened
  | listenFails (inUse : Bool)
  | inspected (inspection : Inspection)
  /-- `closeServer` ends, in `discard`. -/
  | discarded (failed : Bool)
  /-- `removeStalePosixEndpoint` has removed the endpoint, or it has not, or throws. -/
  | recovered (removed : Bool)
  /-- `resourcesCompletion` has settled. -/
  | confirm
  | shutdownExpires
  | unlinked (failed : Bool)
  deriving DecidableEq

/-- What may happen to a request. -/
inductive RequestEvent where
  | ends
  | transientError
  | attemptClosed
  | retry (accepted : Bool)
  | expire
  | abort
  /-- `withDeadline` rejects. -/
  | giveUp
  deriving DecidableEq

/-- What may happen next. -/
inductive Event where
  | bind (endpoint : JsString) (accepted : Bool)
  | close
  | request (accepted : Bool)
  | call (call : Nat) (event : CallEvent)
  | attempt (request : Nat) (event : RequestEvent)
  /-- The callback of `server.close`. -/
  | serverCloses (server : Nat)
  /-- `serverCloseCompletion` ends. -/
  | serverClosed (failed : Bool)
  | drain
  | connection (server : Nat)
  | requestRead (socket : Nat)
  /-- A deadline, an error or the end of the response destroys a socket. -/
  | destroy (socket : Nat)
  | socketCloses (socket : Nat)
  deriving DecidableEq

namespace World

/-- `enqueueLifecycle(operation)`. -/
def enqueueLifecycle (w : World) (body : Body) : World :=
  { w with
    lifecycleTail := w.lifecycleTail + 1
    calls := Function.update w.calls w.lifecycleTail ⟨body, .waiting, false⟩ }

/-- `close()`. -/
def close (w : World) : World :=
  match w.closePromise with
  | some _ => w
  | none => { w with closing := true, closePromise := some w.lifecycleTail }.enqueueLifecycle .close

/-- The promise that a call waits for has been resolved. -/
def released (w : World) : Nat → Bool
  | 0 => true
  | call + 1 => (w.calls call).status.settled

/-- The body of a call begins. -/
def start (w : World) (call : Nat) : World :=
  let begun : World :=
    { w with calls := Function.update w.calls call { w.calls call with late := w.closing } }
  match (w.calls call).body with
  | .bind endpoint accepted => begun.startBind call endpoint accepted
  | .close => begun.startClose call

end World

section Step

variable (platform : Platform)

/-- What a `bind` has waited for comes. -/
def bindStep (w : World) (call : Nat) (endpoint : JsString) : BindPhase → CallEvent → Option World
  | .listening server _, .listens =>
    if w.servers server = .idle then some (w.setServer server .listening) else none
  | .listening server _, .listened =>
    if w.servers server = .listening then some (w.publish platform call endpoint server) else none
  | .listening server retried, .listenFails inUse =>
    some (w.attemptFails platform call endpoint server retried inUse)
  | .inspecting server, .inspected inspection =>
    match inspection with
    | .found identity => some (w.bound call endpoint (some identity))
    | .missing | .thrown => some (w.discard call endpoint server .reject)
  | .discarding server next, .discarded failed =>
    if (w.servers server).active then none
    else if next = .recover ∧ failed = false then some (w.setBind call endpoint .recovering)
    else some (w.rejectBind call false)
  | .recovering, .recovered removed =>
    some (if removed then w.createServer call endpoint true else w.rejectBind call false)
  | _, _ => none

/-- What `close` has waited for comes. -/
def closeStep (w : World) (call : Nat) : ClosePhase → CallEvent → Option World
  | .shuttingDown _, .confirm =>
    match w.drain with
    | some d =>
      if d.phase = .drained ∧ d.serverClosed = true then some (w.confirm platform call d) else none
    | none => none
  | .shuttingDown forced, .shutdownExpires => some (w.shutdownExpires call forced)
  | .unlinking, .unlinked failed =>
    some (w.setStatus call (if failed then .rejected else .resolved))
  | _, _ => none

def callStep (w : World) (call : Nat) (event : CallEvent) : Option World :=
  match (w.calls call).status with
  | .waiting =>
    if event = .start ∧ w.released call = true then some (w.start call) else none
  | .running (.binding endpoint phase) => bindStep platform w call endpoint phase event
  | .running (.closing phase) => closeStep platform w call phase event
  | .resolved | .rejected => none

def requestStep (w : World) (request : Nat) (state : Request) : RequestEvent → Option World
  | .ends =>
    match state.phase with
    | .attempting _ => some (w.endRequest request state .ended)
    | _ => none
  | .transientError =>
    match state.phase with
    | .attempting socket =>
      if platform = .win32 then some (w.transientError request socket state) else none
    | _ => none
  | .attemptClosed =>
    match state.phase with
    | .closing socket =>
      if (w.sockets socket).closed then some (w.setRequest request { state with phase := .waiting })
      else none
    | _ => none
  | .retry accepted =>
    if state.phase = .waiting then some (w.retryRequest request state accepted) else none
  | .expire => some (w.setRequest request { state with expired := true })
  | .abort => some (w.setRequest request { state with aborted := true })
  | .giveUp => if state.expired || state.aborted then some (w.endRequest request state state.phase) else none

/-- The effect of an event, where it can happen. -/
def step (w : World) : Event → Option World
  | .bind endpoint accepted => some (w.enqueueLifecycle (.bind endpoint accepted))
  | .close => some w.close
  | .request accepted => some (w.request accepted)
  | .call call event => if call < w.lifecycleTail then callStep platform w call event else none
  | .attempt request event =>
    if request < w.nextRequest then requestStep platform w request (w.requests request) event
    else none
  | .serverCloses server =>
    if w.servers server = .closing then some (w.setServer server .closed) else none
  | .serverClosed failed =>
    match w.drain with
    | some d =>
      if d.serverClosed || d.server.any fun server => (w.servers server).active then none
      else some { w with drain := some { d with serverClosed := true, serverCloseError := failed } }
    | none => none
  | .drain => w.drain.map w.drainOn
  | .connection server => if (w.servers server).active then some (w.handleConnection server) else none
  | .requestRead socket => if (w.sockets socket).reading then some (w.requestRead socket) else none
  | .destroy socket => if socket < w.nextSocket then some (w.destroySocket socket) else none
  | .socketCloses socket => if socket < w.nextSocket then some (w.socketCloses socket) else none

end Step

/-- A new transport. -/
def initial : World where
  server := none
  boundEndpoint := none
  ownedEndpoint := none
  handler := false
  closing := false
  closePromise := none
  lifecycleTail := 0
  calls _ := ⟨.close, .waiting, false⟩
  nextServer := 0
  servers _ := .idle
  nextSocket := 0
  sockets _ := ⟨none, true, true, false, false, false⟩
  clientSockets := []
  serverSockets := []
  drain := none
  nextRequest := 0
  requests _ := ⟨.ended, false, false, true, false⟩
  rejections := []
  invoked := []

/-- The runs of a transport. -/
def transportSystem (platform : Platform) : Transition.System World Event where
  init w := w = initial
  step w event w' := step platform w event = some w'

end PiToPi.TransportLifecycle
