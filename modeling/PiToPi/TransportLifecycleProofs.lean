import PiToPi.TransportLifecycle

/-!
The bodies of `bind` and `close` run one at a time, and what each of their waits finds is said by
one condition a wait. Once `close` has taken the server from the transport nothing is bound any
more, and when `drainResources` has seen both sets empty no socket is left but those of requests
that try again.
-/
namespace PiToPi.TransportLifecycle
open Transition

variable {platform : Platform} {w w' : World}

section Statement

/-- The body of the call runs. -/
def World.Running (w : World) (call : Nat) : Prop :=
  call < w.lifecycleTail ∧ ∃ phase, (w.calls call).status = .running phase

/-- A socket of a request that tried again after `close` had been called. -/
def Retried (platform : Platform) (socket : Socket) : Prop :=
  socket.server = none ∧ socket.late = true ∧ socket.retry = true ∧ platform = .win32

/-- What `close` leaves when it resolves. -/
structure Closed (platform : Platform) (w : World) : Prop where
  server : w.server = none
  boundEndpoint : w.boundEndpoint = none
  /-- No server listens, and none takes connections. -/
  servers : ∀ server, (w.servers server).active = false
  sockets : ∀ socket < w.nextSocket, (w.sockets socket).closed = false →
    Retried platform (w.sockets socket)

/-- What is bound and what listens is as it was. -/
structure SameBinding (w w' : World) : Prop where
  server : w'.server = w.server
  boundEndpoint : w'.boundEndpoint = w.boundEndpoint
  ownedEndpoint : w'.ownedEndpoint = w.ownedEndpoint
  handler : w'.handler = w.handler
  servers : w'.servers = w.servers

structure Orderly (platform : Platform) (w : World) : Prop where
  /-- Bodies do not overlap. -/
  alone : ∀ i j, w.Running i → w.Running j → i = j
  /-- At most one server listens. -/
  single : ∀ s t, w.servers s = .listening → w.servers t = .listening → s = t
  /-- A `bind` that rejects leaves nothing, unless its body found the transport bound. -/
  rejected : ∀ r ∈ w.rejections, r.bound = false →
    r.server = none ∧ r.boundEndpoint = none ∧ r.listening = false
  bound : ∀ r ∈ w.rejections, r.bound = true → r.server.isSome = true ∧ r.boundEndpoint.isSome = true
  /-- A `bind` whose body finds the transport bound rejects, and leaves that binding as it is. -/
  keeps : ∀ call endpoint accepted w', (w.calls call).body = .bind endpoint accepted →
    (w.server.isSome || w.boundEndpoint.isSome) = true → step platform w (.call call .start) = some w' →
      (w'.calls call).status = .rejected ∧ SameBinding w w'
  /-- After `close` has been called every `bind` and every request rejects. -/
  lateBind : ∀ call < w.lifecycleTail, (w.calls call).late = true → (w.calls call).body ≠ .close →
    (w.calls call).status = .rejected
  /-- A call made after that of `close` rejects as soon as its body begins. -/
  after : ∀ closer, w.closePromise = some closer → ∀ call < w.lifecycleTail, closer < call →
    (w.calls call).status = .waiting ∨ (w.calls call).status = .rejected
  lateRequest : ∀ request < w.nextRequest, (w.requests request).late = true →
    (w.requests request).phase = .ended ∧ (w.requests request).settled = true
  /-- Only a request that tries again opens a socket then, and no handler is called. -/
  lateSocket : ∀ socket < w.nextSocket, (w.sockets socket).server = none →
    (w.sockets socket).late = true → Retried platform (w.sockets socket)
  invoked : true ∉ w.invoked
  closed : ∀ call < w.lifecycleTail, (w.calls call).body = .close →
    (w.calls call).status = .resolved → Closed platform w

/-- Where nothing is bound and `close` has not been called, a `bind` that is called may succeed,
whatever calls are before it in the queue. -/
def Reopens (platform : Platform) (w : World) : Prop :=
  w.closing = false → w.boundEndpoint = none → ∀ endpoint, ∃ w',
    ((transportSystem platform).startingAt (w.enqueueLifecycle (.bind endpoint true))).Reachable w' ∧
      w'.calls w.lifecycleTail = ⟨.bind endpoint true, .resolved, false⟩ ∧ w'.boundEndpoint = some endpoint

end Statement

section Invariant

/-- Nothing is bound. -/
structure Quiet (w : World) : Prop where
  server : w.server = none
  boundEndpoint : w.boundEndpoint = none
  ownedEndpoint : w.ownedEndpoint = none
  servers : ∀ server, (w.servers server).active = false

structure Bound (w : World) (server : Nat) : Prop where
  current : w.server = some server
  known : server < w.nextServer
  listening : w.servers server = .listening
  boundEndpoint : w.boundEndpoint.isSome = true
  others : ∀ other, other ≠ server → (w.servers other).active = false

/-- A `bind` has created the server. -/
structure Held (w : World) (server : Nat) : Prop where
  current : w.server = some server
  known : server < w.nextServer
  boundEndpoint : w.boundEndpoint = none
  ownedEndpoint : w.ownedEndpoint = none
  state : w.servers server = .idle ∨ w.servers server = .listening
  others : ∀ other, other ≠ server → (w.servers other).active = false

/-- A `bind` has given its server up. -/
structure Discarded (w : World) (server : Nat) : Prop where
  current : w.server = none
  boundEndpoint : w.boundEndpoint = none
  ownedEndpoint : w.ownedEndpoint = none
  state : w.servers server ≠ .listening
  others : ∀ other, other ≠ server → (w.servers other).active = false

def BindOk (w : World) : BindPhase → Prop
  | .listening server _ => Held w server
  | .inspecting server => Held w server ∧ w.servers server = .listening
  | .discarding server _ => Discarded w server
  | .recovering => Quiet w

/-- `close` has taken what was bound. -/
structure Shut (w : World) (d : Drain) : Prop where
  server : w.server = none
  boundEndpoint : w.boundEndpoint = none
  ownedEndpoint : w.ownedEndpoint = none
  silent : ∀ server, w.servers server ≠ .listening
  taken : ∀ server, (w.servers server).active = true → d.server = some server
  gone : d.serverClosed = true → ∀ server, (w.servers server).active = false
  /-- The loop leaves only once the server is closed. -/
  confirmed : d.phase ≠ .looping → d.serverClosed = true

/-- Before the body of `close` has begun. -/
structure Open (w : World) : Prop where
  waits : ∀ call < w.lifecycleTail, (w.calls call).body = .close → (w.calls call).status = .waiting
  binding : ∀ call < w.lifecycleTail, ∀ phase, (w.calls call).status = .running phase →
    ∃ endpoint bind, phase = .binding endpoint bind ∧ BindOk w bind
  idle : (∀ call, ¬w.Running call) → Quiet w ∨ ∃ server, Bound w server

/-- From then on. -/
structure Draining (w : World) (d : Drain) : Prop where
  closing : w.closing = true
  begun : ∃ call, w.closePromise = some call ∧ (w.calls call).status ≠ .waiting
  shut : Shut w d
  phase : ∀ call < w.lifecycleTail, ∀ phase, (w.calls call).status = .running phase →
    ∃ close, phase = .closing close ∧ (close = .unlinking → d.phase = .drained)

def Place (w : World) : Prop :=
  match w.drain with
  | none => Open w
  | some d => Draining w d

structure Rejection.Ok (r : Rejection) : Prop where
  nothing : r.bound = false → r.server = none ∧ r.boundEndpoint = none ∧ r.listening = false
  bound : r.bound = true → r.server.isSome = true ∧ r.boundEndpoint.isSome = true

/-- A call begins when those before it have settled. -/
def Queue (tail : Nat) (calls : Nat → Call) : Prop :=
  ∀ call < tail, (calls call).status ≠ .waiting →
    ∀ earlier < call, (calls earlier).status.settled = true

structure Lifecycle (w : World) : Prop where
  queue : Queue w.lifecycleTail w.calls
  promise : w.closing = w.closePromise.isSome
  promised : ∀ call, w.closePromise = some call → call < w.lifecycleTail
  close : ∀ call < w.lifecycleTail, (w.calls call).body = .close → w.closePromise = some call
  late : ∀ call < w.lifecycleTail, (w.calls call).late = true → (w.calls call).body ≠ .close →
    (w.calls call).status = .rejected
  after : ∀ closer, w.closePromise = some closer → ∀ call < w.lifecycleTail, closer < call →
    (w.calls call).status = .waiting ∨ (w.calls call).status = .rejected
  resolved : ∀ call < w.lifecycleTail, (w.calls call).body = .close →
    (w.calls call).status = .resolved → ∃ d, w.drain = some d ∧ d.phase = .drained
  place : Place w
  rejections : ∀ r ∈ w.rejections, r.Ok

structure SocketsOk (platform : Platform) (w : World) : Prop where
  tracked : ∀ socket < w.nextSocket, (w.sockets socket).closed = false →
    socket ∈ w.clientSockets ∨ socket ∈ w.serverSockets
  late : ∀ socket < w.nextSocket, (w.sockets socket).server = none →
    (w.sockets socket).late = true → Retried platform (w.sockets socket)
  drained : ∀ d, w.drain = some d → d.phase = .drained → ∀ socket < w.nextSocket,
    (w.sockets socket).closed = false → Retried platform (w.sockets socket)

structure RequestsOk (platform : Platform) (w : World) : Prop where
  again : ∀ request < w.nextRequest, ∀ socket, (w.requests request).phase = .closing socket ∨
    (w.requests request).phase = .waiting → platform = .win32
  late : ∀ request < w.nextRequest, (w.requests request).late = true →
    (w.requests request).phase = .ended ∧ (w.requests request).settled = true

structure Inv (platform : Platform) (w : World) : Prop where
  lifecycle : Lifecycle w
  sockets : SocketsOk platform w
  requests : RequestsOk platform w
  invoked : true ∉ w.invoked

theorem Lifecycle.alone (lifecycle : Lifecycle w) {i j : Nat} (first : w.Running i)
    (second : w.Running j) : i = j := by
  obtain ⟨known, phase, running⟩ := first
  obtain ⟨known', phase', running'⟩ := second
  rcases Nat.lt_trichotomy i j with before | same | after
  · have settled := lifecycle.queue j known' (by rw [running']; nofun) i before
    rw [running] at settled
    cases settled
  · exact same
  · have settled := lifecycle.queue i known (by rw [running]; nofun) j after
    rw [running'] at settled
    cases settled

theorem Held.single {server : Nat} (held : Held w server) {other : Nat}
    (listening : w.servers other = .listening) : other = server := by
  by_contra different
  have inactive := held.others other different
  rw [listening] at inactive
  cases inactive

theorem Lifecycle.single (lifecycle : Lifecycle w) {s t : Nat} (first : w.servers s = .listening)
    (second : w.servers t = .listening) : s = t := by
  have active {s : Nat} (listening : w.servers s = .listening) : (w.servers s).active = true := by
    rw [listening]
    rfl
  have place := lifecycle.place
  unfold Place at place
  cases drain : w.drain with
  | some d =>
    rw [drain] at place
    exact absurd first (place.shut.silent s)
  | none =>
    rw [drain] at place
    have absent {s : Nat} (quiet : Quiet w) (listening : w.servers s = .listening) : False := by
      have inactive := quiet.servers s
      rw [active listening] at inactive
      cases inactive
    by_cases running : ∃ call, w.Running call
    · obtain ⟨call, known, phase, running⟩ := running
      obtain ⟨endpoint, bind, rfl, ok⟩ := place.binding call known phase running
      cases bind with
      | listening server retried => exact (ok.single first).trans (ok.single second).symm
      | inspecting server => exact (ok.1.single first).trans (ok.1.single second).symm
      | discarding server next =>
        by_cases same : s = server
        · exact absurd (same ▸ first) ok.state
        · have inactive := ok.others s same
          rw [active first] at inactive
          cases inactive
      | recovering => exact (absent ok first).elim
    · rcases place.idle (by simpa using running) with quiet | ⟨server, bound⟩
      · exact (absent quiet first).elim
      · have only {s : Nat} (listening : w.servers s = .listening) : s = server := by
          by_contra different
          have inactive := bound.others s different
          rw [active listening] at inactive
          cases inactive
        exact (only first).trans (only second).symm

theorem inv_initial : Inv platform initial where
  lifecycle := {
    queue := nofun
    promise := rfl
    promised := nofun
    close := nofun
    late := nofun
    after := nofun
    resolved := nofun
    place := ⟨nofun, nofun, fun _ => .inl ⟨rfl, rfl, rfl, fun _ => rfl⟩⟩
    rejections := nofun }
  sockets := ⟨nofun, nofun, nofun⟩
  requests := ⟨nofun, nofun⟩
  invoked := nofun

end Invariant

section Calls

variable {call : Nat} {state : Call}

/-- The promise before has been resolved. -/
theorem Lifecycle.released (lifecycle : Lifecycle w) (known : call < w.lifecycleTail)
    (released : w.released call = true) :
    ∀ earlier < call, (w.calls earlier).status.settled = true := by
  cases call with
  | zero => nofun
  | succ before =>
    have settled : (w.calls before).status.settled = true := released
    have started : (w.calls before).status ≠ .waiting := by
      intro waiting
      rw [waiting] at settled
      cases settled
    intro earlier below
    rcases Nat.lt_succ_iff_lt_or_eq.mp below with below | rfl
    · exact lifecycle.queue before (Nat.lt_of_succ_lt known) started earlier below
    · exact settled

/-- Nothing else runs. -/
theorem Queue.others {tail : Nat} {calls : Nat → Call} (queue : Queue tail calls)
    (earlier : ∀ other < call, (calls other).status.settled = true)
    (unsettled : (calls call).status.settled = false) {other : Nat} (known : other < tail)
    (different : other ≠ call) (phase : Phase) : (calls other).status ≠ .running phase := by
  intro running
  rcases Nat.lt_or_gt_of_ne different with before | after
  · have settled := earlier other before
    rw [running] at settled
    cases settled
  · have settled := queue other known (by rw [running]; nofun) call after
    rw [unsettled] at settled
    cases settled

theorem Queue.update {tail : Nat} {calls : Nat → Call} (queue : Queue tail calls)
    (earlier : ∀ other < call, (calls other).status.settled = true)
    (unsettled : (calls call).status.settled = false) :
    Queue tail (Function.update calls call state) := by
  intro other known started first below
  by_cases same : first = call
  · subst same
    rw [Function.update_of_ne (Nat.ne_of_gt below)] at started
    have settled := queue other known started first below
    rw [unsettled] at settled
    cases settled
  · rw [Function.update_of_ne same]
    by_cases here : other = call
    · exact earlier first (here ▸ below)
    · rw [Function.update_of_ne here] at started
      exact queue other known started first below

/-- A call that has begun, or begins, goes on. -/
theorem Lifecycle.advance (lifecycle : Lifecycle w)
    (earlier : ∀ other < call, (w.calls other).status.settled = true)
    (unsettled : (w.calls call).status.settled = false)
    (body : state.body = (w.calls call).body) (late : state.late = true → state.status = .rejected)
    (bind : state.body ≠ .close)
    (after : ∀ closer, w.closePromise = some closer → closer < call → state.status = .rejected)
    (calls : w'.calls = Function.update w.calls call state)
    (tail : w'.lifecycleTail = w.lifecycleTail) (promise : w'.closePromise = w.closePromise)
    (closing : w'.closing = w.closing) (drain : w'.drain = w.drain) (place : Place w')
    (rejections : ∀ r ∈ w'.rejections, r.Ok) : Lifecycle w' where
  queue := by
    rw [calls, tail]
    exact lifecycle.queue.update earlier unsettled
  promise := by
    rw [closing, promise]
    exact lifecycle.promise
  promised := by
    rw [promise, tail]
    exact lifecycle.promised
  close other known closes := by
    rw [tail] at known
    rw [promise]
    apply lifecycle.close other known
    by_cases same : other = call
    · subst same
      rw [calls, Function.update_self, body] at closes
      exact closes
    · rwa [calls, Function.update_of_ne same] at closes
  late other known := by
    rw [tail] at known
    rw [calls]
    by_cases same : other = call
    · subst same
      rw [Function.update_self]
      exact fun late' _ => late late'
    · rw [Function.update_of_ne same]
      exact lifecycle.late other known
  after closer held other known later := by
    rw [promise] at held
    rw [tail] at known
    rw [calls]
    by_cases same : other = call
    · subst same
      rw [Function.update_self]
      exact .inr (after closer held later)
    · rw [Function.update_of_ne same]
      exact lifecycle.after closer held other known later
  resolved other known closes resolved := by
    rw [tail] at known
    rw [drain]
    by_cases same : other = call
    · subst same
      rw [calls, Function.update_self] at closes
      exact absurd closes bind
    · rw [calls, Function.update_of_ne same] at closes resolved
      exact lifecycle.resolved other known closes resolved
  place := place
  rejections := rejections

/-- The place of a `bind` that goes on or ends. -/
theorem Lifecycle.place_open (lifecycle : Lifecycle w) (undrained : w.drain = none)
    (earlier : ∀ other < call, (w.calls other).status.settled = true)
    (unsettled : (w.calls call).status.settled = false) (bind : state.body ≠ .close)
    (calls : w'.calls = Function.update w.calls call state)
    (tail : w'.lifecycleTail = w.lifecycleTail) (known : call < w.lifecycleTail)
    (drain : w'.drain = w.drain)
    (next : (∃ endpoint bind, state.status = .running (.binding endpoint bind) ∧ BindOk w' bind) ∨
      state.status.settled = true ∧ (Quiet w' ∨ ∃ server, Bound w' server)) : Place w' := by
  have place := lifecycle.place
  unfold Place at place ⊢
  rw [undrained] at place
  rw [drain, undrained]
  refine ⟨fun other known closes => ?_, fun other known phase running => ?_, fun none' => ?_⟩
  · rw [tail] at known
    by_cases same : other = call
    · subst same
      rw [calls, Function.update_self] at closes
      exact absurd closes bind
    · rw [calls, Function.update_of_ne same] at closes ⊢
      exact place.waits other known closes
  · rw [tail] at known
    by_cases same : other = call
    · subst same
      rw [calls, Function.update_self] at running
      rcases next with ⟨endpoint, bind, status, ok⟩ | ⟨settled, -⟩
      · rw [running] at status
        cases status
        exact ⟨endpoint, bind, rfl, ok⟩
      · rw [running] at settled
        cases settled
    · rw [calls, Function.update_of_ne same] at running
      exact absurd running (lifecycle.queue.others earlier unsettled known same phase)
  · rcases next with ⟨endpoint, bind, status, -⟩ | ⟨-, rest⟩
    · refine absurd ⟨tail ▸ known, .binding endpoint bind, ?_⟩ (none' call)
      rw [calls, Function.update_self]
      exact status
    · exact rest

/-- A `bind` that runs is before the body of `close`. -/
theorem Lifecycle.binding (lifecycle : Lifecycle w) {endpoint : JsString} {bind : BindPhase}
    (known : call < w.lifecycleTail)
    (running : (w.calls call).status = .running (.binding endpoint bind)) :
    w.drain = none ∧ (w.calls call).body ≠ .close ∧ (w.calls call).late = false ∧ BindOk w bind := by
  have place := lifecycle.place
  unfold Place at place
  cases drain : w.drain with
  | some d =>
    rw [drain] at place
    obtain ⟨_, same, -⟩ := place.phase call known _ running
    cases same
  | none =>
    rw [drain] at place
    obtain ⟨_, _, same, ok⟩ := place.binding call known _ running
    cases same
    have bind : (w.calls call).body ≠ .close := by
      intro closes
      rw [place.waits call known closes] at running
      cases running
    refine ⟨rfl, bind, ?_, ok⟩
    by_contra late
    rw [lifecycle.late call known (by simpa using late) bind] at running
    cases running

/-- A `bind` that runs goes on, or ends. -/
theorem Lifecycle.bindOn (lifecycle : Lifecycle w) {endpoint : JsString} {bind : BindPhase}
    (known : call < w.lifecycleTail)
    (running : (w.calls call).status = .running (.binding endpoint bind)) {status : Status}
    (calls : w'.calls = Function.update w.calls call { w.calls call with status })
    (tail : w'.lifecycleTail = w.lifecycleTail) (promise : w'.closePromise = w.closePromise)
    (closing : w'.closing = w.closing) (drain : w'.drain = w.drain)
    (next : (∃ endpoint bind, status = .running (.binding endpoint bind) ∧ BindOk w' bind) ∨
      status.settled = true ∧ (Quiet w' ∨ ∃ server, Bound w' server))
    (rejections : ∀ r ∈ w'.rejections, r.Ok) : Lifecycle w' := by
  obtain ⟨undrained, body, late, -⟩ := lifecycle.binding known running
  have earlier := lifecycle.queue call known (by rw [running]; nofun)
  have unsettled : (w.calls call).status.settled = false := by
    rw [running]
    rfl
  have place := @Lifecycle.place_open w w' call { w.calls call with status } lifecycle undrained
    earlier unsettled body calls tail known drain next
  refine @Lifecycle.advance w w' call { w.calls call with status } lifecycle earlier unsettled rfl
    (fun was => ?_) body (fun closer held later => ?_) calls tail promise closing drain place rejections
  · rw [late] at was
    cases was
  · have idle := lifecycle.after closer held call known later
    rw [running] at idle
    simp at idle

end Calls

section Bind

variable {call server : Nat} {endpoint : JsString}

theorem active_of_listening (listening : w.servers server = .listening) :
    (w.servers server).active = true := by
  rw [listening]
  rfl

theorem silent_of_inactive (inactive : ∀ server, (w.servers server).active = false) (server : Nat) :
    w.servers server ≠ .listening := by
  intro listening
  have active := active_of_listening listening
  rw [inactive server] at active
  cases active

theorem listens_false (silent : ∀ server, w.servers server ≠ .listening) : w.listens = false := by
  unfold World.listens
  rw [List.any_eq_false]
  intro server _
  simpa using silent server

theorem Held.createServer (quiet : Quiet w) (retried : Bool) :
    Held (w.createServer call endpoint retried) w.nextServer where
  current := rfl
  known := Nat.lt_succ_self _
  boundEndpoint := quiet.boundEndpoint
  ownedEndpoint := quiet.ownedEndpoint
  state := .inl (Function.update_self ..)
  others other different := by
    show (Function.update w.servers w.nextServer .idle other).active = false
    rw [Function.update_of_ne different]
    exact quiet.servers other

theorem discard_eq (current : w.server = some server) (next : AfterDiscard) :
    w.discard call endpoint server next = { w with
      server := none
      boundEndpoint := none
      ownedEndpoint := none
      handler := w.handler && next == .recover
      servers := (w.closeServer server).servers
      calls := Function.update w.calls call
        { w.calls call with status := .running (.binding endpoint (.discarding server next)) } } := by
  rw [World.discard, if_pos current]
  rfl

/-- `server.close` of the one server that may listen. -/
theorem closeServer_silent (others : ∀ other, other ≠ server → (w.servers other).active = false) :
    (∀ other, (w.closeServer server).servers other ≠ .listening) ∧
      ∀ other, other ≠ server → ((w.closeServer server).servers other).active = false := by
  unfold World.closeServer
  dsimp only
  split
  next listening =>
    constructor
    · intro other
      by_cases same : other = server
      · rw [same, Function.update_self]
        nofun
      · rw [Function.update_of_ne same]
        intro listens
        have inactive := others other same
        rw [listens] at inactive
        cases inactive
    · intro other different
      rw [Function.update_of_ne different]
      exact others other different
  next silent =>
    refine ⟨fun other listens => ?_, others⟩
    by_cases same : other = server
    · exact silent (same ▸ listens)
    · have inactive := others other same
      rw [listens] at inactive
      cases inactive

theorem Lifecycle.discard {bind : BindPhase} (lifecycle : Lifecycle w)
    (known : call < w.lifecycleTail)
    (running : (w.calls call).status = .running (.binding endpoint bind)) (held : Held w server)
    (next : AfterDiscard) : Lifecycle (w.discard call endpoint server next) := by
  rw [discard_eq held.current]
  obtain ⟨silent, others⟩ := closeServer_silent held.others
  refine lifecycle.bindOn known running rfl rfl rfl rfl rfl
    (.inl ⟨endpoint, .discarding server next, rfl, ?_⟩) lifecycle.rejections
  exact ⟨rfl, rfl, rfl, silent server, others⟩

theorem Lifecycle.bound {bind : BindPhase} (lifecycle : Lifecycle w) (known : call < w.lifecycleTail)
    (running : (w.calls call).status = .running (.binding endpoint bind)) (held : Held w server)
    (listening : w.servers server = .listening) (identity : Option EndpointCleanup.PosixSocketIdentity) :
    Lifecycle (w.bound call endpoint identity) := by
  refine lifecycle.bindOn known running rfl rfl rfl rfl rfl (.inr ⟨rfl, .inr ⟨server, ?_⟩⟩)
    lifecycle.rejections
  exact ⟨held.current, held.known, listening, rfl, held.others⟩

/-- A `bind` rejects that has left nothing. -/
theorem Lifecycle.rejectBind {bind : BindPhase} (lifecycle : Lifecycle w)
    (known : call < w.lifecycleTail)
    (running : (w.calls call).status = .running (.binding endpoint bind)) (quiet : Quiet w) :
    Lifecycle (w.rejectBind call false) := by
  refine lifecycle.bindOn known running rfl rfl rfl rfl rfl (.inr ⟨rfl, .inl ?_⟩) fun r member => ?_
  · exact ⟨quiet.server, quiet.boundEndpoint, quiet.ownedEndpoint, quiet.servers⟩
  · rcases List.mem_append.mp member with before | new
    · exact lifecycle.rejections r before
    · rw [List.mem_singleton.mp new]
      exact ⟨fun _ => ⟨quiet.server, quiet.boundEndpoint,
        listens_false (silent_of_inactive quiet.servers)⟩, nofun⟩

theorem Discarded.quiet (discarded : Discarded w server)
    (inactive : (w.servers server).active = false) : Quiet w where
  server := discarded.current
  boundEndpoint := discarded.boundEndpoint
  ownedEndpoint := discarded.ownedEndpoint
  servers other := by
    by_cases same : other = server
    · rw [same]
      exact inactive
    · exact discarded.others other same

/-- What a `bind` has waited for comes. -/
theorem Lifecycle.bindStep {bind : BindPhase} {event : CallEvent} (lifecycle : Lifecycle w)
    (known : call < w.lifecycleTail)
    (running : (w.calls call).status = .running (.binding endpoint bind))
    (taken : bindStep platform w call endpoint bind event = some w') : Lifecycle w' := by
  obtain ⟨-, -, -, ok⟩ := lifecycle.binding known running
  unfold TransportLifecycle.bindStep at taken
  split at taken
  next server retried =>
    have held : Held w server := ok
    split at taken
    next idle =>
      cases taken
      have same : { w.calls call with
          status := .running (.binding endpoint (.listening server retried)) } = w.calls call := by
        rw [← running]
      refine @Lifecycle.bindOn w _ call lifecycle _ _ known running
        (.running (.binding endpoint (.listening server retried))) ?_ rfl rfl rfl rfl
        (.inl ⟨endpoint, .listening server retried, rfl, ?_⟩) lifecycle.rejections
      · rw [same, Function.update_eq_self]
        rfl
      · refine ⟨held.current, held.known, held.boundEndpoint, held.ownedEndpoint,
          .inr (Function.update_self ..), fun other different => ?_⟩
        show (Function.update w.servers server .listening other).active = false
        rw [Function.update_of_ne different]
        exact held.others other different
    next => cases taken
  next server retried =>
    have held : Held w server := ok
    split at taken
    next listening =>
      cases taken
      unfold World.publish
      split
      next => exact lifecycle.discard known running held .reject
      next =>
        split
        next =>
          refine lifecycle.bindOn known running rfl rfl rfl rfl rfl
            (.inl ⟨endpoint, .inspecting server, rfl, ?_, listening⟩) lifecycle.rejections
          exact { held with }
        next => exact lifecycle.bound known running held listening none
    next => cases taken
  next server retried inUse =>
    have held : Held w server := ok
    cases taken
    unfold World.attemptFails
    split
    next => exact lifecycle.discard known running held .recover
    next => exact lifecycle.discard known running held .reject
  next server inspection =>
    obtain ⟨held, listening⟩ : Held w server ∧ w.servers server = .listening := ok
    split at taken
    next identity =>
      cases taken
      exact lifecycle.bound known running held listening (some identity)
    next =>
      cases taken
      exact lifecycle.discard known running held .reject
    next =>
      cases taken
      exact lifecycle.discard known running held .reject
  next server next failed =>
    have discarded : Discarded w server := ok
    split at taken
    next => cases taken
    next inactive =>
      have quiet := discarded.quiet (by simpa using inactive)
      split at taken
      next =>
        cases taken
        refine lifecycle.bindOn known running rfl rfl rfl rfl rfl
          (.inl ⟨endpoint, .recovering, rfl, ?_⟩) lifecycle.rejections
        exact { quiet with }
      next =>
        cases taken
        exact lifecycle.rejectBind known running quiet
  next removed =>
    have quiet : Quiet w := ok
    cases taken
    split
    next =>
      exact lifecycle.bindOn known running rfl rfl rfl rfl rfl
        (.inl ⟨endpoint, .listening w.nextServer true, rfl, Held.createServer quiet true⟩)
        lifecycle.rejections
    next => exact lifecycle.rejectBind known running quiet
  next => cases taken

end Bind

section Frame

theorem BindOk.congr {bind : BindPhase} (ok : BindOk w bind) (server : w'.server = w.server)
    (boundEndpoint : w'.boundEndpoint = w.boundEndpoint)
    (ownedEndpoint : w'.ownedEndpoint = w.ownedEndpoint) (nextServer : w'.nextServer = w.nextServer)
    (servers : w'.servers = w.servers) : BindOk w' bind := by
  have held {server' : Nat} (held : Held w server') : Held w' server' := by
    refine ⟨server.trans held.current, ?_, boundEndpoint.trans held.boundEndpoint,
      ownedEndpoint.trans held.ownedEndpoint, ?_, ?_⟩
    · rw [nextServer]
      exact held.known
    · rw [servers]
      exact held.state
    · rw [servers]
      exact held.others
  cases bind with
  | listening server' retried => exact held ok
  | inspecting server' =>
    have ok : Held w server' ∧ w.servers server' = .listening := ok
    refine ⟨held ok.1, ?_⟩
    rw [servers]
    exact ok.2
  | discarding server' next =>
    have ok : Discarded w server' := ok
    refine ⟨server.trans ok.current, boundEndpoint.trans ok.boundEndpoint,
      ownedEndpoint.trans ok.ownedEndpoint, ?_, ?_⟩
    · rw [servers]
      exact ok.state
    · rw [servers]
      exact ok.others
  | recovering =>
    have ok : Quiet w := ok
    refine ⟨server.trans ok.server, boundEndpoint.trans ok.boundEndpoint,
      ownedEndpoint.trans ok.ownedEndpoint, ?_⟩
    rw [servers]
    exact ok.servers

/-- The lifecycle calls do not depend on sockets and requests. -/
theorem Lifecycle.frame {sockets : Nat → Socket} {nextSocket nextRequest : Nat}
    {clientSockets serverSockets : List Nat} {requests : Nat → Request} {invoked : List Bool}
    (lifecycle : Lifecycle w) :
    Lifecycle { w with
      sockets, nextSocket, clientSockets, serverSockets, nextRequest, requests, invoked } := by
  refine { lifecycle with place := ?_ }
  have place := lifecycle.place
  unfold Place at *
  cases drain : w.drain with
  | none =>
    rw [drain] at place
    refine ⟨place.waits, fun call known phase running => ?_, fun alone => ?_⟩
    · obtain ⟨endpoint, bind, same, ok⟩ := place.binding call known phase running
      exact ⟨endpoint, bind, same, ok.congr rfl rfl rfl rfl rfl⟩
    · rcases place.idle alone with quiet | ⟨server, bound⟩
      · exact .inl { quiet with }
      · exact .inr ⟨server, { bound with }⟩
  | some d =>
    rw [drain] at place
    exact { place with shut := { place.shut with } }

end Frame

section Queueing

/-- A call joins the queue. -/
theorem Lifecycle.enqueue {body : Body} {closing : Bool} {closePromise : Option Nat}
    (lifecycle : Lifecycle w) (promise : closing = closePromise.isSome)
    (kept : w.drain.isSome = true → closing = true ∧ closePromise = w.closePromise)
    (promised : ∀ call, closePromise = some call → call ≤ w.lifecycleTail)
    (closes : ∀ call < w.lifecycleTail, (w.calls call).body = .close → closePromise = some call)
    (after : ∀ closer, closePromise = some closer → ∀ call < w.lifecycleTail, closer < call →
      (w.calls call).status = .waiting ∨ (w.calls call).status = .rejected)
    (new : body = .close → closePromise = some w.lifecycleTail) :
    Lifecycle ({ w with closing, closePromise }.enqueueLifecycle body) := by
  have before {call : Nat} (known : call < w.lifecycleTail) :
      Function.update w.calls w.lifecycleTail ⟨body, .waiting, false⟩ call = w.calls call :=
    Function.update_of_ne (Nat.ne_of_lt known) ..
  have cases' {P : Nat → Prop} (earlier : ∀ call < w.lifecycleTail, P call)
      (last : P w.lifecycleTail) : ∀ call < w.lifecycleTail + 1, P call := by
    intro call known
    rcases Nat.lt_succ_iff_lt_or_eq.mp known with known | rfl
    · exact earlier call known
    · exact last
  unfold World.enqueueLifecycle
  refine ⟨?_, promise, fun call same => Nat.lt_succ_of_le (promised call same), ?_, ?_, fun closer held => ?_,
    ?_, ?_, lifecycle.rejections⟩
  · refine cases' (fun call known started earlier below => ?_) fun started => ?_
    · dsimp only at started ⊢
      rw [before known] at started
      rw [before (Nat.lt_trans below known)]
      exact lifecycle.queue call known started earlier below
    · dsimp only at started
      rw [Function.update_self] at started
      exact absurd rfl started
  · refine cases' (fun call known same => ?_) fun same => ?_
    · dsimp only at same
      rw [before known] at same
      exact closes call known same
    · dsimp only at same
      rw [Function.update_self] at same
      exact new same
  · refine cases' (fun call known => ?_) fun late => ?_
    · dsimp only
      rw [before known]
      exact lifecycle.late call known
    · dsimp only at late
      rw [Function.update_self] at late
      cases late
  · refine cases' (fun call known later => ?_) fun _ => ?_
    · dsimp only
      rw [before known]
      exact after closer held call known later
    · dsimp only
      rw [Function.update_self]
      exact .inl rfl
  · refine cases' (fun call known => ?_) fun _ resolved => ?_
    · dsimp only
      rw [before known]
      exact lifecycle.resolved call known
    · dsimp only at resolved
      rw [Function.update_self] at resolved
      cases resolved
  · have place := lifecycle.place
    unfold Place at *
    dsimp only
    cases drain : w.drain with
    | none =>
      rw [drain] at place
      refine ⟨?_, ?_, fun alone => ?_⟩
      · refine cases' (fun call known => ?_) fun _ => ?_
        · dsimp only
          rw [before known]
          exact place.waits call known
        · dsimp only
          rw [Function.update_self]
      · refine cases' (fun call known phase running => ?_) fun phase running => ?_
        · dsimp only at running
          rw [before known] at running
          obtain ⟨endpoint, bind, same, ok⟩ := place.binding call known phase running
          exact ⟨endpoint, bind, same, ok.congr rfl rfl rfl rfl rfl⟩
        · dsimp only at running
          rw [Function.update_self] at running
          cases running
      · have free : ∀ call, ¬w.Running call := by
          rintro call ⟨known, phase, running⟩
          refine alone call ⟨Nat.lt_succ_of_lt known, phase, ?_⟩
          dsimp only
          rw [before known]
          exact running
        rcases place.idle free with quiet | ⟨server, bound⟩
        · exact .inl { quiet with }
        · exact .inr ⟨server, { bound with }⟩
    | some d =>
      rw [drain] at place
      obtain ⟨closing', same⟩ := kept (by rw [drain]; rfl)
      refine ⟨closing', ?_, { place.shut with }, ?_⟩
      · obtain ⟨call, held, begun⟩ := place.begun
        refine ⟨call, same.trans held, ?_⟩
        dsimp only
        rw [before (lifecycle.promised call held)]
        exact begun
      · refine cases' (fun call known phase running => ?_) fun phase running => ?_
        · dsimp only at running
          rw [before known] at running
          exact place.phase call known phase running
        · dsimp only at running
          rw [Function.update_self] at running
          cases running

theorem Lifecycle.bind (lifecycle : Lifecycle w) (endpoint : JsString) (accepted : Bool) :
    Lifecycle (w.enqueueLifecycle (.bind endpoint accepted)) := by
  have closing (drains : w.drain.isSome = true) : w.closing = true := by
    obtain ⟨d, drain⟩ := Option.isSome_iff_exists.mp drains
    have place := lifecycle.place
    unfold Place at place
    rw [drain] at place
    exact place.closing
  exact lifecycle.enqueue lifecycle.promise (fun drains => ⟨closing drains, rfl⟩)
    (fun call same => Nat.le_of_lt (lifecycle.promised call same)) lifecycle.close lifecycle.after nofun

theorem Lifecycle.closeCalled (lifecycle : Lifecycle w) : Lifecycle w.close := by
  unfold World.close
  cases promise : w.closePromise with
  | some call => exact lifecycle
  | none =>
    refine lifecycle.enqueue rfl (fun drains => ?_) ?_ (fun call known closes => ?_) ?_ fun _ => rfl
    · obtain ⟨d, drain⟩ := Option.isSome_iff_exists.mp drains
      have place := lifecycle.place
      unfold Place at place
      rw [drain] at place
      obtain ⟨call, held, -⟩ := place.begun
      rw [promise] at held
      cases held
    · rintro _ ⟨⟩
      exact Nat.le_refl _
    · have held := lifecycle.close call known closes
      rw [promise] at held
      cases held
    · rintro _ ⟨⟩ call known later
      exact absurd later (Nat.lt_asymm known)

end Queueing

section Start

variable {call : Nat}

/-- Before the body of `close` the transport is bound or not, while no body runs. -/
theorem Lifecycle.free (lifecycle : Lifecycle w) (undrained : w.drain = none)
    (earlier : ∀ other < call, (w.calls other).status.settled = true)
    (waiting : (w.calls call).status = .waiting) : Quiet w ∨ ∃ server, Bound w server := by
  have place := lifecycle.place
  unfold Place at place
  rw [undrained] at place
  apply place.idle
  rintro other ⟨known, phase, running⟩
  have unsettled : (w.calls call).status.settled = false := by
    rw [waiting]
    rfl
  by_cases same : other = call
  · rw [same, waiting] at running
    cases running
  · exact lifecycle.queue.others earlier unsettled known same phase running

theorem Lifecycle.draining {d : Drain} (lifecycle : Lifecycle w) (drain : w.drain = some d) :
    Draining w d := by
  have place := lifecycle.place
  unfold Place at place
  rw [drain] at place
  exact place

/-- `close` has taken nothing before it is called. -/
theorem Lifecycle.undrained (lifecycle : Lifecycle w) (early : w.closing = false) : w.drain = none := by
  cases drain : w.drain with
  | none => rfl
  | some d =>
    have closing := (lifecycle.draining drain).closing
    rw [early] at closing
    cases closing

/-- What a `bind` finds when its body begins. -/
theorem Lifecycle.found (lifecycle : Lifecycle w)
    (earlier : ∀ other < call, (w.calls other).status.settled = true)
    (waiting : (w.calls call).status = .waiting) :
    Rejection.Ok ⟨w.server.isSome || w.boundEndpoint.isSome, w.server, w.boundEndpoint, w.listens⟩ := by
  cases drain : w.drain with
  | some d =>
    have shut := (lifecycle.draining drain).shut
    refine ⟨fun _ => ⟨shut.server, shut.boundEndpoint, listens_false shut.silent⟩, fun bound => ?_⟩
    simp [shut.server, shut.boundEndpoint] at bound
  | none =>
    rcases lifecycle.free drain earlier waiting with quiet | ⟨server, bound⟩
    · refine ⟨fun _ => ⟨quiet.server, quiet.boundEndpoint,
        listens_false (silent_of_inactive quiet.servers)⟩, fun bound => ?_⟩
      simp [quiet.server, quiet.boundEndpoint] at bound
    · refine ⟨fun unbound => ?_, fun _ => ⟨?_, bound.boundEndpoint⟩⟩
      · simp [bound.current] at unbound
      · show w.server.isSome = true
        rw [bound.current]
        rfl

theorem placed_open (undrained : w.drain = none) (before : Open w) : Place w := by
  unfold Place
  rw [undrained]
  exact before

theorem placed_draining {d : Drain} (drain : w.drain = some d) (draining : Draining w d) : Place w := by
  unfold Place
  rw [drain]
  exact draining

/-- A call goes on, or ends, while `close` drains. -/
theorem Draining.advance {d : Drain} {state : Call} (draining : Draining w d)
    (tail : w'.lifecycleTail = w.lifecycleTail)
    (calls : w'.calls = Function.update w.calls call state) (closing : w'.closing = w.closing)
    (promise : w'.closePromise = w.closePromise) (started : state.status ≠ .waiting)
    (shut : Shut w' d)
    (phase : ∀ phase, state.status = .running phase →
      ∃ close, phase = .closing close ∧ (close = .unlinking → d.phase = .drained)) :
    Draining w' d where
  closing := closing.trans draining.closing
  begun := by
    obtain ⟨closer, held, begun⟩ := draining.begun
    refine ⟨closer, promise.trans held, ?_⟩
    rw [calls]
    by_cases same : closer = call
    · rw [same, Function.update_self]
      exact started
    · rw [Function.update_of_ne same]
      exact begun
  shut := shut
  phase other known running' running := by
    rw [tail] at known
    rw [calls] at running
    by_cases same : other = call
    · rw [same, Function.update_self] at running
      exact phase running' running
    · rw [Function.update_of_ne same] at running
      exact draining.phase other known running' running

theorem start_refused {endpoint : JsString} {accepted : Bool}
    (body : (w.calls call).body = .bind endpoint accepted)
    (refused : (w.closing || !accepted || w.server.isSome || w.boundEndpoint.isSome) = true) :
    w.start call = { w with
      calls := Function.update w.calls call ⟨.bind endpoint accepted, .rejected, w.closing⟩
      rejections := w.rejections ++
        [⟨w.server.isSome || w.boundEndpoint.isSome, w.server, w.boundEndpoint, w.listens⟩] } := by
  simp only [World.start, body, World.startBind, refused, if_true, World.rejectBind, World.setStatus,
    Function.update_idem, Function.update_self]
  rfl

theorem start_bind {endpoint : JsString} {accepted : Bool}
    (body : (w.calls call).body = .bind endpoint accepted)
    (allowed : (w.closing || !accepted || w.server.isSome || w.boundEndpoint.isSome) = false) :
    w.start call = { w with
      calls := Function.update w.calls call
        ⟨.bind endpoint accepted, .running (.binding endpoint (.listening w.nextServer false)), w.closing⟩
      handler := true
      server := some w.nextServer
      nextServer := w.nextServer + 1
      servers := Function.update w.servers w.nextServer .idle } := by
  simp only [World.start, body, World.startBind, allowed, World.createServer, World.setBind,
    World.setStatus, Function.update_idem, Function.update_self]
  rfl

theorem Lifecycle.startBind {endpoint : JsString} {accepted : Bool} (lifecycle : Lifecycle w)
    (known : call < w.lifecycleTail) (waiting : (w.calls call).status = .waiting)
    (released : w.released call = true) (body : (w.calls call).body = .bind endpoint accepted) :
    Lifecycle (w.start call) := by
  have earlier := lifecycle.released known released
  have unsettled : (w.calls call).status.settled = false := by
    rw [waiting]
    rfl
  cases refused : w.closing || !accepted || w.server.isSome || w.boundEndpoint.isSome with
  | true =>
    rw [start_refused body refused]
    refine @Lifecycle.advance w _ call ⟨.bind endpoint accepted, .rejected, w.closing⟩ lifecycle earlier
      unsettled body.symm (fun _ => rfl) nofun (fun _ _ _ => rfl) rfl rfl rfl rfl rfl ?_ fun r member => ?_
    · cases drain : w.drain with
      | none =>
        refine @Lifecycle.place_open w _ call ⟨.bind endpoint accepted, .rejected, w.closing⟩ lifecycle
          drain earlier unsettled nofun rfl rfl known drain.symm (.inr ⟨rfl, ?_⟩)
        rcases lifecycle.free drain earlier waiting with quiet | ⟨server, bound⟩
        · exact .inl { quiet with }
        · exact .inr ⟨server, { bound with }⟩
      | some d =>
        have draining := lifecycle.draining drain
        exact @placed_draining _ d rfl (draining.advance rfl rfl rfl rfl nofun
          { draining.shut with } nofun)
    · rcases List.mem_append.mp member with before | new
      · exact lifecycle.rejections r before
      · rw [List.mem_singleton.mp new]
        exact lifecycle.found earlier waiting
  | false =>
    rw [start_bind body refused]
    simp only [Bool.or_eq_false_iff] at refused
    obtain ⟨⟨⟨early, -⟩, unbound⟩, -⟩ := refused
    have undrained := lifecycle.undrained early
    have quiet : Quiet w := by
      rcases lifecycle.free undrained earlier waiting with quiet | ⟨server, bound⟩
      · exact quiet
      · rw [bound.current] at unbound
        cases unbound
    refine @Lifecycle.advance w _ call
      ⟨.bind endpoint accepted, .running (.binding endpoint (.listening w.nextServer false)), w.closing⟩
      lifecycle earlier unsettled body.symm (fun late => ?_) nofun (fun closer held => ?_) rfl rfl rfl rfl
      rfl ?_ lifecycle.rejections
    · dsimp only at late
      rw [early] at late
      cases late
    · rw [lifecycle.promise, held] at early
      cases early
    · refine @Lifecycle.place_open w _ call
        ⟨.bind endpoint accepted, .running (.binding endpoint (.listening w.nextServer false)), w.closing⟩
        lifecycle undrained earlier unsettled nofun rfl rfl known rfl
        (.inl ⟨endpoint, .listening w.nextServer false, rfl, ?_⟩)
      have held := @Held.createServer w call endpoint quiet false
      exact ⟨rfl, held.known, quiet.boundEndpoint, quiet.ownedEndpoint, held.state, held.others⟩

/-- What `closeInternal` takes. -/
def taken (w : World) (phase : DrainPhase) : Drain where
  server := w.server
  ownedEndpoint := w.ownedEndpoint
  serverClosed := w.server.isNone
  serverCloseError := false
  phase := phase

theorem start_close (body : (w.calls call).body = .close) :
    w.start call = { w with
      calls := Function.update w.calls call ⟨.close, .running (.closing (.shuttingDown false)), w.closing⟩
      server := none
      boundEndpoint := none
      ownedEndpoint := none
      handler := false
      servers :=
        match w.server with
        | none => w.servers
        | some server => (w.closeServer server).servers
      sockets := w.destroySockets.sockets
      drain := some (taken w
        (if w.clientSockets = [] ∧ w.serverSockets = [] ∧ w.server.isNone = true then .confirming
        else .looping)) } := by
  simp only [World.start, body, World.startClose, taken]
  cases current : w.server with
  | none =>
    simp only [World.drainRound, World.destroySockets, World.setStatus, Function.update_idem,
      Function.update_self]
  | some server =>
    simp only [World.drainRound, World.destroySockets, World.setStatus, World.closeServer,
      Function.update_idem, Function.update_self]

theorem Lifecycle.startClose (lifecycle : Lifecycle w) (known : call < w.lifecycleTail)
    (waiting : (w.calls call).status = .waiting) (released : w.released call = true)
    (body : (w.calls call).body = .close) : Lifecycle (w.start call) := by
  have earlier := lifecycle.released known released
  have unsettled : (w.calls call).status.settled = false := by
    rw [waiting]
    rfl
  have promise := lifecycle.close call known body
  have undrained : w.drain = none := by
    cases drain : w.drain with
    | none => rfl
    | some d =>
      obtain ⟨closer, held, begun⟩ := (lifecycle.draining drain).begun
      rw [promise] at held
      obtain rfl := Option.some.inj held
      exact absurd waiting begun
  rw [start_close body]
  refine ⟨lifecycle.queue.update earlier unsettled, lifecycle.promise, lifecycle.promised, ?_, ?_, ?_, ?_,
    placed_draining rfl ⟨?_, ⟨call, promise, ?_⟩, ?_, ?_⟩, lifecycle.rejections⟩
  · intro other known closes
    by_cases same : other = call
    · exact same ▸ promise
    · dsimp only at closes
      rw [Function.update_of_ne same] at closes
      exact lifecycle.close other known closes
  · intro other known
    dsimp only
    by_cases same : other = call
    · rw [same, Function.update_self]
      exact fun _ bind => absurd rfl bind
    · rw [Function.update_of_ne same]
      exact lifecycle.late other known
  · intro closer held other known later
    dsimp only at held ⊢
    by_cases same : other = call
    · rw [promise] at held
      obtain rfl := Option.some.inj held
      exact absurd later (same ▸ Nat.lt_irrefl _)
    · rw [Function.update_of_ne same]
      exact lifecycle.after closer held other known later
  · intro other known closes resolved
    dsimp only at closes resolved
    by_cases same : other = call
    · rw [same, Function.update_self] at resolved
      cases resolved
    · rw [Function.update_of_ne same] at closes resolved
      obtain ⟨d, drain, -⟩ := lifecycle.resolved other known closes resolved
      rw [undrained] at drain
      cases drain
  · show w.closing = true
    rw [lifecycle.promise, promise]
    rfl
  · dsimp only
    rw [Function.update_self]
    nofun
  · have confirmed {phase : DrainPhase} (same : phase =
        if w.clientSockets = [] ∧ w.serverSockets = [] ∧ w.server.isNone = true then .confirming
        else .looping) (past : phase ≠ .looping) : w.server.isNone = true := by
      subst same
      split at past
      next empty => exact empty.2.2
      next => exact absurd rfl past
    rcases lifecycle.free undrained earlier waiting with quiet | ⟨server, bound⟩
    · simp only [quiet.server]
      have silent := silent_of_inactive quiet.servers
      refine ⟨rfl, rfl, rfl, silent, fun server active => ?_, fun _ => quiet.servers, fun _ => ?_⟩
      · rw [quiet.servers server] at active
        cases active
      · simp [taken, quiet.server]
    · simp only [bound.current]
      obtain ⟨silent, others⟩ := closeServer_silent bound.others
      refine ⟨rfl, rfl, rfl, silent, fun other active => ?_, fun gone => ?_, fun past => ?_⟩
      · by_contra different
        have inactive := others other fun same => different (by simp [taken, bound.current, same])
        rw [inactive] at active
        cases active
      · simp [taken, bound.current] at gone
      · have none' := confirmed (by simp [taken, bound.current]) past
        rw [bound.current] at none'
        cases none'
  · intro other known phase running
    dsimp only at known running
    by_cases same : other = call
    · rw [same, Function.update_self] at running
      cases running
      exact ⟨.shuttingDown false, rfl, nofun⟩
    · rw [Function.update_of_ne same] at running
      exact absurd running (lifecycle.queue.others earlier unsettled known same phase)

end Start

section Close

variable {call : Nat} {d : Drain}

/-- `close` goes on, or ends. -/
theorem Lifecycle.closeOn (lifecycle : Lifecycle w) {close : ClosePhase}
    (known : call < w.lifecycleTail) (running : (w.calls call).status = .running (.closing close))
    (drain : w.drain = some d) (status : Status) (started : status ≠ .waiting)
    (drained : status = .resolved ∨ status = .running (.closing .unlinking) → d.phase = .drained)
    (closing : ∀ phase, status = .running phase → ∃ close, phase = .closing close) :
    Lifecycle (w.setStatus call status) := by
  have earlier := lifecycle.queue call known (by rw [running]; nofun)
  have unsettled : (w.calls call).status.settled = false := by
    rw [running]
    rfl
  have draining := lifecycle.draining drain
  refine ⟨lifecycle.queue.update earlier unsettled, lifecycle.promise, lifecycle.promised, ?_, ?_, ?_, ?_,
    @placed_draining _ d drain (draining.advance rfl rfl rfl rfl started { draining.shut with }
      fun phase goesOn => ?_), lifecycle.rejections⟩
  · intro other known closes
    apply lifecycle.close other known
    by_cases same : other = call
    · rw [same] at closes ⊢
      simpa [World.setStatus] using closes
    · simpa [World.setStatus, Function.update_of_ne same] using closes
  · intro other known
    by_cases same : other = call
    · rw [same]
      intro late bind
      simp only [World.setStatus, Function.update_self] at late bind
      rw [lifecycle.late call (same ▸ known) late bind] at running
      cases running
    · simpa [World.setStatus, Function.update_of_ne same] using lifecycle.late other known
  · intro closer held other known' later
    by_cases same : other = call
    · have idle := lifecycle.after closer held call known (same ▸ later)
      rw [running] at idle
      simp at idle
    · simpa [World.setStatus, Function.update_of_ne same] using
        lifecycle.after closer held other known' later
  · intro other known closes resolved
    by_cases same : other = call
    · rw [same] at resolved
      exact ⟨d, drain, drained (.inl (by simpa [World.setStatus] using resolved))⟩
    · simp only [World.setStatus, Function.update_of_ne same] at closes resolved
      exact lifecycle.resolved other known closes resolved
  · obtain ⟨close, rfl⟩ := closing phase goesOn
    refine ⟨close, rfl, ?_⟩
    rintro rfl
    exact drained (.inr goesOn)

theorem Lifecycle.drains (lifecycle : Lifecycle w) {close : ClosePhase}
    (known : call < w.lifecycleTail) (running : (w.calls call).status = .running (.closing close)) :
    ∃ d, w.drain = some d ∧ (close = .unlinking → d.phase = .drained) := by
  have place := lifecycle.place
  unfold Place at place
  cases drain : w.drain with
  | none =>
    rw [drain] at place
    obtain ⟨_, _, same, -⟩ := place.binding call known _ running
    cases same
  | some d =>
    rw [drain] at place
    obtain ⟨_, same, drained⟩ := place.phase call known _ running
    cases same
    exact ⟨d, rfl, drained⟩

theorem Lifecycle.closeStep {close : ClosePhase} {event : CallEvent} (lifecycle : Lifecycle w)
    (known : call < w.lifecycleTail) (running : (w.calls call).status = .running (.closing close))
    (taken : closeStep platform w call close event = some w') : Lifecycle w' := by
  obtain ⟨d, drain, unlinking⟩ := lifecycle.drains known running
  unfold TransportLifecycle.closeStep at taken
  split at taken
  next forced =>
    rw [drain] at taken
    dsimp only at taken
    split at taken
    next confirmed =>
      cases taken
      unfold World.confirm
      split
      next => exact lifecycle.closeOn known running drain .rejected nofun (by simp) nofun
      next =>
        split
        next =>
          refine lifecycle.closeOn known running drain _ nofun (fun _ => confirmed.1) ?_
          rintro _ ⟨⟩
          exact ⟨_, rfl⟩
        next =>
          exact lifecycle.closeOn known running drain .resolved nofun (fun _ => confirmed.1) nofun
    next => cases taken
  next forced =>
    cases taken
    unfold World.shutdownExpires
    have destroyed : Lifecycle w.destroySockets := lifecycle.frame
    cases forced with
    | true => exact destroyed.closeOn known running drain .rejected nofun (by simp) nofun
    | false =>
      refine destroyed.closeOn known running drain _ nofun (by simp) ?_
      rintro _ ⟨⟩
      exact ⟨_, rfl⟩
  next failed =>
    cases taken
    have drained := unlinking rfl
    cases failed with
    | true => exact lifecycle.closeOn known running drain .rejected nofun (by simp) nofun
    | false => exact lifecycle.closeOn known running drain .resolved nofun (fun _ => drained) nofun
  next => cases taken

/-- `drainResources` or `serverCloseCompletion` goes on. -/
theorem Lifecycle.setDrain {d' : Drain} (lifecycle : Lifecycle w) (drain : w.drain = some d)
    (server : d'.server = d.server) (kept : d.phase = .drained → d'.phase = .drained)
    (gone : d'.serverClosed = true → ∀ server, (w.servers server).active = false)
    (confirmed : d'.phase ≠ .looping → d'.serverClosed = true) :
    Lifecycle { w with drain := some d' } := by
  have draining := lifecycle.draining drain
  have shut := draining.shut
  refine { lifecycle with
    resolved := fun call known closes resolved => ?_
    place := placed_draining rfl ⟨draining.closing, draining.begun, ?_, fun call known phase running => ?_⟩ }
  · obtain ⟨found, same, drained⟩ := lifecycle.resolved call known closes resolved
    rw [drain] at same
    cases same
    exact ⟨d', rfl, kept drained⟩
  · refine ⟨shut.server, shut.boundEndpoint, shut.ownedEndpoint, shut.silent, fun other active => ?_,
      gone, confirmed⟩
    rw [server]
    exact shut.taken other active
  · obtain ⟨close, same, drained⟩ := draining.phase call known phase running
    exact ⟨close, same, fun unlinking => kept (drained unlinking)⟩

theorem Lifecycle.drainRound (lifecycle : Lifecycle w) (drain : w.drain = some d)
    (open' : d.phase ≠ .drained) : Lifecycle (w.drainRound d) := by
  have shut := (lifecycle.draining drain).shut
  unfold World.drainRound
  have destroyed : Lifecycle w.destroySockets := lifecycle.frame
  refine destroyed.setDrain drain rfl (fun drained => absurd drained open') shut.gone fun past => ?_
  dsimp only at past ⊢
  split at past
  next empty => exact empty.2.2
  next => exact absurd rfl past

theorem Lifecycle.drainOn (lifecycle : Lifecycle w) (drain : w.drain = some d) :
    Lifecycle (w.drainOn d) := by
  have shut := (lifecycle.draining drain).shut
  unfold World.drainOn
  split
  next looping => exact lifecycle.drainRound drain (by rw [looping]; nofun)
  next confirming =>
    split
    next =>
      exact lifecycle.setDrain drain rfl (fun _ => rfl) shut.gone
        fun _ => shut.confirmed (by rw [confirming]; nofun)
    next => exact lifecycle.drainRound drain (by rw [confirming]; nofun)
  next => exact lifecycle

theorem Lifecycle.serverClosed {failed : Bool} (lifecycle : Lifecycle w) (drain : w.drain = some d)
    (inactive : (d.server.any fun server => (w.servers server).active) = false) :
    Lifecycle { w with drain := some { d with serverClosed := true, serverCloseError := failed } } := by
  have shut := (lifecycle.draining drain).shut
  refine lifecycle.setDrain drain rfl id (fun _ server => ?_) fun _ => rfl
  by_contra active
  have active : (w.servers server).active = true := by simpa using active
  rw [shut.taken server active, Option.any_some, active] at inactive
  cases inactive

end Close

section Servers

theorem setServer_self (server : Nat) (state : ServerState) :
    (w.setServer server state).servers server = state := Function.update_self ..

theorem setServer_of_ne {s server : Nat} (different : s ≠ server) (state : ServerState) :
    (w.setServer server state).servers s = w.servers s := Function.update_of_ne different ..

/-- The callback of `server.close`. -/
theorem Lifecycle.serverCloses {server : Nat} (lifecycle : Lifecycle w)
    (closing : w.servers server = .closing) : Lifecycle (w.setServer server .closed) := by
  have other {s : Nat} (kept : w.servers s ≠ .closing) :
      (w.setServer server .closed).servers s = w.servers s := by
    apply setServer_of_ne
    rintro rfl
    exact kept closing
  have fewer {s : Nat} (active : ((w.setServer server .closed).servers s).active = true) :
      (w.servers s).active = true := by
    by_cases same : s = server
    · rw [same, closing]
      rfl
    · rwa [setServer_of_ne same] at active
  have inactive {s : Nat} (before : (w.servers s).active = false) :
      ((w.setServer server .closed).servers s).active = false := by
    by_contra active
    rw [fewer (by simpa using active)] at before
    cases before
  have listening {s : Nat} (before : w.servers s = .listening) :
      (w.setServer server .closed).servers s = .listening :=
    (other (by rw [before]; nofun)).trans before
  have silent {s : Nat} (before : w.servers s ≠ .listening) :
      (w.setServer server .closed).servers s ≠ .listening := by
    by_cases same : s = server
    · rw [same, setServer_self]
      nofun
    · rw [setServer_of_ne same]
      exact before
  have held {s : Nat} (held : Held w s) : Held (w.setServer server .closed) s := by
    refine ⟨held.current, held.known, held.boundEndpoint, held.ownedEndpoint, ?_,
      fun t different => inactive (held.others t different)⟩
    rcases held.state with idle | listens
    · exact .inl ((other (by rw [idle]; nofun)).trans idle)
    · exact .inr (listening listens)
  have quiet (quiet : Quiet w) : Quiet (w.setServer server .closed) :=
    ⟨quiet.server, quiet.boundEndpoint, quiet.ownedEndpoint, fun s => inactive (quiet.servers s)⟩
  refine { lifecycle with place := ?_ }
  have place := lifecycle.place
  cases drain : w.drain with
  | none =>
    rw [Place, drain] at place
    refine placed_open drain ⟨place.waits, fun call known phase running => ?_, fun alone => ?_⟩
    · obtain ⟨endpoint, bind, same, ok⟩ := place.binding call known phase running
      refine ⟨endpoint, bind, same, ?_⟩
      cases bind with
      | listening s retried => exact held ok
      | inspecting s =>
        obtain ⟨ok, listens⟩ : Held w s ∧ w.servers s = .listening := ok
        exact ⟨held ok, listening listens⟩
      | discarding s next =>
        have ok : Discarded w s := ok
        exact ⟨ok.current, ok.boundEndpoint, ok.ownedEndpoint, silent ok.state,
          fun t different => inactive (ok.others t different)⟩
      | recovering => exact quiet ok
    · rcases place.idle alone with free | ⟨s, bound⟩
      · exact .inl (quiet free)
      · exact .inr ⟨s, bound.current, bound.known, listening bound.listening, bound.boundEndpoint,
          fun t different => inactive (bound.others t different)⟩
  | some d =>
    have draining := lifecycle.draining drain
    have shut := draining.shut
    exact placed_draining drain { draining with
      shut := ⟨shut.server, shut.boundEndpoint, shut.ownedEndpoint, fun s => silent (shut.silent s),
        fun s active => shut.taken s (fewer active), fun gone s => inactive (shut.gone gone s),
        shut.confirmed⟩ }

theorem Lifecycle.callStep {call : Nat} {event : CallEvent} (lifecycle : Lifecycle w)
    (known : call < w.lifecycleTail) (taken : callStep platform w call event = some w') :
    Lifecycle w' := by
  unfold TransportLifecycle.callStep at taken
  split at taken
  next waiting =>
    split at taken
    next begins =>
      cases taken
      cases body : (w.calls call).body with
      | bind endpoint accepted => exact lifecycle.startBind known waiting begins.2 body
      | close => exact lifecycle.startClose known waiting begins.2 body
    next => cases taken
  next endpoint phase running => exact lifecycle.bindStep known running taken
  next phase running => exact lifecycle.closeStep known running taken
  next => cases taken
  next => cases taken

end Servers

section Sockets

/-- Nothing happens to the sockets but that some are destroyed, and nothing to the requests. -/
structure Untouched (w w' : World) : Prop where
  nextSocket : w'.nextSocket = w.nextSocket
  clientSockets : w'.clientSockets = w.clientSockets
  serverSockets : w'.serverSockets = w.serverSockets
  sockets : ∀ socket, w'.sockets socket = w.sockets socket ∨
    w'.sockets socket = { w.sockets socket with destroyed := true }
  nextRequest : w'.nextRequest = w.nextRequest
  requests : w'.requests = w.requests
  invoked : w'.invoked = w.invoked
  drained : ∀ d', w'.drain = some d' → d'.phase = .drained → ∃ d, w.drain = some d ∧ d.phase = .drained

/-- What neither `bind` nor `close` changes but for the sockets that it destroys. -/
def World.wires (w : World) :=
  (w.nextSocket, w.clientSockets, w.serverSockets, w.sockets, w.nextRequest, w.requests, w.invoked,
    w.drain)

theorem untouched_of_same (same : w'.wires = w.wires) : Untouched w w' := by
  simp only [World.wires, Prod.mk.injEq] at same
  obtain ⟨nextSocket, clientSockets, serverSockets, sockets, nextRequest, requests, invoked, drain⟩ := same
  refine ⟨nextSocket, clientSockets, serverSockets, fun socket => .inl ?_, nextRequest, requests, invoked,
    fun d held past => ⟨d, ?_, past⟩⟩
  · rw [sockets]
  · rw [← drain]
    exact held

theorem SocketsOk.untouched (ok : SocketsOk platform w) (untouched : Untouched w w') :
    SocketsOk platform w' := by
  have closed {socket : Nat} (alive : (w'.sockets socket).closed = false) :
      (w.sockets socket).closed = false := by
    rcases untouched.sockets socket with same | same
    · rwa [same] at alive
    · rwa [same] at alive
  have retried {socket : Nat} (retried : Retried platform (w.sockets socket)) :
      Retried platform (w'.sockets socket) := by
    rcases untouched.sockets socket with same | same
    · rwa [same]
    · rwa [same]
  refine ⟨fun socket known alive => ?_, fun socket known client late => ?_,
    fun d drain drained socket known alive => ?_⟩
  · rw [untouched.nextSocket] at known
    rw [untouched.clientSockets, untouched.serverSockets]
    exact ok.tracked socket known (closed alive)
  · rw [untouched.nextSocket] at known
    apply retried
    rcases untouched.sockets socket with same | same
    · rw [same] at client late
      exact ok.late socket known client late
    · rw [same] at client late
      exact ok.late socket known client late
  · rw [untouched.nextSocket] at known
    obtain ⟨d', drain', drained'⟩ := untouched.drained d drain drained
    exact retried (ok.drained d' drain' drained' socket known (closed alive))

theorem RequestsOk.untouched (ok : RequestsOk platform w) (untouched : Untouched w w') :
    RequestsOk platform w' := by
  refine ⟨?_, ?_⟩
  · rw [untouched.nextRequest, untouched.requests]
    exact ok.again
  · rw [untouched.nextRequest, untouched.requests]
    exact ok.late

theorem Inv.untouched (inv : Inv platform w) (lifecycle : Lifecycle w') (untouched : Untouched w w') :
    Inv platform w' where
  lifecycle := lifecycle
  sockets := inv.sockets.untouched untouched
  requests := inv.requests.untouched untouched
  invoked := by
    rw [untouched.invoked]
    exact inv.invoked

theorem destroySockets_sockets (w : World) (socket : Nat) :
    w.destroySockets.sockets socket = w.sockets socket ∨
      w.destroySockets.sockets socket = { w.sockets socket with destroyed := true } := by
  unfold World.destroySockets
  dsimp only
  split
  next => exact .inr rfl
  next => exact .inl rfl

theorem discard_untouched (w : World) (call : Nat) (endpoint : JsString) (server : Nat)
    (next : AfterDiscard) : Untouched w (w.discard call endpoint server next) := by
  unfold World.discard
  split
  next => exact untouched_of_same rfl
  next => exact untouched_of_same rfl

theorem bindStep_untouched {call : Nat} {endpoint : JsString} {phase : BindPhase} {event : CallEvent}
    (taken : bindStep platform w call endpoint phase event = some w') : Untouched w w' := by
  unfold bindStep at taken
  split at taken
  next =>
    split at taken
    next =>
      cases taken
      exact untouched_of_same rfl
    next => cases taken
  next =>
    split at taken
    next =>
      cases taken
      unfold World.publish
      split
      next => exact discard_untouched ..
      next =>
        split
        next => exact untouched_of_same rfl
        next => exact untouched_of_same rfl
    next => cases taken
  next =>
    cases taken
    unfold World.attemptFails
    split
    next => exact discard_untouched ..
    next => exact discard_untouched ..
  next =>
    split at taken
    next =>
      cases taken
      exact untouched_of_same rfl
    next =>
      cases taken
      exact discard_untouched ..
    next =>
      cases taken
      exact discard_untouched ..
  next =>
    split at taken
    next => cases taken
    next =>
      split at taken
      next =>
        cases taken
        exact untouched_of_same rfl
      next =>
        cases taken
        exact untouched_of_same rfl
  next =>
    cases taken
    split
    next => exact untouched_of_same rfl
    next => exact untouched_of_same rfl
  next => cases taken

theorem setStatus_untouched (w : World) (call : Nat) (status : Status) :
    Untouched w (w.setStatus call status) :=
  untouched_of_same rfl

theorem closeStep_untouched {call : Nat} {phase : ClosePhase} {event : CallEvent}
    (taken : closeStep platform w call phase event = some w') : Untouched w w' := by
  unfold closeStep at taken
  split at taken
  next =>
    split at taken
    next =>
      split at taken
      next =>
        cases taken
        unfold World.confirm
        split
        next => exact setStatus_untouched ..
        next =>
          split
          next => exact setStatus_untouched ..
          next => exact setStatus_untouched ..
      next => cases taken
    next => cases taken
  next =>
    cases taken
    exact ⟨rfl, rfl, rfl, destroySockets_sockets w, rfl, rfl, rfl,
      fun d drain past => ⟨d, drain, past⟩⟩
  next =>
    cases taken
    exact setStatus_untouched ..
  next => cases taken

theorem start_untouched (w : World) (call : Nat) : Untouched w (w.start call) := by
  cases body : (w.calls call).body with
  | bind endpoint accepted =>
    cases refused : w.closing || !accepted || w.server.isSome || w.boundEndpoint.isSome with
    | true =>
      rw [start_refused body refused]
      exact untouched_of_same rfl
    | false =>
      rw [start_bind body refused]
      exact untouched_of_same rfl
  | close =>
    rw [start_close body]
    refine ⟨rfl, rfl, rfl, destroySockets_sockets w, rfl, rfl, rfl, fun d drain past => ?_⟩
    cases drain
    dsimp only [taken] at past
    split at past
    next => cases past
    next => cases past

theorem Inv.callStep {call : Nat} {event : CallEvent} (inv : Inv platform w)
    (known : call < w.lifecycleTail) (taken : callStep platform w call event = some w') :
    Inv platform w' := by
  refine inv.untouched (inv.lifecycle.callStep known taken) ?_
  unfold TransportLifecycle.callStep at taken
  split at taken
  next =>
    split at taken
    next =>
      cases taken
      exact start_untouched w call
    next => cases taken
  next => exact bindStep_untouched taken
  next => exact closeStep_untouched taken
  next => cases taken
  next => cases taken

theorem Inv.drainOn {d : Drain} (inv : Inv platform w) (drain : w.drain = some d) :
    Inv platform (w.drainOn d) := by
  have lifecycle := inv.lifecycle.drainOn drain
  have round : (w.drainOn d) = w.drainRound d → Inv platform (w.drainOn d) := by
    intro same
    refine inv.untouched lifecycle ?_
    rw [same]
    refine ⟨rfl, rfl, rfl, destroySockets_sockets w, rfl, rfl, rfl, fun d' held past => ?_⟩
    cases held
    dsimp only at past
    split at past
    next => cases past
    next => cases past
  cases phase : d.phase with
  | looping => exact round (by rw [World.drainOn, phase])
  | confirming =>
    by_cases empty : w.clientSockets = [] ∧ w.serverSockets = []
    · have confirmed : w.drainOn d = { w with drain := some { d with phase := .drained } } := by
        rw [World.drainOn, phase]
        exact if_pos empty
      rw [confirmed] at lifecycle ⊢
      refine ⟨lifecycle, ⟨inv.sockets.tracked, inv.sockets.late, fun _ _ _ socket known alive => ?_⟩,
        { inv.requests with }, inv.invoked⟩
      -- Both sets are empty, so that every socket has closed.
      have member := inv.sockets.tracked socket known alive
      rw [empty.1, empty.2] at member
      simp at member
    · refine round ?_
      rw [World.drainOn, phase]
      exact if_neg empty
  | drained =>
    have same : w.drainOn d = w := by rw [World.drainOn, phase]
    rw [same]
    exact inv

/-- What is asked about a socket does not change. -/
theorem SocketsOk.setSocket {k : Nat} {state : Socket} (ok : SocketsOk platform w)
    (server : state.server = (w.sockets k).server) (closed : state.closed = (w.sockets k).closed)
    (late : state.late = (w.sockets k).late) (retry : state.retry = (w.sockets k).retry) :
    SocketsOk platform (w.setSocket k state) := by
  have same (socket : Nat) : ((w.setSocket k state).sockets socket).server = (w.sockets socket).server ∧
      ((w.setSocket k state).sockets socket).closed = (w.sockets socket).closed ∧
      ((w.setSocket k state).sockets socket).late = (w.sockets socket).late ∧
      ((w.setSocket k state).sockets socket).retry = (w.sockets socket).retry := by
    show (Function.update w.sockets k state socket).server = _ ∧
      (Function.update w.sockets k state socket).closed = _ ∧
      (Function.update w.sockets k state socket).late = _ ∧
      (Function.update w.sockets k state socket).retry = _
    by_cases here : socket = k
    · subst here
      rw [Function.update_self]
      exact ⟨server, closed, late, retry⟩
    · rw [Function.update_of_ne here]
      exact ⟨rfl, rfl, rfl, rfl⟩
  refine ⟨fun socket known alive => ?_, fun socket known client late => ?_,
    fun d drain drained socket known alive => ?_⟩
  · rw [(same socket).2.1] at alive
    exact ok.tracked socket known alive
  · rw [(same socket).1] at client
    rw [(same socket).2.2.1] at late
    rw [Retried, (same socket).1, (same socket).2.2.1, (same socket).2.2.2]
    exact ok.late socket known client late
  · rw [(same socket).2.1] at alive
    rw [Retried, (same socket).1, (same socket).2.2.1, (same socket).2.2.2]
    exact ok.drained d drain drained socket known alive

theorem Inv.destroySocket (inv : Inv platform w) (socket : Nat) :
    Inv platform (w.destroySocket socket) :=
  ⟨inv.lifecycle.frame, inv.sockets.setSocket rfl rfl rfl rfl, { inv.requests with }, inv.invoked⟩

theorem Inv.requestRead (inv : Inv platform w) (socket : Nat) :
    Inv platform (w.requestRead socket) := by
  have read (destroyed : Bool) : Inv platform
      (w.setSocket socket { w.sockets socket with reading := false, destroyed }) :=
    ⟨inv.lifecycle.frame, inv.sockets.setSocket rfl rfl rfl rfl, { inv.requests with }, inv.invoked⟩
  unfold World.requestRead
  split
  next => exact read true
  next open' =>
    simp only [Bool.or_eq_true, not_or, Bool.not_eq_true] at open'
    refine ⟨(read (w.sockets socket).destroyed).lifecycle.frame,
      { (read (w.sockets socket).destroyed).sockets with }, { inv.requests with }, ?_⟩
    intro member
    rcases List.mem_append.mp member with before | new
    · exact inv.invoked before
    · rw [open'.1] at new
      simp at new

theorem Inv.socketCloses (inv : Inv platform w) (socket : Nat) :
    Inv platform (w.socketCloses socket) := by
  have alive {k : Nat} (open' : ((w.socketCloses socket).sockets k).closed = false) :
      k ≠ socket ∧ (w.socketCloses socket).sockets k = w.sockets k := by
    have state : (w.socketCloses socket).sockets k = Function.update w.sockets socket
      { w.sockets socket with destroyed := true, closed := true } k := rfl
    by_cases same : k = socket
    · rw [state, same, Function.update_self] at open'
      cases open'
    · rw [state, Function.update_of_ne same]
      exact ⟨same, rfl⟩
  refine ⟨inv.lifecycle.frame, ⟨fun k known open' => ?_, fun k known client late => ?_,
    fun d drain drained k known open' => ?_⟩, { inv.requests with }, inv.invoked⟩
  · obtain ⟨different, same⟩ := alive open'
    rw [same] at open'
    refine (inv.sockets.tracked k known open').imp (fun member => ?_) fun member => ?_
    · exact List.mem_filter.mpr ⟨member, by simpa using different⟩
    · exact List.mem_filter.mpr ⟨member, by simpa using different⟩
  · have state : (w.socketCloses socket).sockets k = Function.update w.sockets socket
      { w.sockets socket with destroyed := true, closed := true } k := rfl
    by_cases same : k = socket
    · subst same
      rw [state, Function.update_self] at client late ⊢
      exact inv.sockets.late k known client late
    · rw [state, Function.update_of_ne same] at client late ⊢
      exact inv.sockets.late k known client late
  · obtain ⟨different, same⟩ := alive open'
    rw [same] at open' ⊢
    exact inv.sockets.drained d drain drained k known open'

/-- A socket is opened. -/
theorem SocketsOk.open {state : Socket} {clientSockets serverSockets : List Nat}
    (ok : SocketsOk platform w)
    (clients : ∀ socket ∈ w.clientSockets, socket ∈ clientSockets)
    (servers : ∀ socket ∈ w.serverSockets, socket ∈ serverSockets)
    (tracked : w.nextSocket ∈ clientSockets ∨ w.nextSocket ∈ serverSockets)
    (late : state.server = none → state.late = true → Retried platform state)
    (drained : ∀ d, w.drain = some d → d.phase = .drained → Retried platform state) :
    SocketsOk platform { w with
      sockets := Function.update w.sockets w.nextSocket state
      nextSocket := w.nextSocket + 1
      clientSockets, serverSockets } := by
  have before {socket : Nat} (known : socket < w.nextSocket) :
      Function.update w.sockets w.nextSocket state socket = w.sockets socket :=
    Function.update_of_ne (Nat.ne_of_lt known) ..
  refine ⟨fun socket known alive => ?_, fun socket known client => ?_,
    fun d drain past socket known alive => ?_⟩
  · rcases Nat.lt_succ_iff_lt_or_eq.mp known with known | rfl
    · dsimp only at alive
      rw [before known] at alive
      exact (ok.tracked socket known alive).imp (clients socket) (servers socket)
    · exact tracked
  · dsimp only at client ⊢
    rcases Nat.lt_succ_iff_lt_or_eq.mp known with known | rfl
    · rw [before known] at client ⊢
      exact ok.late socket known client
    · rw [Function.update_self] at client ⊢
      exact late client
  · dsimp only at alive ⊢
    rcases Nat.lt_succ_iff_lt_or_eq.mp known with known | rfl
    · rw [before known] at alive ⊢
      exact ok.drained d drain past socket known alive
    · rw [Function.update_self]
      exact drained d drain past

/-- Once the sets have been seen empty no server takes connections. -/
theorem Inv.handleConnection {server : Nat} (inv : Inv platform w)
    (active : (w.servers server).active = true) : Inv platform (w.handleConnection server) := by
  refine ⟨inv.lifecycle.frame, inv.sockets.open (fun _ member => member)
    (fun socket member => List.mem_append_left _ member)
    (.inr (List.mem_append_right _ (List.mem_singleton_self _))) nofun fun d drain past => ?_,
    { inv.requests with }, inv.invoked⟩
  have shut := (inv.lifecycle.draining drain).shut
  have inactive := shut.gone (shut.confirmed (by rw [past]; nofun)) server
  rw [active] at inactive
  cases inactive

/-- What is known of a request. -/
structure Request.Ok (platform : Platform) (state : Request) : Prop where
  again : ∀ socket, state.phase = .closing socket ∨ state.phase = .waiting → platform = .win32
  late : state.late = true → state.phase = .ended ∧ state.settled = true

theorem RequestsOk.get {request : Nat} (ok : RequestsOk platform w) (known : request < w.nextRequest) :
    (w.requests request).Ok platform :=
  ⟨ok.again request known, ok.late request known⟩

theorem requestsOk_update {request nextRequest : Nat} {state : Request} (ok : RequestsOk platform w)
    (same : w'.nextRequest = nextRequest)
    (known : ∀ other < nextRequest, other = request ∨ other < w.nextRequest)
    (requests : w'.requests = Function.update w.requests request state) (next : state.Ok platform) :
    RequestsOk platform w' := by
  have each : ∀ other < w'.nextRequest, (w'.requests other).Ok platform := by
    intro other below
    rw [requests]
    by_cases here : other = request
    · rw [here, Function.update_self]
      exact next
    · rw [Function.update_of_ne here]
      exact ok.get ((known other (same ▸ below)).resolve_left here)
  exact ⟨fun other below => (each other below).again, fun other below => (each other below).late⟩

theorem Inv.setRequest {request : Nat} {state : Request} (inv : Inv platform w)
    (next : state.Ok platform) : Inv platform (w.setRequest request state) :=
  ⟨inv.lifecycle.frame, { inv.sockets with },
    requestsOk_update inv.requests rfl (fun _ known => .inr known) rfl next, inv.invoked⟩

/-- A request opens a socket, which once `close` has been called only one does that tries again. -/
theorem Inv.openSocket {request : Nat} {state : Request} {retry : Bool} (inv : Inv platform w)
    (allowed : w.closing = true → retry = true ∧ platform = .win32) (fresh : state.late = false) :
    Inv platform (w.openSocket request state retry) := by
  have retried (closing : w.closing = true) :
      Retried platform ⟨none, false, false, false, retry, w.closing⟩ :=
    ⟨rfl, closing, allowed closing⟩
  refine ⟨inv.lifecycle.frame, ?_, requestsOk_update inv.requests rfl (fun _ known => .inr known) rfl
    ⟨fun _ => ?_, fun late => ?_⟩, inv.invoked⟩
  · exact { inv.sockets.open (fun socket member => List.mem_append_left _ member)
      (fun _ member => member) (.inl (List.mem_append_right _ (List.mem_singleton_self _)))
      (fun _ late => retried late)
      fun d drain _ => retried (inv.lifecycle.draining drain).closing with }
  · rintro (again | again)
    · cases again
    · cases again
  · dsimp only at late
    rw [fresh] at late
    cases late

theorem Inv.endRequest {request : Nat} {state : Request} {phase : RequestPhase} (inv : Inv platform w)
    (ok : state.Ok platform) (ends : phase = .ended ∨ phase = state.phase) :
    Inv platform (w.endRequest request state phase) := by
  have next : Request.Ok platform { state with phase, settled := true } := by
    rcases ends with rfl | rfl
    · exact ⟨by simp, fun _ => ⟨rfl, rfl⟩⟩
    · exact ⟨ok.again, fun late => ⟨(ok.late late).1, rfl⟩⟩
  unfold World.endRequest
  split
  next => exact (inv.destroySocket _).setRequest next
  next => exact (inv.destroySocket _).setRequest next
  next => exact inv.setRequest next
  next => exact inv.setRequest next

theorem Inv.request (inv : Inv platform w) (accepted : Bool) : Inv platform (w.request accepted) := by
  have counted : Inv platform { w.setRequest w.nextRequest ⟨.ended, false, false, true, w.closing⟩ with
      nextRequest := w.nextRequest + 1 } := by
    refine ⟨inv.lifecycle.frame, { inv.sockets with }, requestsOk_update inv.requests rfl
      (fun other known => ?_) rfl ⟨by simp, fun _ => ⟨rfl, rfl⟩⟩, inv.invoked⟩
    exact (Nat.lt_succ_iff_lt_or_eq.mp known).symm
  unfold World.request
  dsimp only
  split
  next => exact counted
  next open' =>
    simp only [Bool.or_eq_true, not_or, Bool.not_eq_true] at open'
    have early : w.closing ≠ true := by
      rw [open'.1]
      nofun
    have opened := @Inv.openSocket platform _ w.nextRequest
      ⟨.ended, false, false, false, w.closing⟩ false counted (fun closing => absurd closing early) open'.1
    simpa [World.openSocket, World.setRequest, World.setSocket, Function.update_idem] using opened

theorem Inv.requestStep {request : Nat} {event : RequestEvent} (inv : Inv platform w)
    (known : request < w.nextRequest)
    (taken : requestStep platform w request (w.requests request) event = some w') :
    Inv platform w' := by
  have ok := inv.requests.get known
  unfold TransportLifecycle.requestStep at taken
  split at taken
  next =>
    split at taken
    next =>
      cases taken
      exact inv.endRequest ok (.inl rfl)
    next => cases taken
  next =>
    split at taken
    next socket attempting =>
      split at taken
      next windows =>
        cases taken
        unfold World.transientError
        split
        next => exact inv.endRequest ok (.inl rfl)
        next =>
          refine (inv.destroySocket socket).setRequest ⟨fun _ _ => windows, fun late => ?_⟩
          rw [(ok.late late).1] at attempting
          cases attempting
      next => cases taken
    next => cases taken
  next =>
    split at taken
    next socket closing =>
      split at taken
      next =>
        cases taken
        refine inv.setRequest ⟨fun _ _ => ok.again socket (.inl closing), fun late => ?_⟩
        rw [(ok.late late).1] at closing
        cases closing
      next => cases taken
    next => cases taken
  next accepted =>
    split at taken
    next waiting =>
      cases taken
      unfold World.retryRequest
      split
      next => exact inv.endRequest ok (.inl rfl)
      next =>
        refine inv.openSocket (fun _ => ⟨rfl, ok.again 0 (.inr waiting)⟩) ?_
        by_contra late
        rw [(ok.late (by simpa using late)).1] at waiting
        cases waiting
    next => cases taken
  next =>
    cases taken
    exact inv.setRequest ⟨ok.again, ok.late⟩
  next =>
    cases taken
    exact inv.setRequest ⟨ok.again, ok.late⟩
  next =>
    split at taken
    next =>
      cases taken
      exact inv.endRequest ok (.inr rfl)
    next => cases taken

end Sockets

/-- One step. -/
theorem Inv.step {event : Event} (inv : Inv platform w) (taken : step platform w event = some w') :
    Inv platform w' := by
  have kept (lifecycle : Lifecycle w') (untouched : Untouched w w') : Inv platform w' :=
    inv.untouched lifecycle untouched
  cases event with
  | bind endpoint accepted =>
    cases taken
    exact kept (inv.lifecycle.bind endpoint accepted) (untouched_of_same rfl)
  | close =>
    cases taken
    refine kept inv.lifecycle.closeCalled ?_
    unfold World.close
    split
    next => exact untouched_of_same rfl
    next => exact untouched_of_same rfl
  | request accepted =>
    cases taken
    exact inv.request accepted
  | call call event =>
    simp only [TransportLifecycle.step] at taken
    split at taken
    next known => exact inv.callStep known taken
    next => cases taken
  | attempt request event =>
    simp only [TransportLifecycle.step] at taken
    split at taken
    next known => exact inv.requestStep known taken
    next => cases taken
  | serverCloses server =>
    simp only [TransportLifecycle.step] at taken
    split at taken
    next closing =>
      cases taken
      exact kept (inv.lifecycle.serverCloses closing) (untouched_of_same rfl)
    next => cases taken
  | serverClosed failed =>
    simp only [TransportLifecycle.step] at taken
    split at taken
    next d drain =>
      split at taken
      next => cases taken
      next inactive =>
        cases taken
        simp only [Bool.or_eq_true, not_or, Bool.not_eq_true] at inactive
        refine kept (inv.lifecycle.serverClosed drain inactive.2)
          ⟨rfl, rfl, rfl, fun _ => .inl rfl, rfl, rfl, rfl, fun d' held past => ?_⟩
        cases held
        exact ⟨d, drain, past⟩
    next => cases taken
  | drain =>
    simp only [TransportLifecycle.step] at taken
    obtain ⟨d, drain, rfl⟩ := Option.map_eq_some_iff.mp taken
    exact inv.drainOn drain
  | connection server =>
    simp only [TransportLifecycle.step] at taken
    split at taken
    next active =>
      cases taken
      exact inv.handleConnection active
    next => cases taken
  | requestRead socket =>
    simp only [TransportLifecycle.step] at taken
    split at taken
    next =>
      cases taken
      exact inv.requestRead socket
    next => cases taken
  | destroy socket =>
    simp only [TransportLifecycle.step] at taken
    split at taken
    next =>
      cases taken
      exact inv.destroySocket socket
    next => cases taken
  | socketCloses socket =>
    simp only [TransportLifecycle.step] at taken
    split at taken
    next =>
      cases taken
      exact inv.socketCloses socket
    next => cases taken

section Main

variable {call server : Nat} {endpoint : JsString} {x : World}

/-- Nothing is bound where no body runs and no endpoint is recorded. -/
theorem Lifecycle.unbound (lifecycle : Lifecycle w) (early : w.closing = false)
    (unrecorded : w.boundEndpoint = none) (idle : ∀ call, ¬w.Running call) : Quiet w := by
  have place := lifecycle.place
  unfold Place at place
  rw [lifecycle.undrained early] at place
  rcases place.idle idle with quiet | ⟨held, bound⟩
  · exact quiet
  · have recorded := bound.boundEndpoint
    rw [unrecorded] at recorded
    cases recorded

/-- A body begins by nothing but its turn. -/
theorem started_of_step (taken : step platform w (.call call .start) = some w') : w.start call = w' := by
  simp only [step, callStep] at taken
  split at taken
  next known =>
    split at taken
    next => simpa using (Option.ite_none_right_eq_some.mp taken).2
    next => simp [bindStep] at taken
    next => simp [closeStep] at taken
    next => cases taken
    next => cases taken
  next => cases taken

theorem Inv.orderly (inv : Inv platform w) : Orderly platform w where
  alone _ _ first second := inv.lifecycle.alone first second
  single _ _ first second := inv.lifecycle.single first second
  rejected r member := (inv.lifecycle.rejections r member).nothing
  bound r member := (inv.lifecycle.rejections r member).bound
  keeps call endpoint accepted w' body bound taken := by
    have refused : (w.closing || !accepted || w.server.isSome || w.boundEndpoint.isSome) = true := by
      rw [Bool.or_assoc, bound, Bool.or_true]
    have started := started_of_step taken
    rw [start_refused body refused] at started
    subst started
    exact ⟨by simp, rfl, rfl, rfl, rfl, rfl⟩
  lateBind := inv.lifecycle.late
  after := inv.lifecycle.after
  lateRequest := inv.requests.late
  lateSocket := inv.sockets.late
  invoked := inv.invoked
  closed call known body resolved := by
    obtain ⟨d, drain, drained⟩ := inv.lifecycle.resolved call known body resolved
    have place := inv.lifecycle.place
    unfold Place at place
    rw [drain] at place
    have closed := place.shut.confirmed (by rw [drained]; nofun)
    exact ⟨place.shut.server, place.shut.boundEndpoint, place.shut.gone closed,
      inv.sockets.drained d drain drained⟩

section Turns

/-- The turn of one call: the others are as they were, and the transport is left open and unbound. -/
structure Turn (call : Nat) (w w' : World) : Prop where
  early : w'.closing = false
  unrecorded : w'.boundEndpoint = none
  tail : w'.lifecycleTail = w.lifecycleTail
  others : ∀ other, other ≠ call → w'.calls other = w.calls other

theorem Turn.trans (first : Turn call w x) (second : Turn call x w') : Turn call w w' where
  early := second.early
  unrecorded := second.unrecorded
  tail := second.tail.trans first.tail
  others other different := (second.others other different).trans (first.others other different)

/-- A turn of the call that comes to the status. -/
def Comes (platform : Platform) (call : Nat) (w : World) (status : Status → Prop) : Prop :=
  ∃ w', ((transportSystem platform).startingAt w).Reachable w' ∧ Inv platform w' ∧ Turn call w w' ∧
    status (w'.calls call).status

variable {status : Status → Prop}

/-- A step of a turn, and the rest of it. -/
theorem Comes.step {event : Event} (inv : Inv platform w) (taken : step platform w event = some x)
    (turn : Turn call w x) (rest : Inv platform x → Comes platform call x status) :
    Comes platform call w status := by
  obtain ⟨w', reached, inv', more, ends⟩ := rest (inv.step taken)
  have first : ((transportSystem platform).startingAt w).Reachable x := System.Reachable.step (.init rfl) taken
  obtain ⟨history, run⟩ := reached
  exact ⟨w', first.continue run, inv', turn.trans more, ends⟩

theorem Comes.now (inv : Inv platform w) (early : w.closing = false) (unrecorded : w.boundEndpoint = none)
    (ends : status (w.calls call).status) : Comes platform call w status :=
  ⟨w, .init rfl, inv, ⟨early, unrecorded, rfl, fun _ _ => rfl⟩, ends⟩

theorem step_bind {bind : BindPhase} {event : CallEvent} (known : call < w.lifecycleTail)
    (running : (w.calls call).status = .running (.binding endpoint bind)) :
    step platform w (.call call event) = bindStep platform w call endpoint bind event := by
  simp only [step, known, if_true, callStep, running]

/-- A `bind` rejects with nothing bound. -/
theorem comes_rejectBind {event : Event} (inv : Inv platform w) (early : w.closing = false)
    (unrecorded : w.boundEndpoint = none)
    (taken : step platform w event = some (w.rejectBind call false)) : Comes platform call w (· = .rejected) := by
  refine Comes.step inv taken ⟨early, unrecorded, rfl, fun _ different => ?_⟩ fun inv => ?_
  · exact Function.update_of_ne different ..
  · exact .now inv early unrecorded (by simp [World.rejectBind, World.setStatus])

/-- A `bind` that has discarded its server rejects once that is closed. -/
theorem comes_discarded {next : AfterDiscard} (inv : Inv platform w) (early : w.closing = false)
    (known : call < w.lifecycleTail)
    (running : (w.calls call).status = .running (.binding endpoint (.discarding server next))) :
    Comes platform call w (· = .rejected) := by
  obtain ⟨-, -, -, discarded⟩ := inv.lifecycle.binding known running
  have discarded : Discarded w server := discarded
  have rejects {x : World} (known : call < x.lifecycleTail) (inactive : (x.servers server).active = false)
      (running : (x.calls call).status = .running (.binding endpoint (.discarding server next))) :
      step platform x (.call call (.discarded true)) = some (x.rejectBind call false) := by
    rw [step_bind known running]
    simp [bindStep, inactive]
  cases state : w.servers server with
  | listening => exact absurd state discarded.state
  | closing =>
    have closes : step platform w (.serverCloses server) = some (w.setServer server .closed) := if_pos state
    refine Comes.step inv closes ⟨early, discarded.boundEndpoint, rfl, fun _ _ => rfl⟩ fun inv => ?_
    have closed : ((w.setServer server .closed).servers server).active = false := by
      simp [World.setServer, ServerState.active]
    exact comes_rejectBind inv early discarded.boundEndpoint (rejects known closed running)
  | idle => exact comes_rejectBind inv early discarded.boundEndpoint (rejects known (by rw [state]; rfl) running)
  | closed => exact comes_rejectBind inv early discarded.boundEndpoint (rejects known (by rw [state]; rfl) running)

/-- A `bind` discards its server, and rejects. -/
theorem comes_discard {event : Event} (inv : Inv platform w) (early : w.closing = false)
    (known : call < w.lifecycleTail) (held : Held w server)
    (taken : step platform w event = some (w.discard call endpoint server .reject)) :
    Comes platform call w (· = .rejected) := by
  rw [discard_eq held.current] at taken
  refine Comes.step inv taken ⟨early, rfl, rfl, fun _ different => Function.update_of_ne different ..⟩ fun inv => ?_
  exact @comes_discarded _ _ call server endpoint .reject inv early known (by simp)

/-- A `bind` that runs may fail, whatever it waits for. -/
theorem comes_running {bind : BindPhase} (inv : Inv platform w) (early : w.closing = false)
    (unrecorded : w.boundEndpoint = none) (known : call < w.lifecycleTail)
    (running : (w.calls call).status = .running (.binding endpoint bind)) :
    Comes platform call w (· = .rejected) := by
  obtain ⟨-, -, -, ok⟩ := inv.lifecycle.binding known running
  cases bind with
  | listening server retried =>
    have held : Held w server := ok
    refine @comes_discard _ _ call server endpoint (.call call (.listenFails false)) inv early known held ?_
    rw [step_bind known running]
    simp [bindStep, World.attemptFails]
  | inspecting server =>
    have held : Held w server := ok.1
    refine @comes_discard _ _ call server endpoint (.call call (.inspected .missing)) inv early known held ?_
    rw [step_bind known running]
    rfl
  | discarding server next => exact comes_discarded inv early known running
  | recovering =>
    refine @comes_rejectBind _ _ call (.call call (.recovered false)) inv early unrecorded ?_
    rw [step_bind known running]
    rfl

theorem step_start (known : call < w.lifecycleTail) (waiting : (w.calls call).status = .waiting)
    (released : w.released call = true) : step platform w (.call call .start) = some (w.start call) := by
  simp [step, known, callStep, waiting, released]

/-- Every call may settle before the body of `close` is called, with nothing bound. -/
theorem comes_settled (inv : Inv platform w) (early : w.closing = false) (unrecorded : w.boundEndpoint = none)
    (known : call < w.lifecycleTail) (released : w.released call = true) :
    Comes platform call w (·.settled = true) := by
  have rejected {x : World} (comes : Comes platform call x (· = .rejected)) :
      Comes platform call x (·.settled = true) := by
    obtain ⟨w', reached, inv, turn, ends⟩ := comes
    exact ⟨w', reached, inv, turn, by rw [ends]; rfl⟩
  cases status : (w.calls call).status with
  | resolved => exact .now inv early unrecorded (by rw [status]; rfl)
  | rejected => exact .now inv early unrecorded (by rw [status]; rfl)
  | running phase =>
    have place := inv.lifecycle.place
    unfold Place at place
    rw [inv.lifecycle.undrained early] at place
    obtain ⟨endpoint, bind, rfl, -⟩ := place.binding call known phase status
    exact rejected (comes_running inv early unrecorded known status)
  | waiting =>
    have starts := @step_start platform w call known status released
    cases body : (w.calls call).body with
    | close =>
      have promised := inv.lifecycle.close call known body
      have promise := inv.lifecycle.promise
      rw [early, promised] at promise
      cases promise
    | bind endpoint accepted =>
      cases refused : w.closing || !accepted || w.server.isSome || w.boundEndpoint.isSome with
      | true =>
        rw [start_refused body refused] at starts
        refine Comes.step inv starts ⟨early, unrecorded, rfl, fun _ different => ?_⟩ fun inv => ?_
        · exact Function.update_of_ne different ..
        · exact .now inv early unrecorded (by simp [Status.settled])
      | false =>
        rw [start_bind body refused] at starts
        refine Comes.step inv starts ⟨early, unrecorded, rfl, fun _ different => ?_⟩ fun inv => ?_
        · exact Function.update_of_ne different ..
        · exact rejected (@comes_running _ _ call endpoint (.listening w.nextServer false) inv early unrecorded known
            (by simp))

/-- The transport is left open and unbound by the calls before the one, and that has not begun. -/
structure Cleared (call : Nat) (w w' : World) : Prop where
  early : w'.closing = false
  unrecorded : w'.boundEndpoint = none
  tail : w'.lifecycleTail = w.lifecycleTail
  settled : ∀ earlier < call, (w'.calls earlier).status.settled = true
  later : ∀ other, call ≤ other → w'.calls other = w.calls other

/-- The calls before the one may all settle: one turn after the other. -/
theorem comes_cleared (inv : Inv platform w) (early : w.closing = false) (unrecorded : w.boundEndpoint = none)
    (known : call ≤ w.lifecycleTail) : ∃ w', ((transportSystem platform).startingAt w).Reachable w' ∧
      Inv platform w' ∧ Cleared call w w' := by
  induction call with
  | zero => exact ⟨w, .init rfl, inv, early, unrecorded, rfl, nofun, fun _ _ => rfl⟩
  | succ call ih =>
    obtain ⟨x, reached, inv, cleared⟩ := ih (Nat.le_of_succ_le known)
    have released : x.released call = true := by
      unfold World.released
      split
      next => rfl
      next before => exact cleared.settled before (Nat.lt_succ_self before)
    obtain ⟨w', ⟨history, run⟩, inv, turn, settled⟩ :=
      comes_settled inv cleared.early cleared.unrecorded (cleared.tail ▸ known) released
    refine ⟨w', reached.continue run, inv, turn.early, turn.unrecorded, turn.tail.trans cleared.tail,
      fun earlier below => ?_, fun other after => ?_⟩
    · rcases Nat.lt_succ_iff_lt_or_eq.mp below with before | rfl
      · rw [turn.others earlier (Nat.ne_of_lt before)]
        exact cleared.settled earlier before
      · exact settled
    · exact (turn.others other (Nat.ne_of_gt after)).trans (cleared.later other (Nat.le_of_succ_le after))

end Turns

/-- A `bind` that has created its server. -/
def created (w : World) (call : Nat) (endpoint : JsString) : World :=
  { w with
    calls := Function.update w.calls call
      ⟨.bind endpoint true, .running (.binding endpoint (.listening w.nextServer false)), false⟩
    handler := true
    server := some w.nextServer
    nextServer := w.nextServer + 1
    servers := Function.update w.servers w.nextServer .idle }

/-- A `bind` whose turn it is succeeds when nothing that it waits for fails. -/
theorem bind_succeeds (quiet : Quiet w) (early : w.closing = false) (known : call < w.lifecycleTail)
    (called : w.calls call = ⟨.bind endpoint true, .waiting, false⟩) (released : w.released call = true) :
    ∃ history w', ((transportSystem platform).startingAt w).Trace history w' ∧
      w'.calls call = ⟨.bind endpoint true, .resolved, false⟩ ∧ w'.boundEndpoint = some endpoint := by
  let listening := (created w call endpoint).setServer w.nextServer .listening
  have begun : ((transportSystem platform).startingAt w).step w (.call call .start) (created w call endpoint) := by
    have body : (w.calls call).body = .bind endpoint true := by rw [called]
    have allowed : (w.closing || !true || w.server.isSome || w.boundEndpoint.isSome) = false := by
      simp [early, quiet.server, quiet.boundEndpoint]
    have starts := @step_start platform w call known (by rw [called]) released
    rw [start_bind body allowed] at starts
    exact starts.trans (by simp [created, early])
  have listens : ((transportSystem platform).startingAt w).step (created w call endpoint)
      (.call call .listens) listening := by
    simp [System.startingAt, transportSystem, step, callStep, bindStep, created, listening, known]
  have run := ((System.Trace.init rfl).step begun).step listens
  cases posix : isPosixRuntime platform with
  | false =>
    have bound : ((transportSystem platform).startingAt w).step listening
        (.call call .listened) (listening.bound call endpoint none) := by
      simp [System.startingAt, transportSystem, step, callStep, bindStep, created, listening, early,
        World.publish, World.setServer, posix, known]
    refine ⟨_, _, run.step bound, ?_, rfl⟩
    simp [World.bound, World.setStatus, World.setServer, listening, created]
  | true =>
    let inspecting := listening.setBind call endpoint (.inspecting w.nextServer)
    have listened : ((transportSystem platform).startingAt w).step listening
        (.call call .listened) inspecting := by
      simp [System.startingAt, transportSystem, step, callStep, bindStep, created, listening, early,
        World.publish, World.setServer, posix, inspecting, known]
    have bound : ((transportSystem platform).startingAt w).step inspecting
        (.call call (.inspected (.found ⟨0, 0, 0, 0⟩)))
        (inspecting.bound call endpoint (some ⟨0, 0, 0, 0⟩)) := by
      simp [System.startingAt, transportSystem, step, callStep, bindStep, created, listening,
        World.setServer, World.setBind, World.setStatus, inspecting, known]
    refine ⟨_, _, (run.step listened).step bound, ?_, rfl⟩
    simp [World.bound, World.setStatus, World.setServer, World.setBind, inspecting, listening, created]

/-- A `bind` that is called behind others succeeds when those that have not settled reject. -/
theorem Inv.reopens (inv : Inv platform w) : Reopens platform w := by
  intro early unrecorded endpoint
  have inv : Inv platform (w.enqueueLifecycle (.bind endpoint true)) := @Inv.step _ _ _ (.bind endpoint true) inv rfl
  obtain ⟨x, reached, inv, cleared⟩ := @comes_cleared platform _ w.lifecycleTail inv early unrecorded (Nat.le_succ _)
  have called : x.calls w.lifecycleTail = ⟨.bind endpoint true, .waiting, false⟩ :=
    (cleared.later _ (Nat.le_refl _)).trans (Function.update_self ..)
  have idle (call : Nat) : ¬x.Running call := by
    rintro ⟨known, phase, running⟩
    rw [cleared.tail] at known
    rcases Nat.lt_succ_iff_lt_or_eq.mp known with before | rfl
    · have settled := cleared.settled call before
      rw [running] at settled
      cases settled
    · rw [called] at running
      cases running
  have released : x.released w.lifecycleTail = true := by
    unfold World.released
    split
    next => rfl
    next before last => exact cleared.settled before (last ▸ Nat.lt_succ_self before)
  obtain ⟨history, w', run, ends⟩ := bind_succeeds (inv.lifecycle.unbound cleared.early cleared.unrecorded idle)
    cleared.early (cleared.tail ▸ Nat.lt_succ_self _) called released
  exact ⟨w', reached.continue run, ends⟩


theorem reachable_inv (reached : (transportSystem platform).Reachable w) : Inv platform w := by
  apply System.Reachable.invariant ?_ ?_ reached
  · rintro _ rfl
    exact inv_initial
  · intro w event w' inv taken
    exact inv.step taken

/-- In every run of a transport its lifecycle is orderly, and where it is not closed it may be bound
again. -/
theorem transport_orderly (reached : (transportSystem platform).Reachable w) :
    Orderly platform w ∧ Reopens platform w := by
  have inv := reachable_inv reached
  exact ⟨inv.orderly, inv.reopens⟩

/-- A `bind` that is closed again. -/
def boundThenClosed : List Event :=
  [.bind "a" true, .call 0 .start, .call 0 .listens, .call 0 .listened,
    .call 0 (.inspected (.found ⟨0, 1, 0, 0⟩)), .connection 0, .close, .call 1 .start, .socketCloses 0,
    .serverCloses 0, .serverClosed false, .drain, .drain, .call 1 .confirm, .call 1 (.unlinked false)]

/-- A second `bind` of a transport that is bound. -/
def boundTwice : List Event :=
  [.bind "a" true, .call 0 .start, .call 0 .listens, .call 0 .listened,
    .call 0 (.inspected (.found ⟨0, 1, 0, 0⟩)), .bind "b" true, .call 1 .start]

/-- A request waits to try again while `close` resolves. -/
def retriedLate : List Event :=
  [.request true, .attempt 0 .transientError, .socketCloses 0, .attempt 0 .attemptClosed, .close,
    .call 0 .start, .drain, .call 0 .confirm, .attempt 0 (.retry true)]

theorem reached_end {events : List Event} {p : World → Bool}
    (follows : System.followsTo (fun _ _ => True) (step platform) p initial events = true) :
    ∃ w, (transportSystem platform).Reachable w ∧ p w = true := by
  have start : ((transportSystem platform).restrict fun _ _ => True).Reachable initial := .init rfl
  obtain ⟨w, follows, ends⟩ := System.follow_of_followsTo follows
  have reached := start.follow (f := step platform) (fun _ _ _ taken => taken) events follows
  exact ⟨w, reached.of_restrict, ends⟩

theorem transport_orderly_closed :
    ∃ w, (transportSystem .posix).Reachable w ∧ w.lifecycleTail = 2 ∧
      (w.calls 1).status = .resolved ∧ w.nextSocket = 1 ∧ Orderly .posix w ∧ Reopens .posix w := by
  obtain ⟨w, reached, ends⟩ := @reached_end .posix boundThenClosed (fun w =>
    w.lifecycleTail == 2 && (w.calls 1).status == .resolved && w.nextSocket == 1) (by decide +kernel)
  simp only [Bool.and_eq_true, beq_iff_eq] at ends
  exact ⟨w, reached, ends.1.1, ends.1.2, ends.2, transport_orderly reached⟩

/-- A `bind` of a transport that is bound rejects while the server listens; and on Windows a request
that tries again opens a socket after `close` has resolved. -/
theorem rejection_keeps_binding :
    (∃ w, (transportSystem .posix).Reachable w ∧ ∃ r ∈ w.rejections, r.server.isSome = true ∧
      r.boundEndpoint.isSome = true ∧ r.listening = true) ∧
    ∃ w, (transportSystem .win32).Reachable w ∧ w.lifecycleTail = 1 ∧ w.calls 0 = ⟨.close, .resolved, true⟩ ∧
      (w.sockets 1).closed = false ∧ (w.sockets 1).late = true ∧ w.nextSocket = 2 := by
  refine ⟨?_, ?_⟩
  · obtain ⟨w, reached, ends⟩ := @reached_end .posix boundTwice (fun w =>
      w.rejections.any fun r => r.server.isSome && r.boundEndpoint.isSome && r.listening)
      (by decide +kernel)
    obtain ⟨r, member, kept⟩ := List.any_eq_true.mp ends
    simp only [Bool.and_eq_true] at kept
    exact ⟨w, reached, r, member, kept.1.1, kept.1.2, kept.2⟩
  · obtain ⟨w, reached, ends⟩ := @reached_end .win32 retriedLate (fun w => w.lifecycleTail == 1 &&
      w.calls 0 == ⟨.close, .resolved, true⟩ && !(w.sockets 1).closed && (w.sockets 1).late &&
      w.nextSocket == 2) (by decide +kernel)
    simp only [Bool.and_eq_true, beq_iff_eq, Bool.not_eq_true'] at ends
    exact ⟨w, reached, ends.1.1.1.1, ends.1.1.1.2, ends.1.1.2, ends.1.2, ends.2⟩

end Main

end PiToPi.TransportLifecycle
