import PiToPi.EnvelopeProofs
import PiToPi.MessageRouter
import PiToPi.StoreEffects

/-!
What a turn of the router does to it, change by change.

Most of what the router does is beside the point of its promises: clocks are read, the queue is
drained, operations are remembered. `Change` says what the rest is, and what holds where it
happens: a task is made and tracked, a task goes on, a terminal reply leaves, a request of the
router's own is registered or finished, the executor is called. Every operation of the router is a
sequence of these, so that an invariant is proved change by change and never again function by
function.
-/
namespace PiToPi.Routing
open Reentrant StoreEffects Relation

/-- The code of the router's hosts, and clocks, that no promise is about. -/
structure Aside (r r' : MessageRouter) : Prop where
  taskStore : r'.taskStore = r.taskStore
  outboundRequests : r'.outboundRequests = r.outboundRequests
  inboundRequests : r'.inboundRequests = r.inboundRequests
  executions : r'.executions = r.executions
  sent : r'.sent = r.sent
  replying : r'.replying = r.replying

theorem Aside.refl (r : MessageRouter) : Aside r r := ⟨rfl, rfl, rfl, rfl, rfl, rfl⟩

/-- A record of this request has been made, and this is true of it. -/
def HasTask (s : TaskStore) (requestId : JsString) (holds : StoredTask → Prop) : Prop :=
  ∃ q < s.nextRecord, (s.heap q).requestId = requestId ∧ holds (s.heap q)

/-- The task of this request has ended with this snapshot. -/
def EndedWith (s : TaskStore) (requestId : JsString) (snapshot : TaskSnapshot) : Prop :=
  HasTask s requestId fun task => task.snapshot = snapshot ∧ isTerminalTaskState snapshot.state = true

/-- What a turn may do, as the event that began it allows. -/
structure Grounds where
  /-- How it may end a task. -/
  concludes : MessageRouter → RecordId → TaskSnapshot → Prop
  /-- The requests of peers it may take up. -/
  accepts : Json → Prop
  /-- The requests of its own it may register. -/
  registers : Json → Prop
  /-- The envelopes it may send, terminal replies apart. -/
  sends : Json → Prop

/-- Grounds for nothing. -/
def Grounds.none : Grounds where
  concludes _ _ _ := False
  accepts _ := False
  registers _ := False
  sends _ := False

/-- The store is disposed of: its records are dropped, and their tasks stay as they are. -/
structure Disposes (o : TaskStoreOptions) (s t : TaskStore) : Prop where
  evolves : Evolves o OnlyExpires s { t with records := s.records, disposed := s.disposed }
  empty : t.records = ∅
  disposed : t.disposed = true

section Changes

variable (c : RouterConfig) (G : Grounds)

/-- One change. -/
inductive Change : MessageRouter → MessageRouter → Prop where
  | aside (same : Aside r r') : Change r r'
  /-- Tasks go on. -/
  | evolves (moved : Evolves c.storeOptions (G.concludes r) r.taskStore taskStore) :
      Change r { r with taskStore }
  /-- A task is made that is not tracked, since something is thrown before it is. -/
  | makes (input : TaskStoreCreateInput)
      (grounds : (∃ envelope accepted, G.accepts envelope ∧ input = inboundTask c envelope accepted) ∨
        ∃ envelope, G.registers envelope ∧ input = outboundTask c envelope)
      (made : Creates c.storeOptions input r.taskStore taskStore) : Change r { r with taskStore }
  /-- The request of a peer is taken up. -/
  | admits (envelope : Json) (accepted : Bool) (grounds : G.accepts envelope)
      (made : Creates c.storeOptions (inboundTask c envelope accepted) r.taskStore taskStore)
      (free : r.taskStore.find (Envelope.requestId envelope) = none)
      (filed : taskStore.find (Envelope.requestId envelope) = some r.taskStore.nextRecord) :
      Change r { r with
        taskStore, dedupeStore
        inboundRequests := r.inboundRequests.set (Envelope.requestId envelope) ⟨envelope, false⟩ }
  /-- A request of the router's own is registered. -/
  | registers (envelope : Json) (grounds : G.registers envelope)
      (made : Creates c.storeOptions (outboundTask c envelope) r.taskStore taskStore)
      (free : r.taskStore.find (Envelope.requestId envelope) = none)
      (filed : taskStore.find (Envelope.requestId envelope) = some r.taskStore.nextRecord) :
      Change r { r with
        taskStore
        outboundRequests := r.outboundRequests.set (Envelope.requestId envelope)
          ⟨envelope, Envelope.recipientRuntimeId envelope, false, none, none⟩ }
  | resolves (requestId : JsString) (record : OutboundRequestRecord)
      (tracked : r.outboundRequests.get? requestId = some record) :
      Change r { r with
        outboundRequests := r.outboundRequests.set requestId { record with admissionResolved := true } }
  /-- A request of the router's own is finished. -/
  | finishes (requestId : JsString) (record : OutboundRequestRecord) (snapshot : TaskSnapshot)
      (tracked : r.outboundRequests.get? requestId = some record) (unfinished : record.terminalSnapshot = none)
      (ended : EndedWith r.taskStore requestId snapshot) :
      Change r { r with
        outboundRequests := r.outboundRequests.set requestId { record with
          terminalSnapshot := some snapshot
          completion := record.completion.or (some snapshot) } }
  /-- A terminal reply is on its way, or given up. -/
  | marks (requestId : JsString) (record : InboundRequestRecord)
      (tracked : r.inboundRequests.get? requestId = some record) :
      Change r { r with inboundRequests := r.inboundRequests.set requestId { record with terminalSent := true } }
  /-- A terminal reply leaves. -/
  | replies (requestId : JsString) (record : InboundRequestRecord) (snapshot : TaskSnapshot)
      (operationId createdAt : JsString) (tracked : r.inboundRequests.get? requestId = some record)
      (unsent : record.terminalSent = false) (ended : EndedWith r.taskStore requestId snapshot) :
      Change r { r with
        inboundRequests := r.inboundRequests.set requestId { record with terminalSent := true }
        sent := r.sent ++ [replyEnvelope c record.envelope operationId createdAt snapshot]
        replying := r.replying ++ [Envelope.requestId record.envelope] }
  /-- A request whose task has ended is tracked no more. -/
  | forgets (requestId : JsString) (snapshot : TaskSnapshot)
      (ended : EndedWith r.taskStore requestId snapshot) :
      Change r { r with inboundRequests := r.inboundRequests.delete requestId }
  /-- The delivery of a terminal reply has ended, and its request is tracked no more. -/
  | delivers (index : Nat) (requestId : JsString) (here : r.replying[index]? = some requestId)
      (forgotten : inboundRequests = r.inboundRequests ∨ inboundRequests = r.inboundRequests.delete requestId) :
      Change r { r with inboundRequests, replying := r.replying.eraseIdx index }
  /-- The executor is called. -/
  | executes (requestId : JsString) (request : Json) (snapshot : TaskSnapshot)
      (tracked : r.inboundRequests.has requestId = true)
      (working : HasTask r.taskStore requestId fun task => task.snapshot = snapshot ∧ task.state = .working) :
      Change r { r with executions := r.executions ++ [⟨requestId, request, snapshot, .queued⟩] }
  /-- An execution goes on. -/
  | phases (index : Nat) (execution : Execution) (phase : ExecutionPhase)
      (here : r.executions[index]? = some execution) :
      Change r { r with executions := r.executions.set index { execution with phase } }
  | sends (envelope : Json) (grounds : G.sends envelope) : Change r { r with sent := r.sent ++ [envelope] }
  | disposes (disposes : Disposes c.storeOptions r.taskStore taskStore) : Change r { r with taskStore }

/-- Any number of changes. -/
abbrev Changes : MessageRouter → MessageRouter → Prop := ReflTransGen (Change c G)

end Changes

/-- What every operation relies on: the request ids tasks and tracked requests are kept under. -/
structure Ordered (r : MessageRouter) : Prop where
  ledger : Ledger r.taskStore
  named : ∀ requestId record, r.inboundRequests.get? requestId = some record →
    Envelope.requestId record.envelope = requestId

/-- Records are retained for ever, which is the default. -/
def Retains (c : RouterConfig) : Prop := c.storeOptions.terminalRetentionMs = none

section Steps

variable {c : RouterConfig} {G : Grounds}

theorem Disposes.ledger (disposes : Disposes o s t) (retained : o.terminalRetentionMs = none)
    (ledger : Ledger s) : Ledger t := by
  have later := ledger.evolves retained disposes.evolves
  refine ⟨fun key r stored => ?_, fun usable => ?_, later.distinct, later.unarmed⟩
  · rw [disposes.empty, JsMap.get?_empty] at stored
    cases stored
  · rw [disposes.disposed] at usable
    cases usable

theorem Ordered.change (retains : Retains c) (ordered : Ordered r) (change : Change c G r r') : Ordered r' := by
  obtain ⟨ledger, named⟩ := ordered
  cases change with
  | aside same =>
    refine ⟨same.taskStore ▸ ledger, ?_⟩
    rw [same.inboundRequests]
    exact named
  | evolves moved => exact ⟨ledger.evolves retains moved, named⟩
  | makes input grounds made => exact ⟨ledger.creates retains made, named⟩
  | admits envelope accepted grounds made free filed =>
    refine ⟨ledger.creates retains made, fun requestId record tracked => ?_⟩
    dsimp only at tracked
    rw [JsMap.get?_set] at tracked
    split at tracked
    · rename_i same
      cases tracked
      exact same.symm
    · exact named requestId record tracked
  | registers envelope grounds made free filed => exact ⟨ledger.creates retains made, named⟩
  | marks requestId record tracked =>
    refine ⟨ledger, fun other record' tracked' => ?_⟩
    dsimp only at tracked'
    rw [JsMap.get?_set] at tracked'
    split at tracked'
    · rename_i same
      cases tracked'
      exact (named requestId record tracked).trans same.symm
    · exact named other record' tracked'
  | replies requestId record snapshot operationId createdAt tracked unsent ended =>
    refine ⟨ledger, fun other record' tracked' => ?_⟩
    dsimp only at tracked'
    rw [JsMap.get?_set] at tracked'
    split at tracked'
    · rename_i same
      cases tracked'
      exact (named requestId record tracked).trans same.symm
    · exact named other record' tracked'
  | forgets requestId snapshot ended =>
    refine ⟨ledger, fun other record tracked => ?_⟩
    dsimp only at tracked
    exact named other record (JsMap.get?_delete_eq_some_iff.mp tracked).2
  | delivers index requestId here forgotten =>
    refine ⟨ledger, fun other record tracked => ?_⟩
    dsimp only at tracked
    obtain rfl | rfl := forgotten
    · exact named other record tracked
    · exact named other record (JsMap.get?_delete_eq_some_iff.mp tracked).2
  | disposes disposes => exact ⟨disposes.ledger retains ledger, named⟩
  | resolves | finishes | executes | phases | sends => exact ⟨ledger, named⟩

theorem Ordered.changes (retains : Retains c) (ordered : Ordered r) (changes : Changes c G r r') : Ordered r' := by
  induction changes with
  | refl => exact ordered
  | tail _ change ih => exact ih.change retains change

/-- A task goes on where a change does anything to it. -/
structure TasksGoOn (s t : TaskStore) : Prop where
  nextRecord : s.nextRecord ≤ t.nextRecord
  identity : ∀ q < s.nextRecord, SameIdentity (s.heap q) (t.heap q)
  ended : ∀ q < s.nextRecord, isTerminalTaskState (s.heap q).state = true → (t.heap q).snapshot = (s.heap q).snapshot

theorem TasksGoOn.refl (s : TaskStore) : TasksGoOn s s := ⟨le_rfl, fun _ _ => .refl _, fun _ _ _ => rfl⟩

theorem TasksGoOn.trans (first : TasksGoOn s t) (second : TasksGoOn t u) : TasksGoOn s u where
  nextRecord := first.nextRecord.trans second.nextRecord
  identity q made := (first.identity q made).trans (second.identity q (made.trans_le first.nextRecord))
  ended q made terminal := by
    have same := first.ended q made terminal
    have state : (t.heap q).state = (s.heap q).state := congrArg TaskSnapshot.state same
    exact (second.ended q (made.trans_le first.nextRecord) (state ▸ terminal)).trans same

theorem Evolves.goOn {may : RecordId → TaskSnapshot → Prop} (evolves : Evolves o may s t) : TasksGoOn s t where
  nextRecord := evolves.nextRecord.ge
  identity q _ := (evolves.tasks q).identity
  ended q _ terminal := (evolves.tasks q).terminal terminal

theorem Creates.goOn (creates : Creates o input s t) : TasksGoOn s t := by
  cases creates with
  | nothing quiet => exact Evolves.goOn (.of_quiet quiet : Evolves o OnlyExpires _ _)
  | record task made quiet isNew free usable timer unarmed evolves =>
    refine (Evolves.goOn (.of_quiet quiet : Evolves o OnlyExpires _ _)).trans (.trans ?_ (Evolves.goOn evolves))
    have older : ∀ q < made.nextRecord, (insertRecord made input.requestId { task with purgeTimer := timer }).heap q =
        made.heap q := fun q before => Function.update_of_ne (Nat.ne_of_lt before) ..
    exact ⟨Nat.le_succ _, fun q before => older q before ▸ .refl _, fun q before _ => by rw [older q before]⟩

theorem Disposes.goOn (disposes : Disposes o s t) : TasksGoOn s t :=
  have later := Evolves.goOn disposes.evolves
  ⟨later.nextRecord, later.identity, later.ended⟩

theorem Change.goOn (change : Change c G r r') : TasksGoOn r.taskStore r'.taskStore := by
  cases change with
  | aside same => exact same.taskStore ▸ .refl _
  | evolves moved => exact Evolves.goOn moved
  | makes _ _ made => exact Creates.goOn made
  | admits _ _ _ made => exact Creates.goOn made
  | registers _ _ made => exact Creates.goOn made
  | disposes disposes => exact Disposes.goOn disposes
  | resolves | finishes | marks | replies | forgets | delivers | executes | phases | sends => exact .refl _

theorem Changes.goOn (changes : Changes c G r r') : TasksGoOn r.taskStore r'.taskStore := by
  induction changes with
  | refl => exact .refl _
  | tail _ change ih => exact ih.trans change.goOn

theorem EndedWith.goOn (ended : EndedWith s requestId snapshot) (goOn : TasksGoOn s t) :
    EndedWith t requestId snapshot := by
  obtain ⟨q, made, named, rfl, terminal⟩ := ended
  exact ⟨q, made.trans_le goOn.nextRecord, (goOn.identity q made).requestId.trans named, goOn.ended q made terminal, terminal⟩

end Steps

section Turns

variable {c : RouterConfig} {G : Grounds}

/-- The code makes changes and nothing else, whatever it answers. -/
def Turn (c : RouterConfig) (G : Grounds) (code : RouterM α) : Prop :=
  ∀ r, Ordered r → code.Yields r fun r' _ => Changes c G r r'

theorem Changes.aside (same : Aside r r') : Changes c G r r' := .single (.aside same)

theorem turn_pure (a : α) : Turn c G (pure a) := fun _ _ => Code.yields_pure .refl

theorem turn_ofExcept (given : Except RouterFault α) : Turn c G (Code.ofExcept given) :=
  fun _ _ => Code.yields_ofExcept .refl

theorem turn_read_bind {next : MessageRouter → RouterM α}
    (rest : ∀ r, Ordered r → (next r).Yields r fun r' _ => Changes c G r r') : Turn c G (Code.read >>= next) :=
  fun r ordered => Code.yields_read_bind (rest r ordered)

/-- Code that changes nothing a promise is about. -/
theorem turn_modify {f : MessageRouter → MessageRouter} (aside : ∀ r, Aside r (f r)) :
    Turn c G (Code.modify f) := fun r _ => Code.yields_modify (.aside (aside r))

theorem Turn.attempted {code : RouterM α} (turn : Turn c G code) : Turn c G (attempted code) :=
  fun r ordered => Code.Yields.attempt (turn r ordered)

theorem yields_storeCall {code : StoreM α} {post : MessageRouter → Except RouterFault α → Prop}
    (yields : code.Yields r.taskStore fun taskStore result =>
      post { r with taskStore } (result.mapError .store)) : (storeCall code).Yields r post := by
  intro r' result ends
  unfold storeCall at ends
  rw [Code.ends_zoom_iff (fun _ _ => by rfl) (fun _ _ _ => by rfl)] at ends
  obtain ⟨s, outcome, inner, rfl, rfl⟩ := ends
  exact yields s outcome inner

/-- Code of the store that only reads. -/
theorem turn_storeCall {code : StoreM α} (within : code.Within (Evolves c.storeOptions OnlyExpires)) :
    Turn c G (storeCall code) :=
  fun r _ => yields_storeCall ((within r.taskStore).imp fun _ _ evolves =>
    .single (.evolves evolves.of_reads))

/-- The dedupe store is all that its operations change. -/
theorem yields_dedupeCall
    {call : DedupeStore Cached Unit → Except DedupeError α × DedupeStore Cached Unit} :
    (dedupeCall call).Yields r fun r' _ => ∃ dedupeStore, r' = { r with dedupeStore } := by
  unfold dedupeCall
  exact Code.yields_read_bind (Code.yields_modify_bind (Code.yields_ofExcept ⟨_, rfl⟩))

theorem turn_dedupeCall {call : DedupeStore Cached Unit → Except DedupeError α × DedupeStore Cached Unit} :
    Turn c G (dedupeCall call) := by
  intro r _
  refine yields_dedupeCall.imp fun r' _ same => ?_
  obtain ⟨dedupeStore, rfl⟩ := same
  exact .aside ⟨rfl, rfl, rfl, rfl, rfl, rfl⟩

section Sequencing

variable (retains : Retains c)
include retains

theorem Turn.bind {code : RouterM α} {next : α → RouterM β} (first : Turn c G code)
    (second : ∀ a, Turn c G (next a)) : Turn c G (code >>= next) :=
  fun r ordered => (first r ordered).bind
    (fun m a changes => (second a m (ordered.changes retains changes)).imp fun _ _ more => changes.trans more)
    fun _ _ changes => changes

/-- Sequencing, where the second part relies on what the first established. -/
theorem Turn.then {code : RouterM α} {next : α → RouterM β} {P : MessageRouter → α → Prop}
    (ordered : Ordered r)
    (first : code.Yields r fun r' result => Changes c G r r' ∧ ∀ a, result = .ok a → P r' a)
    (second : ∀ m a, Ordered m → Changes c G r m → P m a → (next a).Yields m fun r' _ => Changes c G m r') :
    (code >>= next).Yields r fun r' _ => Changes c G r r' :=
  first.bind
    (fun m a done => (second m a (ordered.changes retains done.1) done.1 (done.2 a rfl)).imp
      fun _ _ more => done.1.trans more)
    fun _ _ done => done.1

/-- The code goes on from wherever its first part ends. -/
theorem Turn.next {code : RouterM α} {next : α → RouterM β} (ordered : Ordered r) (first : Turn c G code)
    (second : ∀ m a, Ordered m → Changes c G r m → (next a).Yields m fun r' _ => Changes c G m r') :
    (code >>= next).Yields r fun r' _ => Changes c G r r' :=
  Turn.then retains (P := fun _ _ => True) ordered ((first r ordered).imp fun _ _ changes => ⟨changes, fun _ _ => trivial⟩)
    fun m a ordered changes _ => second m a ordered changes

end Sequencing

theorem yields_wallNow : wallNow.Yields r fun r' _ => r' = { r with wallNow := fun n => r.wallNow (n + 1) } :=
  Code.yields_read_bind (Code.yields_modify_bind (Code.yields_pure rfl))

theorem yields_randomUuid :
    randomUuid.Yields r fun r' _ => r' = { r with random := fun n => r.random (n + 1) } :=
  Code.yields_read_bind (Code.yields_modify_bind (Code.yields_pure rfl))

theorem yields_wallTimestamp (value : ℚ) : (wallTimestamp value).Yields r fun r' _ => r' = r := by
  unfold wallTimestamp
  split
  · exact Code.yields_pure rfl
  · exact Code.yields_throw rfl

theorem turn_wallNow : Turn c G wallNow :=
  fun _ _ => yields_wallNow.imp fun _ _ same => same ▸ .aside ⟨rfl, rfl, rfl, rfl, rfl, rfl⟩

section Queueing

variable (retains : Retains c)
include retains

omit retains in
theorem within_getTask (requestId : JsString) (read : SnapshotReadOptions) :
    (getTask c.storeOptions requestId read).Within (Evolves c.storeOptions OnlyExpires) :=
  fun _ => (yields_getTask requestId read).imp fun _ _ done => done.1

theorem turn_readTasks (asked : List JsString) : Turn c G (readTasks c asked) := by
  induction asked with
  | nil => exact turn_pure ()
  | cons requestId rest ih =>
    exact Turn.bind retains (turn_storeCall (within_getTask requestId ⟨true, none⟩)) fun _ => ih

theorem turn_policyCall (call : Policy.RoutingPolicy Json → Policy.Answer Json α) :
    Turn c G (policyCall c call) := by
  unfold policyCall
  refine turn_read_bind fun r ordered => ?_
  refine Turn.next retains ordered (turn_modify fun r => ⟨rfl, rfl, rfl, rfl, rfl, rfl⟩) fun m _ ordered _ => ?_
  refine Turn.next retains ordered (turn_readTasks retains _) fun m _ ordered _ => ?_
  refine Turn.next retains ordered (turn_modify fun r => ⟨rfl, rfl, rfl, rfl, rfl, rfl⟩) fun m _ ordered _ => ?_
  refine turn_read_bind (fun r ordered => ?_) m ordered
  exact Turn.next retains ordered (turn_modify fun r => ⟨rfl, rfl, rfl, rfl, rfl, rfl⟩)
    fun m _ ordered _ => turn_ofExcept _ m ordered

omit retains in
theorem turn_releaseTarget (target : Policy.QueueHandle) : Turn c G (releaseTarget target) :=
  turn_modify fun _ => ⟨rfl, rfl, rfl, rfl, rfl, rfl⟩

omit retains in
theorem turn_releaseAdmission (admission : Policy.QueueAdmissionDecision) :
    Turn c G (releaseAdmission admission) := by
  unfold releaseAdmission
  split
  · exact turn_releaseTarget _
  · exact turn_releaseTarget _
  · exact turn_pure ()
  · exact turn_pure ()
  · exact turn_pure ()

theorem turn_admitRequest (envelope : Json) : Turn c G (admitRequest c envelope) := by
  unfold admitRequest
  refine turn_read_bind fun r ordered => ?_
  exact Turn.next retains ordered (turn_modify fun r => ⟨rfl, rfl, rfl, rfl, rfl, rfl⟩)
    fun m _ ordered _ => turn_policyCall retains _ m ordered

theorem turn_releaseLeaseThen {drain : RouterM Unit} (turn : Turn c G drain) (requestId : JsString)
    (lease : Policy.QueueLease) : Turn c G (releaseLeaseThen drain requestId lease) :=
  Turn.bind retains (turn_releaseTarget _) fun _ =>
    Turn.bind retains (turn_modify fun _ => ⟨rfl, rfl, rfl, rfl, rfl, rfl⟩) fun _ => turn

theorem turn_dispatchLeaseThen {drain : RouterM Unit} (turn : Turn c G drain) (requestId : JsString)
    (lease : Policy.QueueLease) : Turn c G (dispatchLeaseThen c drain requestId lease) := by
  unfold dispatchLeaseThen
  split
  · exact turn_pure ()
  intro r ordered
  refine Turn.then retains (P := fun m task => ∀ task', task = some task' →
      HasTask m.taskStore requestId fun held => held.snapshot = task'.snapshot ∧ held.state = .working)
    ordered (yields_storeCall ((yields_beginExecution requestId).imp ?_)) ?_
  · rintro s result ⟨evolves, begun⟩
    refine ⟨.single (.evolves evolves.of_reads), ?_⟩
    rintro _ answered task rfl
    cases result with
    | error e => cases answered
    | ok given =>
      cases answered
      obtain ⟨q, found, rfl, working⟩ := begun task rfl
      obtain ⟨made, named⟩ := (ordered.ledger.filed.evolves evolves) requestId q (evolves.records ▸ found)
      exact ⟨q, made, named, rfl, working⟩
  · rintro m task ordered changes begun
    cases task with
    | none => exact turn_releaseLeaseThen retains turn requestId lease m ordered
    | some task =>
      refine Code.yields_read_bind ?_
      split
      · exact turn_releaseLeaseThen retains turn requestId lease m ordered
      · rename_i tracked
        refine Code.yields_modify (.single (.executes requestId _ task.snapshot ?_ (begun task rfl)))
        simpa using tracked

theorem turn_drainRounds (rounds : Nat) : Turn c G (drainRounds c rounds) := by
  induction rounds with
  | zero => exact turn_pure ()
  | succ rounds ih =>
    unfold drainRounds
    refine turn_read_bind fun r ordered => ?_
    split
    · exact turn_pure () r ordered
    refine Turn.next retains ordered (turn_policyCall retains _) fun m lease ordered _ => ?_
    cases lease with
    | none => exact turn_pure () m ordered
    | some lease =>
      refine turn_read_bind (fun r ordered => ?_) m ordered
      split
      · exact Turn.next retains ordered (turn_releaseTarget _) fun m _ ordered _ => ih m ordered
      · refine Turn.next retains ordered (turn_modify fun _ => ⟨rfl, rfl, rfl, rfl, rfl, rfl⟩) fun m _ ordered _ => ?_
        exact Turn.next retains ordered (turn_dispatchLeaseThen retains ih _ lease) fun m _ ordered _ => ih m ordered

theorem turn_drainQueue : Turn c G (drainQueue c) :=
  turn_read_bind fun r ordered => turn_drainRounds retains _ r ordered

end Queueing

section Finishing

/-- A content that satisfies an expected response. -/
def Fits (c : RouterConfig) (content expected : Json) : Prop :=
  ∃ now, content.get? "type" = some (.string "json") ∧
    Validation.SatisfiesSchema c.schemaHost ⟨now, none, Validation.ceilingLimits, none⟩
      ((content.get? "value").getD .null) ((expected.get? "schema").getD .null)

theorem yields_checkReply (content expected : Json) :
    (checkReply c content expected).Yields r fun r' result => Aside r r' ∧
      ∀ accepted, result = .ok (.success accepted) → Fits c content expected := by
  unfold checkReply
  have unaware : ∀ m, m = { r with wallNow := fun n => r.wallNow (n + 1) } → Aside r m := by
    rintro m rfl
    exact ⟨rfl, rfl, rfl, rfl, rfl, rfl⟩
  refine yields_wallNow.bind (fun m now read => Code.yields_ofExcept ⟨unaware m read, ?_⟩)
    fun m _ read => ⟨unaware m read, fun _ thrown => by cases thrown⟩
  intro accepted passed
  cases checked : Validation.validateReplyContent c.schemaHost ⟨now, none, Validation.ceilingLimits, none⟩ content
      expected with
  | error fault =>
    rw [checked] at passed
    cases passed
  | ok answer =>
    rw [checked] at passed
    cases passed
    obtain ⟨_, typed, satisfies⟩ := Validation.validateReplyContent_success checked
    exact ⟨now, typed, satisfies⟩

/-- A content a task may be completed with on this side: it fits what its request expects. -/
def MeetsRequest (c : RouterConfig) (r : MessageRouter) (requestId : JsString) (content : Content) : Prop :=
  ∀ record expected, r.inboundRequests.get? requestId = some record →
    record.expectedResponse = some expected → Fits c content.toJson expected

/-- How the host may end a task. -/
def HostConcludes (c : RouterConfig) (requestId : JsString) (r : MessageRouter) (q : RecordId)
    (snapshot : TaskSnapshot) : Prop :=
  r.taskStore.find requestId = some q ∧ (snapshot.state = .completed → ∃ content,
    Concludes c.storeOptions .completed (contentUpdate content) snapshot ∧ MeetsRequest c r requestId content)

theorem turn_notifyTaskState (requestId : JsString) (snapshot : TaskSnapshot) :
    Turn c G (notifyTaskState requestId snapshot) := by
  intro r ordered
  unfold notifyTaskState
  have asked : (Code.call (.taskStateChange requestId snapshot) : RouterM (Option Bool)).Yields r
      fun r' _ => r' = r := Code.yields_call fun _ => rfl
  refine asked.bind (fun m answer same => ?_) fun m _ same => same ▸ .refl
  subst same
  cases answer with
  | none => exact Code.yields_throw .refl
  | some told => exact Code.yields_pure .refl

/-- Where `sendTerminalReply` may leave the router. -/
inductive Replied (c : RouterConfig) (record : InboundRequestRecord) (snapshot : TaskSnapshot)
    (r : MessageRouter) : MessageRouter → Prop where
  | nothing (same : Aside r m) : Replied c record snapshot r m
  | late (same : Aside r m) : Replied c record snapshot r
      { m with inboundRequests := m.inboundRequests.delete (Envelope.requestId record.envelope) }
  | sent (same : Aside r m) (operationId createdAt : JsString) : Replied c record snapshot r
      { m with
        sent := m.sent ++ [replyEnvelope c record.envelope operationId createdAt snapshot]
        replying := m.replying ++ [Envelope.requestId record.envelope] }

theorem yields_sendTerminalReply (record : InboundRequestRecord) (snapshot : TaskSnapshot) :
    (sendTerminalReply c record snapshot).Yields r fun r' _ => Replied c record snapshot r r' := by
  unfold sendTerminalReply
  split
  · exact Code.yields_pure (.nothing (.refl r))
  have unaware : ∀ m, m = { r with wallNow := fun n => r.wallNow (n + 1) } → Aside r m := by
    rintro m rfl
    exact ⟨rfl, rfl, rfl, rfl, rfl, rfl⟩
  refine yields_wallNow.bind (fun m now read => ?_) fun m _ read => .nothing (unaware m read)
  have aside := unaware m read
  split
  · exact Code.yields_modify (.late aside)
  split
  · exact Code.yields_modify (.late aside)
  have drawn : ∀ m', m' = { m with random := fun n => m.random (n + 1) } → Aside r m' := by
    rintro m' rfl
    exact ⟨aside.taskStore, aside.outboundRequests, aside.inboundRequests, aside.executions, aside.sent, aside.replying⟩
  refine yields_randomUuid.bind (fun m' operationId read => ?_) fun m' _ read => .nothing (drawn m' read)
  refine (yields_wallTimestamp _).bind (fun u createdAt same => ?_) fun u _ same => .nothing (same ▸ drawn m' read)
  exact Code.yields_modify (.sent (same ▸ drawn m' read) operationId createdAt)

theorem turn_replyOnce {requestId : JsString} {snapshot : TaskSnapshot} (ordered : Ordered r)
    (ended : EndedWith r.taskStore requestId snapshot) :
    (replyOnce c requestId snapshot).Yields r fun r' _ => Changes c G r r' := by
  unfold replyOnce
  refine Code.yields_read_bind ?_
  split
  · exact Code.yields_pure .refl
  rename_i record tracked
  split
  · exact Code.yields_pure .refl
  rename_i unsent
  have named := ordered.named requestId record tracked
  refine Code.yields_modify_bind ?_
  have marked : Changes c G r { r with
      inboundRequests := r.inboundRequests.set requestId { record with terminalSent := true } } :=
    .single (.marks requestId record tracked)
  have sends : (attempted (sendTerminalReply c record snapshot)).Yields { r with
      inboundRequests := r.inboundRequests.set requestId { record with terminalSent := true } }
      fun r' _ => Changes c G r r' := by
    refine Code.Yields.attempt ((yields_sendTerminalReply record snapshot).imp fun r' _ replied => ?_)
    cases replied with
    | nothing same => exact marked.tail (.aside same)
    | late same =>
      refine (marked.tail (.aside same)).tail (.forgets _ snapshot ?_)
      rw [named, same.taskStore]
      exact ended
    | @sent m same operationId createdAt =>
      -- the mark and the reply are one change
      have replies : Change c G r { r with
          inboundRequests := r.inboundRequests.set requestId { record with terminalSent := true }
          sent := r.sent ++ [replyEnvelope c record.envelope operationId createdAt snapshot]
          replying := r.replying ++ [Envelope.requestId record.envelope] } :=
        .replies requestId record snapshot operationId createdAt tracked (Bool.eq_false_iff.mpr unsent) ended
      refine (ReflTransGen.single replies).tail (.aside ⟨same.taskStore, same.outboundRequests, same.inboundRequests,
        same.executions, ?_, ?_⟩)
      · exact congrArg (· ++ [replyEnvelope c record.envelope operationId createdAt snapshot]) same.sent
      · exact congrArg (· ++ [Envelope.requestId record.envelope]) same.replying
  exact sends.bind (fun m _ changes => Code.yields_pure changes) fun _ _ changes => changes

theorem turn_finishOutboundRequest {requestId : JsString} {snapshot : TaskSnapshot}
    (ended : isTerminalTaskState snapshot.state = true → EndedWith r.taskStore requestId snapshot) :
    (finishOutboundRequest requestId snapshot).Yields r fun r' _ => Changes c G r r' := by
  unfold finishOutboundRequest
  refine Code.yields_read_bind ?_
  split
  · exact Code.yields_pure .refl
  rename_i record tracked
  split
  · exact Code.yields_pure .refl
  rename_i due
  rw [Bool.or_eq_true, not_or, Bool.not_eq_true', Bool.not_eq_false] at due
  exact Code.yields_modify (.single (.finishes requestId record snapshot tracked
    (Option.not_isSome_iff_eq_none.mp due.2) (ended due.1)))

/-- The snapshot an operation of the store answers with, if it is terminal, is how the task has
ended. -/
def Ends (requestId : JsString) (r : MessageRouter) (snapshot : Option TaskSnapshot) : Prop :=
  ∀ given, snapshot = some given → isTerminalTaskState given.state = true →
    EndedWith r.taskStore requestId given

theorem Shows.ended (shows : Shows s requestId t snapshot) (filed : Filed s)
    (evolves : Evolves o may s t) (terminal : isTerminalTaskState snapshot.state = true) :
    EndedWith t requestId snapshot := by
  obtain ⟨q, found, same⟩ := shows
  obtain ⟨made, named⟩ := (filed.evolves evolves) requestId q (evolves.records ▸ found)
  exact ⟨q, made, named, same, terminal⟩

section Tasks

variable (retains : Retains c)
include retains

/-- `finishTask`, of a task that has ended if the snapshot says so. -/
theorem turn_finishTask {requestId : JsString} {snapshot : Option TaskSnapshot} (ordered : Ordered r)
    (ends : Ends requestId r snapshot) :
    (finishTask c requestId snapshot).Yields r fun r' _ => Changes c G r r' := by
  unfold finishTask
  cases snapshot with
  | none => exact Code.yields_pure .refl
  | some given =>
    refine Turn.next retains ordered (turn_notifyTaskState requestId given) fun m _ ordered changes => ?_
    split
    · exact Code.yields_pure .refl
    rename_i terminal
    rw [Bool.not_eq_true', Bool.not_eq_false] at terminal
    have ended := (ends given rfl terminal).goOn changes.goOn
    refine Turn.next retains ordered (turn_modify fun _ => ⟨rfl, rfl, rfl, rfl, rfl, rfl⟩) fun m₁ _ ordered changes => ?_
    have replies : ∀ m, Ordered m → Changes c G m₁ m → (do
        replyOnce c requestId given
        finishOutboundRequest requestId given
        pure (some given) : RouterM (Option TaskSnapshot)).Yields m fun r' _ => Changes c G m r' := by
      intro m ordered later
      have ended := (ended.goOn changes.goOn).goOn later.goOn
      refine (turn_replyOnce ordered ended).bind (fun u _ replied => ?_) fun _ _ replied => replied
      refine (turn_finishOutboundRequest fun _ => ended.goOn replied.goOn).bind (fun v _ finished => ?_)
        fun _ _ finished => replied.trans finished
      exact Code.yields_pure (replied.trans finished)
    refine Code.yields_read_bind ?_
    dsimp only
    split
    · exact Turn.next retains ordered (turn_releaseLeaseThen retains (turn_drainQueue retains) requestId _)
        fun m _ ordered later => replies m ordered later
    · refine Turn.next retains ordered (turn_policyCall retains _) fun m _ ordered before => ?_
      refine Turn.next retains ordered (turn_drainQueue retains) fun m _ ordered later => ?_
      exact replies m ordered (before.trans later)

omit retains in
/-- A transition of the store, as the grounds of the turn allow it. -/
theorem yields_storeTransition {requestId : JsString} {outcome : TaskState} {update : TaskTransitionUpdate}
    (ordered : Ordered r)
    (allowed : ∀ q snapshot, isTerminalTaskState snapshot.state = true →
      ConcludingRequest c.storeOptions r.taskStore requestId outcome update q snapshot →
        snapshot.state = .expired ∨ G.concludes r q snapshot) :
    (storeCall (transition c.storeOptions requestId outcome update)).Yields r fun r' result =>
      Changes c G r r' ∧ ∀ snapshot, result = .ok snapshot → Ends requestId r' snapshot := by
  refine yields_storeCall ((yields_transition requestId outcome update).imp fun s result done => ?_)
  obtain ⟨evolves, shows⟩ := done
  refine ⟨.single (.evolves (evolves.imp allowed)), ?_⟩
  rintro snapshot answered given rfl terminal
  cases result with
  | error e => cases answered
  | ok found =>
    cases answered
    exact Shows.ended (shows given rfl).1 ordered.ledger.filed evolves terminal

/-- The task of a request goes on by a transition, and is finished if that ends it. -/
theorem turn_finishTransition {requestId : JsString} {outcome : TaskState} {update : TaskTransitionUpdate}
    (ordered : Ordered r)
    (allowed : ∀ q snapshot, isTerminalTaskState snapshot.state = true →
      ConcludingRequest c.storeOptions r.taskStore requestId outcome update q snapshot →
        snapshot.state = .expired ∨ G.concludes r q snapshot) :
    (do finishTask c requestId (← storeCall (transition c.storeOptions requestId outcome update)) :
      RouterM (Option TaskSnapshot)).Yields r fun r' _ => Changes c G r r' :=
  Turn.then retains ordered (yields_storeTransition ordered allowed)
    fun _ _ ordered _ ends => turn_finishTask retains ordered ends

theorem turn_completeRequest {requestId : JsString} {content : Content} (ordered : Ordered r)
    (host : ∀ r q snapshot, HostConcludes c requestId r q snapshot → G.concludes r q snapshot) :
    (completeRequest c requestId content).Yields r fun r' _ => Changes c G r r' := by
  unfold completeRequest
  refine Code.yields_read_bind ?_
  dsimp only
  have valid : (validExpectedReply c content ((r.inboundRequests.get? requestId).bind (·.expectedResponse))).Yields r
      fun r' result => Aside r r' ∧ (result = .ok true → MeetsRequest c r requestId content) := by
    unfold validExpectedReply
    split
    · rename_i unexpected
      refine Code.yields_pure ⟨.refl r, fun _ record expected tracked contract => ?_⟩
      rw [tracked, Option.bind_some, contract] at unexpected
      cases unexpected
    · rename_i expected contracted
      refine (yields_checkReply content.toJson expected).bind (fun m answer checked => ?_) fun _ _ checked =>
        ⟨checked.1, fun thrown => by cases thrown⟩
      cases answer with
      | failure error => exact Code.yields_pure ⟨checked.1, fun refused => by cases refused⟩
      | success accepted =>
        refine Code.yields_pure ⟨checked.1, fun _ record expected' tracked contract => ?_⟩
        rw [tracked, Option.bind_some, contract] at contracted
        cases contracted
        exact checked.2 accepted rfl
  refine valid.bind (fun m answer checked => ?_) fun _ _ checked => .aside checked.1
  obtain ⟨aside, meets⟩ := checked
  cases answer with
  | false => exact Code.yields_pure (.aside aside)
  | true =>
    have before : Changes c G r m := .aside aside
    refine (turn_finishTransition retains (ordered.changes retains before) ?_).imp fun _ _ after => before.trans after
    rintro q snapshot _ ⟨found, concludes⟩
    refine .inr (host m q snapshot ⟨found, fun _ => ⟨content, concludes, ?_⟩⟩)
    intro record expected tracked
    rw [aside.inboundRequests] at tracked
    exact meets rfl record expected tracked

/-- A transition of the host's to an end that is not a completion. -/
theorem turn_finishHost {requestId : JsString} {outcome : TaskState} {update : TaskTransitionUpdate}
    (incomplete : outcome ≠ .completed) (ordered : Ordered r)
    (host : ∀ r q snapshot, HostConcludes c requestId r q snapshot → G.concludes r q snapshot) :
    (do finishTask c requestId (← storeCall (transition c.storeOptions requestId outcome update)) :
      RouterM (Option TaskSnapshot)).Yields r fun r' _ => Changes c G r r' := by
  refine turn_finishTransition retains ordered fun q snapshot _ concluding => .inr (host r q snapshot ⟨concluding.1, ?_⟩)
  intro completed
  exact (incomplete (concluding.2.state.symm.trans completed)).elim

omit retains in
theorem turn_currentTask (requestId : JsString) : Turn c G (currentTask c requestId) :=
  turn_storeCall (within_getTask requestId ⟨true, none⟩)

omit retains in
/-- What is read of a task that has ended is how it has ended. -/
theorem yields_currentTask (requestId : JsString) (ordered : Ordered r) :
    (currentTask c requestId).Yields r fun r' result =>
      Changes c G r r' ∧ ∀ snapshot, result = .ok snapshot → Ends requestId r' snapshot := by
  refine yields_storeCall ((yields_getTask requestId ⟨true, none⟩).imp fun s result done => ?_)
  obtain ⟨evolves, shows⟩ := done
  refine ⟨.single (.evolves evolves.of_reads), ?_⟩
  rintro snapshot answered given rfl terminal
  cases result with
  | error e => cases answered
  | ok found =>
    cases answered
    obtain ⟨q, here, same⟩ := shows given rfl
    have whole : given = (s.heap q).snapshot := by
      rw [same, projectSnapshot, if_pos (by simp)]
    exact Shows.ended ⟨q, here, whole.symm⟩ ordered.ledger.filed evolves terminal

theorem turn_failRequest {requestId : JsString} {error : ProtocolError} (ordered : Ordered r)
    (host : ∀ r q snapshot, HostConcludes c requestId r q snapshot → G.concludes r q snapshot) :
    (failRequest c requestId error).Yields r fun r' _ => Changes c G r r' :=
  turn_finishHost retains (fun same => by cases same) ordered host

theorem turn_rejectRequest {requestId : JsString} {error : ProtocolError} (ordered : Ordered r)
    (host : ∀ r q snapshot, HostConcludes c requestId r q snapshot → G.concludes r q snapshot) :
    (rejectRequest c requestId error).Yields r fun r' _ => Changes c G r r' :=
  turn_finishHost retains (fun same => by cases same) ordered host

theorem turn_cancelRequest {requestId : JsString} {request : CancellationRequest} (ordered : Ordered r)
    (cancels : ∀ r q snapshot, snapshot.state = .cancelled → G.concludes r q snapshot) :
    (cancelRequest c requestId request).Yields r fun r' _ => Changes c G r r' := by
  unfold cancelRequest
  refine Turn.then retains (P := fun m answer => Ends requestId m (TaskCancellationResult.snapshot? answer)) ordered
    (yields_storeCall ((yields_cancelTask requestId request ordered.ledger.filed).imp fun s result done => ?_))
    fun m answer ordered _ ends => ?_
  · obtain ⟨evolves, shows⟩ := done
    refine ⟨.single (.evolves (evolves.imp fun q snapshot _ cancelling => .inr (cancels r q snapshot cancelling.2))), ?_⟩
    rintro answer answered given shown terminal
    cases result with
    | error e => cases answered
    | ok found =>
      cases answered
      exact Shows.ended (shows _ given rfl shown) ordered.ledger.filed evolves terminal
  · cases answer with
    | success changed state snapshot => exact turn_finishTask retains ordered ends
    | failure code snapshot => exact turn_finishTask retains ordered ends

theorem turn_applyExecutorResult {requestId : JsString} {result : TaskExecutorResult} (ordered : Ordered r)
    (host : ∀ r q snapshot, HostConcludes c requestId r q snapshot → G.concludes r q snapshot) :
    (applyExecutorResult c requestId result).Yields r fun r' _ => Changes c G r r' := by
  unfold applyExecutorResult
  refine Turn.then retains ordered (yields_currentTask requestId ordered) fun m current ordered _ ends => ?_
  cases current with
  | none => exact Code.yields_pure .refl
  | some current =>
    dsimp only
    have ended : ∀ {α : Type} {code : RouterM α}, (code.Yields m fun r' _ => Changes c G m r') →
        (do let _ ← code : RouterM Unit).Yields m fun r' _ => Changes c G m r' := fun yields =>
      yields.bind (fun _ _ changes => Code.yields_pure changes) fun _ _ changes => changes
    split
    · exact ended (turn_finishTask retains ordered ends)
    split
    · exact ended (turn_completeRequest retains ordered host)
    · split
      · exact ended (turn_rejectRequest retains ordered host)
      · exact ended (turn_failRequest retains ordered host)
    · exact Code.yields_pure .refl

theorem turn_handleExecutorFailure {requestId : JsString} (ordered : Ordered r)
    (host : ∀ r q snapshot, HostConcludes c requestId r q snapshot → G.concludes r q snapshot) :
    (handleExecutorFailure c requestId).Yields r fun r' _ => Changes c G r r' := by
  unfold handleExecutorFailure
  refine Turn.then retains ordered (yields_currentTask requestId ordered) fun m current ordered _ ends => ?_
  cases current with
  | none => exact Code.yields_pure .refl
  | some current =>
    dsimp only
    split
    · exact (turn_finishTask retains ordered ends).bind (fun _ _ changes => Code.yields_pure changes)
        fun _ _ changes => changes
    split
    · refine Turn.then retains ordered (yields_storeTransition ordered fun q snapshot _ concluding =>
        .inr (host m q snapshot ⟨concluding.1, fun completed => ?_⟩)) fun _ _ ordered _ ends => ?_
      · rw [concluding.2.state] at completed
        cases completed
      · exact (turn_finishTask retains ordered ends).bind (fun _ _ changes => Code.yields_pure changes)
          fun _ _ changes => changes
    · exact (turn_failRequest retains ordered host).bind (fun _ _ changes => Code.yields_pure changes)
        fun _ _ changes => changes

theorem turn_executorReturned {requestId : JsString} {result : TaskExecutorResult} (ordered : Ordered r)
    (host : ∀ r q snapshot, HostConcludes c requestId r q snapshot → G.concludes r q snapshot) :
    (executorReturned c requestId result).Yields r fun r' _ => Changes c G r r' := by
  unfold executorReturned
  have applies : (attempted (applyExecutorResult c requestId result)).Yields r fun r' _ => Changes c G r r' :=
    Code.Yields.attempt (turn_applyExecutorResult retains ordered host)
  refine applies.bind (fun m outcome changes => ?_) fun _ _ changes => changes
  cases outcome with
  | ok done => exact Code.yields_pure changes
  | error e =>
    exact (turn_handleExecutorFailure retains (ordered.changes retains changes) host).imp fun _ _ more =>
      changes.trans more

omit retains in
theorem turn_expireTask {requestId : JsString} (ordered : Ordered r) :
    (storeCall (expireTask c.storeOptions requestId)).Yields r fun r' result =>
      Changes c G r r' ∧ ∀ snapshot, result = .ok snapshot → Ends requestId r' snapshot := by
  refine yields_storeCall ((yields_expireTask requestId ordered.ledger.filed).imp fun s result done => ?_)
  obtain ⟨evolves, shows⟩ := done
  refine ⟨.single (.evolves evolves.of_reads), ?_⟩
  rintro snapshot answered given rfl terminal
  cases result with
  | error e => cases answered
  | ok found =>
    cases answered
    exact Shows.ended (shows given rfl) ordered.ledger.filed evolves terminal

theorem turn_routerExpiryTimer {requestId : JsString} (ordered : Ordered r) :
    (routerExpiryTimer c requestId).Yields r fun r' _ => Changes c G r r' := by
  unfold routerExpiryTimer
  refine Code.yields_read_bind ?_
  split
  · exact Code.yields_pure .refl
  refine Turn.next retains ordered (turn_modify fun _ => ⟨rfl, rfl, rfl, rfl, rfl, rfl⟩) fun m _ ordered _ => ?_
  refine Turn.next retains ordered (turn_currentTask requestId) fun m current ordered _ => ?_
  cases current with
  | none => exact Code.yields_pure .refl
  | some current =>
    dsimp only
    split
    · exact Code.yields_pure .refl
    · refine Turn.then retains ordered (turn_expireTask ordered) fun _ _ ordered _ ends => ?_
      exact (turn_finishTask retains ordered ends).bind (fun _ _ changes => Code.yields_pure changes)
        fun _ _ changes => changes

end Tasks
end Finishing

section Handlers

section Requests

variable (retains : Retains c)
include retains

theorem turn_inspectOperation (envelope : Json) (inProgress : JsString) :
    Turn c G (inspectOperation c envelope inProgress) := by
  unfold inspectOperation
  refine Turn.bind retains turn_dedupeCall fun existing => ?_
  split
  · exact turn_pure _
  · split
    · exact turn_pure _
    · split
      · exact turn_pure _
      · exact turn_pure _

theorem turn_reserveOperation (envelope : Json) (busy : JsString) :
    Turn c G (reserveOperation c envelope busy) := by
  unfold reserveOperation
  refine Turn.bind retains turn_dedupeCall fun decision => ?_
  split
  · exact turn_pure _
  · exact turn_pure _

theorem turn_releaseReservation (reservation : DedupeReservation) :
    Turn c G (releaseReservation reservation) :=
  Turn.bind retains turn_dedupeCall fun _ => turn_pure _

omit retains in
theorem yields_commitReservation (reservation : DedupeReservation) (response : Validation.OperationResponse)
    (task : Option JsString) :
    (commitReservation reservation response task).Yields r fun r' _ => ∃ dedupeStore, r' = { r with dedupeStore } :=
  yields_dedupeCall.bind (fun _ _ same => Code.yields_pure same) fun _ _ same => same

theorem turn_commitReservation (reservation : DedupeReservation) (response : Validation.OperationResponse)
    (task : Option JsString) : Turn c G (commitReservation reservation response task) :=
  Turn.bind retains turn_dedupeCall fun _ => turn_pure _

theorem turn_scheduleRouterExpiry (requestId expiresAt : JsString) :
    Turn c G (scheduleRouterExpiry c requestId expiresAt) := by
  unfold scheduleRouterExpiry
  refine turn_read_bind fun r ordered => ?_
  split
  · exact turn_pure () r ordered
  · refine Turn.next retains ordered turn_wallNow fun m _ ordered _ => ?_
    exact Code.yields_modify (.aside ⟨rfl, rfl, rfl, rfl, rfl, rfl⟩)

/-- The request is taken up once its task is made and its answer is remembered. -/
theorem turn_admitTask {envelope : Json} {accepted : Bool} {s : TaskStore} {snapshot : TaskSnapshot}
    (admission : Policy.QueueAdmissionDecision) (reservation : DedupeReservation) (ordered : Ordered r)
    (grounds : G.accepts envelope)
    (made : Creates c.storeOptions (inboundTask c envelope accepted) r.taskStore s)
    (free : r.taskStore.find (Envelope.requestId envelope) = none)
    (filed : s.find (Envelope.requestId envelope) = some r.taskStore.nextRecord) :
    (admitTask c envelope admission reservation snapshot).Yields { r with taskStore := s }
      fun r' _ => Changes c G r r' := by
  have makes : Change c G r { r with taskStore := s } :=
    .makes _ (.inl ⟨envelope, accepted, grounds, rfl⟩) made
  unfold admitTask
  refine (yields_commitReservation _ _ _).bind (fun m _ committed => ?_) fun m _ committed => ?_
  · obtain ⟨dedupeStore, rfl⟩ := committed
    refine Code.yields_modify_bind ?_
    have admits : Change c G r { r with
        taskStore := s
        dedupeStore
        inboundRequests := r.inboundRequests.set (Envelope.requestId envelope) ⟨envelope, false⟩ } :=
      .admits envelope accepted grounds made free filed
    have taken := ordered.change retains admits
    refine (Turn.next retains taken (turn_scheduleRouterExpiry retains _ _) fun m _ ordered _ => ?_).imp
      fun _ _ more => ReflTransGen.head admits more
    split
    · exact Code.yields_pure .refl
    · refine Turn.next retains ordered (turn_modify fun _ => ⟨rfl, rfl, rfl, rfl, rfl, rfl⟩) fun m _ ordered _ => ?_
      exact Turn.next retains ordered (turn_dispatchLeaseThen retains (turn_drainQueue retains) _ _)
        fun m _ _ _ => Code.yields_pure .refl
  · obtain ⟨dedupeStore, rfl⟩ := committed
    exact (ReflTransGen.single makes).tail (.aside ⟨rfl, rfl, rfl, rfl, rfl, rfl⟩)

theorem turn_reserveRequest {envelope : Json} (admission : Policy.QueueAdmissionDecision)
    (grounds : G.accepts envelope) : Turn c G (reserveRequest c envelope admission) := by
  unfold reserveRequest
  refine Turn.bind retains turn_dedupeCall fun decision => ?_
  split
  · exact Turn.bind retains (turn_releaseAdmission admission) fun _ => turn_pure _
  · exact Turn.bind retains (turn_releaseAdmission admission) fun _ => turn_pure _
  rename_i reservation _ _
  intro r ordered
  have creates : (attempted (storeCall (createTask c.storeOptions
      (inboundTask c envelope (admittedLease admission).isSome)))).Yields r fun r' result =>
        ∃ s, r' = { r with taskStore := s } ∧
          Creates c.storeOptions (inboundTask c envelope (admittedLease admission).isSome) r.taskStore s ∧
            ∀ snapshot, result = .ok (.ok snapshot) → s.find (Envelope.requestId envelope) = some r.taskStore.nextRecord ∧
              r.taskStore.find (Envelope.requestId envelope) = none := by
    refine Code.Yields.attempt (yields_storeCall ((yields_createTask _).imp fun s result done => ⟨s, rfl, done.1, ?_⟩))
    intro snapshot given
    cases result with
    | error e => cases given
    | ok made => exact done.2 made rfl
  refine creates.bind (fun m outcome done => ?_) fun m _ done => ?_
  · obtain ⟨s, rfl, made, filed⟩ := done
    cases outcome with
    | ok snapshot =>
      obtain ⟨filed, free⟩ := filed snapshot rfl
      exact turn_admitTask retains admission reservation ordered grounds made free filed
    | error e =>
      have makes : Change c G r { r with taskStore := s } :=
        .makes _ (.inl ⟨envelope, _, grounds, rfl⟩) made
      refine (Turn.next retains (ordered.change retains makes) (turn_releaseReservation retains reservation)
        fun m _ ordered _ => Turn.next retains ordered (turn_releaseAdmission admission)
          fun _ _ _ _ => Code.yields_pure .refl).imp fun _ _ more => ReflTransGen.head makes more
  · obtain ⟨s, rfl, made, _⟩ := done
    exact .single (.makes _ (.inl ⟨envelope, _, grounds, rfl⟩) made)

theorem turn_processMessageRequest {envelope : Json} (grounds : G.accepts envelope) :
    Turn c G (processMessageRequest c envelope) := by
  unfold processMessageRequest
  refine Turn.bind retains (turn_inspectOperation retains _ _) fun inspected => ?_
  split
  · exact turn_pure _
  refine turn_read_bind fun r ordered => ?_
  split
  · exact turn_pure _ r ordered
  refine Turn.next retains ordered (turn_admitRequest retains envelope) fun m admission ordered _ => ?_
  split
  · exact turn_pure _ m ordered
  · exact turn_reserveRequest retains admission grounds m ordered

theorem turn_processMessageNotify (envelope : Json) : Turn c G (processMessageNotify c envelope) := by
  unfold processMessageNotify
  split
  · exact turn_pure _
  refine Turn.bind retains (turn_inspectOperation retains _ _) fun inspected => ?_
  split
  · exact turn_pure _
  refine Turn.bind retains (turn_reserveOperation retains _ _) fun reserved => ?_
  split
  · exact turn_pure _
  · exact Turn.bind retains (turn_modify fun _ => ⟨rfl, rfl, rfl, rfl, rfl, rfl⟩) fun _ => turn_pure _

theorem turn_notified (notification : Notification) (threw : Bool) :
    Turn c G (notified c notification threw) := by
  unfold notified notificationHandled
  dsimp only
  refine Turn.bind retains (Turn.attempted (Turn.bind retains (turn_commitReservation retains _ _ _)
    fun _ => turn_pure _)) fun outcome => ?_
  split
  · exact turn_pure _
  · exact turn_pure _

theorem turn_processTaskStatus (envelope : Json) : Turn c G (processTaskStatus c envelope) := by
  unfold processTaskStatus
  have metadata : (getRecordMetadata c.storeOptions (Envelope.requestId envelope)).Within
      (Evolves c.storeOptions OnlyExpires) := fun s => (yields_getRecordMetadata _).imp fun _ _ done => done.1
  refine Turn.bind retains (turn_storeCall metadata) fun task => ?_
  split
  · exact turn_pure _
  refine Turn.bind retains (turn_storeCall (within_getStatusResult _ _)) fun status => ?_
  split
  · exact turn_pure _
  · exact turn_pure _

theorem turn_processTaskCancel {envelope : Json} (ordered : Ordered r)
    (cancels : ∀ r q snapshot, snapshot.state = .cancelled → G.concludes r q snapshot) :
    (processTaskCancel c envelope).Yields r fun r' _ => Changes c G r r' := by
  unfold processTaskCancel
  split
  · exact Code.yields_pure .refl
  refine Turn.next retains ordered (turn_inspectOperation retains _ _) fun m inspected ordered _ => ?_
  cases inspected with
  | some response => exact Code.yields_pure .refl
  | none =>
    refine Turn.next retains ordered (turn_reserveOperation retains _ _) fun m reserved ordered _ => ?_
    cases reserved with
    | inl response => exact Code.yields_pure .refl
    | inr reservation =>
      dsimp only
      refine Turn.then retains (P := fun m answer => Ends (Envelope.requestId envelope) m
        (TaskCancellationResult.snapshot? answer)) ordered
        (yields_storeCall ((yields_cancelTask _ _ ordered.ledger.filed).imp fun s result done => ?_))
        fun m answer ordered _ ends => ?_
      · obtain ⟨evolves, shows⟩ := done
        refine ⟨.single (.evolves (evolves.imp fun q snapshot _ cancelling => .inr (cancels m q snapshot cancelling.2))), ?_⟩
        rintro answer answered given shown terminal
        cases result with
        | error e => cases answered
        | ok found =>
          cases answered
          exact Shows.ended (shows _ given rfl shown) ordered.ledger.filed evolves terminal
      · cases answer with
        | failure code snapshot =>
          exact Turn.next retains ordered (turn_releaseReservation retains reservation)
            fun _ _ _ _ => Code.yields_pure .refl
        | success changed state snapshot =>
          have commits : ∀ m, Ordered m → (do
              let response := successResponse c envelope [("snapshot", snapshot.toJson)]
              commitReservation reservation response (some (Envelope.requestId envelope))
              return response : RouterM Validation.OperationResponse).Yields m fun r' _ => Changes c G m r' :=
            fun m ordered => Turn.next retains ordered (turn_commitReservation retains _ _ _)
              fun _ _ _ _ => Code.yields_pure .refl
          dsimp only
          split
          · refine (turn_finishTask retains ordered ends).bind (fun m' _ changes => ?_) fun _ _ changes => changes
            exact (commits m' (ordered.changes retains changes)).imp fun _ _ more => changes.trans more
          · exact commits m ordered

end Requests

section Replies

/-- Who may end a task of this router's by this reply. -/
structure MayReply (c : RouterConfig) (envelope : Json) (task : StoredTask) : Prop where
  outbound : task.ownership = .outbound
  target : ∀ target, task.expectedTargetRuntimeId = some target → target = Envelope.senderRuntimeId envelope
  fits : replyOutcome envelope = some .completed → ∀ contract, task.responseContract = some contract →
    Fits c ((Envelope.payload envelope).member "content") contract.toJson

/-- What a reply says of a task that ends with this outcome. -/
def replyUpdate (envelope : Json) : TaskState → TaskTransitionUpdate
  | .completed => contentUpdate (Content.ofJson ((Envelope.payload envelope).member "content"))
  | .cancelled => cancelledReplyUpdate envelope
  | _ => errorUpdate (ProtocolError.ofJson ((Envelope.payload envelope).member "error"))

/-- How a reply may end a task. -/
structure ReplyConcludes (c : RouterConfig) (envelope : Json) (r : MessageRouter) (q : RecordId)
    (snapshot : TaskSnapshot) : Prop where
  found : r.taskStore.find (Envelope.requestId envelope) = some q
  allowed : MayReply c envelope (r.taskStore.heap q)
  told : ∃ outcome, replyOutcome envelope = some outcome ∧
    Concludes c.storeOptions outcome (replyUpdate envelope outcome) snapshot

theorem MayReply.same (may : MayReply c envelope task) (same : SameIdentity task task') :
    MayReply c envelope task' where
  outbound := same.ownership.trans may.outbound
  target target expected := may.target target (same.expectedTargetRuntimeId.symm.trans expected)
  fits completed contract asked := may.fits completed contract (same.responseContract.symm.trans asked)

/-- What a task is made with is true of it as long as it is kept. -/
theorem HasTask.goOn {holds : StoredTask → Prop} (has : HasTask s requestId holds) (goOn : TasksGoOn s t)
    (stable : ∀ task task', SameIdentity task task' → holds task → holds task') : HasTask t requestId holds := by
  obtain ⟨q, made, named, held⟩ := has
  have same := goOn.identity q made
  exact ⟨q, made.trans_le goOn.nextRecord, same.requestId.trans named, stable _ _ same held⟩

/-- A request id has one task. -/
theorem HasTask.of_find {holds : StoredTask → Prop} (has : HasTask s requestId holds) (ledger : Ledger s)
    (found : s.find requestId = some q) : holds (s.heap q) := by
  obtain ⟨q', made', named', held⟩ := has
  obtain ⟨made, named⟩ := ledger.filed requestId q found
  rw [ledger.distinct q made q' made' (named.trans named'.symm)]
  exact held

theorem replyRefusal_none {envelope : Json} {binding : Option Json} {task : Option StoredTask}
    {outbound : Option OutboundRequestRecord} (passed : replyRefusal c envelope binding task outbound = none) :
    ∃ found, task = some found ∧ found.ownership = .outbound ∧ ∀ target,
      found.expectedTargetRuntimeId = some target → target = Envelope.senderRuntimeId envelope := by
  unfold replyRefusal at passed
  split at passed
  · cases passed
  rename_i found
  dsimp only at passed
  split at passed
  · cases passed
  rename_i owned
  split at passed
  · cases passed
  rename_i bound
  refine ⟨found, rfl, not_ne_iff.mp owned, fun target expected => ?_⟩
  rw [expected, Option.some_or] at bound
  simp only [ne_eq, Option.some.injEq, decide_not, Bool.or_eq_true, Bool.not_eq_true', decide_eq_false_iff_not,
    not_or, not_not] at bound
  exact bound.1

variable (retains : Retains c)
include retains

omit retains in
theorem yields_replyContract (envelope : Json) (task : StoredTask) :
    (replyContract c envelope task).Yields r fun r' result => Aside r r' ∧ (result = .ok none →
      replyOutcome envelope = some .completed → ∀ contract, task.responseContract = some contract →
        Fits c ((Envelope.payload envelope).member "content") contract.toJson) := by
  unfold replyContract
  split
  · rename_i uncontracted
    refine Code.yields_pure ⟨.refl r, fun _ _ contract asked => ?_⟩
    rw [uncontracted] at asked
    cases asked
  · rename_i contract contracted
    split
    · rename_i otherwise
      exact Code.yields_pure ⟨.refl r, fun _ completed => (otherwise completed).elim⟩
    · refine (yields_checkReply _ _).bind (fun m answer checked => ?_) fun _ _ checked =>
        ⟨checked.1, fun thrown => by cases thrown⟩
      cases answer with
      | failure error => exact Code.yields_pure ⟨checked.1, fun refused => by cases refused⟩
      | success accepted =>
        refine Code.yields_pure ⟨checked.1, fun _ _ contract' asked => ?_⟩
        rw [contracted] at asked
        cases asked
        exact checked.2 accepted rfl

omit retains in
/-- The transition on the way to the end of a task concludes nothing. -/
theorem turn_liveTransition {requestId : JsString} {outcome : TaskState} {update : TaskTransitionUpdate}
    (live : isTerminalTaskState outcome = false) :
    Turn c G (storeCall (transition c.storeOptions requestId outcome update)) := by
  intro r ordered
  refine (yields_storeTransition ordered fun q snapshot terminal concluding => ?_).imp fun _ _ done => done.1
  rw [concluding.2.state, live] at terminal
  cases terminal

theorem turn_prepareReply (requestId : JsString) (current : TaskSnapshot) :
    Turn c G (prepareReply c requestId current) := by
  unfold prepareReply
  have works : ∀ current : TaskSnapshot, Turn c G (do
      if current.state = .accepted ∨ current.state = .queued then
        let _ ← storeCall (transition c.storeOptions requestId .working .empty) : RouterM Unit) := by
    intro current
    split
    · exact Turn.bind retains (turn_liveTransition rfl) fun _ => turn_pure ()
    · exact turn_pure ()
  dsimp only
  split
  · refine Turn.bind retains (turn_liveTransition rfl) fun _ => ?_
    refine Turn.bind retains (turn_storeCall (within_getTask requestId ⟨true, none⟩)) fun found => ?_
    exact Turn.bind retains (turn_pure _) fun current => works current
  · exact Turn.bind retains (turn_pure _) fun current => works current

omit retains in
theorem HasTask.changes (has : HasTask r.taskStore requestId (MayReply c envelope)) (changes : Changes c G r r') :
    HasTask r'.taskStore requestId (MayReply c envelope) :=
  has.goOn changes.goOn fun _ _ same may => may.same same

omit retains in
/-- The transition to the outcome of a reply ends the task as the reply says. -/
theorem yields_replyTransition {envelope : Json} {outcome : TaskState} (ordered : Ordered r)
    (may : HasTask r.taskStore (Envelope.requestId envelope) (MayReply c envelope))
    (told : replyOutcome envelope = some outcome)
    (replies : ∀ r q snapshot, ReplyConcludes c envelope r q snapshot → G.concludes r q snapshot) :
    (storeCall (transition c.storeOptions (Envelope.requestId envelope) outcome
      (replyUpdate envelope outcome))).Yields r fun r' result =>
        Changes c G r r' ∧ ∀ snapshot, result = .ok snapshot → Ends (Envelope.requestId envelope) r' snapshot :=
  yields_storeTransition ordered fun q snapshot _ concluding =>
    .inr (replies r q snapshot ⟨concluding.1, may.of_find ordered.ledger concluding.1, outcome, told, concluding.2⟩)

theorem yields_applyReply {envelope : Json} (ordered : Ordered r)
    (may : HasTask r.taskStore (Envelope.requestId envelope) (MayReply c envelope))
    (replies : ∀ r q snapshot, ReplyConcludes c envelope r q snapshot → G.concludes r q snapshot) :
    (applyReply c envelope).Yields r fun r' result => Changes c G r r' ∧
      ∀ snapshot, result = .ok snapshot → Ends (Envelope.requestId envelope) r' snapshot := by
  unfold applyReply
  dsimp only
  split
  · rename_i told
    exact yields_replyTransition ordered may told replies
  · rename_i told
    exact yields_replyTransition ordered may told replies
  · rename_i told
    exact yields_replyTransition ordered may told replies
  · rename_i told
    have cancels : ∀ m, Ordered m → Changes c G r m →
        (storeCall (transition c.storeOptions (Envelope.requestId envelope) .cancelled
          (cancelledReplyUpdate envelope))).Yields m fun r' result => Changes c G r r' ∧
            ∀ snapshot, result = .ok snapshot → Ends (Envelope.requestId envelope) r' snapshot := by
      intro m ordered changes
      refine (yields_replyTransition ordered (may.changes changes) told replies).imp fun _ _ done => ?_
      exact ⟨changes.trans done.1, done.2⟩
    refine (turn_storeCall (within_getTask _ ⟨true, none⟩) r ordered).bind (fun m current changes => ?_)
      fun _ _ changes => ⟨changes, fun _ thrown => by cases thrown⟩
    have ordered := ordered.changes retains changes
    split
    · refine (turn_liveTransition rfl m ordered).bind (fun u _ more => ?_)
        fun _ _ more => ⟨changes.trans more, fun _ thrown => by cases thrown⟩
      exact cancels u (ordered.changes retains more) (changes.trans more)
    · exact cancels m ordered changes
  · exact turn_expireTask ordered

theorem turn_settleReply {envelope : Json} (reservation : DedupeReservation) (ordered : Ordered r)
    (may : HasTask r.taskStore (Envelope.requestId envelope) (MayReply c envelope))
    (replies : ∀ r q snapshot, ReplyConcludes c envelope r q snapshot → G.concludes r q snapshot) :
    (settleReply c envelope reservation).Yields r fun r' _ => Changes c G r r' := by
  unfold settleReply
  have releases : ∀ answer : Validation.OperationResponse, Turn c G (do
      releaseReservation reservation
      return answer) := fun answer =>
    Turn.bind retains (turn_releaseReservation retains reservation) fun _ => turn_pure answer
  refine Turn.next retains ordered (turn_currentTask _) fun m current ordered before => ?_
  cases current with
  | none => exact releases _ m ordered
  | some current =>
    dsimp only
    split
    · exact releases _ m ordered
    refine Turn.next retains ordered (turn_prepareReply retains _ _) fun m _ ordered later => ?_
    have may := may.changes (before.trans later)
    refine Turn.then retains ordered (yields_applyReply retains ordered may replies) fun m snapshot ordered _ ends => ?_
    split
    · exact releases _ m ordered
    · rename_i snapshot' kept
      obtain ⟨shown, terminal⟩ := Option.filter_eq_some_iff.mp kept
      refine (turn_finishOutboundRequest fun terminal => ends snapshot' shown terminal).bind
        (fun u _ finished => ?_) fun _ _ finished => finished
      refine (Turn.next retains (ordered.changes retains finished) (turn_commitReservation retains _ _ _)
        fun _ _ _ _ => Code.yields_pure .refl).imp fun _ _ more => finished.trans more

theorem turn_processMessageReply {envelope : Json} {binding : Option Json} (ordered : Ordered r)
    (replies : ∀ r q snapshot, ReplyConcludes c envelope r q snapshot → G.concludes r q snapshot) :
    (processMessageReply c envelope binding).Yields r fun r' _ => Changes c G r r' := by
  unfold processMessageReply
  dsimp only
  have reads : (storeCall (getRecordMetadata c.storeOptions (Envelope.requestId envelope))).Yields r
      fun r' result => Changes c G r r' ∧ ∀ task, result = .ok task → ∀ found, task = some found →
        HasTask r'.taskStore (Envelope.requestId envelope) (· = found) := by
    refine yields_storeCall ((yields_getRecordMetadata _).imp fun s result done => ?_)
    obtain ⟨evolves, reads⟩ := done
    refine ⟨.single (.evolves evolves.of_reads), ?_⟩
    rintro task answered found rfl
    cases result with
    | error e => cases answered
    | ok given =>
      cases answered
      obtain ⟨q, here, same⟩ := Option.map_eq_some_iff.mp (reads _ rfl).symm
      obtain ⟨made, named⟩ := (ordered.ledger.filed.evolves evolves) _ q ((evolves.find _).trans here)
      exact ⟨q, made, named, same⟩
  refine Turn.then retains ordered reads fun m task ordered _ held => ?_
  refine Code.yields_read_bind ?_
  split
  · exact Code.yields_pure .refl
  · exact Code.yields_pure .refl
  rename_i task passed
  obtain ⟨_, ⟨⟩, outbound, target⟩ := replyRefusal_none passed
  refine (yields_replyContract envelope task).bind (fun u refused checked => ?_) fun _ _ checked => .aside checked.1
  obtain ⟨aside, fits⟩ := checked
  have before : Changes c G m u := .aside aside
  cases refused with
  | some error => exact Code.yields_pure before
  | none =>
    obtain ⟨q, made, named, same⟩ := held task rfl
    have may : HasTask m.taskStore (Envelope.requestId envelope) (MayReply c envelope) := by
      refine ⟨q, made, named, ?_⟩
      rw [same]
      exact ⟨outbound, target, fits rfl⟩
    refine (Turn.next retains (ordered.changes retains before) (turn_inspectOperation retains _ _)
      fun v inspected ordered later => ?_).imp fun _ _ more => before.trans more
    cases inspected with
    | some response => exact Code.yields_pure .refl
    | none =>
      refine Turn.next retains ordered (turn_reserveOperation retains _ _) fun w reserved ordered last => ?_
      cases reserved with
      | inl response => exact Code.yields_pure .refl
      | inr reservation =>
        exact turn_settleReply retains reservation ordered
          (may.changes ((before.trans later).trans last)) replies

end Replies

section Events

/-- An operation that has arrived, and been let in and found valid. -/
def Received (c : RouterConfig) (raw : RawInbound) (binding : Option Json)
    (authentication : Option (Option AuthenticatedBinding)) (envelope : Json) : Prop :=
  authorizeInbound c raw.fields binding authentication = none ∧
    ∃ now, validateInbound c now raw = .ok (.success envelope)

/-- An envelope of this runtime that is found valid. -/
def Sendable (c : RouterConfig) (envelope : Json) : Prop :=
  Envelope.roomId envelope = c.roomId ∧ Envelope.senderRuntimeId envelope = c.runtimeId ∧
    ∃ now, Validation.validateEnvelope c.host c.schemaHost (envelopeOptions c now) envelope = .ok (.success envelope)

/-- What the turn of an event may do. -/
def groundsOf (c : RouterConfig) (r : MessageRouter) : RouterEvent → Grounds
  | .inbound raw binding authentication =>
    { Grounds.none with
      concludes := fun r q snapshot => snapshot.state = .cancelled ∨ ∃ envelope,
        Received c raw binding authentication envelope ∧
          Envelope.operation? envelope = some .messageReply ∧ ReplyConcludes c envelope r q snapshot
      accepts := fun envelope => Received c raw binding authentication envelope ∧
        Envelope.operation? envelope = some .messageRequest }
  | .sendRequest envelope =>
    { Grounds.none with
      registers := fun registered => registered = envelope ∧ Sendable c envelope
      sends := fun sent => sent = envelope ∧ Sendable c envelope }
  | .sendEnvelope envelope => { Grounds.none with sends := fun sent => sent = envelope ∧ Sendable c envelope }
  | .completeTask requestId _ | .failTask requestId _ | .rejectTask requestId _ =>
    { Grounds.none with concludes := HostConcludes c requestId }
  | .executorReturned index _ | .executorThrew index =>
    { Grounds.none with
      concludes := fun m q snapshot => ∃ execution, r.executions[index]? = some execution ∧
        execution.phase = .running ∧ HostConcludes c execution.requestId m q snapshot }
  | .cancelTask _ _ => { Grounds.none with concludes := fun _ _ snapshot => snapshot.state = .cancelled }
  | _ => Grounds.none

variable (retains : Retains c)
include retains

theorem turn_dispatchEnvelope {envelope : Json} {binding : Option Json} (ordered : Ordered r)
    (accepts : Envelope.operation? envelope = some .messageRequest → G.accepts envelope)
    (replies : Envelope.operation? envelope = some .messageReply →
      ∀ r q snapshot, ReplyConcludes c envelope r q snapshot → G.concludes r q snapshot)
    (cancels : ∀ r q snapshot, snapshot.state = .cancelled → G.concludes r q snapshot) :
    (dispatchEnvelope c envelope binding).Yields r fun r' _ => Changes c G r r' := by
  have answers : ∀ {code : RouterM Validation.OperationResponse}, (code.Yields r fun r' _ => Changes c G r r') →
      (do return some (← code) : RouterM (Option Validation.OperationResponse)).Yields r
        fun r' _ => Changes c G r r' := fun yields =>
    yields.bind (fun _ _ changes => Code.yields_pure changes) fun _ _ changes => changes
  unfold dispatchEnvelope
  split
  · exact Code.yields_pure .refl
  · rename_i named
    exact answers (turn_processMessageRequest retains (accepts named) r ordered)
  · rename_i named
    exact answers (turn_processMessageReply retains ordered (replies named))
  · exact turn_processMessageNotify retains envelope r ordered
  · exact answers (turn_processTaskStatus retains envelope r ordered)
  · exact answers (turn_processTaskCancel retains ordered cancels)
  · exact Code.yields_pure .refl

theorem turn_processInbound {raw : RawInbound} {binding : Option Json}
    {authentication : Option (Option AuthenticatedBinding)} (s : MessageRouter) (ordered : Ordered r) :
    (processInbound c raw binding authentication).Yields r fun r' _ =>
      Changes c (groundsOf c s (.inbound raw binding authentication)) r r' := by
  unfold processInbound
  split
  · exact Code.yields_pure .refl
  rename_i authorized
  refine Turn.next retains ordered turn_wallNow fun m now ordered _ => ?_
  have validates : (Code.ofExcept ((validateInbound c now raw).mapError .rangeError) :
      RouterM (Validation.ValidationResult Json)).Yields m fun r' result =>
        r' = m ∧ ∀ envelope, result = .ok (.success envelope) → Received c raw binding authentication envelope := by
    refine Code.yields_ofExcept ⟨rfl, fun envelope passed => ⟨authorized, now, ?_⟩⟩
    cases checked : validateInbound c now raw with
    | error message =>
      rw [checked] at passed
      cases passed
    | ok answer =>
      rw [checked] at passed
      cases passed
      rfl
  refine validates.bind (fun m' answer done => ?_) fun m' _ done => done.1 ▸ .refl
  obtain ⟨rfl, received⟩ := done
  cases answer with
  | failure error => exact Code.yields_pure .refl
  | success envelope =>
    have received := received envelope rfl
    have dispatched : (attempted (dispatchEnvelope c envelope binding)).Yields m' fun r' _ =>
        Changes c (groundsOf c s (.inbound raw binding authentication)) m' r' := by
      refine Code.Yields.attempt (turn_dispatchEnvelope retains ordered ?_ ?_ ?_)
      · exact fun named => ⟨received, named⟩
      · exact fun named r q snapshot concludes => .inr ⟨envelope, received, named, concludes⟩
      · exact fun r q snapshot cancelled => .inl cancelled
    refine dispatched.bind (fun u outcome changes => ?_) fun _ _ changes => changes
    split
    · exact Code.yields_pure changes
    · exact Code.yields_pure changes

theorem yields_validateOutbound {envelope : Json} (ordered : Ordered r) :
    (validateOutbound c envelope).Yields r fun r' result => Changes c G r r' ∧
      ∀ answer, result = .ok answer → ∀ valid, answer = .success valid → valid = envelope ∧ Sendable c envelope := by
  have refused : ∀ error, (pure (.failure error) : RouterM (Validation.ValidationResult Json)).Yields r
      fun r' result => Changes c G r r' ∧ ∀ answer, result = .ok answer → ∀ valid, answer = .success valid →
        valid = envelope ∧ Sendable c envelope := by
    refine fun error => Code.yields_pure ⟨.refl, ?_⟩
    rintro _ ⟨⟩ valid given
    cases given
  unfold validateOutbound
  split
  · exact refused _
  rename_i here
  split
  · exact refused _
  rename_i own
  have validates : ∀ (late : Bool) (m : MessageRouter), Ordered m → Changes c G r m → ((if late then
      return .failure (createProtocolError .malformed "reply deadline exceeds request deadline")
    else do
      let now ← wallNow
      Code.ofExcept ((Validation.validateEnvelope c.host c.schemaHost (envelopeOptions c now) envelope).mapError
        .rangeError)) : RouterM (Validation.ValidationResult Json)).Yields m fun r' result => Changes c G r r' ∧
          ∀ answer, result = .ok answer → ∀ valid, answer = .success valid → valid = envelope ∧ Sendable c envelope := by
    intro late m ordered changes
    split
    · refine Code.yields_pure ⟨changes, ?_⟩
      rintro _ ⟨⟩ valid given
      cases given
    refine (turn_wallNow m ordered).bind (fun u now more => Code.yields_ofExcept ⟨changes.trans more, ?_⟩)
      fun _ _ more => ⟨changes.trans more, fun _ thrown => by cases thrown⟩
    rintro answer passed valid rfl
    cases checked : Validation.validateEnvelope c.host c.schemaHost (envelopeOptions c now) envelope with
    | error message =>
      rw [checked] at passed
      cases passed
    | ok answer =>
      rw [checked] at passed
      cases passed
      have same := Validation.validateEnvelope_value checked
      subst same
      exact ⟨rfl, not_ne_iff.mp here, not_ne_iff.mp own, now, checked⟩
  have metadata : Turn c G (storeCall (getRecordMetadata c.storeOptions (Envelope.requestId envelope))) :=
    turn_storeCall fun s => (yields_getRecordMetadata _).imp fun _ _ done => done.1
  dsimp only
  split
  · refine (metadata r ordered).bind (fun m task changes => ?_) fun _ _ changes =>
      ⟨changes, fun _ thrown => by cases thrown⟩
    exact validates _ m (ordered.changes retains changes) changes
  · refine Code.Yields.bind (P := fun m _ => m = r) (Code.yields_pure rfl) (fun m task same => ?_)
      fun m _ same => ⟨same ▸ .refl, fun _ thrown => by cases thrown⟩
    subst same
    exact validates _ m ordered .refl

theorem turn_registerOutboundRequest {envelope : Json} (ordered : Ordered r)
    (registers : Sendable c envelope → G.registers envelope) :
    (registerOutboundRequest c envelope).Yields r fun r' _ => Changes c G r r' := by
  unfold registerOutboundRequest
  refine Code.yields_read_bind ?_
  split
  · exact Code.yields_throw .refl
  refine Turn.then retains ordered (yields_validateOutbound retains ordered) fun m answer ordered _ valid => ?_
  cases answer with
  | failure error => exact Code.yields_throw .refl
  | success accepted =>
    obtain ⟨rfl, sendable⟩ := valid accepted rfl
    have grounds := registers sendable
    have creates : (storeCall (createTask c.storeOptions (outboundTask c accepted))).Yields m fun r' result =>
        ∃ s, r' = { m with taskStore := s } ∧ Creates c.storeOptions (outboundTask c accepted) m.taskStore s ∧
          ∀ snapshot, result = .ok snapshot → s.find (Envelope.requestId accepted) = some m.taskStore.nextRecord ∧
            m.taskStore.find (Envelope.requestId accepted) = none := by
      refine yields_storeCall ((yields_createTask _).imp fun s result done => ⟨s, rfl, done.1, ?_⟩)
      intro snapshot given
      cases result with
      | error e => cases given
      | ok made => exact done.2 made rfl
    refine creates.bind (fun u snapshot done => ?_) fun u _ done => ?_
    · obtain ⟨s, rfl, made, filed⟩ := done
      obtain ⟨filed, free⟩ := filed snapshot rfl
      exact Code.yields_modify (.single (.registers accepted grounds made free filed))
    · obtain ⟨s, rfl, made, _⟩ := done
      exact .single (.makes _ (.inr ⟨accepted, grounds, rfl⟩) made)

theorem turn_sendEnvelope {envelope : Json} (ordered : Ordered r) (sends : Sendable c envelope → G.sends envelope) :
    (sendEnvelope c envelope).Yields r fun r' _ => Changes c G r r' := by
  unfold sendEnvelope
  refine Code.yields_read_bind ?_
  split
  · exact Code.yields_throw .refl
  refine Turn.then retains ordered (yields_validateOutbound retains ordered) fun m answer ordered _ valid => ?_
  cases answer with
  | failure error => exact Code.yields_throw .refl
  | success accepted =>
    obtain ⟨rfl, sendable⟩ := valid accepted rfl
    exact Code.yields_modify (.single (.sends accepted (sends sendable)))

theorem turn_sendRequest {envelope : Json} (ordered : Ordered r)
    (registers : Sendable c envelope → G.registers envelope) (sends : Sendable c envelope → G.sends envelope) :
    (sendRequest c envelope).Yields r fun r' _ => Changes c G r r' := by
  unfold sendRequest
  refine Code.yields_read_bind ?_
  split
  · exact Code.yields_throw .refl
  dsimp only
  split
  · refine (turn_registerOutboundRequest retains ordered registers).bind (fun m _ changes => ?_)
      fun _ _ changes => changes
    exact (turn_sendEnvelope retains (ordered.changes retains changes) sends).imp fun _ _ more => changes.trans more
  · exact turn_sendEnvelope retains ordered sends

theorem turn_applyAdmission {requestId : JsString} {queued : Bool} (ordered : Ordered r) :
    (applyAdmission c requestId queued).Yields r fun r' _ => Changes c G r r' := by
  unfold applyAdmission
  refine Code.yields_read_bind ?_
  split
  · exact Code.yields_pure .refl
  rename_i record tracked
  -- the transitions of the task leave the record in place
  have goesOn : ∀ (outcome : TaskState) (m : MessageRouter), isTerminalTaskState outcome = false → Ordered m →
      m.outboundRequests = r.outboundRequests → (storeCall (transition c.storeOptions requestId outcome .empty)).Yields m
        fun r' _ => Changes c G m r' ∧ r'.outboundRequests = r.outboundRequests := by
    intro outcome m live ordered same
    refine yields_storeCall ((yields_transition requestId outcome .empty).imp fun s _ done => ⟨?_, same⟩)
    refine .single (.evolves (done.1.imp fun q snapshot terminal concluding => ?_))
    rw [concluding.2.state, live] at terminal
    cases terminal
  have resolves : ∀ m, m.outboundRequests = r.outboundRequests → (Code.modify fun router => { router with
      outboundRequests := router.outboundRequests.set requestId { record with admissionResolved := true } } :
        RouterM Unit).Yields m fun r' _ => Changes c G m r' := fun m same =>
    Code.yields_modify (.single (.resolves requestId record (same ▸ tracked)))
  refine (goesOn .accepted r rfl ordered rfl).bind (fun m _ done => ?_) fun _ _ done => done.1
  split
  · refine (goesOn .queued m rfl (ordered.changes retains done.1) done.2).bind (fun u _ more => ?_)
      fun _ _ more => done.1.trans more.1
    exact (resolves u more.2).imp fun _ _ last => (done.1.trans more.1).trans last
  · exact (resolves m done.2).imp fun _ _ last => done.1.trans last

omit retains in
/-- Disposing of the store signals the tasks, and drops their records in the end. -/
theorem yields_clearRounds (rounds : Nat) (visited : List RecordId) {s : TaskStore} :
    (clearRounds true rounds visited).Yields s fun t _ =>
      Evolves c.storeOptions OnlyExpires s t ∨ Disposes c.storeOptions s t := by
  induction rounds generalizing s visited with
  | zero => exact Code.yields_pure (.inl (.refl s))
  | succ rounds ih =>
    unfold clearRounds clearRound
    refine Code.Yields.bind (P := fun t result => (Evolves c.storeOptions OnlyExpires s t ∧ result ≠ .ok none) ∨
      Disposes c.storeOptions s t ∧ result = .ok none) (Code.yields_read_bind ?_) (fun m next done => ?_)
        fun m e done => ?_
    · split
      · rename_i record _
        refine Code.yields_modify_bind ?_
        have cleared : Evolves c.storeOptions OnlyExpires s (s.update record clearTimers) :=
          evolves_update ⟨⟨rfl, rfl, rfl, rfl, rfl, rfl, rfl⟩, .inl rfl, fun _ _ => rfl⟩
        refine (within_abort record _ _).bind (fun t _ signals => ?_) fun t _ signals =>
          .inl ⟨cleared.trans signals.evolves, fun thrown => by cases thrown⟩
        exact Code.yields_pure (.inl ⟨cleared.trans signals.evolves, fun given => by cases given⟩)
      · refine Code.yields_modify_bind (Code.yields_pure (.inr ⟨⟨?_, rfl, ?_⟩, rfl⟩))
        · exact ⟨rfl, rfl, rfl, fun r => .refl _ _⟩
        · exact Bool.or_true _
    · cases next with
      | none =>
        obtain ⟨_, impossible⟩ | ⟨disposes, _⟩ := done
        · exact (impossible rfl).elim
        · exact Code.yields_pure (.inr disposes)
      | some visited =>
        obtain ⟨evolves, _⟩ | ⟨_, impossible⟩ := done
        · refine (ih visited).imp fun t _ later => ?_
          obtain more | disposes := later
          · exact .inl (evolves.trans more)
          · refine .inr ⟨?_, disposes.empty, disposes.disposed⟩
            have last := disposes.evolves
            rw [evolves.records, evolves.disposed] at last
            exact evolves.trans last
        · cases impossible
    · obtain ⟨evolves, _⟩ | ⟨_, impossible⟩ := done
      · exact .inl evolves
      · cases impossible

theorem turn_close : Turn c G close := by
  intro r ordered
  unfold close
  refine Code.yields_read_bind ?_
  split
  · exact Code.yields_pure .refl
  refine Turn.next retains ordered (turn_modify fun _ => ⟨rfl, rfl, rfl, rfl, rfl, rfl⟩) fun m _ ordered _ => ?_
  refine Turn.next retains ordered (fun r _ => yields_storeCall ?_) fun m _ ordered _ =>
    Code.yields_modify (.aside ⟨rfl, rfl, rfl, rfl, rfl, rfl⟩)
  unfold disposeTasks
  refine Code.yields_read_bind ?_
  split
  · exact Code.yields_pure .refl
  · refine (yields_clearRounds (c := c) _ _).imp fun s _ done => ?_
    obtain evolves | disposes := done
    · exact .single (.evolves evolves.of_reads)
    · exact .single (.disposes disposes)

omit retains in
theorem yields_takeExecution (index : Nat) (phase next : ExecutionPhase) :
    (takeExecution index phase next).Yields r fun r' result => Changes c G r r' ∧
      ∀ taken, result = .ok taken → ∀ execution, taken = some execution →
        r.executions[index]? = some execution ∧ execution.phase = phase := by
  unfold takeExecution
  refine Code.yields_read_bind ?_
  split
  · refine Code.yields_pure ⟨.refl, ?_⟩
    rintro _ ⟨⟩ _ given
    cases given
  rename_i execution here
  split
  · refine Code.yields_pure ⟨.refl, ?_⟩
    rintro _ ⟨⟩ _ given
    cases given
  rename_i same
  refine Code.yields_modify_bind (Code.yields_pure ⟨.single (.phases index execution next here), ?_⟩)
  rintro _ ⟨⟩ _ ⟨⟩
  exact ⟨here, not_ne_iff.mp same⟩

omit retains in
theorem turn_replyDelivered (index : Nat) (threw : Bool) :
    (replyDelivered index threw).Yields r fun r' _ => Changes c G r r' := by
  unfold replyDelivered forgetRequest
  refine Code.yields_read_bind ?_
  split
  · exact Code.yields_pure .refl
  rename_i requestId here
  refine Code.yields_modify_bind ?_
  split
  · exact Code.yields_modify (.single (.delivers index requestId here (.inr rfl)))
  · exact Code.yields_pure (.single (.delivers index requestId here (.inl rfl)))

/-- **An event of the router makes changes for which it has grounds.** -/
theorem changes_of_step (ordered : Ordered r) (step : (routerSystem c).step r event r') :
    Changes c (groundsOf c r event) r r' := by
  obtain ⟨result, ends⟩ := step
  have answered : ∀ {α : Type} {G : Grounds} {code : RouterM α}, (code.Yields r fun r' _ => Changes c G r r') →
      (do let _ ← code : RouterM Unit).Yields r fun r' _ => Changes c G r r' := fun yields =>
    yields.bind (fun _ _ changes => Code.yields_pure changes) fun _ _ changes => changes
  refine (show (perform c event).Yields r fun r' _ => Changes c (groundsOf c r event) r r' from ?_) r' result ends
  cases event with
  | inbound raw binding authentication => exact answered (turn_processInbound retains r ordered)
  | notified index threw =>
    have takes : Turn c Grounds.none (takeNotification index) := turn_read_bind fun r ordered =>
      Turn.next retains ordered (turn_modify fun _ => ⟨rfl, rfl, rfl, rfl, rfl, rfl⟩)
        fun _ _ _ _ => Code.yields_pure .refl
    refine Turn.next retains ordered takes fun m notification ordered _ => ?_
    cases notification with
    | none => exact Code.yields_pure .refl
    | some notification =>
      exact (turn_notified retains notification threw m ordered).bind
        (fun _ _ changes => Code.yields_pure changes) fun _ _ changes => changes
  | sendRequest envelope => exact turn_sendRequest retains ordered (fun sendable => ⟨rfl, sendable⟩) fun sendable => ⟨rfl, sendable⟩
  | sendEnvelope envelope => exact turn_sendEnvelope retains ordered fun sendable => ⟨rfl, sendable⟩
  | admitted requestId queued => exact turn_applyAdmission retains ordered
  | completeTask requestId content => exact answered (turn_completeRequest retains ordered fun _ _ _ host => host)
  | failTask requestId error => exact answered (turn_failRequest retains ordered fun _ _ _ host => host)
  | rejectTask requestId error => exact answered (turn_rejectRequest retains ordered fun _ _ _ host => host)
  | cancelTask requestId request => exact answered (turn_cancelRequest retains ordered fun _ _ _ cancelled => cancelled)
  | taskSnapshot requestId => exact answered (turn_currentTask requestId r ordered)
  | executorCalled index => exact answered ((yields_takeExecution index .queued .running).imp fun _ _ done => done.1)
  | executorReturned index returned =>
    refine Turn.then retains ordered (yields_takeExecution index .running .settled) fun m taken ordered _ found => ?_
    cases taken with
    | none => exact Code.yields_pure .refl
    | some execution =>
      obtain ⟨here, running⟩ := found execution rfl
      exact turn_executorReturned retains ordered fun _ _ _ host => ⟨execution, here, running, host⟩
  | executorThrew index =>
    refine Turn.then retains ordered (yields_takeExecution index .running .settled) fun m taken ordered _ found => ?_
    cases taken with
    | none => exact Code.yields_pure .refl
    | some execution =>
      obtain ⟨here, running⟩ := found execution rfl
      exact turn_handleExecutorFailure retains ordered fun _ _ _ host => ⟨execution, here, running, host⟩
  | replyDelivered index threw => exact turn_replyDelivered index threw
  | expiryTimer requestId => exact turn_routerExpiryTimer retains ordered
  | storeExpiryTimer record => exact turn_storeCall (within_expiryTimer record) r ordered
  | storePurgeTimer record =>
    refine yields_storeCall ((yields_purgeTimer record (ordered.ledger.unarmed record)).imp fun s _ same => ?_)
    subst same
    exact .refl
  | dedupeTimer record => exact Code.yields_modify (.aside ⟨rfl, rfl, rfl, rfl, rfl, rfl⟩)
  | close => exact turn_close retains r ordered

end Events
end Handlers
end Turns
end PiToPi.Routing
