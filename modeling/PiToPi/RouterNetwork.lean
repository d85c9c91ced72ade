import PiToPi.RouterContracts
import PiToPi.WireReading

/-!
The routers of a room.

Each runtime has a router of its own. What one hands to its delivery arrives elsewhere as JSON text:
once, several times, late, out of order, or never. The registry of the room vouches for senders, so
that what arrives in the name of a runtime has been sent by its router.

Two tasks are then about one request, that of the runtime that asks and that of the runtime that
answers. `completions_agree` says that they end alike: an outcome the first has heard of is the one
the second has come to, with the response that arrives of it.
-/
namespace PiToPi.Routing
open Reentrant StoreEffects Relation Transition

/-- The runtimes of a room: no two have one id, and all keep what has become of their tasks. -/
structure Network (κ : Type) where
  config : κ → RouterConfig
  distinct : Function.Injective fun i => (config i).runtimeId
  retains : ∀ i, Retains (config i)

/-- The text of an envelope, as a runtime reads it. -/
def Carries (c : RouterConfig) (sent arrived : Json) : Prop :=
  Json.numbersNearest c.numberHost sent = true ∧ Json.parse c.numberHost sent.stringify = some arrived

/-- The outcomes a task comes to by itself: it has neither expired nor been cancelled. -/
def IsConclusion (state : TaskState) : Prop := state = .completed ∨ state = .failed ∨ state = .rejected

instance : DecidablePred IsConclusion := fun _ => inferInstanceAs (Decidable (_ ∨ _ ∨ _))

theorem IsConclusion.terminal (conclusion : IsConclusion state) : isTerminalTaskState state = true := by
  obtain rfl | rfl | rfl := conclusion <;> rfl

theorem IsConclusion.not_cancelled (conclusion : IsConclusion state) : state ≠ .cancelled := by
  rintro rfl
  exact absurd conclusion (by decide)

theorem IsConclusion.not_expired (conclusion : IsConclusion state) : state ≠ .expired := by
  rintro rfl
  exact absurd conclusion (by decide)

/-- What a runtime commits when it is told that its request has ended so. -/
def heardUpdate (told : TaskSnapshot) : TaskTransitionUpdate :=
  match told.state with
  | .completed => contentUpdate (told.content.getD (.text "")).rebuilt
  | .rejected => errorUpdate (told.error.getD (createProtocolError .malformed "task rejected")).rebuilt
  | _ => errorUpdate (told.error.getD (createProtocolError .internal "task failed")).rebuilt

/-- The task of a request, where it is done, as the runtime that asked has heard of its end. -/
structure Heard (c : RouterConfig) (snapshot : TaskSnapshot) (task : StoredTask) : Prop where
  ownership : task.ownership = .inbound
  owner : task.owner.runtimeId = c.runtimeId
  state : task.state = snapshot.state
  response : Concludes c.storeOptions snapshot.state (heardUpdate task.snapshot) snapshot

section Replies

variable {c : RouterConfig}

theorem uniqueKeys_replyEnvelope (request : Json) (operationId createdAt : JsString) (snapshot : TaskSnapshot) :
    (replyEnvelope c request operationId createdAt snapshot).UniqueKeys :=
  (by decide : (["protocolVersion", "operation", "operationId", "requestId", "sender", "recipientRuntimeId", "roomId",
    "createdAt", "expiresAt", "traceId", "parentOperationId", "payload"] : List JsString).Nodup)

theorem uniqueKeys_replyPayload (told : TaskSnapshot) : (replyPayload told).UniqueKeys := by
  have answers : (["outcome", "content"] : List JsString).Nodup := by decide
  have refuses : (["outcome", "error"] : List JsString).Nodup := by decide
  unfold replyPayload
  cases told.state with
  | completed => exact answers
  | _ => exact refuses

theorem outcome_replyPayload {told : TaskSnapshot} (terminal : isTerminalTaskState told.state = true) :
    TaskState.ofName? ((replyPayload told).text "outcome") = some told.state := by
  unfold replyPayload
  cases state : told.state with
  | completed | failed | rejected | cancelled | expired => rfl
  | _ =>
    rw [state] at terminal
    cases terminal

/-- A reply is heard as it was told. -/
theorem replyUpdate_heard {arrived : Json} {told : TaskSnapshot}
    (payload : Envelope.payload arrived = (replyPayload told).rebuilt) (conclusion : IsConclusion told.state) :
    replyUpdate arrived told.state = heardUpdate told := by
  have unique := uniqueKeys_replyPayload told
  unfold heardUpdate replyUpdate
  rw [payload, member_rebuilt unique, member_rebuilt unique]
  unfold replyPayload
  obtain state | state | state := conclusion <;> rw [state]
  · exact congrArg contentUpdate (Content.ofJson_rebuilt _)
  · exact congrArg errorUpdate (ProtocolError.ofJson_rebuilt _)
  · exact congrArg errorUpdate (ProtocolError.ofJson_rebuilt _)

/-- What is let in is addressed to this runtime. -/
theorem authorizeInbound_recipient {fields : Json} {text : JsString}
    (authorized : authorizeInbound c fields binding authentication = none)
    (addressed : fields.get? "recipientRuntimeId" = some (.string text)) : text = c.runtimeId := by
  unfold authorizeInbound at authorized
  dsimp only at authorized
  rw [Option.or_eq_none_iff] at authorized
  obtain ⟨_, passed⟩ := authorized
  split at passed
  · cases passed
  · split at passed
    · cases passed
    · rename_i same
      rw [addressed] at same
      simpa [Json.asString?] using same

/-- An accepted envelope is an object. -/
theorem fields_object {value : Json} (parties : NamesParties value) : (RawInbound.object value).fields = value := by
  obtain ⟨text, here⟩ := parties.recipient
  cases value with
  | object readOnly members => rfl
  | null | bool | number | string | array => cases here

/-- What is received of an object is that object, and addressed to this runtime. -/
theorem Received.addressed {arrived : Json} (received : Received c (.object arrived) binding authentication envelope) :
    arrived = envelope ∧ Envelope.recipientRuntimeId envelope = c.runtimeId := by
  obtain ⟨authorized, now, accepted⟩ := received
  obtain rfl := Validation.validateEnvelope_value accepted
  have parties := accepted_namesParties accepted
  obtain ⟨text, here⟩ := parties.recipient
  rw [fields_object parties] at authorized
  refine ⟨rfl, ?_⟩
  rw [← authorizeInbound_recipient authorized here, Envelope.recipientRuntimeId, Json.text, here]
  rfl

/-- What arrives of an envelope is the envelope, its members enumerated anew. -/
theorem Carries.rebuilt (carries : Carries c sent arrived) : arrived = sent.rebuilt :=
  Option.some.inj (carries.2.symm.trans (Json.parse_rebuilt carries.1))

/-- A reply that arrives has been sent as one, and tells how the task of its request has ended. -/
theorem Carries.tells (carries : Carries c sent arrived) (unique : sent.UniqueKeys) (reply : IsReply arrived)
    (safe : Safe c' r) (member : sent ∈ r.sent) :
    HasTask r.taskStore (Envelope.requestId arrived) fun task => task.ownership = .inbound ∧
      isTerminalTaskState task.state = true ∧ Envelope.recipientRuntimeId arrived = task.owner.runtimeId ∧
        Envelope.payload arrived = (replyPayload task.snapshot).rebuilt := by
  obtain rfl := carries.rebuilt
  have sentReply : IsReply sent := (operation?_rebuilt unique).symm.trans reply
  obtain ⟨q, made, named, tells⟩ := safe.replied sent member sentReply
  refine ⟨q, made, named.trans (text_rebuilt unique _).symm, tells.ownership, tells.terminal,
    (text_rebuilt unique _).trans tells.recipient, ?_⟩
  exact (member_rebuilt unique _).trans (congrArg Json.rebuilt tells.payload)

end Replies

section Rooms

variable {κ : Type} (N : Network κ)

/-- What a room relies on: its hosts hand over objects, and what arrives in the name of one of its
runtimes has been sent by it. -/
def Authentic (routers : κ → MessageRouter) (happens : κ × RouterEvent) : Prop :=
  match happens.2 with
  | .inbound raw _ _ => ∃ arrived, raw = .object arrived ∧
      ((∃ j, (N.config j).runtimeId = Envelope.senderRuntimeId arrived) →
        ∃ j, (N.config j).runtimeId = Envelope.senderRuntimeId arrived ∧
          ∃ sent ∈ (routers j).sent, Carries (N.config happens.1) sent arrived)
  | .sendRequest envelope | .sendEnvelope envelope => envelope.UniqueKeys
  | _ => True

/-- The routers of a room, one of which does something at a time. -/
def roomSystem [DecidableEq κ] : System (κ → MessageRouter) (κ × RouterEvent) :=
  (System.family fun i => properSystem (N.config i)).restrict (Authentic N)

/-- An outcome a task of `i` has come to is that of the task of its request where it is done. -/
def Confirmed (routers : κ → MessageRouter) (i : κ) (task : StoredTask) (snapshot : TaskSnapshot) : Prop :=
  task.ownership = .outbound → IsConclusion snapshot.state →
    ∀ j, task.expectedTargetRuntimeId = some (N.config j).runtimeId →
      HasTask (routers j).taskStore task.requestId (Heard (N.config i) snapshot)

variable {N}

theorem confirmed_lasts (routers : κ → MessageRouter) (i : κ) : Lasts (Confirmed N routers i) := by
  intro task task' snapshot same confirmed outbound conclusion j target
  rw [same.requestId]
  exact confirmed (same.ownership.symm.trans outbound) conclusion j (same.expectedTargetRuntimeId.symm.trans target)

/-- What has been confirmed stays so while tasks go on. -/
theorem Confirmed.goOn {routers routers' : κ → MessageRouter} {i : κ} (confirmed : Confirmed N routers i task snapshot)
    (goOn : ∀ j, TasksGoOn (routers j).taskStore (routers' j).taskStore) : Confirmed N routers' i task snapshot := by
  intro outbound conclusion j target
  refine (confirmed outbound conclusion j target).keeps (goOn j) fun task task' same ended heard => ?_
  have kept : task'.snapshot = task.snapshot := ended (heard.state ▸ conclusion.terminal)
  exact ⟨same.ownership.trans heard.ownership, same.owner ▸ heard.owner,
    (congrArg TaskSnapshot.state kept).trans heard.state, kept ▸ heard.response⟩

/-- A reply that is taken up confirms what it commits. -/
theorem ReplyConcludes.confirmed {routers : κ → MessageRouter} {i : κ} {raw : RawInbound}
    (replies : ReplyConcludes (N.config i) envelope m q snapshot)
    (received : Received (N.config i) raw binding authentication envelope) (reply : IsReply envelope)
    (authentic : Authentic N routers (i, .inbound raw binding authentication))
    (safe : ∀ j, Safe (N.config j) (routers j)) (unique : ∀ j, ∀ sent ∈ (routers j).sent, sent.UniqueKeys)
    (ledger : Ledger m.taskStore) : Confirmed N routers i (m.taskStore.heap q) snapshot := by
  intro outbound conclusion j target
  obtain ⟨arrived, rfl, vouched⟩ := authentic
  obtain ⟨rfl, addressed⟩ := received.addressed
  have sender := replies.allowed.target _ target
  obtain ⟨k, same, sent, member, carries⟩ := vouched ⟨j, sender⟩
  obtain rfl := N.distinct (sender.trans same.symm)
  rw [(ledger.filed _ q replies.found).2]
  obtain ⟨q', made, named, inbound, terminal, recipient, payload⟩ :=
    carries.tells (unique j sent member) reply (safe j) member
  obtain ⟨outcome, told, concludes⟩ := replies.told
  have same : outcome = ((routers j).taskStore.heap q').state := by
    rw [replyOutcome, payload, text_rebuilt (uniqueKeys_replyPayload _), outcome_replyPayload terminal] at told
    exact (Option.some.inj told).symm
  have state : ((routers j).taskStore.heap q').state = snapshot.state := same.symm.trans concludes.state.symm
  refine ⟨q', made, named, inbound, recipient.symm.trans addressed, state, ?_⟩
  have conclusion' : IsConclusion ((routers j).taskStore.heap q').state := state ▸ conclusion
  rw [same] at concludes
  rw [← state]
  exact replyUpdate_heard payload conclusion' ▸ concludes

/-- What an event may conclude is confirmed. -/
theorem accounts_confirmed {routers : κ → MessageRouter} {i : κ} {event : RouterEvent}
    (proper : Proper (routers i) event) (authentic : Authentic N routers (i, event))
    (safe : ∀ j, Safe (N.config j) (routers j)) (unique : ∀ j, ∀ sent ∈ (routers j).sent, sent.UniqueKeys) :
    Accounts (N.config i) (groundsOf (N.config i) (routers i) event)
      ((routers i).executions.map Execution.requestId) (Confirmed N routers i) := by
  have cancelled : ∀ {task : StoredTask} {snapshot : TaskSnapshot},
      snapshot.state = .cancelled → Confirmed N routers i task snapshot :=
    fun cancelled _ conclusion => (conclusion.not_cancelled cancelled).elim
  intro m q snapshot safe' tracked made live _ concludes
  -- the host ends tasks of executions, and those are none of its own requests
  have executed : ∀ requestId, (∃ execution ∈ (routers i).executions, execution.requestId = requestId) →
      HostConcludes (N.config i) requestId m q snapshot → Confirmed N routers i (m.taskStore.heap q) snapshot := by
    rintro _ ⟨execution, member, rfl⟩ host outbound
    obtain ⟨later, here, same⟩ := tracked _ (List.mem_map_of_mem member)
    have inbound := (safe'.executed later here).1.of_find safe'.ordered.ledger (same ▸ host.1)
    rw [inbound] at outbound
    cases outbound
  cases event with
  | inbound raw binding authentication =>
    obtain cancels | ⟨envelope, received, reply, replies⟩ := concludes
    · exact cancelled cancels
    · exact replies.confirmed received reply authentic safe unique safe'.ordered.ledger
  | completeTask requestId content => exact executed requestId proper concludes
  | failTask requestId error => exact executed requestId proper concludes
  | rejectTask requestId error => exact executed requestId proper concludes
  | executorReturned index returned =>
    obtain ⟨execution, here, _, host⟩ := concludes
    exact executed _ ⟨execution, List.mem_of_getElem? here, rfl⟩ host
  | executorThrew index =>
    obtain ⟨execution, here, _, host⟩ := concludes
    exact executed _ ⟨execution, List.mem_of_getElem? here, rfl⟩ host
  | cancelTask requestId request => exact cancelled concludes
  | _ => exact concludes.elim

/-- What is sent has each of its keys once. -/
theorem Changes.uniqueKeys {G : Grounds} (changes : Changes c G r r') (sends : ∀ envelope, G.sends envelope → envelope.UniqueKeys)
    (unique : ∀ sent ∈ r.sent, sent.UniqueKeys) : ∀ sent ∈ r'.sent, sent.UniqueKeys := by
  induction changes with
  | refl => exact unique
  | tail _ change ih =>
    cases change with
    | aside same =>
      rw [same.sent]
      exact ih
    | replies requestId record snapshot operationId createdAt =>
      intro sent member
      obtain member | member := List.mem_append.mp member
      · exact ih sent member
      · rw [List.mem_singleton.mp member]
        exact uniqueKeys_replyEnvelope ..
    | sends envelope grounds =>
      intro sent member
      obtain member | member := List.mem_append.mp member
      · exact ih sent member
      · rw [List.mem_singleton.mp member]
        exact sends envelope grounds
    | evolves | makes | admits | registers | resolves | finishes | marks | forgets | delivers | executes | phases |
        disposes => exact ih

theorem Authentic.uniqueKeys {routers : κ → MessageRouter} {i : κ} {event : RouterEvent}
    (authentic : Authentic N routers (i, event)) :
    ∀ envelope, (groundsOf (N.config i) (routers i) event).sends envelope → envelope.UniqueKeys := by
  intro envelope sends
  cases event with
  | sendRequest request =>
    obtain ⟨rfl, _⟩ := sends
    exact authentic
  | sendEnvelope other =>
    obtain ⟨rfl, _⟩ := sends
    exact authentic
  | _ => exact sends.elim

/-- What a room keeps. -/
structure Agreeing (N : Network κ) (routers : κ → MessageRouter) : Prop where
  safe : ∀ i, Safe (N.config i) (routers i)
  unique : ∀ i, ∀ sent ∈ (routers i).sent, sent.UniqueKeys
  confirmed : ∀ i, Accounted (Confirmed N routers i) (routers i).taskStore

theorem Agreeing.step [DecidableEq κ] (agreeing : Agreeing N routers) (step : (roomSystem N).step routers happens routers') :
    Agreeing N routers' := by
  obtain ⟨i, event⟩ := happens
  obtain ⟨authentic, r, taken, rfl⟩ := step
  have changes := changes_of_step (N.retains i) (agreeing.safe i).ordered taken.2
  have goOn : ∀ j, TasksGoOn (routers j).taskStore (Function.update routers i r j).taskStore :=
    (Function.forall_update_iff routers (p := fun j router => TasksGoOn (routers j).taskStore router.taskStore)).mpr
      ⟨changes.goOn, fun _ _ => .refl _⟩
  have confirmed : ∀ k, Accounted (Confirmed N routers k) (Function.update routers i r k).taskStore := by
    refine (Function.forall_update_iff routers
      (p := fun k router => Accounted (Confirmed N routers k) router.taskStore)).mpr ⟨?_, fun k _ => agreeing.confirmed k⟩
    exact (agreeing.confirmed i).step (N.retains i) (confirmed_lasts routers i) (agreeing.safe i) taken.1
      (accounts_confirmed taken.1 authentic agreeing.safe agreeing.unique) changes
  refine ⟨?_, ?_, fun k q made terminal unexpired => (confirmed k q made terminal unexpired).goOn goOn⟩
  · exact (Function.forall_update_iff routers (p := fun k router => Safe (N.config k) router)).mpr
      ⟨(agreeing.safe i).step (N.retains i) taken, fun k _ => agreeing.safe k⟩
  · exact (Function.forall_update_iff routers (p := fun _ router => ∀ sent ∈ router.sent, sent.UniqueKeys)).mpr
      ⟨changes.uniqueKeys authentic.uniqueKeys (agreeing.unique i), fun k _ => agreeing.unique k⟩

theorem Made.agreeing (made : ∀ i, Made (routers i)) : Agreeing N routers where
  safe i := (made i).safe
  unique i sent member := by
    rw [(made i).sent] at member
    cases member
  confirmed i := (made i).accounted

theorem agreeing_reachable [DecidableEq κ] (reached : (roomSystem N).Reachable routers) : Agreeing N routers :=
  reached.invariant (fun _ made => Made.agreeing made) fun _ _ _ agreeing step => agreeing.step step

section Sample

def sampleNetwork : Network Bool where
  config asks := sampleConfig (if asks then "runtime-a" else "runtime-b")
  distinct := by decide
  retains _ := rfl

/-- The room where the one asks and the other answers. -/
def sampleRoom (asked answered : List RouterEvent) : Bool → MessageRouter
  | true => played "runtime-a" asked
  | false => played "runtime-b" answered

theorem sampleRoom_true (asked answered : List RouterEvent) :
    sampleRoom asked answered true = played "runtime-a" asked := rfl

theorem sampleRoom_false (asked answered : List RouterEvent) :
    sampleRoom asked answered false = played "runtime-b" answered := rfl

theorem sampleRoom_asks {asked answered : List RouterEvent} (event : RouterEvent)
    (reached : (roomSystem sampleNetwork).Reachable (sampleRoom asked answered))
    (proper : Proper (played "runtime-a" asked) event)
    (authentic : Authentic sampleNetwork (sampleRoom asked answered) (true, event)) :
    (roomSystem sampleNetwork).Reachable (sampleRoom (asked ++ [event]) answered) := by
  refine reached.step (i := (true, event)) ⟨authentic, played "runtime-a" (asked ++ [event]), ⟨proper, ?_⟩, ?_⟩
  · rw [played, List.foldl_append]
    exact ⟨_, Code.ends_run _ _⟩
  · funext asks
    cases asks <;> rfl

theorem sampleRoom_answers {asked answered : List RouterEvent} (event : RouterEvent)
    (reached : (roomSystem sampleNetwork).Reachable (sampleRoom asked answered))
    (proper : Proper (played "runtime-b" answered) event)
    (authentic : Authentic sampleNetwork (sampleRoom asked answered) (false, event)) :
    (roomSystem sampleNetwork).Reachable (sampleRoom asked (answered ++ [event])) := by
  refine reached.step (i := (false, event)) ⟨authentic, played "runtime-b" (answered ++ [event]), ⟨proper, ?_⟩, ?_⟩
  · rw [played, List.foldl_append]
    exact ⟨_, Code.ends_run _ _⟩
  · funext asks
    cases asks <;> rfl

theorem carries_sampleRequest : Carries (sampleConfig "runtime-b") sampleRequest sampleRequest := by
  have plain : Json.isPlain Validation.exactNumbers sampleRequest = true := by decide +kernel
  have same : sampleRequest.readBack = sampleRequest := by decide +kernel
  exact ⟨by decide +kernel, (Json.parse_stringify plain).trans (congrArg some same)⟩

theorem carries_sampleReply : Carries (sampleConfig "runtime-a") sampleReply sampleReply := by
  have plain : Json.isPlain Validation.exactNumbers sampleReply = true := by decide +kernel
  have same : sampleReply.readBack = sampleReply := by decide +kernel
  exact ⟨by decide +kernel, (Json.parse_stringify plain).trans (congrArg some same)⟩

theorem sampleRoom_reachable : (roomSystem sampleNetwork).Reachable (sampleRoom asking answering) := by
  have made : (roomSystem sampleNetwork).Reachable (sampleRoom [] []) := by
    refine .init fun asks => ?_
    cases asks <;> exact sampleRouter_made
  have unique : sampleRequest.UniqueKeys := by decide
  have asked := sampleRoom_asks (.sendRequest sampleRequest) made rfl unique
  have sent : sampleRequest ∈ (played "runtime-a" [.sendRequest sampleRequest]).sent := by
    rw [played_asking.1]
    exact List.mem_singleton_self _
  have arrived := sampleRoom_answers (.inbound (.object sampleRequest) none none) asked trivial
    ⟨_, rfl, fun _ => ⟨true, rfl, sampleRequest, sent, carries_sampleRequest⟩⟩
  have called := sampleRoom_answers (.executorCalled 0) arrived trivial trivial
  have answered := sampleRoom_answers (.executorReturned 0 (.content (.json (.number (.ofNat 7))))) called
    trivial trivial
  have replied : sampleReply ∈ (played "runtime-b" answering).sent := by
    have sent := played_answering.1
    rw [sent]
    exact List.mem_singleton_self _
  have told := sampleRoom_asks (.inbound (.object sampleReply) none none) answered trivial
    ⟨_, rfl, fun _ => ⟨false, rfl, sampleReply, replied, carries_sampleReply⟩⟩
  exact told

end Sample

/-- **Both ends of a request agree on its outcome**: where the completion of a request has been
resolved with a conclusion, the runtime it was sent to has taken the request up for the runtime that
asked, its task has come to the same conclusion, and the response is what arrives of that of the task. -/
theorem completions_agree [DecidableEq κ] (reached : (roomSystem N).Reachable routers)
    (here : (routers i).outboundRequests.get? requestId = some record)
    (sentTo : record.expectedTargetRuntimeId = (N.config j).runtimeId) (resolved : record.completion = some snapshot)
    (conclusion : IsConclusion snapshot.state) :
    HasTask (routers j).taskStore requestId (Heard (N.config i) snapshot) := by
  have agreeing := agreeing_reachable reached
  have safe := agreeing.safe i
  obtain ⟨agrees, ended⟩ := safe.completion requestId record here
  obtain ⟨q, made, named, requested⟩ := safe.registered requestId record here
  obtain ⟨q', made', named', rfl, terminal⟩ := ended snapshot (agrees.symm.trans resolved)
  obtain rfl := safe.ordered.ledger.distinct q made q' made' (named.trans named'.symm)
  have confirmed := agreeing.confirmed i q made terminal conclusion.not_expired
  exact named ▸ confirmed requested.ownership conclusion j (requested.target.trans (congrArg some sentTo))

theorem completions_agree_sample : ∃ snapshot, snapshot.state = .completed ∧
    HasTask (played "runtime-b" answering).taskStore "11111111-1111-4111-8111-111111111111"
      (Heard (sampleConfig "runtime-a") snapshot) := by
  obtain ⟨record, here, found⟩ := Option.map_eq_some_iff.mp played_asking.2
  obtain ⟨sentTo, resolved⟩ := Prod.mk.inj found
  obtain ⟨snapshot, resolved, completed⟩ := Option.map_eq_some_iff.mp resolved
  have conclusion : IsConclusion snapshot.state := .inl completed
  rw [← sampleRoom_true asking answering] at here
  refine ⟨snapshot, completed, ?_⟩
  rw [← sampleRoom_false asking answering]
  exact completions_agree sampleRoom_reachable here sentTo resolved conclusion

end Rooms
end PiToPi.Routing
