import PiToPi.RouterChanges

/-!
What a router keeps over every run.

The invariant ties the request ids together: a tracked request, a reply that has left and an
execution each have a task of their id, and a task has one id for ever. From it follow the promises
the router makes to a requester: one terminal reply at most, which tells how the task has ended,
and one completion, with a content its request asked for.
-/
namespace PiToPi.Routing
open Reentrant StoreEffects Relation Transition

/-- An envelope that is a terminal reply. -/
def IsReply (envelope : Json) : Prop := Envelope.operation? envelope = some .messageReply

instance : DecidablePred IsReply := fun _ => inferInstanceAs (Decidable (_ = _))

/-- The task a request of a peer has been taken up with. -/
structure RequestedBy (envelope : Json) (task : StoredTask) : Prop where
  ownership : task.ownership = .inbound
  owner : task.owner = taskOwner envelope
  contract : cloneContract ((Envelope.expectedResponse envelope).map ExpectedResponse.ofJson) = .ok task.responseContract

/-- The task a request of this router's own has been registered with. -/
structure RequestedOf (record : OutboundRequestRecord) (task : StoredTask) : Prop where
  ownership : task.ownership = .outbound
  target : task.expectedTargetRuntimeId = some record.expectedTargetRuntimeId

/-- A reply as the task it is about accounts for it. -/
structure Tells (c : RouterConfig) (reply : Json) (task : StoredTask) : Prop where
  ownership : task.ownership = .inbound
  terminal : isTerminalTaskState task.state = true
  recipient : Envelope.recipientRuntimeId reply = task.owner.runtimeId
  sender : Envelope.senderRuntimeId reply = c.runtimeId
  payload : Envelope.payload reply = replyPayload task.snapshot

theorem RequestedBy.same (requested : RequestedBy envelope task) (same : SameIdentity task task') :
    RequestedBy envelope task' :=
  ⟨same.ownership.trans requested.ownership, same.owner.trans requested.owner,
    same.responseContract ▸ requested.contract⟩

theorem RequestedOf.same (requested : RequestedOf record task) (same : SameIdentity task task') :
    RequestedOf record task' :=
  ⟨same.ownership.trans requested.ownership, same.expectedTargetRuntimeId.trans requested.target⟩

/-- The invariant. -/
structure Safe (c : RouterConfig) (r : MessageRouter) : Prop where
  ordered : Ordered r
  tracked : ∀ requestId record, r.inboundRequests.get? requestId = some record →
    HasTask r.taskStore requestId (RequestedBy record.envelope)
  registered : ∀ requestId record, r.outboundRequests.get? requestId = some record →
    HasTask r.taskStore requestId (RequestedOf record)
  completion : ∀ requestId record, r.outboundRequests.get? requestId = some record →
    record.completion = record.terminalSnapshot ∧
      ∀ snapshot, record.terminalSnapshot = some snapshot → EndedWith r.taskStore requestId snapshot
  replied : ∀ reply ∈ r.sent, IsReply reply → HasTask r.taskStore (Envelope.requestId reply) (Tells c reply)
  /-- A tracked request without the mark has not been replied to. -/
  unsent : ∀ requestId record, r.inboundRequests.get? requestId = some record → record.terminalSent = false →
    ∀ reply ∈ r.sent, IsReply reply → Envelope.requestId reply ≠ requestId
  once : ((r.sent.filter IsReply).map Envelope.requestId).Nodup
  replying : ∀ requestId ∈ r.replying, ∃ snapshot, EndedWith r.taskStore requestId snapshot
  /-- The task of an execution is tracked as long as it is live. -/
  executed : ∀ execution ∈ r.executions,
    HasTask r.taskStore execution.requestId (·.ownership = .inbound) ∧
      (HasTask r.taskStore execution.requestId (isTerminalTaskState ·.state = false) →
        r.inboundRequests.has execution.requestId = true)

section Envelope

variable (c : RouterConfig) (request : Json) (operationId createdAt : JsString) (snapshot : TaskSnapshot)

theorem isReply_replyEnvelope : IsReply (replyEnvelope c request operationId createdAt snapshot) := by
  unfold IsReply
  rfl

theorem requestId_replyEnvelope :
    Envelope.requestId (replyEnvelope c request operationId createdAt snapshot) = Envelope.requestId request := rfl

end Envelope

section Steps

variable {c : RouterConfig} {G : Grounds}

/-- A change leaves the task of a request as it was made, and as it has ended. -/
theorem Tells.same (tells : Tells c reply task) (same : SameIdentity task task')
    (ended : isTerminalTaskState task.state = true → task'.snapshot = task.snapshot) : Tells c reply task' := by
  have kept := ended tells.terminal
  exact ⟨same.ownership.trans tells.ownership, (congrArg (isTerminalTaskState ·.state) kept).trans tells.terminal,
    tells.recipient.trans (congrArg TaskOwner.runtimeId same.owner).symm, tells.sender,
    tells.payload.trans (congrArg replyPayload kept).symm⟩

/-- What outlasts changes of a task is true of the task of a request afterwards. -/
theorem HasTask.keeps {holds : StoredTask → Prop} (has : HasTask s requestId holds) (goOn : TasksGoOn s t)
    (stable : ∀ task task', SameIdentity task task' →
      (isTerminalTaskState task.state = true → task'.snapshot = task.snapshot) → holds task → holds task') :
    HasTask t requestId holds := by
  obtain ⟨q, made, named, held⟩ := has
  have same := goOn.identity q made
  exact ⟨q, made.trans_le goOn.nextRecord, same.requestId.trans named, stable _ _ same (goOn.ended q made) held⟩

/-- The request id of a task that is made has had none. -/
theorem Creates.fresh {input : TaskStoreCreateInput} {holds : StoredTask → Prop} (creates : Creates o input s t)
    (ledger : Ledger s) (free : s.find input.requestId = none) (filed : t.find input.requestId = some q) :
    ¬ HasTask s input.requestId holds := by
  rintro ⟨q', before, named, _⟩
  cases creates with
  | nothing quiet =>
    have same : t.find input.requestId = s.find input.requestId :=
      (Evolves.of_quiet quiet : Evolves o OnlyExpires s t).find _
    rw [same, free] at filed
    cases filed
  | record task made quiet isNew _ usable timer unarmed evolves =>
    have kept := ledger.kept usable q' before
    rw [named, free] at kept
    cases kept

/-- The task that is made has what it was made with. -/
theorem Creates.hasTask {input : TaskStoreCreateInput} {holds : StoredTask → Prop} (creates : Creates o input s t)
    (free : s.find input.requestId = none) (filed : t.find input.requestId = some q)
    (stable : ∀ task task', SameIdentity task task' → holds task → holds task')
    (new : ∀ task, NewRecord o input task → holds task) : HasTask t input.requestId holds := by
  cases creates with
  | nothing quiet =>
    have same : t.find input.requestId = s.find input.requestId :=
      (Evolves.of_quiet quiet : Evolves o OnlyExpires s t).find _
    rw [same, free] at filed
    cases filed
  | record task made quiet isNew _ usable timer unarmed evolves =>
    have timed : SameIdentity task { task with purgeTimer := timer } := ⟨rfl, rfl, rfl, rfl, rfl, rfl, rfl⟩
    have inserted : HasTask (insertRecord made input.requestId { task with purgeTimer := timer }) input.requestId holds := by
      refine ⟨made.nextRecord, Nat.lt_succ_self _, ?_, ?_⟩
      · show (Function.update made.heap made.nextRecord _ made.nextRecord).requestId = _
        rw [Function.update_self]
        exact isNew.requestId
      · show holds (Function.update made.heap made.nextRecord _ made.nextRecord)
        rw [Function.update_self]
        exact stable _ _ timed (new task isNew)
    exact inserted.keeps (Evolves.goOn evolves) fun task task' same _ => stable task task' same

/-- Where tasks go on and nothing else changes, the router stays safe. -/
theorem Safe.goOn (safe : Safe c r) (ordered : Ordered r') (goOn : TasksGoOn r.taskStore r'.taskStore)
    (outbound : r'.outboundRequests = r.outboundRequests) (inbound : r'.inboundRequests = r.inboundRequests)
    (executions : r'.executions = r.executions) (sent : r'.sent = r.sent) (replying : r'.replying = r.replying) :
    Safe c r' where
  ordered := ordered
  tracked requestId record here := by
    rw [inbound] at here
    exact (safe.tracked requestId record here).goOn goOn fun _ _ same requested => requested.same same
  registered requestId record here := by
    rw [outbound] at here
    exact (safe.registered requestId record here).goOn goOn fun _ _ same requested => requested.same same
  completion requestId record here := by
    rw [outbound] at here
    obtain ⟨same, ended⟩ := safe.completion requestId record here
    exact ⟨same, fun snapshot finished => (ended snapshot finished).goOn goOn⟩
  replied reply here isReply := by
    rw [sent] at here
    exact (safe.replied reply here isReply).keeps goOn fun _ _ same ended tells => tells.same same ended
  unsent := by
    rw [inbound, sent]
    exact safe.unsent
  once := by
    rw [sent]
    exact safe.once
  replying requestId here := by
    rw [replying] at here
    obtain ⟨snapshot, ended⟩ := safe.replying requestId here
    exact ⟨snapshot, ended.goOn goOn⟩
  executed execution here := by
    rw [executions] at here
    obtain ⟨inward, live⟩ := safe.executed execution here
    refine ⟨inward.goOn goOn fun _ _ same held => same.ownership.trans held, fun alive => ?_⟩
    rw [inbound]
    refine live ?_
    obtain ⟨q, made, named, _⟩ := inward
    obtain ⟨q', made', named', alive⟩ := alive
    -- the live task is the one there was, since a request id has one task
    have named : (r'.taskStore.heap q).requestId = execution.requestId := (goOn.identity q made).requestId.trans named
    have same := ordered.ledger.distinct q' made' q (made.trans_le goOn.nextRecord) (named'.trans named.symm)
    subst same
    refine ⟨q', made, (goOn.identity q' made).requestId.symm.trans named, ?_⟩
    by_contra ended
    have kept := goOn.ended q' made (Bool.not_eq_false _ ▸ ended)
    have state : (r'.taskStore.heap q').state = (r.taskStore.heap q').state := congrArg TaskSnapshot.state kept
    have alive : isTerminalTaskState (r'.taskStore.heap q').state = false := alive
    rw [state] at alive
    exact ended alive

/-- What is tracked under a request id that is set anew. -/
theorem get?_set_cases {m : JsMap JsString ν} (here : (m.set key value).get? other = some found) :
    (other = key ∧ found = value) ∨ (other ≠ key ∧ m.get? other = some found) := by
  rw [JsMap.get?_set] at here
  split at here
  · rename_i same
    exact .inl ⟨same, (Option.some.inj here).symm⟩
  · rename_i differs
    exact .inr ⟨differs, here⟩

theorem has_set {m : JsMap JsString ν} (has : m.has other = true) : (m.set key value).has other = true := by
  obtain ⟨found, here⟩ := JsMap.has_iff.mp has
  refine JsMap.has_iff.mpr ?_
  rw [JsMap.get?_set]
  split
  · exact ⟨value, rfl⟩
  · exact ⟨found, here⟩

/-- A task that has ended is not live. -/
theorem EndedWith.not_live (ended : EndedWith s requestId snapshot) (ledger : Ledger s) :
    ¬ HasTask s requestId (isTerminalTaskState ·.state = false) := by
  rintro ⟨q, made, named, live⟩
  obtain ⟨q', made', named', rfl, terminal⟩ := ended
  have same := ledger.distinct q made q' made' (named.trans named'.symm)
  subst same
  have live : isTerminalTaskState (s.heap q).state = false := live
  rw [StoredTask.state, terminal] at live
  cases live

/-- The request of a task that has ended may be forgotten. -/
theorem Safe.forgets (safe : Safe c r) (ended : EndedWith r.taskStore requestId snapshot) :
    Safe c { r with inboundRequests := r.inboundRequests.delete requestId } := by
  have before : ∀ other record, (r.inboundRequests.delete requestId).get? other = some record →
      r.inboundRequests.get? other = some record := fun other record here => (JsMap.get?_delete_eq_some_iff.mp here).2
  exact {
    ordered := ⟨safe.ordered.ledger, fun other record here => safe.ordered.named other record (before other record here)⟩
    tracked := fun other record here => safe.tracked other record (before other record here)
    registered := safe.registered
    completion := safe.completion
    replied := safe.replied
    unsent := fun other record here => safe.unsent other record (before other record here)
    once := safe.once
    replying := safe.replying
    executed := by
      intro execution here
      obtain ⟨inward, tracked⟩ := safe.executed execution here
      refine ⟨inward, fun live => ?_⟩
      obtain ⟨record, kept⟩ := JsMap.has_iff.mp (tracked live)
      refine JsMap.has_iff.mpr ⟨record, JsMap.get?_delete_eq_some_iff.mpr ⟨?_, kept⟩⟩
      rintro rfl
      exact ended.not_live safe.ordered.ledger live }

/-- The mark changes nothing else of a tracked request. -/
theorem Safe.marks (safe : Safe c r) (here : r.inboundRequests.get? requestId = some record) :
    Safe c { r with inboundRequests := r.inboundRequests.set requestId { record with terminalSent := true } } where
  ordered := by
    refine ⟨safe.ordered.ledger, fun other found tracked => ?_⟩
    obtain ⟨rfl, rfl⟩ | ⟨_, before⟩ := get?_set_cases tracked
    · exact safe.ordered.named other record here
    · exact safe.ordered.named other found before
  tracked other found tracked := by
    obtain ⟨rfl, rfl⟩ | ⟨_, before⟩ := get?_set_cases tracked
    · exact safe.tracked other record here
    · exact safe.tracked other found before
  registered := safe.registered
  completion := safe.completion
  replied := safe.replied
  unsent other found tracked unmarked := by
    obtain ⟨rfl, rfl⟩ | ⟨_, before⟩ := get?_set_cases tracked
    · cases unmarked
    · exact safe.unsent other found before unmarked
  once := safe.once
  replying := safe.replying
  executed execution member := by
    obtain ⟨inward, tracked⟩ := safe.executed execution member
    exact ⟨inward, fun live => has_set (tracked live)⟩

/-- Whatever is sent, but for replies. -/
theorem Safe.sends (safe : Safe c r) (other : ¬ IsReply envelope) : Safe c { r with sent := r.sent ++ [envelope] } := by
  have before : ∀ reply ∈ r.sent ++ [envelope], IsReply reply → reply ∈ r.sent := by
    intro reply member isReply
    obtain member | member := List.mem_append.mp member
    · exact member
    · rw [List.mem_singleton] at member
      subst member
      exact (other isReply).elim
  have same : (r.sent ++ [envelope]).filter IsReply = r.sent.filter IsReply := by
    rw [List.filter_append, List.filter_cons_of_neg (by simpa using other), List.filter_nil, List.append_nil]
  exact {
    ordered := ⟨safe.ordered.ledger, safe.ordered.named⟩
    tracked := safe.tracked
    registered := safe.registered
    completion := safe.completion
    replied := fun reply member isReply => safe.replied reply (before reply member isReply) isReply
    unsent := fun requestId record here unmarked reply member isReply =>
      safe.unsent requestId record here unmarked reply (before reply member isReply) isReply
    once := same ▸ safe.once
    replying := safe.replying
    executed := safe.executed }

/-- The terminal reply of a tracked request without the mark. -/
theorem Safe.replies (safe : Safe c r) (here : r.inboundRequests.get? requestId = some record)
    (unsent : record.terminalSent = false) (ended : EndedWith r.taskStore requestId snapshot)
    (operationId createdAt : JsString) : Safe c { r with
      inboundRequests := r.inboundRequests.set requestId { record with terminalSent := true }
      sent := r.sent ++ [replyEnvelope c record.envelope operationId createdAt snapshot]
      replying := r.replying ++ [Envelope.requestId record.envelope] } := by
  have marked := safe.marks here
  have named := safe.ordered.named requestId record here
  have reply := isReply_replyEnvelope c record.envelope operationId createdAt snapshot
  have about := requestId_replyEnvelope c record.envelope operationId createdAt snapshot
  have tells : HasTask r.taskStore requestId (Tells c (replyEnvelope c record.envelope operationId createdAt snapshot)) := by
    obtain ⟨q, made, named, requested⟩ := safe.tracked requestId record here
    obtain ⟨q', made', named', same, terminal⟩ := ended
    obtain rfl := safe.ordered.ledger.distinct q made q' made' (named.trans named'.symm)
    refine ⟨q, made, named, requested.ownership, ?_, ?_, rfl, ?_⟩
    · rw [StoredTask.state, same]
      exact terminal
    · rw [requested.owner]
      rfl
    · rw [same]
      rfl
  have members : ∀ sent ∈ r.sent ++ [replyEnvelope c record.envelope operationId createdAt snapshot],
      sent ∈ r.sent ∨ sent = replyEnvelope c record.envelope operationId createdAt snapshot := by
    intro sent member
    obtain member | member := List.mem_append.mp member
    · exact .inl member
    · exact .inr (List.mem_singleton.mp member)
  exact {
    ordered := ⟨marked.ordered.ledger, marked.ordered.named⟩
    tracked := marked.tracked
    registered := safe.registered
    completion := safe.completion
    replied := by
      intro sent member isReply
      obtain member | rfl := members sent member
      · exact safe.replied sent member isReply
      · rw [about, named]
        exact tells
    unsent := by
      intro other found tracked unmarked sent member isReply
      obtain member | rfl := members sent member
      · exact marked.unsent other found tracked unmarked sent member isReply
      · obtain ⟨rfl, rfl⟩ | ⟨differs, _⟩ := get?_set_cases tracked
        · cases unmarked
        · rw [about, named]
          exact differs.symm
    once := by
      rw [List.filter_append, List.filter_cons_of_pos (by simpa using reply), List.filter_nil, List.map_append,
        List.nodup_append]
      refine ⟨safe.once, List.nodup_singleton _, fun id before other same => ?_⟩
      obtain ⟨sent, member, rfl⟩ := List.mem_map.mp before
      obtain ⟨member, isReply⟩ := List.mem_filter.mp member
      have differs := safe.unsent requestId record here unsent sent member (by simpa using isReply)
      rw [List.map_singleton, List.mem_singleton] at same
      rw [same, about, named]
      exact differs
    replying := by
      intro id member
      obtain member | member := List.mem_append.mp member
      · exact safe.replying id member
      · rw [List.mem_singleton.mp member, named]
        exact ⟨snapshot, ended⟩
    executed := marked.executed }

theorem newRecord_requestedBy {envelope : Json} {accepted : Bool} {task : StoredTask}
    (new : NewRecord o (inboundTask c envelope accepted) task) : RequestedBy envelope task :=
  ⟨new.ownership .inbound rfl, new.owner _ rfl, new.responseContract⟩

theorem newRecord_requestedOf {envelope : Json} {task : StoredTask} (new : NewRecord o (outboundTask c envelope) task) :
    RequestedOf ⟨envelope, Envelope.recipientRuntimeId envelope, false, none, none⟩ task :=
  ⟨new.ownership .outbound rfl, new.expectedTargetRuntimeId⟩

/-- A request of a peer that is taken up is new. -/
theorem Safe.admits (safe : Safe c r) (stored : Safe c { r with taskStore := s, dedupeStore })
    (made : Creates c.storeOptions (inboundTask c envelope accepted) r.taskStore s)
    (free : r.taskStore.find (Envelope.requestId envelope) = none)
    (filed : s.find (Envelope.requestId envelope) = some q) : Safe c { r with
      taskStore := s
      dedupeStore
      inboundRequests := r.inboundRequests.set (Envelope.requestId envelope) ⟨envelope, false⟩ } where
  ordered := by
    refine ⟨stored.ordered.ledger, fun other found tracked => ?_⟩
    obtain ⟨rfl, rfl⟩ | ⟨_, before⟩ := get?_set_cases tracked
    · rfl
    · exact safe.ordered.named other found before
  tracked other found tracked := by
    obtain ⟨rfl, rfl⟩ | ⟨_, before⟩ := get?_set_cases tracked
    · exact Creates.hasTask made free filed (fun _ _ same requested => requested.same same) fun _ new =>
        newRecord_requestedBy new
    · exact stored.tracked other found before
  registered := stored.registered
  completion := stored.completion
  replied := stored.replied
  unsent other found tracked unmarked reply member isReply := by
    obtain ⟨rfl, rfl⟩ | ⟨_, before⟩ := get?_set_cases tracked
    · intro same
      have has := safe.replied reply member isReply
      rw [same] at has
      exact Creates.fresh made safe.ordered.ledger free filed has
    · exact safe.unsent other found before unmarked reply member isReply
  once := stored.once
  replying := stored.replying
  executed execution member := by
    obtain ⟨inward, tracked⟩ := stored.executed execution member
    exact ⟨inward, fun live => has_set (tracked live)⟩

/-- A change of a registered request that keeps its account in order. -/
theorem Safe.setOutbound (safe : Safe c r)
    (has : HasTask r.taskStore requestId (RequestedOf record)) (same : record.completion = record.terminalSnapshot)
    (ended : ∀ snapshot, record.terminalSnapshot = some snapshot → EndedWith r.taskStore requestId snapshot) :
    Safe c { r with outboundRequests := r.outboundRequests.set requestId record } where
  ordered := ⟨safe.ordered.ledger, safe.ordered.named⟩
  tracked := safe.tracked
  registered other found here := by
    obtain ⟨rfl, rfl⟩ | ⟨_, before⟩ := get?_set_cases here
    · exact has
    · exact safe.registered other found before
  completion other found here := by
    obtain ⟨rfl, rfl⟩ | ⟨_, before⟩ := get?_set_cases here
    · exact ⟨same, ended⟩
    · exact safe.completion other found before
  replied := safe.replied
  unsent := safe.unsent
  once := safe.once
  replying := safe.replying
  executed := safe.executed

/-- The executions, and no request id without a tracked request. -/
theorem Safe.withExecutions (safe : Safe c r) (executions : List Execution)
    (known : ∀ execution ∈ executions, r.inboundRequests.has execution.requestId = true ∨
      ∃ before ∈ r.executions, before.requestId = execution.requestId) : Safe c { r with executions } where
  ordered := ⟨safe.ordered.ledger, safe.ordered.named⟩
  tracked := safe.tracked
  registered := safe.registered
  completion := safe.completion
  replied := safe.replied
  unsent := safe.unsent
  once := safe.once
  replying := safe.replying
  executed execution member := by
    obtain tracked | ⟨before, earlier, same⟩ := known execution member
    · obtain ⟨record, here⟩ := JsMap.has_iff.mp tracked
      obtain ⟨q, made, named, requested⟩ := safe.tracked _ record here
      exact ⟨⟨q, made, named, requested.ownership⟩, fun _ => tracked⟩
    · rw [← same]
      exact safe.executed before earlier

variable (retains : Retains c)
include retains

/-- **Every change keeps the router safe**, where only `replies` sends replies. -/
theorem Safe.change (sends : ∀ envelope, G.sends envelope → ¬ IsReply envelope) (safe : Safe c r)
    (change : Change c G r r') : Safe c r' := by
  have ordered := safe.ordered.change retains change
  have goOn := change.goOn
  cases change with
  | aside same =>
    exact safe.goOn ordered goOn same.outboundRequests same.inboundRequests same.executions same.sent same.replying
  | evolves moved => exact safe.goOn ordered goOn rfl rfl rfl rfl rfl
  | makes input grounds made => exact safe.goOn ordered goOn rfl rfl rfl rfl rfl
  | disposes disposes => exact safe.goOn ordered goOn rfl rfl rfl rfl rfl
  | admits envelope accepted grounds made free filed =>
    exact safe.admits (safe.goOn ⟨ordered.ledger, safe.ordered.named⟩ goOn rfl rfl rfl rfl rfl) made free filed
  | registers envelope grounds made free filed =>
    rename_i taskStore
    have stored : Safe c { r with taskStore } :=
      safe.goOn ⟨ordered.ledger, safe.ordered.named⟩ goOn rfl rfl rfl rfl rfl
    refine stored.setOutbound ?_ rfl fun snapshot given => by cases given
    exact Creates.hasTask made free filed (fun _ _ same requested => requested.same same) fun _ new =>
      newRecord_requestedOf new
  | resolves requestId record here =>
    obtain ⟨same, ended⟩ := safe.completion requestId record here
    obtain ⟨q, made, named, requested⟩ := safe.registered requestId record here
    exact safe.setOutbound ⟨q, made, named, requested.ownership, requested.target⟩ same ended
  | finishes requestId record snapshot here unfinished ended =>
    obtain ⟨same, _⟩ := safe.completion requestId record here
    obtain ⟨q, made, named, requested⟩ := safe.registered requestId record here
    refine safe.setOutbound ⟨q, made, named, requested.ownership, requested.target⟩ ?_ ?_
    · show record.completion.or (some snapshot) = some snapshot
      rw [same, unfinished]
      rfl
    · rintro _ ⟨⟩
      exact ended
  | marks requestId record here => exact safe.marks here
  | replies requestId record snapshot operationId createdAt here unsent ended =>
    exact safe.replies here unsent ended operationId createdAt
  | forgets requestId snapshot ended => exact safe.forgets ended
  | delivers index requestId here forgotten =>
    obtain ⟨snapshot, ended⟩ := safe.replying requestId (List.mem_of_getElem? here)
    have replying : ∀ {r' : MessageRouter}, Safe c r' → r'.replying = r.replying →
        Safe c { r' with replying := r'.replying.eraseIdx index } := by
      intro r' safe' same
      exact { safe' with
        ordered := ⟨safe'.ordered.ledger, safe'.ordered.named⟩
        replying := fun id member => safe'.replying id (List.mem_of_mem_eraseIdx member) }
    obtain rfl | rfl := forgotten
    · exact replying safe rfl
    · exact replying (safe.forgets ended) rfl
  | executes requestId request snapshot tracked working =>
    refine safe.withExecutions _ fun execution member => ?_
    obtain member | member := List.mem_append.mp member
    · exact .inr ⟨execution, member, rfl⟩
    · rw [List.mem_singleton.mp member]
      exact .inl tracked
  | phases index execution phase here =>
    refine safe.withExecutions _ fun found member => .inr ?_
    obtain before | rfl := List.mem_or_eq_of_mem_set member
    · exact ⟨found, before, rfl⟩
    · exact ⟨execution, List.mem_of_getElem? here, rfl⟩
  | sends envelope grounds => exact safe.sends (sends envelope grounds)

theorem Safe.changes (sends : ∀ envelope, G.sends envelope → ¬ IsReply envelope) (safe : Safe c r)
    (changes : Changes c G r r') : Safe c r' := by
  induction changes with
  | refl => exact safe
  | tail _ change ih => exact ih.change retains sends change

end Steps

section Runs

variable {c : RouterConfig}

theorem Made.safe (made : Made r) : Safe c r where
  ordered := by
    refine ⟨⟨?_, ?_, ?_, made.unarmed⟩, ?_⟩
    · intro key q stored
      rw [made.records, JsMap.get?_empty] at stored
      cases stored
    · intro _ q before
      rw [made.nextRecord] at before
      exact absurd before (Nat.not_lt_zero q)
    · intro q before
      rw [made.nextRecord] at before
      exact absurd before (Nat.not_lt_zero q)
    · intro requestId record tracked
      rw [made.inboundRequests, JsMap.get?_empty] at tracked
      cases tracked
  tracked requestId record here := by
    rw [made.inboundRequests, JsMap.get?_empty] at here
    cases here
  registered requestId record here := by
    rw [made.outboundRequests, JsMap.get?_empty] at here
    cases here
  completion requestId record here := by
    rw [made.outboundRequests, JsMap.get?_empty] at here
    cases here
  replied reply member := by
    rw [made.sent] at member
    cases member
  unsent requestId record here := by
    rw [made.inboundRequests, JsMap.get?_empty] at here
    cases here
  once := by
    rw [made.sent]
    exact List.nodup_nil
  replying requestId member := by
    rw [made.replying] at member
    cases member
  executed execution member := by
    rw [made.executions] at member
    cases member

/-- What a proper event sends is no reply. -/
theorem Proper.sends {event : RouterEvent} (proper : Proper r event) :
    ∀ envelope, (groundsOf c r event).sends envelope → ¬ IsReply envelope := by
  intro envelope sends reply
  cases event with
  | sendRequest request =>
    obtain ⟨rfl, _⟩ := sends
    have named : Envelope.operation? envelope = some .messageRequest := proper
    rw [reply] at named
    cases named
  | sendEnvelope other =>
    obtain ⟨rfl, _⟩ := sends
    exact proper reply
  | _ => exact sends.elim

/-- The router where the host does what is proper. -/
def properSystem (c : RouterConfig) : System MessageRouter RouterEvent := (routerSystem c).restrict Proper

/-- The requests registered before are registered still, as resolved as they were. -/
def StillRegistered (r r' : MessageRouter) : Prop :=
  ∀ requestId record, r.outboundRequests.get? requestId = some record →
    ∃ later, r'.outboundRequests.get? requestId = some later ∧ later.envelope = record.envelope ∧
      ∀ snapshot, record.completion = some snapshot → later.completion = some snapshot

theorem StillRegistered.refl (r : MessageRouter) : StillRegistered r r :=
  fun _ record here => ⟨record, here, rfl, fun _ resolved => resolved⟩

theorem StillRegistered.trans (first : StillRegistered r r') (second : StillRegistered r' r'') :
    StillRegistered r r'' := by
  intro requestId record here
  obtain ⟨middle, there, same, resolved⟩ := first requestId record here
  obtain ⟨later, last, same', resolved'⟩ := second requestId middle there
  exact ⟨later, last, same'.trans same, fun snapshot done => resolved' snapshot (resolved snapshot done)⟩

/-- One request is set, to a record of the same envelope that is as resolved. -/
theorem StillRegistered.set (here : r.outboundRequests.get? requestId = some record)
    (same : later.envelope = record.envelope)
    (resolved : ∀ snapshot, record.completion = some snapshot → later.completion = some snapshot) :
    StillRegistered r { r with outboundRequests := r.outboundRequests.set requestId later } := by
  intro other found there
  show ∃ last, (r.outboundRequests.set requestId later).get? other = some last ∧ _
  rw [JsMap.get?_set]
  split
  · rename_i about
    rw [about, here] at there
    cases there
    exact ⟨later, rfl, same, resolved⟩
  · exact ⟨found, there, rfl, fun _ resolved => resolved⟩

theorem Change.stillRegistered {G : Grounds} (safe : Safe c r) (change : Change c G r r') : StillRegistered r r' := by
  cases change with
  | aside same => exact fun requestId record here => ⟨record, same.outboundRequests ▸ here, rfl, fun _ resolved => resolved⟩
  | registers envelope grounds made free filed =>
    intro requestId record here
    have other : requestId ≠ Envelope.requestId envelope := by
      rintro rfl
      exact Creates.fresh made safe.ordered.ledger free filed (safe.registered _ record here)
    refine ⟨record, ?_, rfl, fun _ resolved => resolved⟩
    show (r.outboundRequests.set _ _).get? requestId = some record
    rw [JsMap.get?_set, if_neg other]
    exact here
  | resolves requestId record here => exact .set here rfl fun _ resolved => resolved
  | finishes requestId record snapshot here unfinished ended =>
    refine .set here rfl fun snapshot' resolved => ?_
    rw [(safe.completion requestId record here).1, unfinished] at resolved
    cases resolved
  | evolves | makes | admits | marks | replies | forgets | delivers | executes | phases | sends | disposes =>
    exact fun requestId record here => ⟨record, here, rfl, fun _ resolved => resolved⟩

variable (retains : Retains c)
include retains

theorem Safe.step (safe : Safe c r) (step : (properSystem c).step r event r') : Safe c r' :=
  safe.changes retains step.1.sends (changes_of_step retains safe.ordered step.2)

theorem safe_reachable (reached : (properSystem c).Reachable r) : Safe c r :=
  reached.invariant (fun _ made => Made.safe made) fun _ _ _ safe step => safe.step retains step

theorem Changes.stillRegistered {G : Grounds} (sends : ∀ envelope, G.sends envelope → ¬ IsReply envelope)
    (safe : Safe c r) (changes : Changes c G r r') : StillRegistered r r' := by
  induction changes with
  | refl => exact .refl r
  | tail before change ih => exact ih.trans (Change.stillRegistered (safe.changes retains sends before) change)

end Runs

section Sample

/-- The runtime of this name, in a room where clocks stand still. -/
def sampleConfig (runtimeId : JsString) : RouterConfig where
  host := ⟨fun _ => none⟩
  schemaHost := Validation.anyHost
  numberHost := Validation.exactNumbers
  sha256 _ := "digest"
  sessionId := "session"
  runtimeId
  roomId := "r1-0123456789abcdef0123456789abcdef"
  limits := Validation.ceilingLimits
  authenticates := false
  defaultBinding := none
  executes := true
  supportsCancellation := true
  supportsNotifications := false
  storeOptions :=
    { host := ⟨fun _ => none⟩
      retainTerminalResponse := true
      terminalRetentionMs := none
      localOwnerRuntimeId := none }
  retentionGraceMs := 0
  description := .record []
  drawnOperationId := "33333333-3333-4333-8333-333333333333"

def sampleRouter : MessageRouter where
  taskStore :=
    { heap := fun _ =>
        { requestId := "", owner := ⟨"", none⟩, localOwner := ⟨"", none⟩
          expectedTargetRuntimeId := none, roomId := none, responseContract := none
          ownership := .inbound, aborted := false, abortReason := none
          deadlineMs := 0, deadlineMonotonicMs := 0, updatedAtMs := 0
          snapshot := ⟨"", .created, "", "", "", false, none, none, none, none⟩
          expiryTimer := none, purgeTimer := none }
      nextRecord := 0
      records := ∅
      queued := ∅
      disposed := false
      nowFn := fun _ => 1767225600000
      monotonicNowFn := fun _ => 0 }
  dedupeStore :=
    { heap := fun _ =>
        { normalized :=
            { operation := "", operationId := "", senderRuntimeId := "", expiresAt := ""
              expiresAtMs := 0, retainedUntil := 0, key := "", fingerprint := "" }
          pending := false
          result := none
          taskReference := none
          timer := none }
      nextRecord := 0
      records := ∅
      closed := false
      now := fun _ => 1767225600000
      reading := 0
      memory := () }
  policy :=
    { queueCapacity := 4, activeCapacity := 1, retryAfterMs := none
      records := fun _ =>
        { handle := "", entry := 0, deadline := 0, status := .released, expired := false
          expiryNotified := false, cancellationRequested := false, lease := none }
      nextToken := 1, queue := [], active := []
      handles := fun _ => none, entries := fun _ => none, entryIds := fun _ => none
      requestIds := fun _ => none, leases := fun _ => none, nextLease := 0
      lastObservedNow := none, monotonicNow := fun _ => some 1767225600000, reading := 0
      objects := fun _ => ⟨none, none, .null, .wire "", false, none, none, false, none, false⟩
      onExpired := [] }
  nextEntry := 0
  outboundRequests := ∅
  inboundRequests := ∅
  leases := ∅
  expiryTimers := ∅
  closed := false
  wallNow := fun _ => 1767225600000
  asked := fun _ => []
  handles := fun _ => ["44444444-4444-4444-8444-444444444444"]
  random := fun _ => "22222222-2222-4222-8222-222222222222"
  executions := []
  notifications := []
  sent := []
  replying := []

/-- A request that asks for a JSON value. -/
def sampleRequest : Json := .record [
  ("protocolVersion", .string protocolVersion), ("operation", .string "message.request"),
  ("operationId", .string "11111111-1111-4111-8111-111111111111"),
  ("requestId", .string "11111111-1111-4111-8111-111111111111"),
  ("sender", .record [("sessionId", .string "session"), ("runtimeId", .string "runtime-a")]),
  ("recipientRuntimeId", .string "runtime-b"), ("roomId", .string "r1-0123456789abcdef0123456789abcdef"),
  ("createdAt", .string "2026-01-01T00:00:00.000Z"), ("expiresAt", .string "2026-01-01T00:01:00.000Z"),
  ("traceId", .string "0123456789abcdef0123456789abcdef"),
  ("payload", .record [("content", .record [("type", .string "text"), ("text", .string "count")]),
    ("expectedResponse", .record [("contentType", .string "json"), ("schema", .record [("type", .string "number")])])])]

/-- The reply to it, as it arrives. -/
def sampleReply : Json := .record [
  ("protocolVersion", .string protocolVersion), ("operation", .string "message.reply"),
  ("operationId", .string "22222222-2222-4222-8222-222222222222"),
  ("requestId", .string "11111111-1111-4111-8111-111111111111"),
  ("sender", .record [("sessionId", .string "session"), ("runtimeId", .string "runtime-b")]),
  ("recipientRuntimeId", .string "runtime-a"), ("roomId", .string "r1-0123456789abcdef0123456789abcdef"),
  ("createdAt", .string "2026-01-01T00:00:00.000Z"), ("expiresAt", .string "2026-01-01T00:01:00.000Z"),
  ("traceId", .string "0123456789abcdef0123456789abcdef"),
  ("parentOperationId", .string "11111111-1111-4111-8111-111111111111"),
  ("payload", .record [("outcome", .string "completed"),
    ("content", .record [("type", .string "json"), ("value", .number (.ofNat 7))])])]

/-- What the router of a runtime does on an event where no callback throws. -/
def acts (runtimeId : JsString) (r : MessageRouter) (event : RouterEvent) : MessageRouter :=
  ((perform (sampleConfig runtimeId) event).run r).1

def played (runtimeId : JsString) (events : List RouterEvent) : MessageRouter :=
  events.foldl (acts runtimeId) sampleRouter

def answering : List RouterEvent :=
  [.inbound (.object sampleRequest) none none, .executorCalled 0,
    .executorReturned 0 (.content (.json (.number (.ofNat 7))))]

def asking : List RouterEvent := [.sendRequest sampleRequest, .inbound (.object sampleReply) none none]

open Validation in
/-- The kernel does not sort by itself: what the one text is, is put in its place. -/
theorem canonicalizeJson_pinned {envelope : Json} (data : isJsonData envelope = true) :
    @canonicalizeJson = fun value =>
      if value = fingerprintData envelope then some (projectionText envelope) else canonicalizeJson value := by
  funext value
  split
  · rename_i same
    rw [same, canonical_fingerprintData data]
  · rfl

theorem played_answering : (played "runtime-b" answering).sent = [sampleReply] ∧
    (played "runtime-b" answering).taskStore.nextRecord = 1 ∧
      ((played "runtime-b" answering).taskStore.heap 0).state = .completed ∧
        ((played "runtime-b" answering).taskStore.heap 0).responseContract =
          some ⟨.object none [("type", .string "number")]⟩ := by
  have data : Validation.isJsonData sampleRequest = true := by decide +kernel
  -- the run is named, so that it is computed once
  have ran : ∀ r, r = played "runtime-b" answering → r.sent = [sampleReply] ∧ r.taskStore.nextRecord = 1 ∧
      (r.taskStore.heap 0).state = .completed ∧
        (r.taskStore.heap 0).responseContract = some ⟨.object none [("type", .string "number")]⟩ := by
    delta played acts perform processInbound dispatchEnvelope processMessageRequest inspectOperation reserveRequest
      requests Validation.validatedRequestProjection
    rw [canonicalizeJson_pinned data]
    intro r same
    rw [same]
    decide +kernel
  exact ran _ rfl

theorem played_asking : (played "runtime-a" [.sendRequest sampleRequest]).sent = [sampleRequest] ∧
    ((played "runtime-a" asking).outboundRequests.get? "11111111-1111-4111-8111-111111111111").map
      (fun record => (record.expectedTargetRuntimeId, record.completion.map TaskSnapshot.state)) =
        some (("runtime-b" : JsString), some TaskState.completed) := by
  have data : Validation.isJsonData sampleReply = true := by decide +kernel
  have ran : ∀ r s, r = played "runtime-a" [.sendRequest sampleRequest] → s = played "runtime-a" asking →
      r.sent = [sampleRequest] ∧ (s.outboundRequests.get? "11111111-1111-4111-8111-111111111111").map
        (fun record => (record.expectedTargetRuntimeId, record.completion.map TaskSnapshot.state)) =
          some (("runtime-b" : JsString), some TaskState.completed) := by
    delta played acts perform processInbound dispatchEnvelope processMessageReply inspectOperation reserveOperation
      requests Validation.validatedRequestProjection
    rw [canonicalizeJson_pinned data]
    intro r s sent answered
    rw [sent, answered]
    decide +kernel
  exact ran _ _ rfl rfl

theorem sampleRouter_made : Made sampleRouter :=
  ⟨rfl, rfl, fun _ => rfl, rfl, rfl, rfl, rfl, rfl, rfl, rfl, rfl, rfl, rfl⟩

theorem acts_step {runtimeId : JsString} (event : RouterEvent) (proper : Proper r event) :
    (properSystem (sampleConfig runtimeId)).step r event (acts runtimeId r event) := ⟨proper, _, Code.ends_run _ _⟩

theorem played_reachable {runtimeId : JsString} {events : List RouterEvent}
    (proper : System.AllMeet Proper (acts runtimeId) sampleRouter events) :
    (properSystem (sampleConfig runtimeId)).Reachable (played runtimeId events) :=
  System.Reachable.run_restrict (S := routerSystem (sampleConfig runtimeId)) (fun _ _ => ⟨_, Code.ends_run _ _⟩)
    (.init sampleRouter_made) proper

end Sample

section Promises

variable {c : RouterConfig}

/-- **A requester hears how its task has ended at most once, and truly**: of the terminal replies a
router ever sends no two are about one request, and each goes to the owner of a task that has ended,
and tells the snapshot it has ended with. -/
theorem replies_once_and_truly (retains : Retains c) (reached : (properSystem c).Reachable r) :
    ((r.sent.filter IsReply).map Envelope.requestId).Nodup ∧
      ∀ reply ∈ r.sent, IsReply reply → ∃ q < r.taskStore.nextRecord,
        (r.taskStore.heap q).requestId = Envelope.requestId reply ∧ Tells c reply (r.taskStore.heap q) :=
  have safe := safe_reachable retains reached
  ⟨safe.once, safe.replied⟩

theorem replies_once_and_truly_sample : (played "runtime-b" answering).sent.filter IsReply = [sampleReply] ∧
    (((played "runtime-b" answering).sent.filter IsReply).map Envelope.requestId).Nodup ∧
      ∀ reply ∈ (played "runtime-b" answering).sent, IsReply reply →
        ∃ q < (played "runtime-b" answering).taskStore.nextRecord,
          ((played "runtime-b" answering).taskStore.heap q).requestId = Envelope.requestId reply ∧
            Tells (sampleConfig "runtime-b") reply ((played "runtime-b" answering).taskStore.heap q) := by
  refine ⟨?_, replies_once_and_truly rfl (played_reachable ⟨trivial, trivial, trivial, trivial⟩)⟩
  have sent := played_answering.1
  rw [sent]
  rfl

/-- **A completion is final**: what the completion of a request has been resolved with at any time
of a run is how its task has ended, it is so for ever, and the request is still that request. -/
theorem completion_final (retains : Retains c) (run : (properSystem c).Trace history r) (visited : System.Visited history r x)
    (here : x.outboundRequests.get? requestId = some record) (resolved : record.completion = some snapshot) :
    (∃ later, r.outboundRequests.get? requestId = some later ∧ later.envelope = record.envelope ∧
      later.completion = some snapshot) ∧
        HasTask r.taskStore requestId fun task => task.ownership = .outbound ∧ task.snapshot = snapshot ∧
          isTerminalTaskState snapshot.state = true := by
  have still : StillRegistered x r := by
    refine run.visited_rel StillRegistered.refl (fun x s event s' reached so_far step => so_far.trans ?_) visited
    have safe := safe_reachable retains reached
    exact Changes.stillRegistered retains step.1.sends safe (changes_of_step retains safe.ordered step.2)
  obtain ⟨later, there, same, kept⟩ := still requestId record here
  have safe := safe_reachable retains ⟨history, run⟩
  refine ⟨⟨later, there, same, kept snapshot resolved⟩, ?_⟩
  obtain ⟨agrees, ended⟩ := safe.completion requestId later there
  obtain ⟨q, made, named, requested⟩ := safe.registered requestId later there
  obtain ⟨q', made', named', same', terminal⟩ := ended snapshot (agrees.symm.trans (kept snapshot resolved))
  obtain rfl := safe.ordered.ledger.distinct q made q' made' (named.trans named'.symm)
  exact ⟨q, made, named, requested.ownership, same', terminal⟩

theorem completion_final_sample : ∃ record snapshot,
    (played "runtime-a" asking).outboundRequests.get? "11111111-1111-4111-8111-111111111111" = some record ∧
      record.completion = some snapshot ∧
        ∃ later, (acts "runtime-a" (played "runtime-a" asking) .close).outboundRequests.get?
          "11111111-1111-4111-8111-111111111111" = some later ∧ later.completion = some snapshot := by
  obtain ⟨record, here, resolved⟩ := Option.map_eq_some_iff.mp played_asking.2
  obtain ⟨snapshot, completed, _⟩ := Option.map_eq_some_iff.mp (Prod.mk.inj resolved).2
  have reached : (properSystem (sampleConfig "runtime-a")).Reachable (played "runtime-a" asking) :=
    played_reachable ⟨rfl, trivial, trivial⟩
  obtain ⟨history, run⟩ := reached
  have closed := run.step (acts_step .close trivial)
  obtain ⟨⟨later, there, _, same⟩, _⟩ := completion_final (c := sampleConfig "runtime-a") rfl closed
    (.inr ⟨.close, List.mem_cons_self⟩) here completed
  exact ⟨record, snapshot, here, completed, later, there, same⟩

end Promises
end PiToPi.Routing
