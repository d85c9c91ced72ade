import PiToPi.Outbound
import PiToPi.TaskStoreProofs
import PiToPi.ValidationProofs

/-!
Which response settles which call. The entries of `pending` are described once, as what a
response may do to them (`Handling`); correlation and the bookkeeping of waiters follow.
-/
namespace PiToPi.Outbound
open Reentrant Transition Validation

section Steps

variable {options : TaskStoreOptions} {s : Router}

theorem calls_setDelivery (s : Router) (c i : CallId) (delivery : Delivery) :
    (s.setDelivery c delivery).calls[i]? =
      (s.calls[i]?).map fun call => if c = i then { call with delivery } else call := by
  unfold Router.setDelivery
  dsimp only
  rw [List.getElem?_modify]
  rfl

theorem calls_settle (s : Router) (c i : CallId) (settlement : Settlement) :
    (s.settle c settlement).calls[i]? = (s.calls[i]?).map fun call =>
      if c = i then { call with response := call.response.or (some settlement) } else call := by
  unfold Router.settle
  dsimp only
  rw [List.getElem?_modify]
  rfl

theorem operationIdOf_accepted {host : Host} {options : ValidationOptions} {raw : Json}
    {response : OperationResponse} (accepted : Accepted host options raw response) :
    Router.operationIdOf raw = some response.operationId := by
  have record : raw.isRecord = true := by
    have plain := accepted.plain
    cases raw with
    | object readOnly members => rfl
    | null | bool _ | number _ | string _ | array _ => cases plain
  unfold Router.operationIdOf
  rw [if_pos record, accepted.operationId]
  rfl

/-- What giving a response to `processResponse` can do. -/
inductive Handling (options : TaskStoreOptions) (s : Router) (raw : Json) (wall : Option ℚ) :
    Router × Except Thrown Unit → Prop
  /-- The clock or the validator throws. -/
  | threw (thrown : Thrown)
      (unchecked : ∀ now validated, wall = some now →
        validateOperationResponse options.host (s.responseOptions raw now) raw ≠ .ok validated) :
      Handling options s raw wall (s, .error thrown)
  /-- Nothing waits for it. -/
  | ignored (absent : s.pendingFor raw = none) : Handling options s raw wall (s, .ok ())
  /-- It is not valid. -/
  | invalid {operationId : JsString} {pending : PendingOperation} {error : ProtocolError}
      (named : Router.operationIdOf raw = some operationId)
      (held : s.pending.get? operationId = some pending) :
      Handling options s raw wall ((s.settle pending.call (.invalid error)).forget operationId, .ok ())
  /-- It is an error. -/
  | failed {operationId : JsString} {pending : PendingOperation} {error : Json}
      (named : Router.operationIdOf raw = some operationId)
      (held : s.pending.get? operationId = some pending) :
      Handling options s raw wall ((s.forget operationId).settle pending.call (.failed error), .ok ())
  /-- It is a result. -/
  | resolved {pending : PendingOperation} {now : ℚ} {response : OperationResponse} {result : Json}
      {taskStore : TaskStore} {outboundRequests : JsMap JsString OutboundRequestRecord}
      (clock : wall = some now)
      (valid : validateOperationResponse options.host (s.responseOptions raw now) raw =
        .ok (.success response))
      (held : s.pending.get? response.operationId = some pending)
      (outcome : response.outcome = .ok result) :
      Handling options s raw wall
        (({ s.forget response.operationId with taskStore, outboundRequests }).settle pending.call
          (.resolved response), .ok ())
  /-- It is a result, and the task store throws. -/
  | lost {pending : PendingOperation} {now : ℚ} {response : OperationResponse} {result : Json}
      {requestId : JsString} {taskStore : TaskStore} {thrown : StoreError} (clock : wall = some now)
      (valid : validateOperationResponse options.host (s.responseOptions raw now) raw =
        .ok (.success response))
      (held : s.pending.get? response.operationId = some pending)
      (outcome : response.outcome = .ok result)
      (task : s.admitted pending response result = some requestId)
      (moved : ((Router.admission options requestId result).run s.taskStore).2 = .error thrown) :
      Handling options s raw wall
        ({ s.forget response.operationId with taskStore }, .error (.store thrown))

theorem processResponse_handling (options : TaskStoreOptions) (s : Router) (raw : Json)
    (wall : Option ℚ) : Handling options s raw wall (s.processResponse options raw wall) := by
  unfold Router.processResponse
  cases wall with
  | none => exact .threw _ nofun
  | some now =>
    dsimp only
    cases valid : validateOperationResponse options.host (s.responseOptions raw now) raw with
    | error message =>
      apply Handling.threw
      rintro _ validated ⟨⟩ accepted
      rw [valid] at accepted
      cases accepted
    | ok validated =>
      cases validated with
      | failure error =>
        dsimp only [Router.rejectPending]
        cases named : Router.operationIdOf raw with
        | none =>
          apply Handling.ignored
          unfold Router.pendingFor
          rw [named]
          rfl
        | some operationId =>
          have found : s.pendingFor raw = s.pending.get? operationId := by
            unfold Router.pendingFor
            rw [named]
            rfl
          cases held : s.pending.get? operationId with
          | none =>
            rw [found, held]
            exact .ignored (found.trans held)
          | some pending =>
            rw [found, held]
            exact .invalid named held
      | success response =>
        have accepted := validateOperationResponse_success valid
        have named := operationIdOf_accepted accepted
        dsimp only [Router.applyResponse]
        cases held : s.pending.get? response.operationId with
        | none =>
          apply Handling.ignored
          unfold Router.pendingFor
          rw [named]
          exact held
        | some pending =>
          dsimp only
          cases outcome : response.outcome with
          | error error => exact .failed named held
          | ok result =>
            dsimp only [Router.admitTask]
            cases task : (s.forget response.operationId).admitted pending response result with
            | none =>
              exact @Handling.resolved options s raw _ pending now response result s.taskStore
                s.outboundRequests rfl valid held outcome
            | some requestId =>
              dsimp only
              cases moved : ((Router.admission options requestId result).run
                  (s.forget response.operationId).taskStore).2 with
              | error thrown => exact .lost rfl valid held outcome task moved
              | ok done => exact .resolved rfl valid held outcome

/-- The calls stay, with their envelopes, and no entry is new. -/
structure Keeps (s s' : Router) : Prop where
  calls : ∀ (c : CallId) (call : Call), s.calls[c]? = some call →
    ∃ call' : Call, s'.calls[c]? = some call' ∧ call'.envelope = call.envelope
  entries : ∀ operationId pending, s'.pending.get? operationId = some pending →
    s.pending.get? operationId = some pending

theorem Keeps.refl (s : Router) : Keeps s s := ⟨fun _ call here => ⟨call, here, rfl⟩, fun _ _ held => held⟩

theorem Keeps.trans {a b c : Router} (first : Keeps a b) (second : Keeps b c) : Keeps a c where
  calls i call here := by
    obtain ⟨call', there, same⟩ := first.calls i call here
    obtain ⟨call'', last, same'⟩ := second.calls i call' there
    exact ⟨call'', last, same'.trans same⟩
  entries operationId pending held := first.entries _ _ (second.entries _ _ held)

theorem keeps_settle (s : Router) (c : CallId) (settlement : Settlement) : Keeps s (s.settle c settlement) where
  calls i call here := by
    rw [calls_settle, here]
    refine ⟨_, rfl, ?_⟩
    split <;> rfl
  entries _ _ held := held

theorem keeps_setDelivery (s : Router) (c : CallId) (delivery : Delivery) :
    Keeps s (s.setDelivery c delivery) where
  calls i call here := by
    rw [calls_setDelivery, here]
    refine ⟨_, rfl, ?_⟩
    split <;> rfl
  entries _ _ held := held

theorem keeps_forget (s : Router) (operationId : JsString) : Keeps s (s.forget operationId) where
  calls _ call here := ⟨call, here, rfl⟩
  entries _ _ held := (JsMap.get?_delete_eq_some_iff.mp held).2

theorem keeps_tasks (s : Router) (taskStore : TaskStore)
    (outboundRequests : JsMap JsString OutboundRequestRecord) :
    Keeps s { s with taskStore, outboundRequests } :=
  ⟨fun _ call here => ⟨call, here, rfl⟩, fun _ _ held => held⟩

theorem Handling.keeps {raw : Json} {wall : Option ℚ} {after : Router × Except Thrown Unit}
    (handled : Handling options s raw wall after) : Keeps s after.1 := by
  cases handled with
  | threw thrown unchecked => exact Keeps.refl s
  | ignored absent => exact Keeps.refl s
  | invalid named held => exact (keeps_settle s _ _).trans (keeps_forget _ _)
  | failed named held => exact (keeps_forget s _).trans (keeps_settle _ _ _)
  | resolved clock valid held outcome =>
    exact ((keeps_forget s _).trans (keeps_tasks _ _ _)).trans (keeps_settle _ _ _)
  | lost clock valid held outcome task moved => exact (keeps_forget s _).trans (keeps_tasks _ _ _)

/-- An exchange gives the response to `processResponse`, and fails if that throws. -/
theorem exchange_eq (options : TaskStoreOptions) (s : Router) (c : CallId) (raw : Json) (wall : Option ℚ) :
    ∃ delivery, s.exchange options c raw wall = (s.processResponse options raw wall).1.setDelivery c delivery ∧
      ((delivery = .processed ∧ (s.processResponse options raw wall).2 = .ok ()) ∨ delivery = .failing) := by
  unfold Router.exchange
  rcases s.processResponse options raw wall with ⟨t, _ | _⟩
  · exact ⟨_, rfl, .inr rfl⟩
  · exact ⟨_, rfl, .inl ⟨rfl, rfl⟩⟩

theorem keeps_exchange (options : TaskStoreOptions) (s : Router) (c : CallId) (raw : Json)
    (wall : Option ℚ) : Keeps s (s.exchange options c raw wall) := by
  obtain ⟨delivery, exchanged, -⟩ := exchange_eq options s c raw wall
  rw [exchanged]
  exact (processResponse_handling options s raw wall).keeps.trans (keeps_setDelivery _ _ _)

theorem keeps_endDelivery (s : Router) (c : CallId) (result : Delivery) : Keeps s (s.endDelivery c result) := by
  unfold Router.endDelivery
  split
  · exact Keeps.refl s
  · split
    · exact (keeps_forget s _).trans (keeps_setDelivery _ _ _)
    · exact keeps_setDelivery _ _ _

theorem keeps_settleAll (entries : List PendingOperation) (s : Router) :
    Keeps s (entries.foldl (fun s pending => s.settle pending.call .closed) s) := by
  induction entries generalizing s with
  | nil => exact Keeps.refl s
  | cons pending rest ih => exact (keeps_settle s _ _).trans (ih _)

theorem keeps_close (s : Router) (taskStore : TaskStore) : Keeps s (s.close taskStore) := by
  unfold Router.close
  split
  · exact Keeps.refl s
  · exact ⟨(keeps_settleAll s.pending.values s).calls, nofun⟩

/-- A call that is made takes the next number. -/
theorem calls_sendAndWait (s : Router) (envelope : SentEnvelope) : ∃ delivery,
    (s.sendAndWait envelope).calls = s.calls ++ [{ envelope, delivery, response := none }] := by
  unfold Router.sendAndWait
  split
  · exact ⟨_, rfl⟩
  · exact ⟨_, rfl⟩

/-- What is pending is a call, under its operation id and with the request it names. -/
def Entries (s : Router) : Prop :=
  ∀ operationId pending, s.pending.get? operationId = some pending → ∃ call : Call,
    s.calls[pending.call]? = some call ∧ call.envelope.operationId = operationId ∧
      pending.requestId = call.envelope.namedRequest

theorem Entries.of_keeps {s' : Router} (entries : Entries s) (keeps : Keeps s s') : Entries s' := by
  intro operationId pending held
  obtain ⟨call, here, same, named⟩ := entries _ _ (keeps.entries _ _ held)
  obtain ⟨call', there, envelope⟩ := keeps.calls _ _ here
  exact ⟨call', there, by rw [envelope, same], by rw [envelope, named]⟩

theorem Entries.sendAndWait (entries : Entries s) (envelope : SentEnvelope) :
    Entries (s.sendAndWait envelope) := by
  obtain ⟨delivery, calls⟩ := calls_sendAndWait s envelope
  have old : ∀ (c : CallId) (call : Call), s.calls[c]? = some call → (s.sendAndWait envelope).calls[c]? = some call := by
    intro c call here
    rw [calls, List.getElem?_append_left (List.getElem?_eq_some_iff.mp here).1, here]
  intro operationId pending held
  have cases : s.pending.get? operationId = some pending ∨ (operationId = envelope.operationId ∧
      pending = ⟨envelope.operation, envelope.namedRequest, s.calls.length⟩) := by
    unfold Router.sendAndWait at held
    split at held
    · exact .inl held
    · dsimp only at held
      rw [JsMap.get?_set] at held
      split at held
      · rename_i same
        cases held
        exact .inr ⟨same, rfl⟩
      · exact .inl held
  rcases cases with before | ⟨rfl, rfl⟩
  · obtain ⟨call, here, rest⟩ := entries _ _ before
    exact ⟨call, old _ _ here, rest⟩
  · refine ⟨{ envelope, delivery, response := none }, ?_, rfl, rfl⟩
    rw [calls, List.getElem?_concat_length]

theorem entries_step {bridged : Bool} {label : Label} {s' : Router} (entries : Entries s)
    (taken : (system options bridged).step s label s') : Entries s' := by
  obtain ⟨-, rfl⟩ := taken
  cases label with
  | send envelope => exact entries.sendAndWait envelope
  | ended c result => exact entries.of_keeps (keeps_endDelivery s c result)
  | respond raw wall => exact entries.of_keeps (processResponse_handling options s raw wall).keeps
  | exchange c raw wall => exact entries.of_keeps (keeps_exchange options s c raw wall)
  | close taskStore => exact entries.of_keeps (keeps_close s taskStore)
  | elsewhere taskStore outboundRequests => exact entries.of_keeps (keeps_tasks s taskStore outboundRequests)

theorem entries_reachable {bridged : Bool} (reached : (system options bridged).Reachable s) : Entries s := by
  apply reached.invariant
  · rintro s ⟨empty, -, -⟩ operationId pending held
    rw [empty] at held
    cases held
  · intro s label s' entries taken
    exact entries_step entries taken

end Steps

section Correlation

variable {options : TaskStoreOptions} {s : Router}

/-- A response is one to an envelope. -/
structure CorrelatesWith (envelope : SentEnvelope) (raw : Json) : Prop where
  operationId : raw.get? "operationId" = some (.string envelope.operationId)
  operation : raw.get? "operation" = some (.string envelope.operation.name)
  traceId : raw.get? "traceId" = some (.string envelope.traceId)
  request : ∀ requestId ∈ envelope.namedRequest, ∀ result, raw.get? "result" = some result →
    AboutRequest envelope.operation result requestId

/-- A step resolves a call with a response. -/
def Resolves (s s' : Router) (c : CallId) (response : OperationResponse) : Prop :=
  ∃ call call' : Call, s.calls[c]? = some call ∧ call.response = none ∧ s'.calls[c]? = some call' ∧
    call'.response = some (.resolved response)

/-- A call is resolved only by a response to its envelope, with a result of its operation; a
response to no pending operation moves no task and resolves no call. -/
structure Correlated (s : Router) (label : Label) (s' : Router) : Prop where
  resolved : ∀ (c : CallId) (call : Call) (response : OperationResponse), s.calls[c]? = some call → Resolves s s' c response →
    ∃ raw wall result, label.response = some (raw, wall) ∧ CorrelatesWith call.envelope raw ∧
      response.outcome = .ok result ∧ raw.get? "result" = some result ∧
      ResultOf call.envelope.operation result
  unrelated : ∀ raw wall, label.response = some (raw, wall) →
    (∀ (operationId : JsString) (pending : PendingOperation) (call : Call),
      s.pending.get? operationId = some pending →
      s.calls[pending.call]? = some call → ¬CorrelatesWith call.envelope raw) →
    s'.taskStore = s.taskStore ∧ s'.outboundRequests = s.outboundRequests ∧
      ∀ c response, ¬Resolves s s' c response

/-- The validator accepts a response, and it has a result. -/
def AcceptsResult (host : Host) (options : ValidationOptions) (raw : Json) : Prop :=
  ∃ response result, validateOperationResponse host options raw = .ok (.success response) ∧
    response.outcome = .ok result

/-- The results that are accepted for pending operations have the operation and the trace id
of the envelopes sent. -/
def Echoed (options : TaskStoreOptions) (s : Router) (label : Label) : Prop :=
  ∀ (raw : Json) (now : ℚ) (operationId : JsString) (pending : PendingOperation) (call : Call),
    label.response = some (raw, some now) →
    AcceptsResult options.host (s.responseOptions raw now) raw →
    raw.get? "operationId" = some (.string operationId) →
    s.pending.get? operationId = some pending → s.calls[pending.call]? = some call →
    raw.get? "operation" = some (.string call.envelope.operation.name) ∧
      raw.get? "traceId" = some (.string call.envelope.traceId)

theorem not_resolves_self (s : Router) (c : CallId) (response : OperationResponse) : ¬Resolves s s c response := by
  rintro ⟨call, call', here, unsettled, there, settled⟩
  obtain rfl := Option.some.inj (here.symm.trans there)
  rw [unsettled] at settled
  cases settled

theorem resolves_calls {t t' : Router} {c : CallId} {response : OperationResponse} (same : t'.calls = t.calls)
    (resolves : Resolves s t' c response) : Resolves s t c response := by
  unfold Resolves at resolves ⊢
  rw [← same]
  exact resolves

theorem resolves_settle {t : Router} {c' c : CallId} {settlement : Settlement} {response : OperationResponse}
    (resolves : Resolves s (t.settle c' settlement) c response) :
    Resolves s t c response ∨ (c = c' ∧ settlement = .resolved response) := by
  obtain ⟨call, call', here, unsettled, there, settled⟩ := resolves
  rw [calls_settle] at there
  obtain ⟨before, held, rfl⟩ := Option.map_eq_some_iff.mp there
  by_cases same : c' = c
  · rw [if_pos same] at settled
    cases answered : before.response with
    | none =>
      rw [answered] at settled
      cases settled
      exact .inr ⟨same.symm, rfl⟩
    | some other =>
      rw [answered] at settled
      exact .inl ⟨call, before, here, unsettled, held, answered.trans settled⟩
  · rw [if_neg same] at settled
    exact .inl ⟨call, before, here, unsettled, held, settled⟩

theorem resolves_setDelivery {t : Router} {c' c : CallId} {delivery : Delivery} {response : OperationResponse}
    (resolves : Resolves s (t.setDelivery c' delivery) c response) : Resolves s t c response := by
  obtain ⟨call, call', here, unsettled, there, settled⟩ := resolves
  rw [calls_setDelivery] at there
  obtain ⟨before, held, rfl⟩ := Option.map_eq_some_iff.mp there
  refine ⟨call, before, here, unsettled, held, ?_⟩
  split at settled <;> exact settled

theorem resolves_settleAll (entries : List PendingOperation) {t : Router} {c : CallId}
    {response : OperationResponse}
    (resolves : Resolves s (entries.foldl (fun s pending => s.settle pending.call .closed) t) c response) :
    Resolves s t c response := by
  induction entries generalizing t with
  | nil => exact resolves
  | cons pending rest ih =>
    rcases resolves_settle (ih resolves) with before | ⟨_, absurd⟩
    · exact before
    · cases absurd

/-- What a step does that brings no response. -/
theorem not_resolves_of_no_response {bridged : Bool} {label : Label} {s' : Router}
    (taken : (system options bridged).step s label s') (silent : label.response = none) (c : CallId)
    (response : OperationResponse) : ¬Resolves s s' c response := by
  obtain ⟨-, rfl⟩ := taken
  intro resolves
  cases label with
  | send envelope =>
    obtain ⟨delivery, calls⟩ := calls_sendAndWait s envelope
    obtain ⟨call, call', here, unsettled, there, settled⟩ := resolves
    change (s.sendAndWait envelope).calls[c]? = _ at there
    rw [calls, List.getElem?_append_left (List.getElem?_eq_some_iff.mp here).1, here] at there
    obtain rfl := Option.some.inj there
    rw [unsettled] at settled
    cases settled
  | ended c' result =>
    change Resolves s (s.endDelivery c' result) c response at resolves
    unfold Router.endDelivery at resolves
    split at resolves
    · exact not_resolves_self s c response resolves
    · split at resolves
      · exact not_resolves_self s c response (resolves_calls rfl (resolves_setDelivery resolves))
      · exact not_resolves_self s c response (resolves_setDelivery resolves)
  | respond raw wall => cases silent
  | exchange c' raw wall => cases silent
  | close taskStore =>
    change Resolves s (s.close taskStore) c response at resolves
    unfold Router.close at resolves
    split at resolves
    · exact not_resolves_self s c response resolves
    · exact not_resolves_self s c response (resolves_settleAll s.pending.values (resolves_calls rfl resolves))
  | elsewhere taskStore outboundRequests =>
    exact not_resolves_self s c response (resolves_calls rfl resolves)

/-- A result that is accepted for a pending operation correlates with its envelope. -/
theorem correlates_of_echoed {label : Label} {raw : Json} {now : ℚ} {response : OperationResponse}
    {result : Json} {pending : PendingOperation} {call : Call} (echoed : Echoed options s label)
    (entries : Entries s) (brought : label.response = some (raw, some now))
    (valid : validateOperationResponse options.host (s.responseOptions raw now) raw =
      .ok (.success response))
    (held : s.pending.get? response.operationId = some pending) (outcome : response.outcome = .ok result)
    (here : s.calls[pending.call]? = some call) :
    CorrelatesWith call.envelope raw ∧ raw.get? "result" = some result ∧
      ResultOf call.envelope.operation result := by
  have accepted := validateOperationResponse_success valid
  obtain ⟨operation, traceId⟩ := echoed raw now response.operationId pending call brought
    ⟨response, result, valid, outcome⟩ accepted.operationId held here
  have same : response.operation = call.envelope.operation :=
    OperationName.name_injective (Json.string.inj (Option.some.inj (accepted.operation.symm.trans operation)))
  obtain ⟨given, checked⟩ := accepted.result result outcome
  obtain ⟨shape, about⟩ := validateResultForOperation_ok checked
  obtain ⟨call', there, operationId, named⟩ := entries _ _ held
  obtain rfl := Option.some.inj (here.symm.trans there)
  have expected : (s.responseOptions raw now).expectedRequestId = pending.requestId := by
    change (s.pendingFor raw).bind _ = _
    have found : s.pendingFor raw = some pending := by
      unfold Router.pendingFor
      rw [operationIdOf_accepted accepted]
      exact held
    rw [found]
    rfl
  refine ⟨⟨?_, operation, traceId, ?_⟩, given, same ▸ shape⟩
  · rw [operationId]
    exact accepted.operationId
  · intro requestId member result' given'
    obtain rfl := Option.some.inj (given.symm.trans given')
    rw [← same]
    apply about
    rw [expected, named]
    exact member

/-- The response of a step, as it is handled. -/
theorem handling_of_response {bridged : Bool} {label : Label} {s' : Router} {raw : Json} {wall : Option ℚ}
    (taken : (system options bridged).step s label s') (brought : label.response = some (raw, wall)) :
    ∃ t outcome, Handling options s raw wall (t, outcome) ∧ s'.taskStore = t.taskStore ∧
      s'.outboundRequests = t.outboundRequests ∧
      ∀ c response, Resolves s s' c response → Resolves s t c response := by
  obtain ⟨-, rfl⟩ := taken
  cases label with
  | respond raw' wall' =>
    cases brought
    exact ⟨_, _, processResponse_handling options s raw wall, rfl, rfl, fun _ _ resolves => resolves⟩
  | exchange c raw' wall' =>
    cases brought
    refine ⟨_, _, processResponse_handling options s raw wall, ?_⟩
    obtain ⟨delivery, exchanged, -⟩ := exchange_eq options s c raw wall
    dsimp only [Label.apply]
    rw [exchanged]
    exact ⟨rfl, rfl, fun _ _ resolves => resolves_setDelivery resolves⟩
  | send envelope => cases brought
  | ended c result => cases brought
  | close taskStore => cases brought
  | elsewhere taskStore outboundRequests => cases brought

/-- A response resolves a call as one that was accepted for its entry. -/
theorem Handling.resolves {raw : Json} {wall : Option ℚ} {t : Router} {outcome : Except Thrown Unit}
    {c : CallId} {response : OperationResponse} (handled : Handling options s raw wall (t, outcome))
    (resolves : Resolves s t c response) : ∃ now pending result, wall = some now ∧
      validateOperationResponse options.host (s.responseOptions raw now) raw = .ok (.success response) ∧
      s.pending.get? response.operationId = some pending ∧ response.outcome = .ok result ∧
      pending.call = c := by
  cases handled with
  | threw thrown unchecked => exact (not_resolves_self s c response resolves).elim
  | ignored absent => exact (not_resolves_self s c response resolves).elim
  | invalid named held =>
    rcases resolves_settle (resolves_calls rfl resolves) with before | ⟨_, absurd⟩
    · exact (not_resolves_self s c response before).elim
    · cases absurd
  | failed named held =>
    rcases resolves_settle resolves with before | ⟨_, absurd⟩
    · exact (not_resolves_self s c response (resolves_calls rfl before)).elim
    · cases absurd
  | resolved clock valid held outcome =>
    rcases resolves_settle resolves with before | ⟨rfl, same⟩
    · exact (not_resolves_self s c response (resolves_calls rfl before)).elim
    · cases same
      exact ⟨_, _, _, clock, valid, held, outcome, rfl⟩
  | lost clock valid held outcome task moved =>
    exact (not_resolves_self s c response (resolves_calls rfl resolves)).elim

/-- Tasks move with a result that is accepted for a pending operation only. -/
theorem Handling.moves {raw : Json} {wall : Option ℚ} {t : Router} {outcome : Except Thrown Unit}
    (handled : Handling options s raw wall (t, outcome)) :
    (t.taskStore = s.taskStore ∧ t.outboundRequests = s.outboundRequests) ∨
      ∃ now response pending result, wall = some now ∧
        validateOperationResponse options.host (s.responseOptions raw now) raw = .ok (.success response) ∧
        s.pending.get? response.operationId = some pending ∧ response.outcome = .ok result := by
  cases handled with
  | threw thrown unchecked => exact .inl ⟨rfl, rfl⟩
  | ignored absent => exact .inl ⟨rfl, rfl⟩
  | invalid named held => exact .inl ⟨rfl, rfl⟩
  | failed named held => exact .inl ⟨rfl, rfl⟩
  | resolved clock valid held outcome => exact .inr ⟨_, _, _, _, clock, valid, held, outcome⟩
  | lost clock valid held outcome task moved => exact .inr ⟨_, _, _, _, clock, valid, held, outcome⟩

theorem correlated_step {bridged : Bool} {label : Label} {s' : Router} (entries : Entries s)
    (echoed : Echoed options s label) (taken : (system options bridged).step s label s') :
    Correlated s label s' := by
  constructor
  · intro c call response here resolves
    cases brought : label.response with
    | none => exact (not_resolves_of_no_response taken brought c response resolves).elim
    | some given =>
      obtain ⟨raw, wall⟩ := given
      obtain ⟨t, outcome, handled, _, _, back⟩ := handling_of_response taken brought
      obtain ⟨now, pending, result, rfl, valid, held, succeeded, rfl⟩ :=
        handled.resolves (back c response resolves)
      obtain ⟨correlates, given, shape⟩ :=
        correlates_of_echoed echoed entries brought valid held succeeded here
      exact ⟨raw, some now, result, rfl, correlates, succeeded, given, shape⟩
  · intro raw wall brought unrelated
    obtain ⟨t, outcome, handled, tasks, requests, back⟩ := handling_of_response taken brought
    have none_accepted : ∀ now response pending result, wall = some now →
        validateOperationResponse options.host (s.responseOptions raw now) raw = .ok (.success response) →
        s.pending.get? response.operationId = some pending → response.outcome = .ok result → False := by
      rintro now response pending result rfl valid held succeeded
      obtain ⟨call, here, _⟩ := entries _ _ held
      obtain ⟨correlates, _⟩ := correlates_of_echoed echoed entries brought valid held succeeded here
      exact unrelated _ pending call held here correlates
    refine ⟨?_, ?_, ?_⟩
    · rcases handled.moves with ⟨same, _⟩ | ⟨now, response, pending, result, clock, valid, held, succeeded⟩
      · exact tasks.trans same
      · exact (none_accepted now response pending result clock valid held succeeded).elim
    · rcases handled.moves with ⟨_, same⟩ | ⟨now, response, pending, result, clock, valid, held, succeeded⟩
      · exact requests.trans same
      · exact (none_accepted now response pending result clock valid held succeeded).elim
    · intro c response resolves
      obtain ⟨now, pending, result, clock, valid, held, succeeded, _⟩ :=
        handled.resolves (back c response resolves)
      exact none_accepted now response pending result clock valid held succeeded

/-- In every run whose accepted results echo the envelopes sent, calls are resolved only by
responses to them, and other responses move nothing. -/
theorem responses_correlate {bridged : Bool} {history : List (Router × Label)} {s : Router}
    (run : (system options bridged).Trace history s)
    (echoed : ∀ step ∈ history, Echoed options step.1 step.2) {x y : Router} {label : Label}
    (passed : System.Passed history s x label y) : Correlated x label y := by
  obtain ⟨reached, met, taken⟩ := (run.restrict echoed).passed_step passed
  obtain ⟨earlier, path⟩ := reached
  exact correlated_step (entries_reachable ⟨earlier, path.of_restrict⟩) met taken

/-- A router that has sent nothing. -/
def sampleRouter : Router where
  limits := ceilingLimits
  pending := ∅
  calls := []
  outboundRequests := ∅
  taskStore := TaskStoreProofs.sampleStore
  closed := false

def firstId : JsString := "11111111-1111-4111-8111-111111111111"

def sampleTrace : JsString := "0123456789abcdef0123456789abcdef"

def otherTrace : JsString := "fedcba9876543210fedcba9876543210"

/-- A notification. -/
def sampleNotification : SentEnvelope := ⟨.messageNotify, firstId, sampleTrace, none⟩

/-- The response to a notification with a trace id. -/
def notified (traceId : JsString) : Json :=
  .record [("protocolVersion", .string "1.0"), ("operation", .string "message.notify"),
    ("operationId", .string firstId), ("traceId", .string traceId),
    ("result", .record [("delivered", .bool true)])]

/-- The router once it has sent the notification. -/
def notifying : Router := sampleRouter.sendAndWait sampleNotification

/-- The notification is sent and answered. -/
def answered (traceId : JsString) : Router :=
  (notifying.processResponse TaskStoreProofs.sampleOptions (notified traceId) (some 0)).1

theorem trace_notifying : (system TaskStoreProofs.sampleOptions false).Trace
    [(sampleRouter, .send sampleNotification)] notifying :=
  .step (.init ⟨rfl, rfl, rfl⟩) ⟨⟨nofun, nofun⟩, rfl⟩

theorem trace_answered (traceId : JsString) : (system TaskStoreProofs.sampleOptions false).Trace
    [(notifying, .respond (notified traceId) (some 0)), (sampleRouter, .send sampleNotification)]
    (answered traceId) :=
  trace_notifying.step ⟨trivial, rfl⟩

/-- The answer to the notification resolves it. -/
theorem answered_correlates : Correlated notifying (.respond (notified sampleTrace) (some 0))
    (answered sampleTrace) := by
  apply responses_correlate (trace_answered sampleTrace) _ (.inl ⟨rfl, rfl, rfl⟩)
  intro step member
  rcases List.mem_cons.mp member with rfl | member
  · rintro raw now operationId pending call ⟨⟩ - - held here
    obtain ⟨call', there, -, -⟩ := entries_reachable ⟨_, trace_notifying⟩ _ _ held
    obtain rfl := Option.some.inj (here.symm.trans there)
    have sent : call = ⟨sampleNotification, .underway, none⟩ := by
      obtain ⟨bound, rfl⟩ := List.getElem?_eq_some_iff.mp here
      have single : notifying.calls = [⟨sampleNotification, .underway, none⟩] := by decide +kernel
      rw [← List.mem_singleton, ← single]
      exact List.getElem_mem bound
    rw [sent]
    exact ⟨rfl, rfl⟩
  · obtain rfl := List.mem_singleton.mp member
    rintro raw now operationId pending call ⟨⟩

/-- A result with another trace id resolves the notification. -/
theorem other_trace_resolves : ∃ history s x label y,
    (system TaskStoreProofs.sampleOptions false).Trace history s ∧
      System.Passed history s x label y ∧ ¬Correlated x label y := by
  refine ⟨_, _, _, _, _, trace_answered otherTrace, .inl ⟨rfl, rfl, rfl⟩, fun correlated => ?_⟩
  let response : OperationResponse :=
    ⟨.messageNotify, firstId, otherTrace, .ok (.record [("delivered", .bool true)])⟩
  have after : (answered otherTrace).calls =
      [⟨sampleNotification, .underway, some (.resolved response)⟩] := by decide +kernel
  have resolves : Resolves notifying (answered otherTrace) 0 response := by
    refine ⟨⟨sampleNotification, .underway, none⟩, ⟨sampleNotification, .underway, some (.resolved response)⟩,
      by decide +kernel, rfl, ?_, rfl⟩
    rw [after]
    rfl
  obtain ⟨raw, wall, result, brought, correlates, -⟩ :=
    correlated.resolved 0 ⟨sampleNotification, .underway, none⟩ response (by decide +kernel) resolves
  obtain ⟨rfl, rfl⟩ := Prod.mk.inj (Option.some.inj brought)
  have traced : (notified otherTrace).get? "traceId" = some (.string otherTrace) := rfl
  have same := traced.symm.trans correlates.traceId
  exact absurd same (by decide +kernel)

end Correlation


end PiToPi.Outbound
