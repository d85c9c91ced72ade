import PiToPi.OutboundProofs

/-!
No waiter is lost: what is pending is what is still waited for, and a call that is answered,
fails or is closed is settled. Runs in which nothing takes an entry of another call keep this;
`Careful` says when a step takes none.
-/
namespace PiToPi.Outbound
open Reentrant Transition Validation

section Waiters

variable {options : TaskStoreOptions} {bridged : Bool}

/-- `pending` has an entry of a call. -/
def Holds (s : Router) (operationId : JsString) (c : CallId) : Prop :=
  ∃ pending : PendingOperation, s.pending.get? operationId = some pending ∧ pending.call = c

/-- A call waits for a response with an operation id. -/
def Waits (s : Router) (operationId : JsString) (c : CallId) : Prop :=
  ∃ call : Call, s.calls[c]? = some call ∧ call.envelope.operationId = operationId ∧
    call.isWaiting = true

/-- A response with an operation id has come after a call was made. -/
def Heard (history : List (Router × Label)) (operationId : JsString) (c : CallId) : Prop :=
  ∃ step ∈ history, ∃ raw wall, step.2.response = some (raw, wall) ∧
    Router.operationIdOf raw = some operationId ∧ c < step.1.calls.length

/-- What is kept for the calls of a router. The promise of a call cannot be settled before its
own delivery has ended. -/
structure WaitersKept (bridged : Bool) (history : List (Router × Label)) (s : Router) : Prop where
  settled : ∀ (c : CallId) (call : Call), s.calls[c]? = some call → call.delivery.hasEnded = true →
    (call.delivery.hasFailed = true ∨ Heard history call.envelope.operationId c ∨ s.closed = true) →
    call.isSettled = true
  bridged : bridged = true → ∀ (c : CallId) (call : Call), s.calls[c]? = some call →
    call.delivery.hasEnded = true → call.isSettled = true
  pending : ∀ operationId c, Holds s operationId c ↔ Waits s operationId c

/-- The clock and the validator do not throw on a response. -/
def Validates (options : TaskStoreOptions) (s : Router) (raw : Json) (wall : Option ℚ) : Prop :=
  ∃ now validated, wall = some now ∧
    validateOperationResponse options.host (s.responseOptions raw now) raw = .ok validated

/-- The task store takes the transitions of the result a response brings to its entry. -/
def Admits (options : TaskStoreOptions) (s : Router) (raw : Json) (wall : Option ℚ) : Prop :=
  ∀ now response result pending requestId, wall = some now →
    validateOperationResponse options.host (s.responseOptions raw now) raw = .ok (.success response) →
    response.outcome = .ok result → s.pendingFor raw = some pending →
    s.admitted pending response result = some requestId →
    ((Router.admission options requestId result).run s.taskStore).2 = .ok ()

/-- A step takes no entry of a call that waits, and leaves none behind: an operation is sent
by an open router under an id that is not pending, a delivery that fails finds no entry of
another call, one that throws finds none of its own, a response to a pending operation is
handled, and the bridge is answered with the operation id it has sent. -/
def Careful (options : TaskStoreOptions) (s : Router) : Label → Prop
  | .send envelope => s.pending.size < maxPendingOperations →
      s.closed = false ∧ s.pending.get? envelope.operationId = none
  | .ended c result => ∀ (call : Call) (pending : PendingOperation), s.calls[c]? = some call →
      s.pending.get? call.envelope.operationId = some pending →
      (result = .undelivered → pending.call = c) ∧ (result = .thrown → pending.call ≠ c)
  | .respond raw wall => ∀ pending, s.pendingFor raw = some pending →
      Validates options s raw wall ∧ Admits options s raw wall
  | .exchange c raw wall =>
      (∀ pending, s.pendingFor raw = some pending →
        (pending.call ≠ c → Validates options s raw wall) ∧ Admits options s raw wall) ∧
      (Validates options s raw wall → ∀ call : Call, s.calls[c]? = some call →
        Router.operationIdOf raw = some call.envelope.operationId ∨ call.response.isSome = true)
  | .close _ | .elsewhere .. => True

section Parts

variable {s : Router}

theorem holds_unique {operationId : JsString} {c c' : CallId} (held : Holds s operationId c)
    (held' : Holds s operationId c') : c = c' := by
  obtain ⟨pending, found, rfl⟩ := held
  obtain ⟨pending', found', rfl⟩ := held'
  rw [Option.some.inj (found.symm.trans found')]

theorem waits_unique {operationId operationId' : JsString} {c : CallId} (waits : Waits s operationId c)
    (waits' : Waits s operationId' c) : operationId = operationId' := by
  obtain ⟨call, here, rfl, -⟩ := waits
  obtain ⟨call', here', rfl, -⟩ := waits'
  rw [Option.some.inj (here.symm.trans here')]

theorem holds_forget {operationId operationId' : JsString} {c : CallId} :
    Holds (s.forget operationId') operationId c ↔ Holds s operationId c ∧ operationId ≠ operationId' := by
  constructor
  · rintro ⟨pending, found, rfl⟩
    obtain ⟨different, found⟩ := JsMap.get?_delete_eq_some_iff.mp found
    exact ⟨⟨pending, found, rfl⟩, different⟩
  · rintro ⟨⟨pending, found, rfl⟩, different⟩
    exact ⟨pending, JsMap.get?_delete_eq_some_iff.mpr ⟨different, found⟩, rfl⟩

theorem waits_settle {operationId : JsString} {c i : CallId} {settlement : Settlement} :
    Waits (s.settle c settlement) operationId i ↔ Waits s operationId i ∧ i ≠ c := by
  unfold Waits
  constructor
  · rintro ⟨call', there, same, waiting⟩
    rw [calls_settle] at there
    obtain ⟨call, here, rfl⟩ := Option.map_eq_some_iff.mp there
    by_cases equal : c = i
    · rw [if_pos equal] at waiting
      simp [Call.isWaiting] at waiting
    · rw [if_neg equal] at same waiting
      exact ⟨⟨call, here, same, waiting⟩, Ne.symm equal⟩
  · rintro ⟨⟨call, here, same, waiting⟩, different⟩
    refine ⟨call, ?_, same, waiting⟩
    rw [calls_settle, here, Option.map_some, if_neg (Ne.symm different)]

/-- A delivery that fails ends the wait of its call. -/
theorem waits_setDelivery_failed {operationId : JsString} {c i : CallId} {delivery : Delivery}
    (failed : delivery.hasFailed = true) :
    Waits (s.setDelivery c delivery) operationId i ↔ Waits s operationId i ∧ i ≠ c := by
  unfold Waits
  constructor
  · rintro ⟨call', there, same, waiting⟩
    rw [calls_setDelivery] at there
    obtain ⟨call, here, rfl⟩ := Option.map_eq_some_iff.mp there
    by_cases equal : c = i
    · rw [if_pos equal] at waiting
      simp [Call.isWaiting, failed] at waiting
    · rw [if_neg equal] at same waiting
      exact ⟨⟨call, here, same, waiting⟩, Ne.symm equal⟩
  · rintro ⟨⟨call, here, same, waiting⟩, different⟩
    refine ⟨call, ?_, same, waiting⟩
    rw [calls_setDelivery, here, Option.map_some, if_neg (Ne.symm different)]

/-- A delivery that goes on leaves the call waiting. -/
theorem waits_setDelivery {operationId : JsString} {c i : CallId} {delivery : Delivery} {call : Call}
    (here : s.calls[c]? = some call) (before : call.delivery.hasFailed = false)
    (after : delivery.hasFailed = false) :
    Waits (s.setDelivery c delivery) operationId i ↔ Waits s operationId i := by
  unfold Waits
  rw [calls_setDelivery]
  by_cases equal : c = i
  · subst equal
    rw [here, Option.map_some, if_pos rfl]
    simp [Call.isWaiting, before, after]
  · simp [equal]

/-- What is pending is what is waited for. -/
def Matched (s : Router) : Prop := ∀ operationId c, Holds s operationId c ↔ Waits s operationId c

/-- A router without the entry and the wait of one call. -/
theorem Matched.without {t : Router} {operationId : JsString} {c : CallId} (matched : Matched s)
    (own : Holds s operationId c)
    (holds : ∀ id i, Holds t id i ↔ Holds s id i ∧ id ≠ operationId)
    (waits : ∀ id i, Waits t id i ↔ Waits s id i ∧ i ≠ c) : Matched t := by
  intro id i
  rw [holds, waits, matched id i]
  constructor
  · rintro ⟨waiting, different⟩
    refine ⟨waiting, ?_⟩
    rintro rfl
    exact different (waits_unique waiting ((matched _ _).mp own))
  · rintro ⟨waiting, different⟩
    refine ⟨waiting, ?_⟩
    rintro rfl
    exact different (holds_unique ((matched _ _).mpr waiting) own)

/-- A call whose wait ends without an entry. -/
theorem Matched.end_without_entry {t : Router} {c : CallId} (matched : Matched s)
    (idle : ∀ id, ¬Holds s id c) (holds : ∀ id i, Holds t id i ↔ Holds s id i)
    (waits : ∀ id i, Waits t id i ↔ Waits s id i ∧ i ≠ c) : Matched t := by
  intro id i
  rw [holds, waits, matched id i]
  constructor
  · intro waiting
    refine ⟨waiting, ?_⟩
    rintro rfl
    exact idle id ((matched _ _).mpr waiting)
  · exact And.left

end Parts

section Responses

variable {s t : Router} {raw : Json} {wall : Option ℚ} {outcome : Except Thrown Unit}

theorem pendingFor_eq {operationId : JsString} (named : Router.operationIdOf raw = some operationId) :
    s.pendingFor raw = s.pending.get? operationId := by
  unfold Router.pendingFor
  rw [named]
  rfl

theorem pendingFor_of_valid {host : Host} {validation : ValidationOptions} {response : OperationResponse}
    (valid : validateOperationResponse host validation raw = .ok (.success response)) :
    s.pendingFor raw = s.pending.get? response.operationId :=
  pendingFor_eq (operationIdOf_accepted (validateOperationResponse_success valid))

/-- The calls stay as they are, but for what is answered. -/
def Ages (s t : Router) : Prop :=
  ∀ (c : CallId) (after : Call), t.calls[c]? = some after → ∃ before : Call,
    s.calls[c]? = some before ∧ after.envelope = before.envelope ∧ after.delivery = before.delivery ∧
      (before.response.isSome = true → after.response.isSome = true)

theorem ages_refl (s : Router) : Ages s s := fun _ after there => ⟨after, there, rfl, rfl, id⟩

theorem ages_settle (s : Router) (c : CallId) (settlement : Settlement) : Ages s (s.settle c settlement) := by
  intro i after there
  rw [calls_settle] at there
  obtain ⟨before, here, rfl⟩ := Option.map_eq_some_iff.mp there
  refine ⟨before, here, ?_⟩
  split
  · exact ⟨rfl, rfl, fun _ => by simp⟩
  · exact ⟨rfl, rfl, id⟩

theorem Handling.ages (handled : Handling options s raw wall (t, outcome)) : Ages s t := by
  cases handled with
  | threw thrown unchecked => exact ages_refl s
  | ignored absent => exact ages_refl s
  | invalid named held => exact ages_settle s _ _
  | failed named held => exact ages_settle s _ _
  | resolved clock valid held outcome => exact ages_settle s _ _
  | lost clock valid held outcome task moved => exact ages_refl s

theorem Handling.length (handled : Handling options s raw wall (t, outcome)) :
    t.calls.length = s.calls.length := by
  cases handled with
  | threw thrown unchecked => rfl
  | ignored absent => rfl
  | invalid named held => exact List.length_modify ..
  | failed named held => exact List.length_modify ..
  | resolved clock valid held outcome => exact List.length_modify ..
  | lost clock valid held outcome task moved => rfl

theorem Handling.closed (handled : Handling options s raw wall (t, outcome)) : t.closed = s.closed := by
  cases handled <;> rfl

/-- A store that takes the transitions does not throw. -/
theorem Admits.not_lost {now : ℚ} {response : OperationResponse} {result : Json} {pending : PendingOperation}
    {requestId : JsString} {thrown : StoreError} (admits : Admits options s raw wall) (clock : wall = some now)
    (valid : validateOperationResponse options.host (s.responseOptions raw now) raw =
      .ok (.success response))
    (held : s.pending.get? response.operationId = some pending) (outcome : response.outcome = .ok result)
    (task : s.admitted pending response result = some requestId)
    (moved : ((Router.admission options requestId result).run s.taskStore).2 = .error thrown) : False := by
  have done := admits now response result pending requestId clock valid outcome
    ((pendingFor_of_valid valid).trans held) task
  rw [done] at moved
  cases moved

theorem Handling.returns (handled : Handling options s raw wall (t, outcome))
    (validates : Validates options s raw wall) (admits : Admits options s raw wall) : outcome = .ok () := by
  cases handled with
  | threw thrown unchecked =>
    obtain ⟨now, validated, clock, valid⟩ := validates
    exact (unchecked now validated clock valid).elim
  | ignored absent => rfl
  | invalid named held => rfl
  | failed named held => rfl
  | resolved clock valid held outcome => rfl
  | lost clock valid held outcome task moved =>
    exact (admits.not_lost clock valid held outcome task moved).elim

/-- What is handled is answered. -/
theorem Handling.answered {pending : PendingOperation} {call : Call}
    (handled : Handling options s raw wall (t, .ok ())) (held : s.pendingFor raw = some pending)
    (there : t.calls[pending.call]? = some call) : call.response.isSome = true := by
  have settled : ∀ {c : CallId} {settlement : Settlement} {after : Call},
      (s.settle c settlement).calls[c]? = some after → after.response.isSome = true := by
    intro c settlement after found
    rw [calls_settle] at found
    obtain ⟨before, here, rfl⟩ := Option.map_eq_some_iff.mp found
    simp
  cases handled with
  | ignored absent =>
    rw [absent] at held
    cases held
  | invalid named found =>
    obtain rfl := Option.some.inj (found.symm.trans ((pendingFor_eq named).symm.trans held))
    exact settled there
  | failed named found =>
    obtain rfl := Option.some.inj (found.symm.trans ((pendingFor_eq named).symm.trans held))
    exact settled there
  | resolved clock valid found outcome =>
    obtain rfl := Option.some.inj (found.symm.trans ((pendingFor_of_valid valid).symm.trans held))
    exact settled there

theorem Handling.matched (handled : Handling options s raw wall (t, outcome)) (matched : Matched s)
    (admits : ∀ pending, s.pendingFor raw = some pending → Admits options s raw wall) : Matched t := by
  cases handled with
  | threw thrown unchecked => exact matched
  | ignored absent => exact matched
  | invalid named held =>
    exact matched.without ⟨_, held, rfl⟩ (fun _ _ => holds_forget) fun _ _ => waits_settle
  | failed named held =>
    exact matched.without ⟨_, held, rfl⟩ (fun _ _ => holds_forget) fun _ _ => waits_settle
  | resolved clock valid held outcome =>
    exact matched.without ⟨_, held, rfl⟩ (fun _ _ => holds_forget) fun _ _ => waits_settle
  | lost clock valid held outcome task moved =>
    exact ((admits _ ((pendingFor_of_valid valid).trans held)).not_lost clock valid held outcome task
      moved).elim

theorem Handling.holds {operationId : JsString} {c : CallId}
    (handled : Handling options s raw wall (t, outcome)) (held : Holds t operationId c) :
    Holds s operationId c := by
  obtain ⟨pending, found, same⟩ := held
  exact ⟨pending, handled.keeps.entries _ _ found, same⟩

end Responses

/-- What careful steps keep. -/
structure Kept (bridged : Bool) (history : List (Router × Label)) (s : Router) : Prop where
  matched : Matched s
  /-- What waits has not been answered, unless its delivery is to fail. -/
  unheard : ∀ (c : CallId) (call : Call), s.calls[c]? = some call → call.isWaiting = true →
    call.delivery ≠ .failing → ¬Heard history call.envelope.operationId c
  /-- The bridge passes on what answers. -/
  answered : bridged = true → ∀ (c : CallId) (call : Call), s.calls[c]? = some call →
    (call.delivery = .processed ∨ call.delivery = .delivered) → call.response.isSome = true
  closed : s.closed = true → ∀ operationId c, ¬Holds s operationId c
  grown : ∀ step ∈ history, step.1.calls.length ≤ s.calls.length

section Steps

variable {history : List (Router × Label)} {s s' : Router} {label : Label}

theorem heard_cons {operationId : JsString} {c : CallId} :
    Heard ((s, label) :: history) operationId c ↔ Heard history operationId c ∨
      ∃ raw wall, label.response = some (raw, wall) ∧ Router.operationIdOf raw = some operationId ∧
        c < s.calls.length := by
  unfold Heard
  simp only [List.mem_cons, exists_eq_or_imp]
  exact or_comm

/-- A step that brings no response is not heard. -/
theorem heard_silent {operationId : JsString} {c : CallId} (silent : label.response = none)
    (heard : Heard ((s, label) :: history) operationId c) : Heard history operationId c := by
  rcases heard_cons.mp heard with before | ⟨raw, wall, brought, -⟩
  · exact before
  · rw [silent] at brought
    cases brought

theorem Keeps.length_le (keeps : Keeps s s') : s.calls.length ≤ s'.calls.length := by
  by_contra fewer
  obtain ⟨call, here⟩ : ∃ call, s.calls[s'.calls.length]? = some call :=
    ⟨_, List.getElem?_eq_getElem (not_le.mp fewer)⟩
  obtain ⟨call', there, -⟩ := keeps.calls _ _ here
  exact (lt_irrefl _ (List.getElem?_eq_some_iff.mp there).1).elim

theorem Kept.grown_step (kept : Kept bridged history s) (longer : s.calls.length ≤ s'.calls.length) :
    ∀ step ∈ (s, label) :: history, step.1.calls.length ≤ s'.calls.length := by
  intro step member
  rcases List.mem_cons.mp member with rfl | member
  · exact longer
  · exact (kept.grown step member).trans longer

theorem Kept.init (start : (system options bridged).init s) : Kept bridged [] s := by
  have empty : s.pending = ∅ := start.1
  have fresh : s.calls = [] := start.2.1
  have idle : ∀ operationId c, ¬Holds s operationId c := by
    rintro operationId c ⟨pending, found, -⟩
    rw [empty] at found
    cases found
  have none : ∀ (c : CallId) (call : Call), s.calls[c]? ≠ some call := by
    intro c call here
    rw [fresh] at here
    cases here
  refine ⟨fun operationId c => ⟨fun held => (idle _ _ held).elim, ?_⟩, ?_, ?_, fun _ => idle, ?_⟩
  · rintro ⟨call, here, -⟩
    exact (none c call here).elim
  · intro c call here
    exact (none c call here).elim
  · intro _ c call here
    exact (none c call here).elim
  · intro step member
    cases member

/-- A call that waits has its entry. -/
theorem Kept.own_entry (kept : Kept bridged history s) {c : CallId} {call : Call}
    (here : s.calls[c]? = some call) (waiting : call.isWaiting = true) :
    Holds s call.envelope.operationId c :=
  (kept.matched _ _).mpr ⟨call, here, rfl, waiting⟩

/-- A response that is handled as it is brought to a waiting call answers it. -/
theorem Kept.answers {t : Router} {raw : Json} {wall : Option ℚ} {c : CallId} {call call' : Call}
    (kept : Kept bridged history s) (here : s.calls[c]? = some call) (waiting : call.isWaiting = true)
    (handled : Handling options s raw wall (t, .ok ()))
    (named : Router.operationIdOf raw = some call.envelope.operationId)
    (there : t.calls[c]? = some call') : call'.response.isSome = true := by
  obtain ⟨pending, found, rfl⟩ := kept.own_entry here waiting
  exact handled.answered ((pendingFor_eq named).trans found) there

theorem getElem?_concat_eq_some {α : Type} {xs : List α} {x y : α} {i : Nat} :
    (xs ++ [x])[i]? = some y ↔ xs[i]? = some y ∨ (i = xs.length ∧ y = x) := by
  rcases lt_trichotomy i xs.length with less | rfl | more
  · rw [List.getElem?_append_left less]
    constructor
    · exact .inl
    · rintro (here | ⟨rfl, _⟩)
      · exact here
      · exact (lt_irrefl _ less).elim
  · rw [List.getElem?_concat_length, List.getElem?_eq_none (le_refl _)]
    simp [eq_comm]
  · rw [List.getElem?_eq_none (by simp; omega), List.getElem?_eq_none (by omega)]
    simp only [reduceCtorEq, false_or, false_iff]
    omega

/-- A call that is made, seen in the list of calls. -/
theorem Kept.made (kept : Kept bridged history s) (envelope : SentEnvelope) (delivery : Delivery)
    (calls : s'.calls = s.calls ++ [{ envelope, delivery, response := none }])
    (begun : delivery = .underway ∨ delivery = .refused) (silent : label.response = none)
    (matched : Matched s') (closed : s'.closed = true → ∀ operationId c, ¬Holds s' operationId c) :
    Kept bridged ((s, label) :: history) s' := by
  refine ⟨matched, ?_, ?_, closed, ?_⟩
  · intro c call here waiting going heard
    rw [calls, getElem?_concat_eq_some] at here
    have heard := heard_silent silent heard
    rcases here with here | ⟨rfl, rfl⟩
    · exact kept.unheard c call here waiting going heard
    · obtain ⟨step, member, raw, wall, -, -, bound⟩ := heard
      exact (Nat.not_lt.mpr (kept.grown step member)) bound
  · intro bridge c call here passed
    rw [calls, getElem?_concat_eq_some] at here
    rcases here with here | ⟨rfl, rfl⟩
    · exact kept.answered bridge c call here passed
    · rcases begun with rfl | rfl <;> simp at passed
  · apply kept.grown_step
    rw [calls]
    simp

theorem Kept.send (kept : Kept bridged history s) (envelope : SentEnvelope)
    (careful : s.pending.size < maxPendingOperations →
      s.closed = false ∧ s.pending.get? envelope.operationId = none) :
    Kept bridged ((s, .send envelope) :: history) (s.sendAndWait envelope) := by
  unfold Router.sendAndWait
  split
  · refine kept.made envelope .refused rfl (.inr rfl) rfl ?_ kept.closed
    intro operationId c
    refine (kept.matched operationId c).trans ?_
    unfold Waits
    simp only [getElem?_concat_eq_some]
    constructor
    · rintro ⟨call, here, rest⟩
      exact ⟨call, .inl here, rest⟩
    · rintro ⟨call, here | ⟨_, rfl⟩, same, waiting⟩
      · exact ⟨call, here, same, waiting⟩
      · cases waiting
  · rename_i room
    obtain ⟨opened, absent⟩ := careful (not_le.mp room)
    refine kept.made envelope .underway ?_ (.inl rfl) rfl ?_ ?_
    · simp [opened]
    · intro operationId c
      unfold Holds Waits
      simp only [getElem?_concat_eq_some, opened, JsMap.get?_set]
      by_cases same : operationId = envelope.operationId
      · subst same
        have idle : ∀ c, ¬Waits s envelope.operationId c := by
          intro c waits
          obtain ⟨pending, found, -⟩ := (kept.matched _ _).mpr waits
          rw [absent] at found
          cases found
        constructor
        · rintro ⟨pending, found, rfl⟩
          rw [if_pos rfl] at found
          obtain rfl := Option.some.inj found
          exact ⟨_, .inr ⟨rfl, rfl⟩, rfl, rfl⟩
        · rintro ⟨call, here | ⟨rfl, rfl⟩, named, waiting⟩
          · exact (idle c ⟨call, here, named, waiting⟩).elim
          · exact ⟨_, if_pos rfl, rfl⟩
      · simp only [if_neg same]
        refine (kept.matched operationId c).trans ?_
        constructor
        · rintro ⟨call, here, rest⟩
          exact ⟨call, .inl here, rest⟩
        · rintro ⟨call, here | ⟨rfl, rfl⟩, named, waiting⟩
          · exact ⟨call, here, named, waiting⟩
          · exact (same named.symm).elim
    · intro shut
      dsimp only at shut
      rw [opened] at shut
      cases shut

theorem Delivery.mayEnd_cases {before after : Delivery} (may : before.mayEnd bridged after) :
    before.hasFailed = false ∧ ((after = .delivered ∧ before ≠ .failing ∧
      (bridged = true → before = .processed)) ∨ after = .undelivered ∨ after = .thrown) := by
  cases before <;> cases after <;> simp_all [Delivery.mayEnd, Delivery.hasFailed]

/-- A delivery has ended, seen in the list of calls. -/
theorem Kept.ended_of (kept : Kept bridged history s) {c : CallId} {call : Call} {result : Delivery}
    (here : s.calls[c]? = some call) (may : call.delivery.mayEnd bridged result)
    (calls : s'.calls = (s.setDelivery c result).calls) (closed : s'.closed = s.closed)
    (entries : ∀ operationId i, Holds s' operationId i → Holds s operationId i) (matched : Matched s') :
    Kept bridged ((s, .ended c result) :: history) s' := by
  obtain ⟨sound, cases⟩ := Delivery.mayEnd_cases may
  refine ⟨matched, ?_, ?_, ?_, ?_⟩
  · intro i after there waiting going heard
    rw [calls, calls_setDelivery] at there
    obtain ⟨before, held, rfl⟩ := Option.map_eq_some_iff.mp there
    have heard := heard_silent rfl heard
    by_cases same : c = i
    · subst same
      obtain rfl := Option.some.inj (held.symm.trans here)
      rw [if_pos rfl] at waiting heard
      rcases cases with ⟨rfl, settling, -⟩ | rfl | rfl
      · refine kept.unheard c before here ?_ settling heard
        have unanswered : before.response.isNone = true := waiting
        simp [Call.isWaiting, sound, unanswered]
      · cases waiting
      · cases waiting
    · rw [if_neg same] at waiting going heard
      exact kept.unheard i before held waiting going heard
  · intro bridge i after there passed
    rw [calls, calls_setDelivery] at there
    obtain ⟨before, held, rfl⟩ := Option.map_eq_some_iff.mp there
    by_cases same : c = i
    · subst same
      obtain rfl := Option.some.inj (held.symm.trans here)
      rw [if_pos rfl] at passed ⊢
      rcases cases with ⟨rfl, -, processed⟩ | rfl | rfl
      · exact kept.answered bridge c before here (.inl (processed bridge))
      · simp at passed
      · simp at passed
    · rw [if_neg same] at passed ⊢
      exact kept.answered bridge i before held passed
  · intro shut operationId i held
    exact kept.closed (closed ▸ shut) operationId i (entries _ _ held)
  · apply kept.grown_step
    rw [calls]
    exact (List.length_modify ..).ge

theorem Kept.ended (kept : Kept bridged history s) {c : CallId} {call : Call} {result : Delivery}
    (here : s.calls[c]? = some call) (may : call.delivery.mayEnd bridged result)
    (careful : Careful options s (.ended c result)) :
    Kept bridged ((s, .ended c result) :: history) (s.endDelivery c result) := by
  obtain ⟨going, cases⟩ := Delivery.mayEnd_cases may
  -- a call holds nothing but the entry under its own id
  have own : ∀ operationId, Holds s operationId c → operationId = call.envelope.operationId := by
    intro operationId held
    obtain ⟨call', here', same, -⟩ := (kept.matched _ _).mp held
    obtain rfl := Option.some.inj (here.symm.trans here')
    exact same.symm
  unfold Router.endDelivery
  rw [here]
  dsimp only
  rcases cases with ⟨rfl, -, -⟩ | rfl | rfl
  · rw [if_neg nofun]
    refine kept.ended_of here may rfl rfl (fun _ _ held => held) fun operationId i => ?_
    exact (kept.matched operationId i).trans (waits_setDelivery here going rfl).symm
  · rw [if_pos rfl]
    refine kept.ended_of here may rfl rfl (fun _ _ held => (holds_forget.mp held).1) ?_
    by_cases held : Holds s call.envelope.operationId c
    · exact kept.matched.without held (fun _ _ => holds_forget) fun _ _ => waits_setDelivery_failed rfl
    · refine kept.matched.end_without_entry ?_ ?_ fun _ _ => waits_setDelivery_failed rfl
      · intro operationId other
        rw [own operationId other] at other
        exact held other
      · intro operationId i
        refine holds_forget.trans ⟨And.left, fun other => ⟨other, ?_⟩⟩
        rintro rfl
        obtain ⟨pending, found, -⟩ := other
        exact held ⟨pending, found, (careful call pending here found).1 rfl⟩
  · rw [if_neg nofun]
    refine kept.ended_of here may rfl rfl (fun _ _ held => held) ?_
    refine kept.matched.end_without_entry ?_ (fun _ _ => Iff.rfl) fun _ _ => waits_setDelivery_failed rfl
    intro operationId held
    rw [own operationId held] at held
    obtain ⟨pending, found, same⟩ := held
    exact (careful call pending here found).2 rfl same

/-- A call that waited for a response that was handled has its answer. -/
theorem Kept.waits_after {t : Router} {raw : Json} {wall : Option ℚ} {outcome : Except Thrown Unit}
    {c : CallId} {after : Call} (kept : Kept bridged history s)
    (handled : Handling options s raw wall (t, outcome)) (there : t.calls[c]? = some after)
    (waiting : after.isWaiting = true) (going : after.delivery ≠ .failing)
    (taken : Holds s after.envelope.operationId c →
      Router.operationIdOf raw = some after.envelope.operationId → outcome = .ok ())
    (brought : label.response = some (raw, wall)) :
    ¬Heard ((s, label) :: history) after.envelope.operationId c := by
  obtain ⟨before, here, envelope, delivery, settled⟩ := handled.ages c after there
  have unanswered : before.isWaiting = true := by
    unfold Call.isWaiting at waiting ⊢
    rw [delivery] at waiting
    obtain ⟨first, second⟩ := Bool.and_eq_true_iff.mp waiting
    rw [first, Bool.true_and]
    cases response : before.response with
    | none => rfl
    | some settlement =>
      have answered := settled (by rw [response]; rfl)
      cases later : after.response <;> simp_all
  intro heard
  rcases heard_cons.mp heard with before' | ⟨raw', wall', brought', named, -⟩
  · rw [envelope] at before'
    exact kept.unheard c before here unanswered (delivery ▸ going) before'
  · obtain ⟨rfl, rfl⟩ := Prod.mk.inj (Option.some.inj (brought.symm.trans brought'))
    rw [envelope] at taken named
    obtain rfl := taken (kept.own_entry here unanswered) named
    have answered := kept.answers here unanswered handled named there
    unfold Call.isWaiting at waiting
    cases later : after.response <;> simp_all

theorem Kept.respond (kept : Kept bridged history s) (raw : Json) (wall : Option ℚ)
    (careful : Careful options s (.respond raw wall)) :
    Kept bridged ((s, .respond raw wall) :: history) (s.processResponse options raw wall).1 := by
  have handled := processResponse_handling options s raw wall
  generalize s.processResponse options raw wall = result at handled ⊢
  obtain ⟨t, outcome⟩ := result
  refine ⟨handled.matched kept.matched fun pending found => (careful pending found).2, ?_, ?_, ?_, ?_⟩
  · intro c after there waiting going
    refine kept.waits_after handled there waiting going ?_ rfl
    rintro ⟨pending, found, -⟩ named
    obtain ⟨validates, admits⟩ := careful pending ((pendingFor_eq named).trans found)
    exact handled.returns validates admits
  · intro bridge c after there passed
    obtain ⟨before, here, -, delivery, settled⟩ := handled.ages c after there
    rw [delivery] at passed
    exact settled (kept.answered bridge c before here passed)
  · intro shut operationId c held
    exact kept.closed (handled.closed ▸ shut) operationId c (handled.holds held)
  · exact kept.grown_step handled.length.ge

theorem validates_of_returns {raw : Json} {wall : Option ℚ}
    (returned : (s.processResponse options raw wall).2 = .ok ()) : Validates options s raw wall := by
  unfold Router.processResponse at returned
  cases wall with
  | none => cases returned
  | some now =>
    dsimp only at returned
    cases valid : validateOperationResponse options.host (s.responseOptions raw now) raw with
    | error message =>
      rw [valid] at returned
      cases returned
    | ok validated => exact ⟨now, validated, rfl, valid⟩

theorem Kept.exchange (kept : Kept bridged history s) {c : CallId} {call : Call} {raw : Json}
    {wall : Option ℚ} (here : s.calls[c]? = some call) (underway : call.delivery = .underway)
    (careful : Careful options s (.exchange c raw wall)) :
    Kept bridged ((s, .exchange c raw wall) :: history) (s.exchange options c raw wall) := by
  obtain ⟨taken, own⟩ := careful
  have handled := processResponse_handling options s raw wall
  have validates := @validates_of_returns options s raw wall
  obtain ⟨delivery, exchanged, cases⟩ := exchange_eq options s c raw wall
  rw [exchanged]
  generalize s.processResponse options raw wall = result at handled validates cases ⊢
  obtain ⟨t, outcome⟩ := result
  dsimp only at validates cases ⊢
  obtain ⟨middle, there, -⟩ := handled.keeps.calls c call here
  have begun : middle.delivery = .underway := by
    obtain ⟨before, same, -, delivery, -⟩ := handled.ages c middle there
    obtain rfl := Option.some.inj (here.symm.trans same)
    rw [delivery, underway]
  have sound : delivery.hasFailed = false := by
    rcases cases with ⟨rfl, -⟩ | rfl <;> rfl
  have matched := handled.matched kept.matched fun pending found => (taken pending found).2
  refine ⟨fun operationId i => (matched operationId i).trans
    (waits_setDelivery there (by rw [begun]; rfl) sound).symm, ?_, ?_, ?_, ?_⟩
  · intro i after found waiting going
    rw [calls_setDelivery] at found
    obtain ⟨other, held, rfl⟩ := Option.map_eq_some_iff.mp found
    by_cases own : c = i
    · subst own
      obtain rfl := Option.some.inj (there.symm.trans held)
      rw [if_pos rfl] at waiting going ⊢
      rcases cases with ⟨rfl, handledWell⟩ | rfl
      · have unanswered : middle.response.isNone = true := waiting
        have waits : middle.isWaiting = true := by
          simp [Call.isWaiting, begun, Delivery.hasFailed, unanswered]
        have unheard : ¬Heard ((s, .exchange c raw wall) :: history) middle.envelope.operationId c :=
          kept.waits_after handled held waits (by rw [begun]; nofun) (fun _ _ => handledWell) rfl
        exact unheard
      · exact (going rfl).elim
    · rw [if_neg own] at waiting going ⊢
      refine kept.waits_after handled held waiting going ?_ rfl
      rintro ⟨pending, entry, rfl⟩ named
      obtain ⟨validates, admits⟩ := taken pending ((pendingFor_eq named).trans entry)
      exact handled.returns (validates (Ne.symm own)) admits
  · intro bridge i after found passed
    rw [calls_setDelivery] at found
    obtain ⟨other, held, rfl⟩ := Option.map_eq_some_iff.mp found
    obtain ⟨before, first, -, same, settled⟩ := handled.ages i other held
    by_cases mine : c = i
    · subst mine
      obtain rfl := Option.some.inj (here.symm.trans first)
      rw [if_pos rfl] at passed ⊢
      rcases cases with ⟨rfl, rfl⟩ | rfl
      · rcases own (validates rfl) call here with named | answered
        · cases response : call.response with
          | some settlement => exact settled (by rw [response]; rfl)
          | none =>
            have waiting : call.isWaiting = true := by
              simp [Call.isWaiting, underway, Delivery.hasFailed, response]
            have settled := kept.answers here waiting handled named held
            exact settled
        · exact settled answered
      · simp at passed
    · rw [if_neg mine] at passed ⊢
      rw [same] at passed
      exact settled (kept.answered bridge i before first passed)
  · intro shut operationId i held
    exact kept.closed (handled.closed ▸ shut) operationId i (handled.holds held)
  · apply kept.grown_step
    exact handled.length.ge.trans (List.length_modify ..).ge

theorem Kept.elsewhere (kept : Kept bridged history s) (taskStore : TaskStore)
    (outboundRequests : JsMap JsString OutboundRequestRecord) :
    Kept bridged ((s, .elsewhere taskStore outboundRequests) :: history)
      { s with taskStore, outboundRequests } where
  matched := kept.matched
  unheard c call here waiting going heard := kept.unheard c call here waiting going (heard_silent rfl heard)
  answered := kept.answered
  closed := kept.closed
  grown := kept.grown_step (le_refl _)

/-- Closing settles every call that has an entry. -/
theorem settleAll_spec (entries : List PendingOperation) (s : Router) :
    Ages s (entries.foldl (fun s pending => s.settle pending.call .closed) s) ∧
      ∀ pending ∈ entries, ∀ call : Call,
        (entries.foldl (fun s pending => s.settle pending.call .closed) s).calls[pending.call]? = some call →
        call.response.isSome = true := by
  induction entries generalizing s with
  | nil => exact ⟨ages_refl s, nofun⟩
  | cons first rest ih =>
    obtain ⟨ages, settled⟩ := ih (s.settle first.call .closed)
    constructor
    · intro c after there
      obtain ⟨middle, held, envelope, delivery, answered⟩ := ages c after there
      obtain ⟨before, here, envelope', delivery', answered'⟩ := ages_settle s first.call .closed c middle held
      exact ⟨before, here, envelope.trans envelope', delivery.trans delivery', answered ∘ answered'⟩
    · intro pending member call there
      rcases List.mem_cons.mp member with rfl | member
      · obtain ⟨middle, held, -, -, answered⟩ := ages _ call there
        apply answered
        rw [calls_settle] at held
        obtain ⟨before, here, rfl⟩ := Option.map_eq_some_iff.mp held
        simp
      · exact settled pending member call there

theorem Kept.close (kept : Kept bridged history s) (taskStore : TaskStore) :
    Kept bridged ((s, .close taskStore) :: history) (s.close taskStore) := by
  unfold Router.close
  split
  · exact {
      matched := kept.matched
      unheard := fun c call here waiting going heard =>
        kept.unheard c call here waiting going (heard_silent rfl heard)
      answered := kept.answered
      closed := kept.closed
      grown := kept.grown_step (le_refl _) }
  · obtain ⟨ages, settled⟩ := settleAll_spec s.pending.values s
    have grown := keeps_settleAll s.pending.values s
    generalize (s.pending.values.foldl (fun s pending => s.settle pending.call .closed) s) = t
      at ages settled grown ⊢
    have idle : ∀ (c : CallId) (call : Call), t.calls[c]? = some call → call.isWaiting = false := by
      intro c after there
      obtain ⟨before, here, -, delivery, answered⟩ := ages c after there
      cases waiting : before.isWaiting with
      | true =>
        obtain ⟨pending, found, rfl⟩ := kept.own_entry here waiting
        have done := settled pending (JsMap.mem_values_iff.mpr ⟨_, found⟩) after there
        unfold Call.isWaiting
        cases response : after.response <;> simp_all
      | false =>
        unfold Call.isWaiting at waiting ⊢
        rw [delivery]
        cases response : before.response <;> cases response' : after.response <;> simp_all
    refine ⟨fun operationId c => ⟨?_, ?_⟩, ?_, ?_, ?_, ?_⟩
    · rintro ⟨pending, found, -⟩
      cases found
    · rintro ⟨call, there, -, waiting⟩
      rw [idle c call there] at waiting
      cases waiting
    · intro c call there waiting
      rw [idle c call there] at waiting
      cases waiting
    · intro bridge c after there passed
      obtain ⟨before, here, -, delivery, answered⟩ := ages c after there
      rw [delivery] at passed
      exact answered (kept.answered bridge c before here passed)
    · rintro - operationId c ⟨pending, found, -⟩
      cases found
    · apply kept.grown_step
      exact grown.length_le

theorem Kept.step (kept : Kept bridged history s) (careful : Careful options s label)
    (taken : (system options bridged).step s label s') : Kept bridged ((s, label) :: history) s' := by
  obtain ⟨allowed, rfl⟩ := taken
  cases label with
  | send envelope => exact kept.send envelope careful
  | ended c result =>
    obtain ⟨call, here, may⟩ := allowed
    exact kept.ended here may careful
  | respond raw wall => exact kept.respond raw wall careful
  | exchange c raw wall =>
    obtain ⟨-, call, here, underway⟩ := allowed
    exact kept.exchange here underway careful
  | close taskStore => exact kept.close taskStore
  | elsewhere taskStore outboundRequests => exact kept.elsewhere taskStore outboundRequests


/-- A kept run keeps what is claimed for the waiters. -/
theorem Kept.waitersKept (kept : Kept bridged history s) : WaitersKept bridged history s := by
  have settled : ∀ call : Call, call.delivery.hasEnded = true → (call.delivery.hasFailed = true ∨
      call.response.isSome = true) → call.isSettled = true := by
    intro call ended cases
    unfold Call.isSettled
    cases delivery : call.delivery <;> simp_all [Delivery.hasEnded, Delivery.hasFailed]
  refine ⟨?_, ?_, kept.matched⟩
  · intro c call here ended cause
    apply settled call ended
    cases failed : call.delivery.hasFailed with
    | true => exact .inl rfl
    | false =>
      cases answered : call.response with
      | some settlement => exact .inr rfl
      | none =>
        have waiting : call.isWaiting = true := by simp [Call.isWaiting, failed, answered]
        have waits : Waits s call.envelope.operationId c := ⟨call, here, rfl, waiting⟩
        rcases cause with absurd | heard | shut
        · rw [failed] at absurd
          cases absurd
        · refine (kept.unheard c call here waiting ?_ heard).elim
          intro failing
          rw [failing] at ended
          cases ended
        · exact (kept.closed shut _ _ ((kept.matched _ _).mpr waits)).elim
  · intro bridge c call here ended
    apply settled call ended
    cases failed : call.delivery.hasFailed with
    | true => exact .inl rfl
    | false =>
      refine .inr (kept.answered bridge c call here ?_)
      cases delivery : call.delivery <;> simp_all [Delivery.hasEnded, Delivery.hasFailed]

end Steps

/-- In every run whose steps are all careful no waiter is lost. -/
theorem waiters_kept {history : List (Router × Label)} {s : Router}
    (run : (system options bridged).Trace history s)
    (careful : ∀ step ∈ history, Careful options step.1 step.2) : WaitersKept bridged history s := by
  have kept : Kept bridged history s := by
    apply (run.restrict careful).invariant_history
    · intro s start
      exact @Kept.init options bridged s start
    · rintro earlier s label s' - kept ⟨met, taken⟩
      exact kept.step met taken
  exact kept.waitersKept

section Samples

open TaskStoreProofs (sampleOptions)

/-- A run over labels, latest first. -/
def play (options : TaskStoreOptions) (s : Router) : List Label → List (Router × Label) × Router
  | [] => ([], s)
  | label :: earlier =>
    let (history, before) := play options s earlier
    ((before, label) :: history, label.apply options before)

/-- The bridge is answered with the response to the notification. -/
def bridgedRun : List Label :=
  [.ended 0 .delivered, .exchange 0 (notified sampleTrace) (some 0), .send sampleNotification]

theorem trace_bridgedRun : (system sampleOptions true).Trace (play sampleOptions sampleRouter bridgedRun).1
    (play sampleOptions sampleRouter bridgedRun).2 := by
  refine .step (.step (.step (.init ⟨rfl, rfl, rfl⟩) ⟨⟨nofun, nofun⟩, rfl⟩) ⟨⟨rfl, ?_⟩, rfl⟩) ⟨?_, rfl⟩
  · exact ⟨⟨sampleNotification, .underway, none⟩, by decide +kernel, rfl⟩
  · have processed : ((play sampleOptions sampleRouter bridgedRun.tail).2.calls[0]?).map Call.delivery =
        some .processed := by decide +kernel
    obtain ⟨call, here, delivery⟩ := Option.map_eq_some_iff.mp processed
    exact ⟨call, here, by rw [delivery]; trivial⟩

theorem notified_valid : validateOperationResponse sampleOptions.host
    (notifying.responseOptions (notified sampleTrace) 0) (notified sampleTrace) =
      .ok (.success ⟨.messageNotify, firstId, sampleTrace, .ok (.record [("delivered", .bool true)])⟩) := by
  decide +kernel

theorem waitersKept_bridgedRun : WaitersKept true (play sampleOptions sampleRouter bridgedRun).1
    (play sampleOptions sampleRouter bridgedRun).2 := by
  apply waiters_kept trace_bridgedRun
  intro step member
  rcases List.mem_cons.mp member with rfl | member
  · rintro call pending - -
    exact ⟨nofun, nofun⟩
  rcases List.mem_cons.mp member with rfl | member
  · refine ⟨fun pending found => ⟨fun _ => ?_, ?_⟩, ?_⟩
    · exact ⟨0, _, rfl, notified_valid⟩
    · rintro now response result pending requestId ⟨⟩ valid - - task
      cases notified_valid.symm.trans valid
      cases task
    · intro _ call here
      have single : notifying.calls[0]? = some ⟨sampleNotification, .underway, none⟩ := by decide +kernel
      obtain rfl := Option.some.inj (single.symm.trans here)
      exact .inl (by decide +kernel)
  · obtain rfl := List.mem_singleton.mp member
    exact fun _ => ⟨rfl, rfl⟩

/-- The same notification is sent twice, delivered twice and answered once. -/
def resendRun : List Label :=
  [.respond (notified sampleTrace) (some 0), .ended 1 .delivered, .ended 0 .delivered,
    .send sampleNotification, .send sampleNotification]

theorem trace_resendRun : (system sampleOptions false).Trace (play sampleOptions sampleRouter resendRun).1
    (play sampleOptions sampleRouter resendRun).2 := by
  refine .step (.step (.step (.step (.step (.init ⟨rfl, rfl, rfl⟩) ⟨⟨nofun, nofun⟩, rfl⟩)
    ⟨⟨nofun, nofun⟩, rfl⟩) ⟨?_, rfl⟩) ⟨?_, rfl⟩) ⟨trivial, rfl⟩
  · exact ⟨⟨sampleNotification, .underway, none⟩, by decide +kernel, rfl⟩
  · exact ⟨⟨sampleNotification, .underway, none⟩, by decide +kernel, rfl⟩

/-- The first call of an envelope that is sent again is never settled. -/
theorem resend_loses_waiter : ∃ history s, (system sampleOptions false).Trace history s ∧
    ¬WaitersKept false history s := by
  refine ⟨_, _, trace_resendRun, fun kept => ?_⟩
  have first : (play sampleOptions sampleRouter resendRun).2.calls[0]? =
      some ⟨sampleNotification, .delivered, none⟩ := by decide +kernel
  have settled := kept.settled 0 _ first rfl (.inr (.inl
    ⟨_, List.mem_cons_self, notified sampleTrace, some 0, rfl, by decide +kernel, by decide +kernel⟩))
  cases settled

end Samples

end Waiters
end PiToPi.Outbound
