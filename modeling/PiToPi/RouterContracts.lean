import PiToPi.RouterSafety

/-!
What the tasks of a router are completed with.

A request may name the response it expects, a JSON value of a schema. The router checks the content
its host completes the task of a peer with, and the content a peer's reply completes a task of its
own with. Since there is no other way to complete a task, every completed task has kept its
contract, on either side.
-/
namespace PiToPi.Routing
open Reentrant StoreEffects Relation Transition

/-- The contract of a task is one for this expected response, or for a frozen copy of it. -/
def Asks (expected : Json) (contract : ExpectedResponse) : Prop :=
  ExpectedResponse.ofJson expected = contract ∨
    cloneContract (some (ExpectedResponse.ofJson expected)) = .ok (some contract)

section Accounts

variable {c : RouterConfig} {G : Grounds}

/-- How each task that has ended otherwise than by expiring is accounted for. -/
def Accounted (P : StoredTask → TaskSnapshot → Prop) (s : TaskStore) : Prop :=
  ∀ q < s.nextRecord, isTerminalTaskState (s.heap q).state = true → (s.heap q).state ≠ .expired →
    P (s.heap q) (s.heap q).snapshot

/-- An account that is about what a task is made with, and how it has ended. -/
def Lasts (P : StoredTask → TaskSnapshot → Prop) : Prop :=
  ∀ task task' snapshot, SameIdentity task task' → P task snapshot → P task' snapshot

variable {P : StoredTask → TaskSnapshot → Prop}

theorem Accounted.evolves {may : RecordId → TaskSnapshot → Prop} (lasts : Lasts P) (accounted : Accounted P s)
    (evolves : Evolves o may s t)
    (allowed : ∀ q snapshot, q < s.nextRecord → isTerminalTaskState (s.heap q).state = false →
      isTerminalTaskState snapshot.state = true → may q snapshot → P (s.heap q) snapshot) : Accounted P t := by
  intro q made terminal unexpired
  rw [evolves.nextRecord] at made
  refine lasts _ _ _ (evolves.tasks q).identity ?_
  obtain same | ⟨live, ended⟩ := (evolves.tasks q).snapshot
  · have state : (t.heap q).state = (s.heap q).state := congrArg TaskSnapshot.state same
    rw [state] at terminal unexpired
    rw [same]
    exact accounted q made terminal unexpired
  · obtain expired | concluded := ended terminal
    · exact (unexpired expired).elim
    · exact allowed q _ made live terminal concluded

/-- Reading alone ends a task by expiring at most. -/
theorem Accounted.reads (lasts : Lasts P) (accounted : Accounted P s) (evolves : Evolves o OnlyExpires s t) :
    Accounted P t :=
  accounted.evolves lasts evolves fun _ _ _ _ _ none => none.elim

/-- A task is made live, or expired. -/
theorem Accounted.creates (lasts : Lasts P) (accounted : Accounted P s) (creates : Creates o input s t)
    {state : TaskState} (initial : input.initialState = some state) (live : isTerminalTaskState state = false) :
    Accounted P t := by
  cases creates with
  | nothing quiet => exact accounted.reads lasts (.of_quiet quiet : Evolves o OnlyExpires _ _)
  | record task made quiet isNew free usable timer unarmed evolves =>
    have before : Accounted P made := accounted.reads lasts (.of_quiet quiet : Evolves o OnlyExpires _ _)
    refine Accounted.reads lasts (fun q below terminal unexpired => ?_) evolves
    obtain earlier | newest := Nat.lt_succ_iff_lt_or_eq.mp below
    · have same : (insertRecord made input.requestId { task with purgeTimer := timer }).heap q = made.heap q :=
        Function.update_of_ne (Nat.ne_of_lt earlier) ..
      rw [same] at terminal unexpired ⊢
      exact before q earlier terminal unexpired
    · subst newest
      have same : (insertRecord made input.requestId { task with purgeTimer := timer }).heap made.nextRecord =
          { task with purgeTimer := timer } := Function.update_self ..
      rw [same] at terminal unexpired
      obtain expired | begun := isNew.state
      · exact (unexpired expired).elim
      · have begun : ({ task with purgeTimer := timer } : StoredTask).state = state := begun state initial
        rw [begun, live] at terminal
        cases terminal

theorem inboundTask_live (envelope : Json) (accepted : Bool) :
    ∃ state, (inboundTask c envelope accepted).initialState = some state ∧ isTerminalTaskState state = false := by
  cases accepted with
  | true => exact ⟨.accepted, rfl, rfl⟩
  | false => exact ⟨.queued, rfl, rfl⟩

/-- What a turn may conclude is accounted for, while the executions of these requests are on record. -/
def Accounts (c : RouterConfig) (G : Grounds) (known : List JsString) (P : StoredTask → TaskSnapshot → Prop) : Prop :=
  ∀ r q snapshot, Safe c r → (∀ id ∈ known, ∃ execution ∈ r.executions, execution.requestId = id) →
    q < r.taskStore.nextRecord → isTerminalTaskState (r.taskStore.heap q).state = false →
      isTerminalTaskState snapshot.state = true → G.concludes r q snapshot → P (r.taskStore.heap q) snapshot

theorem Accounted.change {known : List JsString} (lasts : Lasts P) (accounts : Accounts c G known P) (safe : Safe c r)
    (tracked : ∀ id ∈ known, ∃ execution ∈ r.executions, execution.requestId = id)
    (accounted : Accounted P r.taskStore) (change : Change c G r r') : Accounted P r'.taskStore := by
  cases change with
  | aside same =>
    rw [same.taskStore]
    exact accounted
  | evolves moved =>
    exact accounted.evolves lasts moved fun q snapshot made live terminal concludes =>
      accounts r q snapshot safe tracked made live terminal concludes
  | makes input grounds made =>
    obtain ⟨envelope, accepted, _, rfl⟩ | ⟨envelope, _, rfl⟩ := grounds
    · obtain ⟨state, initial, live⟩ := inboundTask_live (c := c) envelope accepted
      exact accounted.creates lasts made initial live
    · exact accounted.creates lasts made rfl rfl
  | admits envelope accepted grounds made free filed =>
    obtain ⟨state, initial, live⟩ := inboundTask_live (c := c) envelope accepted
    exact accounted.creates lasts made initial live
  | registers envelope grounds made free filed => exact accounted.creates lasts made rfl rfl
  | disposes disposes =>
    have later := accounted.reads lasts disposes.evolves
    exact later
  | resolves | finishes | marks | replies | forgets | delivers | executes | phases | sends => exact accounted

/-- The executions there have been stay on record. -/
theorem Change.executions (change : Change c G r r') (here : execution ∈ r.executions) :
    ∃ later ∈ r'.executions, later.requestId = execution.requestId := by
  cases change with
  | aside same => exact ⟨execution, same.executions ▸ here, rfl⟩
  | executes => exact ⟨execution, List.mem_append_left _ here, rfl⟩
  | phases index found phase there =>
    obtain ⟨place, bound, rfl⟩ := List.mem_iff_getElem.mp here
    by_cases same : index = place
    · subst same
      refine ⟨_, List.mem_set bound _, ?_⟩
      rw [List.getElem?_eq_getElem bound] at there
      cases there
      rfl
    · refine ⟨r.executions[place], ?_, rfl⟩
      refine List.mem_iff_getElem.mpr ⟨place, by rw [List.length_set]; exact bound, ?_⟩
      exact List.getElem_set_ne same _
  | evolves | makes | admits | registers | resolves | finishes | marks | replies | forgets | delivers | sends |
      disposes => exact ⟨execution, here, rfl⟩

/-- One event of a safe router keeps the accounts of its tasks. -/
theorem Accounted.step {event : RouterEvent} (retains : Retains c) (lasts : Lasts P) (safe : Safe c r)
    (proper : Proper r event)
    (accounts : Accounts c (groundsOf c r event) (r.executions.map Execution.requestId) P)
    (accounted : Accounted P r.taskStore) (changes : Changes c (groundsOf c r event) r r') :
    Accounted P r'.taskStore := by
  have later : Accounted P r'.taskStore ∧ ∀ id ∈ r.executions.map Execution.requestId,
      ∃ execution ∈ r'.executions, execution.requestId = id := by
    induction changes with
    | refl =>
      refine ⟨accounted, fun id member => ?_⟩
      obtain ⟨execution, here, rfl⟩ := List.mem_map.mp member
      exact ⟨execution, here, rfl⟩
    | tail before change ih =>
      obtain ⟨accounted, tracked⟩ := ih
      have safe := safe.changes retains proper.sends before
      refine ⟨accounted.change lasts accounts safe tracked change, fun id member => ?_⟩
      obtain ⟨execution, here, rfl⟩ := tracked id member
      exact change.executions here
  exact later.1

theorem Made.accounted (made : Made r) : Accounted P r.taskStore := by
  intro q before
  rw [made.nextRecord] at before
  exact absurd before (Nat.not_lt_zero q)

end Accounts

/-- A completed task has kept its contract: its content is the frozen copy of one that fits. -/
def MeetsContract (c : RouterConfig) (task : StoredTask) (snapshot : TaskSnapshot) : Prop :=
  snapshot.state = .completed → ∀ asked, task.responseContract = some asked → ∃ expected content,
    Asks expected asked ∧ Fits c content expected ∧
      (c.storeOptions.retainTerminalResponse = true →
        (Content.ofJson content).cloneAndFreeze.map some = some snapshot.content)

section Contracts

variable {c : RouterConfig} {G : Grounds}

theorem meetsContract_lasts : Lasts (MeetsContract c) :=
  fun _ _ _ same meets completed asked contracted => meets completed asked (same.responseContract ▸ contracted)

theorem Concludes.contentUpdate {content : Content} (concludes : Concludes o outcome (contentUpdate content) snapshot)
    (retains : o.retainTerminalResponse = true) : content.cloneAndFreeze.map some = some snapshot.content := by
  have copied := concludes.content retains
  cases cloned : content.cloneAndFreeze with
  | none => simp [responseForUpdate, Routing.contentUpdate, TaskTransitionUpdate.empty, cloned] at copied
  | some copy => simpa [responseForUpdate, Routing.contentUpdate, TaskTransitionUpdate.empty, cloned] using copied

theorem asks_toJson (contract : ExpectedResponse) : Asks contract.toJson contract := .inl rfl

/-- What the host completes an execution with fits the request, which is tracked while it is live. -/
theorem HostConcludes.meets (host : HostConcludes c requestId r q snapshot) (safe : Safe c r)
    (begun : ∃ execution ∈ r.executions, execution.requestId = requestId)
    (live : isTerminalTaskState (r.taskStore.heap q).state = false) :
    MeetsContract c (r.taskStore.heap q) snapshot := by
  intro completed asked contracted
  obtain ⟨found, concludes⟩ := host
  obtain ⟨content, ended, meets⟩ := concludes completed
  obtain ⟨made, named⟩ := safe.ordered.ledger.filed requestId q found
  obtain ⟨execution, member, rfl⟩ := begun
  obtain ⟨record, here⟩ := JsMap.has_iff.mp ((safe.executed execution member).2 ⟨q, made, named, live⟩)
  have requested := (safe.tracked _ record here).of_find safe.ordered.ledger found
  have contract := requested.contract
  cases expects : Envelope.expectedResponse record.envelope with
  | none =>
    rw [expects, contracted] at contract
    cases contract
  | some expected =>
    rw [expects, contracted] at contract
    refine ⟨expected, content.toJson, .inr contract, meets record expected here expects, fun retains => ?_⟩
    rw [Content.ofJson_toJson]
    exact Concludes.contentUpdate ended retains

theorem ReplyConcludes.meets (reply : ReplyConcludes c envelope r q snapshot) :
    MeetsContract c (r.taskStore.heap q) snapshot := by
  intro completed asked contracted
  obtain ⟨outcome, told, concludes⟩ := reply.told
  have same : outcome = .completed := concludes.state.symm.trans completed
  subst same
  refine ⟨asked.toJson, (Envelope.payload envelope).member "content", asks_toJson asked,
    reply.allowed.fits told asked contracted, fun retains => ?_⟩
  exact Concludes.contentUpdate concludes retains

/-- What a proper event may conclude keeps contracts. -/
theorem accounts_meetsContract {event : RouterEvent} (proper : Proper r event) :
    Accounts c (groundsOf c r event) (r.executions.map Execution.requestId) (MeetsContract c) := by
  have cancelled : ∀ {task : StoredTask} {snapshot : TaskSnapshot},
      snapshot.state = .cancelled → MeetsContract c task snapshot := by
    intro task snapshot cancelled completed
    rw [cancelled] at completed
    cases completed
  intro m q snapshot safe tracked made live _ concludes
  have named : ∀ id, (∃ execution ∈ r.executions, execution.requestId = id) →
      ∃ execution ∈ m.executions, execution.requestId = id := by
    rintro id ⟨execution, member, rfl⟩
    exact tracked _ (List.mem_map_of_mem member)
  cases event with
  | inbound raw binding authentication =>
    obtain cancels | ⟨envelope, _, _, reply⟩ := concludes
    · exact cancelled cancels
    · exact reply.meets
  | completeTask requestId content => exact HostConcludes.meets concludes safe (named requestId proper) live
  | failTask requestId error => exact HostConcludes.meets concludes safe (named requestId proper) live
  | rejectTask requestId error => exact HostConcludes.meets concludes safe (named requestId proper) live
  | executorReturned index returned =>
    obtain ⟨execution, here, _, host⟩ := concludes
    exact HostConcludes.meets host safe (named _ ⟨execution, List.mem_of_getElem? here, rfl⟩) live
  | executorThrew index =>
    obtain ⟨execution, here, _, host⟩ := concludes
    exact HostConcludes.meets host safe (named _ ⟨execution, List.mem_of_getElem? here, rfl⟩) live
  | cancelTask requestId request => exact cancelled concludes
  | _ => exact concludes.elim

/-- **Every completed task has kept its contract**, the tasks a router has taken up and those it has
asked for: what it was completed with is a JSON content whose value satisfies the expected schema. -/
theorem completed_meets_contract (retains : Retains c) (reached : (properSystem c).Reachable r) (made : q < r.taskStore.nextRecord)
    (completed : (r.taskStore.heap q).state = .completed)
    (contracted : (r.taskStore.heap q).responseContract = some contract) :
    ∃ expected content, Asks expected contract ∧ Fits c content expected ∧
      (c.storeOptions.retainTerminalResponse = true →
        (Content.ofJson content).cloneAndFreeze.map some = some (r.taskStore.heap q).snapshot.content) := by
  have kept : Safe c r ∧ Accounted (MeetsContract c) r.taskStore := by
    refine reached.invariant (I := fun r => Safe c r ∧ Accounted (MeetsContract c) r.taskStore) ?_ ?_
    · exact fun r fresh => ⟨Made.safe fresh, Made.accounted fresh⟩
    · exact fun r event r' kept step => ⟨kept.1.step retains step, kept.2.step retains meetsContract_lasts kept.1 step.1
        (accounts_meetsContract step.1) (changes_of_step retains kept.1.ordered step.2)⟩
  have state : (r.taskStore.heap q).state = .completed := completed
  exact kept.2 q made (by rw [state]; rfl) (by rw [state]; decide) completed contract contracted

theorem completed_meets_contract_sample : ∃ expected content,
    Asks expected ⟨.object none [("type", .string "number")]⟩ ∧ Fits (sampleConfig "runtime-b") content expected ∧
      (Content.ofJson content).cloneAndFreeze.map some =
        some ((played "runtime-b" answering).taskStore.heap 0).snapshot.content := by
  have ended := played_answering.2
  have made : 0 < (played "runtime-b" answering).taskStore.nextRecord := by
    rw [ended.1]
    exact Nat.one_pos
  have reached : (properSystem (sampleConfig "runtime-b")).Reachable (played "runtime-b" answering) :=
    played_reachable ⟨trivial, trivial, trivial, trivial⟩
  obtain ⟨expected, content, asks, fits, kept⟩ :=
    completed_meets_contract (c := sampleConfig "runtime-b") rfl reached made ended.2.1 ended.2.2
  exact ⟨expected, content, asks, fits, kept rfl⟩

end Contracts
end PiToPi.Routing
