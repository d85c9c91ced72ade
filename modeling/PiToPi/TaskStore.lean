import Mathlib.Data.Finset.Basic
import PiToPi.JsMap
import PiToPi.Reentrant
import PiToPi.TaskState

/-!
`TaskStore`: the runtime-local task state. Records are objects, so the store
holds references to them; a caller in the middle of an operation keeps its
reference when the record has been removed and its request id reused.

Every operation runs to its end in one turn, but aborting a task runs its abort
listeners and the hooks run in place, and all of these may call back into the
store. The operations are `Code` in that sense, and `storeMachine` runs them
under every nesting. Clock readings are numbers supplied one by one.
-/
namespace PiToPi
open Reentrant

/-- A reference to a `StoredTask`. -/
abbrev RecordId := Nat

structure TaskOwner where
  runtimeId : JsString
  sessionId : Option JsString
  deriving DecidableEq

inductive TaskOwnership where
  | inbound | outbound
  deriving DecidableEq, Repr

structure TaskResponse where
  content : Option Content
  error : Option ProtocolError

/-- `content` and `error` may be present without a value; an absent one keeps
what a task that is not terminal carries. -/
structure TaskTransitionUpdate where
  content : Option (Option Content)
  error : Option (Option ProtocolError)
  response : Option TaskResponse
  cancellationRequested : Bool
  requestedAt : Option TimestampInput
  updatedAt : Option TimestampInput
  reason : Option JsString

/-- `{}`. -/
def TaskTransitionUpdate.empty : TaskTransitionUpdate :=
  ⟨none, none, none, false, none, none, none⟩

structure TaskStoreCreateInput where
  requestId : JsString
  owner : Option TaskOwner
  requester : Option TaskOwner
  sender : Option TaskOwner
  ownerRuntimeId : Option JsString
  senderRuntimeId : Option JsString
  ownerSessionId : Option JsString
  localOwner : Option TaskOwner
  expectedTargetRuntimeId : Option JsString
  roomId : Option JsString
  responseContract : Option ExpectedResponse
  ownership : Option TaskOwnership
  direction : Option TaskOwnership
  createdAt : Option TimestampInput
  expiresAt : Option TimestampInput
  state : Option TaskState
  initialState : Option TaskState
  admissionState : Option TaskState
  cancellationRequested : Option Bool
  requestedAt : Option TimestampInput
  response : Option TaskResponse
  content : Option Content
  error : Option ProtocolError

/-- `{ requestId }`. -/
def TaskStoreCreateInput.bare (requestId : JsString) : TaskStoreCreateInput where
  requestId
  owner := none
  requester := none
  sender := none
  ownerRuntimeId := none
  senderRuntimeId := none
  ownerSessionId := none
  localOwner := none
  expectedTargetRuntimeId := none
  roomId := none
  responseContract := none
  ownership := none
  direction := none
  createdAt := none
  expiresAt := none
  state := none
  initialState := none
  admissionState := none
  cancellationRequested := none
  requestedAt := none
  response := none
  content := none
  error := none

structure CancellationRequest where
  caller : Option JsString
  reason : Option JsString
  requestedAt : Option TimestampInput

structure SnapshotReadOptions where
  includeTerminalResponse : Bool
  caller : Option JsString

inductive TaskStoreErrorCode where
  | duplicate | notFound | invalidTransition | terminal | unauthorized | notCancelable | expired
  | disposed
  deriving DecidableEq, Repr

/-- What an operation throws. -/
inductive StoreError where
  | taskStore (code : TaskStoreErrorCode) (message : JsString)
  | rangeError (message : JsString)
  | typeError
  /-- Whatever the `authorize` hook threw. -/
  | hook

inductive TaskTransitionResult where
  | success (previousState : TaskState) (snapshot : TaskSnapshot)
  | failure (code : TaskStoreErrorCode) (snapshot : Option TaskSnapshot)

inductive TaskCancellationResult where
  | success (changed : Bool) (state : TaskState) (snapshot : TaskSnapshot)
  | failure (code : TaskStoreErrorCode) (snapshot : Option TaskSnapshot)

inductive TaskStatusResult where
  | found (snapshot : TaskSnapshot)
  | missing (code : TaskStoreErrorCode)

inductive TaskAuthorizationAction where
  | status | cancel
  deriving DecidableEq, Repr

/-- A timer handle in `expiryTimer` or `purgeTimer` is the delay it was armed
with. The callbacks and `clearTimers` clear it, so that the host holds a timer
exactly while the record does. -/
structure StoredTask where
  requestId : JsString
  owner : TaskOwner
  localOwner : TaskOwner
  expectedTargetRuntimeId : Option JsString
  roomId : Option JsString
  responseContract : Option ExpectedResponse
  ownership : TaskOwnership
  /-- `controller.signal.aborted`. -/
  aborted : Bool
  /-- `controller.signal.reason`. -/
  abortReason : Option JsString
  deadlineMs : ℚ
  deadlineMonotonicMs : ℚ
  updatedAtMs : ℚ
  snapshot : TaskSnapshot
  expiryTimer : Option ℚ
  purgeTimer : Option ℚ

def StoredTask.state (task : StoredTask) : TaskState := task.snapshot.state

structure TaskStoreOptions where
  host : Host
  retainTerminalResponse : Bool
  /-- `none` retains terminal records for ever. -/
  terminalRetentionMs : Option ℚ
  localOwnerRuntimeId : Option JsString

structure TaskStore where
  /-- The record objects made so far. -/
  heap : RecordId → StoredTask
  nextRecord : RecordId
  records : JsMap JsString RecordId
  queued : Finset JsString
  disposed : Bool
  /-- The readings `nowFn` and `monotonicNowFn` are going to give. -/
  nowFn : Nat → ℚ
  monotonicNowFn : Nat → ℚ

/-- Host code an operation runs in place. -/
inductive StoreCallback where
  | abortListeners (record : RecordId) (reason : Option JsString)
  | stateChange (requestId : JsString) (source target : TaskState) (snapshot : TaskSnapshot)
  | cancellationRequested (requestId : JsString) (owner : TaskOwner) (snapshot : TaskSnapshot)
      (reason : Option JsString)
  | expired (snapshot : TaskSnapshot)
  | authorize (requestId : JsString) (action : TaskAuthorizationAction) (owner : TaskOwner)
      (callerRuntimeId : JsString)

abbrev StoreM (α : Type) := Code TaskStore StoreCallback StoreError α

def defaultRequestTtlMs : ℚ := 10 * 60 * 1000

namespace TaskStore

/-- `this.records.get(taskKey(requestId))`. -/
def find (s : TaskStore) (requestId : JsString) : Option RecordId := s.records.get? requestId

/-- Assign fields of a record. -/
def update (s : TaskStore) (record : RecordId) (change : StoredTask → StoredTask) : TaskStore :=
  { s with heap := Function.update s.heap record (change (s.heap record)) }

end TaskStore

section Operations

variable (options : TaskStoreOptions)

def ensureUsable : StoreM Unit := do
  if (← Code.read).disposed then
    Code.throw (.taskStore .disposed "task store is disposed")

def currentNow : StoreM ℚ := do
  let store ← Code.read
  Code.modify fun s => { s with nowFn := fun n => s.nowFn (n + 1) }
  return store.nowFn 0

def currentMonotonic : StoreM ℚ := do
  let store ← Code.read
  Code.modify fun s => { s with monotonicNowFn := fun n => s.monotonicNowFn (n + 1) }
  return store.monotonicNowFn 0

def timestamp (input : TimestampInput) : StoreM NormalizedTimestamp :=
  Code.ofExcept ((normalizeTimestamp options.host input).mapError .rangeError)

def nowStamp (epochMs : ℚ) : StoreM NormalizedTimestamp :=
  Code.ofExcept ((nowTimestamp options.host epochMs).mapError .rangeError)

/-- `normalizeOwnerValue`. -/
def normalizeOwnerValue : Option TaskOwner → Except StoreError (Option TaskOwner)
  | none => .ok none
  | some owner => if owner.runtimeId.length = 0 then .error .typeError else .ok (some owner)

def normalizeOwner (input : TaskStoreCreateInput) : Except StoreError TaskOwner := do
  match ← normalizeOwnerValue ((input.requester.or input.owner).or input.sender) with
  | some owner => return owner
  | none =>
    match ← normalizeOwnerValue ((input.ownerRuntimeId.or input.senderRuntimeId).map fun runtimeId =>
        ⟨runtimeId, input.ownerSessionId⟩) with
    | some owner => return owner
    | none => .error .typeError

def normalizeLocalOwner (input : TaskStoreCreateInput) (requester : TaskOwner) :
    Except StoreError TaskOwner := do
  match ← normalizeOwnerValue input.localOwner with
  | some owner => return owner
  | none =>
    return (← normalizeOwnerValue (options.localOwnerRuntimeId.map fun runtimeId =>
      ⟨runtimeId, none⟩)).getD requester

/-- `buildSnapshot`; copying may throw. -/
def buildSnapshot (requestId : JsString) (state : TaskState) (createdAt updatedAt expiresAt : JsString)
    (cancellationRequested : Bool) (requestedAt : Option JsString) (content : Option Content)
    (error : Option ProtocolError) (terminalResponse : TaskResponse) :
    Except StoreError TaskSnapshot :=
  let terminal := isTerminalTaskState state
  let content := if !terminal then content
    else if options.retainTerminalResponse then terminalResponse.content.or content else none
  let error := if !terminal then error
    else if options.retainTerminalResponse then terminalResponse.error.or error else none
  match content.mapM Content.cloneAndFreeze, error.mapM ProtocolError.cloneAndFreeze with
  | some content, some error =>
    .ok { requestId, state, createdAt, updatedAt, expiresAt, cancellationRequested, content, error
          cancellation := if cancellationRequested then some ⟨requestedAt⟩ else none
          terminalOutcome := if terminal then some state else none }
  | _, _ => .error .typeError

def projectSnapshot (snapshot : TaskSnapshot) (includeTerminalResponse : Bool) : TaskSnapshot :=
  if !isTerminalTaskState snapshot.state || includeTerminalResponse then snapshot
  else { snapshot with content := none, error := none }

def clearExpiry (task : StoredTask) : StoredTask := { task with expiryTimer := none }

def clearTimers (task : StoredTask) : StoredTask := { task with expiryTimer := none, purgeTimer := none }

/-- `removeRecord(key, record)`. -/
def removeRecord (key : JsString) (record : RecordId) : StoreM Unit :=
  Code.modify fun s => { s.update record clearTimers with
    records := s.records.delete key
    queued := s.queued.erase key }

/-- The state of `controller.signal`. -/
def signalled (aborted : Bool) (abortReason : Option JsString) (task : StoredTask) : StoredTask :=
  { task with aborted, abortReason }

/-- `abort`: the listeners run before it returns. -/
def abort (record : RecordId) (reason : Option JsString) : StoreM Unit := do
  if !((← Code.read).heap record).aborted then
    Code.modify fun s => s.update record (signalled true reason)
    Code.notify (.abortListeners record reason)

/-- Hooks are observers, whose exceptions are swallowed. -/
def notifyExpired (snapshot : TaskSnapshot) : StoreM Unit := do
  if snapshot.state = .expired then Code.notify (.expired snapshot)

/-- `schedulePurge`: nothing is armed when records are retained for ever. -/
def schedulePurge (task : StoredTask) : StoredTask :=
  match options.terminalRetentionMs with
  | none => task
  | some delayMs => { task with purgeTimer := some delayMs }

def nextCancellation (task : StoredTask) (nextState : TaskState) (update : TaskTransitionUpdate) :
    StoreM (Bool × Option JsString) := do
  let current := task.snapshot
  let requested := current.cancellationRequested || update.cancellationRequested ||
    nextState == .cancelling
  let requestedAt := current.cancellation.bind (·.requestedAt)
  if requested && !current.cancellationRequested then
    match update.requestedAt with
    | some input => return (requested, some (← timestamp options input).value)
    | none =>
      let now ← currentNow
      return (requested, some (← nowStamp options now).value)
  else
    match requested, update.requestedAt with
    | true, some input => return (requested, some (← timestamp options input).value)
    | _, _ => return (requested, requestedAt)

def nextUpdatedAt (task : StoredTask) (value : Option TimestampInput) : StoreM NormalizedTimestamp := do
  let now ← currentNow
  let candidate ← match value with
    | none => nowStamp options now
    | some input => timestamp options input
  if task.updatedAtMs ≤ candidate.epochMs then return candidate
  else nowStamp options task.updatedAtMs

def responseForUpdate (update : TaskTransitionUpdate) : TaskResponse :=
  update.response.getD ⟨update.content.join, update.error.join⟩

/-- `updateReason`. -/
def updateReason (update : TaskTransitionUpdate) : Option JsString :=
  update.reason.or (update.error.join.map (·.message))

/-- A task with the next snapshot; a terminal one trades its timers. -/
def commitTask (task : StoredTask) (nextSnapshot : TaskSnapshot) (updatedAtMs : ℚ) : StoredTask :=
  let task := { task with snapshot := nextSnapshot, updatedAtMs }
  if isTerminalTaskState nextSnapshot.state then schedulePurge options (clearExpiry task) else task

/-- The linearization point of a transition. -/
def commit (s : TaskStore) (record : RecordId) (nextSnapshot : TaskSnapshot) (updatedAtMs : ℚ) :
    TaskStore :=
  let key := (s.heap record).requestId
  { s.update record fun task => commitTask options task nextSnapshot updatedAtMs with
    queued := if nextSnapshot.state = .queued then insert key s.queued else s.queued.erase key }

/-- The snapshot a transition is going to commit, with its time. -/
def buildNextSnapshot (task : StoredTask) (nextState : TaskState) (update : TaskTransitionUpdate) :
    StoreM (TaskSnapshot × ℚ) := do
  let current := task.snapshot
  let nextIsTerminal := isTerminalTaskState nextState
  let (requested, requestedAt) ← nextCancellation options task nextState update
  let stamp ← nextUpdatedAt options task update.updatedAt
  let response := responseForUpdate update
  let nextSnapshot ← Code.ofExcept (buildSnapshot options task.requestId nextState
    current.createdAt stamp.value current.expiresAt requested requestedAt
    (if nextIsTerminal then response.content else update.content.getD current.content)
    (if nextIsTerminal then response.error else update.error.getD current.error) response)
  return (nextSnapshot, stamp.epochMs)

/-- The hooks that observe a committed transition. -/
def notifyTransition (task : StoredTask) (nextSnapshot : TaskSnapshot) (reason : Option JsString) :
    StoreM Unit := do
  Code.notify (.stateChange task.requestId task.state nextSnapshot.state nextSnapshot)
  notifyExpired nextSnapshot
  if nextSnapshot.state = .cancelling then
    Code.notify (.cancellationRequested task.requestId task.owner nextSnapshot reason)

/-- What follows the linearization point: the signal, then the hooks. -/
def announce (record : RecordId) (task : StoredTask) (nextSnapshot : TaskSnapshot)
    (reason : Option JsString) : StoreM Unit := do
  let nextState := nextSnapshot.state
  if nextState = .cancelling ∨ nextState = .cancelled ∨ nextState = .expired then
    abort record reason
  notifyTransition task nextSnapshot reason

/-- `tryTransition` once the record is looked up and, unless it is to expire,
its deadline checked. -/
def transitionRecord (record : RecordId) (expectedState : Option TaskState) (nextState : TaskState)
    (update : TaskTransitionUpdate) : StoreM TaskTransitionResult := do
  let task := (← Code.read).heap record
  let current := task.snapshot
  if expectedState.any (· ≠ current.state) then return .failure .invalidTransition (some current)
  else if isTerminalTaskState current.state then return .failure .terminal (some current)
  else if !canTransitionTaskState current.state nextState then
    return .failure .invalidTransition (some current)
  else
    let (nextSnapshot, updatedAtMs) ← buildNextSnapshot options task nextState update
    Code.modify fun s => commit options s record nextSnapshot updatedAtMs
    announce record task nextSnapshot (updateReason update)
    return .success current.state nextSnapshot

/-- The update `expireRecord` and `expireTask` commit. -/
def expiredUpdate : TaskTransitionUpdate :=
  { TaskTransitionUpdate.empty with
    error := some (some (createProtocolError .expired "task deadline expired")) }

/-- `expireRecord`: `tryTransition(record.requestId, 'expired', …)`, which finds
the record by its request id. -/
def expireRecord (record : RecordId) : StoreM Unit := do
  let store ← Code.read
  let task := store.heap record
  if !store.records.has task.requestId || isTerminalTaskState task.state then return
  else
    ensureUsable
    match (← Code.read).find task.requestId with
    | none => return
    | some found =>
      let _ ← transitionRecord options found none .expired expiredUpdate
      return

def expireIfDue (record : RecordId) : StoreM Unit := do
  let task := (← Code.read).heap record
  if isTerminalTaskState task.state then return
  else
    let now ← currentMonotonic
    if task.deadlineMonotonicMs ≤ now then expireRecord options record

/-- `tryTransition`, with or without an expected state. -/
def tryTransition (requestId : JsString) (expectedState : Option TaskState) (nextState : TaskState)
    (update : TaskTransitionUpdate) : StoreM TaskTransitionResult := do
  ensureUsable
  match (← Code.read).find requestId with
  | none => return .failure .notFound none
  | some record =>
    if nextState ≠ .expired then expireIfDue options record
    transitionRecord options record expectedState nextState update

/-- `scheduleExpiry`: a deadline already reached expires the record at once. -/
def scheduleExpiry (record : RecordId) : StoreM Unit := do
  let task := (← Code.read).heap record
  let now ← currentMonotonic
  let delayMs := max 0 (task.deadlineMonotonicMs - now)
  if delayMs = 0 then expireRecord options record
  else Code.modify fun s => s.update record fun task => { task with expiryTimer := some delayMs }

/-- `new Map().set(key, record)` on a record object made for it. -/
def insertRecord (s : TaskStore) (key : JsString) (task : StoredTask) : TaskStore :=
  { s with
    heap := Function.update s.heap s.nextRecord task
    nextRecord := s.nextRecord + 1
    records := s.records.set key s.nextRecord
    queued := if task.state = .queued then insert key s.queued else s.queued }

/-- When the cancellation a task is created with was requested. -/
def creationRequestedAt (input : TaskStoreCreateInput) (now : ℚ) : StoreM (Option JsString) := do
  if input.cancellationRequested.getD false then
    match input.requestedAt with
    | some value => return some (← timestamp options value).value
    | none => return some (← nowStamp options now).value
  else return none

/-- `cloneAndFreeze(responseContract)`. -/
def cloneContract : Option ExpectedResponse → Except StoreError (Option ExpectedResponse)
  | none => .ok none
  | some contract => match cloneAndFreeze contract.schema with
    | some schema => .ok (some ⟨schema⟩)
    | none => .error .typeError

/-- The record `createTask` makes, up to its insertion. -/
def newTask (input : TaskStoreCreateInput) : StoreM StoredTask := do
  let owner ← Code.ofExcept (normalizeOwner input)
  let localOwner ← Code.ofExcept (normalizeLocalOwner options input owner)
  let ownership := (input.ownership.or input.direction).getD .inbound
  let requestedState := ((input.initialState.or input.state).or input.admissionState).getD .accepted
  if requestedState = .cancelling then
    Code.throw (.taskStore .invalidTransition "a task cannot be created in cancelling state")
  else
    let now ← currentNow
    let createdAt ← timestamp options (input.createdAt.getD (.number (some now)))
    let expiresAt ← timestamp options
      (input.expiresAt.getD (.number (some (createdAt.epochMs + defaultRequestTtlMs))))
    if expiresAt.epochMs ≤ createdAt.epochMs then
      Code.throw (.rangeError "task expiresAt must be later than createdAt")
    else
      let expiredAtAdmission := !isTerminalTaskState requestedState && expiresAt.epochMs ≤ now
      let state := if expiredAtAdmission then .expired else requestedState
      let requestedAt ← creationRequestedAt options input now
      let response := input.response.getD ⟨input.content, input.error⟩
      let error := if expiredAtAdmission then
          some (createProtocolError .expired "task deadline elapsed before admission")
        else response.error
      let snapshot ← Code.ofExcept (buildSnapshot options input.requestId state createdAt.value
        createdAt.value expiresAt.value (input.cancellationRequested.getD false) requestedAt
        response.content error response)
      let monotonic ← currentMonotonic
      let responseContract ← Code.ofExcept (cloneContract input.responseContract)
      return { requestId := input.requestId, owner, localOwner, responseContract, ownership, snapshot
               expectedTargetRuntimeId := input.expectedTargetRuntimeId
               roomId := input.roomId
               aborted := false
               abortReason := none
               deadlineMs := expiresAt.epochMs
               deadlineMonotonicMs := monotonic + max 0 (expiresAt.epochMs - now)
               updatedAtMs := createdAt.epochMs
               expiryTimer := none
               purgeTimer := none }

def createTask (input : TaskStoreCreateInput) : StoreM TaskSnapshot := do
  ensureUsable
  let key := input.requestId
  if (← Code.read).records.has key then
    Code.throw (.taskStore .duplicate ("task " ++ key ++ " already exists"))
  else
    let task ← newTask options input
    let record := (← Code.read).nextRecord
    if isTerminalTaskState task.state then
      Code.modify fun s => insertRecord s key (schedulePurge options task)
      if task.state = .expired then
        abort record (some "task deadline expired")
        notifyExpired task.snapshot
    else
      Code.modify fun s => insertRecord s key task
      scheduleExpiry options record
    return task.snapshot

/-- `isAuthorized`; only a third party reaches the `authorize` hook. -/
def isAuthorized (record : RecordId) (caller : JsString) (action : TaskAuthorizationAction) :
    StoreM Bool := do
  let task := (← Code.read).heap record
  if caller = task.owner.runtimeId ∨ options.localOwnerRuntimeId = some caller then return true
  else
    match ← Code.call (.authorize task.requestId action task.owner caller) with
    | some answer => return answer
    | none => Code.throw .hook

/-- Whether a caller was named who may not see the task. -/
def refuses (record : RecordId) (caller : Option JsString) (action : TaskAuthorizationAction) :
    StoreM Bool := do
  match caller with
  | none => return false
  | some caller => return !(← isAuthorized options record caller action)

def getTask (requestId : JsString) (read : SnapshotReadOptions) : StoreM (Option TaskSnapshot) := do
  match (← Code.read).find requestId with
  | none => return none
  | some record =>
    expireIfDue options record
    if ← refuses options record read.caller .status then return none
    else
      let snapshot := ((← Code.read).heap record).snapshot
      return some (projectSnapshot snapshot read.includeTerminalResponse)

def getStatusResult (requestId : JsString) (read : SnapshotReadOptions) : StoreM TaskStatusResult := do
  match (← Code.read).find requestId with
  | none => return .missing (if read.caller.isNone then .notFound else .unauthorized)
  | some record =>
    expireIfDue options record
    if ← refuses options record read.caller .status then return .missing .unauthorized
    else
      let snapshot := ((← Code.read).heap record).snapshot
      return .found (projectSnapshot snapshot read.includeTerminalResponse)

/-- `getRecordMetadata`, and `getTaskHandle` with fewer fields: the record. -/
def getRecordMetadata (requestId : JsString) : StoreM (Option StoredTask) := do
  match (← Code.read).find requestId with
  | none => return none
  | some record =>
    expireIfDue options record
    return some ((← Code.read).heap record)

def ownsTask (requestId : JsString) (caller : JsString) : StoreM Bool := do
  match (← Code.read).find requestId with
  | none => return false
  | some record => isAuthorized options record caller .status

/-- `transition`, and with it `startTask`, `acceptTask`, `queueTask` and `update`. -/
def transition (requestId : JsString) (nextState : TaskState) (update : TaskTransitionUpdate) :
    StoreM (Option TaskSnapshot) := do
  match ← tryTransition options requestId none nextState update with
  | .success _ snapshot => return some snapshot
  | .failure .. => return none

def beginExecution (requestId : JsString) : StoreM (Option StoredTask) := do
  match (← Code.read).find requestId with
  | none => return none
  | some record =>
    expireIfDue options record
    if ((← Code.read).heap record).state ≠ .working then
      match ← tryTransition options requestId none .working .empty with
      | .failure .. => return none
      | .success .. =>
        let task := (← Code.read).heap record
        if task.state ≠ .working then return none else return some task
    else return some ((← Code.read).heap record)

def completeTask (requestId : JsString) (update : TaskTransitionUpdate) :
    StoreM (Option TaskSnapshot) := transition options requestId .completed update

def failTask (requestId : JsString) (update : TaskTransitionUpdate) :
    StoreM (Option TaskSnapshot) := transition options requestId .failed update

def rejectTask (requestId : JsString) (update : TaskTransitionUpdate) :
    StoreM (Option TaskSnapshot) := transition options requestId .rejected update

def expireTask (requestId : JsString) : StoreM (Option TaskSnapshot) := do
  match (← Code.read).find requestId with
  | none => return none
  | some record =>
    let task := (← Code.read).heap record
    match ← tryTransition options task.requestId none .expired expiredUpdate with
    | .success _ snapshot => return some snapshot
    | .failure _ snapshot => return snapshot

/-- `cancellationFailureCode`. -/
def cancellationFailureCode : TaskStoreErrorCode → TaskStoreErrorCode
  | .notFound => .notFound
  | _ => .notCancelable

/-- `request.requestedAt ?? new Date(this.currentNow())`. -/
def cancellationRequestedAt (request : CancellationRequest) : StoreM TimestampInput := do
  match request.requestedAt with
  | some requestedAt => return requestedAt
  | none => return .date (Date.timeClip (← currentNow))

def cancelTask (requestId : JsString) (request : CancellationRequest) :
    StoreM TaskCancellationResult := do
  ensureUsable
  match (← Code.read).find requestId with
  | none => return .failure (if request.caller.isNone then .notFound else .unauthorized) none
  | some record =>
    expireIfDue options record
    if ← refuses options record request.caller .cancel then return .failure .unauthorized none
    else
      let task := (← Code.read).heap record
      if task.state = .cancelled then return .success false .cancelled task.snapshot
      else if isTerminalTaskState task.state then
        return .failure .notCancelable (some task.snapshot)
      else
        let requestedAt ← cancellationRequestedAt request
        let cancelling := task.state = .working
        let update := { TaskTransitionUpdate.empty with
          cancellationRequested := true
          requestedAt := some requestedAt
          reason := if cancelling then request.reason else none
          error := if cancelling then none
            else request.reason.map fun reason => some (createProtocolError .cancelled reason) }
        let nextState := if cancelling then .cancelling else .cancelled
        match ← tryTransition options task.requestId none nextState update with
        | .success _ snapshot => return .success true nextState snapshot
        | .failure code snapshot => return .failure (cancellationFailureCode code) snapshot

/-- `purgeTask`. -/
def purgeTask (requestId : JsString) : StoreM Bool := do
  let store ← Code.read
  match store.find requestId with
  | none => return false
  | some record =>
    if isTerminalTaskState (store.heap record).state then
      removeRecord requestId record
      return true
    else return false

/-- The callback `scheduleExpiry` arms. -/
def expiryTimer (record : RecordId) : StoreM Unit := do
  if ((← Code.read).heap record).expiryTimer.isSome then
    Code.modify fun s => s.update record fun task => { task with expiryTimer := none }
    expireRecord options record

/-- The callback `schedulePurge` arms. -/
def purgeTimer (record : RecordId) : StoreM Unit := do
  if ((← Code.read).heap record).purgeTimer.isSome then
    Code.modify fun s => s.update record fun task => { task with purgeTimer := none }
    let task := (← Code.read).heap record
    if isTerminalTaskState task.state then removeRecord task.requestId record

/-- Where a loop over `this.records.values()` is: the records it has visited. A
record made or removed meanwhile is seen, or not, as the live iterator sees it. -/
inductive StoreLoop where
  | clear (disposing : Bool) (visited : List RecordId)
  | list (read : SnapshotReadOptions) (visited : List RecordId) (snapshots : List TaskSnapshot)

/-- The record the iterator comes to next. -/
def TaskStore.nextUnvisited (s : TaskStore) (visited : List RecordId) : Option RecordId :=
  s.records.values.find? fun record => record ∉ visited

/-- One round of `clear`, which answers what it has visited, or after the last
one the end of it and of `dispose`. -/
def clearRound (disposing : Bool) (visited : List RecordId) : StoreM (Option (List RecordId)) := do
  match (← Code.read).nextUnvisited visited with
  | some record =>
    Code.modify fun s => s.update record clearTimers
    abort record (some "task store cleared")
    return some (record :: visited)
  | none =>
    Code.modify fun s => { s with records := ∅, queued := ∅, disposed := s.disposed || disposing }
    return none

/-- One round of `listSnapshots`, which answers `snapshots` in the end. -/
def listRound (read : SnapshotReadOptions) (visited : List RecordId) (snapshots : List TaskSnapshot) :
    StoreM (Option (List RecordId × List TaskSnapshot)) := do
  match (← Code.read).nextUnvisited visited with
  | some record =>
    expireIfDue options record
    if ← refuses options record read.caller .status then
      return some (record :: visited, snapshots)
    else
      let snapshot := ((← Code.read).heap record).snapshot
      return some (record :: visited,
        snapshots ++ [projectSnapshot snapshot read.includeTerminalResponse])
  | none => return none

/-- What the host may call: the operations and the armed timers. -/
inductive StoreOp where
  | createTask (input : TaskStoreCreateInput)
  | tryTransition (requestId : JsString) (expectedState : Option TaskState) (nextState : TaskState)
      (update : TaskTransitionUpdate)
  | beginExecution (requestId : JsString)
  | expireTask (requestId : JsString)
  | cancelTask (requestId : JsString) (request : CancellationRequest)
  | purgeTask (requestId : JsString)
  | clear
  | dispose
  | getTask (requestId : JsString) (read : SnapshotReadOptions)
  | getStatusResult (requestId : JsString) (read : SnapshotReadOptions)
  | getRecordMetadata (requestId : JsString)
  | ownsTask (requestId : JsString) (caller : JsString)
  | listSnapshots (read : SnapshotReadOptions)
  | expiryTimer (record : RecordId)
  | purgeTimer (record : RecordId)

/-- The operation removes the tasks it finds whatever their state. -/
def StoreOp.isClear : StoreOp → Bool
  | .clear | .dispose => true
  | _ => false

/-- The record whose purge timer the operation fires. -/
def StoreOp.purges : StoreOp → Option RecordId
  | .purgeTimer record => some record
  | _ => none

/-- Code whose answer is not looked at. -/
def finish (code : StoreM α) (s : TaskStore) : Sync TaskStore StoreCallback (Option StoreLoop) :=
  (code s).bind fun s _ => .done s none

/-- Code that says whether its loop goes on; an exception leaves it. -/
def continueAt (label : α → StoreLoop) (code : StoreM (Option α)) (s : TaskStore) :
    Sync TaskStore StoreCallback (Option StoreLoop) :=
  (code s).bind fun s next => .done s (next.toOption.join.map label)

/-- The store with its operations, under every nesting of calls. -/
def storeMachine : Machine TaskStore StoreCallback StoreOp StoreLoop where
  start
    | .createTask input => finish (createTask options input)
    | .tryTransition requestId expectedState nextState update =>
      finish (tryTransition options requestId expectedState nextState update)
    | .beginExecution requestId => finish (beginExecution options requestId)
    | .expireTask requestId => finish (expireTask options requestId)
    | .cancelTask requestId request => finish (cancelTask options requestId request)
    | .purgeTask requestId => finish (purgeTask requestId)
    | .clear => fun s => .done s (some (.clear false []))
    | .dispose => fun s => .done s (if s.disposed then none else some (.clear true []))
    | .getTask requestId read => finish (getTask options requestId read)
    | .getStatusResult requestId read => finish (getStatusResult options requestId read)
    | .getRecordMetadata requestId => finish (getRecordMetadata options requestId)
    | .ownsTask requestId caller => finish (ownsTask options requestId caller)
    | .listSnapshots read => fun s => .done s (some (.list read [] []))
    | .expiryTimer record => finish (expiryTimer options record)
    | .purgeTimer record => finish (purgeTimer record)
  round
    | .clear disposing visited => continueAt (.clear disposing) (clearRound disposing visited)
    | .list read visited snapshots =>
      continueAt (fun (visited, snapshots) => .list read visited snapshots)
        (listRound options read visited snapshots)

end Operations
end PiToPi
