import PiToPi.JsMap
import PiToPi.ProtocolError
import Mathlib.Data.Rat.Floor

/-!
`RuntimeScopedDedupeStore`: at most one execution of a mutating operation per
sender and operation id, and the same answer to every retry of it.

The code is written over the values callers hand in and get back (`Values`):
whether a value is an object others may still change, and what cloning it
costs, is decided by who uses the store. The validator is a parameter too
(`Requests`), since the store only uses the projection it computes.
-/
namespace PiToPi

/-- `DEDUPE_OPERATION_NAMES`. -/
def dedupeOperationNames : List JsString :=
  ["message.request", "message.notify", "message.reply", "task.cancel"].map JsString.ofString

def isDedupeOperation (operation : JsString) : Bool := dedupeOperationNames.contains operation

/-- `makeDedupeKey`: the parts around a NUL. -/
def makeDedupeKey (senderRuntimeId operationId : JsString) : JsString :=
  senderRuntimeId ++ ⟨[0]⟩ ++ operationId

private theorem split_at_nul : ∀ {a b x y : List UInt16}, 0 ∉ a → 0 ∉ b → a ++ 0 :: x = b ++ 0 :: y →
    a = b ∧ x = y
  | [], [], _, _, _, _, same => ⟨rfl, (List.cons.inj same).2⟩
  | [], _ :: _, _, _, _, clean, same => absurd ((List.cons.inj same).1 ▸ List.mem_cons_self) clean
  | _ :: _, [], _, _, clean, _, same => absurd ((List.cons.inj same).1 ▸ List.mem_cons_self) clean
  | u :: a, v :: b, x, y, clean, clean', same => by
    obtain ⟨rfl, rest⟩ := List.cons.inj same
    obtain ⟨rfl, rfl⟩ := split_at_nul (fun member => clean (List.mem_cons_of_mem u member))
      (fun member => clean' (List.mem_cons_of_mem u member)) rest
    exact ⟨rfl, rfl⟩

/-- Without a NUL in them the parts can be read back from the key. -/
theorem makeDedupeKey_inj {sender sender' operationId operationId' : JsString}
    (clean : 0 ∉ sender.units) (clean' : 0 ∉ sender'.units)
    (same : makeDedupeKey sender operationId = makeDedupeKey sender' operationId') :
    sender = sender' ∧ operationId = operationId' := by
  have units : sender.units ++ 0 :: operationId.units = sender'.units ++ 0 :: operationId'.units := by
    have parts := congrArg JsString.units same
    change (sender.units ++ [0]) ++ operationId.units =
      (sender'.units ++ [0]) ++ operationId'.units at parts
    rwa [List.append_assoc, List.append_assoc] at parts
  obtain ⟨first, second⟩ := split_at_nul clean clean' units
  cases sender
  cases sender'
  cases operationId
  cases operationId'
  subst first second
  exact ⟨rfl, rfl⟩

/-- How values are held: what `structuredClone` does to one, and whether it is a
busy outcome (`isBusyResult`). -/
structure Values (ν μ : Type) where
  clone : μ → ν → ν × μ
  isBusyResult : μ → ν → Bool

/-- What the store reads of a validated request. -/
structure RequestProjection where
  operationId : JsString
  senderRuntimeId : JsString
  expiresAt : JsString
  /-- `parseRfc3339Utc(envelope.expiresAt)`. -/
  expiresAtMs : Option Int
  fingerprint : JsString

/-- An operation as the store sees it before validation. -/
structure Requests (ω : Type) where
  /-- The `operation` member, when it is a string. -/
  operationName : ω → Option JsString
  senderRuntimeId : ω → Option JsString
  /-- `parseRfc3339Utc(object.expiresAt)`. -/
  rawExpiresAtMs : ω → Option Int
  /-- `validatedRequestProjection(operation, { now })`. -/
  projection : ω → ℚ → Except ProtocolError RequestProjection

inductive DedupeError where
  | closed
  | typeError (message : JsString)
  | validation (error : ProtocolError)

structure NormalizedOperation where
  operation : JsString
  operationId : JsString
  senderRuntimeId : JsString
  expiresAt : JsString
  expiresAtMs : Int
  retainedUntil : ℚ
  key : JsString
  fingerprint : JsString
  deriving DecidableEq

structure DedupeReservation where
  key : JsString
  senderRuntimeId : JsString
  operationId : JsString
  operation : JsString
  fingerprint : JsString
  retainedUntil : ℚ
  deriving DecidableEq

inductive DedupeDecisionKind where
  | new | replay | duplicate | pending | ignored | busy | stored | expired
  deriving DecidableEq, Repr

/-- A record as callers see it. `result` is there once there is one, and may then
be `undefined`. -/
structure DedupeRecord (ν : Type) where
  normalized : NormalizedOperation
  pending : Bool
  result : Option (Option ν)
  taskReference : Option ν

structure DedupeDecision (ν : Type) where
  kind : DedupeDecisionKind
  key : Option JsString
  senderRuntimeId : Option JsString
  operationId : Option JsString
  operation : Option JsString
  fingerprint : Option JsString
  result : Option (Option ν)
  taskReference : Option ν
  record : Option (DedupeRecord ν)
  reservation : Option DedupeReservation
  error : Option ProtocolError
  retryable : Option Bool

/-- A stored record; the timer handle is the delay it was armed with. -/
structure StoredRecord (ν : Type) where
  normalized : NormalizedOperation
  pending : Bool
  result : Option (Option ν)
  taskReference : Option ν
  timer : Option ℚ

namespace StoredRecord

variable {ν : Type}

def key (record : StoredRecord ν) : JsString := record.normalized.key
def fingerprint (record : StoredRecord ν) : JsString := record.normalized.fingerprint
def retainedUntil (record : StoredRecord ν) : ℚ := record.normalized.retainedUntil

end StoredRecord

structure DedupeStore (ν μ : Type) where
  heap : Nat → StoredRecord ν
  nextRecord : Nat
  records : JsMap JsString Nat
  closed : Bool
  /-- The readings of the clock, and how many have been made. -/
  now : Nat → ℚ
  reading : Nat
  memory : μ

def maxTimerDelayMs : ℚ := 2147483647

def duplicateError (senderRuntimeId operationId : JsString) : ProtocolError :=
  createDetailedError .duplicate "operationId was reused with different content"
    (.record [("senderRuntimeId", .string senderRuntimeId), ("operationId", .string operationId)])

def busyError : ProtocolError :=
  createProtocolError .busy "deduplication admission is temporarily busy"

def expiredError : ProtocolError :=
  createProtocolError .expired "deduplication reservation has expired"

/-- `new`, `busy` and `expired` decisions name the operation and nothing else. -/
def namedDecision (kind : DedupeDecisionKind) (reservation : DedupeReservation)
    (error : Option ProtocolError) (retryable : Bool) : DedupeDecision ν where
  kind
  key := some reservation.key
  senderRuntimeId := some reservation.senderRuntimeId
  operationId := some reservation.operationId
  operation := some reservation.operation
  fingerprint := some reservation.fingerprint
  result := none
  taskReference := none
  record := none
  reservation := none
  error
  retryable := some retryable

def ignoredDecision (operation : Option JsString) : DedupeDecision ν where
  kind := .ignored
  key := none
  senderRuntimeId := none
  operationId := none
  operation
  fingerprint := none
  result := none
  taskReference := none
  record := none
  reservation := none
  error := none
  retryable := none

def NormalizedOperation.reservation (n : NormalizedOperation) : DedupeReservation where
  key := n.key
  senderRuntimeId := n.senderRuntimeId
  operationId := n.operationId
  operation := n.operation
  fingerprint := n.fingerprint
  retainedUntil := n.retainedUntil

section Operations

variable {ω ν μ : Type} (R : Requests ω) (V : Values ν μ) (retentionGraceMs : ℚ)

/-- `normalizedOperation`. An operation past its deadline is read as of just
before it, so that a late retry is still recognised. -/
def normalizedOperation (operation : ω) (nowMs : ℚ) : Except DedupeError NormalizedOperation :=
  match R.operationName operation with
  | none => .error (.typeError "operation undefined is not deduplicated")
  | some name =>
    if !isDedupeOperation name then
      .error (.typeError ("operation " ++ name ++ " is not deduplicated"))
    else
      let projection := match R.projection operation nowMs, R.rawExpiresAtMs operation with
        | .error error, some expiresAtMs =>
          if error.code = ErrorCode.expired then R.projection operation (expiresAtMs - 1) else .error error
        | projection, _ => projection
      match projection with
      | .error error => .error (.validation error)
      | .ok envelope =>
        if (R.senderRuntimeId operation).any (· ≠ envelope.senderRuntimeId) then
          .error (.typeError "senderRuntimeId does not match sender.runtimeId")
        else match envelope.expiresAtMs with
          | none => .error (.typeError "validated expiresAt must be an RFC 3339 timestamp")
          | some expiresAtMs => .ok
            { operation := name
              operationId := envelope.operationId
              senderRuntimeId := envelope.senderRuntimeId
              expiresAt := envelope.expiresAt
              expiresAtMs
              retainedUntil := expiresAtMs + retentionGraceMs
              key := makeDedupeKey envelope.senderRuntimeId envelope.operationId
              fingerprint := envelope.fingerprint }

/-- `cloneValue` of a value or `undefined`. -/
def cloneValue (memory : μ) : Option ν → Option ν × μ
  | none => (none, memory)
  | some value =>
    let (copy, memory) := V.clone memory value
    (some copy, memory)

/-- `cloneValue` of a member that may be missing. -/
def cloneMember (memory : μ) : Option (Option ν) → Option (Option ν) × μ
  | none => (none, memory)
  | some value =>
    let (copy, memory) := cloneValue V memory value
    (some copy, memory)

/-- `isBusyResult` of a value or `undefined`. -/
def isBusyResult (memory : μ) (value : Option ν) : Bool := value.any (V.isBusyResult memory)

/-- `snapshot(record)`. -/
def snapshotRecord (memory : μ) (record : StoredRecord ν) : DedupeRecord ν × μ :=
  let (result, memory) := cloneMember V memory record.result
  let (taskReference, memory) := cloneValue V memory record.taskReference
  ({ normalized := record.normalized, pending := record.pending, result, taskReference }, memory)

/-- `existingDecision(record, fingerprint)`. -/
def existingDecision (memory : μ) (record : StoredRecord ν) (fingerprint : JsString) :
    DedupeDecision ν × μ :=
  let (snapshot, memory) := snapshotRecord V memory record
  let decision (kind : DedupeDecisionKind) (error : Option ProtocolError) (retryable : Bool) :
      DedupeDecision ν :=
    { namedDecision kind { record.normalized.reservation with fingerprint } error retryable with
      record := some snapshot }
  if record.fingerprint ≠ fingerprint then
    let error := duplicateError record.normalized.senderRuntimeId record.normalized.operationId
    (decision .duplicate (some error) false, memory)
  else if record.pending then (decision .pending none true, memory)
  else
    let (result, memory) := cloneMember V memory record.result
    let (taskReference, memory) := cloneValue V memory record.taskReference
    ({ decision .replay none false with result, taskReference }, memory)

/-- `commitRecord`: the record with the outcome, and the decision about it. -/
def commitRecord (memory : μ) (record : StoredRecord ν) (result taskReference : Option ν) :
    DedupeDecision ν × StoredRecord ν × μ :=
  let (result, memory) := cloneValue V memory result
  let (taskReference, memory) := cloneValue V memory taskReference
  let record := { record with pending := false, result := some result, taskReference }
  let (cachedResult, memory) := cloneMember V memory record.result
  let (cachedTaskReference, memory) := cloneValue V memory record.taskReference
  let (snapshot, memory) := snapshotRecord V memory record
  let stored : DedupeDecision ν := namedDecision .stored record.normalized.reservation none false
  ({ stored with
      result := cachedResult
      taskReference := cachedTaskReference
      record := some snapshot }, record, memory)

namespace DedupeStore

variable (s : DedupeStore ν μ)

/-- A reading of the clock. -/
def readNow : ℚ × DedupeStore ν μ := (s.now s.reading, { s with reading := s.reading + 1 })

/-- Assign fields of a record. -/
def update (record : Nat) (change : StoredRecord ν → StoredRecord ν) : DedupeStore ν μ :=
  { s with heap := Function.update s.heap record (change (s.heap record)) }

/-- `removeRecord(record)`: only if it is the one stored. -/
def removeRecord (record : Nat) : DedupeStore ν μ :=
  let key := (s.heap record).key
  if s.records.get? key ≠ some record then s
  else { s.update record fun r => { r with timer := none } with records := s.records.delete key }

/-- `prune(nowMs)`. -/
def pruneAt (nowMs : ℚ) : DedupeStore ν μ :=
  s.records.values.foldl (fun s record =>
    if (s.heap record).retainedUntil ≤ nowMs then s.removeRecord record else s) s

/-- `prune()`, at the store's own clock. -/
def prune : DedupeStore ν μ :=
  let (now, s) := s.readNow
  s.pruneAt now

/-- `normalize(operation)`. -/
def normalize (operation : ω) : Except DedupeError NormalizedOperation × DedupeStore ν μ :=
  let (now, s) := s.readNow
  (normalizedOperation R retentionGraceMs operation now, s)

/-- `schedule(record)`: a record past its retention is not kept at all. -/
def schedule (record : Nat) : DedupeStore ν μ :=
  let (now, s) := s.readNow
  let delay := (s.heap record).retainedUntil - now
  if delay ≤ 0 then s.removeRecord record
  else s.update record fun r => { r with timer := some (min delay maxTimerDelayMs) }

/-- The callback `schedule` arms. -/
def timer (record : Nat) : DedupeStore ν μ :=
  if (s.heap record).timer.isNone then s
  else
    let s := s.update record fun r => { r with timer := none }
    if s.closed || s.records.get? (s.heap record).key ≠ some record then s
    else
      let (now, s) := s.readNow
      if (s.heap record).retainedUntil ≤ now then s.removeRecord record
      else s.schedule record

/-- The decision about a stored record; its clones are made in the memory. -/
def decideExisting (record : Nat) (fingerprint : JsString) :
    DedupeDecision ν × DedupeStore ν μ :=
  let (decision, memory) := existingDecision V s.memory (s.heap record) fingerprint
  (decision, { s with memory })

/-- How operations look an operation up, after `ensureOpen`, `prune` and the
test of its name: `none` when it is not deduplicated, else its normal form and
the record stored under its key. -/
def lookup (operation : ω) :
    Except DedupeError (Option (NormalizedOperation × Option Nat)) × DedupeStore ν μ :=
  if s.closed then (.error .closed, s)
  else
    let s := s.prune
    if !(R.operationName operation).any isDedupeOperation then (.ok none, s)
    else match s.normalize R retentionGraceMs operation with
      | (.error error, s) => (.error error, s)
      | (.ok normalized, s) => (.ok (some (normalized, s.records.get? normalized.key)), s)

/-- `inspect(operation)`. -/
def inspect (operation : ω) : Except DedupeError (DedupeDecision ν) × DedupeStore ν μ :=
  match s.lookup R retentionGraceMs operation with
  | (.error error, s) => (.error error, s)
  | (.ok none, s) => (.ok (ignoredDecision (R.operationName operation)), s)
  | (.ok (some (normalized, none)), s) =>
    (.ok (namedDecision .new normalized.reservation none false), s)
  | (.ok (some (normalized, some record)), s) =>
    let (decision, s) := s.decideExisting V record normalized.fingerprint
    (.ok decision, s)

/-- `getRecord(operation)`, and `get` and `find`. -/
def getRecord (operation : ω) : Except DedupeError (Option (DedupeRecord ν)) × DedupeStore ν μ :=
  match s.lookup R retentionGraceMs operation with
  | (.error error, s) => (.error error, s)
  | (.ok (some (_, some record)), s) =>
    let (snapshot, memory) := snapshotRecord V s.memory (s.heap record)
    (.ok (some snapshot), { s with memory })
  | (.ok _, s) => (.ok none, s)

/-- The record of a reservation, stored and scheduled. -/
def insert (normalized : NormalizedOperation) : DedupeStore ν μ :=
  let record := s.nextRecord
  let s := { s with
    heap := Function.update s.heap record
      { normalized, pending := true, result := none, taskReference := none, timer := none }
    nextRecord := record + 1
    records := s.records.set normalized.key record }
  s.schedule record

/-- `reserve(operation)`. -/
def reserve (operation : ω) : Except DedupeError (DedupeDecision ν) × DedupeStore ν μ :=
  match s.lookup R retentionGraceMs operation with
  | (.error error, s) => (.error error, s)
  | (.ok none, s) => (.ok (ignoredDecision (R.operationName operation)), s)
  | (.ok (some (normalized, some record)), s) =>
    let (decision, s) := s.decideExisting V record normalized.fingerprint
    (.ok decision, s)
  | (.ok (some (normalized, none)), s) =>
    (.ok { namedDecision .new normalized.reservation none false with
      reservation := some normalized.reservation }, s.insert normalized)

/-- The end of `release`: only a pending record with the fingerprint is removed. -/
def releaseKey (key fingerprint : JsString) : Bool × DedupeStore ν μ :=
  match s.records.get? key with
  | none => (false, s)
  | some record =>
    if !(s.heap record).pending || (s.heap record).fingerprint ≠ fingerprint then (false, s)
    else (true, s.removeRecord record)

/-- `release(reservation)`. -/
def releaseReservation (reservation : DedupeReservation) :
    Except DedupeError Bool × DedupeStore ν μ :=
  if s.closed then (.error .closed, s)
  else
    let (released, s) := s.prune.releaseKey reservation.key reservation.fingerprint
    (.ok released, s)

/-- `release(operation)`. -/
def releaseOperation (operation : ω) : Except DedupeError Bool × DedupeStore ν μ :=
  match s.lookup R retentionGraceMs operation with
  | (.error error, s) => (.error error, s)
  | (.ok none, s) => (.ok false, s)
  | (.ok (some (normalized, _)), s) =>
    let (released, s) := s.releaseKey normalized.key normalized.fingerprint
    (.ok released, s)

/-- `busy(operation)`, which touches no record. -/
def busy (operation : ω) : Except DedupeError (DedupeDecision ν) × DedupeStore ν μ :=
  if s.closed then (.error .closed, s)
  else if !(R.operationName operation).any isDedupeOperation then
    (.ok (ignoredDecision (R.operationName operation)), s)
  else match s.normalize R retentionGraceMs operation with
    | (.error error, s) => (.error error, s)
    | (.ok normalized, s) =>
      (.ok (namedDecision .busy normalized.reservation (some busyError) true), s)

/-- `commit(reservation, result, taskReference)`. -/
def commitReservation (reservation : DedupeReservation) (result taskReference : Option ν) :
    Except DedupeError (DedupeDecision ν) × DedupeStore ν μ :=
  if s.closed then (.error .closed, s)
  else
    let s := s.prune
    if isBusyResult V s.memory result then
      match s.releaseReservation reservation with
      | (.error error, s) => (.error error, s)
      | (.ok _, s) => (.ok (namedDecision .busy reservation (some busyError) true), s)
    else match s.records.get? reservation.key with
      | none => (.ok (namedDecision .expired reservation (some expiredError) false), s)
      | some record =>
        if (s.heap record).fingerprint ≠ reservation.fingerprint then
          let (snapshot, memory) := snapshotRecord V s.memory (s.heap record)
          let error := duplicateError reservation.senderRuntimeId reservation.operationId
          (.ok { namedDecision .duplicate reservation (some error) false with
            record := some snapshot }, { s with memory })
        else if !(s.heap record).pending then
          let (decision, s) := s.decideExisting V record reservation.fingerprint
          (.ok decision, s)
        else
          let (decision, committed, memory) :=
            commitRecord V s.memory (s.heap record) result taskReference
          (.ok decision, { s.update record fun _ => committed with memory })

/-- `commit(operation, result, taskReference)`, with its many aliases. -/
def commitOperation (operation : ω) (result taskReference : Option ν) :
    Except DedupeError (DedupeDecision ν) × DedupeStore ν μ :=
  if s.closed then (.error .closed, s)
  else
    let s := s.prune
    let ignored := !(R.operationName operation).any isDedupeOperation
    if ignored then (.ok (ignoredDecision (R.operationName operation)), s)
    else if isBusyResult V s.memory result then
      match s.releaseOperation R retentionGraceMs operation with
      | (.error error, s) => (.error error, s)
      | (.ok _, s) => s.busy R retentionGraceMs operation
    else match s.reserve R V retentionGraceMs operation with
      | (.error error, s) => (.error error, s)
      | (.ok decision, s) => match decision.kind, decision.reservation with
        | .new, some reservation => s.commitReservation V reservation result taskReference
        | _, _ => (.ok decision, s)

/-- The two forms of the call that reserves or caches an outcome. -/
def admitOperation (operation : ω) (outcome : Option (Option ν × Option ν)) :
    Except DedupeError (DedupeDecision ν) × DedupeStore ν μ :=
  match outcome with
  | none => s.reserve R V retentionGraceMs operation
  | some (result, taskReference) =>
    if isBusyResult V s.memory result then s.busy R retentionGraceMs operation
    else s.commitOperation R V retentionGraceMs operation result taskReference

/-- `execute` up to the call of the producer, which a reservation stands for. -/
def execute (operation : ω) :
    Except DedupeError (DedupeDecision ν ⊕ DedupeReservation) × DedupeStore ν μ :=
  match s.reserve R V retentionGraceMs operation with
  | (.error error, s) => (.error error, s)
  | (.ok decision, s) => match decision.kind, decision.reservation with
    | .new, some reservation => (.ok (.inr reservation), s)
    | _, _ => (.ok (.inl decision), s)

/-- The `catch` of `execute`: the reservation is given up. -/
def producerThrew (reservation : DedupeReservation) (error : DedupeError) :
    Except DedupeError (DedupeDecision ν) × DedupeStore ν μ :=
  match s.releaseReservation reservation with
  | (.error error, s) => (.error error, s)
  | (.ok _, s) => (.error error, s)

/-- `execute` after its producer has returned. -/
def produced (operation : ω) (reservation : DedupeReservation) (result taskReference : Option ν) :
    Except DedupeError (DedupeDecision ν) × DedupeStore ν μ :=
  if isBusyResult V s.memory result then
    match s.releaseReservation reservation with
    | (.error error, s) => s.producerThrew reservation error
    | (.ok _, s) => match s.busy R retentionGraceMs operation with
      | (.error error, s) => s.producerThrew reservation error
      | (.ok decision, s) => (.ok decision, s)
  else match s.commitReservation V reservation result taskReference with
    | (.error error, s) => s.producerThrew reservation error
    | (.ok decision, s) => (.ok decision, s)

end DedupeStore
end Operations
end PiToPi
