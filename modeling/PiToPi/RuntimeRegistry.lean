import PiToPi.JsonValue
import PiToPi.Naming
import PiToPi.Transition

/-!
`RuntimeRegistry` (`discovery/registry.ts`): the record at a runtime's key, published and renamed
through one queue and removed by `shutdown`.

Nobody else writes at the key. A publication replaces the file at one moment, and may fail before
or after it. A removal looks at the file, and then, under the lock of the record, looks again and
unlinks it at one moment; an error of a look counts as an absent file. Between these moments, and
before the continuation of each of them, anything may be called.
-/
namespace PiToPi.RuntimeRegistry
open Naming

structure RuntimeRecord where
  runtimeId : RuntimeId
  sessionId : JsString
  roomId : RoomId
  networkName : JsString
  endpoint : JsString
  leaseExpiresAt : Nat
  deriving DecidableEq

/-- The file at the key: the record that is read from it, and `snapshotStat(stats)`. The file that
was there before the registry has the number 0. -/
structure RecordFile where
  record : RuntimeRecord
  stat : Nat
  deriving DecidableEq

structure RuntimeRecordCleanupOptions where
  expectedSessionId : JsString
  expectedEndpoint : JsString
  expectedNetworkName : JsString
  deriving DecidableEq

section Records

variable (H : NameHost)

/-- `canonicalNetworkName(value, runtimeId)`, of a text. -/
def canonicalNetworkName (value : JsString) (runtimeId : RuntimeId) : Except NameError JsString :=
  if isPublishedNetworkName H value then
    if (nameParts value).2 = H.runtimeNameSuffix runtimeId.val then .ok value
    else .error (.typeError "network name suffix must match runtime ID")
  else
    match normalizedName H value with
    | .error error => .error error
    | .ok normalized =>
      if normalized = value then buildNetworkName H normalized runtimeId
      else .error (.typeError "network name must already be normalized")

/-- What the constructor has made of its options. -/
structure Owner where
  runtimeId : RuntimeId
  sessionId : JsString
  roomId : RoomId
  endpoint : JsString
  ttlMs : Nat
  networkName : JsString
  canonical : canonicalNetworkName H networkName runtimeId = .ok networkName

variable {H}

def Owner.cleanupOptions (owner : Owner H) : RuntimeRecordCleanupOptions where
  expectedSessionId := owner.sessionId
  expectedEndpoint := owner.endpoint
  expectedNetworkName := owner.networkName

def cleanupOptionsForRecord (record : RuntimeRecord) : RuntimeRecordCleanupOptions where
  expectedSessionId := record.sessionId
  expectedEndpoint := record.endpoint
  expectedNetworkName := record.networkName

/-- `createRuntimeRecord(..)` of the registry's own fields. -/
def createRuntimeRecord (owner : Owner H) (networkName : JsString) (now : Nat) :
    Option RuntimeRecord :=
  if JsNumber.maxSafeInteger < now + owner.ttlMs then none
  else
    match canonicalNetworkName H networkName owner.runtimeId with
    | .error _ => none
    | .ok persistedName => some {
      runtimeId := owner.runtimeId
      sessionId := owner.sessionId
      roomId := owner.roomId
      networkName := persistedName
      endpoint := owner.endpoint
      leaseExpiresAt := now + owner.ttlMs }

variable (H) in
def matchesCleanupExpectation (record : RuntimeRecord) (options : RuntimeRecordCleanupOptions) :
    Bool :=
  record.sessionId == options.expectedSessionId && record.endpoint == options.expectedEndpoint &&
    match canonicalNetworkName H options.expectedNetworkName record.runtimeId with
    | .ok name => record.networkName == name
    | .error _ => false

/-- A file that `removeRuntimeRecord(roomId, runtimeId, options)` takes for the one to remove. -/
def Owner.removable (owner : Owner H) (options : RuntimeRecordCleanupOptions) (file : RecordFile) :
    Bool :=
  file.record.runtimeId == owner.runtimeId && file.record.roomId == owner.roomId &&
    matchesCleanupExpectation H file.record options

end Records

/-- A call in the queue. -/
inductive Publication where
  | renew
  | updateNetworkName (canonical : JsString)
  deriving DecidableEq

/-- A queued call that runs. -/
structure Attempt where
  publication : Publication
  previousNetworkName : JsString
  previousRecord : Option RuntimeRecord
  /-- The record on disk at its start. -/
  before : Option RuntimeRecord
  deriving DecidableEq

/-- How an operation on the file ends. -/
inductive FileOutcome where
  | completed
  /-- A removal that takes an error of a look at the file for its absence. -/
  | overlooked
  | failedBefore
  | failedAfter
  deriving DecidableEq

inductive PublishOutcome where
  | committed
  | failedBefore
  | failedAfter
  /-- A subclass fails once the record has been committed. -/
  | failedCommitted
  deriving DecidableEq

/-- What `restoreCommittedRecord` waits for comes back. -/
inductive Restoration where
  | completed | overlooked | thrown
  deriving DecidableEq

/-- Where the queued call that runs is. -/
inductive Work where
  | idle
  | publishing (attempt : Attempt) (attemptedRecord : RuntimeRecord)
  | restoring (attempt : Attempt) (failedRecord : Option RuntimeRecord)
  | restored (attempt : Attempt) (failedRecord : Option RuntimeRecord) (restoration : Restoration)
  deriving DecidableEq

/-- Where `shutdown` is. -/
inductive Shutdown where
  | unrequested
  | stoppingLease
  /-- It awaits `pendingPublication`, with the queued calls that are before it. -/
  | awaitingPublication (before : Nat)
  /-- Before the removal for the first of the records that are left. -/
  | removing (expected : List RuntimeRecordCleanupOptions) (removed : Bool)
  /-- A removal has looked, and found a file. -/
  | locking (stat : Nat) (options : RuntimeRecordCleanupOptions)
    (expected : List RuntimeRecordCleanupOptions) (removed : Bool)
  | resolved (removed : Bool)
  | rejected
  deriving DecidableEq

/-- A queued call awaited before the removal has ended. -/
def Shutdown.publicationEnded : Shutdown → Shutdown
  | .awaitingPublication before => .awaitingPublication (before - 1)
  | shutdown => shutdown

/-- The removal has begun. -/
def Shutdown.begun : Shutdown → Bool
  | .unrequested | .stoppingLease | .awaitingPublication _ => false
  | .removing .. | .locking .. | .resolved _ | .rejected => true

/-- How a queued call has settled, and what it has left. -/
structure Settlement where
  attempt : Attempt
  fulfilled : Bool
  restoreFailed : Bool
  networkName : JsString
  current : Option RuntimeRecord
  disk : Option RuntimeRecord
  deriving DecidableEq

structure World where
  currentNetworkName : JsString
  currentRecord : Option RuntimeRecord
  shutdownCleanupRecords : List RuntimeRecord
  queue : List Publication
  work : Work
  shutdown : Shutdown
  /-- `this.lease.stopped`. -/
  leaseStopped : Bool
  disk : Option RecordFile
  /-- How many files the registry has written. -/
  writes : Nat
  /-- A removal of `shutdown` has left a file that it had to remove. -/
  overlooked : Bool
  settled : List Settlement
  deriving DecidableEq

namespace World

def shutdownRequested (w : World) : Bool := w.shutdown != .unrequested

/-- The record on disk. -/
def onDisk (w : World) : Option RuntimeRecord := w.disk.map RecordFile.record

/-- The file is replaced. -/
def replace (w : World) (record : RuntimeRecord) : World :=
  { w with disk := some ⟨record, w.writes + 1⟩, writes := w.writes + 1 }

def unlink (w : World) : World := { w with disk := none }

/-- `this.currentRecord = record; this.shutdownCleanupRecords = []`. -/
def commit (w : World) (record : Option RuntimeRecord) : World :=
  { w with currentRecord := record, shutdownCleanupRecords := [] }

/-- The queued call settles. -/
def settle (w : World) (attempt : Attempt) (fulfilled restoreFailed : Bool) : World :=
  { w with
    work := .idle
    shutdown := w.shutdown.publicationEnded
    settled := w.settled ++ [{
      attempt, fulfilled, restoreFailed
      networkName := w.currentNetworkName
      current := w.currentRecord
      disk := w.onDisk }] }

/-- `publishCurrentName` throws. -/
def fail (w : World) (attempt : Attempt) (attemptedRecord : Option RuntimeRecord) : World :=
  match attempt.publication with
  | .renew => w.settle attempt false false
  | .updateNetworkName _ =>
    { w with
      currentNetworkName := attempt.previousNetworkName
      work := .restoring attempt attemptedRecord }

section Owner

variable {H : NameHost} (owner : Owner H)

/-- `publishCurrentName()` up to the publication. Without a time the clock, a check of the record
or a subclass throws. -/
def publishCurrentName (w : World) (attempt : Attempt) (now : Option Nat) : World :=
  if w.shutdownRequested || w.leaseStopped then w.fail attempt none
  else
    match now.bind (createRuntimeRecord owner w.currentNetworkName) with
    | none => w.fail attempt none
    | some record => { w with work := .publishing attempt record }

/-- A queued call begins. -/
def start (w : World) (publication : Publication) (now : Option Nat) : World :=
  let attempt : Attempt := {
    publication
    previousNetworkName := w.currentNetworkName
    previousRecord := w.currentRecord
    before := w.onDisk }
  match publication with
  | .renew => w.publishCurrentName owner attempt now
  | .updateNetworkName canonical =>
    { w with currentNetworkName := canonical }.publishCurrentName owner attempt now

/-- `publishRuntimeRecordAtomically` ends. -/
def published (w : World) (attempt : Attempt) (record : RuntimeRecord) : PublishOutcome → World
  | .committed => ((w.replace record).commit (some record)).settle attempt true false
  | .failedBefore => w.fail attempt (some record)
  | .failedAfter => (w.replace record).fail attempt (some record)
  | .failedCommitted => ((w.replace record).commit (some record)).fail attempt (some record)

/-- The removal of a failed record that is there, or not. -/
def removeFailed (w : World) (found : Bool) : FileOutcome → Option (World × Restoration)
  | .completed => some (if found then w.unlink else w, .completed)
  | .overlooked => if found then some (w, .overlooked) else none
  | .failedBefore => if found then some (w, .thrown) else none
  | .failedAfter => if found then some (w.unlink, .thrown) else none

/-- What `restoreCommittedRecord` does to the file. -/
def restore (w : World) (previousRecord failedRecord : Option RuntimeRecord)
    (outcome : FileOutcome) : Option (World × Restoration) :=
  match previousRecord, failedRecord with
  | some previous, _ =>
    match outcome with
    | .completed => some (w.replace previous, .completed)
    | .overlooked => none
    | .failedBefore => some (w, .thrown)
    | .failedAfter => some (w.replace previous, .thrown)
  | none, some failed =>
    w.removeFailed (w.disk.any (owner.removable (cleanupOptionsForRecord failed))) outcome
  | none, none => if outcome = .completed then some (w, .completed) else none

/-- The rest of `restoreCommittedRecord`. -/
def endRestore (w : World) (attempt : Attempt) (failedRecord : Option RuntimeRecord) :
    Restoration → World
  | .completed => (w.commit attempt.previousRecord).settle attempt false false
  | .overlooked => (w.commit attempt.previousRecord).settle attempt false true
  | .thrown =>
    { w with
      currentRecord := none
      shutdownCleanupRecords :=
        failedRecord.toList ++ attempt.previousRecord.toList }.settle attempt false true

/-- The records `shutdown` removes. -/
def cleanupExpectations (w : World) : List RuntimeRecordCleanupOptions :=
  match w.currentRecord with
  | some record => [cleanupOptionsForRecord record]
  | none =>
    if w.shutdownCleanupRecords = [] then [owner.cleanupOptions]
    else w.shutdownCleanupRecords.map cleanupOptionsForRecord

/-- The first look of `removeRuntimeRecord`, which an error may spoil. -/
def look (w : World) (options : RuntimeRecordCleanupOptions)
    (expected : List RuntimeRecordCleanupOptions) (removed spoiled : Bool) : World :=
  match w.disk.filter (owner.removable options) with
  | none => { w with shutdown := .removing expected removed }
  | some file =>
    if spoiled then { w with shutdown := .removing expected removed, overlooked := true }
    else { w with shutdown := .locking file.stat options expected removed }

/-- `removeRuntimeRecord` under the lock of the record. -/
def removeLocked (w : World) (stat : Nat) (options : RuntimeRecordCleanupOptions)
    (expected : List RuntimeRecordCleanupOptions) (removed : Bool) (outcome : FileOutcome) : World :=
  match w.disk.filter fun file => file.stat == stat && owner.removable options file with
  | none =>
    match outcome with
    | .completed | .overlooked => { w with shutdown := .removing expected removed }
    | .failedBefore | .failedAfter => { w with shutdown := .rejected }
  | some _ =>
    match outcome with
    | .completed => { w.unlink with shutdown := .removing expected true }
    | .overlooked => { w with shutdown := .removing expected removed, overlooked := true }
    | .failedBefore => { w with shutdown := .rejected }
    | .failedAfter => { w.unlink with shutdown := .rejected }

end Owner

end World

/-- What may happen next. -/
inductive Event where
  | renew
  | updateNetworkName (networkName : JsString)
  | stopLease
  | shutdown
  /-- The next queued call begins, at a time of the clock. -/
  | start (now : Option Nat)
  | published (outcome : PublishOutcome)
  | restore (outcome : FileOutcome)
  | restored
  /-- `this.lease.stop()` has resolved. -/
  | leaseStops
  /-- The publications that `shutdown` awaits have ended. -/
  | beginRemoval
  | look (spoiled : Bool)
  | removeLocked (outcome : FileOutcome)
  /-- `shutdown` resolves. -/
  | resolve
  deriving DecidableEq

section System

variable {H : NameHost} (owner : Owner H)

/-- The effect of an event, where it can happen. -/
def step (w : World) : Event → Option World
  | .renew =>
    some (if w.shutdownRequested || w.leaseStopped then w
      else { w with queue := w.queue ++ [.renew] })
  | .updateNetworkName networkName =>
    match canonicalNetworkName H networkName owner.runtimeId with
    | .error _ => some w
    | .ok canonical => some { w with queue := w.queue ++ [.updateNetworkName canonical] }
  | .stopLease => some { w with leaseStopped := true }
  | .shutdown =>
    some (if w.shutdownRequested then w
      else { w with shutdown := .stoppingLease, leaseStopped := true })
  | .start now =>
    match w.work, w.queue with
    | .idle, publication :: queue =>
      -- The continuation of `shutdown` has been registered before the next call of the queue.
      if w.shutdown = .awaitingPublication 0 then none
      else some ({ w with queue }.start owner publication now)
    | _, _ => none
  | .published outcome =>
    match w.work with
    | .publishing attempt record => some (w.published attempt record outcome)
    | _ => none
  | .restore outcome =>
    match w.work with
    | .restoring attempt failedRecord =>
      (w.restore owner attempt.previousRecord failedRecord outcome).map fun (next, restoration) =>
        { next with work := .restored attempt failedRecord restoration }
    | _ => none
  | .restored =>
    match w.work with
    | .restored attempt failedRecord restoration =>
      some (w.endRestore attempt failedRecord restoration)
    | _ => none
  | .leaseStops =>
    if w.shutdown = .stoppingLease then
      some { w with
        shutdown := .awaitingPublication (w.queue.length + if w.work = .idle then 0 else 1) }
    else none
  | .beginRemoval =>
    if w.shutdown = .awaitingPublication 0 then
      some { w with shutdown := .removing (w.cleanupExpectations owner) false }
    else none
  | .look spoiled =>
    match w.shutdown with
    | .removing (options :: expected) removed =>
      some (w.look owner options expected removed spoiled)
    | _ => none
  | .removeLocked outcome =>
    match w.shutdown with
    | .locking stat options expected removed =>
      some (w.removeLocked owner stat options expected removed outcome)
    | _ => none
  | .resolve =>
    match w.shutdown with
    | .removing [] removed => some { w.commit none with shutdown := .resolved removed }
    | _ => none

/-- A new registry, on a key that may hold a file. -/
def initial (found : Option RuntimeRecord) : World where
  currentNetworkName := owner.networkName
  currentRecord := none
  shutdownCleanupRecords := []
  queue := []
  work := .idle
  shutdown := .unrequested
  leaseStopped := false
  disk := found.map (⟨·, 0⟩)
  writes := 0
  overlooked := false
  settled := []

/-- The runs of a registry. -/
def registrySystem : Transition.System World Event where
  init w := ∃ found, w = initial owner found
  step w event w' := step owner w event = some w'

end System

end PiToPi.RuntimeRegistry
