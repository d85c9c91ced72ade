import PiToPi.AgentCardRegistry
import PiToPi.CardLock
import PiToPi.Transition

/-!
`cleanupAgentCardState` (`agent-card-registry.ts`) among the publications and removals of any
number of runtimes, on one directory of cards.

Every operation is between two of its calls of the file system. `act` is the effect of the next
one with the code up to the one after it. The card lock of a path is taken to exclude; a process
that ends gives back what it holds. A publication writes and renames under the lock of its
temporary file, an operation its deadline may give up: it then goes on by itself (`write`).
-/
namespace PiToPi.StaleCleanup
open CardRegistry CardValidation Naming
open CardLock (FileStatSnapshot)

/-- A file at the path of a card. -/
structure CardNode where
  /-- What a strict UTF-8 decoder makes of its bytes. -/
  text : Option JsString
  /-- `snapshot(stats)`. -/
  snapshot : FileStatSnapshot
  /-- `privateFile(stats, options)`. -/
  isPrivate : Bool
  deriving DecidableEq

structure CardCandidate where
  card : AgentCard
  snapshot : FileStatSnapshot
  /-- The file it was read from. -/
  node : CardNode
  deriving DecidableEq

/-- Where `readCandidate` is. -/
inductive Reading where
  | inspecting
  | opening (first : FileStatSnapshot)
  /-- With the file that the handle is open on. -/
  | reading (first : FileStatSnapshot) (node : CardNode)
  | inspectingAgain (first : FileStatSnapshot) (node : CardNode) (source : JsString)
  deriving DecidableEq

/-- What a call of `readCandidate` comes to. -/
inductive ReadResult where
  | goesOn (reading : Reading)
  | returns (candidate : Option CardCandidate)

section Reading

variable (host : Host) (N : NumberHost) (roomId : RoomId)

/-- `parseAgentCardJson(source, ..)`, without `requireUnexpired`, with the checks of the name. -/
def parseCard (maxCardBytes : Nat) (fileName source : JsString) : Option AgentCard := do
  let runtimeInstanceId ← runtimeOfFile fileName
  guard (isSafeRuntimeInstanceId runtimeInstanceId)
  guard (source.byteLength ≤ maxAgentCardSizeBytes)
  let decoded ← Json.parse N source
  guard (validateAgentCard host {
    requireUnexpired := none
    expectedRoomId := some roomId.val
    expectedRuntimeInstanceId := some runtimeInstanceId
    expectedRecordFileName := some fileName
    maxCardSizeBytes := some maxCardBytes } decoded = [])
  AgentCard.ofJson? decoded

/-- The next call of `readCandidate`, on a path that holds `card`. -/
def Reading.next (maxCardBytes : Nat) (fileName : JsString) (card : Option CardNode) (failed : Bool) :
    Reading → ReadResult
  | .inspecting =>
    match card with
    | none => .returns none
    | some node =>
      if failed || !node.isPrivate || maxCardBytes < node.snapshot.size then .returns none
      else .goesOn (.opening node.snapshot)
  | .opening first =>
    match card with
    | none => .returns none
    | some node => if failed then .returns none else .goesOn (.reading first node)
  | .reading first node =>
    match node.text with
    | none => .returns none
    | some source =>
      if failed || maxCardBytes < node.snapshot.size then .returns none
      else .goesOn (.inspectingAgain first node source)
  | .inspectingAgain first node source =>
    match card with
    | none => .returns none
    | some found =>
      if failed || !found.isPrivate || maxCardBytes < found.snapshot.size || first != found.snapshot
      then .returns none
      else .returns ((parseCard host N roomId maxCardBytes fileName source).map fun card =>
        { card, snapshot := found.snapshot, node })

/-- `parseLeaseTimestamp(card.leaseExpiresAt)`. -/
def leaseExpiry (card : AgentCard) : Option Nat :=
  (finiteTimestamp ((Date.parse host card.leaseExpiresAt).map fun time => (time : ℚ))
    "lease timestamp").toOption

/-- `now - ttlMs * 2`. -/
def staleBefore (now ttlMs : Nat) : Int := now - ttlMs * 2

/-- The lease has ended, and by the safety margin. -/
def isStale (now ttlMs : Nat) (card : AgentCard) : Bool :=
  (leaseExpiry host card).any fun expiry : Nat =>
    decide ((expiry : Int) ≤ staleBefore now ttlMs) && decide (expiry ≤ now)

end Reading

/-- The comparison of a card that is read again with the one that was inspected. -/
def sameCandidate (candidate expected : CardCandidate) : Bool :=
  candidate.snapshot == expected.snapshot &&
    candidate.card.sessionId == expected.card.sessionId &&
    candidate.card.endpoint.kind == expected.card.endpoint.kind &&
    candidate.card.endpoint.address == expected.card.endpoint.address &&
    candidate.card.runtimeStartedAt == expected.card.runtimeStartedAt

/-- A card under the name of its runtime. -/
def namesRuntime (fileName : JsString) (card : AgentCard) : Bool :=
  runtimeOfFile fileName == some card.runtimeInstanceId &&
    card.endpoint.runtimeInstanceId == card.runtimeInstanceId

inductive PassPhase where
  /-- Before the next name of the loop. -/
  | looping
  | inspecting (fileName : JsString) (reading : Reading)
  /-- `removeStaleCandidate`: before and after the card lock is taken. -/
  | locking (fileName : JsString) (expected : CardCandidate)
  | locked (fileName : JsString) (expected : CardCandidate)
  | confirming (fileName : JsString) (expected : CardCandidate) (reading : Reading)
  | unlinking (fileName : JsString) (expected candidate : CardCandidate)
  | releasing (fileName : JsString) (thrown : Bool)
  | ended
  deriving DecidableEq

/-- A pass of `cleanupAgentCardStateInternal`. -/
structure Pass where
  now : Nat
  ttlMs : Nat
  maxCardBytes : Nat
  runtimeInstanceId : Option JsString
  /-- The names that are left of `finalCardNames`. -/
  names : List JsString
  phase : PassPhase
  deriving DecidableEq

inductive PublicationPhase where
  | locking
  /-- The lock is held: before the temporary file has been created. -/
  | opening
  /-- It waits for the writer, at most until the deadline. -/
  | writing
  | unlinkingTemporary
  | releasing
  | ended
  deriving DecidableEq

/-- The operation under the lock of the temporary file. -/
inductive WriterPhase where
  | idle
  | writing
  | moving
  /-- The permissions of the renamed file. -/
  | protecting
  | done
  | failed
  deriving DecidableEq

/-- A call of `writeAgentCardAtomically`. -/
structure Publication where
  fileName : JsString
  node : CardNode
  phase : PublicationPhase
  writer : WriterPhase
  /-- The temporary file exists. -/
  temporary : Bool
  /-- The rename has taken effect. -/
  renamed : Bool
  deriving DecidableEq

inductive RemovalPhase where
  | locking
  | reading (reading : Reading)
  | unlinking
  | releasing
  | ended
  deriving DecidableEq

/-- A call of `removeAgentCard`. -/
structure Removal where
  fileName : JsString
  maxCardBytes : Nat
  expectedSessionId : Option JsString
  expectedKind : Option EndpointTransport
  expectedAddress : Option JsString
  phase : RemovalPhase
  deriving DecidableEq

inductive Task where
  | idle
  | pass (pass : Pass)
  | publication (publication : Publication)
  | removal (removal : Removal)
  deriving DecidableEq

/-- A card a pass has unlinked. -/
structure Unlinked where
  fileName : JsString
  /-- The file at the path at this moment. -/
  node : CardNode
  /-- The candidate that was inspected, and the one that was read again. -/
  expected : CardCandidate
  candidate : CardCandidate
  now : Nat
  ttlMs : Nat
  maxCardBytes : Nat

structure World where
  /-- The cards by their file names. -/
  cards : JsString → Option CardNode
  /-- The files that have been at each path. -/
  seen : JsString → List CardNode
  /-- The operation that holds the card lock of a path. -/
  holder : JsString → Option Nat
  tasks : Nat → Task
  unlinked : List Unlinked

/-- What a call of the file system or of the clock comes to. -/
structure Outcome where
  failed : Bool
  /-- The deadline of the operation has passed. -/
  expired : Bool
  deriving DecidableEq

inductive Event where
  | cleanup (i : Nat) (now ttlMs maxCardBytes : Nat) (runtimeInstanceId : Option JsString)
    (names : List JsString)
  | publish (i : Nat) (fileName : JsString) (node : CardNode)
  | remove (i : Nat) (fileName : JsString) (maxCardBytes : Nat) (expectedSessionId : Option JsString)
    (expectedKind : Option EndpointTransport) (expectedAddress : Option JsString)
  /-- The next call of an operation. -/
  | act (i : Nat) (outcome : Outcome)
  /-- The next call of a publication's writer. -/
  | write (i : Nat) (failed : Bool)
  /-- Another process removes a publication's temporary file for its age. -/
  | sweep (i : Nat)
  /-- The process of an operation ends. -/
  | crash (i : Nat)
  deriving DecidableEq

namespace World

variable (w : World)

def setTask (i : Nat) (task : Task) : World := { w with tasks := Function.update w.tasks i task }

/-- A new operation. -/
def begin (i : Nat) (task : Task) : Option World :=
  if w.tasks i = .idle then some (w.setTask i task) else none

/-- The card lock of a path, where nobody holds it. -/
def acquire (i : Nat) (fileName : JsString) : Option World :=
  match w.holder fileName with
  | none => some { w with holder := Function.update w.holder fileName (some i) }
  | some _ => none

def release (fileName : JsString) : World :=
  { w with holder := Function.update w.holder fileName none }

/-- `unlink(target)`. -/
def unlink (fileName : JsString) : World :=
  { w with cards := Function.update w.cards fileName none }

/-- `rename(temporary.path, target.finalPath)`. -/
def rename (fileName : JsString) (node : CardNode) : World :=
  { w with
    cards := Function.update w.cards fileName (some node)
    seen := Function.update w.seen fileName (node :: w.seen fileName) }

/-- The cleaner's `unlink(target)`. -/
def unlinkStale (pass : Pass) (fileName : JsString) (expected candidate : CardCandidate) : World :=
  match w.cards fileName with
  | none => w
  | some node =>
    { w.unlink fileName with
      unlinked := ⟨fileName, node, expected, candidate, pass.now, pass.ttlMs, pass.maxCardBytes⟩ ::
        w.unlinked }

section Act

variable (host : Host) (N : NumberHost) (roomId : RoomId)

/-- What follows the first inspection of a card. -/
def inspected (pass : Pass) (fileName : JsString) (candidate : CardCandidate) : PassPhase :=
  if isStale host pass.now pass.ttlMs candidate.card &&
    pass.runtimeInstanceId.all (· == candidate.card.runtimeInstanceId)
  then .locking fileName candidate else .looping

/-- What follows the second one, under the lock. -/
def confirmed (pass : Pass) (fileName : JsString) (expected candidate : CardCandidate) : PassPhase :=
  if sameCandidate candidate expected &&
    pass.runtimeInstanceId.all (some · == runtimeOfFile fileName) &&
    namesRuntime fileName candidate.card && isStale host pass.now pass.ttlMs candidate.card
  then .unlinking fileName expected candidate else .releasing fileName false

/-- The next call of a pass. -/
def actPass (i : Nat) (pass : Pass) (outcome : Outcome) : Option World :=
  let goto (w : World) (phase : PassPhase) : Option World :=
    some (w.setTask i (.pass { pass with phase := phase }))
  match pass.phase with
  | .looping =>
    match pass.names with
    | [] => goto w .ended
    | fileName :: names =>
      if outcome.expired then goto w .ended
      else some (w.setTask i (.pass { pass with names, phase := .inspecting fileName .inspecting }))
  | .inspecting fileName reading =>
    match reading.next host N roomId pass.maxCardBytes fileName (w.cards fileName) outcome.failed with
    | .goesOn reading => goto w (.inspecting fileName reading)
    | .returns none => goto w .looping
    | .returns (some candidate) => goto w (inspected host pass fileName candidate)
  | .locking fileName expected =>
    if outcome.failed then goto w .ended
    else if outcome.expired then goto w .looping
    else (w.acquire i fileName).bind fun w => goto w (.locked fileName expected)
  | .locked fileName expected =>
    if outcome.expired then goto w (.releasing fileName false)
    else goto w (.confirming fileName expected .inspecting)
  | .confirming fileName expected reading =>
    match reading.next host N roomId pass.maxCardBytes fileName (w.cards fileName) outcome.failed with
    | .goesOn reading => goto w (.confirming fileName expected reading)
    | .returns none => goto w (.releasing fileName false)
    | .returns (some candidate) => goto w (confirmed host pass fileName expected candidate)
  | .unlinking fileName expected candidate =>
    if outcome.failed then goto w (.releasing fileName true)
    else goto (w.unlinkStale pass fileName expected candidate) (.releasing fileName false)
  | .releasing fileName thrown => goto (w.release fileName) (if thrown then .ended else .looping)
  | .ended => none

/-- The `catch` of a publication. -/
def abandoned (p : Publication) : PublicationPhase :=
  if p.renamed then .releasing else .unlinkingTemporary

/-- The next call of a publication. -/
def actPublication (i : Nat) (p : Publication) (outcome : Outcome) : Option World :=
  let goto (w : World) (p : Publication) : Option World := some (w.setTask i (.publication p))
  match p.phase with
  | .locking =>
    if outcome.failed || outcome.expired then goto w { p with phase := .ended }
    else (w.acquire i p.fileName).bind fun w => goto w { p with phase := .opening }
  | .opening =>
    if outcome.failed || outcome.expired then goto w { p with phase := .releasing }
    else goto w { p with phase := .writing, writer := .writing, temporary := true }
  | .writing =>
    match p.writer with
    | .done => goto w { p with phase := .releasing }
    | .failed => goto w { p with phase := abandoned p }
    | _ => if outcome.expired then goto w { p with phase := abandoned p } else none
  | .unlinkingTemporary =>
    if outcome.failed then goto w { p with phase := .releasing }
    else goto w { p with phase := .releasing, temporary := false }
  | .releasing => goto (w.release p.fileName) { p with phase := .ended }
  | .ended => none

/-- The next call of a publication's writer, which needs the temporary file. -/
def write (i : Nat) (p : Publication) (failed : Bool) : Option World :=
  let goto (w : World) (p : Publication) : Option World := some (w.setTask i (.publication p))
  match p.writer with
  | .writing =>
    if failed || !p.temporary then goto w { p with writer := .failed }
    else goto w { p with writer := .moving }
  | .moving =>
    if failed || !p.temporary then goto w { p with writer := .failed }
    else goto (w.rename p.fileName p.node)
      { p with writer := .protecting, temporary := false, renamed := true }
  | .protecting => goto w { p with writer := if failed then .failed else .done }
  | .idle | .done | .failed => none

/-- The card is the one `removeAgentCard` was asked for. -/
def isExpected (r : Removal) (card : AgentCard) : Bool :=
  runtimeOfFile r.fileName == some card.runtimeInstanceId &&
    r.expectedSessionId.all (· == card.sessionId) &&
    r.expectedKind.all (· == card.endpoint.kind) &&
    r.expectedAddress.all (· == card.endpoint.address)

/-- The next call of a removal. -/
def actRemoval (i : Nat) (r : Removal) (outcome : Outcome) : Option World :=
  let goto (w : World) (phase : RemovalPhase) : Option World :=
    some (w.setTask i (.removal { r with phase := phase }))
  match r.phase with
  | .locking =>
    if outcome.failed || outcome.expired then goto w .ended
    else (w.acquire i r.fileName).bind fun w => goto w (.reading .inspecting)
  | .reading reading =>
    match reading.next host N roomId r.maxCardBytes r.fileName (w.cards r.fileName) outcome.failed with
    | .goesOn reading => goto w (.reading reading)
    | .returns none => goto w .releasing
    | .returns (some candidate) =>
      goto w (if isExpected r candidate.card then .unlinking else .releasing)
  | .unlinking =>
    if outcome.failed then goto w .releasing else goto (w.unlink r.fileName) .releasing
  | .releasing => goto (w.release r.fileName) .ended
  | .ended => none

/-- The process of an operation ends, with its locks and its writer. -/
def crash (i : Nat) : World :=
  { w.setTask i .idle with
    holder := fun fileName => if w.holder fileName = some i then none else w.holder fileName }

/-- The effect of an event, where it can happen. -/
def step : Event → Option World
  | .cleanup i now ttlMs maxCardBytes runtimeInstanceId names =>
    w.begin i (.pass { now, ttlMs, maxCardBytes, runtimeInstanceId, names, phase := .looping })
  | .publish i fileName node =>
    w.begin i (.publication
      { fileName, node, phase := .locking, writer := .idle, temporary := false, renamed := false })
  | .remove i fileName maxCardBytes expectedSessionId expectedKind expectedAddress =>
    w.begin i (.removal
      { fileName, maxCardBytes, expectedSessionId, expectedKind, expectedAddress, phase := .locking })
  | .act i outcome =>
    match w.tasks i with
    | .idle => none
    | .pass pass => w.actPass host N roomId i pass outcome
    | .publication p => w.actPublication i p outcome
    | .removal r => w.actRemoval host N roomId i r outcome
  | .write i failed =>
    match w.tasks i with
    | .publication p => w.write i p failed
    | _ => none
  | .sweep i =>
    match w.tasks i with
    | .publication p => some (w.setTask i (.publication { p with temporary := false }))
    | _ => none
  | .crash i => some (w.crash i)

end Act

/-- A directory with the cards of before. -/
def start (cards : JsString → Option CardNode) : World where
  cards := cards
  seen fileName := (cards fileName).toList
  holder _ := none
  tasks _ := .idle
  unlinked := []

end World

/-- The runs over the directory of a room. -/
def cleanupSystem (host : Host) (N : NumberHost) (roomId : RoomId) : Transition.System World Event where
  init w := ∃ cards, w = World.start cards
  step w event w' := w.step host N roomId event = some w'

end PiToPi.StaleCleanup
