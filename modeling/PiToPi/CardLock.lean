import PiToPi.Json
import Mathlib.Logic.Function.Basic

/-!
The write lock of one card path: the lock file that processes create exclusively
and reclaim when it looks stale, and each process's own chain of card operations.

An operation is one run of `withAgentCardWriteLock`. It is between two of its
calls of the file system; `act` is its next call, with the code up to the one
after it. Closing the handle before an own lock file is removed has no effect on
the lock and is not a step of its own.
-/
namespace PiToPi.CardLock

/-- `CARD_LOCK_STALE_AFTER_MS`. -/
def cardLockStaleAfterMs : Nat := 2 * 60000

structure CardLockOwner where
  pid : Nat
  token : JsString
  acquiredAt : Nat
  deriving DecidableEq

/-- `JSON.stringify(owner)`. -/
def serializedOwner (owner : CardLockOwner) : JsString :=
  Json.stringify (.record
    [("pid", .number (.ofNat owner.pid)), ("token", .string owner.token),
      ("acquiredAt", .number (.ofNat owner.acquiredAt))])

/-- A file that was created at the lock path. -/
structure LockFile where
  device : Nat
  inode : Nat
  /-- What `parseCardLockOwner` makes of its text; nothing before it is written. -/
  contents : Option CardLockOwner
  mtimeMs : Nat
  /-- The operation that created it. -/
  creator : Nat

structure FileStatSnapshot where
  device : Nat
  inode : Nat
  size : Nat
  modifiedAt : Nat
  deriving DecidableEq

/-- `fileSnapshot(stats)`. -/
def fileSnapshot (file : LockFile) : FileStatSnapshot where
  device := file.device
  inode := file.inode
  size := (file.contents.map fun owner => (serializedOwner owner).length).getD 0
  modifiedAt := file.mtimeMs

/-- Where an operation is. Lock files are named by their number. -/
inductive Phase where
  /-- Behind the operation before it in its process, if there is one. -/
  | queued (previous : Option Nat)
  /-- In `open(lockPath, 'wx')`. -/
  | opening
  /-- It has created `file`, and writes, syncs, closes and protects it. -/
  | writing (file : Nat)
  | syncing (file : Nat)
  | closing (file : Nat)
  | protecting (file : Nat)
  /-- It unlinks the file it created: the deadline has passed, or something failed,
  with the code `EEXIST` or another. -/
  | abandoning (file : Nat) (exists' : Bool)
  /-- `reclaimStaleCardLock`: in its first `lstat`, its `readFile`, its second
  `lstat` and its `unlink`. With the owner that was read comes the file it was read
  from, which the code does not know. -/
  | firstLstat
  | reading (firstStats : FileStatSnapshot)
  | secondLstat (firstStats : FileStatSnapshot) (owner : Option CardLockOwner) (file : Nat)
  | reclaiming (owner : Option CardLockOwner) (file : Nat)
  /-- In `waitForCardLock`. -/
  | waiting
  /-- The lock has been handed out. -/
  | entering (file : Nat)
  /-- Its body is running. -/
  | executing (file : Nat)
  /-- `release`: in its `readFile` and its `unlink`. `acquiring` when the deadline
  passed before the lock was handed out. -/
  | releasing (file : Nat) (acquiring : Bool)
  | unlinking (file : Nat) (acquiring : Bool)
  | done
  deriving DecidableEq

structure Operation where
  process : Nat
  /-- `deadlineMs`, which may be `undefined`, or not finite. -/
  deadlineMs : Option (Option Nat)
  token : JsString
  acquiredAt : Nat
  phase : Phase

structure Process where
  alive : Bool
  /-- The operation whose promise `writeLocks` holds for the path. -/
  writeLock : Option Nat

structure World where
  now : Nat
  /-- The file at the lock path. -/
  lock : Option Nat
  files : Nat → LockFile
  nextFile : Nat
  operations : Nat → Operation
  nextOperation : Nat
  /-- By process id; ids are not used again. -/
  processes : Nat → Process
  nextProcess : Nat

/-- How a call of the file system, or the body, ends. A failure other than that
the file is missing or exists may still carry the code `EEXIST`. -/
inductive Outcome where
  | ok
  | failed (exists' : Bool)
  /-- The timer of `awaitBeforeDeadline` is first. -/
  | deadline
  deriving DecidableEq

inductive CardLockReclaimResult where
  | retry | wait | stop
  deriving DecidableEq

namespace World

variable (w : World)

def setPhase (o : Nat) (phase : Phase) : World :=
  { w with operations := Function.update w.operations o { w.operations o with phase } }

/-- `deadlineExpired(deadlineMs)`. -/
def deadlineExpired (o : Nat) : Bool :=
  match (w.operations o).deadlineMs with
  | none => false
  | some none => true
  | some (some deadline) => deadline ≤ w.now

/-- `processIsAlive(pid)`. -/
def processIsAlive (pid : Nat) : Bool := (w.processes pid).alive

/-- The `finally` of `withWriteLock`. -/
def dequeue (o : Nat) : World :=
  let pid := (w.operations o).process
  if (w.processes pid).writeLock = some o then
    { w with processes := Function.update w.processes pid { w.processes pid with writeLock := none } }
  else w

/-- The operation has settled. -/
def settle (o : Nat) : World := (w.setPhase o .done).dequeue o

/-- The top of the loop of `acquireCardWriteLock`. -/
def tryOpen (o : Nat) : World :=
  if w.deadlineExpired o then w.settle o else w.setPhase o .opening

/-- What `acquireCardWriteLock` does with the result of `reclaimStaleCardLock`. -/
def reclaimed (o : Nat) (result : CardLockReclaimResult) : World :=
  if result = .stop || w.deadlineExpired o then w.settle o
  else if result = .retry then w.tryOpen o
  else w.setPhase o .waiting

/-- The file at the lock path is unlinked. -/
def unlinkLock : World := { w with lock := none }

/-- The next phase of `acquireCardWriteLock` once it has created its file, or its
way out past the deadline. -/
def proceed (o file : Nat) (phase : Phase) : World :=
  if w.deadlineExpired o then w.setPhase o (.abandoning file false) else w.setPhase o phase

/-- `open(lockPath, 'wx')` with no file there: the operation creates one. -/
def create (o device inode : Nat) : World :=
  let file : LockFile := { device, inode, contents := none, mtimeMs := w.now, creator := o }
  let w := { w with
    lock := some w.nextFile
    files := Function.update w.files w.nextFile file
    nextFile := w.nextFile + 1 }
  w.proceed o (w.nextFile - 1) (.writing (w.nextFile - 1))

/-- `handle.writeFile(serializedOwner, 'utf8')`. -/
def writeOwner (o file : Nat) : World :=
  let operation := w.operations o
  let owner : CardLockOwner :=
    { pid := operation.process, token := operation.token, acquiredAt := operation.acquiredAt }
  { w with
    files := Function.update w.files file
      { w.files file with contents := some owner, mtimeMs := w.now } }

/-- The next call of an operation, and what follows it up to the one after that. -/
def act (o : Nat) (outcome : Outcome) (device inode : Nat) : World :=
  let operation := w.operations o
  if !w.processIsAlive operation.process then w
  else match operation.phase, outcome with
  | .queued previous, _ =>
    if previous.all fun p => (w.operations p).phase = .done then
      { w with operations := Function.update w.operations o { operation with acquiredAt := w.now } }.tryOpen o
    else w
  | .opening, .ok =>
    if w.lock.isSome then w.setPhase o .firstLstat else w.create o device inode
  | .opening, .failed exists' => if exists' then w.setPhase o .firstLstat else w.settle o
  | .writing file, .ok => (w.writeOwner o file).proceed o file (.syncing file)
  | .syncing file, .ok => w.proceed o file (.closing file)
  | .closing file, .ok => w.proceed o file (.protecting file)
  | .protecting file, .ok =>
    if w.deadlineExpired o then w.setPhase o (.releasing file true)
    else w.setPhase o (.entering file)
  | .entering file, _ =>
    if w.deadlineExpired o then w.setPhase o (.releasing file false)
    else w.setPhase o (.executing file)
  | .writing file, .failed exists' | .syncing file, .failed exists'
  | .closing file, .failed exists' | .protecting file, .failed exists' =>
    w.setPhase o (.abandoning file exists')
  | .abandoning _ exists', result =>
    let w := if result = .ok then w.unlinkLock else w
    if exists' then w.setPhase o .firstLstat else w.settle o
  | .firstLstat, .ok => match w.lock with
    | none => w.reclaimed o .retry
    | some file =>
      if w.now < (w.files file).mtimeMs + cardLockStaleAfterMs then w.reclaimed o .wait
      else w.setPhase o (.reading (fileSnapshot (w.files file)))
  | .reading firstStats, .ok => match w.lock with
    | none => w.reclaimed o .retry
    | some file =>
      if (w.files file).contents.any fun owner => w.processIsAlive owner.pid then w.reclaimed o .wait
      else w.setPhase o (.secondLstat firstStats (w.files file).contents file)
  | .secondLstat firstStats owner file, .ok => match w.lock with
    | none => w.reclaimed o .retry
    | some file' =>
      if fileSnapshot (w.files file') ≠ firstStats then w.reclaimed o .wait
      else if w.deadlineExpired o then w.reclaimed o .stop
      else w.setPhase o (.reclaiming owner file)
  | .reclaiming .., .ok => w.unlinkLock.reclaimed o .retry
  | .firstLstat, .deadline | .reading _, .deadline | .secondLstat .., .deadline =>
    if operation.deadlineMs.isSome then w.reclaimed o .stop else w
  | .firstLstat, .failed _ | .reading _, .failed _ | .secondLstat .., .failed _
  | .reclaiming .., .failed _ => w.settle o
  | .waiting, _ => w.tryOpen o
  | .executing file, _ => w.setPhase o (.releasing file false)
  | .releasing file acquiring, .ok => match w.lock with
    | none => w.settle o
    | some file' =>
      if (w.files file').contents.map (·.token) ≠ some operation.token then w.settle o
      else w.setPhase o (.unlinking file acquiring)
  | .unlinking _ _, .ok => w.unlinkLock.settle o
  | .releasing file acquiring, .failed exists' | .unlinking file acquiring, .failed exists' =>
    if acquiring then w.setPhase o (.abandoning file exists') else w.settle o
  | _, _ => w

/-- `withAgentCardWriteLock` is called in a process. -/
def call (pid : Nat) (deadlineMs : Option (Option Nat)) (token : JsString) : World :=
  if !w.processIsAlive pid then w
  else
    let process := w.processes pid
    let operation : Operation :=
      { process := pid, deadlineMs, token, acquiredAt := 0, phase := .queued process.writeLock }
    { w with
      operations := Function.update w.operations w.nextOperation operation
      nextOperation := w.nextOperation + 1
      processes := Function.update w.processes pid
        { process with writeLock := some w.nextOperation } }

end World

/-- What may happen next. -/
inductive LockStep where
  | tick (now : Nat)
  | spawn
  | crash (pid : Nat)
  | call (pid : Nat) (deadlineMs : Option (Option Nat)) (token : JsString)
  /-- The caller's deadline passes while the operation goes on. -/
  | timeout (operation : Nat)
  | act (operation : Nat) (outcome : Outcome) (device inode : Nat)

def World.step (w : World) : LockStep → World
  | .tick now => { w with now }
  | .spawn =>
    { w with
      processes := Function.update w.processes w.nextProcess { alive := true, writeLock := none }
      nextProcess := w.nextProcess + 1 }
  | .crash pid =>
    { w with processes := Function.update w.processes pid { w.processes pid with alive := false } }
  | .call pid deadlineMs token => w.call pid deadlineMs token
  | .timeout operation =>
    if (w.operations operation).deadlineMs.isSome then w.dequeue operation else w
  | .act operation outcome device inode => w.act operation outcome device inode

end PiToPi.CardLock
