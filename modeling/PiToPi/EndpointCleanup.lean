import PiToPi.Transition
import Mathlib.Tactic.Simps.Basic

/-!
`unlinkOwnedSocket` and `restoreQuarantine` (`transport/local-ipc.ts`) on a POSIX system, while
other processes bind and remove the same public path.

Each call of the file system takes effect at one moment and its promise is delivered at a later
one. `withDeadline` may give up a wait in between: the call of the file system goes on, and what
it then does is a background step. Once the deadline has passed `withDeadline` still starts its
operation, and rejects at once. Both callers on a POSIX system know the identity of the socket.
The quarantine path has a random name, which only the call itself knows.
-/
namespace PiToPi.EndpointCleanup

structure PosixSocketIdentity where
  dev : Nat
  ino : Nat
  ctimeMs : Nat
  birthtimeMs : Nat
  deriving DecidableEq

/-- What a path holds: `socketIdentity(stats)` and `stats.isSocket()`. -/
structure Node where
  identity : PosixSocketIdentity
  isSocket : Bool
  deriving DecidableEq

/-- `sameSocketObjectIdentity(left, right)`. -/
def sameSocketObjectIdentity (left right : PosixSocketIdentity) : Bool :=
  left.dev == right.dev && left.ino == right.ino && left.birthtimeMs == right.birthtimeMs

/-- `sameSocketIdentity(left, right)`. -/
def sameSocketIdentity (left right : PosixSocketIdentity) : Bool :=
  sameSocketObjectIdentity left right && left.ctimeMs == right.ctimeMs

/-- A rename changes the time of a node's last change. -/
def Node.touch (n : Node) (ctimeMs : Nat) : Node :=
  { n with identity := { n.identity with ctimeMs := ctimeMs } }

/-- The code of an error of the file system. -/
inductive ErrorCode where
  | enoent | eexist | other
  deriving DecidableEq

/-- What a call of the file system answers. -/
inductive Result where
  | stats (found : Node)
  | done
  | failed (code : ErrorCode)
  deriving DecidableEq

/-- A call of the file system that changes a path. -/
inductive Change where
  /-- `fs.rename(endpoint, quarantine)`. -/
  | quarantine
  /-- `fs.rename(quarantine, endpoint)`. -/
  | restore
  /-- `fs.unlink(quarantine)`. -/
  | unlink
  deriving DecidableEq

inductive ProbeState where
  | live | stale | inconclusive
  deriving DecidableEq

/-- How the call ends. -/
inductive Exit where
  | returned (removed : Bool)
  | thrown
  deriving DecidableEq

/-- What the call waits for. Its restoration is the first one, or the second one of its `catch`. -/
inductive Phase where
  | inspecting
  | quarantining
  | checking
  /-- The second look at the quarantine, with the identity the first one has found. -/
  | confirming (quarantined : PosixSocketIdentity)
  | probing
  | unlinking
  | restoreFinding (second : Bool)
  | restoreLooking (second : Bool)
  | restoring (second : Bool)
  | ended (exit : Exit)
  deriving DecidableEq

structure Cleanup where
  /-- The identity the call was told. -/
  expected : PosixSocketIdentity
  /-- What the public path and the quarantine path hold. -/
  endpoint : Option Node
  quarantine : Option Node
  phase : Phase
  /-- The answer of the call of the file system that is waited for. -/
  answer : Option Result
  /-- The deadline has passed. -/
  expired : Bool
  /-- The call of the file system whose wait was given up. -/
  background : Option Change
  /-- What the public path would hold without the call. -/
  alone : Option Node
  /-- While its node was in quarantine others have bound or removed the public path, and
  whether they have removed it. -/
  touched : Bool
  removed : Bool
  /-- The nodes the call has unlinked or overwritten. -/
  destroyed : List Node

/-- A call of `unlinkOwnedSocket(endpoint, expected, deadline)`. -/
def start (expected : PosixSocketIdentity) (endpoint : Option Node) : Cleanup where
  expected := expected
  endpoint := endpoint
  quarantine := none
  phase := .inspecting
  answer := none
  expired := false
  background := none
  alone := endpoint
  touched := false
  removed := false
  destroyed := []

namespace Cleanup

@[simps]
def exit (s : Cleanup) (exit : Exit) : Cleanup := { s with phase := .ended exit, answer := none }

/-- Wait for something. -/
@[simps]
def await (s : Cleanup) (phase : Phase) : Cleanup := { s with phase := phase, answer := none }

/-- A change of a path takes effect, or fails for its source is missing. -/
def apply (s : Cleanup) (change : Change) (ctimeMs : Nat) : Cleanup × Result :=
  match change with
  | .quarantine =>
    match s.endpoint with
    | none => (s, .failed .enoent)
    | some node => ({ s with endpoint := none, quarantine := some (node.touch ctimeMs) }, .done)
  | .restore =>
    match s.quarantine with
    | none => (s, .failed .enoent)
    | some node =>
      ({ s with
        endpoint := some (node.touch ctimeMs)
        quarantine := none
        destroyed := s.destroyed ++ s.endpoint.toList }, .done)
  | .unlink =>
    match s.quarantine with
    | none => (s, .failed .enoent)
    | some node => ({ s with quarantine := none, destroyed := s.destroyed ++ [node] }, .done)

/-- An error inside `restoreQuarantine`: of the first one the `catch` tries again, and after the
deadline that fails at once. -/
def restoreFailed (s : Cleanup) (second : Bool) : Cleanup :=
  if second || s.expired then s.exit .thrown else s.await (.restoreFinding true)

/-- `restoreQuarantine` returns. -/
def restored (s : Cleanup) (second : Bool) : Cleanup :=
  s.exit (if second then .thrown else .returned false)

/-- `await restoreQuarantine(..)` before `return false`. -/
def giveUp (s : Cleanup) : Cleanup :=
  if s.expired then s.exit .thrown else s.await (.restoreFinding false)

/-- An error while the node is in quarantine. -/
def fail (s : Cleanup) : Cleanup := s.restoreFailed false

/-- Start the rename into quarantine. -/
def startQuarantine (s : Cleanup) : Cleanup :=
  if s.expired then { s.exit .thrown with background := some .quarantine }
  else s.await .quarantining

/-- Start to unlink the quarantine. -/
def startUnlink (s : Cleanup) : Cleanup :=
  if s.expired then { s.fail with background := some .unlink } else s.await .unlinking

/-- Start the rename back. -/
def startRestore (s : Cleanup) (second : Bool) : Cleanup :=
  if s.expired then { s.restoreFailed second with background := some .restore }
  else s.await (.restoring second)

/-- The next look at a path while the node is in quarantine. -/
def look (s : Cleanup) (phase : Phase) : Cleanup := if s.expired then s.fail else s.await phase

/-- What follows an answer, up to the next wait. -/
def deliver (s : Cleanup) (result : Result) : Cleanup :=
  match s.phase, result with
  | .inspecting, .stats found =>
    if !found.isSocket then s.exit .thrown
    else if !sameSocketIdentity found.identity s.expected then s.exit (.returned false)
    else s.startQuarantine
  | .inspecting, .failed .enoent => s.exit (.returned false)
  | .inspecting, _ => s.exit .thrown
  | .quarantining, .done => s.look .checking
  | .quarantining, .failed .enoent => s.exit (.returned false)
  | .quarantining, _ => s.exit .thrown
  | .checking, .stats found =>
    if !found.isSocket then s.giveUp
    else if !sameSocketObjectIdentity found.identity s.expected then s.giveUp
    else s.look (.confirming found.identity)
  | .checking, .failed .enoent => s.giveUp
  | .checking, _ => s.fail
  | .confirming quarantined, .stats found =>
    if !found.isSocket || !sameSocketObjectIdentity found.identity quarantined then s.giveUp
    else s.await .probing
  | .confirming _, .failed .enoent => s.giveUp
  | .confirming _, _ => s.fail
  | .unlinking, .done => s.exit (.returned true)
  | .unlinking, .failed .enoent => s.exit (.returned false)
  | .unlinking, _ => s.fail
  | .restoreFinding second, .stats _ =>
    if s.expired then s.restoreFailed second else s.await (.restoreLooking second)
  | .restoreFinding second, .failed .enoent => s.restored second
  | .restoreFinding second, _ => s.restoreFailed second
  | .restoreLooking second, .stats _ => s.restored second
  | .restoreLooking second, .failed .enoent => s.startRestore second
  | .restoreLooking second, _ => s.restoreFailed second
  | .restoring second, .done => s.restored second
  | .restoring second, .failed .eexist => s.restored second
  | .restoring second, _ => s.restoreFailed second
  | .probing, _ => s
  | .ended _, _ => s

/-- `lstat` of a path. -/
def stat (path : Option Node) : Result :=
  match path with
  | none => .failed .enoent
  | some node => .stats node

/-- The call of the file system that is waited for takes effect, or fails with a code other than
that of a missing source. -/
def perform (s : Cleanup) (failure : Option ErrorCode) (ctimeMs : Nat) : Cleanup :=
  match failure with
  | some code => { s with answer := some (.failed code) }
  | none =>
    match s.phase with
    | .inspecting | .restoreLooking _ => { s with answer := some (stat s.endpoint) }
    | .checking | .confirming _ | .restoreFinding _ => { s with answer := some (stat s.quarantine) }
    | .quarantining =>
      { (s.apply .quarantine ctimeMs).1 with answer := some (s.apply .quarantine ctimeMs).2 }
    | .unlinking => { (s.apply .unlink ctimeMs).1 with answer := some (s.apply .unlink ctimeMs).2 }
    | .restoring _ =>
      { (s.apply .restore ctimeMs).1 with answer := some (s.apply .restore ctimeMs).2 }
    | .probing | .ended _ => s

/-- The change that is waited for and has not taken effect goes on in the background. -/
def abandon (s : Cleanup) (change : Change) : Cleanup :=
  if s.answer.isSome then s else { s with background := some change }

/-- The wait is given up. -/
def timeout (s : Cleanup) : Cleanup :=
  match s.phase with
  | .inspecting => s.exit .thrown
  | .quarantining => (s.abandon .quarantine).exit .thrown
  | .checking | .confirming _ => s.fail
  | .unlinking => (s.abandon .unlink).fail
  | .restoreFinding second | .restoreLooking second => s.restoreFailed second
  | .restoring second => (s.abandon .restore).restoreFailed second
  | .probing | .ended _ => s

/-- `probePosixEndpoint(quarantine, ..)` answers. -/
def probed (s : Cleanup) (state : ProbeState) : Cleanup :=
  if state = .stale then s.startUnlink else s.giveUp

/-- Another process binds a new socket, where the path is free. -/
@[simps]
def bind (s : Cleanup) (node : Node) : Cleanup :=
  { s with
    endpoint := some (s.endpoint.getD node)
    alone := some (s.alone.getD node)
    touched := s.touched || s.quarantine.isSome }

/-- Another process removes what the path holds. -/
@[simps]
def remove (s : Cleanup) : Cleanup :=
  { s with
    endpoint := none
    alone := none
    touched := s.touched || s.quarantine.isSome
    removed := s.removed || s.quarantine.isSome }

end Cleanup

/-- What may happen next. -/
inductive Event where
  | bind (node : Node)
  | remove
  /-- The deadline passes. -/
  | expire
  /-- The call of the file system that is waited for takes effect, or fails. -/
  | perform (failure : Option ErrorCode) (ctimeMs : Nat)
  /-- Its promise's continuation runs. -/
  | deliver
  /-- The timer of the wait is first. -/
  | timeout
  | probed (state : ProbeState)
  /-- A call whose wait was given up takes effect, or fails. -/
  | background (failure : Option ErrorCode) (ctimeMs : Nat)
  deriving DecidableEq

open EndpointCleanup.Cleanup in
/-- The effect of an event, where it can happen. -/
def step (s : Cleanup) : Event → Option Cleanup
  | .bind node => some (s.bind node)
  | .remove => some s.remove
  | .expire => some { s with expired := true }
  | .perform failure ctimeMs =>
    match s.phase with
    | .probing | .ended _ => none
    | _ => if s.answer.isSome ∨ failure = some .enoent then none else some (s.perform failure ctimeMs)
  | .deliver => s.answer.map s.deliver
  | .timeout =>
    match s.phase with
    | .probing | .ended _ => none
    | _ => if s.expired then some s.timeout else none
  | .probed state => if s.phase = .probing then some (s.probed state) else none
  | .background failure ctimeMs =>
    match s.background with
    | none => none
    | some change =>
      match failure with
      | some _ => some { s with background := none }
      | none => some { (s.apply change ctimeMs).1 with background := none }

/-- The runs of a call that is told an identity. -/
def cleanupSystem (expected : PosixSocketIdentity) : Transition.System Cleanup Event where
  init s := ∃ endpoint, s = start expected endpoint
  step s event s' := step s event = some s'

end PiToPi.EndpointCleanup
