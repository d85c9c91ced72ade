import PiToPi.Config
import Mathlib.Logic.Function.Basic

/-!
`createPiToPiLifecycle`: the owner of the one production composition.

A handler that awaits is suspended with what it still needs; it goes on in a
later step, after whatever else happened meanwhile. Runtime objects have an
identity of their own, since handlers compare them with `===`. How a
composition's start, rename and shutdown end is up to the environment.
-/
namespace PiToPi

structure RuntimeIdentity where
  sessionId : JsString
  runtimeId : JsString
  deriving DecidableEq

/-- How far a composition is; `stopped` once its shutdown has settled. -/
inductive CompositionPhase where
  | starting | failed | started | stopping | stopped
  deriving DecidableEq, Repr

/-- A composition and the options it was made with. -/
structure Composition where
  identity : RuntimeIdentity
  room : JsString
  config : P2PConfig
  displayName : Option JsString
  generation : Nat
  endpoint : JsString
  phase : CompositionPhase

structure PiToPiRuntime where
  identity : RuntimeIdentity
  config : P2PConfig
  room : JsString
  endpoint : JsString
  composition : Nat
  publishedName : PublishedPeerName

/-- What a `session_start` handler finds when it gets to work. -/
structure StartInput where
  sessionId : JsString
  sessionName : Option JsString
  flags : P2PFlagValues
  cwd : JsString
  /-- The fresh runtime id, and the endpoint made from it. -/
  runtimeId : JsString
  endpoint : JsString
  /-- Whether making the composition throws. -/
  constructs : Bool

/-- The promise `stop` leaves in `stopping`. -/
structure Cleanup where
  runtime : Nat
  settled : Option Bool

/-- Where a handler is suspended, or how it ended. -/
inductive Handler where
  /-- `session_start`, in `await stop(active)`. -/
  | awaitingStop (cleanup : Nat)
  /-- `session_start`, in `await stopping`. -/
  | awaitingStopping (cleanup : Nat)
  /-- `session_start`, in `await composition.start()`. -/
  | starting (composition : Nat)
  /-- `session_info_changed`, in `await runtime.composition.updateDisplayName(..)`. -/
  | updatingName (runtime : Nat) (name : JsString)
  /-- `session_shutdown`, in `await stop(runtime)`, whose failure it catches, or on
  the `stopping` it returned. -/
  | shuttingDown (cleanup : Nat) (catches : Bool)
  /-- A `session_start` that ended with its composition active. -/
  | started (composition : Nat)
  | finished
  | rejected
  deriving DecidableEq

/-- The handler has settled. -/
def Handler.isSettled : Handler → Bool
  | .started _ | .finished | .rejected => true
  | _ => false

structure Lifecycle where
  /-- `identities.current()`. -/
  identities : Option RuntimeIdentity
  /-- The object in `active`. -/
  active : Option Nat
  generation : Nat
  stopping : Option Nat
  runtimes : Nat → PiToPiRuntime
  nextRuntime : Nat
  compositions : Nat → Composition
  nextComposition : Nat
  cleanups : Nat → Cleanup
  nextCleanup : Nat
  handlers : Nat → Handler
  nextHandler : Nat

/-- What the lifecycle's environment computes: Unicode, and `resolveRoom` for a
project and a working directory, which may throw. -/
structure LifecycleHost extends Unicode where
  resolveRoom : Option JsString → JsString → Option JsString

/-- The pattern of `isSessionId`. -/
def isSessionId (value : JsString) : Bool :=
  let alphanumeric (u : UInt16) : Bool :=
    (0x30 ≤ u && u ≤ 0x39) || (0x41 ≤ u && u ≤ 0x5a) || (0x61 ≤ u && u ≤ 0x7a)
  match value.units with
  | [] => false
  | first :: rest => alphanumeric first && rest.all (fun u => alphanumeric u || u == 0x2e ||
      u == 0x5f || u == 0x2d) && (rest.getLast?.all alphanumeric)

namespace Lifecycle

section Operations

variable (H : LifecycleHost) (s : Lifecycle)

/-- The configuration of a `session_info_changed`. -/
def renamedConfig (runtime : PiToPiRuntime) (name : Option JsString) : Except JsString P2PConfig :=
  resolveP2PConfig H.toUnicode
    { flags := none
      p2pName := .undefined
      p2pProject := (runtime.config.projectOverride.map OptionValue.string).getD .undefined
      sessionName := name }

def setHandler (handler : Nat) (state : Handler) : Lifecycle :=
  { s with handlers := Function.update s.handlers handler state }

def setPhase (composition : Nat) (phase : CompositionPhase) : Lifecycle :=
  { s with
    compositions := Function.update s.compositions composition
      { s.compositions composition with phase } }

/-- `identities.shutdown(runtimeId)`. -/
def identitiesShutdown (runtimeId : JsString) : Lifecycle :=
  if s.identities.map (·.runtimeId) = some runtimeId then { s with identities := none } else s

/-- `stop(runtime)`, with the promise it returns. -/
def stop (runtime : Nat) : Nat × Lifecycle :=
  let s := if s.active = some runtime then { s with active := none } else s
  let s := s.setPhase (s.runtimes runtime).composition .stopping
  (s.nextCleanup, { s with
    cleanups := Function.update s.cleanups s.nextCleanup { runtime, settled := none }
    nextCleanup := s.nextCleanup + 1
    stopping := some s.nextCleanup })

/-- A composition's shutdown has settled, and with it the promise of `stop`. -/
def cleanupSettles (cleanup : Nat) (ok : Bool) : Lifecycle :=
  let runtime := s.runtimes (s.cleanups cleanup).runtime
  let s := s.setPhase runtime.composition .stopped
  let s := s.identitiesShutdown runtime.identity.runtimeId
  let s := if s.stopping = some cleanup then { s with stopping := none } else s
  { s with
    cleanups := Function.update s.cleanups cleanup
      { s.cleanups cleanup with settled := some ok } }

/-- The part of `onSessionStart` between its second and its third await. -/
def beginStart (handler : Nat) (input : StartInput) : Lifecycle :=
  if !isSessionId input.sessionId then s.setHandler handler .rejected
  else
    let identity : RuntimeIdentity := { sessionId := input.sessionId, runtimeId := input.runtimeId }
    let s := { s with identities := some identity }
    let options : ResolveP2PConfigOptions :=
      { flags := some input.flags, p2pName := .undefined, p2pProject := .undefined
        sessionName := input.sessionName }
    match resolveP2PConfig H.toUnicode options with
    | .error _ => s.setHandler handler .rejected
    | .ok config => match H.resolveRoom config.projectOverride input.cwd with
      | none => s.setHandler handler .rejected
      | some room =>
        let s := { s with generation := s.generation + 1 }
        if !input.constructs then
          (s.identitiesShutdown identity.runtimeId).setHandler handler .rejected
        else
          let composition : Composition :=
            { identity, room, config, displayName := input.sessionName, generation := s.generation
              endpoint := input.endpoint, phase := .starting }
          { s with
            compositions := Function.update s.compositions s.nextComposition composition
            nextComposition := s.nextComposition + 1
            handlers := Function.update s.handlers handler (.starting s.nextComposition) }

/-- `if (stopping !== undefined) await stopping;` -/
def awaitStopping (handler : Nat) (input : StartInput) : Lifecycle :=
  match s.stopping with
  | some cleanup => s.setHandler handler (.awaitingStopping cleanup)
  | none => s.beginStart H handler input

/-- `onSessionStart`, up to its first await. -/
def onSessionStart (input : StartInput) : Lifecycle :=
  let handler := s.nextHandler
  let s := { s with nextHandler := handler + 1 }
  match s.active with
  | some runtime =>
    let (cleanup, s) := s.stop runtime
    s.setHandler handler (.awaitingStop cleanup)
  | none => s.awaitStopping H handler input

/-- A handler that awaits a cleanup goes on, or throws what the cleanup threw. -/
def resume (handler : Nat) (input : StartInput) : Lifecycle :=
  match s.handlers handler with
  | .awaitingStop cleanup => match (s.cleanups cleanup).settled with
    | none => s
    | some false => s.setHandler handler .rejected
    | some true => s.awaitStopping H handler input
  | .awaitingStopping cleanup => match (s.cleanups cleanup).settled with
    | none => s
    | some false => s.setHandler handler .rejected
    | some true => s.beginStart H handler input
  | .shuttingDown cleanup catches => match (s.cleanups cleanup).settled with
    | none => s
    | some ok => s.setHandler handler (if ok || catches then .finished else .rejected)
  | _ => s

/-- `composition.start()` has settled. -/
def startSettles (handler : Nat) (ok : Bool) : Lifecycle :=
  match s.handlers handler with
  | .starting composition =>
    let options := s.compositions composition
    if !ok then
      let s := s.setPhase composition .failed
      (s.identitiesShutdown options.identity.runtimeId).setHandler handler .rejected
    else
      let s := s.setPhase composition .started
      match createInitialPeerName H.toUnicode options.identity.runtimeId
          (some options.config.name) with
      | .error _ => (s.identitiesShutdown options.identity.runtimeId).setHandler handler .rejected
      | .ok publishedName =>
        let runtime : PiToPiRuntime :=
          { identity := options.identity, config := options.config, room := options.room
            endpoint := options.endpoint, composition, publishedName }
        { s with
          runtimes := Function.update s.runtimes s.nextRuntime runtime
          nextRuntime := s.nextRuntime + 1
          active := some s.nextRuntime
          handlers := Function.update s.handlers handler (.started composition) }
  | _ => s

/-- Whether `onSessionInfoChanged` hands the event to a runtime. -/
def takesName (runtime : PiToPiRuntime) : Bool := runtime.config.nameOverride.isNone

/-- `onSessionInfoChanged`, up to its await. -/
def onSessionInfoChanged (name : Option JsString) : Lifecycle :=
  let handler := s.nextHandler
  let s := { s with nextHandler := handler + 1 }
  match s.active, name with
  | some runtime, some name =>
    if takesName (s.runtimes runtime) then s.setHandler handler (.updatingName runtime name)
    else s.setHandler handler .finished
  | _, _ => s.setHandler handler .finished

/-- `updateDisplayName` has settled. -/
def renameSettles (handler : Nat) (ok : Bool) : Lifecycle :=
  match s.handlers handler with
  | .updatingName runtime name =>
    if !ok then s.setHandler handler .rejected
    else if s.active ≠ some runtime then s.setHandler handler .finished
    else
      let before := s.runtimes runtime
      match renamedConfig H before (some name),
          createInitialPeerName H.toUnicode before.identity.runtimeId (some name) with
      | .ok config, .ok publishedName =>
        { s with
          runtimes := Function.update s.runtimes s.nextRuntime { before with config, publishedName }
          nextRuntime := s.nextRuntime + 1
          active := some s.nextRuntime
          handlers := Function.update s.handlers handler .finished }
      | _, _ => s.setHandler handler .rejected
  | _ => s

/-- `onSessionShutdown`. -/
def onSessionShutdown : Lifecycle :=
  let handler := s.nextHandler
  let s := { s with nextHandler := handler + 1 }
  match s.active with
  | some runtime =>
    let (cleanup, s) := s.stop runtime
    s.setHandler handler (.shuttingDown cleanup true)
  | none => match s.stopping with
    | some cleanup => s.setHandler handler (.shuttingDown cleanup false)
    | none => s.setHandler handler .finished

end Operations
end Lifecycle
end PiToPi
