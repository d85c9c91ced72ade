import PiToPi.Lifecycle
import PiToPi.Transition

/-!
The lifecycle over every order of its events and of the endings of what it
awaits.

`KeepsFence` is what the handlers do not check after an await. In runs whose
steps all keep it, at most one composition is up, and it is the right one;
`overlappingStarts_leak` is a run with a step that does not.
-/
namespace PiToPi.LifecycleProofs
open Transition Lifecycle

/-- What may happen next. -/
inductive LifecycleEvent where
  | sessionStart (input : StartInput)
  | sessionInfoChanged (name : Option JsString)
  | sessionShutdown
  | resume (handler : Nat) (input : StartInput)
  | cleanupSettles (cleanup : Nat) (ok : Bool)
  | startSettles (handler : Nat) (ok : Bool)
  | renameSettles (handler : Nat) (ok : Bool)

/-- The last of the events that start or shut a session down. -/
inductive LastEvent where
  | start (handler : Nat)
  | shutdown
  deriving DecidableEq

/-- A `session_info_changed` that reached a runtime. -/
structure Rename where
  handler : Nat
  runtime : Nat
  name : Option JsString

/-- The lifecycle, and what has been delivered to it. -/
structure Session where
  lifecycle : Lifecycle
  lastEvent : Option LastEvent
  /-- The last `session_info_changed` delivered for a composition. -/
  lastRename : Nat → Option Rename

/-- `composition` of a runtime object. -/
def compositionOf (s : Lifecycle) (runtime : Nat) : Nat := (s.runtimes runtime).composition

section Statement

variable (H : LifecycleHost)

/-- A `session_info_changed` is delivered for the active runtime, unless its name
was given on the command line. -/
def Session.delivered (w : Session) (name : Option JsString) : Nat → Option Rename :=
  match w.lifecycle.active with
  | some runtime =>
    if takesName (w.lifecycle.runtimes runtime) then
      Function.update w.lastRename (compositionOf w.lifecycle runtime)
        (some ⟨w.lifecycle.nextHandler, runtime, name⟩)
    else w.lastRename
  | none => w.lastRename

def Session.step (w : Session) : LifecycleEvent → Session
  | .sessionStart input =>
    { w with
      lifecycle := w.lifecycle.onSessionStart H input
      lastEvent := some (.start w.lifecycle.nextHandler) }
  | .sessionShutdown =>
    { w with lifecycle := w.lifecycle.onSessionShutdown, lastEvent := some .shutdown }
  | .sessionInfoChanged name =>
    { w with lifecycle := w.lifecycle.onSessionInfoChanged name, lastRename := w.delivered name }
  | .resume handler input => { w with lifecycle := w.lifecycle.resume H handler input }
  | .cleanupSettles cleanup ok =>
    if cleanup < w.lifecycle.nextCleanup ∧ (w.lifecycle.cleanups cleanup).settled = none then
      { w with lifecycle := w.lifecycle.cleanupSettles cleanup ok }
    else w
  | .startSettles handler ok => { w with lifecycle := w.lifecycle.startSettles H handler ok }
  | .renameSettles handler ok => { w with lifecycle := w.lifecycle.renameSettles H handler ok }

/-- Every order of events and endings, from a lifecycle as it is made. -/
def lifecycleSystem : System Session LifecycleEvent where
  init w := w.lifecycle.active = none ∧ w.lifecycle.stopping = none ∧
    w.lifecycle.identities = none ∧ w.lifecycle.nextRuntime = 0 ∧
    w.lifecycle.nextComposition = 0 ∧ w.lifecycle.nextCleanup = 0 ∧ w.lifecycle.nextHandler = 0 ∧
    (∀ h, w.lifecycle.handlers h = .finished) ∧ w.lastEvent = none ∧ ∀ c, w.lastRename c = none
  step w e w' := w' = w.step H e

/-- The runtime's config and published name are those of a `session_info_changed`. -/
def Shows (s : Lifecycle) (rename : Rename) (runtime : PiToPiRuntime) : Prop :=
  renamedConfig H (s.runtimes rename.runtime) rename.name = .ok runtime.config ∧
    createInitialPeerName H.toUnicode runtime.identity.runtimeId rename.name =
      .ok runtime.publishedName

/-- Nothing is awaited any more. -/
def Quiescent (w : Session) : Prop :=
  (∀ h, (w.lifecycle.handlers h).isSettled = true) ∧
    ∀ k < w.lifecycle.nextCleanup, (w.lifecycle.cleanups k).settled ≠ none

/-- The composition is started and not shut down. -/
def Up (s : Lifecycle) (c : Nat) : Prop :=
  c < s.nextComposition ∧
    ((s.compositions c).phase = .started ∨ (s.compositions c).phase = .stopping)

/-- What the lifecycle is to ensure. -/
structure Fenced (w : Session) : Prop where
  single : Quiescent w → ∀ c c', Up w.lifecycle c → Up w.lifecycle c' → c = c'
  shutdown : Quiescent w → w.lastEvent = some .shutdown → ∀ c, ¬Up w.lifecycle c
  survivor : Quiescent w → ∀ h c, w.lastEvent = some (.start h) →
    w.lifecycle.handlers h = .started c → ∀ c', Up w.lifecycle c' ↔ c' = c
  superseded : Quiescent w → ∀ c, Up w.lifecycle c →
    ∃ a, w.lifecycle.active = some a ∧ compositionOf w.lifecycle a = c
  renamed : (∀ h r name, w.lifecycle.handlers h ≠ .updatingName r name) →
    ∀ a rename, w.lifecycle.active = some a →
      w.lastRename (compositionOf w.lifecycle a) = some rename →
      Shows H w.lifecycle rename (w.lifecycle.runtimes a)

/-- What the handlers would have to check. A composition that has started becomes
the active one only if none is active and no shutdown was the last event. The
last `session_info_changed` of the active runtime carries a name, its update
succeeds, and the runtime it was handed to is still the active object. -/
def Session.KeepsFence (w : Session) : LifecycleEvent → Prop
  | .startSettles handler true => ∀ c, w.lifecycle.handlers handler = .starting c →
    w.lifecycle.active = none ∧ w.lastEvent ≠ some .shutdown ∧
      ∃ name, createInitialPeerName H.toUnicode (w.lifecycle.compositions c).identity.runtimeId
        (some (w.lifecycle.compositions c).config.name) = .ok name
  | .renameSettles handler ok => ∀ runtime name a rename,
    w.lifecycle.handlers handler = .updatingName runtime name → w.lifecycle.active = some a →
    w.lastRename (compositionOf w.lifecycle a) = some rename → rename.handler = handler →
      ok = true ∧ a = runtime ∧ ∃ config published,
        renamedConfig H (w.lifecycle.runtimes runtime) (some name) = .ok config ∧
          createInitialPeerName H.toUnicode (w.lifecycle.runtimes runtime).identity.runtimeId
            (some name) = .ok published
  | .sessionInfoChanged name => ∀ a, w.lifecycle.active = some a →
    takesName (w.lifecycle.runtimes a) = true → name.isSome
  | _ => True

/-- The invariant of the runs that keep the fence. -/
structure Inv (s : Lifecycle) (lastEvent : Option LastEvent) (renames : Nat → Option Rename) :
    Prop where
  active : ∀ a, s.active = some a → a < s.nextRuntime ∧ compositionOf s a < s.nextComposition ∧
    (s.compositions (compositionOf s a)).phase = .started
  started : ∀ c < s.nextComposition, (s.compositions c).phase = .started →
    ∃ a, s.active = some a ∧ compositionOf s a = c
  stopping : ∀ c < s.nextComposition, (s.compositions c).phase = .stopping →
    ∃ k < s.nextCleanup, (s.cleanups k).settled = none ∧ compositionOf s (s.cleanups k).runtime = c
  cleanup : ∀ k < s.nextCleanup, (s.cleanups k).settled = none →
    (s.cleanups k).runtime < s.nextRuntime ∧
      compositionOf s (s.cleanups k).runtime < s.nextComposition ∧
      (s.compositions (compositionOf s (s.cleanups k).runtime)).phase = .stopping
  cleanupOnce : ∀ k < s.nextCleanup, ∀ k' < s.nextCleanup, (s.cleanups k).settled = none →
    (s.cleanups k').settled = none →
    compositionOf s (s.cleanups k).runtime = compositionOf s (s.cleanups k').runtime → k = k'
  starting : ∀ h c, s.handlers h = .starting c →
    c < s.nextComposition ∧ (s.compositions c).phase = .starting
  startingOnce : ∀ h h' c, s.handlers h = .starting c → s.handlers h' = .starting c → h = h'
  unborn : ∀ h, s.nextHandler ≤ h → s.handlers h = .finished
  underway : ∀ h r name, s.handlers h = .updatingName r name → r < s.nextRuntime
  afterShutdown : lastEvent = some .shutdown → s.active = none
  afterStart : ∀ h c, lastEvent = some (.start h) → s.handlers h = .started c →
    ∃ a, s.active = some a ∧ compositionOf s a = c
  delivered : ∀ c rename, renames c = some rename → rename.runtime < s.nextRuntime ∧
    rename.handler < s.nextHandler ∧ c < s.nextComposition ∧ (s.compositions c).phase ≠ .starting
  /-- The last rename of the active runtime is on its way, or it has arrived and
  no other one can. -/
  renamed : ∀ a rename, s.active = some a → renames (compositionOf s a) = some rename →
    (∃ name, rename.name = some name ∧ s.handlers rename.handler = .updatingName rename.runtime name) ∨
    (Shows H s rename (s.runtimes a) ∧ ∀ h r name, s.handlers h = .updatingName r name → r ≠ a)

end Statement

section Steps

variable {H : LifecycleHost} {s : Lifecycle} {lastEvent : Option LastEvent}
  {renames : Nat → Option Rename}

/-- A handler that neither starts nor renames anything, nor has started it. -/
def Quiet : Handler → Prop
  | .starting _ | .updatingName .. | .started _ => False
  | _ => True

/-- A handler that is no rename under way goes on to something quiet. -/
theorem Inv.setHandler (inv : Inv H s lastEvent renames) (known : h < s.nextHandler)
    (quiet : Quiet state)
    (free : ∀ a rename, s.active = some a → renames (compositionOf s a) = some rename →
      rename.handler = h → ∀ r name, s.handlers h ≠ .updatingName r name) :
    Inv H (s.setHandler h state) lastEvent renames := by
  have other : ∀ h', h' ≠ h → (s.setHandler h state).handlers h' = s.handlers h' :=
    fun h' differ => Function.update_of_ne differ _ _
  have self : (s.setHandler h state).handlers h = state := Function.update_self _ _ _
  have old : ∀ h' state', ¬Quiet state' → (s.setHandler h state).handlers h' = state' →
      s.handlers h' = state' := by
    intro h' state' loud held
    by_cases same : h' = h
    · rw [same, self] at held
      exact absurd (held ▸ quiet) loud
    · rwa [other h' same] at held
  refine
    { active := inv.active
      started := inv.started
      stopping := inv.stopping
      cleanup := inv.cleanup
      cleanupOnce := inv.cleanupOnce
      starting := fun h' c held => inv.starting h' c (old h' _ id held)
      startingOnce := fun h₁ h₂ c first second =>
        inv.startingOnce h₁ h₂ c (old h₁ _ id first) (old h₂ _ id second)
      unborn := ?_
      underway := fun h' r name held => inv.underway h' r name (old h' _ id held)
      afterShutdown := inv.afterShutdown
      afterStart := fun h' c last held => inv.afterStart h' c last (old h' _ id held)
      delivered := inv.delivered
      renamed := ?_ }
  · intro h' unborn
    rw [other h' (by rintro rfl; exact absurd known (Nat.not_lt.mpr unborn))]
    exact inv.unborn h' unborn
  · intro a rename active last
    obtain ⟨name, named, pending⟩ | ⟨shows, done⟩ := inv.renamed a rename active last
    · by_cases same : rename.handler = h
      · exact absurd (same ▸ pending) (free a rename active last same _ _)
      · exact .inl ⟨name, named, by rw [other _ same]; exact pending⟩
    · exact .inr ⟨shows, fun h' r name held => done h' r name (old h' _ id held)⟩

/-- The invariant does not look at the identity, the generation or `stopping`. -/
theorem Inv.others (inv : Inv H s lastEvent renames) (identities : Option RuntimeIdentity)
    (generation : Nat) (stopping : Option Nat) :
    Inv H { s with identities, generation, stopping } lastEvent renames :=
  { inv with }

theorem Inv.identitiesShutdown (inv : Inv H s lastEvent renames) (runtimeId : JsString) :
    Inv H (s.identitiesShutdown runtimeId) lastEvent renames := by
  unfold Lifecycle.identitiesShutdown
  split
  · exact inv.others none s.generation s.stopping
  · exact inv

/-- A handler is made. -/
theorem Inv.birth (inv : Inv H s lastEvent renames) :
    Inv H { s with nextHandler := s.nextHandler + 1 } lastEvent renames :=
  { inv with
    unborn := fun h unborn => inv.unborn h (Nat.le_of_succ_le unborn)
    delivered := fun c rename last => by
      obtain ⟨runtime, handler, rest⟩ := inv.delivered c rename last
      exact ⟨runtime, Nat.lt_succ_of_lt handler, rest⟩ }

/-- Another event is the last one. -/
theorem Inv.event (inv : Inv H s lastEvent renames)
    (shutdown : lastEvent' = some .shutdown → s.active = none)
    (start : ∀ h c, lastEvent' = some (.start h) → s.handlers h ≠ .started c) :
    Inv H s lastEvent' renames :=
  { inv with
    afterShutdown := shutdown
    afterStart := fun h c last held => absurd held (start h c last) }

theorem setPhase_phase (s : Lifecycle) (c c' : Nat) (phase : CompositionPhase) :
    ((s.setPhase c phase).compositions c').phase =
      if c' = c then phase else (s.compositions c').phase := by
  unfold setPhase
  by_cases same : c' = c
  · subst same
    simp
  · simp [same]

/-- Stopping the active runtime. -/
theorem Inv.stop (inv : Inv H s lastEvent renames) (active : s.active = some a)
    (start : ∀ h c, lastEvent' = some (.start h) → s.handlers h ≠ .started c) :
    Inv H (s.stop a).2 lastEvent' renames := by
  obtain ⟨below, known, phase⟩ := inv.active a active
  have phases : ∀ c, ((s.stop a).2.compositions c).phase =
      if c = compositionOf s a then .stopping else (s.compositions c).phase := by
    intro c
    unfold Lifecycle.stop
    rw [if_pos active]
    exact setPhase_phase _ _ _ _
  have none : (s.stop a).2.active = none := by
    unfold Lifecycle.stop
    rw [if_pos active]
    rfl
  have cleanups : (s.stop a).2.cleanups = Function.update s.cleanups s.nextCleanup ⟨a, .none⟩ := by
    unfold Lifecycle.stop
    rw [if_pos active]
    rfl
  have frame : (s.stop a).2.runtimes = s.runtimes ∧ (s.stop a).2.nextRuntime = s.nextRuntime ∧
      (s.stop a).2.nextComposition = s.nextComposition ∧
      (s.stop a).2.nextCleanup = s.nextCleanup + 1 ∧ (s.stop a).2.handlers = s.handlers ∧
      (s.stop a).2.nextHandler = s.nextHandler := by
    unfold Lifecycle.stop
    rw [if_pos active]
    exact ⟨rfl, rfl, rfl, rfl, rfl, rfl⟩
  obtain ⟨runtimes, nextRuntime, nextComposition, nextCleanup, handlers, nextHandler⟩ := frame
  have ofs : ∀ r, compositionOf (s.stop a).2 r = compositionOf s r := by
    intro r
    rw [compositionOf, runtimes, compositionOf]
  have old : ∀ k < s.nextCleanup, (s.stop a).2.cleanups k = s.cleanups k := by
    intro k made
    rw [cleanups, Function.update_of_ne (Nat.ne_of_lt made)]
  have new : (s.stop a).2.cleanups s.nextCleanup = ⟨a, .none⟩ := by
    rw [cleanups, Function.update_self]
  -- no cleanup under way was for the composition being stopped
  have apart : ∀ k < s.nextCleanup, (s.cleanups k).settled = .none →
      compositionOf s (s.cleanups k).runtime ≠ compositionOf s a := by
    intro k made waiting same
    have stopping := (inv.cleanup k made waiting).2.2
    rw [same, phase] at stopping
    cases stopping
  refine
    { active := fun a' active' => absurd (none.symm.trans active') nofun
      started := ?_
      stopping := ?_
      cleanup := ?_
      cleanupOnce := ?_
      starting := ?_
      startingOnce := ?_
      unborn := ?_
      underway := ?_
      afterShutdown := fun _ => none
      afterStart := ?_
      delivered := ?_
      renamed := fun a' rename active' => absurd (none.symm.trans active') nofun }
  · intro c made
    rw [phases]
    split
    · exact nofun
    · rename_i other
      intro up
      obtain ⟨a', active', rfl⟩ := inv.started c (nextComposition ▸ made) up
      rw [active] at active'
      exact absurd (Option.some.inj active' ▸ rfl) other
  · intro c made
    rw [phases, nextCleanup]
    by_cases same : c = compositionOf s a
    · intro _
      exact ⟨s.nextCleanup, Nat.lt_succ_self _, by rw [new], by rw [new, ofs, same]⟩
    · rw [if_neg same]
      intro stopping
      obtain ⟨k, below, waiting, of⟩ := inv.stopping c (nextComposition ▸ made) stopping
      exact ⟨k, Nat.lt_succ_of_lt below, by rw [old k below, waiting], by rw [old k below, ofs, of]⟩
  · intro k made waiting
    rw [nextCleanup] at made
    rw [nextRuntime, nextComposition, phases, ofs]
    obtain made | rfl := Nat.lt_succ_iff_lt_or_eq.mp made
    · rw [old k made] at waiting ⊢
      obtain ⟨runtime, known', stopping⟩ := inv.cleanup k made waiting
      rw [if_neg (apart k made waiting)]
      exact ⟨runtime, known', stopping⟩
    · rw [new]
      exact ⟨below, known, if_pos rfl⟩
  · intro k made k' made' waiting waiting' same
    rw [nextCleanup] at made made'
    rw [ofs, ofs] at same
    obtain made | rfl := Nat.lt_succ_iff_lt_or_eq.mp made
    · rw [old k made] at waiting same
      obtain made' | rfl := Nat.lt_succ_iff_lt_or_eq.mp made'
      · rw [old k' made'] at waiting' same
        exact inv.cleanupOnce k made k' made' waiting waiting' same
      · rw [new] at same
        exact absurd same (apart k made waiting)
    · obtain made' | rfl := Nat.lt_succ_iff_lt_or_eq.mp made'
      · rw [old k' made'] at waiting' same
        rw [new] at same
        exact absurd same.symm (apart k' made' waiting')
      · rfl
  · intro h c held
    rw [handlers] at held
    obtain ⟨made, starting⟩ := inv.starting h c held
    rw [nextComposition, phases, if_neg (by rintro rfl; rw [phase] at starting; cases starting)]
    exact ⟨made, starting⟩
  · rw [handlers]
    exact inv.startingOnce
  · rw [handlers, nextHandler]
    exact inv.unborn
  · rw [handlers, nextRuntime]
    exact inv.underway
  · intro h c last held
    rw [handlers] at held
    exact absurd held (start h c last)
  · intro c rename last
    obtain ⟨runtime, handler, made, notStarting⟩ := inv.delivered c rename last
    rw [nextRuntime, nextHandler, nextComposition, phases]
    refine ⟨runtime, handler, made, ?_⟩
    split
    · exact nofun
    · exact notStarting

theorem identitiesShutdown_eq (s : Lifecycle) (runtimeId : JsString) :
    ∃ identities, s.identitiesShutdown runtimeId = { s with identities } := by
  unfold Lifecycle.identitiesShutdown
  split
  · exact ⟨none, rfl⟩
  · exact ⟨s.identities, rfl⟩

/-- A shutdown has settled. -/
theorem Inv.cleanupSettles (inv : Inv H s lastEvent renames) (made : k < s.nextCleanup)
    (waiting : (s.cleanups k).settled = none) (ok : Bool) :
    Inv H (s.cleanupSettles k ok) lastEvent renames := by
  obtain ⟨-, -, stopping⟩ := inv.cleanup k made waiting
  have shape : ∃ identities stopping, s.cleanupSettles k ok =
      { s with
        compositions := (s.setPhase (compositionOf s (s.cleanups k).runtime) .stopped).compositions
        cleanups := Function.update s.cleanups k { s.cleanups k with settled := some ok }
        identities, stopping } := by
    unfold Lifecycle.cleanupSettles
    obtain ⟨identities, eq⟩ := identitiesShutdown_eq
      (s.setPhase (s.runtimes (s.cleanups k).runtime).composition .stopped)
      (s.runtimes (s.cleanups k).runtime).identity.runtimeId
    dsimp only
    rw [eq]
    split
    · exact ⟨identities, none, rfl⟩
    · exact ⟨identities, s.stopping, rfl⟩
  obtain ⟨identities, stopping', eq⟩ := shape
  rw [eq]
  refine Inv.others (s := { s with
    compositions := (s.setPhase (compositionOf s (s.cleanups k).runtime) .stopped).compositions
    cleanups := Function.update s.cleanups k { s.cleanups k with settled := some ok } })
    ?_ identities s.generation stopping'
  have old : ∀ k', k' ≠ k →
      Function.update s.cleanups k { s.cleanups k with settled := some ok } k' = s.cleanups k' :=
    fun k' differ => Function.update_of_ne differ _ _
  have settled : ∀ k', (Function.update s.cleanups k
      { s.cleanups k with settled := some ok } k').settled = none → k' ≠ k := by
    rintro k' waiting' rfl
    simp at waiting'
  refine
    { active := ?_
      started := ?_
      stopping := ?_
      cleanup := ?_
      cleanupOnce := ?_
      starting := ?_
      startingOnce := inv.startingOnce
      unborn := inv.unborn
      underway := inv.underway
      afterShutdown := inv.afterShutdown
      afterStart := inv.afterStart
      delivered := ?_
      renamed := inv.renamed }
  · intro a active
    obtain ⟨below, known, phase⟩ := inv.active a active
    refine ⟨below, known, ?_⟩
    dsimp only [compositionOf] at phase stopping ⊢
    rw [setPhase_phase, if_neg (by intro same; rw [same, stopping] at phase; cases phase)]
    exact phase
  · intro c known
    dsimp only
    rw [setPhase_phase]
    split
    · exact nofun
    · exact inv.started c known
  · intro c known
    dsimp only
    rw [setPhase_phase]
    split
    · exact nofun
    · rename_i differ
      intro stopping
      obtain ⟨k', made', waiting', of⟩ := inv.stopping c known stopping
      have other : k' ≠ k := by
        rintro rfl
        exact differ of.symm
      exact ⟨k', made', by rw [old k' other, waiting'], by rw [old k' other]; exact of⟩
  · intro k' made' waiting'
    have other := settled k' waiting'
    dsimp only [compositionOf] at waiting' ⊢
    rw [old k' other] at waiting' ⊢
    obtain ⟨runtime, known, phase⟩ := inv.cleanup k' made' waiting'
    have apart : compositionOf s (s.cleanups k').runtime ≠ compositionOf s (s.cleanups k).runtime :=
      fun same => other (inv.cleanupOnce k' made' k made waiting' waiting same)
    refine ⟨runtime, known, ?_⟩
    rw [setPhase_phase]
    exact (if_neg apart).trans phase
  · intro k₁ made₁ k₂ made₂ waiting₁ waiting₂ same
    have other₁ := settled k₁ waiting₁
    have other₂ := settled k₂ waiting₂
    dsimp only [compositionOf] at waiting₁ waiting₂ same
    rw [old k₁ other₁] at waiting₁ same
    rw [old k₂ other₂] at waiting₂ same
    exact inv.cleanupOnce k₁ made₁ k₂ made₂ waiting₁ waiting₂ same
  · intro h c held
    obtain ⟨known, starting⟩ := inv.starting h c held
    refine ⟨known, ?_⟩
    dsimp only
    rw [setPhase_phase, if_neg (by rintro rfl; rw [stopping] at starting; cases starting)]
    exact starting
  · intro c rename last
    obtain ⟨runtime, handler, known, notStarting⟩ := inv.delivered c rename last
    refine ⟨runtime, handler, known, ?_⟩
    dsimp only
    rw [setPhase_phase]
    split
    · exact nofun
    · exact notStarting

/-- A new composition is being started. -/
theorem Inv.allocate (inv : Inv H s lastEvent renames) (known : h < s.nextHandler)
    (quiet : Quiet (s.handlers h)) (composition : Composition)
    (starting : composition.phase = .starting) :
    Inv H
      { s with
        compositions := Function.update s.compositions s.nextComposition composition
        nextComposition := s.nextComposition + 1
        handlers := Function.update s.handlers h (.starting s.nextComposition) }
      lastEvent renames := by
  have old : ∀ c < s.nextComposition,
      Function.update s.compositions s.nextComposition composition c = s.compositions c :=
    fun c made => Function.update_of_ne (Nat.ne_of_lt made) _ _
  have handlers : ∀ h' state, (∀ c, state ≠ .starting c) →
      Function.update s.handlers h (.starting s.nextComposition) h' = state → s.handlers h' = state := by
    intro h' state other held
    by_cases same : h' = h
    · rw [same, Function.update_self] at held
      exact absurd held.symm (other _)
    · rwa [Function.update_of_ne same] at held
  have startings : ∀ h' c, Function.update s.handlers h (.starting s.nextComposition) h' = .starting c →
      (h' = h ∧ c = s.nextComposition) ∨ (s.handlers h' = .starting c ∧ c < s.nextComposition) := by
    intro h' c held
    by_cases same : h' = h
    · rw [same, Function.update_self] at held
      exact .inl ⟨same, (Handler.starting.inj held).symm⟩
    · rw [Function.update_of_ne same] at held
      exact .inr ⟨held, (inv.starting h' c held).1⟩
  refine
    { active := ?_
      started := ?_
      stopping := ?_
      cleanup := ?_
      cleanupOnce := inv.cleanupOnce
      starting := ?_
      startingOnce := ?_
      unborn := ?_
      underway := fun h' r name held => inv.underway h' r name (handlers h' _ nofun held)
      afterShutdown := inv.afterShutdown
      afterStart := fun h' c last held => inv.afterStart h' c last (handlers h' _ nofun held)
      delivered := ?_
      renamed := ?_ }
  · intro a active
    obtain ⟨below, made, phase⟩ := inv.active a active
    refine ⟨below, Nat.lt_succ_of_lt made, ?_⟩
    dsimp only [compositionOf] at made phase ⊢
    rwa [old _ made]
  · intro c made phase
    dsimp only at made phase
    obtain made | rfl := Nat.lt_succ_iff_lt_or_eq.mp made
    · rw [old c made] at phase
      exact inv.started c made phase
    · rw [Function.update_self, starting] at phase
      cases phase
  · intro c made phase
    dsimp only at made phase
    obtain made | rfl := Nat.lt_succ_iff_lt_or_eq.mp made
    · rw [old c made] at phase
      exact inv.stopping c made phase
    · rw [Function.update_self, starting] at phase
      cases phase
  · intro k made waiting
    obtain ⟨runtime, made', phase⟩ := inv.cleanup k made waiting
    refine ⟨runtime, Nat.lt_succ_of_lt made', ?_⟩
    dsimp only [compositionOf] at made' phase ⊢
    rwa [old _ made']
  · intro h' c held
    dsimp only at held ⊢
    obtain ⟨-, rfl⟩ | ⟨held, made⟩ := startings h' c held
    · exact ⟨Nat.lt_succ_self _, by rw [Function.update_self, starting]⟩
    · exact ⟨Nat.lt_succ_of_lt made, by rw [old c made]; exact (inv.starting h' c held).2⟩
  · intro h₁ h₂ c held₁ held₂
    obtain ⟨rfl, rfl⟩ | ⟨held₁, made₁⟩ := startings h₁ c held₁
    · obtain ⟨rfl, -⟩ | ⟨-, made₂⟩ := startings h₂ _ held₂
      · rfl
      · exact absurd made₂ (Nat.lt_irrefl _)
    · obtain ⟨-, rfl⟩ | ⟨held₂, -⟩ := startings h₂ c held₂
      · exact absurd made₁ (Nat.lt_irrefl _)
      · exact inv.startingOnce h₁ h₂ c held₁ held₂
  · intro h' unborn
    dsimp only
    rw [Function.update_of_ne (by rintro rfl; exact absurd known (Nat.not_lt.mpr unborn))]
    exact inv.unborn h' unborn
  · intro c rename last
    obtain ⟨runtime, handler, made, notStarting⟩ := inv.delivered c rename last
    refine ⟨runtime, handler, Nat.lt_succ_of_lt made, ?_⟩
    dsimp only
    rwa [old c made]
  · intro a rename active last
    obtain ⟨name, named, pending⟩ | ⟨shows, done⟩ := inv.renamed a rename active last
    · refine .inl ⟨name, named, ?_⟩
      dsimp only
      rw [Function.update_of_ne (by rintro same; rw [← same, pending] at quiet; exact quiet)]
      exact pending
    · exact .inr ⟨shows, fun h' r name held => done h' r name (handlers h' _ nofun held)⟩

/-- A composition that did not come up. -/
theorem Inv.startFailed (inv : Inv H s lastEvent renames) (held : s.handlers h = .starting c)
    (known : h < s.nextHandler) :
    Inv H ((s.setPhase c .failed).setHandler h .rejected) lastEvent renames := by
  obtain ⟨made, starting⟩ := inv.starting h c held
  have handlers : ∀ h' state, Function.update s.handlers h .rejected h' = state →
      state ≠ .rejected → s.handlers h' = state ∧ h' ≠ h := by
    intro h' state held' other
    by_cases same : h' = h
    · rw [same, Function.update_self] at held'
      exact absurd held'.symm other
    · rw [Function.update_of_ne same] at held'
      exact ⟨held', same⟩
  have apart : ∀ c' phase, (s.compositions c').phase = phase → phase ≠ .starting → c' ≠ c := by
    rintro c' phase held' other rfl
    exact other (held'.symm.trans starting)
  refine
    { active := ?_
      started := ?_
      stopping := ?_
      cleanup := ?_
      cleanupOnce := inv.cleanupOnce
      starting := ?_
      startingOnce := fun h₁ h₂ c' first second =>
        inv.startingOnce h₁ h₂ c' (handlers h₁ _ first nofun).1 (handlers h₂ _ second nofun).1
      unborn := ?_
      underway := fun h' r name held' => inv.underway h' r name (handlers h' _ held' nofun).1
      afterShutdown := inv.afterShutdown
      afterStart := fun h' c' last held' => inv.afterStart h' c' last (handlers h' _ held' nofun).1
      delivered := ?_
      renamed := ?_ }
  · intro a active
    obtain ⟨below, made', phase⟩ := inv.active a active
    refine ⟨below, made', ?_⟩
    exact (setPhase_phase _ _ _ _).trans ((if_neg (apart _ _ phase nofun)).trans phase)
  · intro c' made' phase
    have phase := (setPhase_phase _ _ _ _).symm.trans phase
    split at phase
    · cases phase
    · exact inv.started c' made' phase
  · intro c' made' phase
    have phase := (setPhase_phase _ _ _ _).symm.trans phase
    split at phase
    · cases phase
    · exact inv.stopping c' made' phase
  · intro k made' waiting
    obtain ⟨runtime, known', phase⟩ := inv.cleanup k made' waiting
    refine ⟨runtime, known', ?_⟩
    exact (setPhase_phase _ _ _ _).trans ((if_neg (apart _ _ phase nofun)).trans phase)
  · intro h' c' held'
    obtain ⟨before, differ⟩ := handlers h' _ held' nofun
    obtain ⟨made', starting'⟩ := inv.starting h' c' before
    have other : c' ≠ c := by
      rintro rfl
      exact differ (inv.startingOnce h' h _ before held)
    exact ⟨made', (setPhase_phase _ _ _ _).trans ((if_neg other).trans starting')⟩
  · intro h' unborn
    refine (Function.update_of_ne ?_ _ _).trans (inv.unborn h' unborn)
    rintro rfl
    exact absurd known (Nat.not_lt.mpr unborn)
  · intro c' rename last
    obtain ⟨runtime, handler, made', notStarting⟩ := inv.delivered c' rename last
    refine ⟨runtime, handler, made', ?_⟩
    have phase := setPhase_phase s c c' .failed
    intro starting'
    have starting' := phase.symm.trans starting'
    split at starting'
    · cases starting'
    · exact notStarting starting'
  · intro a rename active last
    obtain ⟨name, named, pending⟩ | ⟨shows, done⟩ := inv.renamed a rename active last
    · refine .inl ⟨name, named, (Function.update_of_ne ?_ _ _).trans pending⟩
      rintro same
      rw [same, held] at pending
      cases pending
    · exact .inr ⟨shows, fun h' r name held' => done h' r name (handlers h' _ held' nofun).1⟩

/-- A composition came up while nothing else was. -/
theorem Inv.startSucceeded (inv : Inv H s lastEvent renames) (held : s.handlers h = .starting c)
    (known : h < s.nextHandler) (idle : s.active = none) (last : lastEvent ≠ some .shutdown)
    (runtime : PiToPiRuntime) (of : runtime.composition = c) :
    Inv H
      { s.setPhase c .started with
        runtimes := Function.update s.runtimes s.nextRuntime runtime
        nextRuntime := s.nextRuntime + 1
        active := some s.nextRuntime
        handlers := Function.update s.handlers h (.started c) }
      lastEvent renames := by
  obtain ⟨made, starting⟩ := inv.starting h c held
  have handlers : ∀ h' state, Function.update s.handlers h (.started c) h' = state →
      (∀ c, state ≠ .started c) → s.handlers h' = state ∧ h' ≠ h := by
    intro h' state held' other
    by_cases same : h' = h
    · rw [same, Function.update_self] at held'
      exact absurd held'.symm (other c)
    · rw [Function.update_of_ne same] at held'
      exact ⟨held', same⟩
  have apart : ∀ c' phase, (s.compositions c').phase = phase → phase ≠ .starting → c' ≠ c := by
    rintro c' phase held' other rfl
    exact other (held'.symm.trans starting)
  have ofs : ∀ r < s.nextRuntime,
      (Function.update s.runtimes s.nextRuntime runtime r).composition = compositionOf s r :=
    fun r below => congrArg PiToPiRuntime.composition (Function.update_of_ne (Nat.ne_of_lt below) _ _)
  have new : (Function.update s.runtimes s.nextRuntime runtime s.nextRuntime).composition = c :=
    (congrArg PiToPiRuntime.composition (Function.update_self _ _ _)).trans of
  refine
    { active := ?_
      started := ?_
      stopping := ?_
      cleanup := ?_
      cleanupOnce := ?_
      starting := ?_
      startingOnce := fun h₁ h₂ c' first second =>
        inv.startingOnce h₁ h₂ c' (handlers h₁ _ first nofun).1 (handlers h₂ _ second nofun).1
      unborn := ?_
      underway := fun h' r name held' =>
        Nat.lt_succ_of_lt (inv.underway h' r name (handlers h' _ held' nofun).1)
      afterShutdown := fun shutdown => absurd shutdown last
      afterStart := ?_
      delivered := ?_
      renamed := ?_ }
  · rintro _ ⟨⟩
    refine ⟨Nat.lt_succ_self _, ?_, ?_⟩
    · exact new ▸ made
    · exact (setPhase_phase _ _ _ _).trans (if_pos new)
  · intro c' made' phase
    have phase := (setPhase_phase _ _ _ _).symm.trans phase
    split at phase
    · rename_i same
      exact ⟨s.nextRuntime, rfl, new.trans same.symm⟩
    · obtain ⟨a, active, -⟩ := inv.started c' made' phase
      rw [idle] at active
      cases active
  · intro c' made' phase
    have phase := (setPhase_phase _ _ _ _).symm.trans phase
    split at phase
    · cases phase
    · obtain ⟨k, made, waiting, same⟩ := inv.stopping c' made' phase
      exact ⟨k, made, waiting, (ofs _ (inv.cleanup k made waiting).1).trans same⟩
  · intro k made' waiting
    obtain ⟨below, known', phase⟩ := inv.cleanup k made' waiting
    have same := ofs _ below
    refine ⟨Nat.lt_succ_of_lt below, lt_of_eq_of_lt same known', ?_⟩
    have moved := setPhase_phase s c (compositionOf s (s.cleanups k).runtime) .started
    rw [if_neg (apart _ _ phase nofun), phase] at moved
    exact (congrArg (fun c' => ((s.setPhase c .started).compositions c').phase) same).trans moved
  · intro k made₁ k' made₂ waiting₁ waiting₂ same
    refine inv.cleanupOnce k made₁ k' made₂ waiting₁ waiting₂ ?_
    rw [← ofs _ (inv.cleanup k made₁ waiting₁).1, ← ofs _ (inv.cleanup k' made₂ waiting₂).1]
    exact same
  · intro h' c' held'
    obtain ⟨before, differ⟩ := handlers h' _ held' nofun
    obtain ⟨made', starting'⟩ := inv.starting h' c' before
    have other : c' ≠ c := by
      rintro rfl
      exact differ (inv.startingOnce h' h _ before held)
    exact ⟨made', (setPhase_phase _ _ _ _).trans ((if_neg other).trans starting')⟩
  · intro h' unborn
    refine (Function.update_of_ne ?_ _ _).trans (inv.unborn h' unborn)
    rintro rfl
    exact absurd known (Nat.not_lt.mpr unborn)
  · intro h' c' started held'
    by_cases same : h' = h
    · rw [same] at held'
      have held' : Handler.started c = Handler.started c' :=
        (Function.update_self h _ s.handlers).symm.trans held'
      exact ⟨s.nextRuntime, rfl, new.trans (Handler.started.inj held')⟩
    · have before : s.handlers h' = .started c' := (Function.update_of_ne same _ _).symm.trans held'
      obtain ⟨a, active, -⟩ := inv.afterStart h' c' started before
      rw [idle] at active
      cases active
  · intro c' rename delivered
    obtain ⟨below, handler, made', notStarting⟩ := inv.delivered c' rename delivered
    refine ⟨Nat.lt_succ_of_lt below, handler, made', fun starting' => ?_⟩
    have starting' := (setPhase_phase _ _ _ _).symm.trans starting'
    split at starting'
    · cases starting'
    · exact notStarting starting'
  · rintro _ rename ⟨⟩ delivered
    -- nothing was delivered for a composition that was still starting
    have delivered : renames c = some rename := new ▸ delivered
    exact absurd starting (inv.delivered c rename delivered).2.2.2

/-- A rename that arrives in time: the active runtime is replaced by a renamed one. -/
theorem Inv.renameApplied (inv : Inv H s lastEvent renames) (held : s.handlers h = .updatingName a name)
    (known : h < s.nextHandler) (active : s.active = some a) (runtime : PiToPiRuntime)
    (of : runtime.composition = compositionOf s a)
    (identity : runtime.identity = (s.runtimes a).identity)
    (config : renamedConfig H (s.runtimes a) (some name) = .ok runtime.config)
    (published : createInitialPeerName H.toUnicode (s.runtimes a).identity.runtimeId (some name) =
      .ok runtime.publishedName) :
    Inv H
      { s with
        runtimes := Function.update s.runtimes s.nextRuntime runtime
        nextRuntime := s.nextRuntime + 1
        active := some s.nextRuntime
        handlers := Function.update s.handlers h .finished }
      lastEvent renames := by
  obtain ⟨below, made, phase⟩ := inv.active a active
  have handlers : ∀ h' state, Function.update s.handlers h .finished h' = state →
      state ≠ .finished → s.handlers h' = state := by
    intro h' state held' other
    by_cases same : h' = h
    · rw [same, Function.update_self] at held'
      exact absurd held'.symm other
    · rwa [Function.update_of_ne same] at held'
  have old : ∀ r < s.nextRuntime, Function.update s.runtimes s.nextRuntime runtime r = s.runtimes r :=
    fun r below => Function.update_of_ne (Nat.ne_of_lt below) _ _
  have ofs : ∀ r < s.nextRuntime,
      (Function.update s.runtimes s.nextRuntime runtime r).composition = compositionOf s r :=
    fun r below => congrArg PiToPiRuntime.composition (old r below)
  have new : (Function.update s.runtimes s.nextRuntime runtime s.nextRuntime).composition =
      compositionOf s a :=
    (congrArg PiToPiRuntime.composition (Function.update_self _ _ _)).trans of
  refine
    { active := ?_
      started := ?_
      stopping := ?_
      cleanup := ?_
      cleanupOnce := ?_
      starting := fun h' c' held' => inv.starting h' c' (handlers h' _ held' nofun)
      startingOnce := fun h₁ h₂ c' first second =>
        inv.startingOnce h₁ h₂ c' (handlers h₁ _ first nofun) (handlers h₂ _ second nofun)
      unborn := ?_
      underway := fun h' r name held' =>
        Nat.lt_succ_of_lt (inv.underway h' r name (handlers h' _ held' nofun))
      afterShutdown := fun shutdown => absurd (active.symm.trans (inv.afterShutdown shutdown)) nofun
      afterStart := ?_
      delivered := ?_
      renamed := ?_ }
  · rintro _ ⟨⟩
    refine ⟨Nat.lt_succ_self _, lt_of_eq_of_lt new made, ?_⟩
    exact (congrArg (fun c => (s.compositions c).phase) new).trans phase
  · intro c' made' phase
    obtain ⟨a', active', rfl⟩ := inv.started c' made' phase
    rw [active] at active'
    obtain rfl := Option.some.inj active'
    exact ⟨s.nextRuntime, rfl, new⟩
  · intro c' made' phase
    obtain ⟨k, made, waiting, same⟩ := inv.stopping c' made' phase
    exact ⟨k, made, waiting, (ofs _ (inv.cleanup k made waiting).1).trans same⟩
  · intro k made' waiting
    obtain ⟨below, known', phase⟩ := inv.cleanup k made' waiting
    have same := ofs _ below
    refine ⟨Nat.lt_succ_of_lt below, lt_of_eq_of_lt same known', ?_⟩
    exact (congrArg (fun c => (s.compositions c).phase) same).trans phase
  · intro k made₁ k' made₂ waiting₁ waiting₂ same
    refine inv.cleanupOnce k made₁ k' made₂ waiting₁ waiting₂ ?_
    rw [← ofs _ (inv.cleanup k made₁ waiting₁).1, ← ofs _ (inv.cleanup k' made₂ waiting₂).1]
    exact same
  · intro h' unborn
    refine (Function.update_of_ne ?_ _ _).trans (inv.unborn h' unborn)
    rintro rfl
    exact absurd known (Nat.not_lt.mpr unborn)
  · intro h' c' started held'
    obtain ⟨a', active', rfl⟩ := inv.afterStart h' c' started (handlers h' _ held' nofun)
    rw [active] at active'
    obtain rfl := Option.some.inj active'
    exact ⟨s.nextRuntime, rfl, new⟩
  · intro c' rename delivered
    obtain ⟨below, rest⟩ := inv.delivered c' rename delivered
    exact ⟨Nat.lt_succ_of_lt below, rest⟩
  · rintro _ rename ⟨⟩ delivered
    have delivered : renames (compositionOf s a) = some rename := new ▸ delivered
    obtain ⟨name', named, pending⟩ | ⟨-, done⟩ := inv.renamed a rename active delivered
    · by_cases same : rename.handler = h
      · -- it is this one, and it is applied now
        rw [same, held] at pending
        obtain ⟨rfl, rfl⟩ := Handler.updatingName.inj pending
        refine .inr ⟨⟨?_, ?_⟩, fun h' r name held' => ?_⟩
        · rw [named]
          dsimp only
          rw [old _ below, Function.update_self]
          exact config
        · rw [named]
          dsimp only
          rw [Function.update_self, identity]
          exact published
        · exact Nat.ne_of_lt (inv.underway h' r name (handlers h' _ held' nofun))
      · exact .inl ⟨name', named, (Function.update_of_ne same _ _).trans pending⟩
    · exact absurd rfl (done h a name held)

/-- A `session_info_changed` is delivered to the active runtime. -/
theorem Inv.renameStarts (inv : Inv H s lastEvent renames) (known : h < s.nextHandler)
    (idle : s.handlers h = .finished) (active : s.active = some a) (name : JsString) :
    Inv H (s.setHandler h (.updatingName a name)) lastEvent
      (Function.update renames (compositionOf s a) (some ⟨h, a, some name⟩)) := by
  obtain ⟨below, made, phase⟩ := inv.active a active
  have handlers : ∀ h' state, Function.update s.handlers h (.updatingName a name) h' = state →
      (∀ r n, state ≠ .updatingName r n) → s.handlers h' = state := by
    intro h' state held' other
    by_cases same : h' = h
    · rw [same, Function.update_self] at held'
      exact absurd held'.symm (other a name)
    · rwa [Function.update_of_ne same] at held'
  refine
    { inv with
      starting := fun h' c' held' => inv.starting h' c' (handlers h' _ held' nofun)
      startingOnce := fun h₁ h₂ c' first second =>
        inv.startingOnce h₁ h₂ c' (handlers h₁ _ first nofun) (handlers h₂ _ second nofun)
      unborn := ?_
      underway := ?_
      afterStart := fun h' c' started held' =>
        inv.afterStart h' c' started (handlers h' _ held' nofun)
      delivered := ?_
      renamed := ?_ }
  · intro h' unborn
    refine (Function.update_of_ne ?_ _ _).trans (inv.unborn h' unborn)
    rintro rfl
    exact absurd known (Nat.not_lt.mpr unborn)
  · intro h' r name' held'
    by_cases same : h' = h
    · have held' : Function.update s.handlers h (.updatingName a name) h' = .updatingName r name' := held'
      rw [same, Function.update_self] at held'
      obtain ⟨rfl, -⟩ := Handler.updatingName.inj held'
      exact below
    · exact inv.underway h' r name' ((Function.update_of_ne same _ _).symm.trans held')
  · intro c' rename delivered
    by_cases same : c' = compositionOf s a
    · subst same
      rw [Function.update_self] at delivered
      obtain rfl := Option.some.inj delivered
      exact ⟨below, known, made, fun starting => absurd (phase.symm.trans starting) nofun⟩
    · rw [Function.update_of_ne same] at delivered
      exact inv.delivered c' rename delivered
  · intro a' rename active' delivered
    have active' : s.active = some a' := active'
    rw [active] at active'
    obtain rfl := Option.some.inj active'
    have delivered : Function.update renames (compositionOf s a) (some ⟨h, a, some name⟩)
        (compositionOf s a) = some rename := delivered
    rw [Function.update_self] at delivered
    obtain rfl := Option.some.inj delivered
    exact .inl ⟨name, rfl, Function.update_self _ _ _⟩

/-- Something quiet goes on to something quiet. -/
theorem Inv.setQuiet (inv : Inv H s lastEvent renames) (known : h < s.nextHandler)
    (quiet : Quiet (s.handlers h)) (quiet' : Quiet state) :
    Inv H (s.setHandler h state) lastEvent renames := by
  refine inv.setHandler known quiet' fun a rename active last same r name held => ?_
  rw [held] at quiet
  exact quiet

theorem Inv.beginStart (inv : Inv H s lastEvent renames) (known : h < s.nextHandler)
    (quiet : Quiet (s.handlers h)) (input : StartInput) :
    Inv H (s.beginStart H h input) lastEvent renames := by
  have refused : ∀ identities generation,
      Inv H ({ s with identities, generation }.setHandler h .rejected) lastEvent renames :=
    fun identities generation =>
      (inv.others identities generation s.stopping).setQuiet known quiet (by trivial)
  unfold Lifecycle.beginStart
  split
  · exact inv.setQuiet known quiet (by trivial)
  dsimp only
  split
  · exact refused _ _
  split
  · exact refused _ _
  split
  · obtain ⟨identities, eq⟩ := identitiesShutdown_eq
      { s with
        identities := some ⟨input.sessionId, input.runtimeId⟩
        generation := s.generation + 1 } input.runtimeId
    rw [eq]
    exact refused _ _
  · refine (inv.others (some ⟨input.sessionId, input.runtimeId⟩) (s.generation + 1)
      s.stopping).allocate known quiet _ ?_
    rfl

theorem Inv.awaitStopping (inv : Inv H s lastEvent renames) (known : h < s.nextHandler)
    (quiet : Quiet (s.handlers h)) (input : StartInput) :
    Inv H (s.awaitStopping H h input) lastEvent renames := by
  unfold Lifecycle.awaitStopping
  split
  · exact inv.setQuiet known quiet (by trivial)
  · exact inv.beginStart known quiet input

theorem Inv.onSessionStart (inv : Inv H s lastEvent renames) (input : StartInput) :
    Inv H (s.onSessionStart H input) (some (.start s.nextHandler)) renames := by
  have born := inv.birth
  have idle : s.handlers s.nextHandler = .finished := inv.unborn _ le_rfl
  have fresh : ∀ h c, some (LastEvent.start s.nextHandler) = some (.start h) →
      s.handlers h ≠ .started c := by
    intro h c same held
    obtain rfl := LastEvent.start.inj (Option.some.inj same)
    rw [idle] at held
    cases held
  unfold Lifecycle.onSessionStart
  dsimp only
  split
  · rename_i a active
    have stopped := born.stop active fresh
    refine stopped.setQuiet ?_ ?_ (by trivial)
    · unfold Lifecycle.stop
      rw [if_pos active]
      exact Nat.lt_succ_self _
    · unfold Lifecycle.stop
      rw [if_pos active]
      change Quiet (s.handlers s.nextHandler)
      rw [idle]
      trivial
  · rename_i active
    refine Inv.awaitStopping (born.event (fun _ => active) fresh) (Nat.lt_succ_self _) ?_ input
    change Quiet (s.handlers s.nextHandler)
    rw [idle]
    trivial

theorem Inv.onSessionShutdown (inv : Inv H s lastEvent renames) :
    Inv H s.onSessionShutdown (some .shutdown) renames := by
  have born := inv.birth
  have idle : Quiet (s.handlers s.nextHandler) := by
    rw [inv.unborn _ le_rfl]
    trivial
  unfold Lifecycle.onSessionShutdown
  dsimp only
  split
  · rename_i a active
    have stopped : Inv H _ (some .shutdown) renames := born.stop active nofun
    refine stopped.setQuiet ?_ ?_ (by trivial)
    · unfold Lifecycle.stop
      rw [if_pos active]
      exact Nat.lt_succ_self _
    · unfold Lifecycle.stop
      rw [if_pos active]
      exact idle
  · rename_i active
    have shut : Inv H _ (some .shutdown) renames := born.event (fun _ => active) nofun
    split
    · exact shut.setQuiet (Nat.lt_succ_self _) idle (by trivial)
    · exact shut.setQuiet (Nat.lt_succ_self _) idle (by trivial)

/-- A handler that is not finished has been made. -/
theorem Inv.made (inv : Inv H s lastEvent renames) (going : s.handlers h ≠ .finished) :
    h < s.nextHandler := by
  by_contra unborn
  exact going (inv.unborn h (Nat.le_of_not_lt unborn))

theorem Inv.resume (inv : Inv H s lastEvent renames) (h : Nat) (input : StartInput) :
    Inv H (s.resume H h input) lastEvent renames := by
  unfold Lifecycle.resume
  cases state : s.handlers h with
  | awaitingStop cleanup =>
    have known := inv.made (h := h) (by rw [state]; exact nofun)
    have quiet : Quiet (s.handlers h) := by rw [state]; trivial
    dsimp only
    split
    · exact inv
    · exact inv.setQuiet known quiet (by trivial)
    · exact inv.awaitStopping known quiet input
  | awaitingStopping cleanup =>
    have known := inv.made (h := h) (by rw [state]; exact nofun)
    have quiet : Quiet (s.handlers h) := by rw [state]; trivial
    dsimp only
    split
    · exact inv
    · exact inv.setQuiet known quiet (by trivial)
    · exact inv.beginStart known quiet input
  | shuttingDown cleanup catches =>
    have known := inv.made (h := h) (by rw [state]; exact nofun)
    have quiet : Quiet (s.handlers h) := by rw [state]; trivial
    dsimp only
    split
    · exact inv
    · split
      · exact inv.setQuiet known quiet (by trivial)
      · exact inv.setQuiet known quiet (by trivial)
  | starting composition => exact inv
  | updatingName runtime name => exact inv
  | started composition => exact inv
  | finished => exact inv
  | rejected => exact inv

theorem Inv.startSettles (inv : Inv H s lastEvent renames) (h : Nat) (ok : Bool)
    (fence : ok = true → ∀ c, s.handlers h = .starting c → s.active = none ∧
      lastEvent ≠ some .shutdown ∧ ∃ name, createInitialPeerName H.toUnicode
        (s.compositions c).identity.runtimeId (some (s.compositions c).config.name) = .ok name) :
    Inv H (s.startSettles H h ok) lastEvent renames := by
  unfold Lifecycle.startSettles
  cases state : s.handlers h with
  | starting c =>
    have known := inv.made (h := h) (by rw [state]; exact nofun)
    dsimp only
    split
    · obtain ⟨identities, eq⟩ := identitiesShutdown_eq (s.setPhase c .failed)
        (s.compositions c).identity.runtimeId
      rw [eq]
      exact (inv.startFailed state known).others identities s.generation s.stopping
    · rename_i up
      obtain ⟨idle, last, name, named⟩ := fence (by simpa using up) c state
      rw [named]
      exact inv.startSucceeded state known idle last _ rfl
  | awaitingStop cleanup => exact inv
  | awaitingStopping cleanup => exact inv
  | shuttingDown cleanup catches => exact inv
  | updatingName runtime name => exact inv
  | started composition => exact inv
  | finished => exact inv
  | rejected => exact inv

theorem Inv.renameSettles (inv : Inv H s lastEvent renames) (h : Nat) (ok : Bool)
    (fence : ∀ runtime name a rename, s.handlers h = .updatingName runtime name → s.active = some a →
      renames (compositionOf s a) = some rename → rename.handler = h →
        ok = true ∧ a = runtime ∧ ∃ config published,
          renamedConfig H (s.runtimes runtime) (some name) = .ok config ∧
            createInitialPeerName H.toUnicode (s.runtimes runtime).identity.runtimeId
              (some name) = .ok published) :
    Inv H (s.renameSettles H h ok) lastEvent renames := by
  unfold Lifecycle.renameSettles
  cases state : s.handlers h with
  | updatingName runtime name =>
    have known := inv.made (h := h) (by rw [state]; exact nofun)
    dsimp only
    split
    · rename_i failed
      refine inv.setHandler known (by trivial) fun a rename active last same => ?_
      obtain ⟨up, -⟩ := fence runtime name a rename state active last same
      rw [up] at failed
      cases failed
    split
    · rename_i replaced
      refine inv.setHandler known (by trivial) fun a rename active last same => ?_
      obtain ⟨-, rfl, -⟩ := fence runtime name a rename state active last same
      exact absurd active replaced
    rename_i current
    have active := not_not.mp current
    split
    · rename_i config published resolved named
      exact inv.renameApplied state known active _ rfl rfl resolved named
    · rename_i failed
      refine inv.setHandler known (by trivial) fun a rename active' last same => ?_
      obtain ⟨-, -, config, published, resolved, named⟩ :=
        fence runtime name a rename state active' last same
      exact absurd named (failed config published resolved)
  | starting c => exact inv
  | awaitingStop cleanup => exact inv
  | awaitingStopping cleanup => exact inv
  | shuttingDown cleanup catches => exact inv
  | started composition => exact inv
  | finished => exact inv
  | rejected => exact inv

theorem Inv.onSessionInfoChanged {w : Session} {name : Option JsString}
    (inv : Inv H w.lifecycle w.lastEvent w.lastRename)
    (fence : ∀ a, w.lifecycle.active = some a → takesName (w.lifecycle.runtimes a) = true →
      name.isSome) :
    Inv H (w.lifecycle.onSessionInfoChanged name) w.lastEvent (w.delivered name) := by
  have born := inv.birth
  have idle : w.lifecycle.handlers w.lifecycle.nextHandler = .finished := inv.unborn _ le_rfl
  have quiet : Quiet (w.lifecycle.handlers w.lifecycle.nextHandler) := by
    rw [idle]
    trivial
  have ignored : w.delivered name = w.lastRename →
      Inv H ({ w.lifecycle with nextHandler := w.lifecycle.nextHandler + 1 }.setHandler
        w.lifecycle.nextHandler .finished) w.lastEvent (w.delivered name) := by
    intro same
    rw [same]
    exact born.setQuiet (Nat.lt_succ_self _) quiet (by trivial)
  unfold Lifecycle.onSessionInfoChanged
  dsimp only
  split
  · rename_i a name active
    split
    · rename_i takes
      have delivered : w.delivered (some name) = Function.update w.lastRename
          (compositionOf w.lifecycle a) (some ⟨w.lifecycle.nextHandler, a, some name⟩) := by
        simp only [Session.delivered, active, takes, ↓reduceIte]
      rw [delivered]
      exact born.renameStarts (Nat.lt_succ_self _) idle active name
    · rename_i takes
      exact ignored (by simp only [Session.delivered, active, takes, Bool.false_eq_true, ↓reduceIte])
  · rename_i other
    apply ignored
    unfold Session.delivered
    cases active : w.lifecycle.active with
    | none => rfl
    | some a =>
      dsimp only
      split
      · rename_i takes
        obtain ⟨name, rfl⟩ := Option.isSome_iff_exists.mp (fence a active takes)
        exact absurd rfl (other a name active)
      · rfl

/-- One step that keeps the fence. -/
theorem Inv.step {w : Session} (inv : Inv H w.lifecycle w.lastEvent w.lastRename)
    {e : LifecycleEvent} (fence : w.KeepsFence H e) :
    Inv H (w.step H e).lifecycle (w.step H e).lastEvent (w.step H e).lastRename := by
  cases e with
  | sessionStart input => exact inv.onSessionStart input
  | sessionInfoChanged name => exact inv.onSessionInfoChanged fence
  | sessionShutdown => exact inv.onSessionShutdown
  | resume handler input => exact inv.resume handler input
  | cleanupSettles cleanup ok =>
    unfold Session.step
    dsimp only
    split
    · rename_i waiting
      exact inv.cleanupSettles waiting.1 waiting.2 ok
    · exact inv
  | startSettles handler ok =>
    refine inv.startSettles handler ok ?_
    rintro rfl
    exact fence
  | renameSettles handler ok => exact inv.renameSettles handler ok fence

/-- What the invariant says once nothing is awaited. -/
theorem Inv.fenced {w : Session} (inv : Inv H w.lifecycle w.lastEvent w.lastRename) :
    Fenced H w := by
  have active : Quiescent w → ∀ c, Up w.lifecycle c →
      ∃ a, w.lifecycle.active = some a ∧ compositionOf w.lifecycle a = c := by
    rintro ⟨-, settled⟩ c ⟨made, started | stopping⟩
    · exact inv.started c made started
    · obtain ⟨k, made', waiting, -⟩ := inv.stopping c made stopping
      exact absurd waiting (settled k made')
  refine ⟨?_, ?_, ?_, active, ?_⟩
  · intro quiescent c c' up up'
    obtain ⟨a, held, rfl⟩ := active quiescent c up
    obtain ⟨a', held', rfl⟩ := active quiescent c' up'
    rw [held] at held'
    rw [Option.some.inj held']
  · intro quiescent last c up
    obtain ⟨a, held, -⟩ := active quiescent c up
    rw [inv.afterShutdown last] at held
    cases held
  · intro quiescent h c last started c'
    obtain ⟨a, held, rfl⟩ := inv.afterStart h c last started
    obtain ⟨-, made, phase⟩ := inv.active a held
    constructor
    · intro up
      obtain ⟨a', held', rfl⟩ := active quiescent c' up
      rw [held] at held'
      rw [Option.some.inj held']
    · rintro rfl
      exact ⟨made, .inl phase⟩
  · intro none a rename held last
    obtain ⟨name, -, pending⟩ | ⟨shows, -⟩ := inv.renamed a rename held last
    · exact absurd pending (none _ _ _)
    · exact shows

/-- A lifecycle as it is made. -/
theorem inv_init {w : Session} (start : (lifecycleSystem H).init w) :
    Inv H w.lifecycle w.lastEvent w.lastRename := by
  obtain ⟨active, -, -, -, compositions, cleanups, -, handlers, -, renames⟩ := start
  refine
    { active := fun a held => absurd (active.symm.trans held) nofun
      started := fun c made => absurd (compositions ▸ made) (Nat.not_lt_zero _)
      stopping := fun c made => absurd (compositions ▸ made) (Nat.not_lt_zero _)
      cleanup := fun k made => absurd (cleanups ▸ made) (Nat.not_lt_zero _)
      cleanupOnce := fun k made => absurd (cleanups ▸ made) (Nat.not_lt_zero _)
      starting := fun h c held => absurd ((handlers h).symm.trans held) nofun
      startingOnce := fun h h' c held => absurd ((handlers h).symm.trans held) nofun
      unborn := fun h _ => handlers h
      underway := fun h r name held => absurd ((handlers h).symm.trans held) nofun
      afterShutdown := fun _ => active
      afterStart := fun h c _ held => absurd ((handlers h).symm.trans held) nofun
      delivered := fun c rename last => absurd ((renames c).symm.trans last) nofun
      renamed := fun a rename held => absurd (active.symm.trans held) nofun }

/-- In runs whose steps all keep the fence, at quiescence at most one composition
is up and it is the right one, and renames are never lost. -/
theorem fenced_of_keepsFence {w : Session}
    (reached : ((lifecycleSystem H).restrict fun w e => w.KeepsFence H e).Reachable w) :
    Fenced H w := by
  have inv : Inv H w.lifecycle w.lastEvent w.lastRename := by
    refine System.Reachable.invariant (I := fun w => Inv H w.lifecycle w.lastEvent w.lastRename)
      ?_ ?_ reached
    · exact fun w start => inv_init start
    · rintro w e _ inv ⟨fence, rfl⟩
      exact inv.step fence
  exact inv.fenced

end Steps

/-! Concrete runs. -/

/-- A host that leaves labels as they are. -/
def sampleHost : LifecycleHost where
  nfkcLower value := value
  hasControl _ := false
  isLetterOrNumber _ := true
  runtimeNameSuffix _ := "0000"
  resolveRoom _ _ := some "room"

def sampleInput (runtimeId : JsString) : StartInput where
  sessionId := "session"
  sessionName := some "planner"
  flags := { p2pName := .undefined, p2pProject := .undefined }
  cwd := "/"
  runtimeId
  endpoint := runtimeId
  constructs := true

/-- A lifecycle as it is made. -/
def made : Session where
  lifecycle :=
    let config : P2PConfig :=
      { name := "", nameSource := .fallback, nameOverride := none, projectOverride := none }
    { identities := none
      active := none
      generation := 0
      stopping := none
      runtimes := fun _ =>
        { identity := ⟨"", ""⟩, config, room := "", endpoint := "", composition := 0
          publishedName := { runtimeId := "", base := "", suffix := "", networkName := "" } }
      nextRuntime := 0
      compositions := fun _ =>
        { identity := ⟨"", ""⟩, room := "", config, displayName := none, generation := 0
          endpoint := "", phase := .failed }
      nextComposition := 0
      cleanups := fun _ => { runtime := 0, settled := none }
      nextCleanup := 0
      handlers := fun _ => .finished
      nextHandler := 0 }
  lastEvent := none
  lastRename _ := none

theorem made_init (H : LifecycleHost) : (lifecycleSystem H).init made :=
  ⟨rfl, rfl, rfl, rfl, rfl, rfl, rfl, fun _ => rfl, rfl, fun _ => rfl⟩

/-- One start, up and renamed. -/
def renameEvents : List LifecycleEvent :=
  [.sessionStart (sampleInput "a"), .startSettles 0 true, .sessionInfoChanged (some "writer"),
    .renameSettles 1 true]

theorem fenced_renamed :
    ((renameEvents.foldl (Session.step sampleHost) made).lifecycle.runtimes 1).publishedName.networkName =
        "writer-0000" ∧
      Fenced sampleHost (renameEvents.foldl (Session.step sampleHost) made) := by
  have start : ((lifecycleSystem sampleHost).restrict
      fun w e => w.KeepsFence sampleHost e).Reachable made :=
    .init (made_init sampleHost)
  have keeps : System.AllMeet (fun w e => w.KeepsFence sampleHost e) (Session.step sampleHost) made
      renameEvents := by
    refine ⟨trivial, fun c held => ?_, fun _ _ _ => rfl, ?_, trivial⟩
    · have handler : (made.step sampleHost (.sessionStart (sampleInput "a"))).lifecycle.handlers 0 =
          .starting 0 := by decide +kernel
      obtain rfl := Handler.starting.inj (handler.symm.trans held)
      exact ⟨rfl, nofun, _, rfl⟩
    · intro runtime name a rename held active last same
      obtain ⟨rfl, rfl⟩ : 0 = runtime ∧ "writer" = name := Handler.updatingName.inj held
      obtain rfl : 0 = a := Option.some.inj active
      exact ⟨rfl, rfl, _, _, rfl, rfl⟩
  exact ⟨by decide +kernel, fenced_of_keepsFence (start.run_restrict (fun _ _ => rfl) keeps)⟩

/-- The second of two overlapping starts comes up over the first. -/
def overlapping : List LifecycleEvent :=
  [.sessionStart (sampleInput "a"), .sessionStart (sampleInput "b"), .startSettles 0 true,
    .startSettles 1 true]

theorem overlapping_quiescent : Quiescent (overlapping.foldl (Session.step sampleHost) made) := by
  constructor
  · intro h
    match h with
    | 0 => decide +kernel
    | 1 => decide +kernel
    | h + 2 => rfl
  · have none : (overlapping.foldl (Session.step sampleHost) made).lifecycle.nextCleanup = 0 := by
      decide +kernel
    exact fun k below => absurd (none ▸ below) (Nat.not_lt_zero k)

theorem overlappingStarts_leak :
    ¬∀ w, (lifecycleSystem sampleHost).Reachable w → Fenced sampleHost w := by
  intro always
  have fenced := always _ (System.Reachable.run (fun _ _ => rfl) (.init (made_init _)) overlapping)
  have first : Up (overlapping.foldl (Session.step sampleHost) made).lifecycle 0 :=
    ⟨by decide +kernel, .inl (by decide +kernel)⟩
  have second : Up (overlapping.foldl (Session.step sampleHost) made).lifecycle 1 :=
    ⟨by decide +kernel, .inl (by decide +kernel)⟩
  exact absurd (fenced.single overlapping_quiescent 0 1 first second) nofun

end PiToPi.LifecycleProofs
