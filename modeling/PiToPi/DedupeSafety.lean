import PiToPi.DedupeProofs
import PiToPi.Transition

/-!
The dedupe store over every run, with callers that share memory with it.

Values are objects in a memory callers can write to. A caller names an object
by its place in the list of those it made, passed or received, so that it can
reach no other; the store's own copies are never on that list.
-/
namespace PiToPi.DedupeSafety
open Transition DedupeProofs

/-- An execution whose producer is running. -/
structure Execution (ω : Type) where
  operation : ω
  reservation : DedupeReservation
  taskReference : Option Nat

/-- The store and its callers. -/
structure World (ω : Type) where
  store : Store
  /-- The objects callers hold. -/
  held : List Nat
  running : List (Execution ω)

/-- What may happen next; objects are named by their place in `held`. -/
inductive DedupeCall (ω : Type) where
  | make (value : Json)
  | mutate (object : Nat) (value : Json)
  | inspect (operation : ω)
  | getRecord (operation : ω)
  | reserve (operation : ω)
  | commitOperation (operation : ω) (result taskReference : Option Nat)
  | commitReservation (reservation : DedupeReservation) (result taskReference : Option Nat)
  | admitOperation (operation : ω) (outcome : Option (Option Nat × Option Nat))
  | releaseOperation (operation : ω)
  | releaseReservation (reservation : DedupeReservation)
  | execute (operation : ω) (taskReference : Option Nat)
  | produced (execution : Nat) (result : Option Nat)
  | producerThrew (execution : Nat)
  | prune
  | timer (record : Nat)

section Calls

variable {ω : Type} (R : Requests ω) (retentionGraceMs : ℚ)

/-- The object a caller names. -/
def World.object (w : World ω) (name : Option Nat) : Option Nat := name.bind (w.held[·]?)

/-- The world after a call of the store, its answer in the callers' hands. -/
def World.after (w : World ω) (store : Store) (answer : Answer) : World ω :=
  { w with store, held := w.held ++ answer.refs }

/-- One call. -/
def World.perform (w : World ω) : DedupeCall ω → Answer × World ω
  | .make value =>
    let memory := w.store.memory
    (.other, { w with
      store := { w.store with memory :=
        { cells := Function.update memory.cells memory.next value, next := memory.next + 1 } }
      held := w.held ++ [memory.next] })
  | .mutate object value =>
    match w.held[object]? with
    | none => (.other, w)
    | some ref => (.other, { w with store := { w.store with memory :=
        { w.store.memory with cells := Function.update w.store.memory.cells ref value } } })
  | .inspect operation =>
    let (result, store) := w.store.inspect R sharedValues retentionGraceMs operation
    (.decided result, w.after store (.decided result))
  | .getRecord operation =>
    let (result, store) := w.store.getRecord R sharedValues retentionGraceMs operation
    (.found result, w.after store (.found result))
  | .reserve operation =>
    let (result, store) := w.store.reserve R sharedValues retentionGraceMs operation
    (.decided result, w.after store (.decided result))
  | .commitOperation operation result taskReference =>
    let (result, store) := w.store.commitOperation R sharedValues retentionGraceMs operation
      (w.object result) (w.object taskReference)
    (.decided result, w.after store (.decided result))
  | .commitReservation reservation result taskReference =>
    let (result, store) := w.store.commitReservation sharedValues reservation (w.object result)
      (w.object taskReference)
    (.decided result, w.after store (.decided result))
  | .admitOperation operation outcome =>
    let (result, store) := w.store.admitOperation R sharedValues retentionGraceMs operation
      (outcome.map fun (result, taskReference) => (w.object result, w.object taskReference))
    (.decided result, w.after store (.decided result))
  | .releaseOperation operation =>
    (.other, w.after (w.store.releaseOperation R retentionGraceMs operation).2 .other)
  | .releaseReservation reservation =>
    (.other, w.after (w.store.releaseReservation reservation).2 .other)
  | .execute operation taskReference =>
    match w.store.execute R sharedValues retentionGraceMs operation with
    | (.ok (.inr reservation), store) =>
      (.producing reservation, { w with
        store
        running := ⟨operation, reservation, w.object taskReference⟩ :: w.running })
    | (.ok (.inl decision), store) => (.decided (.ok decision), w.after store (.decided (.ok decision)))
    | (.error error, store) => (.decided (.error error), w.after store .other)
  | .produced execution result =>
    match w.running[execution]? with
    | none => (.other, w)
    | some running =>
      let (result, store) := w.store.produced R sharedValues retentionGraceMs running.operation
        running.reservation (w.object result) running.taskReference
      (.decided result, { w.after store (.decided result) with running := w.running.eraseIdx execution })
  | .producerThrew execution =>
    match w.running[execution]? with
    | none => (.other, w)
    | some running =>
      let (_, store) := w.store.releaseReservation running.reservation
      (.other, { w with store, running := w.running.eraseIdx execution })
  | .prune => (.other, w.after w.store.prune .other)
  | .timer record => (.other, w.after (w.store.timer record) .other)

/-- The outcome a caller hands in is busy. -/
def World.busyOutcome (w : World ω) : DedupeCall ω → Bool
  | .commitOperation _ result _ | .commitReservation _ result _ | .admitOperation _ (some (result, _))
  | .produced _ result => isBusyResult sharedValues w.store.memory (w.object result)
  | _ => false

/-- How many readings of the clock a call makes before the one it prunes at. -/
def DedupeCall.prunedAt : DedupeCall ω → Nat
  | .commitOperation .. | .admitOperation _ (some _) => 1
  | _ => 0

/-- The operation's normal form as a call reads it, right after pruning. -/
def World.normalForm (w : World ω) (call : DedupeCall ω) (operation : ω) :
    Except DedupeError NormalizedOperation :=
  normalizedOperation R retentionGraceMs operation (w.store.now (w.store.reading + call.prunedAt + 1))

/-- The call is about `key`, with content `fingerprint`. -/
def World.Carries (w : World ω) (call : DedupeCall ω) (key fingerprint : JsString) : Prop :=
  match call with
  | .inspect operation | .getRecord operation | .reserve operation | .commitOperation operation _ _
  | .admitOperation operation _ | .releaseOperation operation | .execute operation _ =>
    ∃ normalized, w.normalForm R retentionGraceMs call operation = .ok normalized ∧
      normalized.key = key ∧ normalized.fingerprint = fingerprint
  | .commitReservation reservation _ _ | .releaseReservation reservation =>
    reservation.key = key ∧ reservation.fingerprint = fingerprint
  | .produced execution _ | .producerThrew execution =>
    ∃ running, w.running[execution]? = some running ∧ running.reservation.key = key ∧
      running.reservation.fingerprint = fingerprint
  | _ => False

/-- A reservation of `key` is released, committed with a busy outcome, or its
producer threw. -/
def World.Frees (w : World ω) (call : DedupeCall ω) (key fingerprint : JsString) : Prop :=
  w.Carries R retentionGraceMs call key fingerprint ∧
    match call with
    | .releaseOperation _ | .releaseReservation _ | .producerThrew _ => True
    | .commitOperation .. | .commitReservation .. | .produced .. => w.busyOutcome call = true
    | _ => False

/-- An outcome other than busy is committed for `key`. -/
def World.Commits (w : World ω) (call : DedupeCall ω) (key fingerprint : JsString) : Prop :=
  w.Carries R retentionGraceMs call key fingerprint ∧
    match call with
    | .commitOperation .. | .commitReservation .. | .produced .. | .admitOperation _ (some _) =>
      w.busyOutcome call = false
    | _ => False

/-- The store may take `key` for a new one: a record under it is past its
retention at the reading the call prunes at. -/
def World.Free (w : World ω) (call : DedupeCall ω) (key : JsString) : Prop :=
  ∀ r, w.store.records.get? key = some r →
    (w.store.heap r).retainedUntil ≤ w.store.now (w.store.reading + call.prunedAt)

/-- The call makes a record under a key that is free, and frees none. -/
def World.Makes (w : World ω) (call : DedupeCall ω) (key : JsString) : Prop :=
  w.Free call key ∧ ∀ key' fingerprint, ¬w.Frees R retentionGraceMs call key' fingerprint

end Calls

/-- The store shares no object of a record with its callers. -/
structure Sound (w : World ω) : Prop where
  wellFormed : WellFormed w.store
  opened : w.store.closed = false
  held : ∀ ref ∈ w.held, ref < w.store.memory.next
  isolated : ∀ r < w.store.nextRecord, ∀ ref ∈ storedRefs (w.store.heap r), ref ∉ w.held

/-- What a call does to the store, and to what its records hold. -/
structure Progress (makes : JsString → Prop) (frees commits : JsString → JsString → Prop)
    (w w' : World ω) : Prop where
  sound : Sound w'
  now : w'.store.now = w.store.now
  reading : w.store.reading ≤ w'.store.reading
  allocated : w.store.nextRecord ≤ w'.store.nextRecord
  named : ∀ r < w.store.nextRecord, (w'.store.heap r).normalized = (w.store.heap r).normalized
  created : ∀ r, w.store.nextRecord ≤ r → r < w'.store.nextRecord →
    makes (w'.store.heap r).key ∧ Created frees w.store w'.store r
  fates : ∀ key r, w.store.records.get? key = some r → Fate frees commits w.store w'.store key r
  outcomes : ∀ r < w.store.nextRecord, ∀ ref ∈ storedRefs (w.store.heap r),
    w'.store.memory.cells ref = w.store.memory.cells ref

section Steps

variable {ω : Type} {R : Requests ω} {retentionGraceMs : ℚ} {makes : JsString → Prop}
  {frees commits : JsString → JsString → Prop}

/-- An operation that answers its caller. -/
theorem Sound.progress {w w' : World ω} (sound : Sound w) {answer : List Nat}
    (effect : Effect makes frees commits answer w.store w'.store) (held : w'.held = w.held ++ answer) :
    Progress makes frees commits w w' where
  sound :=
    { wellFormed := effect.wellFormed
      opened := effect.closed.trans sound.opened
      held := by
        intro ref member
        rw [held] at member
        obtain member | member := List.mem_append.mp member
        · exact (sound.held ref member).trans_le effect.memory
        · exact (effect.fresh ref member).2
      isolated := by
        intro r known ref member
        rw [held, List.mem_append, not_or]
        obtain ⟨known, member⟩ | ⟨new, unanswered⟩ := effect.isolated r known ref member
        · refine ⟨sound.isolated r known ref member, fun answered => ?_⟩
          have below := sound.wellFormed.refs r known ref member
          exact absurd below (Nat.not_lt.mpr (effect.fresh ref answered).1)
        · exact ⟨fun member => absurd (sound.held ref member) (Nat.not_lt.mpr new), unanswered⟩ }
  now := effect.now
  reading := effect.reading
  allocated := effect.allocated
  named := effect.named
  created := effect.created
  fates := effect.fates
  outcomes r known ref member := effect.cells ref (sound.wellFormed.refs r known ref member)

theorem Sound.object {w : World ω} (sound : Sound w) (name : Option Nat) :
    ∀ ref ∈ w.object name, ref < w.store.memory.next := by
  intro ref named
  obtain ⟨place, -, found⟩ := Option.bind_eq_some_iff.mp named
  exact sound.held ref (List.mem_of_getElem? found)

/-- A write to an object a caller holds. -/
theorem Sound.mutate {w : World ω} (sound : Sound w) (held : ref ∈ w.held) (value : Json) :
    Progress makes frees commits w { w with store := { w.store with memory :=
      { w.store.memory with cells := Function.update w.store.memory.cells ref value } } } where
  sound := ⟨⟨sound.wellFormed.stored, sound.wellFormed.clock, sound.wellFormed.refs⟩, sound.opened,
    sound.held, sound.isolated⟩
  now := rfl
  reading := le_rfl
  allocated := le_rfl
  named _ _ := rfl
  created r new below := absurd below (Nat.not_lt.mpr new)
  fates key r stored := .kept stored (.refl _)
  outcomes r known ref' member := by
    refine Function.update_of_ne ?_ _ _
    rintro rfl
    exact sound.isolated r known ref' member held

/-- What settling an outcome may do, by whether the outcome is busy. -/
theorem settles_of {w : World ω} (call : DedupeCall ω)
    (outcome : w.busyOutcome call = isBusyResult sharedValues w.store.memory result)
    (freed : w.busyOutcome call = true → frees key fingerprint)
    (committed : w.busyOutcome call = false → commits key fingerprint) :
    Settles frees commits w.store result key fingerprint := by
  unfold Settles
  rw [← outcome]
  split
  · rename_i busy
    exact freed busy
  · rename_i notBusy
    exact committed (Bool.not_eq_true _ ▸ notBusy)

/-- One call. -/
theorem Sound.perform (R : Requests ω) (retentionGraceMs : ℚ) {w : World ω} (sound : Sound w)
    (call : DedupeCall ω) :
    Progress (w.Makes R retentionGraceMs call) (w.Frees R retentionGraceMs call)
      (w.Commits R retentionGraceMs call) w (w.perform R retentionGraceMs call).2 := by
  have well := sound.wellFormed
  have once : ∀ key, w.store.prune.records.get? key = none → call.prunedAt = 0 → w.Free call key := by
    intro key absent place r stored
    rw [place]
    exact free_of_prune well absent stored
  have twice : ∀ key, w.store.prune.prune.records.get? key = none → call.prunedAt = 1 →
      w.Free call key := by
    intro key absent place r stored
    rw [place]
    exact free_of_prune_prune well absent stored
  cases call with
  | make value =>
    have made : Clones [w.store.memory.next] w.store.memory
        { cells := Function.update w.store.memory.cells w.store.memory.next value
          next := w.store.memory.next + 1 } := by
      refine ⟨Nat.le_succ _, fun ref known => Function.update_of_ne (Nat.ne_of_lt known) _ _, ?_⟩
      intro ref member
      obtain rfl := List.mem_singleton.mp member
      exact ⟨le_rfl, Nat.lt_succ_self _⟩
    exact sound.progress ((Effect.refl well).clones made) rfl
  | mutate object value =>
    unfold World.perform
    dsimp only
    cases found : w.held[object]? with
    | none => exact sound.progress (.refl well) (List.append_nil _).symm
    | some ref => exact sound.mutate (List.mem_of_getElem? found) value
  | inspect operation => exact sound.progress (effect_inspect well operation) rfl
  | getRecord operation => exact sound.progress (effect_getRecord well operation) rfl
  | reserve operation =>
    exact sound.progress (effect_reserve well operation fun key absent =>
      ⟨once key absent rfl, fun _ _ frees => frees.2⟩) rfl
  | commitOperation operation result taskReference =>
    refine sound.progress (effect_commitOperation well operation _ _ (sound.object result) ?_
      fun notBusy key absent => ⟨twice key absent rfl, fun _ _ frees => ?_⟩) rfl
    swap
    · exact absurd (frees.2.symm.trans notBusy) nofun
    intro normalized form
    have carries : w.Carries R retentionGraceMs (.commitOperation operation result taskReference)
        normalized.key normalized.fingerprint := ⟨normalized, form, rfl, rfl⟩
    exact settles_of (.commitOperation operation result taskReference) rfl
      (fun busy => ⟨carries, busy⟩) fun notBusy => ⟨carries, notBusy⟩
  | commitReservation reservation result taskReference =>
    refine sound.progress (effect_commitReservation well reservation _ _ (sound.object result) ?_) rfl
    exact settles_of (.commitReservation reservation result taskReference) rfl
      (fun busy => ⟨⟨rfl, rfl⟩, busy⟩) fun notBusy => ⟨⟨rfl, rfl⟩, notBusy⟩
  | admitOperation operation outcome =>
    refine sound.progress (effect_admitOperation well operation _ ?_ ?_ ?_) rfl
    · intro result taskReference handed
      obtain ⟨⟨result', taskReference'⟩, -, same⟩ := Option.map_eq_some_iff.mp handed
      cases same
      exact sound.object result'
    · intro result taskReference handed notBusy normalized form
      obtain ⟨⟨result', taskReference'⟩, rfl, same⟩ := Option.map_eq_some_iff.mp handed
      cases same
      exact ⟨⟨normalized, form, rfl, rfl⟩, notBusy⟩
    · intro key free
      obtain ⟨absent, immediate⟩ | ⟨absent, settled⟩ := free
      · obtain rfl := Option.map_eq_none_iff.mp immediate
        exact ⟨once key absent rfl, fun _ _ frees => frees.2⟩
      · obtain ⟨_, rfl⟩ := Option.isSome_iff_exists.mp (Option.isSome_map ▸ settled)
        exact ⟨twice key absent rfl, fun _ _ frees => frees.2⟩
  | releaseOperation operation =>
    exact sound.progress (effect_releaseOperation well operation fun normalized form =>
      ⟨⟨normalized, form, rfl, rfl⟩, trivial⟩) rfl
  | releaseReservation reservation =>
    exact sound.progress (effect_releaseReservation well reservation ⟨⟨rfl, rfl⟩, trivial⟩) rfl
  | execute operation taskReference =>
    have effect : Effect (w.Makes R retentionGraceMs (.execute operation taskReference))
        (w.Frees R retentionGraceMs (.execute operation taskReference))
        (w.Commits R retentionGraceMs (.execute operation taskReference))
        (executeRefs (w.store.execute R sharedValues retentionGraceMs operation).1) w.store
        (w.store.execute R sharedValues retentionGraceMs operation).2 :=
      effect_execute well operation fun key absent =>
        ⟨once key absent rfl, fun _ _ frees => frees.2⟩
    unfold World.perform
    dsimp only
    cases executed : w.store.execute R sharedValues retentionGraceMs operation with
    | mk answer store =>
      rw [executed] at effect
      cases answer with
      | error error => exact sound.progress effect rfl
      | ok answer =>
        cases answer with
        | inl decision => exact sound.progress effect rfl
        | inr reservation => exact sound.progress effect (List.append_nil _).symm
  | produced execution result =>
    unfold World.perform
    dsimp only
    cases found : w.running[execution]? with
    | none => exact sound.progress (.refl well) (List.append_nil _).symm
    | some running =>
      refine sound.progress (effect_produced well sound.opened running.operation running.reservation
        _ _ (sound.object result) ?_) rfl
      have carries : w.Carries R retentionGraceMs (.produced execution result)
          running.reservation.key running.reservation.fingerprint := ⟨running, found, rfl, rfl⟩
      exact settles_of (.produced execution result) rfl
        (fun busy => ⟨carries, busy⟩) fun notBusy => ⟨carries, notBusy⟩
  | producerThrew execution =>
    unfold World.perform
    dsimp only
    cases found : w.running[execution]? with
    | none => exact sound.progress (.refl well) (List.append_nil _).symm
    | some running =>
      exact sound.progress (effect_releaseReservation well running.reservation
        ⟨⟨running, found, rfl, rfl⟩, trivial⟩) (List.append_nil _).symm
  | prune => exact sound.progress (effect_prune well) rfl
  | timer record => exact sound.progress (effect_timerCallback well record) rfl

end Steps

/-! What the answers say. -/

section Answers

variable {ω : Type} {R : Requests ω} {retentionGraceMs : ℚ}

/-- The call asks about an operation, or hands in an outcome other than busy. -/
def World.Asks (w : World ω) (call : DedupeCall ω) : Prop :=
  match call with
  | .inspect _ | .reserve _ | .execute .. | .admitOperation _ none => True
  | .commitOperation .. | .commitReservation .. | .produced .. | .admitOperation _ (some _) =>
    w.busyOutcome call = false
  | _ => False

/-- The decision says what is stored: the outcome, or that there is none yet, or
that the content differs. -/
structure Tells (record : StoredRecord Nat) (fingerprint : JsString) (m : SharedMemory)
    (decision : Decision) (m' : SharedMemory) : Prop where
  duplicate : record.fingerprint ≠ fingerprint → decision.kind = .duplicate
  replay : record.fingerprint = fingerprint → record.pending = false →
    decision.kind = .replay ∧ contents m' decision.result = contents m record.result

theorem existingDecision_tells (m : SharedMemory) (record : StoredRecord Nat) (fingerprint : JsString)
    (known : ∀ ref ∈ storedRefs record, ref < m.next) :
    Tells record fingerprint m (existingDecision sharedValues m record fingerprint).1
      (existingDecision sharedValues m record fingerprint).2 := by
  obtain ⟨-, -, kind, same⟩ := existingDecision_spec m record fingerprint known
  refine ⟨fun differ => kind.trans (if_pos differ), fun equal settled => ?_⟩
  have replay := kind.trans ((if_neg (not_not.mpr equal)).trans (if_neg (by simp [settled])))
  exact ⟨replay, same replay⟩

/-- What is told of a record after an effect that kept it was so before. -/
theorem Tells.before {s s' : Store} (tells : Tells (s'.heap r) fingerprint s'.memory decision m)
    (effect : Effect makes frees commits a s s') (same : SameOutcome (s.heap r) (s'.heap r))
    (known : ∀ ref ∈ storedRefs (s.heap r), ref < s.memory.next) :
    Tells (s.heap r) fingerprint s.memory decision m := by
  have fingerprint' : (s'.heap r).fingerprint = (s.heap r).fingerprint :=
    congrArg NormalizedOperation.fingerprint same.normalized
  have held : contents s'.memory (s.heap r).result = contents s.memory (s.heap r).result := by
    cases result : (s.heap r).result with
    | none => rfl
    | some value =>
      cases value with
      | none => rfl
      | some ref =>
        have below := known ref (by simp [storedRefs, outcomeRefs, result])
        exact congrArg (fun json => some (some json)) (effect.cells ref below)
  refine ⟨fun differ => tells.duplicate (fingerprint' ▸ differ), fun equal settled => ?_⟩
  obtain ⟨replay, value⟩ := tells.replay (fingerprint'.trans equal) (same.pending.trans settled)
  rw [same.result, held] at value
  exact ⟨replay, value⟩

/-- A normal form is one of a deduplicated operation. -/
theorem normalizedOperation_name
    (form : normalizedOperation R retentionGraceMs operation now = .ok normalized) :
    (R.operationName operation).any isDedupeOperation = true := by
  unfold normalizedOperation at form
  cases name : R.operationName operation with
  | none =>
    rw [name] at form
    cases form
  | some name =>
    simp only [name] at form
    split at form
    · cases form
    · rename_i known
      simpa using known

section Existing

variable {s : Store} {operation : ω} {normalized : NormalizedOperation} {r : Nat}
variable (well : WellFormed s) (opened : s.closed = false)
variable (form : normalizedOperation R retentionGraceMs operation (s.now (s.reading + 1)) =
  .ok normalized)
variable (stored : s.records.get? normalized.key = some r)
variable (ahead : s.now s.reading < (s.heap r).retainedUntil)

include well opened form in
theorem lookup_of_form : s.lookup R retentionGraceMs operation =
    (.ok (some (normalized, s.prune.records.get? normalized.key)), s.prune.readNow.2) := by
  unfold DedupeStore.lookup
  rw [if_neg (by simp [opened])]
  dsimp only
  rw [if_neg (by simp [normalizedOperation_name form]), normalize_eq, prune_now well, prune_reading,
    form]
  rfl

include well in
/-- What the store says about a record that is still there after pruning. -/
theorem decideExisting_tells (stored : s.records.get? key = some r)
    (ahead : s.now s.reading < (s.heap r).retainedUntil) (fingerprint : JsString) :
    let decided := s.prune.readNow.2.decideExisting sharedValues r fingerprint
    Tells (s.heap r) fingerprint s.memory decided.1 decided.2.memory := by
  have pruned : Effect (fun _ => False) (fun _ _ => False) (fun _ _ => False) [] s s.prune :=
    effect_prune well
  obtain ⟨stored', same⟩ := prune_keeps well stored ahead
  have tells := existingDecision_tells s.prune.memory (s.prune.heap r) fingerprint
    (pruned.wellFormed.refs r (pruned.wellFormed.stored _ r stored').1)
  exact tells.before pruned same (well.refs r (well.stored _ r stored).1)

include well opened form stored ahead in
theorem inspect_tells :
    ∃ decision s', s.inspect R sharedValues retentionGraceMs operation = (.ok decision, s') ∧
      Tells (s.heap r) normalized.fingerprint s.memory decision s'.memory := by
  unfold DedupeStore.inspect
  rw [lookup_of_form well opened form, (prune_keeps well stored ahead).1]
  exact ⟨_, _, rfl, decideExisting_tells well stored ahead _⟩

include well opened form stored ahead in
theorem reserve_tells :
    ∃ decision s', s.reserve R sharedValues retentionGraceMs operation = (.ok decision, s') ∧
      decision.reservation = none ∧
      Tells (s.heap r) normalized.fingerprint s.memory decision s'.memory := by
  unfold DedupeStore.reserve
  rw [lookup_of_form well opened form, (prune_keeps well stored ahead).1]
  exact ⟨_, _, rfl, existingDecision_reservation _ _ _, decideExisting_tells well stored ahead _⟩

include well opened form stored ahead in
theorem execute_tells :
    ∃ decision s', s.execute R sharedValues retentionGraceMs operation = (.ok (.inl decision), s') ∧
      Tells (s.heap r) normalized.fingerprint s.memory decision s'.memory := by
  obtain ⟨decision, s', reserved, unreserved, tells⟩ :=
    reserve_tells well opened form stored ahead
  refine ⟨decision, s', ?_, tells⟩
  unfold DedupeStore.execute
  rw [reserved]
  dsimp only
  rw [unreserved]
  cases decision.kind <;> rfl

include well opened in
theorem commitReservation_tells (reservation : DedupeReservation) (result taskReference : Option Nat)
    (known : ∀ ref ∈ result, ref < s.memory.next)
    (notBusy : isBusyResult sharedValues s.memory result = false)
    (stored : s.records.get? reservation.key = some r)
    (ahead : s.now s.reading < (s.heap r).retainedUntil) :
    ∃ decision s', s.commitReservation sharedValues reservation result taskReference =
        (.ok decision, s') ∧
      Tells (s.heap r) reservation.fingerprint s.memory decision s'.memory := by
  have pruned : Effect (fun _ => False) (fun _ _ => False) (fun _ _ => False) [] s s.prune :=
    effect_prune well
  obtain ⟨stored', same⟩ := prune_keeps well stored ahead
  have refs := well.refs r (well.stored _ r stored).1
  have fingerprint : (s.prune.heap r).fingerprint = (s.heap r).fingerprint :=
    congrArg NormalizedOperation.fingerprint same.normalized
  unfold DedupeStore.commitReservation
  rw [if_neg (by simp [opened])]
  dsimp only
  rw [pruned.isBusyResult known, if_neg (by simp [notBusy]), stored']
  dsimp only
  split
  · rename_i differ
    refine ⟨_, _, rfl, fun _ => rfl, fun equal => ?_⟩
    exact absurd (fingerprint.trans equal) differ
  · rename_i equal
    have equal := not_not.mp equal
    split
    · exact ⟨_, _, rfl, decideExisting_tells well stored ahead _⟩
    · rename_i waiting
      refine ⟨_, _, rfl, fun differ => ?_, fun _ settled => ?_⟩
      · exact absurd (fingerprint.symm.trans equal) differ
      · rw [same.pending, settled] at waiting
        exact absurd rfl waiting

include well opened in
theorem commitOperation_tells (result taskReference : Option Nat)
    (known : ∀ ref ∈ result, ref < s.memory.next)
    (notBusy : isBusyResult sharedValues s.memory result = false)
    (form : normalizedOperation R retentionGraceMs operation (s.now (s.reading + 2)) =
      .ok normalized)
    (stored : s.records.get? normalized.key = some r)
    (ahead : s.now (s.reading + 1) < (s.heap r).retainedUntil) :
    ∃ decision s', s.commitOperation R sharedValues retentionGraceMs operation result taskReference =
        (.ok decision, s') ∧
      Tells (s.heap r) normalized.fingerprint s.memory decision s'.memory := by
  have pruned : Effect (fun _ => False) (fun _ _ => False) (fun _ _ => False) [] s s.prune :=
    effect_prune well
  obtain ⟨stored', same⟩ :=
    prune_keeps well stored ((well.clock (Nat.le_succ _)).trans_lt ahead)
  have ahead' : s.prune.now s.prune.reading < (s.prune.heap r).retainedUntil := by
    rw [prune_now well, prune_reading, StoredRecord.retainedUntil, same.normalized]
    exact ahead
  have form' : normalizedOperation R retentionGraceMs operation (s.prune.now (s.prune.reading + 1)) =
      .ok normalized := by
    rw [prune_now well, prune_reading]
    exact form
  obtain ⟨decision, s', reserved, unreserved, tells⟩ := reserve_tells pruned.wellFormed
    ((prune_closed well).trans opened) form' stored' ahead'
  refine ⟨decision, s', ?_, tells.before pruned same (well.refs r (well.stored _ r stored).1)⟩
  unfold DedupeStore.commitOperation
  rw [if_neg (by simp [opened])]
  dsimp only
  rw [if_neg (by simp [normalizedOperation_name form]), pruned.isBusyResult known,
    if_neg (by simp [notBusy]), reserved]
  dsimp only
  rw [unreserved]
  cases decision.kind <;> rfl

end Existing

/-- What a call that asks about a stored record answers. -/
theorem Sound.tells {w : World ω} (sound : Sound w) {call : DedupeCall ω}
    (asks : w.Asks call) (carries : w.Carries R retentionGraceMs call key fingerprint)
    (stored : w.store.records.get? key = some r)
    (ahead : w.store.now (w.store.reading + call.prunedAt) < (w.store.heap r).retainedUntil) :
    ∃ decision, (w.perform R retentionGraceMs call).1 = .decided (.ok decision) ∧
      Tells (w.store.heap r) fingerprint w.store.memory decision
        (w.perform R retentionGraceMs call).2.store.memory := by
  have well := sound.wellFormed
  have opened := sound.opened
  have committed : ∀ (operation : ω) (result taskReference : Option Nat),
      isBusyResult sharedValues w.store.memory (w.object result) = false →
      (∃ normalized, normalizedOperation R retentionGraceMs operation
        (w.store.now (w.store.reading + 2)) = .ok normalized ∧
          normalized.key = key ∧ normalized.fingerprint = fingerprint) →
      w.store.now (w.store.reading + 1) < (w.store.heap r).retainedUntil →
      ∃ decision s', w.store.commitOperation R sharedValues retentionGraceMs operation
          (w.object result) taskReference = (.ok decision, s') ∧
        Tells (w.store.heap r) fingerprint w.store.memory decision s'.memory := by
    rintro operation result taskReference notBusy ⟨normalized, form, rfl, rfl⟩ ahead
    exact commitOperation_tells well opened _ _ (sound.object result) notBusy form stored ahead
  cases call with
  | make value => exact asks.elim
  | mutate object value => exact asks.elim
  | getRecord operation => exact asks.elim
  | releaseOperation operation => exact asks.elim
  | releaseReservation reservation => exact asks.elim
  | producerThrew execution => exact asks.elim
  | prune => exact asks.elim
  | timer record => exact asks.elim
  | inspect operation =>
    obtain ⟨normalized, form, rfl, rfl⟩ := carries
    obtain ⟨decision, s', answered, tells⟩ := inspect_tells well opened form stored ahead
    simp only [World.perform, answered]
    exact ⟨decision, rfl, tells⟩
  | reserve operation =>
    obtain ⟨normalized, form, rfl, rfl⟩ := carries
    obtain ⟨decision, s', answered, -, tells⟩ := reserve_tells well opened form stored ahead
    simp only [World.perform, answered]
    exact ⟨decision, rfl, tells⟩
  | execute operation taskReference =>
    obtain ⟨normalized, form, rfl, rfl⟩ := carries
    obtain ⟨decision, s', answered, tells⟩ := execute_tells well opened form stored ahead
    simp only [World.perform, answered]
    exact ⟨decision, rfl, tells⟩
  | commitOperation operation result taskReference =>
    obtain ⟨decision, s', answered, tells⟩ := committed operation result (w.object taskReference) asks carries ahead
    simp only [World.perform, answered]
    exact ⟨decision, rfl, tells⟩
  | commitReservation reservation result taskReference =>
    obtain ⟨rfl, rfl⟩ := carries
    obtain ⟨decision, s', answered, tells⟩ := commitReservation_tells well opened reservation _
      (w.object taskReference) (sound.object result) asks stored ahead
    simp only [World.perform, answered]
    exact ⟨decision, rfl, tells⟩
  | admitOperation operation outcome =>
    cases outcome with
    | none =>
      obtain ⟨normalized, form, rfl, rfl⟩ := carries
      obtain ⟨decision, s', answered, -, tells⟩ := reserve_tells well opened form stored ahead
      simp only [World.perform, DedupeStore.admitOperation, Option.map_none, answered]
      exact ⟨decision, rfl, tells⟩
    | some outcome =>
      obtain ⟨result, taskReference⟩ := outcome
      have notBusy : isBusyResult sharedValues w.store.memory (w.object result) = false := asks
      obtain ⟨decision, s', answered, tells⟩ :=
        committed operation result (w.object taskReference) notBusy carries ahead
      simp only [World.perform, DedupeStore.admitOperation, Option.map_some, notBusy,
        Bool.false_eq_true, ↓reduceIte, answered]
      exact ⟨decision, rfl, tells⟩
  | produced execution result =>
    obtain ⟨running, found, rfl, rfl⟩ := carries
    have notBusy : isBusyResult sharedValues w.store.memory (w.object result) = false := asks
    obtain ⟨decision, s', answered, tells⟩ := commitReservation_tells well opened
      running.reservation _ running.taskReference (sound.object result) notBusy stored ahead
    simp only [World.perform, found, DedupeStore.produced, notBusy, Bool.false_eq_true, ↓reduceIte,
      answered]
    exact ⟨decision, rfl, tells⟩

theorem existingDecision_kind (m : SharedMemory) (record : StoredRecord Nat) (fingerprint : JsString) :
    (existingDecision sharedValues m record fingerprint).1.kind ≠ .new ∧
      (existingDecision sharedValues m record fingerprint).1.kind ≠ .stored := by
  unfold existingDecision
  dsimp only
  split
  · exact ⟨nofun, nofun⟩
  split
  · exact ⟨nofun, nofun⟩
  · exact ⟨nofun, nofun⟩

/-- The decision is new only for a key that was free. -/
structure Admits (s : Store) (decision : Decision) : Prop where
  free : decision.kind = .new → ∀ key, decision.key = some key → s.prune.records.get? key = none
  unstored : decision.kind ≠ .stored

theorem inspect_admits {s : Store} (well : WellFormed s)
    (answered : s.inspect R sharedValues retentionGraceMs operation = (.ok decision, s')) :
    Admits s decision := by
  unfold DedupeStore.inspect at answered
  cases looked : s.lookup R retentionGraceMs operation with
  | mk answer s'' =>
    rw [looked] at answered
    cases answer with
    | error error => cases answered
    | ok found =>
      cases found with
      | none =>
        cases answered
        exact ⟨nofun, nofun⟩
      | some found =>
        obtain ⟨normalized, found⟩ := found
        cases found with
        | none =>
          cases answered
          obtain ⟨rfl, -, free⟩ := lookup_ok well looked
          refine ⟨fun _ key named => ?_, nofun⟩
          cases named
          exact free.symm
        | some r =>
          obtain ⟨same, -⟩ := Prod.mk.inj answered
          obtain ⟨notNew, notStored⟩ :=
            existingDecision_kind s''.memory (s''.heap r) normalized.fingerprint
          rw [← Except.ok.inj same]
          exact ⟨fun new => absurd new notNew, notStored⟩

theorem reserve_admits {s : Store} (well : WellFormed s)
    (answered : s.reserve R sharedValues retentionGraceMs operation = (.ok decision, s')) :
    Admits s decision ∧ (decision.kind = .new → decision.reservation.isSome) := by
  unfold DedupeStore.reserve at answered
  cases looked : s.lookup R retentionGraceMs operation with
  | mk answer s'' =>
    rw [looked] at answered
    cases answer with
    | error error => cases answered
    | ok found =>
      cases found with
      | none =>
        cases answered
        exact ⟨⟨nofun, nofun⟩, nofun⟩
      | some found =>
        obtain ⟨normalized, found⟩ := found
        cases found with
        | none =>
          cases answered
          obtain ⟨rfl, -, free⟩ := lookup_ok well looked
          refine ⟨⟨fun _ key named => ?_, nofun⟩, fun _ => rfl⟩
          cases named
          exact free.symm
        | some r =>
          obtain ⟨same, -⟩ := Prod.mk.inj answered
          obtain ⟨notNew, notStored⟩ :=
            existingDecision_kind s''.memory (s''.heap r) normalized.fingerprint
          rw [← Except.ok.inj same]
          exact ⟨⟨fun new => absurd new notNew, notStored⟩, fun new => absurd new notNew⟩

theorem busy_kind {s : Store}
    (answered : s.busy R retentionGraceMs operation = (.ok (decision : Decision), s')) :
    decision.kind ≠ .new ∧ decision.kind ≠ .stored := by
  unfold DedupeStore.busy at answered
  split at answered
  · cases answered
  split at answered
  · cases answered
    exact ⟨nofun, nofun⟩
  rw [normalize_eq] at answered
  cases form : normalizedOperation R retentionGraceMs operation (s.now s.reading) with
  | error error =>
    rw [form] at answered
    cases answered
  | ok normalized =>
    rw [form] at answered
    cases answered
    exact ⟨nofun, nofun⟩

/-- The record under `key` holds `value` for good. -/
def Holds (s : Store) (key : JsString) (value : Option Json) : Prop :=
  ∃ r, s.records.get? key = some r ∧ (s.heap r).pending = false ∧
    contents s.memory (s.heap r).result = some value

/-- A decision `stored` is about the outcome that was handed in. -/
structure Settled (value : Option Json) (decision : Decision) (s' : Store) : Prop where
  notNew : decision.kind ≠ .new
  stored : decision.kind = .stored → ∃ key, decision.key = some key ∧ Holds s' key value

theorem Effect.content {s s' : Store} (effect : Effect makes frees commits a s s')
    (known : ∀ ref ∈ value, ref < s.memory.next) :
    content s'.memory value = content s.memory value := by
  cases value with
  | none => rfl
  | some ref => exact congrArg some (effect.cells ref (known ref rfl))

theorem commitReservation_settled {s : Store} (well : WellFormed s)
    (known : ∀ ref ∈ result, ref < s.memory.next)
    (answered : s.commitReservation sharedValues reservation result taskReference =
      (.ok decision, s')) :
    Settled (content s.memory result) decision s' := by
  have pruned : Effect (fun _ => False) (fun _ _ => False) (fun _ _ => False) [] s s.prune :=
    effect_prune well
  unfold DedupeStore.commitReservation at answered
  split at answered
  · cases answered
  dsimp only at answered
  split at answered
  · cases released : s.prune.releaseReservation reservation with
    | mk answer s'' =>
      rw [released] at answered
      cases answer with
      | error error => cases answered
      | ok _ =>
        cases answered
        refine ⟨fun new => ?_, fun stored => ?_⟩
        · cases new
        · cases stored
  cases stored : s.prune.records.get? reservation.key with
  | none =>
    rw [stored] at answered
    cases answered
    refine ⟨fun new => ?_, fun stored => ?_⟩
    · cases new
    · cases stored
  | some r =>
    rw [stored] at answered
    dsimp only at answered
    split at answered
    · cases answered
      refine ⟨fun new => ?_, fun stored => ?_⟩
      · cases new
      · cases stored
    split at answered
    · obtain ⟨same, -⟩ := Prod.mk.inj answered
      obtain ⟨notNew, notStored⟩ :=
        existingDecision_kind s.prune.memory (s.prune.heap r) reservation.fingerprint
      rw [← Except.ok.inj same]
      exact ⟨notNew, fun stored => absurd stored notStored⟩
    · obtain ⟨kind, key, normalized, settled, value, -, -⟩ :=
        commitRecord_spec s.prune.memory (s.prune.heap r) result taskReference
      obtain ⟨same, rfl⟩ := Prod.mk.inj answered
      obtain rfl := Except.ok.inj same
      refine ⟨fun new => ?_, fun _ => ⟨_, key, r, ?_, ?_, ?_⟩⟩
      · rw [kind] at new
        cases new
      · rw [(pruned.wellFormed.stored _ r stored).2]
        exact stored
      · simpa [DedupeStore.update] using settled
      · rw [← Effect.content pruned known, ← value]
        simp [DedupeStore.update]

theorem commitOperation_settled {s : Store} (well : WellFormed s)
    (known : ∀ ref ∈ result, ref < s.memory.next)
    (answered : s.commitOperation R sharedValues retentionGraceMs operation result taskReference =
      (.ok decision, s')) :
    Settled (content s.memory result) decision s' := by
  have pruned : Effect (fun _ => True) (fun _ _ => True) (fun _ _ => True) [] s s.prune :=
    effect_prune well
  unfold DedupeStore.commitOperation at answered
  split at answered
  · cases answered
  dsimp only at answered
  split at answered
  · cases answered
    exact ⟨nofun, nofun⟩
  split at answered
  · cases released : s.prune.releaseOperation R retentionGraceMs operation with
    | mk answer s'' =>
      rw [released] at answered
      cases answer with
      | error error => cases answered
      | ok _ =>
        obtain ⟨notNew, notStored⟩ := busy_kind answered
        exact ⟨notNew, fun stored => absurd stored notStored⟩
  cases reserved : s.prune.reserve R sharedValues retentionGraceMs operation with
  | mk answer s'' =>
    rw [reserved] at answered
    cases answer with
    | error error => cases answered
    | ok reservedDecision =>
      obtain ⟨⟨-, notStored⟩, handed⟩ := reserve_admits pruned.wellFormed reserved
      dsimp only at answered
      split at answered
      · have effect : Effect (fun _ => True) (fun _ _ => True) (fun _ _ => True) _ s.prune
            (s.prune.reserve R sharedValues retentionGraceMs operation).2 :=
          effect_reserve pruned.wellFormed operation fun _ _ => trivial
        rw [reserved] at effect
        have both := pruned.trans effect well
        rw [← Effect.content both known]
        exact commitReservation_settled both.wellFormed
          (fun ref held => (known ref held).trans_le both.memory) answered
      · rename_i other
        cases answered
        refine ⟨fun new => ?_, fun stored => absurd stored notStored⟩
        obtain ⟨reservation, some⟩ := Option.isSome_iff_exists.mp (handed new)
        exact other reservation new some

/-- The outcome a call hands in. -/
def World.handed (w : World ω) : DedupeCall ω → Option Nat
  | .commitOperation _ result _ | .commitReservation _ result _ | .admitOperation _ (some (result, _))
  | .produced _ result => w.object result
  | _ => none

/-- What a decision a call answers with says. -/
structure Decided (w : World ω) (call : DedupeCall ω) (decision : Decision) (w' : World ω) : Prop where
  new : decision.kind = .new → ∀ key, decision.key = some key → w.Free call key
  stored : decision.kind = .stored → ∃ key, decision.key = some key ∧
    Holds w'.store key (content w.store.memory (w.handed call))

theorem Admits.decided {w w' : World ω} (admits : Admits w.store decision) (sound : Sound w)
    {call : DedupeCall ω} (place : call.prunedAt = 0) : Decided w call decision w' := by
  refine ⟨fun new key named r stored => ?_, fun stored => absurd stored admits.unstored⟩
  rw [place]
  exact free_of_prune sound.wellFormed (admits.free new key named) stored

theorem Settled.decided {w w' : World ω} {call : DedupeCall ω}
    (settled : Settled (content w.store.memory (w.handed call)) decision w'.store) :
    Decided w call decision w' :=
  ⟨fun new => absurd new settled.notNew, settled.stored⟩

theorem producerThrew_error (s : Store) (reservation : DedupeReservation) (error : DedupeError)
    (decision : Decision) (s' : Store) :
    s.producerThrew reservation error ≠ (.ok decision, s') := by
  unfold DedupeStore.producerThrew
  cases s.releaseReservation reservation with
  | mk answer s'' =>
    cases answer with
    | error error => exact nofun
    | ok _ => exact nofun

theorem produced_settled {s : Store} (well : WellFormed s)
    (known : ∀ ref ∈ result, ref < s.memory.next)
    (answered : s.produced R sharedValues retentionGraceMs operation reservation result taskReference =
      (.ok decision, s')) :
    Settled (content s.memory result) decision s' := by
  unfold DedupeStore.produced at answered
  split at answered
  · cases released : s.releaseReservation reservation with
    | mk answer freed =>
      rw [released] at answered
      cases answer with
      | error error => exact absurd answered (producerThrew_error _ _ _ _ _)
      | ok _ =>
        dsimp only at answered
        cases busy : (freed.busy R retentionGraceMs operation : Except DedupeError Decision × Store) with
        | mk answer refused =>
          rw [busy] at answered
          cases answer with
          | error error => exact absurd answered (producerThrew_error _ _ _ _ _)
          | ok decision' =>
            cases answered
            obtain ⟨notNew, notStored⟩ := busy_kind busy
            exact ⟨notNew, fun stored => absurd stored notStored⟩
  · cases committed : s.commitReservation sharedValues reservation result taskReference with
    | mk answer settled =>
      rw [committed] at answered
      cases answer with
      | error error => exact absurd answered (producerThrew_error _ _ _ _ _)
      | ok decision' =>
        cases answered
        exact commitReservation_settled well known committed

/-- What a call's decision says. -/
theorem Sound.decided {w : World ω} (sound : Sound w) {call : DedupeCall ω}
    (answered : (w.perform R retentionGraceMs call).1 = .decided (.ok decision)) :
    Decided w call decision (w.perform R retentionGraceMs call).2 := by
  have well := sound.wellFormed
  cases call with
  | make value => cases answered
  | mutate object value =>
    unfold World.perform at answered
    dsimp only at answered
    split at answered <;> cases answered
  | getRecord operation => cases answered
  | releaseOperation operation => cases answered
  | releaseReservation reservation => cases answered
  | prune => cases answered
  | timer record => cases answered
  | inspect operation =>
    have answered : (w.store.inspect R sharedValues retentionGraceMs operation).1 = .ok decision :=
      Answer.decided.inj answered
    exact (inspect_admits well (Prod.ext answered rfl)).decided sound rfl
  | reserve operation =>
    have answered : (w.store.reserve R sharedValues retentionGraceMs operation).1 = .ok decision :=
      Answer.decided.inj answered
    exact (reserve_admits well (Prod.ext answered rfl)).1.decided sound rfl
  | commitOperation operation result taskReference =>
    refine Settled.decided (commitOperation_settled well (sound.object result) (Prod.ext ?_ rfl))
    exact Answer.decided.inj answered
  | commitReservation reservation result taskReference =>
    refine Settled.decided (commitReservation_settled well (sound.object result) (Prod.ext ?_ rfl))
    exact Answer.decided.inj answered
  | admitOperation operation outcome =>
    have answered : (w.store.admitOperation R sharedValues retentionGraceMs operation _).1 = _ :=
      Answer.decided.inj answered
    cases outcome with
    | none =>
      have answered : (w.store.reserve R sharedValues retentionGraceMs operation).1 = .ok decision :=
        answered
      exact (reserve_admits well (Prod.ext answered rfl)).1.decided sound rfl
    | some outcome =>
      obtain ⟨result, taskReference⟩ := outcome
      refine Settled.decided ?_
      unfold World.perform
      unfold DedupeStore.admitOperation at answered ⊢
      dsimp only [Option.map_some] at answered ⊢
      split at answered
      · rename_i busy
        obtain ⟨notNew, notStored⟩ := busy_kind (Prod.ext answered rfl)
        exact ⟨notNew, fun stored => absurd stored notStored⟩
      · rename_i notBusy
        rw [if_neg notBusy]
        exact commitOperation_settled well (sound.object result) (Prod.ext answered rfl)
  | execute operation taskReference =>
    obtain ⟨reservedDecision, s', reservation, -, -, executed⟩ |
      ⟨reservedDecision, s', reserved, -, executed⟩ | ⟨error, s', -, executed⟩ :=
      execute_cases R retentionGraceMs w.store operation
    · simp only [World.perform, executed] at answered
      cases answered
    · simp only [World.perform, executed] at answered
      cases answered
      exact (reserve_admits well reserved).1.decided sound rfl
    · simp only [World.perform, executed] at answered
      cases answered
  | produced execution result =>
    unfold World.perform at answered ⊢
    dsimp only at answered ⊢
    cases found : w.running[execution]? with
    | none =>
      rw [found] at answered
      cases answered
    | some running =>
      rw [found] at answered
      refine Settled.decided (produced_settled well (sound.object result) (Prod.ext ?_ rfl))
      exact Answer.decided.inj answered
  | producerThrew execution =>
    unfold World.perform at answered
    dsimp only at answered
    split at answered <;> cases answered

end Answers
/-! Runs. -/

section Runs

variable {ω : Type} (R : Requests ω) (retentionGraceMs : ℚ)

/-- Every order of calls on an open store that is empty at first, with a clock
that does not go back. -/
def dedupeSystem : System (World ω) (DedupeCall ω) where
  init w := w.store.nextRecord = 0 ∧ w.store.records = ∅ ∧ w.store.closed = false ∧
    Monotone w.store.now ∧ w.held = [] ∧ w.running = []
  step w call w' := w' = (w.perform R retentionGraceMs call).2

/-- The clock has been read at `time` or later. -/
def World.Reached (w : World ω) (time : ℚ) : Prop := ∃ i < w.store.reading, time ≤ w.store.now i

/-- The record under `key` is still there, and says what it said in `w`. -/
structure Unchanged (w w' : World ω) (key : JsString) (r : Nat) : Prop where
  stored : w'.store.records.get? key = some r
  same : SameOutcome (w.store.heap r) (w'.store.heap r)
  outcome : contents w'.store.memory (w'.store.heap r).result =
    contents w.store.memory (w.store.heap r).result
  taskReference : content w'.store.memory (w'.store.heap r).taskReference =
    content w.store.memory (w.store.heap r).taskReference

variable {R retentionGraceMs}

/-- A call is about one fingerprint. -/
theorem World.Carries.unique {w : World ω}
    (carries : w.Carries R retentionGraceMs call key fingerprint)
    (carries' : w.Carries R retentionGraceMs call key' fingerprint') : fingerprint = fingerprint' := by
  have ofForm : ∀ operation,
      (∃ normalized, w.normalForm R retentionGraceMs call operation = .ok normalized ∧
        normalized.key = key ∧ normalized.fingerprint = fingerprint) →
      (∃ normalized, w.normalForm R retentionGraceMs call operation = .ok normalized ∧
        normalized.key = key' ∧ normalized.fingerprint = fingerprint') →
      fingerprint = fingerprint' := by
    rintro operation ⟨normalized, form, -, rfl⟩ ⟨normalized', form', -, rfl⟩
    rw [form] at form'
    rw [Except.ok.inj form']
  have ofRunning : ∀ execution : Nat,
      (∃ running, w.running[execution]? = some running ∧ running.reservation.key = key ∧
        running.reservation.fingerprint = fingerprint) →
      (∃ running, w.running[execution]? = some running ∧ running.reservation.key = key' ∧
        running.reservation.fingerprint = fingerprint') →
      fingerprint = fingerprint' := by
    rintro execution ⟨running, found, -, rfl⟩ ⟨running', found', -, rfl⟩
    rw [found] at found'
    rw [Option.some.inj found']
  cases call with
  | make value => exact carries.elim
  | mutate object value => exact carries.elim
  | prune => exact carries.elim
  | timer record => exact carries.elim
  | commitReservation reservation result taskReference => exact carries.2.symm.trans carries'.2
  | releaseReservation reservation => exact carries.2.symm.trans carries'.2
  | produced execution result => exact ofRunning execution carries carries'
  | producerThrew execution => exact ofRunning execution carries carries'
  | inspect operation => exact ofForm operation carries carries'
  | getRecord operation => exact ofForm operation carries carries'
  | reserve operation => exact ofForm operation carries carries'
  | commitOperation operation result taskReference => exact ofForm operation carries carries'
  | admitOperation operation outcome => exact ofForm operation carries carries'
  | releaseOperation operation => exact ofForm operation carries carries'
  | execute operation taskReference => exact ofForm operation carries carries'

theorem Unchanged.refl {w : World ω} (stored : w.store.records.get? key = some r) :
    Unchanged w w key r := ⟨stored, .refl _, rfl, rfl⟩

theorem Unchanged.trans {w w' w'' : World ω} (first : Unchanged w w' key r)
    (second : Unchanged w' w'' key r) : Unchanged w w'' key r :=
  ⟨second.stored, first.same.trans second.same, second.outcome.trans first.outcome,
    second.taskReference.trans first.taskReference⟩

/-- A record that is kept holds what it held. -/
theorem Progress.unchanged {w w' : World ω} (progress : Progress makes frees commits w w')
    (known : r < w.store.nextRecord) (stored : w'.store.records.get? key = some r)
    (same : SameOutcome (w.store.heap r) (w'.store.heap r)) : Unchanged w w' key r := by
  refine ⟨stored, same, ?_, ?_⟩
  · rw [same.result]
    cases result : (w.store.heap r).result with
    | none => rfl
    | some value =>
      cases value with
      | none => rfl
      | some ref =>
        have cell := progress.outcomes r known ref (by simp [storedRefs, outcomeRefs, result])
        exact congrArg (fun json => some (some json)) cell
  · rw [same.taskReference]
    cases taskReference : (w.store.heap r).taskReference with
    | none => rfl
    | some ref =>
      have cell := progress.outcomes r known ref (by simp [storedRefs, outcomeRefs, taskReference])
      exact congrArg some cell

/-- What has become of a record of `w` in a run from `w` to `v`. -/
structure Along (R : Requests ω) (retentionGraceMs : ℚ) (w : World ω) (key : JsString) (r : Nat)
    (history : List (World ω × DedupeCall ω)) (v : World ω) : Prop where
  sound : Sound v
  now : v.store.now = w.store.now
  known : r < v.store.nextRecord
  named : (v.store.heap r).normalized = (w.store.heap r).normalized
  fate : (v.store.records.get? key = some r ∧
      ((w.store.heap r).pending = false → Unchanged w v key r)) ∨
    ((w.store.heap r).pending = true ∧ ∃ step ∈ history,
      step.1.Frees R retentionGraceMs step.2 key (w.store.heap r).fingerprint ∧
        step.1.store.records.get? key = some r) ∨
    v.Reached (w.store.heap r).retainedUntil

theorem World.Reached.later {w w' : World ω} (reached : w.Reached time)
    (now : w'.store.now = w.store.now) (reading : w.store.reading ≤ w'.store.reading) :
    w'.Reached time := by
  obtain ⟨i, made, past⟩ := reached
  exact ⟨i, made.trans_le reading, now ▸ past⟩

/-- One more call. -/
theorem Along.step {w v : World ω} (along : Along R retentionGraceMs w key r history v)
    (call : DedupeCall ω) :
    Along R retentionGraceMs w key r ((v, call) :: history) (v.perform R retentionGraceMs call).2 := by
  have progress := along.sound.perform R retentionGraceMs call
  have retained : (v.store.heap r).retainedUntil = (w.store.heap r).retainedUntil :=
    congrArg NormalizedOperation.retainedUntil along.named
  have fingerprint : (v.store.heap r).fingerprint = (w.store.heap r).fingerprint :=
    congrArg NormalizedOperation.fingerprint along.named
  refine ⟨progress.sound, progress.now.trans along.now, along.known.trans_le progress.allocated,
    (progress.named r along.known).trans along.named, ?_⟩
  obtain ⟨stored, unchanged⟩ | ⟨pending, step, member, freed⟩ | reached := along.fate
  · cases progress.fates key r stored with
    | kept stored' same =>
      exact .inl ⟨stored', fun settled =>
        (unchanged settled).trans (progress.unchanged along.known stored' same)⟩
    | committed stored' pending _ =>
      refine .inl ⟨stored', fun settled => ?_⟩
      rw [(unchanged settled).same.pending, settled] at pending
      cases pending
    | freed pending frees =>
      rw [fingerprint] at frees
      by_cases settled : (w.store.heap r).pending = false
      · rw [(unchanged settled).same.pending, settled] at pending
        cases pending
      · exact .inr (.inl ⟨Bool.not_eq_false _ ▸ settled, (v, call), List.mem_cons_self, frees, stored⟩)
    | expired made past =>
      rw [retained] at past
      refine .inr (.inr ⟨_, Nat.sub_one_lt (Nat.ne_of_gt (Nat.zero_lt_of_lt made)), ?_⟩)
      rw [progress.now]
      exact past
  · exact .inr (.inl ⟨pending, step, List.mem_cons_of_mem _ member, freed⟩)
  · exact .inr (.inr (reached.later progress.now progress.reading))

/-- A whole run. -/
theorem along {w v : World ω} (sound : Sound w) (stored : w.store.records.get? key = some r)
    (run : ((dedupeSystem R retentionGraceMs).startingAt w).Trace history v) :
    Along R retentionGraceMs w key r history v := by
  induction run with
  | init start =>
    cases start
    exact ⟨sound, rfl, (sound.wellFormed.stored key r stored).1, rfl,
      .inl ⟨stored, fun _ => .refl stored⟩⟩
  | step _ taken ih =>
    cases taken
    exact ih.step _

/-- What was reached is over at every later reading. -/
theorem Sound.past {w : World ω} (sound : Sound w) (reached : w.Reached time) (n : Nat) :
    time ≤ w.store.now (w.store.reading + n) := by
  obtain ⟨i, made, past⟩ := reached
  exact past.trans (sound.wellFormed.clock (made.le.trans (Nat.le_add_right _ _)))

theorem sound_of_reachable {w : World ω} (reached : (dedupeSystem R retentionGraceMs).Reachable w) :
    Sound w := by
  refine reached.invariant ?_ ?_
  · rintro w ⟨fresh, empty, opened, clock, held, -⟩
    refine ⟨⟨?_, clock, ?_⟩, opened, ?_, ?_⟩
    · intro key r stored
      rw [empty] at stored
      cases stored
    · intro r known
      rw [fresh] at known
      cases known
    · intro ref member
      rw [held] at member
      cases member
    · intro r known
      rw [fresh] at known
      cases known
  · rintro w call _ sound rfl
    exact (sound.perform R retentionGraceMs call).sound

/-- A committed outcome stays what it is to the end of its retention. -/
theorem Sound.kept {w v : World ω} (sound : Sound w) (stored : w.store.records.get? key = some r)
    (settled : (w.store.heap r).pending = false)
    (run : ((dedupeSystem R retentionGraceMs).startingAt w).Trace history v) :
    Unchanged w v key r ∨ v.Reached (w.store.heap r).retainedUntil := by
  obtain ⟨-, unchanged⟩ | ⟨pending, -⟩ | reached := (along sound stored run).fate
  · exact .inl (unchanged settled)
  · rw [settled] at pending
    cases pending
  · exact .inr reached

theorem Sound.untouched {w : World ω} (sound : Sound w)
    (stored : w.store.records.get? key = some r) {call : DedupeCall ω}
    (carries : w.Carries R retentionGraceMs call key fingerprint)
    (differ : fingerprint ≠ (w.store.heap r).fingerprint) :
    Unchanged w (w.perform R retentionGraceMs call).2 key r ∨
      (w.perform R retentionGraceMs call).2.Reached (w.store.heap r).retainedUntil := by
  have progress := sound.perform R retentionGraceMs call
  cases progress.fates key r stored with
  | kept stored' same =>
    exact .inl (progress.unchanged (sound.wellFormed.stored key r stored).1 stored' same)
  | committed _ _ commits => exact absurd (carries.unique commits.1) differ
  | freed _ frees => exact absurd (carries.unique frees.1) differ
  | expired made past =>
    refine .inr ⟨_, Nat.sub_one_lt (Nat.ne_of_gt (Nat.zero_lt_of_lt made)), ?_⟩
    rw [progress.now]
    exact past

end Runs

/-! One operation, committed: the hypothesis of `dedupeSafe` in a concrete run. -/

/-- One request whose fingerprint is its content. -/
def sampleRequests : Requests JsString where
  operationName _ := some "message.notify"
  senderRuntimeId _ := some "a"
  rawExpiresAtMs _ := some 100
  projection content _ := .ok
    { operationId := "op"
      senderRuntimeId := "a"
      expiresAt := "1970-01-01T00:00:00.100Z"
      expiresAtMs := some 100
      fingerprint := content }

def sampleStart : World JsString where
  store :=
    { heap := fun _ =>
        { normalized :=
            { operation := "", operationId := "", senderRuntimeId := "", expiresAt := ""
              expiresAtMs := 0, retainedUntil := 0, key := "", fingerprint := "" }
          pending := false
          result := none
          taskReference := none
          timer := none }
      nextRecord := 0
      records := ∅
      closed := false
      now := fun _ => 0
      reading := 0
      memory := { cells := fun _ => .null, next := 0 } }
  held := []
  running := []

/-- A caller makes an outcome, reserves the operation and commits it. -/
def sampleCommitted : World JsString :=
  let made := (sampleStart.perform sampleRequests 0 (.make (.string "done"))).2
  (made.perform sampleRequests 0 (.commitOperation "content" (some 0) none)).2

end PiToPi.DedupeSafety
