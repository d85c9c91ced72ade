import PiToPi.TaskStore

/-!
The lifecycle of stored tasks over every run of the store, with operations
started again from abort listeners and hooks.

`LifecycleStep` says what one segment of an operation does to the tasks there
are, `LifecycleState` what holds between segments. The segments that change
anything are few: a transition changes one task, `insertRecord` adds one,
`removeRecord` and the end of `clear` remove some, and the rest only read
clocks. The purge timer removes whatever is stored under its request id, which
is why the claim is about runs in which that is no live task.
-/
namespace PiToPi.TaskStoreProofs
open Reentrant Transition Relation

/-- The states a task cannot enter without its signal being aborted. -/
def Aborting (state : TaskState) : Prop :=
  state = .cancelling ∨ state = .cancelled ∨ state = .expired

/-- What a segment may do to a task: at most one legal transition. -/
structure TaskMoves (host : Host) (task task' : StoredTask) : Prop where
  requestId : task'.requestId = task.requestId
  aborted : task.aborted = true → task'.aborted = true
  snapshot : task'.snapshot = task.snapshot ∨
    canTransitionTaskState task.state task'.state = true ∧
      task'.snapshot.createdAt = task.snapshot.createdAt ∧
      task'.snapshot.expiresAt = task.snapshot.expiresAt ∧
      (Aborting task'.state → task'.aborted = true)
  updatedAt : ∀ t u, Date.parse host task.snapshot.updatedAt = some t →
    Date.parse host task'.snapshot.updatedAt = some u → t ≤ u

/-- What holds of a task at any time. -/
structure TaskWellFormed (host : Host) (task : StoredTask) : Prop where
  /-- The outcome is there exactly in a terminal state, and is that state. -/
  outcome : task.snapshot.terminalOutcome =
    if isTerminalTaskState task.state then some task.state else none
  times : ∃ created updated, Date.parse host task.snapshot.createdAt = some created ∧
    Date.parse host task.snapshot.updatedAt = some updated ∧ created ≤ updated ∧
    Date.timeClip task.updatedAtMs = some updated
  purge : task.purgeTimer.isSome = true → isTerminalTaskState task.state = true

/-- What holds of the store between segments. -/
structure LifecycleState (host : Host) (s : TaskStore) : Prop where
  stored : ∀ key r, s.records.get? key = some r →
    r < s.nextRecord ∧ (s.heap r).requestId = key
  tasks : ∀ r < s.nextRecord, TaskWellFormed host (s.heap r)
  /-- The queued index is the set of keys of stored tasks that are queued. -/
  queued : ∀ key, key ∈ s.queued ↔ ∃ r, s.records.get? key = some r ∧ (s.heap r).state = .queued

/-- What one segment of `op` does. -/
structure LifecycleStep (host : Host) (op : StoreOp) (s s' : TaskStore) : Prop where
  allocated : s.nextRecord ≤ s'.nextRecord
  moved : ∀ r < s.nextRecord, TaskMoves host (s.heap r) (s'.heap r)
  /-- Only a transition or `clear` aborts a task there is. -/
  aborts : ∀ r < s.nextRecord, (s'.heap r).aborted = true → (s.heap r).aborted = true ∨
    ((s'.heap r).state ≠ (s.heap r).state ∧ Aborting (s'.heap r).state) ∨ op.isClear = true
  /-- A new task is aborted exactly when it starts out expired. -/
  created : ∀ r, s.nextRecord ≤ r → r < s'.nextRecord →
    ((s'.heap r).aborted = true ↔ (s'.heap r).state = .expired)
  /-- Only `clear` removes a task that is not terminal, and it aborts whatever it removes. -/
  removed : ∀ key r, s.records.get? key = some r → s'.records.get? key ≠ some r →
    op.isClear = false ∧ isTerminalTaskState (s.heap r).state = true ∨
      op.isClear = true ∧ (s'.heap r).aborted = true

/-- The tasks differ in their timers at most. -/
structure SameTask (task task' : StoredTask) : Prop where
  requestId : task'.requestId = task.requestId
  aborted : task'.aborted = task.aborted
  snapshot : task'.snapshot = task.snapshot

theorem SameTask.refl (task : StoredTask) : SameTask task task := ⟨rfl, rfl, rfl⟩

theorem SameTask.state (same : SameTask task task') : task'.state = task.state :=
  congrArg TaskSnapshot.state same.snapshot

/-- Only clocks were read. -/
def Quiet (s s' : TaskStore) : Prop :=
  ∃ nowFn readings, s' = { s with nowFn, monotonicNowFn := fun n => s.monotonicNowFn (n + readings) }

theorem Quiet.refl (s : TaskStore) : Quiet s s := ⟨s.nowFn, 0, rfl⟩

theorem Quiet.trans (first : Quiet s s') (second : Quiet s' s'') : Quiet s s'' := by
  obtain ⟨_, readings, rfl⟩ := first
  obtain ⟨now, more, rfl⟩ := second
  exact ⟨now, more + readings, by simp only [Nat.add_assoc]⟩

theorem Quiet.heap (quiet : Quiet s s') : s'.heap = s.heap := by
  obtain ⟨_, _, rfl⟩ := quiet
  rfl

theorem Quiet.records (quiet : Quiet s s') : s'.records = s.records := by
  obtain ⟨_, _, rfl⟩ := quiet
  rfl

theorem TaskMoves.refl (host : Host) (task : StoredTask) : TaskMoves host task task where
  requestId := rfl
  aborted := id
  snapshot := .inl rfl
  updatedAt t u before after := by
    rw [before] at after
    exact (Option.some.inj after).le

theorem TaskMoves.of_same (same : SameTask task task') (moves : TaskMoves host task' task'') :
    TaskMoves host task task'' where
  requestId := moves.requestId.trans same.requestId
  aborted aborted := moves.aborted (same.aborted.trans aborted)
  snapshot := by
    rw [← same.snapshot, ← same.state]
    exact moves.snapshot
  updatedAt t u before := by
    rw [← same.snapshot] at before
    exact moves.updatedAt t u before

theorem TaskMoves.trans_same (moves : TaskMoves host task task') (same : SameTask task' task'') :
    TaskMoves host task task'' where
  requestId := same.requestId.trans moves.requestId
  aborted aborted := same.aborted.trans (moves.aborted aborted)
  snapshot := by
    rw [same.snapshot, same.state, same.aborted]
    exact moves.snapshot
  updatedAt t u before after := by
    rw [same.snapshot] at after
    exact moves.updatedAt t u before after

/-- A terminal task keeps its snapshot. -/
theorem TaskMoves.terminal (moves : TaskMoves host task task')
    (terminal : isTerminalTaskState task.state = true) : task'.snapshot = task.snapshot := by
  obtain same | ⟨legal, _⟩ := moves.snapshot
  · exact same
  · rw [not_terminal_of_canTransition legal] at terminal
    cases terminal

theorem LifecycleStep.refl (host : Host) (op : StoreOp) (s : TaskStore) :
    LifecycleStep host op s s where
  allocated := le_rfl
  moved r _ := .refl host (s.heap r)
  aborts _ _ aborted := .inl aborted
  created _ above below := absurd below (Nat.not_lt.mpr above)
  removed _ _ present absent := absurd present absent

theorem LifecycleState.quiet (state : LifecycleState host s) (quiet : Quiet s s') :
    LifecycleState host s' := by
  obtain ⟨now, readings, rfl⟩ := quiet
  exact ⟨state.stored, state.tasks, state.queued⟩

theorem LifecycleStep.quiet (step : LifecycleStep host op s₀ s) (quiet : Quiet s s') :
    LifecycleStep host op s₀ s' := by
  obtain ⟨now, readings, rfl⟩ := quiet
  exact ⟨step.allocated, step.moved, step.aborts, step.created, step.removed⟩

/-- What the host does during a callback. -/
abbrev HostMoves (host : Host) : TaskStore → TaskStore → Prop := Machine.Rely (LifecycleStep host)

theorem HostMoves.allocated (moves : HostMoves host s s') : s.nextRecord ≤ s'.nextRecord := by
  induction moves with
  | refl => exact le_rfl
  | tail _ step ih =>
    obtain ⟨op, step⟩ := step
    exact ih.trans step.allocated

theorem HostMoves.aborted (moves : HostMoves host s s') (known : r < s.nextRecord)
    (aborted : (s.heap r).aborted = true) : (s'.heap r).aborted = true := by
  induction moves with
  | refl => exact aborted
  | tail earlier step ih =>
    obtain ⟨op, step⟩ := step
    exact (step.moved r (known.trans_le (HostMoves.allocated earlier))).aborted ih

/-- The host cannot revive a terminal task. -/
theorem HostMoves.terminal (moves : HostMoves host s s') (known : r < s.nextRecord)
    (terminal : isTerminalTaskState (s.heap r).state = true) :
    isTerminalTaskState (s'.heap r).state = true := by
  induction moves with
  | refl => exact terminal
  | tail earlier step ih =>
    obtain ⟨op, step⟩ := step
    have same := (step.moved r (known.trans_le (HostMoves.allocated earlier))).terminal ih
    rw [StoredTask.state, same]
    exact ih

/-! Code without callbacks. -/

/-- The code runs to its end, reading clocks at most, and its answer meets `P`. -/
def Quietly (P : α → Prop) (code : StoreM α) : Prop :=
  ∀ s, ∃ s' result, code s = .done s' result ∧ Quiet s s' ∧ ∀ a, result = .ok a → P a

theorem Quietly.pure {P : α → Prop} (holds : P a) : Quietly P (Pure.pure a : StoreM α) := by
  intro s
  refine ⟨s, .ok a, rfl, .refl s, ?_⟩
  rintro _ ⟨⟩
  exact holds

theorem quietly_ofExcept {P : α → Prop} {result : Except StoreError α}
    (holds : ∀ a, result = .ok a → P a) : Quietly P (Code.ofExcept result) :=
  fun s => ⟨s, result, rfl, .refl s, holds⟩

theorem quietly_currentNow : Quietly (fun _ => True) currentNow :=
  fun _ => ⟨_, _, rfl, ⟨_, 0, rfl⟩, fun _ _ => trivial⟩

theorem quietly_currentMonotonic : Quietly (fun _ => True) currentMonotonic :=
  fun s => ⟨_, _, rfl, ⟨s.nowFn, 1, rfl⟩, fun _ _ => trivial⟩

theorem Quietly.bind {P : α → Prop} {Q : β → Prop} {code : StoreM α} {next : α → StoreM β}
    (first : Quietly P code) (second : ∀ a, P a → Quietly Q (next a)) :
    Quietly Q (code >>= next) := by
  intro s
  obtain ⟨s', result, ran, quiet, holds⟩ := first s
  cases result with
  | error e =>
    refine ⟨s', .error e, ?_, quiet, nofun⟩
    simp [Code.bind_apply, ran]
  | ok a =>
    obtain ⟨s'', result, ran', quiet', holds'⟩ := second a (holds a rfl) s'
    refine ⟨s'', result, ?_, quiet.trans quiet', holds'⟩
    simp [Code.bind_apply, ran, ran']

theorem Quietly.imp {P Q : α → Prop} {code : StoreM α} (quietly : Quietly P code)
    (weaker : ∀ a, P a → Q a) : Quietly Q code := by
  intro s
  obtain ⟨s', result, ran, quiet, holds⟩ := quietly s
  exact ⟨s', result, ran, quiet, fun a same => weaker a (holds a same)⟩

theorem quietly_timestamp (input : TimestampInput) :
    Quietly (fun stamp => normalizeTimestamp o.host input = .ok stamp) (timestamp o input) := by
  refine quietly_ofExcept fun stamp mapped => ?_
  cases normal : normalizeTimestamp o.host input with
  | error message => simp [normal, Except.mapError] at mapped
  | ok value => simpa [normal, Except.mapError] using mapped

theorem quietly_nowStamp (epochMs : ℚ) :
    Quietly (fun stamp => nowTimestamp o.host epochMs = .ok stamp) (nowStamp o epochMs) :=
  quietly_timestamp _

theorem quietly_nextCancellation (task : StoredTask) (nextState : TaskState)
    (update : TaskTransitionUpdate) :
    Quietly (fun _ => True) (nextCancellation o task nextState update) := by
  unfold nextCancellation
  dsimp only
  split
  · split
    · exact (quietly_timestamp _).bind fun _ _ => .pure trivial
    · exact quietly_currentNow.bind fun _ _ => (quietly_nowStamp _).bind fun _ _ => .pure trivial
  · split
    · exact (quietly_timestamp _).bind fun _ _ => .pure trivial
    · exact .pure trivial

/-- The next time of a task is a time value, and not before its last one. -/
def NextTime (host : Host) (task : StoredTask) (stamp : NormalizedTimestamp) : Prop :=
  ∃ u, Date.parse host stamp.value = some u ∧ Date.timeClip stamp.epochMs = some u ∧
    ∀ t, Date.timeClip task.updatedAtMs = some t → t ≤ u

theorem quietly_nextUpdatedAt (task : StoredTask) (value : Option TimestampInput) :
    Quietly (NextTime o.host task) (nextUpdatedAt o task value) := by
  unfold nextUpdatedAt
  have later : ∀ stamp, (∃ input, normalizeTimestamp o.host input = .ok stamp) →
      Quietly (NextTime o.host task)
        (if task.updatedAtMs ≤ stamp.epochMs then pure stamp else nowStamp o task.updatedAtMs) := by
    rintro stamp ⟨input, normal⟩
    split
    · rename_i later
      obtain ⟨u, parsed, clipped⟩ := parse_normalizeTimestamp normal
      exact .pure ⟨u, parsed, clipped, fun t before => Date.timeClip_mono later before clipped⟩
    · -- the clock has gone back: the last time is kept
      refine (quietly_nowStamp task.updatedAtMs).imp fun stamp same => ?_
      obtain ⟨u, parsed, clipped⟩ := parse_normalizeTimestamp same
      refine ⟨u, parsed, clipped, fun t before => ?_⟩
      obtain ⟨stamp', written, epoch⟩ := nowTimestamp_ok o.host before
      rw [written] at same
      cases same
      rw [epoch, Date.timeClip_intCast] at clipped
      obtain ⟨rfl, _⟩ := Date.clip_eq_some_iff.mp clipped
      exact le_rfl
  refine quietly_currentNow.bind fun now _ => ?_
  cases value with
  | none => exact (quietly_nowStamp now).bind fun stamp normal => later stamp ⟨_, normal⟩
  | some input => exact (quietly_timestamp input).bind fun stamp normal => later stamp ⟨_, normal⟩

/-- What a transition is about to commit. -/
structure NextSnapshot (host : Host) (task : StoredTask) (nextState : TaskState)
    (snapshot : TaskSnapshot) (updatedAtMs : ℚ) : Prop where
  state : snapshot.state = nextState
  createdAt : snapshot.createdAt = task.snapshot.createdAt
  expiresAt : snapshot.expiresAt = task.snapshot.expiresAt
  outcome : snapshot.terminalOutcome = if isTerminalTaskState nextState then some nextState else none
  updatedAt : NextTime host task ⟨snapshot.updatedAt, updatedAtMs⟩

theorem buildSnapshot_ok {response : TaskResponse}
    (built : buildSnapshot o requestId state createdAt updatedAt expiresAt requested requestedAt
      content error response = .ok snapshot) :
    snapshot.requestId = requestId ∧ snapshot.state = state ∧ snapshot.createdAt = createdAt ∧
      snapshot.updatedAt = updatedAt ∧ snapshot.expiresAt = expiresAt ∧
      snapshot.terminalOutcome = if isTerminalTaskState state then some state else none := by
  unfold buildSnapshot at built
  dsimp only at built
  split at built
  · cases built
    exact ⟨rfl, rfl, rfl, rfl, rfl, rfl⟩
  · cases built

theorem quietly_buildNextSnapshot (task : StoredTask) (nextState : TaskState)
    (update : TaskTransitionUpdate) :
    Quietly (fun next => NextSnapshot o.host task nextState next.1 next.2)
      (buildNextSnapshot o task nextState update) := by
  unfold buildNextSnapshot
  refine (quietly_nextCancellation task nextState update).bind fun cancellation _ => ?_
  refine (quietly_nextUpdatedAt task update.updatedAt).bind fun stamp time => ?_
  refine (quietly_ofExcept fun snapshot built => buildSnapshot_ok built).bind fun snapshot built => ?_
  obtain ⟨_, state, createdAt, updatedAt, expiresAt, outcome⟩ := built
  exact .pure ⟨state, createdAt, expiresAt, outcome, by rw [updatedAt]; exact time⟩

/-! The transition of one task. -/

/-- A task as the transition to `snapshot` leaves it, aborted or not. -/
structure Transitioned (task task' : StoredTask) (next : TaskSnapshot) (updatedAtMs : ℚ) :
    Prop where
  requestId : task'.requestId = task.requestId
  snapshot : task'.snapshot = next
  updatedAtMs : task'.updatedAtMs = updatedAtMs
  purge : task'.purgeTimer.isSome = true → task.purgeTimer.isSome = true ∨
    isTerminalTaskState next.state = true
  aborted : task'.aborted = true ↔ task.aborted = true ∨ Aborting next.state

/-- The store with one task replaced and the queued index brought up to date. -/
def replaceTask (s : TaskStore) (r : RecordId) (task' : StoredTask) : TaskStore :=
  { s with
    heap := Function.update s.heap r task'
    queued := if task'.state = .queued then insert (s.heap r).requestId s.queued
      else s.queued.erase (s.heap r).requestId }

section Replace

variable {host : Host} {s : TaskStore} {r : RecordId} {task' : StoredTask}

theorem transitioned_moves (well : TaskWellFormed host task)
    (legal : canTransitionTaskState task.state nextState = true)
    (next : NextSnapshot host task nextState snapshot updatedAtMs)
    (moved : Transitioned task task' snapshot updatedAtMs) : TaskMoves host task task' where
  requestId := moved.requestId
  aborted aborted := moved.aborted.mpr (.inl aborted)
  snapshot := by
    refine .inr ⟨?_, ?_, ?_, fun aborting => moved.aborted.mpr (.inr ?_)⟩
    · rw [StoredTask.state.eq_def task', moved.snapshot, next.state]
      exact legal
    · rw [moved.snapshot, next.createdAt]
    · rw [moved.snapshot, next.expiresAt]
    · rwa [StoredTask.state, moved.snapshot] at aborting
  updatedAt t u before after := by
    obtain ⟨created, updated, _, parsed, _, clipped⟩ := well.times
    obtain ⟨u', parsed', _, later⟩ := next.updatedAt
    rw [parsed] at before
    rw [moved.snapshot] at after
    cases before
    cases parsed'.symm.trans after
    exact later _ clipped

theorem transitioned_well (well : TaskWellFormed host task)
    (legal : canTransitionTaskState task.state nextState = true)
    (next : NextSnapshot host task nextState snapshot updatedAtMs)
    (moved : Transitioned task task' snapshot updatedAtMs) : TaskWellFormed host task' where
  outcome := by
    rw [StoredTask.state, moved.snapshot, next.outcome, next.state]
  times := by
    obtain ⟨created, updated, parsedCreated, _, ordered, clipped⟩ := well.times
    obtain ⟨u, parsed, clipped', later⟩ := next.updatedAt
    refine ⟨created, u, ?_, ?_, ordered.trans (later _ clipped), ?_⟩
    · rw [moved.snapshot, next.createdAt, parsedCreated]
    · rw [moved.snapshot, parsed]
    · rw [moved.updatedAtMs, clipped']
  purge armed := by
    obtain armed | terminal := moved.purge armed
    · have terminal := well.purge armed
      rw [not_terminal_of_canTransition legal] at terminal
      cases terminal
    · rwa [StoredTask.state, moved.snapshot]

/-- The transition of a stored task keeps the store in order. -/
theorem lifecycleState_replaceTask (state : LifecycleState host s)
    (stored : s.records.get? (s.heap r).requestId = some r)
    (requestId : task'.requestId = (s.heap r).requestId) (well : TaskWellFormed host task') :
    LifecycleState host (replaceTask s r task') where
  stored key r' present := by
    obtain ⟨known, same⟩ := state.stored key r' present
    refine ⟨known, ?_⟩
    by_cases this : r' = r
    · subst this
      simpa [replaceTask, requestId] using same
    · simpa [replaceTask, Function.update_of_ne this] using same
  tasks r' known := by
    by_cases this : r' = r
    · subst this
      simpa [replaceTask] using well
    · simpa [replaceTask, Function.update_of_ne this] using state.tasks r' known
  queued key := by
    by_cases this : key = (s.heap r).requestId
    · subst this
      by_cases now : task'.state = .queued <;> simp [replaceTask, now, stored]
    · -- another key names another task, which the update leaves alone
      have others : ∀ r', s.records.get? key = some r' → r' ≠ r := by
        rintro r' present rfl
        exact this (state.stored key r' present).2.symm
      have indexed : key ∈ (replaceTask s r task').queued ↔ key ∈ s.queued := by
        by_cases now : task'.state = .queued <;> simp [replaceTask, now, this]
      rw [indexed, state.queued key]
      constructor
      · rintro ⟨r', present, waiting⟩
        exact ⟨r', present, by simpa [replaceTask, Function.update_of_ne (others r' present)] using waiting⟩
      · rintro ⟨r', present, waiting⟩
        exact ⟨r', present, by simpa [replaceTask, Function.update_of_ne (others r' present)] using waiting⟩

/-- The transition of a task is a lifecycle step when the segment has not touched
the task before, or made it and now expires it. -/
theorem lifecycleStep_replaceTask (step : LifecycleStep host op s₀ s)
    (untouched : r < s₀.nextRecord → SameTask (s₀.heap r) (s.heap r))
    (expires : s₀.nextRecord ≤ r → task'.state = .expired)
    (changes : task'.state ≠ (s.heap r).state)
    (moves : TaskMoves host (s.heap r) task')
    (aborted : task'.aborted = true ↔ (s.heap r).aborted = true ∨ Aborting task'.state) :
    LifecycleStep host op s₀ (replaceTask s r task') where
  allocated := step.allocated
  moved r' known := by
    by_cases this : r' = r
    · subst this
      simpa [replaceTask] using moves.of_same (untouched known)
    · simpa [replaceTask, Function.update_of_ne this] using step.moved r' known
  aborts r' known := by
    by_cases this : r' = r
    · subst this
      rw [(untouched known).aborted] at aborted
      rw [(untouched known).state] at changes
      simp only [replaceTask, Function.update_self, aborted]
      rintro (before | aborting)
      · exact .inl before
      · exact .inr (.inl ⟨changes, aborting⟩)
    · simpa [replaceTask, Function.update_of_ne this] using step.aborts r' known
  created r' new known := by
    by_cases this : r' = r
    · subst this
      have expired := expires new
      simp [replaceTask, aborted, expired, Aborting]
    · simpa [replaceTask, Function.update_of_ne this] using step.created r' new known
  removed key r' present absent := by
    by_cases this : r' = r
    · subst this
      obtain terminal | ⟨cleared, aborted'⟩ := step.removed key r' present absent
      · exact .inl terminal
      · exact .inr ⟨cleared, by simpa [replaceTask] using moves.aborted aborted'⟩
    · simpa [replaceTask, Function.update_of_ne this] using step.removed key r' present absent

end Replace

/-! Segments of the operations. -/

/-- Each segment of the code is a lifecycle step of `op` and keeps the store in
order, whatever the host does in between. -/
abbrev Runs (o : TaskStoreOptions) (op : StoreOp) (Q : TaskStore → TaskStore → α → Prop)
    (code : Sync TaskStore StoreCallback α) (s₀ : TaskStore) : Prop :=
  code.Keeps (LifecycleState o.host) (LifecycleStep o.host op) (HostMoves o.host) Q s₀

/-- Whatever happens to the signal, the committed task is the transitioned one. -/
theorem commitTask_transitioned (o : TaskStoreOptions) (task : StoredTask) (next : TaskSnapshot)
    (updatedAtMs : ℚ) {aborted : Bool} (reason : Option JsString)
    (signal : aborted = true ↔ task.aborted = true ∨ Aborting next.state) :
    Transitioned task (signalled aborted reason (commitTask o task next updatedAtMs)) next
      updatedAtMs := by
  by_cases terminal : isTerminalTaskState next.state = true
  · cases retention : o.terminalRetentionMs with
    | none =>
      simp only [signalled, commitTask, schedulePurge, clearExpiry, terminal, retention, ↓reduceIte]
      exact ⟨rfl, rfl, rfl, .inl, signal⟩
    | some delayMs =>
      simp only [signalled, commitTask, schedulePurge, clearExpiry, terminal, retention, ↓reduceIte]
      exact ⟨rfl, rfl, rfl, fun _ => .inr terminal, signal⟩
  · simp only [signalled, commitTask, terminal, Bool.false_eq_true, ↓reduceIte]
    exact ⟨rfl, rfl, rfl, .inl, signal⟩

theorem commitTask_state (o : TaskStoreOptions) (task : StoredTask) (next : TaskSnapshot)
    (updatedAtMs : ℚ) : (commitTask o task next updatedAtMs).state = next.state := by
  unfold commitTask schedulePurge clearExpiry StoredTask.state
  dsimp only
  split
  · split <;> rfl
  · rfl

theorem commit_eq (o : TaskStoreOptions) (s : TaskStore) (r : RecordId) (next : TaskSnapshot)
    (updatedAtMs : ℚ) :
    commit o s r next updatedAtMs = replaceTask s r (commitTask o (s.heap r) next updatedAtMs) := by
  simp [commit, replaceTask, TaskStore.update, commitTask_state]

theorem signalled_commitTask (o : TaskStoreOptions) (task : StoredTask) (next : TaskSnapshot)
    (updatedAtMs : ℚ) : ∃ reason,
    signalled task.aborted reason (commitTask o task next updatedAtMs) =
      commitTask o task next updatedAtMs := by
  refine ⟨task.abortReason, ?_⟩
  by_cases terminal : isTerminalTaskState next.state = true
  · cases retention : o.terminalRetentionMs with
    | none => simp [signalled, commitTask, schedulePurge, clearExpiry, terminal, retention]
    | some delayMs => simp [signalled, commitTask, schedulePurge, clearExpiry, terminal, retention]
  · simp [signalled, commitTask, terminal]

@[simp] theorem signalled_signalled (a b : Bool) (x y : Option JsString) (task : StoredTask) :
    signalled a x (signalled b y task) = signalled a x task := rfl

theorem update_replaceTask (s : TaskStore) (r : RecordId) (task : StoredTask) (aborted : Bool)
    (reason : Option JsString) :
    (replaceTask s r task).update r (signalled aborted reason) =
      replaceTask s r (signalled aborted reason task) := by
  simp only [replaceTask, TaskStore.update, Function.update_self, Function.update_idem]
  rfl

theorem abort_bind (r : RecordId) (reason : Option JsString) (next : Unit → StoreM β)
    (s : TaskStore) :
    (abort r reason >>= next) s = if (s.heap r).aborted = true then next () s
      else (Code.notify (.abortListeners r reason) >>= next)
        (s.update r (signalled true reason)) := by
  by_cases aborted : (s.heap r).aborted = true
  · simp only [abort, Code.bind_apply, Code.read, Sync.bind_done, aborted, Bool.not_true,
      Bool.false_eq_true, ↓reduceIte]
    rfl
  · simp only [abort, Code.bind_apply, Code.read, Sync.bind_done, aborted, Bool.not_false,
      ↓reduceIte]
    rfl

section Segments

variable {o : TaskStoreOptions} {op : StoreOp}

/-- At the start of a segment, a hook that may or may not be called. -/
theorem runs_notifyIf (condition : Prop) [Decidable condition] (hook : StoreCallback)
    (state : LifecycleState o.host s) :
    Runs o op (fun s₁ s' result => s' = s₁ ∧ HostMoves o.host s s₁ ∧ result = .ok ())
      ((if condition then Code.notify hook else pure () : StoreM Unit) s) s := by
  by_cases called : condition
  · rw [if_pos called]
    exact Code.keeps_notify (.refl o.host op s) state fun s₁ state₁ moves => ⟨rfl, moves, rfl⟩
  · rw [if_neg called]
    exact ⟨rfl, .refl, rfl⟩

/-- The hooks that follow a committed transition find and leave a store in order. -/
theorem runs_notifyTransition (task : StoredTask) (next : TaskSnapshot) (reason : Option JsString)
    (step : LifecycleStep o.host op s₀ s) (state : LifecycleState o.host s) :
    Runs o op (fun s₁ s' result => s' = s₁ ∧ HostMoves o.host s s₁ ∧ result = .ok ())
      (notifyTransition task next reason s) s₀ := by
  unfold notifyTransition notifyExpired
  refine Code.keeps_notify_bind step state fun s₁ state₁ moves₁ => ?_
  refine Code.keeps_bind (runs_notifyIf _ _ state₁) state₁ ?_ ?_
  · rintro s₂ _ _ state₂ ⟨rfl, moves₂, _⟩
    refine (runs_notifyIf _ _ state₂).imp ?_
    rintro s₃ _ _ ⟨rfl, moves₃, rfl⟩
    exact ⟨rfl, (moves₁.trans moves₂).trans moves₃, rfl⟩
  · rintro s₂ _ _ _ ⟨_, _, impossible⟩
    cases impossible

/-- After the linearization point: the signal and the hooks. -/
theorem runs_announce {reason : Option JsString} (settled : task'.state = next.state)
    (unmarked : ∃ x, signalled task.aborted x task' = task')
    (committed : ∀ aborted x, (aborted = true ↔ task.aborted = true ∨ Aborting next.state) →
      LifecycleStep o.host op s₀ (replaceTask s r (signalled aborted x task')) ∧
      LifecycleState o.host (replaceTask s r (signalled aborted x task'))) :
    Runs o op (fun s₁ s' result => s' = s₁ ∧ result = .ok () ∧
        ∃ task'', task''.state = next.state ∧ HostMoves o.host (replaceTask s r task'') s₁)
      (announce r task next reason (replaceTask s r task')) s₀ := by
  obtain ⟨x, unmarked⟩ := unmarked
  -- no listener runs before the first hook
  have unsignalled : (task.aborted = true ↔ task.aborted = true ∨ Aborting next.state) →
      Runs o op (fun s₁ s' result => s' = s₁ ∧ result = .ok () ∧
        ∃ task'', task''.state = next.state ∧ HostMoves o.host (replaceTask s r task'') s₁)
        (notifyTransition task next reason (replaceTask s r task')) s₀ := by
    intro signal
    obtain ⟨step, state⟩ := committed task.aborted x signal
    rw [unmarked] at step state
    refine (runs_notifyTransition task next reason step state).imp ?_
    rintro s₁ _ _ ⟨rfl, moves, rfl⟩
    exact ⟨rfl, rfl, task', settled, moves⟩
  have mark : ((replaceTask s r task').heap r).aborted = task.aborted := by
    rw [← unmarked]
    simp [replaceTask, signalled]
  unfold announce
  dsimp only
  split
  · rename_i aborting
    rw [abort_bind, mark]
    by_cases aborted : task.aborted = true
    · rw [if_pos aborted]
      exact unsignalled (by simp [aborted])
    · rw [if_neg aborted, update_replaceTask]
      obtain ⟨step, state⟩ := committed true reason (by simp [Aborting, aborting])
      refine Code.keeps_notify_bind step state fun s₁ state₁ moves₁ => ?_
      refine (runs_notifyTransition task next reason (.refl o.host op s₁) state₁).imp ?_
      rintro s₂ _ _ ⟨rfl, moves₂, rfl⟩
      exact ⟨rfl, rfl, signalled true reason task', settled, moves₁.trans moves₂⟩
  · rename_i calm
    exact unsignalled (by simp [Aborting, calm])

/-- A segment of `op` that began in `s₀` and has not moved a task yet. -/
structure Pending (o : TaskStoreOptions) (op : StoreOp) (s₀ s : TaskStore) : Prop where
  start : LifecycleState o.host s₀
  state : LifecycleState o.host s
  step : LifecycleStep o.host op s₀ s
  untouched : ∀ r < s₀.nextRecord, SameTask (s₀.heap r) (s.heap r)

theorem Pending.refl (start : LifecycleState o.host s) : Pending o op s s :=
  ⟨start, start, .refl o.host op s, fun r _ => .refl (s.heap r)⟩

theorem Pending.quiet (pending : Pending o op s₀ s) (quiet : Quiet s s') : Pending o op s₀ s' := by
  refine ⟨pending.start, pending.state.quiet quiet, pending.step.quiet quiet, ?_⟩
  obtain ⟨_, _, rfl⟩ := quiet
  exact pending.untouched

/-- Nothing has happened since `s`, or a new segment has begun and nothing in it. -/
def Later (s₀ s s₁ s' : TaskStore) : Prop :=
  (s₁ = s₀ ∧ Quiet s s') ∨ Quiet s₁ s' ∧ s.nextRecord ≤ s'.nextRecord

theorem Quiet.nextRecord (quiet : Quiet s s') : s'.nextRecord = s.nextRecord := by
  obtain ⟨_, _, rfl⟩ := quiet
  rfl

theorem Pending.later (pending : Pending o op s₀ s) (state₁ : LifecycleState o.host s₁)
    (later : Later s₀ s s₁ s') : Pending o op s₁ s' := by
  obtain ⟨rfl, quiet⟩ | ⟨quiet, _⟩ := later
  · exact pending.quiet quiet
  · exact (Pending.refl state₁).quiet quiet

theorem Later.refl (s₀ s : TaskStore) : Later s₀ s s₀ s := .inl ⟨rfl, .refl s⟩

theorem Later.nextRecord (later : Later s₀ s s₁ s') : s.nextRecord ≤ s'.nextRecord := by
  obtain ⟨_, quiet⟩ | ⟨_, allocated⟩ := later
  · exact quiet.nextRecord.ge
  · exact allocated

theorem Later.trans (first : Later s₀ s s₁ s') (second : Later s₁ s' s₂ s'') :
    Later s₀ s s₂ s'' := by
  obtain ⟨rfl, quiet'⟩ | ⟨quiet', allocated'⟩ := second
  · obtain ⟨rfl, quiet⟩ | ⟨quiet, allocated⟩ := first
    · exact .inl ⟨rfl, quiet.trans quiet'⟩
    · exact .inr ⟨quiet.trans quiet', allocated.trans quiet'.nextRecord.ge⟩
  · exact .inr ⟨quiet', first.nextRecord.trans allocated'⟩

/-- Code that leaves no change behind in its last segment. -/
theorem Later.quiet (quiet : Quiet s₀ s) (later : Later s₀ s s₁ s') : Quiet s₁ s' := by
  obtain ⟨rfl, quiet'⟩ | ⟨quiet', _⟩ := later
  · exact quiet.trans quiet'
  · exact quiet'

theorem keeps_quietly {P : α → Prop} {code : StoreM α} {next : α → StoreM β}
    {Q : TaskStore → TaskStore → Except StoreError β → Prop} (quietly : Quietly P code)
    (rest : ∀ s' a, Quiet s s' → P a → Runs o op Q (next a s') s₀)
    (thrown : ∀ s' e, Quiet s s' → Q s₀ s' (.error e)) :
    Runs o op Q ((code >>= next) s) s₀ := by
  obtain ⟨s', result, ran, quiet, holds⟩ := quietly s
  rw [Code.bind_apply, ran, Sync.bind_done]
  cases result with
  | ok a => exact rest s' a quiet (holds a rfl)
  | error e => exact thrown s' e quiet

theorem canTransition_ne (legal : canTransitionTaskState source target = true) :
    target ≠ source := by
  rintro rfl
  cases target <;> simp [canTransitionTaskState, taskStateTransitions] at legal

/-- The body of `tryTransition` on a stored record: it changes nothing, or
commits one transition of it. -/
theorem runs_transitionRecord (expectedState : Option TaskState) (nextState : TaskState)
    (update : TaskTransitionUpdate) (pending : Pending o op s₀ s)
    (stored : isTerminalTaskState (s.heap r).state = false →
      s.records.get? (s.heap r).requestId = some r) (known : r < s.nextRecord)
    (expires : s₀.nextRecord ≤ r → nextState = .expired) :
    Runs o op (fun s₁ s' result => Later s₀ s s₁ s' ∧
        (nextState = .expired → expectedState = none → result.toOption ≠ none →
          isTerminalTaskState (s'.heap r).state = true))
      (transitionRecord o r expectedState nextState update s) s₀ := by
  unfold transitionRecord
  rw [Code.read_bind]
  dsimp only
  have nothing : ∀ result : TaskTransitionResult,
      (nextState = .expired → expectedState = none →
        isTerminalTaskState (s.heap r).state = true) →
      Runs o op (fun s₁ s' result => Later s₀ s s₁ s' ∧
        (nextState = .expired → expectedState = none → result.toOption ≠ none →
          isTerminalTaskState (s'.heap r).state = true)) ((pure result : StoreM _) s) s₀ :=
    fun result terminal => ⟨.inl ⟨rfl, .refl s⟩, fun expiring any _ => terminal expiring any⟩
  split
  · rename_i mismatch
    exact nothing _ fun _ any => by simp [any] at mismatch
  split
  · rename_i terminal
    exact nothing _ fun _ _ => terminal
  split
  · rename_i live illegal
    refine nothing _ fun expiring _ => ?_
    subst expiring
    have live : isTerminalTaskState (s.heap r).snapshot.state = false := by simpa using live
    simp [canTransition_expired live] at illegal
  rename_i live illegal
  have live : isTerminalTaskState (s.heap r).state = false := by simpa [StoredTask.state] using live
  have legal : canTransitionTaskState (s.heap r).state nextState = true := by
    simpa [StoredTask.state] using illegal
  refine keeps_quietly (quietly_buildNextSnapshot _ _ _) ?_ ?_
  · rintro s' ⟨next, updatedAtMs⟩ quiet built
    have pending := pending.quiet quiet
    obtain ⟨nowFn, readings, rfl⟩ := quiet
    rw [Code.modify_bind, commit_eq]
    refine Code.keeps_bind (runs_announce (commitTask_state o (s.heap r) next updatedAtMs)
      (signalled_commitTask o (s.heap r) next updatedAtMs) ?_) pending.start ?_ ?_
    · intro aborted x signal
      have moved := commitTask_transitioned o (s.heap r) next updatedAtMs x signal
      have moves := transitioned_moves (pending.state.tasks r known) legal built moved
      have well := transitioned_well (pending.state.tasks r known) legal built moved
      have state' : (signalled aborted x (commitTask o (s.heap r) next updatedAtMs)).state =
          nextState := (congrArg TaskSnapshot.state moved.snapshot).trans built.state
      refine ⟨lifecycleStep_replaceTask pending.step (pending.untouched r) ?_ ?_ moves ?_,
        lifecycleState_replaceTask pending.state (stored live) moved.requestId well⟩
      · intro new
        rw [state', expires new]
      · rw [state']
        exact canTransition_ne legal
      · rw [moved.aborted, state', built.state]
    · rintro s₁ _ _ state₁ ⟨rfl, _, task'', settled, moves⟩
      refine ⟨.inr ⟨.refl _, moves.allocated⟩, fun expiring _ _ => ?_⟩
      refine moves.terminal known ?_
      simp only [replaceTask, Function.update_self, settled]
      rw [built.state, expiring]
      rfl
    · rintro s₁ _ _ _ ⟨_, impossible, _⟩
      cases impossible
  · exact fun s' e quiet => ⟨.inl ⟨rfl, quiet⟩, by simp [Except.toOption]⟩

/-- `ensureUsable` lets the code go on or ends it. -/
theorem runs_ensureUsable_bind {next : Unit → StoreM β}
    {Q : TaskStore → TaskStore → Except StoreError β → Prop}
    (rest : Runs o op Q (next () s) s₀) (disposed : ∀ e, Q s₀ s (.error e)) :
    Runs o op Q ((ensureUsable >>= next) s) s₀ := by
  unfold ensureUsable
  rw [Code.bind_apply, Code.read_bind]
  by_cases closed : s.disposed = true
  · rw [if_pos closed]
    exact disposed _
  · rw [if_neg closed]
    exact rest

/-- Expiring a stored record leaves it terminal. -/
theorem runs_expireRecord (pending : Pending o op s₀ s) :
    Runs o op (fun s₁ s' result => Later s₀ s s₁ s' ∧
        (s.records.get? (s.heap r).requestId = some r → result = .ok () →
          isTerminalTaskState (s'.heap r).state = true)) (expireRecord o r s) s₀ := by
  unfold expireRecord
  rw [Code.read_bind]
  split
  · rename_i skipped
    refine ⟨.refl s₀ s, fun stored _ => ?_⟩
    simpa [JsMap.has, stored] using skipped
  · refine runs_ensureUsable_bind ?_ fun e => ⟨.refl s₀ s, fun _ failed => by cases failed⟩
    rw [Code.read_bind]
    cases found : s.find (s.heap r).requestId with
    | none => exact ⟨.refl s₀ s, fun stored _ => by rw [← TaskStore.find, found] at stored; cases stored⟩
    | some r' =>
      obtain ⟨known', same⟩ := pending.state.stored _ r' found
      refine Code.keeps_bind (runs_transitionRecord none .expired expiredUpdate pending
        (fun _ => by rw [same]; exact found) known' (fun _ => rfl)) pending.start ?_ ?_
      · rintro s₁ s' result _ ⟨later, terminal⟩
        refine ⟨later, fun stored _ => ?_⟩
        cases stored.symm.trans found
        exact terminal rfl rfl (by simp [Except.toOption])
      · rintro s₁ s' e _ ⟨later, _⟩
        exact ⟨later, fun _ failed => by cases failed⟩

/-- A stored record is live, with its deadline ahead, or terminal afterwards. -/
theorem runs_expireIfDue (pending : Pending o op s₀ s) :
    Runs o op (fun s₁ s' result => Later s₀ s s₁ s' ∧
        (s.records.get? (s.heap r).requestId = some r → result = .ok () →
          (s₁ = s₀ ∧ Quiet s s') ∨ isTerminalTaskState (s'.heap r).state = true))
      (expireIfDue o r s) s₀ := by
  unfold expireIfDue
  rw [Code.read_bind]
  split
  · exact ⟨.refl s₀ s, fun _ _ => .inl ⟨rfl, .refl s⟩⟩
  · refine keeps_quietly quietly_currentMonotonic ?_ fun s' e quiet =>
      ⟨.inl ⟨rfl, quiet⟩, fun _ failed => by cases failed⟩
    intro s' now quiet _
    split
    · have pending' := pending.quiet quiet
      have unchanged : s'.heap = s.heap ∧ s'.records = s.records := by
        obtain ⟨_, _, rfl⟩ := quiet
        exact ⟨rfl, rfl⟩
      refine (runs_expireRecord pending').imp ?_
      rintro s₁ s'' result ⟨later, terminal⟩
      refine ⟨.trans (.inl ⟨rfl, quiet⟩) later, fun stored done => .inr (terminal ?_ done)⟩
      rw [unchanged.1, unchanged.2]
      exact stored
    · exact ⟨.inl ⟨rfl, quiet⟩, fun _ _ => .inl ⟨rfl, quiet⟩⟩

/-- `tryTransition`, started anywhere. -/
theorem runs_tryTransition (requestId : JsString) (expectedState : Option TaskState)
    (nextState : TaskState) (update : TaskTransitionUpdate) (start : LifecycleState o.host s₀)
    (quiet : Quiet s₀ s) :
    Runs o op (fun s₁ s' _ => Quiet s₁ s')
      (tryTransition o requestId expectedState nextState update s) s₀ := by
  unfold tryTransition
  refine runs_ensureUsable_bind ?_ fun _ => quiet
  rw [Code.read_bind]
  have pending : Pending o op s₀ s := (Pending.refl start).quiet quiet
  cases found : s.find requestId with
  | none => exact quiet
  | some r =>
    obtain ⟨known, rfl⟩ := pending.state.stored _ r found
    dsimp only
    split
    · refine Code.keeps_bind (runs_expireIfDue pending) start ?_ ?_
      · rintro s₁ s' _ state₁ ⟨later, outcome⟩
        have known' : r < s'.nextRecord := known.trans_le later.nextRecord
        refine (runs_transitionRecord expectedState nextState update (pending.later state₁ later)
          (fun live => ?_) known' fun new => ?_).imp fun s₂ s'' _ post => post.1.quiet (later.quiet quiet)
        · obtain ⟨_, unchanged⟩ | terminal := outcome found rfl
          · obtain ⟨_, _, rfl⟩ := unchanged
            exact found
          · rw [StoredTask.state] at live
            simp [StoredTask.state, live] at terminal
        · rw [(later.quiet quiet).nextRecord] at known'
          exact absurd new (Nat.not_le.mpr known')
      · exact fun s₁ s' _ _ ⟨later, _⟩ => later.quiet quiet
    · refine (runs_transitionRecord expectedState nextState update pending (fun _ => found) known
        fun new => ?_).imp fun s₁ s' _ post => post.1.quiet quiet
      rw [quiet.nextRecord] at known
      exact absurd new (Nat.not_le.mpr known)

/-- Started from a store in order, the code keeps it so and ends a segment in
which it has done nothing. -/
def Calm (o : TaskStoreOptions) (op : StoreOp) (code : StoreM α) : Prop :=
  ∀ s₀ s, LifecycleState o.host s₀ → Quiet s₀ s →
    Runs o op (fun s₁ s' _ => Quiet s₁ s') (code s) s₀

theorem Calm.bind {code : StoreM α} {next : α → StoreM β} (first : Calm o op code)
    (second : ∀ a, Calm o op (next a)) : Calm o op (code >>= next) := by
  intro s₀ s start quiet
  refine Code.keeps_bind (first s₀ s start quiet) start ?_ fun _ _ _ _ quiet' => quiet'
  exact fun s₁ s' a state₁ quiet' => second a s₁ s' state₁ quiet'

theorem calm_pure (a : α) : Calm o op (pure a) := fun _ _ _ quiet => quiet

theorem calm_read_bind {next : TaskStore → StoreM β} (rest : ∀ s, Calm o op (next s)) :
    Calm o op (Code.read >>= next) := fun s₀ s start quiet => rest s s₀ s start quiet

theorem calm_ensureUsable_bind {next : Unit → StoreM β} (rest : Calm o op (next ())) :
    Calm o op (ensureUsable >>= next) :=
  fun s₀ s start quiet => runs_ensureUsable_bind (rest s₀ s start quiet) fun _ => quiet

theorem calm_of_quietly {P : α → Prop} {code : StoreM α} (quietly : Quietly P code) :
    Calm o op code := by
  intro s₀ s start quiet
  obtain ⟨s', result, ran, quiet', _⟩ := quietly s
  rw [ran]
  exact quiet.trans quiet'

theorem calm_expireIfDue (r : RecordId) : Calm o op (expireIfDue o r) :=
  fun _ _ start quiet => (runs_expireIfDue ((Pending.refl start).quiet quiet)).imp
    fun _ _ _ post => post.1.quiet quiet

theorem calm_tryTransition (requestId : JsString) (expectedState : Option TaskState)
    (nextState : TaskState) (update : TaskTransitionUpdate) :
    Calm o op (tryTransition o requestId expectedState nextState update) :=
  fun _ _ start quiet => runs_tryTransition requestId expectedState nextState update start quiet

theorem calm_isAuthorized (r : RecordId) (caller : JsString) (action : TaskAuthorizationAction) :
    Calm o op (isAuthorized o r caller action) := by
  unfold isAuthorized
  refine calm_read_bind fun store => ?_
  dsimp only
  split
  · exact calm_pure _
  · intro s₀ s start quiet
    refine Sync.keeps_call ((LifecycleStep.refl _ _ _).quiet quiet) (start.quiet quiet) ?_
    intro s' answer _ _
    cases answer with
    | none => exact Quiet.refl s'
    | some answer => exact Quiet.refl s'

theorem calm_refuses (r : RecordId) (caller : Option JsString) (action : TaskAuthorizationAction) :
    Calm o op (refuses o r caller action) := by
  cases caller with
  | none => exact calm_pure _
  | some caller => exact (calm_isAuthorized r caller action).bind fun _ => calm_pure _

theorem calm_getTask (requestId : JsString) (read : SnapshotReadOptions) :
    Calm o op (getTask o requestId read) := by
  unfold getTask
  refine calm_read_bind fun store => ?_
  cases store.find requestId with
  | none => exact calm_pure _
  | some r =>
    refine (calm_expireIfDue r).bind fun _ => (calm_refuses r read.caller .status).bind fun refused => ?_
    split
    · exact calm_pure _
    · exact calm_read_bind fun store => calm_pure _

theorem calm_getStatusResult (requestId : JsString) (read : SnapshotReadOptions) :
    Calm o op (getStatusResult o requestId read) := by
  unfold getStatusResult
  refine calm_read_bind fun store => ?_
  cases store.find requestId with
  | none => exact calm_pure _
  | some r =>
    refine (calm_expireIfDue r).bind fun _ => (calm_refuses r read.caller .status).bind fun refused => ?_
    split
    · exact calm_pure _
    · exact calm_read_bind fun store => calm_pure _

theorem calm_getRecordMetadata (requestId : JsString) :
    Calm o op (getRecordMetadata o requestId) := by
  unfold getRecordMetadata
  refine calm_read_bind fun store => ?_
  cases store.find requestId with
  | none => exact calm_pure _
  | some r => exact (calm_expireIfDue r).bind fun _ => calm_read_bind fun store => calm_pure _

theorem calm_ownsTask (requestId caller : JsString) : Calm o op (ownsTask o requestId caller) := by
  unfold ownsTask
  refine calm_read_bind fun store => ?_
  cases store.find requestId with
  | none => exact calm_pure _
  | some r => exact calm_isAuthorized r caller .status

theorem calm_beginExecution (requestId : JsString) : Calm o op (beginExecution o requestId) := by
  unfold beginExecution
  refine calm_read_bind fun store => ?_
  cases store.find requestId with
  | none => exact calm_pure _
  | some r =>
    refine (calm_expireIfDue r).bind fun _ => calm_read_bind fun store => ?_
    split
    · refine (calm_tryTransition requestId none .working .empty).bind fun result => ?_
      cases result with
      | failure code snapshot => exact calm_pure _
      | success previousState snapshot =>
        refine calm_read_bind fun store => ?_
        dsimp only
        split
        · exact calm_pure _
        · exact calm_pure _
    · exact calm_read_bind fun store => calm_pure _

theorem calm_expireTask (requestId : JsString) : Calm o op (expireTask o requestId) := by
  unfold expireTask
  refine calm_read_bind fun store => ?_
  cases store.find requestId with
  | none => exact calm_pure _
  | some r =>
    refine calm_read_bind fun store => (calm_tryTransition _ _ _ _).bind fun result => ?_
    cases result with
    | success previousState snapshot => exact calm_pure _
    | failure code snapshot => exact calm_pure _

theorem calm_cancelTask (requestId : JsString) (request : CancellationRequest) :
    Calm o op (cancelTask o requestId request) := by
  unfold cancelTask
  refine calm_ensureUsable_bind (calm_read_bind fun store => ?_)
  cases store.find requestId with
  | none => exact calm_pure _
  | some r =>
    refine (calm_expireIfDue r).bind fun _ =>
      (calm_refuses r request.caller .cancel).bind fun refused => ?_
    split
    · exact calm_pure _
    refine calm_read_bind fun store => ?_
    dsimp only
    split
    · exact calm_pure _
    split
    · exact calm_pure _
    have clock : Calm o op (cancellationRequestedAt request) := by
      unfold cancellationRequestedAt
      cases request.requestedAt with
      | some requestedAt => exact calm_pure _
      | none => exact (calm_of_quietly quietly_currentNow).bind fun _ => calm_pure _
    refine clock.bind fun requestedAt => (calm_tryTransition _ _ _ _).bind fun result => ?_
    cases result with
    | success previousState snapshot => exact calm_pure _
    | failure code snapshot => exact calm_pure _

/-- A change to the timers of one task. -/
structure Retimed (task task' : StoredTask) : Prop extends SameTask task task' where
  updatedAtMs : task'.updatedAtMs = task.updatedAtMs
  purge : task'.purgeTimer.isSome = true → task.purgeTimer.isSome = true

theorem Pending.retimed (pending : Pending o op s₀ s) (r : RecordId)
    (change : StoredTask → StoredTask) (changes : ∀ task, Retimed task (change task)) :
    Pending o op s₀ (s.update r change) := by
  have retimed := changes (s.heap r)
  have same : ∀ r', SameTask (s.heap r') ((s.update r change).heap r') := by
    intro r'
    by_cases this : r' = r
    · subst this
      simpa [TaskStore.update] using retimed.toSameTask
    · simpa [TaskStore.update, Function.update_of_ne this] using SameTask.refl _
  constructor
  · exact pending.start
  · constructor
    · intro key r' present
      obtain ⟨known, named⟩ := pending.state.stored key r' present
      exact ⟨known, (same r').requestId.trans named⟩
    · intro r' known
      by_cases this : r' = r
      · subst this
        have well := pending.state.tasks r' known
        simp only [TaskStore.update, Function.update_self]
        constructor
        · rw [retimed.toSameTask.state, retimed.snapshot]
          exact well.outcome
        · rw [retimed.snapshot, retimed.updatedAtMs]
          exact well.times
        · rw [retimed.toSameTask.state]
          exact fun armed => well.purge (retimed.purge armed)
      · simpa [TaskStore.update, Function.update_of_ne this] using pending.state.tasks r' known
    · intro key
      simp only [(same _).state]
      exact pending.state.queued key
  · constructor
    · exact pending.step.allocated
    · exact fun r' known => (pending.step.moved r' known).trans_same (same r')
    · intro r' known
      rw [(same r').aborted, (same r').state]
      exact pending.step.aborts r' known
    · intro r' new known
      rw [(same r').aborted, (same r').state]
      exact pending.step.created r' new known
    · intro key r' present absent
      rw [(same r').aborted]
      exact pending.step.removed key r' present absent
  · intro r' known
    have before := pending.untouched r' known
    exact ⟨(same r').requestId.trans before.requestId, (same r').aborted.trans before.aborted,
      (same r').snapshot.trans before.snapshot⟩

/-- How an operation may end: with a lifecycle step. -/
def Ends (o : TaskStoreOptions) (op : StoreOp) (s₁ s' : TaskStore) (_ : α) : Prop :=
  LifecycleStep o.host op s₁ s' ∧ LifecycleState o.host s'

theorem Pending.ends (pending : Pending o op s₀ s) (a : α) : Ends o op s₀ s a :=
  ⟨pending.step, pending.state⟩

theorem retimed_clearTimers (task : StoredTask) : Retimed task (clearTimers task) :=
  ⟨⟨rfl, rfl, rfl⟩, rfl, nofun⟩

/-- Removing what is stored under a key, when that is not a live task. -/
theorem runs_removeRecord (pending : Pending o op s₀ s) (plain : op.isClear = false) (key : JsString) (r : RecordId)
    (dead : ∀ r', s.records.get? key = some r' → isTerminalTaskState (s.heap r').state = true) :
    Runs o op (Ends o op) (removeRecord key r s) s₀ := by
  have pending := pending.retimed r _ retimed_clearTimers
  have dead : ∀ r', s.records.get? key = some r' →
      isTerminalTaskState ((s.update r clearTimers).heap r').state = true := by
    intro r' present
    by_cases this : r' = r
    · subst this
      simpa [TaskStore.update, clearTimers, StoredTask.state] using dead r' present
    · simpa [TaskStore.update, Function.update_of_ne this] using dead r' present
  refine ⟨⟨pending.step.allocated, pending.step.moved, pending.step.aborts, pending.step.created,
    ?_⟩, ?_, pending.state.tasks, ?_⟩
  · intro key' r' present absent
    by_cases still : s.records.get? key' = some r'
    · have this : key' = key := by
        by_contra differ
        exact absent (by simpa [JsMap.get?_delete, differ] using still)
      subst this
      have known := (pending.start.stored key' r' present).1
      have terminal := dead r' still
      rw [(pending.untouched r' known).state] at terminal
      exact .inl ⟨plain, terminal⟩
    · exact pending.step.removed key' r' present still
  · intro key' r' present
    rw [JsMap.get?_delete_eq_some_iff] at present
    exact pending.state.stored key' r' present.2
  · intro key'
    have indexed := pending.state.queued key'
    by_cases this : key' = key
    · simp [this]
    · simp only [TaskStore.update] at indexed ⊢
      simpa [this, JsMap.get?_delete] using indexed

theorem runs_purgeTask (start : LifecycleState o.host s) (plain : op.isClear = false) (requestId : JsString) :
    Runs o op (Ends o op) (purgeTask requestId s) s := by
  unfold purgeTask
  rw [Code.read_bind]
  cases found : s.find requestId with
  | none => exact (Pending.refl start).ends _
  | some r =>
    dsimp only
    split
    · rename_i terminal
      refine Code.keeps_bind (runs_removeRecord (.refl start) plain requestId r ?_) start ?_ ?_
      · intro r' present
        cases present.symm.trans found
        exact terminal
      · exact fun s₁ s' _ _ ends => ends
      · exact fun s₁ s' _ _ ends => ends
    · exact (Pending.refl start).ends _

theorem runs_expiryTimer (start : LifecycleState o.host s) (r : RecordId) :
    Runs o op (Ends o op) (expiryTimer o r s) s := by
  unfold expiryTimer
  rw [Code.read_bind]
  split
  · rw [Code.modify_bind]
    have pending : Pending o op s (s.update r fun task => { task with expiryTimer := none }) :=
      (Pending.refl start).retimed r _ fun task => ⟨⟨rfl, rfl, rfl⟩, rfl, id⟩
    refine (runs_expireRecord pending).weaken start ?_
    exact fun s₁ s' result state₁ ⟨later, _⟩ => (pending.later state₁ later).ends result
  · exact (Pending.refl start).ends _

/-- The purge timer, when it does not find a live task under its request id. -/
theorem runs_purgeTimer (start : LifecycleState o.host s) (plain : op.isClear = false) (r : RecordId)
    (harmless : (s.heap r).purgeTimer.isSome = true →
      ∀ r', s.records.get? (s.heap r).requestId = some r' →
        isTerminalTaskState (s.heap r').state = true) :
    Runs o op (Ends o op) (purgeTimer r s) s := by
  unfold purgeTimer
  rw [Code.read_bind]
  split
  · rename_i armed
    rw [Code.modify_bind, Code.read_bind]
    have pending : Pending o op s (s.update r fun task => { task with purgeTimer := none }) :=
      (Pending.refl start).retimed r _ fun task => ⟨⟨rfl, rfl, rfl⟩, rfl, nofun⟩
    split
    · refine runs_removeRecord pending plain _ r fun r' present => ?_
      have dead := harmless armed r' (by simpa [TaskStore.update] using present)
      by_cases this : r' = r
      · subst this
        simpa [TaskStore.update, StoredTask.state] using dead
      · simpa [TaskStore.update, Function.update_of_ne this] using dead
    · exact pending.ends _
  · exact (Pending.refl start).ends _

/-- Every record of the list has been aborted. -/
def AllAborted (visited : List RecordId) (s : TaskStore) : Prop :=
  ∀ r ∈ visited, r < s.nextRecord ∧ (s.heap r).aborted = true

/-- The loops: `clear` has aborted what it has visited. -/
def LoopState (op : StoreOp) : StoreLoop → TaskStore → Prop
  | .clear _ visited, s => op.isClear = true ∧ AllAborted visited s
  | .list .., _ => True

theorem nextUnvisited_none {s : TaskStore} (past : s.nextUnvisited visited = none)
    (present : s.records.get? key = some r) : r ∈ visited := by
  simp only [TaskStore.nextUnvisited, List.find?_eq_none, decide_eq_true_eq, not_not] at past
  exact past r (JsMap.mem_values_iff.mpr ⟨key, present⟩)

theorem nextUnvisited_some {s : TaskStore} (next : s.nextUnvisited visited = some r) :
    ∃ key, s.records.get? key = some r :=
  JsMap.mem_values_iff.mp (List.mem_of_find?_eq_some next)

/-- `clear` aborts a task and leaves the rest of it alone. -/
theorem clear_signals (pending : Pending o op s₀ s) (clears : op.isClear = true)
    (known : r < s₀.nextRecord) (reason : Option JsString) :
    Ends o op s₀ (s.update r (signalled true reason)) () := by
  have snapshots : ∀ r', ((s.update r (signalled true reason)).heap r').snapshot =
      (s.heap r').snapshot := by
    intro r'
    by_cases this : r' = r
    · subst this
      simp [TaskStore.update, signalled]
    · simp [TaskStore.update, Function.update_of_ne this]
  have states : ∀ r', ((s.update r (signalled true reason)).heap r').state = (s.heap r').state :=
    fun r' => congrArg TaskSnapshot.state (snapshots r')
  refine ⟨⟨pending.step.allocated, ?_, fun _ _ _ => .inr (.inr clears), ?_, ?_⟩, ?_, ?_, ?_⟩
  · intro r' known'
    have moves := pending.step.moved r' known'
    by_cases this : r' = r
    · subst this
      have same := pending.untouched r' known'
      simp only [TaskStore.update, Function.update_self]
      exact ⟨moves.requestId, fun _ => rfl, .inl same.snapshot, moves.updatedAt⟩
    · simpa [TaskStore.update, Function.update_of_ne this] using moves
  · intro r' new known'
    have this : r' ≠ r := fun same => absurd known (Nat.not_lt.mpr (same ▸ new))
    simpa [TaskStore.update, Function.update_of_ne this] using pending.step.created r' new known'
  · intro key r' present absent
    obtain ⟨plain, _⟩ | ⟨_, aborted⟩ := pending.step.removed key r' present absent
    · rw [plain] at clears
      cases clears
    · refine .inr ⟨clears, ?_⟩
      by_cases this : r' = r
      · subst this
        simp [TaskStore.update, signalled]
      · simpa [TaskStore.update, Function.update_of_ne this] using aborted
  · intro key r' present
    obtain ⟨known', named⟩ := pending.state.stored key r' present
    refine ⟨known', ?_⟩
    by_cases this : r' = r
    · subst this
      simpa [TaskStore.update, signalled] using named
    · simpa [TaskStore.update, Function.update_of_ne this] using named
  · intro r' known'
    have well := pending.state.tasks r' known'
    by_cases this : r' = r
    · subst this
      simp only [TaskStore.update, Function.update_self]
      exact ⟨well.outcome, well.times, well.purge⟩
    · simpa [TaskStore.update, Function.update_of_ne this] using well
  · intro key
    simp only [states]
    exact pending.state.queued key

/-- One round of `clear`. -/
theorem runs_clearRound (start : LifecycleState o.host s) (clears : op.isClear = true)
    (aborted : AllAborted visited s) :
    Runs o op (fun s₁ s' result => Ends o op s₁ s' result ∧
        ∀ visited', result = .ok (some visited') → AllAborted visited' s')
      (clearRound disposing visited s) s := by
  unfold clearRound
  rw [Code.read_bind]
  cases next : s.nextUnvisited visited with
  | none =>
    refine ⟨⟨⟨le_rfl, fun r _ => .refl o.host _, fun r _ => .inl, ?_, ?_⟩, ⟨nofun, start.tasks, ?_⟩⟩,
      nofun⟩
    · exact fun r new known => absurd known (Nat.not_lt.mpr new)
    · intro key r present _
      exact .inr ⟨clears, (aborted r (nextUnvisited_none next present)).2⟩
    · intro key
      simp
  | some r =>
    obtain ⟨key, present⟩ := nextUnvisited_some next
    have known := (start.stored key r present).1
    have pending : Pending o op s (s.update r clearTimers) :=
      (Pending.refl start).retimed r _ retimed_clearTimers
    have visited' : ∀ s₁, HostMoves o.host s s₁ → (s₁.heap r).aborted = true →
        AllAborted (r :: visited) s₁ := by
      intro s₁ moves now r' member
      obtain rfl | member := List.mem_cons.mp member
      · exact ⟨known.trans_le moves.allocated, now⟩
      · obtain ⟨known', before⟩ := aborted r' member
        exact ⟨known'.trans_le moves.allocated, moves.aborted known' before⟩
    simp only [Code.modify_bind, abort_bind]
    split
    · rename_i already
      refine ⟨pending.ends _, ?_⟩
      rintro _ ⟨⟩
      exact visited' _ (.single ⟨op, pending.step⟩) already
    · have ends := clear_signals pending clears known (some "task store cleared")
      refine Code.keeps_notify_bind ends.1 ends.2 fun s₁ state₁ moves => ?_
      refine ⟨(Pending.refl state₁).ends _, ?_⟩
      rintro _ ⟨⟩
      have moves' : HostMoves o.host s s₁ :=
        Relation.ReflTransGen.trans (.single ⟨op, ends.1⟩) moves
      refine visited' s₁ moves' (moves.aborted known ?_)
      simp [TaskStore.update, signalled]

/-- One round of `listSnapshots`. -/
theorem calm_listRound (read : SnapshotReadOptions) (visited : List RecordId)
    (snapshots : List TaskSnapshot) : Calm o op (listRound o read visited snapshots) := by
  unfold listRound
  refine calm_read_bind fun store => ?_
  cases store.nextUnvisited visited with
  | none => exact calm_pure _
  | some r =>
    refine (calm_expireIfDue r).bind fun _ => (calm_refuses r read.caller .status).bind fun refused => ?_
    split
    · exact calm_pure _
    · exact calm_read_bind fun store => calm_pure _

/-- A new record, under a key that was free. -/
theorem pending_insertRecord (pending : Pending o op s₀ s) (free : s.records.get? key = none)
    (named : task.requestId = key) (well : TaskWellFormed o.host task)
    (signal : task.aborted = true ↔ task.state = .expired) :
    Pending o op s₀ (insertRecord s key task) := by
  have old : ∀ r < s.nextRecord, (insertRecord s key task).heap r = s.heap r :=
    fun r known => Function.update_of_ne (Nat.ne_of_lt known) _ _
  have new : (insertRecord s key task).heap s.nextRecord = task := Function.update_self ..
  have records : (insertRecord s key task).records = s.records.set key s.nextRecord := rfl
  refine ⟨pending.start, ⟨?_, ?_, ?_⟩, ⟨?_, ?_, ?_, ?_, ?_⟩, ?_⟩
  · intro key' r present
    rw [records, JsMap.get?_set] at present
    by_cases this : key' = key
    · rw [if_pos this] at present
      cases present
      exact ⟨Nat.lt_succ_self _, by rw [new, named, this]⟩
    · rw [if_neg this] at present
      obtain ⟨known, named'⟩ := pending.state.stored key' r present
      exact ⟨Nat.lt_succ_of_lt known, by rw [old r known, named']⟩
  · intro r known
    obtain known | rfl := Nat.lt_succ_iff_lt_or_eq.mp known
    · rw [old r known]
      exact pending.state.tasks r known
    · rw [new]
      exact well
  · intro key'
    by_cases this : key' = key
    · subst this
      have unindexed : key' ∉ s.queued := by
        rw [pending.state.queued]
        rintro ⟨r, present, _⟩
        rw [free] at present
        cases present
      by_cases waiting : task.state = .queued
      · simp [records, new, waiting]
        simp [insertRecord, waiting]
      · simp [records, new, waiting]
        simpa [insertRecord, waiting] using unindexed
    · have indexed : key' ∈ (insertRecord s key task).queued ↔ key' ∈ s.queued := by
        by_cases waiting : task.state = .queued <;> simp [insertRecord, waiting, this]
      rw [indexed, pending.state.queued key', records, JsMap.get?_set_ne this]
      constructor
      · rintro ⟨r, present, waiting⟩
        exact ⟨r, present, by rwa [old r (pending.state.stored key' r present).1]⟩
      · rintro ⟨r, present, waiting⟩
        exact ⟨r, present, by rwa [old r (pending.state.stored key' r present).1] at waiting⟩
  · exact pending.step.allocated.trans (Nat.le_succ _)
  · intro r known
    rw [old r (known.trans_le pending.step.allocated)]
    exact pending.step.moved r known
  · intro r known
    rw [old r (known.trans_le pending.step.allocated)]
    exact pending.step.aborts r known
  · intro r above known
    obtain known | rfl := Nat.lt_succ_iff_lt_or_eq.mp known
    · rw [old r known]
      exact pending.step.created r above known
    · rw [new]
      exact signal
  · intro key' r present absent
    have known := (pending.start.stored key' r present).1
    rw [old r (known.trans_le pending.step.allocated)]
    refine pending.step.removed key' r present fun still => absent ?_
    have this : key' ≠ key := by
      rintro rfl
      rw [free] at still
      cases still
    rw [records, JsMap.get?_set_ne this]
    exact still
  · intro r known
    rw [old r (known.trans_le pending.step.allocated)]
    exact pending.untouched r known

/-- Scheduling the deadline of a record expires it at once or arms a timer. -/
theorem runs_scheduleExpiry (pending : Pending o op s₀ s) (r : RecordId) :
    Runs o op (Ends o op) (scheduleExpiry o r s) s₀ := by
  unfold scheduleExpiry
  rw [Code.read_bind]
  refine keeps_quietly quietly_currentMonotonic ?_ fun s' e quiet => (pending.quiet quiet).ends _
  intro s' now quiet _
  have pending := pending.quiet quiet
  split
  · refine (runs_expireRecord pending).weaken pending.start ?_
    exact fun s₁ s'' result state₁ ⟨later, _⟩ => (pending.later state₁ later).ends result
  · exact (pending.retimed r (fun task => { task with
      expiryTimer := some (max 0 ((s.heap r).deadlineMonotonicMs - now)) })
      fun task => ⟨⟨rfl, rfl, rfl⟩, rfl, id⟩).ends _

/-- What the record of a new task satisfies. -/
structure NewTask (host : Host) (input : TaskStoreCreateInput) (task : StoredTask) : Prop where
  requestId : task.requestId = input.requestId
  aborted : task.aborted = false
  expiryTimer : task.expiryTimer = none
  purgeTimer : task.purgeTimer = none
  well : TaskWellFormed host task

theorem quietly_answer (result : Except StoreError α) :
    Quietly (fun _ => True) (Code.ofExcept result) := quietly_ofExcept fun _ _ => trivial

theorem quietly_throw {P : α → Prop} (e : StoreError) : Quietly P (Code.throw e) :=
  fun s => ⟨s, .error e, rfl, .refl s, nofun⟩

theorem quietly_creationRequestedAt (input : TaskStoreCreateInput) (now : ℚ) :
    Quietly (fun _ => True) (creationRequestedAt o input now) := by
  unfold creationRequestedAt
  split
  · cases input.requestedAt with
    | some value => exact (quietly_timestamp value).bind fun _ _ => .pure trivial
    | none => exact (quietly_nowStamp now).bind fun _ _ => .pure trivial
  · exact .pure trivial

theorem quietly_newTask (input : TaskStoreCreateInput) :
    Quietly (NewTask o.host input) (newTask o input) := by
  unfold newTask
  refine Quietly.bind (quietly_answer _) fun owner _ => ?_
  refine Quietly.bind (quietly_answer _) fun localOwner _ => ?_
  dsimp only
  split
  · exact quietly_throw _
  refine Quietly.bind quietly_currentNow fun now _ => ?_
  refine Quietly.bind (quietly_timestamp _) fun createdAt normal => ?_
  refine Quietly.bind (quietly_timestamp _) fun expiresAt _ => ?_
  split
  · exact quietly_throw _
  refine Quietly.bind (quietly_creationRequestedAt input now) fun requestedAt _ => ?_
  refine Quietly.bind (quietly_ofExcept fun snapshot built => buildSnapshot_ok built)
    fun snapshot built => ?_
  refine Quietly.bind quietly_currentMonotonic fun monotonic _ => ?_
  refine Quietly.bind (quietly_answer _) fun responseContract _ => ?_
  obtain ⟨_, state, created, updated, _, outcome⟩ := built
  obtain ⟨time, parsed, clipped⟩ := parse_normalizeTimestamp normal
  refine .pure ⟨rfl, rfl, rfl, rfl, ⟨?_, ⟨time, time, ?_, ?_, le_rfl, clipped⟩, nofun⟩⟩
  · rw [outcome, StoredTask.state, state]
  · rw [created]
    exact parsed
  · rw [updated]
    exact parsed

theorem insertRecord_signalled (s : TaskStore) (key : JsString) (task : StoredTask) :
    (insertRecord s key task).update s.nextRecord (signalled true reason) =
      insertRecord s key (signalled true reason task) := by
  simp only [insertRecord, TaskStore.update, Function.update_self, Function.update_idem]
  rfl

theorem runs_createTask (start : LifecycleState o.host s) (input : TaskStoreCreateInput) :
    Runs o op (Ends o op) (createTask o input s) s := by
  have past : ∀ {α : Type} (s' : TaskStore) (result : α), Quiet s s' → Ends o op s s' result :=
    fun s' result quiet => ((Pending.refl start).quiet quiet).ends result
  unfold createTask
  refine runs_ensureUsable_bind ?_ fun e => past s _ (.refl s)
  rw [Code.read_bind]
  dsimp only
  split
  · exact past s _ (.refl s)
  rename_i free
  have free : s.records.get? input.requestId = none := by
    simpa [JsMap.has] using free
  refine keeps_quietly (quietly_newTask input) ?_ fun s' e quiet => past s' _ quiet
  intro s' task quiet new
  have pending : Pending o op s s' := (Pending.refl start).quiet quiet
  have free : s'.records.get? input.requestId = none := by
    obtain ⟨_, _, rfl⟩ := quiet
    exact free
  rw [Code.read_bind]
  split
  · rename_i terminal
    have well : TaskWellFormed o.host (schedulePurge o task) := by
      unfold schedulePurge
      split
      · exact new.well
      · exact ⟨new.well.outcome, new.well.times, fun _ => terminal⟩
    have named : (schedulePurge o task).requestId = input.requestId := by
      unfold schedulePurge
      split <;> exact new.requestId
    have state' : (schedulePurge o task).state = task.state := by
      unfold schedulePurge
      split <;> rfl
    have unsignalled : (schedulePurge o task).aborted = false := by
      unfold schedulePurge
      split <;> exact new.aborted
    rw [Code.modify_bind]
    split
    · rename_i expired
      have marked : Pending o op s (insertRecord s' input.requestId
          (signalled true (some "task deadline expired") (schedulePurge o task))) :=
        pending_insertRecord pending free named ⟨well.outcome, well.times, well.purge⟩
          ⟨fun _ => state'.trans expired, fun _ => rfl⟩
      rw [abort_bind, if_neg (by simp [insertRecord, unsignalled]), insertRecord_signalled]
      refine Code.keeps_notify_bind marked.step marked.state fun s₁ state₁ moves₁ => ?_
      refine Code.keeps_bind (runs_notifyIf _ _ state₁) state₁ ?_ ?_
      · rintro s₂ _ _ state₂ ⟨rfl, _, _⟩
        exact (Pending.refl state₂).ends _
      · rintro s₂ _ _ state₂ ⟨rfl, _, _⟩
        exact (Pending.refl state₂).ends _
    · rename_i settled
      have inserted : Pending o op s (insertRecord s' input.requestId (schedulePurge o task)) :=
        pending_insertRecord pending free named well (by rw [unsignalled, state']; simp [settled])
      exact inserted.ends _
  · rename_i live
    have inserted := pending_insertRecord pending free new.requestId new.well
      (by
        rw [new.aborted]
        simp only [Bool.false_eq_true, false_iff]
        rintro expired
        simp [expired, isTerminalTaskState] at live)
    rw [Code.modify_bind]
    refine Code.keeps_bind (runs_scheduleExpiry inserted _) start ?_ ?_
    · exact fun s₁ s' _ _ ends => ends
    · exact fun s₁ s' _ _ ends => ends

/-! The machine. -/

/-- What an operation of the machine has to meet. -/
abbrev MeetsLifecycle (o : TaskStoreOptions) (op : StoreOp)
    (code : Sync TaskStore StoreCallback (Option StoreLoop)) (s : TaskStore) : Prop :=
  Machine.Meets (LifecycleState o.host) (LifecycleStep o.host) LoopState op code s

theorem meets_finish {code : StoreM α} (start : LifecycleState o.host s)
    (runs : Runs o op (Ends o op) (code s) s) : MeetsLifecycle o op (finish code s) s :=
  Sync.Keeps.bind runs start fun _ _ _ _ ends => ⟨ends.1, ends.2, nofun⟩

theorem Calm.meets {code : StoreM α} (calm : Calm o op code) (start : LifecycleState o.host s) :
    MeetsLifecycle o op (finish code s) s := by
  refine meets_finish start ((calm s s start (.refl s)).weaken start ?_)
  exact fun s₁ s' result state₁ quiet => ((Pending.refl state₁).quiet quiet).ends result

/-- The purge timer that is about to fire finds no live task under its request
id: its own task, another terminal one, or none. -/
def PurgeFindsNoLiveTask (c : Config TaskStore StoreCallback StoreOp StoreLoop) (op : StoreOp) :
    Prop :=
  ∀ r ∈ op.purges, (c.state.heap r).purgeTimer.isSome = true →
    ∀ r' ∈ c.state.records.get? (c.state.heap r).requestId,
      isTerminalTaskState (c.state.heap r').state = true

instance (c : Config TaskStore StoreCallback StoreOp StoreLoop) (op : StoreOp) :
    Decidable (PurgeFindsNoLiveTask c op) :=
  inferInstanceAs (Decidable (∀ r ∈ op.purges, _ → ∀ r' ∈ c.state.records.get? _, _ = true))

theorem store_starts {stack : List (Frame TaskStore StoreCallback StoreOp StoreLoop)}
    (start : LifecycleState o.host s) (harmless : PurgeFindsNoLiveTask ⟨s, stack⟩ op) :
    MeetsLifecycle o op ((storeMachine o).start op s) s := by
  have step : LifecycleStep o.host op s s := .refl o.host op s
  cases op with
  | createTask input => exact meets_finish start (runs_createTask start input)
  | tryTransition requestId expectedState nextState update =>
    exact (calm_tryTransition requestId expectedState nextState update).meets start
  | beginExecution requestId => exact (calm_beginExecution requestId).meets start
  | expireTask requestId => exact (calm_expireTask requestId).meets start
  | cancelTask requestId request => exact (calm_cancelTask requestId request).meets start
  | purgeTask requestId => exact meets_finish start (runs_purgeTask start rfl requestId)
  | clear =>
    refine ⟨step, start, ?_⟩
    rintro _ ⟨⟩
    exact ⟨rfl, nofun⟩
  | dispose =>
    refine ⟨step, start, ?_⟩
    split
    · exact nofun
    · rintro _ ⟨⟩
      exact ⟨rfl, nofun⟩
  | getTask requestId read => exact (calm_getTask requestId read).meets start
  | getStatusResult requestId read => exact (calm_getStatusResult requestId read).meets start
  | getRecordMetadata requestId => exact (calm_getRecordMetadata requestId).meets start
  | ownsTask requestId caller => exact (calm_ownsTask requestId caller).meets start
  | listSnapshots read =>
    refine ⟨step, start, ?_⟩
    rintro _ ⟨⟩
    trivial
  | expiryTimer r => exact meets_finish start (runs_expiryTimer start r)
  | purgeTimer r =>
    exact meets_finish start (runs_purgeTimer start rfl r fun armed r' present =>
      harmless r rfl armed r' present)

theorem store_rounds (next : StoreLoop) (start : LifecycleState o.host s)
    (loop : LoopState op next s) : MeetsLifecycle o op ((storeMachine o).round next s) s := by
  cases next with
  | clear disposing visited =>
    obtain ⟨clears, aborted⟩ := loop
    refine Sync.Keeps.bind (runs_clearRound start clears aborted) start ?_
    rintro s₁ s' result _ ⟨ends, further⟩
    refine ⟨ends.1, ends.2, fun l asked => ?_⟩
    obtain ⟨visited', answered, rfl⟩ := Option.map_eq_some_iff.mp asked
    cases result with
    | ok value => exact ⟨clears, further visited' (congrArg Except.ok answered)⟩
    | error e => cases answered
  | list read visited snapshots =>
    refine Sync.Keeps.bind (calm_listRound read visited snapshots s s start (.refl s)) start ?_
    intro s₁ s' result state₁ quiet
    have ends : Ends o op s₁ s' result := ((Pending.refl state₁).quiet quiet).ends result
    refine ⟨ends.1, ends.2, fun l asked => ?_⟩
    obtain ⟨_, _, rfl⟩ := Option.map_eq_some_iff.mp asked
    trivial

theorem loopState_stable (op : StoreOp) (next : StoreLoop) (s s' : TaskStore)
    (loop : LoopState op next s) (moves : HostMoves o.host s s') : LoopState op next s' := by
  cases next with
  | clear disposing visited =>
    refine ⟨loop.1, fun r member => ?_⟩
    obtain ⟨known, aborted⟩ := loop.2 r member
    exact ⟨known.trans_le moves.allocated, moves.aborted known aborted⟩
  | list read visited snapshots => trivial

end Segments

/-- A store as its constructor leaves it. -/
def Fresh (s : TaskStore) : Prop :=
  s.nextRecord = 0 ∧ s.records = ∅ ∧ s.queued = ∅ ∧ s.disposed = false

theorem Fresh.lifecycleState (fresh : Fresh s) : LifecycleState host s := by
  obtain ⟨none, noRecord, noQueued, _⟩ := fresh
  refine ⟨?_, ?_, ?_⟩
  · intro key r present
    simp [noRecord] at present
  · intro r known
    rw [none] at known
    exact absurd known (Nat.not_lt_zero r)
  · intro key
    simp [noRecord, noQueued]

/-- The store under every nesting of operations, from a fresh one. -/
def storeSystem (o : TaskStoreOptions) :
    System (Config TaskStore StoreCallback StoreOp StoreLoop) StoreOp :=
  (storeMachine o).system Fresh

/-- A step that aborts the task: a transition into a state that does, its
creation in the state `expired`, or `clear`. -/
def Cancels (op : StoreOp) (r : RecordId) (s s' : TaskStore) : Prop :=
  (r < s.nextRecord ∧ (s'.heap r).state ≠ (s.heap r).state ∧ Aborting (s'.heap r).state) ∨
    (s.nextRecord ≤ r ∧ r < s'.nextRecord ∧ (s'.heap r).state = .expired) ∨
    (r < s.nextRecord ∧ op.isClear = true ∧ (s.heap r).aborted = false ∧
      (s'.heap r).aborted = true)

/-- The lifecycle over a run: its states are in order, its steps move tasks
along legal transitions only, and tasks are aborted by the steps that say so. -/
structure LifecycleRun (o : TaskStoreOptions)
    (history : List (Config TaskStore StoreCallback StoreOp StoreLoop × StoreOp))
    (c : Config TaskStore StoreCallback StoreOp StoreLoop) : Prop where
  states : ∀ x, System.Visited history c x → LifecycleState o.host x.state
  steps : ∀ x op y, System.Passed history c x op y → LifecycleStep o.host op x.state y.state
  aborts : ∀ r < c.state.nextRecord, ((c.state.heap r).aborted = true ↔
    ∃ x op y, System.Passed history c x op y ∧ Cancels op r x.state y.state)

section Runs

variable {o : TaskStoreOptions}
  {history : List (Config TaskStore StoreCallback StoreOp StoreLoop × StoreOp)}
  {c c' : Config TaskStore StoreCallback StoreOp StoreLoop}

/-- What a run keeps: the store is in order and every frame can be resumed. -/
abbrev StoreSound (o : TaskStoreOptions) (c : Config TaskStore StoreCallback StoreOp StoreLoop) :
    Prop :=
  Machine.Sound (LifecycleState o.host) (LifecycleStep o.host) LoopState c

theorem storeSound_step (sound : StoreSound o c) (harmless : PurgeFindsNoLiveTask c op)
    (taken : (storeMachine o).Step c op c') :
    StoreSound o c' ∧ LifecycleStep o.host op c.state c'.state :=
  Machine.sound_step loopState_stable (fun _ _ _ start harmless => store_starts start harmless)
    (fun _ next _ start loop => store_rounds next start loop) sound harmless taken

theorem storeSound (reached : ((storeSystem o).restrict PurgeFindsNoLiveTask).Reachable c) :
    StoreSound o c := by
  refine reached.invariant ?_ ?_
  · rintro c ⟨fresh, empty⟩
    exact ⟨fresh.lifecycleState, by simp [empty]⟩
  · rintro c op c' sound ⟨harmless, taken⟩
    exact (storeSound_step sound harmless taken).1

/-- A step aborts exactly the tasks it cancels, and those stay aborted. -/
theorem aborted_step (step : LifecycleStep host op s s') (known : r < s'.nextRecord) :
    (s'.heap r).aborted = true ↔
      (r < s.nextRecord ∧ (s.heap r).aborted = true) ∨ Cancels op r s s' := by
  by_cases old : r < s.nextRecord
  · have moves := step.moved r old
    constructor
    · intro aborted
      obtain before | moved | cleared := step.aborts r old aborted
      · exact .inl ⟨old, before⟩
      · exact .inr (.inl ⟨old, moved⟩)
      · by_cases before : (s.heap r).aborted = true
        · exact .inl ⟨old, before⟩
        · exact .inr (.inr (.inr ⟨old, cleared, by simpa using before, aborted⟩))
    · rintro (⟨_, before⟩ | ⟨_, changed, aborting⟩ | ⟨new, _⟩ | ⟨_, _, _, aborted⟩)
      · exact moves.aborted before
      · obtain same | ⟨_, _, _, signal⟩ := moves.snapshot
        · exact absurd (congrArg TaskSnapshot.state same) changed
        · exact signal aborting
      · exact absurd old (Nat.not_lt.mpr new)
      · exact aborted
  · have new : s.nextRecord ≤ r := Nat.not_lt.mp old
    rw [step.created r new known]
    constructor
    · exact fun expired => .inr (.inr (.inl ⟨new, known, expired⟩))
    · rintro (⟨before, _⟩ | ⟨before, _⟩ | ⟨_, _, expired⟩ | ⟨before, _⟩)
      · exact absurd before old
      · exact absurd before old
      · exact expired
      · exact absurd before old

theorem Cancels.known (step : LifecycleStep host op s s') (cancels : Cancels op r s s') :
    r < s'.nextRecord := by
  obtain ⟨old, _⟩ | ⟨_, known, _⟩ | ⟨old, _⟩ := cancels
  · exact old.trans_le step.allocated
  · exact known
  · exact old.trans_le step.allocated

/-- Records are never given up, so a task of an earlier state is one of the last. -/
theorem passed_allocated (run : ((storeSystem o).restrict PurgeFindsNoLiveTask).Trace history c)
    (passed : System.Passed history c x op y) : y.state.nextRecord ≤ c.state.nextRecord := by
  refine run.passed_rel (R := fun y c => y.state.nextRecord ≤ c.state.nextRecord)
    (fun _ => le_rfl) ?_ passed
  rintro y c op c' reached before ⟨harmless, taken⟩
  exact before.trans (storeSound_step (storeSound reached) harmless taken).2.allocated

theorem aborted_iff_cancelled
    (run : ((storeSystem o).restrict PurgeFindsNoLiveTask).Trace history c) :
    ∀ r < c.state.nextRecord, ((c.state.heap r).aborted = true ↔
      ∃ x op y, System.Passed history c x op y ∧ Cancels op r x.state y.state) := by
  refine run.invariant_history (I := fun history c => ∀ r < c.state.nextRecord,
    ((c.state.heap r).aborted = true ↔
      ∃ x op y, System.Passed history c x op y ∧ Cancels op r x.state y.state)) ?_ ?_
  · rintro c ⟨⟨none, _⟩, _⟩ r known
    rw [none] at known
    exact absurd known (Nat.not_lt_zero r)
  · rintro history c op c' run ih ⟨harmless, taken⟩ r known
    have step := (storeSound_step (storeSound ⟨_, run⟩) harmless taken).2
    rw [aborted_step step known]
    constructor
    · rintro (⟨old, before⟩ | cancels)
      · obtain ⟨x, op', y, passed, cancels⟩ := (ih r old).mp before
        exact ⟨x, op', y, .inr passed, cancels⟩
      · exact ⟨c, op, c', .inl ⟨rfl, rfl, rfl⟩, cancels⟩
    · rintro ⟨x, op', y, ⟨rfl, rfl, rfl⟩ | passed, cancels⟩
      · exact .inr cancels
      · -- an earlier step cancelled the task, so it was aborted before this one
        obtain ⟨reached, harmless', taken'⟩ := run.passed_step passed
        have earlier := (storeSound_step (storeSound reached) harmless' taken').2
        have old : r < c.state.nextRecord :=
          (cancels.known earlier).trans_le (passed_allocated run passed)
        exact .inl ⟨old, (ih r old).mpr ⟨x, op', y, passed, cancels⟩⟩

/-- **Task lifecycle.** In every run in which no purge timer finds a live task
under its request id: every state the store passes is in order, every step
moves tasks along legal transitions, freezes terminal ones and removes a live
one only in `clear`, which aborts whatever it removes, and a task is aborted exactly when a step has
cancelled it. -/
theorem lifecycleRun (run : ((storeSystem o).restrict PurgeFindsNoLiveTask).Trace history c) :
    LifecycleRun o history c where
  states x visited := (storeSound (run.visited_reachable visited)).state
  steps x op y passed := by
    obtain ⟨reached, harmless, taken⟩ := run.passed_step passed
    exact (storeSound_step (storeSound reached) harmless taken).2
  aborts := aborted_iff_cancelled run

end Runs

section Samples

/-- A fresh store whose clocks stand still. -/
def sampleStore : TaskStore where
  heap _ :=
    { requestId := "", owner := ⟨"", none⟩, localOwner := ⟨"", none⟩
      expectedTargetRuntimeId := none, roomId := none, responseContract := none
      ownership := .inbound, aborted := false, abortReason := none
      deadlineMs := 0, deadlineMonotonicMs := 0, updatedAtMs := 0
      snapshot := ⟨"", .created, "", "", "", false, none, none, none, none⟩
      expiryTimer := none, purgeTimer := none }
  nextRecord := 0
  records := ∅
  queued := ∅
  disposed := false
  nowFn _ := 0
  monotonicNowFn _ := 0

theorem fresh_sampleStore : Fresh sampleStore := ⟨rfl, rfl, rfl, rfl⟩

/-- Terminal records are kept for a second. -/
def sampleOptions : TaskStoreOptions where
  host := ⟨fun _ => none⟩
  retainTerminalResponse := true
  terminalRetentionMs := some 1000
  localOwnerRuntimeId := none

def createSample : Machine.Move StoreOp :=
  .start (.createTask { TaskStoreCreateInput.bare "r" with owner := some ⟨"a", none⟩ })

def moveSample (nextState : TaskState) : Machine.Move StoreOp :=
  .start (.tryTransition "r" none nextState .empty)

/-- A task is completed and purged by its own timer, latest move first. -/
def ownPurge : List (Machine.Move StoreOp) :=
  [.start (.purgeTimer 0), .resume none, moveSample .completed, .resume none, moveSample .working,
    createSample]

theorem lifecycleRun_ownPurge :
    LifecycleRun sampleOptions ((storeMachine sampleOptions).play sampleStore ownPurge).1
      ((storeMachine sampleOptions).play sampleStore ownPurge).2 :=
  lifecycleRun ((Machine.trace_play fresh_sampleStore ownPurge).restrict (by decide +kernel))

/-- An abort listener that runs in `clear` completes its task, which arms the
purge timer `clear` has just cleared. The request id is used again. -/
def beforeStalePurge : List (Machine.Move StoreOp) :=
  [createSample, .round, .resume none, .resume none, moveSample .completed, .round, .start .clear,
    .resume none, moveSample .working, createSample]

/-- The run in which the stale timer then removes the live task of that request id. -/
def stalePurge : List (Config TaskStore StoreCallback StoreOp StoreLoop × StoreOp) ×
    Config TaskStore StoreCallback StoreOp StoreLoop :=
  (storeMachine sampleOptions).play sampleStore (.start (.purgeTimer 0) :: beforeStalePurge)

theorem stalePurge_breaks_lifecycle : (storeSystem sampleOptions).Trace stalePurge.1 stalePurge.2 ∧
    ¬ LifecycleRun sampleOptions stalePurge.1 stalePurge.2 := by
  refine ⟨Machine.trace_play fresh_sampleStore _, fun run => ?_⟩
  rw [stalePurge, Machine.play_start _ (by decide +kernel)] at run
  have step := run.steps _ _ _ (.inl ⟨rfl, rfl, rfl⟩)
  have live : isTerminalTaskState (((storeMachine sampleOptions).play sampleStore
      beforeStalePurge).2.state.heap 1).state = false := by decide +kernel
  obtain ⟨_, terminal⟩ | ⟨cleared, _⟩ := step.removed "r" 1 (by decide +kernel) (by decide +kernel)
  · rw [live] at terminal
    cases terminal
  · cases cleared

end Samples

end PiToPi.TaskStoreProofs
