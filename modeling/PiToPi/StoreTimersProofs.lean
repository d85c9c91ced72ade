import Mathlib.Algebra.Order.Archimedean.Basic
import PiToPi.DedupeSafety
import PiToPi.StoreTimers
import PiToPi.TaskStoreProofs

/-!
No timer comes too early, in the runs whose timers the host can wait for.

`Drift` is what a segment may do to timers and deadlines. It composes, so that code is gone through
once, without its values; only a task that may expire needs to be due.
-/
namespace PiToPi.StoreTimers
open Reentrant Transition Relation TaskStoreProofs

/-- The monotonic clock was read from `s` to `s'`, once at or after the time. -/
def ReadBy (s s' : TaskStore) (time : ℚ) : Prop :=
  ∃ readings, (s'.monotonicNowFn = fun n => s.monotonicNowFn (n + readings)) ∧
    ∃ j < readings, time ≤ s.monotonicNowFn j

/-- What a segment may do. Where `bound` is a time, only tasks due then, or due at a reading, expire. -/
structure Drift (o : TaskStoreOptions) (bound : Option ℚ) (s s' : TaskStore) : Prop where
  clock : ∃ readings, s'.monotonicNowFn = fun n => s.monotonicNowFn (n + readings)
  allocated : s.nextRecord ≤ s'.nextRecord
  named : ∀ r < s.nextRecord, (s'.heap r).requestId = (s.heap r).requestId
  deadline : ∀ r < s.nextRecord, (s'.heap r).deadlineMonotonicMs = (s.heap r).deadlineMonotonicMs
  terminal : ∀ r < s.nextRecord, isTerminalTaskState (s.heap r).state = true →
    (s'.heap r).state = (s.heap r).state
  /-- An armed timer was armed before, or belongs to a new task and runs up to its deadline. -/
  expiry : ∀ r < s'.nextRecord, ∀ d, (s'.heap r).expiryTimer = some d →
    (r < s.nextRecord ∧ (s.heap r).expiryTimer = some d) ∨
      s.nextRecord ≤ r ∧ ReadBy s s' ((s'.heap r).deadlineMonotonicMs - d)
  /-- An armed timer was armed before, or when the task became terminal. -/
  purge : ∀ r < s'.nextRecord, ∀ d, (s'.heap r).purgeTimer = some d →
    (r < s.nextRecord ∧ (s.heap r).purgeTimer = some d) ∨
      o.terminalRetentionMs = some d ∧ isTerminalTaskState (s'.heap r).state = true ∧
        (r < s.nextRecord → isTerminalTaskState (s.heap r).state = false)
  expires : ∀ time ∈ bound, ∀ r < s.nextRecord, (s'.heap r).state = .expired →
    (s.heap r).state = .expired ∨ (s.heap r).deadlineMonotonicMs ≤ time ∨
      ReadBy s s' (s.heap r).deadlineMonotonicMs

/-- What holds of the store between segments. -/
structure Armed (s : TaskStore) : Prop where
  stored : ∀ key r, s.records.get? key = some r → r < s.nextRecord ∧ (s.heap r).requestId = key
  /-- A task whose deadline is watched is in the store. -/
  armed : ∀ r < s.nextRecord, (s.heap r).expiryTimer.isSome = true →
    s.records.get? (s.heap r).requestId = some r

section Drift

variable {o : TaskStoreOptions} {bound : Option ℚ}

theorem ReadBy.later {s s' s'' : TaskStore} (read : ReadBy s s' time)
    (clock : ∃ readings, s''.monotonicNowFn = fun n => s'.monotonicNowFn (n + readings)) :
    ReadBy s s'' time := by
  obtain ⟨readings, same, j, made, due⟩ := read
  obtain ⟨more, same'⟩ := clock
  refine ⟨more + readings, ?_, j, by omega, due⟩
  rw [same', same]
  simp only [Nat.add_assoc]

theorem ReadBy.earlier {s s' s'' : TaskStore} (read : ReadBy s' s'' time)
    (clock : ∃ readings, s'.monotonicNowFn = fun n => s.monotonicNowFn (n + readings)) :
    ReadBy s s'' time := by
  obtain ⟨more, same', j, made, due⟩ := read
  obtain ⟨readings, same⟩ := clock
  rw [same] at same' due
  exact ⟨more + readings, by simpa only [Nat.add_assoc] using same', j + readings, by omega, due⟩

theorem Drift.refl (o : TaskStoreOptions) (bound : Option ℚ) (s : TaskStore) : Drift o bound s s where
  clock := ⟨0, rfl⟩
  allocated := le_rfl
  named _ _ := rfl
  deadline _ _ := rfl
  terminal _ _ _ := rfl
  expiry _ known _ armed := .inl ⟨known, armed⟩
  purge _ known _ armed := .inl ⟨known, armed⟩
  expires _ _ _ _ expired := .inl expired

theorem Drift.trans (first : Drift o bound s s') (second : Drift o bound s' s'') : Drift o bound s s'' where
  clock := by
    obtain ⟨readings, same⟩ := first.clock
    obtain ⟨more, same'⟩ := second.clock
    refine ⟨more + readings, ?_⟩
    rw [same', same]
    simp only [Nat.add_assoc]
  allocated := first.allocated.trans second.allocated
  named r known := (second.named r (known.trans_le first.allocated)).trans (first.named r known)
  deadline r known := (second.deadline r (known.trans_le first.allocated)).trans (first.deadline r known)
  terminal r known terminal := by
    have same := first.terminal r known terminal
    rw [second.terminal r (known.trans_le first.allocated) (same ▸ terminal), same]
  expiry r known d armed := by
    obtain ⟨known', armed'⟩ | ⟨new, read⟩ := second.expiry r known d armed
    · obtain before | ⟨new, read⟩ := first.expiry r known' d armed'
      · exact .inl before
      · rw [← second.deadline r known'] at read
        exact .inr ⟨new, read.later second.clock⟩
    · exact .inr ⟨first.allocated.trans new, read.earlier first.clock⟩
  purge r known d armed := by
    obtain ⟨known', armed'⟩ | ⟨retention, terminal, live⟩ := second.purge r known d armed
    · obtain before | ⟨retention, terminal, live⟩ := first.purge r known' d armed'
      · exact .inl before
      · exact .inr ⟨retention, second.terminal r known' terminal ▸ terminal, live⟩
    · refine .inr ⟨retention, terminal, fun old => ?_⟩
      have live := live (old.trans_le first.allocated)
      by_contra was
      have was : isTerminalTaskState (s.heap r).state = true := by simpa using was
      rw [first.terminal r old was, was] at live
      cases live
  expires time member r known expired := by
    obtain expired | due | read := second.expires time member r (known.trans_le first.allocated) expired
    · obtain expired | due | read := first.expires time member r known expired
      · exact .inl expired
      · exact .inr (.inl due)
      · exact .inr (.inr (read.later second.clock))
    · rw [first.deadline r known] at due
      exact .inr (.inl due)
    · rw [first.deadline r known] at read
      exact .inr (.inr (read.earlier first.clock))

/-- The bound only asks for more. -/
theorem Drift.unbounded (drift : Drift o bound s s') : Drift o none s s' :=
  { drift with expires := nofun }

/-- What the host does during a callback. -/
abbrev HostDrifts (o : TaskStoreOptions) (G : ω → Option ℚ) : TaskStore → TaskStore → Prop :=
  Machine.Rely fun op => Drift o (G op)

theorem HostDrifts.drift {G : ω → Option ℚ} (moves : HostDrifts o G s s') : Drift o none s s' := by
  induction moves with
  | refl => exact .refl o none _
  | tail _ step ih =>
    obtain ⟨op, step⟩ := step
    exact ih.trans step.unbounded

theorem drift_quiet (quiet : Quiet s s') : Drift o bound s s' := by
  obtain ⟨nowFn, readings, rfl⟩ := quiet
  exact
    { clock := ⟨readings, rfl⟩
      allocated := le_rfl
      named := fun _ _ => rfl
      deadline := fun _ _ => rfl
      terminal := fun _ _ _ => rfl
      expiry := fun _ known _ armed => .inl ⟨known, armed⟩
      purge := fun _ known _ armed => .inl ⟨known, armed⟩
      expires := fun _ _ _ _ expired => .inl expired }

theorem Armed.quiet (armed : Armed s) (quiet : Quiet s s') : Armed s' := by
  obtain ⟨nowFn, readings, rfl⟩ := quiet
  exact ⟨armed.stored, armed.armed⟩

/-- What may become of a task and its timers at once. -/
structure TimerMoves (o : TaskStoreOptions) (task task' : StoredTask) : Prop where
  named : task'.requestId = task.requestId
  deadline : task'.deadlineMonotonicMs = task.deadlineMonotonicMs
  terminal : isTerminalTaskState task.state = true → task'.state = task.state
  expiry : ∀ d, task'.expiryTimer = some d → task.expiryTimer = some d
  purge : ∀ d, task'.purgeTimer = some d → task.purgeTimer = some d ∨
    o.terminalRetentionMs = some d ∧ isTerminalTaskState task'.state = true ∧
      isTerminalTaskState task.state = false

theorem TimerMoves.refl (o : TaskStoreOptions) (task : StoredTask) : TimerMoves o task task :=
  ⟨rfl, rfl, fun _ => rfl, fun _ => id, fun _ => .inl⟩

theorem TimerMoves.others {s s' : TaskStore} (moves : TimerMoves o (s.heap r) task')
    (heap : s'.heap = Function.update s.heap r task') (r' : RecordId) :
    TimerMoves o (s.heap r') (s'.heap r') := by
  rw [heap]
  by_cases same : r' = r
  · subst same
    rw [Function.update_self]
    exact moves
  · rw [Function.update_of_ne same]
    exact .refl o _

theorem TimerMoves.update {s : TaskStore} {change : StoredTask → StoredTask} (moves : TimerMoves o (s.heap r) (change (s.heap r)))
    (r' : RecordId) : TimerMoves o (s.heap r') ((s.update r change).heap r') := moves.others rfl r'

/-- One task moves; when it expires it has to be due. -/
theorem Drift.update {s s' : TaskStore} (drift : Drift o bound s₀ s) (moves : TimerMoves o (s.heap r) task')
    (heap : s'.heap = Function.update s.heap r task') (nextRecord : s'.nextRecord = s.nextRecord)
    (clock : s'.monotonicNowFn = s.monotonicNowFn)
    (due : task'.state = .expired → (s.heap r).state = .expired ∨ ∀ time ∈ bound,
      (s.heap r).deadlineMonotonicMs ≤ time ∨ ReadBy s₀ s (s.heap r).deadlineMonotonicMs) :
    Drift o bound s₀ s' := by
  have tasks := moves.others heap
  have ticks : ∃ readings, s'.monotonicNowFn = fun n => s.monotonicNowFn (n + readings) := ⟨0, clock⟩
  have plain : Drift o none s s' :=
    { clock := ticks
      allocated := nextRecord.ge
      named := fun r' _ => (tasks r').named
      deadline := fun r' _ => (tasks r').deadline
      terminal := fun r' _ => (tasks r').terminal
      expiry := fun r' known d armed => .inl ⟨nextRecord ▸ known, (tasks r').expiry d armed⟩
      purge := fun r' known d armed => by
        obtain before | ⟨retention, terminal, live⟩ := (tasks r').purge d armed
        · exact .inl ⟨nextRecord ▸ known, before⟩
        · exact .inr ⟨retention, terminal, fun _ => live⟩
      expires := nofun }
  refine { drift.unbounded.trans plain with expires := fun time member r' known expired => ?_ }
  have before : (s.heap r').state = .expired → (s₀.heap r').state = .expired ∨
      (s₀.heap r').deadlineMonotonicMs ≤ time ∨ ReadBy s₀ s' (s₀.heap r').deadlineMonotonicMs := by
    intro expired
    obtain expired | due | read := drift.expires time member r' known expired
    · exact .inl expired
    · exact .inr (.inl due)
    · exact .inr (.inr (read.later ticks))
  rw [heap] at expired
  by_cases same : r' = r
  · subst same
    rw [Function.update_self] at expired
    obtain expired | due := due expired
    · exact before expired
    · rw [drift.deadline r' known] at due
      obtain due | read := due time member
      · exact .inr (.inl due)
      · exact .inr (.inr (read.later ticks))
  · rw [Function.update_of_ne same] at expired
    exact before expired

/-- The table may lose what is no longer watched. -/
theorem Armed.update {s s' : TaskStore} (armed : Armed s) (moves : TimerMoves o (s.heap r) task')
    (heap : s'.heap = Function.update s.heap r task') (nextRecord : s'.nextRecord = s.nextRecord)
    (fewer : ∀ key r', s'.records.get? key = some r' → s.records.get? key = some r')
    (kept : ∀ r' < s.nextRecord, (s'.heap r').expiryTimer.isSome = true →
      s'.records.get? (s.heap r').requestId = s.records.get? (s.heap r').requestId) : Armed s' := by
  have tasks := moves.others heap
  constructor
  · intro key r' present
    obtain ⟨known, named⟩ := armed.stored key r' (fewer key r' present)
    exact ⟨nextRecord ▸ known, (tasks r').named.trans named⟩
  · intro r' known watched
    rw [nextRecord] at known
    obtain ⟨d, watched'⟩ := Option.isSome_iff_exists.mp watched
    rw [(tasks r').named, kept r' known watched]
    exact armed.armed r' known (Option.isSome_iff_exists.mpr ⟨d, (tasks r').expiry d watched'⟩)

/-- A segment that began in `s₀` has come to `s`. -/
structure Begun (o : TaskStoreOptions) (bound : Option ℚ) (s₀ s : TaskStore) : Prop where
  start : Armed s₀
  state : Armed s
  drift : Drift o bound s₀ s

theorem Begun.refl (state : Armed s) : Begun o bound s s := ⟨state, state, .refl o bound s⟩

theorem Begun.quiet (begun : Begun o bound s₀ s) (quiet : Quiet s s') : Begun o bound s₀ s' :=
  ⟨begun.start, begun.state.quiet quiet, begun.drift.trans (drift_quiet quiet)⟩

/-- Assigning to a record what does not matter to its place in the table. -/
theorem Begun.update (begun : Begun o bound s₀ s) {change : StoredTask → StoredTask}
    (moves : TimerMoves o (s.heap r) (change (s.heap r)))
    (due : (change (s.heap r)).state = .expired → (s.heap r).state = .expired ∨ ∀ time ∈ bound,
      (s.heap r).deadlineMonotonicMs ≤ time ∨ ReadBy s₀ s (s.heap r).deadlineMonotonicMs) :
    Begun o bound s₀ (s.update r change) :=
  ⟨begun.start, begun.state.update moves rfl rfl (fun _ _ => id) (fun _ _ _ => rfl),
    begun.drift.update moves rfl rfl rfl due⟩

end Drift

section Segments

variable {o : TaskStoreOptions} {bound : Option ℚ}

/-- Each segment of the code drifts, whatever the host does in between. -/
abbrev Drifts (o : TaskStoreOptions) (bound : Option ℚ) (code : StoreM α) (s₀ s : TaskStore) : Prop :=
  (code s).Keeps Armed (Drift o bound) (HostDrifts o TimerOp.bound) (fun s₁ s' _ => Begun o bound s₁ s') s₀

/-- So it does wherever it starts. -/
def Steady (o : TaskStoreOptions) (bound : Option ℚ) (code : StoreM α) : Prop :=
  ∀ s₀ s, Begun o bound s₀ s → Drifts o bound code s₀ s

theorem Drifts.bind {code : StoreM α} {next : α → StoreM β} (first : Drifts o bound code s₀ s)
    (begun : Begun o bound s₀ s) (rest : ∀ a, Steady o bound (next a)) :
    Drifts o bound (code >>= next) s₀ s :=
  Code.keeps_bind first begun.start (fun _ _ a _ begun => rest a _ _ begun) fun _ _ _ _ begun => begun

theorem Steady.bind {code : StoreM α} {next : α → StoreM β} (first : Steady o bound code)
    (rest : ∀ a, Steady o bound (next a)) : Steady o bound (code >>= next) :=
  fun s₀ s begun => (first s₀ s begun).bind begun rest

theorem steady_pure (a : α) : Steady o bound (pure a : StoreM α) := fun _ _ begun => begun

theorem steady_throw (e : StoreError) : Steady o bound (Code.throw e : StoreM α) := fun _ _ begun => begun

theorem steady_read {next : TaskStore → StoreM β}
    (rest : ∀ s₀ s, Begun o bound s₀ s → Drifts o bound (next s) s₀ s) :
    Steady o bound (Code.read >>= next) := fun s₀ s begun => rest s₀ s begun

theorem steady_notify (g : StoreCallback) : Steady o bound (Code.notify g : StoreM Unit) :=
  fun _ _ begun => Code.keeps_notify begun.drift begun.state fun _ state _ => .refl state

theorem steady_call (g : StoreCallback) : Steady o bound (Code.call g : StoreM (Option Bool)) :=
  fun _ _ begun => ⟨begun.drift, begun.state, fun _ _ state _ => Begun.refl state⟩

/-- Code that reads clocks at most, and what it answers. -/
theorem drifts_quietly {P : α → Prop} {code : StoreM α} {next : α → StoreM β} (quietly : Quietly P code)
    (begun : Begun o bound s₀ s)
    (rest : ∀ s' a, Quiet s s' → Begun o bound s₀ s' → P a → Drifts o bound (next a) s₀ s') :
    Drifts o bound (code >>= next) s₀ s := by
  obtain ⟨s', result, ran, quiet, holds⟩ := quietly s
  unfold Drifts
  rw [Code.bind_apply, ran, Sync.bind_done]
  cases result with
  | ok a => exact rest s' a quiet (begun.quiet quiet) (holds a rfl)
  | error e => exact begun.quiet quiet

theorem steady_quietly {P : α → Prop} {code : StoreM α} (quietly : Quietly P code) : Steady o bound code := by
  intro s₀ s begun
  obtain ⟨s', result, ran, quiet, -⟩ := quietly s
  unfold Drifts
  rw [ran]
  exact begun.quiet quiet

theorem steady_ensureUsable : Steady o bound ensureUsable := by
  refine steady_read fun s₀ s begun => ?_
  split
  · exact steady_throw _ s₀ s begun
  · exact steady_pure _ s₀ s begun

theorem signalled_moves (task : StoredTask) (aborted : Bool) (reason : Option JsString) :
    TimerMoves o task (signalled aborted reason task) :=
  ⟨rfl, rfl, fun _ => rfl, fun _ => id, fun _ => .inl⟩

theorem steady_abort (r : RecordId) (reason : Option JsString) : Steady o bound (abort r reason) := by
  refine steady_read fun s₀ s begun => ?_
  split
  · unfold Drifts
    rw [Code.modify_bind]
    exact steady_notify _ _ _ (begun.update (signalled_moves _ true reason) .inl)
  · exact steady_pure _ s₀ s begun

theorem steady_notifyExpired (snapshot : TaskSnapshot) : Steady o bound (notifyExpired snapshot) := by
  unfold notifyExpired
  split
  · exact steady_notify _
  · exact steady_pure _

theorem steady_announce (r : RecordId) (task : StoredTask) (next : TaskSnapshot) (reason : Option JsString) :
    Steady o bound (announce r task next reason) := by
  have observed : Steady o bound (notifyTransition task next reason) := by
    refine (steady_notify _).bind fun _ => (steady_notifyExpired next).bind fun _ => ?_
    split
    · exact steady_notify _
    · exact steady_pure _
  unfold announce
  dsimp only
  split
  · exact (steady_abort r reason).bind fun _ => observed
  · exact observed

/-- A committed task loses its expiry timer when it is terminal, and may gain a purge timer. -/
theorem commitTask_moves (task : StoredTask) (next : TaskSnapshot) (updatedAtMs : ℚ)
    (live : isTerminalTaskState task.state = false) :
    TimerMoves o task (commitTask o task next updatedAtMs) := by
  unfold commitTask schedulePurge clearExpiry
  dsimp only
  split
  · rename_i terminal
    cases retention : o.terminalRetentionMs with
    | none => exact ⟨rfl, rfl, fun past => absurd past (by simp [live]), nofun, fun _ => .inl⟩
    | some delayMs =>
      refine ⟨rfl, rfl, fun past => absurd past (by simp [live]), nofun, fun d armed => .inr ?_⟩
      exact ⟨retention.trans armed, terminal, live⟩
  · exact ⟨rfl, rfl, fun past => absurd past (by simp [live]), fun _ => id, fun _ => .inl⟩

/-- The task is there, and terminal. -/
def Over (r : RecordId) (s : TaskStore) : Prop :=
  r < s.nextRecord ∧ isTerminalTaskState (s.heap r).state = true

theorem Over.drift (past : Over r s) (drift : Drift o bound s s') : Over r s' := by
  refine ⟨past.1.trans_le drift.allocated, ?_⟩
  rw [drift.terminal r past.1 past.2]
  exact past.2

/-- The task may expire now. -/
def Due (bound : Option ℚ) (s₀ s : TaskStore) (r : RecordId) : Prop :=
  ∀ time ∈ bound, (s.heap r).deadlineMonotonicMs ≤ time ∨ ReadBy s₀ s (s.heap r).deadlineMonotonicMs

theorem Due.quiet (due : Due bound s₀ s r) (quiet : Quiet s s') : Due bound s₀ s' r := by
  obtain ⟨nowFn, readings, rfl⟩ := quiet
  exact fun time member => (due time member).imp_right fun read => read.later ⟨readings, rfl⟩

theorem due_none (s₀ s : TaskStore) (r : RecordId) : Due none s₀ s r := nofun

theorem keeps_transitionRecord (expectedState : Option TaskState) (nextState : TaskState)
    (update : TaskTransitionUpdate) (begun : Begun o bound s₀ s)
    (due : nextState = .expired → Due bound s₀ s r) :
    (transitionRecord o r expectedState nextState update s).Keeps Armed (Drift o bound)
      (HostDrifts o TimerOp.bound) (fun s₁ s' result => Begun o bound s₁ s' ∧
        (nextState = .expired → expectedState = none → r < s.nextRecord → result.toOption ≠ none → Over r s')) s₀ := by
  unfold transitionRecord
  rw [Code.read_bind]
  dsimp only
  split
  · rename_i mismatch
    exact ⟨begun, fun _ any => by simp [any] at mismatch⟩
  split
  · rename_i terminal
    exact ⟨begun, fun _ _ known _ => ⟨known, terminal⟩⟩
  split
  · rename_i live illegal
    refine ⟨begun, fun expiring => ?_⟩
    subst expiring
    have live : isTerminalTaskState (s.heap r).snapshot.state = false := by simpa using live
    simp [canTransition_expired live] at illegal
  rename_i live _
  have live : isTerminalTaskState (s.heap r).state = false := by simpa [StoredTask.state] using live
  obtain ⟨s', result, ran, quiet, built⟩ := quietly_buildNextSnapshot (s.heap r) nextState update s
  have begun' := begun.quiet quiet
  rw [Code.bind_apply, ran, Sync.bind_done]
  cases result with
  | error e => exact ⟨begun', fun _ _ _ ok => absurd rfl ok⟩
  | ok next =>
    obtain ⟨nextSnapshot, updatedAtMs⟩ := next
    have state : nextSnapshot.state = nextState := (built _ rfl).state
    rw [← quiet.heap] at live
    dsimp only
    rw [Code.modify_bind]
    have moves := commitTask_moves (o := o) (s'.heap r) nextSnapshot updatedAtMs live
    have committed : Begun o bound s₀ (commit o s' r nextSnapshot updatedAtMs) := by
      refine ⟨begun.start, begun'.state.update moves rfl rfl (fun _ _ => id) fun _ _ _ => rfl,
        begun'.drift.update moves rfl rfl rfl fun expired => .inr ?_⟩
      rw [commitTask_state, state] at expired
      exact (due expired).quiet quiet
    have announced := @steady_announce o bound r (s.heap r) nextSnapshot (updateReason update)
    refine Code.keeps_bind (Q := fun s₁ s' _ => Begun o bound s₁ s' ∧
      (nextState = .expired → r < s.nextRecord → Over r s')) ?_ begun.start ?_ ?_
    · by_cases expires : nextState = .expired ∧ r < s.nextRecord
      · have past : Over r (commit o s' r nextSnapshot updatedAtMs) := by
          refine ⟨quiet.nextRecord ▸ expires.2, ?_⟩
          simp only [commit, TaskStore.update, Function.update_self, commitTask_state, state, expires.1]
          rfl
        refine (Sync.Keeps.stable (announced _ _ committed) (announced _ _ (.refl committed.state)) past
          (fun _ _ drift past => past.drift drift) (fun _ _ away past => past.drift away.drift)
          (fun _ _ _ begun past => past.drift begun.drift)).imp ?_
        rintro s₁ s' _ ⟨begun, past⟩
        exact ⟨begun, fun _ _ => past⟩
      · refine (announced _ _ committed).imp fun s₁ s' _ begun => ⟨begun, fun expired known => ?_⟩
        exact absurd ⟨expired, known⟩ expires
    · rintro s₁ s' _ _ ⟨begun, past⟩
      exact ⟨begun, fun expired _ known _ => past expired known⟩
    · rintro s₁ s' _ _ ⟨begun, past⟩
      exact ⟨begun, fun expired _ known _ => past expired known⟩

/-- The found task may expire where only the due ones may. -/
def FindsDue (bound : Option ℚ) (s₀ s : TaskStore) (requestId : JsString) : Prop :=
  ∀ r, s.records.get? requestId = some r → Due bound s₀ s r

theorem findsDue_none (s₀ s : TaskStore) (requestId : JsString) : FindsDue none s₀ s requestId := nofun

/-- Nothing has happened in the segment since `s`. -/
def Still (s₀ s s₁ s' : TaskStore) : Prop := s₁ = s₀ ∧ Quiet s s'

theorem keeps_expireRecord (begun : Begun o bound s₀ s) (due : FindsDue bound s₀ s (s.heap r).requestId) :
    (expireRecord o r s).Keeps Armed (Drift o bound) (HostDrifts o TimerOp.bound)
      (fun s₁ s' result => Begun o bound s₁ s' ∧
        (s.records.get? (s.heap r).requestId = some r → result = .ok () → Over r s')) s₀ := by
  unfold expireRecord
  rw [Code.read_bind]
  split
  · rename_i skipped
    refine ⟨begun, fun stored _ => ⟨(begun.state.stored _ _ stored).1, ?_⟩⟩
    simpa [JsMap.has, stored] using skipped
  · refine Code.keeps_bind (Q := fun s₁ s' _ => s₀ = s₁ ∧ s = s') ?_ begun.start ?_ ?_
    · unfold ensureUsable
      rw [Code.read_bind]
      split
      · exact ⟨rfl, rfl⟩
      · exact ⟨rfl, rfl⟩
    · rintro _ _ _ _ ⟨rfl, rfl⟩
      rw [Code.read_bind]
      cases found : s.find (s.heap r).requestId with
      | none => exact ⟨begun, fun stored _ => by rw [← TaskStore.find, found] at stored; cases stored⟩
      | some r' =>
        obtain ⟨known', same⟩ := begun.state.stored _ r' found
        refine Code.keeps_bind (keeps_transitionRecord none .expired expiredUpdate begun fun _ => due r' found)
          begun.start ?_ ?_
        · rintro s₁ s' result _ ⟨begun, past⟩
          refine ⟨begun, fun stored _ => ?_⟩
          cases stored.symm.trans found
          exact past rfl rfl known' (by simp [Except.toOption])
        · rintro s₁ s' e _ ⟨begun, _⟩
          exact ⟨begun, fun _ failed => by cases failed⟩
    · rintro _ _ e _ ⟨rfl, rfl⟩
      exact ⟨begun, fun _ failed => by cases failed⟩

theorem currentMonotonic_bind (next : ℚ → StoreM β) (s : TaskStore) :
    (currentMonotonic >>= next) s =
      next (s.monotonicNowFn 0) { s with monotonicNowFn := fun n => s.monotonicNowFn (n + 1) } := rfl

/-- A stored task is terminal afterwards, or was not due. -/
theorem keeps_expireIfDue (begun : Begun o bound s₀ s) (stored : s.records.get? (s.heap r).requestId = some r) :
    (expireIfDue o r s).Keeps Armed (Drift o bound) (HostDrifts o TimerOp.bound)
      (fun s₁ s' result => Begun o bound s₁ s' ∧ (result = .ok () → Still s₀ s s₁ s' ∨ Over r s')) s₀ := by
  unfold expireIfDue
  rw [Code.read_bind]
  split
  · exact ⟨begun, fun _ => .inl ⟨rfl, .refl s⟩⟩
  rw [currentMonotonic_bind]
  have quiet : Quiet s { s with monotonicNowFn := fun n => s.monotonicNowFn (n + 1) } := ⟨s.nowFn, 1, rfl⟩
  have begun' := begun.quiet quiet
  split
  · rename_i reached
    refine (keeps_expireRecord begun' fun r' found time _ => .inr ?_).imp ?_
    · have same : r' = r := Option.some.inj (found.symm.trans stored)
      subst same
      exact ReadBy.earlier ⟨1, rfl, 0, Nat.one_pos, reached⟩ begun.drift.clock
    · rintro s₁ s' result ⟨begun, past⟩
      exact ⟨begun, fun done => .inr (past stored done)⟩
  · exact ⟨begun', fun _ => .inl ⟨rfl, quiet⟩⟩

/-- Where any task may expire. -/
theorem steady_expireRecord (r : RecordId) : Steady o none (expireRecord o r) := fun _ _ begun =>
  (keeps_expireRecord begun (findsDue_none _ _ _)).imp fun _ _ _ post => post.1

theorem steady_transitionRecord (r : RecordId) (expectedState : Option TaskState) (nextState : TaskState)
    (update : TaskTransitionUpdate) : Steady o none (transitionRecord o r expectedState nextState update) :=
  fun _ _ begun =>
    (keeps_transitionRecord expectedState nextState update begun fun _ => due_none _ _ _).imp fun _ _ _ post => post.1

theorem steady_expireIfDue (r : RecordId) : Steady o none (expireIfDue o r) := by
  refine steady_read fun s₀ s begun => ?_
  dsimp only
  split
  · exact steady_pure _ s₀ s begun
  · refine (steady_quietly quietly_currentMonotonic).bind (fun now => ?_) s₀ s begun
    split
    · exact steady_expireRecord r
    · exact steady_pure _

theorem steady_tryTransition (requestId : JsString) (expectedState : Option TaskState) (nextState : TaskState)
    (update : TaskTransitionUpdate) : Steady o none (tryTransition o requestId expectedState nextState update) := by
  refine steady_ensureUsable.bind fun _ => steady_read fun s₀ s begun => ?_
  cases s.find requestId with
  | none => exact steady_pure _ s₀ s begun
  | some r =>
    have moved : Steady o none (transitionRecord o r expectedState nextState update) :=
      steady_transitionRecord r expectedState nextState update
    dsimp only
    split
    · exact (steady_expireIfDue r).bind (fun _ => moved) s₀ s begun
    · exact moved s₀ s begun

/-- Code that looks a task up first. -/
theorem steady_find {requestId : JsString} {missing : StoreM α} {next : RecordId → StoreM α}
    (none : Steady o bound missing) (some : ∀ r, Steady o bound (next r)) :
    Steady o bound (do
      match (← Code.read).find requestId with
      | .none => missing
      | .some r => next r) := by
  refine steady_read fun s₀ s begun => ?_
  cases s.find requestId with
  | none => exact none s₀ s begun
  | some r => exact some r s₀ s begun

theorem steady_isAuthorized (r : RecordId) (caller : JsString) (action : TaskAuthorizationAction) :
    Steady o bound (isAuthorized o r caller action) := by
  refine steady_read fun s₀ s begun => ?_
  dsimp only
  split
  · exact steady_pure _ s₀ s begun
  · refine (steady_call _).bind (fun answer => ?_) s₀ s begun
    cases answer with
    | none => exact steady_throw _
    | some answer => exact steady_pure _

theorem steady_refuses (r : RecordId) (caller : Option JsString) (action : TaskAuthorizationAction) :
    Steady o bound (refuses o r caller action) := by
  cases caller with
  | none => exact steady_pure _
  | some caller => exact (steady_isAuthorized r caller action).bind fun _ => steady_pure _

theorem steady_getTask (requestId : JsString) (read : SnapshotReadOptions) :
    Steady o none (getTask o requestId read) := by
  refine steady_find (steady_pure _) fun r => (steady_expireIfDue r).bind fun _ => ?_
  refine (steady_refuses r read.caller .status).bind fun refused => ?_
  split
  · exact steady_pure _
  · exact steady_read fun s₀ s begun => steady_pure _ s₀ s begun

theorem steady_getStatusResult (requestId : JsString) (read : SnapshotReadOptions) :
    Steady o none (getStatusResult o requestId read) := by
  refine steady_find (steady_pure _) fun r => (steady_expireIfDue r).bind fun _ => ?_
  refine (steady_refuses r read.caller .status).bind fun refused => ?_
  split
  · exact steady_pure _
  · exact steady_read fun s₀ s begun => steady_pure _ s₀ s begun

theorem steady_getRecordMetadata (requestId : JsString) : Steady o none (getRecordMetadata o requestId) :=
  steady_find (steady_pure _) fun r => (steady_expireIfDue r).bind fun _ =>
    steady_read fun s₀ s begun => steady_pure _ s₀ s begun

theorem steady_ownsTask (requestId caller : JsString) : Steady o none (ownsTask o requestId caller) :=
  steady_find (steady_pure _) fun r => steady_isAuthorized r caller .status

theorem steady_beginExecution (requestId : JsString) : Steady o none (beginExecution o requestId) := by
  refine steady_find (steady_pure _) fun r => (steady_expireIfDue r).bind fun _ => ?_
  refine steady_read fun s₀ s begun => ?_
  split
  · refine (steady_tryTransition requestId none .working .empty).bind (fun result => ?_) s₀ s begun
    cases result with
    | failure code snapshot => exact steady_pure _
    | success previous snapshot =>
      refine steady_read fun s₀ s begun => ?_
      dsimp only
      split
      · exact steady_pure _ s₀ s begun
      · exact steady_pure _ s₀ s begun
  · exact steady_read (fun s₀ s begun => steady_pure _ s₀ s begun) s₀ s begun

theorem steady_expireTask (requestId : JsString) : Steady o none (expireTask o requestId) := by
  refine steady_find (steady_pure _) fun r => steady_read fun s₀ s begun => ?_
  refine (steady_tryTransition _ none .expired expiredUpdate).bind (fun result => ?_) s₀ s begun
  cases result with
  | failure code snapshot => exact steady_pure _
  | success previous snapshot => exact steady_pure _

theorem steady_cancelTask (requestId : JsString) (request : CancellationRequest) :
    Steady o none (cancelTask o requestId request) := by
  refine steady_ensureUsable.bind fun _ => steady_find (steady_pure _) fun r => ?_
  refine (steady_expireIfDue r).bind fun _ => (steady_refuses r request.caller .cancel).bind fun refused => ?_
  split
  · exact steady_pure _
  refine steady_read fun s₀ s begun => ?_
  dsimp only
  split
  · exact steady_pure _ s₀ s begun
  split
  · exact steady_pure _ s₀ s begun
  have requestedAt : Steady o none (cancellationRequestedAt request) := by
    unfold cancellationRequestedAt
    cases request.requestedAt with
    | some requestedAt => exact steady_pure _
    | none => exact (steady_quietly quietly_currentNow).bind fun _ => steady_pure _
  refine requestedAt.bind (fun requestedAt => (steady_tryTransition _ none _ _).bind fun result => ?_) s₀ s begun
  cases result with
  | failure code snapshot => exact steady_pure _
  | success previous snapshot => exact steady_pure _

/-- What is removed is not watched any more. -/
theorem Begun.remove (begun : Begun o bound s₀ s) (stored : s.records.get? key = some r) {s' : TaskStore}
    (heap : s'.heap = Function.update s.heap r (clearTimers (s.heap r))) (nextRecord : s'.nextRecord = s.nextRecord)
    (records : s'.records = s.records.delete key) (clock : s'.monotonicNowFn = s.monotonicNowFn) :
    Begun o bound s₀ s' := by
  have moves : TimerMoves o (s.heap r) (clearTimers (s.heap r)) := ⟨rfl, rfl, fun _ => rfl, nofun, nofun⟩
  refine ⟨begun.start, begun.state.update moves heap nextRecord ?_ ?_,
    begun.drift.update moves heap nextRecord clock .inl⟩
  · intro key' r' present
    rw [records, JsMap.get?_delete_eq_some_iff] at present
    exact present.2
  · intro r' known watched
    have other : r' ≠ r := by
      rintro rfl
      rw [heap, Function.update_self] at watched
      cases watched
    rw [heap, Function.update_of_ne other] at watched
    rw [records, JsMap.get?_delete_ne]
    intro same
    have present := begun.state.armed r' known watched
    rw [same, stored] at present
    exact other (Option.some.inj present).symm

theorem steady_purgeTask (requestId : JsString) : Steady o bound (purgeTask requestId) := by
  refine steady_read fun s₀ s begun => ?_
  cases found : s.find requestId with
  | none => exact steady_pure _ s₀ s begun
  | some r =>
    dsimp only
    split
    · exact begun.remove found rfl rfl rfl rfl
    · exact steady_pure _ s₀ s begun

/-- A new task under a free key, its timers armed. -/
theorem Begun.insert (begun : Begun o bound s₀ s) (task : StoredTask) (free : s.records.get? task.requestId = none)
    (expiry : ∀ d, task.expiryTimer = some d → ReadBy s₀ s (task.deadlineMonotonicMs - d))
    (purge : ∀ d, task.purgeTimer = some d →
      o.terminalRetentionMs = some d ∧ isTerminalTaskState task.state = true) :
    Begun o bound s₀ (insertRecord s task.requestId task) := by
  have old : ∀ r < s.nextRecord, (insertRecord s task.requestId task).heap r = s.heap r :=
    fun r known => Function.update_of_ne (Nat.ne_of_lt known) _ _
  have new : (insertRecord s task.requestId task).heap s.nextRecord = task := Function.update_self _ _ _
  have allocated := begun.drift.allocated
  refine ⟨begun.start, ⟨?_, ?_⟩, ?_⟩
  · intro key r present
    simp only [insertRecord, JsMap.get?_set] at present
    split at present
    · rename_i same
      cases present
      refine ⟨Nat.lt_succ_self _, ?_⟩
      rw [new, same]
    · obtain ⟨known, named⟩ := begun.state.stored key r present
      exact ⟨known.trans (Nat.lt_succ_self _), (old r known).symm ▸ named⟩
  · intro r known watched
    obtain known | rfl := Nat.lt_succ_iff_lt_or_eq.mp known
    · rw [old r known] at watched ⊢
      have present := begun.state.armed r known watched
      have differ : (s.heap r).requestId ≠ task.requestId := by
        intro same
        rw [same, free] at present
        cases present
      simp only [insertRecord, JsMap.get?_set, if_neg differ]
      exact present
    · rw [new]
      simp only [insertRecord, JsMap.get?_set_self]
  · exact
      { clock := begun.drift.clock
        allocated := allocated.trans (Nat.le_succ _)
        named := fun r known => by
          rw [old r (known.trans_le allocated)]
          exact begun.drift.named r known
        deadline := fun r known => by
          rw [old r (known.trans_le allocated)]
          exact begun.drift.deadline r known
        terminal := fun r known => by
          rw [old r (known.trans_le allocated)]
          exact begun.drift.terminal r known
        expiry := fun r known d armed => by
          obtain known | rfl := Nat.lt_succ_iff_lt_or_eq.mp known
          · rw [old r known] at armed ⊢
            exact begun.drift.expiry r known d armed
          · rw [new] at armed ⊢
            exact .inr ⟨allocated, expiry d armed⟩
        purge := fun r known d armed => by
          obtain known | rfl := Nat.lt_succ_iff_lt_or_eq.mp known
          · rw [old r known] at armed ⊢
            exact begun.drift.purge r known d armed
          · rw [new] at armed ⊢
            exact .inr ⟨(purge d armed).1, (purge d armed).2, fun before => absurd before (Nat.not_lt.mpr allocated)⟩
        expires := fun time member r known expired => by
          rw [old r (known.trans_le allocated)] at expired
          exact begun.drift.expires time member r known expired }

/-- The timer of a new task runs up to its deadline. -/
theorem drifts_scheduleExpiry (begun : Begun o none s₀ s) (task : StoredTask)
    (free : s.records.get? task.requestId = none) (expiry : task.expiryTimer = none) (purge : task.purgeTimer = none) :
    Drifts o none (scheduleExpiry o s.nextRecord) s₀ (insertRecord s task.requestId task) := by
  have created : (insertRecord s task.requestId task).heap s.nextRecord = task := Function.update_self _ _ _
  have ticked : Quiet s { s with monotonicNowFn := fun n => s.monotonicNowFn (n + 1) } := ⟨s.nowFn, 1, rfl⟩
  unfold Drifts scheduleExpiry
  rw [Code.read_bind, created, currentMonotonic_bind]
  split
  · have inserted := begun.insert task free (by simp [expiry]) (by simp [purge])
    exact steady_expireRecord _ _ _ (inserted.quiet ⟨s.nowFn, 1, rfl⟩)
  · rename_i later
    have positive : 0 < task.deadlineMonotonicMs - s.monotonicNowFn 0 := by
      by_contra past
      exact later (max_eq_left (not_lt.mp past))
    let armed : StoredTask := { task with expiryTimer := some (max 0 (task.deadlineMonotonicMs - s.monotonicNowFn 0)) }
    have inserted := (begun.quiet ticked).insert armed free ?_ (fun d held => by simp [armed, purge] at held)
    · have same : insertRecord { s with monotonicNowFn := fun n => s.monotonicNowFn (n + 1) } armed.requestId armed =
          { insertRecord s task.requestId task with
            heap := Function.update (insertRecord s task.requestId task).heap s.nextRecord
              { (insertRecord s task.requestId task).heap s.nextRecord with expiryTimer := armed.expiryTimer }
            monotonicNowFn := fun n => s.monotonicNowFn (n + 1) } := by
        rw [created]
        simp only [insertRecord, Function.update_idem, armed, StoredTask.state]
        rfl
      rw [same] at inserted
      exact inserted
    · rintro d ⟨⟩
      rw [max_eq_right positive.le, sub_sub_cancel]
      exact ReadBy.earlier ⟨1, rfl, 0, Nat.one_pos, le_rfl⟩ begun.drift.clock

theorem steady_createTask (input : TaskStoreCreateInput) : Steady o none (createTask o input) := by
  refine steady_ensureUsable.bind fun _ => steady_read fun s₀ s begun => ?_
  by_cases taken : s.records.has input.requestId = true
  · dsimp only
    rw [if_pos taken]
    exact steady_throw _ s₀ s begun
  dsimp only
  rw [if_neg taken]
  refine drifts_quietly (quietly_newTask input) begun fun s' task quiet begun' new => ?_
  have free : s'.records.get? task.requestId = none := by
    rw [new.requestId, quiet.records]
    simpa [JsMap.has] using taken
  unfold Drifts
  rw [Code.read_bind, ← new.requestId]
  split
  · rename_i terminal
    have inserted : Begun o none s₀ (insertRecord s' task.requestId (schedulePurge o task)) := by
      unfold schedulePurge
      cases retention : o.terminalRetentionMs with
      | none => exact begun'.insert task free (by simp [new.expiryTimer]) (by simp [new.purgeTimer])
      | some delayMs =>
        have armed : Begun o none s₀ (insertRecord s' task.requestId { task with purgeTimer := some delayMs }) := by
          refine begun'.insert { task with purgeTimer := some delayMs } free (by simp [new.expiryTimer]) ?_
          rintro d ⟨⟩
          exact ⟨retention, terminal⟩
        exact armed
    rw [Code.modify_bind]
    split
    · exact (steady_abort _ _).bind (fun _ => (steady_notifyExpired _).bind fun _ => steady_pure _) _ _ inserted
    · exact inserted
  · have inserted : Begun o none s₀ (insertRecord s' task.requestId task) :=
      begun'.insert task free (by simp [new.expiryTimer]) (by simp [new.purgeTimer])
    rw [Code.modify_bind]
    exact (drifts_scheduleExpiry begun' task free new.expiryTimer new.purgeTimer).bind inserted fun _ => steady_pure _

/-! Loops. -/

/-- The tasks that `clear` has visited are not watched any more. -/
def Visited : StoreLoop → TaskStore → Prop
  | .clear _ visited, s => ∀ r ∈ visited, r < s.nextRecord ∧ (s.heap r).expiryTimer = none
  | .list .., _ => True

theorem Visited.drift {label : StoreLoop} (held : Visited label s) (drift : Drift o bound s s') :
    Visited label s' := by
  cases label with
  | list read visited snapshots => trivial
  | clear disposing visited =>
    intro r member
    obtain ⟨known, unwatched⟩ := held r member
    refine ⟨known.trans_le drift.allocated, ?_⟩
    by_contra watched
    obtain ⟨d, armed⟩ := Option.ne_none_iff_exists'.mp watched
    obtain ⟨_, before⟩ | ⟨new, _⟩ := drift.expiry r (known.trans_le drift.allocated) d armed
    · rw [unwatched] at before
      cases before
    · exact absurd known (Nat.not_lt.mpr new)

theorem steady_listRound (read : SnapshotReadOptions) (visited : List RecordId) (snapshots : List TaskSnapshot) :
    Steady o none (listRound o read visited snapshots) := by
  refine steady_read fun s₀ s begun => ?_
  cases s.nextUnvisited visited with
  | none => exact steady_pure _ s₀ s begun
  | some r =>
    refine (steady_expireIfDue r).bind (fun _ => (steady_refuses r read.caller .status).bind fun refused => ?_) s₀ s begun
    split
    · exact steady_pure _
    · exact steady_read fun s₀ s begun => steady_pure _ s₀ s begun

/-- A round of `clear` stops the timers of a task; the last one finds all stopped. -/
theorem keeps_clearRound (disposing : Bool) (visited : List RecordId) (begun : Begun o none s₀ s)
    (held : Visited (.clear disposing visited) s) :
    (clearRound disposing visited s).Keeps Armed (Drift o none) (HostDrifts o TimerOp.bound)
      (fun s₁ s' next => Begun o none s₁ s' ∧ ∀ more, next = .ok (some more) → Visited (.clear disposing more) s') s₀ := by
  unfold clearRound
  rw [Code.read_bind]
  cases next : s.nextUnvisited visited with
  | none =>
    refine ⟨⟨begun.start, ⟨fun key r stored => ?_, fun r known watched => ?_⟩, ?_⟩, fun _ goesOn => ?_⟩
    · cases stored
    · have present := begun.state.armed r known watched
      have unwatched := (held r (nextUnvisited_none next present)).2
      rw [unwatched] at watched
      cases watched
    · exact begun.drift.trans
        { clock := ⟨0, rfl⟩
          allocated := le_rfl
          named := fun _ _ => rfl
          deadline := fun _ _ => rfl
          terminal := fun _ _ _ => rfl
          expiry := fun _ known _ armed => .inl ⟨known, armed⟩
          purge := fun _ known _ armed => .inl ⟨known, armed⟩
          expires := fun _ none' => by cases none' }
    · cases goesOn
  | some r =>
    obtain ⟨key, present⟩ := nextUnvisited_some next
    have moves : TimerMoves o (s.heap r) (clearTimers (s.heap r)) :=
      ⟨rfl, rfl, fun _ => rfl, fun _ armed => (by cases armed), fun _ armed => (by cases armed)⟩
    have cleared : Begun o none s₀ (s.update r clearTimers) := begun.update moves .inl
    have stopped : Visited (.clear disposing (r :: visited)) (s.update r clearTimers) := by
      intro r' member
      by_cases same : r' = r
      · subst same
        exact ⟨(begun.state.stored key r' present).1, by simp [TaskStore.update, clearTimers]⟩
      · obtain ⟨known, unwatched⟩ := held r' (List.mem_of_ne_of_mem same member)
        exact ⟨known, by simp only [TaskStore.update, Function.update_of_ne same, unwatched]⟩
    have aborts : Steady o none (abort r (some "task store cleared")) := steady_abort r _
    have kept := Sync.Keeps.stable (aborts _ _ cleared) (aborts _ _ (.refl cleared.state)) stopped
      (fun _ _ drift held => held.drift drift) (fun _ _ away held => held.drift away.drift)
      (fun _ _ _ begun held => held.drift begun.drift)
    dsimp only
    rw [Code.modify_bind]
    refine Code.keeps_bind kept begun.start ?_ ?_
    · rintro s₁ s' _ _ ⟨begun, held⟩
      refine ⟨begun, ?_⟩
      rintro _ ⟨⟩
      exact held
    · rintro s₁ s' _ _ ⟨begun, _⟩
      exact ⟨begun, fun _ failed => by cases failed⟩

/-! Timers. -/

theorem Due.update (due : Due bound s₀ s r') {change : StoredTask → StoredTask}
    (moves : TimerMoves o (s.heap r) (change (s.heap r))) : Due bound s₀ (s.update r change) r' := by
  intro time member
  rw [(moves.update r').deadline]
  exact due time member

theorem drifts_expiryTimer (begun : Begun o bound s₀ s) (due : FindsDue bound s₀ s (s.heap r).requestId) :
    Drifts o bound (expiryTimer o r) s₀ s := by
  have moves : TimerMoves o (s.heap r) (clearExpiry (s.heap r)) := ⟨rfl, rfl, fun _ => rfl, nofun, fun _ => .inl⟩
  have fired : Begun o bound s₀ (s.update r clearExpiry) := begun.update moves .inl
  have named : ((s.update r clearExpiry).heap r).requestId = (s.heap r).requestId :=
    (moves.update r).named
  have due' : FindsDue bound s₀ (s.update r clearExpiry) ((s.update r clearExpiry).heap r).requestId := by
    intro r' found
    rw [named] at found
    exact (due r' found).update moves
  unfold Drifts expiryTimer
  rw [Code.read_bind]
  split
  · rw [Code.modify_bind]
    exact (keeps_expireRecord fired due').imp fun _ _ _ post => post.1
  · exact begun

/-- What the router's timer reads is terminal, or what there was. -/
theorem keeps_getTask (begun : Begun o bound s₀ s) (includeTerminalResponse : Bool) :
    (getTask o requestId ⟨includeTerminalResponse, none⟩ s).Keeps Armed (Drift o bound) (HostDrifts o TimerOp.bound)
      (fun s₁ s' result => Begun o bound s₁ s' ∧ ∀ current, result = .ok (some current) →
        isTerminalTaskState current.state = false → Still s₀ s s₁ s') s₀ := by
  unfold getTask
  rw [Code.read_bind]
  cases found : s.find requestId with
  | none => exact Sync.keeps_done ⟨begun, fun _ same => by cases same⟩
  | some r =>
    have stored : s.records.get? (s.heap r).requestId = some r := by
      rw [(begun.state.stored _ r found).2]
      exact found
    refine Code.keeps_bind (keeps_expireIfDue begun stored) begun.start ?_ ?_
    · rintro s₁ s' ⟨⟩ _ ⟨begun, outcome⟩
      refine ⟨begun, ?_⟩
      rintro current ⟨⟩ live
      obtain still | past := outcome rfl
      · exact still
      · have terminal := past.2
        rw [StoredTask.state] at terminal
        have same : (projectSnapshot (s'.heap r).snapshot includeTerminalResponse).state = (s'.heap r).snapshot.state := by
          unfold projectSnapshot
          split <;> rfl
        rw [same, terminal] at live
        cases live
    · rintro s₁ s' e _ ⟨begun, _⟩
      refine ⟨begun, fun _ same => ?_⟩
      cases same

theorem drifts_expireTask (begun : Begun o bound s₀ s) (due : FindsDue bound s₀ s requestId) :
    Drifts o bound (expireTask o requestId) s₀ s := by
  unfold Drifts expireTask
  rw [Code.read_bind]
  cases found : s.find requestId with
  | none => exact begun
  | some r =>
    have named : (s.heap r).requestId = requestId := (begun.state.stored _ r found).2
    have expired : Drifts o bound (tryTransition o requestId none .expired expiredUpdate) s₀ s := by
      unfold Drifts tryTransition
      refine Code.keeps_bind (Q := fun s₁ s' _ => s₀ = s₁ ∧ s = s') ?_ begun.start ?_ ?_
      · unfold ensureUsable
        rw [Code.read_bind]
        split
        · exact ⟨rfl, rfl⟩
        · exact ⟨rfl, rfl⟩
      · rintro _ _ _ _ ⟨rfl, rfl⟩
        rw [Code.read_bind, found]
        exact (keeps_transitionRecord none .expired expiredUpdate begun fun _ => due r found).imp
          fun _ _ _ post => post.1
      · rintro _ _ e _ ⟨rfl, rfl⟩
        exact begun
    dsimp only
    rw [Code.read_bind, named]
    refine expired.bind begun fun result => ?_
    cases result with
    | failure code snapshot => exact steady_pure _
    | success previous snapshot => exact steady_pure _

/-- The task the timer of the router finds may expire. -/
theorem drifts_routerExpiryTimer (begun : Begun o bound s₀ s) (due : FindsDue bound s₀ s requestId) :
    Drifts o bound (routerExpiryTimer o requestId) s₀ s := by
  unfold Drifts routerExpiryTimer
  refine Code.keeps_bind (keeps_getTask begun true) begun.start ?_ fun _ _ _ _ post => post.1
  rintro s₁ s' current _ ⟨begun', read⟩
  cases current with
  | none => exact begun'
  | some current =>
    dsimp only
    split
    · rename_i live
      obtain ⟨rfl, quiet⟩ := read current rfl (by simpa using live)
      have due' : FindsDue bound s₁ s' requestId := by
        intro r found
        rw [quiet.records] at found
        exact (due r found).quiet quiet
      exact (drifts_expireTask begun' due').bind begun' fun _ => steady_pure _
    · exact begun'

/-- What an operation must be started under. -/
def Allowed (s : TaskStore) : TimerOp → Prop
  | .store op => ∀ r, op ≠ .expiryTimer r ∧ op ≠ .purgeTimer r
  | .expiryFires r instant => FindsDue (some instant) s s (s.heap r).requestId
  | .purgeFires r _ => s.records.get? (s.heap r).requestId = some r
  | .routerFires requestId instant => FindsDue (some instant) s s requestId

/-- A loop belongs to an operation of the store. -/
def Looping (op : TimerOp) (label : StoreLoop) (s : TaskStore) : Prop := op.bound = none ∧ Visited label s

abbrev TimerMeets (o : TaskStoreOptions) (op : TimerOp) (code : Sync TaskStore StoreCallback (Option StoreLoop))
    (s₀ : TaskStore) : Prop :=
  Machine.Meets Armed (fun op => Drift o op.bound) Looping op code s₀

theorem meets_finish {code : StoreM α} {op : TimerOp} (drifts : Drifts o op.bound code s s) (start : Armed s) :
    TimerMeets o op (finish code s) s := by
  refine Sync.Keeps.bind drifts start fun s₁ s' _ _ begun => ?_
  exact ⟨begun.drift, begun.state, nofun⟩

/-- A purge timer taken off. -/
def clearPurge (task : StoredTask) : StoredTask := { task with purgeTimer := none }

theorem drifts_purgeTimer (begun : Begun o bound s₀ s) (stored : s.records.get? (s.heap r).requestId = some r) :
    Drifts o bound (purgeTimer r) s₀ s := by
  have moves : TimerMoves o (s.heap r) (clearPurge (s.heap r)) := ⟨rfl, rfl, fun _ => rfl, fun _ => id, nofun⟩
  have fired : Begun o bound s₀ (s.update r clearPurge) := begun.update moves .inl
  have stored' : (s.update r clearPurge).records.get? ((s.update r clearPurge).heap r).requestId = some r := by
    rw [(moves.update r).named]
    exact stored
  unfold Drifts purgeTimer
  rw [Code.read_bind]
  split
  · rw [Code.modify_bind, Code.read_bind]
    split
    · exact fired.remove stored' rfl rfl rfl rfl
    · exact fired
  · exact begun

theorem starts_meet {op : TimerOp} (start : Armed s) (allowed : Allowed s op) :
    TimerMeets o op ((timerMachine o).start op s) s := by
  have begun : Begun o op.bound s s := .refl start
  cases op with
  | expiryFires r instant => exact meets_finish (drifts_expiryTimer begun allowed) start
  | routerFires requestId instant => exact meets_finish (drifts_routerExpiryTimer begun allowed) start
  | purgeFires r instant => exact meets_finish (drifts_purgeTimer begun allowed) start
  | store op =>
    have steady : ∀ {α : Type} {code : StoreM α}, Steady o none code → TimerMeets o (.store op) (finish code s) s :=
      fun steady => meets_finish (steady _ _ begun) start
    cases op with
    | createTask input => exact steady (steady_createTask input)
    | tryTransition requestId expectedState nextState update => exact steady (steady_tryTransition _ _ _ _)
    | beginExecution requestId => exact steady (steady_beginExecution requestId)
    | expireTask requestId => exact steady (steady_expireTask requestId)
    | cancelTask requestId request => exact steady (steady_cancelTask requestId request)
    | purgeTask requestId => exact steady (steady_purgeTask requestId)
    | getTask requestId read => exact steady (steady_getTask requestId read)
    | getStatusResult requestId read => exact steady (steady_getStatusResult requestId read)
    | getRecordMetadata requestId => exact steady (steady_getRecordMetadata requestId)
    | ownsTask requestId caller => exact steady (steady_ownsTask requestId caller)
    | expiryTimer r => exact absurd rfl (allowed r).1
    | purgeTimer r => exact absurd rfl (allowed r).2
    | clear =>
      refine ⟨begun.drift, start, ?_⟩
      rintro _ ⟨⟩
      exact ⟨rfl, nofun⟩
    | dispose =>
      refine ⟨begun.drift, start, ?_⟩
      intro label member
      split at member
      · cases member
      · cases member
        exact ⟨rfl, nofun⟩
    | listSnapshots read =>
      refine ⟨begun.drift, start, ?_⟩
      rintro _ ⟨⟩
      exact ⟨rfl, trivial⟩

theorem rounds_meet {op : TimerOp} {label : StoreLoop} (start : Armed s) (looping : Looping op label s) :
    TimerMeets o op ((timerMachine o).round label s) s := by
  obtain ⟨unbounded, visited⟩ := looping
  have begun : Begun o none s s := .refl start
  dsimp only [TimerMeets, Machine.Meets]
  rw [unbounded]
  cases label with
  | clear disposing records =>
    refine Sync.Keeps.bind (keeps_clearRound disposing records begun visited) start ?_
    rintro s₁ s' next _ ⟨begun, more⟩
    refine ⟨begun.drift, begun.state, fun label member => ?_⟩
    obtain ⟨visited, next', rfl⟩ := Option.map_eq_some_iff.mp member
    have answered : next = .ok (some visited) := by
      cases next with
      | error e => cases next'
      | ok next =>
        cases next with
        | none => cases next'
        | some v =>
          have same : v = visited := Option.some.inj next'
          rw [same]
    exact ⟨unbounded, more visited answered⟩
  | list read records snapshots =>
    refine Sync.Keeps.bind (steady_listRound read records snapshots s s begun) start ?_
    intro s₁ s' next _ begun
    refine ⟨begun.drift, begun.state, fun label member => ⟨unbounded, ?_⟩⟩
    obtain ⟨listed, _, rfl⟩ := Option.map_eq_some_iff.mp member
    trivial

end Segments

/-! What holds of the timers over a run. -/

section Runs

variable {o : TaskStoreOptions}

/-- The instants of the armed timers, next to the machine. -/
structure Timed (o : TaskStoreOptions) (x : TimedStore) : Prop where
  machine : Machine.Sound Armed (fun op => Drift o op.bound) Looping x.config
  clock : Monotone x.store.monotonicNowFn
  time : x.time ≤ x.store.monotonicNowFn 0
  frames : ∀ frame ∈ x.config.stack, frame.op.purges = none ∧ ∀ fired ∈ frame.op.bound, fired ≤ x.time
  expiry : ∀ r < x.store.nextRecord, ∀ d, (x.store.heap r).expiryTimer = some d →
    (x.store.heap r).deadlineMonotonicMs ≤ x.expiryArmed r + d
  purge : ∀ r < x.store.nextRecord, ∀ d, (x.store.heap r).purgeTimer = some d →
    o.terminalRetentionMs = some d ∧ isTerminalTaskState (x.store.heap r).state = true ∧
      x.settled r ≤ x.purgeArmed r
  router : ∀ requestId timer, x.expiryTimers.get? requestId = some timer → ∀ d ∈ timer.delay, d ≤ maxTimerDelayMs

theorem looping_stable (op : TimerOp) (label : StoreLoop) (s s' : TaskStore) (looping : Looping op label s)
    (moves : HostDrifts o TimerOp.bound s s') : Looping op label s' :=
  ⟨looping.1, looping.2.drift moves.drift⟩

theorem ReadBy.le {s s' : TaskStore} (read : ReadBy s s' time) (ends : TimedStore.Instant s s' instant) :
    time ≤ instant := by
  obtain ⟨readings, same, j, made, due⟩ := read
  exact due.trans (ends.made readings same j made)

theorem since_began {began : Prop} [Decidable began] (holds : began) (instant before : ℚ) :
    TimedStore.since began instant before = instant := if_pos holds

theorem since_before {began : Prop} [Decidable began] (fails : ¬began) (instant before : ℚ) :
    TimedStore.since began instant before = before := if_neg fails

/-- A timer the host lets fire has waited for as long as it was asked to. -/
theorem fired_late {armedAt d instant : ℚ} {delay : Option ℚ} (fires : TimedStore.MayFire armedAt delay instant)
    (asked : delay = some d) (short : d ≤ maxTimerDelayMs) : armedAt + d ≤ instant := fires.2 d asked short

/-- No timer fires early: the task it finds is due. -/
theorem Timed.onTime {x : TimedStore} {op : TimerOp} (timed : Timed o x)
    (covered : Covered x (.segment (.start op) starts instant)) (start : x.Starts starts op) : x.OnTime o op := by
  cases op with
  | store op => trivial
  | purgeFires r fired =>
    obtain ⟨rfl, known, armed, fires⟩ := start
    obtain ⟨d, armed'⟩ := Option.isSome_iff_exists.mp armed
    obtain ⟨retention, terminal, waits⟩ := timed.purge r known d armed'
    have past := fired_late fires armed' (covered.1 d armed')
    exact ⟨terminal, d, retention, (add_le_add_left waits d).trans past⟩
  | expiryFires r fired =>
    obtain ⟨rfl, known, armed, fires⟩ := start
    obtain ⟨d, armed'⟩ := Option.isSome_iff_exists.mp armed
    exact (timed.expiry r known d armed').trans (fired_late fires armed' (covered d armed'))
  | routerFires requestId fired =>
    obtain ⟨rfl, timer, armed, fires⟩ := start
    intro r found
    obtain ⟨d, asked, reaches⟩ := covered timer armed r found
    exact reaches.trans (fired_late fires asked (timed.router requestId timer armed d asked))

/-- So it may expire. -/
theorem Timed.allowed {x : TimedStore} {op : TimerOp} (timed : Timed o x)
    (covered : Covered x (.segment (.start op) starts instant)) (start : x.Starts starts op) :
    Allowed x.store op ∧ ∀ fired ∈ op.bound, fired = starts := by
  have onTime := timed.onTime covered start
  cases op with
  | store op => exact ⟨start, nofun⟩
  | purgeFires r fired => exact ⟨covered.2, nofun⟩
  | expiryFires r fired =>
    obtain ⟨rfl, known, armed, -⟩ := start
    refine ⟨fun r' found time member => .inl ?_, by rintro _ ⟨⟩; rfl⟩
    cases member
    have same : r' = r := Option.some.inj (found.symm.trans (timed.machine.state.armed r known armed))
    rw [same]
    exact onTime
  | routerFires requestId fired =>
    obtain ⟨rfl, -⟩ := start
    refine ⟨fun r found time member => .inl ?_, by rintro _ ⟨⟩; rfl⟩
    cases member
    exact onTime r found

/-- A segment of the machine drifts, and its operation began before. -/
theorem Timed.segment {x : TimedStore} {move : Machine.Move TimerOp} {op : TimerOp} {config : TimerConfig}
    (timed : Timed o x) (covered : Covered x (.segment move starts instant))
    (taken : (timerMachine o).advance x.config move = some (op, config)) (later : x.time ≤ starts)
    (allowed : MoveStarts x starts move) :
    Machine.Sound Armed (fun op => Drift o op.bound) Looping config ∧
      Drift o op.bound x.store config.state ∧ ∀ fired ∈ op.bound, fired ≤ starts := by
  have sound := timed.machine
  have frames := timed.frames
  cases move with
  | start op' =>
    obtain ⟨rfl, rfl⟩ := Machine.advance_start taken
    obtain ⟨safe, fired⟩ := timed.allowed covered allowed
    have settled := Machine.sound_settle looping_stable sound.frames (starts_meet sound.state safe)
    exact ⟨settled.1, settled.2, fun time member => (fired time member).le⟩
  | resume answer =>
    obtain ⟨g, resume, stack, shape, rfl⟩ := Machine.advance_resume taken
    have frame := sound.frames
    rw [shape] at frame frames
    have top := frame _ List.mem_cons_self x.store answer sound.state .refl
    have settled := Machine.sound_settle looping_stable (fun f member => frame f (List.mem_cons_of_mem _ member)) top
    exact ⟨settled.1, settled.2, fun time member => ((frames _ List.mem_cons_self).2 time member).trans later⟩
  | round =>
    obtain ⟨label, stack, shape, rfl⟩ := Machine.advance_round taken
    have frame := sound.frames
    rw [shape] at frame frames
    have top : Looping op label x.store := frame _ List.mem_cons_self
    have settled := Machine.sound_settle looping_stable (fun f member => frame f (List.mem_cons_of_mem _ member))
      (rounds_meet sound.state top)
    exact ⟨settled.1, settled.2, fun time member => ((frames _ List.mem_cons_self).2 time member).trans later⟩

/-- The purge timer runs in one segment, and removes nothing but what is stored under the id of its task. -/
theorem purgeTimer_spec (r : RecordId) (s : TaskStore) : ∃ s', purgeTimer r s = .done s' (.ok ()) ∧
    ∀ key r', s.records.get? key = some r' → s'.records.get? key ≠ some r' → key = (s.heap r).requestId := by
  have same : ((s.update r clearPurge).heap r).requestId = (s.heap r).requestId := by
    simp [TaskStore.update, clearPurge]
  unfold purgeTimer
  rw [Code.read_bind]
  split
  · rw [Code.modify_bind, Code.read_bind]
    split
    · refine ⟨_, rfl, fun key r' present absent => ?_⟩
      by_contra differ
      rw [← same] at differ
      refine absent ?_
      rw [← present]
      exact JsMap.get?_delete_ne differ
    · exact ⟨_, rfl, fun key r' present absent => absurd present absent⟩
  · exact ⟨_, rfl, fun key r' present absent => absurd present absent⟩

theorem start_purgeFires (r : RecordId) (fired : ℚ) (s : TaskStore) :
    ∃ s', (timerMachine o).start (.purgeFires r fired) s = .done s' none ∧
      ∀ key r', s.records.get? key = some r' → s'.records.get? key ≠ some r' → key = (s.heap r).requestId := by
  obtain ⟨s', ran, removed⟩ := purgeTimer_spec r s
  refine ⟨s', ?_, removed⟩
  change (purgeTimer r s).bind _ = _
  rw [ran]
  rfl

/-- The stack after a segment holds no purge timer, and no timer of the future. -/
theorem Timed.frames_after {x : TimedStore} {move : Machine.Move TimerOp} {op : TimerOp} {config : TimerConfig}
    (timed : Timed o x) (taken : (timerMachine o).advance x.config move = some (op, config))
    (later : x.time ≤ starts) (began : ∀ fired ∈ op.bound, fired ≤ starts) :
    ∀ frame ∈ config.stack, frame.op.purges = none ∧ ∀ fired ∈ frame.op.bound, fired ≤ starts := by
  have below : ∀ frame ∈ x.config.stack, frame.op.purges = none ∧ ∀ fired ∈ frame.op.bound, fired ≤ starts :=
    fun frame member => ⟨(timed.frames frame member).1,
      fun fired bound => ((timed.frames frame member).2 fired bound).trans later⟩
  have own : ∀ {code : Sync TaskStore StoreCallback (Option StoreLoop)} {stack : List _},
      (∀ frame ∈ stack, frame ∈ x.config.stack) → op.purges = none →
      ∀ frame ∈ (Machine.settle op code stack).stack,
        frame.op.purges = none ∧ ∀ fired ∈ frame.op.bound, fired ≤ starts := by
    intro code stack fewer harmless frame member
    obtain member | same := Machine.settle_frames member
    · exact below frame (fewer frame member)
    · rw [same]
      exact ⟨harmless, began⟩
  cases move with
  | start op' =>
    obtain ⟨rfl, rfl⟩ := Machine.advance_start taken
    cases op with
    | purgeFires r fired =>
      obtain ⟨s', ran, -⟩ := @start_purgeFires o r fired x.store
      rw [ran]
      exact below
    | store op => exact own (fun _ => id) rfl
    | expiryFires r fired => exact own (fun _ => id) rfl
    | routerFires requestId fired => exact own (fun _ => id) rfl
  | resume answer =>
    obtain ⟨g, resume, stack, shape, rfl⟩ := Machine.advance_resume taken
    refine own (fun frame member => ?_) ?_
    · rw [shape]
      exact List.mem_cons_of_mem _ member
    · exact (timed.frames (.waiting op g resume) (shape ▸ List.mem_cons_self)).1
  | round =>
    obtain ⟨label, stack, shape, rfl⟩ := Machine.advance_round taken
    refine own (fun frame member => ?_) ?_
    · rw [shape]
      exact List.mem_cons_of_mem _ member
    · exact (timed.frames (.looping op label) (shape ▸ List.mem_cons_self)).1

theorem not_begins {s s' : TaskStore} {property : StoredTask → Bool} (old : r < s.nextRecord)
    (held : property (s.heap r) = true) : ¬TimedStore.Begins s s' property r := by
  rintro ⟨-, new | before⟩
  · exact absurd old (Nat.not_lt.mpr new)
  · rw [held] at before
    cases before

/-- The instants of what a segment armed. -/
theorem Timed.after {x : TimedStore} {config : TimerConfig} (timed : Timed o x)
    (sound : Machine.Sound Armed (fun op => Drift o op.bound) Looping config) (drift : Drift o bound x.store config.state)
    (frames : ∀ frame ∈ config.stack, frame.op.purges = none ∧ ∀ fired ∈ frame.op.bound, fired ≤ instant)
    (past : TimedStore.Instant x.store config.state instant) : Timed o (x.after config instant) where
  machine := sound
  clock := by
    obtain ⟨readings, same⟩ := drift.clock
    intro m n le
    change config.state.monotonicNowFn m ≤ config.state.monotonicNowFn n
    rw [same]
    exact timed.clock (Nat.add_le_add_right le readings)
  time := past.next
  frames := frames
  expiry r known d armed := by
    obtain ⟨old, before⟩ | ⟨new, read⟩ := drift.expiry r known d armed
    · have stays : ¬TimedStore.Begins x.store config.state (·.expiryTimer.isSome) r :=
        not_begins old (Option.isSome_iff_exists.mpr ⟨d, before⟩)
      have watched := timed.expiry r old d before
      rw [← drift.deadline r old] at watched
      simp only [TimedStore.after, since_before stays]
      exact watched
    · have begins : TimedStore.Begins x.store config.state (·.expiryTimer.isSome) r :=
        ⟨Option.isSome_iff_exists.mpr ⟨d, armed⟩, .inl new⟩
      simp only [TimedStore.after, since_began begins]
      exact sub_le_iff_le_add.mp (read.le past)
  purge r known d armed := by
    obtain ⟨old, before⟩ | ⟨retention, terminal, live⟩ := drift.purge r known d armed
    · obtain ⟨retention, terminal, waits⟩ := timed.purge r old d before
      have armedBefore : ¬TimedStore.Begins x.store config.state (·.purgeTimer.isSome) r :=
        not_begins old (Option.isSome_iff_exists.mpr ⟨d, before⟩)
      have settledBefore : ¬TimedStore.Begins x.store config.state (fun task => isTerminalTaskState task.state) r :=
        not_begins old terminal
      refine ⟨retention, (drift.terminal r old terminal).symm ▸ terminal, ?_⟩
      simp only [TimedStore.after, since_before armedBefore, since_before settledBefore]
      exact waits
    · have was : r < x.store.nextRecord → (x.store.heap r).purgeTimer.isSome = false := by
        intro old
        by_contra armedBefore
        obtain ⟨d', before⟩ := Option.ne_none_iff_exists'.mp (by simpa using armedBefore)
        rw [(timed.purge r old d' before).2.1] at live
        cases live old
      have arms : TimedStore.Begins x.store config.state (·.purgeTimer.isSome) r := by
        refine ⟨Option.isSome_iff_exists.mpr ⟨d, armed⟩, ?_⟩
        exact (Nat.lt_or_ge r x.store.nextRecord).symm.imp id was
      have settles : TimedStore.Begins x.store config.state (fun task => isTerminalTaskState task.state) r :=
        ⟨terminal, (Nat.lt_or_ge r x.store.nextRecord).symm.imp id live⟩
      refine ⟨retention, terminal, ?_⟩
      simp only [TimedStore.after, since_began arms, since_began settles]
      exact le_rfl
  router := timed.router

/-- The callback of a timer of the router takes it off, and nothing else is touched. -/
theorem Timed.fired {x : TimedStore} (timed : Timed o x) (move : Machine.Move TimerOp) : Timed o (x.fired move) := by
  unfold TimedStore.fired
  split
  · exact { timed with
      router := fun requestId timer armed => timed.router requestId timer (JsMap.get?_delete_eq_some_iff.mp armed).2 }
  · exact timed

theorem fired_store (x : TimedStore) (move : Machine.Move TimerOp) : (x.fired move).store = x.store := by
  unfold TimedStore.fired
  split <;> rfl

/-- **One step** keeps what is known of the timers. -/
theorem Timed.step {x x' : TimedStore} (timed : Timed o x) (covered : Covered x label)
    (taken : TimerStep o x label x') : Timed o x' := by
  cases taken with
  | @segment move op config starts instant advanced later before ends allowed past =>
    obtain ⟨sound, drift, began⟩ := timed.segment covered advanced later allowed
    have frames := timed.frames_after advanced later began
    have fired := timed.fired move
    rw [← fired_store x move] at past drift
    exact fired.after sound drift (fun frame member => ⟨(frames frame member).1,
      fun time bound => ((frames frame member).2 time bound).trans ends⟩) past
  | @scheduleExpiry requestId expiresAt wallNow instant later before =>
    unfold TimedStore.scheduleExpiry
    split
    · exact { timed with time := before, frames := fun frame member => ⟨(timed.frames frame member).1,
        fun time bound => ((timed.frames frame member).2 time bound).trans later⟩ }
    · refine { timed with time := before, frames := fun frame member => ⟨(timed.frames frame member).1,
        fun time bound => ((timed.frames frame member).2 time bound).trans later⟩, router := ?_ }
      intro requestId' timer armed d asked
      simp only [JsMap.get?_set] at armed
      split at armed
      · cases armed
        obtain ⟨expiresAtMs, _, rfl⟩ := Option.map_eq_some_iff.mp asked
        exact min_le_right _ _
      · exact timed.router requestId' timer armed d asked
  | clearExpiry requestId =>
    exact { timed with
      router := fun requestId timer armed => timed.router requestId timer (JsMap.get?_delete_eq_some_iff.mp armed).2 }

theorem TimedStore.Fresh.armed {x : TimedStore} (fresh : x.Fresh) : Armed x.store where
  stored key r stored := by
    rw [fresh.records] at stored
    cases stored
  armed r known := by
    rw [fresh.nextRecord] at known
    exact absurd known (Nat.not_lt_zero r)

theorem TimedStore.Fresh.timed {x : TimedStore} (fresh : x.Fresh) : Timed o x where
  machine := by
    refine ⟨fresh.armed, ?_⟩
    rw [fresh.stack]
    intro frame member
    cases member
  clock := fresh.clock
  time := fresh.time
  frames := by
    rw [fresh.stack]
    intro frame member
    cases member
  expiry r known := by
    rw [fresh.nextRecord] at known
    exact absurd known (Nat.not_lt_zero r)
  purge r known := by
    rw [fresh.nextRecord] at known
    exact absurd known (Nat.not_lt_zero r)
  router requestId timer armed := by
    rw [fresh.expiryTimers] at armed
    cases armed

theorem timed_of_reachable {x : TimedStore} (reached : ((timerSystem o).restrict Covered).Reachable x) : Timed o x := by
  refine reached.invariant ?_ ?_
  · intro x fresh
    exact TimedStore.Fresh.timed fresh
  · rintro x label x' timed ⟨covered, taken⟩
    exact timed.step covered taken

/-- What the callback of a purge timer removes. -/
theorem Timed.purged {x : TimedStore} {move : Machine.Move TimerOp} {op : TimerOp} {config : TimerConfig}
    (timed : Timed o x) (covered : Covered x (.segment move starts instant))
    (taken : (timerMachine o).advance x.config move = some (op, config)) (allowed : MoveStarts x starts move)
    (purges : op.purges = some r) (present : x.store.records.get? key = some r')
    (absent : config.state.records.get? key ≠ some r') :
    r' = r ∧ isTerminalTaskState (x.store.heap r).state = true ∧
      ∃ d, o.terminalRetentionMs = some d ∧ x.settled r + d ≤ starts := by
  cases move with
  | start op' =>
    obtain ⟨rfl, rfl⟩ := Machine.advance_start taken
    cases op with
    | store op => cases purges
    | expiryFires r fired => cases purges
    | routerFires requestId fired => cases purges
    | purgeFires r fired =>
      cases purges
      obtain ⟨terminal, d, retention, past⟩ := timed.onTime covered allowed
      obtain ⟨rfl, -⟩ := allowed
      obtain ⟨s', ran, removed⟩ := @start_purgeFires o r fired x.store
      rw [ran] at absent
      obtain rfl := removed key r' present absent
      exact ⟨Option.some.inj (present.symm.trans covered.2), terminal, d, retention, past⟩
  | resume answer =>
    obtain ⟨g, resume, stack, shape, -⟩ := Machine.advance_resume taken
    have other := (timed.frames (.waiting op g resume) (shape ▸ List.mem_cons_self)).1
    rw [Frame.op, purges] at other
    cases other
  | round =>
    obtain ⟨label, stack, shape, -⟩ := Machine.advance_round taken
    have other := (timed.frames (.looping op label) (shape ▸ List.mem_cons_self)).1
    rw [Frame.op, purges] at other
    cases other

/-- What the timers do from a state. -/
structure TimersKept (o : TaskStoreOptions) (x : TimedStore) : Prop where
  /-- A timer that expires tasks expires only the due ones. -/
  expires : ∀ move starts instant x' op config, Covered x (.segment move starts instant) →
    TimerStep o x (.segment move starts instant) x' → (timerMachine o).advance x.config move = some (op, config) →
    op.bound.isSome = true → ∀ r < x.store.nextRecord, (x'.store.heap r).state = .expired →
    (x.store.heap r).state = .expired ∨ (x.store.heap r).deadlineMonotonicMs ≤ instant
  /-- A purge timer removes its own task, when that has been terminal for as long as it is retained. -/
  purges : ∀ move starts instant x' op config, Covered x (.segment move starts instant) →
    TimerStep o x (.segment move starts instant) x' → (timerMachine o).advance x.config move = some (op, config) →
    ∀ r, op.purges = some r → ∀ key r', x.store.records.get? key = some r' → x'.store.records.get? key ≠ some r' →
    r' = r ∧ isTerminalTaskState (x.store.heap r).state = true ∧
      ∃ d, o.terminalRetentionMs = some d ∧ x.settled r + d ≤ starts
  /-- No timer comes early, so that none has to be armed again. -/
  onTime : ∀ op starts instant x', Covered x (.segment (.start op) starts instant) →
    TimerStep o x (.segment (.start op) starts instant) x' → x.OnTime o op

theorem timersKept {x : TimedStore} (reached : ((timerSystem o).restrict Covered).Reachable x) : TimersKept o x := by
  have timed := timed_of_reachable reached
  refine ⟨?_, ?_, ?_⟩
  · intro move starts instant x' op config covered taken advanced expires r known expired
    cases taken with
    | @segment _ _ _ _ _ advanced' later before ends allowed past =>
      cases advanced.symm.trans advanced'
      obtain ⟨-, drift, began⟩ := timed.segment covered advanced later allowed
      obtain ⟨fired, bound⟩ := Option.isSome_iff_exists.mp expires
      obtain expired | due | read := drift.expires fired bound r known expired
      · exact .inl expired
      · exact .inr (due.trans ((began fired bound).trans ends))
      · exact .inr (read.le past)
  · intro move starts instant x' op config covered taken advanced r purges key r' present absent
    cases taken with
    | @segment _ _ _ _ _ advanced' later before ends allowed past =>
      cases advanced.symm.trans advanced'
      exact timed.purged covered advanced allowed purges present absent
  · intro op starts instant x' covered taken
    cases taken with
    | segment _ _ _ _ allowed _ => exact timed.onTime covered allowed

end Runs

/-! The timers of the dedupe store, which are capped, asked again and armed again. -/

section Records

open DedupeSafety

variable {ω : Type} {R : Requests ω} {retentionGraceMs : ℚ}

/-- What becomes of the records of a dedupe store. -/
structure RecordsKept (R : Requests ω) (retentionGraceMs : ℚ) (w : World ω) : Prop where
  /-- A record stays until the end of its retention, unless a step frees its reservation. -/
  kept : ∀ key r, w.store.records.get? key = some r →
    ∀ history v, ((dedupeSystem R retentionGraceMs).startingAt w).Trace history v →
      v.store.records.get? key = some r ∨
      ((w.store.heap r).pending = true ∧ ∃ step ∈ history,
        step.1.Frees R retentionGraceMs step.2 key (w.store.heap r).fingerprint ∧
          step.1.store.records.get? key = some r) ∨
      v.Reached (w.store.heap r).retainedUntil
  /-- A timer that comes early is armed again. -/
  rearmed : ∀ key r, w.store.records.get? key = some r → (w.store.heap r).timer.isSome = true →
    w.store.now (w.store.reading + 1) < (w.store.heap r).retainedUntil →
    let after := (w.perform R retentionGraceMs (.timer r)).2.store
    after.records.get? key = some r ∧ (after.heap r).timer =
      some (min ((w.store.heap r).retainedUntil - w.store.now (w.store.reading + 1)) PiToPi.maxTimerDelayMs)

/-- The callback on a stored record whose retention is not over at either of its readings. -/
theorem timer_early {s : DedupeProofs.Store} (well : DedupeProofs.WellFormed s) (opened : s.closed = false)
    (stored : s.records.get? key = some r) (armed : (s.heap r).timer.isSome = true)
    (ahead : s.now (s.reading + 1) < (s.heap r).retainedUntil) :
    (s.timer r).records.get? key = some r ∧ ((s.timer r).heap r).timer =
      some (min ((s.heap r).retainedUntil - s.now (s.reading + 1)) PiToPi.maxTimerDelayMs) := by
  have before : ¬(s.heap r).retainedUntil ≤ s.now s.reading :=
    not_le.mpr ((well.clock (Nat.le_succ _)).trans_lt ahead)
  have later : ¬(s.heap r).retainedUntil - s.now (s.reading + 1) ≤ 0 := not_le.mpr (sub_pos.mpr ahead)
  have waiting : (s.heap r).timer.isNone = false := by simpa using armed
  have found : s.records.get? (s.heap r).normalized.key = some r := by
    have named : (s.heap r).normalized.key = key := (well.stored key r stored).2
    rw [named]
    exact stored
  have same : s.timer r = { s with
      heap := Function.update s.heap r { s.heap r with
        timer := some (min ((s.heap r).retainedUntil - s.now (s.reading + 1)) PiToPi.maxTimerDelayMs) }
      reading := s.reading + 1 + 1 } := by
    simp only [StoredRecord.retainedUntil] at before later
    simp [DedupeStore.timer, DedupeStore.update, DedupeStore.readNow, DedupeStore.schedule, waiting, opened,
      StoredRecord.key, StoredRecord.retainedUntil, found, before, later]
  rw [same]
  exact ⟨stored, by simp⟩

theorem recordsKept {w : World ω} (reached : (dedupeSystem R retentionGraceMs).Reachable w) :
    RecordsKept R retentionGraceMs w := by
  have sound := sound_of_reachable reached
  refine ⟨fun key r stored history v run => ?_, fun key r stored armed ahead => ?_⟩
  · exact (along sound stored run).fate.imp_left And.left
  · exact timer_early sound.wellFormed sound.opened stored armed ahead

end Records

/-- **No timer is early.** In every run whose timers the host can wait for, no timer expires a task before its
deadline or purges it before the end of its retention; the records of a dedupe store are kept in every run. -/
theorem timers_punctual {o : TaskStoreOptions} {x : TimedStore} {ω : Type} {R : Requests ω} {retentionGraceMs : ℚ}
    {w : DedupeSafety.World ω} (reached : ((timerSystem o).restrict Covered).Reachable x)
    (reached' : (DedupeSafety.dedupeSystem R retentionGraceMs).Reachable w) :
    TimersKept o x ∧ RecordsKept R retentionGraceMs w := ⟨timersKept reached, recordsKept reached'⟩

/-! A task that is created, and its expiry timer. -/

section Samples

/-- A clock that goes on by 600 milliseconds at every reading. -/
def tickingStart : TimedStore where
  config := ⟨{ sampleStore with monotonicNowFn := fun n => 600 * n }, []⟩
  time := 0
  expiryArmed _ := 0
  purgeArmed _ := 0
  settled _ := 0
  expiryTimers := ∅

theorem fresh_tickingStart : tickingStart.Fresh where
  nextRecord := rfl
  records := rfl
  stack := rfl
  clock m n le := by
    change (600 : ℚ) * m ≤ 600 * n
    have le' : (m : ℚ) ≤ n := by exact_mod_cast le
    linarith
  unbounded time := by
    obtain ⟨n, above⟩ := exists_nat_gt time
    refine ⟨n, ?_⟩
    change time < 600 * (n : ℚ)
    have positive : (0 : ℚ) ≤ n := Nat.cast_nonneg n
    linarith
  time := by
    change (0 : ℚ) ≤ 600 * ((0 : ℕ) : ℚ)
    simp
  expiryTimers := rfl

def createTicking (expiresAt : ℚ) : TimerOp :=
  .store (.createTask { TaskStoreCreateInput.bare "r" with
    owner := some ⟨"a", none⟩, expiresAt := some (.number (some expiresAt)) })

/-- The task, made at the first reading, and its timer armed at the second. -/
def tickingTask (expiresAt : ℚ) : TimedStore :=
  tickingStart.after (Machine.settle (createTicking expiresAt)
    ((timerMachine sampleOptions).start (createTicking expiresAt) tickingStart.store) []) 600

theorem tickingTask_step (two : (tickingTask expiresAt).store.monotonicNowFn 0 = 1200) :
    TimerStep sampleOptions tickingStart (.segment (.start (createTicking expiresAt)) 0 600) (tickingTask expiresAt) := by
  refine @TimerStep.segment sampleOptions tickingStart _ (createTicking expiresAt) _ _ _ rfl le_rfl ?_ (by norm_num)
    (fun r => ⟨nofun, nofun⟩) ⟨fun k same j made => ?_, ?_⟩
  · change (0 : ℚ) ≤ 600 * ((0 : ℕ) : ℚ)
    simp
  · have at0 := congrFun same 0
    change (tickingTask expiresAt).store.monotonicNowFn 0 = 600 * ((0 + k : ℕ) : ℚ) at at0
    rw [two] at at0
    change 600 * (j : ℚ) ≤ 600
    have count : (k : ℚ) = 2 := by
      push_cast at at0
      linarith
    have count : k = 2 := by exact_mod_cast count
    have j' : (j : ℚ) ≤ 1 := by exact_mod_cast (by omega : j ≤ 1)
    linarith
  · change (600 : ℚ) ≤ (tickingTask expiresAt).store.monotonicNowFn 0
    rw [two]
    norm_num

theorem tickingTask_reachable (two : (tickingTask expiresAt).store.monotonicNowFn 0 = 1200) :
    ((timerSystem sampleOptions).restrict Covered).Reachable (tickingTask expiresAt) := by
  have covered : Covered tickingStart (.segment (.start (createTicking expiresAt)) 0 600) := trivial
  exact (System.Reachable.init fresh_tickingStart).step ⟨covered, tickingTask_step two⟩

/-- A task whose timer the host can wait for. -/
theorem timers_punctual_ticking : (tickingTask 1000).store.records.get? "r" = some 0 ∧
    TimersKept sampleOptions (tickingTask 1000) ∧
    RecordsKept DedupeSafety.sampleRequests 0 DedupeSafety.sampleCommitted := by
  have two : (tickingTask 1000).store.monotonicNowFn 0 = 1200 := by decide +kernel
  have reached : ((timerSystem sampleOptions).restrict Covered).Reachable (tickingTask 1000) :=
    tickingTask_reachable two
  have start : (DedupeSafety.dedupeSystem DedupeSafety.sampleRequests 0).Reachable DedupeSafety.sampleStart :=
    .init ⟨rfl, rfl, rfl, monotone_const, rfl, rfl⟩
  exact ⟨by decide +kernel, timers_punctual reached ((start.step rfl).step rfl)⟩

/-- Thirty days are more than a timer can wait for. -/
def tickingMonth : TimedStore := tickingTask 2592000000

/-- The task a moment after it was made. -/
def tickingExpired : TimedStore :=
  tickingMonth.after (Machine.settle (.expiryFires 0 600)
    ((timerMachine sampleOptions).start (.expiryFires 0 600) tickingMonth.store) []) 600

theorem tickingMonth_expires : (timerSystem sampleOptions).Reachable tickingMonth ∧
    TimerStep sampleOptions tickingMonth (.segment (.start (.expiryFires 0 600)) 600 600) tickingExpired ∧
    (tickingMonth.store.heap 0).state = .accepted ∧ (tickingExpired.store.heap 0).state = .expired ∧
    tickingExpired.time < (tickingMonth.store.heap 0).deadlineMonotonicMs := by
  have two : tickingMonth.store.monotonicNowFn 0 = 1200 := by decide +kernel
  have rest : tickingMonth.config.stack = [] := List.isEmpty_iff.mp (by decide +kernel)
  have delay : (tickingMonth.store.heap 0).expiryTimer = some 2591999400 := by decide +kernel
  have unread : tickingExpired.store.monotonicNowFn 0 = 1200 := by decide +kernel
  have clock := (timed_of_reachable (tickingTask_reachable two)).clock
  have taken : (timerMachine sampleOptions).advance tickingMonth.config (.start (.expiryFires 0 600)) =
      some (.expiryFires 0 600, tickingExpired.config) := Machine.advance_of_rest rest
  have fires : tickingMonth.Starts 600 (.expiryFires 0 600) := by
    refine ⟨rfl, by decide +kernel, by rw [delay]; rfl, by decide +kernel, fun d armed short => ?_⟩
    cases delay.symm.trans armed
    exact absurd short (by decide +kernel)
  refine ⟨⟨_, (tickingTask_reachable two).choose_spec.of_restrict⟩,
    .segment taken (by decide +kernel) (by rw [two]; norm_num) le_rfl fires ⟨fun k same j made => ?_, ?_⟩,
    by decide +kernel, by decide +kernel, by decide +kernel⟩
  · -- the callback reads no clock
    have at0 : tickingExpired.store.monotonicNowFn 0 = tickingMonth.store.monotonicNowFn (0 + k) := congrFun same 0
    have next : tickingMonth.store.monotonicNowFn 1 = 1800 := by decide +kernel
    have later : tickingMonth.store.monotonicNowFn 1 ≤ tickingMonth.store.monotonicNowFn (0 + k) :=
      clock (show 1 ≤ 0 + k by omega)
    rw [next, ← at0, unread] at later
    norm_num at later
  · change (600 : ℚ) ≤ tickingExpired.store.monotonicNowFn 0
    rw [unread]
    norm_num

end Samples
end PiToPi.StoreTimers
