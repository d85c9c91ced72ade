import PiToPi.HostCalls
import PiToPi.TaskStoreProofs
import PiToPi.ValidationProofs

/-!
What the operations of the task store leave behind, for the code that composes them.

The lifecycle of `TaskStoreProofs` is about segments and any nesting of calls. Here an operation is
one step, whose callbacks answer anything. A record keeps what it was made with, and its snapshot
goes on only while it is live: to a live one, to an expired one, or to one the operation itself
concludes.
-/
namespace PiToPi.StoreEffects
open Reentrant TaskStoreProofs

variable {o : TaskStoreOptions}

/-- What a record is made with, and never loses. -/
structure SameIdentity (task task' : StoredTask) : Prop where
  requestId : task'.requestId = task.requestId
  owner : task'.owner = task.owner
  localOwner : task'.localOwner = task.localOwner
  expectedTargetRuntimeId : task'.expectedTargetRuntimeId = task.expectedTargetRuntimeId
  responseContract : task'.responseContract = task.responseContract
  ownership : task'.ownership = task.ownership
  expiresAt : task'.snapshot.expiresAt = task.snapshot.expiresAt

theorem SameIdentity.refl (task : StoredTask) : SameIdentity task task := ⟨rfl, rfl, rfl, rfl, rfl, rfl, rfl⟩

theorem SameIdentity.trans (first : SameIdentity task task') (second : SameIdentity task' task'') :
    SameIdentity task task'' where
  requestId := second.requestId.trans first.requestId
  owner := second.owner.trans first.owner
  localOwner := second.localOwner.trans first.localOwner
  expectedTargetRuntimeId := second.expectedTargetRuntimeId.trans first.expectedTargetRuntimeId
  responseContract := second.responseContract.trans first.responseContract
  ownership := second.ownership.trans first.ownership
  expiresAt := second.expiresAt.trans first.expiresAt

/-- The record goes on, and if it ends otherwise than by expiring, then as `may` allows. -/
structure TaskEvolves (o : TaskStoreOptions) (may : TaskSnapshot → Prop) (task task' : StoredTask) : Prop where
  identity : SameIdentity task task'
  snapshot : task'.snapshot = task.snapshot ∨ isTerminalTaskState task.state = false ∧
    (isTerminalTaskState task'.state = true → task'.state = .expired ∨ may task'.snapshot)
  /-- Records that are retained for ever are never about to be purged. -/
  purge : o.terminalRetentionMs = none → task.purgeTimer = none → task'.purgeTimer = none

theorem TaskEvolves.refl (may : TaskSnapshot → Prop) (task : StoredTask) : TaskEvolves o may task task :=
  ⟨.refl task, .inl rfl, fun _ none => none⟩

theorem TaskEvolves.trans {may : TaskSnapshot → Prop} (first : TaskEvolves o may task task')
    (second : TaskEvolves o may task' task'') : TaskEvolves o may task task'' where
  identity := first.identity.trans second.identity
  snapshot := by
    obtain same | ⟨live, ended⟩ := second.snapshot
    · have alike : task''.state = task'.state := congrArg TaskSnapshot.state same
      rw [same, alike]
      exact first.snapshot
    · obtain same | ⟨live', _⟩ := first.snapshot
      · have alike : task'.state = task.state := congrArg TaskSnapshot.state same
        exact .inr ⟨alike ▸ live, ended⟩
      · exact .inr ⟨live', ended⟩
  purge retained none := second.purge retained (first.purge retained none)

/-- Only a live record changes its snapshot. -/
theorem TaskEvolves.terminal {may : TaskSnapshot → Prop} (evolves : TaskEvolves o may task task')
    (terminal : isTerminalTaskState task.state = true) : task'.snapshot = task.snapshot := by
  obtain same | ⟨live, _⟩ := evolves.snapshot
  · exact same
  · rw [live] at terminal
    cases terminal

/-- The records there are go on, each on its own; none is made or removed. -/
structure Evolves (o : TaskStoreOptions) (may : RecordId → TaskSnapshot → Prop) (s t : TaskStore) : Prop where
  records : t.records = s.records
  nextRecord : t.nextRecord = s.nextRecord
  disposed : t.disposed = s.disposed
  tasks : ∀ r, TaskEvolves o (may r) (s.heap r) (t.heap r)

/-- Nothing ends but by expiring. -/
def OnlyExpires (_ : RecordId) (_ : TaskSnapshot) : Prop := False

section Relation

variable {may : RecordId → TaskSnapshot → Prop}

theorem Evolves.refl (s : TaskStore) : Evolves o may s s := ⟨rfl, rfl, rfl, fun r => .refl (may r) (s.heap r)⟩

theorem Evolves.trans (first : Evolves o may s t) (second : Evolves o may t u) : Evolves o may s u where
  records := second.records.trans first.records
  nextRecord := second.nextRecord.trans first.nextRecord
  disposed := second.disposed.trans first.disposed
  tasks r := (first.tasks r).trans (second.tasks r)

instance : IsPreorder TaskStore (Evolves o may) where
  refl := .refl
  trans _ _ _ := .trans

theorem Evolves.imp {also : RecordId → TaskSnapshot → Prop} (evolves : Evolves o may s t)
    (weaker : ∀ r snapshot, isTerminalTaskState snapshot.state = true → may r snapshot →
      snapshot.state = .expired ∨ also r snapshot) : Evolves o also s t where
  records := evolves.records
  nextRecord := evolves.nextRecord
  disposed := evolves.disposed
  tasks r := {
    identity := (evolves.tasks r).identity
    purge := (evolves.tasks r).purge
    snapshot := (evolves.tasks r).snapshot.imp_right fun moved =>
      ⟨moved.1, fun terminal => (moved.2 terminal).elim .inl (weaker r _ terminal)⟩ }

theorem Evolves.of_reads (evolves : Evolves o OnlyExpires s t) : Evolves o may s t :=
  evolves.imp fun _ _ _ none => none.elim

theorem Evolves.find (evolves : Evolves o may s t) (requestId : JsString) :
    t.find requestId = s.find requestId := by
  unfold TaskStore.find
  rw [evolves.records]

theorem Evolves.of_quiet (quiet : Quiet s t) : Evolves o may s t := by
  obtain ⟨nowFn, readings, rfl⟩ := quiet
  exact ⟨rfl, rfl, rfl, fun r => .refl (may r) _⟩

/-- One record changes. -/
theorem evolves_update {change : StoredTask → StoredTask} {r : RecordId}
    (changes : TaskEvolves o (may r) (s.heap r) (change (s.heap r))) : Evolves o may s (s.update r change) where
  records := rfl
  nextRecord := rfl
  disposed := rfl
  tasks r' := by
    by_cases same : r' = r
    · subst same
      show TaskEvolves o (may r') (s.heap r') (Function.update s.heap r' _ r')
      rw [Function.update_self]
      exact changes
    · show TaskEvolves o (may r') (s.heap r') (Function.update s.heap r _ r')
      rw [Function.update_of_ne same]
      exact .refl (may r') _

end Relation

theorem Quietly.yields {P : α → Prop} {code : StoreM α} (quietly : Quietly P code) :
    code.Yields s fun t result => Quiet s t ∧ ∀ a, result = .ok a → P a := by
  intro t result ends
  obtain ⟨t', answer, ran, quiet, holds⟩ := quietly s
  unfold Code.Ends at ends
  rw [ran] at ends
  obtain ⟨rfl, rfl⟩ := Sync.ends_done_iff.mp ends
  exact ⟨quiet, holds⟩

section Transition

/-- The snapshot of a task that has ended says what the update said. -/
structure Concludes (o : TaskStoreOptions) (outcome : TaskState) (update : TaskTransitionUpdate)
    (snapshot : TaskSnapshot) : Prop where
  state : snapshot.state = outcome
  content : o.retainTerminalResponse = true →
    (responseForUpdate update).content.mapM Content.cloneAndFreeze = some snapshot.content
  error : o.retainTerminalResponse = true →
    (responseForUpdate update).error.mapM ProtocolError.cloneAndFreeze = some snapshot.error

theorem buildSnapshot_concludes {update : TaskTransitionUpdate}
    (built : buildSnapshot o requestId state createdAt updatedAt expiresAt requested requestedAt
      (responseForUpdate update).content (responseForUpdate update).error (responseForUpdate update) =
        .ok snapshot) (terminal : isTerminalTaskState state = true) : Concludes o state update snapshot := by
  unfold buildSnapshot at built
  simp only [terminal, Bool.not_true, Bool.false_eq_true, if_false, if_true, Option.or_self] at built
  split at built
  · rename_i content error copied copiedError
    cases built
    refine ⟨rfl, fun retains => ?_, fun retains => ?_⟩
    · rw [retains, if_pos rfl] at copied
      exact copied
    · rw [retains, if_pos rfl] at copiedError
      exact copiedError
  · cases built

theorem quietly_concludes (task : StoredTask) (outcome : TaskState) (update : TaskTransitionUpdate) :
    Quietly (fun next => next.1.state = outcome ∧ next.1.expiresAt = task.snapshot.expiresAt ∧
      (isTerminalTaskState outcome = true → Concludes o outcome update next.1))
      (buildNextSnapshot o task outcome update) := by
  unfold buildNextSnapshot
  refine (quietly_nextCancellation task outcome update).bind fun cancellation _ => ?_
  refine (quietly_nextUpdatedAt task update.updatedAt).bind fun stamp _ => ?_
  refine (quietly_ofExcept fun snapshot built => ?_).bind fun snapshot facts => .pure facts
  obtain ⟨_, state, _, _, expiresAt, _⟩ := buildSnapshot_ok built
  refine ⟨state, expiresAt, fun terminal => ?_⟩
  simp only [terminal, if_true] at built
  exact buildSnapshot_concludes built terminal

/-- What the operation may conclude: this record, with this outcome. -/
def Concluding (o : TaskStoreOptions) (r : RecordId) (outcome : TaskState) (update : TaskTransitionUpdate)
    (r' : RecordId) (snapshot : TaskSnapshot) : Prop := r' = r ∧ Concludes o outcome update snapshot

/-- What a transition of a record answers about it. -/
def Answers (r : RecordId) (outcome : TaskState) (t : TaskStore) : TaskTransitionResult → Prop
  | .success _ snapshot => (t.heap r).snapshot = snapshot ∧ snapshot.state = outcome
  | .failure _ snapshot => snapshot = some (t.heap r).snapshot

theorem evolves_signalled {may : RecordId → TaskSnapshot → Prop} (r : RecordId) (aborted : Bool)
    (reason : Option JsString) : Evolves o may s (s.update r (signalled aborted reason)) :=
  evolves_update ⟨⟨rfl, rfl, rfl, rfl, rfl, rfl, rfl⟩, .inl rfl, fun _ none => none⟩

theorem commitTask_evolves {may : TaskSnapshot → Prop} {task : StoredTask} {next : TaskSnapshot}
    (live : isTerminalTaskState task.state = false) (expiresAt : next.expiresAt = task.snapshot.expiresAt)
    (allowed : isTerminalTaskState next.state = true → may next) (updatedAtMs : ℚ) :
    TaskEvolves o may task (commitTask o task next updatedAtMs) := by
  have outcome : (commitTask o task next updatedAtMs).snapshot = next := by
    unfold commitTask schedulePurge
    dsimp only
    split
    · split <;> rfl
    · rfl
  have identity : SameIdentity task (commitTask o task next updatedAtMs) := by
    unfold commitTask schedulePurge
    dsimp only
    split
    · split <;> exact ⟨rfl, rfl, rfl, rfl, rfl, rfl, expiresAt⟩
    · exact ⟨rfl, rfl, rfl, rfl, rfl, rfl, expiresAt⟩
  refine ⟨identity, .inr ⟨live, fun terminal => .inr ?_⟩, fun retained none => ?_⟩
  · unfold StoredTask.state at terminal
    rw [outcome] at terminal ⊢
    exact allowed terminal
  · unfold commitTask schedulePurge
    rw [retained]
    dsimp only
    split <;> exact none

/-- Signals are given, and no snapshot changes. -/
structure Signals (o : TaskStoreOptions) (s t : TaskStore) : Prop where
  evolves : Evolves o OnlyExpires s t
  snapshots : ∀ r, (t.heap r).snapshot = (s.heap r).snapshot

instance : IsPreorder TaskStore (Signals o) where
  refl s := ⟨.refl s, fun _ => rfl⟩
  trans _ _ _ first second :=
    ⟨first.evolves.trans second.evolves, fun r => (second.snapshots r).trans (first.snapshots r)⟩

theorem signals_signalled (r : RecordId) (aborted : Bool) (reason : Option JsString) :
    Signals o s (s.update r (signalled aborted reason)) := by
  refine ⟨evolves_signalled r aborted reason, fun r' => ?_⟩
  show (Function.update s.heap r _ r').snapshot = _
  by_cases same : r' = r
  · subst same
    rw [Function.update_self]
    rfl
  · rw [Function.update_of_ne same]

theorem within_abort (r : RecordId) (reason : Option JsString) : (abort r reason).Within (Signals o) := by
  unfold abort
  refine Code.within_read.bind fun s => ?_
  split
  · exact (Code.within_modify fun _ => signals_signalled r true reason).bind fun _ => Code.within_notify _
  · exact Code.within_pure ()

theorem within_announce (r : RecordId) (task : StoredTask) (next : TaskSnapshot) (reason : Option JsString) :
    (announce r task next reason).Within (Signals o) := by
  have told : (notifyTransition task next reason).Within (Signals o) := by
    unfold notifyTransition notifyExpired
    refine (Code.within_notify _).bind fun _ => Code.Within.bind ?_ fun _ => ?_
    · split
      · exact Code.within_notify _
      · exact Code.within_pure ()
    · split
      · exact Code.within_notify _
      · exact Code.within_pure ()
  unfold announce
  dsimp only
  split
  · exact (within_abort r reason).bind fun _ => told
  · exact (Code.within_pure ()).bind fun _ => told

/-- What a transition of one record leaves behind. -/
structure Transits (o : TaskStoreOptions) (r : RecordId) (outcome : TaskState) (update : TaskTransitionUpdate)
    (s t : TaskStore) (result : Except StoreError TaskTransitionResult) : Prop where
  evolves : Evolves o (Concluding o r outcome update) s t
  answers : ∀ answer, result = .ok answer → Answers r outcome t answer

theorem yields_transitionRecord (r : RecordId) (expectedState : Option TaskState) (outcome : TaskState)
    (update : TaskTransitionUpdate) :
    (transitionRecord o r expectedState outcome update).Yields s (Transits o r outcome update s) := by
  have refused : ∀ code, (pure (.failure code (some (s.heap r).snapshot)) : StoreM TaskTransitionResult).Yields s
      (Transits o r outcome update s) := by
    intro code
    refine Code.yields_pure ⟨.refl s, ?_⟩
    rintro _ ⟨⟩
    rfl
  unfold transitionRecord
  refine Code.yields_read_bind ?_
  dsimp only
  split
  · exact refused _
  · split
    · exact refused _
    · rename_i live
      split
      · exact refused _
      · refine (Quietly.yields (quietly_concludes (s.heap r) outcome update)).bind ?_ fun m e quiet =>
          ⟨.of_quiet quiet.1, fun _ thrown => by cases thrown⟩
        rintro m ⟨next, updatedAtMs⟩ ⟨quiet, facts⟩
        obtain ⟨state, expiresAt, concludes⟩ := facts _ rfl
        have here : m.heap r = s.heap r := congrFun quiet.heap r
        have evolves : Evolves o (Concluding o r outcome update) m (commit o m r next updatedAtMs) := by
          have moved : Evolves o (Concluding o r outcome update) m
              (m.update r fun task => commitTask o task next updatedAtMs) := by
            apply evolves_update
            rw [here]
            refine commitTask_evolves (Bool.eq_false_iff.mpr live) expiresAt (fun terminal => ⟨rfl, ?_⟩) updatedAtMs
            exact concludes (state ▸ terminal)
          exact ⟨moved.records, moved.nextRecord, moved.disposed, moved.tasks⟩
        have committed : ((commit o m r next updatedAtMs).heap r).snapshot = next := by
          show (Function.update m.heap r _ r).snapshot = next
          rw [Function.update_self]
          unfold commitTask schedulePurge
          dsimp only
          split
          · split <;> rfl
          · rfl
        refine Code.yields_modify_bind ((within_announce (o := o) r (s.heap r) next (updateReason update) _).bind
          (fun u _ signals => ?_) fun u e signals => ?_)
        · have last := ((Evolves.of_quiet quiet).trans evolves).trans signals.evolves.of_reads
          refine Code.yields_pure ⟨last, ?_⟩
          rintro _ ⟨⟩
          exact ⟨(signals.snapshots r).trans committed, state⟩
        · exact ⟨((Evolves.of_quiet quiet).trans evolves).trans signals.evolves.of_reads,
            fun _ thrown => by cases thrown⟩

theorem Evolves.of_expired (evolves : Evolves o (Concluding o r .expired update) s t) :
    Evolves o OnlyExpires s t :=
  evolves.imp fun _ _ _ concluding => .inl concluding.2.state

end Transition

section Reading

/-- The records are filed under the request ids they were made with. -/
def Filed (s : TaskStore) : Prop :=
  ∀ key r, s.records.get? key = some r → r < s.nextRecord ∧ (s.heap r).requestId = key

theorem Filed.evolves {may : RecordId → TaskSnapshot → Prop} (filed : Filed s) (evolves : Evolves o may s t) :
    Filed t := by
  intro key r stored
  rw [evolves.records] at stored
  obtain ⟨made, named⟩ := filed key r stored
  exact ⟨evolves.nextRecord ▸ made, (evolves.tasks r).identity.requestId.trans named⟩

theorem within_ensureUsable : ensureUsable.Within (Evolves o OnlyExpires) := by
  unfold ensureUsable
  refine Code.within_read.bind fun store => ?_
  split
  · exact Code.within_throw _
  · exact Code.within_pure ()

theorem Quietly.within {P : α → Prop} {code : StoreM α} (quietly : Quietly P code) :
    code.Within (Evolves o OnlyExpires) :=
  fun _ => (Quietly.yields quietly).imp fun _ _ quiet => .of_quiet quiet.1

theorem within_expireRecord (r : RecordId) : (expireRecord o r).Within (Evolves o OnlyExpires) := by
  unfold expireRecord
  refine Code.within_read.bind fun store => ?_
  dsimp only
  split
  · exact Code.within_pure ()
  · refine within_ensureUsable.bind fun _ => Code.within_read.bind fun store => ?_
    split
    · exact Code.within_pure ()
    · refine Code.Within.bind (fun s => ?_) fun _ => Code.within_pure ()
      exact (yields_transitionRecord _ none .expired expiredUpdate).imp fun _ _ transits => .of_expired transits.evolves

theorem within_expireIfDue (r : RecordId) : (expireIfDue o r).Within (Evolves o OnlyExpires) := by
  unfold expireIfDue
  refine Code.within_read.bind fun store => ?_
  dsimp only
  split
  · exact Code.within_pure ()
  · refine (Quietly.within quietly_currentMonotonic).bind fun now => ?_
    split
    · exact within_expireRecord r
    · exact Code.within_pure ()

theorem within_scheduleExpiry (r : RecordId) : (scheduleExpiry o r).Within (Evolves o OnlyExpires) := by
  unfold scheduleExpiry
  refine Code.within_read.bind fun store => (Quietly.within quietly_currentMonotonic).bind fun now => ?_
  dsimp only
  split
  · exact within_expireRecord r
  · exact Code.within_modify fun s =>
      evolves_update ⟨⟨rfl, rfl, rfl, rfl, rfl, rfl, rfl⟩, .inl rfl, fun _ none => none⟩

/-- Asking whether a caller may see a task changes nothing. -/
theorem within_refuses (r : RecordId) (caller : Option JsString) (action : TaskAuthorizationAction) :
    (refuses o r caller action).Within Eq := by
  unfold refuses isAuthorized
  split
  · exact Code.within_pure _
  · refine Code.Within.bind (Code.within_read.bind fun store => ?_) fun _ => Code.within_pure _
    dsimp only
    split
    · exact Code.within_pure _
    · refine (Code.within_call _).bind fun answer => ?_
      split
      · exact Code.within_pure _
      · exact Code.within_throw _

theorem yields_getTask (requestId : JsString) (read : SnapshotReadOptions) :
    (getTask o requestId read).Yields s fun t result => Evolves o OnlyExpires s t ∧
      ∀ snapshot, result = .ok (some snapshot) → ∃ r, s.find requestId = some r ∧
        snapshot = projectSnapshot (t.heap r).snapshot read.includeTerminalResponse := by
  unfold getTask
  refine Code.yields_read_bind ?_
  split
  · exact Code.yields_pure ⟨.refl s, fun _ given => by cases given⟩
  · rename_i r found
    refine (within_expireIfDue r s).bind (fun m _ evolves => ?_) fun _ _ evolves =>
      ⟨evolves, fun _ thrown => by cases thrown⟩
    refine (within_refuses r read.caller .status m).bind (fun t refused same => ?_) fun t _ same =>
      ⟨same ▸ evolves, fun _ thrown => by cases thrown⟩
    subst same
    split
    · exact Code.yields_pure ⟨evolves, fun _ given => by cases given⟩
    · refine Code.yields_read_bind (Code.yields_pure ⟨evolves, ?_⟩)
      rintro _ ⟨⟩
      exact ⟨r, found, rfl⟩

theorem yields_getRecordMetadata (requestId : JsString) :
    (getRecordMetadata o requestId).Yields s fun t result => Evolves o OnlyExpires s t ∧
      ∀ task, result = .ok task → task = (s.find requestId).map t.heap := by
  unfold getRecordMetadata
  refine Code.yields_read_bind ?_
  split
  · rename_i missing
    refine Code.yields_pure ⟨.refl s, ?_⟩
    rintro _ ⟨⟩
    rw [missing, Option.map_none]
  · rename_i r found
    refine (within_expireIfDue r s).bind (fun t _ evolves => ?_) fun _ _ evolves =>
      ⟨evolves, fun _ thrown => by cases thrown⟩
    refine Code.yields_read_bind (Code.yields_pure ⟨evolves, ?_⟩)
    rintro _ ⟨⟩
    rw [found, Option.map_some]

theorem within_getStatusResult (requestId : JsString) (read : SnapshotReadOptions) :
    (getStatusResult o requestId read).Within (Evolves o OnlyExpires) := by
  unfold getStatusResult
  refine Code.within_read.bind fun store => ?_
  split
  · exact Code.within_pure _
  · rename_i r found
    refine (within_expireIfDue r).bind fun _ => Code.Within.bind ?_ fun refused => ?_
    · exact (within_refuses r read.caller .status).imp fun s t same => same ▸ .refl s
    · split
      · exact Code.within_pure _
      · exact Code.within_read.bind fun _ => Code.within_pure _

end Reading

section Transitions

/-- What an operation about a request may conclude. -/
def ConcludingRequest (o : TaskStoreOptions) (s : TaskStore) (requestId : JsString) (outcome : TaskState)
    (update : TaskTransitionUpdate) (r : RecordId) (snapshot : TaskSnapshot) : Prop :=
  s.find requestId = some r ∧ Concludes o outcome update snapshot

/-- What a transition of a request answers. -/
def AnswersRequest (s : TaskStore) (requestId : JsString) (outcome : TaskState) (t : TaskStore)
    (answer : TaskTransitionResult) : Prop :=
  match s.find requestId with
  | none => ∃ code, answer = .failure code none
  | some r => Answers r outcome t answer

theorem yields_tryTransition (requestId : JsString) (expectedState : Option TaskState) (outcome : TaskState)
    (update : TaskTransitionUpdate) :
    (tryTransition o requestId expectedState outcome update).Yields s fun t result =>
      Evolves o (ConcludingRequest o s requestId outcome update) s t ∧
        ∀ answer, result = .ok answer → AnswersRequest s requestId outcome t answer := by
  unfold tryTransition
  refine Code.Yields.bind (P := fun t _ => t = s) ?_ (fun m _ same => ?_) fun m _ same => ?_
  · unfold ensureUsable
    refine Code.yields_read_bind ?_
    split
    · exact Code.yields_throw rfl
    · exact Code.yields_pure rfl
  · subst same
    refine Code.yields_read_bind ?_
    split
    · rename_i missing
      refine Code.yields_pure ⟨.refl m, ?_⟩
      rintro _ ⟨⟩
      unfold AnswersRequest
      rw [missing]
      exact ⟨_, rfl⟩
    · rename_i r found
      have moves : ∀ u, Evolves o OnlyExpires m u →
          (transitionRecord o r expectedState outcome update).Yields u fun t result =>
            Evolves o (ConcludingRequest o m requestId outcome update) m t ∧
              ∀ answer, result = .ok answer → AnswersRequest m requestId outcome t answer := by
        intro u evolves
        refine (yields_transitionRecord r expectedState outcome update).imp fun t result transits => ⟨?_, ?_⟩
        · refine evolves.of_reads.trans (transits.evolves.imp ?_)
          rintro _ snapshot _ ⟨rfl, concludes⟩
          exact .inr ⟨found, concludes⟩
        · intro answer given
          unfold AnswersRequest
          rw [found]
          exact transits.answers answer given
      dsimp only
      split
      · exact (within_expireIfDue r m).bind (fun u _ evolves => moves u evolves) fun _ _ evolves =>
          ⟨evolves.of_reads, fun _ thrown => by cases thrown⟩
      · exact moves m (.refl m)
  · subst same
    exact ⟨.refl m, fun _ thrown => by cases thrown⟩

/-- What an operation answers with is the snapshot of the record it is about. -/
def Shows (s : TaskStore) (requestId : JsString) (t : TaskStore) (snapshot : TaskSnapshot) : Prop :=
  ∃ r, s.find requestId = some r ∧ (t.heap r).snapshot = snapshot

theorem AnswersRequest.success (answers : AnswersRequest s requestId outcome t (.success source snapshot)) :
    Shows s requestId t snapshot ∧ snapshot.state = outcome := by
  unfold AnswersRequest at answers
  split at answers
  · obtain ⟨_, impossible⟩ := answers
    cases impossible
  · rename_i r found
    exact ⟨⟨r, found, answers.1⟩, answers.2⟩

theorem AnswersRequest.failure (answers : AnswersRequest s requestId outcome t (.failure code (some snapshot))) :
    Shows s requestId t snapshot := by
  unfold AnswersRequest at answers
  split at answers
  · obtain ⟨_, impossible⟩ := answers
    cases impossible
  · rename_i r found
    exact ⟨r, found, (Option.some.inj answers).symm⟩

theorem yields_transition (requestId : JsString) (outcome : TaskState) (update : TaskTransitionUpdate) :
    (transition o requestId outcome update).Yields s fun t result =>
      Evolves o (ConcludingRequest o s requestId outcome update) s t ∧
        ∀ snapshot, result = .ok (some snapshot) → Shows s requestId t snapshot ∧ snapshot.state = outcome := by
  unfold transition
  refine (yields_tryTransition requestId none outcome update).bind (fun t answer done => ?_) fun _ _ done =>
    ⟨done.1, fun _ thrown => by cases thrown⟩
  obtain ⟨evolves, answers⟩ := done
  cases answer with
  | failure code snapshot => exact Code.yields_pure ⟨evolves, fun _ given => by cases given⟩
  | success source snapshot =>
    refine Code.yields_pure ⟨evolves, ?_⟩
    rintro _ ⟨⟩
    exact (answers _ rfl).success

/-- The execution of a task begins with the task at work. -/
theorem yields_beginExecution (requestId : JsString) :
    (beginExecution o requestId).Yields s fun t result => Evolves o OnlyExpires s t ∧
      ∀ task, result = .ok (some task) → ∃ r, s.find requestId = some r ∧ t.heap r = task ∧
        task.state = .working := by
  unfold beginExecution
  refine Code.yields_read_bind ?_
  split
  · exact Code.yields_pure ⟨.refl s, fun _ given => by cases given⟩
  · rename_i r found
    refine (within_expireIfDue r s).bind (fun m _ evolves => ?_) fun _ _ evolves =>
      ⟨evolves, fun _ thrown => by cases thrown⟩
    refine Code.yields_read_bind ?_
    split
    · refine (yields_tryTransition requestId none .working .empty).bind (fun t answer done => ?_) fun t _ done =>
        ⟨evolves.trans (done.1.imp ?_), fun _ thrown => by cases thrown⟩
      · have later : Evolves o OnlyExpires s t := by
          refine evolves.trans (done.1.imp ?_)
          rintro r' snapshot terminal ⟨_, concludes⟩
          rw [concludes.state] at terminal
          cases terminal
        cases answer with
        | failure code snapshot => exact Code.yields_pure ⟨later, fun _ given => by cases given⟩
        | success source snapshot =>
          refine Code.yields_read_bind ?_
          dsimp only
          split
          · exact Code.yields_pure ⟨later, fun _ given => by cases given⟩
          · rename_i working
            refine Code.yields_pure ⟨later, ?_⟩
            rintro _ ⟨⟩
            exact ⟨r, found, rfl, not_ne_iff.mp working⟩
      · rintro r' snapshot terminal ⟨_, concludes⟩
        rw [concludes.state] at terminal
        cases terminal
    · rename_i working
      refine Code.yields_read_bind (Code.yields_pure ⟨evolves, ?_⟩)
      rintro _ ⟨⟩
      exact ⟨r, found, rfl, not_ne_iff.mp working⟩

theorem yields_expireTask (requestId : JsString) (filed : Filed s) :
    (expireTask o requestId).Yields s fun t result => Evolves o OnlyExpires s t ∧
      ∀ snapshot, result = .ok (some snapshot) → Shows s requestId t snapshot := by
  unfold expireTask
  refine Code.yields_read_bind ?_
  split
  · exact Code.yields_pure ⟨.refl s, fun _ given => by cases given⟩
  · rename_i r found
    refine Code.yields_read_bind ?_
    dsimp only
    rw [(filed requestId r found).2]
    have expires : ∀ r' snapshot, isTerminalTaskState snapshot.state = true →
        ConcludingRequest o s requestId .expired expiredUpdate r' snapshot →
          snapshot.state = .expired ∨ OnlyExpires r' snapshot :=
      fun _ _ _ concluding => .inl concluding.2.state
    refine (yields_tryTransition requestId none .expired expiredUpdate).bind (fun t answer done => ?_)
      fun t _ done => ⟨done.1.imp expires, fun _ thrown => by cases thrown⟩
    cases answer with
    | failure code snapshot =>
      refine Code.yields_pure ⟨done.1.imp expires, ?_⟩
      rintro snapshot ⟨⟩
      exact (done.2 _ rfl).failure
    | success source snapshot =>
      refine Code.yields_pure ⟨done.1.imp expires, ?_⟩
      rintro _ ⟨⟩
      exact (done.2 _ rfl).success.1

/-- What a cancellation may conclude. -/
def Cancelling (s : TaskStore) (requestId : JsString) (r : RecordId) (snapshot : TaskSnapshot) : Prop :=
  s.find requestId = some r ∧ snapshot.state = .cancelled

/-- The snapshot a cancellation answers with. -/
def TaskCancellationResult.snapshot? : TaskCancellationResult → Option TaskSnapshot
  | .success _ _ snapshot => some snapshot
  | .failure _ snapshot => snapshot

theorem yields_cancelTask (requestId : JsString) (request : CancellationRequest) (filed : Filed s) :
    (cancelTask o requestId request).Yields s fun t result => Evolves o (Cancelling s requestId) s t ∧
      ∀ answer snapshot, result = .ok answer → TaskCancellationResult.snapshot? answer = some snapshot →
        Shows s requestId t snapshot := by
  unfold cancelTask
  refine Code.Yields.bind (P := fun t _ => t = s) ?_ (fun m _ same => ?_) fun m _ same =>
    ⟨same ▸ .refl m, fun _ _ thrown => by cases thrown⟩
  · unfold ensureUsable
    refine Code.yields_read_bind ?_
    split
    · exact Code.yields_throw rfl
    · exact Code.yields_pure rfl
  subst same
  refine Code.yields_read_bind ?_
  split
  · refine Code.yields_pure ⟨.refl m, ?_⟩
    rintro _ _ ⟨⟩ given
    cases given
  rename_i r found
  refine (within_expireIfDue r m).bind (fun t _ evolves => ?_) fun _ _ evolves =>
    ⟨evolves.of_reads, fun _ _ thrown => by cases thrown⟩
  refine (within_refuses r request.caller .cancel t).bind (fun u refused same => ?_) fun _ _ same =>
    ⟨same ▸ evolves.of_reads, fun _ _ thrown => by cases thrown⟩
  subst same
  split
  · refine Code.yields_pure ⟨evolves.of_reads, ?_⟩
    rintro _ _ ⟨⟩ given
    cases given
  refine Code.yields_read_bind ?_
  dsimp only
  have shown : Shows m requestId t (t.heap r).snapshot := ⟨r, found, rfl⟩
  split
  · refine Code.yields_pure ⟨evolves.of_reads, ?_⟩
    rintro _ _ ⟨⟩ ⟨⟩
    exact shown
  split
  · refine Code.yields_pure ⟨evolves.of_reads, ?_⟩
    rintro _ _ ⟨⟩ ⟨⟩
    exact shown
  have quiet : Quietly (fun _ => True) (cancellationRequestedAt request) := by
    unfold cancellationRequestedAt
    split
    · exact .pure trivial
    · exact quietly_currentNow.bind fun _ _ => .pure trivial
  refine (Quietly.yields quiet).bind (fun u requestedAt moved => ?_) fun _ _ moved =>
    ⟨evolves.of_reads.trans (.of_quiet moved.1), fun _ _ thrown => by cases thrown⟩
  have later : Evolves o (Cancelling m requestId) m u := evolves.of_reads.trans (.of_quiet moved.1)
  have named : (t.heap r).requestId = requestId := (filed.evolves evolves requestId r (evolves.records ▸ found)).2
  rw [named]
  have cancels : ∀ update r' snapshot, isTerminalTaskState snapshot.state = true →
      ConcludingRequest o u requestId (if (t.heap r).state = .working then .cancelling else .cancelled) update
        r' snapshot → snapshot.state = .expired ∨ Cancelling m requestId r' snapshot := by
    rintro update r' snapshot terminal ⟨stored, concludes⟩
    refine .inr ⟨(later.find requestId).symm.trans stored, ?_⟩
    have outcome := concludes.state
    split at outcome
    · rw [outcome] at terminal
      cases terminal
    · exact outcome
  refine (yields_tryTransition requestId none _ _).bind (fun v answer done => ?_) fun _ _ done =>
    ⟨later.trans (done.1.imp (cancels _)), fun _ _ thrown => by cases thrown⟩
  have show_ : ∀ snapshot, Shows u requestId v snapshot → Shows m requestId v snapshot := by
    rintro snapshot ⟨r', stored, same⟩
    exact ⟨r', (later.find requestId).symm.trans stored, same⟩
  cases answer with
  | failure code snapshot =>
    refine Code.yields_pure ⟨later.trans (done.1.imp (cancels _)), ?_⟩
    rintro _ shown ⟨⟩ given
    have given : snapshot = some shown := given
    subst given
    exact show_ _ (done.2 _ rfl).failure
  | success source snapshot =>
    refine Code.yields_pure ⟨later.trans (done.1.imp (cancels _)), ?_⟩
    rintro _ _ ⟨⟩ ⟨⟩
    exact show_ _ (done.2 _ rfl).success.1

theorem within_expiryTimer (r : RecordId) : (expiryTimer o r).Within (Evolves o OnlyExpires) := by
  unfold expiryTimer
  refine Code.within_read.bind fun store => ?_
  split
  · refine (Code.within_modify fun s => ?_).bind fun _ => within_expireRecord r
    exact evolves_update ⟨⟨rfl, rfl, rfl, rfl, rfl, rfl, rfl⟩, .inl rfl, fun _ none => none⟩
  · exact Code.within_pure ()

/-- Without a timer there is nothing to purge. -/
theorem yields_purgeTimer (r : RecordId) (unarmed : (s.heap r).purgeTimer = none) :
    (purgeTimer r).Yields s fun t _ => t = s := by
  unfold purgeTimer
  refine Code.yields_read_bind ?_
  rw [unarmed]
  exact Code.yields_pure rfl

end Transitions

section Creation

/-- A record as `createTask` makes it. -/
structure NewRecord (o : TaskStoreOptions) (input : TaskStoreCreateInput) (task : StoredTask) : Prop where
  requestId : task.requestId = input.requestId
  owner : ∀ owner, input.requester = some owner → task.owner = owner
  localOwner : ∀ owner, input.localOwner = some owner → task.localOwner = owner
  expectedTargetRuntimeId : task.expectedTargetRuntimeId = input.expectedTargetRuntimeId
  responseContract : cloneContract input.responseContract = .ok task.responseContract
  ownership : ∀ ownership, input.ownership = some ownership → task.ownership = ownership
  state : task.state = .expired ∨ ∀ state, input.initialState = some state → task.state = state
  expiresAt : ∀ text, input.expiresAt = some (.wire text) → task.snapshot.expiresAt = text
  purge : task.purgeTimer = none

theorem normalizeOwnerValue_ok {value : Option TaskOwner} {owner : Option TaskOwner}
    (normal : normalizeOwnerValue value = .ok owner) : owner = value := by
  unfold normalizeOwnerValue at normal
  split at normal
  · cases normal
    rfl
  · split at normal
    · cases normal
    · cases normal
      rfl

theorem normalizeOwner_requester {input : TaskStoreCreateInput} {owner requester : TaskOwner}
    (normal : normalizeOwner input = .ok owner) (given : input.requester = some requester) : owner = requester := by
  unfold normalizeOwner at normal
  obtain ⟨value, first, rest⟩ := Validation.bind_ok normal
  rw [given, Option.some_or, Option.some_or] at first
  have same := normalizeOwnerValue_ok first
  subst same
  cases rest
  rfl

theorem normalizeLocalOwner_given {input : TaskStoreCreateInput} {requester owner given : TaskOwner}
    (normal : normalizeLocalOwner o input requester = .ok owner) (named : input.localOwner = some given) :
    owner = given := by
  unfold normalizeLocalOwner at normal
  obtain ⟨value, first, rest⟩ := Validation.bind_ok normal
  rw [named] at first
  have same := normalizeOwnerValue_ok first
  subst same
  cases rest
  rfl

theorem wire_value {text : JsString} {stamp : NormalizedTimestamp}
    (normal : normalizeTimestamp o.host (.wire text) = .ok stamp) : stamp.value = text := by
  simp only [normalizeTimestamp] at normal
  split at normal
  · cases normal
    rfl
  · cases normal

theorem quietly_newRecord (input : TaskStoreCreateInput) : Quietly (NewRecord o input) (newTask o input) := by
  unfold newTask
  refine (quietly_ofExcept fun _ normal => normal).bind fun owner normal => ?_
  refine (quietly_ofExcept fun _ normal => normal).bind fun localOwner localNormal => ?_
  dsimp only
  split
  · exact quietly_throw _
  refine quietly_currentNow.bind fun now _ => (quietly_timestamp _).bind fun createdAt _ => ?_
  refine (quietly_timestamp _).bind fun expiresAt expiry => ?_
  split
  · exact quietly_throw _
  refine (quietly_creationRequestedAt input now).bind fun requestedAt _ => ?_
  refine (quietly_ofExcept fun _ built => built).bind fun snapshot built => ?_
  refine quietly_currentMonotonic.bind fun monotonic _ => ?_
  refine (quietly_ofExcept fun _ cloned => cloned).bind fun contract cloned => ?_
  obtain ⟨_, state, _, _, deadline, _⟩ := buildSnapshot_ok built
  refine .pure ⟨rfl, fun requester given => normalizeOwner_requester normal given,
    fun requester given => normalizeLocalOwner_given localNormal given, rfl, cloned, ?_, ?_, ?_, rfl⟩
  · intro ownership given
    show (input.ownership.or input.direction).getD .inbound = ownership
    rw [given]
    rfl
  · show snapshot.state = .expired ∨ ∀ given, input.initialState = some given → snapshot.state = given
    rw [state]
    split
    · exact .inl rfl
    · refine .inr fun given stated => ?_
      rw [stated]
      rfl
  · intro text given
    show snapshot.expiresAt = text
    rw [deadline]
    rw [given] at expiry
    exact wire_value expiry

/-- What `createTask` does: nothing, or it makes a record, which may expire at once. -/
inductive Creates (o : TaskStoreOptions) (input : TaskStoreCreateInput) (s t : TaskStore) : Prop where
  | nothing (quiet : Quiet s t)
  | record (task : StoredTask) (made : TaskStore) (quiet : Quiet s made) (isNew : NewRecord o input task)
      (free : s.find input.requestId = none) (usable : s.disposed = false) (timer : Option ℚ)
      (retained : o.terminalRetentionMs = none → timer = none)
      (evolves : Evolves o OnlyExpires (insertRecord made input.requestId { task with purgeTimer := timer }) t)

theorem yields_createTask (input : TaskStoreCreateInput) :
    (createTask o input).Yields s fun t result => Creates o input s t ∧
      ∀ snapshot, result = .ok snapshot → t.find input.requestId = some s.nextRecord ∧
        s.find input.requestId = none := by
  unfold createTask
  refine Code.Yields.bind (P := fun t result => t = s ∧ (result = .ok () → s.disposed = false)) ?_
    (fun m _ same => ?_) fun m _ same => ⟨.nothing (same.1 ▸ .refl s), fun _ thrown => by cases thrown⟩
  · unfold ensureUsable
    refine Code.yields_read_bind ?_
    split
    · exact Code.yields_throw ⟨rfl, fun given => by cases given⟩
    · rename_i usable
      exact Code.yields_pure ⟨rfl, fun _ => Bool.eq_false_iff.mpr usable⟩
  obtain ⟨rfl, usable⟩ := same
  have usable := usable rfl
  dsimp only
  refine Code.yields_read_bind ?_
  split
  · exact Code.yields_throw ⟨.nothing (.refl m), fun _ thrown => by cases thrown⟩
  rename_i absent
  have free : m.find input.requestId = none := by
    simpa [TaskStore.find, JsMap.has] using absent
  refine (Quietly.yields (quietly_newRecord input)).bind (fun made task done => ?_) fun _ _ done =>
    ⟨.nothing done.1, fun _ thrown => by cases thrown⟩
  obtain ⟨quiet, isNew⟩ := done
  have isNew := isNew task rfl
  refine Code.yields_read_bind ?_
  have same : made.nextRecord = m.nextRecord := quiet.nextRecord
  -- the record is found under its request id, whatever its timers
  have filed : ∀ task' t, Evolves o OnlyExpires (insertRecord made input.requestId task') t →
      t.find input.requestId = some m.nextRecord := by
    intro task' t evolves
    rw [evolves.find, ← same]
    exact JsMap.get?_set_self ..
  have timers : ∀ t, Evolves o OnlyExpires (insertRecord made input.requestId (schedulePurge o task)) t →
      Creates o input m t := by
    intro t evolves
    unfold schedulePurge at evolves
    cases retention : o.terminalRetentionMs with
    | none =>
      rw [retention] at evolves
      refine .record task made quiet isNew free usable none (fun _ => rfl) ?_
      rw [← isNew.purge]
      exact evolves
    | some delayMs =>
      rw [retention] at evolves
      exact .record task made quiet isNew free usable (some delayMs) (fun none => by rw [retention] at none; cases none) evolves
  have answers : ∀ t, (∃ task', Evolves o OnlyExpires (insertRecord made input.requestId task') t) →
      Creates o input m t → (pure task.snapshot : StoreM TaskSnapshot).Yields t fun t result =>
        Creates o input m t ∧ ∀ snapshot, result = .ok snapshot → t.find input.requestId = some m.nextRecord ∧
          m.find input.requestId = none := by
    rintro t ⟨task', evolves⟩ creates
    exact Code.yields_pure ⟨creates, fun _ _ => ⟨filed task' t evolves, free⟩⟩
  split
  · refine Code.yields_modify_bind ?_
    split
    · refine (within_abort (o := o) _ _ _).bind (fun t _ signals => ?_) fun _ _ signals =>
        ⟨timers _ signals.evolves, fun _ thrown => by cases thrown⟩
      have tells : (notifyExpired task.snapshot).Within (Evolves o OnlyExpires) := by
        unfold notifyExpired
        split
        · exact Code.within_notify _
        · exact Code.within_pure ()
      refine (tells t).bind (fun u _ later => ?_) fun u _ later =>
        ⟨timers u (signals.evolves.trans later), fun _ thrown => by cases thrown⟩
      exact answers u ⟨_, signals.evolves.trans later⟩ (timers u (signals.evolves.trans later))
    · exact answers _ ⟨_, .refl _⟩ (timers _ (.refl _))
  · have untouched : ∀ t, Evolves o OnlyExpires (insertRecord made input.requestId task) t → Creates o input m t := by
      intro t evolves
      refine .record task made quiet isNew free usable none (fun _ => rfl) ?_
      rw [← isNew.purge]
      exact evolves
    refine Code.yields_modify_bind ((within_scheduleExpiry _ _).bind (fun t _ evolves => ?_) fun t _ evolves =>
      ⟨untouched t evolves, fun _ thrown => by cases thrown⟩)
    exact answers t ⟨_, evolves⟩ (untouched t evolves)

end Creation

section Ledger

/-- A store whose records are retained for ever: each request id has one record at most, which is
filed under it until the store is disposed, and no purge is to come. -/
structure Ledger (s : TaskStore) : Prop where
  filed : Filed s
  kept : s.disposed = false → ∀ r < s.nextRecord, s.find (s.heap r).requestId = some r
  distinct : ∀ r < s.nextRecord, ∀ r' < s.nextRecord, (s.heap r).requestId = (s.heap r').requestId → r = r'
  unarmed : ∀ r, (s.heap r).purgeTimer = none

theorem Ledger.insert {task : StoredTask} (ledger : Ledger s) (free : s.find task.requestId = none)
    (usable : s.disposed = false) (unarmed : task.purgeTimer = none) : Ledger (insertRecord s task.requestId task) := by
  have fresh : ∀ r < s.nextRecord, (s.heap r).requestId ≠ task.requestId := by
    intro r made same
    have filed := ledger.kept usable r made
    rw [same, free] at filed
    cases filed
  have older : ∀ r, r < s.nextRecord → (insertRecord s task.requestId task).heap r = s.heap r := by
    intro r made
    exact Function.update_of_ne (Nat.ne_of_lt made) ..
  have newest : (insertRecord s task.requestId task).heap s.nextRecord = task := Function.update_self ..
  have split : ∀ r, r < s.nextRecord + 1 → r < s.nextRecord ∨ r = s.nextRecord := fun r made => Nat.lt_succ_iff_lt_or_eq.mp made
  refine ⟨?_, ?_, ?_, ?_⟩
  · intro key r stored
    have stored : (s.records.set task.requestId s.nextRecord).get? key = some r := stored
    rw [JsMap.get?_set] at stored
    split at stored
    · rename_i same
      cases stored
      refine ⟨Nat.lt_succ_self _, ?_⟩
      rw [newest]
      exact same.symm
    · obtain ⟨made, named⟩ := ledger.filed key r stored
      exact ⟨Nat.lt_succ_of_lt made, (older r made).symm ▸ named⟩
  · intro _ r made
    show (s.records.set task.requestId s.nextRecord).get? _ = some r
    obtain before | rfl := split r made
    · rw [older r before, JsMap.get?_set, if_neg (fresh r before)]
      exact ledger.kept usable r before
    · rw [newest, JsMap.get?_set, if_pos rfl]
  · intro r made r' made' same
    obtain before | rfl := split r made
    · rw [older r before] at same
      obtain before' | rfl := split r' made'
      · rw [older r' before'] at same
        exact ledger.distinct r before r' before' same
      · rw [newest] at same
        exact (fresh r before same).elim
    · rw [newest] at same
      obtain before' | rfl := split r' made'
      · rw [older r' before'] at same
        exact (fresh r' before' same.symm).elim
      · rfl
  · intro r
    show (Function.update s.heap s.nextRecord task r).purgeTimer = none
    by_cases same : r = s.nextRecord
    · rw [same, Function.update_self]
      exact unarmed
    · rw [Function.update_of_ne same]
      exact ledger.unarmed r

variable (retained : o.terminalRetentionMs = none)
include retained

theorem Ledger.evolves {may : RecordId → TaskSnapshot → Prop} (ledger : Ledger s) (evolves : Evolves o may s t) :
    Ledger t where
  filed := ledger.filed.evolves evolves
  kept usable r made := by
    rw [(evolves.tasks r).identity.requestId, evolves.find]
    exact ledger.kept (evolves.disposed ▸ usable) r (evolves.nextRecord ▸ made)
  distinct r made r' made' same := by
    rw [(evolves.tasks r).identity.requestId, (evolves.tasks r').identity.requestId] at same
    exact ledger.distinct r (evolves.nextRecord ▸ made) r' (evolves.nextRecord ▸ made') same
  unarmed r := (evolves.tasks r).purge retained (ledger.unarmed r)

theorem Ledger.creates (ledger : Ledger s) (creates : Creates o input s t) : Ledger t := by
  cases creates with
  | nothing quiet => exact ledger.evolves retained (.of_quiet quiet : Evolves o OnlyExpires _ _)
  | record task made quiet isNew free usable timer unarmed evolves =>
    have before : Ledger made := ledger.evolves retained (.of_quiet quiet : Evolves o OnlyExpires _ _)
    have unfiled : s.find ({ task with purgeTimer := timer } : StoredTask).requestId = none := by
      rw [← free, ← isNew.requestId]
    refine Ledger.evolves retained ?_ evolves
    rw [← isNew.requestId]
    obtain ⟨_, _, rfl⟩ := quiet
    exact before.insert unfiled usable (unarmed retained)

end Ledger
end PiToPi.StoreEffects
