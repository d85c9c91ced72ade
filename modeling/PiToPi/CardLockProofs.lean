import PiToPi.CardLock
import PiToPi.Transition

/-!
Mutual exclusion of the bodies that run under a card lock, over every
interleaving of any number of processes that may crash at any time.

The lock is the file at the path: whoever is between creating its file and
unlinking it again finds that file there. The one step that can break this is
the unlink of a reclaimer, which goes by path. `KeepsLock` says when it does
not; `twoReclaimers_overlap` is a run where it does.
-/
namespace PiToPi.CardLock
open Transition

/-- The lock file an operation has created and not unlinked yet. -/
def Phase.held : Phase → Option Nat
  | .writing file | .syncing file | .closing file | .protecting file | .abandoning file _
  | .entering file | .executing file | .releasing file _ | .unlinking file _ => some file
  | _ => none

/-- The lock file whose owner a reclaimer found dead. -/
def Phase.judged : Phase → Option Nat
  | .secondLstat _ (some _) file | .reclaiming (some _) file => some file
  | _ => none

section Statement

variable (w : World)

/-- The process of an operation is alive. -/
def World.Live (o : Nat) : Prop := (w.processes (w.operations o).process).alive = true

/-- A live process holds the lock file: one of its operations created it and has
not unlinked it. -/
def World.Holds (o file : Nat) : Prop := w.Live o ∧ (w.operations o).phase.held = some file

/-- The body of an operation runs in a live process. -/
def World.Executing (o : Nat) : Prop := w.Live o ∧ ∃ file, (w.operations o).phase = .executing file

/-- At most one body runs. -/
def Exclusive : Prop := ∀ o o', w.Executing o → w.Executing o' → o = o'

/-- No step unlinks a lock file that another live process holds. -/
def RespectsOthers (step : LockStep) : Prop :=
  ∀ file, w.lock = some file → (w.step step).lock ≠ some file → ∀ o, w.Holds o file →
    ∃ outcome device inode, step = .act o outcome device inode

/-- Every interleaving, from no processes and no lock file. -/
def lockSystem : System World LockStep where
  init w := w.lock = none ∧ w.nextFile = 0 ∧ w.nextOperation = 0 ∧ w.nextProcess = 1 ∧
    (∀ o, (w.operations o).phase = .done) ∧ ∀ pid, (w.processes pid).alive = false
  step w step w' := w' = w.step step

/-- What reclaiming relies on: when a reclaimer unlinks, the file at the path is the
one whose owner record it has read, or no live operation holds it. -/
def World.KeepsLock : LockStep → Prop
  | .act o .ok _ _ => ∀ owner file file', w.Live o → (w.operations o).phase = .reclaiming owner file →
    w.lock = some file' → owner = none ∨ file' ≠ file → ∀ o', ¬w.Holds o' file'
  | _ => True

/-- The invariant of the runs that keep the lock. -/
structure Inv : Prop where
  lock : ∀ file, w.lock = some file → file < w.nextFile
  holds : ∀ o file, w.Holds o file → w.lock = some file
  held : ∀ o file, (w.operations o).phase.held = some file →
    file < w.nextFile ∧ (w.files file).creator = o
  owner : ∀ file < w.nextFile, ∀ owner, (w.files file).contents = some owner →
    owner.pid = (w.operations (w.files file).creator).process
  judged : ∀ o file, (w.operations o).phase.judged = some file →
    file < w.nextFile ∧ ∀ o', ¬w.Holds o' file
  unborn : ∀ o, w.nextOperation ≤ o → (w.operations o).phase = .done
  creator : ∀ file < w.nextFile, (w.files file).creator < w.nextOperation
  process : ∀ o < w.nextOperation, (w.operations o).process < w.nextProcess
  spawned : ∀ pid, (w.processes pid).alive = true → pid < w.nextProcess

end Statement

section Steps

variable {w : World}

/-- What an operation no longer in place holds or judges is gone with it. -/
theorem Inv.born (inv : Inv w) (busy : (w.operations o).phase ≠ .done) : o < w.nextOperation := by
  by_contra unborn
  exact busy (inv.unborn o (Nat.le_of_not_lt unborn))

/-- Only one live operation holds the lock. -/
theorem Inv.holder_unique (inv : Inv w) (holding : w.Holds o file) (holding' : w.Holds o' file') :
    o' = o ∧ file' = file := by
  have lock := inv.holds o file holding
  have lock' := inv.holds o' file' holding'
  have same : file' = file := Option.some.inj (lock'.symm.trans lock)
  have created := (inv.held o file holding.2).2
  have created' := (inv.held o' file' holding'.2).2
  exact ⟨by rw [← created', same, created], same⟩

/-- An operation changes in place: it holds at most what it held, and what it
judges is held by nobody. -/
theorem Inv.withOperation (inv : Inv w) (known : o < w.nextOperation)
    (process : operation.process = (w.operations o).process)
    (held : ∀ file, operation.phase.held = some file → (w.operations o).phase.held = some file)
    (judged : ∀ file, operation.phase.judged = some file →
      file < w.nextFile ∧ ∀ o', ¬w.Holds o' file) :
    Inv { w with operations := Function.update w.operations o operation } := by
  have processes : ∀ o', (Function.update w.operations o operation o').process =
      (w.operations o').process := by
    intro o'
    by_cases same : o' = o
    · subst same
      simp [process]
    · simp [same]
  have heldBefore : ∀ o' file, (Function.update w.operations o operation o').phase.held = some file →
      (w.operations o').phase.held = some file := by
    intro o' file
    by_cases same : o' = o
    · subst same
      simpa using held file
    · simp [same]
  have holdsBefore : ∀ o' file,
      World.Holds { w with operations := Function.update w.operations o operation } o' file →
      w.Holds o' file := by
    rintro o' file ⟨live, holding⟩
    refine ⟨?_, heldBefore o' file holding⟩
    unfold World.Live at live ⊢
    rwa [processes] at live
  refine
    { lock := inv.lock
      holds := fun o' file holding => inv.holds o' file (holdsBefore o' file holding)
      held := fun o' file holding => inv.held o' file (heldBefore o' file holding)
      owner := ?_
      judged := ?_
      unborn := ?_
      creator := inv.creator
      process := ?_
      spawned := inv.spawned }
  · intro file below owner written
    rw [processes]
    exact inv.owner file below owner written
  · intro o' file found
    have before : file < w.nextFile ∧ ∀ o', ¬w.Holds o' file := by
      by_cases same : o' = o
      · subst same
        exact judged file (by simpa using found)
      · exact inv.judged o' file (by simpa [same] using found)
    exact ⟨before.1, fun o'' holding => before.2 o'' (holdsBefore o'' file holding)⟩
  · intro o' unborn
    have other : o' ≠ o := by
      rintro rfl
      exact absurd known (Nat.not_lt.mpr unborn)
    simpa [other] using inv.unborn o' unborn
  · intro o' born
    rw [processes]
    exact inv.process o' born

theorem Inv.setPhase (inv : Inv w) (known : o < w.nextOperation)
    (held : ∀ file, phase.held = some file → (w.operations o).phase.held = some file)
    (judged : ∀ file, phase.judged = some file → file < w.nextFile ∧ ∀ o', ¬w.Holds o' file) :
    Inv (w.setPhase o phase) :=
  inv.withOperation known rfl held judged

/-- An operation lets go, or goes on with the file it holds. -/
theorem Inv.setPhase_plain (inv : Inv w) (known : o < w.nextOperation) (judges : phase.judged = none)
    (held : phase.held = none ∨ phase.held = (w.operations o).phase.held) :
    Inv (w.setPhase o phase) := by
  refine inv.setPhase known ?_ ?_
  · intro file holding
    obtain none | same := held
    · rw [none] at holding
      cases holding
    · rw [← same, holding]
  · intro file found
    rw [judges] at found
    cases found

/-- No process comes to life. -/
theorem Inv.withProcesses (inv : Inv w)
    (alive : ∀ pid, (processes pid).alive = true → (w.processes pid).alive = true) :
    Inv { w with processes } := by
  have holdsBefore : ∀ o file, World.Holds { w with processes } o file → w.Holds o file := by
    rintro o file ⟨live, holding⟩
    exact ⟨alive _ live, holding⟩
  exact
    { inv with
      holds := fun o file holding => inv.holds o file (holdsBefore o file holding)
      judged := fun o file found =>
        ⟨(inv.judged o file found).1,
          fun o' holding => (inv.judged o file found).2 o' (holdsBefore o' file holding)⟩
      spawned := fun pid live => inv.spawned pid (alive pid live) }

theorem Inv.dequeue (inv : Inv w) : Inv (w.dequeue o) := by
  unfold World.dequeue
  dsimp only
  split
  · refine inv.withProcesses ?_
    intro pid live
    by_cases same : pid = (w.operations o).process
    · subst same
      simpa using live
    · simpa [same] using live
  · exact inv

theorem Inv.settle (inv : Inv w) (known : o < w.nextOperation) : Inv (w.settle o) := by
  unfold World.settle
  exact (inv.setPhase_plain known rfl (.inl rfl)).dequeue

theorem Inv.tryOpen (inv : Inv w) (known : o < w.nextOperation) : Inv (w.tryOpen o) := by
  unfold World.tryOpen
  split
  · exact inv.settle known
  · exact inv.setPhase_plain known rfl (.inl rfl)

theorem Inv.reclaimed (inv : Inv w) (known : o < w.nextOperation) : Inv (w.reclaimed o result) := by
  unfold World.reclaimed
  split
  · exact inv.settle known
  · split
    · exact inv.tryOpen known
    · exact inv.setPhase_plain known rfl (.inl rfl)

theorem Inv.proceed (inv : Inv w) (known : o < w.nextOperation) (judges : phase.judged = none)
    (holding : (w.operations o).phase.held = some file) (held : phase.held = some file) :
    Inv (w.proceed o file phase) := by
  unfold World.proceed
  split
  · exact inv.setPhase_plain known rfl (.inr holding.symm)
  · exact inv.setPhase_plain known judges (.inr (held.trans holding.symm))

/-- The owner record names the process that created the file. -/
theorem Inv.writeOwner (inv : Inv w) (holding : (w.operations o).phase.held = some file) :
    Inv (w.writeOwner o file) := by
  have created := (inv.held o file holding).2
  have creators : ∀ file', ((w.writeOwner o file).files file').creator = (w.files file').creator := by
    intro file'
    unfold World.writeOwner
    by_cases same : file' = file
    · subst same
      simp
    · simp [same]
  exact
    { lock := inv.lock
      holds := inv.holds
      held := fun o' file' held' => ⟨(inv.held o' file' held').1, by
        rw [creators]
        exact (inv.held o' file' held').2⟩
      owner := by
        intro file' below owner written
        rw [creators]
        by_cases same : file' = file
        · subst same
          unfold World.writeOwner at written ⊢
          simp only [Function.update_self, Option.some.injEq] at written
          rw [← written, created]
        · refine inv.owner file' below owner ?_
          unfold World.writeOwner at written
          simpa [same] using written
      judged := inv.judged
      unborn := inv.unborn
      creator := fun file' below => by
        rw [creators]
        exact inv.creator file' below
      process := inv.process
      spawned := inv.spawned }

/-- `open` has found the path free, so no live operation holds a file. -/
theorem Inv.withFile (inv : Inv w) (known : o < w.nextOperation) (free : w.lock = none)
    (created : file.creator = o) (unwritten : file.contents = none)
    (held : phase.held = some w.nextFile) (judges : phase.judged = none) :
    Inv (World.setPhase { w with
      lock := some w.nextFile
      files := Function.update w.files w.nextFile file
      nextFile := w.nextFile + 1 } o phase) := by
  have nobody : ∀ o' file', ¬w.Holds o' file' := by
    intro o' file' holding
    have lock := inv.holds o' file' holding
    rw [free] at lock
    cases lock
  have old : ∀ file' < w.nextFile, Function.update w.files w.nextFile file file' = w.files file' := by
    intro file' below
    exact Function.update_of_ne (Nat.ne_of_lt below) _ _
  have new : Function.update w.files w.nextFile file w.nextFile = file := by simp
  have processes : ∀ o', (Function.update w.operations o { w.operations o with phase } o').process =
      (w.operations o').process := by
    intro o'
    by_cases same : o' = o
    · subst same
      simp
    · simp [same]
  have holder : ∀ o' file', World.Holds (World.setPhase { w with
      lock := some w.nextFile
      files := Function.update w.files w.nextFile file
      nextFile := w.nextFile + 1 } o phase) o' file' → file' = w.nextFile := by
    rintro o' file' ⟨live, holding⟩
    unfold World.setPhase at live holding
    unfold World.Live at live
    by_cases same : o' = o
    · subst same
      simp only [Function.update_self, held, Option.some.injEq] at holding
      exact holding.symm
    · simp only [Function.update_of_ne same] at live holding
      exact absurd ⟨live, holding⟩ (nobody o' file')
  refine
    { lock := ?_
      holds := ?_
      held := ?_
      owner := ?_
      judged := ?_
      unborn := ?_
      creator := ?_
      process := ?_
      spawned := inv.spawned }
  · intro file' found
    cases found
    exact Nat.lt_succ_self _
  · intro o' file' holding
    rw [holder o' file' holding]
    rfl
  · intro o' file' holding
    unfold World.setPhase at holding ⊢
    by_cases same : o' = o
    · subst same
      simp only [Function.update_self, held, Option.some.injEq] at holding
      subst holding
      refine ⟨Nat.lt_succ_self _, ?_⟩
      dsimp only
      rw [new, created]
    · simp only [Function.update_of_ne same] at holding
      obtain ⟨below, creator⟩ := inv.held o' file' holding
      refine ⟨Nat.lt_succ_of_lt below, ?_⟩
      dsimp only
      rw [old file' below, creator]
  · intro file' below owner written
    unfold World.setPhase at written ⊢
    dsimp only at written below ⊢
    rw [processes]
    obtain before | rfl := Nat.lt_succ_iff_lt_or_eq.mp below
    · rw [old file' before] at written ⊢
      exact inv.owner file' before owner written
    · rw [new, unwritten] at written
      cases written
  · intro o' file' found
    have before : file' < w.nextFile := by
      unfold World.setPhase at found
      by_cases same : o' = o
      · subst same
        simp only [Function.update_self, judges] at found
        cases found
      · simp only [Function.update_of_ne same] at found
        exact (inv.judged o' file' found).1
    refine ⟨Nat.lt_succ_of_lt before, fun o'' holding => ?_⟩
    exact absurd (holder o'' file' holding) (Nat.ne_of_lt before)
  · intro o' unborn
    have other : o' ≠ o := by
      rintro rfl
      exact absurd known (Nat.not_lt.mpr unborn)
    unfold World.setPhase
    simp only [Function.update_of_ne other]
    exact inv.unborn o' unborn
  · intro file' below
    unfold World.setPhase
    dsimp only at below ⊢
    obtain before | rfl := Nat.lt_succ_iff_lt_or_eq.mp below
    · rw [old file' before]
      exact inv.creator file' before
    · rw [new, created]
      exact known
  · intro o' born
    unfold World.setPhase
    dsimp only
    rw [processes]
    exact inv.process o' born

theorem Inv.create (inv : Inv w) (known : o < w.nextOperation) (free : w.lock = none) :
    Inv (w.create o device inode) := by
  unfold World.create World.proceed
  dsimp only
  rw [Nat.add_sub_cancel]
  split
  · exact inv.withFile known free rfl rfl rfl rfl
  · exact inv.withFile known free rfl rfl rfl rfl

/-- The file at the path is unlinked, and nobody alive holds it. -/
theorem Inv.unlinkLock (inv : Inv w) (nobody : ∀ o file, w.lock = some file → ¬w.Holds o file) :
    Inv w.unlinkLock :=
  { inv with
    lock := fun file found => by cases found
    holds := fun o file holding => absurd holding (nobody o file (inv.holds o file holding)) }

/-- An operation that unlinks its own file lets go of it. -/
theorem Inv.unlinkOwn (inv : Inv w) (live : w.Live o) (holding : (w.operations o).phase.held = some file)
    (held : phase.held = none) (judges : phase.judged = none) :
    Inv (w.unlinkLock.setPhase o phase) := by
  have known : o < w.nextOperation := inv.born (by
    intro past
    rw [past] at holding
    cases holding)
  -- The file leaves the path after the operation has let go of it.
  show Inv (w.setPhase o phase).unlinkLock
  refine (inv.setPhase_plain known judges (.inl held)).unlinkLock ?_
  rintro o' file' - ⟨live', holding'⟩
  unfold World.setPhase at live' holding'
  unfold World.Live at live'
  by_cases same : o' = o
  · subst same
    simp only [Function.update_self, held] at holding'
    cases holding'
  · simp only [Function.update_of_ne same] at live' holding'
    exact same (inv.holder_unique ⟨live, holding⟩ ⟨live', holding'⟩).1

/-- A lock file whose owner record names a dead process is held by nobody alive. -/
theorem Inv.owner_dead {owner : CardLockOwner} (inv : Inv w)
    (contents : (w.files file).contents = some owner)
    (dead : ¬((w.files file).contents.any fun owner => w.processIsAlive owner.pid) = true) :
    ∀ o', ¬w.Holds o' file := by
  rintro o' ⟨live, holding⟩
  obtain ⟨below, created⟩ := inv.held o' file holding
  have own : owner.pid = (w.operations o').process := by
    have named := inv.owner file below owner contents
    rwa [created] at named
  refine dead ?_
  rw [contents]
  unfold World.Live at live
  simpa [World.processIsAlive, own] using live

/-- The reclaimer's unlink takes a file nobody alive holds. -/
theorem Inv.reclaim {owner : Option CardLockOwner} (inv : Inv w) (live : w.Live o) (kept : w.KeepsLock (.act o .ok device inode))
    (at_reclaiming : (w.operations o).phase = .reclaiming owner file) (lock : w.lock = some file') :
    ∀ o', ¬w.Holds o' file' := by
  by_cases other : owner = none ∨ file' ≠ file
  · exact kept owner file file' live at_reclaiming lock other
  · push Not at other
    obtain ⟨read, rfl⟩ := other
    obtain ⟨owner, rfl⟩ := Option.ne_none_iff_exists'.mp read
    exact (inv.judged o file' (by rw [at_reclaiming]; rfl)).2

/-- The next call of an operation keeps the invariant: one case for each place it
may be at. -/
theorem Inv.act (inv : Inv w) (kept : w.KeepsLock (.act o outcome device inode)) :
    Inv (w.act o outcome device inode) := by
  unfold World.act
  dsimp only
  by_cases live : w.Live o
  case neg =>
    unfold World.Live at live
    simpa [World.processIsAlive, live] using inv
  have alive : w.processIsAlive (w.operations o).process = true := live
  rw [alive, Bool.not_true, if_neg Bool.false_ne_true]
  have born : (w.operations o).phase ≠ .done → o < w.nextOperation := inv.born
  cases at_ : (w.operations o).phase with
  | done => exact inv
  | queued previous =>
    have known := born (by simp [at_])
    dsimp only
    split
    · refine Inv.tryOpen ?_ known
      exact inv.withOperation known rfl (by simp [Phase.held]) (by simp [Phase.judged])
    · exact inv
  | opening =>
    have known := born (by simp [at_])
    cases outcome with
    | ok =>
      dsimp only
      split
      · exact inv.setPhase_plain known rfl (.inl rfl)
      · rename_i free
        exact inv.create known (by simpa using free)
    | failed exists' =>
      dsimp only
      split
      · exact inv.setPhase_plain known rfl (.inl rfl)
      · exact inv.settle known
    | deadline => exact inv
  | writing file =>
    have known := born (by simp [at_])
    have holding : (w.operations o).phase.held = some file := by rw [at_]; rfl
    cases outcome with
    | ok => exact (inv.writeOwner holding).proceed known rfl holding rfl
    | failed exists' => exact inv.setPhase_plain known rfl (.inr holding.symm)
    | deadline => exact inv
  | syncing file =>
    have known := born (by simp [at_])
    have holding : (w.operations o).phase.held = some file := by rw [at_]; rfl
    cases outcome with
    | ok => exact inv.proceed known rfl holding rfl
    | failed exists' => exact inv.setPhase_plain known rfl (.inr holding.symm)
    | deadline => exact inv
  | closing file =>
    have known := born (by simp [at_])
    have holding : (w.operations o).phase.held = some file := by rw [at_]; rfl
    cases outcome with
    | ok => exact inv.proceed known rfl holding rfl
    | failed exists' => exact inv.setPhase_plain known rfl (.inr holding.symm)
    | deadline => exact inv
  | protecting file =>
    have known := born (by simp [at_])
    have holding : (w.operations o).phase.held = some file := by rw [at_]; rfl
    cases outcome with
    | ok =>
      dsimp only
      split
      · exact inv.setPhase_plain known rfl (.inr holding.symm)
      · exact inv.setPhase_plain known rfl (.inr holding.symm)
    | failed exists' => exact inv.setPhase_plain known rfl (.inr holding.symm)
    | deadline => exact inv
  | abandoning file exists' =>
    have known := born (by simp [at_])
    have holding : (w.operations o).phase.held = some file := by rw [at_]; rfl
    dsimp only
    -- Whether or not the file could be unlinked, the operation lets go of it.
    have gone : ∀ phase : Phase, phase.held = none → phase.judged = none →
        Inv ((if outcome = .ok then w.unlinkLock else w).setPhase o phase) := by
      intro phase held judges
      split
      · exact inv.unlinkOwn live holding held judges
      · exact inv.setPhase_plain known judges (.inl held)
    split
    · exact gone _ rfl rfl
    · exact (gone .done rfl rfl).dequeue
  | firstLstat =>
    have known := born (by simp [at_])
    cases outcome with
    | ok =>
      dsimp only
      split
      · exact inv.reclaimed known
      · split
        · exact inv.reclaimed known
        · exact inv.setPhase_plain known rfl (.inl rfl)
    | failed exists' => exact inv.settle known
    | deadline =>
      dsimp only
      split
      · exact inv.reclaimed known
      · exact inv
  | reading firstStats =>
    have known := born (by simp [at_])
    cases outcome with
    | ok =>
      dsimp only
      split
      · exact inv.reclaimed known
      · rename_i file lock
        split
        · exact inv.reclaimed known
        · rename_i dead
          refine inv.setPhase known (by simp [Phase.held]) ?_
          intro file' found
          cases contents : (w.files file).contents with
          | none =>
            rw [contents] at found
            cases found
          | some owner =>
            rw [contents] at found
            cases found
            exact ⟨inv.lock file lock, inv.owner_dead contents dead⟩
    | failed exists' => exact inv.settle known
    | deadline =>
      dsimp only
      split
      · exact inv.reclaimed known
      · exact inv
  | secondLstat firstStats owner file =>
    have known := born (by simp [at_])
    cases outcome with
    | ok =>
      dsimp only
      split
      · exact inv.reclaimed known
      · split
        · exact inv.reclaimed known
        · split
          · exact inv.reclaimed known
          · refine inv.setPhase known (by simp [Phase.held]) ?_
            intro file' found
            refine inv.judged o file' ?_
            rw [at_]
            cases owner with
            | none => cases found
            | some owner => exact found
    | failed exists' => exact inv.settle known
    | deadline =>
      dsimp only
      split
      · exact inv.reclaimed known
      · exact inv
  | reclaiming owner file =>
    have known := born (by simp [at_])
    cases outcome with
    | ok =>
      have unlinked := inv.unlinkLock fun o' file' lock => inv.reclaim live kept at_ lock o'
      exact unlinked.reclaimed known
    | failed exists' => exact inv.settle known
    | deadline => exact inv
  | waiting => exact inv.tryOpen (born (by simp [at_]))
  | entering file =>
    have known := born (by simp [at_])
    have holding : (w.operations o).phase.held = some file := by rw [at_]; rfl
    dsimp only
    split
    · exact inv.setPhase_plain known rfl (.inr holding.symm)
    · exact inv.setPhase_plain known rfl (.inr holding.symm)
  | executing file =>
    have known := born (by simp [at_])
    have holding : (w.operations o).phase.held = some file := by rw [at_]; rfl
    exact inv.setPhase_plain known rfl (.inr holding.symm)
  | releasing file acquiring =>
    have known := born (by simp [at_])
    have holding : (w.operations o).phase.held = some file := by rw [at_]; rfl
    cases outcome with
    | ok =>
      dsimp only
      split
      · exact inv.settle known
      · split
        · exact inv.settle known
        · exact inv.setPhase_plain known rfl (.inr holding.symm)
    | failed exists' =>
      dsimp only
      split
      · exact inv.setPhase_plain known rfl (.inr holding.symm)
      · exact inv.settle known
    | deadline => exact inv
  | unlinking file acquiring =>
    have known := born (by simp [at_])
    have holding : (w.operations o).phase.held = some file := by rw [at_]; rfl
    cases outcome with
    | ok => exact (inv.unlinkOwn live holding rfl rfl).dequeue
    | failed exists' =>
      dsimp only
      split
      · exact inv.setPhase_plain known rfl (.inr holding.symm)
      · exact inv.settle known
    | deadline => exact inv

theorem Inv.tick (inv : Inv w) : Inv { w with now } := { inv with }

theorem Inv.spawn (inv : Inv w) : Inv (w.step .spawn) := by
  have older : ∀ pid < w.nextProcess,
      Function.update w.processes w.nextProcess { alive := true, writeLock := none } pid =
        w.processes pid :=
    fun pid below => Function.update_of_ne (Nat.ne_of_lt below) _ _
  have holdsBefore : ∀ o file, (w.step .spawn).Holds o file → w.Holds o file := by
    rintro o file ⟨live, holding⟩
    have known : o < w.nextOperation := inv.born (by
      intro past
      unfold World.step at holding
      rw [past] at holding
      cases holding)
    refine ⟨?_, holding⟩
    unfold World.step World.Live at live
    dsimp only at live
    rwa [older _ (inv.process o known)] at live
  exact
    { inv with
      holds := fun o file holding => inv.holds o file (holdsBefore o file holding)
      judged := fun o file found =>
        ⟨(inv.judged o file found).1,
          fun o' holding => (inv.judged o file found).2 o' (holdsBefore o' file holding)⟩
      process := fun o born => Nat.lt_succ_of_lt (inv.process o born)
      spawned := by
        intro pid live
        unfold World.step at live ⊢
        by_cases new : pid = w.nextProcess
        · rw [new]
          exact Nat.lt_succ_self _
        · simp only [Function.update_of_ne new] at live
          exact Nat.lt_succ_of_lt (inv.spawned pid live) }

/-- A new operation queues. -/
theorem Inv.withNewOperation (inv : Inv w) (queued : operation.phase = .queued previous)
    (process : operation.process < w.nextProcess) :
    Inv { w with
      operations := Function.update w.operations w.nextOperation operation
      nextOperation := w.nextOperation + 1 } := by
  have older : ∀ o < w.nextOperation,
      Function.update w.operations w.nextOperation operation o = w.operations o :=
    fun o below => Function.update_of_ne (Nat.ne_of_lt below) _ _
  have holdsBefore : ∀ o file, World.Holds { w with
      operations := Function.update w.operations w.nextOperation operation
      nextOperation := w.nextOperation + 1 } o file → w.Holds o file := by
    rintro o file ⟨live, holding⟩
    unfold World.Live at live
    by_cases new : o = w.nextOperation
    · subst new
      simp only [Function.update_self, queued] at holding
      cases holding
    · simp only [Function.update_of_ne new] at live holding
      exact ⟨live, holding⟩
  refine
    { lock := inv.lock
      holds := fun o file holding => inv.holds o file (holdsBefore o file holding)
      held := ?_
      owner := ?_
      judged := ?_
      unborn := ?_
      creator := fun file below => Nat.lt_succ_of_lt (inv.creator file below)
      process := ?_
      spawned := inv.spawned }
  · intro o file holding
    by_cases new : o = w.nextOperation
    · subst new
      simp only [Function.update_self, queued] at holding
      cases holding
    · simp only [Function.update_of_ne new] at holding
      exact inv.held o file holding
  · intro file below owner written
    dsimp only
    rw [older _ (inv.creator file below)]
    exact inv.owner file below owner written
  · intro o file found
    by_cases new : o = w.nextOperation
    · subst new
      simp only [Function.update_self, queued] at found
      cases found
    · simp only [Function.update_of_ne new] at found
      obtain ⟨below, dead⟩ := inv.judged o file found
      exact ⟨below, fun o' holding => dead o' (holdsBefore o' file holding)⟩
  · intro o unborn
    have new : o ≠ w.nextOperation := Nat.ne_of_gt unborn
    simp only [Function.update_of_ne new]
    exact inv.unborn o (Nat.le_of_succ_le unborn)
  · intro o born
    obtain before | rfl := Nat.lt_succ_iff_lt_or_eq.mp born
    · dsimp only
      rw [older o before]
      exact inv.process o before
    · simpa using process

theorem Inv.call (inv : Inv w) : Inv (w.call pid deadlineMs token) := by
  unfold World.call
  dsimp only
  split
  · exact inv
  · rename_i alive
    have live : (w.processes pid).alive = true := by simpa [World.processIsAlive] using alive
    refine (inv.withNewOperation rfl (inv.spawned pid live)).withProcesses ?_
    intro pid' live'
    by_cases same : pid' = pid
    · subst same
      exact live
    · simpa [same] using live'

theorem Inv.step (inv : Inv w) (kept : w.KeepsLock label) : Inv (w.step label) := by
  cases label with
  | tick now => exact inv.tick
  | spawn => exact inv.spawn
  | crash pid =>
    refine inv.withProcesses ?_
    intro pid' live
    by_cases same : pid' = pid
    · subst same
      simp at live
    · simpa [same] using live
  | call pid deadlineMs token => exact inv.call
  | timeout o =>
    unfold World.step
    dsimp only
    split
    · exact inv.dequeue
    · exact inv
  | act o outcome device inode => exact inv.act kept

theorem Inv.init (start : lockSystem.init w) : Inv w := by
  obtain ⟨free, files, operations, -, idle, dead⟩ := start
  refine
    { lock := fun file found => by simp [free] at found
      holds := ?_
      held := ?_
      owner := fun file below => by simp [files] at below
      judged := ?_
      unborn := fun o _ => idle o
      creator := fun file below => by simp [files] at below
      process := fun o below => by simp [operations] at below
      spawned := fun pid live => by simp [dead] at live }
  · rintro o file ⟨-, holding⟩
    rw [idle] at holding
    cases holding
  · intro o file holding
    rw [idle] at holding
    cases holding
  · intro o file found
    rw [idle] at found
    cases found

section Unlink

@[simp] theorem setPhase_lock : (w.setPhase o phase).lock = w.lock := rfl

@[simp] theorem dequeue_lock : (w.dequeue o).lock = w.lock := by
  unfold World.dequeue
  dsimp only
  split <;> rfl

@[simp] theorem settle_lock : (w.settle o).lock = w.lock := by
  simp [World.settle]

@[simp] theorem tryOpen_lock : (w.tryOpen o).lock = w.lock := by
  unfold World.tryOpen
  split <;> simp

@[simp] theorem reclaimed_lock : (w.reclaimed o result).lock = w.lock := by
  unfold World.reclaimed
  split
  · simp
  · split <;> simp

@[simp] theorem proceed_lock : (w.proceed o file phase).lock = w.lock := by
  unfold World.proceed
  split <;> simp

@[simp] theorem writeOwner_lock : (w.writeOwner o file).lock = w.lock := rfl

/-- A lock file leaves the path by an unlink: of its own creator, or of a reclaimer. -/
theorem act_unlinks (lock : w.lock = some file)
    (gone : (w.act o outcome device inode).lock ≠ some file) :
    w.Live o ∧ ((∃ file', (w.operations o).phase.held = some file') ∨
      outcome = .ok ∧ ∃ owner file', (w.operations o).phase = .reclaiming owner file') := by
  unfold World.act at gone
  dsimp only at gone
  by_cases live : w.Live o
  case neg =>
    unfold World.Live at live
    simp [World.processIsAlive, live, lock] at gone
  refine ⟨live, ?_⟩
  have alive : w.processIsAlive (w.operations o).process = true := live
  rw [alive, Bool.not_true, if_neg Bool.false_ne_true] at gone
  cases at_ : (w.operations o).phase with
  | reclaiming owner file' =>
    cases outcome with
    | ok => exact .inr ⟨rfl, owner, file', rfl⟩
    | failed exists' => simp [at_, lock] at gone
    | deadline => simp [at_, lock] at gone
  | queued previous =>
    rw [at_] at gone
    dsimp only at gone
    split at gone <;> simp [lock] at gone
  | opening =>
    cases outcome with
    | ok => simp [at_, lock] at gone
    | failed exists' => cases exists' <;> simp [at_, lock] at gone
    | deadline => simp [at_, lock] at gone
  | firstLstat =>
    cases outcome with
    | ok =>
      simp only [at_, lock] at gone
      split at gone <;> simp [lock] at gone
    | failed exists' => simp [at_, lock] at gone
    | deadline =>
      simp only [at_] at gone
      split at gone <;> simp [lock] at gone
  | reading firstStats =>
    cases outcome with
    | ok =>
      simp only [at_, lock] at gone
      split at gone <;> simp [lock] at gone
    | failed exists' => simp [at_, lock] at gone
    | deadline =>
      simp only [at_] at gone
      split at gone <;> simp [lock] at gone
  | secondLstat firstStats owner file' =>
    cases outcome with
    | ok =>
      simp only [at_, lock] at gone
      split at gone
      · simp [lock] at gone
      · split at gone <;> simp [lock] at gone
    | failed exists' => simp [at_, lock] at gone
    | deadline =>
      simp only [at_] at gone
      split at gone <;> simp [lock] at gone
  | waiting => simp [at_, lock] at gone
  | done => simp [at_, lock] at gone
  | _ => exact .inl ⟨_, rfl⟩

end Unlink

theorem Inv.exclusive (inv : Inv w) : Exclusive w := by
  rintro o o' ⟨live, file, at_⟩ ⟨live', file', at'⟩
  have holding : w.Holds o file := ⟨live, by rw [at_]; rfl⟩
  have holding' : w.Holds o' file' := ⟨live', by rw [at']; rfl⟩
  exact (inv.holder_unique holding holding').1.symm

theorem Inv.respectsOthers (inv : Inv w) (kept : w.KeepsLock label) : RespectsOthers w label := by
  intro file lock gone holder holding
  cases label with
  | tick now => exact absurd lock gone
  | spawn => exact absurd lock gone
  | crash pid => exact absurd lock gone
  | call pid deadlineMs token =>
    unfold World.step World.call at gone
    dsimp only at gone
    split at gone <;> exact absurd lock gone
  | timeout o =>
    unfold World.step at gone
    dsimp only at gone
    split at gone <;> simp [lock] at gone
  | act o outcome device inode =>
    obtain ⟨live, ⟨file', own⟩ | ⟨rfl, owner, file', at_⟩⟩ := act_unlinks lock gone
    · rw [(inv.holder_unique ⟨live, own⟩ holding).1]
      exact ⟨outcome, device, inode, rfl⟩
    · exact absurd holding (inv.reclaim live kept at_ lock holder)

/-- A reclaimer that breaks the condition unlinks the lock file of another. -/
theorem keepsLock_of_respectsOthers (respects : RespectsOthers w label) : w.KeepsLock label := by
  unfold World.KeepsLock
  split
  · rename_i o device inode
    intro owner file file' live at_ lock _ o' holding
    have gone : (w.act o .ok device inode).lock ≠ some file' := by
      have alive : w.processIsAlive (w.operations o).process = true := live
      unfold World.act
      simp [alive, at_, World.unlinkLock]
    obtain ⟨outcome, device', inode', same⟩ := respects file' lock gone o' holding
    obtain rfl := (LockStep.act.inj same).1
    have held := holding.2
    rw [at_] at held
    cases held
  · trivial

end Steps

/-- While reclaimers keep the lock, at most one body runs in live processes; and
exactly the steps that keep it unlink no lock file of another. -/
theorem lockHeld (reached : (lockSystem.restrict World.KeepsLock).Reachable w) :
    Exclusive w ∧ ∀ label, RespectsOthers w label ↔ w.KeepsLock label := by
  have inv : Inv w := by
    refine System.Reachable.invariant ?_ ?_ reached
    · exact fun w start => Inv.init start
    · rintro w label w' inv ⟨kept, rfl⟩
      exact inv.step kept
  exact ⟨inv.exclusive, fun label => ⟨keepsLock_of_respectsOthers, inv.respectsOthers⟩⟩

/-- A reclaimer unlinks the very file whose owner record it has read. -/
def World.ReclaimsRead (w : World) : LockStep → Prop
  | .act o .ok _ _ => match (w.operations o).phase with
    | .reclaiming owner file => owner ≠ none ∧ w.lock = some file
    | _ => True
  | _ => True

instance (w : World) (label : LockStep) : Decidable (w.ReclaimsRead label) := by
  unfold World.ReclaimsRead
  split
  · split <;> infer_instance
  · infer_instance

theorem World.ReclaimsRead.keepsLock {w : World} {label : LockStep} (reads : w.ReclaimsRead label) :
    w.KeepsLock label := by
  unfold World.KeepsLock
  split
  · intro owner file file' _ at_ lock other
    unfold World.ReclaimsRead at reads
    simp only [at_] at reads
    obtain unread | different := other
    · exact absurd unread reads.1
    · exact absurd (Option.some.inj (lock.symm.trans reads.2)) different
  · trivial

/-- No process has been started. -/
def idle : World where
  now := 0
  lock := none
  files _ := { device := 0, inode := 0, contents := none, mtimeMs := 0, creator := 0 }
  nextFile := 0
  operations _ := { process := 0, deadlineMs := none, token := "", acquiredAt := 0, phase := .done }
  nextOperation := 0
  processes _ := { alive := false, writeLock := none }
  nextProcess := 1

theorem idle_init : lockSystem.init idle :=
  ⟨rfl, rfl, rfl, rfl, fun _ => rfl, fun _ => rfl⟩

/-- `n` calls of an operation, none of which fails. -/
def acts (o n inode : Nat) : List LockStep := List.replicate n (.act o .ok 0 inode)

/-- A process crashes with the lock, which goes stale. -/
def staleLock : List LockStep :=
  [.spawn, .call 1 none "a"] ++ acts 0 3 1 ++ [.crash 1, .tick cardLockStaleAfterMs]

/-- Another process reclaims it and runs its body. -/
def reclaimRun : List LockStep :=
  staleLock ++ [.spawn, .call 2 none "b"] ++ acts 1 12 2

theorem lockHeld_reclaimed :
    ((reclaimRun.foldl World.step idle).operations 1).phase = .executing 1 ∧
      Exclusive (reclaimRun.foldl World.step idle) := by
  have keeps : System.AllMeet World.ReclaimsRead World.step idle reclaimRun := by decide +kernel
  have start : (lockSystem.restrict World.KeepsLock).Reachable idle := .init idle_init
  have reached := start.run_restrict (f := World.step) (fun _ _ => rfl)
    (keeps.mono fun _ _ => World.ReclaimsRead.keepsLock)
  exact ⟨by decide +kernel, (lockHeld reached).1⟩

/-- Two processes judge the stale lock; the second to unlink unlinks the first's. -/
def twoReclaimers : List LockStep :=
  staleLock ++ [.spawn, .spawn, .call 2 none "b", .call 3 none "c"] ++
    acts 1 5 2 ++ acts 2 5 3 ++ acts 1 7 2 ++ acts 2 7 3

theorem twoReclaimers_overlap : ¬∀ w, lockSystem.Reachable w → Exclusive w := by
  intro always
  have reached : lockSystem.Reachable (twoReclaimers.foldl World.step idle) :=
    System.Reachable.run (fun _ _ => rfl) (.init idle_init) _
  have first : (twoReclaimers.foldl World.step idle).Executing 1 :=
    ⟨by unfold World.Live; decide +kernel, 1, by decide +kernel⟩
  have second : (twoReclaimers.foldl World.step idle).Executing 2 :=
    ⟨by unfold World.Live; decide +kernel, 2, by decide +kernel⟩
  exact absurd (always _ reached 1 2 first second) (by decide)

end PiToPi.CardLock
