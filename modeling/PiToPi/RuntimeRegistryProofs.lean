import PiToPi.RuntimeRegistry
import PiToPi.NamingProofs

/-!
`current()`, the network name and the file at the key agree whenever a queued call has settled, a
rename that fails puts them back, and `shutdown` leaves nothing behind. `shutdown` looks only for
the records that `current()` and the last failed restoration have kept in mind: a call that
replaces the file and fails must not lead to another file than those.
-/
namespace PiToPi.RuntimeRegistry
open Naming Transition

variable {H : NameHost} {owner : Owner H} {w w' : World}

section Statement

/-- A file of the registry's at the key is one that `shutdown` would look for. -/
def Covered (owner : Owner H) (expected : List RuntimeRecordCleanupOptions)
    (disk : Option RecordFile) : Prop :=
  ∀ file, disk = some file → file.stat ≠ 0 → ∃ options ∈ expected, owner.removable options file = true

instance (expected : List RuntimeRecordCleanupOptions) :
    (disk : Option RecordFile) → Decidable (Covered owner expected disk)
  | none => isTrue nofun
  | some file =>
    decidable_of_iff (file.stat ≠ 0 → ∃ options ∈ expected, owner.removable options file = true)
      ⟨fun covered _ same => Option.some.inj same ▸ covered, fun covered => covered file rfl⟩

/-- The file is taken for the one of the failed record. -/
def holdsFailed (owner : Owner H) (w : World) (failedRecord : Option RuntimeRecord) : Bool :=
  failedRecord.any fun failed => w.disk.any (owner.removable (cleanupOptionsForRecord failed))

/-- A failed rename, where there was no record to restore, removes a file only where none was there
before the call, and one that it leaves is what `shutdown` looks for without any record. -/
def Undone (owner : Owner H) (w : World) (attempt : Attempt) (failedRecord : Option RuntimeRecord)
    (event : Event) : Prop :=
  (event = .restore .completed → holdsFailed owner w failedRecord = true → attempt.before = none) ∧
    (event = .restore .completed ∧ holdsFailed owner w failedRecord = false ∨
      event = .restore .overlooked → Covered owner [owner.cleanupOptions] w.disk)

instance (attempt : Attempt) (failedRecord : Option RuntimeRecord) (event : Event) :
    Decidable (Undone owner w attempt failedRecord event) :=
  inferInstanceAs (Decidable ((_ → _ → _) ∧ (_ → _)))

def CarefulAt (owner : Owner H) (w : World) (event : Event) : Work → Prop
  | .publishing attempt record => event = .published .failedAfter → attempt.publication = .renew →
    (∀ current ∈ w.currentRecord, current = record) ∧
      (w.currentRecord = none → Covered owner (w.cleanupExpectations owner) (w.replace record).disk)
  | .restoring attempt failedRecord =>
    (∀ previous ∈ attempt.previousRecord, event = .restore .completed ∨ event = .restore .failedAfter →
      w.shutdown.begun = true → w.shutdown = .rejected ∧ attempt.before = some previous) ∧
      (attempt.previousRecord = none → w.shutdown.begun = false →
        Undone owner w attempt failedRecord event)
  | .idle | .restored .. => True

/-- `shutdown` unlinks the file. -/
def removes (owner : Owner H) (w : World) (event : Event) : Bool :=
  match w.shutdown with
  | .locking stat options _ _ =>
    (event == .removeLocked .completed || event == .removeLocked .failedAfter) &&
      (w.disk.filter fun file => file.stat == stat && owner.removable options file).isSome
  | _ => false

/-- The rename that runs, if one does, has a record to put back. -/
def Work.putsBack : Work → Bool
  | .idle | .publishing .. => true
  | .restoring attempt _ | .restored attempt _ _ => attempt.previousRecord.isSome

/-- A renewal that fails has not replaced the file by a record that is neither the current one nor
one that `shutdown` looks for; a failed rename without a current record takes away and forgets no
file; no rename puts its record back once `shutdown` removes; and `shutdown` does not unlink the file
while a rename runs that has nothing to put back. -/
def Careful (owner : Owner H) (w : World) (event : Event) : Prop :=
  CarefulAt owner w event w.work ∧ (removes owner w event = true → w.work.putsBack = true)

instance (event : Event) : (work : Work) → Decidable (CarefulAt owner w event work)
  | .publishing .. => inferInstanceAs (Decidable (_ → _ → _ ∧ (_ → _)))
  | .restoring .. => inferInstanceAs (Decidable (_ ∧ (_ → _ → _)))
  | .idle | .restored .. => isTrue trivial

instance (event : Event) : Decidable (Careful owner w event) :=
  inferInstanceAs (Decidable (CarefulAt owner w event w.work ∧ (_ → _)))

/-- How a queued call settles. -/
structure Settlement.Ok (s : Settlement) : Prop where
  agrees : ∀ record, s.current = some record →
    s.disk = some record ∧ record.networkName = s.networkName
  fulfilled : s.fulfilled = true → s.current.isSome = true ∧
    ∀ name, s.attempt.publication = .updateNetworkName name → s.networkName = name
  failed : s.fulfilled = false → s.networkName = s.attempt.previousNetworkName
  /-- After a rename that fails, unless the restoration does. -/
  restored : s.fulfilled = false → s.attempt.publication ≠ .renew → s.restoreFailed = false →
    s.disk = s.attempt.before

structure Consistent (w : World) : Prop where
  settled : ∀ s ∈ w.settled, s.Ok
  /-- Between two queued calls. -/
  idle : w.work = .idle → w.shutdown.begun = false → ∀ record, w.currentRecord = some record →
    w.onDisk = some record ∧ record.networkName = w.currentNetworkName
  resolved : ∀ removed, w.shutdown = .resolved removed → w.currentRecord = none ∧
    (w.overlooked = false → ∀ file, w.disk = some file → file.stat = 0)

end Statement

section Records

theorem canonicalNetworkName_canonical {value name : JsString} {runtimeId : RuntimeId}
    (canonical : canonicalNetworkName H value runtimeId = .ok name) :
    canonicalNetworkName H name runtimeId = .ok name := by
  unfold canonicalNetworkName at canonical
  split at canonical
  next published =>
    split at canonical
    next suffixed =>
      cases canonical
      rw [canonicalNetworkName, if_pos published, if_pos suffixed]
    next => cases canonical
  next =>
    cases normalized : normalizedName H value with
    | error error =>
      rw [normalized] at canonical
      cases canonical
    | ok base =>
      rw [normalized] at canonical
      dsimp only at canonical
      split at canonical
      next same =>
        subst same
        have label : Label H base := by
          unfold normalizedName at normalized
          cases named : asNormalizedName H.toUnicode base with
          | error message =>
            rw [named] at normalized
            cases normalized
          | ok name =>
            rw [named] at normalized
            cases normalized
            exact label_of_normalized named
        rw [buildNetworkName_label label] at canonical
        cases canonical
        have valid := @runtimeNameSuffix_valid H runtimeId.val
        have reads : isPublishedNetworkName H
            (published base (H.runtimeNameSuffix runtimeId.val).units) = true :=
          isPublishedNetworkName_iff.mpr ⟨base, _, rfl, label, valid⟩
        rw [canonicalNetworkName, if_pos reads, nameParts, split_published valid]
        exact if_pos rfl
      next => cases canonical

/-- A record of the registry's. -/
structure Owned (owner : Owner H) (record : RuntimeRecord) : Prop where
  runtimeId : record.runtimeId = owner.runtimeId
  roomId : record.roomId = owner.roomId
  canonical : canonicalNetworkName H record.networkName owner.runtimeId = .ok record.networkName

theorem Owned.removable {record : RuntimeRecord} (owned : Owned owner record) (stat : Nat) :
    owner.removable (cleanupOptionsForRecord record) ⟨record, stat⟩ = true := by
  simp [Owner.removable, matchesCleanupExpectation, cleanupOptionsForRecord, owned.runtimeId,
    owned.roomId, owned.canonical]

theorem createRuntimeRecord_owned {name : JsString} {now : Nat} {record : RuntimeRecord}
    (canonical : canonicalNetworkName H name owner.runtimeId = .ok name)
    (created : createRuntimeRecord owner name now = some record) :
    Owned owner record ∧ record.networkName = name := by
  unfold createRuntimeRecord at created
  split at created
  · cases created
  · rw [canonical] at created
    cases created
    exact ⟨⟨rfl, rfl, canonical⟩, rfl⟩

theorem covered_none {expected : List RuntimeRecordCleanupOptions} : Covered owner expected none := nofun

theorem Covered.mono {expected expected' : List RuntimeRecordCleanupOptions}
    {disk : Option RecordFile} (covered : Covered owner expected disk)
    (more : ∀ options ∈ expected, options ∈ expected') : Covered owner expected' disk := by
  intro file held own
  obtain ⟨options, member, removable⟩ := covered file held own
  exact ⟨options, more _ member, removable⟩

/-- A file with one of the records is covered by them. -/
theorem covered_of_mem {records : List RuntimeRecord} {record : RuntimeRecord}
    {disk : Option RecordFile} (owned : Owned owner record) (member : record ∈ records)
    (held : disk.map RecordFile.record = some record) :
    Covered owner (records.map cleanupOptionsForRecord) disk := by
  rintro ⟨found, stat⟩ same -
  subst same
  cases held
  exact ⟨_, List.mem_map_of_mem member, owned.removable stat⟩

/-- What is not the file of the first record is one of the others. -/
theorem Covered.tail {options : RuntimeRecordCleanupOptions}
    {expected : List RuntimeRecordCleanupOptions} {disk : Option RecordFile}
    (covered : Covered owner (options :: expected) disk)
    (other : ∀ file, disk = some file → owner.removable options file = false) :
    Covered owner expected disk := by
  intro file held own
  obtain ⟨candidate, member, removable⟩ := covered file held own
  rcases List.mem_cons.mp member with rfl | member
  · rw [other file held] at removable
    cases removable
  · exact ⟨candidate, member, removable⟩

end Records

section Invariant

/-- The name a publication gives the registry. -/
def Publication.networkName (previous : JsString) : Publication → JsString
  | .renew => previous
  | .updateNetworkName canonical => canonical

/-- Between two queued calls, before `shutdown` removes. -/
structure Steady (owner : Owner H) (w : World) : Prop where
  agrees : ∀ record, w.currentRecord = some record →
    w.onDisk = some record ∧ record.networkName = w.currentNetworkName
  covered : Covered owner (w.cleanupExpectations owner) w.disk

structure AttemptOk (owner : Owner H) (attempt : Attempt) : Prop where
  canonical : canonicalNetworkName H attempt.previousNetworkName owner.runtimeId =
    .ok attempt.previousNetworkName
  previous : ∀ record, attempt.previousRecord = some record →
    Owned owner record ∧ record.networkName = attempt.previousNetworkName

/-- A publication is under way. -/
structure Publishing (owner : Owner H) (w : World) (attempt : Attempt) (record : RuntimeRecord) :
    Prop where
  known : AttemptOk owner attempt
  early : w.shutdown.begun = false
  owned : Owned owner record
  named : record.networkName = w.currentNetworkName
  staged : w.currentNetworkName = attempt.publication.networkName attempt.previousNetworkName
  current : w.currentRecord = attempt.previousRecord
  before : w.onDisk = attempt.before
  agrees : ∀ previous, attempt.previousRecord = some previous → attempt.before = some previous
  covered : Covered owner (w.cleanupExpectations owner) w.disk

/-- A rename has failed. -/
structure Failed (owner : Owner H) (w : World) (attempt : Attempt) : Prop where
  known : AttemptOk owner attempt
  rename : attempt.publication ≠ Publication.renew
  named : w.currentNetworkName = attempt.previousNetworkName

/-- What the file is before the restoration: that of before, or the one that has failed. Once
`shutdown` removes, nothing is published, and nothing unlinked that is not put back. -/
structure Restoring (owner : Owner H) (w : World) (attempt : Attempt)
    (failedRecord : Option RuntimeRecord) : Prop where
  failed : Failed owner w attempt
  owned : ∀ record, failedRecord = some record → Owned owner record
  agrees : w.shutdown.begun = false → ∀ previous, attempt.previousRecord = some previous →
    attempt.before = some previous
  disk : w.shutdown.begun = false →
    w.onDisk = attempt.before ∨ ∃ record, failedRecord = some record ∧ w.onDisk = some record
  late : w.shutdown.begun = true → failedRecord = none ∧ (attempt.previousRecord = none → w.onDisk = attempt.before)

structure Restored (owner : Owner H) (w : World) (attempt : Attempt)
    (failedRecord : Option RuntimeRecord) (restoration : Restoration) : Prop where
  failed : Failed owner w attempt
  thrown : w.shutdown.begun = false → restoration = .thrown →
    Covered owner ((failedRecord.toList ++ attempt.previousRecord.toList).map cleanupOptionsForRecord)
      w.disk
  previous : restoration ≠ .thrown → ∀ previous, attempt.previousRecord = some previous →
    w.onDisk = some previous ∧ (w.shutdown.begun = true → w.shutdown = .rejected)
  forgotten : w.shutdown.begun = false → restoration ≠ .thrown → attempt.previousRecord = none →
    Covered owner [owner.cleanupOptions] w.disk
  completed : restoration = .completed → w.onDisk = attempt.before

def WorkOk (owner : Owner H) (w : World) : Prop :=
  match w.work with
  | .idle => (∀ record, w.currentRecord = some record → record.networkName = w.currentNetworkName) ∧
    (w.shutdown.begun = false → Steady owner w)
  | .publishing attempt record => Publishing owner w attempt record
  | .restoring attempt failedRecord => Restoring owner w attempt failedRecord
  | .restored attempt failedRecord restoration => Restored owner w attempt failedRecord restoration

/-- Whether a queued call runs. -/
def World.running (w : World) : Nat := if w.work = .idle then 0 else 1

def ShutdownOk (owner : Owner H) (w : World) : Prop :=
  match w.shutdown with
  | .unrequested | .stoppingLease => True
  | .awaitingPublication before => (w.work ≠ .idle → 0 < before) ∧
    ∀ publication ∈ w.queue.drop (before - w.running), publication ≠ .renew
  | .removing expected _ => (∀ publication ∈ w.queue, publication ≠ .renew) ∧
    (w.overlooked = false → Covered owner expected w.disk)
  | .locking stat options expected _ => (∀ publication ∈ w.queue, publication ≠ .renew) ∧
    (∀ file, w.disk = some file → file.stat = stat) ∧
    (w.overlooked = false → Covered owner (options :: expected) w.disk)
  | .resolved _ => (∀ publication ∈ w.queue, publication ≠ .renew) ∧ w.currentRecord = none ∧
    (w.overlooked = false → Covered owner [] w.disk)
  | .rejected => ∀ publication ∈ w.queue, publication ≠ .renew

/-- All but what the queued call that runs is about. -/
structure Base (owner : Owner H) (w : World) : Prop where
  named : canonicalNetworkName H w.currentNetworkName owner.runtimeId = .ok w.currentNetworkName
  queued : ∀ name, .updateNetworkName name ∈ w.queue →
    canonicalNetworkName H name owner.runtimeId = .ok name
  current : ∀ record, w.currentRecord = some record → Owned owner record
  shutdown : ShutdownOk owner w
  settled : ∀ s ∈ w.settled, s.Ok

structure Inv (owner : Owner H) (w : World) : Prop extends Base owner w where
  work : WorkOk owner w

theorem Inv.consistent (inv : Inv owner w) : Consistent w where
  settled := inv.settled
  idle at' early := by
    have work := inv.work
    rw [WorkOk, at'] at work
    exact (work.2 early).agrees
  resolved removed at' := by
    have shutdown := inv.shutdown
    rw [ShutdownOk, at'] at shutdown
    obtain ⟨-, current, covered⟩ := shutdown
    refine ⟨current, fun seen file held => ?_⟩
    by_contra own
    obtain ⟨_, member, _⟩ := covered seen file held own
    cases member

theorem inv_initial (found : Option RuntimeRecord) : Inv owner (initial owner found) where
  named := owner.canonical
  queued := nofun
  current := nofun
  shutdown := trivial
  settled := nofun
  work := by
    refine ⟨nofun, fun _ => ⟨nofun, fun file held own => ?_⟩⟩
    cases found with
    | none => cases held
    | some record =>
      cases held
      exact absurd rfl own

end Invariant

section Settling

@[simp]
theorem begun_publicationEnded (shutdown : Shutdown) : shutdown.publicationEnded.begun = shutdown.begun := by
  cases shutdown <;> rfl

/-- A call that ends does not let `shutdown` wait for another one. -/
theorem ShutdownOk.settle {attempt : Attempt} {fulfilled restoreFailed : Bool}
    (shutdown : ShutdownOk owner w) (busy : w.work ≠ .idle) :
    ShutdownOk owner (w.settle attempt fulfilled restoreFailed) := by
  unfold ShutdownOk World.settle at *
  cases at' : w.shutdown with
  | awaitingPublication before =>
    rw [at'] at shutdown
    refine ⟨fun running => absurd rfl running, ?_⟩
    simpa [World.running, busy] using shutdown.2
  | unrequested => trivial
  | stoppingLease => trivial
  | removing expected removed =>
    rw [at'] at shutdown
    exact shutdown
  | locking stat options expected removed =>
    rw [at'] at shutdown
    exact shutdown
  | resolved removed =>
    rw [at'] at shutdown
    exact shutdown
  | rejected =>
    rw [at'] at shutdown
    exact shutdown

theorem Base.settle {attempt : Attempt} {fulfilled restoreFailed : Bool} (base : Base owner w)
    (busy : w.work ≠ .idle) (steady : w.shutdown.begun = false → Steady owner w)
    (ok : Settlement.Ok ⟨attempt, fulfilled, restoreFailed, w.currentNetworkName, w.currentRecord,
      w.onDisk⟩) :
    Inv owner (w.settle attempt fulfilled restoreFailed) where
  named := base.named
  queued := base.queued
  current := base.current
  shutdown := base.shutdown.settle busy
  settled s member := by
    rcases List.mem_append.mp member with before | new
    · exact base.settled s before
    · rw [List.mem_singleton.mp new]
      exact ok
  work := by
    refine ⟨fun record current => (ok.agrees record current).2, fun early => ?_⟩
    rw [World.settle, begun_publicationEnded] at early
    exact ⟨(steady early).agrees, (steady early).covered⟩

end Settling

section Publication

/-- A renewal is asked for before `shutdown` is, and then awaited. -/
theorem ShutdownOk.early (shutdown : ShutdownOk owner w) (queued : .renew ∈ w.queue) :
    w.shutdown.begun = false := by
  unfold ShutdownOk at shutdown
  cases at' : w.shutdown with
  | unrequested => rfl
  | stoppingLease => rfl
  | awaitingPublication before => rfl
  | removing expected removed =>
    rw [at'] at shutdown
    exact absurd rfl (shutdown.1 _ queued)
  | locking stat options expected removed =>
    rw [at'] at shutdown
    exact absurd rfl (shutdown.1 _ queued)
  | resolved removed =>
    rw [at'] at shutdown
    exact absurd rfl (shutdown.1 _ queued)
  | rejected =>
    rw [at'] at shutdown
    exact absurd rfl (shutdown _ queued)

variable {publication : Publication} {rest : List Publication} {work : Work}

/-- A call leaves the queue and runs. -/
theorem ShutdownOk.take (shutdown : ShutdownOk owner w) (idle : w.work = .idle)
    (queue : w.queue = publication :: rest) (awaited : w.shutdown ≠ .awaitingPublication 0)
    (busy : work ≠ .idle) (name : JsString) :
    ShutdownOk owner { w with currentNetworkName := name, queue := rest, work } := by
  have later : ∀ {p : Publication}, p ∈ rest → p ∈ w.queue := by
    intro p member
    rw [queue]
    exact List.mem_cons_of_mem _ member
  unfold ShutdownOk at *
  cases at' : w.shutdown with
  | unrequested => trivial
  | stoppingLease => trivial
  | awaitingPublication before =>
    rw [at'] at shutdown awaited
    cases before with
    | zero => exact absurd rfl awaited
    | succ before =>
      refine ⟨fun _ => Nat.succ_pos _, ?_⟩
      simpa [World.running, idle, busy, queue] using shutdown.2
  | removing expected removed =>
    rw [at'] at shutdown
    exact ⟨fun p member => shutdown.1 p (later member), shutdown.2⟩
  | locking stat options expected removed =>
    rw [at'] at shutdown
    exact ⟨fun p member => shutdown.1 p (later member), shutdown.2⟩
  | resolved removed =>
    rw [at'] at shutdown
    exact ⟨fun p member => shutdown.1 p (later member), shutdown.2⟩
  | rejected =>
    rw [at'] at shutdown
    exact fun p member => shutdown p (later member)

theorem Base.take {name : JsString} (base : Base owner w) (idle : w.work = .idle)
    (queue : w.queue = publication :: rest) (awaited : w.shutdown ≠ .awaitingPublication 0)
    (busy : work ≠ .idle) (canonical : canonicalNetworkName H name owner.runtimeId = .ok name) :
    Base owner { w with currentNetworkName := name, queue := rest, work } where
  named := canonical
  queued name member := base.queued name (queue ▸ List.mem_cons_of_mem _ member)
  current := base.current
  shutdown := base.shutdown.take idle queue awaited busy name
  settled := base.settled

theorem publishCurrentName_cases (owner : Owner H) (w : World) (attempt : Attempt)
    (now : Option Nat) :
    w.publishCurrentName owner attempt now = w.fail attempt none ∨
      ∃ time record, w.shutdown = .unrequested ∧
        createRuntimeRecord owner w.currentNetworkName time = some record ∧
        w.publishCurrentName owner attempt now = { w with work := .publishing attempt record } := by
  unfold World.publishCurrentName
  split
  next => exact .inl rfl
  next open' =>
    cases created : now.bind (createRuntimeRecord owner w.currentNetworkName) with
    | none => exact .inl rfl
    | some record =>
      obtain ⟨time, -, created⟩ := Option.bind_eq_some_iff.mp created
      refine .inr ⟨time, record, ?_, created, rfl⟩
      simp only [Bool.or_eq_true, not_or, World.shutdownRequested] at open'
      simpa using open'.1

theorem Inv.start (inv : Inv owner w) (idle : w.work = .idle) (queue : w.queue = publication :: rest)
    (awaited : w.shutdown ≠ .awaitingPublication 0) (now : Option Nat) :
    Inv owner ({ w with queue := rest }.start owner publication now) := by
  have work := inv.work
  rw [WorkOk, idle] at work
  obtain ⟨named, steady⟩ := work
  have queued : publication ∈ w.queue := queue ▸ List.mem_cons_self
  let attempt : Attempt := {
    publication
    previousNetworkName := w.currentNetworkName
    previousRecord := w.currentRecord
    before := w.onDisk }
  have known : AttemptOk owner attempt :=
    ⟨inv.named, fun record current => ⟨inv.current record current, named record current⟩⟩
  have failing := @Base.take H owner w publication rest (.restoring attempt none) _ inv.toBase idle
    queue awaited nofun inv.named
  -- What is published carries the name that has been staged.
  have publishing : ∀ {name time record}, w.shutdown = .unrequested →
      canonicalNetworkName H name owner.runtimeId = .ok name →
      name = publication.networkName w.currentNetworkName →
      createRuntimeRecord owner name time = some record →
      Inv owner { w with
        currentNetworkName := name, queue := rest, work := .publishing attempt record } := by
    intro name time record unrequested canonical staged created
    have early : w.shutdown.begun = false := by rw [unrequested]; rfl
    have taken := @Base.take H owner w publication rest (.publishing attempt record) _ inv.toBase idle
      queue awaited nofun canonical
    obtain ⟨owned, carries⟩ := createRuntimeRecord_owned canonical created
    refine ⟨taken, known, early, owned, carries, staged, rfl, rfl, fun previous current => ?_, ?_⟩
    · exact ((steady early).agrees previous current).1
    · exact (steady early).covered
  cases publication with
  | renew =>
    have early := inv.shutdown.early queued
    show Inv owner ({ w with queue := rest }.publishCurrentName owner attempt now)
    rcases publishCurrentName_cases owner { w with queue := rest } attempt now with
      failed | ⟨time, record, unrequested, created, published⟩
    · rw [failed]
      refine failing.settle nofun (fun _ => ⟨(steady early).agrees, (steady early).covered⟩) ?_
      exact ⟨(steady early).agrees, nofun, fun _ => rfl, fun _ rename => absurd rfl rename⟩
    · rw [published]
      exact publishing unrequested inv.named rfl created
  | updateNetworkName canonical =>
    show Inv owner ({ w with currentNetworkName := canonical, queue := rest }.publishCurrentName owner
      attempt now)
    rcases publishCurrentName_cases owner
        { w with currentNetworkName := canonical, queue := rest } attempt now with
      failed | ⟨time, record, unrequested, created, published⟩
    · rw [failed]
      refine ⟨failing, ⟨known, nofun, rfl⟩, nofun, fun early previous current => ?_, ?_, ?_⟩
      · exact ((steady early).agrees previous current).1
      · exact fun _ => .inl rfl
      · exact fun _ => ⟨rfl, fun _ => rfl⟩
    · rw [published]
      exact publishing unrequested (inv.queued canonical queued) rfl created

/-- What `shutdown` relies on while a queued call runs: the file and what it has overlooked stay as
they are once it removes, and `current()` stays undefined once it has resolved. -/
theorem ShutdownOk.carry (shutdown : ShutdownOk owner w) (same : w'.shutdown = w.shutdown)
    (queue : w'.queue = w.queue) (busy : w.work ≠ .idle) (busy' : w'.work ≠ .idle)
    (kept : w.shutdown.begun = true → w.shutdown ≠ .rejected →
      w'.disk = w.disk ∧ w'.overlooked = w.overlooked)
    (current : ∀ removed, w.shutdown = .resolved removed → w'.currentRecord = none) :
    ShutdownOk owner w' := by
  unfold ShutdownOk at *
  rw [same]
  cases at' : w.shutdown with
  | unrequested => trivial
  | stoppingLease => trivial
  | awaitingPublication before =>
    rw [at'] at shutdown
    have awaited := shutdown.2
    rw [World.running, if_neg busy] at awaited
    rw [World.running, if_neg busy', queue]
    exact ⟨fun _ => shutdown.1 busy, awaited⟩
  | removing expected removed =>
    rw [at'] at shutdown kept
    obtain ⟨disk, overlooked⟩ := kept rfl nofun
    rw [queue, disk, overlooked]
    exact shutdown
  | locking stat options expected removed =>
    rw [at'] at shutdown kept
    obtain ⟨disk, overlooked⟩ := kept rfl nofun
    rw [queue, disk, overlooked]
    exact shutdown
  | resolved removed =>
    rw [at'] at shutdown kept
    obtain ⟨disk, overlooked⟩ := kept rfl nofun
    rw [queue, disk, overlooked]
    exact ⟨shutdown.1, current removed at', shutdown.2.2⟩
  | rejected =>
    rw [at'] at shutdown
    rw [queue]
    exact shutdown

/-- Before `shutdown` removes, it does not matter to it what is published. -/
theorem ShutdownOk.publish (shutdown : ShutdownOk owner w) (early : w.shutdown.begun = false)
    (same : w'.shutdown = w.shutdown) (queue : w'.queue = w.queue) (busy : w.work ≠ .idle)
    (busy' : w'.work ≠ .idle) : ShutdownOk owner w' := by
  refine shutdown.carry same queue busy busy' (fun begun => ?_) fun removed at' => ?_
  · rw [early] at begun
    cases begun
  · rw [at'] at early
    cases early

theorem fail_renew {attempt : Attempt} (renew : attempt.publication = .renew)
    (attempted : Option RuntimeRecord) : w.fail attempt attempted = w.settle attempt false false := by
  rw [World.fail, renew]

theorem fail_rename {attempt : Attempt} (rename : attempt.publication ≠ .renew)
    (attempted : Option RuntimeRecord) : w.fail attempt attempted =
      { w with
        currentNetworkName := attempt.previousNetworkName
        work := .restoring attempt attempted } := by
  unfold World.fail
  cases publication : attempt.publication with
  | renew => exact absurd publication rename
  | updateNetworkName canonical => rfl

theorem inv_fail {attempt : Attempt} {record : RuntimeRecord} (base : Base owner w)
    (busy : w.work ≠ .idle) (early : w.shutdown.begun = false) (known : AttemptOk owner attempt)
    (staged : w.currentNetworkName = attempt.publication.networkName attempt.previousNetworkName)
    (owned : Owned owner record)
    (agrees : ∀ previous, attempt.previousRecord = some previous → attempt.before = some previous)
    (steady : attempt.publication = .renew → Steady owner w)
    (disk : w.onDisk = attempt.before ∨ w.onDisk = some record) :
    Inv owner (w.fail attempt (some record)) := by
  by_cases renew : attempt.publication = .renew
  · rw [fail_renew renew]
    refine base.settle busy (fun _ => steady renew) ⟨(steady renew).agrees, nofun, fun _ => ?_, ?_⟩
    · rw [renew] at staged
      exact staged
    · exact fun _ rename => absurd renew rename
  · rw [fail_rename renew]
    refine ⟨⟨known.canonical, base.queued, base.current, ?_, base.settled⟩, ⟨known, renew, rfl⟩,
      ?_, fun _ => agrees, fun _ => ?_, fun late => ?_⟩
    · exact base.shutdown.publish early rfl rfl busy nofun
    · rintro _ ⟨⟩
      exact owned
    · exact disk.imp_right fun replaced => ⟨record, rfl, replaced⟩
    · exact absurd early (by simp [late])

/-- The record has been published and committed. -/
theorem Publishing.committed {attempt : Attempt} {record : RuntimeRecord} (base : Base owner w)
    (busy : w.work ≠ .idle) (publishing : Publishing owner w attempt record) :
    Base owner ((w.replace record).commit (some record)) ∧
      Steady owner ((w.replace record).commit (some record)) := by
  refine ⟨⟨base.named, base.queued, ?_, ?_, base.settled⟩, ?_, ?_⟩
  · rintro _ ⟨⟩
    exact publishing.owned
  · exact base.shutdown.publish publishing.early rfl rfl busy busy
  · rintro _ ⟨⟩
    exact ⟨rfl, publishing.named⟩
  · exact covered_of_mem publishing.owned (List.mem_singleton_self _) rfl

theorem Inv.published {attempt : Attempt} {record : RuntimeRecord} {outcome : PublishOutcome}
    (inv : Inv owner w) (at' : w.work = .publishing attempt record)
    (careful : Careful owner w (.published outcome)) :
    Inv owner (w.published attempt record outcome) := by
  have publishing := inv.work
  rw [WorkOk, at'] at publishing
  have busy : w.work ≠ .idle := by
    rw [at']
    nofun
  obtain ⟨base, steady⟩ := publishing.committed inv.toBase busy
  cases outcome with
  | committed =>
    refine base.settle busy (fun _ => steady) ⟨steady.agrees, fun _ => ⟨rfl, ?_⟩, nofun, nofun⟩
    intro name rename
    have staged := publishing.staged
    rw [rename] at staged
    exact staged
  | failedBefore =>
    refine inv_fail inv.toBase busy publishing.early publishing.known publishing.staged
      publishing.owned publishing.agrees (fun renew => ⟨fun current held => ?_, publishing.covered⟩)
      (.inl publishing.before)
    rw [publishing.current] at held
    have staged := publishing.staged
    rw [renew] at staged
    exact ⟨publishing.before.trans (publishing.agrees current held),
      (publishing.known.previous current held).2.trans staged.symm⟩
  | failedAfter =>
    have replaced : Base owner (w.replace record) :=
      ⟨inv.named, inv.queued, inv.current,
        inv.shutdown.publish publishing.early rfl rfl busy busy, inv.settled⟩
    refine inv_fail replaced busy publishing.early publishing.known publishing.staged
      publishing.owned publishing.agrees (fun renew => ?_) (.inr rfl)
    rw [Careful, at'] at careful
    obtain ⟨same, covered⟩ := careful.1 rfl renew
    cases current : w.currentRecord with
    | none =>
      refine ⟨fun other held => ?_, covered current⟩
      rw [World.replace, current] at held
      cases held
    | some other =>
      obtain rfl := same other current
      refine ⟨fun found held => ?_, ?_⟩
      · rw [World.replace, current] at held
        cases held
        exact ⟨rfl, publishing.named⟩
      · rw [World.cleanupExpectations, World.replace]
        simp only [current]
        exact covered_of_mem publishing.owned (List.mem_singleton_self _) rfl
  | failedCommitted =>
    exact inv_fail base busy publishing.early publishing.known publishing.staged publishing.owned
      publishing.agrees (fun _ => steady) (.inr rfl)

end Publication

section Restoration

variable {attempt : Attempt} {failedRecord : Option RuntimeRecord}

/-- The previous record is published again. -/
theorem inv_republish {previous : RuntimeRecord} {restoration : Restoration} (base : Base owner w)
    (at' : w.work = .restoring attempt failedRecord)
    (restoring : Restoring owner w attempt failedRecord)
    (held : attempt.previousRecord = some previous)
    (careful : w.shutdown.begun = true → w.shutdown = .rejected ∧ attempt.before = some previous) :
    Inv owner { w.replace previous with work := .restored attempt failedRecord restoration } := by
  have busy : w.work ≠ .idle := by
    rw [at']
    nofun
  have before : attempt.before = some previous := by
    cases begun : w.shutdown.begun with
    | true => exact (careful begun).2
    | false => exact restoring.agrees begun previous held
  have owned := (restoring.failed.known.previous previous held).1
  refine ⟨⟨base.named, base.queued, base.current, ?_, base.settled⟩, ⟨restoring.failed.known,
    restoring.failed.rename, restoring.failed.named⟩, fun _ _ => ?_, fun _ other same => ?_,
    fun _ _ absent => ?_, fun _ => before.symm⟩
  · refine base.shutdown.carry rfl rfl busy nofun (fun begun other => ?_) fun removed at' => ?_
    · exact absurd (careful begun).1 other
    · have rejected := (careful (by rw [at']; rfl)).1
      rw [at'] at rejected
      cases rejected
  · exact covered_of_mem owned (List.mem_append_right _ (by simp [held])) rfl
  · rw [held] at same
    cases same
    exact ⟨rfl, fun begun => (careful begun).1⟩
  · rw [held] at absent
    cases absent

/-- The restoration leaves the file, or removes it. -/
theorem inv_leave {disk : Option RecordFile} {restoration : Restoration} (base : Base owner w)
    (at' : w.work = .restoring attempt failedRecord)
    (restoring : Restoring owner w attempt failedRecord)
    (kept : w.shutdown.begun = true → disk = w.disk)
    (previous : restoration ≠ .thrown → attempt.previousRecord = none)
    (thrown : w.shutdown.begun = false → restoration = .thrown → Covered owner
      ((failedRecord.toList ++ attempt.previousRecord.toList).map cleanupOptionsForRecord) disk)
    (forgotten : w.shutdown.begun = false → restoration ≠ .thrown →
      Covered owner [owner.cleanupOptions] disk)
    (completed : w.shutdown.begun = false → restoration = .completed →
      disk.map RecordFile.record = attempt.before) :
    Inv owner { w with disk, work := .restored attempt failedRecord restoration } := by
  have busy : w.work ≠ .idle := by
    rw [at']
    nofun
  refine ⟨⟨base.named, base.queued, base.current, ?_, base.settled⟩, ⟨restoring.failed.known,
    restoring.failed.rename, restoring.failed.named⟩, thrown, fun ended other same => ?_,
    fun early ended _ => forgotten early ended, fun ended => ?_⟩
  · refine base.shutdown.carry rfl rfl busy nofun (fun begun _ => ⟨kept begun, rfl⟩) ?_
    intro removed resolved
    have shutdown := base.shutdown
    rw [ShutdownOk, resolved] at shutdown
    exact shutdown.2.1
  · rw [previous ended] at same
    cases same
  · cases begun : w.shutdown.begun with
    | false => exact completed begun ended
    | true =>
      have same := kept begun
      subst same
      exact (restoring.late begun).2 (previous (by rw [ended]; nofun))

/-- The previous record is put back, or it fails to be. -/
theorem Inv.putBack {outcome : FileOutcome} {next : World} {restoration : Restoration} {previous : RuntimeRecord}
    (inv : Inv owner w) (at' : w.work = .restoring attempt failedRecord)
    (held : attempt.previousRecord = some previous)
    (put : outcome = .completed ∨ outcome = .failedAfter → w.shutdown.begun = true →
      w.shutdown = .rejected ∧ attempt.before = some previous)
    (taken : w.restore owner (some previous) failedRecord outcome = some (next, restoration)) :
    Inv owner { next with work := .restored attempt failedRecord restoration } := by
  have restoring := inv.work
  rw [WorkOk, at'] at restoring
  cases outcome with
  | completed =>
    cases taken
    exact inv_republish inv.toBase at' restoring held (put (.inl rfl))
  | overlooked => cases taken
  | failedBefore =>
    cases taken
    refine inv_leave inv.toBase at' restoring (fun _ => rfl) (fun other => absurd rfl other)
      (fun early _ => ?_) (fun _ other => absurd rfl other) nofun
    have before := restoring.agrees early previous held
    rcases restoring.disk early with same | ⟨record, rfl, replaced⟩
    · exact covered_of_mem (restoring.failed.known.previous previous held).1
        (List.mem_append_right _ (by simp [held])) (same.trans before)
    · exact covered_of_mem (restoring.owned record rfl) (by simp) replaced
  | failedAfter =>
    cases taken
    exact inv_republish inv.toBase at' restoring held (put (.inr rfl))

/-- Where the failed record is not at the key, nothing is done. -/
theorem restore_missing {outcome : FileOutcome} {next : World} {restoration : Restoration}
    (missing : holdsFailed owner w failedRecord = false)
    (taken : w.restore owner none failedRecord outcome = some (next, restoration)) :
    outcome = .completed ∧ next = w ∧ restoration = .completed := by
  unfold World.restore at taken
  cases failedRecord with
  | none =>
    dsimp only at taken
    split at taken
    next completed =>
      cases taken
      exact ⟨completed, rfl, rfl⟩
    next => cases taken
  | some failed =>
    rw [holdsFailed, Option.any_some] at missing
    dsimp only at taken
    rw [missing] at taken
    cases outcome with
    | completed =>
      cases taken
      exact ⟨rfl, rfl, rfl⟩
    | overlooked => cases taken
    | failedBefore => cases taken
    | failedAfter => cases taken

/-- There is nothing to put back, and the failed record is not at the key. -/
theorem Inv.leaveFile {outcome : FileOutcome} {next : World} {restoration : Restoration}
    (inv : Inv owner w) (at' : w.work = .restoring attempt failedRecord) (held : attempt.previousRecord = none)
    (undone : w.shutdown.begun = false → Undone owner w attempt failedRecord (.restore outcome))
    (missing : holdsFailed owner w failedRecord = false)
    (taken : w.restore owner none failedRecord outcome = some (next, restoration)) :
    Inv owner { next with work := .restored attempt failedRecord restoration } := by
  have restoring := inv.work
  rw [WorkOk, at'] at restoring
  obtain ⟨rfl, rfl, rfl⟩ := restore_missing missing taken
  refine inv_leave inv.toBase at' restoring (fun _ => rfl) (fun _ => held) nofun
    (fun early _ => (undone early).2 (.inl ⟨rfl, missing⟩)) fun early _ => ?_
  rcases restoring.disk early with same | ⟨record, rfl, replaced⟩
  · exact same
  · -- The failed record would have been found.
    rw [holdsFailed, Option.any_some] at missing
    cases disk : next.disk with
    | none =>
      rw [World.onDisk, disk] at replaced
      cases replaced
    | some file =>
      obtain ⟨record, stat⟩ := file
      rw [World.onDisk, disk] at replaced
      cases replaced
      rw [disk, Option.any_some, (restoring.owned _ rfl).removable] at missing
      cases missing

/-- There is nothing to put back, and the failed record is at the key. -/
theorem Inv.removeFailed {outcome : FileOutcome} {next : World} {restoration : Restoration} {failed : RuntimeRecord}
    (inv : Inv owner w) (at' : w.work = .restoring attempt (some failed)) (held : attempt.previousRecord = none)
    (undone : w.shutdown.begun = false → Undone owner w attempt (some failed) (.restore outcome))
    (found : w.disk.any (owner.removable (cleanupOptionsForRecord failed)) = true)
    (taken : w.restore owner none (some failed) outcome = some (next, restoration)) :
    Inv owner { next with work := .restored attempt (some failed) restoration } := by
  have restoring := inv.work
  rw [WorkOk, at'] at restoring
  have early : w.shutdown.begun = false := by
    cases begun : w.shutdown.begun with
    | false => rfl
    | true => cases (restoring.late begun).1
  have late : w.shutdown.begun ≠ true := by
    rw [early]
    nofun
  have undone := undone early
  have covered : Covered owner [cleanupOptionsForRecord failed] w.disk := by
    intro file same _
    rw [same] at found
    exact ⟨_, List.mem_singleton_self _, found⟩
  unfold World.restore at taken
  dsimp only at taken
  rw [found] at taken
  cases outcome with
  | completed =>
    cases taken
    refine @inv_leave H owner w attempt _ none _ inv.toBase at' restoring
      (fun begun => absurd begun late) (fun _ => held) nofun (fun _ _ => covered_none) fun _ _ => ?_
    exact (undone.1 rfl found).symm
  | overlooked =>
    cases taken
    exact inv_leave inv.toBase at' restoring (fun _ => rfl) (fun _ => held) nofun
      (fun _ _ => undone.2 (.inr rfl)) nofun
  | failedBefore =>
    cases taken
    refine inv_leave inv.toBase at' restoring (fun _ => rfl) (fun _ => held)
      (fun _ _ => covered.mono fun options member => ?_) (fun _ other => absurd rfl other) nofun
    simpa [held] using member
  | failedAfter =>
    cases taken
    exact @inv_leave H owner w attempt _ none _ inv.toBase at' restoring
      (fun begun => absurd begun late) (fun _ => held) (fun _ _ => covered_none)
      (fun _ other => absurd rfl other) nofun

theorem Inv.restore {outcome : FileOutcome} {next : World} {restoration : Restoration}
    (inv : Inv owner w) (at' : w.work = .restoring attempt failedRecord)
    (careful : Careful owner w (.restore outcome))
    (taken : w.restore owner attempt.previousRecord failedRecord outcome = some (next, restoration)) :
    Inv owner { next with work := .restored attempt failedRecord restoration } := by
  rw [Careful, at'] at careful
  obtain ⟨put, undone⟩ := careful.1
  cases held : attempt.previousRecord with
  | some previous =>
    rw [held] at taken
    refine inv.putBack at' held (fun done => put previous held ?_) taken
    exact done.imp (congrArg Event.restore) (congrArg Event.restore)
  | none =>
    rw [held] at taken
    cases found : holdsFailed owner w failedRecord with
    | false => exact inv.leaveFile at' held (undone held) found taken
    | true =>
      cases failedRecord with
      | none => cases found
      | some failed => exact inv.removeFailed at' held (undone held) found taken

/-- Once `shutdown` has resolved, no rename puts a record back. -/
theorem ShutdownOk.endRestore {current : Option RuntimeRecord} {cleanup : List RuntimeRecord}
    (shutdown : ShutdownOk owner w) (busy : w.work ≠ .idle)
    (resolved : ∀ removed, w.shutdown = .resolved removed → current = none) :
    ShutdownOk owner { w with currentRecord := current, shutdownCleanupRecords := cleanup } :=
  shutdown.carry rfl rfl busy busy (fun _ _ => ⟨rfl, rfl⟩) resolved

theorem Inv.restored {restoration : Restoration} (inv : Inv owner w)
    (at' : w.work = .restored attempt failedRecord restoration) :
    Inv owner (w.endRestore attempt failedRecord restoration) := by
  have restored := inv.work
  rw [WorkOk, at'] at restored
  have busy : w.work ≠ .idle := by
    rw [at']
    nofun
  by_cases thrown : restoration = .thrown
  · subst thrown
    have base : Base owner { w with
        currentRecord := none
        shutdownCleanupRecords := failedRecord.toList ++ attempt.previousRecord.toList } :=
      ⟨inv.named, inv.queued, nofun, inv.shutdown.endRestore busy fun _ _ => rfl, inv.settled⟩
    refine base.settle busy (fun early => ⟨nofun, ?_⟩)
      ⟨nofun, nofun, fun _ => restored.failed.named, fun _ _ => nofun⟩
    have covered := restored.thrown early rfl
    rw [World.cleanupExpectations]
    dsimp only
    split
    next empty =>
      rw [empty] at covered
      exact covered.mono nofun
    next => exact covered
  · have base : Base owner (w.commit attempt.previousRecord) := by
      refine ⟨inv.named, inv.queued, fun record held => ?_, ?_, inv.settled⟩
      · exact (restored.failed.known.previous record held).1
      · refine inv.shutdown.endRestore busy fun removed resolved => ?_
        cases held : attempt.previousRecord with
        | none => rfl
        | some previous =>
          have rejected := (restored.previous thrown previous held).2 (by rw [resolved]; rfl)
          rw [resolved] at rejected
          cases rejected
    have agrees : ∀ record, attempt.previousRecord = some record →
        w.onDisk = some record ∧ record.networkName = w.currentNetworkName := by
      intro record held
      exact ⟨(restored.previous thrown record held).1,
        (restored.failed.known.previous record held).2.trans restored.failed.named.symm⟩
    have steady : w.shutdown.begun = false → Steady owner (w.commit attempt.previousRecord) := by
      refine fun early => ⟨agrees, ?_⟩
      rw [World.cleanupExpectations, World.commit]
      dsimp only
      cases held : attempt.previousRecord with
      | none => exact restored.forgotten early thrown held
      | some previous =>
        exact covered_of_mem (restored.failed.known.previous previous held).1
          (List.mem_singleton_self _) (agrees previous held).1
    cases restoration with
    | completed =>
      exact base.settle busy steady
        ⟨agrees, nofun, fun _ => restored.failed.named, fun _ _ _ => restored.completed rfl⟩
    | overlooked =>
      exact base.settle busy steady
        ⟨agrees, nofun, fun _ => restored.failed.named, fun _ _ => nofun⟩
    | thrown => exact absurd rfl thrown

end Restoration

section Calls

variable {publication : Publication}

theorem ShutdownOk.enqueue (shutdown : ShutdownOk owner w)
    (allowed : publication ≠ .renew ∨ w.shutdown = .unrequested) :
    ShutdownOk owner { w with queue := w.queue ++ [publication] } := by
  rcases allowed with rename | unrequested
  · have both {queue : List Publication} (each : ∀ p ∈ queue, p ≠ .renew) :
        ∀ p ∈ queue ++ [publication], p ≠ .renew := by
      intro p member
      rcases List.mem_append.mp member with before | new
      · exact each p before
      · rw [List.mem_singleton.mp new]
        exact rename
    unfold ShutdownOk at *
    cases at' : w.shutdown with
    | unrequested => trivial
    | stoppingLease => trivial
    | awaitingPublication before =>
      rw [at'] at shutdown
      refine ⟨shutdown.1, fun p member => ?_⟩
      dsimp only at member
      rw [List.drop_append] at member
      rcases List.mem_append.mp member with earlier | new
      · exact shutdown.2 p earlier
      · rw [List.mem_singleton.mp (List.mem_of_mem_drop new)]
        exact rename
    | removing expected removed =>
      rw [at'] at shutdown
      exact ⟨both shutdown.1, shutdown.2⟩
    | locking stat options expected removed =>
      rw [at'] at shutdown
      exact ⟨both shutdown.1, shutdown.2⟩
    | resolved removed =>
      rw [at'] at shutdown
      exact ⟨both shutdown.1, shutdown.2⟩
    | rejected =>
      rw [at'] at shutdown
      exact both shutdown
  · rw [ShutdownOk, unrequested]
    trivial

/-- The call that runs does not look at the queue or at the lease. -/
theorem WorkOk.frame (work : WorkOk owner w) (queue : List Publication) (leaseStopped : Bool) :
    WorkOk owner { w with queue, leaseStopped } := by
  unfold WorkOk at *
  cases at' : w.work with
  | idle =>
    rw [at'] at work
    exact ⟨work.1, fun early => ⟨(work.2 early).agrees, (work.2 early).covered⟩⟩
  | publishing attempt record =>
    rw [at'] at work
    exact { work with }
  | restoring attempt failedRecord =>
    rw [at'] at work
    exact { work with failed := { work.failed with } }
  | restored attempt failedRecord restoration =>
    rw [at'] at work
    exact { work with failed := { work.failed with } }

theorem Inv.enqueue (inv : Inv owner w)
    (allowed : publication ≠ .renew ∨ w.shutdown = .unrequested)
    (canonical : ∀ name, publication = .updateNetworkName name →
      canonicalNetworkName H name owner.runtimeId = .ok name) :
    Inv owner { w with queue := w.queue ++ [publication] } where
  named := inv.named
  queued name member := by
    rcases List.mem_append.mp member with before | new
    · exact inv.queued name before
    · exact canonical name (List.mem_singleton.mp new).symm
  current := inv.current
  shutdown := inv.shutdown.enqueue allowed
  settled := inv.settled
  work := inv.work.frame _ w.leaseStopped

/-- `shutdown` waits. -/
theorem WorkOk.wait {shutdown : Shutdown} (work : WorkOk owner w) (early : w.shutdown.begun = false)
    (early' : shutdown.begun = false) (leaseStopped : Bool) :
    WorkOk owner { w with shutdown, leaseStopped } := by
  have late : shutdown.begun ≠ true := by
    rw [early']
    nofun
  unfold WorkOk at *
  cases at' : w.work with
  | idle =>
    rw [at'] at work
    exact ⟨work.1, fun _ => ⟨(work.2 early).agrees, (work.2 early).covered⟩⟩
  | publishing attempt record =>
    rw [at'] at work
    exact { work with early := early' }
  | restoring attempt failedRecord =>
    rw [at'] at work
    exact ⟨{ work.failed with }, work.owned, fun _ => work.agrees early, fun _ => work.disk early,
      fun begun => absurd begun late⟩
  | restored attempt failedRecord restoration =>
    rw [at'] at work
    exact ⟨{ work.failed with }, fun _ => work.thrown early, fun ended previous held =>
      ⟨(work.previous ended previous held).1, fun begun => absurd begun late⟩,
      fun _ => work.forgotten early, work.completed⟩

end Calls

section Removal

/-- `shutdown` removes, while a rename may run. -/
theorem WorkOk.remove (work : WorkOk owner w) (begun : w.shutdown.begun = true)
    (goesOn : w.shutdown ≠ .rejected) (begun' : w'.shutdown.begun = true) (same : w'.work = w.work)
    (name : w'.currentNetworkName = w.currentNetworkName)
    (disk : w'.onDisk = w.onDisk ∨ w.work.putsBack = true)
    (current : ∀ record, w'.currentRecord = some record → w.currentRecord = some record) :
    WorkOk owner w' := by
  have late : w'.shutdown.begun ≠ false := by
    rw [begun']
    nofun
  unfold WorkOk at *
  rw [same]
  cases at' : w.work with
  | idle =>
    rw [at'] at work
    rw [name]
    exact ⟨fun record held => work.1 record (current record held), fun early => absurd early late⟩
  | publishing attempt record =>
    rw [at'] at work
    exact absurd work.early (by simp [begun])
  | restoring attempt failedRecord =>
    rw [at'] at work
    refine ⟨⟨work.failed.known, work.failed.rename, name.trans work.failed.named⟩, work.owned,
      fun early => absurd early late, fun early => absurd early late,
      fun _ => ⟨(work.late begun).1, fun absent => ?_⟩⟩
    rcases disk with kept | putsBack
    · rw [kept]
      exact (work.late begun).2 absent
    · simp [at', Work.putsBack, absent] at putsBack
  | restored attempt failedRecord restoration =>
    rw [at'] at work
    refine ⟨⟨work.failed.known, work.failed.rename, name.trans work.failed.named⟩,
      fun early => absurd early late, fun ended previous held => ?_,
      fun early => absurd early late, fun ended => ?_⟩
    · exact absurd ((work.previous ended previous held).2 begun) goesOn
    · rcases disk with kept | putsBack
      · rw [kept]
        exact work.completed ended
      · -- What it had to put back it has not put back, as `shutdown` goes on.
        simp only [at', Work.putsBack] at putsBack
        obtain ⟨previous, held⟩ := Option.isSome_iff_exists.mp putsBack
        exact absurd ((work.previous (by rw [ended]; nofun) previous held).2 begun) goesOn

/-- A removal goes on to the next record. -/
theorem inv_removing {disk : Option RecordFile} {expected : List RuntimeRecordCleanupOptions}
    {overlooked removed : Bool} (inv : Inv owner w) (begun : w.shutdown.begun = true)
    (goesOn : w.shutdown ≠ .rejected) (kept : disk = w.disk ∨ w.work.putsBack = true)
    (renewals : ∀ publication ∈ w.queue, publication ≠ .renew)
    (covered : overlooked = false → Covered owner expected disk) :
    Inv owner { w with disk, overlooked, shutdown := .removing expected removed } := by
  refine ⟨⟨inv.named, inv.queued, inv.current, ⟨renewals, covered⟩, inv.settled⟩,
    inv.work.remove begun goesOn rfl rfl rfl ?_ fun _ held => held⟩
  exact kept.imp_left fun same => congrArg (Option.map RecordFile.record) same

theorem inv_rejected {disk : Option RecordFile} (inv : Inv owner w) (begun : w.shutdown.begun = true)
    (goesOn : w.shutdown ≠ .rejected) (kept : disk = w.disk ∨ w.work.putsBack = true)
    (renewals : ∀ publication ∈ w.queue, publication ≠ .renew) :
    Inv owner { w with disk, shutdown := .rejected } := by
  refine ⟨⟨inv.named, inv.queued, inv.current, renewals, inv.settled⟩,
    inv.work.remove begun goesOn rfl rfl rfl ?_ fun _ held => held⟩
  exact kept.imp_left fun same => congrArg (Option.map RecordFile.record) same

theorem Inv.look {options : RuntimeRecordCleanupOptions}
    {expected : List RuntimeRecordCleanupOptions} {removed : Bool} (inv : Inv owner w)
    (at' : w.shutdown = .removing (options :: expected) removed) (spoiled : Bool) :
    Inv owner (w.look owner options expected removed spoiled) := by
  have begun : w.shutdown.begun = true := by
    rw [at']
    rfl
  have goesOn : w.shutdown ≠ .rejected := by
    rw [at']
    nofun
  have shutdown := inv.shutdown
  rw [ShutdownOk, at'] at shutdown
  unfold World.look
  cases found : w.disk.filter (owner.removable options) with
  | none =>
    refine inv_removing inv begun goesOn (.inl rfl) shutdown.1 fun seen => ?_
    refine (shutdown.2 seen).tail fun file held => ?_
    rw [held, Option.filter_eq_none_iff] at found
    simpa using found file rfl
  | some file =>
    cases spoiled with
    | true => exact inv_removing inv begun goesOn (.inl rfl) shutdown.1 nofun
    | false =>
      obtain ⟨held, -⟩ := Option.filter_eq_some_iff.mp found
      refine ⟨⟨inv.named, inv.queued, inv.current, ⟨shutdown.1, ?_, shutdown.2⟩, inv.settled⟩,
        inv.work.remove begun goesOn rfl rfl rfl (.inl rfl) fun _ held => held⟩
      intro other same
      rw [held] at same
      cases same
      rfl

theorem Inv.removeLocked {stat : Nat} {options : RuntimeRecordCleanupOptions}
    {expected : List RuntimeRecordCleanupOptions} {removed : Bool} (inv : Inv owner w)
    (at' : w.shutdown = .locking stat options expected removed) (outcome : FileOutcome)
    (careful : Careful owner w (.removeLocked outcome)) :
    Inv owner (w.removeLocked owner stat options expected removed outcome) := by
  have begun : w.shutdown.begun = true := by
    rw [at']
    rfl
  have goesOn : w.shutdown ≠ .rejected := by
    rw [at']
    nofun
  have shutdown := inv.shutdown
  rw [ShutdownOk, at'] at shutdown
  obtain ⟨renewals, same, covered⟩ := shutdown
  unfold World.removeLocked
  cases found : w.disk.filter fun file => file.stat == stat && owner.removable options file with
  | none =>
    have next : Inv owner { w with shutdown := .removing expected removed } := by
      refine inv_removing inv begun goesOn (.inl rfl) renewals fun seen => ?_
      refine (covered seen).tail fun file held => ?_
      rw [held, Option.filter_eq_none_iff] at found
      simpa [same file held] using found file rfl
    cases outcome with
    | completed => exact next
    | overlooked => exact next
    | failedBefore => exact inv_rejected inv begun goesOn (.inl rfl) renewals
    | failedAfter => exact inv_rejected inv begun goesOn (.inl rfl) renewals
  | some file =>
    have putsBack : outcome = .completed ∨ outcome = .failedAfter → w.work.putsBack = true := by
      refine fun unlinks => careful.2 ?_
      simp only [removes, at', found]
      rcases unlinks with rfl | rfl <;> rfl
    cases outcome with
    | completed =>
      exact @inv_removing H owner w none expected w.overlooked true inv begun goesOn
        (.inr (putsBack (.inl rfl))) renewals fun _ => covered_none
    | overlooked => exact inv_removing inv begun goesOn (.inl rfl) renewals nofun
    | failedBefore => exact inv_rejected inv begun goesOn (.inl rfl) renewals
    | failedAfter =>
      exact @inv_rejected H owner w none inv begun goesOn (.inr (putsBack (.inr rfl))) renewals

theorem Inv.resolve {removed : Bool} (inv : Inv owner w) (at' : w.shutdown = .removing [] removed) :
    Inv owner { w.commit none with shutdown := .resolved removed } := by
  have shutdown := inv.shutdown
  rw [ShutdownOk, at'] at shutdown
  refine ⟨⟨inv.named, inv.queued, nofun, ⟨shutdown.1, rfl, shutdown.2⟩, inv.settled⟩,
    inv.work.remove ?_ ?_ rfl rfl rfl (.inl rfl) nofun⟩
  · rw [at']
    rfl
  · rw [at']
    nofun

/-- The removal begins, with the records that the file may hold. -/
theorem Inv.beginRemoval (inv : Inv owner w) (at' : w.shutdown = .awaitingPublication 0) :
    Inv owner { w with shutdown := .removing (w.cleanupExpectations owner) false } := by
  have shutdown := inv.shutdown
  rw [ShutdownOk, at'] at shutdown
  have idle : w.work = .idle := by
    by_contra busy
    exact absurd (shutdown.1 busy) (Nat.lt_irrefl 0)
  have work := inv.work
  rw [WorkOk, idle] at work
  have steady := work.2 (by rw [at']; rfl)
  refine ⟨⟨inv.named, inv.queued, inv.current, ⟨?_, fun _ => steady.covered⟩, inv.settled⟩, ?_⟩
  · simpa using shutdown.2
  · rw [WorkOk]
    dsimp only
    rw [idle]
    exact ⟨work.1, nofun⟩

theorem Inv.leaseStops (inv : Inv owner w) (at' : w.shutdown = .stoppingLease) :
    Inv owner { w with
      shutdown := .awaitingPublication (w.queue.length + if w.work = .idle then 0 else 1) } := by
  refine ⟨⟨inv.named, inv.queued, inv.current, ⟨fun busy => ?_, ?_⟩, inv.settled⟩,
    inv.work.wait (by rw [at']; rfl) rfl w.leaseStopped⟩
  · rw [if_neg busy]
    exact Nat.succ_pos _
  · intro publication member
    simp [World.running] at member

end Removal

/-- One step. -/
theorem Inv.step {event : Event} (inv : Inv owner w) (careful : Careful owner w event)
    (taken : step owner w event = some w') : Inv owner w' := by
  cases event with
  | renew =>
    cases taken
    split
    next => exact inv
    next allowed =>
      refine inv.enqueue (.inr ?_) nofun
      simp only [Bool.or_eq_true, not_or, World.shutdownRequested] at allowed
      simpa using allowed.1
  | updateNetworkName networkName =>
    simp only [RuntimeRegistry.step] at taken
    cases canonical : canonicalNetworkName H networkName owner.runtimeId with
    | error error =>
      rw [canonical] at taken
      cases taken
      exact inv
    | ok name =>
      rw [canonical] at taken
      cases taken
      refine inv.enqueue (.inl nofun) ?_
      rintro _ ⟨⟩
      exact canonicalNetworkName_canonical canonical
  | stopLease =>
    cases taken
    exact ⟨⟨inv.named, inv.queued, inv.current, inv.shutdown, inv.settled⟩, inv.work.frame w.queue true⟩
  | shutdown =>
    cases taken
    split
    next => exact inv
    next requested =>
      have unrequested : w.shutdown = .unrequested := by simpa [World.shutdownRequested] using requested
      exact ⟨⟨inv.named, inv.queued, inv.current, trivial, inv.settled⟩,
        inv.work.wait (by rw [unrequested]; rfl) rfl true⟩
  | start now =>
    simp only [RuntimeRegistry.step] at taken
    split at taken
    next publication queue idle queued =>
      split at taken
      next => cases taken
      next awaited =>
        cases taken
        exact inv.start idle queued awaited now
    next => cases taken
  | published outcome =>
    simp only [RuntimeRegistry.step] at taken
    split at taken
    next attempt record at' =>
      cases taken
      exact inv.published at' careful
    next => cases taken
  | restore outcome =>
    simp only [RuntimeRegistry.step] at taken
    split at taken
    next attempt failedRecord at' =>
      obtain ⟨⟨next, restoration⟩, restored, rfl⟩ := Option.map_eq_some_iff.mp taken
      exact inv.restore at' careful restored
    next => cases taken
  | restored =>
    simp only [RuntimeRegistry.step] at taken
    split at taken
    next attempt failedRecord restoration at' =>
      cases taken
      exact inv.restored at'
    next => cases taken
  | leaseStops =>
    simp only [RuntimeRegistry.step] at taken
    split at taken
    next at' =>
      cases taken
      exact inv.leaseStops at'
    next => cases taken
  | beginRemoval =>
    simp only [RuntimeRegistry.step] at taken
    split at taken
    next at' =>
      cases taken
      exact inv.beginRemoval at'
    next => cases taken
  | look spoiled =>
    simp only [RuntimeRegistry.step] at taken
    split at taken
    next options expected removed at' =>
      cases taken
      exact inv.look at' spoiled
    next => cases taken
  | removeLocked outcome =>
    simp only [RuntimeRegistry.step] at taken
    split at taken
    next stat options expected removed at' =>
      cases taken
      exact inv.removeLocked at' outcome careful
    next => cases taken
  | resolve =>
    simp only [RuntimeRegistry.step] at taken
    split at taken
    next removed at' =>
      cases taken
      exact inv.resolve at'
    next => cases taken

/-- In a run whose steps are all careful, whenever a queued call settles `current()` is undefined or
is the record on disk, under the name of the registry; a rename that fails has put back the name
and, unless it fails to, the record; and when `shutdown` resolves without overlooking a file, no
file of the registry is left. -/
theorem registry_consistent (owner : Owner H)
    (reached : ((registrySystem owner).restrict (Careful owner)).Reachable w) : Consistent w := by
  refine @Inv.consistent H owner w (System.Reachable.invariant ?_ ?_ reached)
  · rintro _ ⟨found, rfl⟩
    exact inv_initial found
  · rintro _ _ _ inv ⟨careful, taken⟩
    exact inv.step careful taken

section Runs

theorem plannerId_uuid : isUuid "11111111-1111-4111-8111-111111111111" = true := by decide +kernel

theorem plannerRoom_valid : isValidRoomId "r1-0123456789abcdef0123456789abcdef" = true := by
  decide +kernel

/-- A runtime on a host that knows ASCII, with one suffix. -/
def planner : Owner (plainHost fun _ => Vector.replicate 32 0) where
  runtimeId := ⟨"11111111-1111-4111-8111-111111111111", plannerId_uuid⟩
  sessionId := "session-a"
  roomId := ⟨"r1-0123456789abcdef0123456789abcdef", plannerRoom_valid⟩
  endpoint := "/tmp/endpoint-a"
  ttlMs := 90000
  networkName := "planner-0000"
  canonical := by decide +kernel

/-- A rename that fails after it has replaced the file puts back the record of before, and
`shutdown` removes it. -/
def renamedBack : List Event :=
  [.renew, .start (some 1000), .published .committed, .updateNetworkName "renamed",
    .start (some 2000), .published .failedAfter, .restore .completed, .restored, .shutdown,
    .leaseStops, .beginRemoval, .look false, .removeLocked .completed, .resolve]

theorem renamedBack_consistent :
    ∃ w, ((registrySystem planner).restrict (Careful planner)).Reachable w ∧
      w.shutdown = .resolved true ∧ w.disk = none ∧ w.settled.length = 2 ∧ Consistent w := by
  have start : ((registrySystem planner).restrict (Careful planner)).Reachable
      (initial planner none) := .init ⟨none, rfl⟩
  have follows : System.followsTo (Careful planner) (step planner)
      (fun w => w.shutdown == .resolved true && w.disk.isNone && w.settled.length == 2)
      (initial planner none) renamedBack = true := by decide +kernel
  obtain ⟨w, follows, ends⟩ := System.follow_of_followsTo follows
  have reached := start.follow (f := step planner) (fun _ _ _ taken => taken) renamedBack follows
  simp only [Bool.and_eq_true, beq_iff_eq, Option.isNone_iff_eq_none] at ends
  exact ⟨w, reached, ends.1.1, ends.1.2, ends.2, registry_consistent planner reached⟩

/-- A renewal fails after it has replaced the file. -/
def renewalReplaces : List Event :=
  [.renew, .start (some 1000), .published .committed, .renew, .start (some 2000),
    .published .failedAfter]

/-- A rename replaces the file, fails, and cannot remove it; the next one fails before it replaces
the file, and forgets it. -/
def leftoverForgotten : List Event :=
  [.updateNetworkName "renamed", .start (some 1000), .published .failedAfter,
    .restore .failedBefore, .restored, .updateNetworkName "other", .start (some 2000),
    .published .failedBefore, .restore .completed, .restored, .shutdown, .leaseStops, .beginRemoval,
    .look false, .resolve]

/-- A rename is called while `shutdown` removes, fails at once and puts the record back. -/
def renamedLate : List Event :=
  [.renew, .start (some 1000), .published .committed, .shutdown, .leaseStops, .beginRemoval,
    .look false, .updateNetworkName "renamed", .start (some 2000), .restore .completed, .restored,
    .removeLocked .completed, .resolve]

/-- The next rename fails after it has replaced the file, and takes away the one of before. -/
def leftoverRemoved : List Event :=
  [.updateNetworkName "renamed", .start (some 1000), .published .failedAfter,
    .restore .failedBefore, .restored, .updateNetworkName "other", .start (some 2000),
    .published .failedAfter, .restore .completed, .restored]

/-- `shutdown` removes such a file while a rename runs. -/
def removedMeanwhile : List Event :=
  [.updateNetworkName "renamed", .start (some 1000), .published .failedAfter,
    .restore .failedBefore, .restored, .shutdown, .leaseStops, .beginRemoval, .look false,
    .updateNetworkName "other", .start (some 2000), .removeLocked .completed, .restore .completed,
    .restored]

theorem reached_end {events : List Event} {p : World → Bool}
    (follows : System.followsTo (fun _ _ => True) (step planner) p (initial planner none) events = true) :
    ∃ w, (registrySystem planner).Reachable w ∧ p w = true := by
  have start : ((registrySystem planner).restrict fun _ _ => True).Reachable
      (initial planner none) := .init ⟨none, rfl⟩
  obtain ⟨w, follows, ends⟩ := System.follow_of_followsTo follows
  have reached := start.follow (f := step planner) (fun _ _ _ taken => taken) events follows
  exact ⟨w, reached.of_restrict, ends⟩

/-- `shutdown` has resolved, has overlooked nothing, and a file of the registry is left. -/
def leaves (w : World) : Bool :=
  w.shutdown == .resolved false && !w.overlooked && w.disk.any (·.stat != 0)

theorem leaves_inconsistent (left : leaves w = true) : ¬Consistent w := by
  intro consistent
  simp only [leaves, Bool.and_eq_true, beq_iff_eq, Bool.not_eq_true'] at left
  obtain ⟨⟨resolved, seen⟩, any⟩ := left
  obtain ⟨file, held, own⟩ := (Option.any_eq_true ..).mp any
  simp [(consistent.resolved false resolved).2 seen file held] at own

/-- A rename has failed, its restoration has not, and the record on disk is not the one of before. -/
def displaces (w : World) : Bool :=
  w.settled.any fun s =>
    !s.fulfilled && s.attempt.publication != .renew && !s.restoreFailed && s.disk != s.attempt.before

theorem displaces_inconsistent (displaced : displaces w = true) : ¬Consistent w := by
  intro consistent
  obtain ⟨s, member, differs⟩ := List.any_eq_true.mp displaced
  simp only [Bool.and_eq_true, Bool.not_eq_true', bne_iff_ne] at differs
  obtain ⟨⟨⟨failed, rename⟩, restored⟩, differs⟩ := differs
  exact differs ((consistent.settled s member).restored failed rename restored)

/-- After a failed renewal `current()` is not the record on disk, after failed renames `shutdown`
leaves a file behind, and a rename that fails may leave another file than that of before. -/
theorem failures_leak :
    (∃ w, (registrySystem planner).Reachable w ∧ w.work = .idle ∧ w.shutdown = .unrequested ∧
      w.currentRecord.isSome = true ∧ w.onDisk ≠ w.currentRecord ∧ ¬Consistent w) ∧
    (∃ w, (registrySystem planner).Reachable w ∧ leaves w = true ∧ ¬Consistent w) ∧
    (∃ w, (registrySystem planner).Reachable w ∧ leaves w = true ∧
      w.settled.map (·.restoreFailed) = [false, false] ∧ ¬Consistent w) ∧
    (∃ w, (registrySystem planner).Reachable w ∧ w.shutdown = .unrequested ∧ displaces w = true ∧ ¬Consistent w) ∧
    ∃ w, (registrySystem planner).Reachable w ∧ w.shutdown.begun = true ∧ displaces w = true ∧ ¬Consistent w := by
  refine ⟨?_, ?_, ?_, ?_, ?_⟩
  · obtain ⟨w, reached, ends⟩ := @reached_end renewalReplaces (fun w => w.work == .idle &&
      w.shutdown == .unrequested && w.currentRecord.isSome && w.onDisk != w.currentRecord)
      (by decide +kernel)
    simp only [Bool.and_eq_true, beq_iff_eq, bne_iff_ne] at ends
    obtain ⟨⟨⟨idle, unrequested⟩, current⟩, differs⟩ := ends
    refine ⟨w, reached, idle, unrequested, current, differs, fun consistent => ?_⟩
    obtain ⟨record, held⟩ := Option.isSome_iff_exists.mp current
    exact differs ((consistent.idle idle (by rw [unrequested]; rfl) record held).1.trans held.symm)
  · obtain ⟨w, reached, left⟩ := @reached_end leftoverForgotten leaves (by decide +kernel)
    exact ⟨w, reached, left, leaves_inconsistent left⟩
  · obtain ⟨w, reached, ends⟩ := @reached_end renamedLate (fun w => leaves w &&
      w.settled.map (·.restoreFailed) == [false, false]) (by decide +kernel)
    simp only [Bool.and_eq_true, beq_iff_eq] at ends
    exact ⟨w, reached, ends.1, ends.2, leaves_inconsistent ends.1⟩
  · obtain ⟨w, reached, ends⟩ := @reached_end leftoverRemoved (fun w => w.shutdown == .unrequested && displaces w)
      (by decide +kernel)
    simp only [Bool.and_eq_true, beq_iff_eq] at ends
    exact ⟨w, reached, ends.1, ends.2, displaces_inconsistent ends.2⟩
  · obtain ⟨w, reached, ends⟩ := @reached_end removedMeanwhile (fun w => w.shutdown.begun && displaces w)
      (by decide +kernel)
    simp only [Bool.and_eq_true] at ends
    exact ⟨w, reached, ends.1, ends.2, displaces_inconsistent ends.2⟩

end Runs

end PiToPi.RuntimeRegistry
