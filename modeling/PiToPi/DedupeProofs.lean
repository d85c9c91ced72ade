import PiToPi.Dedupe

/-!
What one operation does to a dedupe store whose values are objects in a shared
memory: what becomes of the records there were, how far the clock got, and which
objects it made.
-/
namespace PiToPi.DedupeProofs

/-- The objects there are, each holding a JSON value. -/
structure SharedMemory where
  cells : Nat → Json
  next : Nat

/-- A member of an object. -/
def member (value : Json) (name : JsString) : Option Json :=
  match value with
  | .object _ members => members.lookup name
  | _ => none

/-- `isBusyResult`: the code of the value or of its error is `busy`. -/
def isBusyJson (value : Json) : Bool :=
  member value "code" == some (.string "busy") ||
    ((member value "error").bind fun error => member error "code") == some (.string "busy")

/-- `structuredClone` makes an object of its own. -/
def sharedValues : Values Nat SharedMemory where
  clone memory ref :=
    (memory.next,
      { cells := Function.update memory.cells memory.next (memory.cells ref), next := memory.next + 1 })
  isBusyResult memory ref := isBusyJson (memory.cells ref)

abbrev Store := DedupeStore Nat SharedMemory
abbrev Decision := DedupeDecision Nat

/-- What the caller gets. -/
inductive Answer where
  | decided (result : Except DedupeError Decision)
  | found (result : Except DedupeError (Option (DedupeRecord Nat)))
  | producing (reservation : DedupeReservation)
  | other

/-- The objects a record or a decision refers to. -/
def outcomeRefs (result : Option (Option Nat)) (taskReference : Option Nat) : List Nat :=
  result.join.toList ++ taskReference.toList

def recordRefs (record : DedupeRecord Nat) : List Nat :=
  outcomeRefs record.result record.taskReference

def decisionRefs (decision : Decision) : List Nat :=
  outcomeRefs decision.result decision.taskReference ++
    (decision.record.map recordRefs).getD []

def Answer.refs : Answer → List Nat
  | .decided (.ok decision) => decisionRefs decision
  | .found (.ok (some record)) => recordRefs record
  | _ => []

/-! What one operation does to the store. -/

/-- The objects of a stored record. -/
def storedRefs (record : StoredRecord Nat) : List Nat :=
  outcomeRefs record.result record.taskReference

structure WellFormed (s : Store) : Prop where
  stored : ∀ key r, s.records.get? key = some r → r < s.nextRecord ∧ (s.heap r).key = key
  clock : Monotone s.now
  refs : ∀ r < s.nextRecord, ∀ ref ∈ storedRefs (s.heap r), ref < s.memory.next

/-- The record says the same as before, its timer aside. -/
structure SameOutcome (record record' : StoredRecord Nat) : Prop where
  normalized : record'.normalized = record.normalized
  pending : record'.pending = record.pending
  result : record'.result = record.result
  taskReference : record'.taskReference = record.taskReference

theorem SameOutcome.refl (record : StoredRecord Nat) : SameOutcome record record :=
  ⟨rfl, rfl, rfl, rfl⟩

theorem SameOutcome.trans (first : SameOutcome a b) (second : SameOutcome b c) :
    SameOutcome a c :=
  ⟨second.normalized.trans first.normalized, second.pending.trans first.pending,
    second.result.trans first.result, second.taskReference.trans first.taskReference⟩

theorem SameOutcome.refs (same : SameOutcome a b) : storedRefs b = storedRefs a := by
  rw [storedRefs, same.result, same.taskReference, storedRefs]

/-- What becomes of a stored record: it stays as it is, a pending one is
committed or freed, or the clock has reached the end of its retention. -/
inductive Fate (frees commits : JsString → JsString → Prop) (s s' : Store)
    (key : JsString) (r : Nat) : Prop where
  | kept (stored : s'.records.get? key = some r) (same : SameOutcome (s.heap r) (s'.heap r))
  | committed (stored : s'.records.get? key = some r) (pending : (s.heap r).pending = true)
      (commits : commits key (s.heap r).fingerprint)
  | freed (pending : (s.heap r).pending = true) (frees : frees key (s.heap r).fingerprint)
  | expired (made : s.reading < s'.reading)
      (past : (s.heap r).retainedUntil ≤ s.now (s'.reading - 1))

/-- What may become of a record the operation made. -/
def Created (frees : JsString → JsString → Prop) (s s' : Store) (r : Nat) : Prop :=
  s'.records.get? (s'.heap r).key = some r ∨ frees (s'.heap r).key (s'.heap r).fingerprint ∨
    (s.reading < s'.reading ∧ (s'.heap r).retainedUntil ≤ s.now (s'.reading - 1))

/-- The effect of an operation that answered with the objects `answer`. -/
structure Effect (makes : JsString → Prop) (frees commits : JsString → JsString → Prop)
    (answer : List Nat) (s s' : Store) : Prop where
  wellFormed : WellFormed s'
  closed : s'.closed = s.closed
  now : s'.now = s.now
  reading : s.reading ≤ s'.reading
  allocated : s.nextRecord ≤ s'.nextRecord
  named : ∀ r < s.nextRecord, (s'.heap r).normalized = (s.heap r).normalized
  created : ∀ r, s.nextRecord ≤ r → r < s'.nextRecord →
    makes (s'.heap r).key ∧ Created frees s s' r
  fates : ∀ key r, s.records.get? key = some r → Fate frees commits s s' key r
  memory : s.memory.next ≤ s'.memory.next
  cells : ∀ ref < s.memory.next, s'.memory.cells ref = s.memory.cells ref
  fresh : ∀ ref ∈ answer, s.memory.next ≤ ref ∧ ref < s'.memory.next
  /-- The answer shares no object with a record. -/
  isolated : ∀ r < s'.nextRecord, ∀ ref ∈ storedRefs (s'.heap r),
    (r < s.nextRecord ∧ ref ∈ storedRefs (s.heap r)) ∨ (s.memory.next ≤ ref ∧ ref ∉ answer)

section Effects

variable {makes : JsString → Prop} {frees commits : JsString → JsString → Prop}

theorem Effect.refl (well : WellFormed s) : Effect makes frees commits [] s s where
  wellFormed := well
  closed := rfl
  now := rfl
  reading := le_rfl
  allocated := le_rfl
  named _ _ := rfl
  created r new below := absurd below (Nat.not_lt.mpr new)
  fates _ r stored := .kept stored (.refl _)
  memory := le_rfl
  cells _ _ := rfl
  fresh _ absent := by cases absent
  isolated r known ref member := .inl ⟨known, member⟩

/-- What was past its retention at an earlier reading is so at a later one. -/
theorem over_later {s s' : Store} {retained : ℚ} (well : WellFormed s) (made : s'.reading ≤ n)
    (past : retained ≤ s.now (s'.reading - 1)) : retained ≤ s.now (n - 1) :=
  past.trans (well.clock (Nat.sub_le_sub_right made 1))

/-- Operations compose; what the first one answered is not looked at again. -/
theorem Effect.trans (first : Effect makes frees commits a s s') (second : Effect makes frees commits b s' s'')
    (well : WellFormed s) : Effect makes frees commits b s s'' where
  wellFormed := second.wellFormed
  closed := second.closed.trans first.closed
  now := second.now.trans first.now
  reading := first.reading.trans second.reading
  allocated := first.allocated.trans second.allocated
  named r known := (second.named r (known.trans_le first.allocated)).trans (first.named r known)
  created r new below := by
    by_cases old : r < s'.nextRecord
    · obtain ⟨made, fate⟩ := first.created r new old
      have same := second.named r old
      have key' : (s''.heap r).key = (s'.heap r).key := congrArg NormalizedOperation.key same
      have fingerprint' : (s''.heap r).fingerprint = (s'.heap r).fingerprint :=
        congrArg NormalizedOperation.fingerprint same
      have until' : (s''.heap r).retainedUntil = (s'.heap r).retainedUntil :=
        congrArg NormalizedOperation.retainedUntil same
      unfold Created at fate ⊢
      rw [key', fingerprint', until']
      refine ⟨made, ?_⟩
      obtain stored | freed | ⟨reached, past⟩ := fate
      · cases second.fates _ r stored with
        | kept stored' _ => exact .inl stored'
        | committed stored' _ _ => exact .inl stored'
        | freed _ freed => exact .inr (.inl freed)
        | expired reached past =>
          rw [first.now] at past
          exact .inr (.inr ⟨first.reading.trans_lt reached, past⟩)
      · exact .inr (.inl freed)
      · exact .inr (.inr ⟨reached.trans_le second.reading, over_later well second.reading past⟩)
    · obtain ⟨made, fate⟩ := second.created r (Nat.le_of_not_lt old) below
      refine ⟨made, ?_⟩
      obtain stored | freed | ⟨reached, past⟩ := fate
      · exact .inl stored
      · exact .inr (.inl freed)
      · rw [first.now] at past
        exact .inr (.inr ⟨first.reading.trans_lt reached, past⟩)
  fates key r stored := by
    have same := first.named r (well.stored key r stored).1
    have until' : (s'.heap r).retainedUntil = (s.heap r).retainedUntil :=
      congrArg NormalizedOperation.retainedUntil same
    have fingerprint' : (s'.heap r).fingerprint = (s.heap r).fingerprint :=
      congrArg NormalizedOperation.fingerprint same
    cases first.fates key r stored with
    | kept stored' same =>
      cases second.fates key r stored' with
      | kept stored'' same' => exact .kept stored'' (same.trans same')
      | committed stored'' pending commits =>
        rw [fingerprint'] at commits
        exact .committed stored'' (same.pending ▸ pending) commits
      | freed pending frees =>
        rw [fingerprint'] at frees
        exact .freed (same.pending ▸ pending) frees
      | expired made past =>
        rw [until', first.now] at past
        exact .expired (first.reading.trans_lt made) past
    | committed stored' pending commits =>
      cases second.fates key r stored' with
      | kept stored'' same' => exact .committed stored'' pending commits
      | committed stored'' _ _ => exact .committed stored'' pending commits
      | freed _ frees =>
        rw [fingerprint'] at frees
        exact .freed pending frees
      | expired made past =>
        rw [until', first.now] at past
        exact .expired (first.reading.trans_lt made) past
    | freed pending frees => exact .freed pending frees
    | expired made past =>
      exact .expired (made.trans_le second.reading)
        (over_later well second.reading past)
  memory := first.memory.trans second.memory
  cells ref known := (second.cells ref (known.trans_le first.memory)).trans (first.cells ref known)
  fresh ref member := by
    obtain ⟨low, high⟩ := second.fresh ref member
    exact ⟨first.memory.trans low, high⟩
  isolated r known ref member := by
    obtain ⟨known', member'⟩ | ⟨new, absent⟩ := second.isolated r known ref member
    · obtain old | ⟨new, _⟩ := first.isolated r known' ref member'
      · exact .inl old
      · refine .inr ⟨new, fun answered => ?_⟩
        have below := first.wellFormed.refs r known' ref member'
        exact absurd below (Nat.not_lt.mpr (second.fresh ref answered).1)
    · exact .inr ⟨first.memory.trans new, absent⟩

/-- Reading the clock. -/
theorem effect_readNow (well : WellFormed s) : Effect makes frees commits [] s s.readNow.2 where
  wellFormed := ⟨well.stored, well.clock, well.refs⟩
  closed := rfl
  now := rfl
  reading := Nat.le_succ _
  allocated := le_rfl
  named _ _ := rfl
  created r new below := absurd below (Nat.not_lt.mpr new)
  fates _ r stored := .kept stored (.refl _)
  memory := le_rfl
  cells _ _ := rfl
  fresh _ absent := by cases absent
  isolated r known ref member := .inl ⟨known, member⟩

/-- A change to a timer. -/
theorem effect_timer (well : WellFormed s) (record : Nat) (timer : Option ℚ) :
    Effect makes frees commits [] s (s.update record fun r => { r with timer }) := by
  have same : ∀ r, SameOutcome (s.heap r) ((s.update record fun r => { r with timer }).heap r) := by
    intro r
    by_cases this : r = record
    · subst this
      simp only [DedupeStore.update, Function.update_self]
      exact ⟨rfl, rfl, rfl, rfl⟩
    · simp only [DedupeStore.update, Function.update_of_ne this]
      exact .refl _
  refine ⟨⟨?_, well.clock, ?_⟩, rfl, rfl, le_rfl, le_rfl, fun r _ => (same r).normalized,
    fun r new below => absurd below (Nat.not_lt.mpr new), ?_, le_rfl, fun _ _ => rfl, nofun, ?_⟩
  · intro key r stored
    obtain ⟨known, named⟩ := well.stored key r stored
    exact ⟨known, (congrArg NormalizedOperation.key (same r).normalized).trans named⟩
  · intro r known
    rw [(same r).refs]
    exact well.refs r known
  · exact fun key r stored => .kept stored (same r)
  · intro r known ref member
    rw [(same r).refs] at member
    exact .inl ⟨known, member⟩

/-- Removing a record that is to be freed or past its retention. -/
theorem Effect.remove (effect : Effect makes frees commits a s s') (well : WellFormed s) (record : Nat)
    (why : ((s'.heap record).pending = true ∧
        frees (s'.heap record).key (s'.heap record).fingerprint) ∨
      (s.reading < s'.reading ∧ (s'.heap record).retainedUntil ≤ s.now (s'.reading - 1))) :
    Effect makes frees commits a s (s'.removeRecord record) := by
  unfold DedupeStore.removeRecord
  dsimp only
  split
  · exact effect
  rename_i present
  have present : s'.records.get? (s'.heap record).key = some record := by simpa using present
  have untimed : Effect makes frees commits [] s' (s'.update record fun r => { r with timer := none }) :=
    effect_timer effect.wellFormed record none
  have kept : ∀ key r, (s'.records.delete (s'.heap record).key).get? key = some r →
      s'.records.get? key = some r :=
    fun key r stored => (JsMap.get?_delete_eq_some_iff.mp stored).2
  have same : ∀ r, SameOutcome (s'.heap r)
      ((s'.update record fun r => { r with timer := none }).heap r) := by
    intro r
    by_cases this : r = record
    · subst this
      simp only [DedupeStore.update, Function.update_self]
      exact ⟨rfl, rfl, rfl, rfl⟩
    · simp only [DedupeStore.update, Function.update_of_ne this]
      exact .refl _
  refine ⟨⟨?_, effect.wellFormed.clock, untimed.wellFormed.refs⟩, effect.closed, effect.now,
    effect.reading, effect.allocated, ?_, ?_, ?_, effect.memory, effect.cells, effect.fresh, ?_⟩
  · exact fun key r stored => untimed.wellFormed.stored key r (kept key r stored)
  · exact fun r known => (same r).normalized.trans (effect.named r known)
  · intro r new below
    obtain ⟨made, fate⟩ := effect.created r new below
    unfold Created at fate ⊢
    simp only [StoredRecord.key, StoredRecord.fingerprint, StoredRecord.retainedUntil] at made fate ⊢
    rw [(same r).normalized]
    refine ⟨made, ?_⟩
    obtain stored | freed | past := fate
    · by_cases gone : (s'.heap r).normalized.key = (s'.heap record).key
      · rw [gone, present] at stored
        obtain rfl := Option.some.inj stored
        obtain ⟨-, freed⟩ | past := why
        · exact .inr (.inl freed)
        · exact .inr (.inr past)
      · exact .inl ((JsMap.get?_delete_ne gone).trans stored)
    · exact .inr (.inl freed)
    · exact .inr (.inr past)
  · intro key r stored
    by_cases gone : key = (s'.heap record).key
    · -- the record under this key is the one removed, if it is still there at all
      have removed : s'.records.get? key = some r →
          ((s'.heap r).pending = true → (s.heap r).pending = true) →
          Fate frees commits s { s'.update record (fun r => { r with timer := none }) with
            records := s'.records.delete (s'.heap record).key } key r := by
        intro stored' pending
        rw [gone, present] at stored'
        obtain rfl := Option.some.inj stored'
        have normalized := effect.named record (well.stored key record stored).1
        have fingerprint : (s'.heap record).fingerprint = (s.heap record).fingerprint :=
          congrArg NormalizedOperation.fingerprint normalized
        have retained : (s'.heap record).retainedUntil = (s.heap record).retainedUntil :=
          congrArg NormalizedOperation.retainedUntil normalized
        obtain ⟨waiting, freed⟩ | ⟨made, past⟩ := why
        · rw [← gone, fingerprint] at freed
          exact .freed (pending waiting) freed
        · rw [retained] at past
          exact .expired made past
      cases effect.fates key r stored with
      | kept stored' same' => exact removed stored' fun waiting => same'.pending ▸ waiting
      | committed stored' pending commits => exact removed stored' fun _ => pending
      | freed pending frees => exact .freed pending frees
      | expired made past => exact .expired made past
    · cases effect.fates key r stored with
      | kept stored' same' =>
        exact .kept ((JsMap.get?_delete_ne gone).trans stored') (same'.trans (same r))
      | committed stored' pending commits =>
        exact .committed ((JsMap.get?_delete_ne gone).trans stored') pending commits
      | freed pending frees => exact .freed pending frees
      | expired made past => exact .expired made past
  · intro r known ref member
    rw [(same r).refs] at member
    exact effect.isolated r known ref member

theorem removeRecord_reading (s : Store) (record : Nat) :
    (s.removeRecord record).reading = s.reading := by
  unfold DedupeStore.removeRecord
  dsimp only
  split <;> rfl

theorem foldl_prune (effect : Effect makes frees commits a s s') (well : WellFormed s) (made : s.reading < s'.reading)
    (values : List Nat) :
    Effect makes frees commits a s (values.foldl (fun record' record =>
      if (record'.heap record).retainedUntil ≤ s.now (s'.reading - 1) then
        record'.removeRecord record
      else record') s') := by
  suffices folded : ∀ s'', Effect makes frees commits a s s'' → s''.reading = s'.reading →
      Effect makes frees commits a s (values.foldl (fun record' record =>
        if (record'.heap record).retainedUntil ≤ s.now (s'.reading - 1) then
          record'.removeRecord record
        else record') s'') from folded s' effect rfl
  induction values with
  | nil => exact fun _ effect _ => effect
  | cons record values ih =>
    intro s'' effect same
    rw [List.foldl_cons]
    split
    · rename_i past
      refine ih _ (effect.remove well record (.inr ⟨same ▸ made, same ▸ past⟩)) ?_
      rw [removeRecord_reading, same]
    · exact ih _ effect same

theorem effect_prune (well : WellFormed s) : Effect makes frees commits [] s s.prune :=
  foldl_prune (effect_readNow well) well (Nat.lt_succ_self _) _

theorem pruneAt_reading (s : Store) (nowMs : ℚ) : (s.pruneAt nowMs).reading = s.reading := by
  unfold DedupeStore.pruneAt
  generalize s.records.values = values
  induction values generalizing s with
  | nil => rfl
  | cons record values ih =>
    rw [List.foldl_cons, ih]
    split
    · exact removeRecord_reading s record
    · rfl

theorem prune_reading (s : Store) : s.prune.reading = s.reading + 1 :=
  pruneAt_reading s.readNow.2 _

/-- What has not reached the end of its retention survives pruning unchanged. -/
theorem prune_keeps (well : WellFormed s) (stored : s.records.get? key = some r)
    (ahead : s.now s.reading < (s.heap r).retainedUntil) :
    s.prune.records.get? key = some r ∧ SameOutcome (s.heap r) (s.prune.heap r) := by
  have pruned : Effect (fun _ => False) (fun _ _ => False) (fun _ _ => False) [] s s.prune := effect_prune well
  cases pruned.fates key r stored with
  | kept stored' same => exact ⟨stored', same⟩
  | committed _ _ commits => exact commits.elim
  | freed _ frees => exact frees.elim
  | expired made past =>
    rw [prune_reading, Nat.add_sub_cancel] at past
    exact absurd ahead (not_lt.mpr past)

/-- A key is free after pruning only when its record was past its retention. -/
theorem free_of_prune (well : WellFormed s) (absent : s.prune.records.get? key = none)
    (stored : s.records.get? key = some r) : (s.heap r).retainedUntil ≤ s.now s.reading := by
  by_contra ahead
  obtain ⟨kept, -⟩ := prune_keeps well stored (not_le.mp ahead)
  rw [absent] at kept
  cases kept

theorem free_of_prune_prune (well : WellFormed s) (absent : s.prune.prune.records.get? key = none)
    (stored : s.records.get? key = some r) : (s.heap r).retainedUntil ≤ s.now (s.reading + 1) := by
  by_contra ahead
  have ahead := not_le.mp ahead
  have pruned : Effect (fun _ => False) (fun _ _ => False) (fun _ _ => False) [] s s.prune :=
    effect_prune well
  obtain ⟨kept, same⟩ := prune_keeps well stored ((well.clock (Nat.le_succ _)).trans_lt ahead)
  have past := free_of_prune pruned.wellFormed absent kept
  rw [pruned.now, prune_reading, StoredRecord.retainedUntil, same.normalized] at past
  exact absurd ahead (not_lt.mpr past)

/-- Scheduling a record removes it only when the clock is past its retention. -/
theorem Effect.schedule (effect : Effect makes frees commits a s s') (well : WellFormed s)
    (record : Nat) : Effect makes frees commits [] s (s'.schedule record) := by
  have read : Effect makes frees commits [] s s'.readNow.2 :=
    effect.trans (effect_readNow effect.wellFormed) well
  unfold DedupeStore.schedule
  dsimp only
  split
  · rename_i past
    refine read.remove well record (.inr ⟨Nat.lt_succ_of_le effect.reading, ?_⟩)
    have past : (s'.heap record).retainedUntil - s'.now s'.reading ≤ 0 := past
    rw [effect.now] at past
    exact sub_nonpos.mp past
  · exact read.trans (effect_timer read.wellFormed record _) well

theorem effect_timerCallback (well : WellFormed s) (record : Nat) :
    Effect makes frees commits [] s (s.timer record) := by
  unfold DedupeStore.timer
  split
  · exact .refl well
  have cleared : Effect makes frees commits [] s (s.update record fun r => { r with timer := none }) :=
    effect_timer well record none
  dsimp only
  split
  · exact cleared
  have read : Effect makes frees commits [] s
      (s.update record fun r => { r with timer := none }).readNow.2 :=
    cleared.trans (effect_readNow cleared.wellFormed) well
  split
  · rename_i past
    exact read.remove well record (.inr ⟨Nat.lt_succ_self _, past⟩)
  · exact read.schedule well record

/-- A new pending record under a free key. -/
theorem Effect.insert (effect : Effect makes frees commits [] s s') (well : WellFormed s)
    (normalized : NormalizedOperation) (free : s'.records.get? normalized.key = none)
    (allowed : makes normalized.key) :
    Effect makes frees commits [] s (s'.insert normalized) := by
  refine Effect.schedule (a := []) ?_ well _
  have old : ∀ r < s'.nextRecord, Function.update s'.heap s'.nextRecord
      ⟨normalized, true, none, none, none⟩ r = s'.heap r :=
    fun r known => Function.update_of_ne (Nat.ne_of_lt known) _ _
  refine ⟨⟨?_, effect.wellFormed.clock, ?_⟩, effect.closed, effect.now, effect.reading,
    effect.allocated.trans (Nat.le_succ _), ?_, ?_, ?_, effect.memory, effect.cells, effect.fresh, ?_⟩
  · intro key r stored
    dsimp only at stored ⊢
    rw [JsMap.get?_set] at stored
    by_cases this : key = normalized.key
    · rw [if_pos this] at stored
      cases stored
      exact ⟨Nat.lt_succ_self _, by simp [this, StoredRecord.key]⟩
    · rw [if_neg this] at stored
      obtain ⟨known, named⟩ := effect.wellFormed.stored key r stored
      exact ⟨Nat.lt_succ_of_lt known, by rw [old r known, named]⟩
  · intro r known ref member
    dsimp only at known member ⊢
    obtain known | rfl := Nat.lt_succ_iff_lt_or_eq.mp known
    · rw [old r known] at member
      exact effect.wellFormed.refs r known ref member
    · simp [storedRefs, outcomeRefs] at member
  · intro r known
    dsimp only
    rw [old r (known.trans_le effect.allocated)]
    exact effect.named r known
  · intro r new below
    unfold Created
    dsimp only at below ⊢
    obtain below | rfl := Nat.lt_succ_iff_lt_or_eq.mp below
    · obtain ⟨made, fate⟩ := effect.created r new below
      rw [old r below]
      refine ⟨made, ?_⟩
      obtain stored | freed | past := fate
      · refine .inl ((JsMap.get?_set_ne ?_).trans stored)
        intro same
        rw [same, free] at stored
        cases stored
      · exact .inr (.inl freed)
      · exact .inr (.inr past)
    · simp [StoredRecord.key, allowed]
  · intro key r stored
    have other : s'.records.get? key = some r → key ≠ normalized.key := by
      rintro stored' rfl
      rw [free] at stored'
      cases stored'
    have known : r < s'.nextRecord := (well.stored key r stored).1.trans_le effect.allocated
    cases effect.fates key r stored with
    | kept stored' same =>
      refine .kept ((JsMap.get?_set_ne (other stored')).trans stored') ?_
      dsimp only
      rwa [old r known]
    | committed stored' pending commits =>
      exact .committed ((JsMap.get?_set_ne (other stored')).trans stored') pending commits
    | freed pending frees => exact .freed pending frees
    | expired made past => exact .expired made past
  · intro r known ref member
    dsimp only at known member
    obtain known | rfl := Nat.lt_succ_iff_lt_or_eq.mp known
    · rw [old r known] at member
      exact effect.isolated r known ref member
    · simp [storedRefs, outcomeRefs] at member

end Effects

/-! Clones. -/

/-- What an object holds, or nothing for `undefined`. -/
def content (memory : SharedMemory) (value : Option Nat) : Option Json := value.map memory.cells

/-- Only new objects were made, `refs` among them. -/
structure Clones (refs : List Nat) (memory memory' : SharedMemory) : Prop where
  next : memory.next ≤ memory'.next
  cells : ∀ ref < memory.next, memory'.cells ref = memory.cells ref
  fresh : ∀ ref ∈ refs, memory.next ≤ ref ∧ ref < memory'.next

theorem Clones.refl (memory : SharedMemory) : Clones [] memory memory :=
  ⟨le_rfl, fun _ _ => rfl, nofun⟩

theorem Clones.trans (first : Clones a m m') (second : Clones b m' m'') :
    Clones (a ++ b) m m'' where
  next := first.next.trans second.next
  cells ref known := (second.cells ref (known.trans_le first.next)).trans (first.cells ref known)
  fresh ref member := by
    obtain member | member := List.mem_append.mp member
    · obtain ⟨low, high⟩ := first.fresh ref member
      exact ⟨low, high.trans_le second.next⟩
    · obtain ⟨low, high⟩ := second.fresh ref member
      exact ⟨first.next.trans low, high⟩

theorem Clones.mono (clones : Clones a m m') (fewer : ∀ ref ∈ b, ref ∈ a) : Clones b m m' :=
  ⟨clones.next, clones.cells, fun ref member => clones.fresh ref (fewer ref member)⟩

theorem Clones.content (clones : Clones a m m') (known : ∀ ref ∈ value, ref < m.next) :
    content m' value = content m value := by
  cases value with
  | none => rfl
  | some ref => exact congrArg some (clones.cells ref (known ref rfl))

/-- What a member holds that may be missing. -/
def contents (memory : SharedMemory) (value : Option (Option Nat)) : Option (Option Json) :=
  value.map (content memory)

theorem Clones.contents (clones : Clones a m m') (known : ∀ ref ∈ value.join.toList, ref < m.next) :
    contents m' value = contents m value := by
  cases value with
  | none => rfl
  | some value =>
    exact congrArg some (clones.content fun ref held => known ref (Option.mem_toList.mpr held))

theorem cloneValue_clones (m : SharedMemory) (value : Option Nat) :
    Clones (cloneValue sharedValues m value).1.toList m (cloneValue sharedValues m value).2 ∧
      content (cloneValue sharedValues m value).2 (cloneValue sharedValues m value).1 =
        content m value := by
  cases value with
  | none => exact ⟨.refl m, rfl⟩
  | some ref =>
    refine ⟨⟨Nat.le_succ _, ?_, ?_⟩, ?_⟩
    · exact fun other known => Function.update_of_ne (Nat.ne_of_lt known) _ _
    · intro other member
      obtain rfl : other = m.next := by simpa [cloneValue, sharedValues] using member
      exact ⟨le_rfl, Nat.lt_succ_self _⟩
    · simp [cloneValue, sharedValues, content]

theorem cloneMember_clones (m : SharedMemory) (value : Option (Option Nat)) :
    Clones (cloneMember sharedValues m value).1.join.toList m (cloneMember sharedValues m value).2 ∧
      contents (cloneMember sharedValues m value).2 (cloneMember sharedValues m value).1 =
        contents m value := by
  cases value with
  | none => exact ⟨.refl m, rfl⟩
  | some value =>
    obtain ⟨clones, same⟩ := cloneValue_clones m value
    exact ⟨clones, congrArg some same⟩

theorem snapshotRecord_clones (m : SharedMemory) (record : StoredRecord Nat) :
    Clones (recordRefs (snapshotRecord sharedValues m record).1) m
      (snapshotRecord sharedValues m record).2 :=
  (cloneMember_clones m record.result).1.trans (cloneValue_clones _ record.taskReference).1

/-- The decision about a stored record, for a request with `fingerprint`. -/
theorem existingDecision_spec (m : SharedMemory) (record : StoredRecord Nat) (fingerprint : JsString)
    (known : ∀ ref ∈ storedRefs record, ref < m.next) :
    let decided := existingDecision sharedValues m record fingerprint
    Clones (decisionRefs decided.1) m decided.2 ∧ decided.1.key = some record.key ∧
      decided.1.kind = (if record.fingerprint ≠ fingerprint then .duplicate
        else if record.pending then .pending else .replay) ∧
      (decided.1.kind = .replay →
        contents decided.2 decided.1.result = contents m record.result) := by
  have snapshot := snapshotRecord_clones m record
  unfold existingDecision
  dsimp only
  split
  · refine ⟨snapshot.mono fun ref member => ?_, rfl, rfl, nofun⟩
    simpa [decisionRefs, outcomeRefs, namedDecision] using member
  split
  · refine ⟨snapshot.mono fun ref member => ?_, rfl, rfl, nofun⟩
    simpa [decisionRefs, outcomeRefs, namedDecision] using member
  obtain ⟨result, resultSame⟩ :=
    cloneMember_clones (snapshotRecord sharedValues m record).2 record.result
  obtain ⟨reference, _⟩ := cloneValue_clones
    (cloneMember sharedValues (snapshotRecord sharedValues m record).2 record.result).2
    record.taskReference
  refine ⟨((snapshot.trans result).trans reference).mono fun ref member => ?_, rfl, rfl, fun _ => ?_⟩
  · obtain member | member := List.mem_append.mp (show ref ∈ outcomeRefs _ _ ++ recordRefs _ from member)
    · obtain member | member := List.mem_append.mp (show ref ∈ _ ++ _ from member)
      · exact List.mem_append_left _ (List.mem_append_right _ member)
      · exact List.mem_append_right _ member
    · exact List.mem_append_left _ (List.mem_append_left _ member)
  · calc contents _ _
      _ = contents _ (cloneMember sharedValues (snapshotRecord sharedValues m record).2 record.result).1 :=
        reference.contents fun ref member => (result.fresh ref member).2
      _ = contents (snapshotRecord sharedValues m record).2 record.result := resultSame
      _ = contents m record.result :=
        snapshot.contents fun ref member => known ref (List.mem_append_left _ member)

/-- Committing copies the outcome in, and what is handed out copies it again. -/
theorem commitRecord_spec (m : SharedMemory) (record : StoredRecord Nat)
    (result taskReference : Option Nat) :
    let committed := commitRecord sharedValues m record result taskReference
    committed.1.kind = .stored ∧ committed.1.key = some record.key ∧
      committed.2.1.normalized = record.normalized ∧ committed.2.1.pending = false ∧
      contents committed.2.2 committed.2.1.result = some (content m result) ∧
      contents committed.2.2 committed.1.result = some (content m result) ∧
      ∃ middle, Clones (storedRefs committed.2.1) m middle ∧
        Clones (decisionRefs committed.1) middle committed.2.2 := by
  obtain ⟨first, firstSame⟩ := cloneValue_clones m result
  obtain ⟨second, _⟩ := cloneValue_clones (cloneValue sharedValues m result).2 taskReference
  have copied := first.trans second
  -- the record as committed, and the memory its objects are in
  let middle := (cloneValue sharedValues (cloneValue sharedValues m result).2 taskReference).2
  let record' : StoredRecord Nat :=
    { record with
      pending := false
      result := some (cloneValue sharedValues m result).1
      taskReference := (cloneValue sharedValues (cloneValue sharedValues m result).2 taskReference).1 }
  obtain ⟨third, thirdSame⟩ := cloneMember_clones middle record'.result
  obtain ⟨fourth, _⟩ :=
    cloneValue_clones (cloneMember sharedValues middle record'.result).2 record'.taskReference
  have fifth := snapshotRecord_clones
    (cloneValue sharedValues (cloneMember sharedValues middle record'.result).2
      record'.taskReference).2 record'
  have handed := (third.trans fourth).trans fifth
  have stored : contents middle record'.result = some (content m result) := by
    refine congrArg some ?_
    rw [← firstSame]
    exact second.content fun ref held => (first.fresh ref (Option.mem_toList.mpr held)).2
  refine ⟨rfl, rfl, rfl, rfl, ?_, ?_, middle, copied, handed⟩
  · rw [← stored]
    refine handed.contents fun ref member => ?_
    exact (copied.fresh ref (List.mem_append_left _ member)).2
  · rw [← stored, ← thirdSame]
    exact (fourth.trans fifth).contents fun ref member => (third.fresh ref member).2

section MoreEffects

variable {makes : JsString → Prop} {frees commits : JsString → JsString → Prop}

/-- Handing out copies. -/
theorem Effect.clones (effect : Effect makes frees commits a s s')
    (clones : Clones refs s'.memory m) :
    Effect makes frees commits refs s { s' with memory := m } where
  wellFormed := ⟨effect.wellFormed.stored, effect.wellFormed.clock, fun r known ref member =>
    (effect.wellFormed.refs r known ref member).trans_le clones.next⟩
  closed := effect.closed
  now := effect.now
  reading := effect.reading
  allocated := effect.allocated
  named := effect.named
  created := effect.created
  fates key r stored := by
    cases effect.fates key r stored with
    | kept stored' same => exact .kept stored' same
    | committed stored' pending commits => exact .committed stored' pending commits
    | freed pending frees => exact .freed pending frees
    | expired made past => exact .expired made past
  memory := effect.memory.trans clones.next
  cells ref known :=
    (clones.cells ref (known.trans_le effect.memory)).trans (effect.cells ref known)
  fresh ref member := by
    obtain ⟨low, high⟩ := clones.fresh ref member
    exact ⟨effect.memory.trans low, high⟩
  isolated r known ref member := by
    obtain old | ⟨new, _⟩ := effect.isolated r known ref member
    · exact .inl old
    · refine .inr ⟨new, fun answered => ?_⟩
      have below := effect.wellFormed.refs r known ref member
      exact absurd below (Nat.not_lt.mpr (clones.fresh ref answered).1)

/-- Committing the outcome of a pending record. -/
theorem Effect.commit (effect : Effect makes frees commits a s s') (well : WellFormed s) (record : Nat)
    (stored : s'.records.get? (s'.heap record).key = some record)
    (pending : (s'.heap record).pending = true)
    (allowed : commits (s'.heap record).key (s'.heap record).fingerprint)
    (result taskReference : Option Nat) :
    let committed := commitRecord sharedValues s'.memory (s'.heap record) result taskReference
    Effect makes frees commits (decisionRefs committed.1) s
      { s'.update record fun _ => committed.2.1 with memory := committed.2.2 } := by
  obtain ⟨_, _, normalized, _, _, _, middle, copied, handed⟩ :=
    commitRecord_spec s'.memory (s'.heap record) result taskReference
  generalize commitRecord sharedValues s'.memory (s'.heap record) result taskReference = committed
    at normalized copied handed
  obtain ⟨decision, record', memory⟩ := committed
  dsimp only at normalized copied handed ⊢
  have others : ∀ r, r ≠ record → (s'.update record fun _ => record').heap r = s'.heap r :=
    fun r differ => by simp [DedupeStore.update, differ]
  have self : (s'.update record fun _ => record').heap record = record' := by
    simp [DedupeStore.update]
  have named : ∀ r, ((s'.update record fun _ => record').heap r).normalized =
      (s'.heap r).normalized := by
    intro r
    by_cases this : r = record
    · rw [this, self, normalized]
    · rw [others r this]
  refine ⟨⟨?_, effect.wellFormed.clock, ?_⟩, effect.closed, effect.now, effect.reading,
    effect.allocated, fun r known => (named r).trans (effect.named r known), ?_, ?_,
    effect.memory.trans (copied.next.trans handed.next), ?_, ?_, ?_⟩
  · intro key r held
    obtain ⟨known, same⟩ := effect.wellFormed.stored key r held
    exact ⟨known, (congrArg NormalizedOperation.key (named r)).trans same⟩
  · intro r known ref member
    dsimp only at member ⊢
    by_cases this : r = record
    · rw [this, self] at member
      exact (copied.fresh ref member).2.trans_le handed.next
    · rw [others r this] at member
      exact (effect.wellFormed.refs r known ref member).trans_le (copied.next.trans handed.next)
  · intro r new below
    have fate := effect.created r new below
    unfold Created StoredRecord.key StoredRecord.fingerprint StoredRecord.retainedUntil at fate ⊢
    dsimp only at fate ⊢
    rwa [named r]
  · intro key r held
    have outcome : s'.records.get? key = some r →
        ((s'.heap r).pending = true → (s.heap r).pending = true) →
        r = record → Fate frees commits s { s'.update record fun _ => record' with memory } key r := by
      rintro held' waiting rfl
      refine .committed held' (waiting pending) ?_
      have fingerprint : (s'.heap r).fingerprint = (s.heap r).fingerprint :=
        congrArg NormalizedOperation.fingerprint (effect.named r (well.stored key r held).1)
      have key' : (s'.heap r).key = key := (effect.wellFormed.stored key r held').2
      rwa [fingerprint, key'] at allowed
    cases effect.fates key r held with
    | kept held' same =>
      by_cases this : r = record
      · exact outcome held' (fun waiting => same.pending ▸ waiting) this
      · refine .kept held' ?_
        dsimp only
        rwa [others r this]
    | committed held' waiting allowed' => exact .committed held' waiting allowed'
    | freed waiting freed => exact .freed waiting freed
    | expired made past => exact .expired made past
  · intro ref known
    have known' := known.trans_le effect.memory
    rw [handed.cells ref (known'.trans_le copied.next), copied.cells ref known',
      effect.cells ref known]
  · intro ref member
    obtain ⟨low, high⟩ := handed.fresh ref member
    exact ⟨effect.memory.trans (copied.next.trans low), high⟩
  · intro r known ref member
    dsimp only at member
    by_cases this : r = record
    · rw [this, self] at member
      obtain ⟨low, high⟩ := copied.fresh ref member
      refine .inr ⟨effect.memory.trans low, fun answered => ?_⟩
      exact absurd high (Nat.not_lt.mpr (handed.fresh ref answered).1)
    · rw [others r this] at member
      obtain old | ⟨new, _⟩ := effect.isolated r known ref member
      · exact .inl old
      · refine .inr ⟨new, fun answered => ?_⟩
        have below := effect.wellFormed.refs r known ref member
        exact absurd (below.trans_le copied.next) (Nat.not_lt.mpr (handed.fresh ref answered).1)

/-- An object a caller holds is as busy after an operation as before it. -/
theorem Effect.isBusyResult (effect : Effect makes frees commits a s s') {value : Option Nat}
    (known : ∀ ref ∈ value, ref < s.memory.next) :
    isBusyResult sharedValues s'.memory value = isBusyResult sharedValues s.memory value := by
  cases value with
  | none => rfl
  | some ref => exact congrArg isBusyJson (effect.cells ref (known ref rfl))

variable {ω : Type} {R : Requests ω} {retentionGraceMs : ℚ}

theorem normalize_eq (s : Store) (operation : ω) :
    s.normalize R retentionGraceMs operation =
      (normalizedOperation R retentionGraceMs operation (s.now s.reading), s.readNow.2) := rfl

theorem prune_now (well : WellFormed s) : s.prune.now = s.now := by
  have pruned : Effect (fun _ => False) (fun _ _ => False) (fun _ _ => False) [] s s.prune := effect_prune well
  exact pruned.now

theorem effect_lookup (well : WellFormed s) (operation : ω) :
    Effect makes frees commits [] s (s.lookup R retentionGraceMs operation).2 := by
  have pruned : Effect makes frees commits [] s s.prune := effect_prune well
  have read : Effect makes frees commits [] s s.prune.readNow.2 :=
    pruned.trans (effect_readNow pruned.wellFormed) well
  unfold DedupeStore.lookup
  split
  · exact .refl well
  dsimp only
  split
  · exact pruned
  rw [normalize_eq]
  cases normalizedOperation R retentionGraceMs operation (s.prune.now s.prune.reading) with
  | error error => exact read
  | ok normalized => exact read

/-- What an operation that was found deduplicated looked like, and where. -/
theorem lookup_ok (well : WellFormed s)
    (looked : s.lookup R retentionGraceMs operation = (.ok (some (normalized, found)), s')) :
    s' = s.prune.readNow.2 ∧
      normalizedOperation R retentionGraceMs operation (s.now (s.reading + 1)) = .ok normalized ∧
      found = s'.records.get? normalized.key := by
  unfold DedupeStore.lookup at looked
  split at looked
  · cases looked
  dsimp only at looked
  split at looked
  · cases looked
  rw [normalize_eq, prune_now well, prune_reading] at looked
  cases form : normalizedOperation R retentionGraceMs operation (s.now (s.reading + 1)) with
  | error error =>
    rw [form] at looked
    cases looked
  | ok normalized' =>
    rw [form] at looked
    cases looked
    exact ⟨rfl, rfl, rfl⟩

/-- The decision about a stored record. -/
theorem Effect.decideExisting (effect : Effect makes frees commits a s s') (known : r < s'.nextRecord)
    (fingerprint : JsString) :
    Effect makes frees commits (decisionRefs (s'.decideExisting sharedValues r fingerprint).1) s
      (s'.decideExisting sharedValues r fingerprint).2 :=
  effect.clones
    (existingDecision_spec s'.memory (s'.heap r) fingerprint (effect.wellFormed.refs r known)).1

theorem effect_inspect (well : WellFormed s) (operation : ω) :
    let answered := s.inspect R sharedValues retentionGraceMs operation
    Effect makes frees commits (Answer.refs (.decided answered.1)) s answered.2 := by
  have effect : Effect makes frees commits [] s (s.lookup R retentionGraceMs operation).2 :=
    effect_lookup well operation
  unfold DedupeStore.inspect
  cases looked : s.lookup R retentionGraceMs operation with
  | mk answer s' =>
    rw [looked] at effect
    cases answer with
    | error error => exact effect
    | ok found =>
      cases found with
      | none => exact effect
      | some found =>
        obtain ⟨normalized, found⟩ := found
        cases found with
        | none => exact effect
        | some r =>
          obtain ⟨-, -, stored⟩ := lookup_ok well looked
          exact effect.decideExisting (effect.wellFormed.stored _ r stored.symm).1 _

theorem effect_getRecord (well : WellFormed s) (operation : ω) :
    let answered := s.getRecord R sharedValues retentionGraceMs operation
    Effect makes frees commits (Answer.refs (.found answered.1)) s answered.2 := by
  have effect : Effect makes frees commits [] s (s.lookup R retentionGraceMs operation).2 :=
    effect_lookup well operation
  unfold DedupeStore.getRecord
  cases looked : s.lookup R retentionGraceMs operation with
  | mk answer s' =>
    rw [looked] at effect
    cases answer with
    | error error => exact effect
    | ok found =>
      cases found with
      | none => exact effect
      | some found =>
        obtain ⟨normalized, found⟩ := found
        cases found with
        | none => exact effect
        | some r => exact effect.clones (snapshotRecord_clones s'.memory (s'.heap r))

theorem effect_reserve (well : WellFormed s) (operation : ω)
    (allowed : ∀ key, s.prune.records.get? key = none → makes key) :
    let answered := s.reserve R sharedValues retentionGraceMs operation
    Effect makes frees commits (Answer.refs (.decided answered.1)) s answered.2 := by
  have effect : Effect makes frees commits [] s (s.lookup R retentionGraceMs operation).2 :=
    effect_lookup well operation
  unfold DedupeStore.reserve
  cases looked : s.lookup R retentionGraceMs operation with
  | mk answer s' =>
    rw [looked] at effect
    cases answer with
    | error error => exact effect
    | ok found =>
      cases found with
      | none => exact effect
      | some found =>
        obtain ⟨normalized, found⟩ := found
        obtain ⟨pruned, -, stored⟩ := lookup_ok well looked
        cases found with
        | none =>
          refine effect.insert well normalized stored.symm (allowed normalized.key ?_)
          rw [stored, pruned]
          rfl
        | some r => exact effect.decideExisting (effect.wellFormed.stored _ r stored.symm).1 _

/-- Freeing what a caller's key and fingerprint name. -/
theorem Effect.releaseKey (effect : Effect makes frees commits a s s') (well : WellFormed s)
    (key fingerprint : JsString)
    (allowed : frees key fingerprint) :
    Effect makes frees commits a s (s'.releaseKey key fingerprint).2 := by
  unfold DedupeStore.releaseKey
  cases stored : s'.records.get? key with
  | none => exact effect
  | some record =>
    dsimp only
    split
    · exact effect
    rename_i held
    simp only [Bool.or_eq_true, Bool.not_eq_true', decide_eq_true_eq, not_or, not_not,
      Bool.not_eq_false] at held
    refine effect.remove well record (.inl ⟨held.1, ?_⟩)
    rw [held.2, (effect.wellFormed.stored key record stored).2]
    exact allowed

theorem effect_releaseReservation (well : WellFormed s) (reservation : DedupeReservation)
    (allowed : frees reservation.key reservation.fingerprint) :
    Effect makes frees commits [] s (s.releaseReservation reservation).2 := by
  unfold DedupeStore.releaseReservation
  split
  · exact .refl well
  · exact (effect_prune well).releaseKey well _ _ allowed

theorem effect_releaseOperation (well : WellFormed s) (operation : ω)
    (allowed : ∀ normalized, normalizedOperation R retentionGraceMs operation
      (s.now (s.reading + 1)) = .ok normalized → frees normalized.key normalized.fingerprint) :
    Effect makes frees commits [] s (s.releaseOperation R retentionGraceMs operation).2 := by
  have effect : Effect makes frees commits [] s (s.lookup R retentionGraceMs operation).2 :=
    effect_lookup well operation
  unfold DedupeStore.releaseOperation
  cases looked : s.lookup R retentionGraceMs operation with
  | mk answer s' =>
    rw [looked] at effect
    cases answer with
    | error error => exact effect
    | ok found =>
      cases found with
      | none => exact effect
      | some found =>
        obtain ⟨normalized, found⟩ := found
        obtain ⟨-, form, -⟩ := lookup_ok well looked
        exact effect.releaseKey well _ _ (allowed normalized form)

theorem effect_busy (well : WellFormed s) (operation : ω) :
    let answered := s.busy R retentionGraceMs operation
    Effect makes frees commits (Answer.refs (.decided answered.1)) s answered.2 := by
  unfold DedupeStore.busy
  split
  · exact .refl well
  split
  · exact .refl well
  rw [normalize_eq]
  cases normalizedOperation R retentionGraceMs operation (s.now s.reading) with
  | error error => exact effect_readNow well
  | ok normalized => exact effect_readNow well

/-- What a caller may do with an outcome: a busy one frees, any other commits. -/
def Settles (frees commits : JsString → JsString → Prop) (s : Store) (result : Option Nat)
    (key fingerprint : JsString) : Prop :=
  if isBusyResult sharedValues s.memory result then frees key fingerprint
  else commits key fingerprint

theorem effect_commitReservation (well : WellFormed s) (reservation : DedupeReservation)
    (result taskReference : Option Nat) (known : ∀ ref ∈ result, ref < s.memory.next)
    (allowed : Settles frees commits s result reservation.key reservation.fingerprint) :
    let answered := s.commitReservation sharedValues reservation result taskReference
    Effect makes frees commits (Answer.refs (.decided answered.1)) s answered.2 := by
  have pruned : Effect makes frees commits [] s s.prune := effect_prune well
  unfold Settles at allowed
  unfold DedupeStore.commitReservation
  split
  · exact .refl well
  dsimp only
  rw [pruned.isBusyResult known]
  split
  · rename_i busy
    rw [if_pos busy] at allowed
    have released : Effect makes frees commits [] s (s.prune.releaseReservation reservation).2 :=
      pruned.trans (effect_releaseReservation pruned.wellFormed reservation allowed) well
    cases freed : s.prune.releaseReservation reservation with
    | mk answer s' =>
      rw [freed] at released
      cases answer with
      | error error => exact released
      | ok _ => exact released
  rename_i notBusy
  rw [if_neg notBusy] at allowed
  cases stored : s.prune.records.get? reservation.key with
  | none => exact pruned
  | some record =>
    obtain ⟨below, named⟩ := pruned.wellFormed.stored _ record stored
    dsimp only
    split
    · refine (pruned.clones (snapshotRecord_clones s.prune.memory (s.prune.heap record)))
    split
    · exact pruned.decideExisting below _
    · rename_i same waiting
      simp only [ne_eq, not_not, Bool.not_eq_true', Bool.not_eq_false] at same waiting
      exact pruned.commit well record (named ▸ stored) waiting (by rwa [named, same]) result taskReference

/-- Decisions about a stored record hand out no reservation. -/
theorem existingDecision_reservation (m : SharedMemory) (record : StoredRecord Nat)
    (fingerprint : JsString) :
    (existingDecision sharedValues m record fingerprint).1.reservation = none := by
  unfold existingDecision
  dsimp only
  split
  · rfl
  split
  · rfl
  · rfl

/-- A reservation is handed out for an operation under a free key. -/
theorem reserve_new (well : WellFormed s)
    (reserved : s.reserve R sharedValues retentionGraceMs operation = (.ok decision, s'))
    (handed : decision.reservation = some reservation) :
    ∃ normalized, normalizedOperation R retentionGraceMs operation (s.now (s.reading + 1)) =
        .ok normalized ∧ reservation = normalized.reservation ∧
      s.prune.records.get? normalized.key = none ∧ s' = s.prune.readNow.2.insert normalized := by
  unfold DedupeStore.reserve at reserved
  cases looked : s.lookup R retentionGraceMs operation with
  | mk answer s'' =>
    rw [looked] at reserved
    cases answer with
    | error error => cases reserved
    | ok found =>
      cases found with
      | none =>
        cases reserved
        cases handed
      | some found =>
        obtain ⟨normalized, found⟩ := found
        cases found with
        | some r =>
          have unreserved := existingDecision_reservation s''.memory (s''.heap r) normalized.fingerprint
          obtain ⟨same, -⟩ := Prod.mk.inj reserved
          rw [← Except.ok.inj same] at handed
          exact absurd (unreserved.symm.trans handed) nofun
        | none =>
          cases reserved
          cases handed
          obtain ⟨rfl, form, free⟩ := lookup_ok well looked
          exact ⟨normalized, form, rfl, free.symm, rfl⟩

theorem effect_commitOperation (well : WellFormed s) (operation : ω)
    (result taskReference : Option Nat) (known : ∀ ref ∈ result, ref < s.memory.next)
    (allowed : ∀ normalized, normalizedOperation R retentionGraceMs operation
      (s.now (s.reading + 2)) = .ok normalized →
        Settles frees commits s result normalized.key normalized.fingerprint)
    (free : isBusyResult sharedValues s.memory result = false → ∀ key,
      s.prune.prune.records.get? key = none → makes key) :
    let answered := s.commitOperation R sharedValues retentionGraceMs operation result taskReference
    Effect makes frees commits (Answer.refs (.decided answered.1)) s answered.2 := by
  have pruned : Effect makes frees commits [] s s.prune := effect_prune well
  have form : ∀ normalized, normalizedOperation R retentionGraceMs operation
      (s.prune.now (s.prune.reading + 1)) = .ok normalized →
        Settles frees commits s result normalized.key normalized.fingerprint := by
    intro normalized form
    rw [prune_now well, prune_reading] at form
    exact allowed normalized form
  unfold Settles at form
  unfold DedupeStore.commitOperation
  split
  · exact .refl well
  dsimp only
  split
  · exact pruned
  rw [pruned.isBusyResult known]
  split
  · rename_i busy
    simp only [busy, ↓reduceIte] at form
    have released : Effect makes frees commits [] s (s.prune.releaseOperation R retentionGraceMs operation).2 :=
      pruned.trans (effect_releaseOperation pruned.wellFormed operation form) well
    cases freed : s.prune.releaseOperation R retentionGraceMs operation with
    | mk answer s' =>
      rw [freed] at released
      cases answer with
      | error error => exact released
      | ok _ => exact released.trans (effect_busy released.wellFormed operation) well
  rename_i notBusy
  have reserved : Effect makes frees commits
      (Answer.refs (.decided (s.prune.reserve R sharedValues retentionGraceMs operation).1)) s
      (s.prune.reserve R sharedValues retentionGraceMs operation).2 :=
    pruned.trans (effect_reserve pruned.wellFormed operation (free (Bool.not_eq_true _ ▸ notBusy))) well
  cases decided : s.prune.reserve R sharedValues retentionGraceMs operation with
  | mk answer s' =>
    rw [decided] at reserved
    cases answer with
    | error error => exact reserved
    | ok decision =>
      dsimp only
      split
      · rename_i reservation _ handed
        obtain ⟨normalized, formed, rfl, -, -⟩ := reserve_new pruned.wellFormed decided handed
        refine reserved.trans (effect_commitReservation reserved.wellFormed _ result taskReference
          (fun ref held => (known ref held).trans_le reserved.memory) ?_) well
        unfold Settles
        rw [reserved.isBusyResult known]
        exact form normalized formed
      · exact reserved

theorem effect_admitOperation (well : WellFormed s) (operation : ω)
    (outcome : Option (Option Nat × Option Nat))
    (known : ∀ result taskReference, outcome = some (result, taskReference) →
      ∀ ref ∈ result, ref < s.memory.next)
    (allowed : ∀ result taskReference, outcome = some (result, taskReference) →
      isBusyResult sharedValues s.memory result = false → ∀ normalized,
        normalizedOperation R retentionGraceMs operation (s.now (s.reading + 2)) = .ok normalized →
          commits normalized.key normalized.fingerprint)
    (free : ∀ key, s.prune.records.get? key = none ∧ outcome = none ∨
      s.prune.prune.records.get? key = none ∧ outcome.isSome → makes key) :
    let answered := s.admitOperation R sharedValues retentionGraceMs operation outcome
    Effect makes frees commits (Answer.refs (.decided answered.1)) s answered.2 := by
  unfold DedupeStore.admitOperation
  cases outcome with
  | none =>
    exact effect_reserve well operation fun key absent => free key (.inl ⟨absent, rfl⟩)
  | some outcome =>
    obtain ⟨result, taskReference⟩ := outcome
    dsimp only
    split
    · exact effect_busy well operation
    · rename_i notBusy
      refine effect_commitOperation well operation result taskReference (known result _ rfl) ?_
        fun _ key absent => free key (.inr ⟨absent, rfl⟩)
      intro normalized form
      rw [Settles, if_neg notBusy]
      exact allowed result taskReference rfl (Bool.not_eq_true _ ▸ notBusy) normalized form

/-- `execute` runs the producer under the reservation it was handed, or answers
what `reserve` did. -/
theorem execute_cases (R : Requests ω) (retentionGraceMs : ℚ) (s : Store) (operation : ω) :
    (∃ decision s' reservation,
      s.reserve R sharedValues retentionGraceMs operation = (.ok decision, s') ∧
        decision.reservation = some reservation ∧
        s.execute R sharedValues retentionGraceMs operation = (.ok (.inr reservation), s')) ∨
    (∃ decision s', s.reserve R sharedValues retentionGraceMs operation = (.ok decision, s') ∧
      ¬(decision.kind = .new ∧ decision.reservation.isSome) ∧
      s.execute R sharedValues retentionGraceMs operation = (.ok (.inl decision), s')) ∨
    (∃ error s', s.reserve R sharedValues retentionGraceMs operation = (.error error, s') ∧
      s.execute R sharedValues retentionGraceMs operation = (.error error, s')) := by
  unfold DedupeStore.execute
  cases s.reserve R sharedValues retentionGraceMs operation with
  | mk answer s' =>
    cases answer with
    | error error => exact .inr (.inr ⟨error, s', rfl, rfl⟩)
    | ok decision =>
      dsimp only
      split
      · rename_i reservation _ handed
        exact .inl ⟨decision, s', reservation, rfl, handed, rfl⟩
      · rename_i other
        refine .inr (.inl ⟨decision, s', rfl, ?_, rfl⟩)
        rintro ⟨new, handed⟩
        obtain ⟨reservation, handed⟩ := Option.isSome_iff_exists.mp handed
        exact other reservation new handed

/-- The objects `execute` answers with. -/
def executeRefs : Except DedupeError (Decision ⊕ DedupeReservation) → List Nat
  | .ok (.inl decision) => decisionRefs decision
  | _ => []

theorem effect_execute (well : WellFormed s) (operation : ω)
    (allowed : ∀ key, s.prune.records.get? key = none → makes key) :
    let answered := s.execute R sharedValues retentionGraceMs operation
    Effect makes frees commits (executeRefs answered.1) s answered.2 := by
  have reserved : Effect makes frees commits
      (Answer.refs (.decided (s.reserve R sharedValues retentionGraceMs operation).1)) s
      (s.reserve R sharedValues retentionGraceMs operation).2 :=
    effect_reserve well operation allowed
  obtain ⟨decision, s', reservation, decided, -, executed⟩ | ⟨decision, s', decided, -, executed⟩ |
    ⟨error, s', decided, executed⟩ := execute_cases R retentionGraceMs s operation
  · rw [decided] at reserved
    rw [executed]
    exact reserved.clones (.refl _)
  · rw [decided] at reserved
    rw [executed]
    exact reserved
  · rw [decided] at reserved
    rw [executed]
    exact reserved

theorem effect_producerThrew (well : WellFormed s) (reservation : DedupeReservation)
    (error : DedupeError) (allowed : frees reservation.key reservation.fingerprint) :
    let answered := s.producerThrew reservation error
    Effect makes frees commits (Answer.refs (.decided answered.1)) s answered.2 := by
  have released : Effect makes frees commits [] s (s.releaseReservation reservation).2 :=
    effect_releaseReservation well reservation allowed
  unfold DedupeStore.producerThrew
  cases freed : s.releaseReservation reservation with
  | mk answer s' =>
    rw [freed] at released
    cases answer with
    | error error => exact released
    | ok _ => exact released

theorem prune_closed (well : WellFormed s) : s.prune.closed = s.closed := by
  have pruned : Effect (fun _ => False) (fun _ _ => False) (fun _ _ => False) [] s s.prune := effect_prune well
  exact pruned.closed

theorem releaseReservation_ok {s : Store} (opened : s.closed = false)
    (reservation : DedupeReservation) :
    ∃ freed, (s.releaseReservation reservation).1 = .ok freed := by
  simp [DedupeStore.releaseReservation, opened]

/-- Committing by reservation fails only on a closed store. -/
theorem commitReservation_ok (well : WellFormed s) (opened : s.closed = false)
    (reservation : DedupeReservation) (result taskReference : Option Nat) :
    ∃ decision, (s.commitReservation sharedValues reservation result taskReference).1 =
      .ok decision := by
  unfold DedupeStore.commitReservation
  rw [if_neg (by simp [opened])]
  dsimp only
  split
  · obtain ⟨freed, answer⟩ :=
      releaseReservation_ok ((prune_closed well).trans opened) reservation
    cases released : s.prune.releaseReservation reservation with
    | mk answer' s' =>
      rw [released] at answer
      cases answer
      exact ⟨_, rfl⟩
  cases s.prune.records.get? reservation.key with
  | none => exact ⟨_, rfl⟩
  | some record =>
    dsimp only
    split
    · exact ⟨_, rfl⟩
    split
    · exact ⟨_, rfl⟩
    · exact ⟨_, rfl⟩

theorem effect_produced (well : WellFormed s) (opened : s.closed = false) (operation : ω) (reservation : DedupeReservation)
    (result taskReference : Option Nat) (known : ∀ ref ∈ result, ref < s.memory.next)
    (allowed : Settles frees commits s result reservation.key reservation.fingerprint) :
    let answered := s.produced R sharedValues retentionGraceMs operation reservation result taskReference
    Effect makes frees commits (Answer.refs (.decided answered.1)) s answered.2 := by
  have committed : Effect makes frees commits
      (Answer.refs (.decided (s.commitReservation sharedValues reservation result taskReference).1)) s
      (s.commitReservation sharedValues reservation result taskReference).2 :=
    effect_commitReservation well reservation result taskReference known allowed
  unfold Settles at allowed
  unfold DedupeStore.produced
  split
  · rename_i busy
    rw [if_pos busy] at allowed
    have released : Effect makes frees commits [] s (s.releaseReservation reservation).2 :=
      effect_releaseReservation well reservation allowed
    cases freed : s.releaseReservation reservation with
    | mk answer s' =>
      rw [freed] at released
      cases answer with
      | error error =>
        exact released.trans (effect_producerThrew released.wellFormed reservation error allowed) well
      | ok _ =>
        dsimp only
        have turnedAway : Effect makes frees commits
            (Answer.refs (.decided (s'.busy R retentionGraceMs operation).1)) s
            (s'.busy R retentionGraceMs operation).2 :=
          released.trans (effect_busy released.wellFormed operation) well
        cases refused : s'.busy R retentionGraceMs operation with
        | mk answer s'' =>
          rw [refused] at turnedAway
          cases answer with
          | error error =>
            exact turnedAway.trans
              (effect_producerThrew turnedAway.wellFormed reservation error allowed) well
          | ok decision => exact turnedAway
  · cases settled : s.commitReservation sharedValues reservation result taskReference with
    | mk answer s' =>
      rw [settled] at committed
      cases answer with
      | error error =>
        obtain ⟨decision, answer⟩ :=
          commitReservation_ok well opened reservation result taskReference
        rw [settled] at answer
        cases answer
      | ok decision => exact committed

end MoreEffects

end PiToPi.DedupeProofs
