import PiToPi.PolicyCallback
import PiToPi.PolicyCancel

/-!
What the operations of the routing policy find again when a callback has returned. Each frame
states what it needs (`Frame.Holds`); `Kept` is what every other operation leaves of that, and a
step of the innermost operation is shown to keep it for the frames below.
-/
namespace PiToPi.PolicyCallback
open Policy Transition RoutingPolicy

section Frames

variable {τ : Type} {p q : RoutingPolicy τ} {loose loose' : List Nat} {token : Nat}

/-- A record that has left the policy. -/
structure Gone (p : RoutingPolicy τ) (loose : List Nat) (token : Nat) : Prop where
  unknown : ¬Known p loose token
  status : (p.records token).status = .released
  lease : (p.records token).lease = none

/-- A record that has been made and not entered. -/
structure Waiting (p : RoutingPolicy τ) (loose : List Nat) (token : Nat) : Prop where
  unknown : ¬Known p loose token
  status : (p.records token).status = .candidate
  lease : (p.records token).lease = none

/-- The time of a sweep has been observed, and the record it is to queue is waiting. -/
structure Sweep.Holds (sweep : Sweep) (p : RoutingPolicy τ) (loose : List Nat) : Prop where
  observed : ∃ last, p.lastObservedNow = some last ∧ sweep.now ≤ last
  since : sweep.since ≤ p.nextToken
  waiting : ∀ token, sweep.after = .enqueue token → token < sweep.since ∧ Waiting p loose token

/-- The sweep is past these queued records. -/
def Sweep.Past (sweep : Sweep) (p : RoutingPolicy τ) (tokens : List Nat) : Prop :=
  ∀ token ∈ tokens, (token ∈ sweep.looked ∨ sweep.since ≤ token) ∧
    sweep.now < (p.records token).deadline

/-- What a frame needs of the policy to go on. -/
def Frame.Holds (p : RoutingPolicy τ) (loose : List Nat) : Frame → Prop
  | .sweepingQueue sweep index => sweep.Holds p loose ∧ sweep.Past p (p.queue.drop index)
  | .sweepingActive sweep visited => sweep.Holds p loose ∧ sweep.Past p p.queue ∧
      ∀ token ∈ visited, token < p.nextToken ∧
        ((p.records token).deadline ≤ sweep.now → (p.records token).expired = true)
  | .dropping token => token < p.nextToken ∧ (token ∈ loose ∨ Gone p loose token)
  | .dequeuing | .cancelling => True

def Frame.sweep? : Frame → Option Sweep
  | .sweepingQueue sweep _ | .sweepingActive sweep _ => some sweep
  | _ => none

/-- An inner sweep is a later one. -/
def Above (inner outer : Frame) : Prop :=
  ∀ sweep ∈ inner.sweep?, ∀ below ∈ outer.sweep?,
    below.now ≤ sweep.now ∧ ∀ token, sweep.after = .enqueue token → below.since ≤ token

/-- What an operation leaves of what other frames need; `entering` is the record it queues. -/
structure Kept (p : RoutingPolicy τ) (loose : List Nat) (q : RoutingPolicy τ) (loose' : List Nat)
    (entering : Option Nat) : Prop where
  nextToken : p.nextToken ≤ q.nextToken
  observed : ∀ last, p.lastObservedNow = some last → ∃ now, q.lastObservedNow = some now ∧ last ≤ now
  deadline : ∀ t < p.nextToken, (q.records t).deadline = (p.records t).deadline
  expired : ∀ t < p.nextToken, (p.records t).expired = true → (q.records t).expired = true
  notified : ∀ t < p.nextToken,
    (p.records t).expiryNotified = true → (q.records t).expiryNotified = true
  queue : ∀ index, ∀ t ∈ q.queue.drop index, t ∈ p.queue.drop index ∨ entering = some t
  unknown : ∀ t < p.nextToken, ¬Known p loose t → entering ≠ some t → ¬Known q loose' t ∧
    (q.records t).status = (p.records t).status ∧ (q.records t).lease = (p.records t).lease
  loose : ∀ t ∈ loose, t ∈ loose' ∨ Gone q loose' t

/-- A frame that the record does not disturb. -/
def Frame.Admits (p : RoutingPolicy τ) (token : Nat) : Frame → Prop
  | .sweepingQueue sweep _ | .sweepingActive sweep _ =>
    sweep.since ≤ token ∧ sweep.now < (p.records token).deadline
  | .dropping dropped => dropped ≠ token
  | .dequeuing | .cancelling => True

theorem Waiting.kept {entering : Option Nat} (waiting : Waiting p loose token)
    (born : token < p.nextToken) (kept : Kept p loose q loose' entering)
    (other : entering ≠ some token) : Waiting q loose' token := by
  obtain ⟨unknown, status, lease⟩ := kept.unknown token born waiting.unknown other
  exact ⟨unknown, status.trans waiting.status, lease.trans waiting.lease⟩

theorem Gone.kept {entering : Option Nat} (gone : Gone p loose token) (born : token < p.nextToken)
    (kept : Kept p loose q loose' entering) (other : entering ≠ some token) :
    Gone q loose' token := by
  obtain ⟨unknown, status, lease⟩ := kept.unknown token born gone.unknown other
  exact ⟨unknown, status.trans gone.status, lease.trans gone.lease⟩

theorem Sweep.Holds.kept {sweep : Sweep} {entering : Option Nat} (holds : sweep.Holds p loose)
    (kept : Kept p loose q loose' entering)
    (admits : ∀ t, entering = some t → sweep.since ≤ t) : sweep.Holds q loose' where
  observed := by
    obtain ⟨last, seen, le⟩ := holds.observed
    obtain ⟨now, seen', le'⟩ := kept.observed last seen
    exact ⟨now, seen', le.trans le'⟩
  since := holds.since.trans kept.nextToken
  waiting t after := by
    obtain ⟨old, waiting⟩ := holds.waiting t after
    refine ⟨old, waiting.kept (old.trans_le holds.since) kept fun same => ?_⟩
    exact absurd old (not_lt.mpr (admits t same))

theorem Sweep.Past.kept {sweep : Sweep} {entering : Option Nat} {index : Nat}
    (past : sweep.Past p (p.queue.drop index)) (born : ∀ t ∈ p.queue, t < p.nextToken)
    (kept : Kept p loose q loose' entering)
    (admits : ∀ t, entering = some t → sweep.since ≤ t ∧ sweep.now < (q.records t).deadline) :
    sweep.Past q (q.queue.drop index) := by
  intro t member
  rcases kept.queue index t member with old | same
  · obtain ⟨seen, deadline⟩ := past t old
    rw [kept.deadline t (born t (List.mem_of_mem_drop old))]
    exact ⟨seen, deadline⟩
  · obtain ⟨new, deadline⟩ := admits t same
    exact ⟨.inr new, deadline⟩

/-- A frame still has what it needs after another operation. -/
theorem Frame.Holds.kept {frame : Frame} {entering : Option Nat} (holds : frame.Holds p loose)
    (born : ∀ t ∈ p.queue, t < p.nextToken) (kept : Kept p loose q loose' entering)
    (admits : ∀ t, entering = some t → frame.Admits q t) : frame.Holds q loose' := by
  cases frame with
  | sweepingQueue sweep index =>
    obtain ⟨sweeps, past⟩ := holds
    exact ⟨sweeps.kept kept fun t same => (admits t same).1, past.kept born kept admits⟩
  | sweepingActive sweep visited =>
    obtain ⟨sweeps, past, marked⟩ := holds
    refine ⟨sweeps.kept kept fun t same => (admits t same).1, ?_, fun t member => ?_⟩
    · rw [← p.queue.drop_zero] at past
      rw [← q.queue.drop_zero]
      exact past.kept born kept admits
    · obtain ⟨old, expired⟩ := marked t member
      refine ⟨old.trans_le kept.nextToken, fun due => kept.expired t old (expired ?_)⟩
      rwa [← kept.deadline t old]
  | dropping dropped =>
    obtain ⟨old, pending⟩ := holds
    refine ⟨old.trans_le kept.nextToken, ?_⟩
    rcases pending with member | gone
    · exact kept.loose dropped member
    · exact .inr (gone.kept old kept fun same => admits dropped same rfl)
  | dequeuing => trivial
  | cancelling => trivial

theorem Kept.trans {r : RoutingPolicy τ} {loose'' : List Nat} {entering : Option Nat}
    (first : Kept p loose q loose' entering) (second : Kept q loose' r loose'' entering)
    (old : ∀ t ∈ loose, t < p.nextToken ∧ entering ≠ some t) :
    Kept p loose r loose'' entering where
  nextToken := first.nextToken.trans second.nextToken
  observed last seen := by
    obtain ⟨now, seen', le⟩ := first.observed last seen
    obtain ⟨now', seen'', le'⟩ := second.observed now seen'
    exact ⟨now', seen'', le.trans le'⟩
  deadline t born :=
    (second.deadline t (born.trans_le first.nextToken)).trans (first.deadline t born)
  expired t born expired :=
    second.expired t (born.trans_le first.nextToken) (first.expired t born expired)
  notified t born notified :=
    second.notified t (born.trans_le first.nextToken) (first.notified t born notified)
  queue index t member := by
    rcases second.queue index t member with earlier | same
    · exact first.queue index t earlier
    · exact .inr same
  unknown t born unknown other := by
    obtain ⟨unknown', status, lease⟩ := first.unknown t born unknown other
    obtain ⟨unknown'', status', lease'⟩ :=
      second.unknown t (born.trans_le first.nextToken) unknown' other
    exact ⟨unknown'', status'.trans status, lease'.trans lease⟩
  loose t member := by
    obtain ⟨born, other⟩ := old t member
    rcases first.loose t member with pending | gone
    · exact second.loose t pending
    · exact .inr (gone.kept (born.trans_le first.nextToken) second other)

end Frames

section Parts

variable {τ : Type} {p q : RoutingPolicy τ} {loose : List Nat} {token : Nat}

theorem known_of_same (same : SameShape p q) (t : Nat) : Known q loose t ↔ Known p loose t := by
  unfold Known
  rw [same.queue, same.active]

/-- Marks are made and the clock is read. -/
theorem Kept.of_same (same : SameShape p q)
    (observed : ∀ last, p.lastObservedNow = some last →
      ∃ now, q.lastObservedNow = some now ∧ last ≤ now)
    (marks : ∀ t, (q.records t).deadline = (p.records t).deadline ∧
      ((p.records t).expired = true → (q.records t).expired = true) ∧
      ((p.records t).expiryNotified = true → (q.records t).expiryNotified = true)) :
    Kept p loose q loose none where
  nextToken := same.nextToken.ge
  observed := observed
  deadline t _ := (marks t).1
  expired t _ := (marks t).2.1
  notified t _ := (marks t).2.2
  queue index t member := by
    rw [same.queue] at member
    exact .inl member
  unknown t _ unknown _ := by
    obtain ⟨-, -, status, lease⟩ := same.records t
    exact ⟨fun known => unknown ((known_of_same same t).mp known), status, lease⟩
  loose t member := .inl member

theorem Kept.refl (p : RoutingPolicy τ) (loose : List Nat) : Kept p loose p loose none :=
  Kept.of_same (.refl p) (fun last seen => ⟨last, seen, le_rfl⟩) fun _ => ⟨rfl, id, id⟩

theorem Kept.ticked (ticked : Ticked p q) : Kept p loose q loose none := by
  refine Kept.of_same ticked.shape ticked.observed fun t => ?_
  rw [ticked.records]
  exact ⟨rfl, id, id⟩

theorem markExpired_marks (p : RoutingPolicy τ) (token t : Nat) :
    ((p.markExpired token).records t).deadline = (p.records t).deadline ∧
      ((p.records t).expired = true → ((p.markExpired token).records t).expired = true) ∧
      ((p.records t).expiryNotified = true →
        ((p.markExpired token).records t).expiryNotified = true) := by
  by_cases same : t = token
  · subst same
    unfold RoutingPolicy.markExpired RoutingPolicy.update
    dsimp only
    split <;> simp_all
  · rw [markExpired_records p token t same]
    exact ⟨rfl, id, id⟩

theorem markExpired_expired (p : RoutingPolicy τ) (token : Nat) :
    ((p.markExpired token).records token).expired = true ∧
      ((p.markExpired token).records token).expiryNotified = true := by
  unfold RoutingPolicy.markExpired RoutingPolicy.update
  dsimp only
  split <;> simp_all

theorem Kept.markExpired (p : RoutingPolicy τ) (loose : List Nat) (token : Nat) :
    Kept p loose (p.markExpired token) loose none := by
  refine Kept.of_same (sameShape_markExpired p token) (fun last seen => ?_)
    (markExpired_marks p token)
  exact ⟨last, (markExpired_rest p token).2.1.trans seen, le_rfl⟩

/-- No index knows a record that was released. -/
theorem unknown_of_released (indexed : Indexed p loose)
    (released : (p.records token).status = .released) : ¬Known p loose token := by
  rintro (queued | active | member)
  · cases released.symm.trans (indexed.queued queued).1
  · cases released.symm.trans (indexed.active active).1
  · rcases indexed.idle token member with status | status
    · cases released.symm.trans status
    · cases released.symm.trans status

theorem Kept.removeRecord (indexed : Indexed p loose) (known : Known p loose token) :
    Kept p loose (p.removeRecord token) (loose.erase token) none := by
  obtain ⟨-, -, nextToken, -, -, observed, -, -⟩ := removeRecord_rest p token
  have removed := indexed.removeRecord known
  have records := removeRecord_records p token
  have gone : Gone (p.removeRecord token) (loose.erase token) token := by
    have status : ((p.removeRecord token).records token).status = .released := by
      rw [records, if_pos rfl]
    refine ⟨unknown_of_released removed status, status, ?_⟩
    rw [records, if_pos rfl]
  refine
    { nextToken := nextToken.ge
      observed := fun last seen => ⟨last, observed.trans seen, le_rfl⟩
      deadline := fun t _ => ?_
      expired := fun t _ => ?_
      notified := fun t _ => ?_
      queue := fun index t member => ?_
      unknown := fun t _ unknown _ => ?_
      loose := fun t member => ?_ }
  · rw [records]
    split
    · next same => rw [same]
    · rfl
  · rw [records]
    split
    · next same => exact same ▸ id
    · exact id
  · rw [records]
    split
    · next same => exact same ▸ id
    · exact id
  · exact .inl (((removeRecord_queue_sublist p token).drop index).subset member)
  · have other : t ≠ token := fun same => unknown (same ▸ known)
    rw [records, if_neg other]
    refine ⟨?_, rfl, rfl⟩
    rintro (queued | active | member)
    · exact unknown (.inl ((removeRecord_queue_sublist p token).subset queued))
    · exact unknown (.inr (.inl ((removeRecord_active_sublist p token).subset active)))
    · exact unknown (.inr (.inr (List.mem_of_mem_erase member)))
  · by_cases same : t = token
    · exact .inr (same ▸ gone)
    · exact .inl ((List.mem_erase_of_ne same).mpr member)

theorem Kept.shift {rest : List Nat} (queue : p.queue = token :: rest) :
    Kept p loose { p with queue := rest } (token :: loose) none where
  nextToken := le_rfl
  observed last seen := ⟨last, seen, le_rfl⟩
  deadline _ _ := rfl
  expired _ _ := id
  notified _ _ := id
  queue index t member := by
    rw [queue]
    exact .inl (((List.sublist_cons_self token rest).drop index).subset member)
  unknown t _ unknown _ := by
    refine ⟨fun known => unknown ?_, rfl, rfl⟩
    unfold Known at known ⊢
    rw [queue]
    simp only [List.mem_cons] at known ⊢
    tauto
  loose t member := .inl (List.mem_cons_of_mem _ member)

theorem Kept.create (p : RoutingPolicy τ) (loose : List Nat) (record : QueueRecord) :
    Kept p loose { p with nextToken := p.nextToken + 1
                          records := Function.update p.records p.nextToken record } loose none := by
  have old {t : Nat} (born : t < p.nextToken) :
      Function.update p.records p.nextToken record t = p.records t :=
    Function.update_of_ne (Nat.ne_of_lt born) _ _
  refine
    { nextToken := Nat.le_succ _
      observed := fun last seen => ⟨last, seen, le_rfl⟩
      deadline := fun t born => ?_
      expired := fun t born => ?_
      notified := fun t born => ?_
      queue := fun _ _ member => .inl member
      unknown := fun t born unknown _ => ?_
      loose := fun _ member => .inl member }
  · dsimp only
    rw [old born]
  · dsimp only
    rw [old born]
    exact id
  · dsimp only
    rw [old born]
    exact id
  · dsimp only
    rw [old born]
    exact ⟨unknown, rfl, rfl⟩

/-- The record made last is entered. -/
theorem Kept.register {made : RoutingPolicy τ} (kept : Kept p loose made loose none)
    (new : p.nextToken ≤ token) :
    Kept p loose (made.registerRecord token) (token :: loose) none where
  nextToken := kept.nextToken
  observed := kept.observed
  deadline := kept.deadline
  expired := kept.expired
  notified := kept.notified
  queue := kept.queue
  unknown t born unknown other := by
    obtain ⟨unknown', rest⟩ := kept.unknown t born unknown other
    refine ⟨?_, rest⟩
    rintro (queued | active | member)
    · exact unknown' (.inl queued)
    · exact unknown' (.inr (.inl active))
    · rcases List.mem_cons.mp member with rfl | member
      · exact absurd born (not_lt.mpr new)
      · exact unknown' (.inr (.inr member))
  loose _ member := .inl (List.mem_cons_of_mem _ member)

/-- The record in hand gets a lease. -/
theorem Kept.lease (kept : Kept p loose q (token :: loose) none)
    (unleased : (q.records token).lease = none) :
    Kept p loose (leaseOut q token).2 loose none := by
  have leased : (leaseOut q token).2.queue = q.queue ∧
      (leaseOut q token).2.active = q.active ++ [token] ∧
      (leaseOut q token).2.nextToken = q.nextToken ∧
      (leaseOut q token).2.lastObservedNow = q.lastObservedNow ∧
      ∀ t, ((leaseOut q token).2.records t).deadline = (q.records t).deadline ∧
        ((leaseOut q token).2.records t).expired = (q.records t).expired ∧
        ((leaseOut q token).2.records t).expiryNotified = (q.records t).expiryNotified ∧
        (t ≠ token → (leaseOut q token).2.records t = q.records t) := by
    rw [leaseOut, createLease_unleased (by simpa [RoutingPolicy.update] using unleased)]
    refine ⟨rfl, rfl, rfl, rfl, fun t => ?_⟩
    by_cases same : t = token
    · subst same
      simp [RoutingPolicy.update]
    · simp [RoutingPolicy.update, same]
  obtain ⟨queue, active, nextToken, observed, records⟩ := leased
  refine
    { nextToken := nextToken ▸ kept.nextToken
      observed := observed ▸ kept.observed
      deadline := fun t born => (records t).1.trans (kept.deadline t born)
      expired := fun t born expired => (records t).2.1.trans (kept.expired t born expired)
      notified := fun t born notified => (records t).2.2.1.trans (kept.notified t born notified)
      queue := queue ▸ kept.queue
      unknown := fun t born unknown other => ?_
      loose := fun t member => .inl member }
  obtain ⟨unknown', status, lease⟩ := kept.unknown t born unknown other
  have different : t ≠ token := by
    rintro rfl
    exact unknown' (.inr (.inr List.mem_cons_self))
  rw [(records t).2.2.2 different]
  refine ⟨?_, status, lease⟩
  unfold Known
  rw [queue, active, List.mem_append, List.mem_singleton]
  rintro (queued | (active | same) | member)
  · exact unknown' (.inl queued)
  · exact unknown' (.inr (.inl active))
  · exact different same
  · exact unknown' (.inr (.inr (List.mem_cons_of_mem _ member)))

/-- The record that was waiting is queued. -/
theorem Kept.enqueue (waiting : Waiting p loose token) :
    Kept p loose { (p.registerRecord token).update token
        (fun record => { record with status := .queued }) with queue := p.queue ++ [token] }
      loose (some token) := by
  have records (t : Nat) (other : t ≠ token) :
      ((p.registerRecord token).update token (fun record => { record with status := .queued })).records
        t = p.records t := Function.update_of_ne other _ _
  have marks (t : Nat) :
      (((p.registerRecord token).update token fun record =>
        { record with status := .queued }).records t).deadline = (p.records t).deadline ∧
      (((p.registerRecord token).update token fun record =>
        { record with status := .queued }).records t).expired = (p.records t).expired ∧
      (((p.registerRecord token).update token fun record =>
        { record with status := .queued }).records t).expiryNotified =
          (p.records t).expiryNotified := by
    by_cases same : t = token
    · subst same
      simp [RoutingPolicy.update, RoutingPolicy.registerRecord]
    · rw [records t same]
      exact ⟨rfl, rfl, rfl⟩
  refine
    { nextToken := le_rfl
      observed := fun last seen => ⟨last, seen, le_rfl⟩
      deadline := fun t _ => (marks t).1
      expired := fun t _ expired => (marks t).2.1.trans expired
      notified := fun t _ notified => (marks t).2.2.trans notified
      queue := fun index t member => ?_
      unknown := fun t _ unknown other => ?_
      loose := fun t member => .inl member }
  · rw [List.drop_append] at member
    rcases List.mem_append.mp member with member | member
    · exact .inl member
    · exact .inr (by rw [List.mem_singleton.mp (List.mem_of_mem_drop member)])
  · have different : t ≠ token := fun same => other (same ▸ rfl)
    dsimp only
    rw [records t different]
    refine ⟨?_, rfl, rfl⟩
    unfold Known at unknown ⊢
    simp only [List.mem_append, List.mem_singleton, different, or_false]
    exact unknown

end Parts

section Operations

variable {τ : Type} {p q : RoutingPolicy τ} {loose : List Nat} {token : Nat}

/-- An operation leaves the indexes and the other frames what they need, and no loose record. -/
def Leaves (p : RoutingPolicy τ) (loose : List Nat) (q : RoutingPolicy τ) : Prop :=
  ∃ loose' ⊆ loose, Indexed q loose' ∧ Kept p loose q loose' none

theorem Leaves.refl (indexed : Indexed p loose) : Leaves p loose p :=
  ⟨loose, fun _ member => member, indexed, .refl p loose⟩

theorem Indexed.old (indexed : Indexed p loose) :
    ∀ t ∈ loose, t < p.nextToken ∧ none ≠ some t :=
  fun _ member => ⟨indexed.born (.inr (.inr member)), nofun⟩

/-- One operation comes after another. -/
theorem Leaves.trans {r : RoutingPolicy τ} (indexed : Indexed p loose) (first : Leaves p loose q)
    (second : ∀ loose', Indexed q loose' → Kept p loose q loose' none → Leaves q loose' r) :
    Leaves p loose r := by
  obtain ⟨loose', within, indexed', kept⟩ := first
  obtain ⟨loose'', within', indexed'', kept'⟩ := second loose' indexed' kept
  exact ⟨loose'', fun _ member => within (within' member), indexed'', kept.trans kept' (Indexed.old indexed)⟩

theorem Leaves.ticked (indexed : Indexed p loose) (ticked : Ticked p q) : Leaves p loose q :=
  ⟨loose, fun _ member => member, indexed.of_same ticked.shape, .ticked ticked⟩

theorem Leaves.markExpired (indexed : Indexed p loose) (token : Nat) :
    Leaves p loose (p.markExpired token) :=
  ⟨loose, fun _ member => member, indexed.of_same (sameShape_markExpired p token),
    .markExpired p loose token⟩

theorem Leaves.removeRecord (indexed : Indexed p loose) (known : Known p loose token) :
    Leaves p loose (p.removeRecord token) :=
  ⟨loose.erase token, List.erase_subset, indexed.removeRecord known, .removeRecord indexed known⟩

theorem Leaves.request (indexed : Indexed p loose) (token : Nat) :
    Leaves p loose (p.update token fun record => { record with cancellationRequested := true }) := by
  have same := sameShape_update p token
    (fun record => { record with cancellationRequested := true }) fun _ => ⟨rfl, rfl, rfl, rfl⟩
  refine ⟨loose, fun _ member => member, indexed.of_same same,
    .of_same same (fun last seen => ⟨last, seen, le_rfl⟩) fun t => ?_⟩
  unfold RoutingPolicy.update
  by_cases own : t = token
  · subst own
    simp
  · simp [own]

theorem Leaves.cancelQueued (indexed : Indexed p loose) (known : Known p loose token) :
    Leaves p loose (p.cancelQueued token).2 := by
  unfold RoutingPolicy.cancelQueued
  dsimp only
  rw [removeRecord_update]
  exact (Leaves.removeRecord indexed known).trans indexed fun _ indexed' _ =>
    Leaves.request indexed' token

theorem known_ticked (ticked : Ticked p q) (known : Known p loose token) : Known q loose token :=
  (known_of_same ticked.shape token).mpr known

/-- A cancellation removes its record, or marks it. -/
theorem Leaves.cancels {looks : Nat → RoutingQueueEntry τ}
    {answer : Answer τ QueueCancellationDecision} (indexed : Indexed p loose)
    (known : Known p loose token) (cancels : Cancels p looks token answer) :
    Leaves p loose answer.2 := by
  have after {q r : RoutingPolicy τ} (ticked : Ticked p q)
      (next : Indexed q loose → Known q loose token → Leaves q loose r) : Leaves p loose r := by
    obtain ⟨loose', within, indexed', kept⟩ :=
      next (indexed.of_same ticked.shape) (known_ticked ticked known)
    exact ⟨loose', within, indexed', (Kept.ticked ticked).trans kept (Indexed.old indexed)⟩
  cases cancels with
  | failed ticked failed => exact .ticked indexed ticked
  | expired ticked seen idle due =>
    refine after ticked fun indexed' known' => ?_
    exact (Leaves.removeRecord indexed' known').trans indexed' fun _ indexed'' _ =>
      .markExpired indexed'' token
  | expiredActive ticked seen active due =>
    exact after ticked fun indexed' _ => .markExpired indexed' token
  | cancelling ticked seen active early asked =>
    exact after ticked fun indexed' _ => .request indexed' token
  | past ticked seen active early unrequested terminal => exact .ticked indexed ticked
  | cancelled ticked seen queued early =>
    exact after ticked fun indexed' known' => .cancelQueued indexed' known'
  | stale ticked seen queued early stale =>
    exact after ticked fun indexed' known' => .removeRecord indexed' known'
  | idle ticked seen unqueued inactive early => exact .ticked indexed ticked

theorem findRecord_known {target : QueueHandle} {requestId : Option JsString}
    (indexed : Indexed p loose) (found : p.findRecord target requestId = .found token) :
    Known p loose token := by
  have shelved : (shelve p loose).findRecord target requestId = .found token := by
    rw [← found]
    unfold RoutingPolicy.findRecord RoutingPolicy.lookupTarget RoutingPolicy.findReference
      RoutingPolicy.lookupEntryRecords
    simp only [shelve_entryOf]
    rfl
  exact (held_shelve token).mp (findRecord_held indexed.inv shelved)

theorem lookupRequest_known {requestId : JsString} (indexed : Indexed p loose)
    (found : World.lookupRequest p requestId = .found token) : Known p loose token := by
  have lists := indexed.requestIds requestId
  unfold World.lookupRequest at found
  rcases listed : p.requestIds requestId with _ | ⟨_ | ⟨t, _ | ⟨second, rest⟩⟩⟩ <;>
    rw [listed] at found lists <;> cases found
  exact (lists.held List.mem_cons_self).1

theorem Leaves.release (indexed : Indexed p loose) (target : QueueHandle)
    (requestId : Option JsString) : Leaves p loose (p.release target requestId).2 := by
  unfold RoutingPolicy.release
  cases found : p.findRecord target requestId with
  | notFound => exact .refl indexed
  | ambiguous => exact .refl indexed
  | found token =>
    dsimp only
    split
    · exact .refl indexed
    · exact .removeRecord indexed (findRecord_known indexed found)

/-- An entry object changes; the id and the request id of a retained one do not. -/
theorem Leaves.change (indexed : Indexed p loose) (entry : EntryId) (object : RoutingQueueEntry τ)
    (names : (p.entries entry).isNone = true ∨
      object.id = (p.objects entry).id ∧ object.requestId = (p.objects entry).requestId) :
    Leaves p loose { p with objects := Function.update p.objects entry object } := by
  refine ⟨loose, fun _ member => member, ⟨indexed.queueBound, indexed.idle, ?_⟩,
    { Kept.refl p loose with loose := fun _ member => .inl member }⟩
  refine indexed.inv.change entry object fun t held own => ?_
  rcases names with absent | same
  · have lists := indexed.entries entry
    rw [Option.isNone_iff_eq_none.mp absent] at lists
    rw [held_shelve] at held
    exact absurd ⟨held, by simpa [shelve] using own⟩ (lists t)
  · exact same

end Operations

section Admissions

variable {τ : Type} {p q : RoutingPolicy τ} {loose : List Nat} {token : Nat}

/-- What `createRecord` comes to. -/
def Makes (p : RoutingPolicy τ) (loose : List Nat) : Answer τ Nat → Prop
  | (.error _, q) => Leaves p loose q
  | (.ok token, q) => p.nextToken ≤ token ∧ Indexed q loose ∧ Kept p loose q loose none ∧
      Fresh q loose token ∧ q.monotonicNow = p.monotonicNow ∧ q.reading = p.reading

theorem createRecord_makes (indexed : Indexed p loose) (host : Host) (entry : EntryId)
    (uuids : List JsString) : Makes p loose (p.createRecord host entry uuids) := by
  unfold RoutingPolicy.createRecord
  dsimp only
  split
  · exact Leaves.refl indexed
  · split
    · exact Leaves.refl indexed
    · next handle found =>
      have free : p.handles handle = none := by
        have unnamed := List.find?_some found
        rwa [Option.isNone_iff_eq_none] at unnamed
      have unknown : ¬Known p loose p.nextToken := fun known =>
        Nat.lt_irrefl _ (indexed.born known)
      cases deadline : resolveDeadline host (p.objects entry).expiresAt with
      | error error =>
        have made := indexed.create (p.records p.nextToken)
        have kept := Kept.create p loose (p.records p.nextToken)
        rw [Function.update_eq_self] at made kept
        exact ⟨loose, fun _ member => member, made, kept⟩
      | ok deadline =>
        refine ⟨le_rfl, indexed.create _, .create p loose _, ⟨Nat.lt_succ_self _, unknown, ?_, ?_, ?_⟩,
          rfl, rfl⟩
        · simpa [RoutingPolicy.update] using free
        · simp [RoutingPolicy.update]
        · simp [RoutingPolicy.update]

/-- What a claim of the record in hand comes to. -/
def Claims (p : RoutingPolicy τ) (loose : List Nat) (q : RoutingPolicy τ) (token : Nat) :
    Answer τ (Option QueueLease) → Prop
  | (.error _, r) => ClockFailed q.monotonicNow q.reading r.reading ∧ Indexed r (token :: loose) ∧
      Kept p loose r (token :: loose) none
  | (.ok (some _), r) => Indexed r loose ∧ Kept p loose r loose none
  | (.ok none, r) => Ticked q r ∧ Indexed r (token :: loose) ∧ Kept p loose r (token :: loose) none

theorem claimRecord_claims (indexed : Indexed p loose) (held : Indexed q (token :: loose))
    (kept : Kept p loose q (token :: loose) none) :
    Claims p loose q token (q.claimRecord token) := by
  have after {r : RoutingPolicy τ} (ticked : Ticked q r) :
      Indexed r (token :: loose) ∧ Kept p loose r (token :: loose) none :=
    ⟨held.of_same ticked.shape, kept.trans (.ticked ticked) (Indexed.old indexed)⟩
  rcases claimRecord_cases q token with ⟨r, ticked, refused⟩ | ⟨r, error, ticked, failed, raised⟩ |
    ⟨r, now, ticked, seen, runnable, free, leased⟩
  · rw [refused]
    exact ⟨ticked, after ticked⟩
  · rw [raised]
    exact ⟨failed, after ticked⟩
  · rw [leased]
    obtain ⟨held', kept'⟩ := after ticked
    have free' : r.active.length < r.activeCapacity := by
      rw [ticked.active, ticked.shape.activeCapacity]
      exact free
    have indexed' := held'.lease List.mem_cons_self free'
    rw [List.erase_cons_head] at indexed'
    exact ⟨indexed', kept'.lease (held'.unleased List.mem_cons_self)⟩

/-- The record in hand is removed. -/
theorem Kept.drop (indexed : Indexed p loose) (held : Indexed q (token :: loose))
    (kept : Kept p loose q (token :: loose) none) :
    Indexed (q.removeRecord token) loose ∧ Kept p loose (q.removeRecord token) loose none := by
  have known : Known q (token :: loose) token := .inr (.inr List.mem_cons_self)
  have removed := held.removeRecord known
  have kept' := kept.trans (.removeRecord held known) (Indexed.old indexed)
  rw [List.erase_cons_head] at removed kept'
  exact ⟨removed, kept'⟩

/-- The record just made is started immediately, or refused; a clock that fails leaves it behind. -/
theorem admitActive_leaves (indexed : Indexed p loose) (made : Indexed q loose)
    (kept : Kept p loose q loose none) (new : p.nextToken ≤ token) (fresh : Fresh q loose token) :
    Leaves p loose (q.admitActive token).2 ∨
      ClockFailed q.monotonicNow q.reading (q.admitActive token).2.reading ∧
        Indexed (q.admitActive token).2 (token :: loose) ∧
        Kept p loose (q.admitActive token).2 (token :: loose) none := by
  unfold RoutingPolicy.admitActive
  split
  · exact .inl ⟨loose, fun _ member => member, made, kept⟩
  have claims := claimRecord_claims indexed (made.registerRecord fresh) (kept.register new)
  rcases claim : (q.registerRecord token).claimRecord token with ⟨_ | _ | lease, r⟩ <;>
    rw [claim] at claims
  · exact .inr claims
  · obtain ⟨-, held, kept'⟩ := claims
    obtain ⟨removed, kept''⟩ := Kept.drop indexed held kept'
    exact .inl ⟨loose, fun _ member => member, removed, kept''⟩
  · exact .inl ⟨loose, fun _ member => member, claims⟩

end Admissions

section Steps

variable {τ : Type} {p q : RoutingPolicy τ} {loose loose' notified : List Nat} {token : Nat}
  {stack rest : List Frame} {frame : Frame}

/-- The policy between two steps of the operations under way. -/
structure Sound (p : RoutingPolicy τ) (loose : List Nat) (stack : List Frame) (notified : List Nat) :
    Prop where
  indexed : Indexed p loose
  holds : ∀ frame ∈ stack, frame.Holds p loose
  above : stack.Pairwise Above
  once : notified.Nodup
  marked : ∀ t ∈ notified, t < p.nextToken ∧ (p.records t).expiryNotified = true

theorem Sound.pop (sound : Sound p loose (frame :: rest) notified) : Sound p loose rest notified :=
  { sound with
    holds := fun frame member => sound.holds frame (List.mem_cons_of_mem _ member)
    above := (List.pairwise_cons.mp sound.above).2 }

theorem Sound.push (sound : Sound p loose rest notified) (holds : frame.Holds p loose)
    (above : ∀ below ∈ rest, Above frame below) : Sound p loose (frame :: rest) notified :=
  { sound with
    holds := List.forall_mem_cons.mpr ⟨holds, sound.holds⟩
    above := List.pairwise_cons.mpr ⟨above, sound.above⟩ }

theorem Sound.next {entering : Option Nat} (sound : Sound p loose stack notified)
    (kept : Kept p loose q loose' entering) (indexed : Indexed q loose')
    (admits : ∀ t, entering = some t → ∀ frame ∈ stack, frame.Admits q t) :
    Sound q loose' stack notified where
  indexed := indexed
  holds frame member :=
    (sound.holds frame member).kept (fun _ queued => sound.indexed.born (.inl queued)) kept
      fun t same => admits t same frame member
  above := sound.above
  once := sound.once
  marked t member := by
    obtain ⟨born, marked⟩ := sound.marked t member
    exact ⟨born.trans_le kept.nextToken, kept.notified t born marked⟩

/-- The callback is called for a record it has not been called for. -/
theorem Sound.notify (sound : Sound p loose stack notified) (kept : Kept p loose q loose' none)
    (indexed : Indexed q loose') (born : token < p.nextToken)
    (before : (p.records token).expiryNotified = false)
    (after : (q.records token).expiryNotified = true) :
    Sound q loose' stack (notified ++ [token]) := by
  have next := sound.next kept indexed nofun
  have unmarked : token ∉ notified := fun member =>
    Bool.false_ne_true (before.symm.trans (sound.marked token member).2)
  refine { next with once := ?_, marked := fun t member => ?_ }
  · exact List.nodup_append.mpr ⟨next.once, List.nodup_singleton token, fun t member t' last same =>
      unmarked (by rw [← List.mem_singleton.mp last, ← same]; exact member)⟩
  · rcases List.mem_append.mp member with member | last
    · exact next.marked t member
    · rw [List.mem_singleton.mp last]
      exact ⟨born.trans_le kept.nextToken, after⟩

theorem Sound.markExpired (sound : Sound p loose stack notified) (born : token < p.nextToken) :
    Sound (p.markExpired token) loose stack
      (if (p.records token).expiryNotified then notified else notified ++ [token]) := by
  have kept := Kept.markExpired p loose token
  have indexed := sound.indexed.of_same (sameShape_markExpired p token)
  split
  next => exact sound.next kept indexed nofun
  next before =>
    exact sound.notify kept indexed born (Bool.not_eq_true _ ▸ before)
      (markExpired_expired p token).2

/-- Every loose record is one that an operation has in hand, if that is `tidy`. -/
def Owned (tidy : Prop) (loose : List Nat) (stack : List Frame) : Prop :=
  tidy → ∀ t ∈ loose, Frame.dropping t ∈ stack

theorem Owned.mono {tidy : Prop} {stack' : List Frame} (owned : Owned tidy loose stack)
    (within : loose' ⊆ loose) (kept : ∀ t, Frame.dropping t ∈ stack → Frame.dropping t ∈ stack') :
    Owned tidy loose' stack' :=
  fun holds t member => kept t (owned holds t (within member))

theorem dropping_pop (other : ∀ t, frame ≠ .dropping t) (t : Nat)
    (member : Frame.dropping t ∈ frame :: rest) : Frame.dropping t ∈ rest := by
  rcases List.mem_cons.mp member with same | member
  · exact absurd same.symm (other t)
  · exact member

/-- What holds after every step. -/
structure Stable (tidy : Prop) (w : World τ) : Prop where
  sound : ∃ loose, Sound w.policy loose w.stack w.notified ∧ Owned tidy loose w.stack
  skipped : w.skipped = []
  faulted : tidy → w.faulted = false

/-- Where a handle drawn before a callback is still free when the record is queued: no admission
during the callback has drawn it too. -/
def FreshHandles (w : World τ) : Event τ → Prop
  | .run => match w.stack with
    | .sweepingActive { now, after := .enqueue token, .. } visited :: _ =>
      w.calling = false → (∀ t ∈ w.policy.active, t ∈ visited) →
        w.policy.isRunnableRecord token now = true →
        w.policy.queue.length < w.policy.queueCapacity →
        w.policy.handles (w.policy.records token).handle = none
    | _ => True
  | _ => True

/-- The record that a callback has returned to is there, the clock gives a time while a lease is
handed out, and no callback throws while `dequeue` drops its record, unless it has removed it. -/
def Undisturbed (host : Host) (w : World τ) : Event τ → Prop
  | .run => w.calling = false → match w.stack with
    | .sweepingQueue _ index :: _ => index ≤ w.policy.queue.length
    | .dequeuing :: _ | .sweepingActive { after := .admission _ true _, .. } _ :: _ =>
      ¬ClockFailed w.policy.monotonicNow w.policy.reading (w.run host).policy.reading
    | _ => True
  | .thrown => w.calling = true → match w.stack with
    | .dropping token :: _ => (w.policy.records token).status = .released
    | _ => True
  | _ => True

/-- The conditions under which the policy tolerates its callback. -/
def Tolerated (host : Host) (w : World τ) (event : Event τ) : Prop :=
  FreshHandles w event ∧ Undisturbed host w event

theorem Sweep.Holds.look {sweep : Sweep} (holds : sweep.Holds p loose) (token : Nat) :
    Sweep.Holds { sweep with looked := token :: sweep.looked } p loose :=
  ⟨holds.observed, holds.since, holds.waiting⟩

theorem Above.look {sweep : Sweep} {index : Nat} (above : Above (.sweepingQueue sweep index) frame)
    (token left : Nat) :
    Above (.sweepingQueue { sweep with looked := token :: sweep.looked } left) frame := by
  rintro _ ⟨⟩ below inner
  exact above sweep rfl below inner

/-- The sweep is past one more record of the queue, which is gone or not due. -/
theorem Sweep.Past.look {sweep : Sweep} {index : Nat}
    (past : sweep.Past p (p.queue.drop (index + 1))) (here : p.queue[index]? = some token)
    (within : ∀ t ∈ q.queue.drop index, t ∈ p.queue.drop index)
    (deadline : ∀ t ∈ p.queue, (q.records t).deadline = (p.records t).deadline)
    (own : token ∈ q.queue → sweep.now < (p.records token).deadline) :
    Sweep.Past { sweep with looked := token :: sweep.looked } q (q.queue.drop index) := by
  obtain ⟨bound, rfl⟩ := List.getElem?_eq_some_iff.mp here
  intro t member
  have old := within t member
  rw [deadline t (List.mem_of_mem_drop old)]
  rw [List.drop_eq_getElem_cons bound] at old
  rcases List.mem_cons.mp old with rfl | old
  · exact ⟨.inl List.mem_cons_self, own (List.mem_of_mem_drop member)⟩
  · obtain ⟨seen, later⟩ := past t old
    exact ⟨seen.imp_left (List.mem_cons_of_mem _), later⟩

/-- One record of the queue is looked at. -/
theorem Stable.sweepQueue {tidy : Prop} {w : World τ} {sweep : Sweep} {index : Nat}
    (stable : Stable tidy w) (host : Host) (top : w.stack = .sweepingQueue sweep index :: rest)
    (there : tidy → index ≤ w.policy.queue.length) : Stable tidy (w.run host) := by
  obtain ⟨loose, sound, owned⟩ := stable.sound
  rw [top] at sound owned
  have ⟨holds, past⟩ := sound.holds _ List.mem_cons_self
  have above := (List.pairwise_cons.mp sound.above).1
  have above' (token left : Nat) := fun frame member => (above frame member).look token left
  have below := sound.pop
  have pop : ∀ t, Frame.dropping t ∈ .sweepingQueue sweep index :: rest → Frame.dropping t ∈ rest :=
    dropping_pop nofun
  unfold World.run
  rw [top]
  cases index with
  | zero =>
    refine ⟨⟨loose, below.push ⟨holds, ?_, nofun⟩ above, owned.mono (List.Subset.refl _) ?_⟩,
      stable.skipped, stable.faulted⟩
    · exact past
    · exact fun t member => List.mem_cons_of_mem _ (pop t member)
  | succ index =>
    dsimp only
    cases here : w.policy.queue[index]? with
    | none =>
      refine ⟨⟨loose, below, owned.mono (List.Subset.refl _) pop⟩, stable.skipped, fun holds => ?_⟩
      have bound := there holds
      rw [List.getElem?_eq_none_iff] at here
      omega
    | some token =>
      have queued : token ∈ w.policy.queue := List.mem_of_getElem? here
      have known : Known w.policy loose token := .inl queued
      have born := sound.indexed.born known
      have kept := Kept.removeRecord sound.indexed known
      have removed := sound.indexed.removeRecord known
      have absent : token ∉ (w.policy.removeRecord token).queue := fun member =>
        unknown_of_released removed (by rw [removeRecord_records, if_pos rfl]) (.inl member)
      have within : ∀ t ∈ (w.policy.removeRecord token).queue.drop index,
          t ∈ w.policy.queue.drop index := fun t member =>
        ((removeRecord_queue_sublist w.policy token).drop index).subset member
      have deadline : ∀ t ∈ w.policy.queue, ((w.policy.removeRecord token).records t).deadline =
          (w.policy.records t).deadline := fun t member =>
        kept.deadline t (sound.indexed.born (.inl member))
      have push : ∀ t, Frame.dropping t ∈ .sweepingQueue sweep (index + 1) :: rest →
          Frame.dropping t ∈ .sweepingQueue { sweep with looked := token :: sweep.looked } index ::
            rest := fun t member => List.mem_cons_of_mem _ (pop t member)
      have taken : Sound (w.policy.removeRecord token) (loose.erase token)
          (.sweepingQueue { sweep with looked := token :: sweep.looked } index :: rest) w.notified :=
        (below.next kept removed nofun).push
          ⟨(holds.kept kept nofun).look token,
            past.look here within deadline fun member => absurd member absent⟩
          (above' token index)
      dsimp only
      split
      next due =>
        refine ⟨⟨loose.erase token, taken.markExpired ?_, owned.mono List.erase_subset push⟩,
          stable.skipped, stable.faulted⟩
        exact born.trans_le kept.nextToken
      next early =>
        split
        next stale =>
          exact ⟨⟨loose.erase token, taken, owned.mono List.erase_subset push⟩, stable.skipped,
            stable.faulted⟩
        next runnable =>
          refine ⟨⟨loose, below.push ⟨holds.look token, ?_⟩ (above' token index), owned.mono (List.Subset.refl _) push⟩,
            stable.skipped, stable.faulted⟩
          exact past.look here (fun _ member => member) (fun _ _ => rfl) fun _ => not_le.mp early

theorem Frame.Holds.sweeps {frame : Frame} (holds : frame.Holds p loose) :
    ∀ sweep ∈ frame.sweep?, sweep.Holds p loose := by
  cases frame with
  | sweepingQueue sweep index =>
    rintro _ ⟨⟩
    exact holds.1
  | sweepingActive sweep visited =>
    rintro _ ⟨⟩
    exact holds.1
  | dequeuing => nofun
  | dropping token => nofun
  | cancelling => nofun

/-- A sweep begins at the time just observed. -/
theorem Sound.startSweep {now : ℚ} {after : After} (sound : Sound p loose rest notified)
    (seen : p.lastObservedNow = some now)
    (waiting : ∀ token, after = .enqueue token → token < p.nextToken ∧ Waiting p loose token ∧
      ∀ frame ∈ rest, ∀ below ∈ frame.sweep?, below.since ≤ token) :
    Sound p loose (.sweepingQueue ⟨now, p.nextToken, [], after⟩ p.queue.length :: rest) notified := by
  refine sound.push ⟨⟨⟨now, seen, le_rfl⟩, le_rfl, fun token same => ?_⟩, fun t member => ?_⟩ ?_
  · obtain ⟨born, waits, -⟩ := waiting token same
    exact ⟨born, waits⟩
  · simp at member
  · rintro frame member _ ⟨⟩ below inner
    obtain ⟨last, seen', le⟩ := ((sound.holds frame member).sweeps below inner).observed
    cases seen.symm.trans seen'
    exact ⟨le, fun token same => (waiting token same).2.2 frame member below inner⟩

/-- A sweep that has ended has skipped nothing. -/
theorem Sweep.skips_nil {sweep : Sweep} {visited : List Nat}
    (holds : Frame.Holds p loose (.sweepingActive sweep visited))
    (all : ∀ t ∈ p.active, t ∈ visited) : sweep.skips p = [] := by
  obtain ⟨-, past, marked⟩ := holds
  unfold Sweep.skips
  rw [List.append_eq_nil_iff, List.filter_eq_nil_iff, List.filter_eq_nil_iff]
  constructor
  · intro t queued
    obtain ⟨seen, later⟩ := past t queued
    rcases seen with looked | new
    · simp [later, looked]
    · simp [later, new]
  · intro t active due
    rw [Bool.and_eq_true, decide_eq_true_iff] at due
    have expired := (marked t (all t active)).2 due.1
    simp [expired] at due

/-- The record that was waiting is queued. -/
theorem Sound.enqueue {now : ℚ} (sound : Sound p loose rest notified)
    (waiting : Waiting p loose token) (born : token < p.nextToken)
    (free : p.handles (p.records token).handle = none) (room : p.queue.length < p.queueCapacity)
    (runnable : p.isRunnableRecord token now = true)
    (above : ∀ frame ∈ rest, ∀ below ∈ frame.sweep?, below.now ≤ now ∧ below.since ≤ token) :
    Sound { (p.registerRecord token).update token
        (fun record => { record with status := .queued }) with queue := p.queue ++ [token] }
      loose rest notified := by
  have fresh : Fresh p loose token := ⟨born, waiting.unknown, free, waiting.status, waiting.lease⟩
  have indexed := (sound.indexed.registerRecord fresh).push List.mem_cons_self room
  rw [List.erase_cons_head] at indexed
  have kept := Kept.enqueue waiting
  refine sound.next kept indexed fun t same frame member => ?_
  obtain rfl := Option.some.inj same
  have later (below : Sweep) (inner : below ∈ frame.sweep?) : below.since ≤ token ∧
      below.now < (p.records token).deadline := by
    obtain ⟨earlier, old⟩ := above frame member below inner
    refine ⟨old, earlier.trans_lt ?_⟩
    unfold RoutingPolicy.isRunnableRecord at runnable
    simp only [Bool.and_eq_true, decide_eq_true_eq] at runnable
    exact runnable.1.1.2
  have deadline := kept.deadline token born
  cases frame with
  | sweepingQueue sweep index =>
    unfold Frame.Admits
    rw [deadline]
    exact later sweep rfl
  | sweepingActive sweep visited =>
    unfold Frame.Admits
    rw [deadline]
    exact later sweep rfl
  | dropping dropped =>
    rintro rfl
    rcases (sound.holds _ member).2 with pending | gone
    · exact waiting.unknown (.inr (.inr pending))
    · cases waiting.status.symm.trans gone.status
  | dequeuing => trivial
  | cancelling => trivial

/-- The innermost operation ends and has left no more records loose. -/
theorem Stable.ends {tidy : Prop} {w : World τ} (stable : Stable tidy w)
    (sound : Sound w.policy loose rest w.notified) (owned : Owned tidy loose rest)
    (leaves : Leaves w.policy loose q) : Stable tidy (w.finish rest q) := by
  obtain ⟨loose', within, indexed, kept⟩ := leaves
  exact ⟨⟨loose', sound.next kept indexed nofun, owned.mono within fun _ => id⟩, stable.skipped,
    stable.faulted⟩

/-- The operation goes on after its sweep. -/
theorem Stable.afterSweep {tidy : Prop} {w : World τ} {sweep : Sweep} (stable : Stable tidy w)
    (host : Host) (sound : Sound w.policy loose rest w.notified) (owned : Owned tidy loose rest)
    (holds : sweep.Holds w.policy loose)
    (above : ∀ frame ∈ rest, ∀ below ∈ frame.sweep?,
      below.now ≤ sweep.now ∧ ∀ token, sweep.after = .enqueue token → below.since ≤ token)
    (free : ∀ token, sweep.after = .enqueue token →
      w.policy.isRunnableRecord token sweep.now = true →
      w.policy.queue.length < w.policy.queueCapacity →
      w.policy.handles (w.policy.records token).handle = none)
    (clock : tidy → ∀ entry uuids, sweep.after = .admission entry true uuids →
      ¬ClockFailed w.policy.monotonicNow w.policy.reading
        (w.afterSweep host sweep rest w.policy).policy.reading) :
    Stable tidy (w.afterSweep host sweep rest w.policy) := by
  have indexed := sound.indexed
  unfold World.afterSweep at clock ⊢
  cases after : sweep.after with
  | finish => exact stable.ends sound owned (.refl indexed)
  | dequeue =>
    dsimp only
    split
    · exact stable.ends sound owned (.refl indexed)
    · refine ⟨⟨loose, sound.push trivial nofun, owned.mono (List.Subset.refl _) fun t member => ?_⟩,
        stable.skipped, stable.faulted⟩
      exact List.mem_cons_of_mem _ member
  | admission entry startImmediately uuids =>
    rw [after] at clock
    have makes := createRecord_makes indexed host entry uuids
    dsimp only at clock ⊢
    rcases created : w.policy.createRecord host entry uuids with ⟨_ | token, q⟩ <;>
      rw [created] at makes clock
    · exact stable.ends sound owned makes
    obtain ⟨new, made, kept, fresh, same, same'⟩ := makes
    have leaves : Leaves w.policy loose q := ⟨loose, fun _ member => member, made, kept⟩
    dsimp only at clock ⊢
    split
    · exact stable.ends sound owned leaves
    next runnable =>
      cases startImmediately with
      | true =>
        rw [if_neg runnable] at clock
        simp only [↓reduceIte] at clock ⊢
        rcases admitActive_leaves indexed made kept new fresh with left | ⟨failed, held, kept'⟩
        · exact stable.ends sound owned left
        · rw [same, same'] at failed
          refine ⟨⟨token :: loose, sound.next kept' held nofun, fun holds => ?_⟩, stable.skipped,
            stable.faulted⟩
          exact absurd failed (clock holds entry uuids rfl)
      | false =>
        simp only [Bool.false_eq_true, ↓reduceIte]
        rcases read : q.readMonotonicNow none with ⟨_ | now, r⟩
        · have ticked := readMonotonicNow_raised read
          exact stable.ends sound owned
            ⟨loose, fun _ member => member, made.of_same ticked.shape,
              kept.trans (.ticked ticked) (Indexed.old indexed)⟩
        · obtain ⟨ticked, seen⟩ := readMonotonicNow_seen read
          have kept' := kept.trans (.ticked ticked) (Indexed.old indexed)
          have sound' := sound.next kept' (made.of_same ticked.shape) nofun
          refine ⟨⟨loose, sound'.startSweep seen ?_, owned.mono (List.Subset.refl _) ?_⟩,
            stable.skipped, stable.faulted⟩
          · rintro _ ⟨⟩
            have waiting : Waiting q loose token := ⟨fresh.unknown, fresh.status, fresh.lease⟩
            have born : token < r.nextToken := by
              rw [ticked.shape.nextToken]
              exact fresh.born
            refine ⟨born, waiting.kept fresh.born (.ticked ticked) nofun, fun frame member below inner => ?_⟩
            exact ((sound.holds frame member).sweeps below inner).since.trans new
          · exact fun t member => List.mem_cons_of_mem _ member
  | enqueue token =>
    obtain ⟨born, waiting⟩ := holds.waiting token after
    dsimp only
    split
    · exact stable.ends sound owned (.refl indexed)
    next runnable =>
      split
      · exact stable.ends sound owned (.refl indexed)
      next full =>
        have runnable' : w.policy.isRunnableRecord token sweep.now = true := by simpa using runnable
        have room := not_le.mp full
        refine ⟨⟨loose, sound.enqueue waiting (born.trans_le holds.since)
          (free token after runnable' room) room runnable' ?_, owned⟩, stable.skipped, stable.faulted⟩
        intro frame member below inner
        obtain ⟨earlier, old⟩ := above frame member below inner
        exact ⟨earlier, old token after⟩

theorem FreshHandles.free {w : World τ} {sweep : Sweep} {visited : List Nat}
    (fresh : FreshHandles w .run) (idle : w.calling = false)
    (top : w.stack = .sweepingActive sweep visited :: rest) (after : sweep.after = .enqueue token)
    (all : ∀ t ∈ w.policy.active, t ∈ visited) :
    w.policy.isRunnableRecord token sweep.now = true →
      w.policy.queue.length < w.policy.queueCapacity →
      w.policy.handles (w.policy.records token).handle = none := by
  obtain ⟨now, since, looked, _⟩ := sweep
  cases after
  unfold FreshHandles at fresh
  rw [top] at fresh
  exact fresh idle all

theorem Undisturbed.clock {host : Host} {w : World τ} {sweep : Sweep} {visited : List Nat}
    {entry : EntryId} {uuids : List JsString} (undisturbed : Undisturbed host w .run)
    (idle : w.calling = false) (top : w.stack = .sweepingActive sweep visited :: rest)
    (after : sweep.after = .admission entry true uuids) :
    ¬ClockFailed w.policy.monotonicNow w.policy.reading (w.run host).policy.reading := by
  obtain ⟨now, since, looked, _⟩ := sweep
  cases after
  have quiet := undisturbed idle
  rwa [top] at quiet

/-- One active record is looked at, or the sweep ends. -/
theorem Stable.sweepActive {tidy : Prop} {w : World τ} {sweep : Sweep} {visited : List Nat}
    (stable : Stable tidy w) (host : Host) (idle : w.calling = false)
    (top : w.stack = .sweepingActive sweep visited :: rest) (fresh : FreshHandles w .run)
    (undisturbed : tidy → Undisturbed host w .run) : Stable tidy (w.run host) := by
  obtain ⟨loose, sound, owned⟩ := stable.sound
  rw [top] at sound owned
  have holds := sound.holds _ List.mem_cons_self
  have ⟨sweeps, past, marked⟩ := holds
  have above := (List.pairwise_cons.mp sound.above).1
  have below := sound.pop
  have pop : ∀ t, Frame.dropping t ∈ .sweepingActive sweep visited :: rest →
      Frame.dropping t ∈ rest := dropping_pop nofun
  cases found : w.policy.active.find? (· ∉ visited) with
  | none =>
    have all : ∀ t ∈ w.policy.active, t ∈ visited := by simpa using found
    have ran : w.run host = w.afterSweep host sweep rest w.policy := by
      unfold World.run
      rw [top]
      dsimp only
      rw [found, Sweep.skips_nil holds all, List.append_nil, ← top]
    rw [ran]
    refine stable.afterSweep host below (owned.mono (List.Subset.refl _) pop) sweeps ?_ ?_ ?_
    · exact fun frame member outer inner => above frame member sweep rfl outer inner
    · exact fun token after => fresh.free idle top after all
    · intro tidy entry uuids after
      rw [← ran]
      exact (undisturbed tidy).clock idle top after
  | some token =>
    have active : token ∈ w.policy.active := List.mem_of_find?_eq_some found
    have born := sound.indexed.born (.inr (.inl active))
    have push : ∀ t, Frame.dropping t ∈ .sweepingActive sweep visited :: rest →
        Frame.dropping t ∈ .sweepingActive sweep (token :: visited) :: rest :=
      fun t member => List.mem_cons_of_mem _ (pop t member)
    have above' : ∀ frame ∈ rest, Above (.sweepingActive sweep (token :: visited)) frame := above
    unfold World.run
    rw [top]
    dsimp only
    rw [found]
    dsimp only
    split
    next due =>
      have kept := Kept.markExpired w.policy loose token
      refine ⟨⟨loose, (below.markExpired born).push ?_ above', owned.mono (List.Subset.refl _) push⟩,
        stable.skipped, stable.faulted⟩
      obtain ⟨sweeps', past', marked'⟩ :=
        holds.kept (fun _ queued => sound.indexed.born (.inl queued)) kept nofun
      refine ⟨sweeps', past', List.forall_mem_cons.mpr ⟨⟨?_, fun _ => ?_⟩, marked'⟩⟩
      · exact born.trans_le kept.nextToken
      · exact (markExpired_expired w.policy token).1
    next handled =>
      refine ⟨⟨loose, below.push ⟨sweeps, past, ?_⟩ above', owned.mono (List.Subset.refl _) push⟩,
        stable.skipped, stable.faulted⟩
      refine List.forall_mem_cons.mpr ⟨⟨born, fun due => ?_⟩, marked⟩
      by_contra unexpired
      exact handled ⟨due, Bool.not_eq_true _ ▸ unexpired⟩

/-- One round of `dequeue`. -/
theorem Stable.dequeue {tidy : Prop} {w : World τ} (stable : Stable tidy w) (host : Host)
    (idle : w.calling = false) (top : w.stack = .dequeuing :: rest)
    (undisturbed : tidy → Undisturbed host w .run) : Stable tidy (w.run host) := by
  obtain ⟨loose, sound, owned⟩ := stable.sound
  rw [top] at sound owned
  have below := sound.pop
  have indexed := sound.indexed
  replace owned : Owned tidy loose rest := owned.mono (List.Subset.refl _) (dropping_pop nofun)
  have clock : tidy →
      ¬ClockFailed w.policy.monotonicNow w.policy.reading (w.run host).policy.reading := by
    intro holds
    have quiet := undisturbed holds idle
    rwa [top] at quiet
  unfold World.run at clock ⊢
  rw [top] at clock ⊢
  dsimp only at clock ⊢
  cases queue : w.policy.queue with
  | nil => exact stable.ends below owned (.refl indexed)
  | cons token queue' =>
    rw [queue] at clock
    dsimp only at clock ⊢
    have shifted : Kept w.policy loose _ (token :: loose) none := .shift queue
    have claims := claimRecord_claims indexed (indexed.shift queue) shifted
    rcases claim : ({ w.policy with queue := queue' } : RoutingPolicy τ).claimRecord token with
        ⟨_ | _ | lease, q⟩ <;> rw [claim] at claims clock
    · obtain ⟨failed, held, kept⟩ := claims
      refine ⟨⟨token :: loose, below.next kept held nofun, fun holds => ?_⟩, stable.skipped,
        stable.faulted⟩
      exact absurd failed (clock holds)
    · obtain ⟨ticked, held, kept⟩ := claims
      dsimp only at clock ⊢
      split
      next full =>
        have restored : Ticked w.policy { q with queue := token :: q.queue } := by
          refine ⟨?_, ticked.reading, ticked.observed⟩
          have same := congrArg (fun q : RoutingPolicy τ => { q with queue := token :: q.queue })
            ticked.same
          dsimp only at same ⊢
          rw [same, ← queue]
        exact stable.ends below owned (.ticked indexed restored)
      next =>
        have member : token ∈ token :: loose := List.mem_cons_self
        split
        next due =>
          have sound' := below.next kept held nofun
          have born : token < q.nextToken := held.born (.inr (.inr member))
          have dropping : Sound q (token :: loose) (.dropping token :: rest) w.notified :=
            sound'.push ⟨born, .inl member⟩ nofun
          refine ⟨⟨token :: loose, dropping.markExpired born, fun holds t member => ?_⟩,
            stable.skipped, stable.faulted⟩
          rcases List.mem_cons.mp member with rfl | member
          · exact List.mem_cons_self
          · exact List.mem_cons_of_mem _ (owned holds t member)
        next =>
          obtain ⟨removed, kept'⟩ := Kept.drop indexed held kept
          refine ⟨⟨loose, (below.next kept' removed nofun).push trivial nofun, fun holds t member => ?_⟩,
            stable.skipped, stable.faulted⟩
          exact List.mem_cons_of_mem _ (owned holds t member)
    · exact stable.ends below owned ⟨loose, fun _ member => member, claims⟩

/-- `dequeue` removes the record its callback was told of, or finds it gone. -/
theorem Stable.drop {tidy : Prop} {w : World τ} (stable : Stable tidy w) (host : Host)
    (top : w.stack = .dropping token :: rest) : Stable tidy (w.run host) := by
  obtain ⟨loose, sound, owned⟩ := stable.sound
  rw [top] at sound owned
  have indexed := sound.indexed
  have below := sound.pop
  obtain ⟨born, pending⟩ := sound.holds _ List.mem_cons_self
  have pop (t : Nat) (other : t ≠ token) (member : Frame.dropping t ∈ .dropping token :: rest) :
      Frame.dropping t ∈ .dequeuing :: rest := by
    rcases List.mem_cons.mp member with same | member
    · exact absurd (Frame.dropping.inj same) other
    · exact List.mem_cons_of_mem _ member
  unfold World.run
  rw [top]
  rcases pending with member | gone
  · have known : Known w.policy loose token := .inr (.inr member)
    have nodup := (List.nodup_append.mp indexed.nodup).2.1
    refine ⟨⟨loose.erase token, ?_, fun holds t kept => ?_⟩, stable.skipped, stable.faulted⟩
    · exact (below.next (.removeRecord indexed known) (indexed.removeRecord known) nofun).push
        trivial nofun
    · obtain ⟨other, listed⟩ := nodup.mem_erase_iff.mp kept
      exact pop t other (owned holds t listed)
  · have same := sameShape_removeRecord indexed gone.unknown gone.status gone.lease
    have kept : Kept w.policy loose (w.policy.removeRecord token) loose none := by
      refine .of_same same (fun last seen => ?_) fun t => ?_
      · obtain ⟨-, -, -, -, -, observed, -, -⟩ := removeRecord_rest w.policy token
        exact ⟨last, observed.trans seen, le_rfl⟩
      · rw [removeRecord_records]
        split
        next own => exact own ▸ ⟨rfl, id, id⟩
        next => exact ⟨rfl, id, id⟩
    refine ⟨⟨loose, (below.next kept (indexed.of_same same) nofun).push trivial nofun,
      fun holds t member => ?_⟩, stable.skipped, stable.faulted⟩
    refine pop t (fun own => gone.unknown (.inr (.inr ?_))) (owned holds t member)
    exact own ▸ member

/-- The innermost operation goes on. -/
theorem Stable.run {tidy : Prop} {w : World τ} (stable : Stable tidy w) (host : Host)
    (idle : w.calling = false) (fresh : FreshHandles w .run)
    (undisturbed : tidy → Undisturbed host w .run) : Stable tidy (w.run host) := by
  rcases top : w.stack with _ | ⟨frame, rest⟩
  · have ran : w.run host = w := by
      unfold World.run
      rw [top]
    rwa [ran]
  · cases frame with
    | sweepingQueue sweep index =>
      refine stable.sweepQueue host top fun holds => ?_
      have quiet := undisturbed holds idle
      rwa [top] at quiet
    | sweepingActive sweep visited => exact stable.sweepActive host idle top fresh undisturbed
    | dequeuing => exact stable.dequeue host idle top undisturbed
    | dropping token => exact stable.drop host top
    | cancelling =>
      obtain ⟨loose, sound, owned⟩ := stable.sound
      rw [top] at sound owned
      unfold World.run
      rw [top]
      exact stable.ends sound.pop (owned.mono (List.Subset.refl _) (dropping_pop nofun))
        (.refl sound.indexed)

/-- A callback throws, which ends the operation that has called it. -/
theorem Stable.throws {tidy : Prop} {host : Host} {w : World τ} (stable : Stable tidy w)
    (calling : w.calling = true) (undisturbed : tidy → Undisturbed host w .thrown) :
    Stable tidy (w.finish w.stack.tail w.policy) := by
  obtain ⟨loose, sound, owned⟩ := stable.sound
  rcases top : w.stack with _ | ⟨frame, rest⟩
  · rw [top] at sound owned
    exact stable.ends sound owned (.refl sound.indexed)
  · have quiet := fun holds => undisturbed holds calling
    rw [top] at sound owned quiet
    refine stable.ends sound.pop (fun holds t member => ?_) (.refl sound.indexed)
    rcases List.mem_cons.mp (owned holds t member) with rfl | below
    · have known : Known w.policy loose t := .inr (.inr member)
      exact absurd known (unknown_of_released sound.indexed (quiet holds))
    · exact below

/-- An operation changes the policy at once. -/
theorem Stable.leaves {tidy : Prop} {w : World τ} (stable : Stable tidy w)
    (leaves : ∀ loose, Indexed w.policy loose → Leaves w.policy loose q) :
    Stable tidy { w with policy := q } := by
  obtain ⟨loose, sound, owned⟩ := stable.sound
  obtain ⟨loose', within, indexed, kept⟩ := leaves loose sound.indexed
  exact ⟨⟨loose', sound.next kept indexed nofun, owned.mono within fun _ => id⟩, stable.skipped,
    stable.faulted⟩

theorem Stable.callSweep {tidy : Prop} {w : World τ} (stable : Stable tidy w)
    (now : Option (Option ℚ)) (after : After) (first : ∀ token, after ≠ .enqueue token) :
    Stable tidy (w.callSweep now after) := by
  unfold World.callSweep
  rcases read : w.policy.readMonotonicNow now with ⟨_ | observed, q⟩
  · exact stable.leaves fun _ indexed => .ticked indexed (readMonotonicNow_raised read)
  · obtain ⟨ticked, seen⟩ := readMonotonicNow_seen read
    obtain ⟨loose, sound, owned⟩ := stable.sound
    have sound' := sound.next (.ticked ticked) (sound.indexed.of_same ticked.shape) nofun
    refine ⟨⟨loose, sound'.startSweep seen fun token same => absurd same (first token),
      owned.mono (List.Subset.refl _) fun t member => ?_⟩, stable.skipped, stable.faulted⟩
    exact List.mem_cons_of_mem _ member

theorem Stable.callCancel {tidy : Prop} {w : World τ} {lookup : RecordLookup}
    (stable : Stable tidy w)
    (known : ∀ loose token, Indexed w.policy loose → lookup = .found token →
      Known w.policy loose token) : Stable tidy (w.callCancel lookup) := by
  unfold World.callCancel
  cases lookup with
  | notFound => exact stable
  | ambiguous => exact stable
  | found token =>
    have leaves (loose : List Nat) (indexed : Indexed w.policy loose) :
        Leaves w.policy loose (w.policy.cancelRecord token).2 := by
      rw [← cancelRecordWatching_entryOf]
      exact .cancels indexed (known loose token indexed rfl) (cancelRecordWatching_cases _ _ _)
    dsimp only
    split
    next newly =>
      rw [Bool.and_eq_true, Bool.not_eq_true'] at newly
      obtain ⟨loose, sound, owned⟩ := stable.sound
      obtain ⟨loose', within, indexed, kept⟩ := leaves loose sound.indexed
      have born := sound.indexed.born (known loose token sound.indexed rfl)
      refine ⟨⟨loose', (sound.notify kept indexed born newly.2 newly.1).push trivial nofun,
        owned.mono within fun t member => ?_⟩, stable.skipped, stable.faulted⟩
      exact List.mem_cons_of_mem _ member
    next => exact stable.leaves leaves

/-- An operation is called. -/
theorem Stable.call {tidy : Prop} {w : World τ} {operation : Operation τ} (stable : Stable tidy w)
    (permitted : w.permits operation = true) : Stable tidy (w.call operation) := by
  cases operation with
  | change entry object =>
    refine stable.leaves fun loose indexed => .change indexed entry object ?_
    unfold World.permits at permitted
    simpa [Bool.or_eq_true, Bool.and_eq_true, beq_iff_eq] using permitted
  | admission entry startImmediately now uuids => exact stable.callSweep now _ nofun
  | dequeue now => exact stable.callSweep now _ nofun
  | peek now => exact stable.callSweep now _ nofun
  | isRunnable target now => exact stable.callSweep now _ nofun
  | expire now => exact stable.callSweep now _ nofun
  | cancel target requestId =>
    exact stable.callCancel fun _ _ indexed found => findRecord_known indexed found
  | cancelByRequestId requestId =>
    exact stable.callCancel fun _ _ indexed found => lookupRequest_known indexed found
  | release target requestId => exact stable.leaves fun _ indexed => .release indexed target requestId

theorem Stable.step {tidy : Prop} {host : Host} {w : World τ} (stable : Stable tidy w)
    (event : Event τ) (fresh : FreshHandles w event)
    (undisturbed : tidy → Undisturbed host w event) : Stable tidy (w.step host event) := by
  unfold World.step
  cases event with
  | call operation =>
    dsimp only
    split
    next permitted => exact stable.call permitted
    next => exact stable
  | run =>
    dsimp only
    split
    next => exact stable
    next idle => exact stable.run host (Bool.not_eq_true _ ▸ idle) fresh undisturbed
  | returned => exact ⟨stable.sound, stable.skipped, stable.faulted⟩
  | thrown =>
    dsimp only
    split
    next calling => exact stable.throws calling undisturbed
    next => exact stable

theorem Stable.init {tidy : Prop} {host : Host} {w : World τ}
    (start : (callbackSystem host τ).init w) : Stable tidy w := by
  obtain ⟨⟨options, clock, objects, made⟩, stack, -, notified, skipped, faulted⟩ := start
  obtain ⟨inv, -, -⟩ := new_spec made
  refine ⟨⟨[], ?_, fun _ => nofun⟩, skipped, fun _ => faulted⟩
  rw [stack, notified]
  exact ⟨.of_none inv, nofun, .nil, .nil, nofun⟩

end Steps

section Runs

variable {τ : Type} {host : Host}

/-- Where the conditions hold, the representation holds whenever no operation is under way, no
access fails, no sweep skips a record, and `onExpired` is called at most once for each. -/
theorem routingPolicy_tolerates {w : World τ}
    (reached : ((callbackSystem host τ).restrict (Tolerated host)).Reachable w) :
    (w.stack = [] → Consistent w.policy) ∧ w.faulted = false ∧ w.skipped = [] ∧
      w.notified.Nodup := by
  have stable : Stable True w := by
    refine System.Reachable.invariant ?_ ?_ reached
    · exact fun w start => @Stable.init τ True host w start
    · rintro w event w' stable ⟨⟨fresh, undisturbed⟩, rfl⟩
      exact stable.step event fresh fun _ => undisturbed
  obtain ⟨loose, sound, owned⟩ := stable.sound
  refine ⟨fun idle => ?_, stable.faulted trivial, stable.skipped, sound.once⟩
  have tidy : loose = [] := by
    refine List.eq_nil_iff_forall_not_mem.mpr fun t member => ?_
    have held := owned trivial t member
    rw [idle] at held
    cases held
  exact (tidy ▸ sound.indexed).settled.consistent

instance (clock : Nat → Option ℚ) (start stop : Nat) : Decidable (ClockFailed clock start stop) :=
  decidable_of_iff (∃ n ∈ List.range stop, start ≤ n ∧ clock n = none) <| by
    unfold ClockFailed
    simp only [List.mem_range]
    exact exists_congr fun n => by tauto

instance (w : World τ) (event : Event τ) : Decidable (FreshHandles w event) := by
  unfold FreshHandles
  split
  · split <;> infer_instance
  · infer_instance

instance (w : World τ) (event : Event τ) : Decidable (Undisturbed host w event) := by
  unfold Undisturbed
  split
  · split <;> infer_instance
  · split <;> infer_instance
  · infer_instance

instance (w : World τ) (event : Event τ) : Decidable (Tolerated host w event) :=
  inferInstanceAs (Decidable (_ ∧ _))

/-- A new policy whose clock shows 0 three times and 200 from then on; its callers' entries are due
at 100, but for the third. -/
def expiring : World Unit where
  policy :=
    { oneSlot.policy with
      monotonicNow := fun n => if n < 3 then some 0 else some 200
      objects := fun entry =>
        if entry = 2 then { plainEntry with expiresAt := .number (some 1000) } else plainEntry }
  stack := []
  calling := false
  notified := []
  skipped := []
  faulted := false

theorem expiring_init : (callbackSystem noHost Unit).init expiring := by
  refine ⟨⟨{ capacity := none, queueCapacity := none, maxQueueEntries := none
             limitsMaxQueueEntries := none, activeCapacity := some 1, maxActiveEntries := none
             retryAfterMs := none }, expiring.policy.monotonicNow, expiring.policy.objects, ?_⟩,
    rfl, rfl, rfl, rfl, rfl⟩
  rfl

/-- Two entries are queued. -/
def twoQueued : List (Event Unit) :=
  [.call (.admission 0 false (some (some 0)) ["a"]), .run, .run, .run, .run,
    .call (.admission 1 false (some (some 0)) ["b"]), .run, .run, .run, .run, .run, .run]

/-- Both are due, and the callback for the second admits a third entry. -/
def nestedAdmission : List (Event Unit) :=
  twoQueued ++ [.call (.expire (some (some 200))), .run,
    .call (.admission 2 false none ["c"]), .run, .returned, .run, .run, .run, .run, .returned, .run,
    .run, .run]

theorem nestedAdmission_tolerated :
    (nestedAdmission.foldl (fun w => w.step noHost) expiring).policy.queue = [3] ∧
      (nestedAdmission.foldl (fun w => w.step noHost) expiring).notified = [2, 1] ∧
      Consistent (nestedAdmission.foldl (fun w => w.step noHost) expiring).policy := by
  have meets : System.AllMeet (Tolerated noHost) (fun w => w.step noHost) expiring nestedAdmission := by
    decide +kernel
  have start : ((callbackSystem noHost Unit).restrict (Tolerated noHost)).Reachable expiring :=
    .init expiring_init
  have reached := start.run_restrict (f := fun w => w.step noHost) (fun _ _ => rfl) meets
  exact ⟨by decide +kernel, by decide +kernel, (routingPolicy_tolerates reached).1 (by decide +kernel)⟩

/-- The callback for the second entry expires the first, which the sweep then does not find. -/
def nestedExpiry : List (Event Unit) :=
  twoQueued ++ [.call (.expire (some (some 200))), .run,
    .call (.expire (some (some 200))), .run, .returned, .run, .run, .returned, .run]

/-- The deadline of the first entry passes as `dequeue` claims it, and the callback throws. -/
def thrownInDequeue : List (Event Unit) :=
  twoQueued ++ [.call (.dequeue (some (some 50))), .run, .run, .run, .run, .run, .thrown]

theorem callback_disturbs :
    (¬∀ w, (callbackSystem noHost Unit).Reachable w → w.faulted = false) ∧
      ¬∀ w, (callbackSystem noHost Unit).Reachable w → w.stack = [] → Consistent w.policy := by
  have reached (events : List (Event Unit)) :
      (callbackSystem noHost Unit).Reachable (events.foldl (fun w => w.step noHost) expiring) :=
    System.Reachable.run (fun _ _ => rfl) (.init expiring_init) events
  constructor
  · intro never
    have faulted : (nestedExpiry.foldl (fun w => w.step noHost) expiring).faulted = true := by
      decide +kernel
    exact Bool.false_ne_true ((never _ (reached nestedExpiry)).symm.trans faulted)
  · intro always
    have idle : (thrownInDequeue.foldl (fun w => w.step noHost) expiring).stack = [] := by
      decide +kernel
    have indexed : (thrownInDequeue.foldl (fun w => w.step noHost) expiring).policy.handles "queue:a" =
        some 1 := by decide +kernel
    have dropped : 1 ∉ (thrownInDequeue.foldl (fun w => w.step noHost) expiring).policy.queue ∧
        1 ∉ (thrownInDequeue.foldl (fun w => w.step noHost) expiring).policy.active := by
      decide +kernel
    obtain ⟨queued | active, -⟩ := ((always _ (reached thrownInDequeue) idle).handles _ _).mp indexed
    · exact dropped.1 queued
    · exact dropped.2 active

end Runs

end PiToPi.PolicyCallback
