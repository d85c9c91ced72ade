import PiToPi.PolicyProofs
import Mathlib.Data.List.Find

/-!
Every operation of the routing policy, and its runs. `Moved` is what an operation
may do to the policy; the lemma about an operation says it moves the policy, which
record it hands a lease out of, and what it answers.
-/
namespace PiToPi.Policy
open Transition RoutingPolicy

section Operations

variable {τ : Type} {p q : RoutingPolicy τ}

/-- What an operation other than a release may do; `handed` is the record it hands out
a lease of. -/
structure Moved (p q : RoutingPolicy τ) (handed : Option Nat) : Prop where
  inv : Inv q none
  active : q.active = p.active ++ handed.toList
  activeCapacity : q.activeCapacity = p.activeCapacity
  nextToken : p.nextToken ≤ q.nextToken
  statuses : ∀ t < p.nextToken, Advances (p.records t).status (q.records t).status
  fresh : ∀ t, handed = some t →
    p.nextToken ≤ t ∨ (p.records t).status = .queued ∨ (p.records t).status = .candidate
  order : p.queue.Pairwise (· < ·) → q.queue.Pairwise (· < ·)
  objects : q.objects = p.objects
  monotonicNow : q.monotonicNow = p.monotonicNow
  reading : p.reading ≤ q.reading
  observed : ∀ last, p.lastObservedNow = some last → ∃ now, q.lastObservedNow = some now ∧ last ≤ now

theorem Advances.idle (advances : Advances a b) (idle : b = .queued ∨ b = .candidate) :
    a = .queued ∨ a = .candidate := by
  rcases advances with rfl | rfl | rfl | rfl
  · exact idle
  · rcases idle with ⟨⟨⟩⟩ | ⟨⟨⟩⟩
  · exact .inr rfl
  · exact .inl rfl

theorem Moved.trans {r : RoutingPolicy τ} (first : Moved p q none) (second : Moved q r handed) :
    Moved p r handed where
  inv := second.inv
  active := by
    rw [second.active, first.active]
    simp
  activeCapacity := second.activeCapacity.trans first.activeCapacity
  nextToken := first.nextToken.trans second.nextToken
  statuses t old := (first.statuses t old).trans (second.statuses t (old.trans_le first.nextToken))
  fresh t found := by
    rcases Nat.lt_or_ge t p.nextToken with old | new
    · rcases second.fresh t found with new | idle
      · exact .inl (first.nextToken.trans new)
      · exact .inr ((first.statuses t old).idle idle)
    · exact .inl new
  order sorted := second.order (first.order sorted)
  objects := second.objects.trans first.objects
  monotonicNow := second.monotonicNow.trans first.monotonicNow
  reading := first.reading.trans second.reading
  observed last seen := by
    obtain ⟨now, seen', le⟩ := first.observed last seen
    obtain ⟨now', seen'', le'⟩ := second.observed now seen'
    exact ⟨now', seen'', le.trans le'⟩

theorem Moved.refl (inv : Inv p none) : Moved p p none where
  inv := inv
  active := by simp
  activeCapacity := rfl
  nextToken := le_rfl
  statuses _ _ := .inl rfl
  fresh := nofun
  order sorted := sorted
  objects := rfl
  monotonicNow := rfl
  reading := le_rfl
  observed last seen := ⟨last, seen, le_rfl⟩

theorem Ticked.moved (ticked : Ticked p q) (inv : Inv p none) : Moved p q none := by
  have same := ticked.same
  refine { Moved.refl inv with
    inv := inv.of_same ticked.shape
    active := ?_
    activeCapacity := ticked.shape.activeCapacity
    nextToken := ticked.shape.nextToken.ge
    statuses := ?_
    order := ?_
    objects := ?_
    monotonicNow := ?_
    reading := ticked.reading
    observed := ticked.observed }
  · rw [ticked.active]
    simp
  · intro t _
    rw [ticked.records]
    exact .inl rfl
  · rw [ticked.queue]
    exact id
  · rw [same]
  · rw [same]

theorem Swept.moved (swept : Swept p q) (inv : Inv q none) : Moved p q none where
  inv := inv
  active := by simp [swept.active]
  activeCapacity := swept.activeCapacity
  nextToken := swept.nextToken.ge
  statuses t _ := swept.statuses t
  fresh := nofun
  order sorted := sorted.sublist swept.queue
  objects := swept.objects
  monotonicNow := swept.monotonicNow
  reading := swept.reading.ge
  observed last seen := ⟨last, swept.lastObservedNow.trans seen, le_rfl⟩

/-- A queued record is removed. -/
theorem moved_removeRecord (inv : Inv p none) (queued : token ∈ p.queue) :
    Moved p (p.removeRecord token) none :=
  (swept_removeRecord inv queued).moved (inv.removeRecord (.inl queued))

/-- A record is marked. -/
theorem moved_mark (inv : Inv p none) (same : SameShape p q) (objects : q.objects = p.objects)
    (clock : q.monotonicNow = p.monotonicNow) (reading : q.reading = p.reading)
    (observed : q.lastObservedNow = p.lastObservedNow) : Moved p q none := by
  refine { Moved.refl inv with
    inv := inv.of_same same
    active := ?_
    activeCapacity := same.activeCapacity
    nextToken := same.nextToken.ge
    statuses := ?_
    order := ?_
    objects := objects
    monotonicNow := clock
    reading := reading.ge
    observed := ?_ }
  · rw [same.active]
    simp
  · intro t _
    exact .inl (same.records t).2.2.1
  · rw [same.queue]
    exact id
  · intro last seen
    exact ⟨last, observed.trans seen, le_rfl⟩

theorem moved_markExpired (inv : Inv p none) (token : Nat) : Moved p (p.markExpired token) none := by
  obtain ⟨objects, observed, clock, reading⟩ := markExpired_rest p token
  exact moved_mark inv (sameShape_markExpired p token) objects clock reading observed

/-- The time observed after a reading, and what it leaves alone. -/
theorem readMonotonicNow_seen (read : p.readMonotonicNow override = (.ok now, q)) :
    Ticked p q ∧ q.lastObservedNow = some now := by
  have ticked := readMonotonicNow_ticked p override
  rw [read] at ticked
  refine ⟨ticked, ?_⟩
  rw [(readMonotonicNow_ok read).1]

theorem readMonotonicNow_raised (read : p.readMonotonicNow override = (.error error, q)) :
    Ticked p q := by
  have ticked := readMonotonicNow_ticked p override
  rwa [read] at ticked

end Operations

section Dequeue

variable {τ : Type} {p q : RoutingPolicy τ}

theorem Inv.shift (inv : Inv p none) (queue : p.queue = token :: rest) :
    Inv { p with queue := rest } (some token) := by
  have nodup := inv.queueNodup
  rw [queue, List.nodup_cons] at nodup
  obtain ⟨absent, nodup⟩ := nodup
  have head : token ∈ p.queue := queue ▸ List.mem_cons_self
  have tail : ∀ t ∈ rest, t ∈ p.queue := fun t member => queue ▸ List.mem_cons_of_mem _ member
  have held : ∀ t, Held { p with queue := rest } (some token) t ↔ Held p none t := by
    intro t
    unfold Held
    rw [queue]
    simp only [List.mem_cons, Option.some.injEq, reduceCtorEq, or_false]
    rw [eq_comm (a := token)]
    tauto
  refine
    { queueBound := ?_
      activeBound := inv.activeBound
      queueNodup := nodup
      activeNodup := inv.activeNodup
      disjoint := fun t member => inv.disjoint t (tail t member)
      loose := ?_
      queued := fun t member => inv.queued t (tail t member)
      leased := inv.leased
      born := fun t member => inv.born t ((held t).mp member)
      handles := ?_
      entries := ?_
      entryIds := ?_
      requestIds := ?_
      leases := ?_
      made := fun t member => inv.made t ((held t).mp member) }
  · have bound := inv.queueBound
    rw [queue, List.length_cons] at bound
    exact (Nat.le_succ _).trans bound
  · rintro t ⟨⟩
    obtain ⟨status, lease⟩ := inv.queued token head
    exact ⟨absent, inv.disjoint token head, lease, .inr status⟩
  · intro handle t
    rw [held]
    exact inv.handles handle t
  · exact fun entry => (inv.entries entry).congr fun t => by rw [held]
  · exact fun id => (inv.entryIds id).congr fun t => by rw [held]; rfl
  · exact fun requestId => (inv.requestIds requestId).congr fun t => by rw [held]; rfl
  · intro lease t
    rw [held]
    exact inv.leases lease t

/-- What a mark of a record, or none, leaves alone. -/
theorem markedOrNot (p : RoutingPolicy τ) (token : Nat) (marked : Bool) :
    SameShape p (if marked then p.markExpired token else p) ∧
      (∀ t, t ≠ token → (if marked then p.markExpired token else p).records t = p.records t) ∧
      (if marked then p.markExpired token else p).objects = p.objects ∧
      (if marked then p.markExpired token else p).lastObservedNow = p.lastObservedNow ∧
      (if marked then p.markExpired token else p).monotonicNow = p.monotonicNow ∧
      (if marked then p.markExpired token else p).reading = p.reading := by
  cases marked with
  | false => exact ⟨.refl p, fun _ _ => rfl, rfl, rfl, rfl, rfl⟩
  | true => exact ⟨sameShape_markExpired p token, markExpired_records p token, markExpired_rest p token⟩

/-- A record shifted off the queue is dropped. -/
theorem moved_drop (inv : Inv p none) (queue : p.queue = token :: rest)
    (ticked : Ticked { p with queue := rest } q) (marked : Bool) :
    Moved p ((if marked then q.markExpired token else q).removeRecord token) none ∧
      ((if marked then q.markExpired token else q).removeRecord token).queue = rest ∧
      ((if marked then q.markExpired token else q).removeRecord token).lastObservedNow =
        q.lastObservedNow ∧
      ∀ t ∈ rest, ((if marked then q.markExpired token else q).removeRecord token).records t =
        p.records t := by
  obtain ⟨same, others, objects, observed, clock, reading⟩ := markedOrNot q token marked
  generalize (if marked then q.markExpired token else q) = r at same others objects observed clock reading
  have shape := ticked.shape.trans same
  have inv' : Inv r (some token) := (inv.shift queue).of_same shape
  have absent : token ∉ rest := by
    have nodup := inv.queueNodup
    rw [queue, List.nodup_cons] at nodup
    exact nodup.1
  have removed : Inv (r.removeRecord token) none := by
    have := inv'.removeRecord (.inr (.inr rfl))
    rwa [without, if_pos rfl] at this
  have inactive : token ∉ r.active := (inv'.loose token rfl).2.1
  obtain ⟨-, capacity, nextToken, -, objects', observed', reading', clock'⟩ :=
    removeRecord_rest r token
  have queue' : (r.removeRecord token).queue = rest := by
    unfold RoutingPolicy.removeRecord RoutingPolicy.update
    simp only [inactive, ↓reduceIte]
    rw [shape.queue]
    exact List.erase_of_not_mem absent
  have active' : (r.removeRecord token).active = p.active := by
    unfold RoutingPolicy.removeRecord RoutingPolicy.update
    simp only [inactive, ↓reduceIte]
    exact shape.active
  have same' := ticked.same
  refine ⟨?_, queue', observed'.trans observed, ?_⟩
  · refine
      { inv := removed
        active := by simp [active']
        activeCapacity := capacity.trans shape.activeCapacity
        nextToken := (nextToken.trans shape.nextToken).ge
        statuses := ?_
        fresh := nofun
        order := ?_
        objects := ?_
        monotonicNow := ?_
        reading := ?_
        observed := ?_ }
    · intro t _
      rw [removeRecord_records]
      split
      · exact .inr (.inl rfl)
      · exact .inl (shape.records t).2.2.1
    · intro sorted
      rw [queue', ← @List.tail_cons _ token rest, ← queue]
      exact sorted.sublist (List.tail_sublist _)
    · rw [objects', objects, same']
    · rw [clock', clock, same']
    · rw [reading', reading]
      exact ticked.reading
    · intro last seen
      obtain ⟨now, seen', le⟩ := ticked.observed last seen
      exact ⟨now, (observed'.trans observed).trans seen', le⟩
  · intro t member
    have other : t ≠ token := by
      rintro rfl
      exact absent member
    rw [removeRecord_records, if_neg other, others t other, ticked.records]

/-- What `dequeue` comes to while a slot is free. -/
def Dequeued (p : RoutingPolicy τ) : Answer τ (Option QueueLease) → Prop
  | (.ok (some lease), q) => ∃ token now, q.lastObservedNow = some now ∧
      q.leases lease.object = some token ∧
      p.queue.find? (fun t => p.isRunnableRecord t now) = some token ∧ Moved p q (some token)
  | (.ok none, q) => (∀ now, q.lastObservedNow = some now →
      ∀ t ∈ p.queue, p.isRunnableRecord t now = false) ∧ Moved p q none
  | (.error _, q) => ClockFailed p.monotonicNow p.reading q.reading

/-- The queue has lost records that are no longer runnable, and then dequeued. -/
theorem Dequeued.after (moved : Moved p q none) (seen : q.lastObservedNow = some now)
    (left : ∀ later, now ≤ later → (∀ t ∈ p.queue, t ∉ q.queue → p.isRunnableRecord t later = false) ∧
      q.queue.find? (fun t => q.isRunnableRecord t later) =
        p.queue.find? (fun t => p.isRunnableRecord t later) ∧
      ∀ t ∈ q.queue, q.isRunnableRecord t later = p.isRunnableRecord t later)
    (dequeued : Dequeued q answer) : Dequeued p answer := by
  obtain ⟨result, r⟩ := answer
  cases result with
  | error error =>
    obtain ⟨n, low, high, failed⟩ := dequeued
    exact ⟨n, moved.reading.trans low, high, moved.monotonicNow ▸ failed⟩
  | ok result =>
    cases result with
    | none =>
      obtain ⟨drained, moved'⟩ := dequeued
      refine ⟨?_, moved.trans moved'⟩
      intro later seen' t member
      obtain ⟨last, seen'', le⟩ := moved'.observed now seen
      cases seen'.symm.trans seen''
      obtain ⟨lost, -, same⟩ := left later le
      by_cases kept : t ∈ q.queue
      · rw [← same t kept]
        exact drained later seen' t kept
      · exact lost t member kept
    | some lease =>
      obtain ⟨token, later, seen', object, found, moved'⟩ := dequeued
      obtain ⟨last, seen'', le⟩ := moved'.observed now seen
      cases seen'.symm.trans seen''
      obtain ⟨-, same, -⟩ := left later le
      exact ⟨token, later, seen', object, same ▸ found, moved.trans moved'⟩

/-- A lease of the record at the head of the queue. -/
theorem moved_lease (inv : Inv p none) (queue : p.queue = token :: rest)
    (ticked : Ticked { p with queue := rest } r) (inv' : Inv q none)
    (active : q.active = p.active ++ [token]) (queue' : q.queue = rest)
    (records : ∀ t, t ≠ token → q.records t = p.records t)
    (after : q.lastObservedNow = r.lastObservedNow ∧ q.reading = r.reading ∧
      q.monotonicNow = p.monotonicNow ∧ q.nextToken = p.nextToken ∧ q.objects = p.objects ∧
      q.activeCapacity = p.activeCapacity) :
    Moved p q (some token) := by
  have head : token ∈ p.queue := queue ▸ List.mem_cons_self
  obtain ⟨observed, reading, clock, nextToken, objects, capacity⟩ := after
  refine
    { inv := inv'
      active := active
      activeCapacity := capacity
      nextToken := nextToken.ge
      statuses := ?_
      fresh := ?_
      order := ?_
      objects := objects
      monotonicNow := clock
      reading := ?_
      observed := ?_ }
  · intro t _
    by_cases same : t = token
    · subst same
      exact .inr (.inr (.inr (inv.queued t head).1))
    · rw [records t same]
      exact .inl rfl
  · rintro t ⟨⟩
    exact .inr (.inl (inv.queued token head).1)
  · intro sorted
    rw [queue', ← @List.tail_cons _ token rest, ← queue]
    exact sorted.sublist (List.tail_sublist _)
  · rw [reading]
    exact ticked.reading
  · intro last seen
    rw [observed]
    exact ticked.observed last seen

theorem dequeueLoop_spec (fuel : Nat) : ∀ {p : RoutingPolicy τ}, Inv p none →
    p.active.length < p.activeCapacity → p.queue.length ≤ fuel →
    Dequeued p (dequeueLoop fuel p) := by
  induction fuel with
  | zero =>
    intro p inv _ bound
    have empty : p.queue = [] := List.length_eq_zero_iff.mp (Nat.le_zero.mp bound)
    refine ⟨?_, .refl inv⟩
    rw [empty]
    intro now _ t member
    cases member
  | succ fuel ih =>
    intro p inv free bound
    unfold dequeueLoop
    cases queue : p.queue with
    | nil =>
      refine ⟨?_, .refl inv⟩
      rw [queue]
      intro now _ t member
      cases member
    | cons token rest =>
      have claimed := claimRecord_spec (inv.shift queue)
      dsimp only
      generalize { p with queue := rest }.claimRecord token = answer at claimed
      cases claimed with
      | full full => exact absurd full (not_le.mpr free)
      | failed _ failed => exact failed
      | @leased r now q lease ticked seen runnable inv' active queue' object records after =>
        refine ⟨token, now, after.1.trans seen, object, ?_, ?_⟩
        · rw [queue]
          exact List.find?_cons_of_pos runnable
        · exact moved_lease inv queue ticked inv' active queue' records after
      | @idle q now ticked seen idle =>
        have full : ¬q.activeCapacity ≤ q.active.length := by
          rw [ticked.active, ticked.shape.activeCapacity]
          exact not_le.mpr free
        simp only [full, ↓reduceIte]
        generalize ((q.lastObservedNow.any fun observed =>
          decide ((q.records token).deadline ≤ observed)) || (q.records token).expired) = marked
        obtain ⟨moved, queue', observed, records⟩ := moved_drop inv queue ticked marked
        refine Dequeued.after moved (observed.trans seen) ?_ (ih moved.inv ?_ ?_)
        · intro later le
          have gone : p.isRunnableRecord token later = false := by
            rw [Bool.eq_false_iff] at idle ⊢
            exact fun runnable => idle (isRunnableRecord_mono runnable le)
          have same : ∀ t ∈ rest, ((if marked then q.markExpired token else q).removeRecord
              token).isRunnableRecord t later = p.isRunnableRecord t later :=
            fun t member => isRunnableRecord_congr (records t member) moved.objects later
          rw [queue', queue]
          refine ⟨?_, ?_, same⟩
          · intro t member absent
            rcases List.mem_cons.mp member with rfl | member
            · exact gone
            · exact absurd member absent
          · rw [List.find?_cons_of_neg (by simp [gone])]
            exact List.find?_congr same
        · rw [moved.active, moved.activeCapacity]
          simpa using free
        · rw [queue']
          rw [queue, List.length_cons] at bound
          exact Nat.le_of_succ_le_succ bound

theorem sublist_find? {f : Nat → Bool} {l l' : List Nat} (sublist : l.Sublist l') (nodup : l'.Nodup)
    (lost : ∀ t ∈ l', t ∉ l → f t = false) : l.find? f = l'.find? f := by
  induction sublist with
  | slnil => rfl
  | cons head sublist ih =>
    obtain ⟨fresh, nodup⟩ := List.nodup_cons.mp nodup
    have gone := lost head List.mem_cons_self fun member => fresh (sublist.subset member)
    rw [List.find?_cons_of_neg (by simp [gone])]
    exact ih nodup fun t member absent => lost t (List.mem_cons_of_mem _ member) absent
  | cons_cons head sublist ih =>
    obtain ⟨fresh, nodup⟩ := List.nodup_cons.mp nodup
    rw [List.find?_cons, List.find?_cons, ih nodup ?_]
    intro t member absent
    refine lost t (List.mem_cons_of_mem _ member) ?_
    rw [List.mem_cons]
    rintro (rfl | present)
    · exact fresh member
    · exact absent present

/-- The reading an operation makes first: of the clock, unless it is given the time. -/
def firstReading (p : RoutingPolicy τ) (override : Option (Option ℚ)) : Nat :=
  p.reading + if override.isNone then 1 else 0

theorem readMonotonicNow_reading (p : RoutingPolicy τ) (override : Option (Option ℚ)) :
    (p.readMonotonicNow override).2.reading = firstReading p override := by
  unfold RoutingPolicy.readMonotonicNow firstReading
  cases override with
  | some value =>
    cases value with
    | none => rfl
    | some candidate =>
      dsimp only [resolveTime]
      split <;> rfl
  | none =>
    dsimp only
    cases resolveTime (p.monotonicNow p.reading) with
    | error error => rfl
    | ok candidate =>
      dsimp only
      split <;> rfl

/-- What `dequeue` comes to; `start` counts the readings made before a lease is tried. -/
def DequeueOutcome (p : RoutingPolicy τ) (start : Nat) : Answer τ (Option QueueLease) → Prop
  | (.ok (some lease), q) => ∃ token now, q.lastObservedNow = some now ∧
      q.leases lease.object = some token ∧
      p.queue.find? (fun t => p.isRunnableRecord t now) = some token ∧ Moved p q (some token)
  | (.ok none, q) => ∃ now, q.lastObservedNow = some now ∧ Moved p q none ∧
      (p.activeCapacity ≤ p.active.length ∨ ∀ t ∈ p.queue, p.isRunnableRecord t now = false)
  | (.error _, q) => Moved p q none ∨ ClockFailed p.monotonicNow start q.reading

/-- A reading of the clock and a sweep at the time read. -/
theorem moved_sweep (inv : Inv p none) (read : p.readMonotonicNow override = (.ok now, q)) :
    Inv (q.expireAt now).1 none ∧ Moved p (q.expireAt now).1 none ∧
      (q.expireAt now).1.lastObservedNow = some now ∧
      (q.expireAt now).1.reading = firstReading p override ∧
      (q.expireAt now).1.queue.Sublist p.queue ∧
      (∀ t, t ∈ (q.expireAt now).1.queue ↔ t ∈ p.queue ∧ p.isRunnableRecord t now = true) ∧
      ∀ t ∈ (q.expireAt now).1.queue, (q.expireAt now).1.records t = p.records t := by
  obtain ⟨ticked, seen⟩ := readMonotonicNow_seen read
  have inv' := inv.of_same ticked.shape
  obtain ⟨inv'', swept, queue⟩ := expireAt_spec inv' now
  have reading := readMonotonicNow_reading p override
  rw [read] at reading
  refine ⟨inv'', (ticked.moved inv).trans (swept.moved inv''), swept.lastObservedNow.trans seen,
    swept.reading.trans reading, ?_, ?_, ?_⟩
  · rw [← ticked.queue]
    exact swept.queue
  · intro t
    rw [queue, ticked.queue, ticked.runnable]
  · intro t member
    rw [swept.kept t member, ticked.records]

theorem dequeue_spec (inv : Inv p none) (now : Option (Option ℚ)) :
    DequeueOutcome p (firstReading p now) (p.dequeue now) := by
  unfold RoutingPolicy.dequeue
  cases read : p.readMonotonicNow now with
  | mk result q =>
    cases result with
    | error error => exact .inl ((readMonotonicNow_raised read).moved inv)
    | ok observed =>
      obtain ⟨inv', moved, seen, reading, sublist, queue, records⟩ := moved_sweep inv read
      dsimp only
      generalize (q.expireAt observed).1 = r at inv' moved seen reading sublist queue records
      have active : r.active = p.active := by
        rw [moved.active]
        simp
      split
      · rename_i full
        refine ⟨observed, seen, moved, .inl ?_⟩
        rwa [moved.activeCapacity, active] at full
      · rename_i free
        have looped := dequeueLoop_spec r.queue.length inv' (not_le.mp free) le_rfl
        have dequeued : Dequeued p (dequeueLoop r.queue.length r) := by
          refine Dequeued.after moved seen ?_ looped
          intro later le
          have lost : ∀ t ∈ p.queue, t ∉ r.queue → p.isRunnableRecord t later = false := by
            intro t member absent
            rw [Bool.eq_false_iff]
            exact fun runnable => absent ((queue t).mpr ⟨member, isRunnableRecord_mono runnable le⟩)
          have same : ∀ t ∈ r.queue, r.isRunnableRecord t later = p.isRunnableRecord t later :=
            fun t member => isRunnableRecord_congr (records t member) moved.objects later
          refine ⟨lost, ?_, same⟩
          rw [List.find?_congr same]
          exact sublist_find? sublist inv.queueNodup lost
        generalize dequeueLoop r.queue.length r = answer at looped dequeued
        obtain ⟨result, s⟩ := answer
        cases result with
        | error error =>
          obtain ⟨n, low, high, failed⟩ := looped
          exact .inr ⟨n, reading ▸ low, high, moved.monotonicNow ▸ failed⟩
        | ok result =>
          cases result with
          | some lease => exact dequeued
          | none =>
            obtain ⟨drained, moved'⟩ := dequeued
            obtain ⟨later, seen', -⟩ := looped.2.observed observed seen
            exact ⟨later, seen', moved', .inr (drained later seen')⟩

end Dequeue

section Admission

variable {τ : Type} {p q : RoutingPolicy τ}

theorem Candidate.of_swept (candidate : Candidate p token) (swept : Swept p q) : Candidate q token := by
  have record := swept.others token candidate.unqueued candidate.inactive
  refine ⟨?_, ?_, ?_, ?_, ?_, ?_⟩
  · rw [swept.nextToken]
    exact candidate.born
  · exact fun queued => candidate.unqueued (swept.queue.subset queued)
  · rw [swept.active]
    exact candidate.inactive
  · rw [record]
    exact swept.handles _ candidate.free
  · rw [record]
    exact candidate.status
  · rw [record]
    exact candidate.lease

/-- A new record is made; no index knows it. -/
theorem Inv.create (inv : Inv p none) (record : QueueRecord) :
    Inv { p with nextToken := p.nextToken + 1
                 records := Function.update p.records p.nextToken record } none := by
  have held : ∀ t, Held { p with nextToken := p.nextToken + 1
                                 records := Function.update p.records p.nextToken record } none t ↔
      Held p none t := fun t => Iff.rfl
  have old : ∀ t, Held p none t → Function.update p.records p.nextToken record t = p.records t := by
    intro t member
    exact Function.update_of_ne (Nat.ne_of_lt (inv.born t member)) _ _
  have kept : ∀ (belongs : QueueRecord → Prop) t, Held p none t ∧ belongs (p.records t) ↔
      Held p none t ∧ belongs (Function.update p.records p.nextToken record t) := by
    intro belongs t
    constructor
    · rintro ⟨member, own⟩
      exact ⟨member, (old t member).symm ▸ own⟩
    · rintro ⟨member, own⟩
      exact ⟨member, old t member ▸ own⟩
  refine
    { queueBound := inv.queueBound
      activeBound := inv.activeBound
      queueNodup := inv.queueNodup
      activeNodup := inv.activeNodup
      disjoint := inv.disjoint
      loose := nofun
      queued := ?_
      leased := ?_
      born := fun t member => Nat.lt_succ_of_lt (inv.born t member)
      handles := ?_
      entries := ?_
      entryIds := ?_
      requestIds := ?_
      leases := ?_
      made := ?_ }
  · intro t member
    dsimp only
    rw [old t (.inl member)]
    exact inv.queued t member
  · intro t member
    dsimp only
    rw [old t (.inr (.inl member))]
    exact inv.leased t member
  · intro handle t
    rw [held]
    exact (inv.handles handle t).trans (kept (fun record => record.handle = handle) t)
  · exact fun entry => (inv.entries entry).congr (kept fun record => record.entry = entry)
  · exact fun id => (inv.entryIds id).congr (kept fun record => some id = (p.objects record.entry).id)
  · exact fun requestId => (inv.requestIds requestId).congr
      (kept fun record => some requestId = (p.objects record.entry).requestId)
  · intro lease t
    rw [held]
    exact (inv.leases lease t).trans (kept (fun record => record.lease = some lease) t)
  · intro t member lease own
    dsimp only at own
    rw [old t member] at own
    exact inv.made t member lease own

theorem moved_create (inv : Inv p none) (record : QueueRecord) :
    Moved p { p with nextToken := p.nextToken + 1
                     records := Function.update p.records p.nextToken record } none := by
  refine { Moved.refl inv with
    inv := inv.create record
    nextToken := Nat.le_succ _
    statuses := ?_ }
  intro t old
  dsimp only
  rw [Function.update_of_ne (Nat.ne_of_lt old)]
  exact .inl rfl

/-- What `createRecord` comes to. -/
def Created (p : RoutingPolicy τ) : Answer τ Nat → Prop
  | (.ok token, q) => Moved p q none ∧ Candidate q token ∧ (∀ t ∈ q.queue, t < token) ∧
      q.reading = p.reading
  | (.error _, q) => Moved p q none

theorem createRecord_spec (inv : Inv p none) (host : Host) (entry : EntryId) (uuids : List JsString) :
    Created p (p.createRecord host entry uuids) := by
  unfold RoutingPolicy.createRecord
  dsimp only
  split
  · exact Moved.refl inv
  · split
    · exact Moved.refl inv
    · rename_i handle found
      have free : p.handles handle = none := by
        have := List.find?_some found
        rwa [Option.isNone_iff_eq_none] at this
      cases deadline : resolveDeadline host (p.objects entry).expiresAt with
      | error error =>
        have moved := moved_create inv (p.records p.nextToken)
        rwa [Function.update_eq_self] at moved
      | ok deadline =>
        refine ⟨moved_create inv _, ?_, fun t queued => inv.born t (.inl queued), rfl⟩
        unfold RoutingPolicy.update
        refine ⟨Nat.lt_succ_self _, ?_, ?_, ?_, ?_, ?_⟩
        · exact fun queued => Nat.lt_irrefl _ (inv.born _ (.inl queued))
        · exact fun active => Nat.lt_irrefl _ (inv.born _ (.inr (.inl active)))
        · simpa using free
        · simp
        · simp

/-- The record in hand goes to the end of the queue. -/
theorem Inv.enqueue (inv : Inv p (some token)) (room : p.queue.length < p.queueCapacity) :
    Inv { p.update token (fun record => { record with status := .queued }) with
      queue := p.queue ++ [token] } none := by
  obtain ⟨unqueued, inactive, unleased, -⟩ := inv.loose token rfl
  have held : ∀ t, t ∈ p.queue ++ [token] ∨ t ∈ p.active ∨ none = some t ↔ Held p (some token) t := by
    intro t
    unfold Held
    simp only [List.mem_append, List.mem_singleton, reduceCtorEq, or_false, Option.some.injEq]
    rw [eq_comm (a := token)]
    tauto
  have other : ∀ t, t ≠ token →
      Function.update p.records token { p.records token with status := .queued } t = p.records t :=
    fun t other => Function.update_of_ne other _ _
  have fields : ∀ t, (Function.update p.records token { p.records token with status := .queued } t).handle =
        (p.records t).handle ∧
      (Function.update p.records token { p.records token with status := .queued } t).entry =
        (p.records t).entry ∧
      (Function.update p.records token { p.records token with status := .queued } t).lease =
        (p.records t).lease := by
    intro t
    by_cases same : t = token
    · subst same
      simp
    · rw [other t same]
      exact ⟨rfl, rfl, rfl⟩
  simp only [RoutingPolicy.update]
  refine
    { queueBound := ?_
      activeBound := inv.activeBound
      queueNodup := ?_
      activeNodup := inv.activeNodup
      disjoint := ?_
      loose := fun t found => absurd found.symm (Option.some_ne_none t)
      queued := ?_
      leased := ?_
      born := fun t after => inv.born t ((held t).mp after)
      handles := ?_
      entries := ?_
      entryIds := ?_
      requestIds := ?_
      leases := ?_
      made := ?_ }
  · simp only [List.length_append, List.length_singleton]
    omega
  · rw [List.nodup_append]
    refine ⟨inv.queueNodup, List.nodup_singleton _, ?_⟩
    intro t queued t' single
    rw [List.mem_singleton] at single
    subst single
    rintro rfl
    exact unqueued queued
  · intro t queued active
    rcases List.mem_append.mp queued with queued | single
    · exact inv.disjoint t queued active
    · rw [List.mem_singleton] at single
      subst single
      exact inactive active
  · intro t queued
    dsimp only
    rcases List.mem_append.mp queued with before | single
    · have different : t ≠ token := by
        rintro rfl
        exact unqueued before
      rw [other t different]
      exact inv.queued t before
    · rw [List.mem_singleton] at single
      subst single
      simpa using unleased
  · intro t active
    have different : t ≠ token := by
      rintro rfl
      exact inactive active
    dsimp only
    rw [other t different]
    exact inv.leased t active
  · intro handle t
    unfold Held
    dsimp only
    rw [held, (fields t).1, inv.handles]
  · intro entry
    refine (inv.entries entry).congr fun t => ?_
    unfold Held
    dsimp only
    rw [held, (fields t).2.1]
    exact Iff.rfl
  · intro id
    refine (inv.entryIds id).congr fun t => ?_
    unfold Held RoutingPolicy.entryOf
    dsimp only
    rw [held, (fields t).2.1]
    exact Iff.rfl
  · intro requestId
    refine (inv.requestIds requestId).congr fun t => ?_
    unfold Held RoutingPolicy.entryOf
    dsimp only
    rw [held, (fields t).2.1]
    exact Iff.rfl
  · intro lease t
    unfold Held
    dsimp only
    rw [held, (fields t).2.2, inv.leases]
  · intro t after lease own
    unfold Held at after
    dsimp only at after own ⊢
    rw [held] at after
    rw [(fields t).2.2] at own
    exact inv.made t after lease own

/-- What an admission comes to; `start` counts the readings made before a lease is tried. -/
def AdmissionOutcome (p : RoutingPolicy τ) (startImmediately : Bool) (start : Nat) : Answer τ QueueAdmissionDecision → Prop
  | (.ok (.accepted lease), q) => ∃ token, q.leases lease.object = some token ∧ Moved p q (some token)
  | (.ok _, q) => Moved p q none
  | (.error _, q) => Moved p q none ∨
      startImmediately = true ∧ ClockFailed p.monotonicNow start q.reading

theorem AdmissionOutcome.after (moved : Moved p q none) (outcome : AdmissionOutcome q startImmediately start answer) :
    AdmissionOutcome p startImmediately start answer := by
  obtain ⟨result, r⟩ := answer
  cases result with
  | error error =>
    rcases outcome with moved' | failed
    · exact .inl (moved.trans moved')
    · exact .inr (moved.monotonicNow ▸ failed)
  | ok decision =>
    cases decision with
    | accepted lease =>
      obtain ⟨token, object, moved'⟩ := outcome
      exact ⟨token, object, moved.trans moved'⟩
    | queued => exact moved.trans outcome
    | busy => exact moved.trans outcome
    | expired => exact moved.trans outcome
    | cancelled => exact moved.trans outcome

theorem admissionDecisionFor_refuses (moved : Moved p q none) (r : RoutingPolicy τ) (token : Nat)
    (now : ℚ) : AdmissionOutcome p startImmediately start (.ok (r.admissionDecisionFor token now), q) := by
  unfold RoutingPolicy.admissionDecisionFor
  split
  · exact moved
  · exact moved

theorem admitActive_spec (inv : Inv p none) (candidate : Candidate p token) :
    AdmissionOutcome p true p.reading (p.admitActive token) := by
  unfold RoutingPolicy.admitActive
  split
  · exact Moved.refl inv
  · rename_i free
    have registered := inv.register candidate
    have claimed := claimRecord_spec registered
    generalize (p.registerRecord token).claimRecord token = answer at claimed
    cases claimed with
    | full full => exact absurd full free
    | failed _ failed => exact .inr ⟨rfl, failed⟩
    | @leased r now q lease ticked seen runnable inv' active queue object records after =>
      obtain ⟨observed, reading, clock, nextToken, objects, capacity⟩ := after
      refine ⟨token, object, ?_⟩
      refine
        { inv := inv'
          active := active
          activeCapacity := capacity
          nextToken := nextToken.ge
          statuses := ?_
          fresh := ?_
          order := ?_
          objects := objects
          monotonicNow := clock
          reading := ?_
          observed := ?_ }
      · intro t _
        by_cases same : t = token
        · subst same
          exact .inr (.inr (.inl candidate.status))
        · rw [records t same]
          exact .inl rfl
      · rintro t ⟨⟩
        exact .inr (.inr candidate.status)
      · rw [queue]
        exact id
      · rw [reading]
        exact ticked.reading
      · intro last seen'
        rw [observed]
        exact ticked.observed last seen'
    | @idle q now ticked seen idle =>
      refine admissionDecisionFor_refuses ?_ _ _ _
      have inv' := registered.of_same ticked.shape
      have removed : Inv (q.removeRecord token) none := by
        have := inv'.removeRecord (.inr (.inr rfl))
        rwa [without, if_pos rfl] at this
      have inactive : token ∉ q.active := (inv'.loose token rfl).2.1
      have unqueued : token ∉ q.queue := (inv'.loose token rfl).1
      have active : (q.removeRecord token).active = p.active := by
        unfold RoutingPolicy.removeRecord RoutingPolicy.update
        simp only [inactive, ↓reduceIte]
        exact ticked.active
      obtain ⟨-, capacity, nextToken, -, objects, observed, reading, clock⟩ := removeRecord_rest q token
      have same := ticked.same
      refine
        { inv := removed
          active := by simp [active]
          activeCapacity := capacity.trans ticked.shape.activeCapacity
          nextToken := (nextToken.trans ticked.shape.nextToken).ge
          statuses := ?_
          fresh := nofun
          order := ?_
          objects := ?_
          monotonicNow := ?_
          reading := ?_
          observed := ?_ }
      · intro t _
        rw [removeRecord_records]
        split
        · exact .inr (.inl rfl)
        · exact .inl (ticked.shape.records t).2.2.1
      · intro sorted
        refine List.Pairwise.sublist (removeRecord_queue_sublist q token) ?_
        rw [ticked.queue]
        exact sorted
      · rw [objects, same]
        rfl
      · rw [clock, same]
        rfl
      · rw [reading]
        exact ticked.reading
      · intro last seen'
        rw [observed]
        exact ticked.observed last seen'

theorem admitQueued_spec (inv : Inv p none) (candidate : Candidate p token)
    (last : ∀ t ∈ p.queue, t < token) : AdmissionOutcome p false p.reading (p.admitQueued token) := by
  unfold RoutingPolicy.admitQueued
  cases read : p.readMonotonicNow none with
  | mk result q =>
    cases result with
    | error error => exact .inl ((readMonotonicNow_raised read).moved inv)
    | ok now =>
      obtain ⟨ticked, -⟩ := readMonotonicNow_seen read
      obtain ⟨inv', moved, -, -, sublist, -, -⟩ := moved_sweep inv read
      obtain ⟨-, swept, -⟩ := expireAt_spec (inv.of_same ticked.shape) now
      have candidate' := (candidate.of_same ticked.shape).of_swept swept
      dsimp only
      generalize (q.expireAt now).1 = r at inv' moved sublist candidate'
      split
      · exact admissionDecisionFor_refuses moved _ _ _
      · split
        · exact moved
        · rename_i room
          have registered := inv'.register candidate'
          refine moved.trans (?_ : Moved r _ none)
          refine { Moved.refl inv' with
            inv := registered.enqueue (not_le.mp room)
            statuses := ?_
            order := ?_ }
          · intro t _
            by_cases same : t = token
            · subst same
              exact .inr (.inr (.inl candidate'.status))
            · refine .inl ?_
              simp [RoutingPolicy.update, RoutingPolicy.registerRecord, same]
          · intro sorted
            have before : ∀ t ∈ r.queue, t < token := fun t member => last t (sublist.subset member)
            show (r.queue ++ [token]).Pairwise (· < ·)
            rw [List.pairwise_append]
            refine ⟨sorted, List.pairwise_singleton _ _, ?_⟩
            intro t member t' single
            rw [List.mem_singleton.mp single]
            exact before t member

theorem admitEntry_spec (inv : Inv p none) (host : Host) (entry : EntryId) (startImmediately : Bool)
    (now : Option (Option ℚ)) (uuids : List JsString) :
    AdmissionOutcome p startImmediately (firstReading p now)
      (p.admitEntry host entry startImmediately now uuids) := by
  unfold RoutingPolicy.admitEntry
  cases read : p.readMonotonicNow now with
  | mk result q =>
    cases result with
    | error error => exact .inl ((readMonotonicNow_raised read).moved inv)
    | ok observed =>
      obtain ⟨inv', moved, -, reading, -⟩ := moved_sweep inv read
      dsimp only
      generalize (q.expireAt observed).1 = r at inv' moved reading
      have created := createRecord_spec inv' host entry uuids
      generalize r.createRecord host entry uuids = answer at created
      obtain ⟨result, s⟩ := answer
      cases result with
      | error error => exact .inl (moved.trans created)
      | ok token =>
        obtain ⟨moved', candidate, last, reading'⟩ := created
        have both := moved.trans moved'
        dsimp only
        split
        · exact admissionDecisionFor_refuses both _ _ _
        · cases startImmediately
          case true =>
            have outcome := admitActive_spec moved'.inv candidate
            rw [reading', reading] at outcome
            exact outcome.after both
          case false =>
            have outcome := admitQueued_spec moved'.inv candidate last
            rw [reading', reading] at outcome
            exact outcome.after both

end Admission

section Targets

variable {τ : Type} {p q : RoutingPolicy τ}

theorem lookupEntryRecords_mem (found : p.lookupEntryRecords tokens requestId = .found token) :
    token ∈ tokens := by
  unfold RoutingPolicy.lookupEntryRecords at found
  have within : ∀ t ∈ (if requestId.isNone then tokens
      else tokens.filter fun token => (p.entryOf token).requestId = requestId), t ∈ tokens := by
    intro t member
    split at member
    · exact member
    · exact List.mem_of_mem_filter member
  dsimp only at found
  generalize (if requestId.isNone then tokens
    else tokens.filter fun token => (p.entryOf token).requestId = requestId) = candidates at found within
  rcases candidates with _ | ⟨head, _ | ⟨second, rest⟩⟩
  · cases found
  · cases found
    exact within token List.mem_cons_self
  · cases found

theorem Lists.held {belongs : Nat → Prop} (lists : Lists (some tokens) belongs)
    (member : token ∈ tokens) : belongs token := (lists.2.2 token).mp member

theorem findReference_held (inv : Inv p none) (found : p.findReference handle requestId = .found token) :
    Held p none token := by
  unfold RoutingPolicy.findReference at found
  cases named : p.handles handle with
  | none =>
    rw [named] at found
    cases found
  | some t =>
    rw [named] at found
    dsimp only at found
    split at found
    · cases found
    · cases found
      exact ((inv.handles _ _).mp named).1

theorem lookupTarget_held (inv : Inv p none) (answer : p.lookupTarget target requestId = .found token) :
    Held p none token := by
  unfold RoutingPolicy.lookupTarget at answer
  cases target with
  | text text =>
    dsimp only at answer
    cases named : p.handles text with
    | some t =>
      rw [named] at answer
      cases answer
      exact ((inv.handles _ _).mp named).1
    | none =>
      rw [named] at answer
      dsimp only at answer
      cases ids : p.entryIds text with
      | some tokens =>
        have lists := inv.entryIds text
        rw [ids] at answer lists
        exact (lists.held (lookupEntryRecords_mem answer)).1
      | none =>
        rw [ids, Option.none_or] at answer
        cases requests : p.requestIds text with
        | none =>
          rw [requests] at answer
          cases answer
        | some tokens =>
          have lists := inv.requestIds text
          rw [requests] at answer lists
          exact (lists.held (lookupEntryRecords_mem answer)).1
  | lease lease =>
    dsimp only at answer
    cases object : p.leases lease.object with
    | some t =>
      rw [object] at answer
      cases answer
      exact ((inv.leases _ _).mp object).1
    | none =>
      rw [object] at answer
      exact findReference_held inv answer
  | entry entry =>
    dsimp only at answer
    cases listed : p.entries entry with
    | none =>
      rw [listed] at answer
      cases answer
    | some tokens =>
      have lists := inv.entries entry
      rw [listed] at answer lists
      exact (lists.held (lookupEntryRecords_mem answer)).1
  | reference handle request => exact findReference_held inv answer

/-- Whatever a target finds is retained. -/
theorem findRecord_held (inv : Inv p none) (found : p.findRecord target requestId = .found token) :
    Held p none token := by
  unfold RoutingPolicy.findRecord at found
  cases lookup : p.lookupTarget target requestId with
  | notFound =>
    rw [lookup] at found
    cases found
  | ambiguous =>
    rw [lookup] at found
    cases found
  | found t =>
    rw [lookup] at found
    dsimp only at found
    split at found
    · cases found
    · cases found
      exact lookupTarget_held inv lookup

/-- A retained record that is not active is queued. -/
theorem Inv.queued_of_held (inv : Inv p none) (held : Held p none token)
    (idle : (p.records token).status ≠ .active) : token ∈ p.queue := by
  rcases held with queued | active | ⟨⟨⟩⟩
  · exact queued
  · exact absurd (inv.leased token active).1 idle

end Targets

section Cancellation

variable {τ : Type} {p q : RoutingPolicy τ}

theorem removeRecord_update (p : RoutingPolicy τ) (token : Nat) :
    (p.update token fun record =>
        { record with cancellationRequested := true, status := .cancelled }).removeRecord token =
      (p.removeRecord token).update token fun record =>
        { record with cancellationRequested := true } := by
  unfold RoutingPolicy.removeRecord RoutingPolicy.update RoutingPolicy.entryOf
  simp only [Function.update_self]
  split
  · simp
  · simp

theorem moved_update (inv : Inv p none) (token : Nat) :
    Moved p (p.update token fun record => { record with cancellationRequested := true }) none := by
  have same := sameShape_update p token (fun record => { record with cancellationRequested := true })
    fun _ => ⟨rfl, rfl, rfl, rfl⟩
  exact moved_mark inv same rfl rfl rfl rfl

theorem moved_cancelQueued (inv : Inv p none) (queued : token ∈ p.queue) :
    Moved p (p.cancelQueued token).2 none := by
  have removed := moved_removeRecord inv queued
  unfold RoutingPolicy.cancelQueued
  dsimp only
  rw [removeRecord_update]
  exact removed.trans (moved_update removed.inv token)

theorem moved_expired (inv : Inv p none) (queued : token ∈ p.queue) :
    Moved p ((p.removeRecord token).markExpired token) none := by
  have removed := moved_removeRecord inv queued
  exact removed.trans (moved_markExpired removed.inv token)

theorem held_ticked (ticked : Ticked p q) (held : Held p none token) : Held q none token := by
  unfold Held
  rw [ticked.queue, ticked.active]
  exact held

/-- The part of `cancelRecord` for an active record. -/
theorem moved_cancelRecord (inv : Inv p none) (held : Held p none token) :
    Moved p (p.cancelRecord token).2 none := by
  unfold RoutingPolicy.cancelRecord
  cases read : p.readMonotonicNow none with
  | mk result q =>
    cases result with
    | error error => exact (readMonotonicNow_raised read).moved inv
    | ok now =>
      obtain ⟨ticked, -⟩ := readMonotonicNow_seen read
      have moved := ticked.moved inv
      have inv' := moved.inv
      have held' := held_ticked ticked held
      refine moved.trans ?_
      dsimp only
      split
      · by_cases active : (q.records token).status = .active
        · simp only [active, ne_eq, not_true_eq_false, ↓reduceIte]
          exact moved_markExpired inv' token
        · simp only [ne_eq, active, not_false_eq_true, ↓reduceIte]
          exact moved_expired inv' (inv'.queued_of_held held' active)
      · cases status : (q.records token).status with
        | candidate => exact .refl inv'
        | cancelled => exact .refl inv'
        | released => exact .refl inv'
        | active =>
          dsimp only
          cases read' : q.readMonotonicNow none with
          | mk result r =>
            cases result with
            | error error => exact (readMonotonicNow_raised read').moved inv'
            | ok now' =>
              obtain ⟨ticked', -⟩ := readMonotonicNow_seen read'
              have moved' := ticked'.moved inv'
              refine moved'.trans ?_
              dsimp only
              split
              · exact moved_markExpired moved'.inv token
              · split
                · exact moved_update moved'.inv token
                · split
                  · exact .refl moved'.inv
                  · exact moved_update moved'.inv token
        | queued =>
          have queued := inv'.queued_of_held held' (by simp [status])
          dsimp only
          split
          · exact moved_cancelQueued inv' queued
          · cases read' : q.readMonotonicNow none with
            | mk result r =>
              cases result with
              | error error => exact (readMonotonicNow_raised read').moved inv'
              | ok now' =>
                obtain ⟨ticked', -⟩ := readMonotonicNow_seen read'
                have moved' := ticked'.moved inv'
                have queued' : token ∈ r.queue := by rwa [ticked'.queue]
                refine moved'.trans ?_
                dsimp only
                split
                · exact moved_expired moved'.inv queued'
                · split
                  · split
                    · exact moved_cancelQueued moved'.inv queued'
                    · exact moved_removeRecord moved'.inv queued'
                  · exact moved_cancelQueued moved'.inv queued'

theorem moved_cancel (inv : Inv p none) (target : QueueHandle) (requestId : Option JsString) :
    Moved p (p.cancel target requestId).2 none := by
  unfold RoutingPolicy.cancel
  cases found : p.findRecord target requestId with
  | notFound => exact .refl inv
  | ambiguous => exact .refl inv
  | found token => exact moved_cancelRecord inv (findRecord_held inv found)

theorem moved_cancelByRequestId (inv : Inv p none) (requestId : JsString) :
    Moved p (p.cancelByRequestId requestId).2 none := by
  unfold RoutingPolicy.cancelByRequestId
  have lists := inv.requestIds requestId
  rcases listed : p.requestIds requestId with _ | ⟨_ | ⟨token, _ | ⟨second, rest⟩⟩⟩
  · exact .refl inv
  · exact .refl inv
  · rw [listed] at lists
    exact moved_cancelRecord inv (lists.held List.mem_cons_self).1
  · exact .refl inv

theorem moved_expire (inv : Inv p none) (now : Option (Option ℚ)) : Moved p (p.expire now).2 none := by
  unfold RoutingPolicy.expire
  cases read : p.readMonotonicNow now with
  | mk result q =>
    cases result with
    | error error => exact (readMonotonicNow_raised read).moved inv
    | ok observed => exact (moved_sweep inv read).2.1

theorem moved_isRunnable (inv : Inv p none) (target : QueueHandle) (now : Option (Option ℚ)) :
    Moved p (p.isRunnable target now).2 none := by
  have moved := moved_expire inv now
  unfold RoutingPolicy.isRunnable
  generalize p.expire now = answer at moved
  obtain ⟨result, q⟩ := answer
  cases result with
  | error error => exact moved
  | ok expired =>
    dsimp only
    cases q.findRecord target none with
    | found token => exact moved
    | notFound => exact moved
    | ambiguous => exact moved

theorem moved_peek (inv : Inv p none) (now : Option (Option ℚ)) : Moved p (p.peek now).2 none := by
  have moved := moved_expire inv now
  unfold RoutingPolicy.peek
  generalize p.expire now = answer at moved
  obtain ⟨result, q⟩ := answer
  cases result with
  | error error => exact moved
  | ok expired => exact moved

end Cancellation

section Runs

variable {τ : Type} {p q : RoutingPolicy τ}

theorem release_spec (inv : Inv p none) (target : QueueHandle) (requestId : Option JsString) :
    (p.release target requestId).2 = p ∨
      ∃ token, Held p none token ∧ (p.release target requestId).2 = p.removeRecord token := by
  unfold RoutingPolicy.release
  cases found : p.findRecord target requestId with
  | notFound => exact .inl rfl
  | ambiguous => exact .inl rfl
  | found token =>
    dsimp only
    split
    · exact .inl rfl
    · exact .inr ⟨token, findRecord_held inv found, rfl⟩

theorem Inv.timed (inv : Inv p none) (clock : List (Option ℚ)) : Inv (p.timed clock) none :=
  inv.of_same { SameShape.refl p with }

/-- An entry object changes; the id and the request id of a retained one do not. -/
theorem Inv.change (inv : Inv p none) (entry : EntryId) (object : RoutingQueueEntry τ)
    (names : ∀ t, Held p none t → (p.records t).entry = entry →
      object.id = (p.objects entry).id ∧ object.requestId = (p.objects entry).requestId) :
    Inv { p with objects := Function.update p.objects entry object } none := by
  have kept : ∀ t, Held p none t →
      (Function.update p.objects entry object (p.records t).entry).id = (p.entryOf t).id ∧
        (Function.update p.objects entry object (p.records t).entry).requestId =
          (p.entryOf t).requestId := by
    intro t held
    unfold RoutingPolicy.entryOf
    by_cases same : (p.records t).entry = entry
    · rw [same, Function.update_self]
      exact names t held same
    · rw [Function.update_of_ne same]
      exact ⟨rfl, rfl⟩
  refine { inv with entryIds := ?_, requestIds := ?_ }
  · intro id
    refine (inv.entryIds id).congr fun t => and_congr_right fun held => ?_
    rw [← (kept t held).1]
    exact Iff.rfl
  · intro requestId
    refine (inv.requestIds requestId).congr fun t => and_congr_right fun held => ?_
    rw [← (kept t held).2]
    exact Iff.rfl

/-- What holds between two operations. -/
structure Sound (w : World τ) : Prop where
  inv : Inv w.policy none
  order : w.policy.queue.Pairwise (· < ·)
  known : ∀ t ∈ w.handedOut, t < w.policy.nextToken ∧
    ((w.policy.records t).status = .active ∨ (w.policy.records t).status = .released)
  once : w.handedOut.Nodup
  slots : w.handedOut.Perm (w.freed ++ w.policy.active)

theorem Advances.settled (advances : Advances a b) (settled : a = .active ∨ a = .released) :
    b = .active ∨ b = .released := by
  rcases advances with rfl | rfl | rfl | rfl
  · exact settled
  · exact .inr rfl
  · rcases settled with ⟨⟨⟩⟩ | ⟨⟨⟩⟩
  · rcases settled with ⟨⟨⟩⟩ | ⟨⟨⟩⟩

/-- An operation other than a release: at most one more lease is out, and no slot is
freed. -/
theorem Sound.moved {w : World τ} (sound : Sound w) (clock : List (Option ℚ))
    (moved : Moved (w.policy.timed clock) q handed) (live : ∀ t, handed = some t →
      t < q.nextToken ∧ ((q.records t).status = .active ∨ (q.records t).status = .released)) :
    Sound { policy := q
            handedOut := w.handedOut ++ handed.toList
            freed := w.freed ++ w.policy.active.filter fun token => token ∉ q.active } ∧
      (w.policy.active.filter fun token => token ∉ q.active) = [] := by
  have active : q.active = w.policy.active ++ handed.toList := moved.active
  have none_freed : (w.policy.active.filter fun token => token ∉ q.active) = [] := by
    rw [List.filter_eq_nil_iff]
    intro t member
    simp [active, member]
  refine ⟨?_, none_freed⟩
  refine ⟨moved.inv, moved.order sound.order, ?_, ?_, ?_⟩
  · intro t out
    rcases List.mem_append.mp out with before | new
    · obtain ⟨born, settled⟩ := sound.known t before
      exact ⟨born.trans_le moved.nextToken, (moved.statuses t born).settled settled⟩
    · exact live t (Option.mem_toList.mp new)
  · rw [List.nodup_append]
    refine ⟨sound.once, ?_, ?_⟩
    · cases handed with
      | none => exact List.nodup_nil
      | some t => exact List.nodup_singleton t
    · intro t before t' new same
      subst same
      obtain ⟨born, settled⟩ := sound.known t before
      rcases moved.fresh t (Option.mem_toList.mp new) with late | queued | candidate
      · exact absurd born (Nat.not_lt.mpr late)
      · have status : (w.policy.records t).status = .queued := queued
        simp [status] at settled
      · have status : (w.policy.records t).status = .candidate := candidate
        simp [status] at settled
  · dsimp only
    rw [none_freed, List.append_nil, active, ← List.append_assoc]
    exact sound.slots.append_right _

/-- A retained record is removed: its slot, if it holds one, is freed. -/
theorem Sound.removed {w : World τ} (sound : Sound w) (clock : List (Option ℚ))
    (held : Held (w.policy.timed clock) none token) :
    Sound { policy := (w.policy.timed clock).removeRecord token
            handedOut := w.handedOut ++ []
            freed := w.freed ++ w.policy.active.filter fun token' =>
              token' ∉ ((w.policy.timed clock).removeRecord token).active } := by
  have inv := sound.inv.timed clock
  have removed := inv.removeRecord held
  obtain ⟨-, -, nextToken, -⟩ := removeRecord_rest (w.policy.timed clock) token
  have gone : ∀ t, t ∈ ((w.policy.timed clock).removeRecord token).active ↔
      t ∈ (w.policy.timed clock).active ∧ t ≠ token := removeRecord_active inv
  refine ⟨removed, ?_, ?_, ?_, ?_⟩
  · exact sound.order.sublist (removeRecord_queue_sublist _ token)
  · rw [List.append_nil]
    intro t out
    obtain ⟨born, settled⟩ := sound.known t out
    dsimp only
    rw [nextToken, removeRecord_records]
    refine ⟨born, ?_⟩
    split
    · exact .inr rfl
    · exact settled
  · rw [List.append_nil]
    exact sound.once
  · dsimp only
    rw [List.append_nil]
    refine sound.slots.trans ?_
    rw [List.append_assoc]
    refine List.Perm.append_left _ ?_
    have split := List.filter_append_perm (fun token' => decide
      (token' ∉ ((w.policy.timed clock).removeRecord token).active)) w.policy.active
    refine split.symm.trans (List.Perm.append_left _ ?_)
    rw [List.perm_ext_iff_of_nodup (sound.inv.activeNodup.filter _) removed.activeNodup]
    intro t
    simp only [List.mem_filter, decide_not, Bool.not_not, decide_eq_true_eq]
    constructor
    · exact fun both => both.2
    · exact fun member => ⟨((gone t).mp member).1, member⟩

/-- The clock does not fail while a lease is being handed out: of the readings `accept`
and `dequeue` make, only one made first, to learn the time, may be other than finite. -/
def KeepsClock (label : PolicyStep τ) : Prop :=
  match label.operation with
  | .admission _ true now _ => ∀ reading ∈ label.clock.drop (if now.isNone then 1 else 0), reading ≠ none
  | .dequeue now => ∀ reading ∈ label.clock.drop (if now.isNone then 1 else 0), reading ≠ none
  | _ => True

instance (label : PolicyStep τ) : Decidable (KeepsClock label) := by
  unfold KeepsClock
  split <;> infer_instance

theorem not_clockFailed {clock : List (Option ℚ)} {now : Option (Option ℚ)}
    (finite : ∀ reading ∈ clock.drop (if now.isNone then 1 else 0), reading ≠ none)
    (all : q.reading = clock.length) :
    ¬ClockFailed (p.timed clock).monotonicNow (firstReading (p.timed clock) now) q.reading := by
  rintro ⟨n, low, high, failed⟩
  rw [all] at high
  have start : firstReading (p.timed clock) now = if now.isNone then 1 else 0 := Nat.zero_add _
  rw [start] at low
  have member : clock[n] ∈ clock.drop (if now.isNone then 1 else 0) := by
    rw [List.mem_drop_iff_getElem]
    refine ⟨n - (if now.isNone then 1 else 0), by omega, ?_⟩
    congr 1
    omega
  refine finite _ member ?_
  have read : (clock[n]?).join = none := failed
  rwa [List.getElem?_eq_getElem high, Option.join_some] at read

/-- The record of a lease that has just been handed out is active. -/
theorem Inv.live {lease : LeaseId} (inv : Inv q none) (object : q.leases lease = some token) :
    token < q.nextToken ∧ (q.records token).status = .active := by
  obtain ⟨held, own⟩ := (inv.leases _ _).mp object
  refine ⟨inv.born token held, ?_⟩
  rcases held with queued | active | ⟨⟨⟩⟩
  · rw [(inv.queued token queued).2] at own
    cases own
  · exact (inv.leased token active).1

/-- An operation other than a release or a change: it moves the policy, and a lease it
returns is that of the record it has handed out. -/
theorem perform_spec (inv : Inv p none) (host : Host) (label : PolicyStep τ)
    (keeps : KeepsClock label)
    (all : (label.operation.perform host (p.timed label.clock)).2.reading = label.clock.length)
    (release : ∀ target requestId, label.operation ≠ .release target requestId)
    (change : ∀ entry object, label.operation ≠ .change entry object) :
    Moved (p.timed label.clock) (label.operation.perform host (p.timed label.clock)).2
      ((label.operation.perform host (p.timed label.clock)).1.bind fun lease =>
        (label.operation.perform host (p.timed label.clock)).2.leases lease.object) := by
  have inv' := inv.timed label.clock
  obtain ⟨operation, clock⟩ := label
  dsimp only at keeps all release change inv' ⊢
  cases operation with
  | change entry object => exact absurd rfl (change entry object)
  | release target requestId => exact absurd rfl (release target requestId)
  | peek now => exact moved_peek inv' now
  | isRunnable target now => exact moved_isRunnable inv' target now
  | cancel target requestId => exact moved_cancel inv' target requestId
  | cancelByRequestId requestId => exact moved_cancelByRequestId inv' requestId
  | expire now => exact moved_expire inv' now
  | dequeue now =>
    have outcome := dequeue_spec inv' now
    unfold Operation.perform at all ⊢
    dsimp only at all ⊢
    generalize (p.timed clock).dequeue now = answer at outcome all
    obtain ⟨result, q⟩ := answer
    cases result with
    | error error =>
      rcases outcome with moved | failed
      · exact moved
      · exact absurd failed (not_clockFailed keeps all)
    | ok result =>
      cases result with
      | none =>
        obtain ⟨_, _, moved, _⟩ := outcome
        exact moved
      | some lease =>
        obtain ⟨token, _, _, object, _, moved⟩ := outcome
        dsimp only
        rwa [Option.bind_some, object]
  | admission entry startImmediately now uuids =>
    have outcome := admitEntry_spec inv' host entry startImmediately now uuids
    unfold Operation.perform at all ⊢
    dsimp only at all ⊢
    generalize (p.timed clock).admitEntry host entry startImmediately now uuids = answer at outcome all
    obtain ⟨result, q⟩ := answer
    cases result with
    | error error =>
      rcases outcome with moved | ⟨rfl, failed⟩
      · exact moved
      · exact absurd failed (not_clockFailed keeps all)
    | ok decision =>
      cases decision with
      | accepted lease =>
        obtain ⟨token, object, moved⟩ := outcome
        dsimp only
        rwa [Option.bind_some, object]
      | queued => exact outcome
      | busy => exact outcome
      | expired => exact outcome
      | cancelled => exact outcome

/-- A caller changes an entry object. -/
theorem Sound.changed {w : World τ} {objects : EntryId → RoutingQueueEntry τ} (sound : Sound w)
    (clock : List (Option ℚ)) (inv : Inv { w.policy with objects } none) :
    Sound { policy := { w.policy.timed clock with objects }
            handedOut := w.handedOut ++ []
            freed := w.freed ++ w.policy.active.filter fun token =>
              token ∉ (w.policy.timed clock).active } ∧
      (w.policy.active.filter fun token => token ∉ (w.policy.timed clock).active) = [] := by
  have kept : (w.policy.active.filter fun token => token ∉ (w.policy.timed clock).active) = [] := by
    rw [List.filter_eq_nil_iff]
    intro t member
    have still : t ∈ (w.policy.timed clock).active := member
    simp [still]
  rw [kept, List.append_nil, List.append_nil]
  exact ⟨⟨inv.timed clock, sound.order, sound.known, sound.once, sound.slots⟩, rfl⟩

/-- A step keeps the policy sound; only a release frees a slot. -/
theorem Sound.step {w : World τ} (sound : Sound w) (host : Host) (label : PolicyStep τ)
    (keeps : KeepsClock label) :
    Sound (w.step host label) ∧
      ((∀ target requestId, label.operation ≠ .release target requestId) →
        (w.step host label).freed = w.freed) := by
  unfold World.step
  cases fits : w.fits host label with
  | false => exact ⟨sound, fun _ => rfl⟩
  | true =>
    simp only [↓reduceIte]
    unfold World.fits at fits
    rw [Bool.and_eq_true, beq_iff_eq] at fits
    obtain ⟨all, names⟩ := fits
    by_cases release : ∀ target requestId, label.operation ≠ .release target requestId
    case neg =>
      push Not at release
      obtain ⟨target, requestId, same⟩ := release
      refine ⟨?_, fun other => absurd same (other target requestId)⟩
      rw [same]
      unfold Operation.perform
      dsimp only
      rcases release_spec (sound.inv.timed label.clock) target requestId with kept | ⟨token, held, removed⟩
      · rw [kept]
        exact (sound.moved label.clock (Moved.refl (sound.inv.timed _)) nofun).1
      · rw [removed]
        exact sound.removed label.clock held
    case pos =>
      by_cases change : ∀ entry object, label.operation ≠ .change entry object
      case neg =>
        push Not at change
        obtain ⟨entry, object, same⟩ := change
        rw [same] at names ⊢
        rw [Bool.or_eq_true, Bool.and_eq_true, beq_iff_eq, beq_iff_eq] at names
        have inv' := sound.inv.change entry object (by
          intro t held own
          rcases names with absent | same
          · have lists := sound.inv.entries entry
            rw [Option.isNone_iff_eq_none.mp absent] at lists
            exact absurd ⟨held, own⟩ (lists t)
          · exact same)
        unfold Operation.perform
        dsimp only [Option.bind_none, Option.toList_none]
        obtain ⟨changed, freed⟩ := sound.changed label.clock inv'
        exact ⟨changed, fun _ => by rw [freed, List.append_nil]⟩
      case pos =>
        have moved := perform_spec sound.inv host label keeps all release change
        generalize label.operation.perform host (w.policy.timed label.clock) = answer at moved
        obtain ⟨lease, q⟩ := answer
        dsimp only at moved ⊢
        obtain ⟨sound', freed⟩ := sound.moved label.clock moved (by
          intro t out
          obtain ⟨lease, -, object⟩ := Option.bind_eq_some_iff.mp out
          obtain ⟨born, active⟩ := moved.inv.live object
          exact ⟨born, .inl active⟩)
        refine ⟨sound', fun _ => ?_⟩
        rw [freed, List.append_nil]

/-- Nothing is retained yet. -/
theorem Inv.empty (queue : p.queue = []) (active : p.active = []) (handles : ∀ handle, p.handles handle = none)
    (entries : ∀ entry, p.entries entry = none) (entryIds : ∀ id, p.entryIds id = none)
    (requestIds : ∀ requestId, p.requestIds requestId = none) (leases : ∀ lease, p.leases lease = none) :
    Inv p none := by
  have absent : ∀ t, ¬Held p none t := by
    intro t
    unfold Held
    simp [queue, active]
  refine
    { queueBound := by simp [queue]
      activeBound := by simp [active]
      queueNodup := by simp [queue]
      activeNodup := by simp [active]
      disjoint := by simp [queue]
      loose := nofun
      queued := by simp [queue]
      leased := by simp [active]
      born := fun t held => absurd held (absent t)
      handles := ?_
      entries := ?_
      entryIds := ?_
      requestIds := ?_
      leases := ?_
      made := fun t held => absurd held (absent t) }
  · intro handle t
    simp [handles, absent]
  · intro entry
    rw [entries]
    exact fun t both => absent t both.1
  · intro id
    rw [entryIds]
    exact fun t both => absent t both.1
  · intro requestId
    rw [requestIds]
    exact fun t both => absent t both.1
  · intro lease t
    simp [leases, absent]

theorem new_spec {options : RoutingPolicyOptions} {clock : Nat → Option ℚ}
    {objects : EntryId → RoutingQueueEntry τ} (made : RoutingPolicy.new options clock objects = .ok q) :
    Inv q none ∧ q.queue = [] ∧ q.active = [] := by
  unfold RoutingPolicy.new at made
  cases resolved : resolveQueueCapacity options with
  | error error =>
    rw [resolved] at made
    cases made
  | ok queueCapacity =>
    rw [resolved] at made
    dsimp only [bind, Except.bind] at made
    cases resolved' : resolveActiveCapacity options queueCapacity with
    | error error =>
      rw [resolved'] at made
      cases made
    | ok activeCapacity =>
      rw [resolved'] at made
      dsimp only at made
      cases validated : validateRetryAfterMs options.retryAfterMs with
      | error error =>
        rw [validated] at made
        cases made
      | ok retryAfterMs =>
        rw [validated] at made
        dsimp only at made
        split at made
        · cases made
        · rename_i read
          cases made
          have same := (readMonotonicNow_seen read).1.shape
          refine ⟨Inv.of_same (Inv.empty rfl rfl ?_ ?_ ?_ ?_ ?_) same, same.queue, same.active⟩
          all_goals exact fun _ => rfl

theorem Sound.init {w : World τ} {host : Host} (start : (policySystem host τ).init w) : Sound w := by
  obtain ⟨⟨options, clock, objects, made⟩, handedOut, freed⟩ := start
  obtain ⟨inv, queue, active⟩ := new_spec made
  refine ⟨inv, ?_, ?_, ?_, ?_⟩
  · rw [queue]
    exact List.Pairwise.nil
  · rw [handedOut]
    exact nofun
  · rw [handedOut]
    exact List.nodup_nil
  · rw [handedOut, freed, active]
    exact List.Perm.nil

/-- The policy retains a record. -/
def Retained (p : RoutingPolicy τ) (token : Nat) : Prop := token ∈ p.queue ∨ token ∈ p.active

/-- The capacities are kept, no record is both queued and active, the queue is in the
order of admission, and the indexes hold exactly the retained records. -/
structure Represented (p : RoutingPolicy τ) : Prop where
  queueBound : p.queue.length ≤ p.queueCapacity
  activeBound : p.active.length ≤ p.activeCapacity
  queueNodup : p.queue.Nodup
  activeNodup : p.active.Nodup
  disjoint : ∀ token ∈ p.queue, token ∉ p.active
  order : p.queue.Pairwise (· < ·)
  handles : ∀ handle token, p.handles handle = some token ↔
    Retained p token ∧ (p.records token).handle = handle
  entries : ∀ entry, Lists (p.entries entry) fun token =>
    Retained p token ∧ (p.records token).entry = entry
  entryIds : ∀ id, Lists (p.entryIds id) fun token =>
    Retained p token ∧ some id = (p.entryOf token).id
  requestIds : ∀ requestId, Lists (p.requestIds requestId) fun token =>
    Retained p token ∧ some requestId = (p.entryOf token).requestId
  leases : ∀ lease token, p.leases lease = some token ↔
    token ∈ p.active ∧ (p.records token).lease = some lease
  leased : ∀ token ∈ p.active, ∃ lease, p.leases lease = some token

/-- The representation but for the order of the queue. -/
structure Consistent (p : RoutingPolicy τ) : Prop where
  queueBound : p.queue.length ≤ p.queueCapacity
  activeBound : p.active.length ≤ p.activeCapacity
  queueNodup : p.queue.Nodup
  activeNodup : p.active.Nodup
  disjoint : ∀ token ∈ p.queue, token ∉ p.active
  handles : ∀ handle token, p.handles handle = some token ↔
    Retained p token ∧ (p.records token).handle = handle
  entries : ∀ entry, Lists (p.entries entry) fun token =>
    Retained p token ∧ (p.records token).entry = entry
  entryIds : ∀ id, Lists (p.entryIds id) fun token =>
    Retained p token ∧ some id = (p.entryOf token).id
  requestIds : ∀ requestId, Lists (p.requestIds requestId) fun token =>
    Retained p token ∧ some requestId = (p.entryOf token).requestId
  leases : ∀ lease token, p.leases lease = some token ↔
    token ∈ p.active ∧ (p.records token).lease = some lease
  leased : ∀ token ∈ p.active, ∃ lease, p.leases lease = some token

/-- A lease is that of the oldest queued record that is runnable at the time observed;
without one, all slots are taken or no queued record is runnable. -/
def Dequeues (p : RoutingPolicy τ) : Answer τ (Option QueueLease) → Prop
  | (.ok (some lease), q) => ∃ token now, q.lastObservedNow = some now ∧
      q.leases lease.object = some token ∧
      p.queue.find? (fun token => p.isRunnableRecord token now) = some token ∧
      now < (p.records token).deadline ∧ (p.records token).expired = false ∧
      (p.records token).cancellationRequested = false ∧
      (p.entryOf token).isCancellationRequested = false
  | (.ok none, q) => ∃ now, q.lastObservedNow = some now ∧
      (p.activeCapacity ≤ p.active.length ∨ ∀ token ∈ p.queue, p.isRunnableRecord token now = false)
  | (.error _, _) => True

theorem Inv.consistent (inv : Inv p none) : Consistent p := by
  have retained : ∀ t, Held p none t ↔ Retained p t := by
    intro t
    unfold Held Retained
    simp
  have leases : ∀ lease t, p.leases lease = some t ↔
      t ∈ p.active ∧ (p.records t).lease = some lease := by
    intro lease t
    rw [inv.leases]
    constructor
    · rintro ⟨queued | active | ⟨⟨⟩⟩, own⟩
      · rw [(inv.queued t queued).2] at own
        cases own
      · exact ⟨active, own⟩
    · rintro ⟨active, own⟩
      exact ⟨.inr (.inl active), own⟩
  exact
    { queueBound := inv.queueBound
      activeBound := inv.activeBound
      queueNodup := inv.queueNodup
      activeNodup := inv.activeNodup
      disjoint := inv.disjoint
      handles := fun handle t => by rw [inv.handles, retained]
      entries := fun entry => (inv.entries entry).congr fun t => by rw [retained]
      entryIds := fun id => (inv.entryIds id).congr fun t => by rw [retained]
      requestIds := fun requestId => (inv.requestIds requestId).congr fun t => by rw [retained]
      leases := leases
      leased := fun t active => by
        obtain ⟨-, lease, own⟩ := inv.leased t active
        exact ⟨lease, (leases lease t).mpr ⟨active, own⟩⟩ }

theorem Sound.represented {w : World τ} (sound : Sound w) : Represented w.policy :=
  { sound.inv.consistent with order := sound.order }

theorem Inv.dequeues (inv : Inv p none) (clock : List (Option ℚ)) (now : Option (Option ℚ)) :
    Dequeues p ((p.timed clock).dequeue now) := by
  have outcome := dequeue_spec (inv.timed clock) now
  generalize (p.timed clock).dequeue now = answer at outcome
  obtain ⟨result, q⟩ := answer
  cases result with
  | error error => trivial
  | ok result =>
    cases result with
    | none =>
      obtain ⟨observed, seen, -, idle⟩ := outcome
      exact ⟨observed, seen, idle⟩
    | some lease =>
      obtain ⟨token, observed, seen, object, found, -⟩ := outcome
      have runnable : p.isRunnableRecord token observed = true :=
        List.find?_some (p := fun t => p.isRunnableRecord t observed) found
      have facts := runnable
      unfold RoutingPolicy.isRunnableRecord at facts
      simp only [Bool.and_eq_true, Bool.not_eq_true', decide_eq_true_eq] at facts
      obtain ⟨⟨⟨⟨⟨⟨-, expired⟩, cancelled⟩, -⟩, deadline⟩, -⟩, requested⟩ := facts
      exact ⟨token, observed, seen, object, found, deadline, expired, cancelled, requested⟩

/-- While the clock does not fail as a lease is handed out, the representation holds,
every record is handed out at most once and then holds its slot until a release frees
it, and `dequeue` takes the oldest runnable record. -/
theorem routingPolicy {w : World τ}
    (reached : ((policySystem host τ).restrict fun _ => KeepsClock).Reachable w) :
    Represented w.policy ∧ w.handedOut.Nodup ∧ w.handedOut.Perm (w.freed ++ w.policy.active) ∧
      (∀ clock now, Dequeues w.policy ((w.policy.timed clock).dequeue now)) ∧
      ∀ label, KeepsClock label → (∀ target requestId, label.operation ≠ .release target requestId) →
        (w.step host label).freed = w.freed := by
  have sound : Sound w := by
    refine System.Reachable.invariant ?_ ?_ reached
    · exact fun w start => @Sound.init τ w host start
    · rintro w label w' sound ⟨keeps, rfl⟩
      exact (sound.step host label keeps).1
  exact ⟨sound.represented, sound.once, sound.slots, fun clock now => sound.inv.dequeues clock now,
    fun label keeps => (sound.step host label keeps).2⟩

end Runs

/-- An entry that stays runnable, with a deadline. -/
def plainEntry : RoutingQueueEntry Unit where
  id := none
  requestId := none
  value := ()
  expiresAt := .number (some 100)
  cancelled := false
  state := none
  runnable := none
  aborted := false
  isCancelled := none
  signalAborted := false

/-- A new policy with one slot, and its callers' entries. -/
def oneSlot : World Unit where
  policy :=
    { queueCapacity := 32
      activeCapacity := 1
      retryAfterMs := none
      records := fun _ =>
        { handle := "", entry := 0, deadline := 0, status := .released, expired := false
          expiryNotified := false, cancellationRequested := false, lease := none }
      nextToken := 1
      queue := []
      active := []
      handles := fun _ => none
      entries := fun _ => none
      entryIds := fun _ => none
      requestIds := fun _ => none
      leases := fun _ => none
      nextLease := 0
      lastObservedNow := some 0
      monotonicNow := fun _ => some 0
      reading := 1
      objects := fun _ => plainEntry
      onExpired := [] }
  handedOut := []
  freed := []

def noHost : Host where
  parseOther _ := none

theorem oneSlot_init : (policySystem noHost Unit).init oneSlot := by
  refine ⟨⟨{ capacity := none, queueCapacity := none, maxQueueEntries := none
             limitsMaxQueueEntries := none, activeCapacity := some 1, maxActiveEntries := none
             retryAfterMs := none }, fun _ => some 0, fun _ => plainEntry, ?_⟩, rfl, rfl⟩
  rfl

/-- One entry is accepted, the next waits for its slot. -/
def handOver : List (PolicyStep Unit) :=
  [⟨.admission 0 true none ["a"], [some 1, some 2, some 3]⟩,
    ⟨.admission 1 false none ["b"], [some 4, some 5]⟩,
    ⟨.release (.text "queue:a") none, []⟩,
    ⟨.dequeue none, [some 6, some 7, some 8]⟩]

theorem routingPolicy_handOver :
    (handOver.foldl (fun w => w.step noHost) oneSlot).handedOut = [1, 2] ∧
      Represented (handOver.foldl (fun w => w.step noHost) oneSlot).policy := by
  have keeps : System.AllMeet (fun _ => KeepsClock) (fun w => w.step noHost) oneSlot handOver := by
    decide +kernel
  have start : ((policySystem noHost Unit).restrict fun _ => KeepsClock).Reachable oneSlot :=
    .init oneSlot_init
  have reached := start.run_restrict (f := fun w => w.step noHost) (fun _ _ => rfl) keeps
  exact ⟨by decide +kernel, (routingPolicy reached).1⟩

/-- The clock fails once, while the first entry is being accepted. -/
def clockFails : List (PolicyStep Unit) :=
  [⟨.admission 0 true none ["a"], [some 1, none]⟩]

theorem clockFails_leaks : ¬∀ w, (policySystem noHost Unit).Reachable w → Represented w.policy := by
  intro always
  have reached : (policySystem noHost Unit).Reachable
      (clockFails.foldl (fun w => w.step noHost) oneSlot) :=
    System.Reachable.run (fun _ _ => rfl) (.init oneSlot_init) _
  have indexed : (clockFails.foldl (fun w => w.step noHost) oneSlot).policy.handles "queue:a" =
      some 1 := by decide +kernel
  have dropped : (clockFails.foldl (fun w => w.step noHost) oneSlot).policy.queue = [] ∧
      (clockFails.foldl (fun w => w.step noHost) oneSlot).policy.active = [] := by decide +kernel
  obtain ⟨queued | active, -⟩ := ((always _ reached).handles _ _).mp indexed
  · rw [dropped.1] at queued
    cases queued
  · rw [dropped.2] at active
    cases active

end PiToPi.Policy
