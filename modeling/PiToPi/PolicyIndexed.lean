import PiToPi.PolicySafety

/-!
The indexes of the routing policy while several operations are under way, one inside the other.

`Indexed p loose` is the representation invariant where the indexes also hold the records of
`loose`, which are neither queued nor active: an operation has them in hand, or a clock that
failed has left them behind. It is the invariant of the policy that would have them in its queue.
-/
namespace PiToPi.Policy
open Transition RoutingPolicy

section Shelf

variable {τ : Type} {p q : RoutingPolicy τ} {loose : List Nat} {token : Nat}

/-- The records, the loose ones as queued. -/
def shelfRecords (records : Nat → QueueRecord) (loose : List Nat) (token : Nat) : QueueRecord :=
  if token ∈ loose then { records token with status := .queued } else records token

/-- The policy with the loose records at the end of its queue, and room for them. -/
def shelve (p : RoutingPolicy τ) (loose : List Nat) : RoutingPolicy τ :=
  { p with
    queue := p.queue ++ loose
    queueCapacity := (p.queue ++ loose).length
    records := shelfRecords p.records loose }

/-- The indexes hold the queued, the active and the loose records. -/
structure Indexed (p : RoutingPolicy τ) (loose : List Nat) : Prop where
  queueBound : p.queue.length ≤ p.queueCapacity
  idle : ∀ token ∈ loose, (p.records token).status = .candidate ∨ (p.records token).status = .queued
  inv : Inv (shelve p loose) none

/-- The indexes name the record. -/
def Known (p : RoutingPolicy τ) (loose : List Nat) (token : Nat) : Prop :=
  token ∈ p.queue ∨ token ∈ p.active ∨ token ∈ loose

/-- The order of the queue and its capacity do not matter to the indexes. -/
theorem Inv.requeue {queue : List Nat} {capacity : Nat} (inv : Inv p none)
    (perm : queue.Perm p.queue) (room : queue.length ≤ capacity) :
    Inv { p with queue := queue, queueCapacity := capacity } none := by
  have held : ∀ t, Held { p with queue := queue, queueCapacity := capacity } none t ↔
      Held p none t := by
    intro t
    unfold Held
    simp [perm.mem_iff]
  exact
    { queueBound := room
      activeBound := inv.activeBound
      queueNodup := perm.nodup_iff.mpr inv.queueNodup
      activeNodup := inv.activeNodup
      disjoint := fun t member => inv.disjoint t (perm.mem_iff.mp member)
      loose := nofun
      queued := fun t member => inv.queued t (perm.mem_iff.mp member)
      leased := inv.leased
      born := fun t member => inv.born t ((held t).mp member)
      handles := fun handle t => (inv.handles handle t).trans (and_congr_left' (held t).symm)
      entries := fun entry => (inv.entries entry).congr fun t => and_congr_left' (held t).symm
      entryIds := fun id => (inv.entryIds id).congr fun t => and_congr_left' (held t).symm
      requestIds := fun requestId =>
        (inv.requestIds requestId).congr fun t => and_congr_left' (held t).symm
      leases := fun lease t => (inv.leases lease t).trans (and_congr_left' (held t).symm)
      made := fun t member => inv.made t ((held t).mp member) }

/-- A policy whose indexes are those of an indexed one, but for the order of its queue. -/
theorem Indexed.of_inv {v : RoutingPolicy τ} (bound : p.queue.length ≤ p.queueCapacity)
    (status : ∀ token ∈ loose, (p.records token).status = .candidate ∨
      (p.records token).status = .queued)
    (inv : Inv v none) (perm : (p.queue ++ loose).Perm v.queue)
    (records : shelfRecords p.records loose = v.records)
    (rest : { p with queue := v.queue, queueCapacity := v.queueCapacity, records := v.records } = v) :
    Indexed p loose where
  queueBound := bound
  idle := status
  inv := by
    have requeued := inv.requeue perm le_rfl
    rw [← rest] at requeued
    unfold shelve
    rw [records]
    exact requeued

theorem Indexed.of_none (inv : Inv p none) : Indexed p [] := by
  refine Indexed.of_inv inv.queueBound nofun inv (by simp) ?_ rfl
  funext t
  simp [shelfRecords]

/-- Without loose records this is the invariant of the policy. -/
theorem Indexed.settled (indexed : Indexed p []) : Inv p none := by
  have perm : p.queue.Perm (shelve p []).queue := by simp [shelve]
  have records : shelfRecords p.records [] = p.records := by
    funext t
    simp [shelfRecords]
  have inv := indexed.inv.requeue perm indexed.queueBound
  simpa [shelve, records] using inv

theorem Indexed.nodup (indexed : Indexed p loose) : (p.queue ++ loose).Nodup :=
  indexed.inv.queueNodup

theorem Indexed.unqueued (indexed : Indexed p loose) (member : token ∈ loose) : token ∉ p.queue :=
  fun queued => (List.nodup_append.mp indexed.nodup).2.2 token queued token member rfl

theorem Indexed.inactive (indexed : Indexed p loose) (member : token ∈ loose) : token ∉ p.active :=
  indexed.inv.disjoint token (List.mem_append_right _ member)

theorem Indexed.disjoint (indexed : Indexed p loose) (member : token ∈ p.queue) :
    token ∉ p.active := indexed.inv.disjoint token (List.mem_append_left _ member)

theorem Indexed.activeNodup (indexed : Indexed p loose) : p.active.Nodup := indexed.inv.activeNodup

theorem Indexed.born (indexed : Indexed p loose) (known : Known p loose token) :
    token < p.nextToken := by
  apply indexed.inv.born
  rcases known with queued | active | loose
  · exact .inl (List.mem_append_left _ queued)
  · exact .inr (.inl active)
  · exact .inl (List.mem_append_right _ loose)

/-- A loose record has no lease. -/
theorem Indexed.unleased (indexed : Indexed p loose) (member : token ∈ loose) :
    (p.records token).lease = none := by
  have queued := indexed.inv.queued token (List.mem_append_right _ member)
  simpa [shelve, shelfRecords, member] using queued.2

theorem Indexed.queued (indexed : Indexed p loose) (member : token ∈ p.queue) :
    (p.records token).status = .queued ∧ (p.records token).lease = none := by
  have queued := indexed.inv.queued token (List.mem_append_left _ member)
  have absent : token ∉ loose := fun loose => indexed.unqueued loose member
  simpa [shelve, shelfRecords, absent] using queued

theorem Indexed.active (indexed : Indexed p loose) (member : token ∈ p.active) :
    (p.records token).status = .active ∧ ∃ lease, (p.records token).lease = some lease := by
  have active := indexed.inv.leased token member
  have absent : token ∉ loose := fun loose => indexed.inactive loose member
  simpa [shelve, shelfRecords, absent] using active

theorem held_shelve (t : Nat) : Held (shelve p loose) none t ↔ Known p loose t := by
  unfold Held Known shelve
  simp only [List.mem_append, reduceCtorEq, or_false]
  tauto

section Fields

variable (records : Nat → QueueRecord) (loose : List Nat) (t : Nat)

@[simp] theorem shelfRecords_handle : (shelfRecords records loose t).handle = (records t).handle := by
  unfold shelfRecords
  split <;> rfl

@[simp] theorem shelfRecords_entry : (shelfRecords records loose t).entry = (records t).entry := by
  unfold shelfRecords
  split <;> rfl

@[simp] theorem shelfRecords_lease : (shelfRecords records loose t).lease = (records t).lease := by
  unfold shelfRecords
  split <;> rfl

theorem shelfRecords_released :
    { shelfRecords records loose t with lease := none, status := .released } =
      { records t with lease := none, status := .released } := by
  unfold shelfRecords
  split <;> rfl

end Fields

theorem shelve_entryOf (t : Nat) : (shelve p loose).entryOf t = p.entryOf t := by
  simp [RoutingPolicy.entryOf, shelve]

theorem Indexed.handles (indexed : Indexed p loose) (handle : JsString) (t : Nat) :
    p.handles handle = some t ↔ Known p loose t ∧ (p.records t).handle = handle := by
  have named := indexed.inv.handles handle t
  rwa [held_shelve, shelve, shelfRecords_handle] at named

theorem Indexed.entries (indexed : Indexed p loose) (entry : EntryId) :
    Lists (p.entries entry) fun t => Known p loose t ∧ (p.records t).entry = entry := by
  refine (indexed.inv.entries entry).congr fun t => ?_
  rw [held_shelve, shelve, shelfRecords_entry]

theorem Indexed.entryIds (indexed : Indexed p loose) (id : JsString) :
    Lists (p.entryIds id) fun t => Known p loose t ∧ some id = (p.entryOf t).id := by
  refine (indexed.inv.entryIds id).congr fun t => ?_
  rw [held_shelve, shelve_entryOf]

theorem Indexed.requestIds (indexed : Indexed p loose) (requestId : JsString) :
    Lists (p.requestIds requestId) fun t =>
      Known p loose t ∧ some requestId = (p.entryOf t).requestId := by
  refine (indexed.inv.requestIds requestId).congr fun t => ?_
  rw [held_shelve, shelve_entryOf]

theorem Indexed.leases (indexed : Indexed p loose) (lease : LeaseId) (t : Nat) :
    p.leases lease = some t ↔ Known p loose t ∧ (p.records t).lease = some lease := by
  have leased := indexed.inv.leases lease t
  rwa [held_shelve, shelve, shelfRecords_lease] at leased

end Shelf

section Changes

variable {τ : Type} {p q : RoutingPolicy τ} {loose : List Nat} {token : Nat}

/-- Only what the indexes do not look at changes. -/
theorem Indexed.of_same (indexed : Indexed p loose) (same : SameShape p q) : Indexed q loose where
  queueBound := by
    rw [same.queue, same.queueCapacity]
    exact indexed.queueBound
  idle t member := by
    rw [(same.records t).2.2.1]
    exact indexed.idle t member
  inv := by
    refine indexed.inv.of_same ?_
    refine { same with queueCapacity := ?_, queue := ?_, records := fun t => ?_ }
    · simp [shelve, same.queue]
    · simp [shelve, same.queue]
    · obtain ⟨handle, entry, status, lease⟩ := same.records t
      unfold shelve shelfRecords
      dsimp only
      split
      · exact ⟨handle, entry, rfl, lease⟩
      · exact ⟨handle, entry, status, lease⟩

/-- The head of the queue is taken in hand. -/
theorem Indexed.shift {rest : List Nat} (indexed : Indexed p loose) (queue : p.queue = token :: rest) :
    Indexed { p with queue := rest } (token :: loose) := by
  have head : token ∈ p.queue := queue ▸ List.mem_cons_self
  have bound := indexed.queueBound
  rw [queue, List.length_cons] at bound
  refine Indexed.of_inv ((Nat.le_succ _).trans bound) ?_ indexed.inv ?_ ?_ rfl
  · intro t member
    rcases List.mem_cons.mp member with rfl | member
    · exact .inr (indexed.queued head).1
    · exact indexed.idle t member
  · show (rest ++ token :: loose).Perm (p.queue ++ loose)
    rw [queue]
    exact List.perm_middle
  · funext t
    show shelfRecords p.records (token :: loose) t = shelfRecords p.records loose t
    unfold shelfRecords
    by_cases same : t = token
    · subst same
      have status := (indexed.queued head).1
      have absent : t ∉ loose := fun loose => indexed.unqueued loose head
      rw [if_pos List.mem_cons_self, if_neg absent, ← status]
    · simp only [List.mem_cons, same, false_or]

/-- A new record is made; no index knows it. -/
theorem Indexed.create (indexed : Indexed p loose) (record : QueueRecord) :
    Indexed { p with nextToken := p.nextToken + 1
                     records := Function.update p.records p.nextToken record } loose := by
  have old {t : Nat} (member : t ∈ loose) : t ≠ p.nextToken :=
    Nat.ne_of_lt (indexed.born (.inr (.inr member)))
  refine Indexed.of_inv indexed.queueBound (fun t member => ?_) (indexed.inv.create record) (.refl _)
    ?_ rfl
  · simpa [Function.update_of_ne (old member)] using indexed.idle t member
  · funext t
    show shelfRecords (Function.update p.records p.nextToken record) loose t =
      Function.update (shelfRecords p.records loose) p.nextToken record t
    unfold shelfRecords
    by_cases same : t = p.nextToken
    · subst same
      have absent : p.nextToken ∉ loose := fun member => old member rfl
      simp [absent]
    · simp [same]

theorem removeRecord_lists (p : RoutingPolicy τ) (token : Nat) :
    (p.removeRecord token).queue = (if token ∈ p.active then p.queue else p.queue.erase token) ∧
      (p.removeRecord token).active =
        if token ∈ p.active then p.active.erase token else p.active := by
  unfold RoutingPolicy.removeRecord RoutingPolicy.update
  dsimp only
  split <;> exact ⟨rfl, rfl⟩

/-- A record that is removed is gone from the indexes. -/
theorem Indexed.removeRecord (indexed : Indexed p loose) (known : Known p loose token) :
    Indexed (p.removeRecord token) (loose.erase token) := by
  have removed := indexed.inv.removeRecord ((held_shelve token).mpr known)
  rw [without, if_neg (Option.some_ne_none token).symm] at removed
  have absent : token ∉ loose.erase token := by
    have nodup := (List.nodup_append.mp indexed.nodup).2.1
    exact fun member => (nodup.mem_erase_iff.mp member).1 rfl
  have kept {t : Nat} (other : t ≠ token) : t ∈ loose.erase token ↔ t ∈ loose :=
    List.mem_erase_of_ne other
  refine Indexed.of_inv ?_ (fun t member => ?_) removed ?_ ?_ ?_
  · rw [(removeRecord_rest p token).1]
    exact (removeRecord_queue_sublist p token).length_le.trans indexed.queueBound
  · have other : t ≠ token := fun same => absent (same ▸ member)
    rw [removeRecord_records, if_neg other]
    exact indexed.idle t ((kept other).mp member)
  · rw [(removeRecord_lists p token).1, (removeRecord_lists (shelve p loose) token).1]
    by_cases active : token ∈ p.active
    · have unloose : token ∉ loose := fun member => indexed.inactive member active
      rw [if_pos active, if_pos (by exact active), List.erase_of_not_mem unloose]
      rfl
    · rw [if_neg active, if_neg (by exact active)]
      show (p.queue.erase token ++ loose.erase token).Perm ((p.queue ++ loose).erase token)
      rw [List.erase_append]
      split
      next queued =>
        have unloose : token ∉ loose := fun member => indexed.unqueued member queued
        rw [List.erase_of_not_mem unloose]
      next unqueued => rw [List.erase_of_not_mem unqueued]
  · funext t
    rw [removeRecord_records]
    unfold shelfRecords
    rw [removeRecord_records]
    by_cases same : t = token
    · subst same
      rw [if_neg absent, if_pos rfl, if_pos rfl]
      exact (shelfRecords_released p.records loose t).symm
    · simp only [same, kept same, shelve, shelfRecords, ↓reduceIte]
  · by_cases active : token ∈ p.active <;>
      simp only [RoutingPolicy.removeRecord, RoutingPolicy.update, shelve, RoutingPolicy.entryOf,
        shelfRecords_handle, shelfRecords_entry, shelfRecords_lease, active, ↓reduceIte]

/-- A record that no index names and whose handle is free. -/
structure Fresh (p : RoutingPolicy τ) (loose : List Nat) (token : Nat) : Prop where
  born : token < p.nextToken
  unknown : ¬Known p loose token
  free : p.handles (p.records token).handle = none
  status : (p.records token).status = .candidate
  lease : (p.records token).lease = none

/-- A new record is entered into the indexes. -/
theorem Indexed.registerRecord (indexed : Indexed p loose) (fresh : Fresh p loose token) :
    Indexed (p.registerRecord token) (token :: loose) := by
  have absent : token ∉ loose := fun member => fresh.unknown (.inr (.inr member))
  let roomy : RoutingPolicy τ :=
    { shelve p loose with queueCapacity := (p.queue ++ loose).length + 1 }
  have inv : Inv roomy none := indexed.inv.requeue (.refl _) (Nat.le_succ _)
  have candidate : Candidate roomy token := by
    refine ⟨fresh.born, ?_, fun active => fresh.unknown (.inr (.inl active)), ?_, ?_, ?_⟩
    · intro member
      rcases List.mem_append.mp member with queued | member
      · exact fresh.unknown (.inl queued)
      · exact absent member
    · simpa [roomy, shelve] using fresh.free
    · simpa [roomy, shelve, shelfRecords, absent] using fresh.status
    · simpa [roomy, shelve] using fresh.lease
  have registered := (inv.register candidate).enqueue (Nat.lt_succ_self _)
  refine Indexed.of_inv indexed.queueBound (fun t member => ?_) registered ?_ ?_ ?_
  · rcases List.mem_cons.mp member with rfl | member
    · exact .inl fresh.status
    · exact indexed.idle t member
  · show (p.queue ++ token :: loose).Perm (p.queue ++ loose ++ [token])
    rw [List.append_assoc]
    exact (List.perm_append_singleton token loose).symm.append_left p.queue
  · funext t
    show shelfRecords p.records (token :: loose) t = Function.update (shelfRecords p.records loose) token
      { shelfRecords p.records loose token with status := .queued } t
    by_cases same : t = token
    · subst same
      simp [shelfRecords, absent]
    · simp [shelfRecords, same]
  · simp only [RoutingPolicy.registerRecord, RoutingPolicy.update, roomy, shelve,
      RoutingPolicy.entryOf, shelfRecords_handle, shelfRecords_entry]

/-- A record in hand goes to the end of the queue. -/
theorem Indexed.push (indexed : Indexed p loose) (member : token ∈ loose)
    (room : p.queue.length < p.queueCapacity) :
    Indexed { p.update token (fun record => { record with status := .queued }) with
      queue := p.queue ++ [token] } (loose.erase token) := by
  have nodup := (List.nodup_append.mp indexed.nodup).2.1
  refine Indexed.of_inv ?_ (fun t kept => ?_) indexed.inv ?_ ?_ rfl
  · rw [List.length_append]
    exact room
  · obtain ⟨other, loose⟩ := nodup.mem_erase_iff.mp kept
    simpa [RoutingPolicy.update, Function.update_of_ne other] using indexed.idle t loose
  · show (p.queue ++ [token] ++ loose.erase token).Perm (p.queue ++ loose)
    rw [List.append_assoc]
    exact (List.perm_cons_erase member).symm.append_left p.queue
  · funext t
    show shelfRecords (Function.update p.records token _) (loose.erase token) t =
      shelfRecords p.records loose t
    by_cases same : t = token
    · subst same
      simp [shelfRecords, nodup.mem_erase_iff, member]
    · simp [shelfRecords, same, List.mem_erase_of_ne same]

/-- A record becomes active, with a lease. -/
def leaseOut (p : RoutingPolicy τ) (token : Nat) : QueueLease × RoutingPolicy τ :=
  ({ p.update token (fun record => { record with status := .active }) with
    active := p.active ++ [token] } : RoutingPolicy τ).createLease token

theorem Indexed.lease (indexed : Indexed p loose) (member : token ∈ loose)
    (free : p.active.length < p.activeCapacity) :
    Indexed (leaseOut p token).2 (loose.erase token) := by
  have nodup := (List.nodup_append.mp indexed.nodup).2.1
  have perm : (token :: (p.queue ++ loose.erase token)).Perm (p.queue ++ loose) :=
    List.perm_middle.symm.trans ((List.perm_cons_erase member).symm.append_left p.queue)
  have inv := (indexed.inv.requeue perm le_rfl).shift rfl
  obtain ⟨_, q, leased, inv', -⟩ := inv.lease free
  have unleased : (({ p.update token (fun record => { record with status := .active }) with
      active := p.active ++ [token] } : RoutingPolicy τ).records token).lease = none := by
    simpa [RoutingPolicy.update] using indexed.unleased member
  have unleased' := (inv.loose token rfl).2.2.1
  rw [createLease_unleased (by simpa [RoutingPolicy.update] using unleased')] at leased
  obtain rfl := (Prod.mk.inj leased).2
  rw [leaseOut, createLease_unleased unleased]
  refine Indexed.of_inv indexed.queueBound (fun t kept => ?_) inv' (.refl _) ?_ rfl
  · obtain ⟨other, loose⟩ := nodup.mem_erase_iff.mp kept
    simpa [RoutingPolicy.update, Function.update_of_ne other] using indexed.idle t loose
  · funext t
    by_cases same : t = token
    · subst same
      simp [shelfRecords, RoutingPolicy.update, shelve, nodup.mem_erase_iff, member]
    · simp [shelfRecords, RoutingPolicy.update, shelve, same, List.mem_erase_of_ne same]

/-- A record that is gone is removed once more. -/
theorem sameShape_removeRecord (indexed : Indexed p loose) (unknown : ¬Known p loose token)
    (status : (p.records token).status = .released) (lease : (p.records token).lease = none) :
    SameShape p (p.removeRecord token) := by
  have unqueued : token ∉ p.queue := fun member => unknown (.inl member)
  have inactive : token ∉ p.active := fun member => unknown (.inr (.inl member))
  have unnamed : p.handles (p.records token).handle ≠ some token := by
    intro named
    exact unknown ((indexed.handles _ _).mp named).1
  have kept {κ : Type} [DecidableEq κ] {index : κ → Option (List Nat)} {key : κ}
      {belongs : Nat → Prop} (lists : Lists (index key) fun t => Known p loose t ∧ belongs t) :
      removeFrom index key token = index := by
    unfold removeFrom
    cases slot : index key with
    | none => rfl
    | some tokens =>
      rw [slot] at lists
      obtain ⟨nonempty, -, members⟩ := lists
      have absent : token ∉ tokens := fun member => unknown ((members token).mp member).1
      dsimp only
      rw [List.erase_of_not_mem absent, if_neg nonempty, ← slot, Function.update_eq_self]
  have keptMember {index : JsString → Option (List Nat)} {key : Option JsString}
      {belongs : JsString → Nat → Prop}
      (lists : ∀ key, Lists (index key) fun t => Known p loose t ∧ belongs key t) :
      removeFromMember index key token = index := by
    cases key with
    | none => rfl
    | some key => exact kept (lists key)
  obtain ⟨queueCapacity, activeCapacity, nextToken, nextLease, objects, -⟩ := removeRecord_rest p token
  obtain ⟨handles, entries, entryIds, requestIds, leases⟩ := removeRecord_indexes p token
  obtain ⟨queue, active⟩ := removeRecord_lists p token
  rw [if_neg inactive] at queue active
  rw [List.erase_of_not_mem unqueued] at queue
  rw [if_neg unnamed] at handles
  rw [kept (indexed.entries _)] at entries
  rw [keptMember indexed.entryIds] at entryIds
  rw [keptMember indexed.requestIds] at requestIds
  rw [lease] at leases
  refine ⟨queueCapacity, activeCapacity, queue, active, nextToken, nextLease, handles, entries,
    entryIds, requestIds, leases, fun entry => ?_, fun t => ?_⟩
  · rw [objects]
    exact ⟨rfl, rfl⟩
  · rw [removeRecord_records]
    split
    next same =>
      subst same
      exact ⟨rfl, rfl, status.symm, lease.symm⟩
    · exact ⟨rfl, rfl, rfl, rfl⟩

end Changes

section Claims

variable {τ : Type} {p : RoutingPolicy τ} {token : Nat}

/-- `claimRecord` refuses, a reading it makes fails, or the record gets a lease at a time it is
runnable. -/
theorem claimRecord_cases (p : RoutingPolicy τ) (token : Nat) :
    (∃ q, Ticked p q ∧ p.claimRecord token = (.ok none, q)) ∨
      (∃ q error, Ticked p q ∧ ClockFailed p.monotonicNow p.reading q.reading ∧
        p.claimRecord token = (.error error, q)) ∨
      ∃ q now, Ticked p q ∧ q.lastObservedNow = some now ∧
        p.isRunnableRecord token now = true ∧ p.active.length < p.activeCapacity ∧
        p.claimRecord token = (.ok (some (leaseOut q token).1), (leaseOut q token).2) := by
  unfold RoutingPolicy.claimRecord
  split
  · exact .inl ⟨p, .refl p, rfl⟩
  next room =>
    rcases read : p.readMonotonicNow none with ⟨_ | now, q⟩
    · exact .inr (.inl ⟨q, _, readMonotonicNow_raised read, readMonotonicNow_failed read, rfl⟩)
    obtain ⟨ticked, -⟩ := readMonotonicNow_seen read
    dsimp only
    split
    · exact .inl ⟨q, ticked, rfl⟩
    rcases read' : q.readMonotonicNow none with ⟨_ | now', r⟩
    · obtain ⟨n, low, high, failed⟩ := readMonotonicNow_failed read'
      rw [ticked.same] at failed
      exact .inr (.inl ⟨r, _, ticked.trans (readMonotonicNow_raised read'),
        ⟨n, ticked.reading.trans low, high, failed⟩, rfl⟩)
    obtain ⟨both, seen⟩ := readMonotonicNow_seen read'
    replace both := ticked.trans both
    have room' : ¬r.activeCapacity ≤ r.active.length := by
      rw [both.active, both.shape.activeCapacity]
      exact room
    dsimp only
    split
    · exact .inl ⟨r, both, rfl⟩
    next runnable =>
      have runnable' : p.isRunnableRecord token now' = true := by
        rw [← both.runnable token now']
        simpa using runnable
      refine .inr (.inr ⟨r, now', both, seen, runnable', not_le.mp room, rfl⟩)

end Claims

end PiToPi.Policy
