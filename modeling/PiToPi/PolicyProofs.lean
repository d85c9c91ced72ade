import PiToPi.Policy
import PiToPi.Transition
import Mathlib.Data.List.Nodup

/-!
The indexes, the bounds and the order of the routing policy, over every sequence
of its operations.

`Inv p pending` is the representation invariant; `pending` is the record an
operation has in the indexes but not (or no longer) in the queue or among the
active ones. Between two operations there is none: only a clock that fails while
a lease is being handed out can leave one behind (`KeepsClock`).
-/
namespace PiToPi.Policy
open Transition RoutingPolicy

section Indexes

variable {κ : Type} [DecidableEq κ]

/-- A slot of an index of sets holds exactly the tokens that belong there. -/
def Lists (slot : Option (List Nat)) (belongs : Nat → Prop) : Prop :=
  match slot with
  | none => ∀ token, ¬belongs token
  | some tokens => tokens ≠ [] ∧ tokens.Nodup ∧ ∀ token, token ∈ tokens ↔ belongs token

theorem Lists.congr {belongs belongs' : Nat → Prop} (lists : Lists slot belongs)
    (same : ∀ token, belongs token ↔ belongs' token) : Lists slot belongs' := by
  have equal : belongs = belongs' := funext fun token => propext (same token)
  exact equal ▸ lists

theorem lists_addTo {index : κ → Option (List Nat)} {belongs : κ → Nat → Prop}
    (all : ∀ k, Lists (index k) (belongs k)) (key : κ) (token : Nat) (k : κ) :
    Lists (addTo index key token k) fun t => belongs k t ∨ k = key ∧ t = token := by
  have held := all k
  unfold addTo
  by_cases same : k = key
  · subst same
    cases slot : index k with
    | none =>
      rw [slot] at held
      simp only [Function.update_self]
      refine ⟨by simp, by simp, ?_⟩
      intro t
      have absent := held t
      simp [absent]
    | some tokens =>
      rw [slot] at held
      obtain ⟨nonempty, nodup, members⟩ := held
      simp only [Function.update_self]
      refine ⟨?_, List.Nodup.insert nodup, ?_⟩
      · apply List.ne_nil_of_mem
        exact List.mem_insert_self
      · intro t
        rw [List.mem_insert_iff, members]
        tauto
  · have kept : ∀ slot, Function.update index key slot k = index k :=
      fun slot => Function.update_of_ne same _ _
    have read : Lists (index k) fun t => belongs k t ∨ k = key ∧ t = token :=
      held.congr fun t => by simp [same]
    cases index key with
    | none =>
      dsimp only
      rwa [kept]
    | some tokens =>
      dsimp only
      rwa [kept]

theorem lists_removeFrom {index : κ → Option (List Nat)} {belongs : κ → Nat → Prop}
    (all : ∀ k, Lists (index k) (belongs k)) (key : κ) (token : Nat) (k : κ) :
    Lists (removeFrom index key token k) fun t => belongs k t ∧ ¬(k = key ∧ t = token) := by
  have held := all k
  unfold removeFrom
  by_cases same : k = key
  · subst same
    cases slot : index k with
    | none =>
      rw [slot] at held
      simp only [slot]
      intro t both
      exact held t both.1
    | some tokens =>
      rw [slot] at held
      obtain ⟨nonempty, nodup, members⟩ := held
      have left : ∀ t, t ∈ tokens.erase token ↔ belongs k t ∧ ¬(True ∧ t = token) := by
        intro t
        rw [nodup.mem_erase_iff, members]
        tauto
      dsimp only
      split
      · rename_i empty
        simp only [Function.update_self]
        intro t both
        have member := (left t).mpr both
        rw [empty] at member
        cases member
      · rename_i nonempty'
        simp only [Function.update_self]
        exact ⟨nonempty', nodup.erase token, left⟩
  · have read : Lists (index k) fun t => belongs k t ∧ ¬(k = key ∧ t = token) :=
      held.congr fun t => by simp [same]
    cases index key with
    | none => exact read
    | some tokens =>
      dsimp only
      split
      · rwa [Function.update_of_ne same]
      · rwa [Function.update_of_ne same]

theorem lists_addToMember {index : JsString → Option (List Nat)} {belongs : JsString → Nat → Prop}
    (all : ∀ k, Lists (index k) (belongs k)) (key : Option JsString) (token : Nat) (k : JsString) :
    Lists (addToMember index key token k) fun t => belongs k t ∨ some k = key ∧ t = token := by
  unfold addToMember
  cases key with
  | none => exact (all k).congr fun t => by simp
  | some key => exact (lists_addTo all key token k).congr fun t => by simp

theorem lists_removeFromMember {index : JsString → Option (List Nat)}
    {belongs : JsString → Nat → Prop} (all : ∀ k, Lists (index k) (belongs k))
    (key : Option JsString) (token : Nat) (k : JsString) :
    Lists (removeFromMember index key token k) fun t =>
      belongs k t ∧ ¬(some k = key ∧ t = token) := by
  unfold removeFromMember
  cases key with
  | none => exact (all k).congr fun t => by simp
  | some key => exact (lists_removeFrom all key token k).congr fun t => by simp

end Indexes

section Invariant

variable {τ : Type} {p : RoutingPolicy τ}

/-- The policy retains the record, or the operation under way has it in hand. -/
def Held (p : RoutingPolicy τ) (pending : Option Nat) (token : Nat) : Prop :=
  token ∈ p.queue ∨ token ∈ p.active ∨ pending = some token

/-- The representation invariant. -/
structure Inv (p : RoutingPolicy τ) (pending : Option Nat) : Prop where
  queueBound : p.queue.length ≤ p.queueCapacity
  activeBound : p.active.length ≤ p.activeCapacity
  queueNodup : p.queue.Nodup
  activeNodup : p.active.Nodup
  disjoint : ∀ token ∈ p.queue, token ∉ p.active
  loose : ∀ token, pending = some token → token ∉ p.queue ∧ token ∉ p.active ∧
    (p.records token).lease = none ∧
      ((p.records token).status = .candidate ∨ (p.records token).status = .queued)
  queued : ∀ token ∈ p.queue, (p.records token).status = .queued ∧ (p.records token).lease = none
  leased : ∀ token ∈ p.active, (p.records token).status = .active ∧
    ∃ lease, (p.records token).lease = some lease
  born : ∀ token, Held p pending token → token < p.nextToken
  handles : ∀ handle token, p.handles handle = some token ↔
    Held p pending token ∧ (p.records token).handle = handle
  entries : ∀ entry, Lists (p.entries entry) fun token =>
    Held p pending token ∧ (p.records token).entry = entry
  entryIds : ∀ id, Lists (p.entryIds id) fun token =>
    Held p pending token ∧ some id = (p.entryOf token).id
  requestIds : ∀ requestId, Lists (p.requestIds requestId) fun token =>
    Held p pending token ∧ some requestId = (p.entryOf token).requestId
  leases : ∀ lease token, p.leases lease = some token ↔
    Held p pending token ∧ (p.records token).lease = some lease
  made : ∀ token, Held p pending token → ∀ lease, (p.records token).lease = some lease →
    lease < p.nextLease

/-- Only what the invariant does not look at has changed: the clock, and the marks
of records. -/
structure SameShape (p q : RoutingPolicy τ) : Prop where
  queueCapacity : q.queueCapacity = p.queueCapacity
  activeCapacity : q.activeCapacity = p.activeCapacity
  queue : q.queue = p.queue
  active : q.active = p.active
  nextToken : q.nextToken = p.nextToken
  nextLease : q.nextLease = p.nextLease
  handles : q.handles = p.handles
  entries : q.entries = p.entries
  entryIds : q.entryIds = p.entryIds
  requestIds : q.requestIds = p.requestIds
  leases : q.leases = p.leases
  names : ∀ entry, (q.objects entry).id = (p.objects entry).id ∧
    (q.objects entry).requestId = (p.objects entry).requestId
  records : ∀ token, (q.records token).handle = (p.records token).handle ∧
    (q.records token).entry = (p.records token).entry ∧
    (q.records token).status = (p.records token).status ∧
    (q.records token).lease = (p.records token).lease

theorem Inv.of_same (inv : Inv p pending) (same : SameShape p q) : Inv q pending := by
  have held : ∀ token, Held q pending token ↔ Held p pending token := by
    intro token
    unfold Held
    rw [same.queue, same.active]
  have entryOf : ∀ token, (q.entryOf token).id = (p.entryOf token).id ∧
      (q.entryOf token).requestId = (p.entryOf token).requestId := by
    intro token
    unfold RoutingPolicy.entryOf
    rw [(same.records token).2.1]
    exact same.names _
  refine
    { queueBound := ?_
      activeBound := ?_
      queueNodup := ?_
      activeNodup := ?_
      disjoint := ?_
      loose := ?_
      queued := ?_
      leased := ?_
      born := ?_
      handles := ?_
      entries := ?_
      entryIds := ?_
      requestIds := ?_
      leases := ?_
      made := ?_ }
  · rw [same.queue, same.queueCapacity]
    exact inv.queueBound
  · rw [same.active, same.activeCapacity]
    exact inv.activeBound
  · rw [same.queue]
    exact inv.queueNodup
  · rw [same.active]
    exact inv.activeNodup
  · rw [same.queue, same.active]
    exact inv.disjoint
  · intro token found
    obtain ⟨-, -, status, lease⟩ := same.records token
    rw [same.queue, same.active, status, lease]
    exact inv.loose token found
  · intro token member
    obtain ⟨-, -, status, lease⟩ := same.records token
    rw [same.queue] at member
    rw [status, lease]
    exact inv.queued token member
  · intro token member
    obtain ⟨-, -, status, lease⟩ := same.records token
    rw [same.active] at member
    rw [status, lease]
    exact inv.leased token member
  · intro token member
    rw [same.nextToken]
    exact inv.born token ((held token).mp member)
  · intro handle token
    rw [same.handles, inv.handles, held, (same.records token).1]
  · intro entry
    rw [same.entries]
    refine (inv.entries entry).congr fun token => ?_
    rw [held, (same.records token).2.1]
  · intro id
    rw [same.entryIds]
    refine (inv.entryIds id).congr fun token => ?_
    rw [held, (entryOf token).1]
  · intro requestId
    rw [same.requestIds]
    refine (inv.requestIds requestId).congr fun token => ?_
    rw [held, (entryOf token).2]
  · intro lease token
    rw [same.leases, inv.leases, held, (same.records token).2.2.2]
  · intro token member lease found
    rw [same.nextLease]
    rw [(same.records token).2.2.2] at found
    exact inv.made token ((held token).mp member) lease found

theorem SameShape.refl (p : RoutingPolicy τ) : SameShape p p :=
  ⟨rfl, rfl, rfl, rfl, rfl, rfl, rfl, rfl, rfl, rfl, rfl, fun _ => ⟨rfl, rfl⟩,
    fun _ => ⟨rfl, rfl, rfl, rfl⟩⟩

theorem SameShape.trans (first : SameShape p q) (second : SameShape q r) : SameShape p r where
  queueCapacity := second.queueCapacity.trans first.queueCapacity
  activeCapacity := second.activeCapacity.trans first.activeCapacity
  queue := second.queue.trans first.queue
  active := second.active.trans first.active
  nextToken := second.nextToken.trans first.nextToken
  nextLease := second.nextLease.trans first.nextLease
  handles := second.handles.trans first.handles
  entries := second.entries.trans first.entries
  entryIds := second.entryIds.trans first.entryIds
  requestIds := second.requestIds.trans first.requestIds
  leases := second.leases.trans first.leases
  names entry := ⟨(second.names entry).1.trans (first.names entry).1,
    (second.names entry).2.trans (first.names entry).2⟩
  records token := by
    obtain ⟨handle, entry, status, lease⟩ := first.records token
    obtain ⟨handle', entry', status', lease'⟩ := second.records token
    exact ⟨handle'.trans handle, entry'.trans entry, status'.trans status, lease'.trans lease⟩

/-- Marks of a record are not part of the shape. -/
theorem sameShape_update (p : RoutingPolicy τ) (token : Nat) (change : QueueRecord → QueueRecord)
    (marks : ∀ record, (change record).handle = record.handle ∧ (change record).entry = record.entry ∧
      (change record).status = record.status ∧ (change record).lease = record.lease) :
    SameShape p (p.update token change) := by
  refine { SameShape.refl p with records := ?_ }
  intro token'
  unfold RoutingPolicy.update
  by_cases same : token' = token
  · subst same
    simpa using marks _
  · simp [same]

theorem sameShape_markExpired (p : RoutingPolicy τ) (token : Nat) :
    SameShape p (p.markExpired token) := by
  unfold RoutingPolicy.markExpired
  have first := sameShape_update p token (fun record => { record with expired := true })
    fun _ => ⟨rfl, rfl, rfl, rfl⟩
  dsimp only
  split
  · exact first
  · have second := sameShape_update (p.update token fun record => { record with expired := true })
      token (fun record => { record with expiryNotified := true }) fun _ => ⟨rfl, rfl, rfl, rfl⟩
    exact (first.trans second).trans { SameShape.refl _ with }

end Invariant
section Parts

variable {τ : Type} {p : RoutingPolicy τ}

/-- A record that no index names and whose handle is free. -/
structure Candidate (p : RoutingPolicy τ) (token : Nat) : Prop where
  born : token < p.nextToken
  unqueued : token ∉ p.queue
  inactive : token ∉ p.active
  free : p.handles (p.records token).handle = none
  status : (p.records token).status = .candidate
  lease : (p.records token).lease = none

theorem Candidate.of_same (candidate : Candidate p token) (same : SameShape p q) :
    Candidate q token := by
  obtain ⟨handle, -, status, lease⟩ := same.records token
  refine ⟨?_, ?_, ?_, ?_, ?_, ?_⟩
  · rw [same.nextToken]
    exact candidate.born
  · rw [same.queue]
    exact candidate.unqueued
  · rw [same.active]
    exact candidate.inactive
  · rw [same.handles, handle]
    exact candidate.free
  · rw [status]
    exact candidate.status
  · rw [lease]
    exact candidate.lease

theorem Inv.register (inv : Inv p none) (candidate : Candidate p token) :
    Inv (p.registerRecord token) (some token) := by
  have absent : ¬Held p none token := by
    rintro (queued | active | ⟨⟨⟩⟩)
    · exact candidate.unqueued queued
    · exact candidate.inactive active
  have held : ∀ t, Held (p.registerRecord token) (some token) t ↔ Held p none t ∨ t = token := by
    intro t
    unfold Held RoutingPolicy.registerRecord
    simp only [Option.some.injEq, reduceCtorEq, or_false]
    tauto
  refine
    { queueBound := inv.queueBound
      activeBound := inv.activeBound
      queueNodup := inv.queueNodup
      activeNodup := inv.activeNodup
      disjoint := inv.disjoint
      loose := ?_
      queued := inv.queued
      leased := inv.leased
      born := ?_
      handles := ?_
      entries := ?_
      entryIds := ?_
      requestIds := ?_
      leases := ?_
      made := ?_ }
  · rintro t ⟨⟩
    exact ⟨candidate.unqueued, candidate.inactive, candidate.lease, .inl candidate.status⟩
  · intro t member
    rcases (held t).mp member with before | rfl
    · exact inv.born t before
    · exact candidate.born
  · intro handle t
    rw [held]
    unfold RoutingPolicy.registerRecord
    by_cases same : handle = (p.records token).handle
    · subst same
      simp only [Function.update_self, Option.some.injEq]
      constructor
      · rintro rfl
        exact ⟨.inr rfl, rfl⟩
      · rintro ⟨before | rfl, named⟩
        · have taken := (inv.handles _ t).mpr ⟨before, named⟩
          rw [candidate.free] at taken
          cases taken
        · rfl
    · simp only [Function.update_of_ne same]
      rw [inv.handles]
      constructor
      · rintro ⟨before, named⟩
        exact ⟨.inl before, named⟩
      · rintro ⟨before | rfl, named⟩
        · exact ⟨before, named⟩
        · exact absurd named.symm same
  · intro entry
    refine (lists_addTo inv.entries (p.records token).entry token entry).congr fun t => ?_
    rw [held]
    constructor
    · rintro (⟨before, own⟩ | ⟨rfl, rfl⟩)
      · exact ⟨.inl before, own⟩
      · exact ⟨.inr rfl, rfl⟩
    · rintro ⟨before | rfl, own⟩
      · exact .inl ⟨before, own⟩
      · exact .inr ⟨own.symm, rfl⟩
  · intro id
    refine (lists_addToMember inv.entryIds (p.entryOf token).id token id).congr fun t => ?_
    rw [held]
    constructor
    · rintro (⟨before, own⟩ | ⟨own, rfl⟩)
      · exact ⟨.inl before, own⟩
      · exact ⟨.inr rfl, own⟩
    · rintro ⟨before | rfl, own⟩
      · exact .inl ⟨before, own⟩
      · exact .inr ⟨own, rfl⟩
  · intro requestId
    refine (lists_addToMember inv.requestIds (p.entryOf token).requestId token requestId).congr
      fun t => ?_
    rw [held]
    constructor
    · rintro (⟨before, own⟩ | ⟨own, rfl⟩)
      · exact ⟨.inl before, own⟩
      · exact ⟨.inr rfl, own⟩
    · rintro ⟨before | rfl, own⟩
      · exact .inl ⟨before, own⟩
      · exact .inr ⟨own, rfl⟩
  · intro lease t
    rw [held]
    refine (inv.leases lease t).trans ?_
    constructor
    · rintro ⟨before, own⟩
      exact ⟨.inl before, own⟩
    · rintro ⟨before | rfl, own⟩
      · exact ⟨before, own⟩
      · exact absurd (candidate.lease.symm.trans own) nofun
  · intro t member lease own
    rcases (held t).mp member with before | rfl
    · exact inv.made t before lease own
    · exact absurd (candidate.lease.symm.trans own) nofun

/-- The record is out of hand once it is removed. -/
def without (pending : Option Nat) (token : Nat) : Option Nat :=
  if pending = some token then none else pending

theorem removeRecord_records (p : RoutingPolicy τ) (token t : Nat) :
    (p.removeRecord token).records t =
      if t = token then { p.records t with lease := none, status := .released } else p.records t := by
  unfold RoutingPolicy.removeRecord RoutingPolicy.update
  dsimp only
  split
  all_goals
    by_cases same : t = token
    · subst same
      simp
    · simp [same]

theorem removeRecord_queue (inv : Inv p pending) (t : Nat) :
    t ∈ (p.removeRecord token).queue ↔ t ∈ p.queue ∧ t ≠ token := by
  unfold RoutingPolicy.removeRecord RoutingPolicy.update
  dsimp only
  split
  · rename_i active
    dsimp only
    constructor
    · intro member
      refine ⟨member, ?_⟩
      rintro rfl
      exact inv.disjoint _ member active
    · exact fun both => both.1
  · dsimp only
    rw [inv.queueNodup.mem_erase_iff]
    tauto

theorem removeRecord_active (inv : Inv p pending) (t : Nat) :
    t ∈ (p.removeRecord token).active ↔ t ∈ p.active ∧ t ≠ token := by
  unfold RoutingPolicy.removeRecord RoutingPolicy.update
  dsimp only
  split
  · dsimp only
    rw [inv.activeNodup.mem_erase_iff]
    tauto
  · rename_i inactive
    dsimp only
    constructor
    · intro member
      refine ⟨member, ?_⟩
      rintro rfl
      exact inactive member
    · exact fun both => both.1

theorem removeRecord_queue_sublist (p : RoutingPolicy τ) (token : Nat) :
    (p.removeRecord token).queue.Sublist p.queue := by
  unfold RoutingPolicy.removeRecord RoutingPolicy.update
  dsimp only
  split
  · exact List.Sublist.refl _
  · exact List.erase_sublist

theorem removeRecord_active_sublist (p : RoutingPolicy τ) (token : Nat) :
    (p.removeRecord token).active.Sublist p.active := by
  unfold RoutingPolicy.removeRecord RoutingPolicy.update
  dsimp only
  split
  · exact List.erase_sublist
  · exact List.Sublist.refl _

/-- The fields of the policy that are left alone by a removal. -/
theorem removeRecord_rest (p : RoutingPolicy τ) (token : Nat) :
    (p.removeRecord token).queueCapacity = p.queueCapacity ∧
      (p.removeRecord token).activeCapacity = p.activeCapacity ∧
      (p.removeRecord token).nextToken = p.nextToken ∧
      (p.removeRecord token).nextLease = p.nextLease ∧
      (p.removeRecord token).objects = p.objects ∧
      (p.removeRecord token).lastObservedNow = p.lastObservedNow ∧
      (p.removeRecord token).reading = p.reading ∧
      (p.removeRecord token).monotonicNow = p.monotonicNow := by
  unfold RoutingPolicy.removeRecord RoutingPolicy.update
  dsimp only
  split
  · exact ⟨rfl, rfl, rfl, rfl, rfl, rfl, rfl, rfl⟩
  · exact ⟨rfl, rfl, rfl, rfl, rfl, rfl, rfl, rfl⟩

theorem removeRecord_entryOf (p : RoutingPolicy τ) (token t : Nat) :
    (p.removeRecord token).entryOf t = p.entryOf t := by
  unfold RoutingPolicy.entryOf
  rw [(removeRecord_rest p token).2.2.2.2.1, removeRecord_records]
  split <;> rfl

theorem removeRecord_indexes (p : RoutingPolicy τ) (token : Nat) :
    (p.removeRecord token).handles = (if p.handles (p.records token).handle = some token then
        Function.update p.handles (p.records token).handle none else p.handles) ∧
      (p.removeRecord token).entries = removeFrom p.entries (p.records token).entry token ∧
      (p.removeRecord token).entryIds = removeFromMember p.entryIds (p.entryOf token).id token ∧
      (p.removeRecord token).requestIds =
        removeFromMember p.requestIds (p.entryOf token).requestId token ∧
      (p.removeRecord token).leases = (match (p.records token).lease with
        | none => p.leases
        | some object => Function.update p.leases object none) := by
  unfold RoutingPolicy.removeRecord RoutingPolicy.update
  dsimp only
  split
  · exact ⟨rfl, rfl, rfl, rfl, rfl⟩
  · exact ⟨rfl, rfl, rfl, rfl, rfl⟩

theorem held_removeRecord (inv : Inv p pending) (token t : Nat) :
    Held (p.removeRecord token) (without pending token) t ↔ Held p pending t ∧ t ≠ token := by
  unfold Held without
  rw [removeRecord_queue inv, removeRecord_active inv]
  by_cases own : pending = some token
  · rw [if_pos own, own]
    simp only [reduceCtorEq, or_false, Option.some.injEq]
    constructor
    · rintro (both | both)
      · exact ⟨.inl both.1, both.2⟩
      · exact ⟨.inr (.inl both.1), both.2⟩
    · rintro ⟨queued | active | rfl, other⟩
      · exact .inl ⟨queued, other⟩
      · exact .inr ⟨active, other⟩
      · exact absurd rfl other
  · rw [if_neg own]
    constructor
    · rintro (both | both | held)
      · exact ⟨.inl both.1, both.2⟩
      · exact ⟨.inr (.inl both.1), both.2⟩
      · refine ⟨.inr (.inr held), ?_⟩
        rintro rfl
        exact own held
    · rintro ⟨queued | active | held, other⟩
      · exact .inl ⟨queued, other⟩
      · exact .inr (.inl ⟨active, other⟩)
      · exact .inr (.inr held)

theorem Inv.removeRecord (inv : Inv p pending) (member : Held p pending token) :
    Inv (p.removeRecord token) (without pending token) := by
  have held := held_removeRecord inv token
  have records := removeRecord_records p token
  have entryOf := removeRecord_entryOf p token
  obtain ⟨queueCapacity, activeCapacity, nextToken, nextLease, -, -⟩ := removeRecord_rest p token
  obtain ⟨handles, entries, entryIds, requestIds, leases⟩ := removeRecord_indexes p token
  refine
    { queueBound := ?_
      activeBound := ?_
      queueNodup := inv.queueNodup.sublist (removeRecord_queue_sublist p token)
      activeNodup := inv.activeNodup.sublist (removeRecord_active_sublist p token)
      disjoint := ?_
      loose := ?_
      queued := ?_
      leased := ?_
      born := ?_
      handles := ?_
      entries := ?_
      entryIds := ?_
      requestIds := ?_
      leases := ?_
      made := ?_ }
  · rw [queueCapacity]
    exact (removeRecord_queue_sublist p token).length_le.trans inv.queueBound
  · rw [activeCapacity]
    exact (removeRecord_active_sublist p token).length_le.trans inv.activeBound
  · intro t queued active
    exact inv.disjoint t ((removeRecord_queue inv t).mp queued).1 ((removeRecord_active inv t).mp active).1
  · intro t found
    have other : t ≠ token := ((held t).mp (.inr (.inr found))).2
    have before : pending = some t := by
      unfold without at found
      split at found
      · cases found
      · exact found
    obtain ⟨unqueued, inactive, lease, status⟩ := inv.loose t before
    rw [records, if_neg other]
    exact ⟨fun queued => unqueued ((removeRecord_queue inv t).mp queued).1,
      fun active => inactive ((removeRecord_active inv t).mp active).1, lease, status⟩
  · intro t queued
    obtain ⟨before, other⟩ := (removeRecord_queue inv t).mp queued
    rw [records, if_neg other]
    exact inv.queued t before
  · intro t active
    obtain ⟨before, other⟩ := (removeRecord_active inv t).mp active
    rw [records, if_neg other]
    exact inv.leased t before
  · intro t after
    rw [nextToken]
    exact inv.born t ((held t).mp after).1
  · intro handle t
    have own : p.handles (p.records token).handle = some token :=
      (inv.handles _ _).mpr ⟨member, rfl⟩
    rw [held, handles, if_pos own]
    by_cases same : handle = (p.records token).handle
    · subst same
      simp only [Function.update_self, reduceCtorEq, false_iff]
      rintro ⟨⟨before, other⟩, named⟩
      rw [records, if_neg other] at named
      have taken := (inv.handles _ t).mpr ⟨before, named⟩
      exact other (Option.some.inj (taken.symm.trans own))
    · rw [Function.update_of_ne same, inv.handles]
      constructor
      · rintro ⟨before, named⟩
        have other : t ≠ token := by
          rintro rfl
          exact same named.symm
        rw [records, if_neg other]
        exact ⟨⟨before, other⟩, named⟩
      · rintro ⟨⟨before, other⟩, named⟩
        rw [records, if_neg other] at named
        exact ⟨before, named⟩
  · intro entry
    rw [entries]
    refine (lists_removeFrom inv.entries (p.records token).entry token entry).congr fun t => ?_
    rw [held]
    constructor
    · rintro ⟨⟨before, own⟩, not⟩
      have other : t ≠ token := by
        rintro rfl
        exact not ⟨own.symm, rfl⟩
      rw [records, if_neg other]
      exact ⟨⟨before, other⟩, own⟩
    · rintro ⟨⟨before, other⟩, own⟩
      rw [records, if_neg other] at own
      exact ⟨⟨before, own⟩, fun both => other both.2⟩
  · intro id
    rw [entryIds]
    refine (lists_removeFromMember inv.entryIds (p.entryOf token).id token id).congr fun t => ?_
    rw [held, entryOf]
    constructor
    · rintro ⟨⟨before, own⟩, not⟩
      refine ⟨⟨before, ?_⟩, own⟩
      rintro rfl
      exact not ⟨own, rfl⟩
    · rintro ⟨⟨before, other⟩, own⟩
      exact ⟨⟨before, own⟩, fun both => other both.2⟩
  · intro requestId
    rw [requestIds]
    refine (lists_removeFromMember inv.requestIds (p.entryOf token).requestId token requestId).congr
      fun t => ?_
    rw [held, entryOf]
    constructor
    · rintro ⟨⟨before, own⟩, not⟩
      refine ⟨⟨before, ?_⟩, own⟩
      rintro rfl
      exact not ⟨own, rfl⟩
    · rintro ⟨⟨before, other⟩, own⟩
      exact ⟨⟨before, own⟩, fun both => other both.2⟩
  · intro lease t
    rw [held, leases]
    have kept : (Held p pending t ∧ (p.records t).lease = some lease) ∧ t ≠ token ↔
        (Held p pending t ∧ t ≠ token) ∧ ((p.removeRecord token).records t).lease = some lease := by
      rw [records]
      constructor
      · rintro ⟨⟨before, own⟩, other⟩
        rw [if_neg other]
        exact ⟨⟨before, other⟩, own⟩
      · rintro ⟨⟨before, other⟩, own⟩
        rw [if_neg other] at own
        exact ⟨⟨before, own⟩, other⟩
    rw [← kept, ← inv.leases]
    cases object : (p.records token).lease with
    | none =>
      dsimp only
      constructor
      · intro found
        refine ⟨found, ?_⟩
        rintro rfl
        rw [((inv.leases lease t).mp found).2] at object
        cases object
      · exact fun both => both.1
    | some object' =>
      have own : p.leases object' = some token := (inv.leases _ _).mpr ⟨member, object⟩
      dsimp only
      by_cases same : lease = object'
      · subst same
        simp only [Function.update_self, reduceCtorEq, false_iff]
        rintro ⟨found, other⟩
        exact other (Option.some.inj (found.symm.trans own))
      · rw [Function.update_of_ne same]
        constructor
        · intro found
          refine ⟨found, ?_⟩
          rintro rfl
          rw [((inv.leases lease t).mp found).2] at object
          exact same (Option.some.inj object)
        · exact fun both => both.1
  · intro t after lease own
    obtain ⟨before, other⟩ := (held t).mp after
    rw [records, if_neg other] at own
    rw [nextLease]
    exact inv.made t before lease own

end Parts

section Clock

variable {τ : Type} {p : RoutingPolicy τ}

theorem readMonotonicNow_ok (read : p.readMonotonicNow override = (.ok now, q)) :
    q = { p with lastObservedNow := some now, reading := q.reading } ∧ p.reading ≤ q.reading ∧
      ∀ last, p.lastObservedNow = some last → last ≤ now := by
  unfold RoutingPolicy.readMonotonicNow at read
  cases override with
  | some value =>
    cases value with
    | none => cases read
    | some candidate =>
      dsimp only [resolveTime] at read
      cases observed : p.lastObservedNow with
      | none =>
        simp only [observed, Option.any_none, Bool.false_eq_true, ↓reduceIte] at read
        cases read
        exact ⟨rfl, le_rfl, nofun⟩
      | some last =>
        simp only [observed, Option.any_some, decide_eq_true_eq, Option.getD_some] at read
        split at read
        · cases read
          refine ⟨?_, le_rfl, ?_⟩
          · rw [← observed]
          · rintro _ ⟨⟩
            exact le_rfl
        · rename_i later
          cases read
          refine ⟨rfl, le_rfl, ?_⟩
          rintro _ ⟨⟩
          exact le_of_not_gt later
  | none =>
    dsimp only at read
    cases reading : p.monotonicNow p.reading with
    | none =>
      rw [reading] at read
      cases read
    | some candidate =>
      rw [reading] at read
      dsimp only [resolveTime] at read
      cases observed : p.lastObservedNow with
      | none =>
        simp only [observed, Option.any_none, Bool.false_eq_true, ↓reduceIte] at read
        cases read
        exact ⟨rfl, Nat.le_succ _, nofun⟩
      | some last =>
        simp only [observed, Option.any_some, decide_eq_true_eq, Option.getD_some] at read
        split at read
        · cases read
          refine ⟨rfl, Nat.le_succ _, ?_⟩
          rintro _ ⟨⟩
          exact le_rfl
        · rename_i later
          cases read
          refine ⟨rfl, Nat.le_succ _, ?_⟩
          rintro _ ⟨⟩
          exact le_of_not_gt later

theorem readMonotonicNow_error (read : p.readMonotonicNow override = (.error error, q)) :
    q = { p with reading := q.reading } ∧ (q.reading = p.reading ∧ override = some none ∨
      q.reading = p.reading + 1 ∧ override = none ∧ p.monotonicNow p.reading = none) := by
  unfold RoutingPolicy.readMonotonicNow at read
  cases override with
  | some value =>
    cases value with
    | none =>
      cases read
      exact ⟨rfl, .inl ⟨rfl, rfl⟩⟩
    | some candidate =>
      dsimp only [resolveTime] at read
      split at read <;> cases read
  | none =>
    dsimp only at read
    cases reading : p.monotonicNow p.reading with
    | none =>
      rw [reading] at read
      cases read
      exact ⟨rfl, .inr ⟨rfl, rfl, rfl⟩⟩
    | some candidate =>
      rw [reading] at read
      dsimp only [resolveTime] at read
      split at read <;> cases read

/-- What is runnable at a time was runnable before. -/
theorem isRunnableRecord_mono (runnable : p.isRunnableRecord token now' = true) (earlier : now ≤ now') :
    p.isRunnableRecord token now = true := by
  unfold RoutingPolicy.isRunnableRecord at runnable ⊢
  simp only [Bool.and_eq_true, decide_eq_true_eq] at runnable ⊢
  obtain ⟨⟨⟨⟨⟨⟨status, expired⟩, cancelled⟩, allowed⟩, deadline⟩, state⟩, requested⟩ := runnable
  exact ⟨⟨⟨⟨⟨⟨status, expired⟩, cancelled⟩, allowed⟩, earlier.trans_lt deadline⟩, state⟩, requested⟩

theorem isRunnableRecord_congr {q : RoutingPolicy τ} (record : q.records token = p.records token)
    (objects : q.objects = p.objects) (now : ℚ) :
    q.isRunnableRecord token now = p.isRunnableRecord token now := by
  unfold RoutingPolicy.isRunnableRecord RoutingPolicy.entryOf
  rw [record, objects]

end Clock

section Sweep

variable {τ : Type} {p : RoutingPolicy τ}

/-- How the status of a record may develop. -/
def Advances (status status' : RecordStatus) : Prop :=
  status' = status ∨ status' = .released ∨ status = .candidate ∨ status = .queued

theorem Advances.trans (first : Advances a b) (second : Advances b c) : Advances a c := by
  rcases first with rfl | rfl | rfl | rfl
  · exact second
  · rcases second with rfl | rfl | ⟨⟨⟩⟩ | ⟨⟨⟩⟩
    · exact .inr (.inl rfl)
    · exact .inr (.inl rfl)
  · exact .inr (.inr (.inl rfl))
  · exact .inr (.inr (.inr rfl))

/-- Records in the queue have left it, or nothing has happened to them; other
records are as they were. -/
structure Swept (p q : RoutingPolicy τ) : Prop where
  queue : q.queue.Sublist p.queue
  active : q.active = p.active
  queueCapacity : q.queueCapacity = p.queueCapacity
  activeCapacity : q.activeCapacity = p.activeCapacity
  nextToken : q.nextToken = p.nextToken
  objects : q.objects = p.objects
  lastObservedNow : q.lastObservedNow = p.lastObservedNow
  monotonicNow : q.monotonicNow = p.monotonicNow
  reading : q.reading = p.reading
  handles : ∀ handle, p.handles handle = none → q.handles handle = none
  kept : ∀ token ∈ q.queue, q.records token = p.records token
  others : ∀ token, token ∉ p.queue → token ∉ p.active → q.records token = p.records token
  statuses : ∀ token, Advances (p.records token).status (q.records token).status

theorem Swept.refl (p : RoutingPolicy τ) : Swept p p :=
  ⟨List.Sublist.refl _, rfl, rfl, rfl, rfl, rfl, rfl, rfl, rfl, fun _ free => free, fun _ _ => rfl,
    fun _ _ _ => rfl, fun _ => .inl rfl⟩

theorem Swept.trans (first : Swept p q) (second : Swept q r) : Swept p r where
  queue := second.queue.trans first.queue
  active := second.active.trans first.active
  queueCapacity := second.queueCapacity.trans first.queueCapacity
  activeCapacity := second.activeCapacity.trans first.activeCapacity
  nextToken := second.nextToken.trans first.nextToken
  objects := second.objects.trans first.objects
  lastObservedNow := second.lastObservedNow.trans first.lastObservedNow
  monotonicNow := second.monotonicNow.trans first.monotonicNow
  reading := second.reading.trans first.reading
  handles handle free := second.handles handle (first.handles handle free)
  kept token member := (second.kept token member).trans (first.kept token (second.queue.subset member))
  others token unqueued inactive := by
    have unqueued' : token ∉ q.queue := fun member => unqueued (first.queue.subset member)
    have inactive' : token ∉ q.active := by rwa [first.active]
    exact (second.others token unqueued' inactive').trans (first.others token unqueued inactive)
  statuses token := (first.statuses token).trans (second.statuses token)

/-- A record is taken out of the queue. -/
theorem swept_removeRecord (inv : Inv p pending) (queued : token ∈ p.queue) :
    Swept p (p.removeRecord token) := by
  obtain ⟨queueCapacity, activeCapacity, nextToken, -, objects, observed, reading, clock⟩ :=
    removeRecord_rest p token
  have inactive : token ∉ p.active := inv.disjoint token queued
  refine
    { queue := removeRecord_queue_sublist p token
      active := ?_
      queueCapacity := queueCapacity
      activeCapacity := activeCapacity
      nextToken := nextToken
      objects := objects
      lastObservedNow := observed
      monotonicNow := clock
      reading := reading
      handles := ?_
      kept := ?_
      others := ?_
      statuses := ?_ }
  · unfold RoutingPolicy.removeRecord RoutingPolicy.update
    simp only [inactive, ↓reduceIte]
  · intro handle free
    rw [(removeRecord_indexes p token).1]
    split
    · by_cases same : handle = (p.records token).handle
      · subst same
        simp
      · rwa [Function.update_of_ne same]
    · exact free
  · intro t member
    rw [removeRecord_records, if_neg ((removeRecord_queue inv t).mp member).2]
  · intro t unqueued _
    have other : t ≠ token := by
      rintro rfl
      exact unqueued queued
    rw [removeRecord_records, if_neg other]
  · intro t
    rw [removeRecord_records]
    split
    · exact .inr (.inl rfl)
    · exact .inl rfl

theorem markExpired_records (p : RoutingPolicy τ) (token t : Nat) (other : t ≠ token) :
    (p.markExpired token).records t = p.records t := by
  unfold RoutingPolicy.markExpired RoutingPolicy.update
  dsimp only
  split
  · simp [other]
  · simp [other]

theorem markExpired_rest (p : RoutingPolicy τ) (token : Nat) :
    (p.markExpired token).objects = p.objects ∧
      (p.markExpired token).lastObservedNow = p.lastObservedNow ∧
      (p.markExpired token).monotonicNow = p.monotonicNow ∧
      (p.markExpired token).reading = p.reading := by
  unfold RoutingPolicy.markExpired RoutingPolicy.update
  dsimp only
  split
  · exact ⟨rfl, rfl, rfl, rfl⟩
  · exact ⟨rfl, rfl, rfl, rfl⟩

/-- A mark on a record that is not in the queue. -/
theorem swept_markExpired {before : RoutingPolicy τ} (p : RoutingPolicy τ)
    (unqueued : token ∉ p.queue) (swept : Swept before p)
    (member : token ∈ before.queue ∨ token ∈ before.active) :
    Swept before (p.markExpired token) := by
  have same := sameShape_markExpired p token
  obtain ⟨objects, observed, clock, reading⟩ := markExpired_rest p token
  refine
    { queue := ?_
      active := same.active.trans swept.active
      queueCapacity := same.queueCapacity.trans swept.queueCapacity
      activeCapacity := same.activeCapacity.trans swept.activeCapacity
      nextToken := same.nextToken.trans swept.nextToken
      objects := objects.trans swept.objects
      lastObservedNow := observed.trans swept.lastObservedNow
      monotonicNow := clock.trans swept.monotonicNow
      reading := reading.trans swept.reading
      handles := ?_
      kept := ?_
      others := ?_
      statuses := ?_ }
  · rw [same.queue]
    exact swept.queue
  · rw [same.handles]
    exact swept.handles
  · intro t queued
    rw [same.queue] at queued
    have other : t ≠ token := by
      rintro rfl
      exact unqueued queued
    rw [markExpired_records p token t other]
    exact swept.kept t queued
  · intro t unqueued' inactive
    have other : t ≠ token := by
      rintro rfl
      exact member.elim unqueued' inactive
    rw [markExpired_records p token t other]
    exact swept.others t unqueued' inactive
  · intro t
    rw [(same.records t).2.2.1]
    exact swept.statuses t

/-- One queued record is swept: it stays exactly if it is runnable. -/
theorem sweepQueued_spec (inv : Inv p none) (now : ℚ) (queued : token ∈ p.queue)
    (expired : List EntryId) :
    Inv (sweepQueued now (p, expired) token).1 none ∧
      Swept p (sweepQueued now (p, expired) token).1 ∧
      ∀ t, t ∈ (sweepQueued now (p, expired) token).1.queue ↔
        t ∈ p.queue ∧ (t = token → p.isRunnableRecord token now = true) := by
  have removed := inv.removeRecord (.inl queued)
  have gone : ∀ t, t ∈ (p.removeRecord token).queue ↔ t ∈ p.queue ∧ t ≠ token :=
    removeRecord_queue inv
  unfold sweepQueued
  dsimp only
  by_cases due : (p.records token).deadline ≤ now
  case pos =>
    have stale : p.isRunnableRecord token now = false := by
      unfold RoutingPolicy.isRunnableRecord
      simp [not_lt.mpr due]
    have marked := sameShape_markExpired (p.removeRecord token) token
    have unqueued : token ∉ (p.removeRecord token).queue := fun member => ((gone token).mp member).2 rfl
    rw [if_pos due]
    refine ⟨removed.of_same marked, ?_, ?_⟩
    · exact swept_markExpired _ unqueued (swept_removeRecord inv queued) (.inl queued)
    · intro t
      rw [marked.queue, gone, stale]
      simp
  case neg =>
    rw [if_neg due]
    cases runnable : p.isRunnableRecord token now with
    | false =>
      simp only [Bool.not_false, ↓reduceIte]
      refine ⟨removed, swept_removeRecord inv queued, ?_⟩
      intro t
      rw [gone]
      simp
    | true =>
      simp only [Bool.not_true, Bool.false_eq_true, ↓reduceIte]
      exact ⟨inv, .refl p, fun t => by simp⟩

theorem sweepQueued_fold (now : ℚ) (tokens : List Nat) :
    ∀ {q : RoutingPolicy τ} (expired : List EntryId), Inv q none → tokens.Nodup →
      (∀ t ∈ tokens, t ∈ q.queue) →
      Inv (tokens.foldl (sweepQueued now) (q, expired)).1 none ∧
        Swept q (tokens.foldl (sweepQueued now) (q, expired)).1 ∧
        ∀ t, t ∈ (tokens.foldl (sweepQueued now) (q, expired)).1.queue ↔
          t ∈ q.queue ∧ (t ∈ tokens → q.isRunnableRecord t now = true) := by
  induction tokens with
  | nil =>
    intro q expired inv _ _
    exact ⟨inv, .refl q, fun t => by simp⟩
  | cons token rest ih =>
    intro q expired inv nodup members
    obtain ⟨fresh, nodup⟩ := List.nodup_cons.mp nodup
    obtain ⟨inv', swept, queue⟩ :=
      sweepQueued_spec inv now (members token List.mem_cons_self) expired
    have members' : ∀ t ∈ rest, t ∈ (sweepQueued now (q, expired) token).1.queue := by
      intro t member
      refine (queue t).mpr ⟨members t (List.mem_cons_of_mem _ member), ?_⟩
      rintro rfl
      exact absurd member fresh
    obtain ⟨inv'', swept', queue'⟩ := ih (sweepQueued now (q, expired) token).2 inv' nodup members'
    rw [List.foldl_cons]
    refine ⟨inv'', swept.trans swept', ?_⟩
    intro t
    rw [queue', queue]
    constructor
    · rintro ⟨⟨member, head⟩, tail⟩
      refine ⟨member, fun listed => ?_⟩
      rcases List.mem_cons.mp listed with rfl | listed
      · exact head rfl
      · have same := isRunnableRecord_congr (swept.kept t (members' t listed)) swept.objects now
        rw [← same]
        exact tail listed
    · rintro ⟨member, runnable⟩
      refine ⟨⟨member, fun same => same ▸ runnable (same ▸ List.mem_cons_self)⟩, fun listed => ?_⟩
      have same := isRunnableRecord_congr (swept.kept t (members' t listed)) swept.objects now
      rw [same]
      exact runnable (List.mem_cons_of_mem _ listed)

theorem sweepActive_fold (now : ℚ) (tokens : List Nat) :
    ∀ {before q : RoutingPolicy τ} (expired : List EntryId), Inv q none → Swept before q →
      (∀ t ∈ tokens, t ∈ q.active) →
      Inv (tokens.foldl (sweepActive now) (q, expired)).1 none ∧
        Swept before (tokens.foldl (sweepActive now) (q, expired)).1 ∧
        (tokens.foldl (sweepActive now) (q, expired)).1.queue = q.queue := by
  induction tokens with
  | nil =>
    intro before q expired inv swept _
    exact ⟨inv, swept, rfl⟩
  | cons token rest ih =>
    intro before q expired inv swept members
    have active : token ∈ q.active := members token List.mem_cons_self
    have unqueued : token ∉ q.queue := fun queued => inv.disjoint token queued active
    rw [List.foldl_cons]
    by_cases due : (q.records token).deadline ≤ now ∧ (q.records token).expired = false
    case pos =>
      have step : sweepActive now (q, expired) token =
          (q.markExpired token, expired ++ [(q.records token).entry]) := by
        unfold sweepActive
        exact if_pos due
      have marked := sameShape_markExpired q token
      have later := swept_markExpired q unqueued swept (.inr (swept.active ▸ active))
      rw [step]
      obtain ⟨inv', swept', queue⟩ := ih _ (inv.of_same marked) later fun t member => by
        rw [marked.active]
        exact members t (List.mem_cons_of_mem _ member)
      exact ⟨inv', swept', queue.trans marked.queue⟩
    case neg =>
      have step : sweepActive now (q, expired) token = (q, expired) := by
        unfold sweepActive
        exact if_neg due
      rw [step]
      exact ih expired inv swept fun t member => members t (List.mem_cons_of_mem _ member)

/-- A sweep leaves exactly the runnable records in the queue. -/
theorem expireAt_spec (inv : Inv p none) (now : ℚ) :
    Inv (p.expireAt now).1 none ∧ Swept p (p.expireAt now).1 ∧
      ∀ t, t ∈ (p.expireAt now).1.queue ↔ t ∈ p.queue ∧ p.isRunnableRecord t now = true := by
  unfold RoutingPolicy.expireAt
  have swept := sweepQueued_fold now p.queue.reverse (q := p) [] inv
    (List.nodup_reverse.mpr inv.queueNodup) fun t member => List.mem_reverse.mp member
  generalize p.queue.reverse.foldl (sweepQueued now) (p, []) = first at swept
  obtain ⟨q, expired⟩ := first
  obtain ⟨inv', swept, queue⟩ := swept
  dsimp only at inv' swept queue ⊢
  obtain ⟨inv'', swept', queue'⟩ := sweepActive_fold now q.active expired inv' swept fun t member => member
  refine ⟨inv'', swept', ?_⟩
  intro t
  rw [queue', queue]
  simp only [List.mem_reverse]
  tauto

end Sweep

section Claim

variable {τ : Type} {p : RoutingPolicy τ}

/-- The clock has been read; nothing else has happened. -/
structure Ticked (p q : RoutingPolicy τ) : Prop where
  same : q = { p with lastObservedNow := q.lastObservedNow, reading := q.reading }
  reading : p.reading ≤ q.reading
  observed : ∀ last, p.lastObservedNow = some last → ∃ now, q.lastObservedNow = some now ∧ last ≤ now

theorem Ticked.refl (p : RoutingPolicy τ) : Ticked p p := ⟨rfl, le_rfl, fun last seen => ⟨last, seen, le_rfl⟩⟩

theorem Ticked.trans (first : Ticked p q) (second : Ticked q r) : Ticked p r := by
  refine ⟨?_, first.reading.trans second.reading, ?_⟩
  · rw [second.same, first.same]
  · intro last seen
    obtain ⟨now, seen', le⟩ := first.observed last seen
    obtain ⟨now', seen'', le'⟩ := second.observed now seen'
    exact ⟨now', seen'', le.trans le'⟩

theorem Ticked.shape {q : RoutingPolicy τ} (ticked : Ticked p q) : SameShape p q := by
  rw [ticked.same]
  exact { SameShape.refl p with }

theorem Ticked.runnable {q : RoutingPolicy τ} (ticked : Ticked p q) (token : Nat) (now : ℚ) :
    q.isRunnableRecord token now = p.isRunnableRecord token now := by
  rw [ticked.same]
  rfl

theorem Ticked.records {q : RoutingPolicy τ} (ticked : Ticked p q) : q.records = p.records := by
  rw [ticked.same]

theorem Ticked.queue {q : RoutingPolicy τ} (ticked : Ticked p q) : q.queue = p.queue := by
  rw [ticked.same]

theorem Ticked.active {q : RoutingPolicy τ} (ticked : Ticked p q) : q.active = p.active := by
  rw [ticked.same]

theorem readMonotonicNow_ticked (p : RoutingPolicy τ) (override : Option (Option ℚ)) :
    Ticked p (p.readMonotonicNow override).2 := by
  cases read : p.readMonotonicNow override with
  | mk result q =>
    cases result with
    | ok now =>
      obtain ⟨same, reading, later⟩ := readMonotonicNow_ok read
      refine ⟨?_, reading, ?_⟩
      · rw [same]
      · intro last seen
        refine ⟨now, ?_, later last seen⟩
        rw [same]
    | error error =>
      obtain ⟨same, reading⟩ := readMonotonicNow_error read
      refine ⟨?_, ?_, ?_⟩
      · rw [same]
      · show p.reading ≤ q.reading
        rcases reading with ⟨same, -⟩ | ⟨next, -⟩
        · omega
        · omega
      · intro last seen
        refine ⟨last, ?_, le_rfl⟩
        rw [same]
        exact seen

/-- A reading of the clock from the one numbered `start` on has failed, before `stop`. -/
def ClockFailed (clock : Nat → Option ℚ) (start stop : Nat) : Prop :=
  ∃ n, start ≤ n ∧ n < stop ∧ clock n = none

theorem readMonotonicNow_failed (read : p.readMonotonicNow none = (.error error, q)) :
    ClockFailed p.monotonicNow p.reading q.reading := by
  obtain ⟨-, ⟨-, ⟨⟩⟩ | ⟨next, -, failed⟩⟩ := readMonotonicNow_error read
  exact ⟨p.reading, le_rfl, by omega, failed⟩

/-- What `claimRecord` of a registered record comes to. -/
inductive Claimed (p : RoutingPolicy τ) (token : Nat) : Answer τ (Option QueueLease) → Prop where
  | full (full : p.activeCapacity ≤ p.active.length) : Claimed p token (.ok none, p)
  | idle (ticked : Ticked p q) (seen : q.lastObservedNow = some now)
      (idle : p.isRunnableRecord token now = false) : Claimed p token (.ok none, q)
  | failed (ticked : Ticked p q) (failed : ClockFailed p.monotonicNow p.reading q.reading) :
      Claimed p token (.error error, q)
  | leased (ticked : Ticked p r) (seen : r.lastObservedNow = some now)
      (runnable : p.isRunnableRecord token now = true) (inv : Inv q none)
      (active : q.active = p.active ++ [token]) (queue : q.queue = p.queue)
      (object : q.leases lease.object = some token)
      (records : ∀ t, t ≠ token → q.records t = p.records t)
      (rest : q.lastObservedNow = r.lastObservedNow ∧ q.reading = r.reading ∧
        q.monotonicNow = p.monotonicNow ∧ q.nextToken = p.nextToken ∧ q.objects = p.objects ∧
        q.activeCapacity = p.activeCapacity) :
      Claimed p token (.ok (some lease), q)

theorem createLease_unleased (unleased : (p.records token).lease = none) :
    p.createLease token =
      ({ object := p.nextLease
         handle := (p.records token).handle
         requestId := (p.entryOf token).requestId
         entry := (p.records token).entry
         expiresAt := (p.records token).deadline },
        { p.update token (fun record => { record with lease := some p.nextLease }) with
          leases := Function.update p.leases p.nextLease (some token)
          nextLease := p.nextLease + 1 }) := by
  unfold RoutingPolicy.createLease
  simp only [unleased]

/-- A slot is free and the record runnable: it becomes active with a new lease. -/
theorem Inv.lease (inv : Inv p (some token)) (free : p.active.length < p.activeCapacity) :
    ∃ lease q, { p.update token (fun record => { record with status := .active }) with
        active := p.active ++ [token] }.createLease token = (lease, q) ∧ Inv q none ∧
      q.active = p.active ++ [token] ∧ q.queue = p.queue ∧ q.leases lease.object = some token ∧
      (∀ t, t ≠ token → q.records t = p.records t) ∧ q.lastObservedNow = p.lastObservedNow ∧
      q.reading = p.reading ∧ q.monotonicNow = p.monotonicNow ∧ q.nextToken = p.nextToken ∧
      q.objects = p.objects ∧ q.activeCapacity = p.activeCapacity := by
  obtain ⟨unqueued, inactive, unleased, -⟩ := inv.loose token rfl
  have member : Held p (some token) token := .inr (.inr rfl)
  have object : (({ p.update token (fun record => { record with status := .active }) with
      active := p.active ++ [token] } : RoutingPolicy τ).records token).lease = none := by
    simp [RoutingPolicy.update, unleased]
  refine ⟨_, _, createLease_unleased object, ?_, rfl, rfl, ?_, ?_, rfl, rfl, rfl, rfl, rfl, rfl⟩
  case refine_2 =>
    dsimp only
    exact Function.update_self _ _ _
  case refine_3 =>
    intro t other
    simp [RoutingPolicy.update, other]
  have held : ∀ t, t ∈ p.queue ∨ t ∈ p.active ++ [token] ∨ none = some t ↔ Held p (some token) t := by
    intro t
    unfold Held
    simp only [List.mem_append, List.mem_singleton, reduceCtorEq, or_false, Option.some.injEq]
    rw [eq_comm (a := token)]
  have records : ∀ t, (Function.update
      (Function.update p.records token { p.records token with status := .active }) token
        { p.records token with status := .active, lease := some p.nextLease }) t =
      if t = token then { p.records token with status := .active, lease := some p.nextLease }
      else p.records t := by
    intro t
    by_cases same : t = token
    · subst same
      simp
    · simp [same]
  simp only [RoutingPolicy.update, Function.update_self]
  refine
    { queueBound := inv.queueBound
      activeBound := ?_
      queueNodup := inv.queueNodup
      activeNodup := ?_
      disjoint := ?_
      loose := nofun
      queued := ?_
      leased := ?_
      born := fun t after => inv.born t ((held t).mp after)
      handles := ?_
      entries := ?_
      entryIds := ?_
      requestIds := ?_
      leases := ?_
      made := ?_ }
  · simp only [List.length_append, List.length_singleton]
    omega
  · rw [List.nodup_append]
    refine ⟨inv.activeNodup, List.nodup_singleton _, ?_⟩
    intro t active other single
    rw [List.mem_singleton] at single
    subst single
    rintro rfl
    exact inactive active
  · intro t queued active
    rcases List.mem_append.mp active with active | single
    · exact inv.disjoint t queued active
    · rw [List.mem_singleton] at single
      subst single
      exact unqueued queued
  · intro t queued
    have other : t ≠ token := by
      rintro rfl
      exact unqueued queued
    dsimp only
    rw [records, if_neg other]
    exact inv.queued t queued
  · intro t active
    dsimp only
    rw [records]
    split
    · exact ⟨rfl, _, rfl⟩
    · rename_i other
      rcases List.mem_append.mp active with active | single
      · exact inv.leased t active
      · exact absurd (List.mem_singleton.mp single) other
  · intro handle t
    unfold Held
    dsimp only
    rw [held, records, inv.handles]
    split
    · rename_i same
      rw [same]
    · rfl
  · intro entry
    refine (inv.entries entry).congr fun t => ?_
    unfold Held
    dsimp only
    rw [held, records]
    split
    · rename_i same
      rw [same]
      exact Iff.rfl
    · exact Iff.rfl
  · intro id
    refine (inv.entryIds id).congr fun t => ?_
    unfold Held RoutingPolicy.entryOf
    dsimp only
    rw [held, records]
    split
    · rename_i same
      rw [same]
      exact Iff.rfl
    · exact Iff.rfl
  · intro requestId
    refine (inv.requestIds requestId).congr fun t => ?_
    unfold Held RoutingPolicy.entryOf
    dsimp only
    rw [held, records]
    split
    · rename_i same
      rw [same]
      exact Iff.rfl
    · exact Iff.rfl
  · intro lease t
    unfold Held
    dsimp only
    rw [held, records]
    by_cases new : lease = p.nextLease
    · subst new
      simp only [Function.update_self, Option.some.injEq]
      constructor
      · rintro rfl
        rw [if_pos rfl]
        exact ⟨member, rfl⟩
      · rintro ⟨before, own⟩
        split at own
        · rename_i same
          exact same.symm
        · exact absurd (inv.made t before _ own) (Nat.lt_irrefl _)
    · rw [Function.update_of_ne new, inv.leases]
      split
      · rename_i same
        subst same
        constructor
        · rintro ⟨before, own⟩
          rw [unleased] at own
          cases own
        · rintro ⟨-, own⟩
          exact absurd (Option.some.inj own).symm new
      · exact Iff.rfl
  · intro t after lease own
    unfold Held at after
    dsimp only at after own ⊢
    rw [held] at after
    rw [records] at own
    split at own
    · rw [← Option.some.inj own]
      exact Nat.lt_succ_self _
    · exact Nat.lt_succ_of_lt (inv.made t after lease own)

theorem claimRecord_spec (inv : Inv p (some token)) : Claimed p token (p.claimRecord token) := by
  unfold RoutingPolicy.claimRecord
  split
  · rename_i full
    exact .full full
  · rename_i room
    cases read : p.readMonotonicNow none with
    | mk result q =>
      have ticked : Ticked p q := by
        have := readMonotonicNow_ticked p none
        rwa [read] at this
      cases result with
      | error error => exact .failed ticked (readMonotonicNow_failed read)
      | ok now =>
        have seen : q.lastObservedNow = some now := by
          rw [(readMonotonicNow_ok read).1]
        dsimp only
        cases runnable : q.isRunnableRecord token now with
        | false => exact .idle ticked seen (ticked.runnable token now ▸ runnable)
        | true =>
          simp only [Bool.not_true, Bool.false_eq_true, ↓reduceIte]
          cases read' : q.readMonotonicNow none with
          | mk result r =>
            have ticked' : Ticked q r := by
              have := readMonotonicNow_ticked q none
              rwa [read'] at this
            have both := ticked.trans ticked'
            cases result with
            | error error =>
              obtain ⟨n, low, high, failed⟩ := readMonotonicNow_failed read'
              rw [ticked.same] at failed
              exact .failed both ⟨n, ticked.reading.trans low, high, failed⟩
            | ok now' =>
              have seen' : r.lastObservedNow = some now' := by
                rw [(readMonotonicNow_ok read').1]
              dsimp only
              cases runnable' : r.isRunnableRecord token now' with
              | false => exact .idle both seen' (both.runnable token now' ▸ runnable')
              | true =>
                have room' : ¬r.activeCapacity ≤ r.active.length := by
                  rw [both.active, both.shape.activeCapacity]
                  exact room
                simp only [Bool.not_true, Bool.false_eq_true, ↓reduceIte, room']
                obtain ⟨lease, q', made, inv', active, queue, object, records, observed, reading, clock,
                  nextToken, objects, capacity⟩ := (inv.of_same both.shape).lease (not_le.mp room')
                dsimp only [RoutingPolicy.update] at made ⊢
                rw [made]
                have same := both.same
                refine .leased both seen' (both.runnable token now' ▸ runnable') inv' ?_ ?_ object ?_ ?_
                · rw [active, both.active]
                · rw [queue, both.queue]
                · intro t other
                  rw [records t other, both.records]
                · refine ⟨observed, reading, ?_, ?_, ?_, capacity.trans both.shape.activeCapacity⟩
                  · rw [clock, same]
                  · rw [nextToken, same]
                  · rw [objects, same]

end Claim

end PiToPi.Policy
