import PiToPi.RouterNetwork

/-!
Where the work of a room comes from.

A router works for the owner that a request names. Texts are lost, repeated and late on their way,
and still nothing is done in a room for one of its runtimes that has not asked: each inbound task,
each call of the executor and each terminal reply goes back to a request that the router of the
owner has sent to this runtime.
-/
namespace PiToPi.Routing
open Reentrant StoreEffects Relation Transition

section Origins

variable {c : RouterConfig} {G : Grounds} {origin : Json → Prop}

/-- The task has been made of such an envelope. -/
def MadeOf (origin : Json → Prop) (task : StoredTask) : Prop :=
  ∃ envelope, origin envelope ∧ Envelope.requestId envelope = task.requestId ∧ RequestedBy envelope task

/-- Every inbound task has been made of such an envelope. -/
def Originates (origin : Json → Prop) (s : TaskStore) : Prop :=
  ∀ q < s.nextRecord, (s.heap q).ownership = .inbound → MadeOf origin (s.heap q)

theorem MadeOf.same (made : MadeOf origin task) (same : SameIdentity task task') : MadeOf origin task' := by
  obtain ⟨envelope, came, named, requested⟩ := made
  exact ⟨envelope, came, named.trans same.requestId.symm, requested.same same⟩

theorem Originates.imp (originates : Originates origin s) (wider : ∀ envelope, origin envelope → origin' envelope) :
    Originates origin' s := by
  intro q made inbound
  obtain ⟨envelope, came, requested⟩ := originates q made inbound
  exact ⟨envelope, wider envelope came, requested⟩

theorem Originates.evolves {may : RecordId → TaskSnapshot → Prop} (originates : Originates origin s)
    (evolves : Evolves o may s t) : Originates origin t := by
  intro q made inbound
  rw [evolves.nextRecord] at made
  have same := (evolves.tasks q).identity
  exact (originates q made (same.ownership.symm.trans inbound)).same same

/-- The one task that may be made is made of such an envelope. -/
theorem Originates.creates {input : TaskStoreCreateInput} (originates : Originates origin s)
    (creates : Creates o input s t)
    (new : ∀ task, NewRecord o input task → task.ownership = .inbound → MadeOf origin task) :
    Originates origin t := by
  cases creates with
  | nothing quiet => exact originates.evolves (.of_quiet quiet : Evolves o OnlyExpires _ _)
  | record task made quiet isNew free usable timer unarmed evolves =>
    have before := originates.evolves (.of_quiet quiet : Evolves o OnlyExpires s made)
    refine Originates.evolves (fun q known inbound => ?_) evolves
    have stored : (insertRecord made input.requestId { task with purgeTimer := timer }).heap =
        Function.update made.heap made.nextRecord { task with purgeTimer := timer } := rfl
    rw [stored] at inbound ⊢
    obtain earlier | rfl := Nat.lt_succ_iff_lt_or_eq.mp known
    · rw [Function.update_of_ne (Nat.ne_of_lt earlier)] at inbound ⊢
      exact before q earlier inbound
    · rw [Function.update_self] at inbound ⊢
      exact (new task isNew inbound).same ⟨rfl, rfl, rfl, rfl, rfl, rfl, rfl⟩

theorem Change.originates (accepts : ∀ envelope, G.accepts envelope → origin envelope)
    (originates : Originates origin r.taskStore) (change : Change c G r r') : Originates origin r'.taskStore := by
  have inward : ∀ envelope accepted, G.accepts envelope → ∀ task,
      NewRecord c.storeOptions (inboundTask c envelope accepted) task → task.ownership = .inbound → MadeOf origin task :=
    fun envelope accepted grounds task new _ =>
      ⟨envelope, accepts envelope grounds, new.requestId.symm, newRecord_requestedBy new⟩
  -- a task of the router's own is none
  have outward : ∀ envelope task, NewRecord c.storeOptions (outboundTask c envelope) task →
      task.ownership = .inbound → MadeOf origin task := by
    intro envelope task new inbound
    rw [new.ownership .outbound rfl] at inbound
    cases inbound
  cases change with
  | aside same => exact same.taskStore ▸ originates
  | evolves moved => exact originates.evolves moved
  | makes input grounds made =>
    obtain ⟨envelope, accepted, grounds, rfl⟩ | ⟨envelope, _, rfl⟩ := grounds
    · exact originates.creates made (inward envelope accepted grounds)
    · exact originates.creates made (outward envelope)
  | admits envelope accepted grounds made => exact originates.creates made (inward envelope accepted grounds)
  | registers envelope grounds made => exact originates.creates made (outward envelope)
  | disposes disposes =>
    have later := originates.evolves disposes.evolves
    exact later
  | resolves | finishes | marks | replies | forgets | delivers | executes | phases | sends => exact originates

theorem Changes.originates (accepts : ∀ envelope, G.accepts envelope → origin envelope)
    (originates : Originates origin r.taskStore) (changes : Changes c G r r') : Originates origin r'.taskStore := by
  induction changes with
  | refl => exact originates
  | tail _ change ih => exact Change.originates accepts ih change

/-- What has been sent stays sent. -/
theorem Change.sent_subset (change : Change c G r r') : r.sent ⊆ r'.sent := by
  cases change with
  | aside same => exact same.sent ▸ List.Subset.refl _
  | replies | sends => exact List.subset_append_left _ _
  | evolves | makes | admits | registers | resolves | finishes | marks | forgets | delivers | executes | phases |
      disposes => exact List.Subset.refl _

theorem Changes.sent_subset (changes : Changes c G r r') : r.sent ⊆ r'.sent := by
  induction changes with
  | refl => exact List.Subset.refl _
  | tail _ change ih => exact List.Subset.trans ih change.sent_subset

end Origins

section Rooms

variable {κ : Type} {N : Network κ}

/-- A request to this runtime, which the runtime it names as its sender has sent. -/
structure Asked (N : Network κ) (routers : κ → MessageRouter) (j : κ) (envelope : Json) : Prop where
  request : Envelope.operation? envelope = some .messageRequest
  addressed : Envelope.recipientRuntimeId envelope = (N.config j).runtimeId
  sent : ∀ i, (N.config i).runtimeId = Envelope.senderRuntimeId envelope →
    ∃ sent ∈ (routers i).sent, Carries (N.config j) sent envelope

theorem Asked.later {routers routers' : κ → MessageRouter} (asked : Asked N routers j envelope)
    (kept : ∀ i, (routers i).sent ⊆ (routers' i).sent) : Asked N routers' j envelope := by
  refine ⟨asked.request, asked.addressed, fun i sender => ?_⟩
  obtain ⟨sent, member, carries⟩ := asked.sent i sender
  exact ⟨sent, kept i member, carries⟩

/-- A request that is let in has been asked. -/
theorem accepts_asked {routers : κ → MessageRouter} {i : κ} {event : RouterEvent}
    (authentic : Authentic N routers (i, event)) :
    ∀ envelope, (groundsOf (N.config i) (routers i) event).accepts envelope → Asked N routers i envelope := by
  intro envelope accepts
  cases event with
  | inbound raw binding authentication =>
    obtain ⟨received, request⟩ := accepts
    obtain ⟨arrived, rfl, vouched⟩ := authentic
    obtain ⟨rfl, addressed⟩ := received.addressed
    refine ⟨request, addressed, fun k sender => ?_⟩
    obtain ⟨k', same, sent⟩ := vouched ⟨k, sender⟩
    obtain rfl := N.distinct (same.trans sender.symm)
    exact sent
  | _ => exact accepts.elim

theorem originates_reachable [DecidableEq κ] (reached : (roomSystem N).Reachable routers) :
    Agreeing N routers ∧ ∀ j, Originates (Asked N routers j) (routers j).taskStore := by
  refine reached.invariant
    (I := fun routers => Agreeing N routers ∧ ∀ j, Originates (Asked N routers j) (routers j).taskStore)
    (fun routers made => ⟨Made.agreeing made, fun j q before => ?_⟩)
    fun routers happens routers' kept step => ⟨kept.1.step step, ?_⟩
  · rw [(made j).nextRecord] at before
    exact absurd before (Nat.not_lt_zero q)
  obtain ⟨agreeing, origins⟩ := kept
  obtain ⟨i, event⟩ := happens
  obtain ⟨authentic, r, taken, rfl⟩ := step
  have changes := changes_of_step (N.retains i) (agreeing.safe i).ordered taken.2
  have sent : ∀ k, (routers k).sent ⊆ (Function.update routers i r k).sent :=
    (Function.forall_update_iff routers (p := fun k router => (routers k).sent ⊆ router.sent)).mpr
      ⟨changes.sent_subset, fun _ _ => List.Subset.refl _⟩
  have before : ∀ j, Originates (Asked N (Function.update routers i r) j) (routers j).taskStore :=
    fun j => (origins j).imp fun _ asked => asked.later sent
  refine (Function.forall_update_iff routers
    (p := fun j router => Originates (Asked N (Function.update routers i r) j) router.taskStore)).mpr ⟨?_, fun j _ => before j⟩
  exact changes.originates (fun envelope accepts => (accepts_asked authentic envelope accepts).later sent) (before i)

/-- **Nothing is done in a room that was not asked for**: whatever inbound task a runtime has,
whatever its executor is called for and whatever it tells in a terminal reply has been made of a
request to it, which the router of its owner has sent if the owner is a runtime of the room. -/
theorem work_asked_for [DecidableEq κ] (reached : (roomSystem N).Reachable routers) (j : κ) :
    (∀ q < (routers j).taskStore.nextRecord, ((routers j).taskStore.heap q).ownership = .inbound →
      MadeOf (Asked N routers j) ((routers j).taskStore.heap q)) ∧
    (∀ execution ∈ (routers j).executions,
      HasTask (routers j).taskStore execution.requestId (MadeOf (Asked N routers j))) ∧
    ∀ reply ∈ (routers j).sent, IsReply reply → HasTask (routers j).taskStore (Envelope.requestId reply) fun task =>
      Tells (N.config j) reply task ∧ MadeOf (Asked N routers j) task := by
  obtain ⟨agreeing, origins⟩ := originates_reachable reached
  have safe := agreeing.safe j
  refine ⟨origins j, fun execution member => ?_, fun reply member isReply => ?_⟩
  · obtain ⟨⟨q, made, named, inbound⟩, _⟩ := safe.executed execution member
    exact ⟨q, made, named, origins j q made inbound⟩
  · obtain ⟨q, made, named, tells⟩ := safe.replied reply member isReply
    exact ⟨q, made, named, tells, origins j q made tells.ownership⟩

theorem work_asked_for_sample : ∃ request, Asked sampleNetwork (sampleRoom asking answering) false request ∧
    Envelope.requestId request = Envelope.requestId sampleReply := by
  have sent := played_answering.1
  rw [← sampleRoom_false asking answering] at sent
  have replied : sampleReply ∈ (sampleRoom asking answering false).sent := by
    rw [sent]
    exact List.mem_singleton_self _
  obtain ⟨q, _, named, _, request, asked, same, _⟩ := (work_asked_for sampleRoom_reachable false).2.2 sampleReply replied rfl
  exact ⟨request, asked, same.trans named⟩

end Rooms
end PiToPi.Routing
