import PiToPi.PolicyCallbackProofs

/-!
What `cancel` answers and does, in every state that the policy reaches with any callback, for any
times the clock shows and any markers of the entry.
-/
namespace PiToPi.Policy
open Transition RoutingPolicy PolicyCallback

section Outcome

variable {τ : Type}

/-- `cancel` of what the target has found, where `looks` shows the entry at each look at it. -/
def RoutingPolicy.cancelWatching (p : RoutingPolicy τ) (looks : Nat → RoutingQueueEntry τ)
    (lookup : RecordLookup) : Answer τ QueueCancellationDecision :=
  match lookup with
  | .notFound => (.ok notFoundCancellation, p)
  | .ambiguous => (.ok ambiguousCancellation, p)
  | .found token => p.cancelRecordWatching looks token

/-- The policy while the clock shows these times. -/
def RoutingPolicy.during (p : RoutingPolicy τ) (clock : Nat → ℚ) : RoutingPolicy τ :=
  { p with monotonicNow := fun n => some (clock n), reading := 0 }

/-- A cancellation may still be decided for the record as an unexpired one. -/
def Early (p : RoutingPolicy τ) (token : Nat) (now : ℚ) : Prop :=
  (p.records token).expired = false ∧ now < (p.records token).deadline

/-- The record is in the queue no more, and no index names it. -/
structure Removed (p : RoutingPolicy τ) (token : Nat) (q : RoutingPolicy τ) : Prop where
  queue : q.queue = p.queue.erase token
  active : q.active = p.active
  handles : ∀ handle, q.handles handle ≠ some token
  entries : ∀ entry tokens, q.entries entry = some tokens → token ∉ tokens
  entryIds : ∀ id tokens, q.entryIds id = some tokens → token ∉ tokens
  requestIds : ∀ requestId tokens, q.requestIds requestId = some tokens → token ∉ tokens
  leases : ∀ lease, q.leases lease ≠ some token

/-- What becomes of an active record that a cancellation reports on. -/
def markedAs (state : QueueCancellationState) (record : QueueRecord) : QueueRecord :=
  match state with
  | .cancelling => { record with cancellationRequested := true }
  | .expired => { record with expired := true, expiryNotified := true }
  | _ => record

/-- What a cancellation of a record reports and does, `now` being the last time it has read. -/
structure Reports (p : RoutingPolicy τ) (looks : Nat → RoutingQueueEntry τ) (token : Nat) (now : ℚ)
    (decision : QueueCancellationDecision) (q : RoutingPolicy τ) : Prop where
  record : decision.record =
    some ((p.records token).entry, (p.records token).handle, (p.entryOf token).requestId)
  expired : decision.state = .expired ↔ ¬Early p token now
  cancelled : token ∈ p.queue → (∀ m n, p.isRunnableWatching token now (looks m) (looks n) = true) →
    decision.state = .cancelled
  removed : decision.state = .cancelled ∨ decision.state = .expired ∧ token ∉ p.active →
    token ∉ p.active ∧ Removed p token q
  active : token ∈ p.active → SameShape p q ∧ (∀ t, t ≠ token → q.records t = p.records t) ∧
    q.records token = markedAs decision.state (p.records token)
  again : token ∈ p.active → (p.records token).cancellationRequested = true → Early p token now →
    decision = p.cancellation .cancelling token

/-- What `cancel` comes to: one decision, and the policy after it. -/
def Outcome (p : RoutingPolicy τ) (looks : Nat → RoutingQueueEntry τ) :
    RecordLookup → Answer τ QueueCancellationDecision → Prop
  | _, (.error _, _) => False
  | .notFound, (.ok decision, q) => decision = notFoundCancellation ∧ q = p
  | .ambiguous, (.ok decision, q) => decision = ambiguousCancellation ∧ q = p
  | .found token, (.ok decision, q) =>
    ∃ now, q.lastObservedNow = some now ∧ Reports p looks token now decision q

variable {p q : RoutingPolicy τ} {loose : List Nat} {token : Nat}

/-- A record that is known to no index is not named by one. -/
theorem Removed.of_unknown {loose' : List Nat} (queue : q.queue = p.queue.erase token)
    (active : q.active = p.active) (indexed : Indexed q loose') (unknown : ¬Known q loose' token) :
    Removed p token q := by
  have absent {slot : Option (List Nat)} {belongs : Nat → Prop}
      (lists : Lists slot fun t => Known q loose' t ∧ belongs t) (tokens : List Nat)
      (listed : slot = some tokens) : token ∉ tokens := by
    subst listed
    exact fun member => unknown (lists.held member).1
  exact
    { queue := queue
      active := active
      handles := fun handle named => unknown ((indexed.handles handle token).mp named).1
      entries := fun entry => absent (indexed.entries entry)
      entryIds := fun id => absent (indexed.entryIds id)
      requestIds := fun requestId => absent (indexed.requestIds requestId)
      leases := fun lease named => unknown ((indexed.leases lease token).mp named).1 }

theorem removed_removeRecord (indexed : Indexed p loose) (known : Known p loose token)
    (inactive : token ∉ p.active) : Removed p token (p.removeRecord token) := by
  have removed := indexed.removeRecord known
  have unknown := unknown_of_released removed (by rw [removeRecord_records, if_pos rfl])
  obtain ⟨queue, active⟩ := removeRecord_lists p token
  rw [if_neg inactive] at queue active
  exact .of_unknown queue active removed unknown

theorem Removed.of_same {r : RoutingPolicy τ} (removed : Removed p token q) (same : SameShape q r) :
    Removed p token r where
  queue := same.queue.trans removed.queue
  active := same.active.trans removed.active
  handles := same.handles ▸ removed.handles
  entries := same.entries ▸ removed.entries
  entryIds := same.entryIds ▸ removed.entryIds
  requestIds := same.requestIds ▸ removed.requestIds
  leases := same.leases ▸ removed.leases

theorem Removed.ticked {r : RoutingPolicy τ} (ticked : Ticked p q) (removed : Removed q token r) :
    Removed p token r :=
  { removed with
    queue := removed.queue.trans (by rw [ticked.queue])
    active := removed.active.trans ticked.active }

theorem early_of_runnable {now : ℚ} {shown marked : RoutingQueueEntry τ}
    (runnable : p.isRunnableWatching token now shown marked = true) : Early p token now := by
  unfold RoutingPolicy.isRunnableWatching at runnable
  simp only [Bool.and_eq_true, Bool.not_eq_true', decide_eq_true_eq] at runnable
  exact ⟨runnable.1.1.1.1.1.2, runnable.1.1.2⟩

theorem Ticked.isRunnableWatching (ticked : Ticked p q) (now : ℚ)
    (shown marked : RoutingQueueEntry τ) :
    q.isRunnableWatching token now shown marked = p.isRunnableWatching token now shown marked := by
  unfold RoutingPolicy.isRunnableWatching
  rw [ticked.records]

theorem markExpired_self (p : RoutingPolicy τ) (token : Nat) :
    (p.markExpired token).records token =
      { p.records token with expired := true, expiryNotified := true } := by
  unfold RoutingPolicy.markExpired RoutingPolicy.update
  dsimp only
  split
  next notified =>
    rw [Function.update_self] at notified
    dsimp only at notified ⊢
    rw [Function.update_self, notified]
  next => simp

/-- An active record is the one its status says it is. -/
theorem Indexed.active_iff (indexed : Indexed p loose) (known : Known p loose token) :
    (p.records token).status = .active ↔ token ∈ p.active := by
  refine ⟨fun active => ?_, fun member => (indexed.active member).1⟩
  rcases known with queued | member | member
  · cases active.symm.trans (indexed.queued queued).1
  · exact member
  · rcases indexed.idle token member with status | status
    · cases active.symm.trans status
    · cases active.symm.trans status

/-- The record is reported, under whatever state. -/
theorem cancellation_record {r : RoutingPolicy τ} (objects : r.objects = p.objects)
    (entry : (r.records token).entry = (p.records token).entry)
    (handle : (r.records token).handle = (p.records token).handle)
    (state : QueueCancellationState) :
    (r.cancellation state token).record =
      some ((p.records token).entry, (p.records token).handle, (p.entryOf token).requestId) := by
  unfold RoutingPolicy.cancellation RoutingPolicy.entryOf
  rw [objects, entry, handle]

/-- An active record is marked. -/
theorem reports_marked {looks : Nat → RoutingQueueEntry τ} {now : ℚ} {state : QueueCancellationState}
    (indexed : Indexed p loose) (active : token ∈ p.active) (same : SameShape p q)
    (objects : q.objects = p.objects) (others : ∀ t, t ≠ token → q.records t = p.records t)
    (own : q.records token = markedAs state (p.records token))
    (expired : state = .expired ↔ ¬Early p token now) (kept : state ≠ .cancelled)
    (again : (p.records token).cancellationRequested = true → Early p token now →
      state = .cancelling) :
    Reports p looks token now (q.cancellation state token) q := by
  obtain ⟨handle, entry, -, -⟩ := same.records token
  refine
    { record := cancellation_record objects entry handle state
      expired := expired
      cancelled := fun queued => absurd active (indexed.disjoint queued)
      removed := fun gone => ?_
      active := fun _ => ⟨same, others, own⟩
      again := fun _ requested early => ?_ }
  · rcases gone with cancelled | ⟨-, inactive⟩
    · exact absurd cancelled kept
    · exact absurd active inactive
  · obtain rfl := again requested early
    unfold RoutingPolicy.cancellation RoutingPolicy.entryOf
    rw [objects, entry, handle]

/-- A record that is not active is removed, or refused. -/
theorem reports_inactive {looks : Nat → RoutingQueueEntry τ} {now : ℚ}
    {state : QueueCancellationState} {d : RoutingPolicy τ} (inactive : token ∉ p.active)
    (objects : d.objects = p.objects) (entry : (d.records token).entry = (p.records token).entry)
    (handle : (d.records token).handle = (p.records token).handle)
    (removed : state = .cancelled ∨ state = .expired → Removed p token q)
    (expired : state = .expired ↔ ¬Early p token now)
    (cancelled : token ∈ p.queue →
      (∀ m n, p.isRunnableWatching token now (looks m) (looks n) = true) → state = .cancelled) :
    Reports p looks token now (d.cancellation state token) q where
  record := cancellation_record objects entry handle state
  expired := expired
  cancelled := cancelled
  removed gone := ⟨inactive, removed (gone.imp id And.left)⟩
  active active := absurd active inactive
  again active := absurd active inactive

theorem not_early {now : ℚ}
    (due : (p.records token).expired = true ∨ (p.records token).deadline ≤ now) :
    ¬Early p token now := by
  rintro ⟨unexpired, later⟩
  rcases due with expired | due
  · exact Bool.false_ne_true (unexpired.symm.trans expired)
  · exact absurd due (not_le.mpr later)

/-- Whatever a cancellation comes to, it is one decision with its effect. -/
theorem reports_of_cancels {looks : Nat → RoutingQueueEntry τ} {r : RoutingPolicy τ}
    {decision : QueueCancellationDecision} (indexed : Indexed p loose)
    (known : Known p loose token) (cancels : Cancels p looks token (.ok decision, r)) :
    ∃ now, r.lastObservedNow = some now ∧ Reports p looks token now decision r := by
  have status := Indexed.active_iff indexed known
  generalize same : (Except.ok decision, r) = answer at cancels
  have request (q : RoutingPolicy τ) :
      SameShape q (q.update token fun record => { record with cancellationRequested := true }) :=
    sameShape_update q token _ fun _ => ⟨rfl, rfl, rfl, rfl⟩
  have undue {now : ℚ} {state : QueueCancellationState} (other : state ≠ .expired)
      (early : Early p token now) : state = .expired ↔ ¬Early p token now :=
    iff_of_false other (not_not.mpr early)
  cases cancels with
  | failed ticked failed => cases same
  | @expired q now ticked seen idle due =>
    cases same
    have inactive : token ∉ p.active := fun member => idle (status.mpr member)
    have marked := sameShape_markExpired (q.removeRecord token) token
    obtain ⟨objects, observed, -, -⟩ := markExpired_rest (q.removeRecord token) token
    obtain ⟨-, -, -, -, objects', observed', -, -⟩ := removeRecord_rest q token
    have removed := removed_removeRecord (indexed.of_same ticked.shape) (known_ticked ticked known)
      (by rwa [ticked.active])
    obtain ⟨handle, entry, -, -⟩ := marked.records token
    rw [removeRecord_records, if_pos rfl, ticked.records] at handle entry
    refine ⟨now, (observed.trans observed').trans seen, reports_inactive inactive ?_ entry handle
      (fun _ => (removed.ticked ticked).of_same marked) (iff_of_true rfl (not_early due)) ?_⟩
    · rw [objects, objects', ticked.same]
    · exact fun _ runnable => absurd (early_of_runnable (runnable 0 0)) (not_early due)
  | @expiredActive q now ticked seen active due =>
    cases same
    have marked := sameShape_markExpired q token
    obtain ⟨objects, observed, -, -⟩ := markExpired_rest q token
    refine ⟨now, observed.trans seen, reports_marked indexed (status.mp active)
      (ticked.shape.trans marked) ?_ ?_ ?_ (iff_of_true rfl (not_early due)) (by simp) ?_⟩
    · rw [objects, ticked.same]
    · intro t other
      rw [markExpired_records q token t other, ticked.records]
    · rw [markExpired_self, ticked.records]
      rfl
    · exact fun _ early => absurd early (not_early due)
  | @cancelling q now ticked seen active early asked =>
    cases same
    refine ⟨now, seen, reports_marked indexed (status.mp active) (ticked.shape.trans (request q)) ?_
      ?_ ?_ (undue (by simp) early) (by simp) fun _ _ => rfl⟩
    · rw [ticked.same]
      rfl
    · intro t other
      rw [← ticked.records]
      exact Function.update_of_ne other _ _
    · rw [← ticked.records]
      exact Function.update_self token _ _
  | @past q now ticked seen active early unrequested terminal =>
    cases same
    refine ⟨now, seen, reports_marked indexed (status.mp active) ticked.shape ?_ ?_ ?_
      (undue (by simp) early) (by simp) fun requested _ => ?_⟩
    · rw [ticked.same]
    · exact fun t _ => by rw [ticked.records]
    · rw [ticked.records]
      rfl
    · exact absurd (unrequested.symm.trans requested) Bool.false_ne_true
  | @cancelled q now ticked seen queued early =>
    unfold RoutingPolicy.cancelQueued at same
    dsimp only at same
    cases same
    have inactive : token ∉ p.active := fun member => by simp [queued] at status; exact status member
    have removed := removed_removeRecord (indexed.of_same ticked.shape) (known_ticked ticked known)
      (by rwa [ticked.active])
    rw [removeRecord_update]
    obtain ⟨-, -, -, -, -, observed, -, -⟩ := removeRecord_rest q token
    refine ⟨now, observed.trans seen, reports_inactive inactive ?_ ?_ ?_
      (fun _ => (removed.ticked ticked).of_same (request _)) (undue (by simp) early) fun _ _ => rfl⟩
    · rw [ticked.same]
      rfl
    · simp [RoutingPolicy.update, ticked.records]
    · simp [RoutingPolicy.update, ticked.records]
  | @stale q now ticked seen queued early stale =>
    cases same
    have inactive : token ∉ p.active := fun member => by simp [queued] at status; exact status member
    obtain ⟨-, -, -, -, -, observed, -, -⟩ := removeRecord_rest q token
    refine ⟨now, observed.trans seen, reports_inactive inactive ?_ ?_ ?_ (by simp) (undue (by simp) early) ?_⟩
    · rw [ticked.same]
    · rw [ticked.records]
    · rw [ticked.records]
    · intro _ runnable
      rw [Ticked.isRunnableWatching ticked, runnable 1 2] at stale
      cases stale
  | @idle q now ticked seen unqueued inactive early =>
    cases same
    refine ⟨now, seen, reports_inactive (fun member => inactive (status.mpr member)) ?_ ?_ ?_
      (by simp) (undue (by simp) early) ?_⟩
    · rw [ticked.same]
    · rw [ticked.records]
    · rw [ticked.records]
    · exact fun member => absurd (indexed.queued member).1 unqueued

end Outcome

section Reached

variable {τ : Type} {p : RoutingPolicy τ} {loose : List Nat} {host : Host}

/-- An entry that does not change under `cancel` shows the same at every look. -/
theorem cancelWatching_cancel (target : QueueHandle) (requestId : Option JsString)
    {looks : Nat → RoutingQueueEntry τ}
    (same : ∀ token, p.findRecord target requestId = .found token → looks = fun _ => p.entryOf token) :
    p.cancelWatching looks (p.findRecord target requestId) = p.cancel target requestId := by
  unfold RoutingPolicy.cancel RoutingPolicy.cancelWatching
  cases found : p.findRecord target requestId with
  | notFound => rfl
  | ambiguous => rfl
  | found token =>
    rw [same token found]
    exact cancelRecordWatching_entryOf p token

theorem outcome_of_indexed (indexed : Indexed p loose) (clock : Nat → ℚ)
    (looks : Nat → RoutingQueueEntry τ) (lookup : RecordLookup)
    (known : ∀ token, lookup = .found token → Known p loose token) :
    Outcome (p.during clock) looks lookup ((p.during clock).cancelWatching looks lookup) := by
  have indexed' : Indexed (p.during clock) loose := indexed.of_same { SameShape.refl p with }
  unfold RoutingPolicy.cancelWatching
  cases lookup with
  | notFound => exact ⟨rfl, rfl⟩
  | ambiguous => exact ⟨rfl, rfl⟩
  | found token =>
    have cancels := cancelRecordWatching_cases (p.during clock) looks token
    dsimp only
    rcases answer : (p.during clock).cancelRecordWatching looks token with ⟨error | decision, q⟩ <;>
      rw [answer] at cancels
    · generalize same : (Except.error error, q) = answer at cancels
      cases cancels with
      | failed ticked failed =>
        obtain ⟨n, -, -, failed⟩ := failed
        cases failed
      | _ => cases same
    · exact reports_of_cancels indexed' (known token rfl) cancels

/-- Whatever has happened before, `cancel` comes to one decision, by every kind of target. -/
theorem cancel_outcome {w : PolicyCallback.World τ}
    (reached : ((callbackSystem host τ).restrict FreshHandles).Reachable w) (clock : Nat → ℚ)
    (looks : Nat → RoutingQueueEntry τ) :
    (∀ target requestId, Outcome (w.policy.during clock) looks (w.policy.findRecord target requestId)
        ((w.policy.during clock).cancelWatching looks (w.policy.findRecord target requestId))) ∧
      ∀ requestId, Outcome (w.policy.during clock) looks
        (PolicyCallback.World.lookupRequest w.policy requestId)
        ((w.policy.during clock).cancelWatching looks
          (PolicyCallback.World.lookupRequest w.policy requestId)) := by
  have stable : Stable False w := by
    refine System.Reachable.invariant ?_ ?_ reached
    · exact fun w start => @Stable.init τ False host w start
    · rintro w event w' stable ⟨fresh, rfl⟩
      exact stable.step event fresh nofun
  obtain ⟨loose, sound, -⟩ := stable.sound
  constructor
  · intro target requestId
    exact outcome_of_indexed sound.indexed clock looks _ fun token found =>
      findRecord_known sound.indexed found
  · intro requestId
    exact outcome_of_indexed sound.indexed clock looks _ fun token found =>
      lookupRequest_known sound.indexed found

/-- The state a cancellation reports. -/
def reported : Answer τ QueueCancellationDecision → Option QueueCancellationState
  | (.ok decision, _) => some decision.state
  | (.error _, _) => none

theorem cancel_twoQueued :
    ∃ decision q, ((twoQueued.foldl (fun w => w.step noHost) expiring).policy.during
        fun _ => 0).cancelWatching (fun _ => plainEntry) (.found 1) = (.ok decision, q) ∧
      decision.state = .cancelled ∧
      Removed ((twoQueued.foldl (fun w => w.step noHost) expiring).policy.during fun _ => 0) 1 q := by
  have meets : System.AllMeet FreshHandles (fun w => w.step noHost) expiring twoQueued := by
    decide +kernel
  have start : ((callbackSystem noHost Unit).restrict FreshHandles).Reachable expiring :=
    .init expiring_init
  have reached := start.run_restrict (f := fun w => w.step noHost) (fun _ _ => rfl) meets
  have outcome := (cancel_outcome reached (fun _ => 0) fun _ => plainEntry).1 (.text "queue:a") none
  have found : (twoQueued.foldl (fun w => w.step noHost) expiring).policy.findRecord
      (.text "queue:a") none = .found 1 := by decide +kernel
  have state : reported (((twoQueued.foldl (fun w => w.step noHost) expiring).policy.during
      fun _ => 0).cancelWatching (fun _ => plainEntry) (.found 1)) = some .cancelled := by
    decide +kernel
  rw [found] at outcome
  generalize ((twoQueued.foldl (fun w => w.step noHost) expiring).policy.during
    fun _ => 0).cancelWatching (fun _ => plainEntry) (.found 1) = answer at outcome state
  obtain ⟨_ | decision, q⟩ := answer
  · cases state
  · obtain ⟨now, -, reports⟩ := outcome
    have cancelled := Option.some.inj state
    exact ⟨decision, q, rfl, cancelled, (reports.removed (.inl cancelled)).2⟩

/-- An entry is started at once. -/
def oneStarted : List (Event Unit) :=
  [.call (.admission 0 true (some (some 0)) ["a"]), .run, .run]

/-- An active record is cancelled, and once more when its deadline has passed. -/
theorem cancel_twice_expires : ¬∀ w, (callbackSystem noHost Unit).Reachable w →
    ∀ (target : QueueHandle) (clock later : Nat → ℚ) (decision : QueueCancellationDecision) q,
      Monotone clock → Monotone later → (w.policy.during clock).cancel target none = (.ok decision, q) →
      decision.state = .cancelling → ∃ r, (q.during later).cancel target none = (.ok decision, r) := by
  intro always
  have reached := System.Reachable.run (S := callbackSystem noHost Unit)
    (f := fun w => w.step noHost) (fun _ _ => rfl) (.init expiring_init) oneStarted
  have first : reported (((oneStarted.foldl (fun w => w.step noHost) expiring).policy.during
      fun _ => 0).cancel (.text "queue:a") none) = some .cancelling := by decide +kernel
  have second : reported (((((oneStarted.foldl (fun w => w.step noHost) expiring).policy.during
      fun _ => 0).cancel (.text "queue:a") none).2.during fun _ => 200).cancel (.text "queue:a") none) =
      some .expired := by decide +kernel
  have same := always _ reached (.text "queue:a") (fun _ => 0) fun _ => 200
  generalize ((oneStarted.foldl (fun w => w.step noHost) expiring).policy.during
    fun _ => 0).cancel (.text "queue:a") none = answer at first second same
  obtain ⟨_ | decision, q⟩ := answer
  · cases first
  · have state := Option.some.inj first
    obtain ⟨r, again⟩ := same decision q monotone_const monotone_const rfl state
    dsimp only at second
    rw [again] at second
    cases state.symm.trans (Option.some.inj second)

end Reached

end PiToPi.Policy
