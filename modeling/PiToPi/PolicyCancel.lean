import PiToPi.PolicyIndexed

/-!
`cancelRecord` while the entry changes under it. It looks at the entry object up to four times,
and the markers, which may be getters or `isCancelled()`, may answer differently each time.
-/
namespace PiToPi.Policy
open Transition RoutingPolicy

section Watching

variable {τ : Type}

/-- `isRunnableRecord(record, now)`, whose last condition looks at the entry once more. -/
def RoutingPolicy.isRunnableWatching (p : RoutingPolicy τ) (token : Nat) (now : ℚ)
    (shown marked : RoutingQueueEntry τ) : Bool :=
  let record := p.records token
  (record.status == .candidate || record.status == .queued) && !record.expired &&
    !record.cancellationRequested && shown.runnable != some false && now < record.deadline &&
    isRunnableState shown.state && !marked.isCancellationRequested

/-- `cancelRecord(record)`, where `looks` shows the entry at each look at it. -/
def RoutingPolicy.cancelRecordWatching (p : RoutingPolicy τ) (looks : Nat → RoutingQueueEntry τ)
    (token : Nat) : Answer τ QueueCancellationDecision :=
  match p.readMonotonicNow none with
  | (.error error, p) => (.error error, p)
  | (.ok now, p) =>
    if (p.records token).expired || (p.records token).deadline ≤ now then
      let p := if (p.records token).status ≠ .active then p.removeRecord token else p
      let p := p.markExpired token
      (.ok (p.cancellation .expired token), p)
    else match (p.records token).status with
      | .active => match p.readMonotonicNow none with
        | (.error error, p) => (.error error, p)
        | (.ok now, p) =>
          if (p.records token).deadline ≤ now then
            let p := p.markExpired token
            (.ok (p.cancellation .expired token), p)
          else if (p.records token).cancellationRequested || (looks 0).isCancellationRequested then
            let p := p.update token fun record => { record with cancellationRequested := true }
            (.ok (p.cancellation .cancelling token), p)
          else if isTerminalOrAbortedState (looks 1).state then
            (.ok (p.cancellation .notCancelable token), p)
          else
            let p := p.update token fun record => { record with cancellationRequested := true }
            (.ok (p.cancellation .cancelling token), p)
      | .queued =>
        if (looks 0).isCancellationRequested then p.cancelQueued token
        else match p.readMonotonicNow none with
          | (.error error, p) => (.error error, p)
          | (.ok now, p) =>
            if (p.records token).deadline ≤ now then
              let p := (p.removeRecord token).markExpired token
              (.ok (p.cancellation .expired token), p)
            else if !p.isRunnableWatching token now (looks 1) (looks 2) then
              if (looks 3).isCancellationRequested then p.cancelQueued token
              else (.ok (p.cancellation .notCancelable token), p.removeRecord token)
            else p.cancelQueued token
      | _ => (.ok (p.cancellation .notCancelable token), p)

/-- An entry that does not change shows the same at every look. -/
theorem cancelRecordWatching_entryOf (p : RoutingPolicy τ) (token : Nat) :
    p.cancelRecordWatching (fun _ => p.entryOf token) token = p.cancelRecord token := by
  have looks {q : RoutingPolicy τ} (ticked : Ticked p q) : q.entryOf token = p.entryOf token := by
    rw [ticked.same]
    rfl
  unfold RoutingPolicy.cancelRecordWatching RoutingPolicy.cancelRecord
  rcases read : p.readMonotonicNow none with ⟨_ | now, q⟩
  · rfl
  obtain ⟨ticked, -⟩ := readMonotonicNow_seen read
  dsimp only
  rw [looks ticked]
  split
  · rfl
  cases (q.records token).status with
  | active =>
    dsimp only
    rcases read' : q.readMonotonicNow none with ⟨_ | now', r⟩
    · rfl
    have both := ticked.trans (readMonotonicNow_seen read').1
    dsimp only
    rw [looks both]
  | queued =>
    dsimp only
    rcases read' : q.readMonotonicNow none with ⟨_ | now', r⟩
    · rfl
    have both := ticked.trans (readMonotonicNow_seen read').1
    dsimp only
    rw [← looks both]
    rfl
  | candidate => rfl
  | cancelled => rfl
  | released => rfl

variable {p : RoutingPolicy τ} {looks : Nat → RoutingQueueEntry τ} {token : Nat}

/-- What `cancelRecord` comes to, `q` being the policy after its last reading of the clock. -/
inductive Cancels (p : RoutingPolicy τ) (looks : Nat → RoutingQueueEntry τ) (token : Nat) :
    Answer τ QueueCancellationDecision → Prop where
  | failed (ticked : Ticked p q) (failed : ClockFailed p.monotonicNow p.reading q.reading) :
      Cancels p looks token (.error error, q)
  | expired (ticked : Ticked p q) (seen : q.lastObservedNow = some now)
      (idle : (p.records token).status ≠ .active)
      (due : (p.records token).expired = true ∨ (p.records token).deadline ≤ now) :
      Cancels p looks token (.ok (((q.removeRecord token).markExpired token).cancellation .expired token),
        (q.removeRecord token).markExpired token)
  | expiredActive (ticked : Ticked p q) (seen : q.lastObservedNow = some now)
      (active : (p.records token).status = .active)
      (due : (p.records token).expired = true ∨ (p.records token).deadline ≤ now) :
      Cancels p looks token (.ok ((q.markExpired token).cancellation .expired token),
        q.markExpired token)
  | cancelling (ticked : Ticked p q) (seen : q.lastObservedNow = some now)
      (active : (p.records token).status = .active)
      (early : (p.records token).expired = false ∧ now < (p.records token).deadline)
      (asked : (p.records token).cancellationRequested = true ∨
        (looks 0).isCancellationRequested = true ∨ isTerminalOrAbortedState (looks 1).state = false) :
      Cancels p looks token
        (.ok ((q.update token fun record => { record with cancellationRequested := true }).cancellation
          .cancelling token), q.update token fun record => { record with cancellationRequested := true })
  | past (ticked : Ticked p q) (seen : q.lastObservedNow = some now)
      (active : (p.records token).status = .active)
      (early : (p.records token).expired = false ∧ now < (p.records token).deadline)
      (unrequested : (p.records token).cancellationRequested = false)
      (terminal : isTerminalOrAbortedState (looks 1).state = true) :
      Cancels p looks token (.ok (q.cancellation .notCancelable token), q)
  | cancelled (ticked : Ticked p q) (seen : q.lastObservedNow = some now)
      (queued : (p.records token).status = .queued)
      (early : (p.records token).expired = false ∧ now < (p.records token).deadline) :
      Cancels p looks token (q.cancelQueued token)
  | stale (ticked : Ticked p q) (seen : q.lastObservedNow = some now)
      (queued : (p.records token).status = .queued)
      (early : (p.records token).expired = false ∧ now < (p.records token).deadline)
      (stale : q.isRunnableWatching token now (looks 1) (looks 2) = false) :
      Cancels p looks token (.ok (q.cancellation .notCancelable token), q.removeRecord token)
  | idle (ticked : Ticked p q) (seen : q.lastObservedNow = some now)
      (unqueued : (p.records token).status ≠ .queued) (inactive : (p.records token).status ≠ .active)
      (early : (p.records token).expired = false ∧ now < (p.records token).deadline) :
      Cancels p looks token (.ok (q.cancellation .notCancelable token), q)

theorem cancelRecordWatching_cases (p : RoutingPolicy τ) (looks : Nat → RoutingQueueEntry τ)
    (token : Nat) : Cancels p looks token (p.cancelRecordWatching looks token) := by
  unfold RoutingPolicy.cancelRecordWatching
  rcases read : p.readMonotonicNow none with ⟨_ | now, q⟩
  · exact .failed (readMonotonicNow_raised read) (readMonotonicNow_failed read)
  obtain ⟨ticked, seen⟩ := readMonotonicNow_seen read
  dsimp only
  rw [ticked.records]
  split
  next due =>
    rw [Bool.or_eq_true, decide_eq_true_iff] at due
    by_cases active : (p.records token).status = .active
    · simp only [active, ne_eq, not_true_eq_false, ↓reduceIte]
      exact .expiredActive ticked seen active due
    · simp only [ne_eq, active, not_false_eq_true, ↓reduceIte]
      exact .expired ticked seen active due
  next early =>
    rw [Bool.or_eq_true, decide_eq_true_iff, not_or, Bool.not_eq_true, not_le] at early
    have again {error : PolicyError} {r : RoutingPolicy τ}
        (read' : q.readMonotonicNow none = (.error error, r)) :
        Cancels p looks token (.error error, r) := by
      obtain ⟨n, low, high, failed⟩ := readMonotonicNow_failed read'
      rw [ticked.same] at failed
      exact .failed (ticked.trans (readMonotonicNow_raised read'))
        ⟨n, ticked.reading.trans low, high, failed⟩
    cases status : (p.records token).status with
    | active =>
      dsimp only
      rcases read' : q.readMonotonicNow none with ⟨_ | now', r⟩
      · exact again read'
      obtain ⟨ticked', seen'⟩ := readMonotonicNow_seen read'
      have both := ticked.trans ticked'
      dsimp only
      rw [both.records]
      split
      next due => exact .expiredActive both seen' status (.inr due)
      next later =>
        have early' := And.intro early.1 (not_le.mp later)
        split
        next requested =>
          rw [Bool.or_eq_true] at requested
          exact .cancelling both seen' status early' (requested.imp id .inl)
        next unrequested =>
          rw [Bool.or_eq_true, not_or, Bool.not_eq_true] at unrequested
          split
          next terminal => exact .past both seen' status early' unrequested.1 terminal
          next live =>
            exact .cancelling both seen' status early' (.inr (.inr (Bool.not_eq_true _ ▸ live)))
    | queued =>
      dsimp only
      split
      next => exact .cancelled ticked seen status early
      rcases read' : q.readMonotonicNow none with ⟨_ | now', r⟩
      · exact again read'
      obtain ⟨ticked', seen'⟩ := readMonotonicNow_seen read'
      have both := ticked.trans ticked'
      dsimp only
      rw [both.records]
      split
      next due =>
        exact .expired both seen' (by simp [status]) (.inr due)
      next later =>
        have early' := And.intro early.1 (not_le.mp later)
        split
        next stale =>
          rw [Bool.not_eq_true'] at stale
          split
          · exact .cancelled both seen' status early'
          · exact .stale both seen' status early' stale
        next => exact .cancelled both seen' status early'
    | candidate => exact .idle ticked seen (by simp [status]) (by simp [status]) early
    | cancelled => exact .idle ticked seen (by simp [status]) (by simp [status]) early
    | released => exact .idle ticked seen (by simp [status]) (by simp [status]) early

end Watching

end PiToPi.Policy
