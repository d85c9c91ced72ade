import PiToPi.DedupeSafety

/-!
Which reservation a token is for. A token names a key and a fingerprint, so that the store takes
the token of an earlier reservation for that of the current one if the two agree on both
(`stale_token`).
-/
namespace PiToPi.DedupeSafety
open Transition DedupeProofs

section Pruning

theorem removeRecord_get? (s : Store) (record : Nat) (key : JsString) :
    (s.removeRecord record).records.get? key =
      if s.records.get? key = some record ∧ (s.heap record).key = key then none else s.records.get? key := by
  unfold DedupeStore.removeRecord
  dsimp only
  by_cases present : s.records.get? (s.heap record).key = some record
  · rw [if_neg (not_not.mpr present)]
    by_cases here : (s.heap record).key = key
    · subst here
      rw [if_pos ⟨present, rfl⟩]
      exact JsMap.get?_delete_self
    · rw [if_neg fun both => here both.2]
      exact JsMap.get?_delete_ne (Ne.symm here)
  · rw [if_pos present, if_neg]
    rintro ⟨stored, rfl⟩
    exact present stored

theorem removeRecord_normalized (s : Store) (record r : Nat) :
    ((s.removeRecord record).heap r).normalized = (s.heap r).normalized := by
  unfold DedupeStore.removeRecord
  dsimp only
  split
  · rfl
  · by_cases same : r = record
    · subst same
      simp only [DedupeStore.update, Function.update_self]
    · simp only [DedupeStore.update, Function.update_of_ne same]

/-- The loop over the records drops the one that is past its retention. -/
theorem foldl_drops (nowMs : ℚ) {key : JsString} {r : Nat} (values : List Nat) (s : Store)
    (held : s.records.get? key = none ∨ (s.records.get? key = some r ∧ r ∈ values))
    (named : (s.heap r).key = key) (past : (s.heap r).retainedUntil ≤ nowMs) :
    (values.foldl (fun s record =>
      if (s.heap record).retainedUntil ≤ nowMs then s.removeRecord record else s) s).records.get? key = none := by
  induction values generalizing s with
  | nil =>
    rcases held with gone | ⟨-, listed⟩
    · exact gone
    · cases listed
  | cons record values ih =>
    rw [List.foldl_cons]
    have normalized := removeRecord_normalized s record r
    have gone : s.records.get? key = none → (s.removeRecord record).records.get? key = none := by
      intro absent
      rw [removeRecord_get?, absent]
      exact ite_self none
    split
    · refine ih _ ?_ (by rw [StoredRecord.key, normalized]; exact named)
        (by rw [StoredRecord.retainedUntil, normalized]; exact past)
      rcases held with absent | ⟨stored, listed⟩
      · exact .inl (gone absent)
      · by_cases same : record = r
        · subst same
          rw [removeRecord_get?, if_pos ⟨stored, named⟩]
          exact .inl rfl
        · rw [removeRecord_get?, if_neg fun both => same (Option.some.inj (both.1.symm.trans stored))]
          exact .inr ⟨stored, (List.mem_cons.mp listed).resolve_left (Ne.symm same)⟩
    · rename_i ahead
      refine ih _ ?_ named past
      rcases held with absent | ⟨stored, listed⟩
      · exact .inl absent
      · refine .inr ⟨stored, (List.mem_cons.mp listed).resolve_left ?_⟩
        rintro rfl
        exact ahead past

theorem prune_drops {s : Store} (well : WellFormed s) (stored : s.records.get? key = some r)
    (past : (s.heap r).retainedUntil ≤ s.now s.reading) : s.prune.records.get? key = none :=
  foldl_drops _ _ s.readNow.2 (.inr ⟨stored, JsMap.mem_values_iff.mpr ⟨key, stored⟩⟩)
    (well.stored key r stored).2 past

/-- What pruning does to the record under a key. -/
theorem prune_cases {s : Store} (well : WellFormed s) (stored : s.records.get? key = some r) :
    ((s.heap r).retainedUntil ≤ s.now s.reading ∧ s.prune.records.get? key = none) ∨
      (s.now s.reading < (s.heap r).retainedUntil ∧ s.prune.records.get? key = some r ∧
        SameOutcome (s.heap r) (s.prune.heap r)) := by
  by_cases past : (s.heap r).retainedUntil ≤ s.now s.reading
  · exact .inl ⟨past, prune_drops well stored past⟩
  · exact .inr ⟨not_le.mp past, prune_keeps well stored (not_le.mp past)⟩

end Pruning

theorem existingDecision_notExpired (m : SharedMemory) (record : StoredRecord Nat) (fingerprint : JsString) :
    (existingDecision sharedValues m record fingerprint).1.kind ≠ .expired := by
  unfold existingDecision
  dsimp only
  split
  · nofun
  split
  · nofun
  · nofun

section Tokens

variable {ω : Type} {R : Requests ω} {retentionGraceMs : ℚ}

/-- What `reserve` handed out for a record. -/
def World.token (w : World ω) (record : Nat) : DedupeReservation := (w.store.heap record).normalized.reservation

/-- Two reservations of a key; the second was granted when the first was over, and is the current one. -/
structure Superseded (w : World ω) (first second : Nat) : Prop where
  earlier : first < second
  key : (w.store.heap first).key = (w.store.heap second).key
  current : w.store.records.get? (w.store.heap second).key = some second

/-- The retention of a record is over at the reading a call prunes at. -/
def World.Over (w : World ω) (record : Nat) (prunings : Nat) : Prop :=
  (w.store.heap record).retainedUntil ≤ w.store.now (w.store.reading + prunings)

/-- The store cannot tell the first reservation from the second, which waits for its outcome. -/
def World.Confuses (w : World ω) (first second : Nat) : Prop :=
  (w.store.heap second).pending = true ∧ (w.store.heap first).fingerprint = (w.store.heap second).fingerprint

/-- How often a call prunes before it looks at the record: twice for a busy outcome. -/
def World.prunings (w : World ω) (call : DedupeCall ω) : Nat := if w.busyOutcome call then 1 else 0

/-- A call neither commits nor changes nor removes the record, except at the end of its retention. -/
def World.Spares (w : World ω) (R : Requests ω) (retentionGraceMs : ℚ) (call : DedupeCall ω) (record : Nat) : Prop :=
  Unchanged w (w.perform R retentionGraceMs call).2 (w.store.heap record).key record ∨
    w.Over record (w.prunings call)

/-- A stored record that is the same in the store afterwards is unchanged. -/
theorem Sound.unchanged {w : World ω} (sound : Sound w) (call : DedupeCall ω)
    (current : w.store.records.get? key = some r)
    (stored : (w.perform R retentionGraceMs call).2.store.records.get? key = some r)
    (same : SameOutcome (w.store.heap r) ((w.perform R retentionGraceMs call).2.store.heap r)) :
    Unchanged w (w.perform R retentionGraceMs call).2 key r :=
  (sound.perform R retentionGraceMs call).unchanged (sound.wellFormed.stored key r current).1 stored same

/-- `release` of a token: what it answers, and what it leaves of the record. -/
theorem releaseReservation_token {w : World ω} (sound : Sound w) (stale : Superseded w first second) :
    (w.Over second 0 ∧ (w.store.releaseReservation (w.token first)).1 = .ok false) ∨
      (¬w.Over second 0 ∧ w.Confuses first second ∧ (w.store.releaseReservation (w.token first)).1 = .ok true ∧
        (w.store.releaseReservation (w.token first)).2.records.get? (w.store.heap second).key = none) ∨
      (¬w.Over second 0 ∧ ¬w.Confuses first second ∧ (w.store.releaseReservation (w.token first)).1 = .ok false ∧
        (w.store.releaseReservation (w.token first)).2.records.get? (w.store.heap second).key = some second ∧
        SameOutcome (w.store.heap second) ((w.store.releaseReservation (w.token first)).2.heap second)) := by
  have named : (w.token first).key = (w.store.heap second).key := stale.key
  unfold DedupeStore.releaseReservation DedupeStore.releaseKey
  rw [sound.opened, named, if_neg (by simp)]
  dsimp only
  rcases prune_cases sound.wellFormed stale.current with ⟨past, gone⟩ | ⟨ahead, stored, same⟩
  · rw [gone]
    exact .inl ⟨past, rfl⟩
  · have live : ¬w.Over second 0 := not_le.mpr ahead
    rw [stored]
    dsimp only
    have pending := same.pending
    have fingerprint : (w.store.prune.heap second).fingerprint = (w.store.heap second).fingerprint :=
      congrArg NormalizedOperation.fingerprint same.normalized
    rw [pending, fingerprint]
    by_cases confused : w.Confuses first second
    · have alike : (w.store.heap second).fingerprint = (w.token first).fingerprint := confused.2.symm
      rw [confused.1, alike, if_neg (by simp)]
      refine .inr (.inl ⟨live, confused, rfl, ?_⟩)
      rw [removeRecord_get?, if_pos ⟨stored, congrArg NormalizedOperation.key same.normalized⟩]
    · rw [if_pos]
      · exact .inr (.inr ⟨live, confused, rfl, stored, same⟩)
      · by_contra both
        rw [Bool.or_eq_true, Bool.not_eq_true', decide_eq_true_eq, not_or, Bool.not_eq_false, not_not] at both
        exact confused ⟨both.1, both.2.symm⟩

/-- A call that leaves no record, or changes whether it is pending, does not spare it. -/
theorem not_unchanged {w w' : World ω}
    (lost : w'.store.records.get? key = none ∨ (w'.store.heap r).pending ≠ (w.store.heap r).pending) :
    ¬Unchanged w w' key r := by
  intro unchanged
  rcases lost with gone | differ
  · rw [unchanged.stored] at gone
    cases gone
  · exact differ unchanged.same.pending

/-- `release` of a token spares the current record unless the store confuses the two. -/
theorem release_spares {w : World ω} (sound : Sound w) (stale : Superseded w first second) :
    w.Spares R retentionGraceMs (.releaseReservation (w.token first)) second ↔
      (w.Over second 0 ∨ ¬w.Confuses first second) := by
  unfold World.Spares World.prunings
  rw [show w.busyOutcome (.releaseReservation (w.token first)) = false from rfl]
  rcases releaseReservation_token sound stale with ⟨past, -⟩ | ⟨live, confused, -, gone⟩ | ⟨-, told, -, stored, same⟩
  · exact ⟨fun _ => .inl past, fun _ => .inr past⟩
  · constructor
    · rintro (unchanged | past)
      · exact absurd unchanged (not_unchanged (.inl gone))
      · exact absurd past live
    · rintro (past | told)
      · exact absurd past live
      · exact absurd confused told
  · exact ⟨fun _ => .inr told, fun _ => .inl (sound.unchanged _ stale.current stored same)⟩

theorem release_reported {w : World ω} (sound : Sound w) (stale : Superseded w first second) :
    (w.store.releaseReservation (w.token first)).1 = .ok false ↔ (w.Over second 0 ∨ ¬w.Confuses first second) := by
  rcases releaseReservation_token sound stale with ⟨past, answer⟩ | ⟨live, confused, answer, -⟩ |
    ⟨-, told, answer, -⟩
  · exact ⟨fun _ => .inl past, fun _ => answer⟩
  · rw [answer]
    constructor
    · nofun
    · rintro (past | told)
      · exact absurd past live
      · exact absurd confused told
  · exact ⟨fun _ => .inr told, fun _ => answer⟩

/-- `commit` of a token with an outcome that is not busy: its decision, and what it leaves of the record. -/
theorem commitReservation_token {w : World ω} (sound : Sound w) (stale : Superseded w first second)
    (result taskReference : Option Nat)
    (calm : isBusyResult sharedValues w.store.prune.memory result = false) :
    let committed := w.store.commitReservation sharedValues (w.token first) result taskReference
    ∃ decision, committed.1 = .ok decision ∧
      ((w.Over second 0 ∧ decision.kind = .expired) ∨
        (¬w.Over second 0 ∧ w.Confuses first second ∧ decision.kind = .stored ∧
          (committed.2.heap second).pending = false) ∨
        (¬w.Over second 0 ∧ ¬w.Confuses first second ∧ decision.kind ≠ .expired ∧ decision.kind ≠ .stored ∧
          committed.2.records.get? (w.store.heap second).key = some second ∧
          SameOutcome (w.store.heap second) (committed.2.heap second))) := by
  have named : (w.token first).key = (w.store.heap second).key := stale.key
  unfold DedupeStore.commitReservation
  rw [sound.opened, named, if_neg (by simp)]
  dsimp only
  rw [calm, if_neg (by simp)]
  rcases prune_cases sound.wellFormed stale.current with ⟨past, gone⟩ | ⟨ahead, stored, same⟩
  · rw [gone]
    exact ⟨_, rfl, .inl ⟨past, rfl⟩⟩
  · have live : ¬w.Over second 0 := not_le.mpr ahead
    rw [stored]
    dsimp only
    have fingerprint : (w.store.prune.heap second).fingerprint = (w.store.heap second).fingerprint :=
      congrArg NormalizedOperation.fingerprint same.normalized
    split
    · rename_i differ
      refine ⟨_, rfl, .inr (.inr ⟨live, fun confused => differ ?_, fun expired => ?_, fun kept => ?_, stored,
        same⟩)⟩
      · rw [fingerprint]
        exact confused.2.symm
      · cases expired
      · cases kept
    split
    · rename_i settled
      rw [Bool.not_eq_true', same.pending] at settled
      obtain ⟨-, notStored⟩ := existingDecision_kind w.store.prune.memory (w.store.prune.heap second)
        (w.token first).fingerprint
      refine ⟨_, rfl, .inr (.inr ⟨live, fun confused => ?_, ?_, notStored, stored, same⟩)⟩
      · rw [confused.1] at settled
        cases settled
      · exact existingDecision_notExpired _ _ _
    · rename_i alike waiting
      rw [not_not, fingerprint] at alike
      rw [Bool.not_eq_true', Bool.not_eq_false, same.pending] at waiting
      obtain ⟨kind, -, -, settled, -⟩ := commitRecord_spec w.store.prune.memory (w.store.prune.heap second)
        result taskReference
      refine ⟨_, rfl, .inr (.inl ⟨live, ⟨waiting, alike.symm⟩, kind, ?_⟩)⟩
      simpa [DedupeStore.update] using settled

/-- A busy outcome is answered as such, and the reservation is released after a second pruning. -/
theorem commitReservation_busy {w : World ω} (sound : Sound w) (token : DedupeReservation)
    (taskReference : Option Nat) (busy : isBusyResult sharedValues w.store.prune.memory result = true) :
    w.store.commitReservation sharedValues token result taskReference =
      (.ok (namedDecision .busy token (some busyError) true), (w.store.prune.releaseReservation token).2) := by
  have opened : w.store.prune.closed = false := (prune_closed sound.wellFormed).trans sound.opened
  obtain ⟨released, answer⟩ := releaseReservation_ok opened token
  unfold DedupeStore.commitReservation
  rw [sound.opened, if_neg (by simp)]
  dsimp only
  rw [busy, if_pos rfl]
  cases freed : w.store.prune.releaseReservation token with
  | mk answer' s' =>
    rw [freed] at answer
    cases answer
    rfl

/-- The world after a pruning. -/
theorem sound_pruned (R : Requests ω) (retentionGraceMs : ℚ) {w : World ω} (sound : Sound w) : Sound { w with store := w.store.prune } := by
  have pruned := (sound.perform R retentionGraceMs .prune).sound
  have same : (w.perform R retentionGraceMs .prune).2 = { w with store := w.store.prune } := by
    show ({ w with store := w.store.prune, held := w.held ++ [] } : World ω) = _
    rw [List.append_nil]
  rwa [same] at pruned

/-- `commit` of a token with a busy outcome spares the current record unless the store confuses the two. -/
theorem commit_busy_spares {w : World ω} (sound : Sound w) (stale : Superseded w first second)
    {result taskReference : Option Nat}
    (busy : w.busyOutcome (.commitReservation (w.token first) result taskReference) = true)
    (pruned : isBusyResult sharedValues w.store.prune.memory (w.object result) = true) :
    w.Spares R retentionGraceMs (.commitReservation (w.token first) result taskReference) second ↔
      (w.Over second 1 ∨ ¬w.Confuses first second) := by
  have answered := commitReservation_busy sound (w.token first) (w.object taskReference) pruned
  unfold World.Spares World.prunings
  rw [if_pos busy]
  rcases prune_cases sound.wellFormed stale.current with ⟨past, -⟩ | ⟨-, stored, same⟩
  · have later : w.Over second 1 := past.trans (sound.wellFormed.clock (Nat.le_succ _))
    exact ⟨fun _ => .inl later, fun _ => .inr later⟩
  have effect : Effect (fun _ => False) (fun _ _ => False) (fun _ _ => False) [] w.store w.store.prune :=
    effect_prune sound.wellFormed
  have below := (sound.wellFormed.stored _ second stale.current).1
  have before := effect.named first (stale.earlier.trans below)
  have keyed : (w.store.prune.heap second).key = (w.store.heap second).key :=
    congrArg NormalizedOperation.key same.normalized
  have stale' : Superseded { w with store := w.store.prune } first second :=
    { earlier := stale.earlier
      key := (congrArg NormalizedOperation.key before).trans (stale.key.trans keyed.symm)
      current := by rw [show (World.store { w with store := w.store.prune }).heap = w.store.prune.heap from rfl, keyed]
                    exact stored }
  have token' : World.token { w with store := w.store.prune } first = w.token first :=
    congrArg NormalizedOperation.reservation before
  have over' : World.Over { w with store := w.store.prune } second 0 ↔ w.Over second 1 := by
    unfold World.Over
    dsimp only
    rw [effect.now, prune_reading, StoredRecord.retainedUntil, same.normalized]
    rfl
  have confuses' : World.Confuses { w with store := w.store.prune } first second ↔ w.Confuses first second := by
    unfold World.Confuses
    dsimp only
    rw [same.pending, StoredRecord.fingerprint, StoredRecord.fingerprint, same.normalized, before]
    rfl
  have told := releaseReservation_token (sound_pruned R retentionGraceMs sound) stale'
  rw [token', over', confuses'] at told
  dsimp only at told
  rw [keyed] at told
  have final : (w.perform R retentionGraceMs (.commitReservation (w.token first) result taskReference)).2.store =
      (w.store.prune.releaseReservation (w.token first)).2 := congrArg Prod.snd answered
  rcases told with ⟨past, -⟩ | ⟨live, confused, -, gone⟩ | ⟨-, apart, -, stored', same'⟩
  · exact ⟨fun _ => .inl past, fun _ => .inr past⟩
  · constructor
    · rintro (unchanged | past)
      · rw [← final] at gone
        exact absurd unchanged (not_unchanged (.inl gone))
      · exact absurd past live
    · rintro (past | apart)
      · exact absurd past live
      · exact absurd confused apart
  · rw [← final] at stored' same'
    exact ⟨fun _ => .inr apart, fun _ => .inl (sound.unchanged _ stale.current stored' (same.trans same'))⟩

/-- `commit` of a token spares the current record unless the store confuses the two. -/
theorem commit_spares {w : World ω} (sound : Sound w) (stale : Superseded w first second)
    (result taskReference : Option Nat) :
    w.Spares R retentionGraceMs (.commitReservation (w.token first) result taskReference) second ↔
      (w.Over second (w.prunings (.commitReservation (w.token first) result taskReference)) ∨
        ¬w.Confuses first second) := by
  have effect : Effect (fun _ => False) (fun _ _ => False) (fun _ _ => False) [] w.store w.store.prune :=
    effect_prune sound.wellFormed
  have pruned : isBusyResult sharedValues w.store.prune.memory (w.object result) =
      w.busyOutcome (.commitReservation (w.token first) result taskReference) :=
    effect.isBusyResult (sound.object result)
  cases busy : w.busyOutcome (.commitReservation (w.token first) result taskReference) with
  | true =>
    rw [busy] at pruned
    rw [World.prunings, if_pos busy]
    exact commit_busy_spares sound stale busy pruned
  | false =>
    rw [busy] at pruned
    unfold World.Spares
    rw [World.prunings, if_neg (by simp [busy])]
    obtain ⟨decision, -, told⟩ := commitReservation_token sound stale (w.object result) (w.object taskReference) pruned
    rcases told with ⟨past, -⟩ | ⟨live, confused, -, settled⟩ | ⟨-, apart, -, -, stored, same⟩
    · exact ⟨fun _ => .inl past, fun _ => .inr past⟩
    · constructor
      · rintro (unchanged | past)
        · refine absurd unchanged (not_unchanged (.inr ?_))
          rw [confused.1]
          exact fun pending => absurd (settled.symm.trans pending) (by simp)
        · exact absurd past live
      · rintro (past | apart)
        · exact absurd past live
        · exact absurd confused apart
    · exact ⟨fun _ => .inr apart, fun _ => .inl (sound.unchanged _ stale.current stored same)⟩

/-- `commit` of a token is reported as expired only when no record is left under its key. -/
theorem commit_reported {w : World ω} (sound : Sound w) (stale : Superseded w first second)
    (result taskReference : Option Nat) :
    (∃ decision, (w.perform R retentionGraceMs (.commitReservation (w.token first) result taskReference)).1 =
        .decided (.ok decision) ∧ decision.kind = .expired) ↔
      (w.Over second 0 ∧ w.busyOutcome (.commitReservation (w.token first) result taskReference) = false) := by
  have effect : Effect (fun _ => False) (fun _ _ => False) (fun _ _ => False) [] w.store w.store.prune :=
    effect_prune sound.wellFormed
  have pruned : isBusyResult sharedValues w.store.prune.memory (w.object result) =
      w.busyOutcome (.commitReservation (w.token first) result taskReference) :=
    effect.isBusyResult (sound.object result)
  have answer : (w.perform R retentionGraceMs (.commitReservation (w.token first) result taskReference)).1 =
      .decided (w.store.commitReservation sharedValues (w.token first) (w.object result)
        (w.object taskReference)).1 := rfl
  rw [answer]
  cases busy : w.busyOutcome (.commitReservation (w.token first) result taskReference) with
  | true =>
    rw [busy] at pruned
    rw [commitReservation_busy sound _ _ pruned]
    constructor
    · rintro ⟨decision, same, expired⟩
      obtain rfl := Except.ok.inj (Answer.decided.inj same)
      cases expired
    · rintro ⟨-, calm⟩
      cases calm
  | false =>
    rw [busy] at pruned
    obtain ⟨decision, decided, told⟩ :=
      commitReservation_token sound stale (w.object result) (w.object taskReference) pruned
    rw [decided]
    constructor
    · rintro ⟨_, same, expired⟩
      obtain rfl := Except.ok.inj (Answer.decided.inj same)
      rcases told with ⟨past, -⟩ | ⟨-, -, stored, -⟩ | ⟨-, -, other, -⟩
      · exact ⟨past, rfl⟩
      · rw [stored] at expired
        cases expired
      · exact absurd expired other
    · rintro ⟨past, -⟩
      rcases told with ⟨-, expired⟩ | ⟨live, -⟩ | ⟨live, -⟩
      · exact ⟨decision, rfl, expired⟩
      · exact absurd past live
      · exact absurd past live

/-- Along any run a record that is stored stays as it is to the end of its retention, unless a call
with its key and its fingerprint settles it while it is pending. -/
theorem decided_along {w v : World ω} (sound : Sound w) (stored : w.store.records.get? key = some r)
    (run : ((dedupeSystem R retentionGraceMs).startingAt w).Trace history v) :
    Sound v ∧ (Unchanged w v key r ∨ v.Reached (w.store.heap r).retainedUntil ∨
      ∃ step ∈ history, Unchanged w step.1 key r ∧ (step.1.store.heap r).pending = true ∧
        step.1.Carries R retentionGraceMs step.2 key (w.store.heap r).fingerprint) := by
  induction run with
  | init start =>
    cases start
    exact ⟨sound, .inl (.refl stored)⟩
  | @step earlier v call _ _ taken ih =>
    cases taken
    obtain ⟨sound', fate⟩ := ih
    have progress := sound'.perform R retentionGraceMs call
    refine ⟨progress.sound, ?_⟩
    rcases fate with unchanged | reached | ⟨step, listed, carried⟩
    · have fingerprint : (v.store.heap r).fingerprint = (w.store.heap r).fingerprint :=
        congrArg NormalizedOperation.fingerprint unchanged.same.normalized
      have retained : (v.store.heap r).retainedUntil = (w.store.heap r).retainedUntil :=
        congrArg NormalizedOperation.retainedUntil unchanged.same.normalized
      have carried : (v.store.heap r).pending = true →
          v.Carries R retentionGraceMs call key (v.store.heap r).fingerprint →
          ∃ step ∈ (v, call) :: earlier, Unchanged w step.1 key r ∧ (step.1.store.heap r).pending = true ∧
            step.1.Carries R retentionGraceMs step.2 key (w.store.heap r).fingerprint :=
        fun pending carries => ⟨(v, call), List.mem_cons_self, unchanged, pending, fingerprint ▸ carries⟩
      cases progress.fates key r unchanged.stored with
      | kept stored' same =>
        have known := (sound'.wellFormed.stored key r unchanged.stored).1
        exact .inl (unchanged.trans (progress.unchanged known stored' same))
      | committed _ pending commits => exact .inr (.inr (carried pending commits.1))
      | freed pending frees => exact .inr (.inr (carried pending frees.1))
      | expired made past =>
        rw [retained] at past
        refine .inr (.inl ⟨_, Nat.sub_one_lt (Nat.ne_of_gt (Nat.zero_lt_of_lt made)), ?_⟩)
        rw [progress.now]
        exact past
    · exact .inr (.inl (reached.later progress.now progress.reading))
    · exact .inr (.inr ⟨step, List.mem_cons_of_mem _ listed, carried⟩)

/-- What the token of a superseded reservation can do, and what can decide the current one. -/
structure TokenTold (R : Requests ω) (retentionGraceMs : ℚ) (w : World ω) (first second : Nat) : Prop where
  released : w.Spares R retentionGraceMs (.releaseReservation (w.token first)) second ∧
      (w.store.releaseReservation (w.token first)).1 = .ok false ↔
    (w.Over second 0 ∨ ¬w.Confuses first second)
  committed : ∀ result taskReference,
    w.Spares R retentionGraceMs (.commitReservation (w.token first) result taskReference) second ↔
      (w.Over second (w.prunings (.commitReservation (w.token first) result taskReference)) ∨
        ¬w.Confuses first second)
  reported : ∀ result taskReference,
    (∃ decision, (w.perform R retentionGraceMs (.commitReservation (w.token first) result taskReference)).1 =
        .decided (.ok decision) ∧ decision.kind = .expired) ↔
      (w.Over second 0 ∧ w.busyOutcome (.commitReservation (w.token first) result taskReference) = false)
  /-- Only calls with the key and the fingerprint of the current reservation decide it. -/
  decided : ∀ history v, ((dedupeSystem R retentionGraceMs).startingAt w).Trace history v →
    Unchanged w v (w.store.heap second).key second ∨ v.Reached (w.store.heap second).retainedUntil ∨
      ∃ step ∈ history, Unchanged w step.1 (w.store.heap second).key second ∧
        (step.1.store.heap second).pending = true ∧
        step.1.Carries R retentionGraceMs step.2 (w.store.heap second).key (w.store.heap second).fingerprint

/-- The token of a reservation that is over leaves the current one alone unless that is pending and has
the same fingerprint. -/
theorem stale_token {w : World ω} (reached : (dedupeSystem R retentionGraceMs).Reachable w)
    (stale : Superseded w first second) : TokenTold R retentionGraceMs w first second := by
  have sound := sound_of_reachable reached
  refine ⟨?_, commit_spares sound stale, commit_reported sound stale, fun history v run => ?_⟩
  · rw [release_spares sound stale, release_reported sound stale]
    exact and_self_iff
  · exact (decided_along sound stale.current run).2

/-- A reservation, released, and granted again. -/
def grantedAgain (operation : JsString) : World JsString :=
  let made := (sampleStart.perform sampleRequests 0 (.make (.string "late"))).2
  let first := (made.perform sampleRequests 0 (.reserve "content")).2
  let freed := (first.perform sampleRequests 0 (.releaseReservation (first.token 0))).2
  (freed.perform sampleRequests 0 (.reserve operation)).2

theorem grantedAgain_reachable (operation : JsString) :
    (dedupeSystem sampleRequests 0).Reachable (grantedAgain operation) := by
  have start : (dedupeSystem sampleRequests 0).Reachable sampleStart :=
    .init ⟨rfl, rfl, rfl, monotone_const, rfl, rfl⟩
  exact (((start.step rfl).step rfl).step rfl).step rfl

/-- The first token neither commits nor releases a second reservation of other content. -/
theorem grantedAgain_told : Superseded (grantedAgain "other") 0 1 ∧
    (grantedAgain "other").Spares sampleRequests 0
      (.commitReservation ((grantedAgain "other").token 0) (some 0) none) 1 := by
  have stale : Superseded (grantedAgain "other") 0 1 := ⟨by decide, by decide +kernel, by decide +kernel⟩
  have told := stale_token (grantedAgain_reachable "other") stale
  exact ⟨stale, (told.committed (some 0) none).mpr (.inr fun confused => absurd confused.2 (by decide +kernel))⟩

/-- The first token commits a second reservation of the same content, and is told that its outcome is stored. -/
theorem grantedAgain_confused : ∃ w : World JsString, (dedupeSystem sampleRequests 0).Reachable w ∧
    Superseded w 0 1 ∧
    ¬w.Spares sampleRequests 0 (.commitReservation (w.token 0) (some 0) none) 1 ∧
    ∃ decision, (w.perform sampleRequests 0 (.commitReservation (w.token 0) (some 0) none)).1 =
      .decided (.ok decision) ∧ decision.kind = .stored := by
  have reached := grantedAgain_reachable "content"
  have stale : Superseded (grantedAgain "content") 0 1 := ⟨by decide, by decide +kernel, by decide +kernel⟩
  have live : ¬(grantedAgain "content").Over 1 0 := by
    unfold World.Over
    decide +kernel
  have confused : (grantedAgain "content").Confuses 0 1 := ⟨by decide +kernel, by decide +kernel⟩
  obtain ⟨decision, decided, told⟩ := commitReservation_token (sound_of_reachable reached) stale
    ((grantedAgain "content").object (some 0)) none (by decide +kernel)
  rcases told with ⟨past, -⟩ | ⟨-, -, stored, settled⟩ | ⟨-, apart, -⟩
  · exact absurd past live
  · refine ⟨_, reached, stale, ?_, decision, congrArg Answer.decided decided, stored⟩
    rintro (unchanged | past)
    · refine not_unchanged (.inr ?_) unchanged
      rw [confused.1]
      exact fun pending => absurd (settled.symm.trans pending) (by simp)
    · rw [World.prunings, if_neg (by decide +kernel)] at past
      exact live past
  · exact absurd confused apart

end Tokens

end PiToPi.DedupeSafety
