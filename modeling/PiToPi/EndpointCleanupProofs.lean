import PiToPi.EndpointCleanup

/-!
When the removal of an owned socket harms nobody else. While its node is in quarantine the public
path is free, so that the call depends on nobody binding or removing the path and on the deadline
until it has put a wrongly moved node back.
-/
namespace PiToPi.EndpointCleanup
open Transition

variable {s s' : Cleanup}

section Statement

/-- The node is the socket the call was told it owns. -/
def own (s : Cleanup) (node : Node) : Prop :=
  sameSocketObjectIdentity node.identity s.expected = true

instance (s : Cleanup) (node : Node) : Decidable (own s node) := inferInstanceAs (Decidable (_ = _))

/-- A path holds the same node, which a rename may have touched. -/
def Same (left right : Option Node) : Prop := left.map (·.touch 0) = right.map (·.touch 0)

instance (left right : Option Node) : Decidable (Same left right) :=
  inferInstanceAs (Decidable (_ = _))

/-- What the call may do to a public path. -/
structure Harmless (s : Cleanup) : Prop where
  /-- Only the owned socket is removed or overwritten. -/
  destroyed : ∀ node ∈ s.destroyed, own s node
  /-- If the call returns true, the owned socket is gone. -/
  removed : s.phase = .ended (.returned true) → ∀ node, s.endpoint = some node → ¬own s node
  /-- On any other exit the path holds in the end what it would hold without the call. -/
  kept : ∀ exit, s.phase = .ended exit → exit ≠ .returned true → s.background = none →
    Same s.endpoint s.alone

/-- The call is about to put a node back. -/
def Returning (s : Cleanup) : Prop :=
  s.background = some .restore ∨ (s.quarantine.isSome = true ∧
    (s.phase matches .restoreFinding _ | .restoreLooking _ | .restoring _) = true)

instance (s : Cleanup) : Decidable (Returning s) := inferInstanceAs (Decidable (_ ∨ _))

/-- The answer makes the call go on to remove what it has moved. -/
def goesOn (s : Cleanup) (answer : Result) : Bool :=
  match s.phase, answer with
  | .checking, .stats found =>
    found.isSocket && sameSocketObjectIdentity found.identity s.expected
  | .confirming quarantined, .stats found =>
    found.isSocket && sameSocketObjectIdentity found.identity quarantined
  | .unlinking, .done => true
  | _, _ => false

/-- The call is not disturbed while a node is in quarantine: an event may interfere only before
the move, or once somebody else has removed what the path held. -/
def Undisturbed (s : Cleanup) : Event → Prop
  -- A new socket has its own identity, and nobody binds the path while a node is put back.
  | .bind node => ¬own s node ∧ (Returning s → s.removed = true)
  | .remove => True
  | .expire => True
  -- A node others have removed is not put back. Another one is: the second time no call of the
  -- file system fails, nor does a rename with a code that is not tried again.
  | .perform failure _ =>
    match s.phase with
    | .restoreFinding true | .restoreLooking true => s.removed = true ∨ failure = none
    | .restoring second =>
      if s.removed then failure.isSome = true
      else failure ≠ some .eexist ∧ (second = true → failure = none)
    | _ => True
  -- The deadline has not passed when the call goes on, and it turns back to a path that has not
  -- been bound meanwhile.
  | .deliver =>
    match s.answer, s.phase with
    | some answer, .quarantining => s.expired = true → answer = .done → s.removed = true
    | some answer, .checking | some answer, .confirming _ =>
      (s.expired = true → s.removed = true) ∧
        (goesOn s answer = false → s.touched = true → s.removed = true)
    | some answer, .unlinking =>
      goesOn s answer = false → s.expired = true ∨ s.touched = true → s.removed = true
    | some answer, .restoring _ => s.expired = true → answer = .done ∨ s.removed = true
    | some _, .restoreFinding _ => s.expired = true → s.removed = true
    | some answer, .restoreLooking _ =>
      s.expired = true → answer = .failed .enoent ∨ s.removed = true
    | _, _ => True
  -- The timer is first only before a move takes effect, and while the rename back succeeds.
  | .timeout =>
    match s.phase with
    | .inspecting => True
    | .quarantining => s.answer = some .done → s.removed = true
    | .restoring _ => s.answer = none ∨ s.answer = some .done ∨ s.removed = true
    | _ => s.removed = true
  | .probed state =>
    (s.expired = true → s.removed = true) ∧
      (state ≠ .stale → s.touched = true → s.removed = true)
  -- A move whose wait was given up has no effect, and a rename back succeeds.
  | .background failure _ =>
    match s.background with
    | some .quarantine => failure.isSome = true ∨ s.endpoint = none
    | some .restore => failure.isSome = s.removed
    | _ => True

end Statement

section Invariant

/-- The path is as others have made it. -/
def Free (s : Cleanup) : Prop := Same s.endpoint s.alone

/-- A node is in quarantine. Unless others have touched the path it is free, and if they have
removed the node it is as they have made it. -/
structure Away (s : Cleanup) : Prop where
  held : s.quarantine.isSome = true
  foreign : ∀ other, s.endpoint = some other → ¬own s other
  touched : s.removed = true → s.touched = true
  untouched : s.touched = false → s.endpoint = none ∧ Same s.quarantine s.alone
  removed : s.removed = true → Free s

/-- A node is in quarantine and is to be put back, unless others have removed it. -/
structure Put (s : Cleanup) : Prop where
  held : s.quarantine.isSome = true
  waits : s.removed = false → s.endpoint = none ∧ Same s.quarantine s.alone
  removed : s.removed = true → Free s

/-- The owned socket has been removed. -/
structure Gone (s : Cleanup) : Prop where
  empty : s.quarantine = none
  foreign : ∀ node, s.endpoint = some node → ¬own s node
  removed : s.removed = true → Free s

/-- What is in quarantine is the owned socket. -/
def HoldsOwn (s : Cleanup) : Prop := ∀ node, s.quarantine = some node → own s node

/-- Nothing has been moved. -/
structure Still (s : Cleanup) : Prop where
  empty : s.quarantine = none
  untouched : s.touched = false
  unremoved : s.removed = false
  free : Free s

/-- The paths, by what the call waits for. -/
def At (s : Cleanup) : Prop :=
  match s.phase with
  | .inspecting => s.background = none ∧ Still s
  | .quarantining => s.background = none ∧ if s.answer = some .done then Away s else Still s
  | .checking => s.background = none ∧ Away s ∧
    ∀ found, s.answer = some (.stats found) → s.quarantine = some found
  | .confirming _ => s.background = none ∧ Away s ∧ HoldsOwn s
  | .probing => s.background = none ∧ Away s ∧ HoldsOwn s
  | .unlinking => s.background = none ∧
    if s.answer = some .done then Gone s
    else Away s ∧ HoldsOwn s ∧ s.answer ≠ some (.failed .enoent)
  | .restoreFinding second => s.background = none ∧ Put s ∧
    ∀ answer, s.answer = some answer → s.removed = true ∨ (∃ found, answer = .stats found) ∨
      (second = false ∧ answer ≠ .failed .enoent)
  | .restoreLooking second => s.background = none ∧ Put s ∧
    ∀ answer, s.answer = some answer → s.removed = true ∨
      ∃ code, answer = .failed code ∧ (code ≠ .enoent → second = false)
  | .restoring second => s.background = none ∧
    if s.answer = some .done then Free s
    else Put s ∧ ∀ answer, s.answer = some answer →
      s.removed = true ∨ (answer = .failed .other ∧ second = false)
  | .ended (.returned true) => s.background = none ∧ Gone s
  | .ended _ =>
    match s.background with
    | none | some .quarantine => Free s
    | some .restore => Put s
    | some .unlink => Free s ∧ HoldsOwn s

structure Inv (s : Cleanup) : Prop where
  destroyed : ∀ node ∈ s.destroyed, own s node
  at' : At s

theorem Inv.harmless (inv : Inv s) : Harmless s := by
  have held := inv.at'
  refine ⟨inv.destroyed, fun ended => ?_, fun exit ended other quiet => ?_⟩
  · simp only [At, ended] at held
    exact held.2.foreign
  · cases exit with
    | thrown => simpa [At, ended, quiet, Free] using held
    | returned removed =>
      cases removed with
      | true => exact absurd rfl other
      | false => simpa [At, ended, quiet, Free] using held

/-- The invariant at the start. -/
theorem inv_start (expected : PosixSocketIdentity) (endpoint : Option Node) :
    Inv (start expected endpoint) where
  destroyed := nofun
  at' := ⟨rfl, rfl, rfl, rfl, rfl⟩

end Invariant

section Others

theorem Free.bind (free : Free s) (node : Node) : Free (s.bind node) := by
  have same := free
  unfold Free Same at same ⊢
  cases endpoint : s.endpoint <;> cases alone : s.alone <;> simp_all

theorem Free.remove (_ : Free s) : Free s.remove := rfl

theorem Away.bind {node : Node} (away : Away s) (foreign : ¬own s node) : Away (s.bind node) where
  held := away.held
  foreign other bound := by
    cases endpoint : s.endpoint with
    | none =>
      simp only [Cleanup.bind_endpoint, endpoint, Option.getD_none, Option.some.injEq] at bound
      exact bound ▸ foreign
    | some present =>
      simp only [Cleanup.bind_endpoint, endpoint, Option.getD_some, Option.some.injEq] at bound
      exact away.foreign other (bound ▸ endpoint)
  touched removed := by simp [away.touched removed]
  untouched untouched := by simp [away.held] at untouched
  removed removed := (away.removed removed).bind node

theorem Away.remove (away : Away s) : Away s.remove where
  held := away.held
  foreign := nofun
  touched _ := by simp [away.held]
  untouched untouched := by simp [away.held] at untouched
  removed _ := rfl

theorem Put.bind {node : Node} (put : Put s) (removed : s.removed = true) : Put (s.bind node) where
  held := put.held
  waits kept := by simp [removed] at kept
  removed _ := (put.removed removed).bind node

theorem Put.remove (put : Put s) : Put s.remove where
  held := put.held
  waits kept := by simp [put.held] at kept
  removed _ := rfl

theorem Gone.bind {node : Node} (gone : Gone s) (foreign : ¬own s node) : Gone (s.bind node) where
  empty := gone.empty
  foreign other bound := by
    cases endpoint : s.endpoint with
    | none =>
      simp only [Cleanup.bind_endpoint, endpoint, Option.getD_none, Option.some.injEq] at bound
      exact bound ▸ foreign
    | some present =>
      simp only [Cleanup.bind_endpoint, endpoint, Option.getD_some, Option.some.injEq] at bound
      exact gone.foreign other (bound ▸ endpoint)
  removed removed := (gone.removed removed).bind node

theorem Gone.remove (gone : Gone s) : Gone s.remove where
  empty := gone.empty
  foreign := nofun
  removed _ := rfl

theorem Still.bind (still : Still s) (node : Node) : Still (s.bind node) where
  empty := still.empty
  untouched := by simp [still.untouched, still.empty]
  unremoved := still.unremoved
  free := still.free.bind node

theorem Still.remove (still : Still s) : Still s.remove where
  empty := still.empty
  untouched := by simp [still.untouched, still.empty]
  unremoved := by simp [still.unremoved, still.empty]
  free := rfl

/-- A change of the public path by others leaves the call where it is. -/
theorem At.others (held : At s) (phase : s'.phase = s.phase) (answer : s'.answer = s.answer)
    (background : s'.background = s.background) (quarantine : s'.quarantine = s.quarantine)
    (expected : s'.expected = s.expected) (removed : s.removed = true → s'.removed = true)
    (free : Free s → Free s') (away : Away s → Away s') (put : Returning s → Put s → Put s')
    (gone : Gone s → Gone s') (still : Still s → Still s') : At s' := by
  have holds : HoldsOwn s → HoldsOwn s' := by
    intro holds node member
    unfold own
    rw [expected]
    exact holds node (quarantine ▸ member)
  have back (second : Bool) (at' : s.phase = .restoreFinding second ∨
      s.phase = .restoreLooking second ∨ s.phase = .restoring second) (put : Put s) :
      Returning s := by
    rcases at' with at' | at' | at' <;> exact .inr ⟨put.held, by simp [at']⟩
  unfold At at held ⊢
  rw [phase]
  cases at' : s.phase with
  | inspecting =>
    simp only [at', background] at held ⊢
    exact held.imp_right still
  | quarantining =>
    simp only [at', background, answer] at held ⊢
    split at held
    next done => exact ⟨held.1, by rw [if_pos done]; exact away held.2⟩
    next undone => exact ⟨held.1, by rw [if_neg undone]; exact still held.2⟩
  | checking =>
    simp only [at', background, answer, quarantine] at held ⊢
    exact ⟨held.1, away held.2.1, held.2.2⟩
  | confirming identity =>
    simp only [at', background] at held ⊢
    exact ⟨held.1, away held.2.1, holds held.2.2⟩
  | probing =>
    simp only [at', background] at held ⊢
    exact ⟨held.1, away held.2.1, holds held.2.2⟩
  | unlinking =>
    simp only [at', background, answer] at held ⊢
    split at held
    next done => exact ⟨held.1, by rw [if_pos done]; exact gone held.2⟩
    next undone =>
      rw [if_neg undone]
      exact ⟨held.1, away held.2.1, holds held.2.2.1, held.2.2.2⟩
  | restoreFinding second =>
    simp only [at', background, answer] at held ⊢
    obtain ⟨quiet, waits, answers⟩ := held
    refine ⟨quiet, put (back second (.inl at') waits) waits, fun found answered => ?_⟩
    exact (answers found answered).imp_left removed
  | restoreLooking second =>
    simp only [at', background, answer] at held ⊢
    obtain ⟨quiet, waits, answers⟩ := held
    refine ⟨quiet, put (back second (.inr (.inl at')) waits) waits, fun found answered => ?_⟩
    exact (answers found answered).imp_left removed
  | restoring second =>
    simp only [at', background, answer] at held ⊢
    split at held
    next done => exact ⟨held.1, by rw [if_pos done]; exact free held.2⟩
    next undone =>
      obtain ⟨quiet, waits, answers⟩ := held
      have answers' (found : Result) (answered : s.answer = some found) :=
        (answers found answered).imp_left removed
      rw [if_neg undone]
      exact ⟨quiet, put (back second (.inr (.inr at')) waits) waits, answers'⟩
  | ended exit =>
    simp only [at', background] at held ⊢
    have others (left : match s.background with
        | none | some .quarantine => Free s
        | some .restore => Put s
        | some .unlink => Free s ∧ HoldsOwn s) :
        match s.background with
        | none | some .quarantine => Free s'
        | some .restore => Put s'
        | some .unlink => Free s' ∧ HoldsOwn s' := by
      cases pending : s.background with
      | none => simpa only [pending] using free (by simpa only [pending] using left)
      | some change =>
        cases change with
        | quarantine => simpa only [pending] using free (by simpa only [pending] using left)
        | restore => simpa only [pending] using put (.inl pending) (by simpa only [pending] using left)
        | unlink =>
          simp only [pending] at left ⊢
          exact ⟨free left.1, holds left.2⟩
    cases exit with
    | thrown => exact others held
    | returned result =>
      cases result with
      | true => exact held.imp_right gone
      | false => exact others held

theorem Inv.bind {node : Node} (inv : Inv s) (undisturbed : Undisturbed s (.bind node)) :
    Inv (s.bind node) where
  destroyed := inv.destroyed
  at' := by
    obtain ⟨foreign, returning⟩ := undisturbed
    exact inv.at'.others rfl rfl rfl rfl rfl id (·.bind node) (·.bind foreign)
      (fun back put => put.bind (returning back)) (·.bind foreign) (·.bind node)

theorem Inv.remove (inv : Inv s) : Inv s.remove where
  destroyed := inv.destroyed
  at' := inv.at'.others rfl rfl rfl rfl rfl (fun removed => by simp [removed]) (·.remove)
    (·.remove) (fun _ put => put.remove) (·.remove) (·.remove)

theorem Inv.expire (inv : Inv s) : Inv { s with expired := true } where
  destroyed := inv.destroyed
  at' := inv.at'.others rfl rfl rfl rfl rfl id id
    (fun away => ⟨away.held, away.foreign, away.touched, away.untouched, away.removed⟩)
    (fun _ put => ⟨put.held, put.waits, put.removed⟩)
    (fun gone => ⟨gone.empty, gone.foreign, gone.removed⟩)
    (fun still => ⟨still.empty, still.untouched, still.unremoved, still.free⟩)

end Others

section Call

/-- The call ends with the path as others have made it. -/
theorem inv_exit {exit : Exit} (destroyed : ∀ node ∈ s.destroyed, own s node) (free : Free s)
    (other : exit ≠ .returned true) (quiet : s.background = none) : Inv (s.exit exit) where
  destroyed := destroyed
  at' := by
    have left : Free (s.exit exit) := free
    cases exit with
    | thrown => simpa [At, quiet] using left
    | returned removed =>
      cases removed with
      | true => exact absurd rfl other
      | false => simpa [At, quiet] using left

/-- The call begins to put a node back, or has to leave it where it is. -/
theorem inv_restoreFailed {second : Bool} (destroyed : ∀ node ∈ s.destroyed, own s node)
    (quiet : s.background = none) (put : Put s)
    (left : second = true ∨ s.expired = true → s.removed = true) :
    Inv (s.restoreFailed second) := by
  unfold Cleanup.restoreFailed
  split
  next past =>
    have removed := left (by simpa using past)
    exact inv_exit destroyed (put.removed removed) (by simp) quiet
  next again =>
    exact ⟨destroyed, quiet, ⟨put.held, put.waits, put.removed⟩, nofun⟩

/-- The call turns back. -/
theorem Away.put (away : Away s) (undisturbed : s.touched = true → s.removed = true) : Put s where
  held := away.held
  waits kept := by
    apply away.untouched
    cases touched : s.touched with
    | false => rfl
    | true => simp [undisturbed touched] at kept
  removed := away.removed

theorem inv_giveUp (destroyed : ∀ node ∈ s.destroyed, own s node) (quiet : s.background = none)
    (away : Away s) (undisturbed : s.touched = true → s.removed = true)
    (left : s.expired = true → s.removed = true) : Inv s.giveUp := by
  have put := away.put undisturbed
  unfold Cleanup.giveUp
  split
  next past => exact inv_exit destroyed (put.removed (left past)) (by simp) quiet
  next again => exact ⟨destroyed, quiet, ⟨put.held, put.waits, put.removed⟩, nofun⟩

/-- After the deadline a node that is away is left there. -/
theorem inv_fail (destroyed : ∀ node ∈ s.destroyed, own s node) (quiet : s.background = none)
    (away : Away s) (undisturbed : s.touched = true → s.removed = true)
    (left : s.expired = true → s.removed = true) : Inv s.fail := by
  refine inv_restoreFailed destroyed quiet (away.put undisturbed) ?_
  rintro (again | past)
  · cases again
  · exact left past

theorem Away.await (away : Away s) (phase : Phase) : Away (s.await phase) :=
  ⟨away.held, away.foreign, away.touched, away.untouched, away.removed⟩

theorem Put.await (put : Put s) (phase : Phase) : Put (s.await phase) :=
  ⟨put.held, put.waits, put.removed⟩

/-- The call looks at the quarantine again, or leaves it after the deadline. -/
theorem inv_look {phase : Phase} (destroyed : ∀ node ∈ s.destroyed, own s node)
    (quiet : s.background = none) (away : Away s) (left : s.expired = true → s.removed = true)
    (next : Away (s.await phase) → At (s.await phase)) : Inv (s.look phase) := by
  unfold Cleanup.look
  split
  next past => exact inv_fail destroyed quiet away (fun _ => left past) left
  · exact ⟨destroyed, next (away.await phase)⟩

theorem restoreFailed_expired (expired : s.expired = true) (second : Bool) :
    s.restoreFailed second = s.exit .thrown := by
  unfold Cleanup.restoreFailed
  rw [if_pos (by simp [expired])]

theorem inv_startRestore {second : Bool} (destroyed : ∀ node ∈ s.destroyed, own s node)
    (quiet : s.background = none) (put : Put s) : Inv (s.startRestore second) := by
  unfold Cleanup.startRestore
  split
  next past =>
    rw [restoreFailed_expired past]
    exact ⟨destroyed, put.held, put.waits, put.removed⟩
  · refine ⟨destroyed, quiet, ?_⟩
    rw [if_neg (by simp)]
    exact ⟨put.await _, nofun⟩

theorem Inv.deliver {answer : Result} (inv : Inv s) (answered : s.answer = some answer)
    (undisturbed : Undisturbed s .deliver) : Inv (s.deliver answer) := by
  have destroyed := inv.destroyed
  have held := inv.at'
  cases at' : s.phase with
  | inspecting =>
    simp only [At, at'] at held
    obtain ⟨quiet, still⟩ := held
    have leave (exit : Exit) (other : exit ≠ .returned true) : Inv (s.exit exit) :=
      inv_exit destroyed still.free other quiet
    simp only [Cleanup.deliver, at']
    cases answer with
    | stats found =>
      simp only
      split
      · exact leave _ (by simp)
      split
      · exact leave _ (by simp)
      unfold Cleanup.startQuarantine
      split
      · exact ⟨destroyed, still.free⟩
      · exact ⟨destroyed, quiet, still.empty, still.untouched, still.unremoved, still.free⟩
    | done => exact leave _ (by simp)
    | failed code => cases code <;> exact leave _ (by simp)
  | quarantining =>
    simp only [At, at', answered] at held
    simp only [Undisturbed, answered, at'] at undisturbed
    obtain ⟨quiet, held⟩ := held
    simp only [Cleanup.deliver, at']
    cases answer with
    | done =>
      rw [if_pos rfl] at held
      exact inv_look destroyed quiet held (fun past => undisturbed past rfl) fun away =>
        ⟨quiet, away, nofun⟩
    | stats found =>
      rw [if_neg (by simp)] at held
      exact inv_exit destroyed held.free (by simp) quiet
    | failed code =>
      rw [if_neg (by simp)] at held
      cases code <;> exact inv_exit destroyed held.free (by simp) quiet
  | checking =>
    simp only [At, at', answered] at held
    simp only [Undisturbed, answered, at'] at undisturbed
    obtain ⟨quiet, away, seen⟩ := held
    obtain ⟨left, back⟩ := undisturbed
    simp only [goesOn, at'] at back
    simp only [Cleanup.deliver, at']
    cases answer with
    | stats found =>
      simp only
      split
      next other => exact inv_giveUp destroyed quiet away (back (by simp at other; simp [other])) left
      split
      next other => exact inv_giveUp destroyed quiet away (back (by simp at other; simp [other])) left
      next same =>
        refine inv_look destroyed quiet away left fun away => ⟨quiet, away, fun node held => ?_⟩
        have same' : node = found := Option.some.inj (held.symm.trans (seen found rfl))
        show sameSocketObjectIdentity node.identity s.expected = true
        rw [same']
        simpa using same
    | done => exact inv_fail destroyed quiet away (back rfl) left
    | failed code =>
      cases code with
      | enoent => exact inv_giveUp destroyed quiet away (back rfl) left
      | eexist => exact inv_fail destroyed quiet away (back rfl) left
      | other => exact inv_fail destroyed quiet away (back rfl) left
  | confirming identity =>
    simp only [At, at'] at held
    simp only [Undisturbed, answered, at'] at undisturbed
    obtain ⟨quiet, away, holds⟩ := held
    obtain ⟨left, back⟩ := undisturbed
    simp only [goesOn, at'] at back
    simp only [Cleanup.deliver, at']
    cases answer with
    | stats found =>
      simp only
      split
      next other =>
        refine inv_giveUp destroyed quiet away (back ?_) left
        cases socket : found.isSocket <;> simp_all
      · exact ⟨destroyed, quiet, away.await _, holds⟩
    | done => exact inv_fail destroyed quiet away (back rfl) left
    | failed code =>
      cases code with
      | enoent => exact inv_giveUp destroyed quiet away (back rfl) left
      | eexist => exact inv_fail destroyed quiet away (back rfl) left
      | other => exact inv_fail destroyed quiet away (back rfl) left
  | probing =>
    simp only [Cleanup.deliver, at']
    exact inv
  | unlinking =>
    simp only [At, at', answered] at held
    simp only [Undisturbed, answered, at', goesOn] at undisturbed
    obtain ⟨quiet, held⟩ := held
    simp only [Cleanup.deliver, at']
    cases answer with
    | done =>
      rw [if_pos rfl] at held
      exact ⟨destroyed, quiet, held.empty, held.foreign, held.removed⟩
    | stats found =>
      rw [if_neg (by simp)] at held
      exact inv_fail destroyed quiet held.1 (fun touched => undisturbed rfl (.inr touched))
        fun past => undisturbed rfl (.inl past)
    | failed code =>
      rw [if_neg (by simp)] at held
      cases code with
      | enoent => exact absurd rfl held.2.2
      | eexist =>
        exact inv_fail destroyed quiet held.1 (fun touched => undisturbed rfl (.inr touched))
          fun past => undisturbed rfl (.inl past)
      | other =>
        exact inv_fail destroyed quiet held.1 (fun touched => undisturbed rfl (.inr touched))
          fun past => undisturbed rfl (.inl past)
  | restoreFinding second =>
    simp only [At, at', answered] at held
    simp only [Undisturbed, answered, at'] at undisturbed
    obtain ⟨quiet, put, answers⟩ := held
    have why := answers answer rfl
    have fail (failed : s.removed = true ∨ second = false) : Inv (s.restoreFailed second) := by
      refine inv_restoreFailed destroyed quiet put ?_
      rintro (again | past)
      · exact failed.resolve_right (by simp [again])
      · exact undisturbed past
    simp only [Cleanup.deliver, at']
    cases answer with
    | stats found =>
      simp only
      split
      next past => exact inv_restoreFailed destroyed quiet put fun _ => undisturbed past
      · exact ⟨destroyed, quiet, put.await _, nofun⟩
    | done => exact fail (why.imp_right fun why => (why.resolve_left (by simp)).1)
    | failed code =>
      cases code with
      | enoent =>
        refine inv_exit destroyed (put.removed (why.resolve_right (by simp))) ?_ quiet
        split <;> simp
      | eexist => exact fail (why.imp_right fun why => (why.resolve_left (by simp)).1)
      | other => exact fail (why.imp_right fun why => (why.resolve_left (by simp)).1)
  | restoreLooking second =>
    simp only [At, at', answered] at held
    simp only [Undisturbed, answered, at'] at undisturbed
    obtain ⟨quiet, put, answers⟩ := held
    have why := answers answer rfl
    have fail (failed : s.removed = true ∨ second = false)
        (left : s.expired = true → s.removed = true) : Inv (s.restoreFailed second) := by
      refine inv_restoreFailed destroyed quiet put ?_
      rintro (again | past)
      · exact failed.resolve_right (by simp [again])
      · exact left past
    simp only [Cleanup.deliver, at']
    cases answer with
    | stats found =>
      refine inv_exit destroyed (put.removed (why.resolve_right (by simp))) ?_ quiet
      split <;> simp
    | done =>
      have removed := why.resolve_right (by simp)
      exact fail (.inl removed) fun _ => removed
    | failed code =>
      cases code with
      | enoent =>
        exact inv_startRestore destroyed quiet put
      | eexist =>
        exact fail (why.imp_right fun ⟨code, same, once⟩ => once (by cases same; simp))
          fun past => (undisturbed past).resolve_left (by simp)
      | other =>
        exact fail (why.imp_right fun ⟨code, same, once⟩ => once (by cases same; simp))
          fun past => (undisturbed past).resolve_left (by simp)
  | restoring second =>
    simp only [At, at', answered] at held
    simp only [Undisturbed, answered, at'] at undisturbed
    obtain ⟨quiet, held⟩ := held
    have past (exit : Exit) (other : exit ≠ .returned true) (free : Free s) : Inv (s.exit exit) :=
      inv_exit destroyed free other quiet
    have fail (undone : answer ≠ .done) (held : Put s ∧ ∀ other, some answer = some other →
        s.removed = true ∨ (other = .failed .other ∧ second = false)) :
        Inv (s.restoreFailed second) := by
      refine inv_restoreFailed destroyed quiet held.1 ?_
      rintro (again | late)
      · exact (held.2 answer rfl).resolve_right (by simp [again])
      · exact (undisturbed late).resolve_left undone
    simp only [Cleanup.deliver, at']
    cases answer with
    | done =>
      rw [if_pos rfl] at held
      exact past _ (by cases second <;> simp) held
    | stats found =>
      rw [if_neg (by simp)] at held
      exact fail (by simp) held
    | failed code =>
      rw [if_neg (by simp)] at held
      cases code with
      | eexist =>
        have removed := (held.2 _ rfl).resolve_right (by simp)
        exact past _ (by cases second <;> simp) (held.1.removed removed)
      | enoent => exact fail (by simp) held
      | other => exact fail (by simp) held
  | ended exit =>
    simp only [Cleanup.deliver, at']
    exact inv

/-- A wait is given up. -/
theorem Inv.timeout (inv : Inv s) (expired : s.expired = true)
    (undisturbed : Undisturbed s .timeout) : Inv s.timeout := by
  have destroyed := inv.destroyed
  have held := inv.at'
  cases at' : s.phase with
  | inspecting =>
    simp only [At, at'] at held
    simp only [Cleanup.timeout, at']
    exact inv_exit destroyed held.2.free (by simp) held.1
  | quarantining =>
    simp only [At, at'] at held
    simp only [Undisturbed, at'] at undisturbed
    obtain ⟨quiet, held⟩ := held
    simp only [Cleanup.timeout, at', Cleanup.abandon]
    have free : Free s := by
      split at held
      next done => exact held.removed (undisturbed done)
      · exact held.free
    split
    · exact inv_exit destroyed free (by simp) quiet
    · exact ⟨destroyed, free⟩
  | checking =>
    simp only [At, at'] at held
    simp only [Undisturbed, at'] at undisturbed
    simp only [Cleanup.timeout, at']
    exact inv_fail destroyed held.1 held.2.1 (fun _ => undisturbed) fun _ => undisturbed
  | confirming identity =>
    simp only [At, at'] at held
    simp only [Undisturbed, at'] at undisturbed
    simp only [Cleanup.timeout, at']
    exact inv_fail destroyed held.1 held.2.1 (fun _ => undisturbed) fun _ => undisturbed
  | probing =>
    simp only [Cleanup.timeout, at']
    exact inv
  | unlinking =>
    simp only [At, at'] at held
    simp only [Undisturbed, at'] at undisturbed
    obtain ⟨quiet, held⟩ := held
    simp only [Cleanup.timeout, at', Cleanup.abandon, Cleanup.fail]
    split
    · rw [restoreFailed_expired expired]
      refine inv_exit destroyed ?_ (by simp) quiet
      split at held
      · exact held.removed undisturbed
      · exact held.1.removed undisturbed
    next unanswered =>
      rw [if_neg (by simp_all)] at held
      rw [restoreFailed_expired (by exact expired)]
      exact ⟨destroyed, held.1.removed undisturbed, held.2.1⟩
  | restoreFinding second =>
    simp only [At, at'] at held
    simp only [Undisturbed, at'] at undisturbed
    simp only [Cleanup.timeout, at']
    exact inv_restoreFailed destroyed held.1 held.2.1 fun _ => undisturbed
  | restoreLooking second =>
    simp only [At, at'] at held
    simp only [Undisturbed, at'] at undisturbed
    simp only [Cleanup.timeout, at']
    exact inv_restoreFailed destroyed held.1 held.2.1 fun _ => undisturbed
  | restoring second =>
    simp only [At, at'] at held
    simp only [Undisturbed, at'] at undisturbed
    obtain ⟨quiet, held⟩ := held
    simp only [Cleanup.timeout, at', Cleanup.abandon]
    split
    next answered =>
      rw [restoreFailed_expired expired]
      refine inv_exit destroyed ?_ (by simp) quiet
      split at held
      · exact held
      next undone =>
        refine held.1.removed ((undisturbed.resolve_left ?_).resolve_left undone)
        intro none
        simp [none] at answered
    next unanswered =>
      rw [if_neg (by simp_all)] at held
      rw [restoreFailed_expired (by exact expired)]
      exact ⟨destroyed, held.1.held, held.1.waits, held.1.removed⟩
  | ended exit =>
    simp only [Cleanup.timeout, at']
    exact inv

theorem Inv.probed {state : ProbeState} (inv : Inv s) (at' : s.phase = .probing)
    (undisturbed : Undisturbed s (.probed state)) : Inv (s.probed state) := by
  have held := inv.at'
  simp only [At, at'] at held
  obtain ⟨quiet, away, holds⟩ := held
  obtain ⟨left, back⟩ := undisturbed
  unfold Cleanup.probed
  split
  · unfold Cleanup.startUnlink Cleanup.fail
    split
    next past =>
      rw [restoreFailed_expired past]
      exact ⟨inv.destroyed, away.removed (left past), holds⟩
    · refine ⟨inv.destroyed, quiet, ?_⟩
      rw [if_neg (by simp)]
      exact ⟨away.await _, holds, by simp⟩
  next other => exact inv_giveUp inv.destroyed quiet away (back other) left

/-- What a node looks like does not change when it is moved. -/
theorem same_touch {node : Node} {path : Option Node} {ctimeMs : Nat}
    (same : Same (some node) path) : Same (some (node.touch ctimeMs)) path := same

/-- An answer changes no path. -/
theorem Away.answered (away : Away s) (phase : Phase) (answer : Option Result) :
    Away { s with phase := phase, answer := answer } :=
  ⟨away.held, away.foreign, away.touched, away.untouched, away.removed⟩

theorem Put.answered (put : Put s) (phase : Phase) (answer : Option Result) :
    Put { s with phase := phase, answer := answer } :=
  ⟨put.held, put.waits, put.removed⟩

theorem Still.answered (still : Still s) (phase : Phase) (answer : Option Result) :
    Still { s with phase := phase, answer := answer } :=
  ⟨still.empty, still.untouched, still.unremoved, still.free⟩

/-- A call of the file system fails, with a code other than that of a missing source. -/
theorem Inv.failed {code : ErrorCode} {ctimeMs : Nat} (inv : Inv s) (known : code ≠ .enoent)
    (silent : s.answer = none) (waits : ∀ exit, s.phase ≠ .ended exit)
    (undisturbed : Undisturbed s (.perform (some code) ctimeMs)) :
    Inv { s with answer := some (.failed code) } where
  destroyed := inv.destroyed
  at' := by
    have held := inv.at'
    cases at' : s.phase with
    | inspecting =>
      simp only [At, at'] at held ⊢
      exact ⟨held.1, held.2.answered _ _⟩
    | quarantining =>
      simp only [At, at', silent] at held ⊢
      rw [if_neg (by simp)] at held ⊢
      exact ⟨held.1, held.2.answered _ _⟩
    | checking =>
      simp only [At, at'] at held ⊢
      exact ⟨held.1, held.2.1.answered _ _, nofun⟩
    | confirming identity =>
      simp only [At, at'] at held ⊢
      exact ⟨held.1, held.2.1.answered _ _, held.2.2⟩
    | probing =>
      simp only [At, at'] at held ⊢
      exact ⟨held.1, held.2.1.answered _ _, held.2.2⟩
    | unlinking =>
      simp only [At, at', silent] at held ⊢
      rw [if_neg (by simp)] at held ⊢
      exact ⟨held.1, held.2.1.answered _ _, held.2.2.1, by simpa using known⟩
    | restoreFinding second =>
      simp only [At, at'] at held ⊢
      simp only [Undisturbed, at'] at undisturbed
      obtain ⟨quiet, put, -⟩ := held
      refine ⟨quiet, put.answered _ _, fun answer same => ?_⟩
      cases same
      cases second with
      | true => exact .inl (by simpa using undisturbed)
      | false => exact .inr (.inr ⟨rfl, by simpa using known⟩)
    | restoreLooking second =>
      simp only [At, at'] at held ⊢
      simp only [Undisturbed, at'] at undisturbed
      obtain ⟨quiet, put, -⟩ := held
      refine ⟨quiet, put.answered _ _, fun answer same => ?_⟩
      cases same
      cases second with
      | true => exact .inl (by simpa using undisturbed)
      | false => exact .inr ⟨code, rfl, fun _ => rfl⟩
    | restoring second =>
      simp only [At, at', silent] at held ⊢
      simp only [Undisturbed, at'] at undisturbed
      obtain ⟨quiet, held⟩ := held
      rw [if_neg (by simp)] at held ⊢
      refine ⟨quiet, held.1.answered _ _, fun answer same => ?_⟩
      cases same
      split at undisturbed
      next removed => exact .inl removed
      next kept =>
        obtain ⟨other, once⟩ := undisturbed
        refine .inr ⟨?_, by simpa using once⟩
        cases code with
        | enoent => exact absurd rfl known
        | eexist => exact absurd rfl other
        | other => rfl
    | ended exit => exact absurd at' (waits exit)

theorem apply_quarantine {node : Node} (bound : s.endpoint = some node) (ctimeMs : Nat) :
    s.apply .quarantine ctimeMs =
      ({ s with endpoint := none, quarantine := some (node.touch ctimeMs) }, .done) := by
  simp [Cleanup.apply, bound]

theorem apply_quarantine_missing (free : s.endpoint = none) (ctimeMs : Nat) :
    s.apply .quarantine ctimeMs = (s, .failed .enoent) := by
  simp [Cleanup.apply, free]

theorem apply_unlink {node : Node} (present : s.quarantine = some node) (ctimeMs : Nat) :
    s.apply .unlink ctimeMs =
      ({ s with quarantine := none, destroyed := s.destroyed ++ [node] }, .done) := by
  simp [Cleanup.apply, present]

theorem apply_unlink_missing (missing : s.quarantine = none) (ctimeMs : Nat) :
    s.apply .unlink ctimeMs = (s, .failed .enoent) := by
  simp [Cleanup.apply, missing]

/-- A node is put back to a path that is free. -/
theorem apply_restore {node : Node} (present : s.quarantine = some node) (free : s.endpoint = none)
    (ctimeMs : Nat) :
    s.apply .restore ctimeMs =
      ({ s with endpoint := some (node.touch ctimeMs), quarantine := none }, .done) := by
  simp [Cleanup.apply, present, free]

/-- A call of the file system takes effect. -/
theorem Inv.performed {ctimeMs : Nat} (inv : Inv s) (silent : s.answer = none)
    (undisturbed : Undisturbed s (.perform none ctimeMs)) : Inv (s.perform none ctimeMs) := by
  have destroyed := inv.destroyed
  have held := inv.at'
  cases at' : s.phase with
  | inspecting =>
    simp only [At, at'] at held
    simp only [Cleanup.perform, at']
    exact ⟨destroyed, held.1, held.2.answered _ _⟩
  | quarantining =>
    simp only [At, at', silent] at held
    rw [if_neg (by simp)] at held
    obtain ⟨quiet, still⟩ := held
    cases endpoint : s.endpoint with
    | none =>
      simp only [Cleanup.perform, at', apply_quarantine_missing endpoint]
      refine ⟨destroyed, quiet, ?_⟩
      rw [if_neg (by simp)]
      exact still.answered _ _
    | some node =>
      have same : Same (some node) s.alone := endpoint ▸ still.free
      simp only [Cleanup.perform, at', apply_quarantine endpoint]
      refine ⟨destroyed, quiet, ?_⟩
      rw [if_pos rfl]
      refine ⟨rfl, nofun, ?_, fun _ => ⟨rfl, same_touch same⟩, ?_⟩
      · simp [still.unremoved]
      · simp [still.unremoved]
  | checking =>
    simp only [At, at'] at held
    obtain ⟨quiet, away, -⟩ := held
    simp only [Cleanup.perform, at']
    refine ⟨destroyed, quiet, away.answered _ _, fun found seen => ?_⟩
    obtain ⟨node, present⟩ := Option.isSome_iff_exists.mp away.held
    simp only [Cleanup.stat, present, Option.some.injEq, Result.stats.injEq] at seen
    exact seen ▸ present
  | confirming identity =>
    simp only [At, at'] at held
    simp only [Cleanup.perform, at']
    exact ⟨destroyed, held.1, held.2.1.answered _ _, held.2.2⟩
  | probing =>
    simp only [Cleanup.perform, at']
    exact inv
  | unlinking =>
    simp only [At, at', silent] at held
    rw [if_neg (by simp)] at held
    obtain ⟨quiet, away, holds, -⟩ := held
    obtain ⟨node, present⟩ := Option.isSome_iff_exists.mp away.held
    simp only [Cleanup.perform, at', apply_unlink present]
    refine ⟨?_, quiet, ?_⟩
    · intro other member
      rcases List.mem_append.mp member with before | now
      · exact destroyed other before
      · exact List.mem_singleton.mp now ▸ holds node present
    · rw [if_pos rfl]
      exact ⟨rfl, away.foreign, away.removed⟩
  | restoreFinding second =>
    simp only [At, at'] at held
    obtain ⟨quiet, put, -⟩ := held
    simp only [Cleanup.perform, at']
    refine ⟨destroyed, quiet, put.answered _ _, fun answer same => .inr (.inl ?_)⟩
    obtain ⟨node, present⟩ := Option.isSome_iff_exists.mp put.held
    simp only [Cleanup.stat, present, Option.some.injEq] at same
    exact ⟨node, same.symm⟩
  | restoreLooking second =>
    simp only [At, at'] at held
    obtain ⟨quiet, put, -⟩ := held
    simp only [Cleanup.perform, at']
    refine ⟨destroyed, quiet, put.answered _ _, fun answer same => ?_⟩
    cases removed : s.removed with
    | true => exact .inl rfl
    | false =>
      simp only [Cleanup.stat, (put.waits removed).1, Option.some.injEq] at same
      exact .inr ⟨.enoent, same.symm, by simp⟩
  | restoring second =>
    simp only [At, at', silent] at held
    rw [if_neg (by simp)] at held
    simp only [Undisturbed, at'] at undisturbed
    obtain ⟨quiet, put, -⟩ := held
    have kept : s.removed = false := by
      cases removed : s.removed with
      | true => simp [removed] at undisturbed
      | false => rfl
    obtain ⟨free, same⟩ := put.waits kept
    obtain ⟨node, present⟩ := Option.isSome_iff_exists.mp put.held
    simp only [Cleanup.perform, at', apply_restore present free]
    refine ⟨destroyed, quiet, ?_⟩
    rw [if_pos rfl]
    exact same_touch (present ▸ same)
  | ended exit =>
    simp only [Cleanup.perform, at']
    exact inv

/-- A change goes on in the background only after the call has ended, without having returned
true. -/
theorem At.past {change : Change} (held : At s) (pending : s.background = some change) :
    (∃ exit, s.phase = .ended exit ∧ exit ≠ .returned true) ∧
      match change with
      | .quarantine => Free s
      | .restore => Put s
      | .unlink => Free s ∧ HoldsOwn s := by
  unfold At at held
  cases at' : s.phase with
  | ended exit =>
    simp only [at', pending] at held
    cases exit with
    | thrown => exact ⟨⟨_, rfl, by simp⟩, by cases change <;> exact held⟩
    | returned result =>
      cases result with
      | true => cases held.1
      | false => exact ⟨⟨_, rfl, by simp⟩, by cases change <;> exact held⟩
  | _ => simp [at', pending] at held

/-- The background has come to rest. -/
theorem inv_rest {exit : Exit} (destroyed : ∀ node ∈ s.destroyed, own s node)
    (ended : s.phase = .ended exit) (other : exit ≠ .returned true)
    (quiet : s.background = none) (free : Free s) : Inv s where
  destroyed := destroyed
  at' := by
    cases exit with
    | thrown => simpa only [At, ended, quiet] using free
    | returned removed =>
      cases removed with
      | true => exact absurd rfl other
      | false => simpa only [At, ended, quiet] using free

/-- A change whose wait was given up fails. -/
theorem Inv.background_failed {code : ErrorCode} {ctimeMs : Nat} {change : Change} (inv : Inv s)
    (pending : s.background = some change)
    (undisturbed : Undisturbed s (.background (some code) ctimeMs)) :
    Inv { s with background := none } := by
  obtain ⟨⟨exit, ended, other⟩, held⟩ := inv.at'.past pending
  refine inv_rest inv.destroyed ended other rfl ?_
  cases change with
  | quarantine => exact held
  | restore =>
    simp only [Undisturbed, pending, Option.isSome_some] at undisturbed
    exact held.removed undisturbed.symm
  | unlink => exact held.1

/-- A change whose wait was given up takes effect. -/
theorem Inv.background_applied {ctimeMs : Nat} {change : Change} (inv : Inv s)
    (pending : s.background = some change) (undisturbed : Undisturbed s (.background none ctimeMs)) :
    Inv { (s.apply change ctimeMs).1 with background := none } := by
  obtain ⟨⟨exit, ended, other⟩, held⟩ := inv.at'.past pending
  cases change with
  | quarantine =>
    simp only [Undisturbed, pending, Option.isSome_none, Bool.false_eq_true, false_or]
      at undisturbed
    simp only [apply_quarantine_missing undisturbed]
    exact inv_rest inv.destroyed ended other rfl held
  | restore =>
    simp only [Undisturbed, pending, Option.isSome_none] at undisturbed
    obtain ⟨free, same⟩ := held.waits undisturbed.symm
    obtain ⟨node, present⟩ := Option.isSome_iff_exists.mp held.held
    simp only [apply_restore present free]
    exact inv_rest inv.destroyed ended other rfl (same_touch (present ▸ same))
  | unlink =>
    obtain ⟨free, holds⟩ := held
    cases present : s.quarantine with
    | none =>
      simp only [apply_unlink_missing present]
      exact inv_rest inv.destroyed ended other rfl free
    | some node =>
      simp only [apply_unlink present]
      refine inv_rest (fun found member => ?_) ended other rfl free
      rcases List.mem_append.mp member with before | now
      · exact inv.destroyed found before
      · exact List.mem_singleton.mp now ▸ holds node present

/-- Every undisturbed event keeps the invariant. -/
theorem Inv.step {event : Event} (inv : Inv s) (undisturbed : Undisturbed s event)
    (happens : step s event = some s') : Inv s' := by
  cases event with
  | bind node => exact Option.some.inj happens ▸ inv.bind undisturbed
  | remove => exact Option.some.inj happens ▸ inv.remove
  | expire => exact Option.some.inj happens ▸ inv.expire
  | perform failure ctimeMs =>
    have performs (waits : ∀ exit, s.phase ≠ .ended exit)
        (happens : (if s.answer.isSome ∨ failure = some .enoent then none
          else some (s.perform failure ctimeMs)) = some s') : Inv s' := by
      split at happens
      · cases happens
      next ready =>
        obtain ⟨answered, known⟩ := not_or.mp ready
        have silent : s.answer = none := Option.not_isSome_iff_eq_none.mp answered
        refine Option.some.inj happens ▸ ?_
        cases failure with
        | none => exact inv.performed silent undisturbed
        | some code => exact inv.failed (by simpa using known) silent waits undisturbed
    cases at' : s.phase with
    | probing => simp [EndpointCleanup.step, at'] at happens
    | ended exit => simp [EndpointCleanup.step, at'] at happens
    | _ => exact performs (by simp [at']) (by simpa only [EndpointCleanup.step, at'] using happens)
  | deliver =>
    obtain ⟨answer, answered, rfl⟩ := Option.map_eq_some_iff.mp happens
    exact inv.deliver answered undisturbed
  | timeout =>
    have late (happens : (if s.expired then some s.timeout else none) = some s') : Inv s' := by
      split at happens
      next expired => exact Option.some.inj happens ▸ inv.timeout expired undisturbed
      · cases happens
    cases at' : s.phase with
    | probing => simp [EndpointCleanup.step, at'] at happens
    | ended exit => simp [EndpointCleanup.step, at'] at happens
    | _ => exact late (by simpa only [EndpointCleanup.step, at'] using happens)
  | probed state =>
    simp only [EndpointCleanup.step] at happens
    split at happens
    next probing => exact Option.some.inj happens ▸ inv.probed probing undisturbed
    · cases happens
  | background failure ctimeMs =>
    simp only [EndpointCleanup.step] at happens
    cases pending : s.background with
    | none => simp [pending] at happens
    | some change =>
      simp only [pending] at happens
      cases failure with
      | none => exact Option.some.inj happens ▸ inv.background_applied pending undisturbed
      | some code => exact Option.some.inj happens ▸ inv.background_failed pending undisturbed

end Call

/-- A call that is not disturbed while a node is in quarantine harms nobody. -/
theorem unlinkOwnedSocket_harmless (expected : PosixSocketIdentity) :
    ∀ s, ((cleanupSystem expected).restrict Undisturbed).Reachable s → Harmless s := by
  intro s reached
  refine (reached.invariant (I := Inv) ?_ ?_).harmless
  · rintro _ ⟨endpoint, rfl⟩
    exact inv_start expected endpoint
  · rintro s event s' inv ⟨undisturbed, happens⟩
    exact inv.step undisturbed happens

section Runs

/-- The socket of the owner, and those that two other listeners bind. -/
def ownSocket : Node := ⟨⟨1, 1, 0, 0⟩, true⟩

def otherSocket : Node := ⟨⟨1, 2, 0, 0⟩, true⟩

def thirdSocket : Node := ⟨⟨1, 3, 0, 0⟩, true⟩

/-- Another listener binds the path anew before the call moves what it holds, so that the call
puts a socket back. -/
def turningBack : List Event :=
  [.perform none 0, .deliver, .remove, .bind otherSocket, .perform none 1, .deliver,
    .perform none 0, .deliver, .perform none 0, .deliver, .perform none 0, .deliver]

theorem turningBack_harmless :
    ∃ s, ((cleanupSystem ownSocket.identity).restrict Undisturbed).Reachable s ∧
      s.phase = .ended (.returned false) ∧ s.endpoint = some (otherSocket.touch 2) ∧
      s.alone = some otherSocket ∧ Harmless s := by
  have start : ((cleanupSystem ownSocket.identity).restrict Undisturbed).Reachable
      (start ownSocket.identity (some ownSocket)) := .init ⟨_, rfl⟩
  have reached := start.follow (f := step) (fun _ _ _ taken => taken)
    (turningBack ++ [.perform none 2, .deliver])
    (by
      refine ⟨trivial, _, rfl, trivial, _, rfl, trivial, _, rfl, ⟨by decide, by decide⟩, _, rfl,
        trivial, _, rfl, nofun, _, rfl, trivial, _, rfl, ⟨nofun, nofun⟩, _, rfl, trivial, _, rfl,
        nofun, _, rfl, trivial, _, rfl, nofun, _, rfl, ⟨nofun, nofun⟩, _, rfl, nofun, _, rfl, rfl⟩)
  exact ⟨_, reached, rfl, rfl, rfl, unlinkOwnedSocket_harmless _ _ reached⟩

/-- A socket bound while another one is put back is overwritten. -/
theorem restoreQuarantine_overwrites :
    ∃ s, (cleanupSystem ownSocket.identity).Reachable s ∧ s.destroyed = [thirdSocket] ∧
      ¬Harmless s := by
  have start : ((cleanupSystem ownSocket.identity).restrict fun _ _ => True).Reachable
      (start ownSocket.identity (some ownSocket)) := .init ⟨_, rfl⟩
  have reached := start.follow (f := step) (fun _ _ _ taken => taken)
    (turningBack ++ [.bind thirdSocket, .perform none 2])
    (by
      exact ⟨trivial, _, rfl, trivial, _, rfl, trivial, _, rfl, trivial, _, rfl, trivial, _, rfl,
        trivial, _, rfl, trivial, _, rfl, trivial, _, rfl, trivial, _, rfl, trivial, _, rfl,
        trivial, _, rfl, trivial, _, rfl, trivial, _, rfl, trivial, _, rfl, rfl⟩)
  refine ⟨_, reached.of_restrict, rfl, fun harmless => ?_⟩
  exact absurd (harmless.destroyed thirdSocket (List.mem_singleton_self _)) (by decide)

end Runs

end PiToPi.EndpointCleanup
