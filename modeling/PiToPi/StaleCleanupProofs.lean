import PiToPi.StaleCleanup
import PiToPi.AgentCardRegistryProofs

/-!
A pass removes no live card. Under the card lock of a path nobody changes what the path holds, so
that the card a pass unlinks is the one it has read twice. A publication that its deadline has
given up still renames its file, and is kept under the lock only by the removal of that file.
-/
namespace PiToPi.StaleCleanup
open Transition CardRegistry CardValidation Naming
open CardLock (FileStatSnapshot)

variable {host : Host} {N : NumberHost} {roomId : RoomId} {w w' : World} {i : Nat}
  {fileName : JsString}

section Statement

/-- A writer whose rename may still take effect. -/
def WriterPhase.running (writer : WriterPhase) : Prop := writer = .writing ∨ writer = .moving

instance (writer : WriterPhase) : Decidable writer.running := inferInstanceAs (Decidable (_ ∨ _))

/-- A publication that fails or is given up removes its temporary file before it gives the card
lock back, and the file it renames differs in what identifies it from every file before it. -/
def Tidy (w : World) : Event → Prop
  | .act i outcome =>
    match w.tasks i with
    | .publication p => p.phase = .unlinkingTemporary → outcome.failed = true →
      p.temporary = true → ¬p.writer.running
    | _ => True
  | .write i failed =>
    match w.tasks i with
    | .publication p => p.writer = .moving → failed = false → p.temporary = true →
      ∀ node ∈ w.seen p.fileName, node.snapshot ≠ p.node.snapshot
    | _ => True
  | _ => True

instance (w : World) : ∀ event, Decidable (Tidy w event)
  | .act i outcome =>
    match task : w.tasks i with
    | .publication p => decidable_of_iff (p.phase = .unlinkingTemporary → outcome.failed = true →
      p.temporary = true → ¬p.writer.running) (by simp [Tidy, task])
    | .idle => isTrue (by simp [Tidy, task])
    | .pass _ => isTrue (by simp [Tidy, task])
    | .removal _ => isTrue (by simp [Tidy, task])
  | .write i failed =>
    match task : w.tasks i with
    | .publication p => decidable_of_iff (p.writer = .moving → failed = false → p.temporary = true →
      ∀ node ∈ w.seen p.fileName, node.snapshot ≠ p.node.snapshot) (by simp [Tidy, task])
    | .idle => isTrue (by simp [Tidy, task])
    | .pass _ => isTrue (by simp [Tidy, task])
    | .removal _ => isTrue (by simp [Tidy, task])
  | .cleanup .. => isTrue trivial
  | .publish .. => isTrue trivial
  | .remove .. => isTrue trivial
  | .sweep _ => isTrue trivial
  | .crash _ => isTrue trivial

variable (host N roomId) in
/-- A pass may remove the card. -/
structure Justified (u : Unlinked) : Prop where
  /-- The card at the path is the one that was inspected, also under the lock. -/
  inspected : u.node = u.expected.node
  confirmed : u.node = u.candidate.node
  /-- It is a card of the room, under the name of its runtime. -/
  parsed : ∃ source, u.node.text = some source ∧
    parseCard host N roomId u.maxCardBytes u.fileName source = some u.expected.card
  named : namesRuntime u.fileName u.expected.card = true
  /-- Its lease had ended, by the safety margin. -/
  expired : ∃ expiry, leaseExpiry host u.expected.card = some expiry ∧
    (expiry : Int) ≤ staleBefore u.now u.ttlMs ∧ expiry ≤ u.now

end Statement

section Invariant

/-- What a call of `readCandidate` knows: a file that is not the one it looked at first has
replaced it for good. -/
def ReadOk (w : World) (fileName : JsString) : Reading → Prop
  | .inspecting => True
  | .opening first => ∃ node ∈ w.seen fileName, node.snapshot = first
  | .reading first node => (∃ node ∈ w.seen fileName, node.snapshot = first) ∧
    node ∈ w.seen fileName ∧
      (node.snapshot = first ∨ ∀ found, w.cards fileName = some found → found.snapshot ≠ first)
  | .inspectingAgain first node source => (∃ node ∈ w.seen fileName, node.snapshot = first) ∧
    node ∈ w.seen fileName ∧ node.text = some source ∧
      (node.snapshot = first ∨ ∀ found, w.cards fileName = some found → found.snapshot ≠ first)

variable (host N roomId) in
/-- The candidate is what a file of the path holds. -/
structure CandidateOk (w : World) (maxCardBytes : Nat) (fileName : JsString)
    (candidate : CardCandidate) : Prop where
  seen : candidate.node ∈ w.seen fileName
  snapshot : candidate.node.snapshot = candidate.snapshot
  parsed : ∃ source, candidate.node.text = some source ∧
    parseCard host N roomId maxCardBytes fileName source = some candidate.card

variable (host N roomId) in
def PassOk (w : World) (i : Nat) (pass : Pass) : Prop :=
  match pass.phase with
  | .looping | .ended => True
  | .inspecting fileName reading => ReadOk w fileName reading
  | .locking fileName expected => CandidateOk host N roomId w pass.maxCardBytes fileName expected
  | .locked fileName expected => w.holder fileName = some i ∧
    CandidateOk host N roomId w pass.maxCardBytes fileName expected
  | .confirming fileName expected reading => w.holder fileName = some i ∧
    CandidateOk host N roomId w pass.maxCardBytes fileName expected ∧ ReadOk w fileName reading
  | .unlinking fileName expected candidate => w.holder fileName = some i ∧
    ∀ node, w.cards fileName = some node → Justified host N roomId
      ⟨fileName, node, expected, candidate, pass.now, pass.ttlMs, pass.maxCardBytes⟩
  | .releasing fileName _ => w.holder fileName = some i

structure PublicationOk (w : World) (i : Nat) (p : Publication) : Prop where
  held : p.phase ≠ .locking → p.phase ≠ .ended → w.holder p.fileName = some i
  /-- A rename that may still take effect is under the lock. -/
  pending : p.temporary = true → p.writer.running →
    p.phase = .writing ∨ p.phase = .unlinkingTemporary
  renamed : p.renamed = true → p.temporary = false ∧ p.phase ≠ .locking ∧ p.phase ≠ .opening

def RemovalOk (w : World) (i : Nat) (r : Removal) : Prop :=
  r.phase ≠ .locking → r.phase ≠ .ended → w.holder r.fileName = some i

variable (host N roomId) in
def TaskOk (w : World) (i : Nat) : Task → Prop
  | .idle => True
  | .pass pass => PassOk host N roomId w i pass
  | .publication p => PublicationOk w i p
  | .removal r => RemovalOk w i r

variable (host N roomId) in
structure Inv (w : World) : Prop where
  distinct : ∀ fileName, ∀ a ∈ w.seen fileName, ∀ b ∈ w.seen fileName,
    a.snapshot = b.snapshot → a = b
  present : ∀ fileName node, w.cards fileName = some node → node ∈ w.seen fileName
  tasks : ∀ i, TaskOk host N roomId w i (w.tasks i)
  unlinked : ∀ u ∈ w.unlinked, Justified host N roomId u

end Invariant

section Others

/-- What others may do to the paths while an operation runs: a path whose lock it holds stays as it
is, and another one gets only a file that is new. -/
structure Grows (i : Nat) (w w' : World) : Prop where
  seen : ∀ fileName, ∀ node ∈ w.seen fileName, node ∈ w'.seen fileName
  holder : ∀ fileName, w.holder fileName = some i → w'.holder fileName = some i
  kept : ∀ fileName, w.holder fileName = some i → w'.cards fileName = w.cards fileName
  cards : ∀ fileName node, w'.cards fileName = some node → w.cards fileName = some node ∨
    ∀ before ∈ w.seen fileName, before.snapshot ≠ node.snapshot

theorem Grows.refl : Grows i w w where
  seen _ _ member := member
  holder _ held := held
  kept _ _ := rfl
  cards _ _ held := .inl held

theorem grows_setTask {j : Nat} {task : Task} : Grows i w (w.setTask j task) where
  seen _ _ member := member
  holder _ held := held
  kept _ _ := rfl
  cards _ _ held := .inl held

theorem ReadOk.grows {reading : Reading} (ok : ReadOk w fileName reading) (grows : Grows i w w') :
    ReadOk w' fileName reading := by
  have known {first : FileStatSnapshot} (known : ∃ node ∈ w.seen fileName, node.snapshot = first) :
      ∃ node ∈ w'.seen fileName, node.snapshot = first := by
    obtain ⟨node, member, same⟩ := known
    exact ⟨node, grows.seen _ _ member, same⟩
  have replaced {first : FileStatSnapshot} {node : CardNode}
      (known : ∃ node ∈ w.seen fileName, node.snapshot = first)
      (replaced : node.snapshot = first ∨
        ∀ found, w.cards fileName = some found → found.snapshot ≠ first) :
      node.snapshot = first ∨ ∀ found, w'.cards fileName = some found → found.snapshot ≠ first := by
    refine replaced.imp_right fun replaced found held => ?_
    rcases grows.cards _ _ held with before | fresh
    · exact replaced found before
    · obtain ⟨node, member, rfl⟩ := known
      exact (fresh node member).symm
  cases reading with
  | inspecting => trivial
  | opening first => exact known ok
  | reading first node =>
    obtain ⟨first, member, same⟩ := ok
    exact ⟨known first, grows.seen _ _ member, replaced first same⟩
  | inspectingAgain first node source =>
    obtain ⟨first, member, text, same⟩ := ok
    exact ⟨known first, grows.seen _ _ member, text, replaced first same⟩

theorem CandidateOk.grows {maxCardBytes : Nat} {candidate : CardCandidate}
    (ok : CandidateOk host N roomId w maxCardBytes fileName candidate) (grows : Grows i w w') :
    CandidateOk host N roomId w' maxCardBytes fileName candidate :=
  ⟨grows.seen _ _ ok.seen, ok.snapshot, ok.parsed⟩

theorem PassOk.grows {pass : Pass} (ok : PassOk host N roomId w i pass) (grows : Grows i w w') :
    PassOk host N roomId w' i pass := by
  unfold PassOk at ok ⊢
  cases at' : pass.phase with
  | looping => trivial
  | ended => trivial
  | inspecting fileName reading =>
    simp only [at'] at ok ⊢
    exact ok.grows grows
  | locking fileName expected =>
    simp only [at'] at ok ⊢
    exact ok.grows grows
  | locked fileName expected =>
    simp only [at'] at ok ⊢
    exact ⟨grows.holder _ ok.1, ok.2.grows grows⟩
  | confirming fileName expected reading =>
    simp only [at'] at ok ⊢
    exact ⟨grows.holder _ ok.1, ok.2.1.grows grows, ok.2.2.grows grows⟩
  | unlinking fileName expected candidate =>
    simp only [at'] at ok ⊢
    obtain ⟨held, justified⟩ := ok
    exact ⟨grows.holder _ held, fun node present => justified node (grows.kept _ held ▸ present)⟩
  | releasing fileName thrown =>
    simp only [at'] at ok ⊢
    exact grows.holder _ ok

theorem TaskOk.grows {task : Task} (ok : TaskOk host N roomId w i task) (grows : Grows i w w') :
    TaskOk host N roomId w' i task := by
  cases task with
  | idle => trivial
  | pass pass => exact PassOk.grows ok grows
  | publication p =>
    exact ⟨fun before after => grows.holder _ (ok.held before after), ok.pending, ok.renamed⟩
  | removal r => exact fun before after => grows.holder _ (ok before after)

/-- An operation's step leaves those of others as they are. -/
theorem Inv.change {task : Task} (inv : Inv host N roomId w)
    (distinct : ∀ fileName, ∀ a ∈ w'.seen fileName, ∀ b ∈ w'.seen fileName,
      a.snapshot = b.snapshot → a = b)
    (present : ∀ fileName node, w'.cards fileName = some node → node ∈ w'.seen fileName)
    (tasks : w'.tasks = w.tasks) (grows : ∀ j, j ≠ i → Grows j w w')
    (own : TaskOk host N roomId w' i task)
    (unlinked : ∀ u ∈ w'.unlinked, Justified host N roomId u) :
    Inv host N roomId (w'.setTask i task) where
  distinct := distinct
  present := present
  tasks j := by
    by_cases same : j = i
    · subst same
      have at' : (w'.setTask j task).tasks j = task := Function.update_self ..
      rw [at']
      exact own.grows grows_setTask
    · have at' : (w'.setTask i task).tasks j = w.tasks j := by
        rw [← tasks]
        exact Function.update_of_ne same ..
      rw [at']
      exact ((inv.tasks j).grows (grows j same)).grows grows_setTask
  unlinked := unlinked

/-- A step that changes no path. -/
theorem Inv.goto {task : Task} (inv : Inv host N roomId w) (own : TaskOk host N roomId w i task) :
    Inv host N roomId (w.setTask i task) :=
  inv.change inv.distinct inv.present rfl (fun _ _ => .refl) own inv.unlinked

theorem acquire_eq_some (acquired : w.acquire i fileName = some w') :
    w.holder fileName = none ∧
      w' = { w with holder := Function.update w.holder fileName (some i) } := by
  unfold World.acquire at acquired
  split at acquired
  next free => exact ⟨free, (Option.some.inj acquired).symm⟩
  · cases acquired

/-- A step that takes the lock of a path. -/
theorem Inv.acquire {task : Task} (inv : Inv host N roomId w)
    (acquired : w.acquire i fileName = some w')
    (own : w'.holder fileName = some i → Grows i w w' → TaskOk host N roomId w' i task) :
    Inv host N roomId (w'.setTask i task) := by
  obtain ⟨free, rfl⟩ := acquire_eq_some acquired
  have grows (j : Nat) : Grows j w { w with holder := Function.update w.holder fileName (some i) } := by
    refine ⟨fun _ _ member => member, fun path held => ?_, fun _ _ => rfl, fun _ _ held => .inl held⟩
    have ne : path ≠ fileName := by
      rintro rfl
      simp [free] at held
    simpa [Function.update_of_ne ne] using held
  exact inv.change inv.distinct inv.present rfl (fun j _ => grows j)
    (own (Function.update_self ..) (grows i)) inv.unlinked

/-- A step that gives the lock of a path back. -/
theorem Inv.release {task : Task} (inv : Inv host N roomId w) (held : w.holder fileName = some i)
    (own : TaskOk host N roomId (w.release fileName) i task) :
    Inv host N roomId ((w.release fileName).setTask i task) := by
  refine inv.change inv.distinct inv.present rfl (fun j other => ?_) own inv.unlinked
  refine ⟨fun _ _ member => member, fun path holds => ?_, fun _ _ => rfl, fun _ _ held => .inl held⟩
  have ne : path ≠ fileName := by
    rintro rfl
    exact other (Option.some.inj (holds.symm.trans held))
  simpa [World.release, Function.update_of_ne ne] using holds

/-- What happens under the lock of a path leaves the paths of others as they are. -/
theorem grows_other {j : Nat} (other : j ≠ i) (held : w.holder fileName = some i)
    (holder : w'.holder = w.holder)
    (seen : ∀ path, ∀ node ∈ w.seen path, node ∈ w'.seen path)
    (elsewhere : ∀ path, path ≠ fileName → w'.cards path = w.cards path)
    (fresh : ∀ node, w'.cards fileName = some node →
      ∀ before ∈ w.seen fileName, before.snapshot ≠ node.snapshot) : Grows j w w' where
  seen := seen
  holder _ holds := holder ▸ holds
  kept path holds := by
    apply elsewhere
    rintro rfl
    exact other (Option.some.inj (holds.symm.trans held))
  cards path node present := by
    by_cases same : path = fileName
    · subst same
      exact .inr (fresh node present)
    · exact .inl (elsewhere path same ▸ present)

theorem unlink_cards (w : World) (fileName : JsString) : (w.unlink fileName).cards fileName = none :=
  Function.update_self ..

theorem unlink_cards_of_ne {path : JsString} (ne : path ≠ fileName) :
    (w.unlink fileName).cards path = w.cards path := Function.update_of_ne ne ..

theorem unlink_cards_some {path : JsString} {node : CardNode}
    (present : (w.unlink fileName).cards path = some node) : w.cards path = some node := by
  by_cases same : path = fileName
  · subst same
    simp [unlink_cards] at present
  · exact unlink_cards_of_ne same ▸ present

/-- A step that unlinks a path under its lock. -/
theorem Inv.unlink {task : Task} (inv : Inv host N roomId w) (held : w.holder fileName = some i)
    (own : TaskOk host N roomId (w.unlink fileName) i task) :
    Inv host N roomId ((w.unlink fileName).setTask i task) := by
  refine inv.change inv.distinct (fun path node present => ?_) rfl (fun j other => ?_) own
    inv.unlinked
  · exact inv.present path node (unlink_cards_some present)
  · refine grows_other other held rfl (fun _ _ member => member)
      (fun _ ne => unlink_cards_of_ne ne) fun node present => ?_
    simp [unlink_cards] at present

/-- A step that renames a new file to a path under its lock. -/
theorem Inv.rename {node : CardNode} {task : Task} (inv : Inv host N roomId w)
    (held : w.holder fileName = some i)
    (fresh : ∀ before ∈ w.seen fileName, before.snapshot ≠ node.snapshot)
    (own : TaskOk host N roomId (w.rename fileName node) i task) :
    Inv host N roomId ((w.rename fileName node).setTask i task) := by
  have seen : (w.rename fileName node).seen fileName = node :: w.seen fileName :=
    Function.update_self ..
  have cards : (w.rename fileName node).cards fileName = some node := Function.update_self ..
  have seen_other {path : JsString} (ne : path ≠ fileName) :
      (w.rename fileName node).seen path = w.seen path := Function.update_of_ne ne ..
  have cards_other {path : JsString} (ne : path ≠ fileName) :
      (w.rename fileName node).cards path = w.cards path := Function.update_of_ne ne ..
  refine inv.change (fun path a memberA b memberB same => ?_) (fun path found present => ?_) rfl
    (fun j other => ?_) own inv.unlinked
  · by_cases at' : path = fileName
    · subst at'
      rw [seen] at memberA memberB
      rcases List.mem_cons.mp memberA with rfl | before <;>
        rcases List.mem_cons.mp memberB with rfl | before'
      · rfl
      · exact absurd same.symm (fresh b before')
      · exact absurd same (fresh a before)
      · exact inv.distinct path a before b before' same
    · rw [seen_other at'] at memberA memberB
      exact inv.distinct path a memberA b memberB same
  · by_cases at' : path = fileName
    · subst at'
      rw [cards] at present
      rw [seen, Option.some.inj present]
      exact List.mem_cons_self
    · rw [cards_other at'] at present
      rw [seen_other at']
      exact inv.present path found present
  · refine grows_other other held rfl (fun path before member => ?_) (fun _ ne => cards_other ne) ?_
    · by_cases at' : path = fileName
      · subst at'
        rw [seen]
        exact List.mem_cons_of_mem _ member
      · rwa [seen_other at']
    · intro found present
      rw [cards] at present
      exact Option.some.inj present ▸ fresh

end Others

section Read

variable {reading reading' : Reading} {maxCardBytes : Nat} {failed : Bool} {candidate : CardCandidate}

/-- A call of `readCandidate` goes on. -/
theorem ReadOk.next (inv : Inv host N roomId w) (ok : ReadOk w fileName reading)
    (next : reading.next host N roomId maxCardBytes fileName (w.cards fileName) failed =
      .goesOn reading') : ReadOk w fileName reading' := by
  cases present : w.cards fileName with
  | none =>
    cases reading with
    | reading first node =>
      obtain ⟨known, member, same⟩ := ok
      simp only [Reading.next] at next
      split at next
      · cases next
      next source text =>
        split at next <;> cases next
        exact ⟨known, member, text, same⟩
    | _ => simp [Reading.next, present] at next
  | some found =>
    have member := inv.present _ _ present
    cases reading with
    | inspecting =>
      simp only [Reading.next, present] at next
      split at next <;> cases next
      exact ⟨found, member, rfl⟩
    | opening first =>
      simp only [Reading.next, present] at next
      split at next <;> cases next
      refine ⟨ok, member, or_iff_not_imp_left.mpr fun other held at' => ?_⟩
      obtain rfl : found = held := Option.some.inj (present.symm.trans at')
      exact other
    | reading first node =>
      obtain ⟨known, member, same⟩ := ok
      simp only [Reading.next] at next
      split at next
      · cases next
      next source text =>
        split at next <;> cases next
        exact ⟨known, member, text, same⟩
    | inspectingAgain first node source =>
      simp only [Reading.next, present] at next
      split at next <;> cases next

/-- A candidate that `readCandidate` returns is what the path holds. -/
theorem ReadOk.returns (inv : Inv host N roomId w) (ok : ReadOk w fileName reading)
    (next : reading.next host N roomId maxCardBytes fileName (w.cards fileName) failed =
      .returns (some candidate)) :
    CandidateOk host N roomId w maxCardBytes fileName candidate ∧
      w.cards fileName = some candidate.node := by
  cases reading with
  | inspecting =>
    simp only [Reading.next] at next
    split at next
    · cases next
    · split at next <;> cases next
  | opening first =>
    simp only [Reading.next] at next
    split at next
    · cases next
    · split at next <;> cases next
  | reading first node =>
    simp only [Reading.next] at next
    split at next
    · cases next
    · split at next <;> cases next
  | inspectingAgain first node source =>
    obtain ⟨-, member, text, same⟩ := ok
    simp only [Reading.next] at next
    split at next
    · cases next
    next found present =>
      split at next
      · cases next
      next unchanged =>
        obtain ⟨card, parsed, rfl⟩ := Option.map_eq_some_iff.mp (ReadResult.returns.inj next)
        have first_eq : first = found.snapshot := by
          simp only [Bool.or_eq_true, not_or, bne_iff_ne, ne_eq, not_not] at unchanged
          exact unchanged.2
        have node_eq : node.snapshot = found.snapshot := by
          rcases same with same | replaced
          · exact same.trans first_eq
          · exact absurd first_eq.symm (replaced found present)
        refine ⟨⟨member, node_eq, source, text, parsed⟩, ?_⟩
        rw [present, inv.distinct _ _ (inv.present _ _ present) _ member node_eq.symm]

end Read

section Steps

variable {pass : Pass} {p : Publication} {r : Removal} {outcome : Outcome}

theorem isStale_iff {now ttlMs : Nat} {card : AgentCard} : isStale host now ttlMs card = true ↔
    ∃ expiry, leaseExpiry host card = some expiry ∧
      (expiry : Int) ≤ staleBefore now ttlMs ∧ expiry ≤ now := by
  simp [isStale, Option.any_eq_true]

/-- The second inspection finds what the first one has found. -/
theorem confirmed_ok {expected candidate : CardCandidate} (inv : Inv host N roomId w)
    (held : w.holder fileName = some i)
    (inspected : CandidateOk host N roomId w pass.maxCardBytes fileName expected)
    (confirmed : CandidateOk host N roomId w pass.maxCardBytes fileName candidate)
    (present : w.cards fileName = some candidate.node) :
    TaskOk host N roomId w i (.pass { pass with
      phase := World.confirmed host pass fileName expected candidate }) := by
  unfold World.confirmed
  split
  next justified =>
    simp only [Bool.and_eq_true] at justified
    obtain ⟨⟨⟨same, -⟩, named⟩, stale⟩ := justified
    have snapshot : candidate.snapshot = expected.snapshot := by
      unfold sameCandidate at same
      simp only [Bool.and_eq_true, beq_iff_eq] at same
      exact same.1.1.1.1
    have node : candidate.node = expected.node := by
      refine inv.distinct _ _ confirmed.seen _ inspected.seen ?_
      rw [confirmed.snapshot, inspected.snapshot, snapshot]
    obtain ⟨source, text, parsed⟩ := inspected.parsed
    have card : candidate.card = expected.card := by
      obtain ⟨source', text', parsed'⟩ := confirmed.parsed
      rw [node, text] at text'
      cases text'
      exact Option.some.inj (parsed'.symm.trans parsed)
    refine ⟨held, fun found at' => ?_⟩
    obtain rfl : candidate.node = found := Option.some.inj (present.symm.trans at')
    refine ⟨node, rfl, ⟨source, node ▸ text, parsed⟩, card ▸ named, ?_⟩
    obtain ⟨expiry, expires, margin⟩ := isStale_iff.mp stale
    exact ⟨expiry, card ▸ expires, margin⟩
  · exact held

/-- Every call of a pass keeps the invariant. -/
theorem Inv.actPass (inv : Inv host N roomId w) (ok : PassOk host N roomId w i pass)
    (acted : w.actPass host N roomId i pass outcome = some w') : Inv host N roomId w' := by
  unfold PassOk at ok
  cases at' : pass.phase with
  | looping =>
    simp only [World.actPass, at'] at acted
    split at acted
    · exact Option.some.inj acted ▸ inv.goto trivial
    · split at acted
      · exact Option.some.inj acted ▸ inv.goto trivial
      · exact Option.some.inj acted ▸ inv.goto trivial
  | inspecting fileName reading =>
    simp only [at'] at ok
    simp only [World.actPass, at'] at acted
    split at acted
    next goesOn => exact Option.some.inj acted ▸ inv.goto (ok.next inv goesOn)
    next => exact Option.some.inj acted ▸ inv.goto trivial
    next candidate returns =>
      refine Option.some.inj acted ▸ inv.goto ?_
      unfold World.inspected
      split
      · exact (ok.returns inv returns).1
      · trivial
  | locking fileName expected =>
    simp only [at'] at ok
    simp only [World.actPass, at'] at acted
    split at acted
    · exact Option.some.inj acted ▸ inv.goto trivial
    split at acted
    · exact Option.some.inj acted ▸ inv.goto trivial
    obtain ⟨locked, acquired, same⟩ := Option.bind_eq_some_iff.mp acted
    exact Option.some.inj same ▸ inv.acquire acquired fun held grows => ⟨held, ok.grows grows⟩
  | locked fileName expected =>
    simp only [at'] at ok
    simp only [World.actPass, at'] at acted
    split at acted
    · exact Option.some.inj acted ▸ inv.goto ok.1
    · exact Option.some.inj acted ▸ inv.goto ⟨ok.1, ok.2, trivial⟩
  | confirming fileName expected reading =>
    simp only [at'] at ok
    obtain ⟨held, inspected, ok⟩ := ok
    simp only [World.actPass, at'] at acted
    split at acted
    next goesOn => exact Option.some.inj acted ▸ inv.goto ⟨held, inspected, ok.next inv goesOn⟩
    next => exact Option.some.inj acted ▸ inv.goto held
    next candidate returns =>
      obtain ⟨confirmed, present⟩ := ok.returns inv returns
      exact Option.some.inj acted ▸ inv.goto (confirmed_ok inv held inspected confirmed present)
  | unlinking fileName expected candidate =>
    simp only [at'] at ok
    obtain ⟨held, justified⟩ := ok
    simp only [World.actPass, at'] at acted
    split at acted
    · exact Option.some.inj acted ▸ inv.goto held
    refine Option.some.inj acted ▸ ?_
    unfold World.unlinkStale
    split
    next => exact inv.goto held
    next node present =>
      have unlinked : Inv host N roomId { w with unlinked :=
          ⟨fileName, node, expected, candidate, pass.now, pass.ttlMs, pass.maxCardBytes⟩ ::
            w.unlinked } := by
        refine ⟨inv.distinct, inv.present, fun j => (inv.tasks j).grows ?_, ?_⟩
        · exact ⟨fun _ _ member => member, fun _ held => held, fun _ _ => rfl, fun _ _ => .inl⟩
        · rintro u member
          rcases List.mem_cons.mp member with rfl | before
          · exact justified node present
          · exact inv.unlinked u before
      exact unlinked.unlink held held
  | releasing fileName thrown =>
    simp only [at'] at ok
    simp only [World.actPass, at'] at acted
    refine Option.some.inj acted ▸ inv.release ok ?_
    cases thrown <;> trivial
  | ended => simp [World.actPass, at'] at acted

/-- Every call of a publication keeps the invariant. -/
theorem Inv.actPublication (inv : Inv host N roomId w) (ok : PublicationOk w i p)
    (tidy : p.phase = .unlinkingTemporary → outcome.failed = true → p.temporary = true →
      ¬p.writer.running)
    (acted : w.actPublication i p outcome = some w') : Inv host N roomId w' := by
  have given (writer : p.writer.running) (exists' : p.temporary = true)
      (other : ¬(p.phase = .writing ∨ p.phase = .unlinkingTemporary)) : False :=
    other (ok.pending exists' writer)
  cases at' : p.phase with
  | locking =>
    have unmoved : p.renamed = false := by
      cases renamed : p.renamed with
      | false => rfl
      | true => exact absurd at' (ok.renamed renamed).2.1
    simp only [World.actPublication, at'] at acted
    split at acted
    · refine Option.some.inj acted ▸ inv.goto ⟨nofun, fun exists' writer => ?_, by simp [unmoved]⟩
      exact (given writer exists' (by simp [at'])).elim
    · obtain ⟨locked, acquired, same⟩ := Option.bind_eq_some_iff.mp acted
      refine Option.some.inj same ▸ inv.acquire acquired fun held _ => ?_
      refine ⟨fun _ _ => held, fun exists' writer => ?_, by simp [unmoved]⟩
      exact (given writer exists' (by simp [at'])).elim
  | opening =>
    have held := ok.held (by simp [at']) (by simp [at'])
    have unmoved : p.renamed = false := by
      cases renamed : p.renamed with
      | false => rfl
      | true => exact absurd at' (ok.renamed renamed).2.2
    simp only [World.actPublication, at'] at acted
    split at acted
    · refine Option.some.inj acted ▸ inv.goto ⟨fun _ _ => held, fun exists' writer => ?_, by simp [unmoved]⟩
      exact (given writer exists' (by simp [at'])).elim
    · refine Option.some.inj acted ▸ inv.goto ⟨fun _ _ => held, fun _ _ => .inl rfl, by simp [unmoved]⟩
  | writing =>
    have held := ok.held (by simp [at']) (by simp [at'])
    have moved (renamed : p.renamed = true) : p.temporary = false := (ok.renamed renamed).1
    have gives (up : w.setTask i (.publication { p with phase := World.abandoned p }) = w') :
        Inv host N roomId w' := by
      refine up ▸ inv.goto ?_
      unfold World.abandoned
      split
      next renamed =>
        refine ⟨fun _ _ => held, fun exists' _ => ?_, fun _ => ⟨moved renamed, nofun, nofun⟩⟩
        simp [moved renamed] at exists'
      next unmoved =>
        exact ⟨fun _ _ => held, fun _ _ => .inr rfl, fun renamed => absurd renamed unmoved⟩
    simp only [World.actPublication, at'] at acted
    split at acted
    next done =>
      refine Option.some.inj acted ▸ inv.goto
        ⟨fun _ _ => held, fun _ writer => ?_, fun renamed => ⟨moved renamed, nofun, nofun⟩⟩
      simp [WriterPhase.running, done] at writer
    · exact gives (Option.some.inj acted)
    · split at acted
      · exact gives (Option.some.inj acted)
      · cases acted
  | unlinkingTemporary =>
    have held := ok.held (by simp [at']) (by simp [at'])
    have moved (renamed : p.renamed = true) : p.temporary = false := (ok.renamed renamed).1
    simp only [World.actPublication, at'] at acted
    split at acted
    next failed =>
      refine Option.some.inj acted ▸ inv.goto ⟨fun _ _ => held, fun exists' writer => ?_,
        fun renamed => ⟨moved renamed, nofun, nofun⟩⟩
      exact absurd writer (tidy at' failed exists')
    · exact Option.some.inj acted ▸ inv.goto ⟨fun _ _ => held, nofun, fun _ => ⟨rfl, nofun, nofun⟩⟩
  | releasing =>
    have held := ok.held (by simp [at']) (by simp [at'])
    simp only [World.actPublication, at'] at acted
    refine Option.some.inj acted ▸ inv.release held ⟨nofun, fun exists' writer => ?_, fun renamed =>
      ⟨(ok.renamed renamed).1, nofun, nofun⟩⟩
    exact (given writer exists' (by simp [at'])).elim
  | ended => simp [World.actPublication, at'] at acted

/-- Every call of a publication's writer keeps the invariant. -/
theorem Inv.write {failed : Bool} (inv : Inv host N roomId w) (ok : PublicationOk w i p)
    (tidy : p.writer = .moving → failed = false → p.temporary = true →
      ∀ node ∈ w.seen p.fileName, node.snapshot ≠ p.node.snapshot)
    (written : w.write i p failed = some w') : Inv host N roomId w' := by
  have stops : PublicationOk w i { p with writer := .failed } :=
    ⟨ok.held, fun _ writer => by simp [WriterPhase.running] at writer, ok.renamed⟩
  cases at' : p.writer with
  | idle => simp [World.write, at'] at written
  | writing =>
    simp only [World.write, at'] at written
    split at written
    · exact Option.some.inj written ▸ inv.goto stops
    · refine Option.some.inj written ▸ inv.goto ⟨ok.held, fun exists' _ => ?_, ok.renamed⟩
      exact ok.pending exists' (.inl at')
  | moving =>
    simp only [World.write, at'] at written
    split at written
    · exact Option.some.inj written ▸ inv.goto stops
    next renames =>
      obtain ⟨succeeds, exists'⟩ : failed = false ∧ p.temporary = true := by simpa using renames
      have where' := ok.pending exists' (.inr at')
      have held : w.holder p.fileName = some i := by
        apply ok.held <;> rcases where' with at' | at' <;> simp [at']
      refine Option.some.inj written ▸ inv.rename held (tidy at' succeeds exists') ?_
      refine ⟨fun _ _ => held, nofun, fun _ => ⟨rfl, ?_, ?_⟩⟩
      · rcases where' with at' | at' <;> simp [at']
      · rcases where' with at' | at' <;> simp [at']
  | protecting =>
    simp only [World.write, at'] at written
    refine Option.some.inj written ▸ inv.goto ⟨ok.held, fun _ writer => ?_, ok.renamed⟩
    cases failed <;> simp [WriterPhase.running] at writer
  | done => simp [World.write, at'] at written
  | failed => simp [World.write, at'] at written

/-- Every call of a removal keeps the invariant. -/
theorem Inv.actRemoval (inv : Inv host N roomId w) (ok : RemovalOk w i r)
    (acted : w.actRemoval host N roomId i r outcome = some w') : Inv host N roomId w' := by
  cases at' : r.phase with
  | locking =>
    simp only [World.actRemoval, at'] at acted
    split at acted
    · exact Option.some.inj acted ▸ inv.goto fun _ ends => absurd rfl ends
    · obtain ⟨locked, acquired, same⟩ := Option.bind_eq_some_iff.mp acted
      exact Option.some.inj same ▸ inv.acquire acquired fun held _ _ _ => held
  | reading reading =>
    have held := ok (by simp [at']) (by simp [at'])
    simp only [World.actRemoval, at'] at acted
    split at acted <;> exact Option.some.inj acted ▸ inv.goto fun _ _ => held
  | unlinking =>
    have held := ok (by simp [at']) (by simp [at'])
    simp only [World.actRemoval, at'] at acted
    split at acted
    · exact Option.some.inj acted ▸ inv.goto fun _ _ => held
    · exact Option.some.inj acted ▸ inv.unlink held fun _ _ => held
  | releasing =>
    have held := ok (by simp [at']) (by simp [at'])
    simp only [World.actRemoval, at'] at acted
    exact Option.some.inj acted ▸ inv.release held fun _ ends => absurd rfl ends
  | ended => simp [World.actRemoval, at'] at acted

theorem Inv.crash (inv : Inv host N roomId w) (i : Nat) : Inv host N roomId (w.crash i) := by
  let freed : World :=
    { w with holder := fun path => if w.holder path = some i then none else w.holder path }
  show Inv host N roomId (freed.setTask i .idle)
  refine inv.change inv.distinct inv.present rfl (fun j other => ?_) trivial inv.unlinked
  refine ⟨fun _ _ member => member, fun path held => ?_, fun _ _ => rfl, fun _ _ => .inl⟩
  have ne : w.holder path ≠ some i := by
    rw [held]
    exact fun same => other (Option.some.inj same)
  exact (if_neg ne).trans held

theorem Inv.begin {task : Task} (inv : Inv host N roomId w)
    (begun : w.begin i task = some w') (own : TaskOk host N roomId w i task) :
    Inv host N roomId w' := by
  unfold World.begin at begun
  split at begun
  · exact Option.some.inj begun ▸ inv.goto own
  · cases begun

/-- Every event keeps the invariant, if publications are tidy. -/
theorem Inv.step {event : Event} (inv : Inv host N roomId w) (tidy : Tidy w event)
    (happens : w.step host N roomId event = some w') : Inv host N roomId w' := by
  cases event with
  | cleanup i now ttlMs maxCardBytes runtimeInstanceId names => exact inv.begin happens (by exact trivial)
  | publish i fileName node =>
    refine inv.begin happens ⟨fun ne => absurd rfl ne, fun exists' => ?_, fun renamed => ?_⟩
    · cases exists'
    · cases renamed
  | remove i fileName maxCardBytes expectedSessionId expectedKind expectedAddress =>
    exact inv.begin happens (by exact fun ne => absurd rfl ne)
  | act i outcome =>
    have ok := inv.tasks i
    simp only [World.step] at happens
    simp only [Tidy] at tidy
    cases task : w.tasks i with
    | idle => simp [task] at happens
    | pass pass =>
      simp only [task] at happens ok
      exact inv.actPass ok happens
    | publication p =>
      simp only [task] at happens ok tidy
      exact inv.actPublication ok tidy happens
    | removal r =>
      simp only [task] at happens ok
      exact inv.actRemoval ok happens
  | write i failed =>
    have ok := inv.tasks i
    simp only [World.step] at happens
    simp only [Tidy] at tidy
    cases task : w.tasks i with
    | publication p =>
      simp only [task] at happens ok tidy
      exact inv.write ok tidy happens
    | _ => simp [task] at happens
  | sweep i =>
    have ok := inv.tasks i
    simp only [World.step] at happens
    cases task : w.tasks i with
    | publication p =>
      simp only [task] at happens ok
      refine Option.some.inj happens ▸ inv.goto ⟨ok.held, fun exists' => ?_, fun renamed => ?_⟩
      · cases exists'
      · exact ⟨rfl, (ok.renamed renamed).2⟩
    | _ => simp [task] at happens
  | crash i => exact Option.some.inj happens ▸ inv.crash i

end Steps

theorem inv_start (cards : JsString → Option CardNode) : Inv host N roomId (World.start cards) where
  distinct fileName a memberA b memberB _ := by
    have onlyA : cards fileName = some a := by simpa [World.start] using memberA
    have onlyB : cards fileName = some b := by simpa [World.start] using memberB
    exact Option.some.inj (onlyA.symm.trans onlyB)
  present fileName node present := by
    have only : cards fileName = some node := present
    simp [World.start, only]
  tasks _ := trivial
  unlinked := by simp [World.start]

/-- Where publications are tidy, a pass removes only the stale card that it has inspected. -/
theorem cleanupAgentCardState_justified (host : Host) (N : NumberHost) (roomId : RoomId) :
    ∀ w, ((cleanupSystem host N roomId).restrict Tidy).Reachable w →
      ∀ u ∈ w.unlinked, Justified host N roomId u := by
  intro w reached
  refine (reached.invariant (I := Inv host N roomId) ?_ ?_).unlinked
  · rintro _ ⟨cards, rfl⟩
    exact inv_start cards
  · rintro w event w' inv ⟨tidy, happens⟩
    exact inv.step tidy happens

section Runs

open Lookup (someRoom)

/-- The file of the runtime "Alpha" after a publication. -/
def publishedAt (clock : ℚ) (inode : Nat) : CardNode :=
  let text := (publishCurrentCard isoHost (startedRegistry "Alpha") clock ∅).toOption.bind
    fun (_, directory) => (directory.get? (cardFileName (startedRegistry "Alpha").runtimeId.val)).bind
      CardFile.text
  { text, snapshot := ⟨1, inode, (text.map JsString.byteLength).getD 0, clock.floor.toNat⟩,
    isPrivate := true }

/-- A publication and its renewal an hour later, when the lease has ended long ago. -/
def staleNode : CardNode := publishedAt 1767225600000 1

def renewedNode : CardNode := publishedAt 1767229200000 2

def alphaFile : JsString := cardFileName (startedRegistry "Alpha").runtimeId.val

def staleDirectory (fileName : JsString) : Option CardNode :=
  if fileName = alphaFile then some staleNode else none

def succeeds : Outcome := ⟨false, false⟩

/-- A renewal is given up at its deadline while its rename is under way, and then a pass that has
inspected the old card goes on. -/
def givenUp (unlinkFails : Bool) : List Event :=
  .cleanup 1 1767229200000 60000 maxAgentCardSizeBytes none [alphaFile] ::
    List.replicate 5 (.act 1 succeeds) ++
    [.publish 0 alphaFile renewedNode, .act 0 succeeds, .act 0 succeeds, .write 0 false,
      .act 0 ⟨false, true⟩, .act 0 ⟨unlinkFails, false⟩, .act 0 succeeds] ++
    List.replicate 6 (.act 1 succeeds) ++ [.write 0 false, .act 1 succeeds]

/-- What a pass has unlinked, and what it has inspected. -/
def unlinkedInodes (w : World) : List (Nat × Nat) :=
  w.unlinked.map fun u => (u.node.snapshot.inode, u.expected.node.snapshot.inode)

theorem givenUp_justified : ∃ w, ((cleanupSystem isoHost exactHost someRoom).restrict Tidy).Reachable w ∧
    unlinkedInodes w = [(1, 1)] ∧ ∀ u ∈ w.unlinked, Justified isoHost exactHost someRoom u := by
  have follows : System.followsTo Tidy (fun (w : World) event => w.step isoHost exactHost someRoom event)
      (fun w => unlinkedInodes w == [(1, 1)]) (World.start staleDirectory) (givenUp false) = true := by
    decide +kernel
  obtain ⟨w, follows, removed⟩ := System.follow_of_followsTo follows
  have start : ((cleanupSystem isoHost exactHost someRoom).restrict Tidy).Reachable
      (World.start staleDirectory) := .init ⟨_, rfl⟩
  have reached := start.follow (fun _ _ _ taken => taken) _ follows
  exact ⟨w, reached, beq_iff_eq.mp removed, cleanupAgentCardState_justified _ _ _ w reached⟩

/-- A pass unlinks the card that a publication renames after it has given the lock back. -/
theorem givenUp_removesRenewed : ∃ w, (cleanupSystem isoHost exactHost someRoom).Reachable w ∧
    unlinkedInodes w = [(2, 1)] ∧ ¬∀ u ∈ w.unlinked, Justified isoHost exactHost someRoom u := by
  have follows : System.followsTo (fun _ _ => True)
      (fun (w : World) event => w.step isoHost exactHost someRoom event)
      (fun w => unlinkedInodes w == [(2, 1)]) (World.start staleDirectory) (givenUp true) = true := by
    decide +kernel
  obtain ⟨w, follows, removed⟩ := System.follow_of_followsTo follows
  have start : ((cleanupSystem isoHost exactHost someRoom).restrict fun _ _ => True).Reachable
      (World.start staleDirectory) := .init ⟨_, rfl⟩
  have reached := start.follow (fun _ _ _ taken => taken) _ follows
  refine ⟨w, reached.of_restrict, beq_iff_eq.mp removed, fun justified => ?_⟩
  obtain ⟨u, member, inodes⟩ : ∃ u ∈ w.unlinked,
      (u.node.snapshot.inode, u.expected.node.snapshot.inode) = (2, 1) := by
    apply List.mem_map.mp
    rw [show w.unlinked.map _ = _ from beq_iff_eq.mp removed]
    exact List.mem_singleton_self _
  obtain ⟨renewed, inspected⟩ := Prod.mk.inj inodes
  rw [(justified u member).inspected, inspected] at renewed
  cases renewed

end Runs

end PiToPi.StaleCleanup
