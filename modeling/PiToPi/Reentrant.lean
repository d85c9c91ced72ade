import PiToPi.Transition

/-!
Synchronous code that calls back into its host. Between the call and its
return the host may start any operation on the same store, and so on inside
that one: a call stack of half-finished operations over one state.

`Sync` is the code: it finishes, or it hands control to a callback and waits
for the answer. `Machine` is the stack machine that runs a set of operations
under every such nesting; one of its steps is a *segment*, the code between
two points where the host can intervene. Loops whose body calls back have no
bound on their length, so an operation may end by asking to go on at a loop
label.

`Keeps` is the rely–guarantee reading of a piece of code: each of its segments
keeps the invariant and meets its operation's guarantee, provided that the
host's own segments met theirs in between. `Machine.sound` turns it into a
statement about every run.
-/
namespace Reentrant
open Relation Transition

/-- Code over a store `σ` that may call back to `γ`; a callback answers a
boolean, which most callers ignore, or throws. -/
inductive Sync (σ γ α : Type) where
  | done (state : σ) (result : α)
  | call (callback : γ) (state : σ) (resume : σ → Option Bool → Sync σ γ α)

namespace Sync

variable {σ γ α β : Type}

/-- Go on with `next` once the code is done. -/
def bind : Sync σ γ α → (σ → α → Sync σ γ β) → Sync σ γ β
  | .done s a, next => next s a
  | .call g s resume, next => .call g s fun s' b => (resume s' b).bind next

/-- Call back and return. -/
def callback (g : γ) (s : σ) : Sync σ γ Unit := .call g s fun s' _ => .done s' ()

/-- Run with no host code behind the callbacks: each returns `false` at once. -/
def run : Sync σ γ α → σ × α
  | .done s a => (s, a)
  | .call _ s resume => (resume s (some false)).run

@[simp] theorem bind_done (s : σ) (a : α) (next : σ → α → Sync σ γ β) :
    (done s a).bind next = next s a := rfl

@[simp] theorem run_done (s : σ) (a : α) : (done s a : Sync σ γ α).run = (s, a) := rfl

@[simp] theorem run_call (g : γ) (s : σ) (resume : σ → Option Bool → Sync σ γ α) :
    (call g s resume).run = (resume s (some false)).run := rfl

@[simp] theorem run_callback (g : γ) (s : σ) : (callback g s).run = (s, ()) := rfl

@[simp] theorem run_bind (code : Sync σ γ α) (next : σ → α → Sync σ γ β) :
    (code.bind next).run = (next code.run.1 code.run.2).run := by
  induction code with
  | done s a => rfl
  | call g s resume ih => exact ih s (some false)

/-- Each segment of the code started in `s₀` ends in a state that keeps `I` and
is related to the segment's start by `G`; at a callback the host may move the
store along `rely`. The last segment meets `Q`. -/
def Keeps (I : σ → Prop) (G rely : σ → σ → Prop) (Q : σ → σ → α → Prop) :
    Sync σ γ α → σ → Prop
  | .done s a, s₀ => Q s₀ s a
  | .call _ s resume, s₀ =>
    G s₀ s ∧ I s ∧ ∀ s' b, I s' → rely s s' → Keeps I G rely Q (resume s' b) s'

section Rules

variable {I : σ → Prop} {G rely : σ → σ → Prop}

theorem keeps_done {Q : σ → σ → α → Prop} (post : Q s₀ s a) :
    Keeps I G rely Q (done s a : Sync σ γ α) s₀ := post

theorem keeps_call {Q : σ → σ → α → Prop} {resume : σ → Option Bool → Sync σ γ α} (moved : G s₀ s)
    (kept : I s) (rest : ∀ s' b, I s' → rely s s' → Keeps I G rely Q (resume s' b) s') :
    Keeps I G rely Q (call g s resume) s₀ := ⟨moved, kept, rest⟩

/-- Sequencing: what the first part establishes about its last segment is what
the second part may start from. -/
theorem Keeps.bind {Q : σ → σ → α → Prop} {R : σ → σ → β → Prop} {code : Sync σ γ α}
    {next : σ → α → Sync σ γ β} (first : code.Keeps I G rely Q s₀) (start : I s₀)
    (second : ∀ s₁ s a, I s₁ → Q s₁ s a → (next s a).Keeps I G rely R s₁) :
    (code.bind next).Keeps I G rely R s₀ := by
  induction code generalizing s₀ with
  | done s a => exact second s₀ s a start first
  | call g s resume ih =>
    obtain ⟨moved, kept, rest⟩ := first
    exact ⟨moved, kept, fun s' b kept' relied => ih s' b (rest s' b kept' relied) kept'⟩

/-- A weaker end; the store was in order where its last segment began. -/
theorem Keeps.weaken {Q R : σ → σ → α → Prop} {code : Sync σ γ α}
    (keeps : code.Keeps I G rely Q s₀) (start : I s₀)
    (weaker : ∀ s₁ s a, I s₁ → Q s₁ s a → R s₁ s a) : code.Keeps I G rely R s₀ := by
  induction code generalizing s₀ with
  | done s a => exact weaker s₀ s a start keeps
  | call g s resume ih =>
    obtain ⟨moved, kept, rest⟩ := keeps
    exact ⟨moved, kept, fun s' b kept' relied => ih s' b (rest s' b kept' relied) kept'⟩

theorem Keeps.imp {Q R : σ → σ → α → Prop} {code : Sync σ γ α}
    (keeps : code.Keeps I G rely Q s₀) (weaker : ∀ s₁ s a, Q s₁ s a → R s₁ s a) :
    code.Keeps I G rely R s₀ := by
  induction code generalizing s₀ with
  | done s a => exact weaker s₀ s a keeps
  | call g s resume ih =>
    obtain ⟨moved, kept, rest⟩ := keeps
    exact ⟨moved, kept, fun s' b kept' relied => ih s' b (rest s' b kept' relied)⟩

/-- What holds where the code starts, inside a segment, and survives every move, holds in the end. -/
theorem Keeps.stable {Q : σ → σ → α → Prop} {P : σ → Prop} {code : Sync σ γ α}
    (keeps : code.Keeps I G rely Q s₀) (inside : code.Keeps I G rely Q s) (holds : P s)
    (moved : ∀ s s', G s s' → P s → P s') (relied : ∀ s s', rely s s' → P s → P s')
    (ends : ∀ s s' a, Q s s' a → P s → P s') :
    code.Keeps I G rely (fun s₁ s' a => Q s₁ s' a ∧ P s') s₀ := by
  induction code generalizing s₀ s with
  | done s' a => exact ⟨keeps, ends s s' a inside holds⟩
  | call g s' resume ih =>
    refine ⟨keeps.1, keeps.2.1, fun s'' b kept away => ?_⟩
    have holds : P s'' := relied s' s'' away (moved s s' inside.1 holds)
    exact ih s'' b (keeps.2.2 s'' b kept away) (inside.2.2 s'' b kept away) holds

/-- A callback followed by nothing. -/
theorem keeps_callback {Q : σ → σ → Unit → Prop} (moved : G s₀ s) (kept : I s)
    (post : ∀ s', I s' → rely s s' → Q s' s' ()) :
    (callback g s : Sync σ γ Unit).Keeps I G rely Q s₀ :=
  ⟨moved, kept, fun s' _ kept' relied => post s' kept' relied⟩

end Rules
end Sync

/-- Code that takes the store it runs on and may throw. -/
def Code (σ γ ε α : Type) := σ → Sync σ γ (Except ε α)

namespace Code

variable {σ γ ε α β : Type}

instance : Monad (Code σ γ ε) where
  pure a := fun s => .done s (.ok a)
  bind code next := fun s => (code s).bind fun s result =>
    match result with
    | .ok a => next a s
    | .error e => .done s (.error e)

/-- Leave with an exception. -/
def throw (e : ε) : Code σ γ ε α := fun s => .done s (.error e)

/-- The store as it is. -/
def read : Code σ γ ε σ := fun s => .done s (.ok s)

/-- Change the store. -/
def modify (f : σ → σ) : Code σ γ ε Unit := fun s => .done (f s) (.ok ())

/-- Call back; the answer is `none` when the callback threw. -/
def call (g : γ) : Code σ γ ε (Option Bool) := fun s =>
  .call g s fun s' answer => .done s' (.ok answer)

/-- Call back and ignore the outcome. -/
def notify (g : γ) : Code σ γ ε Unit := fun s => .call g s fun s' _ => .done s' (.ok ())

/-- A computation that does not touch the store. -/
def ofExcept (result : Except ε α) : Code σ γ ε α := fun s => .done s result

theorem pure_apply (a : α) (s : σ) : (pure a : Code σ γ ε α) s = .done s (.ok a) := rfl

theorem bind_apply (code : Code σ γ ε α) (next : α → Code σ γ ε β) (s : σ) :
    (code >>= next) s = (code s).bind fun s result =>
      match result with
      | .ok a => next a s
      | .error e => .done s (.error e) := rfl

theorem throw_apply (e : ε) (s : σ) : (throw e : Code σ γ ε α) s = .done s (.error e) := rfl

theorem read_bind (next : σ → Code σ γ ε β) (s : σ) : (read >>= next) s = next s s := rfl

theorem modify_apply (f : σ → σ) (s : σ) :
    (modify f : Code σ γ ε Unit) s = .done (f s) (.ok ()) := rfl

theorem modify_bind (f : σ → σ) (next : Unit → Code σ γ ε β) (s : σ) :
    (modify f >>= next) s = next () (f s) := rfl

theorem ofExcept_ok_bind (a : α) (next : α → Code σ γ ε β) (s : σ) :
    (ofExcept (.ok a) >>= next) s = next a s := rfl

theorem ofExcept_error_bind (e : ε) (next : α → Code σ γ ε β) (s : σ) :
    (ofExcept (.error e) >>= next) s = .done s (.error e) := rfl

theorem call_bind (g : γ) (next : Option Bool → Code σ γ ε β) (s : σ) :
    (call g >>= next) s = .call g s fun s' answer => next answer s' := rfl

section Rules

variable {I : σ → Prop} {G rely : σ → σ → Prop}

/-- A callback ends the segment; the code goes on wherever the host leaves it. -/
theorem keeps_notify_bind {Q : σ → σ → Except ε β → Prop} {next : Unit → Code σ γ ε β}
    (moved : G s₀ s) (kept : I s)
    (rest : ∀ s', I s' → rely s s' → (next () s').Keeps I G rely Q s') :
    ((notify g >>= next) s).Keeps I G rely Q s₀ :=
  ⟨moved, kept, fun s' _ kept' relied => rest s' kept' relied⟩

theorem keeps_notify {Q : σ → σ → Except ε Unit → Prop} (moved : G s₀ s) (kept : I s)
    (rest : ∀ s', I s' → rely s s' → Q s' s' (.ok ())) :
    (notify g s : Sync σ γ (Except ε Unit)).Keeps I G rely Q s₀ :=
  ⟨moved, kept, fun s' _ kept' relied => rest s' kept' relied⟩

/-- Sequencing of code that may throw. -/
theorem keeps_bind {Q : σ → σ → Except ε α → Prop} {R : σ → σ → Except ε β → Prop}
    {code : Code σ γ ε α} {next : α → Code σ γ ε β} (first : (code s).Keeps I G rely Q s₀)
    (start : I s₀)
    (second : ∀ s₁ s a, I s₁ → Q s₁ s (.ok a) → (next a s).Keeps I G rely R s₁)
    (thrown : ∀ s₁ s e, I s₁ → Q s₁ s (.error e) → R s₁ s (.error e)) :
    ((code >>= next) s).Keeps I G rely R s₀ := by
  refine Sync.Keeps.bind first start fun s₁ s result kept post => ?_
  cases result with
  | ok a => exact second s₁ s a kept post
  | error e => exact thrown s₁ s e kept post

end Rules

/-- The code without host code behind its callbacks. -/
def run (code : Code σ γ ε α) (s : σ) : σ × Except ε α := (code s).run

theorem run_bind (code : Code σ γ ε α) (next : α → Code σ γ ε β) (s : σ) :
    (code >>= next).run s = match code.run s with
      | (s, .ok a) => (next a).run s
      | (s, .error e) => (s, .error e) := by
  unfold run
  rw [bind_apply, Sync.run_bind]
  obtain ⟨s', result⟩ := (code s).run
  cases result with
  | ok a => rfl
  | error e => rfl

end Code

/-- A set of operations `ω` over a store, with the loop labels `L` they use. -/
structure Machine (σ γ ω L : Type) where
  /-- The code of an operation called by the host. -/
  start : ω → σ → Sync σ γ (Option L)
  /-- One round of a loop: `some l` asks for another round at `l`. -/
  round : L → σ → Sync σ γ (Option L)

/-- A half-finished operation. -/
inductive Frame (σ γ ω L : Type) where
  /-- Waiting for the host to return from a callback. -/
  | waiting (op : ω) (callback : γ) (resume : σ → Option Bool → Sync σ γ (Option L))
  /-- About to enter another round of a loop. -/
  | looping (op : ω) (label : L)

/-- The operation a frame belongs to. -/
def Frame.op {σ γ ω L : Type} : Frame σ γ ω L → ω
  | .waiting op _ _ => op
  | .looping op _ => op

/-- The store and the operations in progress, innermost first. -/
structure Config (σ γ ω L : Type) where
  state : σ
  stack : List (Frame σ γ ω L)

namespace Machine

variable {σ γ ω L : Type} {M : Machine σ γ ω L}

/-- Where a segment of `op` leaves the machine. -/
def settle (op : ω) : Sync σ γ (Option L) → List (Frame σ γ ω L) → Config σ γ ω L
  | .done s none, stack => ⟨s, stack⟩
  | .done s (some l), stack => ⟨s, .looping op l :: stack⟩
  | .call g s resume, stack => ⟨s, .waiting op g resume :: stack⟩

/-- The host is running: nothing was started, or a callback is in progress. -/
def HostRuns : List (Frame σ γ ω L) → Prop
  | .looping _ _ :: _ => False
  | _ => True

/-- One segment, labelled with its operation. -/
inductive Step (M : Machine σ γ ω L) : Config σ γ ω L → ω → Config σ γ ω L → Prop where
  | start (op : ω) (host : HostRuns stack) :
      Step M ⟨s, stack⟩ op (settle op (M.start op s) stack)
  | resume (answer : Option Bool) :
      Step M ⟨s, .waiting op g resume :: stack⟩ op (settle op (resume s answer) stack)
  | round : Step M ⟨s, .looping op l :: stack⟩ op (settle op (M.round l s) stack)

/-- The machine as a transition system, from the stores satisfying `initial`. -/
def system (M : Machine σ γ ω L) (initial : σ → Prop) : System (Config σ γ ω L) ω where
  init c := initial c.state ∧ c.stack = []
  step := M.Step

/-- What the machine can be told to do next. -/
inductive Move (ω : Type) where
  | start (op : ω)
  | resume (answer : Option Bool)
  | round

/-- The segment a move asks for, if there is one. -/
def advance (M : Machine σ γ ω L) (c : Config σ γ ω L) : Move ω → Option (ω × Config σ γ ω L)
  | .start op => match c.stack with
    | .looping _ _ :: _ => none
    | stack => some (op, settle op (M.start op c.state) stack)
  | .resume answer => match c.stack with
    | .waiting op _ resume :: stack => some (op, settle op (resume c.state answer) stack)
    | _ => none
  | .round => match c.stack with
    | .looping op l :: stack => some (op, settle op (M.round l c.state) stack)
    | _ => none

/-- The run through a list of moves, the latest first; impossible ones are skipped. -/
def play (M : Machine σ γ ω L) (s : σ) :
    List (Move ω) → List (Config σ γ ω L × ω) × Config σ γ ω L
  | [] => ([], ⟨s, []⟩)
  | move :: earlier =>
    let (history, c) := M.play s earlier
    match M.advance c move with
    | some (op, c') => ((c, op) :: history, c')
    | none => (history, c)

/-- An operation started from rest. -/
theorem play_start (op : ω) (rest : (M.play s earlier).2.stack.isEmpty = true) :
    M.play s (.start op :: earlier) = (((M.play s earlier).2, op) :: (M.play s earlier).1,
      settle op (M.start op (M.play s earlier).2.state) []) := by
  rw [play]
  generalize M.play s earlier = run at rest
  obtain ⟨history, state, stack⟩ := run
  rw [List.isEmpty_iff] at rest
  subst rest
  rfl

theorem step_of_advance {c c' : Config σ γ ω L} {move : Move ω}
    (advanced : M.advance c move = some (op, c')) : M.Step c op c' := by
  obtain ⟨s, stack⟩ := c
  cases move with
  | start op =>
    rcases stack with _ | ⟨⟨_, _, _⟩ | ⟨_, _⟩, stack⟩
    · cases advanced
      exact .start _ trivial
    · cases advanced
      exact .start _ trivial
    · cases advanced
  | resume answer =>
    rcases stack with _ | ⟨⟨_, _, _⟩ | ⟨_, _⟩, stack⟩
    · cases advanced
    · cases advanced
      exact .resume answer
    · cases advanced
  | round =>
    rcases stack with _ | ⟨⟨_, _, _⟩ | ⟨_, _⟩, stack⟩
    · cases advanced
    · cases advanced
    · cases advanced
      exact .round

theorem advance_of_rest {c : Config σ γ ω L} (rest : c.stack = []) :
    M.advance c (.start op) = some (op, settle op (M.start op c.state) []) := by
  obtain ⟨s, stack⟩ := c
  cases rest
  rfl

theorem advance_start {c c' : Config σ γ ω L} (advanced : M.advance c (.start op) = some (op', c')) :
    op' = op ∧ c' = settle op (M.start op c.state) c.stack := by
  obtain ⟨s, stack⟩ := c
  rcases stack with _ | ⟨⟨_, _, _⟩ | ⟨_, _⟩, stack⟩
  · cases advanced
    exact ⟨rfl, rfl⟩
  · cases advanced
    exact ⟨rfl, rfl⟩
  · cases advanced

theorem advance_resume {c c' : Config σ γ ω L} (advanced : M.advance c (.resume answer) = some (op, c')) :
    ∃ g resume stack, c.stack = .waiting op g resume :: stack ∧ c' = settle op (resume c.state answer) stack := by
  obtain ⟨s, stack⟩ := c
  rcases stack with _ | ⟨⟨_, _, _⟩ | ⟨_, _⟩, stack⟩
  · cases advanced
  · cases advanced
    exact ⟨_, _, _, rfl, rfl⟩
  · cases advanced

theorem advance_round {c c' : Config σ γ ω L} (advanced : M.advance c .round = some (op, c')) :
    ∃ l stack, c.stack = .looping op l :: stack ∧ c' = settle op (M.round l c.state) stack := by
  obtain ⟨s, stack⟩ := c
  rcases stack with _ | ⟨⟨_, _, _⟩ | ⟨_, _⟩, stack⟩
  · cases advanced
  · cases advanced
  · cases advanced
    exact ⟨_, _, rfl, rfl⟩

/-- Whatever the code asks for next, the frames are those of the stack and one of its own. -/
theorem settle_frames {code : Sync σ γ (Option L)} {stack : List (Frame σ γ ω L)} {frame : Frame σ γ ω L}
    (member : frame ∈ (settle op code stack).stack) : frame ∈ stack ∨ frame.op = op := by
  rcases code with ⟨s, _ | l⟩ | ⟨g, s, resume⟩
  · exact .inl member
  · obtain rfl | member := List.mem_cons.mp member
    · exact .inr rfl
    · exact .inl member
  · obtain rfl | member := List.mem_cons.mp member
    · exact .inr rfl
    · exact .inl member

/-- A list of moves plays a run. -/
theorem trace_play {initial : σ → Prop} (begins : initial s) (moves : List (Move ω)) :
    (M.system initial).Trace (M.play s moves).1 (M.play s moves).2 := by
  induction moves with
  | nil => exact .init ⟨begins, rfl⟩
  | cons move earlier ih =>
    rw [play]
    generalize M.play s earlier = run at ih
    obtain ⟨history, c⟩ := run
    dsimp only
    cases advanced : M.advance c move with
    | none => exact ih
    | some next =>
      obtain ⟨op, c'⟩ := next
      exact ih.step (step_of_advance advanced)

section Sound

variable {I : σ → Prop} {G : ω → σ → σ → Prop}

/-- What the host may do during a callback: any number of segments of any
operations. -/
def Rely (G : ω → σ → σ → Prop) : σ → σ → Prop := ReflTransGen fun s s' => ∃ op, G op s s'

/-- The code meets the guarantee of `op` throughout. -/
def Meets (I : σ → Prop) (G : ω → σ → σ → Prop) (J : ω → L → σ → Prop) (op : ω)
    (code : Sync σ γ (Option L)) (s₀ : σ) : Prop :=
  code.Keeps I (G op) (Rely G) (fun s₁ s next => G op s₁ s ∧ I s ∧ ∀ l ∈ next, J op l s) s₀

/-- A frame can be resumed from any state the host may leave. -/
def FrameMeets (I : σ → Prop) (G : ω → σ → σ → Prop) (J : ω → L → σ → Prop) (s : σ) :
    Frame σ γ ω L → Prop
  | .waiting op _ resume => ∀ s' b, I s' → Rely G s s' → Meets I G J op (resume s' b) s'
  | .looping op l => J op l s

/-- The invariant of the machine. -/
structure Sound (I : σ → Prop) (G : ω → σ → σ → Prop) (J : ω → L → σ → Prop)
    (c : Config σ γ ω L) : Prop where
  state : I c.state
  frames : ∀ frame ∈ c.stack, FrameMeets I G J c.state frame

variable {J : ω → L → σ → Prop}

theorem FrameMeets.rely {frame : Frame σ γ ω L} (stable : ∀ op l s s', J op l s → Rely G s s' → J op l s')
    (meets : FrameMeets I G J s frame) (relied : Rely G s s') : FrameMeets I G J s' frame := by
  cases frame with
  | waiting op g resume => exact fun s'' b kept later => meets s'' b kept (relied.trans later)
  | looping op l => exact stable op l s s' meets relied

/-- One segment of code that meets its guarantee keeps the machine sound, and
the guarantee holds between the states before and after it. -/
theorem sound_settle {stack : List (Frame σ γ ω L)} {code : Sync σ γ (Option L)}
    (stable : ∀ op l s s', J op l s → Rely G s s' → J op l s')
    (below : ∀ frame ∈ stack, FrameMeets I G J s₀ frame) (meets : Meets I G J op code s₀) :
    Sound I G J (settle op code stack) ∧ G op s₀ (settle op code stack).state := by
  have carried : ∀ s, G op s₀ s → ∀ frame ∈ stack, FrameMeets I G J s frame :=
    fun s moved frame member => (below frame member).rely stable (.single ⟨op, moved⟩)
  cases code with
  | done s next =>
    obtain ⟨moved, kept, label⟩ := meets
    cases next with
    | none => exact ⟨⟨kept, carried s moved⟩, moved⟩
    | some l =>
      refine ⟨⟨kept, fun frame member => ?_⟩, moved⟩
      obtain rfl | member := List.mem_cons.mp member
      · exact label l rfl
      · exact carried s moved frame member
  | call g s resume =>
    obtain ⟨moved, kept, rest⟩ := meets
    refine ⟨⟨kept, fun frame member => ?_⟩, moved⟩
    obtain rfl | member := List.mem_cons.mp member
    · exact rest
    · exact carried s moved frame member

/-- Every step of a sound machine keeps it sound and meets the guarantee of
the operation it belongs to. `ok` is what is assumed about the calls the host
makes. -/
theorem sound_step {ok : Config σ γ ω L → ω → Prop}
    (stable : ∀ op l s s', J op l s → Rely G s s' → J op l s')
    (starts : ∀ op s stack, I s → ok ⟨s, stack⟩ op → Meets I G J op (M.start op s) s)
    (rounds : ∀ op l s, I s → J op l s → Meets I G J op (M.round l s) s)
    (sound : Sound I G J c) (allowed : ok c op) (taken : M.Step c op c') :
    Sound I G J c' ∧ G op c.state c'.state := by
  cases taken with
  | start op host => exact sound_settle stable sound.frames (starts op _ _ sound.state allowed)
  | @resume s op g resume stack answer =>
    have top := sound.frames _ List.mem_cons_self s answer sound.state .refl
    exact sound_settle stable (fun f m => sound.frames f (List.mem_cons_of_mem _ m)) top
  | @round s op l stack =>
    have top : J op l s := sound.frames _ List.mem_cons_self
    exact sound_settle stable (fun f m => sound.frames f (List.mem_cons_of_mem _ m))
      (rounds op l s sound.state top)

/-- **Every reachable configuration is sound**, in the system whose steps all
meet `ok`. -/
theorem sound {ok : Config σ γ ω L → ω → Prop} {initial : σ → Prop}
    (stable : ∀ op l s s', J op l s → Rely G s s' → J op l s')
    (starts : ∀ op s stack, I s → ok ⟨s, stack⟩ op → Meets I G J op (M.start op s) s)
    (rounds : ∀ op l s, I s → J op l s → Meets I G J op (M.round l s) s)
    (begins : ∀ s, initial s → I s)
    (run : ((M.system initial).restrict ok).Trace history c) : Sound I G J c := by
  refine System.Trace.invariant (I := Sound I G J) ?_ ?_ run
  · rintro c ⟨start, empty⟩
    exact ⟨begins _ start, by simp [empty]⟩
  · rintro c op c' held ⟨allowed, taken⟩
    exact (sound_step stable starts rounds held allowed taken).1

end Sound
end Machine
end Reentrant
