import PiToPi.Reentrant

/-!
Code whose callbacks leave the store alone.

`Sync.Ends` runs a piece of code where each callback answers anything, or throws, but does not
touch the store. A run with host code behind the callbacks is covered by `Machine`; here a piece
of code is one step, and what it does to the store can be read off its text bind by bind.
`zoom` is the code of a part as code of the whole.
-/
namespace Reentrant
open Relation

namespace Sync

variable {σ γ α β : Type}

/-- The code may end in this state with this result. -/
inductive Ends : Sync σ γ α → σ → α → Prop where
  | done : Ends (.done s a) s a
  | call (answer : Option Bool) (rest : Ends (resume s answer) s' a) : Ends (.call g s resume) s' a

theorem ends_done_iff {s s' : σ} {a a' : α} :
    Ends (.done s a : Sync σ γ α) s' a' ↔ s' = s ∧ a' = a := by
  constructor
  · intro ends
    cases ends
    exact ⟨rfl, rfl⟩
  · rintro ⟨rfl, rfl⟩
    exact .done

theorem ends_call_iff {g : γ} {resume : σ → Option Bool → Sync σ γ α} :
    Ends (.call g s resume) s' a ↔ ∃ answer, Ends (resume s answer) s' a := by
  constructor
  · intro ends
    cases ends with
    | call answer rest => exact ⟨answer, rest⟩
  · rintro ⟨answer, rest⟩
    exact .call answer rest

/-- Sequencing. -/
theorem ends_bind_iff {code : Sync σ γ α} {next : σ → α → Sync σ γ β} :
    Ends (code.bind next) s' b ↔ ∃ s a, Ends code s a ∧ Ends (next s a) s' b := by
  induction code with
  | done s a =>
    rw [bind_done]
    constructor
    · intro ends
      exact ⟨s, a, .done, ends⟩
    · rintro ⟨_, _, ends, rest⟩
      obtain ⟨rfl, rfl⟩ := ends_done_iff.mp ends
      exact rest
  | call g s resume ih =>
    rw [bind, ends_call_iff]
    constructor
    · rintro ⟨answer, ends⟩
      obtain ⟨s₁, a, first, rest⟩ := (ih s answer).mp ends
      exact ⟨s₁, a, .call answer first, rest⟩
    · rintro ⟨s₁, a, first, rest⟩
      obtain ⟨answer, first⟩ := ends_call_iff.mp first
      exact ⟨answer, (ih s answer).mpr ⟨s₁, a, first, rest⟩⟩

/-- The run in which every callback answers `false` is one of the runs. -/
theorem ends_run (code : Sync σ γ α) : Ends code code.run.1 code.run.2 := by
  induction code with
  | done s a => exact .done
  | call g s resume ih => exact .call (some false) (ih s (some false))

section Zoom

variable {τ δ : Type} (get : τ → σ) (put : τ → σ → τ) (wrap : γ → δ)

/-- Code of a part of the state, as code of the whole. -/
def zoom (whole : τ) : Sync σ γ α → Sync τ δ α
  | .done s a => .done (put whole s) a
  | .call g s resume => .call (wrap g) (put whole s) fun whole' answer =>
      (resume (get whole') answer).zoom whole'

variable {get put wrap}

/-- The code of a part changes that part alone. -/
theorem ends_zoom_iff (getPut : ∀ w s, get (put w s) = s) (putPut : ∀ w s s', put (put w s) s' = put w s')
    {code : Sync σ γ α} {w w' : τ} :
    Ends (code.zoom get put wrap w) w' a ↔ ∃ s, Ends code s a ∧ w' = put w s := by
  induction code generalizing w with
  | done s b =>
    rw [zoom, ends_done_iff]
    constructor
    · rintro ⟨rfl, rfl⟩
      exact ⟨s, .done, rfl⟩
    · rintro ⟨_, ends, rfl⟩
      obtain ⟨rfl, rfl⟩ := ends_done_iff.mp ends
      exact ⟨rfl, rfl⟩
  | call g s resume ih =>
    rw [zoom, ends_call_iff]
    simp only [getPut, ih, putPut]
    constructor
    · rintro ⟨answer, s', ends, rfl⟩
      exact ⟨s', .call answer ends, rfl⟩
    · rintro ⟨s', ends, rfl⟩
      obtain ⟨answer, ends⟩ := ends_call_iff.mp ends
      exact ⟨answer, s', ends, rfl⟩

end Zoom
end Sync

namespace Code

variable {σ γ ε α β : Type}

/-- Catch what the code throws. -/
def attempt {ε' : Type} (code : Code σ γ ε α) : Code σ γ ε' (Except ε α) := fun s =>
  (code s).bind fun s result => .done s (.ok result)

/-- Code of a part of the state, whose exceptions are those of the whole. -/
def zoom {τ δ ε' : Type} (get : τ → σ) (put : τ → σ → τ) (wrap : γ → δ) (raise : ε → ε')
    (code : Code σ γ ε α) : Code τ δ ε' α := fun whole =>
  ((code (get whole)).zoom get put wrap whole).bind fun whole result =>
    .done whole (result.mapError raise)

/-- Started in `s`, the code may end in `s'` with this result. -/
def Ends (code : Code σ γ ε α) (s s' : σ) (result : Except ε α) : Prop :=
  (code s).Ends s' result

@[simp] theorem ends_pure_iff {s s' : σ} {a : α} {result : Except ε α} :
    Ends (pure a : Code σ γ ε α) s s' result ↔ s' = s ∧ result = .ok a := Sync.ends_done_iff

@[simp] theorem ends_throw_iff {s s' : σ} {e : ε} {result : Except ε α} :
    Ends (throw e : Code σ γ ε α) s s' result ↔ s' = s ∧ result = .error e := Sync.ends_done_iff

@[simp] theorem ends_ofExcept_iff {s s' : σ} {given result : Except ε α} :
    Ends (ofExcept given : Code σ γ ε α) s s' result ↔ s' = s ∧ result = given := Sync.ends_done_iff

@[simp] theorem ends_read_iff {s s' : σ} {result : Except ε σ} :
    Ends (read : Code σ γ ε σ) s s' result ↔ s' = s ∧ result = .ok s := Sync.ends_done_iff

@[simp] theorem ends_modify_iff {f : σ → σ} {s s' : σ} {result : Except ε Unit} :
    Ends (modify f : Code σ γ ε Unit) s s' result ↔ s' = f s ∧ result = .ok () := Sync.ends_done_iff

@[simp] theorem ends_notify_iff {g : γ} {s s' : σ} {result : Except ε Unit} :
    Ends (notify g : Code σ γ ε Unit) s s' result ↔ s' = s ∧ result = .ok () := by
  unfold Ends notify
  rw [Sync.ends_call_iff]
  simp only [Sync.ends_done_iff, exists_const]

@[simp] theorem ends_call_iff {g : γ} {s s' : σ} {result : Except ε (Option Bool)} :
    Ends (call g : Code σ γ ε (Option Bool)) s s' result ↔ s' = s ∧ ∃ answer, result = .ok answer := by
  unfold Ends call
  rw [Sync.ends_call_iff]
  simp only [Sync.ends_done_iff, exists_and_left]

/-- Sequencing: the first part throws, or the second goes on where it ended. -/
theorem ends_bind_iff {code : Code σ γ ε α} {next : α → Code σ γ ε β} {s s' : σ}
    {result : Except ε β} :
    Ends (code >>= next) s s' result ↔
      (∃ m a, Ends code s m (.ok a) ∧ Ends (next a) m s' result) ∨
        ∃ e, Ends code s s' (.error e) ∧ result = .error e := by
  unfold Ends
  rw [bind_apply, Sync.ends_bind_iff]
  constructor
  · rintro ⟨m, _ | a, first, rest⟩
    · obtain ⟨rfl, rfl⟩ := Sync.ends_done_iff.mp rest
      exact .inr ⟨_, first, rfl⟩
    · exact .inl ⟨m, a, first, rest⟩
  · rintro (⟨m, a, first, rest⟩ | ⟨e, first, rfl⟩)
    · exact ⟨m, .ok a, first, rest⟩
    · exact ⟨s', .error e, first, .done⟩

theorem ends_read_bind_iff {next : σ → Code σ γ ε β} {s s' : σ} {result : Except ε β} :
    Ends (read >>= next) s s' result ↔ Ends (next s) s s' result := by
  unfold Ends
  rw [read_bind]

theorem ends_modify_bind_iff {f : σ → σ} {next : Unit → Code σ γ ε β} {s s' : σ}
    {result : Except ε β} :
    Ends (modify f >>= next) s s' result ↔ Ends (next ()) (f s) s' result := by
  unfold Ends
  rw [modify_bind]

@[simp] theorem ends_attempt_iff {ε' : Type} {code : Code σ γ ε α} {s s' : σ}
    {result : Except ε' (Except ε α)} :
    Ends code.attempt s s' result ↔ ∃ outcome, Ends code s s' outcome ∧ result = .ok outcome := by
  unfold Ends attempt
  rw [Sync.ends_bind_iff]
  constructor
  · rintro ⟨m, outcome, first, rest⟩
    obtain ⟨rfl, rfl⟩ := Sync.ends_done_iff.mp rest
    exact ⟨outcome, first, rfl⟩
  · rintro ⟨outcome, first, rfl⟩
    exact ⟨s', outcome, first, .done⟩

theorem ends_zoom_iff {τ δ ε' : Type} {get : τ → σ} {put : τ → σ → τ} {wrap : γ → δ}
    {raise : ε → ε'} (getPut : ∀ w s, get (put w s) = s)
    (putPut : ∀ w s s', put (put w s) s' = put w s') {code : Code σ γ ε α} {w w' : τ}
    {result : Except ε' α} :
    Ends (code.zoom get put wrap raise) w w' result ↔
      ∃ s outcome, Ends code (get w) s outcome ∧ w' = put w s ∧ result = outcome.mapError raise := by
  unfold Ends zoom
  rw [Sync.ends_bind_iff]
  simp only [Sync.ends_zoom_iff getPut putPut]
  constructor
  · rintro ⟨m, outcome, ⟨s, first, rfl⟩, rest⟩
    obtain ⟨rfl, rfl⟩ := Sync.ends_done_iff.mp rest
    exact ⟨s, outcome, first, rfl, rfl⟩
  · rintro ⟨s, outcome, first, rfl, rfl⟩
    exact ⟨put w s, outcome, ⟨s, first, rfl⟩, .done⟩

section Yields

/-- Wherever the code ends, `post` holds. -/
def Yields (code : Code σ γ ε α) (s : σ) (post : σ → Except ε α → Prop) : Prop :=
  ∀ s' result, code.Ends s s' result → post s' result

variable {s : σ} {post : σ → Except ε α → Prop}

theorem Yields.imp {weaker : σ → Except ε α → Prop} {code : Code σ γ ε α} (yields : code.Yields s post)
    (implied : ∀ s' result, post s' result → weaker s' result) : code.Yields s weaker :=
  fun s' result ends => implied s' result (yields s' result ends)

theorem Yields.and {other : σ → Except ε α → Prop} {code : Code σ γ ε α} (yields : code.Yields s post)
    (also : code.Yields s other) : code.Yields s fun s' result => post s' result ∧ other s' result :=
  fun s' result ends => ⟨yields s' result ends, also s' result ends⟩

theorem yields_pure {a : α} (holds : post s (.ok a)) : (pure a : Code σ γ ε α).Yields s post := by
  intro s' result ends
  obtain ⟨rfl, rfl⟩ := ends_pure_iff.mp ends
  exact holds

theorem yields_throw {e : ε} (holds : post s (.error e)) : (throw e : Code σ γ ε α).Yields s post := by
  intro s' result ends
  obtain ⟨rfl, rfl⟩ := ends_throw_iff.mp ends
  exact holds

theorem yields_ofExcept {given : Except ε α} (holds : post s given) :
    (ofExcept given : Code σ γ ε α).Yields s post := by
  intro s' result ends
  obtain ⟨rfl, rfl⟩ := ends_ofExcept_iff.mp ends
  exact holds

theorem yields_modify {f : σ → σ} {post : σ → Except ε Unit → Prop} (holds : post (f s) (.ok ())) :
    (modify f : Code σ γ ε Unit).Yields s post := by
  intro s' result ends
  obtain ⟨rfl, rfl⟩ := ends_modify_iff.mp ends
  exact holds

theorem yields_notify {g : γ} {post : σ → Except ε Unit → Prop} (holds : post s (.ok ())) :
    (notify g : Code σ γ ε Unit).Yields s post := by
  intro s' result ends
  obtain ⟨rfl, rfl⟩ := ends_notify_iff.mp ends
  exact holds

theorem yields_call {g : γ} {post : σ → Except ε (Option Bool) → Prop}
    (holds : ∀ answer, post s (.ok answer)) : (call g : Code σ γ ε (Option Bool)).Yields s post := by
  intro s' result ends
  obtain ⟨rfl, answer, rfl⟩ := ends_call_iff.mp ends
  exact holds answer

/-- Sequencing: what the first part establishes is what the second starts from. -/
theorem Yields.bind {P : σ → Except ε α → Prop} {code : Code σ γ ε α} {next : α → Code σ γ ε β}
    {final : σ → Except ε β → Prop}
    (first : code.Yields s P) (second : ∀ m a, P m (.ok a) → (next a).Yields m final)
    (thrown : ∀ m e, P m (.error e) → final m (.error e)) : (code >>= next).Yields s final := by
  intro s' result ends
  obtain ⟨m, a, before, after⟩ | ⟨e, before, rfl⟩ := ends_bind_iff.mp ends
  · exact second m a (first m _ before) s' result after
  · exact thrown s' e (first s' _ before)

theorem yields_read_bind {next : σ → Code σ γ ε α} (rest : (next s).Yields s post) :
    (read >>= next).Yields s post :=
  fun s' result ends => rest s' result (ends_read_bind_iff.mp ends)

theorem yields_modify_bind {f : σ → σ} {next : Unit → Code σ γ ε α} (rest : (next ()).Yields (f s) post) :
    (modify f >>= next).Yields s post :=
  fun s' result ends => rest s' result (ends_modify_bind_iff.mp ends)

theorem Yields.attempt {ε' : Type} {code : Code σ γ ε α} {final : σ → Except ε' (Except ε α) → Prop}
    (yields : code.Yields s fun s' outcome => final s' (.ok outcome)) :
    (code.attempt : Code σ γ ε' (Except ε α)).Yields s final := by
  intro s' result ends
  obtain ⟨outcome, inner, rfl⟩ := ends_attempt_iff.mp ends
  exact yields s' outcome inner

theorem Yields.zoom {τ δ ε' : Type} {get : τ → σ} {put : τ → σ → τ} {wrap : γ → δ} {raise : ε → ε'}
    (getPut : ∀ w s, get (put w s) = s) (putPut : ∀ w s s', put (put w s) s' = put w s')
    {code : Code σ γ ε α} {w : τ} {final : τ → Except ε' α → Prop}
    (yields : code.Yields (get w) fun s outcome => final (put w s) (outcome.mapError raise)) :
    (code.zoom get put wrap raise).Yields w final := by
  intro w' result ends
  obtain ⟨s, outcome, inner, rfl, rfl⟩ := (ends_zoom_iff getPut putPut).mp ends
  exact yields s outcome inner

end Yields

section Within

/-- Every run of the code goes along `R`. -/
def Within (R : σ → σ → Prop) (code : Code σ γ ε α) : Prop :=
  ∀ s, code.Yields s fun s' _ => R s s'

variable {R : σ → σ → Prop}

theorem Within.imp {S : σ → σ → Prop} {code : Code σ γ ε α} (within : code.Within R)
    (weaker : ∀ s s', R s s' → S s s') : code.Within S :=
  fun s => (within s).imp fun s' _ => weaker s s'

theorem within_modify {f : σ → σ} (moves : ∀ s, R s (f s)) : (modify f : Code σ γ ε Unit).Within R :=
  fun s => yields_modify (moves s)

theorem Within.attempt {ε' : Type} {code : Code σ γ ε α} (within : code.Within R) :
    (code.attempt : Code σ γ ε' (Except ε α)).Within R :=
  fun s => Yields.attempt (within s)

section Preorder

variable [IsPreorder σ R]

theorem within_pure (a : α) : (pure a : Code σ γ ε α).Within R := fun s => yields_pure (refl_of R s)

theorem within_throw (e : ε) : (throw e : Code σ γ ε α).Within R := fun s => yields_throw (refl_of R s)

theorem within_read : (read : Code σ γ ε σ).Within R := by
  intro s s' result ends
  obtain ⟨rfl, _⟩ := ends_read_iff.mp ends
  exact refl_of R s'

theorem within_notify (g : γ) : (notify g : Code σ γ ε Unit).Within R := fun s => yields_notify (refl_of R s)

theorem within_call (g : γ) : (call g : Code σ γ ε (Option Bool)).Within R :=
  fun s => yields_call fun _ => refl_of R s

theorem Within.bind {code : Code σ γ ε α} {next : α → Code σ γ ε β} (first : code.Within R)
    (second : ∀ a, (next a).Within R) : (code >>= next).Within R :=
  fun s => (first s).bind (fun m a moved => (second a m).imp fun _ _ more => trans_of R moved more)
    fun _ _ moved => moved

end Preorder
end Within

/-- The run in which every callback answers `false` is one of the runs. -/
theorem ends_run (code : Code σ γ ε α) (s : σ) : Ends code s (code.run s).1 (code.run s).2 :=
  Sync.ends_run (code s)

end Code
end Reentrant
