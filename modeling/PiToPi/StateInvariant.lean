import Mathlib.Init

/-!
Properties of a state that code keeps, whether it returns or throws. Code that is built of
parts that keep a property keeps it; the rules below follow the parts, so that a proof about
a loop or a branch is about its parts alone.
-/
namespace StateInvariant

variable {σ ε α β : Type} {I : σ → Prop}

/-- Code that keeps a property of the state, also when it throws. -/
def Keeps (I : σ → Prop) (code : ExceptT ε (StateM σ) α) : Prop := ∀ s, I s → I (code.run.run s).2

theorem keeps_pure (value : α) : Keeps I (pure value : ExceptT ε (StateM σ) α) := fun _ held => held

theorem keeps_throw (error : ε) : Keeps I (throw error : ExceptT ε (StateM σ) α) := fun _ held => held

theorem Keeps.bind {first : ExceptT ε (StateM σ) α} {next : α → ExceptT ε (StateM σ) β}
    (here : Keeps I first) (there : ∀ value, Keeps I (next value)) : Keeps I (first >>= next) := by
  intro s held
  have kept := here s held
  rw [ExceptT.run_bind, StateT.run_bind]
  generalize first.run.run s = outcome at kept ⊢
  obtain ⟨error | value, after⟩ : Except ε α × σ := outcome
  · exact kept
  · exact there value after kept

theorem keeps_modify {f : σ → σ} (kept : ∀ s, I s → I (f s)) :
    Keeps I (modify f : ExceptT ε (StateM σ) PUnit) := fun s held => kept s held

theorem keeps_get : Keeps I (get : ExceptT ε (StateM σ) σ) := fun _ held => held

/-- Code that goes on with the state it reads. -/
theorem keeps_get_bind {next : σ → ExceptT ε (StateM σ) α}
    (there : ∀ s, I s → I ((next s).run.run s).2) : Keeps I (get >>= next) := fun s held => there s held

theorem Keeps.ite {condition : Prop} [Decidable condition] {yes no : ExceptT ε (StateM σ) α}
    (first : Keeps I yes) (second : Keeps I no) : Keeps I (if condition then yes else no) := by
  split
  · exact first
  · exact second

end StateInvariant
