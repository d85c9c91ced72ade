import PiToPi.SchemaMeaningProofs

/-!
There is always a budget that suffices: an evaluation under any larger one comes to the same end,
and does not exhaust it.
-/
namespace PiToPi.Validation

section Affordable

variable {H : SchemaHost} {context : SchemaContext} {α β : Type}

/-- Code that, under every budget from one on, comes to the same end and does not exhaust it. -/
def Affordable (code : Nat → Evaluate α) : Prop := ∀ s, s.exhausted = false →
  ∃ enough outcome, outcome.2.exhausted = false ∧ ∀ budget, enough ≤ budget → (code budget).run.run s = outcome

theorem Affordable.bind {first : Nat → Evaluate α} {next : Nat → α → Evaluate β} (here : Affordable first)
    (there : ∀ result, Affordable fun budget => next budget result) :
    Affordable fun budget => first budget >>= next budget := by
  intro s fresh
  obtain ⟨enough, ⟨error | result, s₁⟩, fresh₁, ran⟩ := here s fresh
  · refine ⟨enough, (.error error, s₁), fresh₁, fun budget large => ?_⟩
    rw [ExceptT.run_bind, StateT.run_bind, ran budget large]
    rfl
  · obtain ⟨enough', outcome, fresh₂, ran'⟩ := there result s₁ fresh₁
    refine ⟨max enough enough', outcome, fresh₂, fun budget large => ?_⟩
    rw [ExceptT.run_bind, StateT.run_bind, ran budget (le_of_max_le_left large)]
    exact ran' budget (le_of_max_le_right large)

end Affordable

section Values

variable {H : SchemaHost} {context : SchemaContext}

end Values

section Stages

variable {H : SchemaHost} {context : SchemaContext} {value schema : Json} {path : JsString}
  {evaluate : Nat → Evaluator}

end Stages

end PiToPi.Validation
