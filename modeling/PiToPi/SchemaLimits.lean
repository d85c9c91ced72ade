import PiToPi.SchemaAnswers
import PiToPi.SchemaBudget
import PiToPi.SchemaInquiryProofs

/-!
What the limits of an evaluation may do to its result. A depth limit is an ordinary failure, so
that it is sound where a failure can only make the whole fail, and is not where a failure is
inverted, counted or a condition. Where none of the subschemas used in this way meets the limit,
as the evaluation comes to them, a valid result is what the schema says of the value; and where
one does, a valid result may be due to the limit.
-/
namespace PiToPi.Validation
open Inquiry

section Runs

/-- What the evaluation comes to under limits that it does not meet. -/
def Unlimited (H : SchemaHost) (root value : Json) (outcome : Except TypeError SchemaValidationResult) : Prop :=
  ∃ maxDepth maxOperations, (evaluation H root value maxDepth maxOperations).1 = outcome ∧
    (evaluation H root value maxDepth maxOperations).2.exhausted = false ∧
    (evaluation H root value maxDepth maxOperations).2.cutShort = 0

end Runs

section Outcome

variable {H : SchemaHost} {root value : Json} {maxDepth maxOperations : Nat}

/-- The evaluation from the root follows the order of its questions. -/
theorem evaluation_follows (H : SchemaHost) (root : Json) (data : isJsonData value = true) (maxDepth maxOperations : Nat) :
    Traced (codeReading H (collectSchemaIndex root)) (maxDepth + 1) (maxDepth + 1 = 0 ∨ 0 < maxDepth)
      (·.isValid = false) (fun result held => result.isValid = held) (test (.schema .plain value root))
      { operations := 0, exhausted := false, evaluated := [], ran := [] } (evaluation H root value maxDepth maxOperations) := by
  have fit : RefsFit ⟨collectSchemaIndex root, maxDepth, maxOperations⟩ (maxDepth + 1) ∅ := by
    refine ⟨fun reference => ?_, fun reference active => ?_⟩
    · rw [JsMap.get?_empty, Option.getD_none, Nat.zero_add]
    · rw [JsMap.get?_empty] at active
      cases active
  exact @matchesSchema_follows H ⟨collectSchemaIndex root, maxDepth, maxOperations⟩ value root "$" (maxDepth + 1) ∅ fit
    data _ rfl

/-- What is met and answered where the budget lasts. -/
theorem evaluation_answers {result : SchemaValidationResult} (data : isJsonData value = true)
    (outcome : (evaluation H root value maxDepth maxOperations).1 = .ok result)
    (fresh : (evaluation H root value maxDepth maxOperations).2.exhausted = false) :
    reply (codeReading H (collectSchemaIndex root)) (maxDepth + 1) (.schema .plain value root) = some result.isValid ∧
      limitsMet (codeReading H (collectSchemaIndex root)) (maxDepth + 1) (.schema .plain value root) ≤
        (evaluation H root value maxDepth maxOperations).2.cutShort ∧
      (evaluation H root value maxDepth maxOperations).2.cutInside =
        limitsInside (codeReading H (collectSchemaIndex root)) (maxDepth + 1) (.schema .plain value root) := by
  have traced := evaluation_follows H root data maxDepth maxOperations
  generalize evaluation H root value maxDepth maxOperations = ending at traced outcome fresh ⊢
  obtain ⟨first, s⟩ := ending
  dsimp only at outcome fresh ⊢
  subst outcome
  obtain ⟨held, shown, came, tally⟩ := traced.2 fresh
  rw [run_test] at came
  rw [asked_test] at tally
  have least := tally.least
  have inside := tally.inside
  simp only [limitsMetBy, limitsInsideBy, List.map_cons, List.map_nil, List.sum_cons, List.sum_nil,
    Question.isCondition, Bool.false_eq_true, ↓reduceIte, Nat.add_zero, Nat.zero_add] at least inside
  exact ⟨came.trans (congrArg some shown.symm), least, inside⟩

/-- An evaluation that meets no limit answers in the order of its questions. -/
theorem Unlimited.reply {outcome : Except TypeError SchemaValidationResult} (data : isJsonData value = true)
    (unlimited : Unlimited H root value outcome) :
    ∃ levels, limitsMet (codeReading H (collectSchemaIndex root)) levels (.schema .plain value root) = 0 ∧
      Validation.reply (codeReading H (collectSchemaIndex root)) levels (.schema .plain value root) =
        outcome.toOption.map (·.isValid) := by
  obtain ⟨maxDepth, maxOperations, rfl, fresh, uncut⟩ := unlimited
  refine ⟨maxDepth + 1, ?_⟩
  cases ended : (evaluation H root value maxDepth maxOperations).1 with
  | ok result =>
    obtain ⟨came, least, -⟩ := evaluation_answers data ended fresh
    exact ⟨by omega, came⟩
  | error error =>
    have traced := evaluation_follows H root data maxDepth maxOperations
    generalize evaluation H root value maxDepth maxOperations = ending at traced ended uncut
    obtain ⟨first, s⟩ := ending
    dsimp only at ended uncut
    subst ended
    obtain ⟨stuck, met⟩ := traced
    rw [run_test] at stuck
    rw [asked_test] at met
    have least := met.least
    simp only [limitsMetBy, List.map_cons, List.map_nil, List.sum_cons, List.sum_nil, Nat.add_zero, Nat.zero_add] at least
    exact ⟨by omega, stuck⟩

/-- Without limits, the evaluation comes to what the schema says, in a reading that does not differ on
the way. -/
theorem says_of_unlimited {R : Reading} {outcome : Except TypeError SchemaValidationResult} (data : isJsonData value = true)
    (callable : ∀ question, ComesTo (codeReading H (collectSchemaIndex root)) value root question →
      question.isCallable = true)
    (alike : ∀ question, ComesTo (codeReading H (collectSchemaIndex root)) value root question →
      ReadAlike (codeReading H (collectSchemaIndex root)) R question)
    (unlimited : Unlimited H root value outcome) :
    ∃ result : SchemaValidationResult, outcome = .ok result ∧ Says R result.isValid value root := by
  obtain ⟨levels, unmet, came⟩ := unlimited.reply data
  cases outcome with
  | error error =>
    obtain ⟨question, come, faulty⟩ := (reply_eq_none_iff unmet).mp came
    rw [callable question ⟨levels, unmet, come⟩] at faulty
    cases faulty
  | ok result =>
    have bears := judge_of_reply levels .plain value root (limitsInside_of_unmet unmet)
      fun question come => alike question ⟨levels, unmet, come⟩
    exact ⟨result, rfl, levels, bears.below unmet _ came⟩

end Outcome

section Samples

end Samples

end PiToPi.Validation
