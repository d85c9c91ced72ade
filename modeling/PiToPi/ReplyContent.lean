import PiToPi.Envelope
import PiToPi.SchemaProofs

/-!
The content of a reply against the response it was asked for (`validateReplyContent` of
`protocol/validation.ts`), as the router checks it on both sides of a request.
-/
namespace PiToPi.Validation

/-- What the check of a content throws. -/
inductive ContentFault where
  | rangeError (message : RangeError)
  | typeError

variable (H : SchemaHost) (options : ValidationOptions)

/-- `validateContent(value, options)`. -/
def validateContent (value : Json) : Except RangeError (ValidationResult Json) :=
  match validateTypedContentInternal value "$" with
  | .ok () => .ok (.success value)
  | .error (.issue found) =>
    .ok (validationFailure found.code "typed content is invalid" found.path found.reason none)
  | .error (.rangeError message) => .error message

/-- `validateExpectedResponse(value, options)`. -/
def validateExpectedResponse (value : Json) : Except RangeError (ValidationResult Json) :=
  match validateExpectedResponseInternal H options value "$" with
  | .ok () => .ok (.success value)
  | .error (.issue found) =>
    let message : JsString := if found.code = .incompatible then "expected response schema is incompatible"
      else "expected response schema is invalid"
    .ok (validationFailure found.code message found.path found.reason found.keyword)
  | .error (.rangeError message) => .error message

/-- The end of `validateJsonValueAgainstSchema`: the compiled schema, then `matchesSchema`. -/
def checkAgainstSchema (value schema : Json) : Except ContentFault (ValidationResult Json) :=
  let message : JsString := "JSON response content does not satisfy its schema"
  if (H.compileDraft2020Schema schema).all fun compiled => !compiled value then
    .ok (validationFailure .invalidContent message "$" "schema validation failed" none)
  else match (evaluation H schema value defaultValidationMaxDepth defaultValidationMaxNodes).1 with
    | .error .typeError => .error .typeError
    | .ok (.invalid path reason) => .ok (validationFailure .invalidContent message path reason none)
    | .ok .valid => .ok (.success value)

/-- `validateJsonValueAgainstSchema(value, schema, options)`. -/
def validateJsonValueAgainstSchema (value schema : Json) :
    Except ContentFault (ValidationResult Json) :=
  match validateJsonSchema H options schema with
  | .error message => .error (.rangeError message)
  | .ok (.failure error) => .ok (.failure error)
  | .ok (.success schema) => match validateJsonValueInternal value "$" with
    | .error (.rangeError message) => .error (.rangeError message)
    | .error (.issue found) => .ok (if found.code = .oversized then
          validationFailure .oversized "JSON response content exceeds a configured limit" found.path
            found.reason none
        else validationFailure .invalidContent "JSON response content is invalid" found.path
          found.reason none)
    | .ok () => checkAgainstSchema H value schema

/-- What a failed check of the value is answered with. -/
def invalidReply (error : ProtocolError) : ProtocolError :=
  if error.code = .oversized then error
  else { createProtocolError .invalidReply "reply content does not satisfy the expected schema" with
    details := error.details.map boundedDetails }

/-- `validateReplyContent(content, expectedResponse, options)`. -/
def validateReplyContent (content expectedResponse : Json) :
    Except ContentFault (ValidationResult Json) :=
  match validateContent content with
  | .error message => .error (.rangeError message)
  | .ok (.failure error) => .ok (.failure error)
  | .ok (.success content) => match validateExpectedResponse H options expectedResponse with
    | .error message => .error (.rangeError message)
    | .ok (.failure error) => .ok (.failure error)
    | .ok (.success expected) =>
      if content.get? "type" ≠ some (.string "json") then
        .ok (validationFailure .invalidReply "reply content must be JSON" "$"
          "expected response requires JSON content" none)
      else match validateJsonValueAgainstSchema H options ((content.get? "value").getD .null)
          ((expected.get? "schema").getD .null) with
        | .error fault => .error fault
        | .ok (.failure error) => .ok (.failure (invalidReply error))
        | .ok (.success _) => .ok (.success content)

variable {H options}

/-- A value passes a schema when the compiled schema and the evaluation both accept it. -/
structure SatisfiesSchema (H : SchemaHost) (options : ValidationOptions) (value schema : Json) : Prop where
  valid : validateJsonSchema H options schema = .ok (.success schema)
  compiled : ∃ test, H.compileDraft2020Schema schema = some test ∧ test value = true
  matched : (evaluation H schema value defaultValidationMaxDepth defaultValidationMaxNodes).1 = .ok .valid

/-- The value of an accepted check is the one given, and passes the schema. -/
theorem validateJsonValueAgainstSchema_success {value schema accepted : Json}
    (passed : validateJsonValueAgainstSchema H options value schema = .ok (.success accepted)) :
    accepted = value ∧ SatisfiesSchema H options value schema := by
  unfold validateJsonValueAgainstSchema at passed
  split at passed
  · cases passed
  · cases passed
  next checked held =>
    obtain ⟨rfl, -⟩ := validateJsonSchema_ok held
    split at passed
    · cases passed
    · split at passed <;> cases passed
    · unfold checkAgainstSchema at passed
      dsimp only at passed
      split at passed
      · cases passed
      next refused =>
        split at passed
        · cases passed
        · cases passed
        next matched =>
          cases passed
          refine ⟨rfl, held, ?_, matched⟩
          cases compiled : H.compileDraft2020Schema checked with
          | none => simp [compiled] at refused
          | some test => exact ⟨test, rfl, by simpa [compiled] using refused⟩

/-- The content of an accepted reply is the JSON value the request asked for. -/
theorem validateReplyContent_success {content expected accepted : Json}
    (passed : validateReplyContent H options content expected = .ok (.success accepted)) :
    accepted = content ∧ content.get? "type" = some (.string "json") ∧
      SatisfiesSchema H options ((content.get? "value").getD .null)
        ((expected.get? "schema").getD .null) := by
  unfold validateReplyContent validateContent validateExpectedResponse at passed
  split at passed
  · cases passed
  · cases passed
  next given held =>
    have same : given = content := by
      split at held
      · cases held
        rfl
      · cases held
      · cases held
    subst same
    split at passed
    · cases passed
    · cases passed
    next contract held =>
      have same : contract = expected := by
        split at held
        · cases held
          rfl
        · cases held
        · cases held
      subst same
      split at passed
      · cases passed
      next json =>
        split at passed
        · cases passed
        · cases passed
        next matched =>
          cases passed
          exact ⟨rfl, not_not.mp json, (validateJsonValueAgainstSchema_success matched).2⟩

end PiToPi.Validation
