import PiToPi.Inquiry
import PiToPi.SchemaMeaning

/-!
The order of an evaluation, without its budget, paths and reasons: what `matchesSchema` asks on
its way from one answer to the next (`inquire`), the questions it comes to within a depth, and the
depth limits among them.
-/
namespace PiToPi.Validation
open Inquiry

/-- How a result is used: as it is, or inverted, counted or as a condition. -/
inductive Use where
  | plain
  | condition
  deriving DecidableEq

/-- What an evaluation asks: whether a subschema holds of a value, whether the value has a type the
schema names, and whether a number is a multiple of another. -/
inductive Question where
  | schema (use : Use) (value schema : Json)
  | type (value schema : Json)
  | multiple (n divisor : JsNumber)
  deriving DecidableEq

section Keywords

variable (R : Reading)

/-- `$ref`. -/
def inquireReference (value schema : Json) : Inquiry Question Bool :=
  match schemaReference schema with
  | none => answer true
  | some reference =>
    match R.refers reference with
    | none => answer false
    | some target => test (.schema .plain value target)

/-- The keywords about a number. -/
def inquireNumber (value schema : Json) : Inquiry Question Bool :=
  match value with
  | .number n => forAll id
      [((schema.get? "multipleOf").bind Json.asNumber?).elim (answer true) fun divisor => test (.multiple n divisor),
        answer (((schema.get? "minimum").bind Json.asNumber?).all (R.denotes · ≤ R.denotes n)),
        answer (((schema.get? "maximum").bind Json.asNumber?).all (R.denotes n ≤ R.denotes ·)),
        answer (((schema.get? "exclusiveMinimum").bind Json.asNumber?).all (R.denotes · < R.denotes n)),
        answer (((schema.get? "exclusiveMaximum").bind Json.asNumber?).all (R.denotes n < R.denotes ·))]
  | _ => answer true

/-- The keywords about a string. -/
def inquireString (value schema : Json) : Inquiry Question Bool :=
  match value with
  | .string text => forAll id
      [answer ((naturalKeyword schema "minLength").all (· ≤ (codePointLength text.units : ℚ))),
        answer ((naturalKeyword schema "maxLength").all ((codePointLength text.units : ℚ) ≤ ·)),
        answer (((schema.get? "pattern").bind Json.asString?).all fun pattern => R.matchesPattern pattern text)]
  | _ => answer true

/-- `contains`; its results are conditions only where there is a largest count. -/
def inquireContains (elements : List Json) (schema : Json) : Inquiry Question Bool :=
  (schema.get? "contains").elim (answer true) fun child =>
    let use := if (naturalKeyword schema "maxContains").isSome then Use.condition else Use.plain
    (count (fun element => test (.schema use element child)) elements 0).bind fun matching =>
      answer (satisfiesContains schema matching)

/-- The keywords about an array. -/
def inquireArray (value schema : Json) : Inquiry Question Bool :=
  match value with
  | .array elements => forAll id
      [answer ((naturalKeyword schema "minItems").all (· ≤ (elements.length : ℚ))),
        answer ((naturalKeyword schema "maxItems").all ((elements.length : ℚ) ≤ ·)),
        answer (schema.get? "uniqueItems" != some (.bool true) || areDistinct elements),
        forAll (fun (element, child) => test (.schema .plain element child))
          (elements.zip (arrayKeyword schema "prefixItems")),
        forAll (fun child => forAll (fun element => test (.schema .plain element child))
          (elements.drop (arrayKeyword schema "prefixItems").length)) (schema.get? "items").toList,
        inquireContains elements schema]
  | _ => answer true

/-- `additionalProperties`. -/
def inquireAdditional (members : List (JsString × Json)) (schema : Json) : Inquiry Question Bool :=
  (schema.get? "additionalProperties").elim (answer true) fun child =>
    forAll (fun (property, member) =>
        if ((mapKeyword schema "patternProperties").map Prod.fst).any fun pattern => R.matchesPattern pattern property
        then answer true
        else if child = .bool false then answer false
        else test (.schema .plain member child))
      (members.filter fun member => !((mapKeyword schema "properties").map Prod.fst).contains member.1)

/-- The keywords about an object. -/
def inquireObject (value schema : Json) : Inquiry Question Bool :=
  match value with
  | .object none members => forAll id
      [answer ((naturalKeyword schema "minProperties").all (· ≤ (members.length : ℚ))),
        answer ((naturalKeyword schema "maxProperties").all ((members.length : ℚ) ≤ ·)),
        answer (((arrayKeyword schema "required").filterMap Json.asString?).all value.hasOwn),
        forAll (fun (property, child) => forAll (fun member => test (.schema .plain member child))
          (value.get? property).toList) (mapKeyword schema "properties"),
        forAll (fun (pattern, child) => forAll (fun (property, member) =>
            if R.matchesPattern pattern property then test (.schema .plain member child) else answer true)
          members) (mapKeyword schema "patternProperties"),
        inquireAdditional R members schema,
        answer ((mapKeyword schema "dependentRequired").all fun (property, dependencies) =>
          !value.hasOwn property ||
            ((dependencies.asArray?.getD []).filterMap Json.asString?).all value.hasOwn),
        forAll (fun (property, child) =>
            if value.hasOwn property then test (.schema .plain value child) else answer true)
          (mapKeyword schema "dependentSchemas"),
        forAll (fun child => forAll (fun (property, _) => test (.schema .plain (.string property) child)) members)
          (schema.get? "propertyNames").toList]
  | _ => answer true

/-- `allOf`, `anyOf` and `oneOf`. -/
def inquireCombining (value schema : Json) : Inquiry Question Bool := forAll id
  [forAll (fun child => test (.schema .plain value child)) (arrayKeyword schema "allOf"),
    ((schema.get? "anyOf").bind Json.asArray?).elim (answer true)
      (forSome fun child => test (.schema .plain value child)),
    ((schema.get? "oneOf").bind Json.asArray?).elim (answer true) fun schemas =>
      (count (fun child => test (.schema .condition value child)) schemas 0).bind fun matching =>
        answer (matching == 1)]

/-- `not`. -/
def inquireNot (value schema : Json) : Inquiry Question Bool :=
  (schema.get? "not").elim (answer true) fun child =>
    (test (.schema .condition value child)).bind fun held => answer !held

/-- `if`, `then` and `else`. -/
def inquireConditional (value schema : Json) : Inquiry Question Bool :=
  (schema.get? "if").elim (answer true) fun child =>
    (test (.schema .condition value child)).bind fun condition =>
      (schema.get? (if condition then "then" else "else")).elim (answer true) fun conditional =>
        test (.schema .plain value conditional)

/-- The keywords of a schema, in the order of `matchesSchema`. -/
def inquire (value schema : Json) : Inquiry Question Bool := forAll id
  [inquireReference R value schema,
    test (.type value schema),
    answer ((schema.get? "const").all (equalJson value)),
    answer (((schema.get? "enum").bind Json.asArray?).all fun entries => entries.any (equalJson value)),
    inquireNumber R value schema,
    inquireString R value schema,
    inquireArray value schema,
    inquireObject R value schema,
    inquireCombining value schema,
    inquireNot value schema,
    inquireConditional value schema]

/-- A schema asked about a value; `null` has no members to ask for. -/
def inquireSchema (value : Json) : Json → Option (Inquiry Question Bool)
  | .bool held => some (answer held)
  | .null => none
  | schema => some (inquire R value schema)

end Keywords

section Course

variable (R : Reading)

/-- The answer within so many levels of subschemas, where a subschema too deep does not hold; none
where a `TypeError` is thrown. -/
def reply : Nat → Question → Option Bool
  | _, .type value schema => judgeType R value schema
  | _, .multiple n divisor => some (R.isMultipleOf n divisor)
  | 0, .schema .. => some false
  | levels + 1, .schema _ value schema =>
    (inquireSchema R value schema).bind fun inquiry => inquiry.run (reply levels)

@[simp] theorem reply_type {R : Reading} {levels : Nat} {value schema : Json} :
    reply R levels (.type value schema) = judgeType R value schema := by
  cases levels <;> rfl

@[simp] theorem reply_multiple {R : Reading} {levels : Nat} {n divisor : JsNumber} :
    reply R levels (.multiple n divisor) = some (R.isMultipleOf n divisor) := by
  cases levels <;> rfl

/-- The questions a question leads to, with so many levels left to them. -/
def leadsTo (levels : Nat) : Question → List Question
  | .schema _ value schema => (inquireSchema R value schema).elim [] fun inquiry => inquiry.asked (reply R levels)
  | _ => []

theorem reply_schema {R : Reading} {levels : Nat} {use : Use} {value schema : Json} {inquiry : Inquiry Question Bool}
    (asks : inquireSchema R value schema = some inquiry) :
    reply R (levels + 1) (.schema use value schema) = inquiry.run (reply R levels) := by
  rw [reply, asks, Option.bind_some]

theorem leadsTo_schema {R : Reading} {levels : Nat} {use : Use} {value schema : Json}
    {inquiry : Inquiry Question Bool} (asks : inquireSchema R value schema = some inquiry) :
    leadsTo R levels (.schema use value schema) = inquiry.asked (reply R levels) := by
  rw [leadsTo, asks, Option.elim_some]

def Question.isSchema : Question → Bool
  | .schema .. => true
  | _ => false

def Question.isCondition : Question → Bool
  | .schema .condition _ _ => true
  | _ => false

/-- Whether a question can be answered without a `TypeError`. -/
def Question.isCallable : Question → Bool
  | .schema _ _ child => child != .null
  | .type _ child => (child.get? "type").all fun type => isString type || type.asArray?.isSome
  | .multiple .. => true

/-- How often the depth is at its limit on the way to an answer. -/
def limitsMet : Nat → Question → Nat
  | 0, question => if question.isSchema then 1 else 0
  | levels + 1, question => ((leadsTo R levels question).map (limitsMet levels)).sum

/-- How often it is inside a subschema whose result is inverted, counted or a condition. -/
def limitsInside : Nat → Question → Nat
  | 0, _ => 0
  | levels + 1, question => ((leadsTo R levels question).map fun next =>
      limitsInside levels next + if next.isCondition then limitsMet R levels next else 0).sum

/-- A question, and all that are asked on the way to its answer. -/
def comesTo : Nat → Question → List Question
  | 0, question => [question]
  | levels + 1, question => question :: (leadsTo R levels question).flatMap (comesTo levels)

/-- A question of the evaluation without a limit on its depth, where it ends. -/
def ComesTo (value root : Json) (question : Question) : Prop :=
  ∃ levels, limitsMet R levels (.schema .plain value root) = 0 ∧
    question ∈ comesTo R levels (.schema .plain value root)

end Course

end PiToPi.Validation
