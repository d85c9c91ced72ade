import PiToPi.Canonical
import PiToPi.Kleene

/-!
What a schema says of a value, without limits, paths or reasons (`judge`), and the values that
its subschemas are applied to. What is open in the meaning of the keywords is a `Reading`.

References may lead back to a schema, so that a schema can be asked about a value for ever. The
meaning is therefore given up to a number of steps into subschemas, in Kleene's logic: what is
known after some steps is known after more.
-/
namespace PiToPi.Validation

/-- How numbers, expressions and references are read. -/
structure Reading where
  denotes : JsNumber → ℚ
  isInteger : JsNumber → Bool
  isMultipleOf : JsNumber → JsNumber → Bool
  matchesPattern : JsString → JsString → Bool
  refers : JsString → Option Json

/-- What a subschema says of a value. -/
abbrev Judge := Json → Json → Option Bool

section Keywords

variable (R : Reading) (judge : Judge)

/-- `type`: a value has the type named. -/
def hasType (value : Json) (type : JsString) : Bool :=
  if type = "null" then value == .null
  else if type = "boolean" then value.asBool?.isSome
  else if type = "object" then value.isPlainObject
  else if type = "array" then value.asArray?.isSome
  else if type = "number" then value.asNumber?.isSome
  else if type = "integer" then value.asNumber?.any R.isInteger
  else if type = "string" then value.asString?.isSome
  else false

/-- `$ref`: the value satisfies the schema referred to. -/
def judgeReference (value schema : Json) : Option Bool :=
  match schemaReference schema with
  | none => some true
  | some reference =>
    match R.refers reference with
    | none => some false
    | some target => judge value target

/-- `type`: one of the types named. -/
def judgeType (value schema : Json) : Option Bool :=
  match schema.get? "type" with
  | none => some true
  | some (.string type) => some (hasType R value type)
  | some (.array types) => some (types.any fun type => type.asString?.any (hasType R value))
  | some _ => none

/-- `const`: the value is equal to it. -/
def judgeConst (value schema : Json) : Option Bool := some ((schema.get? "const").all (equalJson value))

/-- `enum`: the value is equal to one of the entries. -/
def judgeEnum (value schema : Json) : Option Bool :=
  some (((schema.get? "enum").bind Json.asArray?).all fun entries => entries.any (equalJson value))

/-- `multipleOf` and the bounds of a number. -/
def judgeNumber (value schema : Json) : Option Bool :=
  match value with
  | .number n => Kleene.all
      [some (((schema.get? "multipleOf").bind Json.asNumber?).all (R.isMultipleOf n)),
        some (((schema.get? "minimum").bind Json.asNumber?).all (R.denotes · ≤ R.denotes n)),
        some (((schema.get? "maximum").bind Json.asNumber?).all (R.denotes n ≤ R.denotes ·)),
        some (((schema.get? "exclusiveMinimum").bind Json.asNumber?).all (R.denotes · < R.denotes n)),
        some (((schema.get? "exclusiveMaximum").bind Json.asNumber?).all (R.denotes n < R.denotes ·))]
  | _ => some true

/-- The length of a string, in code points, and `pattern`. -/
def judgeString (value schema : Json) : Option Bool :=
  match value with
  | .string text => Kleene.all
      [some ((naturalKeyword schema "minLength").all (· ≤ (codePointLength text.units : ℚ))),
        some ((naturalKeyword schema "maxLength").all ((codePointLength text.units : ℚ) ≤ ·)),
        some (((schema.get? "pattern").bind Json.asString?).all fun pattern => R.matchesPattern pattern text)]
  | _ => some true

/-- `uniqueItems`: no two elements are equal. -/
def areDistinct (elements : List Json) : Bool :=
  decide (elements.Pairwise fun first second => equalJson first second = false)

/-- The elements `prefixItems` and `items` are about, each with its schema. -/
def itemApplications (elements : List Json) (schema : Json) : List (Json × Json) :=
  elements.zip (arrayKeyword schema "prefixItems") ++
    (schema.get? "items").toList.flatMap fun child =>
      (elements.drop (arrayKeyword schema "prefixItems").length).map fun element => (element, child)

/-- The numbers `contains` asks for; one at least where no bound is given. -/
def satisfiesContains (schema : Json) (matching : Nat) : Bool :=
  decide ((naturalKeyword schema "minContains").getD 1 ≤ matching) &&
    (naturalKeyword schema "maxContains").all ((matching : ℚ) ≤ ·)

/-- `contains`: so many elements satisfy it. -/
def judgeContains (elements : List Json) (schema : Json) : Option Bool :=
  (schema.get? "contains").elim (some true) fun child =>
    let results := elements.map fun element => judge element child
    if (naturalKeyword schema "maxContains").isSome then Kleene.count (satisfiesContains schema) results
    else Kleene.atLeast ((naturalKeyword schema "minContains").getD 1) results

/-- The keywords about an array. -/
def judgeArray (value schema : Json) : Option Bool :=
  match value with
  | .array elements => Kleene.all
      ([some ((naturalKeyword schema "minItems").all (· ≤ (elements.length : ℚ))),
        some ((naturalKeyword schema "maxItems").all ((elements.length : ℚ) ≤ ·)),
        some (schema.get? "uniqueItems" != some (.bool true) || areDistinct elements),
        judgeContains judge elements schema] ++
      (itemApplications elements schema).map fun (element, child) => judge element child)
  | _ => some true

/-- The properties no name and no expression of the schema is about. -/
def isAdditional (schema : Json) (property : JsString) : Bool :=
  !((mapKeyword schema "properties").map Prod.fst).contains property &&
    !((mapKeyword schema "patternProperties").map Prod.fst).any fun pattern => R.matchesPattern pattern property

/-- The members of an object its property keywords are about, each with its schema. -/
def memberApplications (members : List (JsString × Json)) (schema : Json) : List (Json × Json) :=
  ((mapKeyword schema "properties").flatMap fun (property, child) =>
      ((Json.record members).get? property).toList.map fun member => (member, child)) ++
    ((mapKeyword schema "patternProperties").flatMap fun (pattern, child) =>
      (members.filter fun member => R.matchesPattern pattern member.1).map fun member => (member.2, child)) ++
    (((schema.get? "additionalProperties").filter (· != .bool false)).toList.flatMap fun child =>
      (members.filter fun member => isAdditional R schema member.1).map fun member => (member.2, child)) ++
    (((mapKeyword schema "dependentSchemas").filter fun (property, _) => (Json.record members).hasOwn property).map
      fun (_, child) => (Json.record members, child)) ++
    ((schema.get? "propertyNames").toList.flatMap fun child =>
      members.map fun (property, _) => (Json.string property, child))

/-- The keywords about an object. -/
def judgeObject (value schema : Json) : Option Bool :=
  match value with
  | .object none members => Kleene.all
      ([some ((naturalKeyword schema "minProperties").all (· ≤ (members.length : ℚ))),
        some ((naturalKeyword schema "maxProperties").all ((members.length : ℚ) ≤ ·)),
        some (((arrayKeyword schema "required").filterMap Json.asString?).all value.hasOwn),
        some (schema.get? "additionalProperties" != some (.bool false) ||
          members.all fun member => !isAdditional R schema member.1),
        some ((mapKeyword schema "dependentRequired").all fun (property, dependencies) =>
          !value.hasOwn property ||
            ((dependencies.asArray?.getD []).filterMap Json.asString?).all value.hasOwn)] ++
      (memberApplications R members schema).map fun (member, child) => judge member child)
  | _ => some true

/-- `allOf`, `anyOf` and `oneOf`. -/
def judgeCombining (value schema : Json) : Option Bool := Kleene.all
  [Kleene.all ((arrayKeyword schema "allOf").map (judge value)),
    ((schema.get? "anyOf").bind Json.asArray?).elim (some true) fun schemas =>
      Kleene.any (schemas.map (judge value)),
    ((schema.get? "oneOf").bind Json.asArray?).elim (some true) fun schemas =>
      Kleene.count (· == 1) (schemas.map (judge value))]

/-- `not`. -/
def judgeNot (value schema : Json) : Option Bool :=
  (schema.get? "not").elim (some true) fun child => (judge value child).map not

/-- `if`, `then` and `else`. -/
def judgeConditional (value schema : Json) : Option Bool :=
  (schema.get? "if").elim (some true) fun child =>
    (judge value child).bind fun condition =>
      (schema.get? (if condition then "then" else "else")).elim (some true) (judge value)

end Keywords

variable (R : Reading)

/-- What a schema says of a value, as far as so many steps into subschemas tell. -/
def judge : Nat → Json → Json → Option Bool
  | 0, _, _ => none
  | _ + 1, _, .bool held => some held
  | _ + 1, _, .null => none
  | steps + 1, value, schema => Kleene.all
      [judgeReference R (judge steps) value schema,
        judgeType R value schema,
        judgeConst value schema,
        judgeEnum value schema,
        judgeNumber R value schema,
        judgeString R value schema,
        judgeArray (judge steps) value schema,
        judgeObject R (judge steps) value schema,
        judgeCombining (judge steps) value schema,
        judgeNot (judge steps) value schema,
        judgeConditional (judge steps) value schema]

/-- What the schema says of the value, if it says anything. -/
def Says (held : Bool) (value schema : Json) : Prop := ∃ steps, judge R steps value schema = some held

/-- How `matchesSchema` reads schemas. -/
def codeReading (H : SchemaHost) (index : SchemaIndex) : Reading where
  denotes := JsNumber.value
  isInteger := JsNumber.isSafeInteger
  isMultipleOf := H.isMultipleOf
  matchesPattern pattern text := (H.regExp pattern).any (· text)
  refers := resolveSchemaReference index

section Applications

/-- The values inside a value. -/
inductive Part (whole : Json) : Json → Prop where
  | whole : Part whole whole
  | element {elements : List Json} {element : Json} : Part whole (.array elements) → element ∈ elements →
      Part whole element
  | member {readOnly : Option (List JsString)} {members : List (JsString × Json)} {key : JsString} {member : Json} :
      Part whole (.object readOnly members) → (key, member) ∈ members → Part whole member

/-- The elements `contains` is asked about. -/
def containsApplications (elements : List Json) (schema : Json) : List (Json × Json) :=
  (schema.get? "contains").toList.flatMap fun child => elements.map fun element => (element, child)

/-- The values the subschemas of a schema are asked about, where their results are inverted,
counted or conditions. -/
def conditionApplications (value schema : Json) : List (Json × Json) :=
  (match value with
    | .array elements =>
      if (naturalKeyword schema "maxContains").isSome then containsApplications elements schema else []
    | _ => []) ++
  (arrayKeyword schema "oneOf" ++ (schema.get? "not").toList ++ (schema.get? "if").toList).map
    fun child => (value, child)

/-- The values the other subschemas are asked about, but for the one referred to. -/
def directApplications (value schema : Json) : List (Json × Json) :=
  (match value with
    | .array elements => itemApplications elements schema ++
        if (naturalKeyword schema "maxContains").isSome then [] else containsApplications elements schema
    | .object none members => memberApplications R members schema
    | _ => []) ++
  (arrayKeyword schema "allOf" ++ arrayKeyword schema "anyOf" ++
      if (schema.get? "if").isSome then (["then", "else"] : List JsString).filterMap (schema.get? ·)
      else []).map fun child => (value, child)

end Applications

end PiToPi.Validation
