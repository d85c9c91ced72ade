import PiToPi.SchemaShape

/-!
The evaluation of a schema on a value (`matchesSchema` of `protocol/validation.ts`).

Every stage of `matchesSchema` is a definition of its own, given the evaluation of the
subschemas as `evaluate`. Exceptions keep the state. The state also records the schemas
`matchesSchema` is called on, the expressions it runs and the depth limits it hits; no result
depends on the record.
-/
namespace PiToPi.Validation

/-- `SchemaContext`, but for its budget and its cache of expressions. -/
structure SchemaContext where
  index : SchemaIndex
  maxDepth : Nat
  maxOperations : Nat

/-- The budget of an evaluation, and its record. -/
structure Evaluation where
  operations : Nat
  exhausted : Bool
  evaluated : List Json
  ran : List JsString
  /-- How often a depth or a reference depth was at its limit. -/
  cutShort : Nat := 0
  /-- How often one was inside a subschema whose result is inverted, counted or a condition. -/
  cutInside : Nat := 0

/-- `SchemaValidationResult`. -/
inductive SchemaValidationResult where
  | valid
  | invalid (path reason : JsString)
  deriving DecidableEq

/-- A `TypeError`: a member of `null`, or a call of what is no function. -/
inductive TypeError where
  | typeError
  deriving DecidableEq

abbrev Evaluate (α : Type) := ExceptT TypeError (StateM Evaluation) α

section Budget

variable (context : SchemaContext)

/-- `consumeEvaluationBudget(budget, cost)`. -/
def consumeEvaluationBudget (cost : Nat) : Evaluate Bool := do
  let budget ← get
  if budget.exhausted then return false
  set { budget with
    operations := budget.operations + cost
    exhausted := context.maxOperations < budget.operations + cost }
  return budget.operations + cost ≤ context.maxOperations

/-- `budget.exhausted`. -/
def isExhausted : Evaluate Bool := do return (← get).exhausted

/-- A depth limit is hit. -/
def hitLimit : Evaluate PUnit := modify fun s => { s with cutShort := s.cutShort + 1 }

/-- The evaluation of a subschema whose result is inverted, counted or a condition. -/
def asCondition (code : Evaluate α) : Evaluate α := do
  let before ← get
  let result ← code
  modify fun s => { s with cutInside := s.cutInside + (s.cutShort - before.cutShort) }
  return result

def budgetFailure (path : JsString) : SchemaValidationResult :=
  .invalid path "schema evaluation budget exceeded"

def SchemaValidationResult.isValid : SchemaValidationResult → Bool
  | .valid => true
  | .invalid .. => false

/-- Checks one after the other, up to the first that fails. -/
def forAllValid (items : List α) (check : α → Evaluate SchemaValidationResult) :
    Evaluate SchemaValidationResult :=
  match items with
  | [] => return .valid
  | item :: rest => do
    match ← check item with
    | .valid => forAllValid rest check
    | failed => return failed

/-- A check that fails with a reason. -/
def validIf (held : Bool) (path reason : JsString) : Evaluate SchemaValidationResult :=
  return if held then .valid else .invalid path reason

end Budget

section Values

variable (context : SchemaContext)

/-- The order of `keys.sort()`. -/
def sortByKey (members : List (JsString × α)) : List (JsString × α) :=
  members.mergeSort fun a b => a.1.units.map UInt16.toNat ≤ b.1.units.map UInt16.toNat

/-- Checks in order, up to the first that fails. -/
def allTrue : List (Evaluate Bool) → Evaluate Bool
  | [] => return true
  | check :: rest => do if ← check then allTrue rest else return false

/-- The keys of both objects agree, in order. -/
def sameKeys (left : List (JsString × α)) (right : List (JsString × β)) : Bool :=
  (sortByKey left).map Prod.fst == (sortByKey right).map Prod.fst

mutual
/-- `deepEqualJson(left, right, budget)`, of values that are not the same object. -/
def deepEqualJson : Json → Json → Evaluate Bool
  | .array xs, right => do
    if !(← consumeEvaluationBudget context 1) then return false
    match right with
    | .array ys =>
      if xs.length = ys.length then
        allTrue (((deepEqualElements xs).zip ys).map fun (compare, y) => compare y)
      else return false
    | _ => return false
  | .object readOnly xs, right => do
    if !(← consumeEvaluationBudget context 1) then return false
    match readOnly, right with
    | none, .object none ys =>
      if sameKeys xs ys then
        allTrue (((sortByKey (deepEqualMembers xs)).zip (sortByKey ys)).map
          fun (compare, y) => compare.2 y.2)
      else return false
    | _, _ => return false
  | .number a, right => do
    if !(← consumeEvaluationBudget context 1) then return false
    return right.asNumber?.any fun b => a.value == b.value
  | left, right => do
    if !(← consumeEvaluationBudget context 1) then return false
    return left == right

/-- The comparisons with the elements of an array. -/
def deepEqualElements : List Json → List (Json → Evaluate Bool)
  | [] => []
  | x :: rest => deepEqualJson x :: deepEqualElements rest

/-- The comparisons with the members of an object. -/
def deepEqualMembers : List (JsString × Json) → List (JsString × (Json → Evaluate Bool))
  | [] => []
  | (key, x) :: rest => (key, deepEqualJson x) :: deepEqualMembers rest
end

/-- Texts in order; `none` as soon as one is refused. -/
def allTexts : List (Evaluate (Option JsString)) → Evaluate (Option (List JsString))
  | [] => return some []
  | text :: rest => do
    match ← text with
    | none => return none
    | some text => return (← allTexts rest).map (text :: ·)

mutual
/-- `canonicalizeJsonWithinBudget(value, budget)`; `none` when it throws, which its caller
catches. -/
def canonicalizeValue : Json → Evaluate (Option JsString)
  | .array elements => do
    if !(← consumeEvaluationBudget context 1) then return none
    return (← allTexts (canonicalElements elements)).map fun texts => "[" ++ joinWith "," texts ++ "]"
  | .object readOnly members => do
    if !(← consumeEvaluationBudget context 1) then return none
    if readOnly.isSome then return none
    return (← allTexts ((sortByKey (canonicalMembers members)).map Prod.snd)).map fun texts =>
      "\x7b" ++ joinWith "," texts ++ "\x7d"
  | value => do
    if !(← consumeEvaluationBudget context 1) then return none
    return some value.stringify

def canonicalElements : List Json → List (Evaluate (Option JsString))
  | [] => []
  | x :: rest => canonicalizeValue x :: canonicalElements rest

/-- A member is its key, which takes from the budget as well, and its value. -/
def canonicalMembers : List (JsString × Json) → List (JsString × Evaluate (Option JsString))
  | [] => []
  | (key, x) :: rest => (key, do
      if !(← consumeEvaluationBudget context 1) then return none
      return (← canonicalizeValue x).map fun text => Json.quote key ++ ":" ++ text) ::
    canonicalMembers rest
end

/-- `schemaTypeMatches(value, type)`. -/
def schemaTypeMatches (value : Json) (type : JsString) : Bool :=
  if type = "null" then value == .null
  else if type = "boolean" then value.asBool?.isSome
  else if type = "object" then value.isPlainObject
  else if type = "array" then value.asArray?.isSome
  else if type = "number" then value.asNumber?.isSome
  else if type = "integer" then value.asNumber?.any JsNumber.isSafeInteger
  else if type = "string" then value.asString?.isSome
  else false

/-- `Array.from(value).length`: pairs of surrogates are one. -/
def codePointLength : List UInt16 → Nat
  | [] => 0
  | [_] => 1
  | u :: v :: rest =>
    if JsString.isHighSurrogate u && JsString.isLowSurrogate v then 1 + codePointLength rest
    else 1 + codePointLength (v :: rest)

end Values

section Stages

variable (H : SchemaHost) (context : SchemaContext)

inductive RegexTest where
  | exhausted
  | tested (matched : Bool)

/-- `testSchemaRegex(context, pattern, value)`. -/
def testSchemaRegex (pattern value : JsString) : Evaluate RegexTest := do
  if !(← consumeEvaluationBudget context (min JsNumber.maxSafeInteger (pattern.length + value.length + 1)))
    then return .exhausted
  match H.regExp pattern with
  | none => return if ← isExhausted then .exhausted else .tested false
  | some test =>
    modify fun s => { s with ran := pattern :: s.ran }
    return .tested (test value)

/-- `schemaReference(schema)`. -/
def schemaReference (schema : Json) : Option JsString := (schema.get? "$ref").bind Json.asString?

/-- The value of a keyword that is a non-negative integer. -/
def naturalKeyword (schema : Json) (key : JsString) : Option ℚ :=
  (((schema.get? key).filter isNonNegativeInteger).bind Json.asNumber?).map JsNumber.value

/-- The value of a keyword that is a number. -/
def numberKeyword (schema : Json) (key : JsString) : Option ℚ :=
  ((schema.get? key).bind Json.asNumber?).map JsNumber.value

/-- The members of a keyword that is an object. -/
def mapKeyword (schema : Json) (key : JsString) : List (JsString × Json) :=
  (((schema.get? key).filter Json.isPlainObject).map Json.members).getD []

/-- The elements of a keyword that is an array. -/
def arrayKeyword (schema : Json) (key : JsString) : List Json :=
  ((schema.get? key).bind Json.asArray?).getD []

/-- The reference of a schema, and how often it is being followed. -/
def matchReference (activeRefs : JsMap JsString Nat) (schema : Json) (path : JsString)
    (follow : JsMap JsString Nat → Json → Evaluate SchemaValidationResult) :
    Evaluate SchemaValidationResult :=
  match schemaReference schema with
  | none => return .valid
  | some reference =>
    let referenceDepth := (activeRefs.get? reference).getD 0
    if context.maxDepth ≤ referenceDepth then do
      hitLimit
      return .invalid path "maximum schema reference depth exceeded"
    else match resolveSchemaReference context.index reference with
      | none => return .invalid path "schema reference does not resolve locally"
      | some target => follow (activeRefs.set reference (referenceDepth + 1)) target

/-- `type`; what is neither a name nor an array has no `some` to call. -/
def matchType (value schema : Json) (path : JsString) : Evaluate SchemaValidationResult :=
  match schema.get? "type" with
  | none => return .valid
  | some (.string type) =>
    validIf (schemaTypeMatches value type) path "value does not match schema type"
  | some (.array types) =>
    validIf (types.any fun type => type.asString?.any (schemaTypeMatches value)) path
      "value does not match schema type"
  | some _ => throw .typeError

/-- `const`. -/
def matchConst (value schema : Json) (path : JsString) : Evaluate SchemaValidationResult :=
  match schema.get? "const" with
  | none => return .valid
  | some expected => do
    if ← deepEqualJson context value expected then return .valid
    return if ← isExhausted then budgetFailure path else .invalid path "value does not match const"

/-- The loop over the values of `enum`. -/
def matchEntries (value : Json) (path : JsString) : List Json → Evaluate SchemaValidationResult
  | [] => return .invalid path "value is not in enum"
  | entry :: rest => do
    if ← deepEqualJson context value entry then return .valid
    if ← isExhausted then return budgetFailure path
    matchEntries value path rest

/-- `enum`. -/
def matchEnum (value schema : Json) (path : JsString) : Evaluate SchemaValidationResult :=
  match (schema.get? "enum").bind Json.asArray? with
  | none => return .valid
  | some entries => matchEntries context value path entries

/-- The keywords about a number. -/
def matchNumber (value schema : Json) (path : JsString) : Evaluate SchemaValidationResult :=
  match value with
  | .number n => forAllValid
      [(((schema.get? "multipleOf").bind Json.asNumber?).all (H.isMultipleOf n),
          ("number is not a multipleOf value" : JsString)),
        ((numberKeyword schema "minimum").all (· ≤ n.value), "number is below minimum"),
        ((numberKeyword schema "maximum").all (n.value ≤ ·), "number is above maximum"),
        ((numberKeyword schema "exclusiveMinimum").all (· < n.value),
          "number is not above exclusiveMinimum"),
        ((numberKeyword schema "exclusiveMaximum").all (n.value < ·),
          "number is not below exclusiveMaximum")]
      fun (held, reason) => validIf held path reason
  | _ => return .valid

/-- `pattern`. -/
def matchPattern (text : JsString) (schema : Json) (path : JsString) :
    Evaluate SchemaValidationResult :=
  match (schema.get? "pattern").bind Json.asString? with
  | none => return .valid
  | some pattern => do
    match ← testSchemaRegex H context pattern text with
    | .exhausted => return budgetFailure path
    | .tested matched => validIf matched path "string does not match pattern"

/-- The keywords about a string. -/
def matchString (value schema : Json) (path : JsString) : Evaluate SchemaValidationResult :=
  match value with
  | .string text => forAllValid
      [validIf ((naturalKeyword schema "minLength").all (· ≤ (codePointLength text.units : ℚ))) path
          "string is shorter than minLength",
        validIf ((naturalKeyword schema "maxLength").all ((codePointLength text.units : ℚ) ≤ ·)) path
          "string is longer than maxLength",
        matchPattern H context text schema path] id
  | _ => return .valid

/-- The loop of `uniqueItems` over the items of an array. -/
def matchUnique (path : JsString) : List Json → List JsString → Evaluate SchemaValidationResult
  | [], _ => return .valid
  | item :: rest, signatures => do
    if !(← consumeEvaluationBudget context 1) then return budgetFailure path
    match ← canonicalizeValue context item with
    | none => return if ← isExhausted then budgetFailure path
        else .invalid path "array items are not valid JSON"
    | some signature =>
      if signatures.contains signature then return .invalid path "array items are not unique"
      matchUnique path rest (signature :: signatures)

/-- How subschemas are evaluated: of a value, a schema and a path. -/
abbrev Evaluator := Json → Json → JsString → Evaluate SchemaValidationResult

/-- How many of the values match; `none` when the budget is exhausted. -/
def countMatching (check : α → Evaluate SchemaValidationResult) : List α → Nat → Evaluate (Option Nat)
  | [], matching => return some matching
  | item :: rest, matching => do
    let result ← check item
    if ← isExhausted then return none
    countMatching check rest (if result.isValid then matching + 1 else matching)

/-- The path of an element. -/
def elementPath (path : JsString) (index : Nat) : JsString := path ++ "[" ++ JsString.ofNat index ++ "]"

/-- `contains`, with its bounds. -/
def matchContains (elements : List Json) (schema : Json) (path : JsString) (evaluate : Evaluator) :
    Evaluate SchemaValidationResult :=
  match schema.get? "contains" with
  | none => return .valid
  | some child => do
    let bounded := (naturalKeyword schema "maxContains").isSome
    match ← countMatching (fun (element, index) =>
        if bounded then asCondition (evaluate element child (elementPath path index))
        else evaluate element child (elementPath path index)) elements.zipIdx 0 with
    | none => return budgetFailure path
    | some matching =>
      validIf (decide ((naturalKeyword schema "minContains").getD 1 ≤ matching) &&
          (naturalKeyword schema "maxContains").all ((matching : ℚ) ≤ ·)) path
        "array does not satisfy contains"

/-- The keywords about an array. -/
def matchArray (value schema : Json) (path : JsString) (evaluate : Evaluator) :
    Evaluate SchemaValidationResult :=
  match value with
  | .array elements =>
    let prefixItems := arrayKeyword schema "prefixItems"
    forAllValid
      [validIf ((naturalKeyword schema "minItems").all (· ≤ (elements.length : ℚ))) path
          "array is shorter than minItems",
        validIf ((naturalKeyword schema "maxItems").all ((elements.length : ℚ) ≤ ·)) path
          "array is longer than maxItems",
        if schema.get? "uniqueItems" = some (.bool true) then matchUnique context path elements []
          else return .valid,
        forAllValid (elements.zipIdx.zip prefixItems) fun ((element, index), child) =>
          evaluate element child (elementPath path index),
        forAllValid (schema.get? "items").toList fun child =>
          forAllValid (elements.zipIdx.drop prefixItems.length) fun (element, index) =>
            evaluate element child (elementPath path index),
        matchContains elements schema path evaluate] id
  | _ => return .valid

/-- A pattern of `patternProperties` and its schema, on the members of an object. -/
def matchPatternProperty (members : List (JsString × Json)) (path : JsString) (evaluate : Evaluator)
    (pattern : JsString) (child : Json) : Evaluate SchemaValidationResult :=
  forAllValid members fun (property, member) => do
    match ← testSchemaRegex H context pattern property with
    | .exhausted => return budgetFailure path
    | .tested true => evaluate member child (path ++ "." ++ property)
    | .tested false => return .valid

/-- Whether a pattern matches a property; `none` when the budget is exhausted. -/
def matchesSomePattern (property : JsString) : List JsString → Evaluate (Option Bool)
  | [] => return some false
  | pattern :: rest => do
    match ← testSchemaRegex H context pattern property with
    | .exhausted => return none
    | .tested true => return some true
    | .tested false => matchesSomePattern property rest

/-- `additionalProperties`. -/
def matchAdditional (members : List (JsString × Json)) (schema : Json) (path : JsString)
    (evaluate : Evaluator) : Evaluate SchemaValidationResult :=
  match schema.get? "additionalProperties" with
  | none => return .valid
  | some child =>
    let known := (mapKeyword schema "properties").map Prod.fst
    forAllValid (members.filter fun member => !known.contains member.1) fun (property, member) => do
      match ← matchesSomePattern H context property ((mapKeyword schema "patternProperties").map Prod.fst) with
      | none => return budgetFailure path
      | some true => return .valid
      | some false =>
        if child = .bool false then
          return .invalid (path ++ "." ++ property) "additional property is not allowed"
        evaluate member child (path ++ "." ++ property)

/-- The keywords about an object. -/
def matchObject (value schema : Json) (path : JsString) (evaluate : Evaluator) :
    Evaluate SchemaValidationResult :=
  match value with
  | .object none members => forAllValid
      [validIf ((naturalKeyword schema "minProperties").all (· ≤ (members.length : ℚ))) path
          "object has fewer than minProperties",
        validIf ((naturalKeyword schema "maxProperties").all ((members.length : ℚ) ≤ ·)) path
          "object has more than maxProperties",
        forAllValid ((arrayKeyword schema "required").filterMap Json.asString?) fun required =>
          validIf (value.hasOwn required) (path ++ "." ++ required) "required property is missing",
        forAllValid (mapKeyword schema "properties") fun (property, child) =>
          forAllValid (value.get? property).toList fun member =>
            evaluate member child (path ++ "." ++ property),
        forAllValid (mapKeyword schema "patternProperties") fun (pattern, child) =>
          matchPatternProperty H context members path evaluate pattern child,
        matchAdditional H context members schema path evaluate,
        forAllValid (mapKeyword schema "dependentRequired") fun (property, dependencies) =>
          if value.hasOwn property then
            forAllValid ((dependencies.asArray?.getD []).filterMap Json.asString?) fun dependency =>
              validIf (value.hasOwn dependency) (path ++ "." ++ dependency) "dependent property is missing"
          else return .valid,
        forAllValid (mapKeyword schema "dependentSchemas") fun (property, child) =>
          if value.hasOwn property then evaluate value child path else return .valid,
        forAllValid (schema.get? "propertyNames").toList fun child =>
          forAllValid members fun (property, _) =>
            evaluate (.string property) child (path ++ "." ++ property)] id
  | _ => return .valid

/-- The loop of `anyOf`. -/
def matchAny (value : Json) (path : JsString) (evaluate : Evaluator) :
    List Json → Evaluate SchemaValidationResult
  | [] => return .invalid path "value does not match anyOf"
  | child :: rest => do
    if (← evaluate value child path).isValid then return .valid
    if ← isExhausted then return budgetFailure path
    matchAny value path evaluate rest

/-- `allOf`, `anyOf` and `oneOf`. -/
def matchCombining (value schema : Json) (path : JsString) (evaluate : Evaluator) :
    Evaluate SchemaValidationResult :=
  forAllValid
    [forAllValid (arrayKeyword schema "allOf") fun child => evaluate value child path,
      match (schema.get? "anyOf").bind Json.asArray? with
      | none => return .valid
      | some schemas => matchAny value path evaluate schemas,
      match (schema.get? "oneOf").bind Json.asArray? with
      | none => return .valid
      | some schemas => do
        match ← countMatching (fun child => asCondition (evaluate value child path)) schemas 0 with
        | none => return budgetFailure path
        | some matching =>
          validIf (matching == 1) path "value does not match exactly one oneOf schema"] id

/-- `not`. -/
def matchNot (value schema : Json) (path : JsString) (evaluate : Evaluator) :
    Evaluate SchemaValidationResult :=
  match schema.get? "not" with
  | none => return .valid
  | some child => do
    let result ← asCondition (evaluate value child path)
    if ← isExhausted then return budgetFailure path
    validIf (!result.isValid) path "value matches a disallowed not schema"

/-- `if`, `then` and `else`. -/
def matchConditional (value schema : Json) (path : JsString) (evaluate : Evaluator) :
    Evaluate SchemaValidationResult :=
  match schema.get? "if" with
  | none => return .valid
  | some child => do
    let condition ← asCondition (evaluate value child path)
    if ← isExhausted then return budgetFailure path
    match schema.get? (if condition.isValid then "then" else "else") with
    | none => return .valid
    | some conditional => evaluate value conditional path

/-- `matchesSchema(value, schema, context, path, depth, activeRefs)`; `levels` is what `depth`
leaves of `maxDepth`, and `null` has no members to ask for. -/
def matchesSchema : Nat → Json → Json → JsString → JsMap JsString Nat → Evaluate SchemaValidationResult
  | levels, value, schema, path, activeRefs => do
    modify fun s => { s with evaluated := schema :: s.evaluated }
    if !(← consumeEvaluationBudget context 1) then return budgetFailure path
    match levels, schema with
    | 0, _ => do
      hitLimit
      return .invalid path "maximum schema evaluation depth exceeded"
    | _ + 1, .bool held => validIf held path "boolean schema is false"
    | _ + 1, .null => throw .typeError
    | levels + 1, schema =>
      let evaluate : Evaluator := fun value schema path => matchesSchema levels value schema path activeRefs
      forAllValid
        [matchReference context activeRefs schema path fun activeRefs target =>
            matchesSchema levels value target path activeRefs,
          matchType value schema path,
          matchConst context value schema path,
          matchEnum context value schema path,
          matchNumber H value schema path,
          matchString H context value schema path,
          matchArray context value schema path evaluate,
          matchObject H context value schema path evaluate,
          matchCombining value schema path evaluate,
          matchNot value schema path evaluate,
          matchConditional value schema path evaluate] id

end Stages

end PiToPi.Validation
