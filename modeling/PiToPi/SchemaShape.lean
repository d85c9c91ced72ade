import PiToPi.JsonText
import PiToPi.Validation

/-!
Schemas of responses (`protocol/validation.ts`): the shape of a schema, its regular
expressions and its references, as `validateJsonSchema` accepts them. Objects of a JSON value
are not shared, so that the walks meet none twice.
-/
namespace PiToPi.Validation

/-- What a schema needs of the host language and of the schema compiler. -/
structure SchemaHost where
  /-- `new RegExp(pattern, 'u')` with its `test`; `none` when it throws. -/
  regExp : JsString → Option (JsString → Bool)
  /-- `Math.abs(quotient - Math.round(quotient)) > 1e-12` fails for the quotient of two doubles. -/
  isMultipleOf : JsNumber → JsNumber → Bool
  /-- `compileDraft2020Schema(schema)`. -/
  compileDraft2020Schema : Json → Option (Json → Bool)

def maxSafeRegexPatternLength : Nat := 1024
def maxSafeRegexRepetitions : Nat := 256
def maxSafeRegexVariants : Nat := 256

section Patterns

/-- What follows a class of characters, from after its bracket. -/
def afterClass : List UInt16 → Option (List UInt16)
  | [] => none
  | [u] => if u == 0x5d then some [] else none
  | u :: v :: rest =>
    if u == 0x5c then afterClass rest
    else if u == 0x5d then some (v :: rest)
    else afterClass (v :: rest)

/-- What follows a closing brace, if there is one. -/
def afterBrace (input : List UInt16) : Option (List UInt16) :=
  match input.dropWhile (· != 0x7d) with
  | [] => none
  | _ :: rest => some rest

/-- The bounds of a quantifier and what follows it, from after its brace: the text after the
comma is `none` where there is no comma. -/
def quantifier (input : List UInt16) : Option (Nat × Option (List UInt16) × List UInt16) :=
  let minimum := input.takeWhile Json.isDigit
  if minimum.isEmpty then none
  else match input.dropWhile Json.isDigit with
    | 0x7d :: rest => some (Json.digitsValue minimum, none, rest)
    | 0x2c :: more =>
      match more.dropWhile Json.isDigit with
      | 0x7d :: rest => some (Json.digitsValue minimum, some (more.takeWhile Json.isDigit), rest)
      | _ => none
    | _ => none

/-- What a quantifier in braces does to the counts of quantifiers and variants. -/
def countQuantifier (minimum : Nat) (maximumText : Option (List UInt16))
    (unboundedQuantifiers finiteVariants : Nat) : Option (Nat × Nat) :=
  let maximum := (maximumText.map Json.digitsValue).getD minimum
  if maximumText = some [] ∨ JsNumber.maxSafeInteger < minimum ∨ JsNumber.maxSafeInteger < maximum then
    if 1 < unboundedQuantifiers + 1 then none else some (unboundedQuantifiers + 1, finiteVariants)
  else if maximum < minimum ∨ maxSafeRegexRepetitions < maximum ∨ maxSafeRegexRepetitions < minimum then
    none
  else if maxSafeRegexVariants < finiteVariants * (maximum - minimum + 1) then none
  else some (unboundedQuantifiers, finiteVariants * (maximum - minimum + 1))

/-- The scan of `validateRegexPattern`; every step takes at least one unit, and `fuel` is the
length of the pattern. -/
def isSafePattern : Nat → List UInt16 → Bool → Nat → Nat → Bool
  | _, [], _, _, _ => true
  | 0, _ :: _, _, _, _ => true
  | fuel + 1, character :: rest, canQuantify, unboundedQuantifiers, finiteVariants =>
    if character == 0x5c then
      match rest with
      | [] => true
      | escaped :: after =>
        if (0x31 ≤ escaped && escaped ≤ 0x39) || escaped == 0x6b then false
        else if escaped == 0x70 || escaped == 0x50 || (escaped == 0x75 && after.head? == some 0x7b) then
          isSafePattern fuel ((afterBrace after).getD rest) true unboundedQuantifiers finiteVariants
        else isSafePattern fuel after true unboundedQuantifiers finiteVariants
    else if character == 0x5b then
      isSafePattern fuel ((afterClass rest).getD rest) true unboundedQuantifiers finiteVariants
    else if character == 0x28 || character == 0x29 || character == 0x7c || character == 0x3f then false
    else if character == 0x2a || character == 0x2b then
      if !canQuantify || 1 < unboundedQuantifiers + 1 then false
      else isSafePattern fuel rest false (unboundedQuantifiers + 1) finiteVariants
    else
      match if character == 0x7b && canQuantify then quantifier rest else none with
      | some (minimum, maximumText, after) =>
        match countQuantifier minimum maximumText unboundedQuantifiers finiteVariants with
        | none => false
        | some (unboundedQuantifiers, finiteVariants) =>
          isSafePattern fuel after false unboundedQuantifiers finiteVariants
      | none => isSafePattern fuel rest true unboundedQuantifiers finiteVariants

/-- `validateRegexPattern(pattern, path, keyword)`. -/
def validateRegexPattern (H : SchemaHost) (pattern path keyword : JsString) : Check Unit := do
  requireField (pattern.length ≤ maxSafeRegexPatternLength) .incompatible path
    "regular expression exceeds the safety limit" keyword
  requireField (H.regExp pattern).isSome .malformed path "pattern is not a valid regular expression"
    keyword
  requireField (isSafePattern pattern.length pattern.units false 0 1) .incompatible path
    "regular expression uses unsupported or unsafe constructs" keyword

end Patterns

section References

/-- A unit of a text, or a byte written with a percent sign. -/
inductive Escaped where
  | unit (u : UInt16)
  | byte (b : Nat)

/-- A text with its percent signs read. -/
def readEscapes : List UInt16 → Option (List Escaped)
  | [] => some []
  | 0x25 :: high :: low :: rest => do
    let high ← Json.hexDigit? high
    let low ← Json.hexDigit? low
    return .byte (16 * high + low) :: (← readEscapes rest)
  | u :: rest => if u == 0x25 then none else do return .unit u :: (← readEscapes rest)

/-- The units of a code point. -/
def codePointUnits (codePoint : Nat) : List UInt16 :=
  if codePoint < 0x10000 then [codePoint.toUInt16]
  else [((codePoint - 0x10000) / 0x400 + 0xd800).toUInt16,
    ((codePoint - 0x10000) % 0x400 + 0xdc00).toUInt16]

/-- A character whose first bytes have been read: how many are to come, and what the next one
has to lie between. -/
structure OpenCharacter where
  needed : Nat
  codePoint : Nat
  lower : Nat
  upper : Nat

/-- The first byte of a character of several; there is none for surrogates and for forms that
are too long. -/
def openCharacter (b : Nat) : Option OpenCharacter :=
  if 0xc2 ≤ b ∧ b ≤ 0xdf then some ⟨1, b - 0xc0, 0x80, 0xbf⟩
  else if 0xe0 ≤ b ∧ b ≤ 0xef then
    some ⟨2, b - 0xe0, if b = 0xe0 then 0xa0 else 0x80, if b = 0xed then 0x9f else 0xbf⟩
  else if 0xf0 ≤ b ∧ b ≤ 0xf4 then
    some ⟨3, b - 0xf0, if b = 0xf0 then 0x90 else 0x80, if b = 0xf4 then 0x8f else 0xbf⟩
  else none

/-- Bytes that are the UTF-8 of characters. -/
def decodeBytes : Option OpenCharacter → List Escaped → Option (List UInt16)
  | none, [] => some []
  | some _, [] => none
  | none, .unit u :: rest => (decodeBytes none rest).map (u :: ·)
  | some _, .unit _ :: _ => none
  | none, .byte b :: rest =>
    if b < 0x80 then (decodeBytes none rest).map (b.toUInt16 :: ·)
    else match openCharacter b with
      | none => none
      | some character => decodeBytes (some character) rest
  | some character, .byte b :: rest =>
    if b < character.lower ∨ character.upper < b then none
    else
      let codePoint := character.codePoint * 0x40 + (b - 0x80)
      if character.needed = 1 then (decodeBytes none rest).map (codePointUnits codePoint ++ ·)
      else decodeBytes (some ⟨character.needed - 1, codePoint, 0x80, 0xbf⟩) rest

/-- `decodeURIComponent(value)`; `none` when it throws. -/
def decodeURIComponent (units : List UInt16) : Option (List UInt16) :=
  (readEscapes units).bind (decodeBytes none)

/-- `text.replace(/~1/g, '/')` and `text.replace(/~0/g, '~')`: a pair of units is replaced. -/
def replacePair (second replacement : UInt16) : List UInt16 → List UInt16
  | [] => []
  | [u] => [u]
  | u :: v :: rest =>
    if u == 0x7e && v == second then replacement :: replacePair second replacement rest
    else u :: replacePair second replacement (v :: rest)

/-- `pointerDecode(value)`. -/
def pointerDecode (value : JsString) : Option (List JsString) :=
  match value.units with
  | [] | [0x23] => some []
  | 0x23 :: 0x2f :: rest => do
    let fragment ← decodeURIComponent (0x2f :: rest)
    return (fragment.tail.splitOn 0x2f).map fun token => ⟨replacePair 0x30 0x7e (replacePair 0x31 0x2f token)⟩
  | _ => none

/-- `isSchemaValue(value)`. -/
def isSchemaValue (value : Json) : Bool :=
  match value with
  | .bool _ => true
  | _ => value.isPlainObject

/-- `/^(?:0|[1-9]\d*)$/u`. -/
def isArrayIndex (token : JsString) : Bool :=
  match token.units with
  | [0x30] => true
  | u :: rest => 0x31 ≤ u && u ≤ 0x39 && rest.all Json.isDigit
  | [] => false

/-- The walk of `resolveSchemaReference` along a pointer. -/
def followPointer : Json → List JsString → Option Json
  | current, [] => some current
  | .object none members, token :: rest => do
    let next ← (Json.record members).get? token
    followPointer next rest
  | .array elements, token :: rest => do
    guard (isArrayIndex token)
    let next ← elements[Json.digitsValue token.units]?
    followPointer next rest
  | _, _ :: _ => none

/-- `SchemaIndex`, as references are resolved in it. -/
structure SchemaIndex where
  root : Json
  anchors : JsMap JsString Json

/-- `resolveSchemaReference(index, reference)`. -/
def resolveSchemaReference (index : SchemaIndex) (reference : JsString) : Option Json :=
  if reference.units = [] ∨ reference.units.head? = some 0x23 then
    match pointerDecode reference with
    | some pointer => (followPointer index.root pointer).filter isSchemaValue
    | none => if 1 < reference.length then index.anchors.get? ⟨reference.units.tail⟩ else none
  else none

end References

section Shape

/-- A `$ref` that has been met, and where. -/
structure SchemaReference where
  ref : JsString
  path : JsString
  deriving DecidableEq

def jsonSchemaDraft202012 : JsString := "https://json-schema.org/draft/2020-12/schema"

def jsonSchemaTypes : List JsString :=
  ["null", "boolean", "object", "array", "number", "integer", "string"]

def formatAssertionVocabulary : JsString :=
  "https://json-schema.org/draft/2020-12/vocab/format-assertion"

def supportedRequiredVocabularies : List JsString :=
  ["https://json-schema.org/draft/2020-12/vocab/core",
    "https://json-schema.org/draft/2020-12/vocab/applicator",
    "https://json-schema.org/draft/2020-12/vocab/validation",
    "https://json-schema.org/draft/2020-12/vocab/meta-data",
    "https://json-schema.org/draft/2020-12/vocab/format-annotation",
    "https://json-schema.org/draft/2020-12/vocab/content"]

/-- `LOCAL_REFERENCE_PATTERN`. -/
def isLocalReference (reference : JsString) : Bool :=
  match reference.units with
  | [] => true
  | u :: rest => u == 0x23 && rest.all fun v => !JsString.isTrimmed v

def isAsciiLetter (u : UInt16) : Bool := (0x41 ≤ u && u ≤ 0x5a) || (0x61 ≤ u && u ≤ 0x7a)

/-- `SCHEMA_ANCHOR_PATTERN`. -/
def isSchemaAnchor (anchor : JsString) : Bool :=
  match anchor.units with
  | [] => false
  | u :: rest => isAsciiLetter u && rest.all fun v =>
      isAsciiLetter v || Json.isDigit v || v == 0x2e || v == 0x5f || v == 0x2d

def isString (value : Json) : Bool := value.asString?.isSome

/-- `isFiniteNumber(value)`; the numbers of JSON are finite. -/
def isFiniteNumber (value : Json) : Bool := value.asNumber?.isSome

/-- `isNonNegativeInteger(value)`. -/
def isNonNegativeInteger (value : Json) : Bool :=
  value.asNumber?.any fun n => n.isSafeInteger && 0 ≤ n.value

/-- An array of strings of which none is there twice. -/
def isUniqueStrings (value : Json) : Bool :=
  value.asArray?.any fun entries => entries.all isString && decide entries.Nodup

/-- A type name, or an array of some. -/
def isSchemaType (value : Json) : Bool :=
  match value with
  | .string name => jsonSchemaTypes.contains name
  | .array names => !names.isEmpty && decide names.Nodup &&
      names.all fun name => name.asString?.any jsonSchemaTypes.contains
  | _ => false

variable (H : SchemaHost)

/-- `validateSchemaKeywordType(schema, key, path, expected, reason)`. -/
def validateSchemaKeywordType (schema : Json) (key path : JsString) (expected : Json → Bool)
    (reason : JsString) : Check Unit :=
  requireField ((schema.get? key).all expected) .malformed (path ++ "." ++ key) reason key

/-- A keyword that is refused wherever it stands. -/
def refuseKeyword (schema : Json) (path reason key : JsString) : Check Unit :=
  requireField (!schema.hasOwn key) .incompatible (path ++ "." ++ key) reason key

/-- `addSchemaReference(references, value, path, '$ref')`. -/
def addSchemaReference (value : Json) (path : JsString) : Check SchemaReference :=
  match value.asString? with
  | none => .error (.issue
      ⟨.malformed, path ++ ".$ref", "schema reference must be a string", some "$ref"⟩)
  | some ref => do
    requireField (isLocalReference ref) .incompatible (path ++ ".$ref")
      "remote schema references are not supported" "$ref"
    return ⟨ref, path ++ ".$ref"⟩

/-- The vocabularies a schema names. -/
def validateVocabulary (vocabulary : Json) (path : JsString) : Check Unit := do
  requireField vocabulary.isPlainObject .malformed (path ++ ".$vocabulary")
    "$vocabulary must be an object" "$vocabulary"
  vocabulary.members.forM fun (name, required) => do
    requireField required.asBool?.isSome .malformed (path ++ ".$vocabulary." ++ name)
      "vocabulary requirement must be boolean" "$vocabulary"
    requireField (required != .bool true || supportedRequiredVocabularies.contains name) .incompatible
      (path ++ ".$vocabulary." ++ name)
      (if name = formatAssertionVocabulary then "format assertion vocabulary is not enabled"
        else "required schema vocabulary is not supported") "$vocabulary"

/-- The keywords of `validateSchemaShape` about the schema itself; its reference. -/
def validateCoreKeywords (value : Json) (path : JsString) : Check (List SchemaReference) := do
  validateSchemaKeywordType value "$schema" path isString "$schema must be a string"
  requireField ((value.get? "$schema").all (· == .string jsonSchemaDraft202012)) .incompatible
    (path ++ ".$schema") "only JSON Schema Draft 2020-12 is supported" "$schema"
  let references ← (value.get? "$ref").toList.mapM fun reference => addSchemaReference reference path
  refuseKeyword value path "$dynamicRef is not supported" "$dynamicRef"
  refuseKeyword value path "$recursiveRef is not supported" "$recursiveRef"
  validateSchemaKeywordType value "$anchor" path (fun anchor => anchor.asString?.any isSchemaAnchor)
    "schema anchor is invalid"
  refuseKeyword value path "dynamic anchors are not supported" "$dynamicAnchor"
  (value.get? "$vocabulary").toList.forM fun vocabulary => validateVocabulary vocabulary path
  return references

/-- The keywords of `validateSchemaShape` that bound a value. -/
def validateBoundKeywords (value : Json) (path : JsString) : Check Unit := do
  validateSchemaKeywordType value "type" path isSchemaType
    "type must be a JSON Schema type name or a non-empty array of unique type names"
  (["minLength", "maxLength", "minItems", "maxItems", "minProperties", "maxProperties"] :
    List JsString).forM fun key =>
      validateSchemaKeywordType value key path isNonNegativeInteger
        (key ++ " must be a non-negative integer")
  (["minimum", "maximum", "exclusiveMinimum", "exclusiveMaximum", "multipleOf"] :
    List JsString).forM fun key =>
      validateSchemaKeywordType value key path isFiniteNumber (key ++ " must be a finite number")
  validateSchemaKeywordType value "multipleOf" path (fun multipleOf => multipleOf.asNumber?.any (0 < ·.value))
    "multipleOf must be greater than zero"
  (["minContains", "maxContains"] : List JsString).forM fun key =>
    validateSchemaKeywordType value key path isNonNegativeInteger (key ++ " must be a non-negative integer")
  requireField (((value.get? "minContains").bind Json.asNumber?).all fun minContains =>
      ((value.get? "maxContains").bind Json.asNumber?).all fun maxContains =>
        minContains.value ≤ maxContains.value) .malformed path
    "minContains must not exceed maxContains" "minContains"

/-- The keywords of `validateSchemaShape` that list names and values. -/
def validateListKeywords (value : Json) (path : JsString) : Check Unit := do
  validateSchemaKeywordType value "required" path isUniqueStrings
    "required must be an array of unique strings"
  validateSchemaKeywordType value "dependentRequired" path Json.isPlainObject
    "dependentRequired must be an object"
  (((value.get? "dependentRequired").map Json.members).getD []).forM fun (property, dependencies) =>
    requireField (isUniqueStrings dependencies) .malformed (path ++ ".dependentRequired." ++ property)
      "dependency must be an array of unique strings" "dependentRequired"
  (["minProperties", "maxProperties"] : List JsString).forM fun key =>
    validateSchemaKeywordType value key path isNonNegativeInteger (key ++ " must be a non-negative integer")
  validateSchemaKeywordType value "enum" path (fun entries => entries.asArray?.any (!·.isEmpty))
    "enum must be a non-empty array"
  (["allOf", "anyOf", "oneOf"] : List JsString).forM fun key =>
    validateSchemaKeywordType value key path (fun schemas => schemas.asArray?.any (·.all isSchemaValue))
      (key ++ " must be an array of schemas")

/-- The keywords of `validateSchemaShape` about texts and items. -/
def validateTextKeywords (value : Json) (path : JsString) : Check Unit := do
  (["format", "pattern", "contentEncoding", "contentMediaType"] : List JsString).forM fun key =>
    validateSchemaKeywordType value key path isString (key ++ " must be a string")
  ((value.get? "pattern").bind Json.asString?).toList.forM fun pattern =>
    validateRegexPattern H pattern (path ++ ".pattern") "pattern"
  validateSchemaKeywordType value "uniqueItems" path (·.asBool?.isSome) "uniqueItems must be boolean"
  refuseKeyword value path "unevaluatedItems is not supported" "unevaluatedItems"
  refuseKeyword value path "unevaluatedProperties is not supported" "unevaluatedProperties"
  validateSchemaKeywordType value "contains" path isSchemaValue "contains must be a schema"

/-- The keywords whose value is a schema. -/
def schemaKeywords : List JsString :=
  ["additionalProperties", "contains", "else", "if", "items", "not", "propertyNames", "then"]

/-- The keywords whose value is an object of schemas. -/
def schemaMapKeywords : List JsString :=
  ["$defs", "definitions", "dependentSchemas", "patternProperties", "properties"]

/-- The keywords whose value is an array of schemas. -/
def combiningKeywords : List JsString := ["allOf", "anyOf", "oneOf"]

/-- The objects of schemas and `prefixItems`, before their schemas are walked. -/
def validateChildKeywords (value : Json) (path : JsString) : Check Unit := do
  schemaMapKeywords.forM fun key => do
    validateSchemaKeywordType value key path Json.isPlainObject (key ++ " must be an object of schemas")
    if key = "patternProperties" then
      (((value.get? key).map Json.members).getD []).forM fun (name, _) =>
        validateRegexPattern H name (path ++ "." ++ key ++ "." ++ name) key
  validateSchemaKeywordType value "prefixItems" path (·.asArray?.isSome)
    "prefixItems must be an array of schemas"

/-- `schemaChildren`: the values of the schema keywords, with their part of the path. -/
def schemaChildren (value : Json) : List (JsString × Json) :=
  schemaKeywords.filterMap (fun key => (value.get? key).map fun child => (key, child)) ++
    schemaMapKeywords.flatMap (fun key => (((value.get? key).map Json.members).getD []).map
      fun (name, child) => (key ++ "." ++ name, child)) ++
    (((value.get? "prefixItems").bind Json.asArray?).getD []).mapIdx
      fun index child => ("prefixItems." ++ JsString.ofNat index, child)

/-- The schemas of the combining keywords. -/
def combinedSchemas (value : Json) : List (JsString × Json) :=
  combiningKeywords.flatMap fun key => (((value.get? key).bind Json.asArray?).getD []).mapIdx
    fun index child => (key ++ "[" ++ JsString.ofNat index ++ "]", child)

theorem sizeOf_member_lt {value child : Json} {name : JsString} (inside : (name, child) ∈ value.members) :
    sizeOf child < sizeOf value := by
  cases value with
  | object readOnly members =>
    have bound := List.sizeOf_lt_of_mem (show (name, child) ∈ members from inside)
    simp only [Prod.mk.sizeOf_spec, Json.object.sizeOf_spec] at bound ⊢
    omega
  | null | bool _ | number _ | string _ | array _ => cases inside

theorem sizeOf_get?_lt {value member : Json} {key : JsString} (found : value.get? key = some member) :
    sizeOf member < sizeOf value := by
  obtain ⟨⟨name, child⟩, here, rfl⟩ := Option.map_eq_some_iff.mp found
  exact sizeOf_member_lt (List.mem_of_find?_eq_some here)

theorem sizeOf_element_lt {value child : Json} {elements : List Json} (array : value.asArray? = some elements)
    (inside : child ∈ elements) : sizeOf child < sizeOf value := by
  cases value with
  | array others =>
    cases array
    have bound := List.sizeOf_lt_of_mem inside
    simp only [Json.array.sizeOf_spec]
    omega
  | null | bool _ | number _ | string _ | object _ _ => cases array

/-- The schemas under a keyword that holds an array of them. -/
theorem sizeOf_arrayMember_lt {value child : Json} {key : JsString}
    (inside : child ∈ ((value.get? key).bind Json.asArray?).getD []) : sizeOf child < sizeOf value := by
  cases found : value.get? key with
  | none =>
    rw [found] at inside
    cases inside
  | some member =>
    rw [found] at inside
    cases array : member.asArray? with
    | none =>
      rw [Option.bind_some, array] at inside
      cases inside
    | some elements =>
      rw [Option.bind_some, array] at inside
      exact (sizeOf_element_lt array inside).trans (sizeOf_get?_lt found)

/-- The schemas under a keyword that holds an object of them. -/
theorem sizeOf_mapMember_lt {value child : Json} {key name : JsString}
    (inside : (name, child) ∈ ((value.get? key).map Json.members).getD []) :
    sizeOf child < sizeOf value := by
  cases found : value.get? key with
  | none =>
    rw [found] at inside
    cases inside
  | some member =>
    rw [found] at inside
    exact (sizeOf_member_lt inside).trans (sizeOf_get?_lt found)

/-- The walk is well-founded: children are smaller. -/
theorem sizeOf_schemaChildren_lt {value child : Json} {part : JsString}
    (inside : (part, child) ∈ schemaChildren value) : sizeOf child < sizeOf value := by
  unfold schemaChildren at inside
  rcases List.mem_append.mp inside with inside | inside
  · rcases List.mem_append.mp inside with inside | inside
    · obtain ⟨key, -, found⟩ := List.mem_filterMap.mp inside
      obtain ⟨member, found, same⟩ := Option.map_eq_some_iff.mp found
      cases same
      exact sizeOf_get?_lt found
    · obtain ⟨key, -, inside⟩ := List.mem_flatMap.mp inside
      obtain ⟨⟨name, member⟩, inside, same⟩ := List.mem_map.mp inside
      cases same
      exact sizeOf_mapMember_lt inside
  · obtain ⟨index, bound, same⟩ := List.mem_mapIdx.mp inside
    cases same
    exact sizeOf_arrayMember_lt (List.getElem_mem bound)

theorem sizeOf_combinedSchemas_lt {value child : Json} {part : JsString}
    (inside : (part, child) ∈ combinedSchemas value) : sizeOf child < sizeOf value := by
  obtain ⟨key, -, inside⟩ := List.mem_flatMap.mp inside
  obtain ⟨index, bound, same⟩ := List.mem_mapIdx.mp inside
  cases same
  exact sizeOf_arrayMember_lt (List.getElem_mem bound)

/-- `validateSchemaShape(value, path, seen, references)`. -/
def validateSchemaShape (value : Json) (path : JsString) : Check (List SchemaReference) :=
  match value with
  | .bool _ => return []
  | value => do
    require value.isPlainObject .malformed path "schema must be an object or boolean"
    let references ← validateCoreKeywords value path
    validateBoundKeywords value path
    validateListKeywords value path
    validateTextKeywords H value path
    validateChildKeywords H value path
    let below ← (schemaChildren value).attach.mapM fun ⟨(part, child), _inside⟩ => do
      requireField (isSchemaValue child) .malformed (path ++ "." ++ part)
        "keyword value must be a schema" part
      validateSchemaShape child (path ++ "." ++ part)
    let combined ← (combinedSchemas value).attach.mapM fun ⟨(part, child), _inside⟩ =>
      validateSchemaShape child (path ++ "." ++ part)
    return references ++ below.flatten ++ combined.flatten
termination_by sizeOf value
decreasing_by
  · exact sizeOf_schemaChildren_lt _inside
  · exact sizeOf_combinedSchemas_lt _inside

end Shape

section Index

/-- The children `collectSchemaIndex` walks to. -/
def collectedChildren (value : Json) : List Json :=
  (schemaMapKeywords.flatMap (fun key => (((value.get? key).filter Json.isPlainObject).map Json.members).getD []
      |>.map Prod.snd) ++
    (schemaKeywords ++ (["unevaluatedItems", "unevaluatedProperties"] : List JsString)).filterMap
      (value.get? ·) ++
    (((value.get? "prefixItems").bind Json.asArray?).getD []) ++
    combiningKeywords.flatMap fun key => ((value.get? key).bind Json.asArray?).getD []).filter isSchemaValue

theorem sizeOf_collectedChildren_lt {value child : Json} (inside : child ∈ collectedChildren value) :
    sizeOf child < sizeOf value := by
  have inside := (List.mem_filter.mp inside).1
  rcases List.mem_append.mp inside with inside | inside
  · rcases List.mem_append.mp inside with inside | inside
    · rcases List.mem_append.mp inside with inside | inside
      · obtain ⟨key, -, inside⟩ := List.mem_flatMap.mp inside
        obtain ⟨⟨name, member⟩, listed, rfl⟩ := List.mem_map.mp inside
        refine @sizeOf_mapMember_lt value member key name ?_
        cases found : value.get? key with
        | none =>
          rw [found] at listed
          cases listed
        | some schemas =>
          rw [found, Option.filter_some] at listed
          split at listed
          · exact listed
          · cases listed
      · obtain ⟨key, -, found⟩ := List.mem_filterMap.mp inside
        exact sizeOf_get?_lt found
    · exact sizeOf_arrayMember_lt inside
  · obtain ⟨key, -, inside⟩ := List.mem_flatMap.mp inside
    exact sizeOf_arrayMember_lt inside

/-- The anchors `collect` sets, in order. -/
def collectAnchors (value : Json) : List (JsString × Json) :=
  if value.isPlainObject then
    (((value.get? "$anchor").bind Json.asString?).toList.map fun anchor => (anchor, value)) ++
      (((value.get? "$dynamicAnchor").bind Json.asString?).toList.map fun anchor => (anchor, value)) ++
      (collectedChildren value).attach.flatMap fun ⟨child, _inside⟩ => collectAnchors child
  else []
termination_by sizeOf value
decreasing_by exact sizeOf_collectedChildren_lt _inside

/-- `collectSchemaIndex(root)`; a later anchor takes the place of an earlier one. -/
def collectSchemaIndex (root : Json) : SchemaIndex where
  root
  anchors := (collectAnchors root).foldl (fun anchors (anchor, value) => anchors.set anchor value) ∅

/-- `validateSchemaReferences(index)`. -/
def validateSchemaReferences (index : SchemaIndex) (references : List SchemaReference) : Check Unit :=
  references.forM fun reference =>
    requireField (resolveSchemaReference index reference.ref).isSome .malformed reference.path
      "schema reference does not resolve locally" "$ref"

/-- The checks of `validateJsonSchema` after its size is measured. -/
def checkSchema (H : SchemaHost) (schema : Json) : Check Unit := do
  let references ← validateSchemaShape H schema "$"
  validateSchemaReferences (collectSchemaIndex schema) references

/-- `validateJsonSchema(schema, options)`. -/
def validateJsonSchema (H : SchemaHost) (options : ValidationOptions) (schema : Json) :
    Except RangeError (ValidationResult Json) := do
  let limits ← resolveLimits options
  match measureJsonBytes limits.maxSchemaBytes schema with
  | .tooLarge _ =>
    return validationFailure .oversized "response schema exceeds the size limit" "$"
      "schema exceeds maxSchemaBytes" none
  | .invalid path reason =>
    return validationFailure .malformed "response schema is malformed" path reason none
  | .ok _ =>
    if !isSchemaValue schema then
      return validationFailure .malformed "response schema is malformed" "$"
        "schema must be an object or boolean" none
    match ← answerCheck (checkSchema H schema) schema with
    | .failure error => return .failure error
    | .success schema =>
      if (H.compileDraft2020Schema schema).isNone then
        return validationFailure .malformed
          "response schema is not supported by Draft 2020-12 validation" "$"
          "schema compilation failed" none
      return .success schema

end Index


end PiToPi.Validation
