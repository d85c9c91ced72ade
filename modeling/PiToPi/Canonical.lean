import PiToPi.SchemaMatch

/-!
Canonical JSON (`canonicalizeJson` of `protocol/validation.ts`) and the comparison of JSON
values, both without a budget, and what they are for: equality up to the order of keys.
-/
namespace PiToPi.Validation

mutual
/-- `canonicalizeJson(value)`; `none` when it throws. -/
def canonicalizeJson : Json → Option JsString
  | .array elements => (canonicalizeElements elements).map fun texts => "[" ++ joinWith "," texts ++ "]"
  | .object readOnly members =>
    if readOnly.isSome then none
    else (((sortByKey (canonicalizeMembers members)).map Prod.snd).mapM id).map fun texts =>
      "\x7b" ++ joinWith "," texts ++ "\x7d"
  | value => some value.stringify

def canonicalizeElements : List Json → Option (List JsString)
  | [] => some []
  | x :: rest => do return (← canonicalizeJson x) :: (← canonicalizeElements rest)

/-- The text of each member under its key. -/
def canonicalizeMembers : List (JsString × Json) → List (JsString × Option JsString)
  | [] => []
  | (key, x) :: rest =>
    (key, (canonicalizeJson x).map fun text => Json.quote key ++ ":" ++ text) :: canonicalizeMembers rest
end

mutual
/-- `deepEqualJson(left, right)`. -/
def equalJson : Json → Json → Bool
  | .array xs, .array ys => equalElements xs ys
  | .object none xs, .object none ys =>
    sameKeys xs ys && ((sortByKey (equalMembers xs)).zip (sortByKey ys)).all fun (compare, y) => compare.2 y.2
  | .number a, .number b => a.value == b.value
  | .array _, _ | .object .., _ | .number _, _ => false
  | left, right => left == right

def equalElements : List Json → List Json → Bool
  | [], [] => true
  | x :: xs, y :: ys => equalJson x y && equalElements xs ys
  | _, _ => false

/-- The comparisons with the members of an object. -/
def equalMembers : List (JsString × Json) → List (JsString × (Json → Bool))
  | [] => []
  | (key, x) :: rest => (key, equalJson x) :: equalMembers rest
end

/-- Equality up to the order of the keys of objects. -/
inductive Same : Json → Json → Prop where
  | null : Same .null .null
  | bool {flag : Bool} : Same (.bool flag) (.bool flag)
  | number {a b : JsNumber} : a.value = b.value → Same (.number a) (.number b)
  | string {text : JsString} : Same (.string text) (.string text)
  | array {xs ys : List Json} : xs.length = ys.length →
      (∀ (index : Nat) (x y : Json), xs[index]? = some x → ys[index]? = some y → Same x y) →
      Same (.array xs) (.array ys)
  | object {xs ys : List (JsString × Json)} :
      (∀ key, (Json.record xs).hasOwn key = (Json.record ys).hasOwn key) →
      (∀ (key : JsString) (x y : Json), (Json.record xs).get? key = some x →
        (Json.record ys).get? key = some y → Same x y) →
      Same (.record xs) (.record ys)

mutual
/-- A JSON value: its objects are plain, and have no key twice. -/
def isJsonData : Json → Bool
  | .array elements => areJsonData elements
  | .object readOnly members =>
    readOnly.isNone && decide (members.map Prod.fst).Nodup && membersAreJsonData members
  | .null | .bool _ | .number _ | .string _ => true

def areJsonData : List Json → Bool
  | [] => true
  | x :: rest => isJsonData x && areJsonData rest

def membersAreJsonData : List (JsString × Json) → Bool
  | [] => true
  | (_, x) :: rest => isJsonData x && membersAreJsonData rest
end

end PiToPi.Validation
