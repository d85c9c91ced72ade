import PiToPi.Json
import Mathlib.Data.Rat.Floor

/-!
What the language says of a JSON value: the members it has, the number it is.
-/
namespace PiToPi

namespace JsNumber

/-- The number denoted. -/
def value (n : JsNumber) : ℚ :=
  (if n.negative then -1 else 1) * n.significand * 10 ^ n.exponent

/-- `Number.isInteger(value)`; the significand has no trailing zero. -/
def isInteger (n : JsNumber) : Bool := 0 ≤ n.exponent

/-- `Number.MAX_SAFE_INTEGER`. -/
def maxSafeInteger : Nat := 9007199254740991

/-- `Number.isSafeInteger(value)`. -/
def isSafeInteger (n : JsNumber) : Bool :=
  n.isInteger && -maxSafeInteger ≤ n.value && n.value ≤ maxSafeInteger

/-- `Object.is(value, -0)`. -/
def isNegativeZero (n : JsNumber) : Bool := n.negative && n.significand == 0

end JsNumber

namespace Json

/-- The own members of an object. -/
def members : Json → List (JsString × Json)
  | .object _ members => members
  | _ => []

/-- `hasOwn(value, key) ? value[key] : undefined`. -/
def get? (value : Json) (key : JsString) : Option Json :=
  (value.members.find? fun member => member.1 = key).map Prod.snd

/-- `hasOwn(value, key)`. -/
def hasOwn (value : Json) (key : JsString) : Bool := (value.get? key).isSome

/-- `isRecord(value)`: an object, and no array. -/
def isRecord : Json → Bool
  | .object .. => true
  | _ => false

def asString? : Json → Option JsString
  | .string text => some text
  | _ => none

def asNumber? : Json → Option JsNumber
  | .number n => some n
  | _ => none

def asBool? : Json → Option Bool
  | .bool flag => some flag
  | _ => none

def asArray? : Json → Option (List Json)
  | .array elements => some elements
  | _ => none

@[simp] theorem get?_cons (readOnly : Option (List JsString)) (key other : JsString) (value : Json)
    (rest : List (JsString × Json)) :
    (Json.object readOnly ((other, value) :: rest)).get? key =
      if other = key then some value else (Json.object readOnly rest).get? key := by
  unfold get? members
  by_cases same : other = key
  · simp [same]
  · simp [same]

theorem hasOwn_iff {value : Json} {key : JsString} :
    value.hasOwn key = true ↔ ∃ member, value.get? key = some member := Option.isSome_iff_exists

end Json

/-- `String(value)` of an element of an array: `null` is left empty. -/
def joinWith (separator : JsString) : List JsString → JsString
  | [] => ""
  | [text] => text
  | text :: rest => text ++ separator ++ joinWith separator rest

mutual
/-- `String(value)`. -/
def Json.toText : Json → JsString
  | .null => "null"
  | .bool flag => if flag then "true" else "false"
  | .number n => n.text
  | .string text => text
  | .array elements => joinWith "," (Json.elementTexts elements)
  | .object .. => "[object Object]"

/-- The elements of an array as `join` writes them. -/
def Json.elementTexts : List Json → List JsString
  | [] => []
  | .null :: rest => "" :: Json.elementTexts rest
  | .bool flag :: rest => (if flag then "true" else "false") :: Json.elementTexts rest
  | .number n :: rest => n.text :: Json.elementTexts rest
  | .string text :: rest => text :: Json.elementTexts rest
  | .array elements :: rest => joinWith "," (Json.elementTexts elements) :: Json.elementTexts rest
  | .object .. :: rest => "[object Object]" :: Json.elementTexts rest
end

end PiToPi
