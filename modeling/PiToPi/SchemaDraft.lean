import PiToPi.FloatRounding
import PiToPi.SchemaInquiry
import Mathlib.Data.Prod.Lex

/-!
Schemas as Draft 2020-12 means them: numbers are the rationals that the doubles denote, every
whole number is an integer, a multiple is one exactly, and a reference is the pointer or the
anchor it names. `matchesSchema` computes with doubles, which is modelled here as well.
-/
namespace PiToPi
open FloatRounding

namespace JsNumber

/-- The rational denoted by the double that the decimal stands for. -/
def exact (n : JsNumber) : ℚ := roundNearest 53 (-1074) n.value

/-- What `Number.prototype.toString` prefers a decimal for: few digits, closeness, an even last
digit. The value is there to tell decimals apart. -/
def preference (n : JsNumber) : ℕ ×ₗ ℚ ×ₗ ℕ ×ₗ ℚ :=
  toLex ((Nat.digits 10 n.significand).length,
    toLex (|n.value - n.exact|, toLex (n.significand % 2, n.value)))

/-- The decimal a double is written as. -/
def IsShortest (n : JsNumber) : Prop := ∀ m : JsNumber, m.exact = n.exact → n.preference ≤ m.preference

/-- `value / divisor`, of two finite numbers; `none` where it is infinite or `NaN`. -/
def quotient (n divisor : JsNumber) : Option ℚ :=
  if divisor.exact = 0 then none
  else if |roundNearest 53 (-1074) (n.exact / divisor.exact)| < 2 ^ 1024 then
    some (roundNearest 53 (-1074) (n.exact / divisor.exact))
  else none

/-- `Math.round(value)`. -/
def mathRound (q : ℚ) : ℤ := ⌊q + 1 / 2⌋

/-- `Math.abs(quotient - Math.round(quotient)) > 1e-12` fails, as it does for `NaN`. -/
def isMultipleOf (n divisor : JsNumber) : Bool :=
  (n.quotient divisor).all fun q =>
    |roundNearest 53 (-1074) (q - mathRound q)| ≤ roundNearest 53 (-1074) (1 / 10 ^ 12)

end JsNumber

namespace Validation

/-- A host with doubles. -/
def doubleHost (regExp : JsString → Option (JsString → Bool)) (compileDraft2020Schema : Json → Option (Json → Bool)) :
    SchemaHost where
  regExp
  isMultipleOf := JsNumber.isMultipleOf
  compileDraft2020Schema

/-- What a local reference refers to: a place in the schema, or the subschema with an anchor. -/
def draftRefers (root : Json) (reference : JsString) : Option Json :=
  if reference.units = [] ∨ reference.units.head? = some 0x23 then
    match pointerDecode reference with
    | some pointer => (followPointer root pointer).filter isSchemaValue
    | none => if 1 < reference.length then
        ((collectAnchors root).find? fun anchor => anchor.1 = ⟨reference.units.tail⟩).map Prod.snd
      else none
  else none

/-- Draft 2020-12. -/
def draftReading (regExp : JsString → Option (JsString → Bool)) (root : Json) : Reading where
  denotes := JsNumber.exact
  isInteger n := decide (n.exact.den = 1)
  isMultipleOf n divisor := decide ((n.exact / divisor.exact).den = 1)
  matchesPattern pattern text := (regExp pattern).any (· text)
  refers := draftRefers root

/-- No name is the anchor of two schemas. -/
def UniqueAnchors (root : Json) : Prop :=
  ∀ name first second, (name, first) ∈ collectAnchors root → (name, second) ∈ collectAnchors root → first = second

/-- The types a schema names. -/
def namedTypes (schema : Json) : List JsString :=
  match schema.get? "type" with
  | some (.string type) => [type]
  | some (.array types) => types.filterMap Json.asString?
  | _ => []

/-- A question that doubles do not mislead `matchesSchema` about. -/
def Question.Fits : Question → Prop
  | .type (.number n) child => ("integer" : JsString) ∈ namedTypes child → ("number" : JsString) ∉ namedTypes child →
      n.exact.den = 1 → |n.exact| ≤ JsNumber.maxSafeInteger
  | .multiple n divisor => n.isMultipleOf divisor = true → (n.exact / divisor.exact).den = 1
  | _ => True

end Validation
end PiToPi
