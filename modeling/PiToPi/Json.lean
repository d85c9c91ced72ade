import Mathlib.Data.List.Basic
import Mathlib.Data.Nat.Digits.Defs

/-!
JSON values as the host language has them, and the text `JSON.stringify` writes
for them.

Strings are sequences of UTF-16 code units, so that lone surrogates exist. A
finite number is kept as the shortest decimal that denotes it, which is what
`Number.prototype.toString` prints; negative zero is the number with the sign
and no digits, and prints as `0`.

An object that came out of `JSON.parse` is plain. Copying one member by member
with `copy[key] = value` is not harmless: the key `__proto__` names no member
but the prototype, so the copy loses it and may stop being plain. `object` keeps
what there is to know about the prototype: nothing for a plain object, and
otherwise the names it makes read-only.
-/
namespace PiToPi

/-- A string: UTF-16 code units. -/
structure JsString where
  units : List UInt16
  deriving DecidableEq, Repr, Inhabited

namespace JsString

/-- The code units of one Unicode scalar value. -/
def ofChar (c : Char) : List UInt16 :=
  if c.toNat < 0x10000 then [c.toNat.toUInt16]
  else [((c.toNat - 0x10000) / 0x400 + 0xd800).toUInt16,
    ((c.toNat - 0x10000) % 0x400 + 0xdc00).toUInt16]

def ofString (s : String) : JsString := ⟨s.toList.flatMap ofChar⟩

instance : Coe String JsString := ⟨ofString⟩

/-- `string.length`. -/
def length (s : JsString) : Nat := s.units.length

instance : Append JsString := ⟨fun a b => ⟨a.units ++ b.units⟩⟩

/-- Decimal digits of a natural number. -/
def ofNat (n : Nat) : JsString := ofString (toString n)

/-- A code unit that starts a surrogate pair. -/
def isHighSurrogate (u : UInt16) : Bool := 0xd800 ≤ u && u ≤ 0xdbff

/-- A code unit that ends a surrogate pair. -/
def isLowSurrogate (u : UInt16) : Bool := 0xdc00 ≤ u && u ≤ 0xdfff

/-- White space and line terminators, as `trim` removes them. -/
def isTrimmed (u : UInt16) : Bool :=
  (0x09 ≤ u && u ≤ 0x0d) || u == 0x20 || u == 0xa0 || u == 0x1680 || (0x2000 ≤ u && u ≤ 0x200a) ||
    u == 0x2028 || u == 0x2029 || u == 0x202f || u == 0x205f || u == 0x3000 || u == 0xfeff

/-- `string.trim()`. -/
def trim (s : JsString) : JsString :=
  ⟨((s.units.dropWhile isTrimmed).reverse.dropWhile isTrimmed).reverse⟩

/-- `Buffer.byteLength(string, 'utf8')`: a lone surrogate is written as U+FFFD,
three bytes like every other unit from 0x800 on. -/
def utf8Length : List UInt16 → Nat
  | [] => 0
  | u :: v :: rest =>
    if isHighSurrogate u && isLowSurrogate v then 4 + utf8Length rest
    else (if u < 0x80 then 1 else if u < 0x800 then 2 else 3) + utf8Length (v :: rest)
  | [u] => if u < 0x80 then 1 else if u < 0x800 then 2 else 3

def byteLength (s : JsString) : Nat := utf8Length s.units

end JsString

/-- A finite number, as the shortest decimal `significand * 10 ^ exponent` that
denotes it. -/
structure JsNumber where
  negative : Bool
  significand : Nat
  exponent : Int
  /-- No trailing zero, and zero has no exponent. -/
  shortest : if significand = 0 then exponent = 0 else significand % 10 ≠ 0
  deriving DecidableEq

namespace JsNumber

/-- The decimal with its trailing zeros moved into the exponent; `fuel` bounds
their number. -/
def stripZeros : Nat → Nat → Int → Nat × Int
  | 0, s, e => (s, e)
  | fuel + 1, s, e => if s % 10 = 0 ∧ s ≠ 0 then stripZeros fuel (s / 10) (e + 1) else (s, e)

theorem stripZeros_shortest {fuel s : Nat} {e : Int} (bound : s < 10 ^ fuel) (positive : s ≠ 0) :
    (stripZeros fuel s e).1 % 10 ≠ 0 ∧ (stripZeros fuel s e).1 ≠ 0 := by
  induction fuel generalizing s e with
  | zero => omega
  | succ fuel ih =>
    by_cases trailing : s % 10 = 0
    · simp only [stripZeros, trailing, positive, ne_eq, not_false_eq_true, and_self, ↓reduceIte]
      exact ih (by rw [pow_succ] at bound; omega) (by omega)
    · simp [stripZeros, trailing, positive]

theorem zero_shortest : if (0 : Nat) = 0 then (0 : Int) = 0 else (0 : Nat) % 10 ≠ 0 := by
  simp

theorem stripped_shortest {s : Nat} {e : Int} (positive : ¬s = 0) :
    if (stripZeros s s e).1 = 0 then (stripZeros s s e).2 = 0 else (stripZeros s s e).1 % 10 ≠ 0 := by
  have bound : s < 10 ^ s := Nat.lt_pow_self (by omega)
  have stripped := stripZeros_shortest (e := e) bound positive
  rw [if_neg stripped.2]
  exact stripped.1

/-- A natural number. -/
def ofNat (n : Nat) : JsNumber :=
  if zero : n = 0 then ⟨false, 0, 0, zero_shortest⟩
  else
    { negative := false
      significand := (stripZeros n n 0).1
      exponent := (stripZeros n n 0).2
      shortest := stripped_shortest zero }

/-- `value > 0`. -/
def isPositive (n : JsNumber) : Bool := !n.negative && n.significand != 0

/-- `n` zeros. -/
def zeros (n : Nat) : String := String.ofList (List.replicate n '0')

/-- `Number.prototype.toString` of a non-negative number: with `k` digits and the
decimal point after the `n`th, as the language specification lays it out. -/
def magnitudeText (significand : Nat) (exponent : Int) : String :=
  let digits := toString significand
  let k : Int := digits.length
  let n : Int := k + exponent
  if significand = 0 then "0"
  else if k ≤ n ∧ n ≤ 21 then digits ++ zeros (n - k).toNat
  else if 0 < n ∧ n ≤ 21 then
    String.ofList (digits.toList.take n.toNat) ++ "." ++ String.ofList (digits.toList.drop n.toNat)
  else if -6 < n ∧ n ≤ 0 then "0." ++ zeros (-n).toNat ++ digits
  else
    let mantissa := if k = 1 then digits
      else String.ofList (digits.toList.take 1) ++ "." ++ String.ofList (digits.toList.drop 1)
    mantissa ++ "e" ++ (if 0 ≤ n - 1 then "+" else "-") ++ toString (n - 1).natAbs

/-- `String(number)`. -/
def text (n : JsNumber) : JsString :=
  let magnitude := magnitudeText n.significand n.exponent
  if n.negative && n.significand != 0 then .ofString ("-" ++ magnitude) else .ofString magnitude

end JsNumber

/-- A JSON value. The members of an object are its own, in the order the host
enumerates them. -/
inductive Json where
  | null
  | bool (value : Bool)
  | number (value : JsNumber)
  | string (value : JsString)
  | array (elements : List Json)
  | object (readOnly : Option (List JsString)) (members : List (JsString × Json))

namespace Json

/-- A plain object. -/
abbrev record (members : List (JsString × Json)) : Json := .object none members

/-- `isPlainObject(value)`. -/
def isPlainObject : Json → Bool
  | .object none _ => true
  | _ => false

mutual
/-- Decidable equality, by the structure of the values. -/
def decEq : (a b : Json) → Decidable (a = b)
  | .null, b => by cases b <;> first | exact isTrue rfl | exact isFalse nofun
  | .bool x, b => match b with
    | .bool y => decidable_of_iff (x = y) (by simp)
    | .null | .number _ | .string _ | .array _ | .object .. => isFalse nofun
  | .number x, b => match b with
    | .number y => decidable_of_iff (x = y) (by simp)
    | .null | .bool _ | .string _ | .array _ | .object .. => isFalse nofun
  | .string x, b => match b with
    | .string y => decidable_of_iff (x = y) (by simp)
    | .null | .bool _ | .number _ | .array _ | .object .. => isFalse nofun
  | .array xs, b => match b with
    | .array ys => @decidable_of_iff _ (xs = ys) (by simp) (decEqList xs ys)
    | .null | .bool _ | .number _ | .string _ | .object .. => isFalse nofun
  | .object p xs, b => match b with
    | .object q ys => @decidable_of_iff _ (p = q ∧ xs = ys) (by simp)
      (@instDecidableAnd _ _ inferInstance (decEqMembers xs ys))
    | .null | .bool _ | .number _ | .string _ | .array _ => isFalse nofun

def decEqList : (xs ys : List Json) → Decidable (xs = ys)
  | [], [] => isTrue rfl
  | [], _ :: _ => isFalse nofun
  | _ :: _, [] => isFalse nofun
  | x :: xs, y :: ys =>
    match decEq x y, decEqList xs ys with
    | isTrue head, isTrue tail => isTrue (by rw [head, tail])
    | isFalse head, _ => isFalse fun same => head (List.cons.inj same).1
    | _, isFalse tail => isFalse fun same => tail (List.cons.inj same).2

def decEqMembers : (xs ys : List (JsString × Json)) → Decidable (xs = ys)
  | [], [] => isTrue rfl
  | [], _ :: _ => isFalse nofun
  | _ :: _, [] => isFalse nofun
  | (k, x) :: xs, (l, y) :: ys =>
    match decEq x y, decEqMembers xs ys with
    | isTrue head, isTrue tail =>
      if key : k = l then isTrue (by rw [key, head, tail])
      else isFalse fun same => key (Prod.mk.inj (List.cons.inj same).1).1
    | isFalse head, _ => isFalse fun same => head (Prod.mk.inj (List.cons.inj same).1).2
    | _, isFalse tail => isFalse fun same => tail (List.cons.inj same).2
end

instance : DecidableEq Json := decEq

/-- Induction over a value: of an array for all its elements, of an object for all its members. -/
@[elab_as_elim] theorem induct {P : Json → Prop} (null : P .null) (bool : ∀ value, P (.bool value))
    (number : ∀ value, P (.number value)) (string : ∀ value, P (.string value))
    (array : ∀ elements, (∀ x ∈ elements, P x) → P (.array elements))
    (object : ∀ readOnly members, (∀ member ∈ members, P member.2) → P (.object readOnly members)) (value : Json) :
    P value := by
  refine @Json.rec P (fun elements => ∀ x ∈ elements, P x) (fun members => ∀ member ∈ members, P member.2)
    (fun member => P member.2) null bool number string array object ?_ ?_ ?_ ?_ ?_ value
  · exact List.forall_mem_nil _
  · exact fun x rest here later => List.forall_mem_cons.mpr ⟨here, later⟩
  · exact List.forall_mem_nil _
  · exact fun member rest here later => List.forall_mem_cons.mpr ⟨here, later⟩
  · exact fun key x here => here

/-- `\uXXXX` with lower-case hexadecimal digits. -/
def unicodeEscape (u : UInt16) : List UInt16 :=
  let digit (n : Nat) : UInt16 := if n < 10 then (n + 0x30).toUInt16 else (n + 0x57).toUInt16
  [0x5c, 0x75, digit (u.toNat / 0x1000), digit (u.toNat / 0x100 % 16), digit (u.toNat / 0x10 % 16),
    digit (u.toNat % 16)]

/-- One code unit inside a JSON string literal, a surrogate pair aside. -/
def escapeUnit (u : UInt16) : List UInt16 :=
  if u == 0x22 || u == 0x5c then [0x5c, u]
  else if u == 0x08 then [0x5c, 0x62]
  else if u == 0x09 then [0x5c, 0x74]
  else if u == 0x0a then [0x5c, 0x6e]
  else if u == 0x0c then [0x5c, 0x66]
  else if u == 0x0d then [0x5c, 0x72]
  else if u < 0x20 || JsString.isHighSurrogate u || JsString.isLowSurrogate u then unicodeEscape u
  else [u]

/-- The inside of a string literal: pairs of surrogates are kept, lone ones are
escaped. -/
def quoteUnits : List UInt16 → List UInt16
  | [] => []
  | u :: v :: rest =>
    if JsString.isHighSurrogate u && JsString.isLowSurrogate v then u :: v :: quoteUnits rest
    else escapeUnit u ++ quoteUnits (v :: rest)
  | [u] => escapeUnit u

def quote (s : JsString) : JsString := ⟨0x22 :: quoteUnits s.units ++ [0x22]⟩

mutual
/-- `JSON.stringify(value)`. -/
def stringify : Json → JsString
  | .null => "null"
  | .bool value => if value then "true" else "false"
  | .number value => value.text
  | .string value => quote value
  | .array elements => "[" ++ stringifyElements elements ++ "]"
  | .object _ members => "\x7b" ++ stringifyMembers members ++ "\x7d"

def stringifyElements : List Json → JsString
  | [] => ""
  | [x] => stringify x
  | x :: y :: rest => stringify x ++ "," ++ stringifyElements (y :: rest)

def stringifyMembers : List (JsString × Json) → JsString
  | [] => ""
  | [(k, x)] => quote k ++ ":" ++ stringify x
  | (k, x) :: y :: rest => quote k ++ ":" ++ stringify x ++ "," ++ stringifyMembers (y :: rest)
end

end Json
end PiToPi
