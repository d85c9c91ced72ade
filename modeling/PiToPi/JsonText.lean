import PiToPi.JsMap
import PiToPi.JsonValue
import Mathlib.Data.List.Lex

/-!
JSON as text: `JSON.parse`, and what UTF-8 keeps of a string.

`JSON.stringify` is in `Json`. What it writes is read back as it was, except that
`-0` comes back as `0`.
-/
namespace PiToPi

namespace JsString

def isSurrogate (u : UInt16) : Bool := isHighSurrogate u || isLowSurrogate u

/-- `string.isWellFormed()`. -/
def isWellFormed : List UInt16 → Bool
  | [] => true
  | u :: v :: rest =>
    if isHighSurrogate u && isLowSurrogate v then isWellFormed rest
    else !isSurrogate u && isWellFormed (v :: rest)
  | [u] => !isSurrogate u

/-- `string.toWellFormed()`, which is what UTF-8 makes of a string. -/
def toWellFormed : List UInt16 → List UInt16
  | [] => []
  | u :: v :: rest =>
    if isHighSurrogate u && isLowSurrogate v then u :: v :: toWellFormed rest
    else (if isSurrogate u then 0xfffd else u) :: toWellFormed (v :: rest)
  | [u] => [if isSurrogate u then 0xfffd else u]

/-- The keys of arrays: canonical decimals below 2^32 - 1. -/
def isArrayIndex (key : JsString) : Bool :=
  key.units.all (fun u => 0x30 ≤ u && u ≤ 0x39) && 0 < key.length && key.length ≤ 10 &&
    (key.length == 1 || key.units.head? != some 0x30) &&
    key.units.foldl (fun n u => 10 * n + (u.toNat - 0x30)) 0 < 4294967295

/-- The order in which indices are enumerated. -/
def indexBefore (a b : JsString) : Bool :=
  a.length < b.length ||
    (a.length == b.length && a.units.map UInt16.toNat ≤ b.units.map UInt16.toNat)

end JsString

namespace JsNumber

/-- `0` for `-0`, which has no text of its own. -/
def unsigned (n : JsNumber) : JsNumber := if n.isNegativeZero then .ofNat 0 else n

/-- The number `±significand * 10 ^ exponent`. -/
def ofDecimal (negative : Bool) (significand : Nat) (exponent : Int) : JsNumber :=
  if zero : significand = 0 then ⟨negative, 0, 0, zero_shortest⟩
  else
    { negative
      significand := (stripZeros significand significand exponent).1
      exponent := (stripZeros significand significand exponent).2
      shortest := stripped_shortest zero }

end JsNumber

/-- How decimals become numbers of the host. -/
structure NumberHost where
  /-- The nearest number, as the shortest decimal that denotes it; none is infinite. -/
  nearest : JsNumber → Option JsNumber
  nearest_safe : ∀ n, n.isSafeInteger = true → nearest n = some n

theorem some_safe : ∀ n : JsNumber, n.isSafeInteger = true → some n = some n :=
  fun _ _ => rfl

namespace Json

section Parse

variable (N : NumberHost)

def isDigit (u : UInt16) : Bool := 0x30 ≤ u && u ≤ 0x39

/-- The value of a run of digits. -/
def digitsValue (digits : List UInt16) : Nat := digits.foldl (fun n u => 10 * n + (u.toNat - 0x30)) 0

def skipSpace (input : List UInt16) : List UInt16 :=
  input.dropWhile fun u => u == 0x20 || u == 0x09 || u == 0x0a || u == 0x0d

def hexDigit? (u : UInt16) : Option Nat :=
  if isDigit u then some (u.toNat - 0x30)
  else if 0x61 ≤ u && u ≤ 0x66 then some (u.toNat - 0x57)
  else if 0x41 ≤ u && u ≤ 0x46 then some (u.toNat - 0x37)
  else none

/-- The code unit four hexadecimal digits give. -/
def hexUnit? (a b c d : UInt16) : Option UInt16 := do
  return (((← hexDigit? a) * 16 + (← hexDigit? b)) * 16 + (← hexDigit? c)) * 16 + (← hexDigit? d)
    |>.toUInt16

/-- The unit a one-letter escape stands for. -/
def escaped? (u : UInt16) : Option UInt16 :=
  if u = 0x22 ∨ u = 0x5c ∨ u = 0x2f then some u
  else if u = 0x62 then some 0x08
  else if u = 0x74 then some 0x09
  else if u = 0x6e then some 0x0a
  else if u = 0x66 then some 0x0c
  else if u = 0x72 then some 0x0d
  else none

/-- A unit before a string that has been read. -/
def consUnit (u : UInt16) : List UInt16 × List UInt16 → List UInt16 × List UInt16
  | (units, rest) => (u :: units, rest)

/-- A string literal after its opening quote, with what follows it. -/
def readString : List UInt16 → Option (List UInt16 × List UInt16)
  | [] => none
  | u :: rest =>
    if u = 0x22 then some ([], rest)
    else if u = 0x5c then
      match rest with
      | [] => none
      | e :: rest =>
        if e = 0x75 then
          match rest with
          | a :: b :: c :: d :: rest =>
            (hexUnit? a b c d).bind fun unit => (readString rest).map (consUnit unit)
          | _ => none
        else (escaped? e).bind fun unit => (readString rest).map (consUnit unit)
    else if u < 0x20 then none
    else (readString rest).map (consUnit u)

/-- A run of digits that must not be empty. -/
def readDigits (input : List UInt16) : Option (List UInt16 × List UInt16) :=
  if (input.takeWhile isDigit).isEmpty then none
  else some (input.takeWhile isDigit, input.dropWhile isDigit)

/-- The fraction of a number: its digits. -/
def readFraction (input : List UInt16) : Option (List UInt16 × List UInt16) :=
  match input with
  | 0x2e :: rest => readDigits rest
  | _ => some ([], input)

/-- The exponent of a number. -/
def readExponent (input : List UInt16) : Option (Int × List UInt16) :=
  match input with
  | [] => some (0, [])
  | e :: rest =>
    if e = 0x65 ∨ e = 0x45 then
      match rest with
      | 0x2d :: rest => (readDigits rest).map fun (digits, rest) => (-(digitsValue digits : Int), rest)
      | 0x2b :: rest => (readDigits rest).map fun (digits, rest) => (digitsValue digits, rest)
      | _ => (readDigits rest).map fun (digits, rest) => (digitsValue digits, rest)
    else some (0, input)

/-- A number without its sign. -/
def readMagnitude (negative : Bool) (input : List UInt16) : Option (JsNumber × List UInt16) := do
  let (whole, input) ← readDigits input
  if whole.head? = some 0x30 ∧ whole.length ≠ 1 then none
  let (fraction, input) ← readFraction input
  let (exponent, input) ← readExponent input
  return (.ofDecimal negative (digitsValue (whole ++ fraction)) (exponent - fraction.length), input)

def readNumber (input : List UInt16) : Option (Json × List UInt16) := do
  let (n, rest) ← match input with
    | 0x2d :: rest => readMagnitude true rest
    | _ => readMagnitude false input
  return (.number (← N.nearest n), rest)

/-- A word at the head of the input. -/
def readWord (word : String) (value : Json) (input : List UInt16) : Option (Json × List UInt16) :=
  if (JsString.ofString word).units.isPrefixOf input then some (value, input.drop word.length) else none

/-- A member that is defined again keeps its place; indices are enumerated first. -/
def objectOf (members : List (JsString × Json)) : Json :=
  let defined := (members.foldl (fun m (key, value) => m.set key value) JsMap.empty).entries
  .record ((defined.filter fun (key, _) => key.isArrayIndex).mergeSort
      (fun a b => a.1.indexBefore b.1) ++
    defined.filter fun (key, _) => !key.isArrayIndex)

mutual
/-- A value at the head of the input; `fuel` bounds the depth of the recursion. -/
def readValue : Nat → List UInt16 → Option (Json × List UInt16)
  | 0, _ => none
  | fuel + 1, input =>
    match skipSpace input with
    | [] => none
    | u :: rest =>
      if u = 0x22 then (readString rest).map fun (units, rest) => (.string ⟨units⟩, rest)
      else if u = 0x5b then
        match skipSpace rest with
        | 0x5d :: rest => some (.array [], rest)
        | _ => (readElements fuel rest).map fun (elements, rest) => (.array elements, rest)
      else if u = 0x7b then
        match skipSpace rest with
        | 0x7d :: rest => some (.record [], rest)
        | _ => (readMembers fuel rest).map fun (members, rest) => (objectOf members, rest)
      else if u = 0x6e then readWord "null" .null (u :: rest)
      else if u = 0x74 then readWord "true" (.bool true) (u :: rest)
      else if u = 0x66 then readWord "false" (.bool false) (u :: rest)
      else readNumber N (u :: rest)

/-- The elements of an array, up to its end. -/
def readElements : Nat → List UInt16 → Option (List Json × List UInt16)
  | 0, _ => none
  | fuel + 1, input =>
    match readValue fuel input with
    | none => none
    | some (element, rest) =>
      match skipSpace rest with
      | 0x2c :: rest => (readElements fuel rest).map fun (elements, rest) => (element :: elements, rest)
      | 0x5d :: rest => some ([element], rest)
      | _ => none

/-- The members of an object, up to its end. -/
def readMembers : Nat → List UInt16 → Option (List (JsString × Json) × List UInt16)
  | 0, _ => none
  | fuel + 1, input =>
    match skipSpace input with
    | 0x22 :: rest =>
      match readString rest with
      | none => none
      | some (key, rest) =>
        match skipSpace rest with
        | 0x3a :: rest =>
          match readValue fuel rest with
          | none => none
          | some (value, rest) =>
            match skipSpace rest with
            | 0x2c :: rest =>
              (readMembers fuel rest).map fun (members, rest) => ((⟨key⟩, value) :: members, rest)
            | 0x7d :: rest => some ([(⟨key⟩, value)], rest)
            | _ => none
        | _ => none
    | _ => none
end

/-- `JSON.parse(text)`, or `none` for the `SyntaxError`; an infinite number makes no
value here. -/
def parse (text : JsString) : Option Json :=
  match readValue N (2 * text.length) text.units with
  | some (value, rest) => if (skipSpace rest).isEmpty then some value else none
  | none => none

end Parse

mutual
/-- The value `JSON.parse` makes of the text of a value. -/
def readBack : Json → Json
  | .null => .null
  | .bool flag => .bool flag
  | .number n => .number n.unsigned
  | .string text => .string text
  | .array elements => .array (readBackElements elements)
  | .object readOnly members => .object readOnly (readBackMembers members)

def readBackElements : List Json → List Json
  | [] => []
  | x :: rest => readBack x :: readBackElements rest

def readBackMembers : List (JsString × Json) → List (JsString × Json)
  | [] => []
  | (k, x) :: rest => (k, readBack x) :: readBackMembers rest
end

/-- The keys of an object in the order in which they are enumerated: first the
indices, in their order. -/
def enumerated (keys : List JsString) : Bool :=
  decide keys.Nodup &&
    decide ((keys.takeWhile JsString.isArrayIndex).Pairwise fun a b => a.indexBefore b = true) &&
    !(keys.dropWhile JsString.isArrayIndex).any JsString.isArrayIndex

variable (N : NumberHost)

mutual
/-- A value of the host: its objects are plain, their members as they are
enumerated, and its numbers the nearest to themselves. -/
def isPlain : Json → Bool
  | .null | .bool _ | .string _ => true
  | .number n => N.nearest n.unsigned == some n.unsigned
  | .array elements => plainElements elements
  | .object readOnly members =>
    readOnly.isNone && enumerated (members.map Prod.fst) && plainMembers members

def plainElements : List Json → Bool
  | [] => true
  | x :: rest => isPlain x && plainElements rest

def plainMembers : List (JsString × Json) → Bool
  | [] => true
  | (_, x) :: rest => isPlain x && plainMembers rest
end

end Json
end PiToPi
