import PiToPi.Config

/-!
Published network names (`naming.ts`) and the identities around them
(`identity.ts`, `room.ts`). The label normaliser is that of `Config`.

`NameHost` adds to the host's tables the facts about them that names rest on, and
the digest suffixes are taken from.
-/
namespace PiToPi

namespace JsString

/-- `-`. -/
def hyphen : JsString := ⟨[0x2d]⟩

/-- The units before and after the last hyphen, which `lastIndexOf('-')` finds. -/
def splitAtLastHyphen : List UInt16 → Option (List UInt16 × List UInt16)
  | [] => none
  | u :: rest => match splitAtLastHyphen rest with
    | some (before, after) => some (u :: before, after)
    | none => if u = 0x2d then some ([], rest) else none

def isDigit (u : UInt16) : Bool := 0x30 ≤ u && u ≤ 0x39

def isLowerHex (u : UInt16) : Bool := isDigit u || (0x61 ≤ u && u ≤ 0x66)

/-- A digit or a lower-case letter of ASCII. -/
def isLowerAlphanumeric (u : UInt16) : Bool := isDigit u || (0x61 ≤ u && u ≤ 0x7a)

end JsString

open JsString

/-- The alphabet of a suffix: Crockford base 32, in lower case. -/
def crockfordBase32Alphabet : List UInt16 :=
  (JsString.ofString "0123456789abcdefghjkmnpqrstvwxyz").units

/-- The first twenty bits of a digest. -/
def firstTwentyBits (digest : Vector UInt8 32) : Nat :=
  (digest[0].toNat * 0x10000 + digest[1].toNat * 0x100 + digest[2].toNat) >>> 4

/-- The letter that stands for five bits of a number. -/
def suffixUnit (bits index : Nat) : UInt16 :=
  crockfordBase32Alphabet.getD ((bits >>> (index * 5)) % 0x20) 0

/-- The suffix for a digest. -/
def suffixOfDigest (digest : Vector UInt8 32) : JsString :=
  ⟨[3, 2, 1, 0].map (suffixUnit (firstTwentyBits digest))⟩

/-- The host of the naming rules. -/
structure NameHost extends Unicode where
  /-- The SHA-256 digest of a text. -/
  sha256 : JsString → Vector UInt8 32
  runtimeNameSuffix_eq : ∀ runtimeId, runtimeNameSuffix runtimeId = suffixOfDigest (sha256 runtimeId)
  /-- Neither normalisation nor lowering looks across a hyphen. -/
  nfkcLower_hyphen : ∀ a b, nfkcLower (a ++ hyphen ++ b) = nfkcLower a ++ hyphen ++ nfkcLower b
  /-- A run of letters and numbers in a folded text is folded. -/
  nfkcLower_run : ∀ value before run after, nfkcLower value = before ++ run ++ after →
    (∀ codePoint ∈ codePoints run.units, isLetterOrNumber codePoint = true) → nfkcLower run = run
  nfkcLower_ascii : ∀ value, (∀ u ∈ value.units, isLowerAlphanumeric u = true) →
    nfkcLower value = value
  hyphen_notLetter : isLetterOrNumber hyphen = false
  surrogate_notLetter : ∀ u, (isHighSurrogate u || isLowSurrogate u) = true →
    isLetterOrNumber ⟨[u]⟩ = false
  /-- Letters, numbers and hyphens are no control or format characters. -/
  letters_noControl : ∀ value, (∀ codePoint ∈ codePoints value.units,
    codePoint = hyphen ∨ isLetterOrNumber codePoint = true) → hasControl value = false

namespace Naming

inductive NameError where
  | typeError (message : JsString)
  | invalidProjectLabel (message : JsString)
  | invalidRoomId (value : JsString)
  | invalidRuntimeId
  deriving DecidableEq

/-- `isUuid(value)`: a canonical lowercase UUID. -/
def isUuid (value : JsString) : Bool :=
  value.units.length == 36 && value.units.zipIdx.all fun (u, i) =>
    if i = 8 ∨ i = 13 ∨ i = 18 ∨ i = 23 then u == 0x2d
    else if i = 14 then 0x31 ≤ u && u ≤ 0x35
    else if i = 19 then u == 0x38 || u == 0x39 || u == 0x61 || u == 0x62
    else isLowerHex u

/-- `isValidRoomId(value)`: `r1-` and 32 hexadecimal digits. -/
def isValidRoomId (value : JsString) : Bool :=
  value.units.take 3 == (JsString.ofString "r1-").units &&
    (value.units.drop 3).length == 32 && (value.units.drop 3).all isLowerHex

abbrev RuntimeId := { value : JsString // isUuid value = true }

abbrev RoomId := { value : JsString // isValidRoomId value = true }

def asRuntimeId (value : JsString) : Except NameError RuntimeId :=
  if uuid : isUuid value = true then .ok ⟨value, uuid⟩ else .error .invalidRuntimeId

def asRoomId (value : JsString) : Except NameError RoomId :=
  if valid : isValidRoomId value = true then .ok ⟨value, valid⟩ else .error (.invalidRoomId value)

/-- `isRuntimeNameSuffix(value)`. -/
def isRuntimeNameSuffix (value : List UInt16) : Bool :=
  value.length == 4 && value.all (crockfordBase32Alphabet.contains ·)

section Names

variable (H : NameHost)

/-- `asNormalizedName(value)`, with the class of its error. -/
def normalizedName (value : JsString) : Except NameError JsString :=
  (asNormalizedName H.toUnicode value).mapError .invalidProjectLabel

/-- `isPublishedNetworkName(value)`. -/
def isPublishedNetworkName (value : JsString) : Bool :=
  match splitAtLastHyphen value.units with
  | none => false
  | some (base, suffix) =>
    !base.isEmpty && isRuntimeNameSuffix suffix &&
      match asNormalizedName H.toUnicode ⟨base⟩ with
      | .ok name => name == ⟨base⟩
      | .error _ => false

/-- `normalizePeerLookupName(value)`. -/
def normalizePeerLookupName (value : JsString) : Except NameError JsString :=
  let normalized := H.nfkcLower value
  match splitAtLastHyphen normalized.units with
  | none => normalizedName H normalized
  | some (base, suffix) =>
    if !base.isEmpty && isRuntimeNameSuffix suffix then
      match asNormalizedName H.toUnicode ⟨base⟩ with
      | .ok name => if name = ⟨base⟩ then .ok (name ++ hyphen ++ ⟨suffix⟩) else normalizedName H normalized
      | .error _ => normalizedName H normalized
    else normalizedName H normalized

/-- `asPublishedNetworkName(value)`. -/
def asPublishedNetworkName (value : JsString) : Except NameError JsString :=
  if isPublishedNetworkName H value then .ok value
  else .error (.typeError ("Invalid published network name: " ++ Json.stringify (.string value)))

/-- The two slices of a published name. -/
def nameParts (value : JsString) : JsString × JsString :=
  match splitAtLastHyphen value.units with
  | some (base, suffix) => (⟨base⟩, ⟨suffix⟩)
  | none => (⟨value.units.dropLast⟩, value)

/-- `publishedNetworkBase(value)`. -/
def publishedNetworkBase (value : JsString) : Except NameError JsString := do
  let published ← asPublishedNetworkName H value
  normalizedName H (nameParts published).1

/-- `buildNetworkName(base, runtimeId)`. -/
def buildNetworkName (base : JsString) (runtimeId : RuntimeId) : Except NameError JsString := do
  let normalizedBase ← normalizedName H base
  return normalizedBase ++ hyphen ++ H.runtimeNameSuffix runtimeId.val

/-- `splitPublishedNetworkName(value)`. -/
def splitPublishedNetworkName (value : JsString) : Except NameError (JsString × JsString) := do
  let published ← asPublishedNetworkName H value
  let base ← normalizedName H (nameParts published).1
  return (base, (nameParts published).2)

/-- `NormalizedName`: what `asNormalizedName` gives. -/
abbrev NormalizedName := { name : JsString // ∃ value, asNormalizedName H.toUnicode value = .ok name }

end Names
end Naming
end PiToPi
