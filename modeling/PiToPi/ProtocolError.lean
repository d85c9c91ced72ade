import PiToPi.Json

/-!
The wire error taxonomy: `createProtocolError` with its bounded message and its
sanitised details.
-/
namespace PiToPi

/-- `PROTOCOL_ERROR_CODES`. -/
inductive ErrorCode where
  | malformed | incompatible | expired | crossRoom | ambiguous | busy | unauthorized | oversized
  | duplicate | cancelled | unreachable | notFound | notCancelable | invalidContent
  | invalidReply | internal
  deriving DecidableEq, Repr

/-- `isRetryableErrorCode`: `RETRYABLE_ERROR_CODES` are `busy` and `unreachable`. -/
def isRetryableErrorCode : ErrorCode → Bool
  | .busy | .unreachable => true
  | _ => false

structure ProtocolError where
  code : ErrorCode
  message : JsString
  retryable : Bool
  retryAfterMs : Option JsNumber
  details : Option Json
  deriving DecidableEq

def maxProtocolErrorMessageLength : Nat := 512
def maxProtocolErrorDetailsBytes : Nat := 4 * 1024

/-- A control character, as `boundedMessage` and the validator see it. -/
def isControl (u : UInt16) : Bool := u ≤ 0x1f || u == 0x7f

def boundedMessage (value : JsString) : JsString :=
  let normalized := JsString.trim ⟨value.units.map fun u => if isControl u then 0x20 else u⟩
  let safe : JsString := if normalized.length = 0 then "protocol error" else normalized
  if safe.length ≤ maxProtocolErrorMessageLength then safe
  else ⟨safe.units.take (maxProtocolErrorMessageLength - 1) ++ [0x2026]⟩

/-- The ASCII letters in lower case; the pattern's `i` flag compares by case
folding, under which U+212A and U+017F also fold to `k` and `s`. -/
def foldCase (u : UInt16) : UInt16 :=
  if 0x41 ≤ u && u ≤ 0x5a then u + 0x20
  else if u == 0x212a then 0x6b
  else if u == 0x17f then 0x73
  else u

/-- A word of the pattern, at the head of the input. -/
def startsWith (input : List UInt16) (word : String) : Bool :=
  (JsString.ofString word).units.isPrefixOf input

/-- `api.?key` at the head of the input: at most one code point, not a line
terminator, between the two words. -/
def startsWithApiKey (input : List UInt16) : Bool :=
  startsWith input "api" &&
    match input.drop 3 with
    | u :: v :: rest =>
      startsWith (u :: v :: rest) "key" ||
        (!(u == 0x0a || u == 0x0d || u == 0x2028 || u == 0x2029) &&
          if JsString.isHighSurrogate u && JsString.isLowSurrogate v then startsWith rest "key"
          else startsWith (v :: rest) "key")
    | _ => false

/-- `SECRET_DETAIL_KEY.test(key)`. -/
def isSecretDetailKey (key : JsString) : Bool :=
  (key.units.map foldCase).tails.any fun input =>
    startsWith input "credential" || startsWith input "password" || startsWith input "secret" ||
      startsWith input "token" || startsWithApiKey input || startsWith input "authorization"

mutual
/-- `sanitizeJsonValue` of a JSON value: too deep values, long tails and keys
that look secret are dropped. -/
def sanitizeJsonValue (depth : Nat) : Json → Option Json
  | .array elements =>
    if 8 < depth then none else some (.array (sanitizeElements (depth + 1) 64 elements))
  | .object _ members =>
    if 8 < depth then none
    else
      let (readOnly, safe) := sanitizeMembers (depth + 1) 64 members
      some (.object readOnly safe)
  | .null => if 8 < depth then none else some .null
  | .bool value => if 8 < depth then none else some (.bool value)
  | .number value => if 8 < depth then none else some (.number value)
  | .string value => if 8 < depth then none else some (.string value)

/-- The first `room` elements, each sanitised. -/
def sanitizeElements (depth room : Nat) : List Json → List Json
  | [] => []
  | item :: rest =>
    if room = 0 then []
    else match sanitizeJsonValue depth item with
      | none => sanitizeElements depth (room - 1) rest
      | some safe => safe :: sanitizeElements depth (room - 1) rest

/-- The first `room` members, without those whose key looks secret. The copy is
built with `result[key] = safe`, so that `__proto__` sets its prototype. -/
def sanitizeMembers (depth room : Nat) :
    List (JsString × Json) → Option (List JsString) × List (JsString × Json)
  | [] => (none, [])
  | (key, item) :: rest =>
    if room = 0 then (none, [])
    else
      let (readOnly, members) := sanitizeMembers depth (room - 1) rest
      if isSecretDetailKey key then (readOnly, members)
      else match sanitizeJsonValue depth item with
        | none => (readOnly, members)
        | some safe =>
          if key = "__proto__" then
            match safe with
            | .array _ | .object .. => (some [], members)
            | _ => (readOnly, members)
          else (readOnly, (key, safe) :: members)
end

def boundedDetails (details : Json) : Json :=
  match sanitizeJsonValue 0 details with
  | some (.object readOnly members) =>
    if (Json.stringify (.object readOnly members)).byteLength ≤ maxProtocolErrorDetailsBytes then
      .object readOnly members
    else .record [("truncated", .bool true)]
  | _ => .record [("truncated", .bool true)]

/-- `createProtocolError(code, message, { retryAfterMs, details })`; a retry delay
that is not positive or does not suit the code is a `RangeError`. -/
def createProtocolErrorWith (code : ErrorCode) (message : JsString) (retryAfterMs : Option JsNumber)
    (details : Option Json) : Option ProtocolError :=
  if retryAfterMs.all fun delay => delay.isPositive && isRetryableErrorCode code then
    some { code
           message := boundedMessage message
           retryable := isRetryableErrorCode code
           retryAfterMs
           details := details.map boundedDetails }
  else none

/-- `createProtocolError(code, message)`. -/
def createProtocolError (code : ErrorCode) (message : JsString) : ProtocolError where
  code
  message := boundedMessage message
  retryable := isRetryableErrorCode code
  retryAfterMs := none
  details := none

/-- `createProtocolError(code, message, { details })`. -/
def createDetailedError (code : ErrorCode) (message : JsString) (details : Json) :
    ProtocolError :=
  { createProtocolError code message with details := some (boundedDetails details) }

example : (createProtocolError .cancelled " stop\tnow ").message = "stop now" := by decide

end PiToPi
