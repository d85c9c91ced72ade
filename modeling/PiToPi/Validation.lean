import PiToPi.AgentCardValidation
import PiToPi.Naming
import PiToPi.TaskState

/-!
What the wire boundary accepts (`validation.ts`): the size of a value, and the shape of
an operation response with what it carries.

A check ends in its first issue, or in the `RangeError` that a limit or a clock reading
raises in the middle of it.
-/
namespace PiToPi

/-- `OPERATION_NAMES`. -/
inductive OperationName where
  | peerDescribe | messageRequest | messageReply | messageNotify | taskStatus | taskCancel
  deriving DecidableEq, Repr

def OperationName.name : OperationName → JsString
  | .peerDescribe => "peer.describe"
  | .messageRequest => "message.request"
  | .messageReply => "message.reply"
  | .messageNotify => "message.notify"
  | .taskStatus => "task.status"
  | .taskCancel => "task.cancel"

def operationNames : List OperationName :=
  [.peerDescribe, .messageRequest, .messageReply, .messageNotify, .taskStatus, .taskCancel]

def OperationName.ofName? (name : JsString) : Option OperationName :=
  operationNames.find? fun operation => operation.name = name

def ErrorCode.name : ErrorCode → JsString
  | .malformed => "malformed"
  | .incompatible => "incompatible"
  | .expired => "expired"
  | .crossRoom => "cross_room"
  | .ambiguous => "ambiguous"
  | .busy => "busy"
  | .unauthorized => "unauthorized"
  | .oversized => "oversized"
  | .duplicate => "duplicate"
  | .cancelled => "cancelled"
  | .unreachable => "unreachable"
  | .notFound => "not_found"
  | .notCancelable => "not_cancelable"
  | .invalidContent => "invalid_content"
  | .invalidReply => "invalid_reply"
  | .internal => "internal"

def protocolErrorCodes : List ErrorCode :=
  [.malformed, .incompatible, .expired, .crossRoom, .ambiguous, .busy, .unauthorized, .oversized,
    .duplicate, .cancelled, .unreachable, .notFound, .notCancelable, .invalidContent, .invalidReply,
    .internal]

def ErrorCode.ofName? (name : JsString) : Option ErrorCode :=
  protocolErrorCodes.find? fun code => code.name = name

def TaskState.name : TaskState → JsString
  | .created => "created"
  | .accepted => "accepted"
  | .queued => "queued"
  | .working => "working"
  | .cancelling => "cancelling"
  | .completed => "completed"
  | .failed => "failed"
  | .rejected => "rejected"
  | .cancelled => "cancelled"
  | .expired => "expired"

def taskStates : List TaskState :=
  [.created, .accepted, .queued, .working, .cancelling, .completed, .failed, .rejected, .cancelled,
    .expired]

def TaskState.ofName? (name : JsString) : Option TaskState :=
  taskStates.find? fun state => state.name = name

/-- `isTerminalOutcome(outcome)`. -/
def isTerminalOutcome (outcome : JsString) : Bool :=
  (TaskState.ofName? outcome).any isTerminalTaskState

def protocolVersion : JsString := "1.0"

namespace Validation
open CardValidation (isIdentifier)

section Limits

def maxRequestTtlMs : Nat := 60 * 60 * 1000
def maxControlTtlMs : Nat := 30 * 1000
def maxEnvelopeBytes : Nat := 1024 * 1024
def maxSchemaBytes : Nat := 64 * 1024
def defaultQueueLimit : Nat := 32
def maxClockSkewMs : Nat := 5 * 60 * 1000
def defaultValidationMaxDepth : Nat := 128
def defaultValidationMaxNodes : Nat := 200000

/-- `ProtocolLimits`, as `createProtocolConfig` lets them pass. -/
structure ProtocolLimits where
  requestTtlMs : ℚ
  maxRequestTtlMs : ℚ
  maxControlTtlMs : ℚ
  maxEnvelopeBytes : ℚ
  maxSchemaBytes : ℚ
  maxQueueEntries : ℚ
  /-- `V1_LIMIT_CEILINGS`. -/
  ceilings : ∀ limit ∈ [(requestTtlMs, Validation.maxRequestTtlMs),
    (maxRequestTtlMs, Validation.maxRequestTtlMs), (maxControlTtlMs, Validation.maxControlTtlMs),
    (maxEnvelopeBytes, Validation.maxEnvelopeBytes), (maxSchemaBytes, Validation.maxSchemaBytes),
    (maxQueueEntries, defaultQueueLimit)], 0 < limit.1 ∧ limit.1 ≤ (limit.2 : ℚ)
  ordered : requestTtlMs ≤ maxRequestTtlMs

structure ValidationOptions where
  now : ℚ
  maxEnvelopeBytes : Option ℚ
  limits : ProtocolLimits
  expectedRequestId : Option JsString

structure ResolvedLimits where
  maxEnvelopeBytes : ℚ
  maxSchemaBytes : ℚ
  maxRequestTtlMs : ℚ
  maxControlTtlMs : ℚ

/-- A `RangeError`: its message. -/
abbrev RangeError := JsString

/-- `Number.isSafeInteger(value)`. -/
def isSafeInteger (value : ℚ) : Bool :=
  value.isInt && -JsNumber.maxSafeInteger ≤ value && value ≤ JsNumber.maxSafeInteger

/-- `resolvePositiveLimit`. -/
def resolvePositiveLimit (value : Option ℚ) (fallback : ℚ) (field : JsString) (ceiling : ℚ) :
    Except RangeError ℚ :=
  let resolved := value.getD fallback
  if !isSafeInteger resolved || resolved ≤ 0 then .error (field ++ " must be a positive safe integer")
  else .ok (min resolved ceiling)

/-- `resolveLimits(options)`; no depth and no count of nodes is ever configured. -/
def resolveLimits (options : ValidationOptions) : Except RangeError ResolvedLimits := do
  let configured := options.limits
  let envelope ← resolvePositiveLimit options.maxEnvelopeBytes configured.maxEnvelopeBytes
    "maxEnvelopeBytes" (min maxEnvelopeBytes configured.maxEnvelopeBytes)
  let schema ← resolvePositiveLimit none configured.maxSchemaBytes "maxSchemaBytes"
    (min maxSchemaBytes configured.maxSchemaBytes)
  return { maxEnvelopeBytes := envelope, maxSchemaBytes := schema
           maxRequestTtlMs := configured.maxRequestTtlMs
           maxControlTtlMs := configured.maxControlTtlMs }

/-- `resolveNow(now)` of a number. -/
def resolveNow (now : ℚ) : Except RangeError Int :=
  if isSafeInteger now then .ok now.num else .error "now must be a finite safe integer"

end Limits

section Texts

/-- `isUuidV4(value)`. -/
def isUuidV4 (value : JsString) : Bool :=
  Naming.isUuid value && value.units[14]? == some 0x34

/-- `TRACE_ID_PATTERN`. -/
def isTraceId (value : JsString) : Bool := value.units.length == 32 && value.units.all JsString.isLowerHex

/-- `isSafeHumanReadableMessage(value)`. -/
def isSafeHumanReadableMessage (value : JsString) : Bool :=
  value.length ≤ maxProtocolErrorMessageLength && value.trim == value && 0 < value.trim.length &&
    !value.units.any isControl

/-- What follows the seconds: a `Z`, after a fraction if there is one. -/
def isUtcEnd (input : List UInt16) : Bool :=
  match input with
  | [] => false
  | u :: rest => (u == 0x5a && rest.isEmpty) ||
      (u == 0x2e && !(rest.takeWhile Date.isDigit).isEmpty && rest.dropWhile Date.isDigit == [0x5a])

/-- `RFC3339_UTC_PATTERN`. -/
def isRfc3339Utc (value : JsString) : Bool :=
  match CardValidation.afterShape "dddd-dd-dd".toList value.units with
  | some (separator :: rest) => (separator == 0x54 || separator == 0x74) &&
      (CardValidation.afterShape "dd:dd:dd".toList rest).any isUtcEnd
  | _ => false

/-- The text up to its seconds, as `parseUtcTimestamp` compares it. -/
def wholeSeconds (units : List UInt16) : List UInt16 :=
  units.take 10 ++ 0x54 :: (units.drop 11).take 8 ++ [0x5a]

/-- `iso.replace(/\.\d{3}Z$/u, 'Z')`. -/
def withoutMilliseconds (units : List UInt16) : List UInt16 := units.take (units.length - 5) ++ [0x5a]

/-- `parseUtcTimestamp(value)`. -/
def parseUtcTimestamp (host : Host) (value : Option Json) : Option Int := do
  let text ← value.bind Json.asString?
  guard (isRfc3339Utc text)
  let milliseconds ← Date.parse host text
  let iso ← Date.toISOString milliseconds
  guard (wholeSeconds text.units = withoutMilliseconds iso.units)
  return milliseconds

end Texts

section Measure

inductive MeasureResult where
  | ok (bytes : Nat)
  | tooLarge (bytes : ℚ)
  | invalid (path reason : JsString)

/-- The bytes `JSON.stringify` takes for a unit of a string that it does not escape. -/
def plainByteLength (code : UInt16) : Nat :=
  if code ≤ 0x7f then 1 else if code ≤ 0x7ff then 2 else 3

/-- A unit other than a pair of surrogates. -/
def unitByteLength (code : UInt16) : Nat :=
  if code == 0x22 || code == 0x5c || code == 0x08 || code == 0x09 || code == 0x0a || code == 0x0c ||
    code == 0x0d then 2
  else if code ≤ 0x1f then 6
  else if JsString.isHighSurrogate code || JsString.isLowSurrogate code then 6
  else plainByteLength code

def unitsByteLength : List UInt16 → Nat
  | [] => 0
  | [code] => unitByteLength code
  | code :: next :: rest =>
    if JsString.isHighSurrogate code && JsString.isLowSurrogate next then 4 + unitsByteLength rest
    else unitByteLength code + unitsByteLength (next :: rest)

/-- `jsonStringByteLength(value)`. -/
def jsonStringByteLength (value : JsString) : Nat := 2 + unitsByteLength value.units

variable (maxBytes : ℚ)

def addMeasuredBytes (current additional : Nat) : MeasureResult :=
  let total := current + additional
  if JsNumber.maxSafeInteger < total ∨ maxBytes < total then .tooLarge total else .ok total

mutual
/-- The closure `measure` of `measureJsonBytes`, with the nodes it has counted. -/
def measure (candidate : Json) (path : JsString) (depth nodes : Nat) : MeasureResult × Nat :=
  if defaultValidationMaxNodes < nodes + 1 then (.tooLarge (maxBytes + 1), nodes + 1)
  else if defaultValidationMaxDepth < depth then
    (.invalid path "maximum JSON nesting depth exceeded", nodes + 1)
  else match candidate with
    | .null => (addMeasuredBytes maxBytes 0 4, nodes + 1)
    | .string text => (addMeasuredBytes maxBytes 0 (jsonStringByteLength text), nodes + 1)
    | .bool flag => (addMeasuredBytes maxBytes 0 (if flag then 4 else 5), nodes + 1)
    | .number n => (addMeasuredBytes maxBytes 0 n.text.byteLength, nodes + 1)
    | .array elements =>
      match measureElements elements path 0 depth 2 (nodes + 1) with
      | (.ok bytes, nodes) => (addMeasuredBytes maxBytes 0 bytes, nodes)
      | refused => refused
    | .object none members =>
      match measureMembers members path depth 2 (nodes + 1) with
      | (.ok bytes, nodes) => (addMeasuredBytes maxBytes 0 bytes, nodes)
      | refused => refused
    | .object (some _) _ => (.invalid path "objects must be plain JSON objects", nodes + 1)

/-- The loop over the elements of an array. -/
def measureElements : List Json → JsString → Nat → Nat → Nat → Nat → MeasureResult × Nat
  | [], _, _, _, bytes, nodes => (.ok bytes, nodes)
  | element :: rest, path, index, depth, bytes, nodes =>
    match measure element (path ++ "[" ++ JsString.ofNat index ++ "]") (depth + 1) nodes with
    | (.ok child, nodes) =>
      match addMeasuredBytes maxBytes bytes child with
      | .ok bytes =>
        if rest.isEmpty then (.ok bytes, nodes)
        else match addMeasuredBytes maxBytes bytes 1 with
          | .ok bytes => measureElements rest path (index + 1) depth bytes nodes
          | refused => (refused, nodes)
      | refused => (refused, nodes)
    | refused => refused

/-- The loop over the members of an object. -/
def measureMembers : List (JsString × Json) → JsString → Nat → Nat → Nat → MeasureResult × Nat
  | [], _, _, bytes, nodes => (.ok bytes, nodes)
  | (key, value) :: rest, path, depth, bytes, nodes =>
    match measure value (path ++ "." ++ key) (depth + 1) nodes with
    | (.ok child, nodes) =>
      match addMeasuredBytes maxBytes bytes (jsonStringByteLength key) with
      | .ok bytes => match addMeasuredBytes maxBytes bytes 1 with
        | .ok bytes => match addMeasuredBytes maxBytes bytes child with
          | .ok bytes =>
            if rest.isEmpty then (.ok bytes, nodes)
            else match addMeasuredBytes maxBytes bytes 1 with
              | .ok bytes => measureMembers rest path depth bytes nodes
              | refused => (refused, nodes)
          | refused => (refused, nodes)
        | refused => (refused, nodes)
      | refused => (refused, nodes)
    | refused => refused
end

/-- `measureJsonBytes(value, maxBytes)`. -/
def measureJsonBytes (value : Json) : MeasureResult := (measure maxBytes value "$" 0 0).1

end Measure

section Checks

/-- `ValidationErrorCode`. -/
inductive ValidationErrorCode where
  | malformed | incompatible | expired | oversized | invalidContent | invalidReply
  deriving DecidableEq, Repr

def ValidationErrorCode.toErrorCode : ValidationErrorCode → ErrorCode
  | .malformed => .malformed
  | .incompatible => .incompatible
  | .expired => .expired
  | .oversized => .oversized
  | .invalidContent => .invalidContent
  | .invalidReply => .invalidReply

structure InternalIssue where
  code : ValidationErrorCode
  path : JsString
  reason : JsString
  keyword : Option JsString
  deriving DecidableEq

/-- How a check ends early: with an issue, or with an exception. -/
inductive Refusal where
  | issue (found : InternalIssue)
  | rangeError (message : RangeError)
  deriving DecidableEq

abbrev Check (α : Type) := Except Refusal α

/-- An issue unless the condition holds. -/
def require (held : Bool) (code : ValidationErrorCode) (path reason : JsString) : Check Unit :=
  if held then .ok () else .error (.issue ⟨code, path, reason, none⟩)

/-- An issue with a keyword. -/
def requireField (held : Bool) (code : ValidationErrorCode) (path reason keyword : JsString) :
    Check Unit :=
  if held then .ok () else .error (.issue ⟨code, path, reason, some keyword⟩)

/-- A call that may throw. -/
def attempt (result : Except RangeError α) : Check α := result.mapError .rangeError

/-- A text that satisfies a predicate. -/
def hasText (value : Option Json) (valid : JsString → Bool) : Bool :=
  (value.bind Json.asString?).any valid

/-- `validateJsonValueInternal(value, path, options)`. -/
def validateJsonValueInternal (value : Json) (path : JsString) : Check Unit :=
  match measureJsonBytes JsNumber.maxSafeInteger value with
  | .ok _ => .ok ()
  | .invalid path reason => .error (.issue ⟨.malformed, path, reason, none⟩)
  | .tooLarge _ => .error (.issue
      ⟨.oversized, path, "JSON value exceeds the validation complexity bound", none⟩)

/-- The value of a JSON content. -/
def validateContentValue (value : Json) (path : JsString) : Check Unit :=
  match validateJsonValueInternal value path with
  | .error (.issue found) =>
    if found.code = .oversized then .error (.issue { found with path })
    else .error (.issue ⟨.invalidContent, path, "value is not valid JSON", none⟩)
  | result => result

/-- `validateTypedContentInternal(value, path, options)`. -/
def validateTypedContentInternal (value : Json) (path : JsString) : Check Unit := do
  require value.isPlainObject .malformed path "content must be an object"
  require (hasText (value.get? "type") fun _ => true) .malformed (path ++ ".type")
    "content type is required"
  if value.get? "type" = some (.string "text") then
    require (hasText (value.get? "text") fun _ => true) .invalidContent (path ++ ".text")
      "text content requires a string text value"
  else if value.get? "type" = some (.string "json") then
    match value.get? "value" with
    | none => .error (.issue ⟨.invalidContent, path ++ ".value", "JSON content requires a value", none⟩)
    | some content => validateContentValue content (path ++ ".value")
  else .error (.issue ⟨.invalidContent, path ++ ".type", "unsupported content type", none⟩)

/-- The details of an error. -/
def validateDetails (details : Json) (path : JsString) : Check Unit := do
  match validateJsonValueInternal details path with
  | .error (.issue found) =>
    if found.code = .oversized then .error (.issue { found with keyword := some "details" })
    else .error (.issue
      ⟨.malformed, found.path, "error details must be a JSON object", some "details"⟩)
  | .error thrown => .error thrown
  | .ok () =>
    requireField details.isPlainObject .malformed path "error details must be a JSON object" "details"

/-- `retryAfterMs` suits the error. -/
def isRetryDelay (value : Option Json) (retryable : Bool) : Bool :=
  (value.bind Json.asNumber?).any (0 < ·.value) && retryable

/-- `validateProtocolErrorValue(value, path, options)`. -/
def validateProtocolErrorValue (value : Json) (path : JsString) : Check Unit := do
  require value.isPlainObject .malformed path "error must be an object"
  let code := ((value.get? "code").bind Json.asString?).bind ErrorCode.ofName?
  requireField code.isSome .malformed (path ++ ".code") "error code is not recognized" "code"
  requireField (hasText (value.get? "message") isSafeHumanReadableMessage) .malformed
    (path ++ ".message") "error message must be a concise safe human-readable string" "message"
  let retryable := (value.get? "retryable").bind Json.asBool?
  requireField retryable.isSome .malformed (path ++ ".retryable") "retryable must be boolean"
    "retryable"
  requireField (retryable == code.map isRetryableErrorCode) .malformed (path ++ ".retryable")
    "retryable does not match the error code" "retryable"
  requireField (!value.hasOwn "retryAfterMs" ||
      isRetryDelay (value.get? "retryAfterMs") (retryable == some true)) .malformed
    (path ++ ".retryAfterMs") "retryAfterMs is invalid for this error" "retryAfterMs"
  match value.get? "details" with
  | none => .ok ()
  | some details => validateDetails details (path ++ ".details")

end Checks

section AgentCards

/-- The capabilities of a card, none of them twice. -/
def validateOperations (path : JsString) : Nat → List JsString → List Json → Check Unit
  | _, _, [] => .ok ()
  | index, seenOperations, operation :: rest => do
    let operationPath := path ++ ".operations[" ++ JsString.ofNat index ++ "]"
    match (operation.get? "operation").bind Json.asString? with
    | none =>
      .error (.issue
        ⟨.malformed, operationPath, "operation capability is invalid", some "operation"⟩)
    | some name =>
      requireField operation.isPlainObject .malformed operationPath "operation capability is invalid"
        "operation"
      requireField (OperationName.ofName? name).isSome .incompatible (operationPath ++ ".operation")
        "operation is unsupported" "operation"
      requireField (!seenOperations.contains name) .malformed (operationPath ++ ".operation")
        "operation capability is duplicated" "operation"
      requireField (!operation.hasOwn "description" ||
          hasText (operation.get? "description") isIdentifier) .malformed
        (operationPath ++ ".description") "operation description is invalid" "description"
      validateOperations path (index + 1) (name :: seenOperations) rest

/-- The kinds of content of a card, none of them twice. -/
def validateContentCapabilities (path : JsString) : Nat → List JsString → List Json → Check Unit
  | _, _, [] => .ok ()
  | index, seenContentTypes, capability :: rest => do
    let capabilityPath := path ++ ".contentCapabilities[" ++ JsString.ofNat index ++ "]"
    match ((capability.get? "type").bind Json.asString?).filter
        fun type : JsString => capability.isPlainObject && (type = "text" || type = "json") with
    | none =>
      .error (.issue
        ⟨.malformed, capabilityPath, "content capability type is invalid", some "type"⟩)
    | some type =>
      requireField (!seenContentTypes.contains type) .malformed (capabilityPath ++ ".type")
        "content capability is duplicated" "type"
      requireField (!capability.hasOwn "supportsSchema" ||
          ((capability.get? "supportsSchema").bind Json.asBool?).isSome) .malformed
        (capabilityPath ++ ".supportsSchema") "supportsSchema must be boolean" "supportsSchema"
      validateContentCapabilities path (index + 1) (type :: seenContentTypes) rest

/-- `limitCeilings`. -/
def limitCeilings : List (JsString × Nat) :=
  [("requestTtlMs", maxRequestTtlMs), ("maxRequestTtlMs", maxRequestTtlMs),
    ("maxControlTtlMs", maxControlTtlMs), ("maxEnvelopeBytes", maxEnvelopeBytes),
    ("maxSchemaBytes", maxSchemaBytes), ("maxQueueEntries", defaultQueueLimit)]

def validateLimit (limits : Json) (path : JsString) (named : JsString × Nat) : Check Unit :=
  requireField (((limits.get? named.1).bind Json.asNumber?).any fun limit =>
      limit.isSafeInteger && 0 < limit.value && limit.value ≤ (named.2 : ℚ)) .malformed
    (path ++ ".limits." ++ named.1)
    (named.1 ++ " must be a positive value within the v1 ceiling") named.1

/-- `validateAgentCardInternal(value, path)` of a card that is not one of discovery. -/
def validateProtocolCard (value : Json) (path : JsString) : Check Unit := do
  requireField (hasText (value.get? "name") isIdentifier) .malformed (path ++ ".name")
    "agent card name is invalid" "name"
  requireField (!value.hasOwn "description" || hasText (value.get? "description") fun text =>
      text.length ≤ 1024 && !text.units.any isControl) .malformed (path ++ ".description")
    "agent card description is invalid" "description"
  requireField (hasText (value.get? "sessionId") isIdentifier) .malformed (path ++ ".sessionId")
    "agent card sessionId is invalid" "sessionId"
  requireField (hasText (value.get? "runtimeId") isIdentifier) .malformed (path ++ ".runtimeId")
    "agent card runtimeId is invalid" "runtimeId"
  let versions := ((value.get? "supportedProtocolVersions").bind Json.asArray?).getD []
  requireField (!versions.isEmpty && versions.all (· == .string protocolVersion)) .incompatible
    (path ++ ".supportedProtocolVersions")
    "agent card must advertise exactly supported protocol versions" "supportedProtocolVersions"
  requireField (versions.length == 1) .malformed (path ++ ".supportedProtocolVersions")
    "supportedProtocolVersions must not contain duplicates" "supportedProtocolVersions"
  let operations := ((value.get? "operations").bind Json.asArray?).getD []
  requireField (!operations.isEmpty) .malformed (path ++ ".operations")
    "agent card operations are required" "operations"
  validateOperations path 0 [] operations
  let contentCapabilities := ((value.get? "contentCapabilities").bind Json.asArray?).getD []
  requireField (!contentCapabilities.isEmpty) .malformed (path ++ ".contentCapabilities")
    "content capabilities are required" "contentCapabilities"
  validateContentCapabilities path 0 [] contentCapabilities
  let capabilities := (value.get? "capabilities").getD .null
  requireField capabilities.isPlainObject .malformed (path ++ ".capabilities")
    "agent capabilities are required" "capabilities"
  requireField ((capabilities.get? "supportsCancellation").bind Json.asBool?).isSome .malformed
    (path ++ ".capabilities.supportsCancellation") "supportsCancellation must be boolean"
    "supportsCancellation"
  requireField ((capabilities.get? "supportsNotifications").bind Json.asBool?).isSome .malformed
    (path ++ ".capabilities.supportsNotifications") "supportsNotifications must be boolean"
    "supportsNotifications"
  let limits := (value.get? "limits").getD .null
  requireField limits.isPlainObject .malformed (path ++ ".limits") "protocol limits are required"
    "limits"
  limitCeilings.forM (validateLimit limits path)
  let limitOf (name : JsString) := (((limits.get? name).bind Json.asNumber?).map JsNumber.value).getD 0
  requireField (limitOf "requestTtlMs" ≤ limitOf "maxRequestTtlMs") .malformed
    (path ++ ".limits.requestTtlMs") "requestTtlMs must not exceed maxRequestTtlMs" "requestTtlMs"

/-- `validateAgentCardInternal(value, path)`. -/
def validateAgentCardInternal (host : Host) (value : Json) (path : JsString) : Check Unit := do
  require value.isPlainObject .malformed path "agent card must be an object"
  if value.hasOwn "protocolVersion" && value.hasOwn "runtimeInstanceId" then
    match CardValidation.validateAgentCard host ⟨none, none, none, none, none⟩ value with
    | [] => .ok ()
    | first :: _ => .error (.issue
        ⟨.malformed, if first.path = "$" then path else path ++ "." ++ first.path,
          "discovery agent card is invalid", none⟩)
  else validateProtocolCard value path

end AgentCards

section Snapshots

variable (host : Host) (options : ValidationOptions)

/-- One of the times of a snapshot. -/
def snapshotTimestamp (value : Json) (path field : JsString) : Check Int := do
  requireField (value.hasOwn field) .malformed (path ++ "." ++ field)
    "task snapshot timestamp is required" field
  match parseUtcTimestamp host (value.get? field) with
  | some timestamp => return timestamp
  | none => .error (.issue
      ⟨.malformed, path ++ "." ++ field, "task snapshot timestamp is invalid", some field⟩)

/-- The three times against each other and the clock. -/
def validateSnapshotTimes (path : JsString) (state : TaskState) (createdAt updatedAt expiresAt : Int) :
    Check Int := do
  requireField (createdAt ≤ updatedAt) .malformed (path ++ ".updatedAt")
    "task snapshot updatedAt must not precede createdAt" "updatedAt"
  requireField (createdAt < expiresAt) .malformed (path ++ ".expiresAt")
    "task snapshot expiry must be later than creation" "expiresAt"
  let limits ← attempt (resolveLimits options)
  let now ← attempt (resolveNow options.now)
  requireField ((expiresAt - createdAt : Int) ≤ limits.maxRequestTtlMs) .malformed
    (path ++ ".expiresAt") "task snapshot lifetime exceeds the configured request limit" "expiresAt"
  requireField (createdAt ≤ now + maxClockSkewMs) .malformed (path ++ ".createdAt")
    "task snapshot creation time is too far in the future" "createdAt"
  requireField (updatedAt ≤ now + maxClockSkewMs) .malformed (path ++ ".updatedAt")
    "task snapshot update time is too far in the future" "updatedAt"
  requireField (now < expiresAt) .expired (path ++ ".expiresAt") "task snapshot deadline has passed"
    "expiresAt"
  requireField (updatedAt ≤ expiresAt || state == .expired) .malformed (path ++ ".updatedAt")
    "task snapshot update time must not exceed its deadline" "updatedAt"
  return now

/-- The cancellation of a snapshot. -/
def validateCancellation (cancellation : Json) (path : JsString) (cancellationRequested : Bool)
    (createdAt expiresAt now : Int) : Check Unit := do
  let state := cancellation.get? "state"
  requireField (cancellation.isPlainObject &&
      (state == some (.string "not_requested") || state == some (.string "requested"))) .malformed
    (path ++ ".cancellation") "cancellation snapshot is invalid" "cancellation"
  requireField ((state == some (.string "requested")) == cancellationRequested) .malformed
    (path ++ ".cancellation.state") "cancellation state does not match cancellationRequested" "state"
  let requestedAt := parseUtcTimestamp host (cancellation.get? "requestedAt")
  requireField (!cancellation.hasOwn "requestedAt" || requestedAt.isSome) .malformed
    (path ++ ".cancellation.requestedAt") "cancellation requestedAt must be a valid timestamp"
    "requestedAt"
  requireField (requestedAt.all fun requestedAt => createdAt ≤ requestedAt &&
      requestedAt ≤ now + maxClockSkewMs && requestedAt ≤ expiresAt) .malformed
    (path ++ ".cancellation.requestedAt") "cancellation requestedAt is outside the task lifetime"
    "requestedAt"

/-- The outcome of a snapshot. -/
def validateTerminalOutcome (value : Json) (path : JsString) (state : TaskState) : Check Unit := do
  if isTerminalTaskState state then
    requireField (hasText (value.get? "terminalOutcome") isTerminalOutcome) .malformed
      (path ++ ".terminalOutcome") "terminal task state requires a matching outcome" "terminalOutcome"
    requireField (value.get? "terminalOutcome" == some (.string state.name)) .malformed
      (path ++ ".terminalOutcome") "terminal outcome must match task state" "terminalOutcome"
  else
    requireField (!value.hasOwn "terminalOutcome") .malformed (path ++ ".terminalOutcome")
      "nonterminal task cannot include terminalOutcome" "terminalOutcome"

/-- A member that is checked when it is there. -/
def validateOptional (value : Option Json) (check : Json → Check Unit) : Check Unit :=
  match value with
  | none => .ok ()
  | some member => check member

/-- `validateTaskSnapshotInternal(value, path, options)`. -/
def validateTaskSnapshotInternal (value : Json) (path : JsString) : Check Unit := do
  require value.isPlainObject .malformed path "task snapshot must be an object"
  requireField (hasText (value.get? "requestId") isUuidV4) .malformed (path ++ ".requestId")
    "task snapshot requestId must be a UUIDv4" "requestId"
  requireField (options.expectedRequestId.all fun expected =>
      value.get? "requestId" == some (.string expected)) .malformed (path ++ ".requestId")
    "task snapshot requestId does not match the expected request" "requestId"
  match ((value.get? "state").bind Json.asString?).bind TaskState.ofName? with
  | none => .error (.issue
      ⟨.malformed, path ++ ".state", "task snapshot state is invalid", some "state"⟩)
  | some state =>
    let createdAt ← snapshotTimestamp host value path "createdAt"
    let updatedAt ← snapshotTimestamp host value path "updatedAt"
    let expiresAt ← snapshotTimestamp host value path "expiresAt"
    let now ← validateSnapshotTimes options path state createdAt updatedAt expiresAt
    let cancellationRequested := (value.get? "cancellationRequested").bind Json.asBool?
    requireField cancellationRequested.isSome .malformed (path ++ ".cancellationRequested")
      "cancellationRequested must be boolean" "cancellationRequested"
    validateOptional (value.get? "cancellation") fun cancellation =>
      validateCancellation host cancellation path (cancellationRequested.getD false) createdAt expiresAt now
    validateTerminalOutcome value path state
    validateOptional (value.get? "content") fun content =>
      validateTypedContentInternal content (path ++ ".content")
    validateOptional (value.get? "error") fun error =>
      validateProtocolErrorValue error (path ++ ".error")
    require (!(value.hasOwn "content" && value.hasOwn "error")) .malformed path
      "task snapshot cannot contain both content and error"

end Snapshots

section Responses

variable (host : Host) (options : ValidationOptions)

/-- The result is about the request that is expected, if one is. -/
def requireExpected (result : Json) (path reason : JsString) : Check Unit :=
  requireField (options.expectedRequestId.all fun expected =>
    result.get? "requestId" == some (.string expected)) .malformed (path ++ ".requestId") reason
    "requestId"

/-- `validateResultForOperation(operation, result, path, responseOperationId, options)`. -/
def validateResultForOperation (operation : OperationName) (result : Json) (path : JsString)
    (responseOperationId : JsString) : Check Unit := do
  require result.isPlainObject .malformed path "operation result must be an object"
  match operation with
  | .peerDescribe =>
    match result.get? "agentCard" with
    | none => .error (.issue ⟨.malformed, path ++ ".agentCard",
        "peer.describe result requires an agent card", some "agentCard"⟩)
    | some agentCard => validateAgentCardInternal host agentCard (path ++ ".agentCard")
  | .messageRequest =>
    requireField (hasText (result.get? "requestId") isUuidV4) .malformed (path ++ ".requestId")
      "requestId must be a UUIDv4" "requestId"
    requireField (result.get? "requestId" == some (.string responseOperationId)) .malformed
      (path ++ ".requestId") "request result requestId must match response operationId" "requestId"
    requireExpected options result path "request result requestId does not match the expected request"
    requireField (hasText (result.get? "state") fun state => state == "accepted" || state == "queued")
      .malformed (path ++ ".state") "request result state must be accepted or queued" "state"
  | .messageReply =>
    requireField (hasText (result.get? "requestId") isUuidV4) .malformed (path ++ ".requestId")
      "requestId must be a UUIDv4" "requestId"
    requireExpected options result path "reply result requestId does not match the expected request"
    requireField (hasText (result.get? "outcome") isTerminalOutcome) .malformed (path ++ ".outcome")
      "reply result outcome is invalid" "outcome"
    requireField (result.get? "delivered" == some (.bool true)) .malformed (path ++ ".delivered")
      "reply result must acknowledge delivery" "delivered"
  | .messageNotify =>
    requireField (result.get? "delivered" == some (.bool true)) .malformed (path ++ ".delivered")
      "notification result must acknowledge delivery" "delivered"
  | .taskStatus | .taskCancel =>
    match result.get? "snapshot" with
    | none => .error (.issue
        ⟨.malformed, path ++ ".snapshot", "task result must include a snapshot", some "snapshot"⟩)
    | some snapshot => validateTaskSnapshotInternal host options snapshot (path ++ ".snapshot")

/-- `OperationResponse`: the fields of a valid response. -/
structure OperationResponse where
  operation : OperationName
  operationId : JsString
  traceId : JsString
  /-- The result, or the error. -/
  outcome : Except Json Json
  deriving DecidableEq

/-- `ValidationResult`. -/
inductive ValidationResult (α : Type) where
  | success (value : α)
  | failure (error : ProtocolError)
  deriving DecidableEq

/-- `issueDetails(path, reason, keyword)`. -/
def issueDetails (path reason : JsString) (keyword : Option JsString) : Json :=
  .record (("path", .string path) :: ("reason", .string reason) ::
    (keyword.map fun keyword => (("keyword" : JsString), Json.string keyword)).toList)

/-- `validationFailure(code, message, path, reason, keyword)`. -/
def validationFailure (code : ValidationErrorCode) (message path reason : JsString)
    (keyword : Option JsString) : ValidationResult α :=
  .failure (createDetailedError code.toErrorCode message (issueDetails path reason keyword))

def messageForInternalCode : ValidationErrorCode → JsString
  | .incompatible => "protocol value is not supported"
  | .expired => "protocol value has expired"
  | .oversized => "protocol value exceeds a configured size limit"
  | .invalidContent => "protocol content is invalid"
  | .invalidReply => "protocol reply is invalid"
  | .malformed => "protocol value is malformed"

/-- `internalIssueFailure(issue)`. -/
def internalIssueFailure (found : InternalIssue) : ValidationResult α :=
  validationFailure found.code (messageForInternalCode found.code) found.path found.reason found.keyword

/-- What a check is answered with: the value it passes, or its issue. -/
def answerCheck (check : Check Unit) (value : α) : Except RangeError (ValidationResult α) :=
  match check with
  | .ok () => .ok (.success value)
  | .error (.issue found) => .ok (internalIssueFailure found)
  | .error (.rangeError message) => .error message

/-- A failure with a message of its own. -/
structure Fault where
  code : ValidationErrorCode
  message : JsString
  path : JsString
  reason : JsString
  deriving DecidableEq

/-- A value that has to be there. -/
def orFault (value : Option α) (code : ValidationErrorCode) (message path reason : JsString) :
    Except Fault α :=
  match value with
  | some value => .ok value
  | none => .error ⟨code, message, path, reason⟩

/-- A condition that has to hold. -/
def faultUnless (held : Bool) (code : ValidationErrorCode) (message path reason : JsString) :
    Except Fault Unit :=
  if held then .ok () else .error ⟨code, message, path, reason⟩

/-- The fields a response has before its result or error is looked at. -/
def responseFields (value : Json) : Except Fault (OperationName × JsString × JsString) := do
  let malformed : JsString := "operation response is malformed"
  faultUnless value.isPlainObject .malformed malformed "$" "response must be an object"
  let version ← orFault ((value.get? "protocolVersion").bind Json.asString?) .malformed malformed
    "$.protocolVersion" "protocolVersion must be a string"
  faultUnless (version = protocolVersion) .incompatible "protocol version is unsupported"
    "$.protocolVersion" "unsupported protocol version"
  let name ← orFault ((value.get? "operation").bind Json.asString?) .malformed malformed "$.operation"
    "operation must be a string"
  let operation ← orFault (OperationName.ofName? name) .incompatible "operation is unsupported"
    "$.operation" "unsupported operation"
  let operationId ← orFault (((value.get? "operationId").bind Json.asString?).filter isUuidV4)
    .malformed malformed "$.operationId" "operationId must be a UUIDv4"
  let traceId ← orFault (((value.get? "traceId").bind Json.asString?).filter isTraceId) .malformed
    malformed "$.traceId" "traceId must be 32 lowercase hexadecimal characters"
  return (operation, operationId, traceId)

/-- The result or error of a response with these fields. -/
def validateOutcome (value : Json) (operation : OperationName) (operationId traceId : JsString) :
    Except RangeError (ValidationResult OperationResponse) :=
  match value.get? "result", value.get? "error" with
  | some result, none =>
    answerCheck (validateResultForOperation host options operation result "$.result" operationId)
      ⟨operation, operationId, traceId, .ok result⟩
  | none, some error =>
    answerCheck (validateProtocolErrorValue error "$.error")
      ⟨operation, operationId, traceId, .error error⟩
  | _, _ => .ok (validationFailure .malformed "operation response is malformed" "$"
      "response must contain exactly one result or error" none)

/-- `validateOperationResponse(value, options)`. -/
def validateOperationResponse (value : Json) :
    Except RangeError (ValidationResult OperationResponse) := do
  let limits ← resolveLimits options
  match measureJsonBytes limits.maxEnvelopeBytes value with
  | .tooLarge _ =>
    return validationFailure .oversized "operation response exceeds the size limit" "$"
      "response exceeds maxEnvelopeBytes" none
  | .invalid path reason =>
    return validationFailure .malformed "operation response is malformed" path reason none
  | .ok _ =>
    match responseFields value with
    | .error fault => return validationFailure fault.code fault.message fault.path fault.reason none
    | .ok (operation, operationId, traceId) =>
      validateOutcome host options value operation operationId traceId

end Responses

end Validation
end PiToPi
