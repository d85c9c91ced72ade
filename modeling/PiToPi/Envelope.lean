import PiToPi.Canonical

/-!
Protocol envelopes (`validateEnvelope` of `protocol/validation.ts`), their canonical projection and
fingerprint, and the bytes they are sent as (`runtime/wire-bridge.ts`).

An envelope stays the JSON value it is: validation says what is known of its members.
-/
namespace PiToPi.Validation
open CardValidation (isIdentifier)

/-- `isRoomId(value)`: `r1-` and 32 hexadecimal digits. -/
def isRoomId (value : JsString) : Bool :=
  value.units.take 3 == ("r1-" : JsString).units && value.length == 35 &&
    (value.units.drop 3).all JsString.isLowerHex

/-- `REQUIRED_ENVELOPE_FIELDS`. -/
def requiredEnvelopeFields : List JsString :=
  ["protocolVersion", "operation", "operationId", "sender", "recipientRuntimeId", "roomId", "createdAt",
    "expiresAt", "traceId", "payload"]

section Payloads

variable (H : SchemaHost) (options : ValidationOptions)

/-- `validateMetadataInternal(value, path, options)`. -/
def validateMetadataInternal (value : Json) (path : JsString) : Check Unit := do
  require value.isPlainObject .invalidContent path "metadata must be a JSON object"
  match validateJsonValueInternal value path with
  | .error (.issue found) =>
    if found.code = .oversized then .error (.issue { found with path })
    else .error (.issue ⟨.invalidContent, path, "metadata must contain only JSON values", none⟩)
  | result => result

/-- The code of an issue that `validateExpectedResponseInternal` makes of an error. -/
def expectedResponseCode : ErrorCode → ValidationErrorCode
  | .incompatible => .incompatible
  | .expired => .expired
  | .oversized => .oversized
  | .invalidContent => .invalidContent
  | .invalidReply => .invalidReply
  | _ => .malformed

/-- A text among the details of an error. -/
def detailText (error : ProtocolError) (key : JsString) : Option JsString :=
  (error.details.bind fun details => details.get? key).bind Json.asString?

/-- `validateExpectedResponseInternal(value, path, options)`. -/
def validateExpectedResponseInternal (value : Json) (path : JsString) : Check Unit := do
  require value.isPlainObject .malformed path "expected response must be an object"
  requireField (value.get? "contentType" == some (.string "json")) .incompatible (path ++ ".contentType")
    "expected responses must use JSON content" "contentType"
  match value.get? "schema" with
  | none => .error (.issue
      ⟨.malformed, path ++ ".schema", "expected response schema is required", some "schema"⟩)
  | some schema =>
    match ← attempt (validateJsonSchema H options schema) with
    | .success _ => return
    | .failure error => .error (.issue
        ⟨expectedResponseCode error.code, (detailText error "path").getD (path ++ ".schema"), error.message,
          detailText error "keyword"⟩)

/-- The content of a message, which has to be there. -/
def validatePayloadContent (payload : Json) (path missing : JsString) : Check Unit :=
  match payload.get? "content" with
  | none => .error (.issue ⟨.invalidContent, path ++ ".content", missing, none⟩)
  | some content => validateTypedContentInternal content (path ++ ".content")

/-- The payload of a reply. -/
def validateReplyPayload (payload : Json) (path : JsString) : Check Unit := do
  match ((payload.get? "outcome").bind Json.asString?).filter isTerminalOutcome with
  | none => .error (.issue
      ⟨.malformed, path ++ ".outcome", "reply outcome is unsupported", some "outcome"⟩)
  | some outcome =>
    if outcome = "completed" then
      validatePayloadContent payload path "completed replies require content"
      require (!payload.hasOwn "error") .malformed (path ++ ".error") "completed replies cannot include an error"
    else
      require (!payload.hasOwn "content") .malformed (path ++ ".content")
        (outcome ++ " replies cannot include content")
      match payload.get? "error" with
      | none =>
        require (outcome != "failed" && outcome != "rejected") .malformed (path ++ ".error")
          (outcome ++ " replies require an error")
      | some error => validateProtocolErrorValue error (path ++ ".error")

/-- `validatePayloadInternal(operation, payload, options)`. -/
def validatePayloadInternal (operation : OperationName) (payload : Json) : Check Unit := do
  let path : JsString := "$.payload"
  require payload.isPlainObject .malformed path "operation payload must be an object"
  match operation with
  | .peerDescribe =>
    validateOptional (payload.get? "requestedProtocolVersion") fun version => do
      require version.asString?.isSome .malformed (path ++ ".requestedProtocolVersion")
        "requested protocol version must be a string"
      require (version == .string protocolVersion) .incompatible (path ++ ".requestedProtocolVersion")
        "requested protocol version is unsupported"
  | .messageRequest =>
    validatePayloadContent payload path "message.request content is required"
    validateOptional (payload.get? "expectedResponse") fun expected =>
      validateExpectedResponseInternal H options expected (path ++ ".expectedResponse")
    validateOptional (payload.get? "metadata") fun metadata =>
      validateMetadataInternal metadata (path ++ ".metadata")
  | .messageNotify =>
    validatePayloadContent payload path "message.notify content is required"
    validateOptional (payload.get? "metadata") fun metadata =>
      validateMetadataInternal metadata (path ++ ".metadata")
  | .messageReply => validateReplyPayload payload path
  | .taskStatus =>
    validateOptional (payload.get? "includeTerminalResponse") fun flag =>
      require flag.asBool?.isSome .malformed (path ++ ".includeTerminalResponse")
        "includeTerminalResponse must be boolean"
  | .taskCancel =>
    validateOptional (payload.get? "reason") fun reason =>
      require reason.asString?.isSome .malformed (path ++ ".reason") "cancellation reason must be a string"

end Payloads

section Envelopes

/-- How the validation of an envelope ends early. -/
inductive Rejection where
  | failure (error : ProtocolError)
  | rangeError (message : RangeError)
  deriving DecidableEq

/-- A check whose issue is answered with the message of its code. -/
def checked (check : Check α) : Except Rejection α :=
  check.mapError fun refusal =>
    match refusal with
    | .issue found => .failure (createDetailedError found.code.toErrorCode (messageForInternalCode found.code)
        (issueDetails found.path found.reason found.keyword))
    | .rangeError message => .rangeError message

/-- A failure with a message of its own unless the condition holds. -/
def failUnless (held : Bool) (code : ValidationErrorCode) (message path reason : JsString) :
    Except Rejection Unit :=
  if held then .ok ()
  else .error (.failure (createDetailedError code.toErrorCode message (issueDetails path reason none)))

/-- A member that makes the envelope malformed unless the condition holds. -/
def wellFormedUnless (held : Bool) (path reason : JsString) : Except Rejection Unit :=
  failUnless held .malformed "protocol envelope is malformed" path reason

/-- `validateEnvelopeRequiredFields(value)`. -/
def validateEnvelopeRequiredFields (value : Json) : Check Unit :=
  requiredEnvelopeFields.forM fun field =>
    require (value.hasOwn field) .malformed ("$." ++ field) "required envelope field is missing"

/-- `validateEnvelopeOperationIds(envelope, operation)`. -/
def validateEnvelopeOperationIds (envelope : Json) (operation : OperationName) : Check Unit := do
  requireField (hasText (envelope.get? "operationId") isUuidV4) .malformed "$.operationId"
    "operationId must be a UUIDv4" "operationId"
  let requestId := envelope.get? "requestId"
  match operation with
  | .messageRequest =>
    requireField (hasText requestId isUuidV4) .malformed "$.requestId"
      "message.request requires a UUIDv4 requestId" "requestId"
    requireField (requestId == envelope.get? "operationId") .malformed "$.requestId"
      "message.request requestId must equal operationId" "requestId"
  | .messageReply | .taskStatus | .taskCancel =>
    requireField (hasText requestId isUuidV4) .malformed "$.requestId"
      (operation.name ++ " requires a UUIDv4 target requestId") "requestId"
    requireField (requestId != envelope.get? "operationId") .malformed "$.requestId"
      (operation.name ++ " requires a new operationId") "requestId"
  | .peerDescribe | .messageNotify =>
    requireField requestId.isNone .malformed "$.requestId" (operation.name ++ " must omit requestId") "requestId"

/-- The object, its version and its operation. -/
def envelopeOperation (value : Json) : Except Rejection OperationName := do
  wellFormedUnless value.isPlainObject "$" "envelope must be an object"
  checked (validateEnvelopeRequiredFields value)
  wellFormedUnless (hasText (value.get? "protocolVersion") fun _ => true) "$.protocolVersion"
    "protocolVersion must be a string"
  failUnless (value.get? "protocolVersion" == some (.string protocolVersion)) .incompatible
    "protocol version is unsupported" "$.protocolVersion" "unsupported protocol version"
  wellFormedUnless (hasText (value.get? "operation") fun _ => true) "$.operation" "operation must be a string"
  match ((value.get? "operation").bind Json.asString?).bind OperationName.ofName? with
  | some operation => return operation
  | none =>
    .error (.failure (createDetailedError .incompatible "operation is unsupported"
      (issueDetails "$.operation" "unsupported operation" none)))

/-- The ids of an envelope, and those it is between. -/
def validateEnvelopeParties (value : Json) (operation : OperationName) : Except Rejection Unit := do
  checked (validateEnvelopeOperationIds value operation)
  wellFormedUnless (!value.hasOwn "parentOperationId" || hasText (value.get? "parentOperationId") isUuidV4)
    "$.parentOperationId" "parentOperationId must be a UUIDv4"
  let sender := (value.get? "sender").getD .null
  wellFormedUnless sender.isPlainObject "$.sender" "sender must be an object"
  wellFormedUnless (hasText (sender.get? "sessionId") isIdentifier) "$.sender.sessionId"
    "sessionId must be a non-empty safe string"
  wellFormedUnless (hasText (sender.get? "runtimeId") isIdentifier) "$.sender.runtimeId"
    "runtimeId must be a non-empty safe string"
  wellFormedUnless (hasText (value.get? "recipientRuntimeId") isIdentifier) "$.recipientRuntimeId"
    "recipientRuntimeId must be a non-empty safe string"
  wellFormedUnless (hasText (value.get? "roomId") isRoomId) "$.roomId" "roomId must be a canonical r1 room ID"
  wellFormedUnless (hasText (value.get? "traceId") isTraceId) "$.traceId"
    "traceId must be 32 lowercase hexadecimal characters"

/-- How long an operation may live. -/
def deadlineLimit (limits : ResolvedLimits) : OperationName → ℚ
  | .peerDescribe | .taskStatus | .taskCancel => limits.maxControlTtlMs
  | .messageRequest | .messageReply | .messageNotify => limits.maxRequestTtlMs

/-- The times of an envelope. -/
def validateEnvelopeTimes (host : Host) (options : ValidationOptions) (limits : ResolvedLimits) (value : Json)
    (operation : OperationName) : Except Rejection Unit := do
  let createdAt := parseUtcTimestamp host (value.get? "createdAt")
  let expiresAt := parseUtcTimestamp host (value.get? "expiresAt")
  wellFormedUnless createdAt.isSome "$.createdAt" "createdAt must be an RFC 3339 UTC timestamp"
  wellFormedUnless expiresAt.isSome "$.expiresAt" "expiresAt must be an RFC 3339 UTC timestamp"
  let createdAt := createdAt.getD 0
  let expiresAt := expiresAt.getD 0
  wellFormedUnless (createdAt < expiresAt) "$.expiresAt" "expiresAt must be later than createdAt"
  wellFormedUnless ((expiresAt - createdAt : Int) ≤ deadlineLimit limits operation) "$.expiresAt"
    "operation deadline exceeds the configured v1 limit"
  let now ← (resolveNow options.now).mapError .rangeError
  wellFormedUnless (createdAt ≤ now + maxClockSkewMs) "$.createdAt" "createdAt is too far in the future"
  failUnless (now < expiresAt) .expired "protocol operation has expired" "$.expiresAt"
    "expiresAt is at or before now"

/-- The payload of an envelope. -/
def validateEnvelopePayload (H : SchemaHost) (options : ValidationOptions) (value : Json)
    (operation : OperationName) : Except Rejection Unit :=
  match validatePayloadInternal H options operation ((value.get? "payload").getD .null) with
  | .error (.issue found) =>
    if found.code = .invalidContent then .error (.failure (createDetailedError .invalidContent
      "operation content is invalid" (issueDetails found.path found.reason found.keyword)))
    else checked (.error (.issue found))
  | result => checked result

/-- What `validateEnvelope` asks of an envelope. -/
def checkEnvelope (host : Host) (H : SchemaHost) (options : ValidationOptions) (value : Json) :
    Except Rejection OperationName := do
  let limits ← (resolveLimits options).mapError .rangeError
  match measureJsonBytes limits.maxEnvelopeBytes value with
  | .tooLarge _ =>
    failUnless false .oversized "protocol envelope exceeds the size limit" "$" "envelope exceeds maxEnvelopeBytes"
  | .invalid path reason => wellFormedUnless false path reason
  | .ok _ => pure ()
  let operation ← envelopeOperation value
  validateEnvelopeParties value operation
  validateEnvelopeTimes host options limits value operation
  validateEnvelopePayload H options value operation
  return operation

/-- What a rejection is answered with. -/
def answerEnvelope (check : Except Rejection α) (value : β) : Except RangeError (ValidationResult β) :=
  match check with
  | .ok _ => .ok (.success value)
  | .error (.failure error) => .ok (.failure error)
  | .error (.rangeError message) => .error message

/-- `validateEnvelope(value, options)`. -/
def validateEnvelope (host : Host) (H : SchemaHost) (options : ValidationOptions) (value : Json) :
    Except RangeError (ValidationResult Json) :=
  answerEnvelope (checkEnvelope host H options value) value

/-- `validateSerializedEnvelope(source, options)` of a text. -/
def validateSerializedEnvelope (N : NumberHost) (host : Host) (H : SchemaHost) (options : ValidationOptions)
    (source : JsString) : Except RangeError (ValidationResult Json) := do
  let limits ← resolveLimits options
  if limits.maxEnvelopeBytes < source.byteLength then
    return validationFailure .oversized "protocol envelope exceeds the size limit" "$"
      "serialized envelope exceeds maxEnvelopeBytes" none
  match Json.parse N source with
  | none =>
    return validationFailure .malformed "protocol envelope is malformed" "$" "serialized envelope is not valid JSON" none
  | some decoded => validateEnvelope host H options decoded

end Envelopes

section Projection

/-- The members of an envelope that are projected as they are. -/
def projectedFields : List JsString :=
  ["protocolVersion", "operation", "operationId", "requestId", "sender", "recipientRuntimeId", "roomId",
    "createdAt", "expiresAt", "traceId", "parentOperationId", "payload"]

/-- The members an object has of the keys, in their order. -/
def projectMembers (keys : List JsString) (value : Json) : List (JsString × Json) :=
  keys.filterMap fun key => (value.get? key).map fun member => (key, member)

/-- `fingerprintData(envelope)`. -/
def fingerprintData (envelope : Json) : Json :=
  .record ((projectMembers projectedFields envelope).map fun (key, member) =>
    if key = "sender" then (key, .record (projectMembers ["sessionId", "runtimeId"] member)) else (key, member))

/-- `CanonicalRequestProjection`. -/
structure CanonicalRequestProjection where
  envelope : Json
  canonical : JsString
  fingerprint : JsString
  deriving DecidableEq

/-- `validatedRequestProjection(value, options)`; the hash is that of the text in UTF-8. -/
def validatedRequestProjection (host : Host) (H : SchemaHost) (sha256 : List UInt16 → JsString)
    (options : ValidationOptions) (value : Json) :
    Except RangeError (ValidationResult CanonicalRequestProjection) := do
  match ← validateEnvelope host H options value with
  | .failure error => return .failure error
  | .success envelope =>
    match canonicalizeJson (fingerprintData envelope) with
    | none =>
      return validationFailure .malformed "request fingerprint cannot be computed" "$"
        "objects must be plain canonical JSON objects" none
    | some canonical =>
      return .success ⟨envelope, canonical, sha256 (JsString.toWellFormed canonical.units)⟩

end Projection

end PiToPi.Validation
