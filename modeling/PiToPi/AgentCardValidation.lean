import PiToPi.AgentCard
import PiToPi.Dates
import PiToPi.JsonValue
import PiToPi.ProtocolError

/-!
What a decoded Agent Card has to be (`agent-card-validation.ts`). The checks list
every fault they find; a card is valid when there is none.
-/
namespace PiToPi.CardValidation

inductive IssueCode where
  | invalidType | cardTooLarge | missingField | invalidValue | unsupportedVersion
  | identityMismatch | roomMismatch | invalidEnum | invalidTimestamp | expired | forbiddenField
  deriving DecidableEq, Repr

/-- `AgentCardValidationIssue`. -/
structure Issue where
  path : JsString
  code : IssueCode
  message : JsString
  deriving DecidableEq

structure AgentCardValidationOptions where
  /-- The time at which the lease has to be live, with `requireUnexpired`. -/
  requireUnexpired : Option ℚ
  expectedRoomId : Option JsString
  expectedRuntimeInstanceId : Option JsString
  expectedRecordFileName : Option JsString
  maxCardSizeBytes : Option Nat

def maxAgentCardSizeBytes : Nat := 64 * 1024
def maxDisplayNameLength : Nat := 128
def maxRoomIdLength : Nat := 256
def maxPurposeLength : Nat := 512
def maxWorkingDirectoryLabelLength : Nat := 256
def maxRoleTagLength : Nat := 64
def maxRoleTags : Nat := 32
def maxEndpointAddressLength : Nat := 2048
def maxContextTokens : Nat := 1000000000
def maxInboundQueueDepth : Nat := 10000
def maxMessageSizeBytes : Nat := 16 * 1024 * 1024
def maxSupportedContentTypes : Nat := 32
def maxContentTypeLength : Nat := 128

def cardFields : List JsString :=
  ["protocolVersion", "sessionId", "runtimeInstanceId", "displayName", "roomId", "purpose",
    "workingDirectoryLabel", "roleTags", "model", "capabilities", "state", "contextUsage",
    "inboundQueueDepth", "endpoint", "runtimeStartedAt", "leaseExpiresAt"]

def cardForbiddenFields : List JsString :=
  ["apiKey", "apiToken", "capabilitySecret", "capabilityToken", "credentials", "message", "messages",
    "prompt", "request", "response", "secret", "task", "taskState"]

def capabilityFields : List JsString :=
  ["structuredReplies", "cancellation", "statusUpdates", "maxMessageSize", "supportedContentTypes"]

def agentStates : List JsString := ["idle", "busy", "draining"]
def endpointTransports : List JsString := ["unix", "named-pipe"]
def modelFields : List JsString := ["provider", "id"]
def contextUsageFields : List JsString := ["tokens", "percent"]
def endpointFields : List JsString := ["kind", "address", "runtimeInstanceId"]

section Texts

open Date (isDigit)

def isAlphanumeric (u : UInt16) : Bool :=
  isDigit u || (0x41 ≤ u && u ≤ 0x5a) || (0x61 ≤ u && u ≤ 0x7a)

/-- `[A-Za-z0-9][A-Za-z0-9…]{0,127}` with the further characters of its class. -/
def matchesBoundedId (further : List UInt16) (value : JsString) : Bool :=
  match value.units with
  | [] => false
  | first :: rest => isAlphanumeric first && rest.length ≤ 127 &&
      rest.all fun u => isAlphanumeric u || further.contains u

/-- `IDENTIFIER_PATTERN`, also that of `isSafeIdentifier`. -/
def isIdentifier (value : JsString) : Bool :=
  matchesBoundedId [0x2e, 0x5f, 0x3a, 0x40, 0x2d] value

/-- `WINDOWS_RESERVED_RUNTIME_INSTANCE_ID_PATTERN`: a device name, alone or before a dot. -/
def isReservedName (value : JsString) : Bool :=
  let folded := value.units.map foldCase
  let ended (rest : List UInt16) : Bool := rest.head?.all (· == 0x2e)
  (["con", "prn", "aux", "nul"].any fun word => startsWith folded word && ended (folded.drop 3)) ||
    (["com", "lpt"].any fun word =>
      startsWith folded word && (folded.drop 3).head?.any isDigit && ended (folded.drop 4))

def isSafeRuntimeInstanceId (value : JsString) : Bool :=
  matchesBoundedId [0x2e, 0x5f, 0x2d] value && value.units.getLast? != some 0x2e &&
    value.units.getLast? != some 0x20 && !isReservedName value

/-- `isCanonicalRoomId(value)`. -/
def isCanonicalRoomId (value : JsString) : Bool :=
  0 < value.length && value.length ≤ maxRoomIdLength && value == value.trim &&
    !value.units.any (fun u => u ≤ 0x1f || u == 0x7f) && !value.units.contains 0x2f &&
    !value.units.contains 0x5c && value != "." && value != ".."

/-- `isBoundedText(value, maxLength)`. -/
def isBoundedText (maxLength : Nat) (value : JsString) : Bool :=
  0 < value.length && value.length ≤ maxLength && value == value.trim && !value.units.any isControl

/-- The rest of the input after a run of the shape: `d` is any digit. -/
def afterShape : List Char → List UInt16 → Option (List UInt16)
  | [], input => some input
  | _ :: _, [] => none
  | c :: shape, u :: rest =>
    if (if c = 'd' then isDigit u else u == c.toNat.toUInt16) then afterShape shape rest else none

/-- The time zone at the end of a timestamp. -/
def isTimeZone (input : List UInt16) : Bool :=
  match input with
  | [] => false
  | sign :: rest => (sign == 0x5a && rest.isEmpty) ||
      ((sign == 0x2b || sign == 0x2d) && afterShape "dd:dd".toList rest == some [])

/-- `ISO_TIMESTAMP_PATTERN`. -/
def isIsoTimestamp (value : JsString) : Bool :=
  match afterShape "dddd-dd-ddTdd:dd:dd".toList value.units with
  | none => false
  | some [] => false
  | some (u :: rest) =>
    if u == 0x2e then
      let digits := rest.takeWhile isDigit
      0 < digits.length && digits.length ≤ 3 && isTimeZone (rest.dropWhile isDigit)
    else isTimeZone (u :: rest)

/-- `Number(value.slice(0, 4))` of a timestamp. -/
def timestampYear (value : JsString) : Nat :=
  (value.units.take 4).foldl (fun n u => 10 * n + (u.toNat - 0x30)) 0

end Texts

/-- `isFiniteInteger(value)`, and the value within bounds. -/
def isIntegerWithin (low high : Nat) (n : JsNumber) : Bool :=
  n.isInteger && low ≤ n.value && n.value ≤ high

section Checks

/-- An issue expect the check holds. -/
def expect (held : Bool) (path : JsString) (code : IssueCode) (message : JsString) : List Issue :=
  if held then [] else [⟨path, code, message⟩]

/-- A text that has to satisfy a predicate. -/
def checkText (valid : JsString → Bool) (value : Option Json) : Bool :=
  (value.bind Json.asString?).any valid

/-- A number that has to satisfy a predicate. -/
def checkNumber (valid : JsNumber → Bool) (value : Option Json) : Bool :=
  (value.bind Json.asNumber?).any valid

def checkKnownFields (record : Json) (knownFields : List JsString) (path : JsString) : List Issue :=
  record.members.flatMap fun (key, _) =>
    expect (knownFields.contains key) (path ++ "." ++ key) .invalidValue "unknown field"

def checkRequiredField (record : Json) (key : JsString) : List Issue :=
  expect (record.hasOwn key) key .missingField "required field is missing"

def boundedTextMessage : JsString := "must be bounded non-empty text"

def validateNullableText (value : Option Json) (path : JsString) (maxLength : Nat) : List Issue :=
  expect (value == some .null || checkText (isBoundedText maxLength) value) path .invalidValue
    "must be null or bounded non-empty text"

/-- The loop over an array of bounded texts, none of them twice. -/
def checkTexts (path : JsString) (maxLength : Nat) (duplicate : JsString) :
    Nat → List JsString → List Json → List Issue
  | _, _, [] => []
  | index, seen, entry :: rest =>
    let here := path ++ "[" ++ JsString.ofNat index ++ "]"
    match entry.asString? with
    | none => ⟨here, .invalidValue, boundedTextMessage⟩ ::
        checkTexts path maxLength duplicate (index + 1) seen rest
    | some text =>
      if !isBoundedText maxLength text then
        ⟨here, .invalidValue, boundedTextMessage⟩ ::
          checkTexts path maxLength duplicate (index + 1) seen rest
      else expect (!seen.contains text) here .invalidValue duplicate ++
        checkTexts path maxLength duplicate (index + 1) (text :: seen) rest

def validateRoleTags : Option Json → List Issue
  | some (.array tags) =>
    expect (tags.length ≤ maxRoleTags) "roleTags" .invalidValue
        ("must contain at most " ++ JsString.ofNat maxRoleTags ++ " entries") ++
      checkTexts "roleTags" maxRoleTagLength "must not contain duplicate role tags" 0 [] tags
  | _ => [⟨"roleTags", .invalidType, "must be an array"⟩]

def validateModel (value : Option Json) : List Issue :=
  match value with
  | some .null => []
  | some (.object readOnly members) =>
    let model := Json.object readOnly members
    checkKnownFields model modelFields "model" ++
      if !model.hasOwn "provider" then checkRequiredField model "provider"
      else if !model.hasOwn "id" then checkRequiredField model "id"
      else
        expect (checkText (isBoundedText 128) (model.get? "provider")) "model.provider" .invalidValue
            boundedTextMessage ++
          expect (checkText (isBoundedText 256) (model.get? "id")) "model.id" .invalidValue
            boundedTextMessage
  | _ => [⟨"model", .invalidType, "must be an object or null"⟩]

/-- One measurement of the context usage; `percent` has a bound of its own. -/
def validateUsage (usage : Json) (key path message : JsString) (most : Nat) : List Issue :=
  if !usage.hasOwn key then checkRequiredField usage key
  else expect (usage.get? key == some .null || checkNumber (isIntegerWithin 0 most) (usage.get? key))
    path .invalidValue message

def validateContextUsage (value : Option Json) : List Issue :=
  match value with
  | some .null => []
  | some (.object readOnly members) =>
    let usage := Json.object readOnly members
    checkKnownFields usage contextUsageFields "contextUsage" ++
      validateUsage usage "tokens" "contextUsage.tokens"
        ("must be null or an integer from 0 through " ++ JsString.ofNat maxContextTokens)
        maxContextTokens ++
      validateUsage usage "percent" "contextUsage.percent"
        "must be null or an integer from 0 through 100" 100
  | _ => [⟨"contextUsage", .invalidType, "must be an object or null"⟩]

def validateSupportedContentTypes (capabilities : Json) : List Issue :=
  match capabilities.get? "supportedContentTypes" with
  | none => checkRequiredField capabilities "supportedContentTypes"
  | some (.array types) =>
    expect (types.length ≤ maxSupportedContentTypes) "capabilities.supportedContentTypes"
        .invalidValue ("must contain at most " ++ JsString.ofNat maxSupportedContentTypes ++
          " entries") ++
      checkTexts "capabilities.supportedContentTypes" maxContentTypeLength
        "must not contain duplicate content types" 0 [] types
  | some _ => [⟨"capabilities.supportedContentTypes", .invalidType, "must be an array"⟩]

/-- A capability that is a flag. -/
def validateFlag (capabilities : Json) (key : JsString) : List Issue :=
  if !capabilities.hasOwn key then checkRequiredField capabilities key
  else expect ((capabilities.get? key).any (·.asBool?.isSome)) ("capabilities." ++ key) .invalidType
    "must be a boolean"

def validateCapabilities (value : Option Json) : List Issue :=
  match value with
  | some (.object readOnly members) =>
    let capabilities := Json.object readOnly members
    checkKnownFields capabilities capabilityFields "capabilities" ++
      validateFlag capabilities "structuredReplies" ++
      validateFlag capabilities "cancellation" ++
      validateFlag capabilities "statusUpdates" ++
      (if !capabilities.hasOwn "maxMessageSize" then checkRequiredField capabilities "maxMessageSize"
        else expect (checkNumber (isIntegerWithin 1 maxMessageSizeBytes)
            (capabilities.get? "maxMessageSize")) "capabilities.maxMessageSize" .invalidValue
          ("must be an integer from 1 through " ++ JsString.ofNat maxMessageSizeBytes)) ++
      validateSupportedContentTypes capabilities
  | _ => [⟨"capabilities", .invalidType, "must be an object"⟩]

/-- The identity an endpoint repeats. -/
def validateEndpointOwner (endpoint : Json) (runtimeInstanceId : Option Json) : List Issue :=
  if !checkText isSafeRuntimeInstanceId (endpoint.get? "runtimeInstanceId") then
    [⟨"endpoint.runtimeInstanceId", .invalidValue, "must be a bounded runtime identity"⟩]
  else expect (endpoint.get? "runtimeInstanceId" == runtimeInstanceId) "endpoint.runtimeInstanceId"
    .identityMismatch "must match the card runtimeInstanceId"

def validateEndpoint (value : Option Json) (runtimeInstanceId : Option Json) : List Issue :=
  match value with
  | some (.object readOnly members) =>
    let endpoint := Json.object readOnly members
    checkKnownFields endpoint endpointFields "endpoint" ++
      if !endpoint.hasOwn "kind" then checkRequiredField endpoint "kind"
      else
        expect (checkText endpointTransports.contains (endpoint.get? "kind")) "endpoint.kind"
            .invalidEnum "unsupported endpoint transport" ++
          if !endpoint.hasOwn "address" then checkRequiredField endpoint "address"
          else
            expect (checkText (isBoundedText maxEndpointAddressLength) (endpoint.get? "address"))
                "endpoint.address" .invalidValue boundedTextMessage ++
              if !endpoint.hasOwn "runtimeInstanceId" then
                checkRequiredField endpoint "runtimeInstanceId"
              else validateEndpointOwner endpoint runtimeInstanceId
  | _ => [⟨"endpoint", .invalidType, "must be an object"⟩]

/-- `parseTimestamp`: the time, or the issue it reports for `null`. -/
def parseTimestamp (host : Host) (value : Option Json) (path : JsString) : Except Issue Int :=
  match value.bind Json.asString? with
  | none => .error ⟨path, .invalidTimestamp,
      "must be a bounded ISO-8601 timestamp with an explicit timezone"⟩
  | some text =>
    if 64 < text.length ∨ isIsoTimestamp text = false then .error ⟨path, .invalidTimestamp,
      "must be a bounded ISO-8601 timestamp with an explicit timezone"⟩
    else match Date.parse host text with
      | none => .error ⟨path, .invalidTimestamp, "must be a valid ISO-8601 timestamp"⟩
      | some parsed =>
        if timestampYear text < 2000 ∨ 2100 < timestampYear text then .error ⟨path, .invalidTimestamp,
          "timestamp year is outside the supported bounded range"⟩
        else .ok parsed

/-- The issue a timestamp that is not read leaves. -/
def timestampIssues : Except Issue Int → List Issue
  | .ok _ => []
  | .error found => [found]

/-- What is said of the two timestamps together. -/
def checkLease (startedAt expiresAt : Except Issue Int) : List Issue :=
  match startedAt, expiresAt with
  | .ok startedAt, .ok expiresAt => expect (startedAt < expiresAt) "leaseExpiresAt" .invalidTimestamp
      "must be later than runtimeStartedAt"
  | _, _ => []

def checkUnexpired (requireUnexpired : Option ℚ) (expiresAt : Except Issue Int) : List Issue :=
  match requireUnexpired, expiresAt with
  | some now, .ok expiresAt => expect (now < expiresAt) "leaseExpiresAt" .expired
      "card lease has expired"
  | _, _ => []

/-- An identity that was expected. -/
def checkExpected (expected : Option JsString) (value : Option Json) (path : JsString)
    (code : IssueCode) (message : JsString) : List Issue :=
  match expected with
  | none => []
  | some expected => expect (value == some (.string expected)) path code message

/-- The name of the record, of the runtime the card is of. -/
def checkRecordFileName (expected : Option JsString) (runtimeInstanceId : Option Json) :
    List Issue :=
  match expected with
  | none => []
  | some expected =>
    expect (expected == (runtimeInstanceId.elim ("undefined" : JsString) Json.toText) ++ ".json")
      "runtimeInstanceId" .identityMismatch
      "card runtime identity does not match its record filename"

/-- The size of the card as it is written. -/
def checkSize (input : Json) (maxCardSizeBytes : Option Nat) : List Issue :=
  let maxCardSize := min (maxCardSizeBytes.getD maxAgentCardSizeBytes) maxAgentCardSizeBytes
  expect (1 ≤ maxCardSize && input.stringify.byteLength ≤ maxCardSize) "$" .cardTooLarge
    ("card exceeds the " ++ JsString.ofNat maxAgentCardSizeBytes ++ "-byte size limit")

def validateProtocolVersion (value : Option Json) : List Issue :=
  if !checkNumber JsNumber.isInteger value then
    [⟨"protocolVersion", .invalidType, "must be an integer protocol version"⟩]
  else expect (checkNumber (·.value = 1) value) "protocolVersion" .unsupportedVersion
    "supported version is 1"

def identityMessage : JsString := "must be a bounded identity of at most 128 characters"

/-- What is forbidden in a card whatever it is called. -/
def forbiddenTopLevelFields (record : Json) : List Issue :=
  record.members.flatMap fun (key, _) => expect (!cardForbiddenFields.contains key) key .forbiddenField
    "Agent Cards are discovery metadata and cannot contain message or secret data"

/-- The issues `validateAgentCard(input, options)` lists for an object. -/
def recordIssues (host : Host) (options : AgentCardValidationOptions) (input : Json) : List Issue :=
  let runtimeStartedAt := parseTimestamp host (input.get? "runtimeStartedAt") "runtimeStartedAt"
  let leaseExpiresAt := parseTimestamp host (input.get? "leaseExpiresAt") "leaseExpiresAt"
  checkKnownFields input cardFields "$" ++
    forbiddenTopLevelFields input ++
    cardFields.flatMap (checkRequiredField input) ++
    validateProtocolVersion (input.get? "protocolVersion") ++
    expect (checkText isIdentifier (input.get? "sessionId")) "sessionId" .invalidValue
      identityMessage ++
    expect (checkText isSafeRuntimeInstanceId (input.get? "runtimeInstanceId")) "runtimeInstanceId"
      .invalidValue identityMessage ++
    checkExpected options.expectedRuntimeInstanceId (input.get? "runtimeInstanceId")
      "runtimeInstanceId" .identityMismatch "does not match the expected runtime identity" ++
    expect (checkText (isBoundedText maxDisplayNameLength) (input.get? "displayName")) "displayName"
      .invalidValue boundedTextMessage ++
    expect (checkText isCanonicalRoomId (input.get? "roomId")) "roomId" .invalidValue
      "must be a canonical room identity of at most 256 characters" ++
    checkExpected options.expectedRoomId (input.get? "roomId") "roomId" .roomMismatch
      "does not match the room being listed" ++
    validateNullableText (input.get? "purpose") "purpose" maxPurposeLength ++
    validateNullableText (input.get? "workingDirectoryLabel") "workingDirectoryLabel"
      maxWorkingDirectoryLabelLength ++
    validateRoleTags (input.get? "roleTags") ++
    validateModel (input.get? "model") ++
    validateCapabilities (input.get? "capabilities") ++
    expect (checkText agentStates.contains (input.get? "state")) "state"
      .invalidEnum "unsupported agent state" ++
    validateContextUsage (input.get? "contextUsage") ++
    expect (checkNumber (isIntegerWithin 0 maxInboundQueueDepth) (input.get? "inboundQueueDepth"))
      "inboundQueueDepth" .invalidValue
      ("must be an integer from 0 through " ++ JsString.ofNat maxInboundQueueDepth) ++
    validateEndpoint (input.get? "endpoint") (input.get? "runtimeInstanceId") ++
    timestampIssues runtimeStartedAt ++
    timestampIssues leaseExpiresAt ++
    checkLease runtimeStartedAt leaseExpiresAt ++
    checkRecordFileName options.expectedRecordFileName (input.get? "runtimeInstanceId") ++
    checkUnexpired options.requireUnexpired leaseExpiresAt

/-- `validateAgentCard(input, options)`: the faults of a decoded card. -/
def validateAgentCard (host : Host) (options : AgentCardValidationOptions) (input : Json) :
    List Issue :=
  checkSize input options.maxCardSizeBytes ++
    if input.isRecord then recordIssues host options input
    else [⟨"$", .invalidType, "card must be a JSON object"⟩]

end Checks

end PiToPi.CardValidation
