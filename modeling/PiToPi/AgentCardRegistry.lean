import PiToPi.AgentCardValidation
import PiToPi.JsonText

/-!
The registry of Agent Cards (`agent-card-registry.ts`): what a runtime publishes,
and what the runtimes of its room read back.

The directory of a room maps file names to what a decoder makes of their bytes.
Publication and reading are as they run when no call of the file system fails and
no deadline passes.
-/
namespace PiToPi

section Form

def AgentState.name : AgentState → JsString
  | .idle => "idle"
  | .busy => "busy"
  | .draining => "draining"

def AgentState.ofName? (name : JsString) : Option AgentState :=
  [AgentState.idle, .busy, .draining].find? fun state => state.name = name

def EndpointTransport.name : EndpointTransport → JsString
  | .unix => "unix"
  | .namedPipe => "named-pipe"

def EndpointTransport.ofName? (name : JsString) : Option EndpointTransport :=
  [EndpointTransport.unix, .namedPipe].find? fun kind => kind.name = name

namespace Json

/-- `null` for a value that is not there. -/
def nullable (write : α → Json) : Option α → Json
  | none => .null
  | some value => write value

/-- A value or `null`. -/
def nullable? (read : Json → Option α) : Json → Option (Option α)
  | .null => some none
  | value => (read value).map some

end Json

def AgentModel.toJson (model : AgentModel) : Json :=
  .record [("provider", .string model.provider), ("id", .string model.id)]

def AgentModel.ofJson? (value : Json) : Option AgentModel := do
  let provider ← (value.get? "provider").bind Json.asString?
  let id ← (value.get? "id").bind Json.asString?
  return { provider, id }

def ContextUsage.toJson (usage : ContextUsage) : Json :=
  .record [("tokens", Json.nullable .number usage.tokens),
    ("percent", Json.nullable .number usage.percent)]

def ContextUsage.ofJson? (value : Json) : Option ContextUsage := do
  let tokens ← (value.get? "tokens").bind (Json.nullable? Json.asNumber?)
  let percent ← (value.get? "percent").bind (Json.nullable? Json.asNumber?)
  return { tokens, percent }

def AgentCapabilities.toJson (capabilities : AgentCapabilities) : Json :=
  .record [("structuredReplies", .bool capabilities.structuredReplies),
    ("cancellation", .bool capabilities.cancellation),
    ("statusUpdates", .bool capabilities.statusUpdates),
    ("maxMessageSize", .number capabilities.maxMessageSize),
    ("supportedContentTypes", .array (capabilities.supportedContentTypes.map .string))]

def AgentCapabilities.ofJson? (value : Json) : Option AgentCapabilities := do
  let structuredReplies ← (value.get? "structuredReplies").bind Json.asBool?
  let cancellation ← (value.get? "cancellation").bind Json.asBool?
  let statusUpdates ← (value.get? "statusUpdates").bind Json.asBool?
  let maxMessageSize ← (value.get? "maxMessageSize").bind Json.asNumber?
  let types ← (value.get? "supportedContentTypes").bind Json.asArray?
  let supportedContentTypes ← types.mapM Json.asString?
  return { structuredReplies, cancellation, statusUpdates, maxMessageSize, supportedContentTypes }

def EndpointDescriptor.toJson (endpoint : EndpointDescriptor) : Json :=
  .record [("kind", .string endpoint.kind.name), ("address", .string endpoint.address),
    ("runtimeInstanceId", .string endpoint.runtimeInstanceId)]

def EndpointDescriptor.ofJson? (value : Json) : Option EndpointDescriptor := do
  let kind ← ((value.get? "kind").bind Json.asString?).bind EndpointTransport.ofName?
  let address ← (value.get? "address").bind Json.asString?
  let runtimeInstanceId ← (value.get? "runtimeInstanceId").bind Json.asString?
  return { kind, address, runtimeInstanceId }

/-- The object a card is, its members as `createAgentCard` writes them. -/
def AgentCard.toJson (card : AgentCard) : Json :=
  .record [("protocolVersion", .number card.protocolVersion), ("sessionId", .string card.sessionId),
    ("runtimeInstanceId", .string card.runtimeInstanceId), ("displayName", .string card.displayName),
    ("roomId", .string card.roomId), ("purpose", Json.nullable .string card.purpose),
    ("workingDirectoryLabel", Json.nullable .string card.workingDirectoryLabel),
    ("roleTags", .array (card.roleTags.map .string)),
    ("model", Json.nullable AgentModel.toJson card.model),
    ("capabilities", card.capabilities.toJson), ("state", .string card.state.name),
    ("contextUsage", Json.nullable ContextUsage.toJson card.contextUsage),
    ("inboundQueueDepth", .number card.inboundQueueDepth), ("endpoint", card.endpoint.toJson),
    ("runtimeStartedAt", .string card.runtimeStartedAt),
    ("leaseExpiresAt", .string card.leaseExpiresAt)]

/-- The card a valid object is. -/
def AgentCard.ofJson? (value : Json) : Option AgentCard := do
  let protocolVersion ← (value.get? "protocolVersion").bind Json.asNumber?
  let sessionId ← (value.get? "sessionId").bind Json.asString?
  let runtimeInstanceId ← (value.get? "runtimeInstanceId").bind Json.asString?
  let displayName ← (value.get? "displayName").bind Json.asString?
  let roomId ← (value.get? "roomId").bind Json.asString?
  let purpose ← (value.get? "purpose").bind (Json.nullable? Json.asString?)
  let workingDirectoryLabel ← (value.get? "workingDirectoryLabel").bind (Json.nullable? Json.asString?)
  let tags ← (value.get? "roleTags").bind Json.asArray?
  let roleTags ← tags.mapM Json.asString?
  let model ← (value.get? "model").bind (Json.nullable? AgentModel.ofJson?)
  let capabilities ← (value.get? "capabilities").bind AgentCapabilities.ofJson?
  let state ← ((value.get? "state").bind Json.asString?).bind AgentState.ofName?
  let contextUsage ← (value.get? "contextUsage").bind (Json.nullable? ContextUsage.ofJson?)
  let inboundQueueDepth ← (value.get? "inboundQueueDepth").bind Json.asNumber?
  let endpoint ← (value.get? "endpoint").bind EndpointDescriptor.ofJson?
  let runtimeStartedAt ← (value.get? "runtimeStartedAt").bind Json.asString?
  let leaseExpiresAt ← (value.get? "leaseExpiresAt").bind Json.asString?
  return { protocolVersion, sessionId, runtimeInstanceId, displayName, roomId, purpose,
           workingDirectoryLabel, roleTags, model, capabilities, state, contextUsage,
           inboundQueueDepth, endpoint, runtimeStartedAt, leaseExpiresAt }

end Form

namespace CardRegistry
open Naming CardValidation

/-- What a call throws. -/
inductive RegistryError where
  | registry (message : JsString)
  | lease (message : JsString)
  | typeError (message : JsString)
  | filesystem (message : JsString)

section Publication

variable (host : Host)

/-- `AgentCardMetadataPatch`; `none` is `undefined`, and `some none` is `null`. -/
structure AgentCardMetadataPatch where
  displayName : Option (Option JsString)
  purpose : Option (Option JsString)
  workingDirectoryLabel : Option (Option JsString)
  roleTags : Option (List JsString)
  model : Option (Option AgentModel)
  capabilities : Option AgentCapabilities
  state : Option AgentState
  contextUsage : Option (Option ContextUsage)
  inboundQueueDepth : Option JsNumber
  endpointKind : Option EndpointTransport
  endpointAddress : Option JsString
  endpointRuntimeInstanceId : Option JsString

/-- `MutableCardMetadata`; the endpoint is of the runtime itself. -/
structure MutableCardMetadata where
  protocolVersion : JsNumber
  displayName : JsString
  purpose : Option JsString
  workingDirectoryLabel : Option JsString
  roleTags : List JsString
  model : Option AgentModel
  capabilities : AgentCapabilities
  state : AgentState
  contextUsage : Option ContextUsage
  inboundQueueDepth : JsNumber
  endpointKind : EndpointTransport
  endpointAddress : JsString

/-- The fields of an `AgentCardRegistry` that its publications read. -/
structure AgentCardRegistry where
  roomId : RoomId
  runtimeId : RuntimeId
  sessionId : JsString
  ttlMs : Nat
  maxCardBytes : Nat
  runtimeStartedAt : JsString
  metadata : MutableCardMetadata
  shutdownRequested : Bool
  leaseStopped : Bool

/-- `runtimeId.replaceAll('-', '').slice(-12)`. -/
def lastTwelve (runtimeId : JsString) : JsString :=
  let units := runtimeId.units.filter (· != 0x2d)
  ⟨units.drop (units.length - 12)⟩

/-- `patch.displayName?.trim()`, or the name of a runtime that has none. -/
def metadataDisplayName (runtimeId : RuntimeId) (displayName : Option JsString) : JsString :=
  match displayName.map JsString.trim with
  | none => "pi-to-pi-" ++ lastTwelve runtimeId.val
  | some trimmed => if trimmed.length = 0 then "pi-to-pi-" ++ lastTwelve runtimeId.val else trimmed

/-- The metadata after a patch. -/
def patchMetadata (runtimeId : RuntimeId) (metadata : MutableCardMetadata)
    (patch : AgentCardMetadataPatch) : MutableCardMetadata where
  protocolVersion := metadata.protocolVersion
  displayName := (patch.displayName.map (metadataDisplayName runtimeId)).getD metadata.displayName
  purpose := patch.purpose.getD metadata.purpose
  workingDirectoryLabel := patch.workingDirectoryLabel.getD metadata.workingDirectoryLabel
  roleTags := patch.roleTags.getD metadata.roleTags
  model := patch.model.getD metadata.model
  capabilities := patch.capabilities.getD metadata.capabilities
  state := patch.state.getD metadata.state
  contextUsage := patch.contextUsage.getD metadata.contextUsage
  inboundQueueDepth := patch.inboundQueueDepth.getD metadata.inboundQueueDepth
  endpointKind := patch.endpointKind.getD metadata.endpointKind
  endpointAddress := patch.endpointAddress.getD metadata.endpointAddress

/-- `createFallbackDisplayName(runtimeInstanceId)`. -/
def createFallbackDisplayName (runtimeInstanceId : JsString) : JsString :=
  let units := runtimeInstanceId.trim.units.filter isAlphanumeric
  let suffix := units.drop (units.length - 12)
  "pi-to-pi-" ++ (if suffix.isEmpty then ("runtime" : JsString) else ⟨suffix⟩)

/-- `resolveDisplayName(sessionName, runtimeInstanceId)`. -/
def resolveDisplayName (sessionName runtimeInstanceId : JsString) : JsString :=
  if sessionName.trim.length = 0 then createFallbackDisplayName runtimeInstanceId else sessionName.trim

/-- `normalizeOptionalText(value)`. -/
def normalizeOptionalText (value : Option JsString) : Option JsString :=
  (value.map JsString.trim).filter fun normalized => normalized.length ≠ 0

/-- `parseLeaseTimestamp(value)`, of a number or a text that is read as one. -/
def finiteTimestamp (value : Option ℚ) (label : JsString) : Except RegistryError Nat :=
  match value with
  | none => .error (.lease (label ++ " must be a non-negative safe integer timestamp"))
  | some value =>
    if value.isInt ∧ 0 ≤ value ∧ value ≤ JsNumber.maxSafeInteger then .ok value.floor.toNat
    else .error (.lease (label ++ " must be a non-negative safe integer timestamp"))

/-- `serializeLeaseTimestamp`. -/
def serializeLeaseTimestamp (value : Option ℚ) (label : JsString) : Except RegistryError JsString := do
  let parsed ← finiteTimestamp value label
  match Date.toISOString parsed with
  | some text => return text
  | none => .error (.lease (label ++ " is outside the supported ISO timestamp range"))

/-- `nowValue`: what the clock of a registry gives. -/
def nowValue (value : ℚ) : Except RegistryError Nat :=
  if value.isInt ∧ 0 ≤ value ∧ value ≤ JsNumber.maxSafeInteger then .ok value.floor.toNat
  else .error (.registry "now must be a non-negative safe integer timestamp")

/-- `leaseExpiration({ now, ttlMs })`. -/
def leaseExpiration (now ttlMs : Nat) : Except RegistryError Nat :=
  if now + ttlMs ≤ JsNumber.maxSafeInteger then .ok (now + ttlMs)
  else .error (.lease "lease expiration is outside the supported timestamp range")

/-- `buildCard()`, with `createAgentCard` of its draft. -/
def buildCard (registry : AgentCardRegistry) (clock : ℚ) : Except RegistryError AgentCard := do
  let now ← nowValue clock
  let expiry ← leaseExpiration now registry.ttlMs
  let runtimeStartedAt ← serializeLeaseTimestamp
    ((Date.parse host registry.runtimeStartedAt).map fun time => (time : ℚ)) "runtimeStartedAt"
  let leaseExpiresAt ← serializeLeaseTimestamp (some expiry) "leaseExpiresAt"
  let metadata := registry.metadata
  return {
    protocolVersion := metadata.protocolVersion
    sessionId := registry.sessionId
    runtimeInstanceId := registry.runtimeId.val
    displayName := resolveDisplayName metadata.displayName registry.runtimeId.val
    roomId := registry.roomId.val
    purpose := normalizeOptionalText metadata.purpose
    workingDirectoryLabel := normalizeOptionalText metadata.workingDirectoryLabel
    roleTags := metadata.roleTags
    model := metadata.model
    capabilities := metadata.capabilities
    state := metadata.state
    contextUsage := metadata.contextUsage
    inboundQueueDepth := metadata.inboundQueueDepth
    endpoint := {
      kind := metadata.endpointKind
      address := metadata.endpointAddress
      runtimeInstanceId := registry.runtimeId.val }
    runtimeStartedAt
    leaseExpiresAt }

/-- A file as its readers find it. -/
structure CardFile where
  /-- What a strict UTF-8 decoder makes of its bytes. -/
  text : Option JsString
  /-- Its length in bytes. -/
  size : Nat

/-- A file written with a text; a byte order mark is not decoded. -/
def CardFile.ofText (text : JsString) : CardFile where
  text := some ⟨match JsString.toWellFormed text.units with
    | 0xfeff :: rest => rest
    | units => units⟩
  size := text.byteLength

abbrev Directory := JsMap JsString CardFile

/-- `cardFileName(runtimeInstanceId)`. -/
def cardFileName (runtimeInstanceId : JsString) : JsString := runtimeInstanceId ++ ".json"

/-- The text of a validation error. -/
def issuesText (issues : List Issue) : JsString :=
  joinWith "; " (issues.map fun found => found.path ++ ": " ++ found.message)

/-- What `writeAgentCardAtomically` refuses before it writes. -/
def checkCard (registry : AgentCardRegistry) (card : AgentCard) : Except RegistryError JsString := do
  if !isSafeRuntimeInstanceId registry.runtimeId.val then
    throw (.filesystem ("runtimeInstanceId is not a safe cross-platform identity: " ++
      registry.runtimeId.val))
  if card.runtimeInstanceId ≠ registry.runtimeId.val then
    throw (.filesystem "Card runtimeInstanceId does not match its destination filename")
  if card.roomId ≠ registry.roomId.val then
    throw (.filesystem "Card roomId does not match its destination room")
  let serialized := card.toJson.stringify
  if registry.maxCardBytes = 0 then
    throw (.filesystem "maxCardBytes must be a positive safe integer")
  if registry.maxCardBytes < serialized.byteLength then
    throw (.filesystem ("Agent Card exceeds the " ++ JsString.ofNat registry.maxCardBytes ++
      "-byte limit"))
  let issues := validateAgentCard host {
    requireUnexpired := none
    expectedRoomId := some registry.roomId.val
    expectedRuntimeInstanceId := some registry.runtimeId.val
    expectedRecordFileName := some (cardFileName registry.runtimeId.val)
    maxCardSizeBytes := some (min registry.maxCardBytes maxAgentCardSizeBytes) } card.toJson
  if issues ≠ [] then throw (.filesystem (issuesText issues))
  return serialized

/-- `publishCurrentCard()`: the card, and the directory with its file. -/
def publishCurrentCard (registry : AgentCardRegistry) (clock : ℚ) (directory : Directory) :
    Except RegistryError (AgentCard × Directory) := do
  if registry.shutdownRequested ∨ registry.leaseStopped then
    throw (.registry "cannot publish a stopped Agent Card registry")
  let card ← buildCard host registry clock
  let serialized ← checkCard host registry card
  return (card, directory.set (cardFileName registry.runtimeId.val) (.ofText serialized))

/-- `updateMetadata(patch)`: the publication it makes, and the registry it leaves. -/
def updateMetadata (registry : AgentCardRegistry) (patch : AgentCardMetadataPatch) (clock : ℚ)
    (directory : Directory) : Except RegistryError (AgentCardRegistry × AgentCard × Directory) := do
  if registry.shutdownRequested ∨ registry.leaseStopped then
    throw (.registry "cannot update a stopped Agent Card registry")
  if patch.endpointRuntimeInstanceId.any (· ≠ registry.runtimeId.val) then
    throw (.registry "endpoint.runtimeInstanceId does not match the owner")
  let patched := { registry with metadata := patchMetadata registry.runtimeId registry.metadata patch }
  return (patched, ← publishCurrentCard host patched clock directory)

end Publication

section Listing

variable (H : NameHost) (host : Host) (N : NumberHost)

def maxScanEntries : Nat := 256

/-- `fileName.slice(0, -'.json'.length)` of a name that ends so. -/
def runtimeOfFile (fileName : JsString) : Option JsString :=
  if (JsString.ofString ".json").units.isSuffixOf fileName.units then
    some ⟨fileName.units.take (fileName.length - 5)⟩
  else none

/-- `entry.name.includes('.tmp-')`. -/
def isTemporaryName (fileName : JsString) : Bool :=
  fileName.units.tails.any fun rest => startsWith rest ".tmp-"

/-- `finalCardNames`: the names of the cards among the first entries. -/
def finalCardNames (directory : Directory) : List JsString :=
  ((directory.keys.take maxScanEntries).filter fun name =>
    (runtimeOfFile name).isSome && !isTemporaryName name).mergeSort fun a b =>
      a.units.map UInt16.toNat ≤ b.units.map UInt16.toNat

/-- `readCandidate`: the card of a file that can be taken for one. -/
def readCandidate (roomId : RoomId) (directory : Directory) (now : Nat) (fileName : JsString) :
    Option AgentCard := do
  let runtimeInstanceId ← runtimeOfFile fileName
  guard (isSafeRuntimeInstanceId runtimeInstanceId)
  let file ← directory.get? fileName
  guard (file.size ≤ maxAgentCardSizeBytes)
  let source ← file.text
  guard (source.byteLength ≤ maxAgentCardSizeBytes)
  let decoded ← Json.parse N source
  guard (validateAgentCard host {
    requireUnexpired := some now
    expectedRoomId := some roomId.val
    expectedRuntimeInstanceId := some runtimeInstanceId
    expectedRecordFileName := some fileName
    maxCardSizeBytes := some maxAgentCardSizeBytes } decoded = [])
  AgentCard.ofJson? decoded

/-- `listLiveAgentCards(room, { now })`. -/
def listLiveAgentCards (roomId : RoomId) (directory : Directory) (now : ℚ) :
    Except RegistryError (List AgentCard) := do
  let now ← nowValue now
  return (finalCardNames directory).filterMap (readCandidate host N roomId directory now)

/-- `listLiveAgentCardPeers(room, { now })`: cards whose names make no peer are left out. -/
def listLiveAgentCardPeers (roomId : RoomId) (directory : Directory) (now : ℚ) :
    Except RegistryError (List AgentCardPeerRecord) := do
  let cards ← listLiveAgentCards host N roomId directory now
  return cards.filterMap fun card => (peerFromCard H card).toOption

/-- The peer `LocalIpcBridge.handle` takes for the sender of an envelope. -/
def senderOf (peers : List AgentCardPeerRecord) (runtimeId sessionId roomId : JsString) :
    Option AgentCardPeerRecord :=
  peers.find? fun peer => peer.runtimeId.val = runtimeId && peer.card.sessionId = sessionId &&
    peer.roomId.val = roomId && peer.card.endpoint.runtimeInstanceId = runtimeId

end Listing

end CardRegistry
end PiToPi
