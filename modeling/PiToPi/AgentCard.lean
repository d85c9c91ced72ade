import PiToPi.Lookup

/-!
Agent Cards (`agent-card.ts`) and the peers made of them
(`agent-card-registry.ts`).
-/
namespace PiToPi

inductive AgentState where
  | idle | busy | draining
  deriving DecidableEq, Repr

inductive EndpointTransport where
  | unix | namedPipe
  deriving DecidableEq, Repr

structure AgentModel where
  provider : JsString
  id : JsString
  deriving DecidableEq

structure ContextUsage where
  tokens : Option JsNumber
  percent : Option JsNumber
  deriving DecidableEq

structure AgentCapabilities where
  structuredReplies : Bool
  cancellation : Bool
  statusUpdates : Bool
  maxMessageSize : JsNumber
  supportedContentTypes : List JsString
  deriving DecidableEq

structure EndpointDescriptor where
  kind : EndpointTransport
  address : JsString
  runtimeInstanceId : JsString
  deriving DecidableEq

/-- The v1 Agent Card; `none` is the `null` of a value Pi does not have. -/
structure AgentCard where
  protocolVersion : JsNumber
  sessionId : JsString
  runtimeInstanceId : JsString
  displayName : JsString
  roomId : JsString
  purpose : Option JsString
  workingDirectoryLabel : Option JsString
  roleTags : List JsString
  model : Option AgentModel
  capabilities : AgentCapabilities
  state : AgentState
  contextUsage : Option ContextUsage
  inboundQueueDepth : JsNumber
  endpoint : EndpointDescriptor
  runtimeStartedAt : JsString
  leaseExpiresAt : JsString
  deriving DecidableEq

open Naming

/-- `AgentCardPeerRecord`; its other fields are those of the card. -/
structure AgentCardPeerRecord where
  runtimeId : RuntimeId
  roomId : RoomId
  networkName : JsString
  card : AgentCard
  deriving DecidableEq

instance : Lookup.PeerRecordLike AgentCardPeerRecord where
  runtimeId peer := peer.runtimeId.val
  roomId peer := peer.roomId.val
  networkName := AgentCardPeerRecord.networkName

/-- The base `peerFromCard` takes from a display name. -/
def displayBase (H : NameHost) (displayName : JsString) : Except NameError JsString :=
  if isPublishedNetworkName H displayName then publishedNetworkBase H displayName
  else .ok displayName

/-- `peerFromCard(card)`. -/
def peerFromCard (H : NameHost) (card : AgentCard) : Except NameError AgentCardPeerRecord := do
  let runtimeId ← asRuntimeId card.runtimeInstanceId
  let roomId ← asRoomId card.roomId
  let base ← displayBase H card.displayName
  let networkName ← buildNetworkName H base runtimeId
  return { runtimeId, roomId, networkName, card }

end PiToPi
