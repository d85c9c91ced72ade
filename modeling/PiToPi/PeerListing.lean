import PiToPi.AgentCard
import PiToPi.JsMap

/-!
What `p2p_peers` shows (`adapter.ts`): every peer under its published name, and with
its runtime id where its display name or its base is shared.
-/
namespace PiToPi.PeerListing
open Naming Lookup

structure PeerDiscoveryEntry where
  displayName : JsString
  publishedTarget : JsString
  state : AgentState
  inboundQueueDepth : Option JsNumber
  model : Option AgentModel
  contextUsage : Option ContextUsage
  runtimeId : Option RuntimeId
  deriving DecidableEq

structure PeerDiscoveryView where
  self : Option PeerDiscoveryEntry
  peers : List PeerDiscoveryEntry
  deriving DecidableEq

/-- `meaningfulContextUsage(value)`. -/
def meaningfulContextUsage : Option ContextUsage → Option ContextUsage
  | none => none
  | some value => if value.tokens = none ∧ value.percent = none then none else some value

/-- `projectPeer(peer, includeRuntimeId)`. -/
def projectPeer (peer : AgentCardPeerRecord) (includeRuntimeId : Bool) : PeerDiscoveryEntry where
  displayName := peer.card.displayName
  publishedTarget := peer.networkName
  state := peer.card.state
  inboundQueueDepth :=
    if peer.card.inboundQueueDepth.isPositive then some peer.card.inboundQueueDepth else none
  model := peer.card.model
  contextUsage := meaningfulContextUsage peer.card.contextUsage
  runtimeId := if includeRuntimeId then some peer.runtimeId else none

variable (H : NameHost)

/-- The keys of a record: its display name, folded, and the base of its network name. -/
def nameKeys (record : AgentCardPeerRecord) : Except NameError (List JsString) := do
  let base ← publishedNetworkBase H record.networkName
  let folded := H.nfkcLower record.card.displayName
  return if folded = base then [folded] else [folded, base]

/-- A record is listed under one of its keys. -/
def listUnder (record : AgentCardPeerRecord) (names : JsMap JsString (List AgentCardPeerRecord))
    (key : JsString) : JsMap JsString (List AgentCardPeerRecord) :=
  names.set key ((names.get? key).getD [] ++ [record])

/-- The map of `ambiguousPeerNames`. -/
def peersByName : JsMap JsString (List AgentCardPeerRecord) → List AgentCardPeerRecord →
    Except NameError (JsMap JsString (List AgentCardPeerRecord))
  | names, [] => .ok names
  | names, record :: rest => do
    let keys ← nameKeys H record
    peersByName (keys.foldl (listUnder record) names) rest

/-- `ambiguousPeerNames(records)`. -/
def ambiguousPeerNames (records : List AgentCardPeerRecord) : Except NameError (List RuntimeId) := do
  let names ← peersByName H .empty records
  return names.values.flatMap fun sharing =>
    if 1 < sharing.length then sharing.map AgentCardPeerRecord.runtimeId else []

/-- `listPeers()` of the adapter of a runtime. -/
def listPeers (runtimeId : RuntimeId) (records : List AgentCardPeerRecord) :
    Except NameError PeerDiscoveryView := do
  let selfRecord := records.find? fun peer => peer.runtimeId = runtimeId
  let remoteRecords := records.filter fun peer => peer.runtimeId ≠ runtimeId
  let ambiguousNames ← ambiguousPeerNames H records
  return {
    self := selfRecord.map fun record => projectPeer record false
    peers := remoteRecords.map fun peer => projectPeer peer (ambiguousNames.contains peer.runtimeId) }

end PiToPi.PeerListing
