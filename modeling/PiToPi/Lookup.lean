import PiToPi.Naming

/-!
`lookup.ts`: a peer found by name, or by runtime id, in one exact room.

A result keeps the candidates; the addresses, the records and the target rooms the
source lists beside them are read off these.
-/
namespace PiToPi.Lookup
open Naming

/-- The fields of a record that lookup reads. -/
class PeerRecordLike (ρ : Type) where
  runtimeId : ρ → JsString
  roomId : ρ → JsString
  networkName : ρ → JsString

/-- `CanonicalPeerAddress`. -/
structure CanonicalPeerAddress where
  runtimeId : RuntimeId
  roomId : RoomId
  deriving DecidableEq

structure PeerCandidate (ρ : Type) where
  address : CanonicalPeerAddress
  record : ρ
  deriving DecidableEq

inductive PeerLookupResult (ρ : Type) where
  | notFound (query : JsString)
  | found (query : JsString) (candidate : PeerCandidate ρ)
  | ambiguous (query : JsString) (candidates : List (PeerCandidate ρ))
  | crossRoom (query : JsString) (currentRoom : RoomId) (candidates : List (PeerCandidate ρ))
  deriving DecidableEq

structure ParsedCandidate (ρ : Type) where
  candidate : PeerCandidate ρ
  normalizedName : JsString

section Lookup

variable {ρ : Type} [PeerRecordLike ρ] (H : NameHost)

/-- `parseCandidate(record)`. -/
def parseCandidate (record : ρ) : Option (ParsedCandidate ρ) :=
  if (PeerRecordLike.networkName record).length = 0 then none
  else
    let parsed : Except NameError (ParsedCandidate ρ) := do
      let runtimeId ← asRuntimeId (PeerRecordLike.runtimeId record)
      let roomId ← asRoomId (PeerRecordLike.roomId record)
      let normalizedName ← normalizePeerLookupName H (PeerRecordLike.networkName record)
      return { candidate := { address := { runtimeId, roomId }, record }, normalizedName }
    parsed.toOption

/-- `candidateBase(normalizedName)`. -/
def candidateBase (normalizedName : JsString) : Except NameError JsString :=
  if isPublishedNetworkName H normalizedName then publishedNetworkBase H normalizedName
  else .ok normalizedName

/-- Whether a name is the one looked for, or has the base looked for. -/
def nameMatches (normalizedQuery queryBase : JsString) (queryIsFullName : Bool)
    (normalizedName : JsString) : Except NameError Bool := do
  let exactMatch := normalizedName == normalizedQuery
  let baseMatch ← if queryIsFullName then .ok (normalizedName == queryBase)
    else (candidateBase H normalizedName).map (· == queryBase)
  return exactMatch || baseMatch

/-- The loop of `lookupPeerByName`. -/
def matchingCandidates (roomId : RoomId) (normalizedQuery queryBase : JsString)
    (queryIsFullName : Bool) : List ρ → Except NameError (List (PeerCandidate ρ))
  | [] => .ok []
  | record :: rest => match parseCandidate H record with
    | none => matchingCandidates roomId normalizedQuery queryBase queryIsFullName rest
    | some parsed =>
      if parsed.candidate.address.roomId ≠ roomId then
        matchingCandidates roomId normalizedQuery queryBase queryIsFullName rest
      else do
        let isMatch ← nameMatches H normalizedQuery queryBase queryIsFullName parsed.normalizedName
        let later ← matchingCandidates roomId normalizedQuery queryBase queryIsFullName rest
        return if isMatch then parsed.candidate :: later else later

/-- What a list of candidates comes to. -/
def resultOf (query : JsString) : List (PeerCandidate ρ) → PeerLookupResult ρ
  | [] => .notFound query
  | [candidate] => .found query candidate
  | candidates => .ambiguous query candidates

/-- `lookupPeerByName(name, currentRoom, records)`. -/
def lookupPeerByName (name currentRoom : JsString) (records : List ρ) :
    Except NameError (PeerLookupResult ρ) := do
  let roomId ← asRoomId currentRoom
  let normalizedQuery ← normalizePeerLookupName H name
  let queryIsFullName := isPublishedNetworkName H normalizedQuery
  let queryBase ← if queryIsFullName then publishedNetworkBase H normalizedQuery
    else .ok normalizedQuery
  let candidates ← matchingCandidates H roomId normalizedQuery queryBase queryIsFullName records
  return resultOf normalizedQuery candidates

/-- The records of a runtime, whatever their room. -/
def runtimeCandidates (targetRuntimeId : RuntimeId) (records : List ρ) : List (PeerCandidate ρ) :=
  (records.filterMap (parseCandidate H)).map (·.candidate) |>.filter fun candidate =>
    candidate.address.runtimeId = targetRuntimeId

/-- `lookupPeerByRuntimeId(runtimeId, currentRoom, records)`. -/
def lookupPeerByRuntimeId (runtimeId currentRoom : JsString) (records : List ρ) :
    Except NameError (PeerLookupResult ρ) := do
  let targetRuntimeId ← asRuntimeId runtimeId
  let roomId ← asRoomId currentRoom
  let candidates := runtimeCandidates H targetRuntimeId records
  let sameRoom := candidates.filter fun candidate => candidate.address.roomId = roomId
  let otherRoom := candidates.filter fun candidate => candidate.address.roomId ≠ roomId
  return match sameRoom, otherRoom with
    | [], [] => .notFound targetRuntimeId.val
    | [], _ :: _ => .crossRoom targetRuntimeId.val roomId otherRoom
    | [candidate], [] => .found targetRuntimeId.val candidate
    | [candidate], _ :: _ => .ambiguous targetRuntimeId.val (candidate :: otherRoom)
    | _ :: _ :: _, _ => .ambiguous targetRuntimeId.val sameRoom

/-- `resolvePeerTarget(target, currentRoom, records)`. -/
def resolvePeerTarget (target currentRoom : JsString) (records : List ρ) :
    Except NameError (PeerLookupResult ρ) :=
  if isUuid target then lookupPeerByRuntimeId H target currentRoom records
  else lookupPeerByName H target currentRoom records

end Lookup
end PiToPi.Lookup
