import PiToPi.PeerListing
import PiToPi.LookupProofs
import Mathlib.Data.List.Forall2

/-!
Whether the peers that are listed can be addressed.

A name that is listed finds its peer unless another is published under it or under
its base; a runtime id that is listed does unless it is repeated.
-/
namespace PiToPi.PeerListing
open Naming Lookup

section Keys

variable {H : NameHost}

/-- A peer made of an Agent Card. -/
def Live (H : NameHost) (peer : AgentCardPeerRecord) : Prop := ∃ card, peerFromCard H card = .ok peer

/-- The base of a published name. -/
def baseOf (peer : AgentCardPeerRecord) : JsString := (nameParts peer.networkName).1

def liveOrigin (H : NameHost) : Origin H AgentCardPeerRecord where
  base := baseOf
  runtime peer := peer.runtimeId
  room peer := peer.roomId

theorem nameParts_published {base : JsString} {suffix : List UInt16}
    (valid : isRuntimeNameSuffix suffix = true) :
    nameParts (published base suffix) = (base, ⟨suffix⟩) := by
  unfold nameParts
  rw [split_published valid]

theorem Live.named {peer : AgentCardPeerRecord} (live : Live H peer) :
    ∃ base, Label H base ∧
      peer.networkName = published base (H.runtimeNameSuffix peer.runtimeId.val).units := by
  obtain ⟨card, made⟩ := live
  unfold peerFromCard at made
  cases runtime : asRuntimeId card.runtimeInstanceId with
  | error error =>
    rw [runtime] at made
    cases made
  | ok runtimeId =>
    cases room : asRoomId card.roomId with
    | error error =>
      rw [runtime, room] at made
      cases made
    | ok roomId =>
      rw [runtime, room] at made
      dsimp only [bind, Except.bind] at made
      cases source : displayBase H card.displayName with
      | error error =>
        rw [source] at made
        cases made
      | ok base =>
        rw [source] at made
        dsimp only at made
        unfold buildNetworkName normalizedName at made
        cases normalized : asNormalizedName H.toUnicode base with
        | error error =>
          rw [normalized] at made
          cases made
        | ok name =>
          rw [normalized] at made
          cases made
          exact ⟨name, label_of_normalized normalized, rfl⟩

theorem Live.built {peer : AgentCardPeerRecord} (live : Live H peer) : (liveOrigin H).Built peer := by
  obtain ⟨base, label, named⟩ := live.named
  have own : baseOf peer = base := by
    unfold baseOf
    rw [named, nameParts_published (runtimeNameSuffix_valid _)]
  refine ⟨rfl, rfl, ?_, ?_⟩
  · show Label H (baseOf peer)
    rwa [own]
  · show peer.networkName = published (baseOf peer) _
    rw [own]
    exact named

/-- The keys of a peer. -/
def keysOf (H : NameHost) (peer : AgentCardPeerRecord) : List JsString :=
  if H.nfkcLower peer.card.displayName = baseOf peer then [H.nfkcLower peer.card.displayName]
  else [H.nfkcLower peer.card.displayName, baseOf peer]

theorem keysOf_nodup (peer : AgentCardPeerRecord) : (keysOf H peer).Nodup := by
  unfold keysOf
  split
  · exact List.nodup_singleton _
  · rename_i different
    simpa using different

theorem Live.keys {peer : AgentCardPeerRecord} (live : Live H peer) :
    nameKeys H peer = .ok (keysOf H peer) := by
  have built := live.built
  have base : publishedNetworkBase H peer.networkName = .ok (baseOf peer) := by
    have name : peer.networkName = (liveOrigin H).name peer := built.networkName
    rw [name]
    exact publishedNetworkBase_published built.label ((liveOrigin H).valid peer)
  unfold nameKeys keysOf
  rw [base]
  rfl

/-- The peers that share a key. -/
def sharing (H : NameHost) (peers : List AgentCardPeerRecord) (key : JsString) :
    List AgentCardPeerRecord := peers.filter fun peer => key ∈ keysOf H peer

theorem get?_listUnder (peer : AgentCardPeerRecord) {keys : List JsString} (nodup : keys.Nodup)
    (names : JsMap JsString (List AgentCardPeerRecord)) (key : JsString) :
    ((keys.foldl (listUnder peer) names).get? key).getD [] =
      (names.get? key).getD [] ++ if key ∈ keys then [peer] else [] := by
  induction keys generalizing names with
  | nil => simp
  | cons first rest ih =>
    obtain ⟨fresh, nodup⟩ := List.nodup_cons.mp nodup
    rw [List.foldl_cons, ih nodup]
    unfold listUnder
    rw [JsMap.get?_set]
    by_cases same : key = first
    · subst same
      simp [fresh]
    · simp [same]

theorem peersByName_spec {peers : List AgentCardPeerRecord} (live : ∀ peer ∈ peers, Live H peer)
    (names : JsMap JsString (List AgentCardPeerRecord)) :
    ∃ listed, peersByName H names peers = .ok listed ∧
      ∀ key, (listed.get? key).getD [] = (names.get? key).getD [] ++ sharing H peers key := by
  induction peers generalizing names with
  | nil => exact ⟨names, rfl, fun key => by simp [sharing]⟩
  | cons peer rest ih =>
    obtain ⟨listed, found, entries⟩ := ih (fun other member => live other (List.mem_cons_of_mem _ member))
      ((keysOf H peer).foldl (listUnder peer) names)
    refine ⟨listed, ?_, ?_⟩
    · unfold peersByName
      rw [(live peer List.mem_cons_self).keys]
      exact found
    · intro key
      rw [entries, get?_listUnder peer (keysOf_nodup peer), List.append_assoc]
      unfold sharing
      rw [List.filter_cons]
      by_cases own : key ∈ keysOf H peer
      · simp [own]
      · simp [own]

/-- A peer shares its display name or its base with another. -/
def SharesKey (H : NameHost) (peers : List AgentCardPeerRecord) (peer : AgentCardPeerRecord) : Prop :=
  ∃ key ∈ keysOf H peer, 1 < (sharing H peers key).length

theorem ambiguousPeerNames_spec {peers : List AgentCardPeerRecord} (live : ∀ peer ∈ peers, Live H peer) :
    ∃ ambiguous, ambiguousPeerNames H peers = .ok ambiguous ∧ ∀ runtimeId, runtimeId ∈ ambiguous ↔
      ∃ peer ∈ peers, peer.runtimeId = runtimeId ∧ SharesKey H peers peer := by
  obtain ⟨listed, found, entries⟩ := peersByName_spec live .empty
  have entries : ∀ key, (listed.get? key).getD [] = sharing H peers key := by
    intro key
    rw [entries]
    rfl
  refine ⟨listed.values.flatMap fun sharing =>
    if 1 < sharing.length then sharing.map AgentCardPeerRecord.runtimeId else [], ?_, ?_⟩
  · unfold ambiguousPeerNames
    rw [found]
    rfl
  · intro runtimeId
    rw [List.mem_flatMap]
    constructor
    · rintro ⟨group, value, member⟩
      obtain ⟨key, stored⟩ := JsMap.mem_values_iff.mp value
      have own := entries key
      rw [stored, Option.getD_some] at own
      subst own
      split at member
      · rename_i shared
        obtain ⟨peer, listed, rfl⟩ := List.mem_map.mp member
        unfold sharing at listed
        rw [List.mem_filter, decide_eq_true_eq] at listed
        exact ⟨peer, listed.1, rfl, key, listed.2, shared⟩
      · cases member
    · rintro ⟨peer, member, rfl, key, own, shared⟩
      refine ⟨sharing H peers key, ?_, ?_⟩
      · rw [JsMap.mem_values_iff]
        refine ⟨key, ?_⟩
        have group := entries key
        cases stored : listed.get? key with
        | none =>
          rw [stored, Option.getD_none] at group
          rw [← group] at shared
          exact absurd shared (Nat.not_lt_zero _)
        | some group' =>
          rw [stored, Option.getD_some] at group
          rw [group]
      · rw [if_pos shared]
        exact List.mem_map.mpr ⟨peer, List.mem_filter.mpr ⟨member, decide_eq_true own⟩, rfl⟩

end Keys

section Resolution

variable {H : NameHost}

/-- A target is resolved to exactly this peer. -/
def Finds (H : NameHost) (room : RoomId) (peers : List AgentCardPeerRecord) (target : JsString)
    (peer : AgentCardPeerRecord) : Prop :=
  ∃ query candidate, resolvePeerTarget H target room.val peers = .ok (.found query candidate) ∧
    candidate.record = peer

/-- The hyphen before the suffix is where a UUID has a digit. -/
theorem published_notUuid (base : JsString) {suffix : List UInt16}
    (valid : isRuntimeNameSuffix suffix = true) : isUuid (published base suffix) = false := by
  rw [Bool.eq_false_iff]
  intro uuid
  unfold isUuid at uuid
  rw [Bool.and_eq_true, beq_iff_eq, published_units, List.all_eq_true] at uuid
  obtain ⟨length, units⟩ := uuid
  rw [List.length_append, List.length_cons, suffix_nonempty valid] at length
  have member : ((0x2d : UInt16), 31) ∈ (base.units ++ 0x2d :: suffix).zipIdx := by
    rw [List.mem_zipIdx_iff_getElem?]
    have at_end : base.units.length = 31 := by omega
    rw [List.getElem?_append_right at_end.le, at_end]
    rfl
  have digit := units _ member
  revert digit
  decide

theorem resultOf_found_iff {ρ : Type} {query : JsString} {l : List (PeerCandidate ρ)} {peer : ρ} :
    (∃ query' candidate, resultOf query l = .found query' candidate ∧ candidate.record = peer) ↔
      l.map PeerCandidate.record = [peer] := by
  rcases l with _ | ⟨a, _ | ⟨b, rest⟩⟩
  · constructor
    · rintro ⟨_, _, ⟨⟩, _⟩
    · exact nofun
  · constructor
    · rintro ⟨_, _, ⟨⟩, rfl⟩
      rfl
    · intro same
      exact ⟨query, a, rfl, (List.cons.inj same).1⟩
  · constructor
    · rintro ⟨_, _, ⟨⟩, _⟩
    · intro same
      cases (List.cons.inj same).2

theorem filter_singleton_iff {ρ : Type} {p : ρ → Bool} {l : List ρ} {x : ρ} (member : x ∈ l)
    (held : p x = true) : l.filter p = [x] ↔ (l.filter p).length = 1 := by
  constructor
  · intro same
    rw [same]
    rfl
  · intro one
    obtain ⟨y, same⟩ := List.length_eq_one_iff.mp one
    have listed : x ∈ l.filter p := List.mem_filter.mpr ⟨member, held⟩
    rw [same, List.mem_singleton] at listed
    rw [same, listed]

theorem filter_or_length {ρ : Type} {p q : ρ → Prop} [DecidablePred p] [DecidablePred q] {l : List ρ}
    (apart : ∀ x ∈ l, p x → ¬q x) :
    (l.filter fun x => p x ∨ q x).length =
      (l.filter fun x => p x).length + (l.filter fun x => q x).length := by
  induction l with
  | nil => rfl
  | cons x rest ih =>
    have ih := ih fun y member => apart y (List.mem_cons_of_mem _ member)
    have here := apart x List.mem_cons_self
    by_cases first : p x
    · have second := here first
      rw [List.filter_cons_of_pos (by simp [first]), List.filter_cons_of_pos (by simp [first]),
        List.filter_cons_of_neg (by simp [second]), List.length_cons, List.length_cons, ih]
      omega
    · by_cases second : q x
      · rw [List.filter_cons_of_pos (by simp [second]), List.filter_cons_of_neg (by simp [first]),
          List.filter_cons_of_pos (by simp [second]), List.length_cons, List.length_cons, ih]
        omega
      · rw [List.filter_cons_of_neg (by simp [first, second]), List.filter_cons_of_neg (by simp [first]),
          List.filter_cons_of_neg (by simp [second]), ih]

variable {room : RoomId} {peers : List AgentCardPeerRecord}

/-- A listed name finds its peer just when no other peer is published under it, and
none under its base. -/
theorem finds_name_iff (live : ∀ peer ∈ peers, peer.roomId = room ∧ Live H peer)
    {peer : AgentCardPeerRecord} (member : peer ∈ peers) :
    Finds H room peers peer.networkName peer ↔
      (peers.filter fun other => other.networkName = peer.networkName).length = 1 ∧
        ∀ other ∈ peers, other.networkName ≠ baseOf peer := by
  have built : ∀ other ∈ peers, (liveOrigin H).Built other := fun other member => (live other member).2.built
  have own := built peer member
  have name : ∀ other ∈ peers, (liveOrigin H).name other = other.networkName :=
    fun other member => (built other member).networkName.symm
  have valid := (liveOrigin H).valid peer
  have named : peer.networkName = published (baseOf peer) ((liveOrigin H).suffix peer) := own.networkName
  have notUuid : isUuid peer.networkName = false := by
    rw [named]
    exact published_notUuid _ valid
  have looked := lookupPeerByName_published own.label valid room built
  have resolved : resolvePeerTarget H peer.networkName room.val peers =
      .ok (resultOf peer.networkName ((peers.filter fun other =>
        other.networkName = peer.networkName ∨ other.networkName = baseOf peer).map
          (liveOrigin H).candidate)) := by
    unfold resolvePeerTarget
    rw [notUuid, if_neg Bool.false_ne_true, named]
    refine looked.trans ?_
    rw [List.filter_congr (q := fun other => decide (other.networkName =
      published (baseOf peer) ((liveOrigin H).suffix peer) ∨ other.networkName = baseOf peer)) ?_]
    · rfl
    · intro other member
      have here : (liveOrigin H).room other = room := (live other member).1
      rw [name other member, decide_eq_decide]
      exact and_iff_right here
  have records : ∀ l : List AgentCardPeerRecord,
      (l.map (liveOrigin H).candidate).map PeerCandidate.record = l := by
    intro l
    rw [List.map_map]
    exact List.map_id l
  unfold Finds
  rw [resolved]
  have ok_iff : (∃ query candidate, (Except.ok (resultOf peer.networkName ((peers.filter fun other =>
      other.networkName = peer.networkName ∨ other.networkName = baseOf peer).map
        (liveOrigin H).candidate)) : Except NameError _) = .ok (.found query candidate) ∧
      candidate.record = peer) ↔
      (peers.filter fun other =>
        other.networkName = peer.networkName ∨ other.networkName = baseOf peer) = [peer] := by
    have found := @resultOf_found_iff _ peer.networkName ((peers.filter fun other =>
      other.networkName = peer.networkName ∨ other.networkName = baseOf peer).map
        (liveOrigin H).candidate) peer
    rw [records] at found
    simp only [Except.ok.injEq]
    exact found
  rw [ok_iff, filter_singleton_iff member (by simp)]
  have apart : ∀ other ∈ peers, other.networkName = peer.networkName → ¬other.networkName = baseOf peer := by
    intro other _ same based
    have loop := same.symm.trans based
    rw [named] at loop
    exact base_ne_published _ _ loop.symm
  rw [filter_or_length apart]
  have one : 0 < (peers.filter fun other => other.networkName = peer.networkName).length :=
    List.length_pos_of_mem (List.mem_filter.mpr ⟨member, by simp⟩)
  constructor
  · intro total
    refine ⟨by omega, ?_⟩
    intro other listed based
    have two : 0 < (peers.filter fun other => other.networkName = baseOf peer).length :=
      List.length_pos_of_mem (List.mem_filter.mpr ⟨listed, decide_eq_true based⟩)
    omega
  · rintro ⟨alone, unnamed⟩
    have none_based : (peers.filter fun other => other.networkName = baseOf peer) = [] := by
      rw [List.filter_eq_nil_iff]
      intro other listed
      simpa using unnamed other listed
    rw [alone, none_based]
    rfl

/-- A runtime id finds its peer just when it is not repeated. -/
theorem finds_runtimeId_iff (live : ∀ peer ∈ peers, peer.roomId = room ∧ Live H peer)
    {peer : AgentCardPeerRecord} (member : peer ∈ peers) :
    Finds H room peers peer.runtimeId.val peer ↔
      (peers.filter fun other => other.runtimeId = peer.runtimeId).length = 1 := by
  have parsed : peers.filterMap (parseCandidate H) = peers.map fun other =>
      { candidate := (liveOrigin H).candidate other, normalizedName := (liveOrigin H).name other } := by
    rw [← List.filterMap_eq_map]
    apply List.filterMap_congr
    intro other listed
    exact (live other listed).2.built.parsed
  have candidates : runtimeCandidates H peer.runtimeId peers =
      (peers.filter fun other => other.runtimeId = peer.runtimeId).map (liveOrigin H).candidate := by
    unfold runtimeCandidates
    rw [parsed, List.map_map, List.filter_map]
    rfl
  have here : ∀ candidate ∈ runtimeCandidates H peer.runtimeId peers,
      candidate.address.roomId = room := by
    rw [candidates]
    intro candidate listed
    obtain ⟨other, found, rfl⟩ := List.mem_map.mp listed
    exact (live other (List.mem_of_mem_filter found)).1
  have sameRoom : ((runtimeCandidates H peer.runtimeId peers).filter fun candidate =>
      candidate.address.roomId = room) = runtimeCandidates H peer.runtimeId peers := by
    rw [List.filter_eq_self]
    exact fun candidate listed => decide_eq_true (here candidate listed)
  have otherRoom : ((runtimeCandidates H peer.runtimeId peers).filter fun candidate =>
      candidate.address.roomId ≠ room) = [] := by
    rw [List.filter_eq_nil_iff]
    intro candidate listed
    simpa using here candidate listed
  have resolved : resolvePeerTarget H peer.runtimeId.val room.val peers =
      .ok (resultOf peer.runtimeId.val (runtimeCandidates H peer.runtimeId peers)) := by
    unfold resolvePeerTarget lookupPeerByRuntimeId
    rw [peer.runtimeId.property, if_pos rfl, asRuntimeId_val, asRoomId_val]
    dsimp only [bind, Except.bind]
    rw [sameRoom, otherRoom]
    rcases runtimeCandidates H peer.runtimeId peers with _ | ⟨a, _ | ⟨b, rest⟩⟩
    · rfl
    · rfl
    · rfl
  unfold Finds
  rw [resolved, candidates]
  have records : ∀ l : List AgentCardPeerRecord,
      (l.map (liveOrigin H).candidate).map PeerCandidate.record = l := by
    intro l
    rw [List.map_map]
    exact List.map_id l
  have found := @resultOf_found_iff _ peer.runtimeId.val ((peers.filter fun other =>
    other.runtimeId = peer.runtimeId).map (liveOrigin H).candidate) peer
  rw [records, filter_singleton_iff member (by simp)] at found
  simp only [Except.ok.injEq]
  exact found

end Resolution

section Listing

/-- The live peers of a room. -/
structure LivePeers (H : NameHost) (room : RoomId) where
  records : List AgentCardPeerRecord
  live : ∀ peer ∈ records, peer.roomId = room ∧ Live H peer

variable {H : NameHost} {room : RoomId}

/-- What an entry shows leads to its peer: its name when that is all it shows, and its
runtime id when the name does not. -/
structure Presents (H : NameHost) (room : RoomId) (peers : List AgentCardPeerRecord)
    (peer : AgentCardPeerRecord) (entry : PeerDiscoveryEntry) : Prop where
  byName : entry.runtimeId = none → Finds H room peers entry.publishedTarget peer
  byRuntimeId : ¬Finds H room peers entry.publishedTarget peer →
    ∃ runtimeId, entry.runtimeId = some runtimeId ∧ Finds H room peers runtimeId.val peer

/-- Every remote entry of the listing leads to its peer. -/
def Addressable (self : RuntimeId) (peers : LivePeers H room) : Prop :=
  ∃ view, listPeers H self peers.records = .ok view ∧
    List.Forall₂ (Presents H room peers.records)
      (peers.records.filter fun peer => peer.runtimeId ≠ self) view.peers

/-- The published name of a peer belongs to it alone and no peer is published under its
base, or it shares a key and has its runtime id to itself. -/
def Tellable (peers : LivePeers H room) (peer : AgentCardPeerRecord) : Prop :=
  ((peers.records.filter fun other => other.networkName = peer.networkName).length = 1 ∧
      ∀ other ∈ peers.records, other.networkName ≠ baseOf peer) ∨
    (SharesKey H peers.records peer ∧
      (peers.records.filter fun other => other.runtimeId = peer.runtimeId).length = 1)

theorem presents_iff {peers : List AgentCardPeerRecord} {peer : AgentCardPeerRecord} {flagged : Bool} :
    Presents H room peers peer (projectPeer peer flagged) ↔
      Finds H room peers peer.networkName peer ∨
        (flagged = true ∧ Finds H room peers peer.runtimeId.val peer) := by
  constructor
  · intro presents
    by_cases named : Finds H room peers peer.networkName peer
    · exact .inl named
    · obtain ⟨runtimeId, shown, found⟩ := presents.byRuntimeId named
      cases flagged with
      | false => cases shown
      | true =>
        cases shown
        exact .inr ⟨rfl, found⟩
  · rintro (named | ⟨rfl, found⟩)
    · exact ⟨fun _ => named, fun lost => absurd named lost⟩
    · exact ⟨nofun, fun _ => ⟨_, rfl, found⟩⟩

theorem eq_of_alone {ρ : Type} {p : ρ → Prop} [DecidablePred p] {l : List ρ} {x y : ρ}
    (alone : (l.filter fun z => p z).length = 1) (first : x ∈ l) (second : y ∈ l) (hx : p x)
    (hy : p y) : x = y := by
  obtain ⟨z, only⟩ := List.length_eq_one_iff.mp alone
  have isOnly : ∀ w ∈ l, p w → w = z := by
    intro w member held
    have listed : w ∈ l.filter fun z => p z := List.mem_filter.mpr ⟨member, decide_eq_true held⟩
    rwa [only, List.mem_singleton] at listed
  rw [isOnly x first hx, isOnly y second hy]

/-- A listing leads to all remote peers just when each can be told by its name, or by
its runtime id where it shares a key. -/
theorem listedPeers (self : RuntimeId) (peers : LivePeers H room) : Addressable self peers ↔
    ∀ peer ∈ peers.records, peer.runtimeId ≠ self → Tellable peers peer := by
  obtain ⟨ambiguous, made, flagged⟩ := ambiguousPeerNames_spec fun peer member =>
    (peers.live peer member).2
  have listed : listPeers H self peers.records = .ok
      { self := (peers.records.find? fun peer => peer.runtimeId = self).map
          fun record => projectPeer record false
        peers := (peers.records.filter fun peer => peer.runtimeId ≠ self).map fun peer =>
          projectPeer peer (ambiguous.contains peer.runtimeId) } := by
    unfold listPeers
    rw [made]
    rfl
  unfold Addressable
  rw [listed]
  constructor
  · rintro ⟨view, same, presented⟩ peer member remote
    cases same
    rw [List.forall₂_map_right_iff, List.forall₂_same] at presented
    have here := presents_iff.mp (presented peer (List.mem_filter.mpr ⟨member, decide_eq_true remote⟩))
    apply here.imp
    · exact (finds_name_iff peers.live member).mp
    · rintro ⟨shown, found⟩
      have alone := (finds_runtimeId_iff peers.live member).mp found
      obtain ⟨other, among, sameId, shares⟩ := (flagged _).mp (List.contains_iff_mem.mp shown)
      rw [eq_of_alone alone among member sameId rfl] at shares
      exact ⟨shares, alone⟩
  · intro tellable
    refine ⟨_, rfl, ?_⟩
    rw [List.forall₂_map_right_iff, List.forall₂_same]
    intro peer listedPeer
    obtain ⟨member, remote⟩ := List.mem_filter.mp listedPeer
    rw [presents_iff]
    apply (tellable peer member (of_decide_eq_true remote)).imp
    · exact (finds_name_iff peers.live member).mpr
    · rintro ⟨shares, alone⟩
      exact ⟨List.contains_iff_mem.mpr ((flagged _).mpr ⟨peer, member, rfl, shares⟩),
        (finds_runtimeId_iff peers.live member).mpr alone⟩

end Listing

section Example

/-- The card of an idle runtime. -/
def idleCard (runtimeId : RuntimeId) (room : RoomId) (displayName : JsString) : AgentCard where
  protocolVersion := .ofNat 1
  sessionId := runtimeId.val
  runtimeInstanceId := runtimeId.val
  displayName := displayName
  roomId := room.val
  purpose := none
  workingDirectoryLabel := none
  roleTags := []
  model := none
  capabilities := {
    structuredReplies := true
    cancellation := true
    statusUpdates := true
    maxMessageSize := .ofNat 65536
    supportedContentTypes := ["text/plain"] }
  state := .idle
  contextUsage := none
  inboundQueueDepth := .ofNat 0
  endpoint := { kind := .unix, address := "/run/pi/agent.sock", runtimeInstanceId := runtimeId.val }
  runtimeStartedAt := "2026-01-01T00:00:00.000Z"
  leaseExpiresAt := "2026-01-01T00:01:00.000Z"

def fooPeer : AgentCardPeerRecord where
  runtimeId := firstRuntime
  roomId := someRoom
  networkName := "foo-qnv6"
  card := idleCard firstRuntime someRoom "foo"

/-- A peer whose base is the published name of the first. -/
def fooTailPeer : AgentCardPeerRecord where
  runtimeId := secondRuntime
  roomId := someRoom
  networkName := "foo-qnv6-phaf"
  card := idleCard secondRuntime someRoom "Foo qnv6"

def fooPeers : LivePeers (plainHost digests) someRoom where
  records := [fooPeer, fooTailPeer]
  live := by
    intro peer member
    rw [List.mem_cons, List.mem_singleton] at member
    rcases member with rfl | rfl
    · exact ⟨rfl, fooPeer.card, by decide +kernel⟩
    · exact ⟨rfl, fooTailPeer.card, by decide +kernel⟩

theorem fooTail_ambiguous : ¬Addressable firstRuntime fooPeers := by
  rintro ⟨view, listed, presented⟩
  have shown : listPeers (plainHost digests) firstRuntime fooPeers.records = .ok
      { self := some (projectPeer fooPeer false), peers := [projectPeer fooTailPeer false] } := by
    decide +kernel
  rw [shown] at listed
  cases listed
  cases presented with
  | cons here _ =>
    have named := (finds_name_iff fooPeers.live (List.mem_cons_of_mem _ List.mem_cons_self)).mp
      (here.byName rfl)
    exact named.2 fooPeer List.mem_cons_self (by decide +kernel)

end Example

end PiToPi.PeerListing
