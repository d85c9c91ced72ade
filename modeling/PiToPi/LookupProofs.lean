import PiToPi.Lookup
import PiToPi.NamingProofs

/-!
Lookup by name over peers that are published under names built from a base and a
runtime id.

A query that reads as a published name is compared with whole names: with the
query itself, and with its base. A base that itself ends in what reads as a suffix
is such a query, and the base of the names published under it is such a name.
-/
namespace PiToPi.Lookup
open Naming

section Built

variable {ρ : Type} [PeerRecordLike ρ] {H : NameHost}

/-- What a record is published from. -/
structure Origin (H : NameHost) (ρ : Type) where
  base : ρ → JsString
  runtime : ρ → RuntimeId
  room : ρ → RoomId

/-- The suffix of a runtime's names. -/
def Origin.suffix (origin : Origin H ρ) (record : ρ) : List UInt16 :=
  (H.runtimeNameSuffix (origin.runtime record).val).units

/-- The name a record is published under. -/
def Origin.name (origin : Origin H ρ) (record : ρ) : JsString :=
  published (origin.base record) (origin.suffix record)

def Origin.candidate (origin : Origin H ρ) (record : ρ) : PeerCandidate ρ where
  address := { runtimeId := origin.runtime record, roomId := origin.room record }
  record

/-- The record is published from its origin. -/
structure Origin.Built (origin : Origin H ρ) (record : ρ) : Prop where
  runtimeId : PeerRecordLike.runtimeId record = (origin.runtime record).val
  roomId : PeerRecordLike.roomId record = (origin.room record).val
  label : Label H (origin.base record)
  networkName : PeerRecordLike.networkName record = origin.name record

omit [PeerRecordLike ρ] in
theorem Origin.valid (origin : Origin H ρ) (record : ρ) :
    isRuntimeNameSuffix (origin.suffix record) = true := runtimeNameSuffix_valid _

theorem asRuntimeId_val (runtimeId : RuntimeId) : asRuntimeId runtimeId.val = .ok runtimeId := by
  unfold asRuntimeId
  rw [dif_pos runtimeId.property]

theorem asRoomId_val (roomId : RoomId) : asRoomId roomId.val = .ok roomId := by
  unfold asRoomId
  rw [dif_pos roomId.property]

theorem Origin.Built.parsed {origin : Origin H ρ} {record : ρ} (built : origin.Built record) :
    parseCandidate H record =
      some { candidate := origin.candidate record, normalizedName := origin.name record } := by
  have nonempty : (PeerRecordLike.networkName record).length ≠ 0 := by
    rw [built.networkName]
    unfold Origin.name JsString.length
    rw [published_units, List.length_append, List.length_cons]
    omega
  have normalized : normalizePeerLookupName H (PeerRecordLike.networkName record) =
      .ok (origin.name record) := by
    rw [built.networkName]
    exact normalizePeerLookupName_published built.label (origin.valid record)
  unfold parseCandidate
  rw [if_neg nonempty, built.runtimeId, built.roomId, asRuntimeId_val, asRoomId_val, normalized]
  rfl

theorem Origin.Built.published {origin : Origin H ρ} {record : ρ} (built : origin.Built record) :
    isPublishedNetworkName H (origin.name record) = true :=
  isPublishedNetworkName_iff.mpr ⟨_, _, rfl, built.label, origin.valid record⟩

/-- The names the loop of a lookup compares. -/
theorem Origin.Built.matches {origin : Origin H ρ} {record : ρ} (built : origin.Built record)
    (query queryBase : JsString) (full : Bool) :
    nameMatches H query queryBase full (origin.name record) =
      .ok (origin.name record == query ||
        if full then origin.name record == queryBase else origin.base record == queryBase) := by
  have base : candidateBase H (origin.name record) = .ok (origin.base record) := by
    unfold candidateBase
    rw [if_pos built.published]
    exact publishedNetworkBase_published built.label (origin.valid record)
  unfold nameMatches
  rw [base]
  cases full with
  | true => rfl
  | false => rfl

theorem matchingCandidates_built {origin : Origin H ρ} (room : RoomId) (query queryBase : JsString)
    (full : Bool) {records : List ρ} (built : ∀ record ∈ records, origin.Built record) :
    matchingCandidates H room query queryBase full records =
      .ok ((records.filter fun record => origin.room record = room ∧
        (origin.name record = query ∨
          (if full then origin.name record else origin.base record) = queryBase)).map
            origin.candidate) := by
  induction records with
  | nil => rfl
  | cons record rest ih =>
    have own := built record List.mem_cons_self
    have ih := ih fun other member => built other (List.mem_cons_of_mem _ member)
    unfold matchingCandidates
    rw [own.parsed]
    dsimp only
    by_cases here : origin.room record = room
    · have same : ¬(origin.candidate record).address.roomId ≠ room := fun other => other here
      rw [if_neg same, own.matches, ih]
      dsimp only [bind, Except.bind, pure, Except.pure]
      rw [List.filter_cons]
      have test : (origin.name record == query ||
          if full then origin.name record == queryBase else origin.base record == queryBase) =
          decide (origin.room record = room ∧ (origin.name record = query ∨
            (if full then origin.name record else origin.base record) = queryBase)) := by
        cases full with
        | true => simp [here, Bool.beq_eq_decide_eq]
        | false => simp [here, Bool.beq_eq_decide_eq]
      rw [test]
      generalize decide (origin.room record = room ∧ (origin.name record = query ∨
        (if full then origin.name record else origin.base record) = queryBase)) = matched
      cases matched with
      | true => rfl
      | false => rfl
    · have other : (origin.candidate record).address.roomId ≠ room := here
      rw [if_pos other, ih, List.filter_cons_of_neg (by simp [here])]

/-- A base that does not read as a published name is compared with bases. -/
theorem lookupPeerByName_label {origin : Origin H ρ} {name : JsString} (label : Label H name)
    (plain : isPublishedNetworkName H name = false) (room : RoomId) {records : List ρ}
    (built : ∀ record ∈ records, origin.Built record) :
    lookupPeerByName H name room.val records =
      .ok (resultOf name ((records.filter fun record =>
        origin.room record = room ∧ origin.base record = name).map origin.candidate)) := by
  unfold lookupPeerByName
  rw [asRoomId_val, normalizePeerLookupName_label label]
  dsimp only [bind, Except.bind]
  rw [plain]
  simp only [Bool.false_eq_true, ↓reduceIte]
  rw [matchingCandidates_built room name name false built]
  have same : (records.filter fun record => origin.room record = room ∧
      (origin.name record = name ∨ (if false then origin.name record else origin.base record) = name)) =
      records.filter fun record => origin.room record = room ∧ origin.base record = name := by
    apply List.filter_congr
    intro record member
    have other : origin.name record ≠ name := by
      intro same
      rw [← same, (built record member).published] at plain
      cases plain
    simp [other]
  simp only [Bool.false_eq_true, ↓reduceIte] at same ⊢
  rw [same]
  rfl

/-- A published name is compared with published names, and so is its base. -/
theorem lookupPeerByName_published {origin : Origin H ρ} {base : JsString} {suffix : List UInt16}
    (label : Label H base) (valid : isRuntimeNameSuffix suffix = true) (room : RoomId)
    {records : List ρ} (built : ∀ record ∈ records, origin.Built record) :
    lookupPeerByName H (published base suffix) room.val records =
      .ok (resultOf (published base suffix) ((records.filter fun record =>
        origin.room record = room ∧
          (origin.name record = published base suffix ∨ origin.name record = base)).map
            origin.candidate)) := by
  have full : isPublishedNetworkName H (published base suffix) = true :=
    isPublishedNetworkName_iff.mpr ⟨_, _, rfl, label, valid⟩
  unfold lookupPeerByName
  rw [asRoomId_val, normalizePeerLookupName_published label valid]
  dsimp only [bind, Except.bind]
  rw [full]
  simp only [↓reduceIte]
  rw [publishedNetworkBase_published label valid]
  dsimp only
  rw [matchingCandidates_built room _ base true built]
  rfl

end Built

section RoundTrip

variable {H : NameHost} {α : Type}

/-- A live peer, published under the name that is built from its base and its runtime
id. -/
structure NamedPeer (H : NameHost) (α : Type) where
  base : NormalizedName H
  runtimeId : RuntimeId
  roomId : RoomId
  value : α

/-- `buildNetworkName(base, runtimeId)`, which does not throw for a normalised base. -/
def NamedPeer.networkName (peer : NamedPeer H α) : JsString :=
  match buildNetworkName H peer.base.val peer.runtimeId with
  | .ok name => name
  | .error _ => ""

instance : PeerRecordLike (NamedPeer H α) where
  runtimeId peer := peer.runtimeId.val
  roomId peer := peer.roomId.val
  networkName := NamedPeer.networkName

/-- The candidate a lookup makes of a peer. -/
def NamedPeer.candidate (peer : NamedPeer H α) : PeerCandidate (NamedPeer H α) where
  address := { runtimeId := peer.runtimeId, roomId := peer.roomId }
  record := peer

/-- Lookup by the base considers just the peers of the room with that base, lookup by
the built name just those with its suffix as well, and the built name is read back. -/
def RoundTrips (b : NormalizedName H) (r : RuntimeId) (room : RoomId)
    (records : List (NamedPeer H α)) : Prop :=
  lookupPeerByName H b.val room.val records =
      .ok (resultOf b.val ((records.filter fun peer =>
        peer.roomId = room ∧ peer.base.val = b.val).map NamedPeer.candidate)) ∧
    ∃ name, buildNetworkName H b.val r = .ok name ∧
      lookupPeerByName H name room.val records =
        .ok (resultOf name ((records.filter fun peer => peer.roomId = room ∧ peer.base.val = b.val ∧
          H.runtimeNameSuffix peer.runtimeId.val = H.runtimeNameSuffix r.val).map
            NamedPeer.candidate)) ∧
      splitPublishedNetworkName H name = .ok (b.val, H.runtimeNameSuffix r.val)

/-- No peer of the room is published under the base itself; and if the base reads as a
published name, no peer of the room has it as its base or is published under its own
base. -/
def Unmistakable (b : NormalizedName H) (room : RoomId) (records : List (NamedPeer H α)) : Prop :=
  (∀ peer ∈ records, peer.roomId = room → peer.networkName ≠ b.val) ∧
    (isPublishedNetworkName H b.val = true → ∀ peer ∈ records, peer.roomId = room →
      peer.base.val ≠ b.val ∧ publishedNetworkBase H b.val ≠ .ok peer.networkName)

def namedOrigin (H : NameHost) (α : Type) : Origin H (NamedPeer H α) where
  base peer := peer.base.val
  runtime peer := peer.runtimeId
  room peer := peer.roomId

theorem label_of_name (b : NormalizedName H) : Label H b.val := by
  obtain ⟨value, normalized⟩ := b.property
  exact label_of_normalized normalized

theorem NamedPeer.name_eq (peer : NamedPeer H α) :
    peer.networkName = (namedOrigin H α).name peer := by
  unfold NamedPeer.networkName
  rw [buildNetworkName_label (label_of_name peer.base)]
  rfl

theorem namedOrigin_built (peer : NamedPeer H α) : (namedOrigin H α).Built peer where
  runtimeId := rfl
  roomId := rfl
  label := label_of_name peer.base
  networkName := peer.name_eq

theorem resultOf_inj {ρ : Type} {query : JsString} {l l' : List (PeerCandidate ρ)}
    (same : resultOf query l = resultOf query l') : l = l' := by
  rcases l with _ | ⟨a, _ | ⟨b, rest⟩⟩
  all_goals rcases l' with _ | ⟨a', _ | ⟨b', rest'⟩⟩
  all_goals
    first
    | rfl
    | cases same
  all_goals rfl

theorem filter_eq_iff {ρ : Type} {p q : ρ → Bool} {l : List ρ} :
    l.filter p = l.filter q ↔ ∀ x ∈ l, p x = q x := by
  constructor
  · intro same x member
    have mem : x ∈ l.filter p ↔ x ∈ l.filter q := by rw [same]
    rw [List.mem_filter, List.mem_filter] at mem
    rw [Bool.eq_iff_iff]
    exact ⟨fun held => (mem.mp ⟨member, held⟩).2, fun held => (mem.mpr ⟨member, held⟩).2⟩
  · exact fun same => List.filter_congr same

/-- Two results of one query agree just when they select the same records. -/
theorem results_iff {query : JsString} {p q : NamedPeer H α → Bool} {records : List (NamedPeer H α)} :
    (Except.ok (resultOf query ((records.filter p).map (namedOrigin H α).candidate)) :
        Except NameError _) =
      .ok (resultOf query ((records.filter q).map NamedPeer.candidate)) ↔
      ∀ peer ∈ records, p peer = q peer := by
  rw [← filter_eq_iff]
  constructor
  · intro same
    have lists := resultOf_inj (Except.ok.inj same)
    refine List.map_injective_iff.mpr ?_ lists
    exact fun a b equal => congrArg PeerCandidate.record equal
  · intro same
    rw [same]
    rfl

theorem published_length (base : JsString) (suffix : List UInt16) :
    base.length < (published base suffix).length := by
  unfold JsString.length
  rw [published_units, List.length_append, List.length_cons]
  omega

theorem base_shorter (peer : NamedPeer H α) : peer.base.val.length < peer.networkName.length := by
  rw [peer.name_eq]
  exact published_length _ _

/-- The built name leads back unless a peer is published under the base. -/
theorem full_iff (b : NormalizedName H) (r : RuntimeId) (room : RoomId)
    (records : List (NamedPeer H α)) :
    lookupPeerByName H (published b.val (H.runtimeNameSuffix r.val).units) room.val records =
        .ok (resultOf (published b.val (H.runtimeNameSuffix r.val).units) ((records.filter fun peer =>
          peer.roomId = room ∧ peer.base.val = b.val ∧
            H.runtimeNameSuffix peer.runtimeId.val = H.runtimeNameSuffix r.val).map
              NamedPeer.candidate)) ↔
      ∀ peer ∈ records, peer.roomId = room → peer.networkName ≠ b.val := by
  have valid := @runtimeNameSuffix_valid H r.val
  rw [lookupPeerByName_published (label_of_name b) valid room fun peer _ => namedOrigin_built peer,
    results_iff]
  have exact_iff : ∀ peer : NamedPeer H α,
      (namedOrigin H α).name peer = published b.val (H.runtimeNameSuffix r.val).units ↔
        peer.base.val = b.val ∧ H.runtimeNameSuffix peer.runtimeId.val = H.runtimeNameSuffix r.val := by
    intro peer
    constructor
    · intro same
      obtain ⟨base, suffix⟩ := published_inj ((namedOrigin H α).valid peer) valid same
      exact ⟨base, jsString_ext suffix⟩
    · rintro ⟨base, suffix⟩
      show published peer.base.val (H.runtimeNameSuffix peer.runtimeId.val).units = _
      rw [base, suffix]
  refine forall_congr' fun peer => imp_congr_right fun _ => ?_
  rw [peer.name_eq, decide_eq_decide, exact_iff]
  constructor
  · intro same here named
    obtain ⟨-, base, -⟩ := same.mp ⟨here, .inr named⟩
    have shorter := base_shorter peer
    rw [peer.name_eq, named, base] at shorter
    exact Nat.lt_irrefl _ shorter
  · intro apart
    constructor
    · rintro ⟨here, both | named⟩
      · exact ⟨here, both⟩
      · exact absurd named (apart here)
    · rintro ⟨here, both⟩
      exact ⟨here, .inl both⟩

/-- The base leads back if it reads as no published name, or no peer is in the way. -/
theorem base_iff (b : NormalizedName H) (room : RoomId) (records : List (NamedPeer H α)) :
    lookupPeerByName H b.val room.val records =
        .ok (resultOf b.val ((records.filter fun peer =>
          peer.roomId = room ∧ peer.base.val = b.val).map NamedPeer.candidate)) ↔
      (isPublishedNetworkName H b.val = true → ∀ peer ∈ records, peer.roomId = room →
        peer.networkName ≠ b.val ∧ peer.base.val ≠ b.val ∧
          publishedNetworkBase H b.val ≠ .ok peer.networkName) := by
  have built : ∀ peer ∈ records, (namedOrigin H α).Built peer := fun peer _ => namedOrigin_built peer
  cases plain : isPublishedNetworkName H b.val with
  | false =>
    rw [lookupPeerByName_label (label_of_name b) plain room built]
    exact ⟨fun _ => nofun, fun _ => rfl⟩
  | true =>
    obtain ⟨base, suffix, same, label, valid⟩ := isPublishedNetworkName_iff.mp plain
    have longer : base.length < b.val.length := by
      rw [same]
      exact published_length _ _
    rw [same, lookupPeerByName_published label valid room built, results_iff, ← same]
    refine Iff.trans ?_ ⟨fun held _ => held, fun held => held rfl⟩
    have own : publishedNetworkBase H b.val = .ok base := by
      rw [same]
      exact publishedNetworkBase_published label valid
    rw [own]
    refine forall_congr' fun peer => imp_congr_right fun _ => ?_
    have shorter := base_shorter peer
    rw [← peer.name_eq, decide_eq_decide]
    constructor
    · intro agree here
      -- a name of either kind would be that of a peer with this very base, and too short
      refine ⟨?_, ?_, ?_⟩
      · intro named
        rw [named, (agree.mp ⟨here, .inl named⟩).2] at shorter
        exact Nat.lt_irrefl _ shorter
      · intro based
        rw [based] at shorter
        rcases (agree.mpr ⟨here, based⟩).2 with named | named
        · rw [named] at shorter
          exact Nat.lt_irrefl _ shorter
        · rw [named] at shorter
          exact Nat.lt_asymm longer shorter
      · intro named
        have named := (Except.ok.inj named).symm
        rw [named, (agree.mp ⟨here, .inr named⟩).2] at shorter
        exact Nat.lt_asymm longer shorter
    · intro apart
      constructor
      · rintro ⟨here, named | named⟩
        · exact absurd named (apart here).1
        · exact absurd (congrArg Except.ok named.symm) (apart here).2.2
      · rintro ⟨here, based⟩
        exact absurd based (apart here).2.1

/-- Names built from a base lead back to it, unless a peer is in the way. -/
theorem nameLookup (b : NormalizedName H) (r : RuntimeId) (room : RoomId)
    (records : List (NamedPeer H α)) : RoundTrips b r room records ↔ Unmistakable b room records := by
  have label := label_of_name b
  have split := splitPublishedNetworkName_published label (@runtimeNameSuffix_valid H r.val)
  unfold RoundTrips Unmistakable
  rw [base_iff]
  constructor
  · rintro ⟨based, name, made, found, -⟩
    rw [buildNetworkName_label label] at made
    cases made
    have named := (full_iff b r room records).mp found
    exact ⟨named, fun full peer member here => (based full peer member here).2⟩
  · rintro ⟨named, based⟩
    refine ⟨fun full peer member here => ⟨named peer member here, based full peer member here⟩, ?_⟩
    exact ⟨_, buildNetworkName_label label r, (full_iff b r room records).mpr named, split⟩

end RoundTrip

section Example

def firstRuntime : RuntimeId := ⟨"11111111-1111-4111-8111-111111111111", by decide +kernel⟩

def secondRuntime : RuntimeId := ⟨"22222222-2222-4222-8222-222222222222", by decide +kernel⟩

/-- Their SHA-256 digests. -/
def digests (runtimeId : JsString) : Vector UInt8 32 :=
  if runtimeId = firstRuntime.val then
    #v[0xbd, 0x76, 0x62, 0xa5, 0xee, 0xb4, 0x16, 0x14, 0xe7, 0x20, 0xd4,
      0x77, 0xab, 0xfc, 0xb2, 0x27, 0x2e, 0x19, 0xa8, 0xa7, 0x0a, 0x93,
      0xb7, 0xe3, 0xbc, 0x85, 0x60, 0xd4, 0x4a, 0xd3, 0x26, 0xe9]
  else
    #v[0xb4, 0x54, 0xf8, 0x2c, 0x58, 0x57, 0xeb, 0xab, 0xf3, 0x42, 0xb7,
      0x25, 0x8e, 0x5c, 0xf7, 0xde, 0xf7, 0x8b, 0x7c, 0xd9, 0x75, 0x81,
      0x41, 0x19, 0x46, 0x29, 0x73, 0xde, 0x9a, 0x38, 0xdf, 0x10]

def someRoom : RoomId := ⟨"r1-0123456789abcdef0123456789abcdef", by decide +kernel⟩

/-- A base whose last word is four letters of the suffix alphabet. -/
def unitTest : NormalizedName (plainHost digests) := ⟨"unit-test", "Unit Test", by decide +kernel⟩

theorem unitTest_lost : ¬RoundTrips unitTest firstRuntime someRoom
    [{ base := unitTest, runtimeId := firstRuntime, roomId := someRoom, value := () }] := by
  rintro ⟨based, -⟩
  have reads : isPublishedNetworkName (plainHost digests) unitTest.val = true := by decide +kernel
  exact ((base_iff _ _ _).mp based reads _ List.mem_cons_self rfl).2.1 rfl

end Example

end PiToPi.Lookup
