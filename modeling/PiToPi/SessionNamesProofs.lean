import PiToPi.SessionNames
import PiToPi.AgentCardRegistryProofs
import PiToPi.ErrorWire

/-!
When a runtime is seen under its configured name. A card with another display name passes
the checks of a publication whenever the name is bounded, so that the run comes down to
what the displayed texts are taken for.
-/
namespace PiToPi

namespace Json
open JsString
open Validation (jsonStringByteLength unitsByteLength unitByteLength)

/-- A member with another value leaves the others. -/
theorem get?_replaced {front back : List (JsString × Json)} {k key : JsString} (x y : Json)
    (other : k ≠ key) :
    (record (front ++ (k, x) :: back)).get? key = (record (front ++ (k, y) :: back)).get? key := by
  induction front with
  | nil => rw [List.nil_append, List.nil_append, get?_cons, if_neg other, get?_cons, if_neg other]
  | cons member rest ih =>
    obtain ⟨l, z⟩ := member
    rw [List.cons_append, List.cons_append, get?_cons, get?_cons, ih]

/-- The bytes of an object differ by those of the value. -/
theorem byteLength_replaced (front back : List (JsString × Json)) (k : JsString) (x y : Json) :
    (stringifyMembers (front ++ (k, x) :: back)).byteLength + y.stringify.byteLength =
      (stringifyMembers (front ++ (k, y) :: back)).byteLength + x.stringify.byteLength := by
  induction front with
  | nil =>
    rw [List.nil_append, List.nil_append, byteLength_members, byteLength_members k y]
    omega
  | cons member rest ih =>
    obtain ⟨l, z⟩ := member
    have more : ∀ value : Json, (rest ++ (k, value) :: back).isEmpty = false := fun value => by
      cases rest <;> rfl
    rw [List.cons_append, List.cons_append, byteLength_members, byteLength_members l z, more, more,
      if_neg Bool.false_ne_true, if_neg Bool.false_ne_true]
    omega

/-- A unit takes six bytes at most. -/
theorem unitsByteLength_le (units : List UInt16) : unitsByteLength units ≤ 6 * units.length := by
  have one : ∀ u, unitByteLength u ≤ 6 := fun u => by
    unfold unitByteLength Validation.plainByteLength
    split_ifs <;> omega
  induction units using quoteUnits.induct with
  | case1 => exact Nat.le_refl _
  | case2 u v rest pair ih =>
    rw [unitsByteLength, if_pos pair, List.length_cons, List.length_cons]
    omega
  | case3 u v rest pair ih =>
    have single := one u
    rw [unitsByteLength, if_neg pair, List.length_cons]
    omega
  | case4 u =>
    have single := one u
    rw [unitsByteLength, List.length_singleton]
    omega

end Json

namespace SessionNames
open Naming CardRegistry CardValidation

section Cards

/-- A card with another display name. -/
def renamed (card : AgentCard) (displayName : JsString) : AgentCard := { card with displayName }

/-- The members of a card before its display name. -/
def membersBefore (card : AgentCard) : List (JsString × Json) :=
  [("protocolVersion", .number card.protocolVersion), ("sessionId", .string card.sessionId),
    ("runtimeInstanceId", .string card.runtimeInstanceId)]

/-- The members of a card after its display name. -/
def membersAfter (card : AgentCard) : List (JsString × Json) :=
  [("roomId", .string card.roomId), ("purpose", Json.nullable .string card.purpose),
    ("workingDirectoryLabel", Json.nullable .string card.workingDirectoryLabel),
    ("roleTags", .array (card.roleTags.map .string)),
    ("model", Json.nullable AgentModel.toJson card.model),
    ("capabilities", card.capabilities.toJson), ("state", .string card.state.name),
    ("contextUsage", Json.nullable ContextUsage.toJson card.contextUsage),
    ("inboundQueueDepth", .number card.inboundQueueDepth), ("endpoint", card.endpoint.toJson),
    ("runtimeStartedAt", .string card.runtimeStartedAt),
    ("leaseExpiresAt", .string card.leaseExpiresAt)]

theorem toJson_renamed (card : AgentCard) (displayName : JsString) : (renamed card displayName).toJson =
    .record (membersBefore card ++ (("displayName" : JsString), Json.string displayName) ::
      membersAfter card) := rfl

theorem get?_renamed (card : AgentCard) (before after : JsString) {key : JsString}
    (other : ("displayName" : JsString) ≠ key) :
    (renamed card after).toJson.get? key = (renamed card before).toJson.get? key := by
  rw [toJson_renamed, toJson_renamed]
  exact Json.get?_replaced _ _ other

theorem get?_displayName (card : AgentCard) (displayName : JsString) :
    (renamed card displayName).toJson.get? "displayName" = some (.string displayName) := by
  rw [toJson_renamed]
  unfold membersBefore
  rw [List.cons_append, List.cons_append, List.cons_append, List.nil_append, Json.get?_cons,
    if_neg (by decide), Json.get?_cons, if_neg (by decide), Json.get?_cons, if_neg (by decide),
    Json.get?_cons, if_pos rfl]

/-- The text of a card changes by that of its display name. -/
theorem byteLength_renamed (card : AgentCard) (before after : JsString) :
    (renamed card before).toJson.stringify.byteLength + (Json.quote after).byteLength =
      (renamed card after).toJson.stringify.byteLength + (Json.quote before).byteLength := by
  have replaced := Json.byteLength_replaced (membersBefore card) (membersAfter card) "displayName" (.string before)
    (.string after)
  rw [Json.stringify, Json.stringify] at replaced
  rw [toJson_renamed, toJson_renamed, Json.byteLength_object, Json.byteLength_object]
  omega

theorem keys_renamed (card : AgentCard) (before after : JsString) :
    (renamed card after).toJson.members.map Prod.fst = (renamed card before).toJson.members.map Prod.fst := by
  rw [toJson_renamed, toJson_renamed]
  unfold Json.members
  simp only [List.map_append, List.map_cons]

variable {host : Host} {options : AgentCardValidationOptions} {input other : Json}

/-- What is asked of each key is asked of the keys alone. -/
theorem flatMap_keys {α : Type} {f : JsString × Json → List α} (ask : JsString → List α)
    (byKey : ∀ member, f member = ask member.1)
    (keys : other.members.map Prod.fst = input.members.map Prod.fst) :
    other.members.flatMap f = input.members.flatMap f := by
  have through : ∀ members : List (JsString × Json),
      members.flatMap f = (members.map Prod.fst).flatMap ask := by
    intro members
    induction members with
    | nil => rfl
    | cons member rest ih => rw [List.flatMap_cons, ih, byKey, List.map_cons, List.flatMap_cons]
  rw [through, through, keys]

/-- The checks of a card but for that of its display name. -/
theorem recordIssues_but_name {displayName : JsString}
    (keys : other.members.map Prod.fst = input.members.map Prod.fst)
    (same : ∀ {key : JsString}, "displayName" ≠ key → other.get? key = input.get? key)
    (had : input.hasOwn "displayName" = true) (name : other.get? "displayName" = some (.string displayName))
    (valid : recordIssues host options input = []) :
    recordIssues host options other = [] ↔ isBoundedText maxDisplayNameLength displayName = true := by
  have text : checkText (isBoundedText maxDisplayNameLength) (some (.string displayName)) =
      isBoundedText maxDisplayNameLength displayName := rfl
  have known : checkKnownFields other cardFields "$" = checkKnownFields input cardFields "$" :=
    flatMap_keys (fun key => expect (cardFields.contains key) ("$" ++ "." ++ key) .invalidValue
      "unknown field") (fun (_, _) => rfl) keys
  have forbidden : forbiddenTopLevelFields other = forbiddenTopLevelFields input :=
    flatMap_keys (fun key => expect (!cardForbiddenFields.contains key) key .forbiddenField
      "Agent Cards are discovery metadata and cannot contain message or secret data") (fun (_, _) => rfl) keys
  have required : checkRequiredField other = checkRequiredField input := by
    funext key
    unfold checkRequiredField
    have own : other.hasOwn key = input.hasOwn key := by
      by_cases displayed : ("displayName" : JsString) = key
      · rw [← displayed, had]
        unfold Json.hasOwn
        rw [name]
        rfl
      · unfold Json.hasOwn
        rw [same displayed]
    rw [own]
  unfold recordIssues at valid ⊢
  rw [known, forbidden, required]
  simp only [name, text, @same "protocolVersion" (by decide), @same "sessionId" (by decide),
    @same "runtimeInstanceId" (by decide), @same "roomId" (by decide), @same "purpose" (by decide),
    @same "workingDirectoryLabel" (by decide), @same "roleTags" (by decide), @same "model" (by decide),
    @same "capabilities" (by decide), @same "state" (by decide), @same "contextUsage" (by decide),
    @same "inboundQueueDepth" (by decide), @same "endpoint" (by decide),
    @same "runtimeStartedAt" (by decide), @same "leaseExpiresAt" (by decide),
    List.append_eq_nil_iff, and_assoc, expect_eq_nil_iff] at valid ⊢
  tauto

theorem bind_of_ok {ε α β : Type} {first : Except ε α} {next : α → Except ε β} {value : α}
    (done : first = .ok value) : (first >>= next) = next value := by
  rw [done]
  rfl

/-- The card of a registry with another name. -/
theorem buildCard_named (registry : AgentCardRegistry) (displayName : JsString) (clock : ℚ)
    {card : AgentCard} (built : buildCard host (named registry "agent") clock = .ok card) :
    buildCard host (named registry displayName) clock =
      .ok (renamed card (resolveDisplayName displayName registry.runtimeId.val)) := by
  unfold buildCard at built ⊢
  obtain ⟨now, read, built⟩ := Validation.bind_ok built
  obtain ⟨expiry, expires, built⟩ := Validation.bind_ok built
  obtain ⟨startedAt, started, built⟩ := Validation.bind_ok built
  obtain ⟨expiresAt, leased, built⟩ := Validation.bind_ok built
  cases built
  exact (bind_of_ok read).trans ((bind_of_ok expires).trans ((bind_of_ok started).trans
    (bind_of_ok leased)))

theorem recordIssues_renamed {card : AgentCard} {before displayName : JsString}
    (valid : recordIssues host options (renamed card before).toJson = []) :
    recordIssues host options (renamed card displayName).toJson = [] ↔
      isBoundedText maxDisplayNameLength displayName = true :=
  recordIssues_but_name (keys_renamed card before displayName) (get?_renamed card before displayName)
    (by rw [Json.hasOwn, get?_displayName]; rfl) (get?_displayName card displayName) valid

theorem guard_passed {ε α : Type} {c : Prop} [Decidable c] {e : ε} {next : PUnit → Except ε α}
    {rest : Except ε α} (passed : ¬c) :
    (if c then (throw e : Except ε PUnit) >>= next else rest) = rest := if_neg passed

/-- The checks of a card before it is written. -/
def writeOptions (registry : AgentCardRegistry) : AgentCardValidationOptions where
  requireUnexpired := none
  expectedRoomId := some registry.roomId.val
  expectedRuntimeInstanceId := some registry.runtimeId.val
  expectedRecordFileName := some (cardFileName registry.runtimeId.val)
  maxCardSizeBytes := some (min registry.maxCardBytes maxAgentCardSizeBytes)

/-- What `checkCard` asks of a card. -/
theorem checkCard_isOk_iff {registry : AgentCardRegistry} {card : AgentCard} :
    (∃ serialized, checkCard host registry card = .ok serialized) ↔
      isSafeRuntimeInstanceId registry.runtimeId.val = true ∧
        card.runtimeInstanceId = registry.runtimeId.val ∧ card.roomId = registry.roomId.val ∧
        registry.maxCardBytes ≠ 0 ∧ card.toJson.stringify.byteLength ≤ registry.maxCardBytes ∧
        card.toJson.stringify.byteLength ≤ maxAgentCardSizeBytes ∧
        recordIssues host (writeOptions registry) card.toJson = [] := by
  constructor
  · rintro ⟨serialized, checked⟩
    obtain ⟨-, passed⟩ := checkCard_ok checked
    unfold checkCard at checked
    obtain ⟨-, checked⟩ := passed_guard checked
    obtain ⟨-, checked⟩ := passed_guard checked
    obtain ⟨-, checked⟩ := passed_guard checked
    obtain ⟨nonzero, checked⟩ := passed_guard checked
    obtain ⟨within, -⟩ := passed_guard checked
    exact ⟨passed.identity, passed.runtime, passed.room, nonzero, not_lt.mp within, passed.size,
      passed.record⟩
  · rintro ⟨identity, runtime, room, nonzero, within, size, record⟩
    refine ⟨card.toJson.stringify, ?_⟩
    have positive : 1 ≤ card.toJson.stringify.byteLength := by
      obtain ⟨u, rest, head, -⟩ := Json.stringify_head card.toJson
      exact Json.byteLength_pos head
    have most : card.toJson.stringify.byteLength ≤
        min (min registry.maxCardBytes maxAgentCardSizeBytes) maxAgentCardSizeBytes :=
      le_min (le_min within size) size
    have small : checkSize card.toJson (some (min registry.maxCardBytes maxAgentCardSizeBytes)) = [] := by
      unfold checkSize
      rw [expect_eq_nil_iff, Bool.and_eq_true, decide_eq_true_eq, decide_eq_true_eq, Option.getD_some]
      exact ⟨le_trans positive most, most⟩
    have valid : validateAgentCard host (writeOptions registry) card.toJson = [] :=
      validateAgentCard_eq_nil_iff.mpr ⟨small, rfl, record⟩
    unfold checkCard
    rw [guard_passed (by simp [identity]), guard_passed (not_not.mpr runtime),
      guard_passed (not_not.mpr room)]
    dsimp only
    rw [guard_passed nonzero, guard_passed (not_lt.mpr within)]
    exact if_neg (not_not.mpr valid)

/-- A registry that is ready publishes any text that is bounded, and no other. -/
theorem publishCurrentCard_named {deployment : AgentCardRegistry} {clock : ℚ}
    (ready : isReady host deployment clock = true) (directory : Directory) {text : JsString}
    (resolved : resolveDisplayName text deployment.runtimeId.val = text) :
    (isBoundedText maxDisplayNameLength text = true → ∃ card written,
      publishCurrentCard host (named deployment text) clock directory = .ok (card, written) ∧
        card.displayName = text ∧ card.runtimeInstanceId = deployment.runtimeId.val ∧
        card.roomId = deployment.roomId.val) ∧
    (isBoundedText maxDisplayNameLength text = false → ∀ result,
      publishCurrentCard host (named deployment text) clock directory ≠ .ok result) := by
  unfold isReady at ready
  cases built : buildCard host (named deployment "agent") clock with
  | error thrown => rw [built] at ready; cases ready
  | ok card =>
    rw [built] at ready
    dsimp only at ready
    cases checked : checkCard host deployment card with
    | error thrown => rw [checked] at ready; cases ready
    | ok serialized =>
      rw [checked] at ready
      dsimp only at ready
      rw [Bool.and_eq_true, Bool.and_eq_true, Bool.not_eq_true', Bool.not_eq_true',
        decide_eq_true_eq] at ready
      obtain ⟨⟨running, leased⟩, spare⟩ := ready
      obtain ⟨rfl, -⟩ := checkCard_ok checked
      obtain ⟨identity, runtime, room, nonzero, -, -, record⟩ := checkCard_isOk_iff.mp ⟨_, checked⟩
      have displayed : card.displayName = "agent" := by
        have again := buildCard_named deployment "agent" clock built
        rw [built] at again
        rw [Except.ok.inj again]
        change resolveDisplayName "agent" deployment.runtimeId.val = "agent"
        exact if_neg (by decide)
      have same : card = renamed card "agent" := by rw [← displayed]; rfl
      rw [same] at record
      have made := buildCard_named deployment text clock built
      rw [resolved] at made
      have publish : publishCurrentCard host (named deployment text) clock directory =
          (checkCard host (named deployment text) (renamed card text) >>= fun serialized =>
            .ok (renamed card text, directory.set (cardFileName deployment.runtimeId.val) (.ofText serialized))) := by
        unfold publishCurrentCard
        rw [guard_passed (by simp [named, running, leased])]
        exact bind_of_ok made
      rw [publish]
      have checks := @recordIssues_renamed _ _ _ _ text record
      constructor
      · intro bounded
        have size := byteLength_renamed card "agent" text
        have quoted : (Json.quote text).byteLength ≤ 2 + 6 * maxDisplayNameLength := by
          unfold isBoundedText at bounded
          simp only [Bool.and_eq_true, decide_eq_true_eq] at bounded
          have units := Json.unitsByteLength_le text.units
          have most := bounded.1.1.2
          unfold JsString.length at most
          rw [Json.byteLength_quote, Validation.jsonStringByteLength]
          omega
        rw [← same] at size
        unfold maxDisplayNameLength at quoted
        have within : (renamed card text).toJson.stringify.byteLength ≤
            min deployment.maxCardBytes maxAgentCardSizeBytes := by omega
        obtain ⟨serialized, passed⟩ := (@checkCard_isOk_iff host (named deployment text)
          (renamed card text)).mpr ⟨identity, runtime, room, nonzero, (le_min_iff.mp within).1,
            (le_min_iff.mp within).2, checks.mpr bounded⟩
        exact ⟨_, _, bind_of_ok passed, rfl, runtime, room⟩
      · intro unbounded result published
        obtain ⟨serialized, passed, -⟩ := Validation.bind_ok published
        obtain ⟨-, -, -, -, -, -, issues⟩ := checkCard_isOk_iff.mp ⟨_, passed⟩
        rw [checks.mp issues] at unbounded
        cases unbounded

end Cards

section Texts

open JsString (isTrimmed trim)

/-- A text of a card: it says something, and `trim` keeps it. -/
structure Shown (text : JsString) : Prop where
  nonempty : text.units ≠ []
  trimmed : Trimmed text.units

theorem Shown.resolved {text : JsString} (shown : Shown text) (runtimeInstanceId : JsString) :
    resolveDisplayName text runtimeInstanceId = text := by
  unfold resolveDisplayName
  rw [trim_of_trimmed shown.trimmed]
  exact if_neg fun nothing => shown.nonempty (List.length_eq_zero_iff.mp nothing)

theorem Shown.bounded_iff {text : JsString} (shown : Shown text) :
    isBoundedText maxDisplayNameLength text = true ↔
      text.length ≤ maxDisplayNameLength ∧ text.units.any isControl = false := by
  have some : 0 < text.length := List.length_pos_of_ne_nil shown.nonempty
  unfold isBoundedText
  rw [trim_of_trimmed shown.trimmed]
  simp [some]

/-- The letters of an identity are kept by `trim`. -/
theorem uuid_kept {value : JsString} (uuid : isUuid value = true) : ∀ u ∈ value.units,
    isTrimmed u = false := by
  intro u member
  unfold isUuid at uuid
  rw [Bool.and_eq_true, List.all_eq_true] at uuid
  obtain ⟨i, bound, found⟩ := List.getElem_of_mem member
  have digit := uuid.2 (u, i) (List.mem_zipIdx_iff_getElem?.mpr
    (List.getElem?_eq_some_iff.mpr ⟨bound, found⟩))
  have low : 0x21 ≤ u.toNat ∧ u.toNat ≤ 0x7e := by
    dsimp only at digit
    split at digit
    · rw [beq_iff_eq.mp digit]
      decide
    · split at digit
      · simp only [Bool.and_eq_true, decide_eq_true_eq, UInt16.le_iff_toNat_le, UInt16.reduceToNat] at digit
        omega
      · split at digit
        · simp only [Bool.or_eq_true, beq_iff_eq] at digit
          rcases digit with ((rfl | rfl) | rfl) | rfl <;> decide
        · simp only [JsString.isLowerHex, JsString.isDigit, Bool.or_eq_true, Bool.and_eq_true,
            decide_eq_true_eq, UInt16.le_iff_toNat_le, UInt16.reduceToNat] at digit
          omega
  unfold isTrimmed
  simp only [Bool.or_eq_false_iff, Bool.and_eq_false_iff, decide_eq_false_iff_not, beq_eq_false_iff_ne,
    ne_eq, UInt16.le_iff_toNat_le, UInt16.reduceToNat, ← UInt16.toNat_inj]
  omega

/-- The text a registry makes of a name can be shown. -/
theorem metadataDisplayName_shown (runtimeId : RuntimeId) (name : Option JsString) :
    Shown (metadataDisplayName runtimeId name) := by
  have fallback : Shown ("pi-to-pi-" ++ lastTwelve runtimeId.val) := by
    have front_kept : ∀ u ∈ ("pi-to-pi-" : JsString).units, isTrimmed u = false := by
      have each : (("pi-to-pi-" : JsString).units.all fun u => !isTrimmed u) = true := by decide
      simpa using List.all_eq_true.mp each
    have kept : ∀ u ∈ ("pi-to-pi-" ++ lastTwelve runtimeId.val : JsString).units, isTrimmed u = false := by
      intro u member
      rcases List.mem_append.mp member with front | back
      · exact front_kept u front
      · unfold lastTwelve at back
        exact uuid_kept runtimeId.property u (List.mem_of_mem_filter (List.mem_of_mem_drop back))
    refine ⟨by rw [append_units]; exact List.append_ne_nil_of_left_ne_nil (by decide) _, ?_, ?_⟩
    · exact fun u first => kept u (List.mem_of_mem_head? first)
    · exact fun u last => kept u (List.mem_of_mem_getLast? last)
  unfold metadataDisplayName
  cases name with
  | none => exact fallback
  | some given =>
    dsimp only [Option.map_some]
    split
    · exact fallback
    · rename_i something
      exact ⟨fun nothing => something (congrArg List.length nothing), trim_trimmed given⟩

end Texts

section Seen

variable {H : NameHost} {card : AgentCard}

/-- A runtime is seen under what its displayed text is taken for. -/
theorem seenAs_iff {runtimeId : RuntimeId} {roomId : RoomId} (runtime : card.runtimeInstanceId = runtimeId.val)
    (room : card.roomId = roomId.val) {name : JsString} :
    SeenAs H card name ↔ TakenFor H card.displayName name := by
  have made : peerFromCard H card = (displayBase H card.displayName).bind fun base =>
      (buildNetworkName H base runtimeId).bind fun networkName =>
        .ok { runtimeId, roomId, networkName, card } := by
    unfold peerFromCard
    rw [runtime, room, Lookup.asRuntimeId_val, Lookup.asRoomId_val]
    rfl
  have seen : ∀ base, displayBase H card.displayName = .ok base →
      (SeenAs H card name ↔ asNormalizedName H.toUnicode base = .ok name) := by
    intro base display
    unfold SeenAs
    rw [made, display]
    dsimp only [Except.bind]
    cases normal : asNormalizedName H.toUnicode base with
    | error message =>
      have failed : buildNetworkName H base runtimeId = .error (.invalidProjectLabel message) := by
        unfold buildNetworkName normalizedName
        rw [normal]
        rfl
      rw [failed]
      constructor
      · rintro ⟨_, same, _⟩
        cases same
      · intro same
        cases same
    | ok label =>
      have built : buildNetworkName H base runtimeId =
          .ok (published label (H.runtimeNameSuffix runtimeId.val).units) := by
        unfold buildNetworkName normalizedName
        rw [normal]
        rfl
      rw [built]
      have back := publishedNetworkBase_published (label_of_normalized normal)
        (@runtimeNameSuffix_valid H runtimeId.val)
      constructor
      · rintro ⟨_, same, based⟩
        cases same
        rw [back] at based
        cases based
        rfl
      · intro same
        cases same
        exact ⟨_, rfl, back⟩
  constructor
  · intro view
    cases form : isPublishedNetworkName H card.displayName with
    | true =>
      obtain ⟨base, suffix, whole, label, valid⟩ := isPublishedNetworkName_iff.mp form
      have display : displayBase H card.displayName = .ok base := by
        unfold displayBase
        rw [if_pos form, whole]
        exact publishedNetworkBase_published label valid
      have normal := (seen base display).mp view
      rw [label.normalized] at normal
      cases normal
      rw [whole]
      exact .published valid label.normalized
    | false =>
      have display : displayBase H card.displayName = .ok card.displayName := by
        unfold displayBase
        rw [form]
        rfl
      exact .normalized form ((seen _ display).mp view)
  · intro taken
    generalize text : card.displayName = displayName at taken
    cases taken with
    | published valid normal =>
      have label := label_of_normalized normal
      have display : displayBase H card.displayName = .ok name := by
        rw [text]
        change displayBase H (published name _) = .ok name
        unfold displayBase
        rw [if_pos (isPublishedNetworkName_iff.mpr ⟨_, _, rfl, label, valid⟩)]
        exact publishedNetworkBase_published label valid
      exact (seen _ display).mpr normal
    | normalized other normal =>
      have display : displayBase H card.displayName = .ok card.displayName := by
        unfold displayBase
        rw [text, other]
        rfl
      rw [← text] at normal
      exact (seen _ display).mpr normal

end Seen

section Runs

variable {H : NameHost} {host : Host} {deployment : AgentCardRegistry} {flags : P2PFlagValues}

/-- The configuration of a session. -/
theorem sessionConfig_ok_iff {sessionName : Option JsString} {config : P2PConfig} :
    sessionConfig H flags sessionName = .ok config ↔
      validateLabel H.toUnicode flags.p2pName "p2p-name" = .ok config.nameOverride ∧
      validateLabel H.toUnicode flags.p2pProject "p2p-project" = .ok config.projectOverride ∧
      resolveName H.toUnicode config.nameOverride sessionName = .ok (config.name, config.nameSource) := by
  unfold sessionConfig resolveP2PConfig
  dsimp only [firstDefined, Option.map_some, Option.getD_some]
  constructor
  · intro resolved
    obtain ⟨nameOverride, first, resolved⟩ := Validation.bind_ok resolved
    obtain ⟨projectOverride, second, resolved⟩ := Validation.bind_ok resolved
    obtain ⟨⟨name, nameSource⟩, third, resolved⟩ := Validation.bind_ok resolved
    cases resolved
    exact ⟨first, second, third⟩
  · rintro ⟨first, second, third⟩
    exact (bind_of_ok first).trans ((bind_of_ok second).trans (bind_of_ok third))

/-- A label that was configured is a label again. -/
theorem validateLabel_again {value : OptionValue} {option option' label : JsString}
    (valid : validateLabel H.toUnicode value option = .ok (some label)) :
    validateLabel H.toUnicode (.string label) option' = .ok (some label) := by
  cases value with
  | undefined => cases valid
  | boolean _ => cases valid
  | string text =>
    unfold validateLabel at valid ⊢
    dsimp only at valid ⊢
    split at valid
    · cases valid
    · cases normal : normalizeProjectLabel H.toUnicode text with
      | error message => rw [normal] at valid; cases valid
      | ok found =>
        rw [normal] at valid
        cases valid
        have again : normalizeProjectLabel H.toUnicode label = .ok label := normalized_idempotent normal
        have some : label.length ≠ 0 := by
          intro nothing
          apply (label_of_normalized normal).nonempty
          rw [List.length_eq_zero_iff.mp nothing]
          rfl
        rw [if_neg some, again]

/-- The configuration a name leaves: no override, and the project as it was. -/
theorem changedConfig_eq {current : P2PConfig} (name : JsString)
    (valid : validateLabel H.toUnicode flags.p2pProject "p2p-project" = .ok current.projectOverride) :
    changedConfig H current name = (resolveName H.toUnicode none (some name)).map fun found => {
      name := found.1
      nameSource := found.2
      nameOverride := none
      projectOverride := current.projectOverride } := by
  have kept : validateLabel H.toUnicode
      ((current.projectOverride.map OptionValue.string).getD .undefined) "p2p-project" =
        .ok current.projectOverride := by
    cases label : current.projectOverride with
    | none => rfl
    | some label' =>
      rw [label] at valid
      exact validateLabel_again valid
  have chosen : firstDefined ((current.projectOverride.map OptionValue.string).getD .undefined) .undefined =
      (current.projectOverride.map OptionValue.string).getD .undefined := by
    cases current.projectOverride <;> rfl
  unfold changedConfig resolveP2PConfig
  dsimp only [Option.map_none, Option.getD_none]
  rw [chosen]
  have nothing : validateLabel H.toUnicode (firstDefined .undefined .undefined) "p2p-name" = .ok none := rfl
  refine (bind_of_ok nothing).trans ((bind_of_ok kept).trans ?_)
  cases resolveName H.toUnicode none (some name) <;> rfl

/-- What a runtime is when a text is displayed. -/
structure Tracks (H : NameHost) (deployment : AgentCardRegistry) (flags : P2PFlagValues)
    (nameOverride : Option JsString) (runtime : NamedRuntime) (text : JsString) : Prop where
  registry : runtime.registry = named deployment text
  flagName : validateLabel H.toUnicode flags.p2pName "p2p-name" = .ok nameOverride
  nameOverride : runtime.config.nameOverride = nameOverride
  project : validateLabel H.toUnicode flags.p2pProject "p2p-project" = .ok runtime.config.projectOverride
  shown : Shown text
  displayed : runtime.card.displayName = text
  runtimeId : runtime.card.runtimeInstanceId = deployment.runtimeId.val
  roomId : runtime.card.roomId = deployment.roomId.val
  short : text.length ≤ maxDisplayNameLength
  printable : text.units.any isControl = false

theorem Tracks.seen_iff {nameOverride : Option JsString} {runtime : NamedRuntime} {text name : JsString}
    (tracks : Tracks H deployment flags nameOverride runtime text) :
    SeenAs H runtime.card name ↔ Displays H text name := by
  rw [seenAs_iff tracks.runtimeId tracks.roomId, tracks.displayed]
  exact ⟨fun taken => ⟨tracks.short, tracks.printable, taken⟩, Displays.taken⟩

/-- A publication of a text that is shown. -/
theorem publish_shown {clock : ℚ} (ready : isReady host deployment clock = true) {text : JsString}
    (shown : Shown text) (directory : Directory) :
    (text.length ≤ maxDisplayNameLength ∧ text.units.any isControl = false → ∃ card written,
      publishCurrentCard host (named deployment text) clock directory = .ok (card, written) ∧
        card.displayName = text ∧ card.runtimeInstanceId = deployment.runtimeId.val ∧
        card.roomId = deployment.roomId.val) ∧
    ∀ result, publishCurrentCard host (named deployment text) clock directory = .ok result →
      text.length ≤ maxDisplayNameLength ∧ text.units.any isControl = false := by
  obtain ⟨published, refused⟩ := publishCurrentCard_named ready directory (shown.resolved _)
  refine ⟨fun bounded => published (shown.bounded_iff.mpr bounded), fun result done => ?_⟩
  apply shown.bounded_iff.mp
  cases bounded : isBoundedText maxDisplayNameLength text with
  | true => rfl
  | false => exact absurd done (refused bounded result)

/-- The publication of a new name by a registry that is ready. -/
theorem updateMetadata_named {clock : ℚ} (ready : isReady host deployment clock = true)
    (text name : JsString) (directory : Directory) :
    updateMetadata host (named deployment text) (displayNamePatch name) clock directory =
      (publishCurrentCard host (named deployment (metadataDisplayName deployment.runtimeId (some name)))
        clock directory).map fun written =>
          (named deployment (metadataDisplayName deployment.runtimeId (some name)), written) := by
  have running : ¬((named deployment text).shutdownRequested = true ∨
      (named deployment text).leaseStopped = true) := by
    change ¬(deployment.shutdownRequested = true ∨ deployment.leaseStopped = true)
    unfold isReady at ready
    split at ready
    · cases ready
    · split at ready
      · cases ready
      · rw [Bool.and_eq_true, Bool.and_eq_true, Bool.not_eq_true', Bool.not_eq_true'] at ready
        simp [ready.1.1, ready.1.2]
  unfold updateMetadata
  rw [guard_passed running, guard_passed (by simp [displayNamePatch])]
  change (publishCurrentCard host (named deployment (metadataDisplayName deployment.runtimeId (some name)))
    clock directory >>= _) = _
  cases publishCurrentCard host (named deployment (metadataDisplayName deployment.runtimeId (some name)))
    clock directory <;> rfl

variable {nameOverride : Option JsString} {runtime : NamedRuntime} {text : JsString} {change : InfoChanged}

/-- A change of the name that succeeds displays the text after it. -/
theorem Tracks.changed (tracks : Tracks H deployment flags nameOverride runtime text)
    (ready : isReady host deployment change.clock = true) {next : NamedRuntime}
    (changed : onSessionInfoChanged H host runtime change = .ok next) :
    Tracks H deployment flags nameOverride next
      (textAfter deployment.runtimeId nameOverride text change.name) := by
  unfold onSessionInfoChanged at changed
  unfold textAfter
  have override := tracks.nameOverride
  cases given : nameOverride with
  | some _ =>
    rw [given] at override
    rw [override] at changed
    cases changed
    rw [given] at tracks
    exact tracks
  | none =>
    rw [given] at override
    rw [override] at changed
    cases told : change.name with
    | none =>
      rw [told] at changed
      cases changed
      rw [given] at tracks
      exact tracks
    | some name =>
      rw [told] at changed
      dsimp only at changed
      rw [tracks.registry, updateMetadata_named ready, changedConfig_eq name tracks.project] at changed
      have shown := metadataDisplayName_shown deployment.runtimeId (some name)
      obtain ⟨succeeds, bounds⟩ := publish_shown ready shown runtime.directory
      cases outcome : publishCurrentCard host (named deployment
          (metadataDisplayName deployment.runtimeId (some name))) change.clock runtime.directory with
      | error thrown => rw [outcome] at changed; cases changed
      | ok result =>
        have bounded := bounds result outcome
        obtain ⟨card, written, same, displayed, runtimeId, roomId⟩ := succeeds bounded
        rw [outcome] at same changed
        cases same
        cases resolved : resolveName H.toUnicode none (some name) with
        | error thrown => rw [resolved] at changed; cases changed
        | ok found =>
          rw [resolved] at changed
          cases changed
          exact ⟨rfl, given ▸ tracks.flagName, rfl, tracks.project, shown, displayed, runtimeId, roomId,
            bounded.1, bounded.2⟩

/-- A change of the name succeeds if the text after it may be published. -/
theorem Tracks.changes (tracks : Tracks H deployment flags nameOverride runtime text)
    (ready : isReady host deployment change.clock = true) {config : P2PConfig}
    (session : sessionConfig H flags change.name = .ok config)
    (short : (textAfter deployment.runtimeId nameOverride text change.name).length ≤ maxDisplayNameLength)
    (printable : (textAfter deployment.runtimeId nameOverride text change.name).units.any isControl = false) :
    ∃ next, onSessionInfoChanged H host runtime change = .ok next := by
  unfold onSessionInfoChanged
  unfold textAfter at short printable
  rw [tracks.nameOverride]
  cases given : nameOverride with
  | some _ => exact ⟨_, rfl⟩
  | none =>
    cases told : change.name with
    | none => exact ⟨_, rfl⟩
    | some name =>
      rw [given, told] at short printable
      have shown := metadataDisplayName_shown deployment.runtimeId (some name)
      obtain ⟨card, written, published, -⟩ :=
        (publish_shown ready shown runtime.directory).1 ⟨short, printable⟩
      obtain ⟨flagged, -, resolved⟩ := sessionConfig_ok_iff.mp session
      rw [tracks.flagName, given] at flagged
      rw [← Except.ok.inj flagged, told] at resolved
      dsimp only
      rw [tracks.registry, updateMetadata_named ready, published, changedConfig_eq name tracks.project,
        resolved]
      exact ⟨_, rfl⟩

/-- The name is kept through the changes just when each text displays the name it should. -/
theorem keepsName_iff {changes : List InfoChanged}
    (tracks : Tracks H deployment flags nameOverride runtime text)
    (ready : ∀ change ∈ changes, isReady host deployment change.clock = true) :
    KeepsName H host flags runtime changes ↔
      DisplaysEach H flags deployment.runtimeId nameOverride text changes := by
  induction changes generalizing runtime text with
  | nil => exact Iff.rfl
  | cons change rest ih =>
    have prepared := ready change List.mem_cons_self
    have later := fun other member => ready other (List.mem_cons_of_mem change member)
    rw [KeepsName, DisplaysEach]
    constructor
    · rintro ⟨next, config, changed, session, seen, kept⟩
      have tracked := tracks.changed prepared changed
      exact ⟨⟨config, session, tracked.seen_iff.mp seen⟩, (ih tracked later).mp kept⟩
    · rintro ⟨⟨config, session, displays⟩, kept⟩
      obtain ⟨next, changed⟩ := tracks.changes prepared session displays.short displays.printable
      have tracked := tracks.changed prepared changed
      exact ⟨next, config, changed, session, tracked.seen_iff.mpr displays, (ih tracked later).mpr kept⟩

/-- The text that a session starts with. -/
def startText (runtimeId : RuntimeId) (sessionName : Option JsString) (config : P2PConfig) : JsString :=
  metadataDisplayName runtimeId (some (sessionName.getD config.name))

/-- A runtime that started tracks the text it started with, and it starts if that may be published. -/
theorem onSessionStart_tracks {sessionName : Option JsString} {clock : ℚ} {directory : Directory}
    {config : P2PConfig} (session : sessionConfig H flags sessionName = .ok config)
    (ready : isReady host deployment clock = true) :
    (∀ runtime, onSessionStart H host deployment flags sessionName clock directory = .ok runtime →
      Tracks H deployment flags config.nameOverride runtime
        (startText deployment.runtimeId sessionName config)) ∧
    ((startText deployment.runtimeId sessionName config).length ≤ maxDisplayNameLength ∧
        (startText deployment.runtimeId sessionName config).units.any isControl = false →
      ∃ runtime, onSessionStart H host deployment flags sessionName clock directory = .ok runtime) := by
  have shown : Shown (startText deployment.runtimeId sessionName config) :=
    metadataDisplayName_shown deployment.runtimeId _
  obtain ⟨succeeds, bounds⟩ := publish_shown ready shown directory
  obtain ⟨flagged, project, -⟩ := sessionConfig_ok_iff.mp session
  have starts : onSessionStart H host deployment flags sessionName clock directory =
      ((publishCurrentCard host (named deployment (startText deployment.runtimeId sessionName config)) clock
        directory).mapError .registry).map fun published => {
          config
          registry := named deployment (startText deployment.runtimeId sessionName config)
          card := published.1
          directory := published.2 } := by
    unfold onSessionStart
    rw [session]
    change (Except.mapError HandlerError.registry (publishCurrentCard host (named deployment
      (startText deployment.runtimeId sessionName config)) clock directory) >>= _) = _
    cases publishCurrentCard host (named deployment
      (startText deployment.runtimeId sessionName config)) clock directory <;> rfl
  rw [starts]
  constructor
  · intro runtime started
    cases outcome : publishCurrentCard host (named deployment
        (startText deployment.runtimeId sessionName config)) clock directory with
    | error thrown => rw [outcome] at started; cases started
    | ok result =>
      have bounded := bounds result outcome
      obtain ⟨card, written, same, displayed, runtimeId, roomId⟩ := succeeds bounded
      rw [outcome] at same started
      cases same
      cases started
      exact ⟨rfl, flagged, rfl, project, shown, displayed, runtimeId, roomId, bounded.1, bounded.2⟩
  · intro bounded
    obtain ⟨card, written, published, -⟩ := succeeds bounded
    rw [published]
    exact ⟨_, rfl⟩

/-- A session starts and is seen under its configured name throughout just when the text it
starts with, and the text after each change, display the name the configuration gives. -/
theorem namedThroughout_iff {sessionName : Option JsString} {clock : ℚ} {directory : Directory}
    {changes : List InfoChanged} {config : P2PConfig}
    (session : sessionConfig H flags sessionName = .ok config)
    (ready : ∀ time ∈ clock :: changes.map InfoChanged.clock, isReady host deployment time = true) :
    NamedThroughout H host deployment flags sessionName clock directory changes ↔
      Displays H (startText deployment.runtimeId sessionName config) config.name ∧
        DisplaysEach H flags deployment.runtimeId config.nameOverride
          (startText deployment.runtimeId sessionName config) changes := by
  obtain ⟨tracks, starts⟩ := @onSessionStart_tracks H host deployment flags sessionName clock directory
    config session (ready clock List.mem_cons_self)
  have later : ∀ change ∈ changes, isReady host deployment change.clock = true := fun change member =>
    ready _ (List.mem_cons_of_mem _ (List.mem_map_of_mem member))
  unfold NamedThroughout
  constructor
  · rintro ⟨runtime, resolved, started, again, seen, kept⟩
    rw [session] at again
    cases again
    have tracked := tracks runtime started
    exact ⟨tracked.seen_iff.mp seen, (keepsName_iff tracked later).mp kept⟩
  · rintro ⟨displays, kept⟩
    obtain ⟨runtime, started⟩ := starts ⟨displays.short, displays.printable⟩
    have tracked := tracks runtime started
    exact ⟨runtime, config, started, session, tracked.seen_iff.mpr displays,
      (keepsName_iff tracked later).mpr kept⟩

/-- A text that is no published name is taken for what it is normalised to. -/
theorem TakenFor.normal {name : JsString} (taken : TakenFor H text name)
    (other : isPublishedNetworkName H text = false) : asNormalizedName H.toUnicode text = .ok name := by
  cases taken with
  | published valid normal =>
    have form : isPublishedNetworkName H (Naming.published name _) = true :=
      isPublishedNetworkName_iff.mpr ⟨_, _, rfl, label_of_normalized normal, valid⟩
    change isPublishedNetworkName H (Naming.published name _) = false at other
    rw [form] at other
    cases other
  | normalized _ normal => exact normal

end Runs

section Example

open Lookup (digests)

def noFlags : P2PFlagValues := ⟨.undefined, .undefined⟩

/-- The session "Alpha" and its next name are what peers see. -/
theorem alpha_named : ∃ config, sessionConfig (plainHost digests) noFlags (some "Alpha") = .ok config ∧
    NamedThroughout (plainHost digests) isoHost (startedRegistry "") noFlags (some "Alpha") 1767225600000 ∅
      [⟨some " Beta 2", 1767225601000⟩] := by
  have session : sessionConfig (plainHost digests) noFlags (some "Alpha") =
      .ok ⟨"alpha", .sessionName, none, none⟩ := by decide +kernel
  have renamed : sessionConfig (plainHost digests) noFlags (some " Beta 2") =
      .ok ⟨"beta-2", .sessionName, none, none⟩ := by decide +kernel
  refine ⟨_, session, (namedThroughout_iff session ?_).mpr ⟨⟨?_, ?_, ?_⟩, ⟨⟨_, renamed, ?_, ?_, ?_⟩, trivial⟩⟩⟩
  · decide +kernel
  · decide +kernel
  · decide +kernel
  · exact .normalized (by decide +kernel) (by decide +kernel)
  · decide +kernel
  · decide +kernel
  · exact .normalized (by decide +kernel) (by decide +kernel)

/-- With `--p2p-name alpha`, the session "Beta" is seen as `beta`. -/
theorem override_lost : ∃ config,
    sessionConfig (plainHost digests) ⟨.string "alpha", .undefined⟩ (some "Beta") = .ok config ∧
      config.name = "alpha" ∧ ¬NamedThroughout (plainHost digests) isoHost (startedRegistry "")
        ⟨.string "alpha", .undefined⟩ (some "Beta") 1767225600000 ∅ [] := by
  have session : sessionConfig (plainHost digests) ⟨.string "alpha", .undefined⟩ (some "Beta") =
      .ok ⟨"alpha", .p2pName, some "alpha", none⟩ := by decide +kernel
  refine ⟨_, session, rfl, ?_⟩
  rintro ⟨runtime, config, started, again, seen, -⟩
  rw [session] at again
  cases again
  have tracks := (onSessionStart_tracks session (by decide +kernel)).1 runtime started
  have taken := (tracks.seen_iff.mp seen).taken
  have normal := taken.normal (by decide +kernel)
  have other : asNormalizedName (plainHost digests).toUnicode "Beta" = .ok "beta" := by decide +kernel
  have text : startText (startedRegistry "").runtimeId (some "Beta") ⟨"alpha", .p2pName, some "alpha", none⟩ =
      "Beta" := by decide +kernel
  rw [text, other] at normal
  revert normal
  decide

end Example

end SessionNames
end PiToPi
