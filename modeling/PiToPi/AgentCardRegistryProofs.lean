import PiToPi.AgentCardRegistry
import PiToPi.JsonTextProofs
import PiToPi.LookupProofs

/-!
A published Agent Card and what the room reads back of it. Publication checks less than
reading needs: a display name without a letter or digit makes no network name, and a
`-0` is read as `0`.
-/
namespace PiToPi

section RoundTrip

theorem nullable?_nullable {α : Type} {write : α → Json} {read : Json → Option α} (value : Option α)
    (back : ∀ value, read (write value) = some value) (some_value : ∀ value, write value ≠ .null) :
    Json.nullable? read (Json.nullable write value) = some value := by
  cases value with
  | none => rfl
  | some value =>
    have written : Json.nullable? read (write value) = (read (write value)).map some := by
      unfold Json.nullable?
      split
      · rename_i same
        exact absurd same (some_value value)
      · rfl
    rw [Json.nullable, written, back]
    rfl

theorem mapM_strings (texts : List JsString) :
    (texts.map Json.string).mapM Json.asString? = some texts := by
  rw [List.mapM_map]
  induction texts with
  | nil => rfl
  | cons text rest ih =>
    rw [List.mapM_cons]
    show (some text).bind _ = _
    show (List.mapM (Json.asString? ∘ Json.string) rest).bind _ = _
    rw [ih]
    rfl

theorem AgentModel.ofJson?_toJson (model : AgentModel) : AgentModel.ofJson? model.toJson = some model := rfl

theorem ContextUsage.ofJson?_toJson (usage : ContextUsage) : ContextUsage.ofJson? usage.toJson = some usage := by
  have number : ∀ value : Option JsNumber,
      Json.nullable? Json.asNumber? (Json.nullable .number value) = some value := fun value =>
    nullable?_nullable value (fun _ => rfl) nofun
  show (Json.nullable? _ _).bind _ = _
  rw [number]
  show (Json.nullable? _ _).bind _ = _
  rw [number]
  rfl

theorem AgentCard.ofJson?_toJson (card : AgentCard) : AgentCard.ofJson? card.toJson = some card := by
  have text : ∀ value : Option JsString,
      Json.nullable? Json.asString? (Json.nullable .string value) = some value := fun value =>
    nullable?_nullable value (fun _ => rfl) nofun
  have model : Json.nullable? AgentModel.ofJson? (Json.nullable AgentModel.toJson card.model) =
      some card.model := nullable?_nullable _ AgentModel.ofJson?_toJson nofun
  have usage : Json.nullable? ContextUsage.ofJson? (Json.nullable ContextUsage.toJson card.contextUsage) =
      some card.contextUsage := nullable?_nullable _ ContextUsage.ofJson?_toJson nofun
  have state : AgentState.ofName? card.state.name = some card.state := by
    cases card.state <;> decide
  have kind : EndpointTransport.ofName? card.endpoint.kind.name = some card.endpoint.kind := by
    cases card.endpoint.kind <;> decide
  have endpoint : EndpointDescriptor.ofJson? card.endpoint.toJson = some card.endpoint := by
    show (EndpointTransport.ofName? card.endpoint.kind.name).bind _ = _
    rw [kind]
    rfl
  have capabilities : AgentCapabilities.ofJson? card.capabilities.toJson = some card.capabilities := by
    show (List.mapM Json.asString? (card.capabilities.supportedContentTypes.map Json.string)).bind _ = _
    rw [mapM_strings]
    rfl
  show (Json.nullable? Json.asString? _).bind _ = _
  rw [text]
  show (Json.nullable? Json.asString? _).bind _ = _
  rw [text]
  show (List.mapM Json.asString? (card.roleTags.map Json.string)).bind _ = _
  rw [mapM_strings]
  show (Json.nullable? AgentModel.ofJson? _).bind _ = _
  rw [model]
  show (AgentCapabilities.ofJson? _).bind _ = _
  rw [capabilities]
  show (AgentState.ofName? _).bind _ = _
  rw [state]
  show (Json.nullable? ContextUsage.ofJson? _).bind _ = _
  rw [usage]
  show (EndpointDescriptor.ofJson? _).bind _ = _
  rw [endpoint]
  rfl

/-- The usage as it is read back. -/
def ContextUsage.readBack (usage : ContextUsage) : ContextUsage where
  tokens := usage.tokens.map JsNumber.unsigned
  percent := usage.percent.map JsNumber.unsigned

/-- The card as it is read back. -/
def AgentCard.readBack (card : AgentCard) : AgentCard :=
  { card with
    protocolVersion := card.protocolVersion.unsigned
    capabilities := { card.capabilities with maxMessageSize := card.capabilities.maxMessageSize.unsigned }
    contextUsage := card.contextUsage.map ContextUsage.readBack
    inboundQueueDepth := card.inboundQueueDepth.unsigned }

/-- The numbers of a card. -/
def AgentCard.numbers (card : AgentCard) : List JsNumber :=
  card.protocolVersion :: card.capabilities.maxMessageSize :: card.inboundQueueDepth ::
    (card.contextUsage.bind ContextUsage.tokens).toList ++ (card.contextUsage.bind ContextUsage.percent).toList

namespace Json

theorem readBack_nullable {α : Type} {write : α → Json} {back : α → α}
    (each : ∀ value, (write value).readBack = write (back value)) (value : Option α) :
    (nullable write value).readBack = nullable write (value.map back) := by
  cases value with
  | none => rfl
  | some value => exact each value

theorem readBack_strings (texts : List JsString) :
    readBackElements (texts.map Json.string) = texts.map Json.string := by
  induction texts with
  | nil => rfl
  | cons text rest ih => rw [List.map_cons, readBackElements, ih, readBack]

theorem plain_strings (N : NumberHost) (texts : List JsString) :
    plainElements N (texts.map Json.string) = true := by
  induction texts with
  | nil => rfl
  | cons text rest ih => rw [List.map_cons, plainElements, ih, isPlain, Bool.true_and]

theorem plain_nullable {N : NumberHost} {α : Type} {write : α → Json} (value : Option α)
    (each : ∀ v ∈ value, isPlain N (write v) = true) : isPlain N (nullable write value) = true := by
  cases value with
  | none => rfl
  | some value => exact each value rfl

end Json

theorem readBack_toJson (card : AgentCard) : card.toJson.readBack = card.readBack.toJson := by
  have text : ∀ value : Option JsString, (Json.nullable .string value).readBack = Json.nullable .string value := by
    intro value
    cases value <;> rfl
  have number : ∀ value : Option JsNumber,
      (Json.nullable .number value).readBack = Json.nullable .number (value.map JsNumber.unsigned) :=
    Json.readBack_nullable fun _ => rfl
  have usage : ∀ usage : ContextUsage, usage.toJson.readBack = usage.readBack.toJson := by
    intro usage
    unfold ContextUsage.toJson ContextUsage.readBack
    simp only [Json.readBack, Json.readBackMembers, number]
  have model : ∀ model : AgentModel, model.toJson.readBack = model.toJson := fun _ => rfl
  have capabilities : card.capabilities.toJson.readBack = card.readBack.capabilities.toJson := by
    unfold AgentCapabilities.toJson AgentCard.readBack
    simp only [Json.readBack, Json.readBackMembers, Json.readBack_strings]
  have models : (Json.nullable AgentModel.toJson card.model).readBack =
      Json.nullable AgentModel.toJson card.model := by
    rw [@Json.readBack_nullable _ _ id model, Option.map_id]
    rfl
  have endpoint : card.endpoint.toJson.readBack = card.endpoint.toJson := rfl
  unfold AgentCard.toJson
  simp only [Json.readBack, Json.readBackMembers, text, Json.readBack_strings, models, capabilities,
    Json.readBack_nullable usage, endpoint]
  rfl

theorem unsigned_eq_iff {n : JsNumber} : n.unsigned = n ↔ n.isNegativeZero = false := by
  unfold JsNumber.unsigned
  cases zero : n.isNegativeZero with
  | false => simp
  | true =>
    simp only [if_true, reduceCtorEq, iff_false]
    rintro same
    rw [← same] at zero
    cases zero

/-- Only `-0` is read back as another number. -/
theorem AgentCard.readBack_eq_iff {card : AgentCard} :
    card.readBack = card ↔ ∀ n ∈ card.numbers, n.isNegativeZero = false := by
  have values : ∀ value : Option JsNumber, value.map JsNumber.unsigned = value ↔
      ∀ n ∈ value.toList, n.isNegativeZero = false := by
    intro value
    cases value with
    | none => simp
    | some n => simp [unsigned_eq_iff]
  have usage : card.contextUsage.map ContextUsage.readBack = card.contextUsage ↔
      ∀ n ∈ (card.contextUsage.bind ContextUsage.tokens).toList ++
        (card.contextUsage.bind ContextUsage.percent).toList, n.isNegativeZero = false := by
    cases card.contextUsage with
    | none => simp
    | some usage =>
      simp only [Option.map_some, Option.some.injEq, Option.bind_some, List.mem_append, or_imp,
        forall_and, ← values]
      constructor
      · intro same
        exact ⟨congrArg ContextUsage.tokens same, congrArg ContextUsage.percent same⟩
      · rintro ⟨tokens, percent⟩
        cases usage
        simp_all [ContextUsage.readBack]
  unfold AgentCard.numbers
  rw [List.cons_append, List.cons_append, List.cons_append, List.forall_mem_cons, List.forall_mem_cons,
    List.forall_mem_cons, ← usage, ← unsigned_eq_iff, ← unsigned_eq_iff, ← unsigned_eq_iff]
  constructor
  · intro same
    exact ⟨congrArg AgentCard.protocolVersion same,
      congrArg (fun c => c.capabilities.maxMessageSize) same,
      congrArg AgentCard.inboundQueueDepth same, congrArg AgentCard.contextUsage same⟩
  · rintro ⟨version, size, depth, used⟩
    unfold AgentCard.readBack
    rw [version, size, depth, used]

namespace CardValidation

theorem expect_eq_nil_iff {held : Bool} {path message : JsString} {code : IssueCode} :
    expect held path code message = [] ↔ held = true := by
  cases held with
  | true => exact ⟨fun _ => rfl, fun _ => rfl⟩
  | false => exact ⟨nofun, nofun⟩

theorem safe_of_within {low high : Nat} {n : JsNumber} (bound : high ≤ JsNumber.maxSafeInteger)
    (within : isIntegerWithin low high n = true) : n.isSafeInteger = true := by
  unfold isIntegerWithin at within
  rw [Bool.and_eq_true, Bool.and_eq_true, decide_eq_true_eq, decide_eq_true_eq] at within
  obtain ⟨⟨integer, above⟩, below⟩ := within
  have nonnegative : (0 : ℚ) ≤ n.value := le_trans (Nat.cast_nonneg low) above
  have most : n.value ≤ (JsNumber.maxSafeInteger : ℚ) := le_trans below (Nat.cast_le.mpr bound)
  have least : -(JsNumber.maxSafeInteger : ℚ) ≤ n.value :=
    le_trans (neg_nonpos.mpr (Nat.cast_nonneg _)) nonnegative
  unfold JsNumber.isSafeInteger
  rw [integer, decide_eq_true least, decide_eq_true most]
  rfl

theorem usage_safe {usage : ContextUsage} {key path message : JsString} {most : Nat} {value : Option JsNumber}
    (bound : most ≤ JsNumber.maxSafeInteger)
    (found : usage.toJson.get? key = some (Json.nullable .number value))
    (valid : validateUsage usage.toJson key path message most = []) :
    ∀ n ∈ value, n.isSafeInteger = true := by
  rintro n rfl
  unfold validateUsage Json.hasOwn at valid
  rw [found] at valid
  exact safe_of_within bound (expect_eq_nil_iff.mp valid)

/-- The checks of a card that are about its numbers. -/
theorem numbers_safe {host : Host} {options : AgentCardValidationOptions} {card : AgentCard}
    (valid : recordIssues host options card.toJson = []) : ∀ n ∈ card.numbers, n.isSafeInteger = true := by
  unfold recordIssues at valid
  simp only [List.append_eq_nil_iff, and_assoc] at valid
  obtain ⟨-, -, -, version, -, -, -, -, -, -, -, -, -, -, capabilities, -, usage, depth, -⟩ := valid
  have isVersion : card.protocolVersion.isSafeInteger = true := by
    change (if !card.protocolVersion.isInteger then _ else expect (decide (card.protocolVersion.value = 1))
      _ _ _) = [] at version
    cases integer : card.protocolVersion.isInteger with
    | false => rw [integer] at version; cases version
    | true =>
      rw [integer] at version
      have one : card.protocolVersion.value = 1 := of_decide_eq_true (expect_eq_nil_iff.mp version)
      apply @safe_of_within 1 1 _ (by decide)
      unfold isIntegerWithin
      rw [integer, one]
      decide
  have isSize : card.capabilities.maxMessageSize.isSafeInteger = true := by
    change (_ ++ _ ++ _ ++ _ ++ expect (isIntegerWithin 1 maxMessageSizeBytes
      card.capabilities.maxMessageSize) _ _ _ ++ _) = [] at capabilities
    simp only [List.append_eq_nil_iff, and_assoc] at capabilities
    obtain ⟨-, -, -, -, size, -⟩ := capabilities
    exact safe_of_within (by decide) (expect_eq_nil_iff.mp size)
  have isDepth : card.inboundQueueDepth.isSafeInteger = true :=
    safe_of_within (by decide) (expect_eq_nil_iff.mp depth)
  have isUsage : ∀ used, card.contextUsage = some used →
      (∀ n ∈ used.tokens, n.isSafeInteger = true) ∧ ∀ n ∈ used.percent, n.isSafeInteger = true := by
    intro used given
    have found : card.toJson.get? "contextUsage" = some (Json.nullable ContextUsage.toJson card.contextUsage) := rfl
    rw [found, given] at usage
    change (_ ++ validateUsage used.toJson _ _ _ _ ++ validateUsage used.toJson _ _ _ _) = [] at usage
    simp only [List.append_eq_nil_iff, and_assoc] at usage
    obtain ⟨-, tokens, percent⟩ := usage
    exact ⟨usage_safe (by decide) rfl tokens, usage_safe (by decide) rfl percent⟩
  intro n member
  unfold AgentCard.numbers at member
  simp only [List.cons_append, List.mem_cons, List.mem_append, Option.mem_toList,
    Option.bind_eq_some_iff] at member
  rcases member with rfl | rfl | rfl | ⟨used, given, counted⟩ | ⟨used, given, counted⟩
  · exact isVersion
  · exact isSize
  · exact isDepth
  · exact (isUsage used given).1 n counted
  · exact (isUsage used given).2 n counted

/-- Whether a card is still live is asked last. -/
theorem recordIssues_live {host : Host} {options : AgentCardValidationOptions} {input : Json}
    {now : ℚ} {expiry : Int} {maxCardSizeBytes : Option Nat}
    (valid : recordIssues host options input = [])
    (expires : parseTimestamp host (input.get? "leaseExpiresAt") "leaseExpiresAt" = .ok expiry)
    (live : now < expiry) :
    recordIssues host { options with requireUnexpired := some now, maxCardSizeBytes } input = [] := by
  unfold recordIssues at valid ⊢
  dsimp only at valid ⊢
  rw [List.append_eq_nil_iff] at valid ⊢
  refine ⟨valid.1, ?_⟩
  rw [expires]
  exact expect_eq_nil_iff.mpr (decide_eq_true live)

end CardValidation

theorem safe_unsigned {n : JsNumber} (safe : n.isSafeInteger = true) : n.unsigned.isSafeInteger = true := by
  unfold JsNumber.unsigned
  split
  · decide +kernel
  · exact safe

theorem plain_number {N : NumberHost} {n : JsNumber} (safe : n.isSafeInteger = true) :
    Json.isPlain N (.number n) = true := by
  rw [Json.isPlain, N.nearest_safe _ (safe_unsigned safe)]
  exact beq_self_eq_true _

theorem plainMembers_iff {N : NumberHost} {members : List (JsString × Json)} :
    Json.plainMembers N members = true ↔ ∀ value ∈ members.map Prod.snd, Json.isPlain N value = true := by
  induction members with
  | nil => simp [Json.plainMembers]
  | cons first rest ih =>
    rw [Json.plainMembers, Bool.and_eq_true, ih, List.map_cons, List.forall_mem_cons]

theorem plain_record {N : NumberHost} {members : List (JsString × Json)} {keys : List JsString}
    (order : Json.enumerated keys = true) (named : members.map Prod.fst = keys)
    (plain : ∀ value ∈ members.map Prod.snd, Json.isPlain N value = true) :
    Json.isPlain N (.record members) = true := by
  subst named
  unfold Json.record
  rw [Json.isPlain, order, plainMembers_iff.mpr plain]
  rfl

/-- A card whose numbers are safe integers is read back from its text. -/
theorem plain_toJson {N : NumberHost} {card : AgentCard}
    (safe : ∀ n ∈ card.numbers, n.isSafeInteger = true) : Json.isPlain N card.toJson = true := by
  have text : ∀ value : Option JsString, Json.isPlain N (Json.nullable .string value) = true := fun value =>
    Json.plain_nullable value fun _ _ => rfl
  have texts : ∀ texts : List JsString, Json.isPlain N (.array (texts.map .string)) = true := fun texts =>
    (Json.isPlain.eq_def N _).trans (Json.plain_strings N texts)
  have number : ∀ n ∈ card.numbers, Json.isPlain N (.number n) = true := fun n member =>
    plain_number (safe n member)
  have models : Json.isPlain N (Json.nullable AgentModel.toJson card.model) = true :=
    Json.plain_nullable _ fun model _ => plain_record (by decide +kernel : Json.enumerated
      ["provider", "id"] = true) rfl (by
        intro value member
        simp only [List.map_cons, List.map_nil, List.mem_cons, List.not_mem_nil, or_false] at member
        rcases member with rfl | rfl <;> rfl)
  have capabilities : Json.isPlain N card.capabilities.toJson = true := by
    apply plain_record (by decide +kernel : Json.enumerated CardValidation.capabilityFields = true) rfl
    intro value member
    simp only [List.map_cons, List.map_nil, List.mem_cons, List.not_mem_nil, or_false] at member
    rcases member with rfl | rfl | rfl | rfl | rfl
    · rfl
    · rfl
    · rfl
    · exact number _ (List.mem_cons_of_mem _ List.mem_cons_self)
    · exact texts _
  have usages : Json.isPlain N (Json.nullable ContextUsage.toJson card.contextUsage) = true := by
    apply Json.plain_nullable
    intro usage given
    apply plain_record (by decide +kernel : Json.enumerated ["tokens", "percent"] = true) rfl
    intro value member
    simp only [List.map_cons, List.map_nil, List.mem_cons, List.not_mem_nil, or_false] at member
    rcases member with rfl | rfl <;>
    · apply Json.plain_nullable
      intro n counted
      apply number
      unfold AgentCard.numbers
      rw [Option.mem_def.mp given]
      simp [Option.mem_def.mp counted]
  have endpoint : Json.isPlain N card.endpoint.toJson = true := by
    apply plain_record (by decide +kernel : Json.enumerated ["kind", "address", "runtimeInstanceId"] = true) rfl
    intro value member
    simp only [List.map_cons, List.map_nil, List.mem_cons, List.not_mem_nil, or_false] at member
    rcases member with rfl | rfl | rfl <;> rfl
  apply plain_record (by decide +kernel : Json.enumerated CardValidation.cardFields = true) rfl
  intro value member
  simp only [List.map_cons, List.map_nil, List.mem_cons, List.not_mem_nil, or_false] at member
  rcases member with rfl | rfl | rfl | rfl | rfl | rfl | rfl | rfl | rfl | rfl | rfl | rfl | rfl | rfl |
    rfl | rfl
  · exact number _ List.mem_cons_self
  · rfl
  · rfl
  · rfl
  · rfl
  · exact text _
  · exact text _
  · exact texts _
  · exact models
  · exact capabilities
  · rfl
  · exact usages
  · exact number _ (List.mem_cons_of_mem _ (List.mem_cons_of_mem _ List.mem_cons_self))
  · exact endpoint
  · rfl
  · rfl

end RoundTrip

namespace CardRegistry
open Naming CardValidation

section Publication

variable {host : Host}

theorem passed_guard {ε α : Type} {c : Prop} [Decidable c] {e : ε} {next : PUnit → Except ε α}
    {rest : Except ε α} {value : α}
    (done : (if c then (throw e : Except ε PUnit) >>= next else rest) = .ok value) :
    ¬c ∧ rest = .ok value := by
  split at done
  · cases done
  · rename_i passed
    exact ⟨passed, done⟩

/-- What a written card has passed. -/
structure Checked (host : Host) (registry : AgentCardRegistry) (card : AgentCard) : Prop where
  runtime : card.runtimeInstanceId = registry.runtimeId.val
  room : card.roomId = registry.roomId.val
  size : card.toJson.stringify.byteLength ≤ maxAgentCardSizeBytes
  identity : isSafeRuntimeInstanceId registry.runtimeId.val = true
  record : recordIssues host {
    requireUnexpired := none
    expectedRoomId := some registry.roomId.val
    expectedRuntimeInstanceId := some registry.runtimeId.val
    expectedRecordFileName := some (cardFileName registry.runtimeId.val)
    maxCardSizeBytes := some (min registry.maxCardBytes maxAgentCardSizeBytes) } card.toJson = []

theorem checkCard_ok {registry : AgentCardRegistry} {card : AgentCard} {serialized : JsString}
    (checked : checkCard host registry card = .ok serialized) :
    serialized = card.toJson.stringify ∧ Checked host registry card := by
  unfold checkCard at checked
  obtain ⟨identity, checked⟩ := passed_guard checked
  obtain ⟨runtime, checked⟩ := passed_guard checked
  obtain ⟨room, checked⟩ := passed_guard checked
  obtain ⟨-, checked⟩ := passed_guard checked
  obtain ⟨-, checked⟩ := passed_guard checked
  obtain ⟨issues, checked⟩ := passed_guard checked
  cases checked
  have none_found := not_not.mp issues
  unfold validateAgentCard at none_found
  obtain ⟨size, record⟩ := List.append_eq_nil_iff.mp none_found
  unfold checkSize at size
  have within := expect_eq_nil_iff.mp size
  rw [Bool.and_eq_true, decide_eq_true_eq, decide_eq_true_eq] at within
  refine ⟨rfl, not_not.mp runtime, not_not.mp room, le_trans within.2 (min_le_right _ _), ?_, record⟩
  rw [Bool.not_eq_true', Bool.not_eq_false] at identity
  exact identity

/-- The card a publication writes, and its file. -/
theorem publishCurrentCard_ok {registry : AgentCardRegistry} {clock : ℚ} {directory written : Directory}
    {card : AgentCard} (published : publishCurrentCard host registry clock directory = .ok (card, written)) :
    Checked host registry card ∧
      written.get? (cardFileName registry.runtimeId.val) = some (.ofText card.toJson.stringify) := by
  unfold publishCurrentCard at published
  obtain ⟨-, published⟩ := passed_guard published
  cases built : buildCard host registry clock with
  | error thrown => rw [built] at published; cases published
  | ok made =>
    rw [built] at published
    cases checked : checkCard host registry made with
    | error thrown =>
      change (checkCard host registry made >>= _) = _ at published
      rw [checked] at published
      cases published
    | ok serialized =>
      change (checkCard host registry made >>= _) = _ at published
      rw [checked] at published
      cases published
      obtain ⟨rfl, passed⟩ := checkCard_ok checked
      exact ⟨passed, JsMap.get?_set_self⟩

/-- A publication that succeeded: of the registry as it is, or with new metadata. -/
inductive Published (host : Host) : AgentCardRegistry → AgentCard → Directory → Prop
  | current {registry : AgentCardRegistry} {clock : ℚ} {directory written : Directory} {card : AgentCard}
      (done : publishCurrentCard host registry clock directory = .ok (card, written)) :
      Published host registry card written
  | updated {registry patched : AgentCardRegistry} {patch : AgentCardMetadataPatch} {clock : ℚ}
      {directory written : Directory} {card : AgentCard}
      (done : updateMetadata host registry patch clock directory = .ok (patched, card, written)) :
      Published host patched card written

theorem Published.spec {registry : AgentCardRegistry} {card : AgentCard} {written : Directory}
    (published : Published host registry card written) : Checked host registry card ∧
      written.get? (cardFileName registry.runtimeId.val) = some (.ofText card.toJson.stringify) := by
  cases published with
  | current done => exact publishCurrentCard_ok done
  | @updated registry _ patch clock directory _ _ done =>
    unfold updateMetadata at done
    obtain ⟨-, done⟩ := passed_guard done
    obtain ⟨-, done⟩ := passed_guard done
    cases outcome : publishCurrentCard host { registry with
        metadata := patchMetadata registry.runtimeId registry.metadata patch } clock directory with
    | error thrown =>
      change (publishCurrentCard host _ clock directory >>= _) = _ at done
      rw [outcome] at done
      cases done
    | ok result =>
      change (publishCurrentCard host _ clock directory >>= _) = _ at done
      rw [outcome] at done
      cases done
      exact publishCurrentCard_ok outcome

end Publication
section Reading

variable {host : Host} {N : NumberHost}

theorem runtimeOfFile_eq_some_iff {fileName runtimeInstanceId : JsString} :
    runtimeOfFile fileName = some runtimeInstanceId ↔ fileName = cardFileName runtimeInstanceId := by
  have ending : (JsString.ofString ".json").units.length = 5 := by decide
  unfold runtimeOfFile cardFileName
  constructor
  · intro stripped
    split at stripped
    · rename_i suffix
      cases stripped
      obtain ⟨front, shape⟩ := List.isSuffixOf_iff_suffix.mp suffix
      have length : fileName.length - 5 = front.length := by
        unfold JsString.length
        rw [← shape, List.length_append, ending]
        omega
      apply jsString_ext
      rw [append_units, length]
      show _ = fileName.units.take front.length ++ _
      rw [← shape, List.take_left]
    · cases stripped
  · rintro rfl
    have suffix : (JsString.ofString ".json").units.isSuffixOf
        (runtimeInstanceId ++ ".json" : JsString).units = true :=
      List.isSuffixOf_iff_suffix.mpr ⟨_, rfl⟩
    rw [if_pos suffix]
    congr 1
    apply jsString_ext
    have length : (runtimeInstanceId ++ ".json" : JsString).length - 5 = runtimeInstanceId.units.length := by
      unfold JsString.length
      rw [append_units, List.length_append, ending]
      omega
    show List.take _ (runtimeInstanceId ++ ".json" : JsString).units = _
    rw [length, append_units, List.take_left]

theorem uuid_units {value : JsString} (uuid : isUuid value = true) : (0x2e : UInt16) ∉ value.units := by
  intro dot
  unfold isUuid at uuid
  rw [Bool.and_eq_true, List.all_eq_true] at uuid
  obtain ⟨i, bound, found⟩ := List.getElem_of_mem dot
  have digit := uuid.2 (0x2e, i) (List.mem_zipIdx_iff_getElem?.mpr
    (List.getElem?_eq_some_iff.mpr ⟨bound, found⟩))
  dsimp only at digit
  split at digit
  · cases digit
  · split at digit
    · cases digit
    · split at digit
      · cases digit
      · cases digit

/-- The file of a runtime is no temporary one: its only dot is that of the ending. -/
theorem cardFileName_final (runtimeId : RuntimeId) : isTemporaryName (cardFileName runtimeId.val) = false := by
  have noDot := uuid_units runtimeId.property
  unfold isTemporaryName cardFileName
  rw [append_units, List.any_eq_false]
  intro rest tail starts
  obtain ⟨after, rfl⟩ := List.isPrefixOf_iff_prefix.mp starts
  have json : (JsString.ofString ".json").units = [0x2e, 0x6a, 0x73, 0x6f, 0x6e] := by decide
  have temporary : (JsString.ofString ".tmp-").units = [0x2e, 0x74, 0x6d, 0x70, 0x2d] := by decide
  obtain ⟨front, same⟩ := (List.mem_tails _ _).mp tail
  rw [json, temporary] at same
  rcases List.append_eq_append_iff.mp same with ⟨more, inside, ending⟩ | ⟨more, _, ending⟩
  · cases more with
    | nil => cases ending
    | cons u others =>
      rw [List.cons_append, List.cons_append] at ending
      rw [inside, ← (List.cons.inj ending).1] at noDot
      exact noDot (List.mem_append_right _ List.mem_cons_self)
  · have length := congrArg List.length ending
    rw [List.length_append, List.length_append] at length
    have nothing : more = [] := List.length_eq_zero_iff.mp (by simp at length; omega)
    subst nothing
    cases ending

theorem asString?_eq_some_iff {value : Json} {text : JsString} :
    value.asString? = some text ↔ value = .string text := by
  cases value <;> simp [Json.asString?]

theorem ofJson?_runtime {value : Json} {card : AgentCard} (read : AgentCard.ofJson? value = some card) :
    value.get? "runtimeInstanceId" = some (.string card.runtimeInstanceId) := by
  unfold AgentCard.ofJson? at read
  obtain ⟨_, -, read⟩ := Option.bind_eq_some_iff.mp read
  obtain ⟨_, -, read⟩ := Option.bind_eq_some_iff.mp read
  obtain ⟨runtimeInstanceId, found, read⟩ := Option.bind_eq_some_iff.mp read
  obtain ⟨_, -, read⟩ := Option.bind_eq_some_iff.mp read
  obtain ⟨_, -, read⟩ := Option.bind_eq_some_iff.mp read
  obtain ⟨_, -, read⟩ := Option.bind_eq_some_iff.mp read
  obtain ⟨_, -, read⟩ := Option.bind_eq_some_iff.mp read
  obtain ⟨_, -, read⟩ := Option.bind_eq_some_iff.mp read
  obtain ⟨_, -, read⟩ := Option.bind_eq_some_iff.mp read
  obtain ⟨_, -, read⟩ := Option.bind_eq_some_iff.mp read
  obtain ⟨_, -, read⟩ := Option.bind_eq_some_iff.mp read
  obtain ⟨_, -, read⟩ := Option.bind_eq_some_iff.mp read
  obtain ⟨_, -, read⟩ := Option.bind_eq_some_iff.mp read
  obtain ⟨_, -, read⟩ := Option.bind_eq_some_iff.mp read
  obtain ⟨_, -, read⟩ := Option.bind_eq_some_iff.mp read
  obtain ⟨_, -, read⟩ := Option.bind_eq_some_iff.mp read
  obtain ⟨_, -, read⟩ := Option.bind_eq_some_iff.mp read
  cases read
  obtain ⟨value, found, text⟩ := Option.bind_eq_some_iff.mp found
  rw [found, asString?_eq_some_iff.mp text]

theorem validateAgentCard_eq_nil_iff {options : AgentCardValidationOptions} {input : Json} :
    validateAgentCard host options input = [] ↔ checkSize input options.maxCardSizeBytes = [] ∧
      input.isRecord = true ∧ recordIssues host options input = [] := by
  unfold validateAgentCard
  rw [List.append_eq_nil_iff]
  cases input.isRecord with
  | true => simp
  | false => simp

/-- The checks a runtime makes of a card it reads. -/
def readOptions (roomId : RoomId) (now : Nat) (fileName runtimeInstanceId : JsString) :
    AgentCardValidationOptions where
  requireUnexpired := some now
  expectedRoomId := some roomId.val
  expectedRuntimeInstanceId := some runtimeInstanceId
  expectedRecordFileName := some fileName
  maxCardSizeBytes := some maxAgentCardSizeBytes

theorem readCandidate_eq_some_iff {roomId : RoomId} {directory : Directory} {now : Nat}
    {fileName : JsString} {card : AgentCard} :
    readCandidate host N roomId directory now fileName = some card ↔
      ∃ runtimeInstanceId file source decoded, runtimeOfFile fileName = some runtimeInstanceId ∧
        isSafeRuntimeInstanceId runtimeInstanceId = true ∧ directory.get? fileName = some file ∧
        file.size ≤ maxAgentCardSizeBytes ∧ file.text = some source ∧
        source.byteLength ≤ maxAgentCardSizeBytes ∧ Json.parse N source = some decoded ∧
        validateAgentCard host (readOptions roomId now fileName runtimeInstanceId) decoded = [] ∧
        AgentCard.ofJson? decoded = some card := by
  unfold readCandidate readOptions
  simp only [Option.bind_eq_bind, Option.bind_eq_some_iff, Option.guard_eq_some', exists_const,
    exists_and_left]

/-- A file read for a card gives the card of the runtime it is named for. -/
theorem readCandidate_runtime {roomId : RoomId} {directory : Directory} {now : Nat} {fileName : JsString}
    {card : AgentCard} (read : readCandidate host N roomId directory now fileName = some card) :
    fileName = cardFileName card.runtimeInstanceId := by
  obtain ⟨runtimeInstanceId, _, _, decoded, named, -, -, -, -, -, -, valid, read⟩ :=
    readCandidate_eq_some_iff.mp read
  obtain ⟨-, -, issues⟩ := validateAgentCard_eq_nil_iff.mp valid
  unfold recordIssues at issues
  simp only [List.append_eq_nil_iff, and_assoc] at issues
  obtain ⟨-, -, -, -, -, -, expected, -⟩ := issues
  change expect (decoded.get? "runtimeInstanceId" == some (.string runtimeInstanceId)) _ _ _ = [] at expected
  have same := beq_iff_eq.mp (expect_eq_nil_iff.mp expected)
  rw [ofJson?_runtime read] at same
  cases same
  exact runtimeOfFile_eq_some_iff.mp named

/-- The text of a card is written as it is. -/
theorem ofText_stringify (card : AgentCard) : CardFile.ofText card.toJson.stringify =
    { text := some card.toJson.stringify, size := card.toJson.stringify.byteLength } := by
  obtain ⟨u, rest, written, head⟩ := Json.stringify_head card.toJson
  have noMark : u ≠ 0xfeff := by
    rintro rfl
    revert head
    decide
  unfold CardFile.ofText
  rw [JsString.toWellFormed_of_isWellFormed (Json.isWellFormed_stringify _), written]
  split
  · rename_i same
    exact absurd (List.cons.inj same).1 noMark
  · rw [← written]

/-- The directory holds the file a publication wrote. -/
def Holds (directory : Directory) (registry : AgentCardRegistry) (card : AgentCard) : Prop :=
  directory.get? (cardFileName registry.runtimeId.val) = some (.ofText card.toJson.stringify)

variable {registry : AgentCardRegistry} {card : AgentCard} {directory : Directory} {now : Nat}

theorem parseTimestamp_ok {value : Option Json} {path : JsString} {time : Int}
    (parsed : parseTimestamp host value path = .ok time) :
    ∃ text, value.bind Json.asString? = some text ∧ Date.parse host text = some time := by
  unfold parseTimestamp at parsed
  cases given : value.bind Json.asString? with
  | none => rw [given] at parsed; cases parsed
  | some text =>
    rw [given] at parsed
    refine ⟨text, rfl, ?_⟩
    dsimp only at parsed
    split at parsed
    · cases parsed
    · cases date : Date.parse host text with
      | none => rw [date] at parsed; cases parsed
      | some found =>
        rw [date] at parsed
        dsimp only at parsed
        split at parsed
        · cases parsed
        · cases parsed
          rfl

/-- The end of the lease of a card that is written. -/
theorem Checked.expires (checked : Checked host registry card) : ∃ expiry,
    Date.parse host card.leaseExpiresAt = some expiry ∧
      parseTimestamp host (card.toJson.get? "leaseExpiresAt") "leaseExpiresAt" = .ok expiry := by
  have record := checked.record
  unfold recordIssues at record
  simp only [List.append_eq_nil_iff, and_assoc] at record
  obtain ⟨-, -, -, -, -, -, -, -, -, -, -, -, -, -, -, -, -, -, -, -, expires, -⟩ := record
  cases parsed : parseTimestamp host (card.toJson.get? "leaseExpiresAt") "leaseExpiresAt" with
  | error issue => rw [parsed] at expires; cases expires
  | ok expiry =>
    obtain ⟨text, given, date⟩ := parseTimestamp_ok parsed
    cases given
    exact ⟨expiry, date, rfl⟩

/-- The file of a card gives this card, but for the sign of a zero. -/
theorem readCandidate_published (checked : Checked host registry card)
    (holds : Holds directory registry card) {found : AgentCard}
    (read : readCandidate host N registry.roomId directory now (cardFileName registry.runtimeId.val) =
      some found) : found = card.readBack := by
  obtain ⟨_, file, source, decoded, -, -, entry, -, text, -, parsed, -, read⟩ :=
    readCandidate_eq_some_iff.mp read
  rw [holds] at entry
  cases entry
  rw [ofText_stringify] at text
  cases text
  rw [Json.parse_stringify (plain_toJson (numbers_safe checked.record)), readBack_toJson] at parsed
  cases parsed
  rw [AgentCard.ofJson?_toJson] at read
  cases read
  rfl

/-- A live card without a negative zero is read from its file. -/
theorem readCandidate_live (checked : Checked host registry card) (holds : Holds directory registry card)
    {expiry : Int} (expires : Date.parse host card.leaseExpiresAt = some expiry) (live : (now : ℚ) < expiry)
    (same : card.readBack = card) :
    readCandidate host N registry.roomId directory now (cardFileName registry.runtimeId.val) = some card := by
  obtain ⟨_, date, expiresAt⟩ := checked.expires
  rw [date] at expires
  cases expires
  rw [readCandidate_eq_some_iff]
  refine ⟨registry.runtimeId.val, _, card.toJson.stringify, card.toJson,
    runtimeOfFile_eq_some_iff.mpr rfl, checked.identity, holds, ?_, ?_, checked.size, ?_, ?_,
    AgentCard.ofJson?_toJson card⟩
  · rw [ofText_stringify]
    exact checked.size
  · rw [ofText_stringify]
  · rw [Json.parse_stringify (plain_toJson (numbers_safe checked.record)), readBack_toJson, same]
  · rw [validateAgentCard_eq_nil_iff]
    refine ⟨?_, rfl, ?_⟩
    · unfold checkSize
      rw [expect_eq_nil_iff, Bool.and_eq_true, decide_eq_true_eq, decide_eq_true_eq]
      exact ⟨(by decide : 1 ≤ min maxAgentCardSizeBytes maxAgentCardSizeBytes), checked.size⟩
    · have record := @recordIssues_live host _ card.toJson now expiry (some maxAgentCardSizeBytes)
        checked.record expiresAt live
      exact record

end Reading

section Listing

/-- Of a list read name by name, what only one name can give. -/
theorem filter_filterMap_only {α β : Type} {names : List α} (nodup : names.Nodup) {read : α → Option β}
    {p : β → Bool} {own : α} (member : own ∈ names)
    (elsewhere : ∀ name value, read name = some value → p value = true → name = own)
    (here : ∀ value, read own = some value → p value = true) :
    (names.filterMap read).filter p = (read own).toList := by
  have away : ∀ rest : List α, own ∉ rest → (rest.filterMap read).filter p = [] := by
    intro rest absent
    rw [List.filter_eq_nil_iff]
    intro value listed held
    obtain ⟨name, among, found⟩ := List.mem_filterMap.mp listed
    rw [elsewhere name value found held] at among
    exact absent among
  induction names with
  | nil => cases member
  | cons name rest ih =>
    rw [List.nodup_cons] at nodup
    by_cases same : name = own
    · subst same
      cases found : read name with
      | none => rw [List.filterMap_cons_none found, away rest nodup.1]; rfl
      | some value =>
        rw [List.filterMap_cons_some found, List.filter_cons_of_pos (here value found), away rest nodup.1]
        rfl
    · have later : own ∈ rest := (List.mem_cons.mp member).resolve_left (Ne.symm same)
      cases found : read name with
      | none => rw [List.filterMap_cons_none found, ih nodup.2 later]
      | some value =>
        have other : p value ≠ true := fun held => same (elsewhere name value found held)
        rw [List.filterMap_cons_some found, List.filter_cons_of_neg other, ih nodup.2 later]

variable {H : NameHost} {host : Host} {N : NumberHost} {registry : AgentCardRegistry} {card : AgentCard}
  {directory : Directory}

theorem finalCardNames_nodup (directory : Directory) : (finalCardNames directory).Nodup := by
  unfold finalCardNames
  rw [(List.mergeSort_perm _ _).nodup_iff]
  exact (directory.distinct.sublist (List.take_sublist _ _)).filter _

/-- A directory that is read whole lists the file of a card. -/
theorem mem_finalCardNames (runtimeId : RuntimeId) (held : (directory.get? (cardFileName runtimeId.val)).isSome)
    (entries : directory.size ≤ maxScanEntries) : cardFileName runtimeId.val ∈ finalCardNames directory := by
  unfold finalCardNames
  have whole : directory.keys.take maxScanEntries = directory.keys := by
    rw [List.take_eq_self_iff]
    unfold JsMap.keys
    rw [List.length_map]
    exact entries
  rw [List.mem_mergeSort, List.mem_filter, whole]
  refine ⟨JsMap.get?_isSome_iff.mp held, ?_⟩
  rw [runtimeOfFile_eq_some_iff.mpr rfl, cardFileName_final]
  rfl

/-- The cards of a runtime that published are what its file gives. -/
theorem listed_published (checked : Checked host registry card) (holds : Holds directory registry card)
    (entries : directory.size ≤ maxScanEntries) (now : Nat) :
    ((finalCardNames directory).filterMap (readCandidate host N registry.roomId directory now)).filter
        (fun found => found.runtimeInstanceId = card.runtimeInstanceId) =
      (readCandidate host N registry.roomId directory now (cardFileName registry.runtimeId.val)).toList := by
  apply filter_filterMap_only (finalCardNames_nodup directory)
  · apply mem_finalCardNames _ _ entries
    rw [holds]
    rfl
  · intro name found read same
    rw [readCandidate_runtime read, of_decide_eq_true same, checked.runtime]
  · intro found read
    rw [readCandidate_published checked holds read]
    exact decide_eq_true rfl

/-- A card makes a peer just when its display name makes a network name. -/
theorem peerFromCard_isSome (checked : Checked host registry card) :
    (peerFromCard H card).toOption.isSome = true ↔ ∃ base name, displayBase H card.displayName = .ok base ∧
      asNormalizedName H.toUnicode base = .ok name := by
  have made : peerFromCard H card = (displayBase H card.displayName).bind fun base =>
      (buildNetworkName H base registry.runtimeId).bind fun networkName =>
        .ok { runtimeId := registry.runtimeId, roomId := registry.roomId, networkName, card } := by
    unfold peerFromCard
    rw [checked.runtime, checked.room, Lookup.asRuntimeId_val, Lookup.asRoomId_val]
    rfl
  rw [made]
  cases base : displayBase H card.displayName with
  | error thrown =>
    constructor
    · exact nofun
    · rintro ⟨_, _, ⟨⟩, _⟩
  | ok text =>
    cases name : asNormalizedName H.toUnicode text with
    | error message =>
      have failed : buildNetworkName H text registry.runtimeId = .error (.invalidProjectLabel message) := by
        unfold buildNetworkName normalizedName
        rw [name]
        rfl
      rw [Except.bind, failed]
      constructor
      · exact nofun
      · rintro ⟨_, _, ⟨⟩, given⟩
        rw [name] at given
        cases given
    | ok label =>
      have named : buildNetworkName H text registry.runtimeId =
          .ok (label ++ JsString.hyphen ++ H.runtimeNameSuffix registry.runtimeId.val) := by
        unfold buildNetworkName normalizedName
        rw [name]
        rfl
      rw [Except.bind, named]
      exact ⟨fun _ => ⟨text, label, rfl, name⟩, fun _ => rfl⟩

/-- A peer is of the runtime, the room and the card it is made of. -/
theorem peerFromCard_ok {peer : AgentCardPeerRecord} (made : peerFromCard H card = .ok peer) :
    peer.runtimeId.val = card.runtimeInstanceId ∧ peer.roomId.val = card.roomId ∧ peer.card = card := by
  unfold peerFromCard at made
  cases runtime : asRuntimeId card.runtimeInstanceId with
  | error thrown => rw [runtime] at made; cases made
  | ok runtimeId =>
    cases room : asRoomId card.roomId with
    | error thrown => rw [runtime, room] at made; cases made
    | ok roomId =>
      rw [runtime, room] at made
      cases base : displayBase H card.displayName with
      | error thrown => rw [base] at made; cases made
      | ok text =>
        rw [base] at made
        cases name : buildNetworkName H text runtimeId with
        | error thrown =>
          change (buildNetworkName H text runtimeId >>= _) = _ at made
          rw [name] at made
          cases made
        | ok networkName =>
          change (buildNetworkName H text runtimeId >>= _) = _ at made
          rw [name] at made
          cases made
          unfold asRuntimeId at runtime
          unfold asRoomId at room
          refine ⟨?_, ?_, rfl⟩
          · split at runtime
            · cases runtime
              rfl
            · cases runtime
          · split at room
            · cases room
              rfl
            · cases room

/-- The endpoint of a card that is written is of its runtime. -/
theorem Checked.endpoint (checked : Checked host registry card) :
    card.endpoint.runtimeInstanceId = card.runtimeInstanceId := by
  have record := checked.record
  unfold recordIssues at record
  simp only [List.append_eq_nil_iff, and_assoc] at record
  obtain ⟨-, -, -, -, -, -, -, -, -, -, -, -, -, -, -, -, -, -, endpoint, -⟩ := record
  change (_ ++ (expect _ _ _ _ ++ (expect _ _ _ _ ++ validateEndpointOwner card.endpoint.toJson
    (some (.string card.runtimeInstanceId))))) = [] at endpoint
  simp only [List.append_eq_nil_iff] at endpoint
  obtain ⟨-, -, -, owner⟩ := endpoint
  unfold validateEndpointOwner at owner
  split at owner
  · cases owner
  · have same := beq_iff_eq.mp (expect_eq_nil_iff.mp owner)
    exact Json.string.inj (Option.some.inj same)

theorem length_filterMap_singleton {α β : Type} {f : α → Option β} {x : α} :
    ([x].filterMap f).length = 1 ↔ (f x).isSome = true := by
  cases made : f x <;> simp [made]

theorem nowValue_ok {now : ℚ} {time : Nat} (read : nowValue now = .ok time) :
    (now.isInt ∧ 0 ≤ now ∧ now ≤ JsNumber.maxSafeInteger) ∧ (time : ℚ) = now := by
  unfold nowValue at read
  split at read
  · rename_i safe
    cases read
    refine ⟨safe, ?_⟩
    have whole : now.den = 1 := by simpa [Rat.isInt] using safe.1
    have floor : now.floor = now.num := by
      unfold Rat.floor
      rw [if_pos whole]
    have natural : ((now.num.toNat : Int) : ℚ) = now := by
      rw [Int.toNat_of_nonneg (Rat.num_nonneg.mpr safe.2.1)]
      exact (Rat.den_eq_one_iff now).mp whole
    rw [floor]
    exact_mod_cast natural
  · cases read

/-- What a reader of the room finds of a card: the card itself, one peer for its runtime,
and that peer for the sender of what the runtime says. -/
def Discoverable (H : NameHost) (host : Host) (N : NumberHost) (roomId : RoomId) (directory : Directory)
    (now : ℚ) (card : AgentCard) : Prop :=
  ∃ cards peers, listLiveAgentCards host N roomId directory now = .ok cards ∧
    listLiveAgentCardPeers H host N roomId directory now = .ok peers ∧
    cards.filter (fun found => found.runtimeInstanceId = card.runtimeInstanceId) = [card] ∧
    (peers.filter fun peer => peer.runtimeId.val = card.runtimeInstanceId).length = 1 ∧
    (senderOf peers card.runtimeInstanceId card.sessionId card.roomId).isSome = true

/-- The peers of a runtime are made of its cards. -/
theorem filter_peers (cards : List AgentCard) (runtime : JsString) :
    (cards.filterMap fun found => (peerFromCard H found).toOption).filter
        (fun peer => peer.runtimeId.val = runtime) =
      (cards.filter fun found => found.runtimeInstanceId = runtime).filterMap
        fun found => (peerFromCard H found).toOption := by
  rw [List.filter_filterMap, List.filterMap_filter]
  congr 1
  funext found
  cases made : peerFromCard H found with
  | error thrown =>
    rw [Except.toOption]
    split <;> rfl
  | ok peer =>
    have runtimeId := (peerFromCard_ok made).1
    rw [Except.toOption, ← runtimeId]
    rfl

theorem Discoverable.peer {roomId : RoomId} {now : ℚ}
    (found : Discoverable H host N roomId directory now card) :
    (peerFromCard H card).toOption.isSome = true := by
  obtain ⟨cards, peers, listed, made, only, alone, -⟩ := found
  unfold listLiveAgentCardPeers at made
  rw [listed] at made
  cases made
  rw [filter_peers, only] at alone
  exact length_filterMap_singleton.mp alone

/-- A card that is published is found until its lease expires just when its name makes a
network name, no number of it is `-0`, and the clock reads a time. -/
theorem published_discoverable {written : Directory} (published : Published host registry card written)
    (kept : directory.get? (cardFileName registry.runtimeId.val) =
      written.get? (cardFileName registry.runtimeId.val))
    (entries : directory.size ≤ maxScanEntries) {now : ℚ} {expiry : Int}
    (expires : Date.parse host card.leaseExpiresAt = some expiry) (live : now < expiry) :
    Discoverable H host N registry.roomId directory now card ↔
      (∃ base name, displayBase H card.displayName = .ok base ∧
        asNormalizedName H.toUnicode base = .ok name) ∧
      (∀ n ∈ card.numbers, n.isNegativeZero = false) ∧
      now.isInt ∧ 0 ≤ now ∧ now ≤ JsNumber.maxSafeInteger := by
  obtain ⟨checked, file⟩ := published.spec
  have holds : Holds directory registry card := kept.trans file
  rw [← peerFromCard_isSome checked, ← AgentCard.readBack_eq_iff]
  cases clock : nowValue now with
  | error thrown =>
    constructor
    · rintro ⟨_, _, listed, _⟩
      unfold listLiveAgentCards at listed
      rw [clock] at listed
      cases listed
    · rintro ⟨-, -, safe⟩
      unfold nowValue at clock
      rw [if_pos safe] at clock
      cases clock
  | ok time =>
    obtain ⟨safe, same⟩ := nowValue_ok clock
    have listed := @listed_published host N _ _ _ checked holds entries time
    constructor
    · intro discoverable
      refine ⟨discoverable.peer, ?_, safe⟩
      obtain ⟨cards, _, shown, -, found, -⟩ := discoverable
      unfold listLiveAgentCards at shown
      rw [clock] at shown
      cases shown
      rw [listed] at found
      have read : readCandidate host N registry.roomId directory time
          (cardFileName registry.runtimeId.val) = some card :=
        Option.toList_eq_singleton_iff.mp found
      exact (readCandidate_published checked holds read).symm
    · rintro ⟨named, unsigned, -⟩
      rw [← same] at live
      have read := @readCandidate_live host N _ _ _ _ checked holds _ expires live unsigned
      obtain ⟨peer, made⟩ := Option.isSome_iff_exists.mp named
      unfold Discoverable listLiveAgentCardPeers listLiveAgentCards
      rw [clock]
      refine ⟨_, _, rfl, rfl, ?_, ?_, ?_⟩
      · rw [listed, read]
        rfl
      · rw [filter_peers, listed, read]
        exact length_filterMap_singleton.mpr named
      · unfold senderOf
        rw [List.find?_isSome]
        have own : peerFromCard H card = .ok peer := by
          cases outcome : peerFromCard H card with
          | error thrown => rw [outcome] at made; cases made
          | ok other => rw [outcome] at made; cases made; rfl
        obtain ⟨runtimeId, roomId, ofCard⟩ := peerFromCard_ok own
        refine ⟨peer, List.mem_filterMap.mpr ⟨card, ?_, made⟩, ?_⟩
        · have among : card ∈ (readCandidate host N registry.roomId directory time
              (cardFileName registry.runtimeId.val)).toList := by
            rw [read]
            exact List.mem_singleton.mpr rfl
          rw [← listed] at among
          exact (List.mem_filter.mp among).1
        · rw [runtimeId, roomId, ofCard, checked.endpoint]
          simp

end Listing

section Example

open Lookup (firstRuntime someRoom digests)

/-- A host that reads no other dates than those it writes. -/
def isoHost : Host where
  parseOther _ := none

/-- No number is read otherwise. -/
def exactHost : NumberHost where
  nearest := some
  nearest_safe := some_safe

/-- A registry as a runtime of some name starts it. -/
def startedRegistry (displayName : JsString) : AgentCardRegistry where
  roomId := someRoom
  runtimeId := firstRuntime
  sessionId := "session-1"
  ttlMs := 60000
  maxCardBytes := maxAgentCardSizeBytes
  runtimeStartedAt := "2026-01-01T00:00:00.000Z"
  metadata := {
    protocolVersion := .ofNat 1
    displayName
    purpose := none
    workingDirectoryLabel := none
    roleTags := []
    model := none
    capabilities := {
      structuredReplies := true
      cancellation := true
      statusUpdates := true
      maxMessageSize := .ofNat 65536
      supportedContentTypes := ["text/plain"] }
    state := .idle
    contextUsage := none
    inboundQueueDepth := .ofNat 0
    endpointKind := .unix
    endpointAddress := "/run/pi/agent.sock" }
  shutdownRequested := false
  leaseStopped := false

/-- What is published at the start of the year. -/
def startedPublication (displayName : JsString) : Except RegistryError (AgentCard × Directory) :=
  publishCurrentCard isoHost (startedRegistry displayName) 1767225600000 ∅

/-- What the published card says, and the entries of the directory. -/
def saidOf (published : Except RegistryError (AgentCard × Directory)) :
    Option (JsString × JsString × List JsNumber × Nat) :=
  published.toOption.map fun (card, written) =>
    (card.displayName, card.leaseExpiresAt, card.numbers, written.size)

theorem saidOf_some {published : Except RegistryError (AgentCard × Directory)}
    {displayName leaseExpiresAt : JsString} {numbers : List JsNumber} {size : Nat}
    (said : saidOf published = some (displayName, leaseExpiresAt, numbers, size)) :
    ∃ card written, published = .ok (card, written) ∧ card.displayName = displayName ∧
      card.leaseExpiresAt = leaseExpiresAt ∧ card.numbers = numbers ∧ written.size = size := by
  cases published with
  | error thrown => cases said
  | ok result =>
    obtain ⟨card, written⟩ := result
    cases said
    exact ⟨card, written, rfl, rfl, rfl, rfl, rfl⟩

theorem alpha_said : saidOf (startedPublication "Alpha") =
    some (("Alpha" : JsString), ("2026-01-01T00:01:00.000Z" : JsString),
      [JsNumber.ofNat 1, JsNumber.ofNat 65536, JsNumber.ofNat 0], 1) := by
  decide +kernel

theorem punctuation_said : saidOf (startedPublication "!!!") =
    some (("!!!" : JsString), ("2026-01-01T00:01:00.000Z" : JsString),
      [JsNumber.ofNat 1, JsNumber.ofNat 65536, JsNumber.ofNat 0], 1) := by
  decide +kernel

/-- The runtime that publishes "Alpha" is found a second later. -/
theorem alpha_discoverable : ∃ card written, Published isoHost (startedRegistry "Alpha") card written ∧
    Discoverable (plainHost digests) isoHost exactHost someRoom written 1767225601000 card := by
  obtain ⟨card, written, done, name, expires, numbers, size⟩ := saidOf_some alpha_said
  have published : Published isoHost (startedRegistry "Alpha") card written := .current done
  have date : Date.parse isoHost card.leaseExpiresAt = some 1767225660000 := by
    rw [expires]
    decide +kernel
  refine ⟨card, written, published, (published_discoverable published rfl (by rw [size]; decide) date
    (by norm_num)).mpr ⟨⟨"Alpha", "alpha", ?_, by decide +kernel⟩, ?_, by decide +kernel⟩⟩
  · rw [name]
    decide +kernel
  · rw [numbers]
    decide +kernel

/-- The runtime that publishes "!!!" is never found. -/
theorem punctuation_undiscovered : ∃ card written,
    Published isoHost (startedRegistry "!!!") card written ∧ written.size ≤ maxScanEntries ∧
      Date.parse isoHost card.leaseExpiresAt = some 1767225660000 ∧
      ¬Discoverable (plainHost digests) isoHost exactHost someRoom written 1767225601000 card := by
  obtain ⟨card, written, done, name, expires, -, size⟩ := saidOf_some punctuation_said
  have published : Published isoHost (startedRegistry "!!!") card written := .current done
  refine ⟨card, written, published, by rw [size]; decide, by rw [expires]; decide +kernel, ?_⟩
  intro found
  obtain ⟨base, label, display, normal⟩ := (peerFromCard_isSome published.spec.1).mp found.peer
  have same : displayBase (plainHost digests) "!!!" = .ok "!!!" := by decide +kernel
  rw [name, same] at display
  cases display
  have unnamed : (asNormalizedName (plainHost digests).toUnicode "!!!").toOption = none := by decide +kernel
  rw [normal] at unnamed
  cases unnamed

end Example
end CardRegistry
end PiToPi
