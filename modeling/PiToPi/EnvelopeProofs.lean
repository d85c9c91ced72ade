import PiToPi.SchemaMeaningProofs
import PiToPi.Envelope

/-!
The fingerprint of an operation against equality of values (`canonical_faithful`): canonical
text, the comparison of the validator and the fingerprint tell the same values apart.
-/
namespace PiToPi.Validation

section Projection

theorem get?_projectMembers (keys : List JsString) (value : Json) (key : JsString) :
    (Json.record (projectMembers keys value)).get? key = if key ∈ keys then value.get? key else none := by
  induction keys with
  | nil => rfl
  | cons first rest ih =>
    unfold projectMembers at ih ⊢
    cases found : value.get? first with
    | none =>
      rw [List.filterMap_cons_none (by rw [found]; rfl), ih]
      by_cases same : key = first
      · subst same
        rw [found, if_pos List.mem_cons_self, ite_self]
      · simp only [List.mem_cons, or_iff_right same]
    | some member =>
      rw [List.filterMap_cons_some (by rw [found]; rfl), Json.get?_cons, ih]
      by_cases same : key = first
      · subst same
        rw [if_pos rfl, if_pos List.mem_cons_self, found]
      · simp only [if_neg (Ne.symm same), List.mem_cons, or_iff_right same]

theorem get?_map_members (members : List (JsString × Json)) (change : JsString → Json → Json) (key : JsString) :
    (Json.record (members.map fun member => (member.1, change member.1 member.2))).get? key =
      ((Json.record members).get? key).map (change key) := by
  induction members with
  | nil => rfl
  | cons member rest ih =>
    rw [List.map_cons, Json.get?_cons, Json.get?_cons, ih]
    by_cases same : member.1 = key
    · rw [if_pos same, if_pos same, same, Option.map_some]
    · rw [if_neg same, if_neg same]

/-- What is projected of the member under a key. -/
def projected (key : JsString) (member : Json) : Json :=
  if key = "sender" then .record (projectMembers ["sessionId", "runtimeId"] member) else member

theorem fingerprintData_eq (envelope : Json) : fingerprintData envelope =
    .record ((projectMembers projectedFields envelope).map fun member => (member.1, projected member.1 member.2)) := by
  refine congrArg Json.record (List.map_congr_left fun member _ => ?_)
  obtain ⟨key, value⟩ := member
  exact (apply_ite (Prod.mk key) _ _ _).symm

theorem get?_fingerprintData (envelope : Json) (key : JsString) :
    (fingerprintData envelope).get? key =
      if key ∈ projectedFields then (envelope.get? key).map (projected key) else none := by
  rw [fingerprintData_eq, get?_map_members, get?_projectMembers]
  split
  · rfl
  · rfl

theorem keys_projectMembers (keys : List JsString) (value : Json) :
    ((projectMembers keys value).map Prod.fst).Sublist keys := by
  induction keys with
  | nil => exact List.Sublist.slnil
  | cons key rest ih =>
    unfold projectMembers at ih ⊢
    cases found : value.get? key with
    | none =>
      rw [List.filterMap_cons_none (by rw [found]; rfl)]
      exact ih.cons key
    | some member =>
      rw [List.filterMap_cons_some (by rw [found]; rfl), List.map_cons]
      exact ih.cons_cons key

theorem isJsonData_get? {value member : Json} {key : JsString} (data : isJsonData value = true)
    (found : value.get? key = some member) : isJsonData member = true :=
  isJsonData_part data (Part.get? .whole found)

/-- Members projected from data are data. -/
theorem isJsonData_projectMembers {keys : List JsString} {value : Json} (nodup : keys.Nodup)
    (data : isJsonData value = true) : isJsonData (.record (projectMembers keys value)) = true := by
  refine isJsonData_object.mpr ⟨rfl, (keys_projectMembers keys value).nodup nodup, fun member listed => ?_⟩
  obtain ⟨key, _, found⟩ := List.mem_filterMap.mp listed
  obtain ⟨stored, here, rfl⟩ := Option.map_eq_some_iff.mp found
  exact isJsonData_get? data here

theorem isJsonData_fingerprintData {envelope : Json} (data : isJsonData envelope = true) :
    isJsonData (fingerprintData envelope) = true := by
  obtain ⟨-, nodup, each⟩ := isJsonData_object.mp
    (isJsonData_projectMembers (by decide : projectedFields.Nodup) data)
  rw [fingerprintData_eq]
  refine isJsonData_object.mpr ⟨rfl, ?_, fun member listed => ?_⟩
  · rw [List.map_map]
    exact nodup
  · obtain ⟨original, inside, rfl⟩ := List.mem_map.mp listed
    show isJsonData (projected original.1 original.2) = true
    unfold projected
    split
    · exact isJsonData_projectMembers (by decide) (each original inside)
    · exact each original inside

/-- Objects are the same if their members under each key are. -/
theorem same_record_iff {xs ys : List (JsString × Json)} : Same (.record xs) (.record ys) ↔
    ∀ key, Option.Rel Same ((Json.record xs).get? key) ((Json.record ys).get? key) := by
  constructor
  · intro same key
    cases same with
    | object keys each =>
      specialize keys key
      specialize each key
      unfold Json.hasOwn at keys
      cases here : (Json.record xs).get? key with
      | none =>
        rw [here, Option.isSome_none] at keys
        rw [Option.isSome_eq_false_iff.mp keys.symm |> Option.isNone_iff_eq_none.mp]
        exact .none
      | some x =>
        rw [here, Option.isSome_some] at keys
        obtain ⟨y, there⟩ := Option.isSome_iff_exists.mp keys.symm
        rw [there]
        exact .some (each x y here there)
  · intro each
    refine .object (fun key => ?_) fun key x y here there => ?_
    · have alike : ∀ {here there : Option Json}, Option.Rel Same here there → here.isSome = there.isSome := by
        intro here there related
        cases related with
        | none => rfl
        | some => rfl
      exact alike (each key)
    · have related := each key
      rw [here, there] at related
      cases related with
      | some same => exact same

theorem same_refl : ∀ {value : Json}, isJsonData value = true → Same value value := by
  intro value data
  exact (canonicalizeJson_eq_iff data data).mp rfl

/-- Two values of one key are projected to the same. -/
def SameProjected (key : JsString) (left right : Json) : Prop :=
  if key = "sender" then
    ∀ field ∈ (["sessionId", "runtimeId"] : List JsString), Option.Rel Same (left.get? field) (right.get? field)
  else Same left right

/-- Two envelopes have the same fields of the canonical projection. -/
def SameProjection (left right : Json) : Prop :=
  ∀ key ∈ projectedFields, Option.Rel (SameProjected key) (left.get? key) (right.get? key)

theorem same_projected_iff {key : JsString} {left right : Json} :
    Same (projected key left) (projected key right) ↔ SameProjected key left right := by
  unfold projected SameProjected
  split
  · rw [same_record_iff]
    refine forall_congr' fun field => ?_
    rw [get?_projectMembers, get?_projectMembers]
    split
    · rename_i listed
      exact ⟨fun same _ => same, fun same => same listed⟩
    · rename_i missing
      rw [forall_prop_of_false missing]
      exact iff_true_intro .none
  · rfl

theorem same_fingerprintData_iff {left right : Json} :
    Same (fingerprintData left) (fingerprintData right) ↔ SameProjection left right := by
  have keyed : ∀ key, Option.Rel Same ((fingerprintData left).get? key) ((fingerprintData right).get? key) ↔
      (key ∈ projectedFields → Option.Rel (SameProjected key) (left.get? key) (right.get? key)) := by
    intro key
    rw [get?_fingerprintData, get?_fingerprintData]
    by_cases listed : key ∈ projectedFields
    · rw [if_pos listed, if_pos listed, forall_prop_of_true listed]
      cases left.get? key with
      | none =>
        cases right.get? key with
        | none => exact ⟨fun _ => .none, fun _ => .none⟩
        | some y => exact ⟨nofun, nofun⟩
      | some x =>
        cases right.get? key with
        | none => exact ⟨nofun, nofun⟩
        | some y =>
          rw [Option.map_some, Option.map_some, Option.rel_some_some, Option.rel_some_some]
          exact same_projected_iff
    · rw [if_neg listed, if_neg listed, forall_prop_of_false listed]
      exact iff_true_intro .none
  rw [fingerprintData_eq, fingerprintData_eq, same_record_iff, ← fingerprintData_eq, ← fingerprintData_eq]
  exact forall_congr' keyed

/-- An accepted envelope is the value validated. -/
theorem validateEnvelope_value {host : Host} {H : SchemaHost} {options : ValidationOptions} {value envelope : Json}
    (accepted : validateEnvelope host H options value = .ok (.success envelope)) : envelope = value := by
  unfold validateEnvelope answerEnvelope at accepted
  split at accepted
  · exact (ValidationResult.success.inj (Except.ok.inj accepted)).symm
  · cases Except.ok.inj accepted
  · cases accepted

/-- The canonical text of what an envelope is known by. -/
def projectionText (envelope : Json) : JsString := (sortKeys (fingerprintData envelope)).stringify

theorem canonical_fingerprintData {envelope : Json} (data : isJsonData envelope = true) :
    canonicalizeJson (fingerprintData envelope) = some (projectionText envelope) :=
  canonicalizeJson_eq _ (isJsonData_fingerprintData data)

/-- A valid envelope has a canonical text, and the fingerprint is the hash of that. -/
theorem validatedRequestProjection_valid {host : Host} {H : SchemaHost} {options : ValidationOptions} {value : Json}
    (sha256 : List UInt16 → JsString) (data : isJsonData value = true)
    (valid : validateEnvelope host H options value = .ok (.success value)) :
    validatedRequestProjection host H sha256 options value =
      .ok (.success ⟨value, projectionText value, sha256 (projectionText value).units⟩) := by
  unfold validatedRequestProjection
  rw [valid]
  dsimp only [bind, Except.bind]
  rw [canonical_fingerprintData data]
  have written : JsString.toWellFormed (projectionText value).units = (projectionText value).units :=
    JsString.toWellFormed_of_isWellFormed (Json.isWellFormed_stringify _)
  show Except.ok (ValidationResult.success _) = _
  rw [written]

theorem projected_facts {host : Host} {H : SchemaHost} {sha256 : List UInt16 → JsString} {options : ValidationOptions}
    {value : Json} {p : CanonicalRequestProjection} (data : isJsonData value = true)
    (accepted : validatedRequestProjection host H sha256 options value = .ok (.success p)) :
    p = ⟨value, projectionText value, sha256 (projectionText value).units⟩ := by
  obtain ⟨result, valid, _⟩ := bind_ok accepted
  cases result with
  | failure error =>
    unfold validatedRequestProjection at accepted
    rw [valid] at accepted
    cases accepted
  | success envelope =>
    obtain rfl := validateEnvelope_value valid
    rw [validatedRequestProjection_valid sha256 data valid] at accepted
    exact (ValidationResult.success.inj (Except.ok.inj accepted)).symm

/-- The hash of one text is that of no other. -/
def NoCollision (sha256 : List UInt16 → JsString) (first second : JsString) : Prop :=
  sha256 first.units = sha256 second.units → first = second

/-- The three comparisons of two values are one. -/
structure ComparedAlike (v w : Json) : Prop where
  canonical : canonicalizeJson v = canonicalizeJson w ↔ Same v w
  deepEqual : equalJson v w = true ↔ Same v w
  /-- `const` and `enum` compare so, within the budget of an evaluation. -/
  evaluated : ∀ context, Answers (deepEqualJson context v w) (equalJson v w) false
  /-- `uniqueItems` compares the canonical texts, within that budget. -/
  signature : ∀ context, Answers (canonicalizeValue context v) (canonicalizeJson v) none

/-- The fingerprints of two operations tell whether their projections are the same. -/
structure FingerprintsTell (sha256 : List UInt16 → JsString) (v w : Json) (p q : CanonicalRequestProjection) :
    Prop where
  same : SameProjection v w → p.fingerprint = q.fingerprint
  differ : NoCollision sha256 p.canonical q.canonical → p.fingerprint = q.fingerprint → SameProjection v w
  outside : (∀ key ∈ projectedFields, v.get? key = w.get? key) → p.fingerprint = q.fingerprint

theorem sameProjection_of_eq {v w : Json} (data : isJsonData v = true)
    (equal : ∀ key ∈ projectedFields, v.get? key = w.get? key) : SameProjection v w := by
  intro key listed
  rw [← equal key listed]
  cases found : v.get? key with
  | none => exact .none
  | some member =>
    refine .some (same_projected_iff.mp (same_refl ?_))
    have member_data := isJsonData_get? data found
    unfold projected
    split
    · exact isJsonData_projectMembers (by decide) member_data
    · exact member_data

theorem fingerprints_tell {host : Host} {H : SchemaHost} {sha256 : List UInt16 → JsString}
    {options options' : ValidationOptions} {v w : Json} {p q : CanonicalRequestProjection}
    (data : isJsonData v = true) (data' : isJsonData w = true)
    (accepted : validatedRequestProjection host H sha256 options v = .ok (.success p))
    (accepted' : validatedRequestProjection host H sha256 options' w = .ok (.success q)) :
    FingerprintsTell sha256 v w p q := by
  obtain rfl := projected_facts data accepted
  obtain rfl := projected_facts data' accepted'
  have texts := canonicalizeJson_eq_iff (isJsonData_fingerprintData data) (isJsonData_fingerprintData data')
  rw [canonical_fingerprintData data, canonical_fingerprintData data', Option.some.injEq,
    same_fingerprintData_iff] at texts
  have same : SameProjection v w → sha256 (projectionText v).units = sha256 (projectionText w).units := by
    intro alike
    exact congrArg (fun text => sha256 text.units) (texts.mpr alike)
  exact ⟨same, fun unique equal => texts.mp (unique equal), fun equal => same (sameProjection_of_eq data equal)⟩

/-- Canonical JSON is a normal form for equality up to the order of keys: the comparison of the
validator is that equality too, and fingerprints tell it of what they cover. -/
theorem canonical_faithful {v w : Json} (data : isJsonData v = true) (data' : isJsonData w = true) :
    ComparedAlike v w ∧
      ∀ (host : Host) (H : SchemaHost) (sha256 : List UInt16 → JsString) (options options' : ValidationOptions)
        (p q : CanonicalRequestProjection),
        validatedRequestProjection host H sha256 options v = .ok (.success p) →
          validatedRequestProjection host H sha256 options' w = .ok (.success q) → FingerprintsTell sha256 v w p q := by
  constructor
  · exact {
      canonical := canonicalizeJson_eq_iff data data'
      deepEqual := equalJson_iff v w data data'
      evaluated := fun context => deepEqualJson_answers v w
      signature := fun context => canonicalizeValue_answers v }
  · intro host H sha256 options options' p q accepted accepted'
    exact fingerprints_tell data data' accepted accepted'

/-- A notification, with members after its own. -/
def noted (extra : List (JsString × Json)) (n : Nat) : Json :=
  .record (List.append [("protocolVersion", .string "1.0"), ("operation", .string "message.notify"),
    ("operationId", .string "11111111-1111-4111-8111-111111111111"),
    ("sender", .record [("sessionId", .string "session-a"), ("runtimeId", .string "runtime-a")]),
    ("recipientRuntimeId", .string "runtime-b"), ("roomId", .string "r1-0123456789abcdef0123456789abcdef"),
    ("createdAt", .string "2026-01-01T00:00:00.000Z"), ("expiresAt", .string "2026-01-01T00:01:00.000Z"),
    ("traceId", .string "0123456789abcdef0123456789abcdef"),
    ("payload", .record [("content", .record [("type", .string "json"), ("value", .number (.ofNat n))])])] extra)

def notedOptions : ValidationOptions := { schemaOptions with now := 1767225600000 }

/-- The SHA-256 of the canonical text of the notification of 1, and that of the notification of 2. -/
def notedDigest (text : List UInt16) : JsString :=
  if text = (projectionText (noted [] 1)).units then
    "d9cdaf508ce927f44671f73a2364f3de1f0988f3f67408e182278f29da4a18c7"
  else "0dc321a1228560bb104627e40856bb275e44b438709a1e4f644abea5b07910d1"

/-- A member that is not projected does not change the fingerprint. -/
theorem noted_faithful : ∃ p q, p.envelope ≠ q.envelope ∧ p.fingerprint = q.fingerprint ∧
    validatedRequestProjection ⟨fun _ => none⟩ anyHost notedDigest notedOptions (noted [("hint", .null)] 1) =
      .ok (.success p) ∧
    validatedRequestProjection ⟨fun _ => none⟩ anyHost notedDigest notedOptions (noted [] 1) = .ok (.success q) := by
  have data : isJsonData (noted [("hint", .null)] 1) = true := by decide +kernel
  have data' : isJsonData (noted [] 1) = true := by decide +kernel
  have projected := @validatedRequestProjection_valid ⟨fun _ => none⟩ anyHost notedOptions _ notedDigest data
    (by decide +kernel)
  have projected' := @validatedRequestProjection_valid ⟨fun _ => none⟩ anyHost notedOptions _ notedDigest data'
    (by decide +kernel)
  have told := (canonical_faithful data data').2 _ _ _ _ _ _ _ projected projected'
  exact ⟨_, _, by decide +kernel, told.outside (by decide +kernel), projected, projected'⟩

end Projection

end PiToPi.Validation
