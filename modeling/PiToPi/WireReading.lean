import PiToPi.EnvelopeProofs
import PiToPi.WireValues

/-!
What a router reads in an envelope that has arrived.

`Json.rebuilt` is what `JSON.parse` makes of the text of a value: every member is there, as it
arrives by itself, and only their order may differ. So a peer reads in an envelope, a content or an
error what was written in it. And an envelope that is accepted names its parties.
-/
namespace PiToPi
open Validation

section Accepted

theorem failUnless_ok {held : Bool} {code : ValidationErrorCode} {message path reason : JsString}
    (passed : failUnless held code message path reason = .ok ()) : held = true := by
  cases held with
  | true => rfl
  | false => cases passed

theorem wellFormedUnless_ok {held : Bool} {path reason : JsString}
    (passed : wellFormedUnless held path reason = .ok ()) : held = true := failUnless_ok passed

theorem hasText_iff {value : Option Json} {valid : JsString → Bool} :
    hasText value valid = true ↔ ∃ text, value = some (.string text) ∧ valid text = true := by
  unfold hasText
  rw [Option.any_eq_true]
  constructor
  · rintro ⟨text, here, passed⟩
    exact ⟨text, string_of_asString? here, passed⟩
  · rintro ⟨text, rfl, passed⟩
    exact ⟨text, rfl, passed⟩

/-- Those an accepted envelope is between. -/
structure NamesParties (envelope : Json) : Prop where
  sender : ∃ text, (Envelope.sender envelope).get? "runtimeId" = some (.string text)
  recipient : ∃ text, envelope.get? "recipientRuntimeId" = some (.string text)
  room : ∃ text, envelope.get? "roomId" = some (.string text)

theorem validateEnvelopeParties_ok {value : Json} {operation : OperationName}
    (passed : validateEnvelopeParties value operation = .ok ()) : NamesParties value := by
  unfold validateEnvelopeParties at passed
  obtain ⟨_, _, passed⟩ := bind_ok passed
  obtain ⟨_, _, passed⟩ := bind_ok passed
  obtain ⟨_, _, passed⟩ := bind_ok passed
  obtain ⟨_, _, passed⟩ := bind_ok passed
  obtain ⟨_, sender, passed⟩ := bind_ok passed
  obtain ⟨_, recipient, passed⟩ := bind_ok passed
  obtain ⟨_, room, _⟩ := bind_ok passed
  obtain ⟨from_, named, _⟩ := hasText_iff.mp (wellFormedUnless_ok sender)
  obtain ⟨towards, addressed, _⟩ := hasText_iff.mp (wellFormedUnless_ok recipient)
  obtain ⟨place, located, _⟩ := hasText_iff.mp (wellFormedUnless_ok room)
  exact ⟨⟨from_, named⟩, ⟨towards, addressed⟩, ⟨place, located⟩⟩

/-- What an envelope passes that is accepted. -/
structure Passes (host : Host) (H : SchemaHost) (options : ValidationOptions) (value : Json)
    (operation : OperationName) (limits : ResolvedLimits) : Prop where
  resolved : resolveLimits options = .ok limits
  measured : ∃ bytes, measureJsonBytes limits.maxEnvelopeBytes value = .ok bytes
  named : envelopeOperation value = .ok operation
  parties : validateEnvelopeParties value operation = .ok ()
  times : validateEnvelopeTimes host options limits value operation = .ok ()
  payload : validateEnvelopePayload H options value operation = .ok ()

theorem checkEnvelope_ok_iff {host : Host} {H : SchemaHost} {options : ValidationOptions} {value : Json}
    {operation : OperationName} : checkEnvelope host H options value = .ok operation ↔
      ∃ limits, Passes host H options value operation limits := by
  unfold checkEnvelope
  constructor
  · intro passed
    obtain ⟨limits, resolved, passed⟩ := bind_ok passed
    dsimp only at passed
    have resolved : resolveLimits options = .ok limits := by
      cases given : resolveLimits options with
      | ok found =>
        rw [given] at resolved
        exact congrArg Except.ok (Except.ok.inj resolved)
      | error message =>
        rw [given] at resolved
        cases resolved
    split at passed
    · obtain ⟨_, refused, _⟩ := bind_ok passed
      cases failUnless_ok refused
    · obtain ⟨_, refused, _⟩ := bind_ok passed
      cases wellFormedUnless_ok refused
    · rename_i bytes measured
      obtain ⟨named, operation', passed⟩ := bind_ok passed
      obtain ⟨_, parties, passed⟩ := bind_ok passed
      obtain ⟨_, times, passed⟩ := bind_ok passed
      obtain ⟨_, payload, passed⟩ := bind_ok passed
      cases passed
      exact ⟨limits, resolved, ⟨bytes, measured⟩, operation', parties, times, payload⟩
  · rintro ⟨limits, resolved, ⟨bytes, measured⟩, named, parties, times, payload⟩
    simp only [resolved, measured, named, parties, times, payload, Except.mapError, bind, Except.bind, pure,
      Except.pure]

theorem validateEnvelope_success {host : Host} {H : SchemaHost} {options : ValidationOptions} {value envelope : Json}
    (accepted : validateEnvelope host H options value = .ok (.success envelope)) :
    ∃ operation limits, Passes host H options value operation limits := by
  unfold validateEnvelope answerEnvelope at accepted
  split at accepted
  · rename_i operation passed
    exact ⟨operation, checkEnvelope_ok_iff.mp passed⟩
  · cases Except.ok.inj accepted
  · cases accepted

theorem accepted_namesParties {host : Host} {H : SchemaHost} {options : ValidationOptions} {value envelope : Json}
    (accepted : validateEnvelope host H options value = .ok (.success envelope)) : NamesParties value := by
  obtain ⟨operation, limits, passes⟩ := validateEnvelope_success accepted
  exact validateEnvelopeParties_ok passes.parties

end Accepted

/-- The keys of an object, each of which it has once. -/
def Json.UniqueKeys (value : Json) : Prop := (value.members.map Prod.fst).Nodup

instance : DecidablePred Json.UniqueKeys := fun _ => inferInstanceAs (Decidable (List.Nodup _))

/-- A member of an object arrives as it arrives by itself. -/
theorem get?_rebuilt {value : Json} (unique : value.UniqueKeys) (key : JsString) :
    value.rebuilt.get? key = (value.get? key).map Json.rebuilt := by
  cases value with
  | object readOnly members =>
    rw [Json.rebuilt, rebuiltMembers_eq]
    have keys : (members.map fun member => (member.1, member.2.rebuilt)).map Prod.fst = members.map Prod.fst := by
      rw [List.map_map]
      rfl
    obtain ⟨ordered, same, perm⟩ :=
      @objectOf_perm (members.map fun member => (member.1, member.2.rebuilt)) (by rwa [keys])
    have nodup : (ordered.map Prod.fst).Nodup := by
      rw [(perm.map Prod.fst).nodup_iff, keys]
      exact unique
    have own : (Json.object readOnly members).get? key = (Json.record members).get? key := rfl
    rw [same, own]
    apply Option.ext
    intro found
    rw [get?_iff_mem nodup, perm.mem_iff, List.mem_map, Option.map_eq_some_iff]
    constructor
    · rintro ⟨⟨_, before⟩, member, ⟨⟩⟩
      exact ⟨before, (get?_iff_mem unique).mpr member, rfl⟩
    · rintro ⟨before, here, rfl⟩
      exact ⟨(key, before), (get?_iff_mem unique).mp here, rfl⟩
  | null | bool | number | string | array => rfl

theorem asString?_rebuilt (value : Json) : value.rebuilt.asString? = value.asString? := by
  cases value with
  | object readOnly members =>
    rw [Json.rebuilt, Json.objectOf]
    rfl
  | null | bool | number | string | array => rfl

theorem asBool?_rebuilt (value : Json) : value.rebuilt.asBool? = value.asBool? := by
  cases value with
  | object readOnly members =>
    rw [Json.rebuilt, Json.objectOf]
    rfl
  | null | bool | number | string | array => rfl

theorem asNumber?_rebuilt (value : Json) : value.rebuilt.asNumber? = value.asNumber?.map JsNumber.unsigned := by
  cases value with
  | object readOnly members =>
    rw [Json.rebuilt, Json.objectOf]
    rfl
  | null | bool | number | string | array => rfl

section Members

variable {value : Json} (unique : value.UniqueKeys) (key : JsString)
include unique

theorem textOf_rebuilt : (value.rebuilt.get? key).bind Json.asString? = (value.get? key).bind Json.asString? := by
  rw [get?_rebuilt unique]
  cases value.get? key with
  | none => rfl
  | some member => exact asString?_rebuilt member

theorem flagOf_rebuilt : (value.rebuilt.get? key).bind Json.asBool? = (value.get? key).bind Json.asBool? := by
  rw [get?_rebuilt unique]
  cases value.get? key with
  | none => rfl
  | some member => exact asBool?_rebuilt member

theorem numberOf_rebuilt : (value.rebuilt.get? key).bind Json.asNumber? =
    ((value.get? key).bind Json.asNumber?).map JsNumber.unsigned := by
  rw [get?_rebuilt unique]
  cases value.get? key with
  | none => rfl
  | some member => exact asNumber?_rebuilt member

theorem text_rebuilt : value.rebuilt.text key = value.text key :=
  congrArg (·.getD "") (textOf_rebuilt unique key)

theorem member_rebuilt : value.rebuilt.member key = (value.member key).rebuilt := by
  unfold Json.member
  rw [get?_rebuilt unique]
  cases value.get? key with
  | none => rfl
  | some member => rfl

omit key in
theorem operation?_rebuilt : Envelope.operation? value.rebuilt = Envelope.operation? value :=
  congrArg (·.bind OperationName.ofName?) (textOf_rebuilt unique _)

end Members

/-- A content as it arrives. -/
def Content.rebuilt : Content → Content
  | .text words => .text words
  | .json tree => .json tree.rebuilt

/-- An error as it arrives. -/
def ProtocolError.rebuilt (error : ProtocolError) : ProtocolError :=
  { error with
    retryAfterMs := error.retryAfterMs.map JsNumber.unsigned
    details := error.details.map Json.rebuilt }

theorem Content.ofJson_rebuilt (content : Content) : ofJson content.toJson.rebuilt = content.rebuilt := by
  have unique : content.toJson.UniqueKeys := by
    cases content with
    | text words => exact (by decide : (["type", "text"] : List JsString).Nodup)
    | json tree => exact (by decide : (["type", "value"] : List JsString).Nodup)
  unfold ofJson
  rw [get?_rebuilt unique, text_rebuilt unique, member_rebuilt unique]
  cases content with
  | text words => rfl
  | json tree => rfl

theorem ProtocolError.uniqueKeys_toJson (error : ProtocolError) : error.toJson.UniqueKeys := by
  obtain ⟨code, message, retryable, retryAfterMs, details⟩ := error
  cases retryAfterMs with
  | none => cases details with
    | none => exact (by decide : (["code", "message", "retryable"] : List JsString).Nodup)
    | some given => exact (by decide : (["code", "message", "retryable", "details"] : List JsString).Nodup)
  | some delay => cases details with
    | none => exact (by decide : (["code", "message", "retryable", "retryAfterMs"] : List JsString).Nodup)
    | some given =>
      exact (by decide : (["code", "message", "retryable", "retryAfterMs", "details"] : List JsString).Nodup)

theorem ProtocolError.ofJson_rebuilt (error : ProtocolError) : ofJson error.toJson.rebuilt = error.rebuilt := by
  have unique := error.uniqueKeys_toJson
  rw [ofJson, text_rebuilt unique, text_rebuilt unique, flagOf_rebuilt unique, numberOf_rebuilt unique,
    get?_rebuilt unique]
  exact congrArg rebuilt (ofJson_toJson error)

end PiToPi
