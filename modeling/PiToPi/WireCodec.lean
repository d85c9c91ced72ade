import PiToPi.FrameCodecProofs
import PiToPi.RouterNetwork
import PiToPi.Utf8Text

/-!
`ProtocolWireCodec` of `runtime/wire-bridge.ts`, on top of the frames of the transport.

An operation leaves as the UTF-8 of its JSON text, in one frame; the other side puts the frame
together from whatever chunks the socket gives, and reads the text back. What the validators let
through on the one side fits into the frame, and arrives.
-/
namespace PiToPi.Wire
open Validation Transport

structure ProtocolWireError where
  message : JsString
  deriving DecidableEq

structure ProtocolWireCodec where
  maxPayloadBytes : Nat
  positive : 0 < maxPayloadBytes
  safe : (maxPayloadBytes : Int) ≤ JsNumber.maxSafeInteger

namespace ProtocolWireCodec

/-- The constructor, which may throw a `RangeError`. -/
def new (maxPayloadBytes : ℚ) : Except RangeError ProtocolWireCodec :=
  if legal : 0 < maxPayloadBytes.num.toNat ∧ (maxPayloadBytes.num.toNat : Int) ≤ JsNumber.maxSafeInteger ∧
      isSafeInteger maxPayloadBytes = true then
    .ok ⟨maxPayloadBytes.num.toNat, legal.1, legal.2.1⟩
  else .error "maxPayloadBytes must be a positive safe integer"

variable (codec : ProtocolWireCodec)

def oversized : ProtocolWireError := ⟨"protocol payload exceeds the size limit"⟩

/-- `encode(value)`, of a value that has a JSON text. -/
def encode (value : Json) : Except ProtocolWireError (List UInt8) :=
  let payload := value.stringify.utf8
  if codec.maxPayloadBytes < payload.length then .error oversized else .ok payload

/-- `decode(payload)`. -/
def decode (N : NumberHost) (payload : List UInt8) : Except ProtocolWireError Json :=
  if codec.maxPayloadBytes < payload.length then .error oversized
  else match (JsString.ofUtf8? payload).bind (Json.parse N) with
    | none => .error ⟨"protocol payload is malformed"⟩
    | some value => .ok value

/-- Why a decoded envelope is refused. -/
inductive DecodeFault where
  | wire (error : ProtocolWireError)
  | rangeError (message : RangeError)

/-- `decodeEnvelope(payload)`, at this time of the clock. -/
def decodeEnvelope (N : NumberHost) (host : Host) (H : SchemaHost) (now : ℚ) (payload : List UInt8) :
    Except DecodeFault Json := do
  let value ← (codec.decode N payload).mapError .wire
  match ← (validateEnvelope host H ⟨now, some codec.maxPayloadBytes, ceilingLimits, none⟩ value).mapError .rangeError with
  | .failure error => .error (.wire ⟨error.message⟩)
  | .success envelope => .ok envelope

end ProtocolWireCodec

section Payloads

variable {codec : ProtocolWireCodec} {N : NumberHost}

/-- A JSON text does not begin with a byte order mark. -/
theorem stringify_unmarked (value : Json) :
    (JsString.scalars value.stringify.units).head? ≠ some JsString.byteOrderMark := by
  obtain ⟨u, rest, written, first⟩ := Json.stringify_head value
  have ascii : u.toNat < 0x80 := by
    obtain rfl | rfl | rfl | rfl | rfl | rfl | rfl | digit := first
    iterate 7 decide
    simp only [Json.isDigit, Bool.and_eq_true, decide_eq_true_eq, UInt16.le_iff_toNat_le, UInt16.reduceToNat] at digit
    omega
  have plain : JsString.isSurrogate u = false := by
    simp only [JsString.isSurrogate, JsString.isHighSurrogate, JsString.isLowSurrogate, Bool.or_eq_false_iff,
      Bool.and_eq_false_iff, decide_eq_false_iff_not, UInt16.le_iff_toNat_le, UInt16.reduceToNat]
    omega
  rw [written, JsString.scalars_cons plain, List.head?_cons]
  intro marked
  have same := congrArg Char.toNat (Option.some.inj marked)
  rw [JsString.toNat_scalarOf plain] at same
  have mark : JsString.byteOrderMark.toNat = 0xfeff := rfl
  omega

theorem ofUtf8?_stringify (value : Json) : JsString.ofUtf8? value.stringify.utf8 = some value.stringify :=
  JsString.ofUtf8?_utf8 (Json.isWellFormed_stringify value) (stringify_unmarked value)

/-- A value is encoded where its text has room. -/
theorem encode_ok_iff {value : Json} : codec.encode value = .ok payload ↔
    value.stringify.byteLength ≤ codec.maxPayloadBytes ∧ payload = value.stringify.utf8 := by
  unfold ProtocolWireCodec.encode
  dsimp only
  rw [JsString.length_utf8]
  split
  · rename_i large
    constructor
    · intro given
      cases given
    · intro fits
      exact absurd fits.1 (Nat.not_le.mpr large)
  · rename_i fits
    constructor
    · rintro ⟨⟩
      exact ⟨Nat.not_lt.mp fits, rfl⟩
    · rintro ⟨_, rfl⟩
      rfl

/-- What is encoded is decoded, its members enumerated anew. -/
theorem decode_encode {value : Json} (near : Json.numbersNearest N value = true)
    (encoded : codec.encode value = .ok payload) : codec.decode N payload = .ok value.rebuilt := by
  obtain ⟨fits, rfl⟩ := encode_ok_iff.mp encoded
  unfold ProtocolWireCodec.decode
  rw [if_neg (by rw [JsString.length_utf8]; exact Nat.not_lt.mpr fits), ofUtf8?_stringify, Option.bind_some,
    Json.parse_rebuilt near]

/-- Nothing but a JSON text in UTF-8 is decoded. -/
theorem decode_text {value : Json} (decoded : codec.decode N payload = .ok value) :
    payload.length ≤ codec.maxPayloadBytes ∧ ∃ text : JsString,
      (payload = text.utf8 ∨ payload = JsString.markBytes ++ text.utf8) ∧ Json.parse N text = some value := by
  unfold ProtocolWireCodec.decode at decoded
  split at decoded
  · cases decoded
  rename_i fits
  split at decoded
  · cases decoded
  rename_i read
  cases decoded
  obtain ⟨text, spelt, parsed⟩ := Option.bind_eq_some_iff.mp read
  exact ⟨Nat.not_lt.mp fits, text, JsString.utf8_of_ofUtf8? spelt, parsed⟩

end Payloads

section Frames

/-- A payload that has room in a frame is put together from any chunks of it. -/
theorem frame_delivers {options : Option Int} {limit : Nat} {payload : List UInt8}
    (legal : normalizeMaxPayloadBytes options = .ok limit) (fits : payload.length ≤ limit) :
    ∃ frame, encodeFrame payload options = .ok frame ∧ ∀ chunks : List (List UInt8), chunks.flatten = frame →
      (decodeChunks (.new limit) chunks).1 = .ok payload := by
  refine ⟨writeUInt32BE payload.length ++ payload, ?_, fun chunks whole => ?_⟩
  · unfold encodeFrame
    rw [legal]
    exact if_neg (Nat.not_lt.mpr fits)
  · have decoded := decodeChunks_spec limit chunks [] rfl
    rw [reading_nil, List.nil_append, whole, frameFormat_encoded limit payload (normalizeMaxPayloadBytes_bound legal) fits]
      at decoded
    cases answer : (decodeChunks (.new limit) chunks).1 with
    | error error =>
      rw [answer] at decoded
      cases decoded
    | ok given =>
      rw [answer] at decoded
      cases decoded
      rfl

end Frames

section Envelopes

variable {codec : ProtocolWireCodec} {N : NumberHost} {host : Host} {H : SchemaHost} {options : ValidationOptions}

/-- No limit is above the one that is configured. -/
theorem resolveLimits_envelope {limits : ResolvedLimits} (resolved : resolveLimits options = .ok limits) :
    limits.maxEnvelopeBytes ≤ options.maxEnvelopeBytes.getD options.limits.maxEnvelopeBytes := by
  unfold resolveLimits at resolved
  obtain ⟨envelope, checked, resolved⟩ := bind_ok resolved
  obtain ⟨schema, _, resolved⟩ := bind_ok resolved
  cases resolved
  unfold resolvePositiveLimit at checked
  dsimp only at checked
  split at checked
  · cases checked
  · cases checked
    exact min_le_left _ _

/-- What is accepted has a text of no more bytes than is configured. -/
theorem accepted_fits {envelope : Json} (accepted : validateEnvelope host H options envelope = .ok (.success envelope)) :
    (envelope.stringify.byteLength : ℚ) ≤ options.maxEnvelopeBytes.getD options.limits.maxEnvelopeBytes := by
  obtain ⟨operation, limits, passes⟩ := validateEnvelope_success accepted
  obtain ⟨bytes, measured⟩ := passes.measured
  obtain ⟨_, _, _, rfl, fits⟩ := measureJsonBytes_ok_iff.mp measured
  exact fits.2.trans (resolveLimits_envelope passes.resolved)

/-- What is decoded is given out where it is accepted. -/
theorem decodeEnvelope_ok {now : ℚ} {value : Json} (decoded : codec.decode N payload = .ok value)
    (accepted : validateEnvelope host H ⟨now, some codec.maxPayloadBytes, ceilingLimits, none⟩ value =
      .ok (.success value)) : codec.decodeEnvelope N host H now payload = .ok value := by
  unfold ProtocolWireCodec.decodeEnvelope
  rw [decoded]
  simp only [Except.mapError, bind, Except.bind, accepted]

/-- What the codec carries is what the routers of a room rely on. -/
theorem carries_iff_wire {c : Routing.RouterConfig} {sent arrived : Json}
    (near : Json.numbersNearest c.numberHost sent = true) (encoded : codec.encode sent = .ok payload) :
    Routing.Carries c sent arrived ↔ codec.decode c.numberHost payload = .ok arrived := by
  rw [decode_encode near encoded, Routing.Carries, Json.parse_rebuilt near]
  simp [near]

/-- **What the validators accept crosses the wire**: an envelope that is accepted under the limit of
the codec is encoded, has room in a frame, and is put together and decoded on the other side from
any chunks of the frame, each member as it was, wherever the validators accept it there. And what is
decoded of any payload is the JSON text its bytes spell. -/
theorem envelope_crosses_wire {envelope : Json}
    (within : options.maxEnvelopeBytes.getD options.limits.maxEnvelopeBytes ≤ codec.maxPayloadBytes)
    (accepted : validateEnvelope host H options envelope = .ok (.success envelope))
    (near : Json.numbersNearest N envelope = true) (bound : codec.maxPayloadBytes ≤ maxUInt32) :
    (∃ payload frame, codec.encode envelope = .ok payload ∧
      encodeFrame payload (some codec.maxPayloadBytes) = .ok frame ∧
        ∀ chunks : List (List UInt8), chunks.flatten = frame →
          (decodeChunks (.new codec.maxPayloadBytes) chunks).1 = .ok payload ∧
            codec.decode N payload = .ok envelope.rebuilt ∧
              ∀ now, validateEnvelope host H ⟨now, some codec.maxPayloadBytes, ceilingLimits, none⟩ envelope.rebuilt =
                .ok (.success envelope.rebuilt) →
                  codec.decodeEnvelope N host H now payload = .ok envelope.rebuilt) ∧
    ∀ payload value, codec.decode N payload = .ok value → payload.length ≤ codec.maxPayloadBytes ∧
      ∃ text : JsString, (payload = text.utf8 ∨ payload = JsString.markBytes ++ text.utf8) ∧
        Json.parse N text = some value := by
  refine ⟨?_, fun payload value => decode_text⟩
  have fits : envelope.stringify.byteLength ≤ codec.maxPayloadBytes :=
    Nat.cast_le.mp ((accepted_fits accepted).trans within)
  have encoded : codec.encode envelope = .ok envelope.stringify.utf8 := encode_ok_iff.mpr ⟨fits, rfl⟩
  have legal : normalizeMaxPayloadBytes (some codec.maxPayloadBytes) = .ok codec.maxPayloadBytes :=
    if_neg (by rw [Option.getD_some]; omega)
  have decoded := decode_encode near encoded
  rw [← JsString.length_utf8] at fits
  obtain ⟨frame, framed, delivers⟩ := frame_delivers legal fits
  exact ⟨_, frame, encoded, framed, fun chunks whole =>
    ⟨delivers chunks whole, decoded, fun now => decodeEnvelope_ok decoded⟩⟩

theorem envelope_crosses_wire_sample : ∃ codec : ProtocolWireCodec, codec.maxPayloadBytes = 1048576 ∧
    ∃ payload frame, codec.encode Routing.sampleRequest = .ok payload ∧
      encodeFrame payload (some codec.maxPayloadBytes) = .ok frame ∧
        ∀ chunks : List (List UInt8), chunks.flatten = frame →
          (decodeChunks (.new codec.maxPayloadBytes) chunks).1 = .ok payload ∧
            codec.decode exactNumbers payload = .ok Routing.sampleRequest.rebuilt := by
  have accepted : validateEnvelope ⟨fun _ => none⟩ anyHost ⟨1767225600000, none, ceilingLimits, none⟩
      Routing.sampleRequest = .ok (.success Routing.sampleRequest) := by decide +kernel
  obtain ⟨payload, frame, encoded, framed, delivers⟩ := (@envelope_crosses_wire ⟨1048576, by decide, by decide⟩
    exactNumbers _ _ _ _ (by decide +kernel) accepted (by decide) (by decide)).1
  exact ⟨_, rfl, payload, frame, encoded, framed, fun chunks whole => ⟨(delivers chunks whole).1, (delivers chunks whole).2.1⟩⟩

end Envelopes
end PiToPi.Wire
