import PiToPi.Envelope
import PiToPi.ErrorWire

/-!
The values of the router on the wire: the members of envelopes, and contents, errors and snapshots
as JSON values.

An envelope stays the JSON value it is. What the router reads of a valid one is a function here,
which answers the empty text where an invalid one has no such member.
-/
namespace PiToPi

/-- A text member of an object. -/
def Json.text (value : Json) (key : JsString) : JsString := ((value.get? key).bind Json.asString?).getD ""

/-- A member of an object. -/
def Json.member (value : Json) (key : JsString) : Json := (value.get? key).getD .null

namespace Envelope

def operation? (envelope : Json) : Option OperationName :=
  ((envelope.get? "operation").bind Json.asString?).bind OperationName.ofName?

def operationId (envelope : Json) : JsString := envelope.text "operationId"
def requestId (envelope : Json) : JsString := envelope.text "requestId"
def sender (envelope : Json) : Json := envelope.member "sender"
/-- `envelope.sender.runtimeId`. -/
def senderRuntimeId (envelope : Json) : JsString := (sender envelope).text "runtimeId"
/-- `envelope.sender.sessionId`. -/
def senderSessionId (envelope : Json) : JsString := (sender envelope).text "sessionId"
def recipientRuntimeId (envelope : Json) : JsString := envelope.text "recipientRuntimeId"
def roomId (envelope : Json) : JsString := envelope.text "roomId"
def createdAt (envelope : Json) : JsString := envelope.text "createdAt"
def expiresAt (envelope : Json) : JsString := envelope.text "expiresAt"
def traceId (envelope : Json) : JsString := envelope.text "traceId"
def payload (envelope : Json) : Json := envelope.member "payload"

/-- `envelope.payload.expectedResponse`. -/
def expectedResponse (envelope : Json) : Option Json := (payload envelope).get? "expectedResponse"

end Envelope

namespace Content

def toJson : Content → Json
  | .text words => .record [("type", .string "text"), ("text", .string words)]
  | .json tree => .record [("type", .string "json"), ("value", tree)]

/-- What a content says. -/
def ofJson (value : Json) : Content :=
  if value.get? "type" = some (.string "text") then .text (value.text "text")
  else .json (value.member "value")

theorem ofJson_toJson (content : Content) : ofJson content.toJson = content := by
  cases content with
  | text words =>
    have typed : (toJson (.text words)).get? "type" = some (.string "text") := rfl
    rw [ofJson, if_pos typed]
    rfl
  | json tree =>
    have typed : (toJson (.json tree)).get? "type" ≠ some (.string "text") := by
      show some (Json.string "json") ≠ some (Json.string "text")
      decide
    rw [ofJson, if_neg typed]
    rfl

end Content

/-- `ExpectedResponse` of the object that says it. -/
def ExpectedResponse.ofJson (value : Json) : ExpectedResponse := ⟨value.member "schema"⟩

def ExpectedResponse.toJson (expected : ExpectedResponse) : Json :=
  .record [("contentType", .string "json"), ("schema", expected.schema)]

namespace ProtocolError

/-- What an error says. -/
def ofJson (value : Json) : ProtocolError where
  code := (ErrorCode.ofName? (value.text "code")).getD .internal
  message := value.text "message"
  retryable := ((value.get? "retryable").bind Json.asBool?).getD false
  retryAfterMs := (value.get? "retryAfterMs").bind Json.asNumber?
  details := value.get? "details"

theorem ofJson_toJson (error : ProtocolError) : ofJson error.toJson = error := by
  obtain ⟨code, message, retryable, retryAfterMs, details⟩ := error
  have named := ErrorCode.ofName?_name code
  cases retryAfterMs <;> cases details <;> simp only [ofJson, mk.injEq] <;>
    refine ⟨?_, rfl, rfl, rfl, rfl⟩ <;> exact congrArg (·.getD ErrorCode.internal) named

end ProtocolError

/-- The object `buildSnapshot` makes. -/
def TaskSnapshot.toJson (snapshot : TaskSnapshot) : Json :=
  let common : List (JsString × Json) :=
    [("requestId", .string snapshot.requestId), ("state", .string snapshot.state.name),
      ("createdAt", .string snapshot.createdAt), ("updatedAt", .string snapshot.updatedAt),
      ("expiresAt", .string snapshot.expiresAt),
      ("cancellationRequested", .bool snapshot.cancellationRequested)]
  let cancellation (found : CancellationSnapshot) : Json := .record (("state", .string "requested") ::
    (found.requestedAt.map fun time => (("requestedAt" : JsString), Json.string time)).toList)
  .record (common ++
    (snapshot.cancellation.map fun found => (("cancellation" : JsString), cancellation found)).toList ++
    (snapshot.terminalOutcome.map fun outcome =>
      (("terminalOutcome" : JsString), Json.string outcome.name)).toList ++
    (snapshot.content.map fun content => (("content" : JsString), content.toJson)).toList ++
    (snapshot.error.map fun error => (("error" : JsString), error.toJson)).toList)

end PiToPi
