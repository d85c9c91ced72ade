import PiToPi.Validation

/-!
What a response that is accepted has: the fields it was read from, and a result of its
operation about the request that was expected.
-/
namespace PiToPi
namespace Validation

theorem find?_name {α : Type} {name : α → JsString} {all : List α} {text : JsString} {found : α}
    (here : (all.find? fun x => name x = text) = some found) : name found = text := by
  simpa using List.find?_some here

theorem OperationName.name_ofName? {text : JsString} {operation : OperationName}
    (named : OperationName.ofName? text = some operation) : operation.name = text := find?_name named

theorem OperationName.ofName?_name (operation : OperationName) :
    OperationName.ofName? operation.name = some operation := by
  cases operation <;> decide +kernel

theorem OperationName.name_injective : Function.Injective OperationName.name := by
  intro first second same
  apply Option.some.inj
  rw [← ofName?_name first, ← ofName?_name second, same]

theorem string_of_asString? {value : Option Json} {text : JsString}
    (read : value.bind Json.asString? = some text) : value = some (.string text) := by
  obtain ⟨json, rfl, shape⟩ := Option.bind_eq_some_iff.mp read
  cases json with
  | string other =>
    cases shape
    rfl
  | null => cases shape
  | bool flag => cases shape
  | number n => cases shape
  | array elements => cases shape
  | object readOnly members => cases shape

section Checks

theorem require_ok {held : Bool} {code : ValidationErrorCode} {path reason : JsString}
    (passed : require held code path reason = .ok ()) : held = true := by
  cases held with
  | true => rfl
  | false => cases passed

theorem requireField_ok {held : Bool} {code : ValidationErrorCode} {path reason keyword : JsString}
    (passed : requireField held code path reason keyword = .ok ()) : held = true := by
  cases held with
  | true => rfl
  | false => cases passed

/-- A check in two parts passes both. -/
theorem bind_ok {ε α β : Type} {first : Except ε α} {next : α → Except ε β} {result : β}
    (passed : (first >>= next) = .ok result) : ∃ value, first = .ok value ∧ next value = .ok result := by
  cases first with
  | error refusal => cases passed
  | ok value => exact ⟨value, rfl, passed⟩

theorem orFault_ok {α : Type} {value : Option α} {code : ValidationErrorCode}
    {message path reason : JsString} {found : α}
    (passed : orFault value code message path reason = .ok found) : value = some found := by
  cases value with
  | none => cases passed
  | some other =>
    cases passed
    rfl

theorem faultUnless_ok {held : Bool} {code : ValidationErrorCode} {message path reason : JsString}
    (passed : faultUnless held code message path reason = .ok ()) : held = true := by
  cases held with
  | true => rfl
  | false => cases passed

theorem answerCheck_success {α : Type} {check : Check Unit} {value found : α}
    (answered : answerCheck check value = .ok (.success found)) : check = .ok () ∧ found = value := by
  cases check with
  | ok =>
    cases answered
    exact ⟨rfl, rfl⟩
  | error refusal =>
    cases refusal with
    | issue found => cases answered
    | rangeError message => cases answered

end Checks

section Responses

variable {host : Host} {options : ValidationOptions} {value : Json} {response : OperationResponse}

theorem responseFields_ok {operation : OperationName} {operationId traceId : JsString}
    (read : responseFields value = .ok (operation, operationId, traceId)) :
    value.isPlainObject = true ∧ value.get? "operation" = some (.string operation.name) ∧
      value.get? "operationId" = some (.string operationId) ∧
      value.get? "traceId" = some (.string traceId) := by
  unfold responseFields at read
  obtain ⟨_, plain, read⟩ := bind_ok read
  obtain ⟨version, _, read⟩ := bind_ok read
  obtain ⟨_, _, read⟩ := bind_ok read
  obtain ⟨name, named, read⟩ := bind_ok read
  obtain ⟨found, known, read⟩ := bind_ok read
  obtain ⟨id, identified, read⟩ := bind_ok read
  obtain ⟨trace, traced, read⟩ := bind_ok read
  cases read
  refine ⟨faultUnless_ok plain, ?_, ?_, ?_⟩
  · rw [OperationName.name_ofName? (orFault_ok known)]
    exact string_of_asString? (orFault_ok named)
  · exact string_of_asString? (Option.filter_eq_some_iff.mp (orFault_ok identified)).1
  · exact string_of_asString? (Option.filter_eq_some_iff.mp (orFault_ok traced)).1

/-- What is read of a response that is accepted. -/
structure Accepted (host : Host) (options : ValidationOptions) (value : Json)
    (response : OperationResponse) : Prop where
  plain : value.isPlainObject = true
  operation : value.get? "operation" = some (.string response.operation.name)
  operationId : value.get? "operationId" = some (.string response.operationId)
  traceId : value.get? "traceId" = some (.string response.traceId)
  result : ∀ result, response.outcome = .ok result → value.get? "result" = some result ∧
    validateResultForOperation host options response.operation result "$.result" response.operationId =
      .ok ()

theorem validateOperationResponse_success
    (accepted : validateOperationResponse host options value = .ok (.success response)) :
    Accepted host options value response := by
  unfold validateOperationResponse at accepted
  obtain ⟨limits, _, accepted⟩ := bind_ok accepted
  cases measured : measureJsonBytes limits.maxEnvelopeBytes value with
  | tooLarge bytes => rw [measured] at accepted; cases accepted
  | invalid path reason => rw [measured] at accepted; cases accepted
  | ok bytes =>
    rw [measured] at accepted
    cases read : responseFields value with
    | error fault => simp only [read] at accepted; cases accepted
    | ok fields =>
      obtain ⟨operation, operationId, traceId⟩ := fields
      simp only [read] at accepted
      obtain ⟨plain, named, identified, traced⟩ := responseFields_ok read
      unfold validateOutcome at accepted
      split at accepted
      · rename_i result given _
        obtain ⟨checked, rfl⟩ := answerCheck_success accepted
        refine ⟨plain, named, identified, traced, ?_⟩
        rintro _ ⟨⟩
        exact ⟨given, checked⟩
      · obtain ⟨_, rfl⟩ := answerCheck_success accepted
        exact ⟨plain, named, identified, traced, nofun⟩
      · cases accepted

/-- The result is about a request. -/
def AboutRequest (operation : OperationName) (result : Json) (requestId : JsString) : Prop :=
  match operation with
  | .messageRequest | .messageReply => result.get? "requestId" = some (.string requestId)
  | .taskStatus | .taskCancel =>
    (result.get? "snapshot").bind (·.get? "requestId") = some (.string requestId)
  | .peerDescribe | .messageNotify => True

/-- The result of an operation. -/
def ResultOf (operation : OperationName) (result : Json) : Prop :=
  match operation with
  | .peerDescribe => result.hasOwn "agentCard" = true
  | .messageRequest => hasText (result.get? "requestId") isUuidV4 = true ∧
      (result.get? "state" = some (.string "accepted") ∨ result.get? "state" = some (.string "queued"))
  | .messageReply => hasText (result.get? "outcome") isTerminalOutcome = true ∧
      result.get? "delivered" = some (.bool true)
  | .messageNotify => result.get? "delivered" = some (.bool true)
  | .taskStatus | .taskCancel => ∃ snapshot, result.get? "snapshot" = some snapshot ∧
      hasText (snapshot.get? "requestId") isUuidV4 = true

theorem requireExpected_ok {result : Json} {path reason requestId : JsString}
    (passed : requireExpected options result path reason = .ok ())
    (expected : options.expectedRequestId = some requestId) :
    result.get? "requestId" = some (.string requestId) := by
  have held := requireField_ok passed
  rw [expected] at held
  exact beq_iff_eq.mp held

/-- A snapshot that is accepted is of the request that is expected. -/
theorem validateTaskSnapshotInternal_ok {snapshot : Json} {path : JsString}
    (passed : validateTaskSnapshotInternal host options snapshot path = .ok ()) :
    hasText (snapshot.get? "requestId") isUuidV4 = true ∧
      ∀ requestId ∈ options.expectedRequestId, snapshot.get? "requestId" = some (.string requestId) := by
  unfold validateTaskSnapshotInternal at passed
  obtain ⟨_, _, passed⟩ := bind_ok passed
  obtain ⟨_, identified, passed⟩ := bind_ok passed
  obtain ⟨_, expected, _⟩ := bind_ok passed
  refine ⟨requireField_ok identified, ?_⟩
  intro requestId given
  have held := requireField_ok expected
  rw [Option.mem_def.mp given] at held
  exact beq_iff_eq.mp held

theorem hasText_or {value : Option Json} {first second : JsString}
    (held : hasText value (fun text => text == first || text == second) = true) :
    value = some (.string first) ∨ value = some (.string second) := by
  unfold hasText at held
  cases read : value.bind Json.asString? with
  | none => rw [read] at held; cases held
  | some text =>
    rw [read, Option.any_some, Bool.or_eq_true, beq_iff_eq, beq_iff_eq] at held
    rw [string_of_asString? read]
    rcases held with rfl | rfl
    · exact .inl rfl
    · exact .inr rfl

/-- A result that is accepted is one of its operation, about the request that is expected. -/
theorem validateResultForOperation_ok {operation : OperationName} {result : Json}
    {path responseOperationId : JsString}
    (passed : validateResultForOperation host options operation result path responseOperationId = .ok ()) :
    ResultOf operation result ∧
      ∀ requestId ∈ options.expectedRequestId, AboutRequest operation result requestId := by
  unfold validateResultForOperation at passed
  obtain ⟨_, _, passed⟩ := bind_ok passed
  cases operation with
  | peerDescribe =>
    dsimp only at passed
    cases card : result.get? "agentCard" with
    | none => rw [card] at passed; cases passed
    | some agentCard => exact ⟨Json.hasOwn_iff.mpr ⟨_, card⟩, fun _ _ => trivial⟩
  | messageRequest =>
    obtain ⟨_, identified, passed⟩ := bind_ok passed
    obtain ⟨_, _, passed⟩ := bind_ok passed
    obtain ⟨_, expected, state⟩ := bind_ok passed
    exact ⟨⟨requireField_ok identified, hasText_or (requireField_ok state)⟩,
      fun _ given => requireExpected_ok expected (Option.mem_def.mp given)⟩
  | messageReply =>
    obtain ⟨_, _, passed⟩ := bind_ok passed
    obtain ⟨_, expected, passed⟩ := bind_ok passed
    obtain ⟨_, outcome, delivered⟩ := bind_ok passed
    exact ⟨⟨requireField_ok outcome, beq_iff_eq.mp (requireField_ok delivered)⟩,
      fun _ given => requireExpected_ok expected (Option.mem_def.mp given)⟩
  | messageNotify => exact ⟨beq_iff_eq.mp (requireField_ok passed), fun _ _ => trivial⟩
  | taskStatus | taskCancel =>
    dsimp only at passed
    cases given : result.get? "snapshot" with
    | none => rw [given] at passed; cases passed
    | some snapshot =>
      rw [given] at passed
      obtain ⟨identified, expected⟩ := validateTaskSnapshotInternal_ok passed
      refine ⟨⟨snapshot, given, identified⟩, fun requestId named => ?_⟩
      show (result.get? "snapshot").bind _ = _
      rw [given]
      exact expected requestId named

end Responses

/-- The limits of the protocol. -/
def ceilingLimits : ProtocolLimits where
  requestTtlMs := 3600000
  maxRequestTtlMs := 3600000
  maxControlTtlMs := 30000
  maxEnvelopeBytes := 1048576
  maxSchemaBytes := 65536
  maxQueueEntries := 32
  ceilings := by
    intro limit member
    simp only [List.mem_cons, List.not_mem_nil, or_false] at member
    rcases member with rfl | rfl | rfl | rfl | rfl | rfl <;> constructor <;>
      simp [maxRequestTtlMs, maxControlTtlMs, maxEnvelopeBytes,
        maxSchemaBytes, defaultQueueLimit]
  ordered := le_refl _

end Validation
end PiToPi
