import PiToPi.Dates
import PiToPi.ProtocolError

/-!
Task states with their legal transitions, the content and errors a task
carries, and its immutable snapshots.
-/
namespace PiToPi

/-- `TASK_STATES`. -/
inductive TaskState where
  | created | accepted | queued | working | cancelling | completed | failed | rejected
  | cancelled | expired
  deriving DecidableEq, Repr

/-- `TASK_STATE_TRANSITIONS`. -/
def taskStateTransitions : TaskState → List TaskState
  | .created => [.accepted, .rejected, .expired]
  | .accepted => [.queued, .working, .rejected, .cancelling, .cancelled, .expired]
  | .queued => [.working, .rejected, .cancelling, .cancelled, .expired]
  | .working => [.completed, .failed, .rejected, .cancelling, .expired]
  | .cancelling => [.cancelled, .completed, .failed, .expired]
  | .completed | .failed | .rejected | .cancelled | .expired => []

def canTransitionTaskState (source target : TaskState) : Bool :=
  (taskStateTransitions source).contains target

/-- `isTerminalTaskState`: the state is one of `TERMINAL_OUTCOMES`. -/
def isTerminalTaskState : TaskState → Bool
  | .completed | .failed | .rejected | .cancelled | .expired => true
  | .created | .accepted | .queued | .working | .cancelling => false

/-- No transition leaves a terminal state. -/
theorem not_terminal_of_canTransition (legal : canTransitionTaskState source target = true) :
    isTerminalTaskState source = false := by
  cases source <;> first | rfl | cases target <;> simp [canTransitionTaskState, taskStateTransitions] at legal

/-- A task that is not terminal can always expire. -/
theorem canTransition_expired (live : isTerminalTaskState source = false) :
    canTransitionTaskState source .expired = true := by
  cases source <;> simp_all [isTerminalTaskState, canTransitionTaskState, taskStateTransitions]

inductive Content where
  | text (text : JsString)
  | json (value : Json)
  deriving DecidableEq

/-- `ExpectedResponse`, whose content type is always `json`. -/
structure ExpectedResponse where
  schema : Json
  deriving DecidableEq

/-- `CancellationSnapshot`, whose state is always `requested`. -/
structure CancellationSnapshot where
  requestedAt : Option JsString
  deriving DecidableEq

structure TaskSnapshot where
  requestId : JsString
  state : TaskState
  createdAt : JsString
  updatedAt : JsString
  expiresAt : JsString
  cancellationRequested : Bool
  cancellation : Option CancellationSnapshot
  terminalOutcome : Option TaskState
  content : Option Content
  error : Option ProtocolError
  deriving DecidableEq

/-- The property names an array makes read-only once it is frozen. -/
def frozenArrayKeys (length : Nat) : List JsString :=
  JsString.ofString "length" :: (List.range length).map JsString.ofNat

mutual
/-- `cloneAndFreeze` of a JSON value, or `none` for the `TypeError` of an
assignment to a name its new prototype makes read-only. -/
def cloneAndFreeze : Json → Option Json
  | .array elements => (cloneElements elements).map .array
  | .object _ members => (cloneMembers none members).map fun (readOnly, copy) =>
      .object readOnly copy
  | .null => some .null
  | .bool value => some (.bool value)
  | .number value => some (.number value)
  | .string value => some (.string value)

def cloneElements : List Json → Option (List Json)
  | [] => some []
  | item :: rest =>
    match cloneAndFreeze item, cloneElements rest with
    | some copy, some copies => some (copy :: copies)
    | _, _ => none

/-- Copies members one by one with `copy[key] = value`; the frozen copy of an
object under `__proto__` becomes the prototype instead. -/
def cloneMembers (readOnly : Option (List JsString)) : List (JsString × Json) →
    Option (Option (List JsString) × List (JsString × Json))
  | [] => some (readOnly, [])
  | (key, item) :: rest =>
    match cloneAndFreeze item with
    | none => none
    | some copy =>
      if key = "__proto__" then
        match copy with
        | .object inherited members =>
          cloneMembers (some (members.map Prod.fst ++ inherited.getD [])) rest
        | .array elements => cloneMembers (some (frozenArrayKeys elements.length)) rest
        | .null | .bool _ | .number _ | .string _ => cloneMembers readOnly rest
      else if key ∈ readOnly.getD [] then none
      else (cloneMembers readOnly rest).map fun (readOnly, copies) => (readOnly, (key, copy) :: copies)
end

namespace Content

/-- `cloneAndFreeze` of a content record. -/
def cloneAndFreeze : Content → Option Content
  | .text words => some (.text words)
  | .json tree => (PiToPi.cloneAndFreeze tree).map .json

end Content

/-- `cloneAndFreeze` of a protocol error. -/
def ProtocolError.cloneAndFreeze (error : ProtocolError) : Option ProtocolError :=
  match error.details with
  | none => some error
  | some details => (PiToPi.cloneAndFreeze details).map fun copy => { error with details := some copy }

/-- `TaskTimestampInput`: a wire text, a `Date` (`none` when invalid) or a number
(`none` when not finite). -/
inductive TimestampInput where
  | wire (text : JsString)
  | date (time : Option Int)
  | number (epochMs : Option ℚ)

structure NormalizedTimestamp where
  value : JsString
  epochMs : ℚ

/-- `normalizeTimestamp`, or the message of its `RangeError`. -/
def normalizeTimestamp (host : Host) : TimestampInput → Except JsString NormalizedTimestamp
  | .date time => match time.bind Date.toISOString, time with
    | some value, some epochMs => .ok { value, epochMs }
    | _, _ => .error "Invalid time value"
  | .number epochMs => match (epochMs.bind Date.timeClip).bind Date.toISOString, epochMs with
    | some value, some epochMs => .ok { value, epochMs }
    | _, _ => .error "Invalid time value"
  | .wire value => match Date.parse host value with
    | some epochMs => .ok { value, epochMs }
    | none => .error "task timestamps must be finite dates"

/-- `nowTimestamp`. -/
def nowTimestamp (host : Host) (epochMs : ℚ) : Except JsString NormalizedTimestamp :=
  normalizeTimestamp host (.date (Date.timeClip epochMs))

/-- A normalised time is the time its text denotes. -/
theorem parse_normalizeTimestamp (normal : normalizeTimestamp host input = .ok stamp) :
    ∃ time, Date.parse host stamp.value = some time ∧ Date.timeClip stamp.epochMs = some time := by
  cases input with
  | wire text =>
    simp only [normalizeTimestamp] at normal
    split at normal
    · rename_i time parsed
      cases normal
      exact ⟨time, parsed, by rw [Date.timeClip_intCast]; exact Date.clip_of_parse parsed⟩
    · cases normal
  | date time =>
    simp only [normalizeTimestamp] at normal
    split at normal
    · rename_i value epochMs written
      cases normal
      have parsed : Date.parse host value = some epochMs := Date.parse_toISOString written
      exact ⟨epochMs, parsed, by rw [Date.timeClip_intCast]; exact Date.clip_of_parse parsed⟩
    · cases normal
  | number epochMs =>
    simp only [normalizeTimestamp] at normal
    split at normal
    · rename_i value epochMs written
      cases normal
      obtain ⟨time, clipped, written⟩ := Option.bind_eq_some_iff.mp written
      exact ⟨time, Date.parse_toISOString written, clipped⟩
    · cases normal

/-- A number that denotes a time value has a timestamp. -/
theorem nowTimestamp_ok (host : Host) (clipped : Date.timeClip epochMs = some time) :
    ∃ stamp, nowTimestamp host epochMs = .ok stamp ∧ stamp.epochMs = time := by
  have inRange : Date.clip time = some time := by
    obtain ⟨rfl, range⟩ := Date.clip_eq_some_iff.mp clipped
    exact Date.clip_eq_some_iff.mpr ⟨rfl, range⟩
  refine ⟨⟨⟨Date.isoUnits time⟩, time⟩, ?_, rfl⟩
  simp [nowTimestamp, normalizeTimestamp, clipped, Date.toISOString, inRange]

end PiToPi
