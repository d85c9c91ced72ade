import PiToPi.FrameCodec
import Mathlib.Tactic.Linarith

/-!
The decoder reads the frame format, however the stream is cut into chunks.

What a decoder holds depends only on the bytes it has been given (`reading`),
until it refuses them; and what is refused is refused for every longer string
(`refusal`). So one lemma about a push (`push_spec`) carries over to any chunks.
-/
namespace PiToPi.Transport
open FrameDecoder

section Format

/-- The format: what a whole byte string is. -/
def frameFormat (limit : Nat) (bytes : List UInt8) : Except FrameCodecErrorCode (List UInt8) :=
  if bytes.length < frameHeaderBytes then .error .truncatedFrame
  else if limit < readUInt32BE bytes then .error .oversizedFrame
  else if bytes.length < frameHeaderBytes + readUInt32BE bytes then .error .truncatedFrame
  else if frameHeaderBytes + readUInt32BE bytes < bytes.length then .error .trailingData
  else .ok (bytes.drop frameHeaderBytes)

/-- Why no stream that starts with these bytes is a frame. -/
def refusal (limit : Nat) (seen : List UInt8) : Option FrameCodecErrorCode :=
  if seen.length < frameHeaderBytes then none
  else if limit < readUInt32BE seen then some .oversizedFrame
  else if frameHeaderBytes + readUInt32BE seen < seen.length then some .trailingData
  else none

/-- What a decoder holds of bytes it has not refused. -/
def reading (limit : Nat) (seen : List UInt8) : FrameDecoder :=
  if seen.length < frameHeaderBytes then { FrameDecoder.new limit with header := seen }
  else
    { maxPayloadBytes := limit
      header := seen.take frameHeaderBytes
      body := some (seen.drop frameHeaderBytes)
      declaredLength := some (readUInt32BE seen)
      completedPayload := if seen.length = frameHeaderBytes + readUInt32BE seen then
        some (seen.drop frameHeaderBytes) else none
      failure := none }

/-- Push every chunk and finish. The first failure ends it. -/
def decodeChunks (d : FrameDecoder) : List (List UInt8) → Answer (List UInt8)
  | [] => d.finish
  | chunk :: rest => match d.push chunk with
    | (.error error, d) => (.error error, d)
    | (.ok _, d) => decodeChunks d rest

/-- Push every chunk, whatever comes of it. -/
def pushAll (d : FrameDecoder) (chunks : List (List UInt8)) : FrameDecoder :=
  chunks.foldl (fun d chunk => (d.push chunk).2) d

end Format

section Lengths

theorem readUInt32BE_append (seen bytes : List UInt8) (header : frameHeaderBytes ≤ seen.length) :
    readUInt32BE (seen ++ bytes) = readUInt32BE seen := by
  match seen, header with
  | _ :: _ :: _ :: _ :: _, _ => rfl

theorem readUInt32BE_write (payload : List UInt8) (value : Nat) (bound : value ≤ maxUInt32) :
    readUInt32BE (writeUInt32BE value ++ payload) = value := by
  unfold maxUInt32 at bound
  simp only [writeUInt32BE, readUInt32BE, List.cons_append]
  simp only [Nat.toUInt8, UInt8.toNat_ofNat']
  omega

theorem writeUInt32BE_length (value : Nat) : (writeUInt32BE value).length = frameHeaderBytes := rfl

end Lengths

section Push

/-- A push has answered for the bytes seen with it: they are kept, or the decoder
has failed for the reason there is. -/
def Pushed (limit : Nat) (seen : List UInt8) (answer : Answer α) : Prop :=
  match refusal limit seen with
  | none => (∃ result, answer.1 = .ok result) ∧ answer.2 = reading limit seen
  | some code => ∃ error, answer.1 = .error error ∧ error.code = code ∧
      answer.2.failure = some error ∧ (code = .oversizedFrame → answer.2.body = none)

theorem pushLoop_nil (fuel : Nat) (d : FrameDecoder) : pushLoop fuel d [] = (.ok none, d) := by
  cases fuel <;> rfl

/-- The body is there as far as the bytes go. -/
theorem pushBody_spec (limit : Nat) (seen bytes : List UInt8)
    (header : frameHeaderBytes ≤ seen.length) (within : readUInt32BE seen ≤ limit)
    (unfinished : seen.length < frameHeaderBytes + readUInt32BE seen) (fuel : Nat) :
    Pushed limit (seen ++ bytes) ((reading limit seen).pushBody (pushLoop fuel) bytes) := by
  have started : ¬seen.length < frameHeaderBytes := by omega
  have long : ¬(seen ++ bytes).length < frameHeaderBytes := by
    rw [List.length_append]
    omega
  have declared := readUInt32BE_append seen bytes header
  have dropped : (seen ++ bytes).drop frameHeaderBytes = seen.drop frameHeaderBytes ++ bytes :=
    List.drop_append_of_le_length header
  have taken : (seen ++ bytes).take frameHeaderBytes = seen.take frameHeaderBytes :=
    List.take_append_of_le_length header
  have length : (seen.drop frameHeaderBytes).length = seen.length - frameHeaderBytes :=
    List.length_drop
  by_cases enough : seen.length + bytes.length < frameHeaderBytes + readUInt32BE seen
  case pos =>
    -- The chunk ends inside the body.
    have all : min (readUInt32BE seen - (seen.length - frameHeaderBytes)) bytes.length =
        bytes.length := by omega
    have more : ¬seen.length - frameHeaderBytes + bytes.length = readUInt32BE seen := by omega
    have open_ : ¬seen.length + bytes.length = frameHeaderBytes + readUInt32BE seen := by omega
    have kept : refusal limit (seen ++ bytes) = none := by
      unfold refusal
      rw [if_neg long, declared, if_neg (by omega), List.length_append, if_neg (by omega)]
    unfold Pushed
    rw [kept]
    have answer : (reading limit seen).pushBody (pushLoop fuel) bytes =
        (.ok none, reading limit (seen ++ bytes)) := by
      unfold reading pushBody
      rw [if_neg started, if_neg long]
      simp only [FrameDecoder.bodyBytes, Option.getD_some, length, all, List.take_length,
        List.drop_length, List.length_append, more, ↓reduceIte, pushLoop_nil, declared, dropped,
        taken, open_, unfinished.ne]
    rw [answer]
    exact ⟨⟨none, rfl⟩, rfl⟩
  case neg =>
    have some_ : min (readUInt32BE seen - (seen.length - frameHeaderBytes)) bytes.length =
        frameHeaderBytes + readUInt32BE seen - seen.length := by omega
    have full : seen.length - frameHeaderBytes +
        min (frameHeaderBytes + readUInt32BE seen - seen.length) bytes.length =
          readUInt32BE seen := by omega
    by_cases rest : bytes.drop (frameHeaderBytes + readUInt32BE seen - seen.length) = []
    case pos =>
      have exact_ : seen.length + bytes.length = frameHeaderBytes + readUInt32BE seen := by
        have := List.drop_eq_nil_iff.mp rest
        omega
      have kept : refusal limit (seen ++ bytes) = none := by
        unfold refusal
        rw [if_neg long, declared, if_neg (by omega), List.length_append, if_neg (by omega)]
      have filled : seen.length - frameHeaderBytes + bytes.length = readUInt32BE seen := by omega
      have whole : bytes.take (frameHeaderBytes + readUInt32BE seen - seen.length) = bytes :=
        List.take_of_length_le (by omega)
      unfold Pushed
      rw [kept]
      have answer : (reading limit seen).pushBody (pushLoop fuel) bytes =
          (.ok (some (seen.drop frameHeaderBytes ++ bytes)), reading limit (seen ++ bytes)) := by
        unfold reading pushBody complete
        rw [if_neg started, if_neg long]
        simp only [FrameDecoder.bodyBytes, Option.getD_some, length, some_, List.length_append,
          filled, ↓reduceIte, rest, whole, declared, dropped, taken, exact_,
          ne_eq, not_true_eq_false]
      rw [answer]
      exact ⟨⟨_, rfl⟩, rfl⟩
    case neg =>
      have longer : frameHeaderBytes + readUInt32BE seen < seen.length + bytes.length := by
        by_contra short
        exact rest (List.drop_eq_nil_iff.mpr (by omega))
      have refused : refusal limit (seen ++ bytes) = some .trailingData := by
        unfold refusal
        rw [if_neg long, declared, if_neg (by omega), List.length_append, if_pos longer]
      unfold Pushed
      rw [refused]
      unfold reading pushBody complete failTrailing fail
      rw [if_neg started]
      simp only [FrameDecoder.bodyBytes, Option.getD_some, length, some_, List.length_append,
        List.length_take, full, ↓reduceIte, rest, ne_eq, not_false_eq_true]
      exact ⟨_, rfl, rfl, rfl, nofun⟩

/-- One chunk, pushed where the bytes seen so far are not yet a frame. -/
theorem pushLoop_spec (limit : Nat) (seen bytes : List UInt8) (open_ : refusal limit seen = none)
    (unfinished : seen.length < frameHeaderBytes ∨
      seen.length < frameHeaderBytes + readUInt32BE seen) (fuel : Nat) (enough : bytes.length ≤ fuel) :
    Pushed limit (seen ++ bytes) (pushLoop fuel (reading limit seen) bytes) := by
  by_cases none_ : bytes = []
  case pos =>
    rw [none_, pushLoop_nil, List.append_nil]
    unfold Pushed
    rw [open_]
    exact ⟨⟨none, rfl⟩, rfl⟩
  case neg =>
    have positive : 0 < bytes.length := List.length_pos_of_ne_nil none_
    obtain ⟨fuel, rfl⟩ : ∃ rounds, fuel = rounds + 1 := ⟨fuel - 1, by omega⟩
    unfold pushLoop
    rw [if_neg none_]
    by_cases started : seen.length < frameHeaderBytes
    case neg =>
      have header : frameHeaderBytes ≤ seen.length := by omega
      have held : ¬(reading limit seen).headerBytes < frameHeaderBytes := by
        unfold FrameDecoder.headerBytes reading
        rw [if_neg started]
        simp only [List.length_take]
        omega
      rw [if_neg held]
      have within : readUInt32BE seen ≤ limit := by
        by_contra past
        unfold refusal at open_
        rw [if_neg started, if_pos (by omega)] at open_
        cases open_
      exact pushBody_spec limit seen bytes header within (by omega) fuel
    case pos =>
      have state : reading limit seen = { FrameDecoder.new limit with header := seen } := by
        unfold reading
        rw [if_pos started]
      have held : (reading limit seen).headerBytes < frameHeaderBytes := by
        rw [state]
        exact started
      rw [if_pos held]
      by_cases short : seen.length + bytes.length < frameHeaderBytes
      case pos =>
        -- The chunk ends inside the header.
        have all : min (frameHeaderBytes - seen.length) bytes.length = bytes.length := by omega
        have kept : refusal limit (seen ++ bytes) = none := by
          unfold refusal
          rw [List.length_append, if_pos short]
        unfold Pushed
        rw [kept, state]
        simp only [FrameDecoder.headerBytes, all, List.take_length, List.length_append, short,
          ↓reduceIte]
        refine ⟨⟨none, rfl⟩, ?_⟩
        unfold reading
        rw [List.length_append, if_pos short]
      case neg =>
        have some_ : min (frameHeaderBytes - seen.length) bytes.length =
            frameHeaderBytes - seen.length := by omega
        -- What is left of the chunk comes after a whole header.
        obtain ⟨header, whole, parts⟩ : ∃ header, header.length = frameHeaderBytes ∧
            seen ++ bytes = header ++ bytes.drop (frameHeaderBytes - seen.length) ∧
            header = seen ++ bytes.take (frameHeaderBytes - seen.length) := by
          refine ⟨seen ++ bytes.take (frameHeaderBytes - seen.length), ?_, ?_, rfl⟩
          · rw [List.length_append, List.length_take]
            omega
          · rw [List.append_assoc, List.take_append_drop]
        obtain ⟨parts, filled⟩ := parts
        have long : ¬(seen ++ bytes).length < frameHeaderBytes := by
          rw [List.length_append]
          omega
        have declared : readUInt32BE (seen ++ bytes) = readUInt32BE header := by
          rw [parts]
          exact readUInt32BE_append header _ (by omega)
        rw [state]
        simp only [FrameDecoder.headerBytes, some_, ← filled, whole, Nat.lt_irrefl, ↓reduceIte]
        by_cases oversized : limit < readUInt32BE header
        case pos =>
          have refused : refusal limit (seen ++ bytes) = some .oversizedFrame := by
            unfold refusal
            rw [if_neg long, declared, if_pos oversized]
          unfold Pushed
          rw [refused]
          simp only [FrameDecoder.new, oversized, ↓reduceIte]
          exact ⟨_, rfl, rfl, rfl, fun _ => rfl⟩
        case neg =>
          have fits : ¬(FrameDecoder.new limit).maxPayloadBytes < readUInt32BE header := oversized
          have headed : header.take frameHeaderBytes = header := List.take_of_length_le whole.le
          have emptied : header.drop frameHeaderBytes = [] := List.drop_eq_nil_of_le whole.le
          simp only [fits, ↓reduceIte]
          by_cases empty : readUInt32BE header = 0
          case neg =>
            have begun : reading limit header = { FrameDecoder.new limit with
                header, declaredLength := some (readUInt32BE header), body := some [] } := by
              unfold reading
              rw [if_neg (by omega), if_neg (by omega), headed, emptied]
              rfl
            rw [if_neg empty, ← begun, parts]
            exact pushBody_spec limit header _ (by omega) (by omega) (by omega) fuel
          case pos =>
            rw [if_pos empty]
            unfold complete
            by_cases rest : bytes.drop (frameHeaderBytes - seen.length) = []
            case pos =>
              rw [rest, List.append_nil] at parts
              have kept : refusal limit (seen ++ bytes) = none := by
                unfold refusal
                rw [if_neg long, declared, if_neg oversized, parts, if_neg (by omega)]
              unfold Pushed
              rw [kept, rest, parts]
              simp only [ne_eq, not_true_eq_false, ↓reduceIte]
              refine ⟨⟨_, rfl⟩, ?_⟩
              unfold reading
              rw [if_neg (by omega), if_pos (by omega), headed, emptied]
              rfl
            case neg =>
              have more : 0 < (bytes.drop (frameHeaderBytes - seen.length)).length :=
                List.length_pos_of_ne_nil rest
              have refused : refusal limit (seen ++ bytes) = some .trailingData := by
                unfold refusal
                rw [if_neg long, declared, if_neg oversized, if_pos]
                rw [parts, List.length_append]
                omega
              unfold Pushed
              rw [refused]
              simp only [ne_eq, rest, not_false_eq_true, ↓reduceIte]
              exact ⟨_, rfl, rfl, rfl, nofun⟩

/-- A push anywhere before a failure. -/
theorem push_spec (limit : Nat) (seen chunk : List UInt8) (open_ : refusal limit seen = none) :
    Pushed limit (seen ++ chunk) ((reading limit seen).push chunk) := by
  unfold push
  by_cases started : seen.length < frameHeaderBytes
  case pos =>
    have state : reading limit seen = { FrameDecoder.new limit with header := seen } := by
      unfold reading
      rw [if_pos started]
    have pushed := pushLoop_spec limit seen chunk open_ (.inl started) chunk.length le_rfl
    rw [state] at pushed ⊢
    exact pushed
  case neg =>
    by_cases whole : seen.length = frameHeaderBytes + readUInt32BE seen
    case neg =>
      have within : seen.length < frameHeaderBytes + readUInt32BE seen := by
        unfold refusal at open_
        rw [if_neg started] at open_
        split at open_
        · cases open_
        · split at open_
          · cases open_
          · omega
      have pushed := pushLoop_spec limit seen chunk open_ (.inr within) chunk.length le_rfl
      have fresh : (reading limit seen).completedPayload = none := by
        unfold reading
        rw [if_neg started, if_neg whole]
      have unfailed : (reading limit seen).failure = none := by
        unfold reading
        rw [if_neg started]
      rw [fresh, unfailed]
      exact pushed
    case pos =>
      have done : (reading limit seen).completedPayload = some (seen.drop frameHeaderBytes) := by
        unfold reading
        rw [if_neg started, if_pos whole]
      have unfailed : (reading limit seen).failure = none := by
        unfold reading
        rw [if_neg started]
      rw [done, unfailed]
      by_cases none_ : chunk = []
      case pos =>
        rw [none_, List.append_nil]
        unfold Pushed
        rw [open_]
        exact ⟨⟨none, rfl⟩, rfl⟩
      case neg =>
        have positive : 0 < chunk.length := List.length_pos_of_ne_nil none_
        have refused : refusal limit (seen ++ chunk) = some .trailingData := by
          unfold refusal at open_ ⊢
          rw [if_neg started] at open_
          rw [List.length_append, if_neg (by omega), readUInt32BE_append seen chunk (by omega)]
          split
          · rename_i past
            rw [if_pos past] at open_
            cases open_
          · rw [if_pos (by omega)]
        unfold Pushed
        rw [refused]
        simp only [ne_eq, positive.ne', not_false_eq_true, ↓reduceIte]
        exact ⟨_, rfl, rfl, rfl, nofun⟩

end Push
section Runs

/-- What is refused is refused however the stream goes on. -/
theorem refusal_append (limit : Nat) (seen bytes : List UInt8) {code : FrameCodecErrorCode}
    (refused : refusal limit seen = some code) : refusal limit (seen ++ bytes) = some code := by
  unfold refusal at refused ⊢
  by_cases started : seen.length < frameHeaderBytes
  case pos =>
    rw [if_pos started] at refused
    cases refused
  case neg =>
    rw [if_neg started] at refused
    rw [List.length_append, if_neg (by omega), readUInt32BE_append seen bytes (by omega)]
    split
    · rename_i past
      rwa [if_pos past] at refused
    · rename_i within
      rw [if_neg within] at refused
      split at refused
      · rw [if_pos (by omega)]
        exact refused
      · cases refused

theorem frameFormat_refused (limit : Nat) (bytes : List UInt8) {code : FrameCodecErrorCode}
    (refused : refusal limit bytes = some code) : frameFormat limit bytes = .error code := by
  unfold refusal at refused
  unfold frameFormat
  split
  · rename_i short
    rw [if_pos short] at refused
    cases refused
  · rename_i long
    rw [if_neg long] at refused
    split
    · rename_i past
      rw [if_pos past] at refused
      cases refused
      rfl
    · rename_i within
      rw [if_neg within] at refused
      split at refused
      · rename_i trailing
        cases refused
        rw [if_neg (by omega), if_pos trailing]
      · cases refused

/-- The end of a stream that has not been refused. -/
theorem finish_spec (limit : Nat) (seen : List UInt8) (open_ : refusal limit seen = none) :
    (reading limit seen).finish.1.mapError (·.code) = frameFormat limit seen := by
  unfold refusal at open_
  unfold finish reading frameFormat
  by_cases started : seen.length < frameHeaderBytes
  case pos =>
    rw [if_pos started, if_pos started]
    rfl
  case neg =>
    rw [if_neg started] at open_ ⊢
    rw [if_neg started]
    split at open_
    · cases open_
    · rename_i within
      split at open_
      · cases open_
      · rename_i exact_
        rw [if_neg within]
        by_cases whole : seen.length = frameHeaderBytes + readUInt32BE seen
        · simp only [whole, ↓reduceIte, Nat.lt_irrefl]
          rfl
        · simp only [whole, ↓reduceIte, show seen.length < frameHeaderBytes + readUInt32BE seen
            from by omega]
          rfl

theorem decodeChunks_spec (limit : Nat) (chunks : List (List UInt8)) (seen : List UInt8)
    (open_ : refusal limit seen = none) :
    (decodeChunks (reading limit seen) chunks).1.mapError (·.code) =
      frameFormat limit (seen ++ chunks.flatten) := by
  induction chunks generalizing seen with
  | nil =>
    rw [List.flatten_nil, List.append_nil]
    exact finish_spec limit seen open_
  | cons chunk rest ih =>
    rw [List.flatten_cons, ← List.append_assoc]
    have pushed := push_spec limit seen chunk open_
    unfold Pushed at pushed
    unfold decodeChunks
    cases refused : refusal limit (seen ++ chunk) with
    | none =>
      rw [refused] at pushed
      obtain ⟨⟨result, returned⟩, state⟩ := pushed
      rw [show (reading limit seen).push chunk = (.ok result, reading limit (seen ++ chunk)) from
        Prod.ext returned state]
      exact ih (seen ++ chunk) refused
    | some code =>
      rw [refused] at pushed
      obtain ⟨error, thrown, reason, -⟩ := pushed
      rw [show (reading limit seen).push chunk = (.error error, ((reading limit seen).push chunk).2)
        from Prod.ext thrown rfl]
      rw [frameFormat_refused limit _ (refusal_append limit _ _ refused), ← reason]
      rfl

theorem push_failed (d : FrameDecoder) {error : FrameCodecError} (failed : d.failure = some error)
    (chunk : List UInt8) : d.push chunk = (.error error, d) := by
  unfold push
  rw [failed]

theorem finish_failed (d : FrameDecoder) {error : FrameCodecError} (failed : d.failure = some error) :
    d.finish = (.error error, d) := by
  unfold finish
  rw [failed]

/-- Whatever is thrown is kept as the failure. -/
def Remembers (answer : Answer α) : Prop :=
  ∀ error, answer.1 = .error error → answer.2.failure = some error

theorem fail_remembers (d : FrameDecoder) (error : FrameCodecError) :
    Remembers (d.fail error : Answer α) := by
  rintro _ ⟨⟩
  rfl

theorem complete_remembers (d : FrameDecoder) (payload rest : List UInt8) :
    Remembers (d.complete payload rest) := by
  unfold complete
  dsimp only
  split
  · exact fail_remembers _ _
  · exact nofun

theorem pushBody_remembers (d : FrameDecoder) (bytes : List UInt8)
    {next : FrameDecoder → List UInt8 → Answer (Option (List UInt8))}
    (rest : ∀ d bytes, Remembers (next d bytes)) : Remembers (d.pushBody next bytes) := by
  unfold pushBody
  split
  · dsimp only
    split
    · exact complete_remembers _ _ _
    · exact rest _ _
  · exact fail_remembers _ _

theorem pushLoop_remembers (fuel : Nat) (d : FrameDecoder) (bytes : List UInt8) :
    Remembers (pushLoop fuel d bytes) := by
  induction fuel generalizing d bytes with
  | zero => exact nofun
  | succ fuel ih =>
    unfold pushLoop
    split
    · exact nofun
    · split
      · dsimp only
        split
        · exact nofun
        · split
          · exact fail_remembers _ _
          · split
            · exact complete_remembers _ _ _
            · exact pushBody_remembers _ _ ih
      · exact pushBody_remembers _ _ ih

theorem push_remembers (d : FrameDecoder) (chunk : List UInt8) : Remembers (d.push chunk) := by
  unfold push
  split
  · rename_i failed
    rintro _ ⟨⟩
    exact failed
  · split
    · exact fail_remembers _ _
    · exact nofun
  · exact pushLoop_remembers _ _ _

theorem finish_remembers (d : FrameDecoder) : Remembers d.finish := by
  unfold finish
  split
  · rename_i failed
    rintro _ ⟨⟩
    exact failed
  · exact nofun
  · exact fail_remembers _ _

theorem pushAll_failed (d : FrameDecoder) {error : FrameCodecError} (failed : d.failure = some error)
    (chunks : List (List UInt8)) : pushAll d chunks = d := by
  induction chunks with
  | nil => rfl
  | cons chunk rest ih =>
    unfold pushAll at ih ⊢
    rw [List.foldl_cons, push_failed d failed chunk]
    exact ih

/-- No body buffer is ever allocated for an oversized length. -/
theorem pushAll_oversized (limit : Nat) (chunks : List (List UInt8)) (seen : List UInt8)
    (open_ : refusal limit seen = none)
    (oversized : refusal limit (seen ++ chunks.flatten) = some .oversizedFrame) :
    (pushAll (reading limit seen) chunks).body = none := by
  induction chunks generalizing seen with
  | nil =>
    rw [List.flatten_nil, List.append_nil, open_] at oversized
    cases oversized
  | cons chunk rest ih =>
    rw [List.flatten_cons, ← List.append_assoc] at oversized
    have pushed := push_spec limit seen chunk open_
    unfold Pushed at pushed
    cases refused : refusal limit (seen ++ chunk) with
    | none =>
      rw [refused] at pushed
      have after : pushAll (reading limit seen) (chunk :: rest) =
          pushAll (reading limit (seen ++ chunk)) rest := by
        rw [← pushed.2]
        rfl
      rw [after]
      exact ih (seen ++ chunk) refused oversized
    | some code =>
      rw [refused] at pushed
      obtain ⟨error, -, -, failed, empty⟩ := pushed
      have same : code = .oversizedFrame := by
        have later := refusal_append limit (seen ++ chunk) rest.flatten refused
        exact Option.some.inj (later.symm.trans oversized)
      have after : pushAll (reading limit seen) (chunk :: rest) =
          ((reading limit seen).push chunk).2 :=
        pushAll_failed _ failed rest
      rw [after]
      exact empty same

end Runs

theorem reading_nil (limit : Nat) : reading limit [] = FrameDecoder.new limit := rfl

theorem normalizeMaxPayloadBytes_bound {options : Option Int} {limit : Nat}
    (legal : normalizeMaxPayloadBytes options = .ok limit) : limit ≤ maxUInt32 := by
  unfold normalizeMaxPayloadBytes at legal
  dsimp only at legal
  split at legal
  · cases legal
  · cases legal
    omega

/-- An encoded payload is a frame of the format. -/
theorem frameFormat_encoded (limit : Nat) (payload : List UInt8) (bound : limit ≤ maxUInt32)
    (fits : payload.length ≤ limit) :
    frameFormat limit (writeUInt32BE payload.length ++ payload) = .ok payload := by
  have declared := readUInt32BE_write payload payload.length (fits.trans bound)
  have length : (writeUInt32BE payload.length ++ payload).length =
      frameHeaderBytes + payload.length := by
    rw [List.length_append, writeUInt32BE_length]
  unfold frameFormat
  rw [declared, length, if_neg (by omega), if_neg (by omega), if_neg (by omega), if_neg (by omega)]
  rfl

/-- The codec is its format: for every legal limit, every byte string and every way
to cut it into chunks. -/
theorem frameCodec (legal : normalizeMaxPayloadBytes options = .ok limit) :
    (∀ chunks : List (List UInt8),
      (decodeChunks (.new limit) chunks).1.mapError (·.code) = frameFormat limit chunks.flatten) ∧
    (∀ (d : FrameDecoder) chunk error, (d.push chunk).1 = .error error →
      (∀ later, ((d.push chunk).2.push later).1 = .error error) ∧
        (d.push chunk).2.finish.1 = .error error) ∧
    (∀ (d : FrameDecoder) error, d.finish.1 = .error error →
      (∀ later, (d.finish.2.push later).1 = .error error) ∧ d.finish.2.finish.1 = .error error) ∧
    (∀ chunks : List (List UInt8), frameFormat limit chunks.flatten = .error .oversizedFrame →
      (pushAll (.new limit) chunks).body = none) ∧
    (∀ payload : List UInt8, payload.length ≤ limit → ∃ frame, encodeFrame payload options = .ok frame ∧
      ∀ chunks : List (List UInt8), chunks.flatten = frame →
        (decodeChunks (.new limit) chunks).1 = .ok payload) ∧
    ∀ payload : List UInt8, limit < payload.length →
      ∃ error, encodeFrame payload options = .error error ∧ error.code = .oversizedFrame := by
  have decoded : ∀ chunks : List (List UInt8),
      (decodeChunks (.new limit) chunks).1.mapError (·.code) = frameFormat limit chunks.flatten :=
    fun chunks => decodeChunks_spec limit chunks [] rfl
  refine ⟨decoded, ?_, ?_, ?_, ?_, ?_⟩
  · intro d chunk error thrown
    have failed := push_remembers d chunk error thrown
    refine ⟨fun later => ?_, ?_⟩
    · rw [push_failed _ failed]
    · rw [finish_failed _ failed]
  · intro d error thrown
    have failed := finish_remembers d error thrown
    refine ⟨fun later => ?_, ?_⟩
    · rw [push_failed _ failed]
    · rw [finish_failed _ failed]
  · intro chunks oversized
    have refused : refusal limit chunks.flatten = some .oversizedFrame := by
      unfold frameFormat at oversized
      unfold refusal
      split at oversized
      · cases oversized
      · rename_i long
        rw [if_neg long]
        split at oversized
        · rename_i past
          rw [if_pos past]
        · split at oversized
          · cases oversized
          · split at oversized <;> cases oversized
    exact pushAll_oversized limit chunks [] rfl refused
  · intro payload fits
    have bound := normalizeMaxPayloadBytes_bound legal
    refine ⟨writeUInt32BE payload.length ++ payload, ?_, ?_⟩
    · unfold encodeFrame
      rw [legal]
      exact if_neg (Nat.not_lt.mpr fits)
    · intro chunks whole
      have same := decoded chunks
      rw [whole, frameFormat_encoded limit payload bound fits] at same
      cases answer : (decodeChunks (.new limit) chunks).1 with
      | error error =>
        rw [answer] at same
        cases same
      | ok payload' =>
        rw [answer] at same
        cases same
        rfl
  · intro payload past
    unfold encodeFrame
    rw [legal]
    dsimp only
    rw [if_pos past]
    exact ⟨_, rfl, rfl⟩

theorem frameCodec_small :
    normalizeMaxPayloadBytes (some 3) = .ok 3 ∧
      ∀ payload : List UInt8, payload.length ≤ 3 → ∃ frame, encodeFrame payload (some 3) = .ok frame ∧
        ∀ chunks : List (List UInt8), chunks.flatten = frame →
          (decodeChunks (.new 3) chunks).1 = .ok payload :=
  ⟨rfl, (@frameCodec (some 3) 3 rfl).2.2.2.2.1⟩

end PiToPi.Transport
