import Mathlib.Data.List.Basic
import Mathlib.Tactic.Common

/-!
The local-IPC frame format: a four-byte big-endian payload length, then the
payload. `encodeFrame` writes one, `FrameDecoder` reads one from any chunks.

A buffer that is filled from its start is the list of the bytes written so far.
-/
namespace PiToPi.Transport

def frameHeaderBytes : Nat := 4
def maxUInt32 : Nat := 0xffffffff
def defaultMaxPayloadBytes : Nat := 1024 * 1024

inductive FrameCodecErrorCode where
  | invalidMaxPayload | oversizedFrame | truncatedFrame | trailingData
  deriving DecidableEq, Repr

structure FrameCodecError where
  code : FrameCodecErrorCode
  message : String
  declaredLength : Option Nat
  maxPayloadBytes : Option Nat
  receivedBytes : Option Nat
  deriving DecidableEq

/-- `normalizeMaxPayloadBytes(options)`, of an integer or nothing. -/
def normalizeMaxPayloadBytes (options : Option Int) : Except FrameCodecError Nat :=
  let configured := options.getD defaultMaxPayloadBytes
  if configured < 0 ∨ maxUInt32 < configured then .error
    { code := .invalidMaxPayload
      message := "maxPayloadBytes must be an integer between 0 and " ++ toString maxUInt32 ++
        ", got " ++ toString configured
      declaredLength := none
      maxPayloadBytes := none
      receivedBytes := none }
  else .ok configured.toNat

/-- `buffer.writeUInt32BE(value, 0)`. -/
def writeUInt32BE (value : Nat) : List UInt8 :=
  [(value / 0x1000000 % 0x100).toUInt8, (value / 0x10000 % 0x100).toUInt8,
    (value / 0x100 % 0x100).toUInt8, (value % 0x100).toUInt8]

/-- `buffer.readUInt32BE(0)`. -/
def readUInt32BE : List UInt8 → Nat
  | a :: b :: c :: d :: _ =>
    a.toNat * 0x1000000 + b.toNat * 0x10000 + c.toNat * 0x100 + d.toNat
  | _ => 0

/-- `encodeFrame(payload, options)`. -/
def encodeFrame (payload : List UInt8) (options : Option Int) : Except FrameCodecError (List UInt8) :=
  match normalizeMaxPayloadBytes options with
  | .error error => .error error
  | .ok maxPayloadBytes =>
    if maxPayloadBytes < payload.length then .error
      { code := .oversizedFrame
        message := "Payload length " ++ toString payload.length ++ " exceeds maximum " ++
          toString maxPayloadBytes
        declaredLength := some payload.length
        maxPayloadBytes := some maxPayloadBytes
        receivedBytes := none }
    else .ok (writeUInt32BE payload.length ++ payload)

structure FrameDecoder where
  maxPayloadBytes : Nat
  header : List UInt8
  /-- The body buffer, once it is allocated. -/
  body : Option (List UInt8)
  declaredLength : Option Nat
  completedPayload : Option (List UInt8)
  failure : Option FrameCodecError

/-- What a call throws or returns, and the decoder after it. -/
abbrev Answer (α : Type) := Except FrameCodecError α × FrameDecoder

namespace FrameDecoder

/-- `new FrameDecoder(options)`, with the limit already normalised. -/
def new (maxPayloadBytes : Nat) : FrameDecoder where
  maxPayloadBytes
  header := []
  body := none
  declaredLength := none
  completedPayload := none
  failure := none

variable (d : FrameDecoder)

def headerBytes : Nat := d.header.length
def bodyBytes : Nat := (d.body.getD []).length
def receivedBytes : Nat := d.headerBytes + d.bodyBytes

/-- `fail(code, message, details)`. -/
def fail (error : FrameCodecError) : Answer α := (.error error, { d with failure := some error })

def plural (count : Nat) : String := if count = 1 then "" else "s"

/-- `fail('trailing-data', …)` with `count` bytes too many. -/
def failTrailing (count : Nat) : Answer α := d.fail
  { code := .trailingData
    message := "Unexpected " ++ toString count ++ " trailing byte" ++ plural count ++ " after frame"
    declaredLength := none
    maxPayloadBytes := none
    receivedBytes := some d.receivedBytes }

def failOversized (declaredLength : Nat) : Answer α := d.fail
  { code := .oversizedFrame
    message := "Declared payload length " ++ toString declaredLength ++ " exceeds maximum " ++
      toString d.maxPayloadBytes
    declaredLength := some declaredLength
    maxPayloadBytes := some d.maxPayloadBytes
    receivedBytes := none }

def failInvalidBody : Answer α := d.fail
  { code := .truncatedFrame
    message := "Decoder entered an invalid body state"
    declaredLength := none
    maxPayloadBytes := none
    receivedBytes := none }

/-- The payload is complete; `rest` is what is left of the chunk. -/
def complete (payload rest : List UInt8) : Answer (Option (List UInt8)) :=
  let d := { d with completedPayload := some payload }
  if rest ≠ [] then d.failTrailing rest.length else (.ok (some payload), d)

/-- The part of a round of `push` that fills the body; `next` is the next round. -/
def pushBody (next : FrameDecoder → List UInt8 → Answer (Option (List UInt8))) (bytes : List UInt8) :
    Answer (Option (List UInt8)) :=
  match d.body, d.declaredLength with
  | some body, some declaredLength =>
    let bodyBytesToCopy := min (declaredLength - d.bodyBytes) bytes.length
    let body := body ++ bytes.take bodyBytesToCopy
    let d := { d with body := some body }
    if d.bodyBytes = declaredLength then d.complete body (bytes.drop bodyBytesToCopy)
    else next d (bytes.drop bodyBytesToCopy)
  | _, _ => d.failInvalidBody

/-- The loop of `push` over what is left of the chunk. A round takes at least one
byte, so that `fuel` bytes are done within `fuel` rounds. -/
def pushLoop : Nat → FrameDecoder → List UInt8 → Answer (Option (List UInt8))
  | 0, d, _ => (.ok none, d)
  | fuel + 1, d, bytes =>
    if bytes = [] then (.ok none, d)
    else if d.headerBytes < frameHeaderBytes then
      let headerBytesToCopy := min (frameHeaderBytes - d.headerBytes) bytes.length
      let d := { d with header := d.header ++ bytes.take headerBytesToCopy }
      let bytes := bytes.drop headerBytesToCopy
      if d.headerBytes < frameHeaderBytes then (.ok none, d)
      else
        let declaredLength := readUInt32BE d.header
        let d := { d with declaredLength := some declaredLength }
        if d.maxPayloadBytes < declaredLength then d.failOversized declaredLength
        else
          let d := { d with body := some [] }
          if declaredLength = 0 then d.complete [] bytes else d.pushBody (pushLoop fuel) bytes
    else d.pushBody (pushLoop fuel) bytes

/-- `push(chunk)`, and `feed`. -/
def push (chunk : List UInt8) : Answer (Option (List UInt8)) :=
  match d.failure, d.completedPayload with
  | some failure, _ => (.error failure, d)
  | none, some _ => if chunk.length ≠ 0 then d.failTrailing chunk.length else (.ok none, d)
  | none, none => pushLoop chunk.length d chunk

/-- `finish()`. -/
def finish : Answer (List UInt8) :=
  match d.failure, d.completedPayload with
  | some failure, _ => (.error failure, d)
  | none, some payload => (.ok payload, d)
  | none, none =>
    let expectedBytes := match d.declaredLength with
      | none => frameHeaderBytes
      | some declaredLength => frameHeaderBytes + declaredLength
    d.fail
      { code := .truncatedFrame
        message := "Frame ended after " ++ toString d.receivedBytes ++ " of " ++
          toString expectedBytes ++ " expected byte" ++ plural expectedBytes
        declaredLength := none
        maxPayloadBytes := none
        receivedBytes := some d.receivedBytes }

end FrameDecoder

/-- `decodeFrame(encoded, options)`. -/
def decodeFrame (encoded : List UInt8) (options : Option Int) : Except FrameCodecError (List UInt8) := do
  let maxPayloadBytes ← normalizeMaxPayloadBytes options
  let (pushed, decoder) := (FrameDecoder.new maxPayloadBytes).push encoded
  let _ ← pushed
  decoder.finish.1

example : decodeFrame [0, 0, 0, 2, 7, 8] (some 2) = .ok [7, 8] := by decide

end PiToPi.Transport
