import PiToPi.JsonText
import PiToPi.Naming

/-!
The room a process belongs to (`room.ts`): its project label, or the Git common directory of its
working directory, or that directory, hashed to an opaque id. Paths are those of POSIX.
-/
namespace PiToPi.Room
open JsString Naming

inductive CanonicalRoomSource where
  | explicit | git | cwd
  deriving DecidableEq, Repr

inductive RoomError where
  | invalidProjectLabel (message : JsString)
  | typeError (message : JsString)
  /-- What `realpath` throws. -/
  | unresolvable
  deriving DecidableEq

structure ResolvedRoom where
  roomId : JsString
  source : CanonicalRoomSource
  value : JsString
  deriving DecidableEq

/-- The options of `resolveRoom`, and what the process and its system answer. -/
structure Environment where
  project : Option JsString
  explicitProject : Option JsString
  cwd : Option JsString
  /-- `process.cwd()`. -/
  processCwd : JsString
  /-- `none` where it throws. -/
  realpath : JsString → Option JsString
  gitRunner : JsString → List JsString → Option JsString

/-- `GIT_COMMON_DIRECTORY_ARGS`. -/
def gitCommonDirectoryArgs : List JsString :=
  ["rev-parse", "--path-format=absolute", "--git-common-dir"].map ofString

def roomIdPrefix : JsString := "r1-"

def roomIdHexLength : Nat := 32

/-- `isAbsolute(path)`. -/
def isAbsolute (path : JsString) : Bool := path.units.head? == some 0x2f

/-- The segments of a path that are left of `.`, `..` and empty ones. -/
def normalSegments (units : List UInt16) : List (List UInt16) :=
  (units.splitOn 0x2f).foldl (fun segments segment =>
    if segment = [] ∨ segment = [0x2e] then segments
    else if segment = [0x2e, 0x2e] then segments.dropLast
    else segments ++ [segment]) []

/-- `resolve(base, path)`, with an absolute base. -/
def resolvePath (base path : JsString) : JsString :=
  let units := if isAbsolute path then path.units else base.units ++ 0x2f :: path.units
  ⟨0x2f :: [0x2f].intercalate (normalSegments units)⟩

namespace Environment

variable (e : Environment)

/-- `getExplicitProject(options)`. -/
def getExplicitProject : Except RoomError (Option JsString) :=
  if e.project.isSome ∧ e.explicitProject.isSome ∧ e.project ≠ e.explicitProject then
    .error (.invalidProjectLabel
      "project and explicitProject were both supplied with different values")
  else .ok (e.explicitProject.or e.project)

/-- `canonicalizeDirectory(directory, resolver)`. -/
def canonicalizeDirectory (directory : JsString) : Except RoomError JsString :=
  if directory.length = 0 then .error (.typeError "working directory must be a non-empty string")
  else if 0 ∈ directory.units then .error (.typeError "working directory must not contain NUL")
  else match e.realpath (resolvePath e.processCwd directory) with
    | none => .error .unresolvable
    | some canonical =>
      .ok (if isAbsolute canonical then canonical else resolvePath e.processCwd canonical)

/-- The working directory that is resolved. -/
def directory : JsString := e.cwd.getD e.processCwd

end Environment

/-- `stripGitOutputLineEnding(output)`. -/
def stripGitOutputLineEnding (output : JsString) : JsString :=
  if output.units.getLast? = some 0x0a then
    let line := output.units.dropLast
    if line.getLast? = some 0x0d then ⟨line.dropLast⟩ else ⟨line⟩
  else output

/-- `discoverGitCommonDirectory(directory, options)`. -/
def discoverGitCommonDirectory (e : Environment) (directory : JsString) :
    Except RoomError (Option JsString) := do
  let canonicalCwd ← e.canonicalizeDirectory directory
  match e.gitRunner canonicalCwd gitCommonDirectoryArgs with
  | none => return none
  | some output =>
    let rawCommonDirectory := stripGitOutputLineEnding output
    if rawCommonDirectory.length = 0 ∨ 0 ∈ rawCommonDirectory.units then return none
    else return e.realpath (if isAbsolute rawCommonDirectory then rawCommonDirectory
      else resolvePath canonicalCwd rawCommonDirectory)

def CanonicalRoomSource.text : CanonicalRoomSource → JsString
  | .explicit => "explicit"
  | .git => "git"
  | .cwd => "cwd"

def hexDigit (n : Nat) : UInt16 := if n < 10 then (n + 0x30).toUInt16 else (n + 0x57).toUInt16

/-- `digest('hex')`. -/
def hexText (digest : Vector UInt8 32) : List UInt16 :=
  digest.toList.flatMap fun byte => [hexDigit (byte.toNat / 16), hexDigit (byte.toNat % 16)]

/-- The text that is hashed, as UTF-8 keeps it. -/
def hashedText (source : CanonicalRoomSource) (value : JsString) : JsString :=
  ⟨toWellFormed (source.text.units ++ 0 :: value.units)⟩

section Rooms

variable (H : NameHost)

/-- The truncated digest of a text. -/
def truncatedDigest (text : JsString) : List UInt16 :=
  (hexText (H.sha256 text)).take roomIdHexLength

/-- `hashRoomId(source, normalizedValue)`. -/
def hashRoomId (source : CanonicalRoomSource) (normalizedValue : JsString) :
    Except RoomError JsString :=
  if normalizedValue.length = 0 then .error (.typeError "room hash input must not be empty")
  else if 0 ∈ normalizedValue.units then .error (.typeError "room hash input must not contain NUL")
  else .ok (roomIdPrefix ++ ⟨truncatedDigest H (hashedText source normalizedValue)⟩)

/-- A room of a source and a value. -/
def roomOf (source : CanonicalRoomSource) (value : JsString) : Except RoomError ResolvedRoom := do
  return { roomId := ← hashRoomId H source value, source, value }

/-- `resolveRoom(options)`. -/
def resolveRoom (e : Environment) : Except RoomError ResolvedRoom := do
  match ← e.getExplicitProject with
  | some explicitProject =>
    let normalizedProject ←
      (normalizeProjectLabel H.toUnicode explicitProject).mapError .invalidProjectLabel
    roomOf H .explicit normalizedProject
  | none =>
    let canonicalCwd ← e.canonicalizeDirectory e.directory
    match ← discoverGitCommonDirectory e canonicalCwd with
    | some commonDirectory => roomOf H .git commonDirectory
    | none => roomOf H .cwd canonicalCwd

end Rooms

end PiToPi.Room
