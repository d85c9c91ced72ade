import PiToPi.JsonTextProofs
import PiToPi.NamingProofs
import PiToPi.Room

/-!
Isolation of rooms: what a room id says about where it comes from. A `Place` is an environment
whose `realpath` and Git answer truthfully, and its `origin` is the room it should be in. The
room is the one of the origin unless the line that Git prints loses a carriage return.
-/
namespace PiToPi.Room
open JsString Naming

section Texts

end Texts

/-- What `realpath` gives: an absolute path without anything left to resolve. -/
structure Real (realpath : JsString → Option JsString) (path : JsString) : Prop where
  absolute : isAbsolute path = true
  noNul : 0 ∉ path.units
  wellFormed : isWellFormed path.units = true
  normal : ∀ base, resolvePath base path = path
  fixed : realpath path = some path

/-- An environment with the Git common directory of each directory, where `realpath` and Git answer
truthfully: Git prints the directory as a line, or fails. -/
structure Place extends Environment where
  commonDirectory : JsString → Option JsString
  real : ∀ path canonical, realpath path = some canonical → Real realpath canonical
  printed : ∀ directory, gitRunner directory gitCommonDirectoryArgs =
    (commonDirectory directory).map (· ++ ⟨[0x0a]⟩)
  common : ∀ directory found, commonDirectory directory = some found →
    isAbsolute found = true ∧ 0 ∉ found.units ∧ (realpath found).isSome = true

namespace Place

variable (place : Place)

/-- The Git common directory of the working directory, as Git prints it. -/
def workingCommonDirectory : Option JsString :=
  match place.canonicalizeDirectory place.directory with
  | .error _ => none
  | .ok canonicalCwd => place.commonDirectory canonicalCwd

/-- Where a room comes from: the normal form of the label, the real Git common directory or the
real working directory. -/
def origin (H : NameHost) : Option (CanonicalRoomSource × JsString) :=
  match place.getExplicitProject with
  | .error _ => none
  | .ok (some label) => (normalizeProjectLabel H.toUnicode label).toOption.map (CanonicalRoomSource.explicit, ·)
  | .ok none => match place.workingCommonDirectory with
    | some found => (place.realpath found).map (CanonicalRoomSource.git, ·)
    | none => (place.canonicalizeDirectory place.directory).toOption.map (CanonicalRoomSource.cwd, ·)

end Place

section Resolution

variable {H : NameHost}

end Resolution

section Isolation

variable {H : NameHost}

/-- A real directory alone: a working directory, or a repository that is its own common
directory. -/
def alone {realpath : JsString → Option JsString} {path : JsString} (real : Real realpath path)
    (repository : Bool) : Place where
  project := none
  explicitProject := none
  cwd := some path
  processCwd := path
  realpath _ := some path
  gitRunner _ _ := if repository then some (path ++ ⟨[0x0a]⟩) else none
  commonDirectory _ := if repository then some path else none
  real := by
    rintro _ _ ⟨⟩
    exact { real with fixed := rfl }
  printed directory := by
    split <;> rfl
  common directory found answer := by
    split at answer <;> cases answer
    exact ⟨real.absolute, real.noNul, rfl⟩

end Isolation

end PiToPi.Room
