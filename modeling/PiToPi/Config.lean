import PiToPi.Json

/-!
What a session is called: the label normaliser of `room.ts`, the configuration
resolver of `config.ts` and the published names of `naming.ts`.

The host's Unicode tables and its hash function are parameters; nothing below
depends on what they contain.
-/
namespace PiToPi

/-- What the host's strings and `node:crypto` compute. -/
structure Unicode where
  /-- `value.normalize('NFKC').toLowerCase()`. -/
  nfkcLower : JsString → JsString
  /-- `/[\p{Cc}\p{Cf}]/u.test(value)`. -/
  hasControl : JsString → Bool
  /-- `/[\p{L}\p{N}]/u.test(codePoint)`. -/
  isLetterOrNumber : JsString → Bool
  /-- The four characters `runtimeNameSuffix` takes from the hash of an id. -/
  runtimeNameSuffix : JsString → JsString

def maxProjectLabelCodePoints : Nat := 48

/-- The code points of a string, each as a string. -/
def codePoints : List UInt16 → List JsString
  | [] => []
  | [unit] => [⟨[unit]⟩]
  | unit :: next :: rest =>
    if JsString.isHighSurrogate unit && JsString.isLowSurrogate next then
      ⟨[unit, next]⟩ :: codePoints rest
    else ⟨[unit]⟩ :: codePoints (next :: rest)

/-- `output.join('')`. -/
def joinStrings (parts : List JsString) : JsString := ⟨parts.flatMap JsString.units⟩

section Labels

variable (U : Unicode)

/-- The loop of `normalizeProjectLabel`: the output so far, and whether a
separator is due. -/
def labelStep : List JsString × Bool → JsString → List JsString × Bool
  | (output, pendingSeparator), codePoint =>
    if U.isLetterOrNumber codePoint then
      (output ++ (if pendingSeparator && !output.isEmpty then [("-" : JsString)] else []) ++ [codePoint], false)
    else (output, pendingSeparator || !output.isEmpty)

/-- `normalizeProjectLabel(value)`. -/
def normalizeProjectLabel (value : JsString) : Except JsString JsString :=
  let normalized := U.nfkcLower value
  if U.hasControl value || U.hasControl normalized then
    .error "project label contains a control character"
  else
    let (output, _) := (codePoints normalized.units).foldl (labelStep U) ([], false)
    let bounded := output.take maxProjectLabelCodePoints
    let bounded := (bounded.reverse.dropWhile fun part => part = ("-" : JsString)).reverse
    if bounded.isEmpty then .error "project label is empty after normalization"
    else .ok (joinStrings bounded)

/-- `asNormalizedName(value)`. -/
def asNormalizedName (value : JsString) : Except JsString JsString := normalizeProjectLabel U value

/-- What a flag or an option may be. -/
inductive OptionValue where
  | undefined
  | boolean (value : Bool)
  | string (value : JsString)
  deriving DecidableEq

structure P2PFlagValues where
  p2pName : OptionValue
  p2pProject : OptionValue

structure ResolveP2PConfigOptions where
  flags : Option P2PFlagValues
  p2pName : OptionValue
  p2pProject : OptionValue
  sessionName : Option JsString

inductive P2PNameSource where
  | p2pName | sessionName | fallback
  deriving DecidableEq, Repr

structure P2PConfig where
  name : JsString
  nameSource : P2PNameSource
  nameOverride : Option JsString
  projectOverride : Option JsString
  deriving DecidableEq

/-- `firstDefined`. -/
def firstDefined : OptionValue → OptionValue → OptionValue
  | .undefined, value => value
  | value, _ => value

/-- `P2PConfigurationError`: its message. -/
def p2pConfigurationError (option message : JsString) : JsString :=
  "Invalid --" ++ option ++ ": " ++ message

/-- `validateLabel(value, option)`. -/
def validateLabel (value : OptionValue) (option : JsString) : Except JsString (Option JsString) :=
  match value with
  | .undefined => .ok none
  | .boolean _ => .error (p2pConfigurationError option "a string value is required")
  | .string value =>
    if value.length = 0 then .error (p2pConfigurationError option "the value must not be empty")
    else match normalizeProjectLabel U value with
      | .ok label => .ok (some label)
      | .error message => .error (p2pConfigurationError option message)

/-- The effective name and where it came from. -/
def resolveName (nameOverride sessionName : Option JsString) :
    Except JsString (JsString × P2PNameSource) :=
  match nameOverride with
  | some name => .ok (name, .p2pName)
  | none =>
    let fallback := (asNormalizedName U "agent").map fun name => (name, P2PNameSource.fallback)
    match sessionName.filter fun name => 0 < name.length with
    | none => fallback
    | some name => match asNormalizedName U name with
      | .ok name => .ok (name, .sessionName)
      | .error _ => fallback

/-- `resolveP2PConfig(options)`. -/
def resolveP2PConfig (options : ResolveP2PConfigOptions) : Except JsString P2PConfig := do
  let nameInput := firstDefined options.p2pName ((options.flags.map (·.p2pName)).getD .undefined)
  let projectInput :=
    firstDefined options.p2pProject ((options.flags.map (·.p2pProject)).getD .undefined)
  let nameOverride ← validateLabel U nameInput "p2p-name"
  let projectOverride ← validateLabel U projectInput "p2p-project"
  let (name, nameSource) ← resolveName U nameOverride options.sessionName
  return { name, nameSource, nameOverride, projectOverride }

structure PublishedPeerName where
  runtimeId : JsString
  base : JsString
  suffix : JsString
  networkName : JsString
  deriving DecidableEq

/-- `normalizeSessionPeerName(value)`. -/
def normalizeSessionPeerName (value : Option JsString) : Except JsString JsString :=
  match value with
  | none => asNormalizedName U "agent"
  | some value => match asNormalizedName U value with
    | .ok name => .ok name
    | .error _ => asNormalizedName U "agent"

/-- `createInitialPeerName(runtimeId, sessionName)`. -/
def createInitialPeerName (runtimeId : JsString) (sessionName : Option JsString) :
    Except JsString PublishedPeerName := do
  let base ← normalizeSessionPeerName U sessionName
  let base ← asNormalizedName U base
  let suffix := U.runtimeNameSuffix runtimeId
  let networkBase ← asNormalizedName U base
  return { runtimeId, base, suffix, networkName := networkBase ++ "-" ++ suffix }

end Labels
end PiToPi
