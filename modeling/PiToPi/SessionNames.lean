import PiToPi.AgentCardRegistry

/-!
The name of a runtime, from its flags and its session to what peers see: the start of a
session (`lifecycle.ts`, `composition.ts`) and the changes of its name.

A runtime is kept here as far as its name goes. Its registry publishes as in
`AgentCardRegistry`, and its handlers run one after the other.
-/
namespace PiToPi.SessionNames
open Naming CardRegistry

/-- A started runtime: its configuration, its registry and what that published last. -/
structure NamedRuntime where
  config : P2PConfig
  registry : AgentCardRegistry
  card : AgentCard
  directory : Directory

/-- How a handler fails. -/
inductive HandlerError where
  | configuration (message : JsString)
  | registry (thrown : RegistryError)

/-- A `session_info_changed`: the name it tells, and the clock of the publication. -/
structure InfoChanged where
  name : Option JsString
  clock : ℚ

section Handlers

variable (H : NameHost) (host : Host)

/-- `resolveP2PConfig({ flags, sessionName })`. -/
def sessionConfig (flags : P2PFlagValues) (sessionName : Option JsString) :
    Except JsString P2PConfig :=
  resolveP2PConfig H.toUnicode {
    flags := some flags
    p2pName := .undefined
    p2pProject := .undefined
    sessionName }

/-- A registry with another display name. -/
def named (registry : AgentCardRegistry) (displayName : JsString) : AgentCardRegistry :=
  { registry with metadata := { registry.metadata with displayName } }

/-- The registry of a `PiToPiRuntimeComposition`: `displayName: options.displayName ?? this.config.name`.
The rest of it is that of the deployment. -/
def compositionRegistry (deployment : AgentCardRegistry) (config : P2PConfig)
    (displayName : Option JsString) : AgentCardRegistry :=
  named deployment (metadataDisplayName deployment.runtimeId (some (displayName.getD config.name)))

/-- `onSessionStart`. -/
def onSessionStart (deployment : AgentCardRegistry) (flags : P2PFlagValues)
    (sessionName : Option JsString) (clock : ℚ) (directory : Directory) :
    Except HandlerError NamedRuntime := do
  let config ← (sessionConfig H flags sessionName).mapError .configuration
  let registry := compositionRegistry deployment config sessionName
  let (card, directory) ← (publishCurrentCard host registry clock directory).mapError .registry
  return { config, registry, card, directory }

/-- The patch of `updateDisplayName(displayName)`. -/
def displayNamePatch (displayName : JsString) : AgentCardMetadataPatch where
  displayName := some (some displayName)
  purpose := none
  workingDirectoryLabel := none
  roleTags := none
  model := none
  capabilities := none
  state := none
  contextUsage := none
  inboundQueueDepth := none
  endpointKind := none
  endpointAddress := none
  endpointRuntimeInstanceId := none

/-- The configuration a name that was told leaves. -/
def changedConfig (config : P2PConfig) (name : JsString) : Except JsString P2PConfig :=
  resolveP2PConfig H.toUnicode {
    flags := none
    p2pName := .undefined
    p2pProject := (config.projectOverride.map OptionValue.string).getD .undefined
    sessionName := some name }

/-- `onSessionInfoChanged(event)`. -/
def onSessionInfoChanged (runtime : NamedRuntime) (change : InfoChanged) :
    Except HandlerError NamedRuntime :=
  match runtime.config.nameOverride, change.name with
  | none, some name => do
    let (registry, card, directory) ← (updateMetadata host runtime.registry (displayNamePatch name)
      change.clock runtime.directory).mapError .registry
    let config ← (changedConfig H runtime.config name).mapError .configuration
    return { config, registry, card, directory }
  | _, _ => .ok runtime

/-- The base under which peers see the runtime of a card. -/
def SeenAs (card : AgentCard) (name : JsString) : Prop :=
  ∃ peer, peerFromCard H card = .ok peer ∧ publishedNetworkBase H peer.networkName = .ok name

/-- Each change of the name succeeds, and leaves the runtime seen under the name that the
flags and the name told give. -/
def KeepsName (flags : P2PFlagValues) (runtime : NamedRuntime) : List InfoChanged → Prop
  | [] => True
  | change :: rest => ∃ next config, onSessionInfoChanged H host runtime change = .ok next ∧
      sessionConfig H flags change.name = .ok config ∧ SeenAs H next.card config.name ∧
      KeepsName flags next rest

/-- The session starts, is seen under its configured name, and keeps it through the changes. -/
def NamedThroughout (deployment : AgentCardRegistry) (flags : P2PFlagValues)
    (sessionName : Option JsString) (clock : ℚ) (directory : Directory) (changes : List InfoChanged) :
    Prop :=
  ∃ runtime config, onSessionStart H host deployment flags sessionName clock directory = .ok runtime ∧
    sessionConfig H flags sessionName = .ok config ∧ SeenAs H runtime.card config.name ∧
    KeepsName H host flags runtime changes

end Handlers

section Conditions

variable (H : NameHost) (host : Host)

/-- A text that peers take for a name: the name with a suffix, or a text that is no published
name and is normalised to it. -/
inductive TakenFor : JsString → JsString → Prop
  | published {name : JsString} {suffix : List UInt16} (valid : isRuntimeNameSuffix suffix = true)
      (normal : asNormalizedName H.toUnicode name = .ok name) :
        TakenFor (name ++ JsString.hyphen ++ ⟨suffix⟩) name
  | normalized {text name : JsString} (other : isPublishedNetworkName H text = false)
      (normal : asNormalizedName H.toUnicode text = .ok name) : TakenFor text name

/-- A text that may be published for a name. -/
structure Displays (text name : JsString) : Prop where
  short : text.length ≤ CardValidation.maxDisplayNameLength
  printable : text.units.any isControl = false
  taken : TakenFor H text name

/-- The text after a change: a name that is told, if there is no override. -/
def textAfter (runtimeId : RuntimeId) (nameOverride : Option JsString) (text : JsString)
    (name : Option JsString) : JsString :=
  match nameOverride, name with
  | none, some name => metadataDisplayName runtimeId (some name)
  | _, _ => text

/-- After each change, the text displays the name that the flags and the name told give. -/
def DisplaysEach (flags : P2PFlagValues) (runtimeId : RuntimeId) (nameOverride : Option JsString)
    (text : JsString) : List InfoChanged → Prop
  | [] => True
  | change :: rest =>
    (∃ config, sessionConfig H flags change.name = .ok config ∧
      Displays H (textAfter runtimeId nameOverride text change.name) config.name) ∧
    DisplaysEach flags runtimeId nameOverride (textAfter runtimeId nameOverride text change.name) rest

/-- A deployment that can publish at a time: its card is in order with the default name, with
a kibibyte to spare. -/
def isReady (deployment : AgentCardRegistry) (clock : ℚ) : Bool :=
  match buildCard host (named deployment "agent") clock with
  | .error _ => false
  | .ok card =>
    match checkCard host deployment card with
    | .error _ => false
    | .ok serialized => !deployment.shutdownRequested && !deployment.leaseStopped &&
        serialized.byteLength + 1024 ≤ min deployment.maxCardBytes CardValidation.maxAgentCardSizeBytes

end Conditions

end PiToPi.SessionNames
