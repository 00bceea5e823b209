import GT3Code.Base.FreshNames
import GT3Code.Base.KeyedMap
import GT3Code.Base.Ordering
import GT3Code.Contracts.Keybindings

/-! # Sidebar groups

The sidebar shows a thread under the rig and the agent its metadata name. Folders of configured
agents are there before any thread; the other folders are made as the threads need them. An agent
without a folder of its own goes to the first one with a label it could have.
-/

namespace GT3Code.Contracts

open GT3Code.Base GT3Code.Base.Json

inductive GcWakeMode where
  | resume
  | fresh

inductive GcNamedSessionMode where
  | always
  | onDemand

structure GcLifecycleStatus where
  supervisorRunning : Bool
  controllerRunning : Bool
  supervisorPort : Option ℚ
  supervisorUrl : Option Text

structure GcConfigWorkspace where
  name : Text
  suspended : Bool

structure GcConfigAgent where
  name : Text
  description : Option Text
  dir : Option Text
  provider : Option Text
  workDir : Option Text
  promptTemplate : Option Text
  startCommand : Option Text
  defaultSlingFormula : Option Text
  isPool : Option Bool
  minActiveSessions : Option ℚ
  maxActiveSessions : Option ℚ
  wakeMode : Option GcWakeMode
  scope : Option Text
  suspended : Bool
  namedSessionMode : Option GcNamedSessionMode

structure GcConfigRig where
  name : Text
  path : Text
  suspended : Bool
  lifecycle : Option GcLifecycleStatus

structure GcConfigResult where
  workspace : GcConfigWorkspace
  agents : List GcConfigAgent
  rigs : List GcConfigRig
  lifecycle : Option GcLifecycleStatus

inductive GcGroupKind where
  | workspace
  | rig
  deriving DecidableEq

/-- The fields of `GcThreadMeta` that grouping reads. -/
structure GcThreadMeta where
  isGcManaged : Bool
  agent : Option Text
  rig : Option Text
  city : Option Text
  groupKind : Option GcGroupKind
  groupId : Option Text
  groupLabel : Option Text
  agentQualified : Option Text
  agentLabel : Option Text

/-- A thread's `customMetadata`, read by key. -/
abbrev ThreadMetadata := Text → Option Text

def truthy (value : Option Text) : Option Text := value.filter (fun text => text.length > 0)

def parseGroupKind (value : Option Text) : Option GcGroupKind :=
  if value = some (ascii "workspace") then some .workspace
  else if value = some (ascii "rig") then some .rig
  else none

def parseGcMeta (customMetadata : ThreadMetadata) : GcThreadMeta :=
  match truthy (customMetadata (ascii "gc.agent")) with
  | none => ⟨false, none, none, none, none, none, none, none, none⟩
  | some agent =>
    { isGcManaged := true
      agent := some agent
      rig := customMetadata (ascii "gc.rig")
      city := customMetadata (ascii "gc.city")
      groupKind := parseGroupKind (customMetadata (ascii "gc.groupKind"))
      groupId := customMetadata (ascii "gc.groupId")
      groupLabel := customMetadata (ascii "gc.groupLabel")
      agentQualified := customMetadata (ascii "gc.agentQualified")
      agentLabel := customMetadata (ascii "gc.agentLabel") }

/-! ## Names -/

def slashUnit : CodeUnit := 47

def backslashUnit : CodeUnit := 92

def dotUnit : CodeUnit := 46

def normalizeMetadataValue (value : Option Text) : Option Text :=
  (value.map trimText).filter
    (fun trimmed => trimmed.length > 0 ∧ trimmed ≠ [dotUnit] ∧ trimmed ≠ [dotUnit, dotUnit])

/-- `text.split(separator).filter(Boolean)` -/
def nonEmptySegments (separator : CodeUnit) (text : Text) : List Text :=
  (text.splitOn separator).filter (fun segment => segment.length > 0)

/-- `replace(/\\/g, "/").replace(/\/+$/, "")` -/
def slashedPath (value : Text) : Text :=
  ((value.map (fun u => if u = backslashUnit then slashUnit else u)).reverse.dropWhile
    (fun u => u = slashUnit)).reverse

def pathBasename (value : Text) : Text :=
  let normalized := slashedPath value
  (nonEmptySegments slashUnit normalized).getLast?.getD normalized

def agentFolderLabel (agent : Text) : Text :=
  let lastSegment := (nonEmptySegments slashUnit agent).getLast?.getD agent
  (lastSegment.splitOn dotUnit).getLast?.getD lastSegment

def configuredAgentQualifiedName (agent : GcConfigAgent) : Text :=
  match normalizeMetadataValue agent.dir with
  | some dir => dir ++ [slashUnit] ++ agent.name
  | none => agent.name

def candidateAgentLabels (agent : Text) : List Text :=
  let trimmed := trimText agent
  if trimmed.length = 0 then []
  else
    [trimmed, agentFolderLabel trimmed] ++ (nonEmptySegments dotUnit trimmed).getLast?.toList

def lastIndexOf (u : CodeUnit) (text : Text) : Option Nat :=
  (text.reverse.findIdx? (fun v => v = u)).map (fun index => text.length - 1 - index)

def deriveRigIdFromQualifiedAgent (agent : Text) : Option Text :=
  (normalizeMetadataValue (some agent)).bind fun normalized =>
    ((lastIndexOf slashUnit normalized).filter (fun index => index > 0)).bind fun index =>
      normalizeMetadataValue (some (normalized.take index))

def normalizeGcPath (value : Option Text) : Option Text :=
  (normalizeMetadataValue value).bind fun normalized => truthy (some (slashedPath normalized))

def isImplicitProviderLane (agent : GcConfigAgent) : Bool :=
  some agent.name = agent.provider ∧
    agent.promptTemplate = some (ascii ".gc/system/packs/core/assets/prompts/pool-worker.md") ∧
    agent.defaultSlingFormula.isSome

def findConfiguredAgent (config : Option GcConfigResult) (qualifiedAgent : Text) :
    Option GcConfigAgent :=
  config.bind fun config =>
    let exactMatch :=
      config.agents.find? (fun entry => configuredAgentQualifiedName entry = qualifiedAgent)
    let candidateLabels := candidateAgentLabels qualifiedAgent
    exactMatch.or (config.agents.find? (fun entry =>
      (candidateAgentLabels (configuredAgentQualifiedName entry)).any
        (fun label => label ∈ candidateLabels)))

structure VirtualAgentGroup (T : Type) where
  id : Text
  label : Text
  qualifiedName : Text
  isConfigured : Bool
  isPool : Bool
  isExplicitlySuspended : Bool
  isSuspended : Bool
  minActiveSessions : Option ℚ
  maxActiveSessions : Option ℚ
  wakeMode : Option GcWakeMode
  namedSessionMode : Option GcNamedSessionMode
  scope : Option Text
  provider : Option Text
  description : Option Text
  workDir : Option Text
  promptTemplate : Option Text
  startCommand : Option Text
  defaultSlingFormula : Option Text
  threads : List T

structure MutableVirtualRigGroup (T : Type) where
  id : Text
  label : Text
  kind : GcGroupKind
  isConfigured : Bool
  isSuspended : Bool
  lifecycle : Option GcLifecycleStatus
  agentGroupsById : KeyedMap Text (VirtualAgentGroup T)

structure VirtualRigGroup (T : Type) where
  id : Text
  label : Text
  kind : GcGroupKind
  isConfigured : Bool
  isSuspended : Bool
  lifecycle : Option GcLifecycleStatus
  agentGroups : List (VirtualAgentGroup T)

abbrev RigGroups (T : Type) := KeyedMap Text (MutableVirtualRigGroup T)

section Groups

variable {T : Type}

/-- The group of the agent, else the first one with one of its labels. -/
def findMatchingAgentGroup (agentGroupsById : KeyedMap Text (VirtualAgentGroup T)) (agent : Text) :
    Option (Text × VirtualAgentGroup T) :=
  match KeyedMap.get agent agentGroupsById with
  | some exactMatch => some (agent, exactMatch)
  | none =>
    let candidateLabels := candidateAgentLabels agent
    agentGroupsById.rows.find? (fun entry => entry.2.label ∈ candidateLabels)

/-- What an agent of the configuration sets in a group of its own or of its label. -/
def applyConfiguredAgent (rigSuspended : Bool) (agent : GcConfigAgent)
    (group : VirtualAgentGroup T) : VirtualAgentGroup T :=
  { group with
    isConfigured := true
    isPool := agent.isPool.getD group.isPool
    isExplicitlySuspended := agent.suspended
    isSuspended := rigSuspended || agent.suspended
    minActiveSessions := agent.minActiveSessions.or group.minActiveSessions
    maxActiveSessions := agent.maxActiveSessions.or group.maxActiveSessions
    wakeMode := agent.wakeMode.or group.wakeMode
    namedSessionMode := agent.namedSessionMode.or group.namedSessionMode
    scope := (truthy agent.scope).or group.scope
    provider := (truthy agent.provider).or group.provider
    description := (truthy agent.description).or group.description
    workDir := (truthy agent.workDir).or group.workDir
    promptTemplate := (truthy agent.promptTemplate).or group.promptTemplate
    startCommand := (truthy agent.startCommand).or group.startCommand
    defaultSlingFormula := (truthy agent.defaultSlingFormula).or group.defaultSlingFormula }

def newAgentGroup (rigId qualifiedName label : Text) (rigSuspended : Bool) (threads : List T)
    (agent : Option GcConfigAgent) : VirtualAgentGroup T :=
  let group : VirtualAgentGroup T :=
    { id := rigId ++ [slashUnit] ++ qualifiedName
      label
      qualifiedName
      isConfigured := false
      isPool := false
      isExplicitlySuspended := false
      isSuspended := rigSuspended
      minActiveSessions := none
      maxActiveSessions := none
      wakeMode := none
      namedSessionMode := none
      scope := none
      provider := none
      description := none
      workDir := none
      promptTemplate := none
      startCommand := none
      defaultSlingFormula := none
      threads }
  match agent with
  | none => group
  | some agent => applyConfiguredAgent rigSuspended agent group

def setAgentGroup (key : Text) (group : VirtualAgentGroup T) (rigGroup : MutableVirtualRigGroup T) :
    MutableVirtualRigGroup T :=
  { rigGroup with agentGroupsById := KeyedMap.set key group rigGroup.agentGroupsById }

def addConfiguredAgentGroup (rigGroup : MutableVirtualRigGroup T) (agent : GcConfigAgent) :
    MutableVirtualRigGroup T :=
  let qualifiedName := configuredAgentQualifiedName agent
  match findMatchingAgentGroup rigGroup.agentGroupsById qualifiedName with
  | some (key, existingGroup) =>
    setAgentGroup key (applyConfiguredAgent rigGroup.isSuspended agent existingGroup) rigGroup
  | none =>
    setAgentGroup qualifiedName
      (newAgentGroup rigGroup.id qualifiedName (agentFolderLabel qualifiedName)
        rigGroup.isSuspended [] (some agent)) rigGroup

end Groups

end GT3Code.Contracts
