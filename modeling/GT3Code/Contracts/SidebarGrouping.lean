import GT3Code.Contracts.SidebarGroups

/-! # Grouping the threads

`groupThreadsByRigAndAgent`: the rigs of the project's context are seeded with the agents of the
configuration, the threads are placed one after the other, and the workspace groups get the
agents that belong to no rig.
-/

namespace GT3Code.Contracts

open GT3Code.Base GT3Code.Base.Json

/-- `localeCompare`, whether it gives 0 with the sensitivity `accent`, and `toUpperCase`. -/
class SidebarLocale where
  localeCompare : Text → Text → Int
  equalUpToCase : Text → Text → Bool
  toUpperCase : Text → Text

structure ProjectContext where
  cwd : Option Text
  name : Option Text

/-- `config` is `none` where it is undefined, and `some none` where it is `null`. -/
structure GroupingOptions where
  config : Option (Option GcConfigResult)
  projectCwd : Option Text
  projectName : Option Text
  projectMembers : List ProjectContext

/-! ## The context -/

def multiCityWorkspaceRigNames (rigs : List GcConfigRig) : List Text :=
  let rigNames := rigs.filterMap (fun rig => normalizeMetadataValue (some rig.name))
  rigNames.filterMap fun rigName =>
    ((rigName.findIdx? (fun u => u = slashUnit)).filter (fun index => index > 0)).bind fun index =>
      if rigName.take index ∈ rigNames then some (rigName.take index) else none

def projectCwdsOf (context : ProjectContext) : List Text :=
  (normalizeMetadataValue context.cwd).toList

def projectLabelsOf (context : ProjectContext) : List Text :=
  ((normalizeMetadataValue context.cwd).bind fun cwd =>
    normalizeMetadataValue (some (pathBasename cwd))).toList ++
      (normalizeMetadataValue context.name).toList

structure GroupingContext where
  config : Option GcConfigResult
  projectName : Option Text
  workspaceName : Option Text
  workspaceSuspended : Bool
  multiCityWorkspaceIds : List Text
  isMergedMultiCityConfig : Bool
  projectCwds : List Text
  isGlobalScope : Bool
  isCityAliasProject : Bool
  isCityProject : Bool

def GroupingContext.configRigs (context : GroupingContext) : List GcConfigRig :=
  (context.config.map GcConfigResult.rigs).getD []

def GroupingContext.configAgents (context : GroupingContext) : List GcConfigAgent :=
  (context.config.map GcConfigResult.agents).getD []

def GroupingContext.configRigByName (context : GroupingContext) : KeyedMap Text GcConfigRig :=
  KeyedMap.ofEntries (context.configRigs.map (fun rig => (rig.name, rig)))

def GroupingContext.configLifecycle (context : GroupingContext) : Option GcLifecycleStatus :=
  context.config.bind GcConfigResult.lifecycle

section Context

variable [SidebarLocale]

def groupingContext (options : GroupingOptions) : GroupingContext :=
  let config := options.config.bind id
  let projectCwd := normalizeMetadataValue options.projectCwd
  let projectName := normalizeMetadataValue options.projectName
  let workspaceName := config.bind fun config => normalizeMetadataValue (some config.workspace.name)
  let multiCityWorkspaceIds :=
    multiCityWorkspaceRigNames ((config.map GcConfigResult.rigs).getD [])
  let contexts := ⟨projectCwd, projectName⟩ :: options.projectMembers
  let projectCwds := contexts.flatMap projectCwdsOf
  let projectLabels := contexts.flatMap projectLabelsOf
  let isCityAliasProject := projectLabels.any fun label =>
    [ascii "city", ascii "gc"].any fun name => SidebarLocale.equalUpToCase label name
  { config
    projectName
    workspaceName
    workspaceSuspended := (config.map fun config => config.workspace.suspended).getD false
    multiCityWorkspaceIds
    isMergedMultiCityConfig :=
      workspaceName = some (ascii "cities") ∧ multiCityWorkspaceIds.length > 0
    projectCwds
    isGlobalScope :=
      projectCwds.length = 0 ∧ projectLabels.length = 0 ∧ options.config.isSome
    isCityAliasProject
    isCityProject := workspaceName.any fun workspaceName =>
      projectLabels.any (fun label => SidebarLocale.equalUpToCase label workspaceName) ||
        isCityAliasProject }

end Context

/-- `text.startsWith(start + "/")` -/
def isUnder (start text : Text) : Bool := (start ++ [slashUnit]).isPrefixOf text

def qualifyMergedMultiCityRigId (context : GroupingContext) (rig city : Option Text) :
    Option Text :=
  match truthy rig, truthy city with
  | some rigId, some cityName =>
    if ¬ context.isMergedMultiCityConfig ∨ cityName ∉ context.multiCityWorkspaceIds ∨
        rigId = cityName ∨ isUnder cityName rigId then rig
    else
      let cityScopedRig := cityName ++ [slashUnit] ++ rigId
      if KeyedMap.has cityScopedRig context.configRigByName then some cityScopedRig else rig
  | _, _ => rig

def qualifyMergedMultiCityAgent (context : GroupingContext)
    (agent city originalRig resolvedRig : Option Text) : Option Text :=
  match truthy agent, truthy resolvedRig, truthy city with
  | some agentName, some rigId, some cityName =>
    if ¬ context.isMergedMultiCityConfig ∨ cityName ∉ context.multiCityWorkspaceIds ∨
        (rigId ≠ cityName ∧ ¬ isUnder cityName rigId) then agent
    else if agentName = rigId ∨ isUnder rigId agentName then agent
    else
      let rigCandidates :=
        (truthy originalRig).toList ++ (truthy ((truthy originalRig).map pathBasename)).toList
      match rigCandidates.find? (fun candidate => isUnder candidate agentName) with
      | some candidate =>
        some (rigId ++ [slashUnit] ++ agentName.drop (candidate.length + 1))
      | none => some (rigId ++ [slashUnit] ++ agentName)
  | _, _, _ => agent

def projectContextMatchesRigPath (projectCwds : List Text) (rigPath : Text) : Bool :=
  match normalizeGcPath (some rigPath) with
  | none => false
  | some normalizedRigPath =>
    projectCwds.any (fun projectCwd => normalizeGcPath (some projectCwd) = some normalizedRigPath)

def threadReferencedRigId (context : GroupingContext) (threadMeta : GcThreadMeta) : Option Text :=
  let resolvedCity := normalizeMetadataValue threadMeta.city
  let agent := (normalizeMetadataValue threadMeta.agentQualified).or
    (normalizeMetadataValue threadMeta.agent)
  let cityWorkspaceGroupId :=
    resolvedCity.filter (fun city => city ∈ context.multiCityWorkspaceIds)
  let resolvedRig :=
    if threadMeta.groupKind = some .workspace ∧ (truthy cityWorkspaceGroupId).isSome then
      cityWorkspaceGroupId
    else
      ((normalizeMetadataValue threadMeta.groupId).or (normalizeMetadataValue threadMeta.rig)).or
        (deriveRigIdFromQualifiedAgent (agent.getD []))
  truthy (qualifyMergedMultiCityRigId context resolvedRig resolvedCity)

def expandRelevantRigsWithMultiCityRoots (rigs relevantRigs : List GcConfigRig)
    (cityRootNames : List Text) : List GcConfigRig :=
  if relevantRigs.length = 0 then []
  else
    let relevantRigNames := relevantRigs.map GcConfigRig.name
    let requiredCityRoots := relevantRigs.flatMap fun rig =>
      cityRootNames.filter (fun cityName => rig.name = cityName ∨ isUnder cityName rig.name)
    rigs.filter (fun rig => rig.name ∈ relevantRigNames ∨ rig.name ∈ requiredCityRoots)

def relevantRigs (context : GroupingContext) (threadReferencedRigIds : List Text) :
    List GcConfigRig :=
  let directlyRelevantRigs := context.configRigs.filter fun rig =>
    context.projectCwds.length = 0 ∨ projectContextMatchesRigPath context.projectCwds rig.path ∨
      rig.name ∈ threadReferencedRigIds
  if context.isMergedMultiCityConfig ∧ (context.isGlobalScope ∨ context.isCityProject) then
    expandRelevantRigsWithMultiCityRoots context.configRigs directlyRelevantRigs
      context.multiCityWorkspaceIds
  else directlyRelevantRigs

section Grouping

variable [SidebarLocale] {T : Type}

/-! ## Seeding -/

structure SeededGroups (T : Type) where
  rigGroupsById : RigGroups T
  cityScopedRigGroupId : Option Text

def seedRig (context : GroupingContext) (rigGroupsById : RigGroups T) (rig : GcConfigRig) :
    RigGroups T :=
  let isMultiCityWorkspace :=
    context.isMergedMultiCityConfig ∧ rig.name ∈ context.multiCityWorkspaceIds
  KeyedMap.set rig.name
    { id := rig.name
      label := rig.name
      kind := if isMultiCityWorkspace then .workspace else .rig
      isConfigured := true
      isSuspended := rig.suspended
      lifecycle := rig.lifecycle
      agentGroupsById := KeyedTable.empty _ } rigGroupsById

def updateRigGroup (key : Text)
    (update : MutableVirtualRigGroup T → MutableVirtualRigGroup T) (rigGroupsById : RigGroups T) :
    RigGroups T :=
  match KeyedMap.get key rigGroupsById with
  | none => rigGroupsById
  | some rigGroup => KeyedMap.set key (update rigGroup) rigGroupsById

def seedWorkspaceRig (context : GroupingContext) (relevantRigs : List GcConfigRig)
    (rigGroupsById : RigGroups T) : SeededGroups T :=
  match (if context.isCityProject ∨ context.isGlobalScope then context.workspaceName else none) with
  | none => ⟨rigGroupsById, none⟩
  | some workspaceName =>
    match relevantRigs.find?
        (fun rig => SidebarLocale.equalUpToCase rig.name workspaceName) with
    | none => ⟨rigGroupsById, none⟩
    | some workspaceRig =>
      ⟨updateRigGroup workspaceRig.name (fun rigGroup =>
        { rigGroup with
          kind := .workspace
          label := SidebarLocale.toUpperCase workspaceName
          isSuspended := context.workspaceSuspended
          lifecycle :=
            (workspaceRig.lifecycle.or context.configLifecycle).or rigGroup.lifecycle })
        rigGroupsById, some workspaceRig.name⟩

def seedAgent (relevantRigNames : List Text) (rigGroupsById : RigGroups T) (agent : GcConfigAgent) :
    RigGroups T :=
  if isImplicitProviderLane agent then rigGroupsById
  else
    match normalizeMetadataValue agent.dir with
    | none => rigGroupsById
    | some rigName =>
      if rigName ∈ relevantRigNames then
        updateRigGroup rigName (fun rigGroup => addConfiguredAgentGroup rigGroup agent)
          rigGroupsById
      else rigGroupsById

def seedRelevantRigs (context : GroupingContext) (relevantRigs : List GcConfigRig) :
    SeededGroups T :=
  if relevantRigs.length = 0 then ⟨KeyedTable.empty _, none⟩
  else
    let rigGroupsById := relevantRigs.foldl (seedRig context) (KeyedTable.empty _)
    let seeded := seedWorkspaceRig context relevantRigs rigGroupsById
    { seeded with
      rigGroupsById := context.configAgents.foldl
        (seedAgent (relevantRigs.map GcConfigRig.name)) seeded.rigGroupsById }

def seedCityGroup (context : GroupingContext) (seeded : SeededGroups T) : SeededGroups T :=
  let isSeeded := (truthy seeded.cityScopedRigGroupId).any
    (fun cityId => KeyedMap.has cityId seeded.rigGroupsById)
  match context.workspaceName with
  | none => seeded
  | some workspaceName =>
    if ¬ isSeeded ∧ (context.isCityProject ∨ context.isGlobalScope) ∧
        ¬ context.isMergedMultiCityConfig then
      let label :=
        match (if context.isCityAliasProject then context.projectName else none) with
        | some projectName => SidebarLocale.toUpperCase projectName
        | none => SidebarLocale.toUpperCase workspaceName
      { rigGroupsById := KeyedMap.set workspaceName
          { id := workspaceName
            label
            kind := .workspace
            isConfigured := true
            isSuspended := context.workspaceSuspended
            lifecycle := context.configLifecycle
            agentGroupsById := KeyedTable.empty _ } seeded.rigGroupsById
        cityScopedRigGroupId := some workspaceName }
    else seeded

def addCityAgents (context : GroupingContext) (rigGroup : MutableVirtualRigGroup T) :
    MutableVirtualRigGroup T :=
  (context.configAgents.filter (fun agent =>
    !isImplicitProviderLane agent && (normalizeMetadataValue agent.dir).isNone)).foldl
      addConfiguredAgentGroup rigGroup

def seedCityAgents (context : GroupingContext) (seeded : SeededGroups T) : SeededGroups T :=
  match truthy seeded.cityScopedRigGroupId with
  | none => seeded
  | some cityId =>
    { seeded with
      rigGroupsById := updateRigGroup cityId (addCityAgents context) seeded.rigGroupsById }

def seedGroups (context : GroupingContext) (threadReferencedRigIds : List Text) : SeededGroups T :=
  seedCityAgents context
    (seedCityGroup context
      (seedRelevantRigs context (relevantRigs context threadReferencedRigIds)))

structure ThreadTarget where
  resolvedRig : Option Text
  resolvedAgent : Option Text

def resolveThread (context : GroupingContext) (cityScopedRigGroupId : Option Text)
    (threadMeta : GcThreadMeta) : ThreadTarget :=
  let rig := normalizeMetadataValue threadMeta.rig
  let resolvedCity := normalizeMetadataValue threadMeta.city
  let cityWorkspaceGroupId :=
    (resolvedCity.filter (fun city => city ∈ context.multiCityWorkspaceIds)).or
      cityScopedRigGroupId
  let named :=
    if threadMeta.groupKind = some .workspace ∧ (truthy cityWorkspaceGroupId).isSome then
      cityWorkspaceGroupId
    else (normalizeMetadataValue threadMeta.groupId).or rig
  let agent := (normalizeMetadataValue threadMeta.agentQualified).or
    (normalizeMetadataValue threadMeta.agent)
  let qualified := qualifyMergedMultiCityRigId context named resolvedCity
  let configured :=
    (agent.bind fun agentName => context.configAgents.find?
      (fun entry => configuredAgentQualifiedName entry = agentName)).bind fun entry =>
        (normalizeMetadataValue entry.dir).or cityScopedRigGroupId
  let derived := agent.bind deriveRigIdFromQualifiedAgent
  let found := (((truthy qualified).or (truthy configured)).or (truthy derived)).or
    cityScopedRigGroupId
  let resolvedRig := qualifyMergedMultiCityRigId context found resolvedCity
  { resolvedRig
    resolvedAgent := qualifyMergedMultiCityAgent context agent resolvedCity rig resolvedRig }

/-- The rig and agent a thread is grouped under; `none` where it stands alone. -/
def threadPlacement (context : GroupingContext) (cityScopedRigGroupId : Option Text)
    (threadMeta : GcThreadMeta) : Option (Text × Text) :=
  let resolvedCity := normalizeMetadataValue threadMeta.city
  let target := resolveThread context cityScopedRigGroupId threadMeta
  if context.isMergedMultiCityConfig ∧
      resolvedCity.any (fun city => city ∉ context.multiCityWorkspaceIds) then none
  else if context.isMergedMultiCityConfig ∧ threadMeta.groupKind = some .workspace ∧
      (truthy target.resolvedRig).any (fun rig => rig ∉ context.multiCityWorkspaceIds) then none
  else
    (truthy target.resolvedRig).bind fun rig =>
      (truthy target.resolvedAgent).map fun agent => (rig, agent)

/-- The group of the rig, changed by the thread's metadata where it is there, else made. -/
def ensureRigGroup (context : GroupingContext) (cityScopedRigGroupId : Option Text)
    (threadMeta : GcThreadMeta) (resolvedRig : Text) (rigGroupsById : RigGroups T) :
    MutableVirtualRigGroup T :=
  let canonicalGroupLabel := normalizeMetadataValue threadMeta.groupLabel
  let isCityGroup := cityScopedRigGroupId = some resolvedRig
  let resolvedRigLifecycle :=
    ((KeyedMap.get resolvedRig context.configRigByName).bind GcConfigRig.lifecycle).or
      (if isCityGroup then context.configLifecycle else none)
  match KeyedMap.get resolvedRig rigGroupsById with
  | some rigGroup =>
    let label :=
      if threadMeta.groupKind = some .workspace then canonicalGroupLabel.getD rigGroup.label
      else rigGroup.label
    { rigGroup with label, lifecycle := rigGroup.lifecycle.or resolvedRigLifecycle }
  | none =>
    { id := resolvedRig
      label := canonicalGroupLabel.getD
        (if isCityGroup then
          (context.workspaceName.map SidebarLocale.toUpperCase).getD resolvedRig
        else resolvedRig)
      kind := threadMeta.groupKind.getD (if isCityGroup then .workspace else .rig)
      isConfigured := false
      isSuspended :=
        if threadMeta.groupKind = some .workspace ∨ isCityGroup then context.workspaceSuspended
        else false
      lifecycle := resolvedRigLifecycle
      agentGroupsById := KeyedTable.empty _ }

def pushThread (thread : T) (group : VirtualAgentGroup T) : VirtualAgentGroup T :=
  { group with threads := group.threads ++ [thread] }

/-- The thread in the group of its agent; the group takes over what the configuration says. -/
def addThread (context : GroupingContext) (threadMeta : GcThreadMeta)
    (resolvedRig resolvedAgent : Text) (thread : T) (rigGroup : MutableVirtualRigGroup T) :
    MutableVirtualRigGroup T :=
  match findMatchingAgentGroup rigGroup.agentGroupsById resolvedAgent with
  | some (key, existingAgentGroup) =>
    let withThread := pushThread thread existingAgentGroup
    let configured :=
      match findConfiguredAgent context.config existingAgentGroup.qualifiedName with
      | none => withThread
      | some agent => applyConfiguredAgent rigGroup.isSuspended agent withThread
    setAgentGroup key configured rigGroup
  | none =>
    let label := (normalizeMetadataValue threadMeta.agentLabel).getD
      (agentFolderLabel resolvedAgent)
    setAgentGroup resolvedAgent
      (newAgentGroup resolvedRig resolvedAgent label rigGroup.isSuspended [thread]
        (findConfiguredAgent context.config resolvedAgent)) rigGroup

structure Grouped (T : Type) where
  standaloneThreads : List T
  rigGroupsById : RigGroups T

variable (customMetadata : T → ThreadMetadata)

def placeThread (context : GroupingContext) (cityScopedRigGroupId : Option Text)
    (grouped : Grouped T) (thread : T) : Grouped T :=
  let threadMeta := parseGcMeta (customMetadata thread)
  match threadPlacement context cityScopedRigGroupId threadMeta with
  | none => { grouped with standaloneThreads := grouped.standaloneThreads ++ [thread] }
  | some (resolvedRig, resolvedAgent) =>
    let rigGroup := ensureRigGroup context cityScopedRigGroupId threadMeta resolvedRig
      grouped.rigGroupsById
    { grouped with
      rigGroupsById := KeyedMap.set resolvedRig
        (addThread context threadMeta resolvedRig resolvedAgent thread rigGroup)
        grouped.rigGroupsById }

def backfillGroup (context : GroupingContext) (rigGroup : MutableVirtualRigGroup T) :
    MutableVirtualRigGroup T :=
  if rigGroup.kind ≠ .workspace ∨
      (context.isMergedMultiCityConfig ∧ rigGroup.id ∉ context.multiCityWorkspaceIds) then rigGroup
  else
    addCityAgents context
      { rigGroup with
        isConfigured := true
        isSuspended := rigGroup.isSuspended || context.workspaceSuspended
        lifecycle := rigGroup.lifecycle.or context.configLifecycle }

def backfillGroups (context : GroupingContext) (rigGroupsById : RigGroups T) :
    List (MutableVirtualRigGroup T) :=
  let groups := rigGroupsById.rows.map Prod.snd
  if context.config.isSome ∧ context.workspaceName.isSome then groups.map (backfillGroup context)
  else groups

def finishRigGroup (rigGroup : MutableVirtualRigGroup T) : VirtualRigGroup T where
  id := rigGroup.id
  label := rigGroup.label
  kind := rigGroup.kind
  isConfigured := rigGroup.isConfigured
  isSuspended := rigGroup.isSuspended
  lifecycle := rigGroup.lifecycle
  agentGroups := toSorted (fun a b => SidebarLocale.localeCompare a.label b.label)
    (rigGroup.agentGroupsById.rows.map Prod.snd)

structure GroupedThreads (T : Type) where
  standaloneThreads : List T
  rigGroups : List (VirtualRigGroup T)

def seededFor (options : GroupingOptions) (threads : List T) : SeededGroups T :=
  let context := groupingContext options
  seedGroups context
    (threads.filterMap
      (fun thread => threadReferencedRigId context (parseGcMeta (customMetadata thread))))

def groupThreadsByRigAndAgent (threads : List T) (options : GroupingOptions) : GroupedThreads T :=
  let context := groupingContext options
  let seeded := seededFor customMetadata options threads
  let grouped := threads.foldl
    (placeThread customMetadata context seeded.cityScopedRigGroupId) ⟨[], seeded.rigGroupsById⟩
  { standaloneThreads := grouped.standaloneThreads
    rigGroups :=
      (toSorted (fun a b => SidebarLocale.localeCompare a.label b.label)
        (backfillGroups context grouped.rigGroupsById)).map finishRigGroup }

end Grouping

end GT3Code.Contracts
