import GT3Code.Contracts.SidebarPartition

/-! # What the sidebar shows

Every thread once and in order, ids without repetition. Two agents of a rig share a group only
where one of them has none of its own.
-/

namespace GT3Code.Contracts

open GT3Code.Base GT3Code.Base.Json

variable {T : Type} {target : T → Option (Text × Text)} {done : List T} {rigId : Text}
  {rigGroup : MutableVirtualRigGroup T}

variable {context : GroupingContext}

theorem backfillGroup_ok (h : RigGroupOk target done rigId rigGroup) :
    RigGroupOk target done rigId (backfillGroup context rigGroup) ∧
      (rigThreads (backfillGroup context rigGroup)).Perm (rigThreads rigGroup) := by
  unfold backfillGroup
  split
  · exact ⟨h, List.Perm.refl _⟩
  · exact foldl_addConfiguredAgentGroup _ ⟨h.id_eq, h.agents⟩

structure RigListOk (target : T → Option (Text × Text)) (done : List T) (once : List T)
    (rigGroups : List (MutableVirtualRigGroup T)) : Prop where
  ids : (rigGroups.map MutableVirtualRigGroup.id).Nodup
  groups : ∀ rigGroup ∈ rigGroups, RigGroupOk target done rigGroup.id rigGroup
  threads : (rigGroups.flatMap rigThreads).Perm once

variable {rigGroups : RigGroups T}

theorem RigGroupsOk.toList (h : RigGroupsOk target done rigGroups) :
    RigListOk target done (allThreads rigGroups) (rigGroups.rows.map Prod.snd) := by
  refine ⟨?_, ?_, ?_⟩
  · have hids : (rigGroups.rows.map Prod.snd).map MutableVirtualRigGroup.id =
        rigGroups.rows.map Prod.fst := by
      rw [List.map_map]
      exact List.map_congr_left (fun entry hentry => (h entry hentry).id_eq)
    rw [hids]
    exact KeyedMap.nodup_keys rigGroups
  · intro rigGroup hrig
    obtain ⟨entry, hentry, rfl⟩ := List.mem_map.mp hrig
    rw [(h entry hentry).id_eq]
    exact h entry hentry
  · rw [List.flatMap_map]
    exact List.Perm.refl _

theorem RigListOk.backfill {once : List T} {rigGroups : List (MutableVirtualRigGroup T)}
    (h : RigListOk target done once rigGroups) :
    RigListOk target done once (rigGroups.map (backfillGroup context)) := by
  have hid : ∀ rigGroup ∈ rigGroups, (backfillGroup context rigGroup).id = rigGroup.id :=
    fun rigGroup hrig => (backfillGroup_ok (h.groups rigGroup hrig)).1.id_eq
  refine ⟨?_, ?_, ?_⟩
  · have hids : (rigGroups.map (backfillGroup context)).map MutableVirtualRigGroup.id =
        rigGroups.map MutableVirtualRigGroup.id := by
      rw [List.map_map]
      exact List.map_congr_left hid
    rw [hids]
    exact h.ids
  · intro rigGroup hrig
    obtain ⟨old, hold, rfl⟩ := List.mem_map.mp hrig
    rw [hid old hold]
    exact (backfillGroup_ok (h.groups old hold)).1
  · rw [List.flatMap_map]
    refine List.Perm.trans (List.Perm.flatMap_left _ (fun rigGroup hrig => ?_)) h.threads
    exact (backfillGroup_ok (h.groups rigGroup hrig)).2

theorem RigGroupsOk.backfillGroups (context : GroupingContext)
    (h : RigGroupsOk target done rigGroups) :
    RigListOk target done (allThreads rigGroups) (backfillGroups context rigGroups) := by
  unfold Contracts.backfillGroups
  dsimp only
  split
  · exact h.toList.backfill
  · exact h.toList

section Finishing

variable [SidebarLocale]

theorem finishRigGroup_threads (rigGroup : MutableVirtualRigGroup T) :
    ((finishRigGroup rigGroup).agentGroups.flatMap VirtualAgentGroup.threads).Perm
      (rigThreads rigGroup) := by
  refine ((toSorted_perm _ _).flatMap_right _).trans ?_
  rw [List.flatMap_map]
  exact List.Perm.refl _

theorem mem_finishRigGroup {group : VirtualAgentGroup T} :
    group ∈ (finishRigGroup rigGroup).agentGroups ↔
      ∃ entry ∈ rigGroup.agentGroupsById.rows, entry.2 = group :=
  mem_toSorted.trans List.mem_map

theorem finishRigGroup_agentIds (h : RigGroupOk target done rigId rigGroup) :
    ((finishRigGroup rigGroup).agentGroups.map VirtualAgentGroup.id).Nodup := by
  have hids : (rigGroup.agentGroupsById.rows.map Prod.snd).map VirtualAgentGroup.id =
      (rigGroup.agentGroupsById.rows.map Prod.fst).map
        (fun agent => rigId ++ [slashUnit] ++ agent) := by
    rw [List.map_map, List.map_map]
    exact List.map_congr_left (fun entry hentry => (h.agents entry hentry).id_eq)
  refine ((toSorted_perm _ _).map _).nodup_iff.mpr ?_
  rw [hids]
  exact (KeyedMap.nodup_keys rigGroup.agentGroupsById).map (List.append_right_injective _)

end Finishing

/-! ## The grouping -/

def GroupedThreads.threadsInGroups (result : GroupedThreads T) : List T :=
  result.rigGroups.flatMap (fun rig => rig.agentGroups.flatMap VirtualAgentGroup.threads)

/-- The agent has no group of its own in the rig, and the group has one of its labels. -/
def JoinsByLabel (rig : VirtualRigGroup T) (group : VirtualAgentGroup T) (agent : Text) : Prop :=
  group.label ∈ candidateAgentLabels agent ∧ ∀ other ∈ rig.agentGroups, other.qualifiedName ≠ agent

structure FaithfulGrouping (customMetadata : T → ThreadMetadata)
    (target : T → Option (Text × Text)) (threads : List T) (result : GroupedThreads T) : Prop where
  once : (result.standaloneThreads ++ result.threadsInGroups).Perm threads
  standaloneInOrder : result.standaloneThreads.Sublist threads
  groupsInOrder : ∀ rig ∈ result.rigGroups, ∀ group ∈ rig.agentGroups,
    group.threads.Sublist threads
  rigIds : (result.rigGroups.map VirtualRigGroup.id).Nodup
  agentIds : ∀ rig ∈ result.rigGroups, (rig.agentGroups.map VirtualAgentGroup.id).Nodup
  unmanaged : ∀ thread ∈ threads, truthy (customMetadata thread (ascii "gc.agent")) = none →
    thread ∈ result.standaloneThreads ∧ thread ∉ result.threadsInGroups
  placed : ∀ rig ∈ result.rigGroups, ∀ group ∈ rig.agentGroups, ∀ thread ∈ group.threads,
    ∃ agent, target thread = some (rig.id, agent) ∧
      (agent = group.qualifiedName ∨ JoinsByLabel rig group agent)
  shared : ∀ rig ∈ result.rigGroups, ∀ group ∈ rig.agentGroups,
    ∀ first ∈ group.threads, ∀ second ∈ group.threads, ∀ firstRig secondRig agent other,
      target first = some (firstRig, agent) → target second = some (secondRig, other) →
        agent ≠ other → JoinsByLabel rig group agent ∨ JoinsByLabel rig group other

theorem targetOf_of_unmanaged {customMetadata : T → ThreadMetadata} {context : GroupingContext}
    {cityId : Option Text} {thread : T}
    (h : truthy (customMetadata thread (ascii "gc.agent")) = none) :
    targetOf customMetadata context cityId thread = none := by
  have hmeta : parseGcMeta (customMetadata thread) =
      ⟨false, none, none, none, none, none, none, none, none⟩ := by
    unfold parseGcMeta
    rw [h]
  have hagent : (resolveThread context cityId
      ⟨false, none, none, none, none, none, none, none, none⟩).resolvedAgent = none := rfl
  have htruthy : truthy none = none := rfl
  unfold targetOf threadPlacement
  rw [hmeta]
  dsimp only
  rw [hagent, htruthy]
  simp

section Grouping

variable [SidebarLocale]

theorem RigGroupOk.joins {entry : Text × VirtualAgentGroup T}
    (h : RigGroupOk target done rigId rigGroup) {agent : Text}
    (hentry : entry ∈ rigGroup.agentGroupsById.rows)
    (hfolds : FoldsInto rigGroup.agentGroupsById entry agent) :
    agent = entry.2.qualifiedName ∨ JoinsByLabel (finishRigGroup rigGroup) entry.2 agent := by
  refine hfolds.imp (fun hown => hown.trans (h.agents entry hentry).name_eq.symm)
    (fun hlabel => ⟨hlabel.1, fun other hother hname => ?_⟩)
  obtain ⟨held, hheld, rfl⟩ := mem_finishRigGroup.mp hother
  have hkey : held.1 = agent := (h.agents held hheld).name_eq.symm.trans hname
  have hhas : KeyedMap.has agent rigGroup.agentGroupsById = true :=
    KeyedMap.has_iff_mem_keys.mpr (hkey ▸ List.mem_map_of_mem hheld)
  rw [hlabel.2] at hhas
  cases hhas

def sidebarTarget (customMetadata : T → ThreadMetadata) (threads : List T)
    (options : GroupingOptions) : T → Option (Text × Text) :=
  targetOf customMetadata (groupingContext options)
    (seededFor customMetadata options threads).cityScopedRigGroupId

theorem groupThreads_spec (customMetadata : T → ThreadMetadata) (threads : List T)
    (options : GroupingOptions) :
    ∃ (grouped : Grouped T) (rigGroups : List (MutableVirtualRigGroup T)),
      GroupedOk (sidebarTarget customMetadata threads options) threads grouped ∧
      RigListOk (sidebarTarget customMetadata threads options) threads
        (allThreads grouped.rigGroupsById) rigGroups ∧
      groupThreadsByRigAndAgent customMetadata threads options =
        ⟨grouped.standaloneThreads, rigGroups.map finishRigGroup⟩ := by
  have hstart : GroupedOk (sidebarTarget customMetadata threads options) []
      ⟨[], (seededFor customMetadata options threads).rigGroupsById⟩ :=
    groupedOk_start (rigGroupsOk_seedGroups _)
  have hrun := hstart.run threads
  rw [List.nil_append] at hrun
  have hlist := RigGroupsOk.backfillGroups (groupingContext options) hrun.groups
  have hsorted := toSorted_perm (fun a b => SidebarLocale.localeCompare a.label b.label)
    (backfillGroups (groupingContext options) (threads.foldl
      (placeThread customMetadata (groupingContext options)
        (seededFor customMetadata options threads).cityScopedRigGroupId)
      ⟨[], (seededFor customMetadata options threads).rigGroupsById⟩).rigGroupsById)
  refine ⟨_, _, hrun, ⟨?_, ?_, ?_⟩, rfl⟩
  · exact (hsorted.map _).nodup_iff.mpr hlist.ids
  · exact fun rigGroup hrig => hlist.groups rigGroup (hsorted.mem_iff.mp hrig)
  · exact (hsorted.flatMap_right _).trans hlist.threads

theorem threadsInGroups_perm (standalone : List T) (rigGroups : List (MutableVirtualRigGroup T)) :
    (GroupedThreads.threadsInGroups ⟨standalone, rigGroups.map finishRigGroup⟩).Perm
      (rigGroups.flatMap rigThreads) := by
  unfold GroupedThreads.threadsInGroups
  rw [List.flatMap_map]
  exact List.Perm.flatMap_left _ (fun rigGroup _ => finishRigGroup_threads rigGroup)

theorem groupThreadsByRigAndAgent_partition (customMetadata : T → ThreadMetadata)
    (threads : List T) (options : GroupingOptions) :
    FaithfulGrouping customMetadata (sidebarTarget customMetadata threads options) threads
      (groupThreadsByRigAndAgent customMetadata threads options) := by
  obtain ⟨grouped, rigGroups, hgrouped, hlist, hresult⟩ :=
    groupThreads_spec customMetadata threads options
  rw [hresult]
  have hgroups := threadsInGroups_perm grouped.standaloneThreads rigGroups
  have honce := ((hgroups.trans hlist.threads).append_left grouped.standaloneThreads).trans
    hgrouped.once
  have hfinished : ∀ rig ∈ rigGroups.map finishRigGroup, ∀ group ∈ rig.agentGroups,
      ∃ rigGroup ∈ rigGroups, ∃ entry ∈ rigGroup.agentGroupsById.rows,
        finishRigGroup rigGroup = rig ∧ entry.2 = group := by
    intro rig hrig group hgroup
    obtain ⟨rigGroup, hmem, rfl⟩ := List.mem_map.mp hrig
    obtain ⟨entry, hentry, heq⟩ := mem_finishRigGroup.mp hgroup
    exact ⟨rigGroup, hmem, entry, hentry, rfl, heq⟩
  have hplaced : ∀ rig ∈ rigGroups.map finishRigGroup, ∀ group ∈ rig.agentGroups,
      ∀ thread ∈ group.threads, ∃ agent,
        sidebarTarget customMetadata threads options thread = some (rig.id, agent) ∧
          (agent = group.qualifiedName ∨ JoinsByLabel rig group agent) := by
    intro rig hrig group hgroup thread hthread
    obtain ⟨rigGroup, hmem, entry, hentry, rfl, rfl⟩ := hfinished rig hrig group hgroup
    have hok := hlist.groups rigGroup hmem
    obtain ⟨agent, htarget, hfolds⟩ := (hok.agents entry hentry).placed thread hthread
    exact ⟨agent, htarget, hok.joins hentry hfolds⟩
  refine ⟨honce, hgrouped.inOrder, ?_, ?_, ?_, ?_, hplaced, ?_⟩
  · intro rig hrig group hgroup
    obtain ⟨rigGroup, hmem, entry, hentry, -, rfl⟩ := hfinished rig hrig group hgroup
    exact ((hlist.groups rigGroup hmem).agents entry hentry).inOrder
  · rw [List.map_map]
    exact hlist.ids
  · intro rig hrig
    obtain ⟨rigGroup, hmem, rfl⟩ := List.mem_map.mp hrig
    exact finishRigGroup_agentIds (hlist.groups rigGroup hmem)
  · intro thread hthread hunmanaged
    have houtside : thread ∉ GroupedThreads.threadsInGroups
        ⟨grouped.standaloneThreads, rigGroups.map finishRigGroup⟩ := by
      intro hmem
      obtain ⟨rig, hrig, hinrig⟩ := List.mem_flatMap.mp hmem
      obtain ⟨group, hgroup, hingroup⟩ := List.mem_flatMap.mp hinrig
      obtain ⟨agent, htarget, -⟩ := hplaced rig hrig group hgroup thread hingroup
      rw [sidebarTarget, targetOf_of_unmanaged hunmanaged] at htarget
      cases htarget
    exact ⟨(List.mem_append.mp (honce.mem_iff.mpr hthread)).resolve_right houtside, houtside⟩
  · intro rig hrig group hgroup first hfirst second hsecond firstRig secondRig agent other
      hagent hother hne
    obtain ⟨_, hfirst', hown⟩ := hplaced rig hrig group hgroup first hfirst
    obtain ⟨_, hsecond', hown'⟩ := hplaced rig hrig group hgroup second hsecond
    cases hagent.symm.trans hfirst'
    cases hother.symm.trans hsecond'
    rcases hown with rfl | hlabel
    · exact Or.inr (hown'.resolve_left (fun heq => hne heq.symm))
    · exact Or.inl hlabel

/-- Threads of one rig with two configured agents stand in two groups. -/
def AgentsApart (customMetadata : T → ThreadMetadata) (threads : List T)
    (options : GroupingOptions) : Prop :=
  ∀ rig ∈ (groupThreadsByRigAndAgent customMetadata threads options).rigGroups,
    ∀ group ∈ rig.agentGroups, ∀ first ∈ group.threads, ∀ second ∈ group.threads,
      ∀ agent ∈ (groupingContext options).configAgents,
        ∀ other ∈ (groupingContext options).configAgents,
          sidebarTarget customMetadata threads options first =
              some (rig.id, configuredAgentQualifiedName agent) →
            sidebarTarget customMetadata threads options second =
                some (rig.id, configuredAgentQualifiedName other) →
              configuredAgentQualifiedName agent = configuredAgentQualifiedName other

end Grouping

@[reducible] def asciiLocale : SidebarLocale where
  localeCompare left right := if left = right then 0 else if left < right then -1 else 1
  equalUpToCase left right :=
    left.map (fun u => if 97 ≤ u ∧ u ≤ 122 then u - 32 else u) =
      right.map (fun u => if 97 ≤ u ∧ u ≤ 122 then u - 32 else u)
  toUpperCase text := text.map (fun u => if 97 ≤ u ∧ u ≤ 122 then u - 32 else u)

def workerOf (name : String) : GcConfigAgent where
  name := ascii name
  description := none
  dir := some (ascii "mill")
  provider := some (ascii "claude")
  workDir := none
  promptTemplate := none
  startCommand := none
  defaultSlingFormula := none
  isPool := none
  minActiveSessions := none
  maxActiveSessions := none
  wakeMode := none
  scope := none
  suspended := false
  namedSessionMode := none

def twoWorkers : GroupingOptions where
  config := some (some
    { workspace := ⟨ascii "town", false⟩
      agents := [workerOf "alpha.worker", workerOf "beta.worker"]
      rigs := [⟨ascii "mill", ascii "/mill", false, none⟩]
      lifecycle := none })
  projectCwd := none
  projectName := none
  projectMembers := []

/-- The metadata of a thread of `alpha.worker`, or of `beta.worker`. -/
def workerMetadata (beta : Bool) : ThreadMetadata := fun key =>
  if key = ascii "gc.agent" then
    some (if beta then ascii "mill/beta.worker" else ascii "mill/alpha.worker")
  else if key = ascii "gc.rig" then some (ascii "mill")
  else none

theorem not_agentsApart :
    ¬ @AgentsApart Bool asciiLocale workerMetadata [false, true] twoWorkers := by
  unfold AgentsApart
  decide +kernel

end GT3Code.Contracts
