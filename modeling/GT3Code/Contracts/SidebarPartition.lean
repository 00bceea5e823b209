import GT3Code.Contracts.SidebarGrouping

/-! # The grouping is a partition

Every thread is in one list, in the order of the threads. A group of an agent holds the threads
of that agent and of agents that it has a label of; an agent whose threads went to the group of
another one never gets a group of its own.
-/

namespace GT3Code.Contracts

open GT3Code.Base GT3Code.Base.Json

section Partition

variable {T : Type}

/-- A thread of `agent` may stand in the group of `entry`. -/
def FoldsInto (groups : KeyedMap Text (VirtualAgentGroup T)) (entry : Text × VirtualAgentGroup T)
    (agent : Text) : Prop :=
  agent = entry.1 ∨
    entry.2.label ∈ candidateAgentLabels agent ∧ KeyedMap.has agent groups = false

/-- A group under `key` is there, or no other one has a label of it. -/
def MaySet (groups : KeyedMap Text (VirtualAgentGroup T)) (key : Text) : Prop :=
  KeyedMap.has key groups = true ∨
    ∀ entry ∈ groups.rows, entry.2.label ∉ candidateAgentLabels key

variable {groups : KeyedMap Text (VirtualAgentGroup T)} {agent : Text}
  {entry : Text × VirtualAgentGroup T} {group : VirtualAgentGroup T}

theorem findMatchingAgentGroup_some (h : findMatchingAgentGroup groups agent = some entry) :
    entry ∈ groups.rows ∧ FoldsInto groups entry agent := by
  unfold findMatchingAgentGroup at h
  cases hget : KeyedMap.get agent groups with
  | some exactMatch =>
    rw [hget] at h
    cases h
    exact ⟨KeyedMap.get_eq_some_iff.mp hget, Or.inl rfl⟩
  | none =>
    rw [hget] at h
    obtain ⟨hlabel, -⟩ := List.find?_eq_some_iff_append.mp h
    refine ⟨List.mem_of_find?_eq_some h, Or.inr ⟨of_decide_eq_true hlabel, ?_⟩⟩
    rw [KeyedMap.has, hget]
    rfl

theorem findMatchingAgentGroup_none (h : findMatchingAgentGroup groups agent = none) :
    KeyedMap.get agent groups = none ∧ MaySet groups agent := by
  unfold findMatchingAgentGroup at h
  cases hget : KeyedMap.get agent groups with
  | some exactMatch =>
    rw [hget] at h
    cases h
  | none =>
    rw [hget] at h
    refine ⟨rfl, Or.inr (fun entry hentry => ?_)⟩
    simpa using List.find?_eq_none.mp h entry hentry

theorem maySet_of_mem (h : entry ∈ groups.rows) : MaySet groups entry.1 :=
  Or.inl (KeyedMap.has_iff_mem_keys.mpr (List.mem_map_of_mem h))

theorem FoldsInto.set {groups : KeyedMap Text (VirtualAgentGroup T)}
    {entry : Text × VirtualAgentGroup T} {agent key : Text} (h : FoldsInto groups entry agent)
    (hentry : entry ∈ groups.rows) (hkey : MaySet groups key) (group : VirtualAgentGroup T) :
    FoldsInto (KeyedMap.set key group groups) entry agent := by
  refine h.imp_right (fun hlabel => ⟨hlabel.1, ?_⟩)
  rw [Bool.eq_false_iff, ne_eq, KeyedMap.has_set_iff, not_or]
  refine ⟨?_, by simp [hlabel.2]⟩
  rintro rfl
  rcases hkey with hheld | hother
  · rw [hlabel.2] at hheld
    cases hheld
  · exact hother entry hentry hlabel.1

section Held

variable (target : T → Option (Text × Text)) (done : List T)

/-- A group of an agent after the threads `done`. -/
structure AgentGroupOk (rigId : Text) (groups : KeyedMap Text (VirtualAgentGroup T))
    (entry : Text × VirtualAgentGroup T) : Prop where
  id_eq : entry.2.id = rigId ++ [slashUnit] ++ entry.1
  name_eq : entry.2.qualifiedName = entry.1
  inOrder : entry.2.threads.Sublist done
  placed : ∀ thread ∈ entry.2.threads, ∃ agent,
    target thread = some (rigId, agent) ∧ FoldsInto groups entry agent

structure RigGroupOk (rigId : Text) (rigGroup : MutableVirtualRigGroup T) : Prop where
  id_eq : rigGroup.id = rigId
  agents : ∀ entry ∈ rigGroup.agentGroupsById.rows,
    AgentGroupOk target done rigId rigGroup.agentGroupsById entry

def RigGroupsOk (rigGroups : RigGroups T) : Prop :=
  ∀ entry ∈ rigGroups.rows, RigGroupOk target done entry.1 entry.2

end Held

def rigThreads (rigGroup : MutableVirtualRigGroup T) : List T :=
  rigGroup.agentGroupsById.rows.flatMap (fun entry => entry.2.threads)

variable {target : T → Option (Text × Text)} {done : List T} {rigId : Text}
  {rigGroup : MutableVirtualRigGroup T}

theorem AgentGroupOk.later (h : AgentGroupOk target done rigId groups entry) (thread : T) :
    AgentGroupOk target (done ++ [thread]) rigId groups entry :=
  { h with inOrder := h.inOrder.trans (List.sublist_append_left _ _) }

theorem RigGroupOk.later (h : RigGroupOk target done rigId rigGroup) (thread : T) :
    RigGroupOk target (done ++ [thread]) rigId rigGroup :=
  ⟨h.id_eq, fun entry hentry => (h.agents entry hentry).later thread⟩

theorem AgentGroupOk.set {groups : KeyedMap Text (VirtualAgentGroup T)}
    {entry : Text × VirtualAgentGroup T} (h : AgentGroupOk target done rigId groups entry)
    (hentry : entry ∈ groups.rows) {key : Text} (hkey : MaySet groups key)
    (group : VirtualAgentGroup T) :
    AgentGroupOk target done rigId (KeyedMap.set key group groups) entry :=
  { h with
    placed := fun thread hthread => by
      obtain ⟨agent, htarget, hfolds⟩ := h.placed thread hthread
      exact ⟨agent, htarget, hfolds.set hentry hkey group⟩ }

theorem RigGroupOk.setGroup (h : RigGroupOk target done rigId rigGroup) {key : Text}
    (hkey : MaySet rigGroup.agentGroupsById key)
    (hgroup : AgentGroupOk target done rigId
      (KeyedMap.set key group rigGroup.agentGroupsById) (key, group)) :
    RigGroupOk target done rigId (setAgentGroup key group rigGroup) := by
  refine ⟨h.id_eq, fun entry hentry => ?_⟩
  rcases KeyedMap.mem_set_iff.mp hentry with rfl | ⟨hold, -⟩
  · exact hgroup
  · exact (h.agents entry hold).set hold hkey group

/-! ## Configured agents -/

@[simp] theorem newAgentGroup_id (rigId name label : Text) (suspended : Bool) (threads : List T)
    (agent : Option GcConfigAgent) :
    (newAgentGroup rigId name label suspended threads agent).id = rigId ++ [slashUnit] ++ name := by
  cases agent <;> rfl

@[simp] theorem newAgentGroup_qualifiedName (rigId name label : Text) (suspended : Bool)
    (threads : List T) (agent : Option GcConfigAgent) :
    (newAgentGroup rigId name label suspended threads agent).qualifiedName = name := by
  cases agent <;> rfl

@[simp] theorem newAgentGroup_threads (rigId name label : Text) (suspended : Bool)
    (threads : List T) (agent : Option GcConfigAgent) :
    (newAgentGroup rigId name label suspended threads agent).threads = threads := by
  cases agent <;> rfl

/-- What `applyConfiguredAgent` and `pushThread` leave of a group, up to the threads. -/
structure SameGroup (group group' : VirtualAgentGroup T) : Prop where
  id_eq : group'.id = group.id
  label_eq : group'.label = group.label
  name_eq : group'.qualifiedName = group.qualifiedName

theorem RigGroupOk.replace (h : RigGroupOk target done rigId rigGroup)
    (hentry : entry ∈ rigGroup.agentGroupsById.rows) (hsame : SameGroup entry.2 group)
    (horder : group.threads.Sublist done)
    (hplaced : ∀ thread ∈ group.threads, thread ∈ entry.2.threads ∨ ∃ agent,
      target thread = some (rigId, agent) ∧ FoldsInto rigGroup.agentGroupsById entry agent) :
    RigGroupOk target done rigId (setAgentGroup entry.1 group rigGroup) := by
  have hold := h.agents entry hentry
  refine h.setGroup (maySet_of_mem hentry)
    ⟨hsame.id_eq.trans hold.id_eq, hsame.name_eq.trans hold.name_eq, horder, ?_⟩
  intro thread hthread
  obtain ⟨agent, htarget, hfolds⟩ := (hplaced thread hthread).elim (hold.placed thread) id
  have hset := hfolds.set hentry (maySet_of_mem hentry) group
  refine ⟨agent, htarget, hset.imp_right (fun hlabel => ⟨?_, hlabel.2⟩)⟩
  exact hsame.label_eq.symm ▸ hlabel.1

theorem RigGroupOk.add (h : RigGroupOk target done rigId rigGroup)
    (hnone : findMatchingAgentGroup rigGroup.agentGroupsById agent = none)
    (hid : group.id = rigId ++ [slashUnit] ++ agent) (hname : group.qualifiedName = agent)
    (horder : group.threads.Sublist done)
    (hplaced : ∀ thread ∈ group.threads, target thread = some (rigId, agent)) :
    RigGroupOk target done rigId (setAgentGroup agent group rigGroup) :=
  h.setGroup (findMatchingAgentGroup_none hnone).2
    ⟨hid, hname, horder, fun thread hthread => ⟨agent, hplaced thread hthread, Or.inl rfl⟩⟩

theorem addConfiguredAgentGroup_of_some {agent : GcConfigAgent}
    (h : findMatchingAgentGroup rigGroup.agentGroupsById (configuredAgentQualifiedName agent) =
      some entry) :
    addConfiguredAgentGroup rigGroup agent =
      setAgentGroup entry.1 (applyConfiguredAgent rigGroup.isSuspended agent entry.2) rigGroup := by
  simp only [addConfiguredAgentGroup, h]

theorem addConfiguredAgentGroup_of_none {agent : GcConfigAgent}
    (h : findMatchingAgentGroup rigGroup.agentGroupsById (configuredAgentQualifiedName agent) =
      none) :
    addConfiguredAgentGroup rigGroup agent =
      setAgentGroup (configuredAgentQualifiedName agent)
        (newAgentGroup rigGroup.id (configuredAgentQualifiedName agent)
          (agentFolderLabel (configuredAgentQualifiedName agent)) rigGroup.isSuspended []
          (some agent)) rigGroup := by
  simp only [addConfiguredAgentGroup, h]

theorem RigGroupOk.addConfigured (h : RigGroupOk target done rigId rigGroup)
    (agent : GcConfigAgent) :
    RigGroupOk target done rigId (addConfiguredAgentGroup rigGroup agent) := by
  cases hfound : findMatchingAgentGroup rigGroup.agentGroupsById
      (configuredAgentQualifiedName agent) with
  | some entry =>
    rw [addConfiguredAgentGroup_of_some hfound]
    have hentry := (findMatchingAgentGroup_some hfound).1
    exact h.replace hentry ⟨rfl, rfl, rfl⟩ (h.agents entry hentry).inOrder
      (fun thread hthread => Or.inl hthread)
  | none =>
    rw [addConfiguredAgentGroup_of_none hfound]
    refine h.add hfound ?_ ?_ ?_ ?_
    · rw [newAgentGroup_id, h.id_eq]
    · exact newAgentGroup_qualifiedName ..
    · rw [newAgentGroup_threads]
      exact List.nil_sublist _
    · rw [newAgentGroup_threads]
      exact fun thread hthread => absurd hthread List.not_mem_nil

theorem rigThreads_setAgentGroup {key : Text} {added : List T}
    (h : group.threads.Perm
      (((KeyedMap.get key rigGroup.agentGroupsById).map VirtualAgentGroup.threads).getD [] ++
        added)) :
    (rigThreads (setAgentGroup key group rigGroup)).Perm (rigThreads rigGroup ++ added) :=
  KeyedMap.flatMap_set_perm h

theorem rigThreads_addConfiguredAgentGroup (rigGroup : MutableVirtualRigGroup T)
    (agent : GcConfigAgent) :
    (rigThreads (addConfiguredAgentGroup rigGroup agent)).Perm (rigThreads rigGroup) := by
  rw [← List.append_nil (rigThreads rigGroup)]
  cases hfound : findMatchingAgentGroup rigGroup.agentGroupsById
      (configuredAgentQualifiedName agent) with
  | some entry =>
    rw [addConfiguredAgentGroup_of_some hfound]
    refine rigThreads_setAgentGroup ?_
    rw [KeyedMap.get_eq_some_iff.mpr (findMatchingAgentGroup_some hfound).1, List.append_nil]
    exact List.Perm.refl _
  | none =>
    rw [addConfiguredAgentGroup_of_none hfound]
    refine rigThreads_setAgentGroup ?_
    rw [(findMatchingAgentGroup_none hfound).1, newAgentGroup_threads]
    exact List.Perm.refl _

theorem foldl_addConfiguredAgentGroup (agents : List GcConfigAgent)
    (h : RigGroupOk target done rigId rigGroup) :
    RigGroupOk target done rigId (agents.foldl addConfiguredAgentGroup rigGroup) ∧
      (rigThreads (agents.foldl addConfiguredAgentGroup rigGroup)).Perm (rigThreads rigGroup) := by
  induction agents generalizing rigGroup with
  | nil => exact ⟨h, List.Perm.refl _⟩
  | cons agent rest ih =>
    obtain ⟨hok, hperm⟩ := ih (h.addConfigured agent)
    exact ⟨hok, hperm.trans (rigThreads_addConfiguredAgentGroup rigGroup agent)⟩

/-! ## Placing the threads -/

def allThreads (rigGroups : RigGroups T) : List T :=
  rigGroups.rows.flatMap (fun entry => rigThreads entry.2)

theorem RigGroupsOk.set {rigGroups : RigGroups T} (h : RigGroupsOk target done rigGroups)
    {key : Text} (hgroup : RigGroupOk target done key rigGroup) :
    RigGroupsOk target done (KeyedMap.set key rigGroup rigGroups) := by
  intro entry hentry
  rcases KeyedMap.mem_set_iff.mp hentry with rfl | ⟨hold, -⟩
  · exact hgroup
  · exact h entry hold

section Placing

variable {context : GroupingContext} {cityId : Option Text}
  {threadMeta : GcThreadMeta} {resolvedRig resolvedAgent : Text} {thread : T}

theorem addThread_of_none
    (h : findMatchingAgentGroup rigGroup.agentGroupsById resolvedAgent = none) :
    ∃ label, addThread context threadMeta resolvedRig resolvedAgent thread rigGroup =
      setAgentGroup resolvedAgent
        (newAgentGroup resolvedRig resolvedAgent label rigGroup.isSuspended [thread]
          (findConfiguredAgent context.config resolvedAgent)) rigGroup := by
  simp only [addThread, h]
  exact ⟨_, rfl⟩

theorem addThread_of_some {entry : Text × VirtualAgentGroup T}
    (h : findMatchingAgentGroup rigGroup.agentGroupsById resolvedAgent = some entry) :
    ∃ group, addThread context threadMeta resolvedRig resolvedAgent thread rigGroup =
        setAgentGroup entry.1 group rigGroup ∧
      SameGroup entry.2 group ∧ group.threads = entry.2.threads ++ [thread] := by
  simp only [addThread, h]
  cases findConfiguredAgent context.config entry.2.qualifiedName with
  | none => exact ⟨_, rfl, ⟨rfl, rfl, rfl⟩, rfl⟩
  | some agent => exact ⟨_, rfl, ⟨rfl, rfl, rfl⟩, rfl⟩

theorem RigGroupOk.push (h : RigGroupOk target done resolvedRig rigGroup)
    (htarget : target thread = some (resolvedRig, resolvedAgent)) :
    RigGroupOk target (done ++ [thread]) resolvedRig
      (addThread context threadMeta resolvedRig resolvedAgent thread rigGroup) := by
  have hlater := h.later thread
  cases hfound : findMatchingAgentGroup rigGroup.agentGroupsById resolvedAgent with
  | none =>
    obtain ⟨label, hadd⟩ := addThread_of_none hfound
    rw [hadd]
    refine hlater.add hfound (newAgentGroup_id ..) (newAgentGroup_qualifiedName ..) ?_ ?_
    · rw [newAgentGroup_threads]
      exact List.sublist_append_right _ _
    · rw [newAgentGroup_threads]
      exact fun other hother => List.mem_singleton.mp hother ▸ htarget
  | some entry =>
    obtain ⟨hentry, hfolds⟩ := findMatchingAgentGroup_some hfound
    obtain ⟨group, hadd, hsame, hthreads⟩ := addThread_of_some hfound
    rw [hadd]
    refine hlater.replace hentry hsame ?_ (fun other hother => ?_)
    · rw [hthreads]
      exact (h.agents entry hentry).inOrder.append (List.Sublist.refl _)
    · rw [hthreads] at hother
      refine (List.mem_append.mp hother).imp_right (fun hnew => ?_)
      exact ⟨resolvedAgent, List.mem_singleton.mp hnew ▸ htarget, hfolds⟩

theorem rigThreads_addThread (rigGroup : MutableVirtualRigGroup T) :
    (rigThreads (addThread context threadMeta resolvedRig resolvedAgent thread rigGroup)).Perm
      (rigThreads rigGroup ++ [thread]) := by
  cases hfound : findMatchingAgentGroup rigGroup.agentGroupsById resolvedAgent with
  | none =>
    obtain ⟨label, hadd⟩ := addThread_of_none hfound
    rw [hadd]
    refine rigThreads_setAgentGroup ?_
    rw [(findMatchingAgentGroup_none hfound).1, newAgentGroup_threads]
    exact List.Perm.refl _
  | some entry =>
    obtain ⟨group, hadd, hsame, hthreads⟩ := addThread_of_some hfound
    rw [hadd]
    refine rigThreads_setAgentGroup ?_
    rw [KeyedMap.get_eq_some_iff.mpr (findMatchingAgentGroup_some hfound).1, hthreads]
    exact List.Perm.refl _

variable [SidebarLocale]

theorem ensureRigGroup_agentGroupsById (rigGroups : RigGroups T) :
    (ensureRigGroup context cityId threadMeta resolvedRig rigGroups).agentGroupsById =
      ((KeyedMap.get resolvedRig rigGroups).map
        MutableVirtualRigGroup.agentGroupsById).getD (KeyedTable.empty _) := by
  unfold ensureRigGroup
  cases KeyedMap.get resolvedRig rigGroups <;> rfl

theorem RigGroupsOk.ensure {rigGroups : RigGroups T}
    (h : RigGroupsOk target done rigGroups) :
    RigGroupOk target done resolvedRig
      (ensureRigGroup context cityId threadMeta resolvedRig rigGroups) := by
  unfold ensureRigGroup
  cases hget : KeyedMap.get resolvedRig rigGroups with
  | none => exact ⟨rfl, fun entry hentry => absurd hentry List.not_mem_nil⟩
  | some rigGroup =>
    have hold := h _ (KeyedMap.get_eq_some_iff.mp hget)
    exact ⟨hold.id_eq, hold.agents⟩

/-- What is grouped after the threads `done`. -/
structure GroupedOk (target : T → Option (Text × Text)) (done : List T) (grouped : Grouped T) :
    Prop where
  once : (grouped.standaloneThreads ++ allThreads grouped.rigGroupsById).Perm done
  inOrder : grouped.standaloneThreads.Sublist done
  groups : RigGroupsOk target done grouped.rigGroupsById

variable {customMetadata : T → ThreadMetadata}

def targetOf (customMetadata : T → ThreadMetadata) (context : GroupingContext)
    (cityId : Option Text) (thread : T) : Option (Text × Text) :=
  threadPlacement context cityId (parseGcMeta (customMetadata thread))

variable {grouped : Grouped T}

theorem placeThread_of_none (h : targetOf customMetadata context cityId thread = none) :
    placeThread customMetadata context cityId grouped thread =
      { grouped with standaloneThreads := grouped.standaloneThreads ++ [thread] } := by
  unfold targetOf at h
  simp only [placeThread, h]

theorem placeThread_of_some
    (h : targetOf customMetadata context cityId thread = some (resolvedRig, resolvedAgent)) :
    placeThread customMetadata context cityId grouped thread =
      { grouped with
        rigGroupsById := KeyedMap.set resolvedRig
          (addThread context (parseGcMeta (customMetadata thread)) resolvedRig resolvedAgent thread
            (ensureRigGroup context cityId (parseGcMeta (customMetadata thread)) resolvedRig
              grouped.rigGroupsById)) grouped.rigGroupsById } := by
  unfold targetOf at h
  simp only [placeThread, h]

theorem rigThreads_ensureRigGroup (rigGroups : RigGroups T) :
    rigThreads (ensureRigGroup context cityId threadMeta resolvedRig rigGroups) =
      ((KeyedMap.get resolvedRig rigGroups).map rigThreads).getD [] := by
  unfold rigThreads
  rw [ensureRigGroup_agentGroupsById]
  cases KeyedMap.get resolvedRig rigGroups <;> rfl

theorem allThreads_addThread (rigGroups : RigGroups T) :
    (allThreads (KeyedMap.set resolvedRig
      (addThread context threadMeta resolvedRig resolvedAgent thread
        (ensureRigGroup context cityId threadMeta resolvedRig rigGroups)) rigGroups)).Perm
      (allThreads rigGroups ++ [thread]) := by
  refine KeyedMap.flatMap_set_perm ((rigThreads_addThread _).trans ?_)
  rw [rigThreads_ensureRigGroup]

theorem GroupedOk.place (h : GroupedOk (targetOf customMetadata context cityId) done grouped)
    (thread : T) :
    GroupedOk (targetOf customMetadata context cityId) (done ++ [thread])
      (placeThread customMetadata context cityId grouped thread) := by
  have hlater : RigGroupsOk (targetOf customMetadata context cityId) (done ++ [thread])
      grouped.rigGroupsById := fun entry hentry => (h.groups entry hentry).later thread
  cases htarget : targetOf customMetadata context cityId thread with
  | none =>
    rw [placeThread_of_none htarget]
    refine ⟨?_, h.inOrder.append (List.Sublist.refl _), hlater⟩
    refine List.Perm.trans ?_ (h.once.append_right [thread])
    rw [List.append_assoc, List.append_assoc]
    exact List.Perm.append_left _ List.perm_append_comm
  | some place =>
    rw [placeThread_of_some htarget]
    refine ⟨?_, h.inOrder.trans (List.sublist_append_left _ _),
      hlater.set (h.groups.ensure.push htarget)⟩
    refine List.Perm.trans ?_ (h.once.append_right [thread])
    rw [List.append_assoc]
    exact List.Perm.append_left _ (allThreads_addThread grouped.rigGroupsById)

theorem GroupedOk.run (threads : List T)
    (h : GroupedOk (targetOf customMetadata context cityId) done grouped) :
    GroupedOk (targetOf customMetadata context cityId) (done ++ threads)
      (threads.foldl (placeThread customMetadata context cityId) grouped) := by
  induction threads generalizing done grouped with
  | nil => rwa [List.append_nil]
  | cons thread rest ih =>
    have hrest := ih (h.place thread)
    rwa [List.append_assoc] at hrest

end Placing

section Seeding

variable {context : GroupingContext}

theorem rigGroupOk_fresh (hid : rigGroup.id = rigId)
    (hagents : rigGroup.agentGroupsById = KeyedTable.empty _) :
    RigGroupOk target done rigId rigGroup := by
  refine ⟨hid, fun entry hentry => ?_⟩
  rw [hagents] at hentry
  exact absurd hentry List.not_mem_nil

variable {rigGroups : RigGroups T}

theorem RigGroupsOk.update (h : RigGroupsOk target done rigGroups) {key : Text}
    {update : MutableVirtualRigGroup T → MutableVirtualRigGroup T}
    (hupdate : ∀ rigGroup, RigGroupOk target done key rigGroup →
      RigGroupOk target done key (update rigGroup)) :
    RigGroupsOk target done (updateRigGroup key update rigGroups) := by
  unfold updateRigGroup
  cases hget : KeyedMap.get key rigGroups with
  | none => exact h
  | some rigGroup => exact h.set (hupdate _ (h _ (KeyedMap.get_eq_some_iff.mp hget)))

theorem RigGroupsOk.seedAgent (h : RigGroupsOk target done rigGroups)
    (relevantRigNames : List Text) (agent : GcConfigAgent) :
    RigGroupsOk target done (seedAgent relevantRigNames rigGroups agent) := by
  unfold Contracts.seedAgent
  split
  · exact h
  · split
    · exact h
    · split
      · exact h.update (fun rigGroup hgroup => hgroup.addConfigured agent)
      · exact h

theorem RigGroupOk.addCityAgents (h : RigGroupOk target done rigId rigGroup) :
    RigGroupOk target done rigId (addCityAgents context rigGroup) :=
  (foldl_addConfiguredAgentGroup _ h).1

variable [SidebarLocale]

theorem rigGroupsOk_seedWorkspaceRig (h : RigGroupsOk target done rigGroups)
    (rigs : List GcConfigRig) :
    RigGroupsOk target done (seedWorkspaceRig context rigs rigGroups).rigGroupsById := by
  unfold seedWorkspaceRig
  split
  · exact h
  · split
    · exact h
    · exact h.update (fun rigGroup hgroup => ⟨hgroup.id_eq, hgroup.agents⟩)

theorem rigGroupsOk_seedRelevantRigs (rigs : List GcConfigRig) :
    RigGroupsOk target done (seedRelevantRigs context rigs).rigGroupsById := by
  have hempty : RigGroupsOk target done (KeyedTable.empty _) :=
    fun entry hentry => absurd hentry List.not_mem_nil
  unfold seedRelevantRigs
  split
  · exact hempty
  · have hrigs : RigGroupsOk target done (rigs.foldl (seedRig context) (KeyedTable.empty _)) :=
      List.foldlRecOn rigs _ hempty
        (fun rigGroups hgroups rig _ => hgroups.set (rigGroupOk_fresh rfl rfl))
    exact List.foldlRecOn _ _ (rigGroupsOk_seedWorkspaceRig hrigs rigs)
      (fun rigGroups hgroups agent _ => hgroups.seedAgent _ agent)

theorem rigGroupsOk_seedCityGroup {seeded : SeededGroups T}
    (h : RigGroupsOk target done seeded.rigGroupsById) :
    RigGroupsOk target done (seedCityGroup context seeded).rigGroupsById := by
  unfold seedCityGroup
  dsimp only
  split
  · exact h
  · split
    · exact h.set (rigGroupOk_fresh rfl rfl)
    · exact h

theorem rigGroupsOk_seedGroups (rigIds : List Text) :
    RigGroupsOk target done (seedGroups context rigIds).rigGroupsById := by
  have hcity : RigGroupsOk target done (seedCityGroup context
      (seedRelevantRigs context (relevantRigs context rigIds))).rigGroupsById :=
    rigGroupsOk_seedCityGroup (rigGroupsOk_seedRelevantRigs _)
  unfold seedGroups seedCityAgents
  split
  · exact hcity
  · exact hcity.update (fun rigGroup hgroup => hgroup.addCityAgents)

end Seeding

theorem rigThreads_eq_nil (h : RigGroupOk target [] rigId rigGroup) : rigThreads rigGroup = [] := by
  refine List.flatMap_eq_nil_iff.mpr (fun entry hentry => ?_)
  exact List.sublist_nil.mp (h.agents entry hentry).inOrder

theorem groupedOk_start {rigGroups : RigGroups T} (h : RigGroupsOk target [] rigGroups) :
    GroupedOk target [] ⟨[], rigGroups⟩ := by
  refine ⟨?_, List.Sublist.refl _, h⟩
  have hnone : allThreads rigGroups = [] :=
    List.flatMap_eq_nil_iff.mpr (fun entry hentry => rigThreads_eq_nil (h entry hentry))
  rw [hnone]
  exact List.Perm.refl _

end Partition

end GT3Code.Contracts
