import GT3Code.Base.Runs
import GT3Code.Orchestration.Admissible

/-! # Invariants of the command read model

Runs of accepted commands, each folded into the model it was decided on. Ids stay
distinct in every run. The other two invariants are broken by one command each,
so each holds along a run exactly when that command is used in its safe way.
-/

namespace GT3Code.Orchestration

open GT3Code.Base GT3Code.Contracts GT3Code.Gc

/-- A command with what the clock and the id generator return while it is decided. -/
structure Submission where
  env : DecideEnv
  command : OrchestrationCommand

/-- The model after an accepted command; refused commands take no step. -/
def acceptCommand [Collation] [TextRuntime] (readModel : OrchestrationReadModel)
    (submission : Submission) : Option OrchestrationReadModel :=
  match decideOrchestrationCommand submission.env readModel submission.command with
  | .ok events => some (projectPlanned readModel readModel.snapshotSequence events)
  | .error _ => none

variable {readModel next : OrchestrationReadModel} {submission : Submission}

theorem acceptCommand_eq_some [Collation] [TextRuntime]
    (h : acceptCommand readModel submission = some next) :
    ∃ events, decideOrchestrationCommand submission.env readModel submission.command = .ok events ∧
      next = projectPlanned readModel readModel.snapshotSequence events := by
  unfold acceptCommand at h
  cases hdecide : decideOrchestrationCommand submission.env readModel submission.command with
  | error e => simp [hdecide] at h
  | ok events =>
    rw [hdecide] at h
    cases h
    exact ⟨events, rfl, rfl⟩

variable {sequence : Nat} {events : List PlannedOrchestrationEvent} {event : OrchestrationEvent}

theorem projectPlanned_invariant_of [Collation] {P : OrchestrationReadModel → Prop}
    {Q : EventPayload → Prop}
    (hP : ∀ readModel (event : OrchestrationEvent), P readModel →
      Admissible readModel event.payload → Q event.payload → P (projectEvent readModel event))
    (h : P readModel) (hplan : AdmissiblePlan readModel sequence events)
    (hQ : ∀ event ∈ events, Q event.payload) : P (projectPlanned readModel sequence events) := by
  induction events generalizing readModel sequence with
  | nil => exact h
  | cons event events ih =>
    exact ih (hP readModel _ h hplan.1 (hQ event List.mem_cons_self)) hplan.2
      (fun later hlater => hQ later (List.mem_cons_of_mem _ hlater))

theorem projectPlanned_invariant [Collation] {P : OrchestrationReadModel → Prop}
    (hP : ∀ readModel (event : OrchestrationEvent), P readModel →
      Admissible readModel event.payload → P (projectEvent readModel event))
    (h : P readModel) (hplan : AdmissiblePlan readModel sequence events) :
    P (projectPlanned readModel sequence events) :=
  projectPlanned_invariant_of (Q := fun _ => True)
    (fun readModel event h hadmissible _ => hP readModel event h hadmissible) h hplan
    (fun _ _ => trivial)

def DistinctIds (readModel : OrchestrationReadModel) : Prop :=
  (readModel.projects.map OrchestrationProject.id).Nodup ∧
    (readModel.threads.map OrchestrationThread.id).Nodup

theorem map_id_upsertEntry {α : Type} (id : α → String) (entry : α) (entries : List α) :
    (upsertEntry id entry entries).map id =
      if id entry ∈ entries.map id then entries.map id else entries.map id ++ [id entry] := by
  unfold upsertEntry
  by_cases h : id entry ∈ entries.map id
  · have hfound : (entries.find? (fun other => id other = id entry)).isSome := by
      simpa [List.find?_isSome] using h
    rw [if_pos hfound, if_pos h, List.map_map]
    refine List.map_congr_left (fun other _ => ?_)
    by_cases hid : id other = id entry <;> simp [hid]
  · have hfound : ¬ (entries.find? (fun other => id other = id entry)).isSome := by
      simpa [List.find?_isSome] using h
    rw [if_neg hfound, if_neg h, List.map_append, List.map_singleton]

theorem nodup_upsertEntry {α : Type} {id : α → String} {entries : List α} (entry : α)
    (h : (entries.map id).Nodup) : ((upsertEntry id entry entries).map id).Nodup := by
  rw [map_id_upsertEntry]
  split
  · exact h
  · rename_i hfresh
    rw [List.nodup_append]
    refine ⟨h, by simp, ?_⟩
    rintro a ha b hb rfl
    rw [List.mem_singleton] at hb
    exact hfresh (hb ▸ ha)

theorem upsertEntry_of_fresh {α : Type} {id : α → String} {entry : α} {entries : List α}
    (h : ∀ other ∈ entries, id other ≠ id entry) :
    upsertEntry id entry entries = entries ++ [entry] := by
  have habsent : ¬ (entries.find? (fun other => id other = id entry)).isSome := by
    simpa [List.find?_isSome] using h
  rw [upsertEntry, if_neg habsent]

theorem projectProjects_ids {projects : List OrchestrationProject}
    (h : ∀ payload, event.payload ≠ .projectCreated payload) :
    (projectProjects projects event).map OrchestrationProject.id =
      projects.map OrchestrationProject.id := by
  unfold projectProjects
  cases hpayload : event.payload with
  | projectCreated payload => exact absurd hpayload (h payload)
  | projectMetaUpdated payload =>
    rw [List.map_map]
    refine List.map_congr_left (fun project _ => ?_)
    simp only [Function.comp_apply]
    split <;> simp [patchProjectMeta]
  | projectDeleted payload =>
    rw [List.map_map]
    refine List.map_congr_left (fun project _ => ?_)
    simp only [Function.comp_apply]
    split <;> simp
  | _ => rfl

theorem findProjectById_eq_none {projectId : ProjectId} :
    findProjectById readModel projectId = none ↔
      ∀ project ∈ readModel.projects, project.id ≠ projectId := by
  simp [findProjectById, List.find?_eq_none]

theorem projectProjects_created {payload : ProjectCreatedPayload}
    (hpayload : event.payload = .projectCreated payload)
    (hfresh : findProjectById readModel payload.projectId = none) :
    projectProjects readModel.projects event =
      readModel.projects ++ [projectFromCreated payload] := by
  have happend : upsertEntry OrchestrationProject.id (projectFromCreated payload)
      readModel.projects = readModel.projects ++ [projectFromCreated payload] :=
    upsertEntry_of_fresh (findProjectById_eq_none.mp hfresh)
  simpa [projectProjects, hpayload] using happend

variable [Collation]

theorem distinctIds_projectEvent (event : OrchestrationEvent) (h : DistinctIds readModel) :
    DistinctIds (projectEvent readModel event) := by
  constructor
  · rw [projectEvent_projects]
    by_cases hcreated : ∃ payload, event.payload = .projectCreated payload
    · obtain ⟨payload, hpayload⟩ := hcreated
      simpa [projectProjects, hpayload] using nodup_upsertEntry (projectFromCreated payload) h.1
    · rw [projectProjects_ids (fun payload hpayload => hcreated ⟨payload, hpayload⟩)]
      exact h.1
  · rw [projectEvent_threads]
    rcases projectThreads_cases readModel.threads event with ⟨payload, -, heq⟩ | ⟨-, f, hf, heq⟩
    · rw [heq]
      exact nodup_upsertEntry _ h.2
    · rw [heq, List.map_map, show OrchestrationThread.id ∘ f = OrchestrationThread.id from
        funext (fun thread => (hf thread).id)]
      exact h.2

variable [TextRuntime]

theorem distinctIds_acceptCommand (h : DistinctIds readModel)
    (haccept : acceptCommand readModel submission = some next) : DistinctIds next := by
  obtain ⟨events, hdecide, rfl⟩ := acceptCommand_eq_some haccept
  exact projectPlanned_invariant (fun _ event hI _ => distinctIds_projectEvent event hI) h
    (admissiblePlan_decide hdecide)

omit [Collation] [TextRuntime] in
theorem distinctIds_empty (nowIso : IsoDateTime) : DistinctIds (createEmptyReadModel nowIso) := by
  simp [DistinctIds, createEmptyReadModel]

/-! ## One active project per workspace root -/

/-- The workspace root a project occupies while it is not deleted. -/
def activeRoot (project : OrchestrationProject) : Option String :=
  if project.deletedAt = none then some project.workspaceRoot else none

def UniqueActiveRoots (readModel : OrchestrationReadModel) : Prop :=
  (readModel.projects.filterMap activeRoot).Nodup

instance (readModel : OrchestrationReadModel) : Decidable (UniqueActiveRoots readModel) :=
  inferInstanceAs (Decidable (List.Nodup _))

/-- Moving an active project to `workspaceRoot` meets no other active project there. -/
def RootFree (readModel : OrchestrationReadModel) (projectId : ProjectId)
    (workspaceRoot : Option String) : Prop :=
  ∀ root, workspaceRoot = some root →
    (∃ project ∈ readModel.projects, project.id = projectId ∧ project.deletedAt = none) →
      ∀ other ∈ readModel.projects, other.id ≠ projectId → activeRoot other ≠ some root

section Roots

omit [Collation] [TextRuntime]

theorem activeRoot_eq_some {project : OrchestrationProject} {root : String} :
    activeRoot project = some root ↔ project.deletedAt = none ∧ project.workspaceRoot = root := by
  unfold activeRoot
  split <;> simp_all

variable {readModel : OrchestrationReadModel} {root : String}

theorem findActiveProjectByWorkspaceRoot_eq_none :
    findActiveProjectByWorkspaceRoot readModel root = none ↔
      ∀ project ∈ readModel.projects, activeRoot project ≠ some root := by
  simp [findActiveProjectByWorkspaceRoot, List.find?_eq_none, activeRoot_eq_some]

theorem uniqueActiveRoots_iff (hI : DistinctIds readModel) :
    UniqueActiveRoots readModel ↔
      ∀ p ∈ readModel.projects, ∀ q ∈ readModel.projects, ∀ root,
        activeRoot p = some root → activeRoot q = some root → p.id = q.id :=
  nodup_filterMap_iff hI.1

theorem activeRoot_patchProjectMeta {payload : ProjectMetaUpdatedPayload}
    {project : OrchestrationProject} :
    activeRoot (patchProjectMeta payload project) = some root ↔
      project.deletedAt = none ∧ payload.workspaceRoot.getD project.workspaceRoot = root := by
  simp [activeRoot_eq_some, patchProjectMeta]

end Roots

section RootEvents

omit [TextRuntime]

variable {readModel : OrchestrationReadModel} {event : OrchestrationEvent}

theorem uniqueActiveRoots_created {payload : ProjectCreatedPayload}
    (hpayload : event.payload = .projectCreated payload) (hP : UniqueActiveRoots readModel)
    (hfresh : findProjectById readModel payload.projectId = none)
    (hroot : findActiveProjectByWorkspaceRoot readModel payload.workspaceRoot = none) :
    UniqueActiveRoots (projectEvent readModel event) := by
  rw [UniqueActiveRoots, projectEvent_projects, projectProjects_created hpayload hfresh,
    List.filterMap_append, List.nodup_append]
  refine ⟨hP, by simp [activeRoot, projectFromCreated], ?_⟩
  rintro root hold _ hnew rfl
  obtain ⟨project, hmem, hactive⟩ := List.mem_filterMap.mp hold
  have heq : root = payload.workspaceRoot := by
    simpa [activeRoot, projectFromCreated] using hnew
  exact findActiveProjectByWorkspaceRoot_eq_none.mp hroot project hmem (heq ▸ hactive)

theorem uniqueActiveRoots_deleted {payload : ProjectDeletedPayload}
    (hpayload : event.payload = .projectDeleted payload) (hI : DistinctIds readModel)
    (hP : UniqueActiveRoots readModel) : UniqueActiveRoots (projectEvent readModel event) := by
  rw [uniqueActiveRoots_iff (distinctIds_projectEvent event hI)]
  simp only [projectEvent_projects, projectProjects, hpayload]
  have still : ∀ {p : OrchestrationProject} {root : String},
      activeRoot (if p.id = payload.projectId then
        { p with deletedAt := some payload.deletedAt, updatedAt := payload.deletedAt }
        else p) = some root →
      p.id ≠ payload.projectId ∧ activeRoot p = some root := by
    intro p root h
    by_cases hid : p.id = payload.projectId
    · simp [hid, activeRoot] at h
    · exact ⟨hid, by simpa [hid] using h⟩
  intro a ha b hb root haroot hbroot
  obtain ⟨p, hp, rfl⟩ := List.mem_map.mp ha
  obtain ⟨q, hq, rfl⟩ := List.mem_map.mp hb
  obtain ⟨hpid, hproot⟩ := still haroot
  obtain ⟨hqid, hqroot⟩ := still hbroot
  simp only [if_neg hpid, if_neg hqid]
  exact (uniqueActiveRoots_iff hI).mp hP p hp q hq root hproot hqroot

omit [Collation] in
theorem moved_ne_staying {payload : ProjectMetaUpdatedPayload} (hI : DistinctIds readModel)
    (hP : UniqueActiveRoots readModel)
    (hfree : RootFree readModel payload.projectId payload.workspaceRoot)
    {moved staying : OrchestrationProject} (hmoved : moved ∈ readModel.projects)
    (hstaying : staying ∈ readModel.projects) (hid : moved.id = payload.projectId)
    (hne : staying.id ≠ payload.projectId) {root : String}
    (hroot : activeRoot (patchProjectMeta payload moved) = some root) :
    activeRoot staying ≠ some root := by
  intro hoccupied
  rw [activeRoot_patchProjectMeta] at hroot
  cases hmove : payload.workspaceRoot with
  | none =>
    rw [hmove] at hroot
    have := (uniqueActiveRoots_iff hI).mp hP moved hmoved staying hstaying root
      (activeRoot_eq_some.mpr hroot) hoccupied
    exact hne (this.symm.trans hid)
  | some next =>
    rw [hmove] at hroot
    obtain ⟨hactive, rfl⟩ := hroot
    exact hfree next hmove ⟨moved, hmoved, hid, hactive⟩ staying hstaying hne hoccupied

theorem uniqueActiveRoots_moved {payload : ProjectMetaUpdatedPayload}
    (hpayload : event.payload = .projectMetaUpdated payload) (hI : DistinctIds readModel)
    (hP : UniqueActiveRoots readModel) :
    UniqueActiveRoots (projectEvent readModel event) ↔
      RootFree readModel payload.projectId payload.workspaceRoot := by
  rw [uniqueActiveRoots_iff (distinctIds_projectEvent event hI)]
  simp only [projectEvent_projects, projectProjects, hpayload]
  constructor
  · intro h root hroot ⟨project, hmem, hid, hactive⟩ other hother hne hoccupied
    have := h _ (List.mem_map.mpr ⟨project, hmem, rfl⟩) _ (List.mem_map.mpr ⟨other, hother, rfl⟩)
      root
    simp only [if_pos hid, if_neg hne, activeRoot_patchProjectMeta, hroot] at this
    exact hne ((this ⟨hactive, rfl⟩ hoccupied).symm.trans hid)
  · intro hfree a ha b hb root haroot hbroot
    obtain ⟨p, hp, rfl⟩ := List.mem_map.mp ha
    obtain ⟨q, hq, rfl⟩ := List.mem_map.mp hb
    by_cases hpid : p.id = payload.projectId <;> by_cases hqid : q.id = payload.projectId
    · simp [hpid, hqid, patchProjectMeta]
    · simp only [if_pos hpid, if_neg hqid] at haroot hbroot
      exact absurd hbroot (moved_ne_staying hI hP hfree hp hq hpid hqid haroot)
    · simp only [if_neg hpid, if_pos hqid] at haroot hbroot
      exact absurd haroot (moved_ne_staying hI hP hfree hq hp hqid hpid hbroot)
    · simp only [if_neg hpid, if_neg hqid] at haroot hbroot ⊢
      exact (uniqueActiveRoots_iff hI).mp hP p hp q hq root haroot hbroot

theorem uniqueActiveRoots_projectEvent (hI : DistinctIds readModel)
    (hP : UniqueActiveRoots readModel) (hadmissible : Admissible readModel event.payload)
    (hmoved : ∀ payload, event.payload ≠ .projectMetaUpdated payload) :
    UniqueActiveRoots (projectEvent readModel event) := by
  cases hpayload : event.payload with
  | projectCreated payload =>
    rw [hpayload] at hadmissible
    exact uniqueActiveRoots_created hpayload hP hadmissible.1 hadmissible.2
  | projectMetaUpdated payload => exact absurd hpayload (hmoved payload)
  | projectDeleted payload => exact uniqueActiveRoots_deleted hpayload hI hP
  | _ => simpa [UniqueActiveRoots, projectProjects, hpayload] using hP

end RootEvents

/-- A `project.meta.update` moves its project to a free root only. -/
def MovesToFreeRoot (readModel : OrchestrationReadModel) (submission : Submission) : Prop :=
  ∀ c, submission.command.body = .projectMetaUpdate c →
    RootFree readModel c.projectId c.workspaceRoot

theorem uniqueActiveRoots_acceptCommand (hI : DistinctIds readModel)
    (hP : UniqueActiveRoots readModel) (haccept : acceptCommand readModel submission = some next) :
    UniqueActiveRoots next ↔ MovesToFreeRoot readModel submission := by
  obtain ⟨events, hdecide, rfl⟩ := acceptCommand_eq_some haccept
  by_cases hmove : ∃ c, submission.command.body = .projectMetaUpdate c
  · obtain ⟨c, hbody⟩ := hmove
    obtain ⟨event, payload, rfl, hpayload, hid, hroot⟩ := decide_projectMetaUpdate hbody hdecide
    rw [projectPlanned, projectPlanned, uniqueActiveRoots_moved hpayload hI hP, hid, hroot]
    refine ⟨fun h c' hc' => ?_, fun h => h c hbody⟩
    cases hbody.symm.trans hc'
    exact h
  · have hplain : ∀ event ∈ events, ∀ payload, event.payload ≠ .projectMetaUpdated payload :=
      fun event hevent payload hpayload => hmove
        (projectMetaUpdate_of_plannedBy (hpayload ▸ plannedBy_decide hdecide event hevent))
    refine iff_of_true ?_ (fun c hc => absurd ⟨c, hc⟩ hmove)
    exact (projectPlanned_invariant_of
      (P := fun readModel => DistinctIds readModel ∧ UniqueActiveRoots readModel)
      (Q := fun payload => ∀ moved, payload ≠ .projectMetaUpdated moved)
      (fun _ event h hadmissible hne => ⟨distinctIds_projectEvent event h.1,
        uniqueActiveRoots_projectEvent h.1 h.2 hadmissible hne⟩)
      ⟨hI, hP⟩ (admissiblePlan_decide hdecide) hplain).2

/-- Along a run of accepted commands from the empty model, ids stay distinct, and
no two active projects share a workspace root exactly when every
`project.meta.update` moves its project to a root no other active project holds. -/
theorem unique_roots_iff_moves_to_free_root (nowIso : IsoDateTime)
    (submissions : List Submission) :
    Throughout acceptCommand DistinctIds (createEmptyReadModel nowIso) submissions ∧
      (Throughout acceptCommand UniqueActiveRoots (createEmptyReadModel nowIso) submissions ↔
        StepsMeet acceptCommand MovesToFreeRoot (createEmptyReadModel nowIso) submissions) := by
  constructor
  · exact throughout_of_invariant (fun _ _ _ h => distinctIds_acceptCommand h)
      (distinctIds_empty nowIso) submissions
  · exact throughout_iff_stepsMeet (fun _ _ _ h => distinctIds_acceptCommand h)
      (fun _ _ _ hI hP => uniqueActiveRoots_acceptCommand hI hP)
      (distinctIds_empty nowIso) (by simp [UniqueActiveRoots, createEmptyReadModel]) submissions

/-- Create two projects, then move the second to the root of the first. -/
def sharedRootRun : List Submission :=
  let env : DecideEnv := ⟨fun _ => "2026-01-01T00:00:00.000Z", fun _ => "event"⟩
  let create := fun projectId root => CommandBody.projectCreate
    ⟨projectId, "Project", root, none, "2026-01-01T00:00:00.000Z"⟩
  [⟨env, "c1", create "p1" "/srv/app"⟩,
    ⟨env, "c2", create "p2" "/srv/other"⟩,
    ⟨env, "c3", .projectMetaUpdate ⟨"p2", none, some "/srv/app", none, none⟩⟩]

omit [Collation] [TextRuntime] in
theorem moved_project_shares_root :
    ¬ ∀ [Collation] [TextRuntime], Throughout acceptCommand UniqueActiveRoots
      (createEmptyReadModel "2026-01-01T00:00:00.000Z") sharedRootRun := by
  intro h
  let _ := codePointCollation
  let _ := asciiTextRuntime
  have hreached : ∃ readModel, exec acceptCommand
      (createEmptyReadModel "2026-01-01T00:00:00.000Z") sharedRootRun = some readModel ∧
        ¬ UniqueActiveRoots readModel := ⟨_, rfl, by decide⟩
  obtain ⟨readModel, hexec, hshared⟩ := hreached
  exact hshared (Throughout.final h hexec)

/-- Every thread that is not deleted belongs to a project that is not deleted. -/
def LiveThreadsOwned (readModel : OrchestrationReadModel) : Prop :=
  ∀ thread ∈ readModel.threads, thread.deletedAt = none →
    ∃ project ∈ readModel.projects, project.id = thread.projectId ∧ project.deletedAt = none

instance (readModel : OrchestrationReadModel) : Decidable (LiveThreadsOwned readModel) :=
  inferInstanceAs (Decidable (∀ thread ∈ readModel.threads, thread.deletedAt = none →
    ∃ project ∈ readModel.projects, project.id = thread.projectId ∧ project.deletedAt = none))

def ProjectActive (readModel : OrchestrationReadModel) (projectId : ProjectId) : Prop :=
  ∀ project ∈ readModel.projects, project.id = projectId → project.deletedAt = none

section LiveThreads

omit [TextRuntime]

variable {readModel : OrchestrationReadModel} {event : OrchestrationEvent}

omit [Collation] in
theorem findThreadById_eq_none {threadId : ThreadId} :
    findThreadById readModel threadId = none ↔
      ∀ thread ∈ readModel.threads, thread.id ≠ threadId := by
  simp [findThreadById, List.find?_eq_none]

omit [Collation] in
theorem activeThreads_eq_nil {projectId : ProjectId} :
    activeThreads readModel projectId = [] ↔
      ∀ thread ∈ readModel.threads, thread.projectId = projectId → thread.deletedAt ≠ none := by
  simp only [activeThreads, listThreadsByProjectId, List.filter_filter, List.filter_eq_nil_iff,
    Bool.and_eq_true, decide_eq_true_eq, not_and]
  exact forall₂_congr (fun thread _ => imp_not_comm)

theorem projectThreads_of_project (threads : List OrchestrationThread)
    (h : event.payload.threadId = none) : projectThreads threads event = threads := by
  unfold projectThreads
  cases hpayload : event.payload <;> simp_all [EventPayload.threadId]

omit [Collation] in
theorem projectProjects_of_thread (projects : List OrchestrationProject)
    (h : event.payload.threadId ≠ none) : projectProjects projects event = projects := by
  unfold projectProjects
  cases hpayload : event.payload <;> simp_all [EventPayload.threadId]

theorem liveThreadsOwned_created {payload : ThreadCreatedPayload}
    (hpayload : event.payload = .threadCreated payload) (hI : DistinctIds readModel)
    (hP : LiveThreadsOwned readModel)
    (hproject : (findProjectById readModel payload.projectId).isSome)
    (hfresh : findThreadById readModel payload.threadId = none) :
    LiveThreadsOwned (projectEvent readModel event) ↔ ProjectActive readModel payload.projectId := by
  have hthreads : projectThreads readModel.threads event =
      readModel.threads ++ [threadFromCreated payload] := by
    have happend : upsertEntry OrchestrationThread.id (threadFromCreated payload)
        readModel.threads = readModel.threads ++ [threadFromCreated payload] :=
      upsertEntry_of_fresh (findThreadById_eq_none.mp hfresh)
    simpa [projectThreads, hpayload] using happend
  have hprojects : projectProjects readModel.projects event = readModel.projects :=
    projectProjects_of_thread _ (by simp [hpayload, EventPayload.threadId])
  constructor
  · intro h project hmem hid
    obtain ⟨owner, howner, hownerId, hactive⟩ := h (threadFromCreated payload)
      (by simp [hthreads]) rfl
    rw [projectEvent_projects, hprojects] at howner
    have hsame : owner.id = project.id := hownerId.trans hid.symm
    exact List.inj_on_of_nodup_map hI.1 howner hmem hsame ▸ hactive
  · intro hactive thread hthread hlive
    rw [projectEvent_threads, hthreads, List.mem_append, List.mem_singleton] at hthread
    rw [projectEvent_projects, hprojects]
    rcases hthread with hold | rfl
    · exact hP thread hold hlive
    · obtain ⟨project, hfound⟩ := Option.isSome_iff_exists.mp hproject
      have hmem := List.mem_of_find?_eq_some hfound
      have hid : project.id = payload.projectId := by simpa using List.find?_some hfound
      exact ⟨project, hmem, hid, hactive project hmem hid⟩

theorem liveThreadsOwned_projectEvent (hP : LiveThreadsOwned readModel)
    (hadmissible : Admissible readModel event.payload)
    (hcreated : ∀ payload, event.payload ≠ .threadCreated payload) :
    LiveThreadsOwned (projectEvent readModel event) := by
  intro thread hthread hlive
  rw [projectEvent_threads] at hthread
  rw [projectEvent_projects]
  cases hpayload : event.payload with
  | projectCreated payload =>
    rw [projectThreads_of_project _ (by simp [hpayload, EventPayload.threadId])] at hthread
    obtain ⟨project, hmem, hid, hactive⟩ := hP thread hthread hlive
    rw [hpayload] at hadmissible
    rw [projectProjects_created hpayload hadmissible.1]
    exact ⟨project, List.mem_append_left _ hmem, hid, hactive⟩
  | projectMetaUpdated payload =>
    rw [projectThreads_of_project _ (by simp [hpayload, EventPayload.threadId])] at hthread
    obtain ⟨project, hmem, hid, hactive⟩ := hP thread hthread hlive
    refine ⟨_, by simpa [projectProjects, hpayload] using ⟨project, hmem, rfl⟩, ?_, ?_⟩
    · split <;> simpa [patchProjectMeta] using hid
    · split <;> simpa [patchProjectMeta] using hactive
  | projectDeleted payload =>
    rw [projectThreads_of_project _ (by simp [hpayload, EventPayload.threadId])] at hthread
    obtain ⟨project, hmem, hid, hactive⟩ := hP thread hthread hlive
    rw [hpayload] at hadmissible
    have hother : project.id ≠ payload.projectId := fun heq =>
      activeThreads_eq_nil.mp hadmissible.2 thread hthread (hid.symm.trans heq) hlive
    refine ⟨project, ?_, hid, hactive⟩
    simp only [projectProjects, hpayload]
    exact List.mem_map.mpr ⟨project, hmem, by simp [hother]⟩
  | threadCreated payload => exact absurd hpayload (hcreated payload)
  | _ =>
    rw [projectProjects_of_thread _ (by simp [hpayload, EventPayload.threadId])]
    rcases projectThreads_cases readModel.threads event with ⟨payload, h, -⟩ | ⟨-, f, hf, heq⟩
    · exact absurd h (hcreated payload)
    · rw [heq] at hthread
      obtain ⟨before, hbefore, rfl⟩ := List.mem_map.mp hthread
      rw [(hf before).projectId]
      refine hP before hbefore ?_
      rcases (hf before).deletedAt with hsame | ⟨-, deletedAt, -, -, hdeleted⟩
      · exact hsame ▸ hlive
      · rw [hdeleted] at hlive
        cases hlive

end LiveThreads

/-- A `thread.create` names a project that is not deleted. -/
def CreatesUnderActiveProject (readModel : OrchestrationReadModel) (submission : Submission) :
    Prop :=
  ∀ c, submission.command.body = .threadCreate c → ProjectActive readModel c.projectId

theorem liveThreadsOwned_acceptCommand (hI : DistinctIds readModel)
    (hP : LiveThreadsOwned readModel) (haccept : acceptCommand readModel submission = some next) :
    LiveThreadsOwned next ↔ CreatesUnderActiveProject readModel submission := by
  obtain ⟨events, hdecide, rfl⟩ := acceptCommand_eq_some haccept
  have hplan := admissiblePlan_decide hdecide
  by_cases hcreate : ∃ c, submission.command.body = .threadCreate c
  · obtain ⟨c, hbody⟩ := hcreate
    obtain ⟨event, payload, rfl, hpayload, -, hid⟩ := decide_threadCreate hbody hdecide
    obtain ⟨hadmissible, -⟩ := hplan
    rw [hpayload] at hadmissible
    rw [projectPlanned, projectPlanned,
      liveThreadsOwned_created hpayload hI hP hadmissible.1 hadmissible.2, hid]
    refine ⟨fun h c' hc' => ?_, fun h => h c hbody⟩
    cases hbody.symm.trans hc'
    exact h
  · have hplain : ∀ event ∈ events, ∀ payload, event.payload ≠ .threadCreated payload :=
      fun event hevent payload hpayload => hcreate
        (threadCreate_of_plannedBy (hpayload ▸ plannedBy_decide hdecide event hevent))
    refine iff_of_true ?_ (fun c hc => absurd ⟨c, hc⟩ hcreate)
    exact projectPlanned_invariant_of (Q := fun payload => ∀ created, payload ≠ .threadCreated created)
      (fun _ event h hadmissible hne => liveThreadsOwned_projectEvent h hadmissible hne)
      hP hplan hplain

/-- Along a run of accepted commands from the empty model, every live thread
belongs to a live project exactly when every `thread.create` names a project that
is not deleted. -/
theorem live_threads_owned_iff_creates_under_active_project (nowIso : IsoDateTime)
    (submissions : List Submission) :
    Throughout acceptCommand LiveThreadsOwned (createEmptyReadModel nowIso) submissions ↔
      StepsMeet acceptCommand CreatesUnderActiveProject (createEmptyReadModel nowIso)
        submissions :=
  throughout_iff_stepsMeet (fun _ _ _ h => distinctIds_acceptCommand h)
    (fun _ _ _ hI hP => liveThreadsOwned_acceptCommand hI hP)
    (distinctIds_empty nowIso) (by simp [LiveThreadsOwned, createEmptyReadModel]) submissions

def orphanedThreadRun : List Submission :=
  let now := "2026-01-01T00:00:00.000Z"
  let env : DecideEnv := ⟨fun _ => now, fun _ => "event"⟩
  [⟨env, "c1", .projectCreate ⟨"p1", "Project", "/srv/app", none, now⟩⟩,
    ⟨env, "c2", .projectDelete ⟨"p1", none⟩⟩,
    ⟨env, "c3", .threadCreate ⟨"t1", "p1", "Thread", ⟨"codex", "model", none⟩, .fullAccess,
      .default, none, none, none, now⟩⟩]

omit [Collation] [TextRuntime] in
theorem thread_created_under_deleted_project :
    ¬ ∀ [Collation] [TextRuntime], Throughout acceptCommand LiveThreadsOwned
      (createEmptyReadModel "2026-01-01T00:00:00.000Z") orphanedThreadRun := by
  intro h
  let _ := codePointCollation
  let _ := asciiTextRuntime
  have hreached : ∃ readModel, exec acceptCommand
      (createEmptyReadModel "2026-01-01T00:00:00.000Z") orphanedThreadRun = some readModel ∧
        ¬ LiveThreadsOwned readModel := ⟨_, rfl, by decide⟩
  obtain ⟨readModel, hexec, horphan⟩ := hreached
  exact horphan (Throughout.final h hexec)

end GT3Code.Orchestration
