import GT3Code.Orchestration.ReadModelInvariants

/-! # Forced project deletion

The one recursive branch of the decider. Its inner commands recurse no further, so
the two levels of the model are the source's recursion; and a forced delete of a
known project is always accepted, with one event for each active thread. Folded, the
events delete the project with its threads and nothing else.
-/

namespace GT3Code.Orchestration

open GT3Code.Base GT3Code.Contracts GT3Code.Gc

variable [Collation] [TextRuntime]

structure DeletesThread (commandId : CommandId) (threadId : ThreadId)
    (event : PlannedOrchestrationEvent) : Prop where
  commandId : event.commandId = some commandId
  payload : ∃ deletedAt, event.payload = .threadDeleted ⟨threadId, deletedAt⟩

structure DeletesProject (commandId : CommandId) (projectId : ProjectId)
    (event : PlannedOrchestrationEvent) : Prop where
  commandId : event.commandId = some commandId
  payload : ∃ deletedAt, event.payload = .projectDeleted ⟨projectId, deletedAt⟩

def DeletesInTurn (commandId : CommandId) (projectId : ProjectId) (threadIds : List ThreadId)
    (events : List PlannedOrchestrationEvent) : Prop :=
  ∃ threadEvents last, events = threadEvents ++ [last] ∧
    List.Forall₂ (DeletesThread commandId) threadIds threadEvents ∧
      DeletesProject commandId projectId last

omit [TextRuntime] in
theorem activeThreads_threadDeleted {readModel : OrchestrationReadModel} {projectId : ProjectId}
    {event : OrchestrationEvent} {payload : ThreadDeletedPayload}
    (hpayload : event.payload = .threadDeleted payload) :
    activeThreads (projectEvent readModel event) projectId =
      (activeThreads readModel projectId).filter (fun thread => thread.id ≠ payload.threadId) := by
  simp only [activeThreads, listThreadsByProjectId, projectEvent_threads, projectThreads, hpayload,
    updateThread, List.filter_filter, List.filter_map]
  rw [List.map_congr_left (g := id)]
  · rw [List.map_id]
    refine List.filter_congr (fun thread _ => ?_)
    by_cases hid : thread.id = payload.threadId <;> simp [hid]
  · intro thread hthread
    have hkept := (List.mem_filter.mp hthread).2
    by_cases hid : thread.id = payload.threadId
    · simp [hid] at hkept
    · simp [hid]

omit [Collation] [TextRuntime] in
theorem findThreadById_of_activeThreads {readModel : OrchestrationReadModel}
    {projectId : ProjectId} {threadId : ThreadId}
    (h : threadId ∈ (activeThreads readModel projectId).map OrchestrationThread.id) :
    ∃ thread, findThreadById readModel threadId = some thread := by
  refine Option.isSome_iff_exists.mp (findThreadById_isSome.mpr ?_)
  obtain ⟨thread, hthread, rfl⟩ := List.mem_map.mp h
  exact List.mem_map.mpr ⟨thread, List.mem_of_mem_filter (List.mem_of_mem_filter hthread), rfl⟩

omit [Collation] in
theorem decideUnforced_threadDelete (env : DecideEnv) {readModel : OrchestrationReadModel}
    (commandId : CommandId) {threadId : ThreadId} {thread : OrchestrationThread}
    (hfound : findThreadById readModel threadId = some thread) :
    ∃ event, decideUnforced env readModel ⟨commandId, .threadDelete ⟨threadId⟩⟩ = .ok [event] ∧
      DeletesThread commandId threadId event :=
  ⟨_, bind_eq_ok.mpr ⟨thread, requireThread_eq_ok.mpr hfound, rfl⟩, rfl, _, rfl⟩

omit [Collation] in
theorem decideWith_projectDelete (decideSequence : List OrchestrationCommand → Decided)
    (env : DecideEnv) {readModel : OrchestrationReadModel} (commandId : CommandId)
    {projectId : ProjectId} {project : OrchestrationProject} (force : Option Bool)
    (hfound : findProjectById readModel projectId = some project)
    (hnone : activeThreads readModel projectId = []) :
    ∃ event, decideWith decideSequence env readModel
        ⟨commandId, .projectDelete ⟨projectId, force⟩⟩ = .ok [event] ∧
      DeletesProject commandId projectId event := by
  refine ⟨withEventBase (env.randomUUID 0) ⟨commandId, .projectDelete ⟨projectId, force⟩⟩ .project
    projectId (env.nowIso 0) none (.projectDeleted ⟨projectId, env.nowIso 0⟩), ?_, rfl, _, rfl⟩
  refine bind_eq_ok.mpr ⟨project, requireProject_eq_ok.mpr hfound, ?_⟩
  rw [hnone]
  rfl

variable {readModel : OrchestrationReadModel} {projectId : ProjectId}
  {project : OrchestrationProject}

theorem decide_forcedDelete_sequence (env : DecideEnv) (sequence : Nat)
    (planned : List PlannedOrchestrationEvent) (commandId : CommandId) (threadIds : List ThreadId)
    (hproject : findProjectById readModel projectId = some project)
    (hactive : (activeThreads readModel projectId).map OrchestrationThread.id = threadIds)
    (hdistinct : threadIds.Nodup) :
    ∃ rest, decideCommandSequence decideUnforced env readModel sequence planned
        (threadIds.map (fun threadId => ⟨commandId, .threadDelete ⟨threadId⟩⟩) ++
          [⟨commandId, .projectDelete ⟨projectId, none⟩⟩]) = .ok (planned ++ rest) ∧
      DeletesInTurn commandId projectId threadIds rest := by
  induction threadIds generalizing readModel sequence planned with
  | nil =>
    have hnone : activeThreads readModel projectId = [] := List.map_eq_nil_iff.mp hactive
    obtain ⟨event, hdecide, hdeletes⟩ := decideWith_projectDelete (fun _ => .ok [])
      (env.drop planned.length) commandId none hproject hnone
    refine ⟨[event], ?_, [], event, rfl, .nil, hdeletes⟩
    rw [List.map_nil, List.nil_append, decideCommandSequence, decideUnforced, hdecide]
    rfl
  | cons threadId threadIds ih =>
    obtain ⟨thread, hfound⟩ := findThreadById_of_activeThreads
      (hactive ▸ List.mem_cons_self : threadId ∈ _)
    obtain ⟨event, hdecide, hdeletes⟩ := decideUnforced_threadDelete
      (env.drop planned.length) commandId hfound
    obtain ⟨deletedAt, hpayload⟩ := hdeletes.payload
    rw [List.nodup_cons] at hdistinct
    have hremaining : (activeThreads (projectEvent readModel (event.withSequence (sequence + 1)))
        projectId).map OrchestrationThread.id = threadIds := by
      rw [activeThreads_threadDeleted hpayload]
      have hfilter : ((activeThreads readModel projectId).filter
          (fun other => other.id ≠ threadId)).map OrchestrationThread.id =
          ((activeThreads readModel projectId).map OrchestrationThread.id).filter
            (fun other => other ≠ threadId) := by
        rw [List.filter_map]
        rfl
      rw [hfilter, hactive, List.filter_cons_of_neg (by simp)]
      refine List.filter_eq_self.mpr (fun other hother => ?_)
      simpa using fun he : other = threadId => hdistinct.1 (he ▸ hother)
    have hkept : findProjectById (projectEvent readModel (event.withSequence (sequence + 1)))
        projectId = some project := by
      simpa [findProjectById, projectProjects, hpayload] using hproject
    obtain ⟨rest, hrest, threadEvents, last, hevents, hthreads, hlast⟩ :=
      ih (sequence + 1) (planned ++ [event]) hkept hremaining hdistinct.2
    refine ⟨event :: rest, ?_, event :: threadEvents, last, ?_, .cons hdeletes hthreads, hlast⟩
    · rw [List.append_assoc, List.singleton_append] at hrest
      rw [← hrest, List.map_cons, List.cons_append, decideCommandSequence, hdecide]
      rfl
    · rw [hevents, List.cons_append]

theorem decide_forcedDelete_inTurn (env : DecideEnv) (commandId : CommandId)
    (hproject : findProjectById readModel projectId = some project)
    (hdistinct : (readModel.threads.map OrchestrationThread.id).Nodup) :
    ∃ events, decideOrchestrationCommand env readModel
        ⟨commandId, .projectDelete ⟨projectId, some true⟩⟩ = .ok events ∧
      DeletesInTurn commandId projectId
        ((activeThreads readModel projectId).map OrchestrationThread.id) events := by
  by_cases hnone : activeThreads readModel projectId = []
  · obtain ⟨event, hdecide, hdeletes⟩ := decideWith_projectDelete
      (decideCommandSequence decideUnforced env readModel readModel.snapshotSequence []) env
      commandId (some true) hproject hnone
    refine ⟨[event], hdecide, [], event, rfl, ?_, hdeletes⟩
    rw [hnone]
    exact .nil
  · have hids : ((activeThreads readModel projectId).map OrchestrationThread.id).Nodup :=
      hdistinct.sublist ((List.filter_sublist.trans List.filter_sublist).map _)
    obtain ⟨rest, hrest, hturn⟩ := decide_forcedDelete_sequence env readModel.snapshotSequence []
      commandId _ hproject rfl hids
    refine ⟨rest, ?_, hturn⟩
    refine bind_eq_ok.mpr ⟨project, requireProject_eq_ok.mpr hproject, ?_⟩
    have hpositive := List.length_pos_iff.mpr hnone
    rw [List.nil_append, List.map_map] at hrest
    simpa [hpositive, forcedDeleteCommands, Function.comp_def] using hrest

theorem decide_forcedDelete (env : DecideEnv) (commandId : CommandId)
    (hproject : findProjectById readModel projectId = some project)
    (hdistinct : (readModel.threads.map OrchestrationThread.id).Nodup) :
    ∃ events, decideOrchestrationCommand env readModel
        ⟨commandId, .projectDelete ⟨projectId, some true⟩⟩ = .ok events ∧
      events.length = (activeThreads readModel projectId).length + 1 := by
  obtain ⟨events, hdecide, threadEvents, last, rfl, hthreads, -⟩ :=
    decide_forcedDelete_inTurn env commandId hproject hdistinct
  refine ⟨_, hdecide, ?_⟩
  rw [List.length_append, List.length_singleton, ← hthreads.length_eq, List.length_map]

/-- The project and its threads are deleted, and every other project and thread is what it was. -/
structure CascadeDeleted (projectId : ProjectId) (before after : OrchestrationReadModel) : Prop where
  projects : List.Forall₂ (fun project next => next.id = project.id ∧
    if project.id = projectId then next.deletedAt ≠ none else next = project)
      before.projects after.projects
  threads : List.Forall₂ (fun thread next => next.id = thread.id ∧
    next.projectId = thread.projectId ∧
      if thread.projectId = projectId then next.deletedAt ≠ none else next = thread)
      before.threads after.threads

def markDeleted (threadId : ThreadId) (deletedAt : IsoDateTime) (thread : OrchestrationThread) :
    OrchestrationThread :=
  if thread.id = threadId then { thread with deletedAt := some deletedAt, updatedAt := deletedAt }
  else thread

omit [TextRuntime] in
theorem projectPlanned_deletesThreads {commandId : CommandId} {threadIds : List ThreadId}
    {events : List PlannedOrchestrationEvent}
    (h : List.Forall₂ (DeletesThread commandId) threadIds events)
    (readModel : OrchestrationReadModel) (sequence : Nat) :
    (projectPlanned readModel sequence events).projects = readModel.projects ∧
      ∃ f : OrchestrationThread → OrchestrationThread,
        (projectPlanned readModel sequence events).threads = readModel.threads.map f ∧
          ∀ thread, (f thread).id = thread.id ∧ (f thread).projectId = thread.projectId ∧
            (thread.deletedAt ≠ none → (f thread).deletedAt ≠ none) ∧
            (thread.id ∈ threadIds → (f thread).deletedAt ≠ none) ∧
            (thread.id ∉ threadIds → f thread = thread) := by
  induction h generalizing readModel sequence with
  | nil => exact ⟨rfl, id, by simp [projectPlanned], by simp⟩
  | @cons threadId event threadIds events hdeletes _ ih =>
    obtain ⟨deletedAt, hpayload⟩ := hdeletes.payload
    obtain ⟨hprojects, f, hthreads, hf⟩ :=
      ih (projectEvent readModel (event.withSequence (sequence + 1))) (sequence + 1)
    have hstep : (projectEvent readModel (event.withSequence (sequence + 1))).threads =
        readModel.threads.map (markDeleted threadId deletedAt) := by
      simp only [projectEvent_threads, projectThreads, PlannedOrchestrationEvent.withSequence,
        hpayload, updateThread]
      rfl
    refine ⟨?_, f ∘ markDeleted threadId deletedAt, ?_, ?_⟩
    · rw [projectPlanned, hprojects]
      simp only [projectEvent_projects, projectProjects, PlannedOrchestrationEvent.withSequence,
        hpayload]
    · rw [projectPlanned, hthreads, hstep, List.map_map]
    · intro thread
      rw [Function.comp_apply]
      by_cases hid : thread.id = threadId
      · obtain ⟨hsame, hproject, hkept, -, -⟩ :=
          hf { thread with deletedAt := some deletedAt, updatedAt := deletedAt }
        rw [markDeleted, if_pos hid]
        exact ⟨hsame, hproject, fun _ => hkept (Option.some_ne_none _),
          fun _ => hkept (Option.some_ne_none _), fun hnot => absurd (hid ▸ List.mem_cons_self) hnot⟩
      · obtain ⟨hsame, hproject, hkept, hdeleted, hother⟩ := hf thread
        rw [markDeleted, if_neg hid]
        refine ⟨hsame, hproject, hkept, fun hmem => hdeleted ?_, fun hnot => hother ?_⟩
        · exact (List.mem_cons.mp hmem).resolve_left hid
        · exact fun hmem => hnot (List.mem_cons_of_mem _ hmem)

omit [TextRuntime] in
theorem cascadeDeleted_of_inTurn {commandId : CommandId} {projectId : ProjectId}
    {events : List PlannedOrchestrationEvent} {readModel : OrchestrationReadModel}
    (h : DeletesInTurn commandId projectId
      ((activeThreads readModel projectId).map OrchestrationThread.id) events)
    (hdistinct : (readModel.threads.map OrchestrationThread.id).Nodup) (sequence : Nat) :
    CascadeDeleted projectId readModel (projectPlanned readModel sequence events) := by
  obtain ⟨threadEvents, last, rfl, hdeletes, hlast⟩ := h
  obtain ⟨deletedAt, hpayload⟩ := hlast.payload
  obtain ⟨hprojects, f, hthreads, hf⟩ := projectPlanned_deletesThreads hdeletes readModel sequence
  rw [projectPlanned_append, projectPlanned, projectPlanned]
  constructor
  · simp only [projectEvent_projects, projectProjects, PlannedOrchestrationEvent.withSequence,
      hpayload, hprojects]
    rw [List.forall₂_map_right_iff, List.forall₂_same]
    intro project _
    by_cases hid : project.id = projectId
    · simp [hid]
    · simp [hid]
  · simp only [projectEvent_threads, projectThreads, PlannedOrchestrationEvent.withSequence,
      hpayload, hthreads]
    rw [List.forall₂_map_right_iff, List.forall₂_same]
    intro thread hthread
    obtain ⟨hsame, hproject, hkept, hdeleted, hother⟩ := hf thread
    refine ⟨hsame, hproject, ?_⟩
    by_cases hactive : thread.projectId = projectId
    · rw [if_pos hactive]
      by_cases hlive : thread.deletedAt = none
      · apply hdeleted
        refine List.mem_map.mpr ⟨thread, ?_, rfl⟩
        simp [activeThreads, listThreadsByProjectId, hthread, hactive, hlive]
      · exact hkept hlive
    · rw [if_neg hactive]
      apply hother
      intro hmem
      obtain ⟨active, hmemActive, hid⟩ := List.mem_map.mp hmem
      simp only [activeThreads, listThreadsByProjectId, List.mem_filter, decide_eq_true_eq]
        at hmemActive
      -- Ids are distinct, so the active thread of that id is this one.
      obtain rfl := List.inj_on_of_nodup_map hdistinct hmemActive.1.1 hthread hid
      exact hactive hmemActive.1.2

theorem decide_unforcedDelete (env : DecideEnv) (commandId : CommandId) {force : Option Bool}
    (hforce : force ≠ some true) (hproject : findProjectById readModel projectId = some project) :
    (∃ error, decideOrchestrationCommand env readModel
        ⟨commandId, .projectDelete ⟨projectId, force⟩⟩ = .error error) ↔
      activeThreads readModel projectId ≠ [] := by
  by_cases hnone : activeThreads readModel projectId = []
  · obtain ⟨event, hdecide, -⟩ := decideWith_projectDelete
      (decideCommandSequence decideUnforced env readModel readModel.snapshotSequence []) env
      commandId force hproject hnone
    refine ⟨fun h => ?_, fun h => absurd hnone h⟩
    obtain ⟨error, herror⟩ := h
    cases herror.symm.trans hdecide
  · refine ⟨fun _ => hnone, fun _ => ?_⟩
    have hpositive := List.length_pos_iff.mpr hnone
    refine ⟨invariantError "project.delete" ("Project '" ++ projectId ++
      "' is not empty and cannot be deleted without force=true."), ?_⟩
    have hrequire : requireProject readModel ⟨commandId, .projectDelete ⟨projectId, force⟩⟩ projectId =
        .ok project := requireProject_eq_ok.mpr hproject
    simp only [decideOrchestrationCommand, decideWith, hrequire, bind, Except.bind]
    rw [if_pos ⟨hpositive, hforce⟩]
    rfl

/-- In every model that accepted commands lead to, a forced delete of a project plans the deletion
of its active threads in their order and then its own, which deletes the project with its threads;
without force it is refused exactly where the project has an active thread. -/
theorem forcedDelete_plans_cascade (nowIso : IsoDateTime) {readModel : OrchestrationReadModel}
    (h : Reachable acceptCommand (createEmptyReadModel nowIso) readModel)
    {project : OrchestrationProject} (hproject : project ∈ readModel.projects) (env : DecideEnv)
    (commandId : CommandId) :
    (∃ events, decideOrchestrationCommand env readModel
        ⟨commandId, .projectDelete ⟨project.id, some true⟩⟩ = .ok events ∧
      DeletesInTurn commandId project.id
        ((activeThreads readModel project.id).map OrchestrationThread.id) events ∧
      CascadeDeleted project.id readModel
        (projectPlanned readModel readModel.snapshotSequence events)) ∧
    ∀ force, force ≠ some true →
      ((∃ error, decideOrchestrationCommand env readModel
          ⟨commandId, .projectDelete ⟨project.id, force⟩⟩ = .error error) ↔
        ∃ thread ∈ readModel.threads, thread.projectId = project.id ∧ thread.deletedAt = none) := by
  have hdistinct : DistinctIds readModel :=
    h.invariant (fun _ _ _ => distinctIds_acceptCommand) (distinctIds_empty nowIso)
  obtain ⟨found, hfound⟩ : ∃ found, findProjectById readModel project.id = some found :=
    Option.isSome_iff_exists.mp
      (List.find?_isSome.mpr ⟨project, hproject, decide_eq_true rfl⟩)
  obtain ⟨events, hdecide, hturn⟩ :=
    decide_forcedDelete_inTurn env commandId hfound hdistinct.2
  refine ⟨⟨events, hdecide, hturn, cascadeDeleted_of_inTurn hturn hdistinct.2 _⟩, ?_⟩
  intro force hforce
  rw [decide_unforcedDelete env commandId hforce hfound]
  simp only [activeThreads, listThreadsByProjectId, ne_eq, List.filter_eq_nil_iff, List.mem_filter,
    decide_eq_true_eq, not_forall, exists_prop, not_not, and_assoc]

/-- A project with an archived thread and a live one, and another project. -/
def cascadeRun : List Submission :=
  let now := "2026-01-01T00:00:00.000Z"
  let env : DecideEnv := ⟨fun _ => now, fun _ => "event"⟩
  let create := fun threadId => CommandBody.threadCreate ⟨threadId, "p1", "Thread",
    ⟨"codex", "model", none⟩, .fullAccess, .default, none, none, none, now⟩
  [⟨env, "c1", .projectCreate ⟨"p1", "Project", "/srv/app", none, now⟩⟩,
    ⟨env, "c2", .projectCreate ⟨"p2", "Project", "/srv/other", none, now⟩⟩,
    ⟨env, "c3", create "t1"⟩, ⟨env, "c4", create "t2"⟩, ⟨env, "c5", .threadDelete ⟨"t1"⟩⟩]

omit [Collation] [TextRuntime] in
theorem forcedDelete_plans_cascade_twoThreads :
    letI := codePointCollation
    letI := asciiTextRuntime
    ∃ readModel, Reachable acceptCommand (createEmptyReadModel "2026-01-01T00:00:00.000Z")
        readModel ∧ (activeThreads readModel "p1").map OrchestrationThread.id = ["t2"] ∧
      ∃ events, decideOrchestrationCommand
          ⟨fun _ => "2026-01-02T00:00:00.000Z", fun _ => "event"⟩ readModel
          ⟨"c6", .projectDelete ⟨"p1", some true⟩⟩ = .ok events ∧
        CascadeDeleted "p1" readModel
          (projectPlanned readModel readModel.snapshotSequence events) := by
  let _ := codePointCollation
  let _ := asciiTextRuntime
  have hreached : ∃ readModel, exec acceptCommand
      (createEmptyReadModel "2026-01-01T00:00:00.000Z") cascadeRun = some readModel ∧
        (activeThreads readModel "p1").map OrchestrationThread.id = ["t2"] ∧
          ∃ project ∈ readModel.projects, project.id = "p1" :=
    ⟨_, rfl, by decide +kernel, _, List.mem_cons_self, rfl⟩
  obtain ⟨readModel, hexec, hactive, project, hproject, hid⟩ := hreached
  obtain ⟨⟨events, hdecide, -, hcascade⟩, -⟩ := forcedDelete_plans_cascade
    "2026-01-01T00:00:00.000Z" ⟨cascadeRun, hexec⟩ hproject
    ⟨fun _ => "2026-01-02T00:00:00.000Z", fun _ => "event"⟩ "c6"
  rw [hid] at hdecide hcascade
  exact ⟨readModel, ⟨cascadeRun, hexec⟩, hactive, events, hdecide, hcascade⟩

end GT3Code.Orchestration
