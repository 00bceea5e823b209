import GT3Code.Base.RecordIndexes
import GT3Code.Base.Runs
import GT3Code.Web.StoreSync

/-! # The indexes of the web store

A run applies snapshots, stream events, details and orchestration events to one environment.
The lists next to the records stay the records' keys except in two kinds of steps: a project
takes the place of another while its own id is listed already, and a thread leaves the
project whose id is the empty text.
-/

namespace GT3Code.Web

open GT3Code.Base GT3Code.Contracts GT3Code.Orchestration

structure DistinctShellSnapshot extends OrchestrationShellSnapshot where
  distinctProjects : (projects.map OrchestrationProjectShell.id).Nodup
  distinctThreads : (threads.map OrchestrationThreadShell.id).Nodup

structure DistinctThreadDetail extends OrchestrationThread where
  distinctMessages : (messages.map OrchestrationMessage.id).Nodup
  distinctActivities : (activities.map OrchestrationThreadActivity.id).Nodup
  distinctProposedPlans : (proposedPlans.map OrchestrationProposedPlan.id).Nodup
  distinctCheckpoints : (checkpoints.map OrchestrationCheckpointSummary.turnId).Nodup

inductive StoreInput where
  | shellSnapshot (snapshot : DistinctShellSnapshot)
  | shellEvent (event : OrchestrationShellStreamEvent)
  | threadDetail (thread : DistinctThreadDetail)
  | orchestrationEvent (event : OrchestrationEvent)

def applyInput [ClientRuntime] [Collation] (environmentId : EnvironmentId)
    (state : EnvironmentState) : StoreInput → Option EnvironmentState
  | .shellSnapshot snapshot =>
    some (syncEnvironmentShellSnapshot state snapshot.toOrchestrationShellSnapshot environmentId)
  | .shellEvent event => some (applyEnvironmentShellEvent state event environmentId)
  | .threadDetail thread =>
    some (syncServerThreadDetail state thread.toOrchestrationThread environmentId)
  | .orchestrationEvent event =>
    some (applyEnvironmentOrchestrationEvent environmentId state event)

/-- In every thread the ids of one of its lists are those of the list's record. -/
def SlicesListed {ι α : Type} (idsByThreadId : Record ThreadId (List ι))
    (byThreadId : Record ThreadId (Record ι α)) : Prop :=
  ∀ threadId, ((byThreadId threadId).getD (.empty ι α)).ListedBy
    ((idsByThreadId threadId).getD [])

def projectOf (shells : Record ThreadId ThreadShell) : Record ThreadId ProjectId :=
  fun threadId => (shells threadId).map ThreadShell.projectId

structure EnvironmentState.Consistent (state : EnvironmentState) : Prop where
  projects : state.projectById.ListedBy state.projectIds
  threads : state.threadShellById.ListedBy state.threadIds
  groups : state.threadIdsByProjectId.GroupedBy (projectOf state.threadShellById)
  messages : SlicesListed state.messageIdsByThreadId state.messageByThreadId
  activities : SlicesListed state.activityIdsByThreadId state.activityByThreadId
  proposedPlans : SlicesListed state.proposedPlanIdsByThreadId state.proposedPlanByThreadId
  turnDiffs : SlicesListed state.turnDiffIdsByThreadId state.turnDiffSummaryByThreadId

/-- A project that takes the place of another is not listed itself. -/
def CanUpsert (state : EnvironmentState) (projectId : ProjectId) (workspaceRoot : String) : Prop :=
  ∀ existing, existingProjectId state projectId workspaceRoot = some existing →
    existing ≠ projectId → projectId ∉ state.projectIds

def CanRegister (state : EnvironmentState) (threadId : ThreadId) (projectId : ProjectId) : Prop :=
  projectOf state.threadShellById threadId = some "" → projectId = ""

def KeepsIndexes (state : EnvironmentState) : StoreInput → Prop
  | .shellSnapshot _ => True
  | .shellEvent (.projectUpserted project) => CanUpsert state project.id project.workspaceRoot
  | .shellEvent (.threadUpserted thread) => CanRegister state thread.id thread.projectId
  | .shellEvent _ => True
  | .threadDetail thread => CanRegister state thread.id thread.projectId
  | .orchestrationEvent event =>
    match event.payload with
    | .projectCreated payload => CanUpsert state payload.projectId payload.workspaceRoot
    | .threadCreated payload => CanRegister state payload.threadId payload.projectId
    | _ => True

variable {state next : EnvironmentState} {threadId : ThreadId} {shell : ThreadShell}

theorem listedBy_upsertProject (h : state.projectById.ListedBy state.projectIds)
    (nextProject : Project) :
    (upsertProject nextProject state).projectById.ListedBy
        (upsertProject nextProject state).projectIds ↔
      CanUpsert state nextProject.id nextProject.cwd := by
  unfold upsertProject CanUpsert
  cases hexisting : existingProjectId state nextProject.id nextProject.cwd with
  | none =>
    refine ⟨fun _ _ hnone => ?_, fun _ => h.set _ _⟩
    cases hnone
  | some existing =>
    have hold : existing ∈ state.projectIds := List.mem_of_find?_eq_some hexisting
    by_cases hsame : existing = nextProject.id
    · subst hsame
      simp only [ne_eq, not_true_eq_false, if_false]
      refine ⟨fun _ _ h hne => absurd (Option.some.inj h).symm hne, fun _ => ?_⟩
      have hset := h.set nextProject.id nextProject
      rwa [if_pos hold] at hset
    · simp only [ne_eq, hsame, not_false_eq_true, if_true]
      constructor
      · rintro hlisted _ h - hmem
        cases h
        exact Record.not_nodup_replace hsame hold hmem hlisted.nodup
      · exact fun hcan => h.replace hold (hcan existing rfl hsame)

theorem listedBy_removeProject (h : state.projectById.ListedBy state.projectIds)
    (projectId : ProjectId) :
    (removeProject projectId state).projectById.ListedBy
      (removeProject projectId state).projectIds := by
  unfold removeProject
  split
  · exact h
  · exact h.remove projectId

theorem listedBy_updateProjectMeta (h : state.projectById.ListedBy state.projectIds)
    (payload : ProjectMetaUpdatedPayload) :
    (updateProjectMeta payload state).projectById.ListedBy
      (updateProjectMeta payload state).projectIds := by
  unfold updateProjectMeta
  split
  · exact h
  · rename_i project hproject
    have hlisted : payload.projectId ∈ state.projectIds := by
      rw [h.mem, hproject]
      rfl
    have hset := h.set payload.projectId
    simp only [if_pos hlisted] at hset
    exact hset _

/-- Shells under their ids, with the two lists of threads next to them. -/
structure Registered (threadIds : List ThreadId)
    (threadIdsByProjectId : Record ProjectId (List ThreadId))
    (shells : Record ThreadId ThreadShell) : Prop where
  threads : (projectOf shells).ListedBy threadIds
  groups : threadIdsByProjectId.GroupedBy (projectOf shells)
  ids : ∀ {threadId shell}, shells threadId = some shell → shell.id = threadId

theorem groupedBy_ensureThreadRegistered {groupOf : Record ThreadId ProjectId}
    (h : state.threadIdsByProjectId.GroupedBy groupOf) (threadId : ThreadId)
    (projectId : ProjectId) :
    (ensureThreadRegistered state threadId projectId
        (groupOf threadId)).threadIdsByProjectId.GroupedBy (groupOf.set threadId projectId) ↔
      (groupOf threadId = some "" → projectId = "") := by
  unfold ensureThreadRegistered
  by_cases hsame : groupOf threadId = some projectId
  · have hset : groupOf.set threadId projectId = groupOf :=
      Function.update_eq_self_iff.mpr hsame.symm
    rw [if_pos hsame, hset]
    exact ⟨fun _ hempty => Option.some.inj (hsame.symm.trans hempty), fun _ => h⟩
  · rw [if_neg hsame]
    split
    · rename_i hnone
      refine ⟨fun _ hempty => ?_, fun _ => h.add hnone projectId⟩
      cases hnone.symm.trans hempty
    · -- the thread stays in the list of the project it leaves
      rename_i hempty
      have hne : "" ≠ projectId := fun heq => hsame (heq ▸ hempty)
      refine ⟨fun hgrouped => ?_, fun hcan => absurd (hcan hempty).symm hne⟩
      have hstays : threadId ∈ (state.threadIdsByProjectId "").getD [] := (h.mem _ _).mpr hempty
      have hmem := hgrouped.mem "" threadId
      simp only [Record.set_of_ne hne, Record.set_self] at hmem
      exact absurd (Option.some.inj (hmem.mp hstays)).symm hne
    · rename_i previous hprevious hsome
      refine ⟨fun _ hempty => absurd (Option.some.inj (hsome.symm.trans hempty)) hprevious,
        fun _ => ?_⟩
      have hadded := (h.drop hsome).add (Record.remove_self threadId groupOf) projectId
      have hset : (groupOf.remove threadId).set threadId projectId =
          groupOf.set threadId projectId := Function.update_idem ..
      rwa [hset] at hadded

theorem projectId_of_threadShellsEqual {left : ThreadShell}
    (h : threadShellsEqual (some left) shell = true) : left.projectId = shell.projectId := by
  simp only [threadShellsEqual, Option.any_some, Bool.and_eq_true, decide_eq_true_eq] at h
  exact h.1.1.1.1.1.1.1.1.1.1.1.2

theorem projectOf_setUnless (shells : Record ThreadId ThreadShell) (shell : ThreadShell) :
    projectOf (setUnless (threadShellsEqual (shells shell.id) shell) shell.id shell shells) =
      (projectOf shells).set shell.id shell.projectId := by
  funext threadId
  by_cases hsame : threadId = shell.id
  · subst hsame
    rw [Record.set_self]
    unfold projectOf setUnless
    split
    · rename_i hequal
      obtain ⟨left, hleft, -⟩ := Option.map_eq_some_iff.mp (id_of_threadShellsEqual hequal)
      rw [hleft] at hequal ⊢
      exact congrArg some (projectId_of_threadShellsEqual hequal)
    · simp
  · rw [Record.set_of_ne hsame]
    unfold projectOf setUnless
    split
    · rfl
    · rw [Record.set_of_ne hsame]

theorem ensureThreadRegistered_eq (state : EnvironmentState) (threadId : ThreadId)
    (projectId : ProjectId) (previous : Option ProjectId) :
    ∃ threadIds groups, ensureThreadRegistered state threadId projectId previous =
      { state with threadIds := threadIds, threadIdsByProjectId := groups } := by
  unfold ensureThreadRegistered
  split <;> exact ⟨_, _, rfl⟩

theorem registered_write (h : Registered state.threadIds state.threadIdsByProjectId
      state.threadShellById) (shell : ThreadShell)
    (hcan : CanRegister state shell.id shell.projectId) :
    let registered := ensureThreadRegistered state shell.id shell.projectId
      ((state.threadShellById shell.id).map ThreadShell.projectId)
    Registered registered.threadIds registered.threadIdsByProjectId
      (setUnless (threadShellsEqual (state.threadShellById shell.id) shell) shell.id shell
        state.threadShellById) where
  threads := by
    rw [projectOf_setUnless]
    have hset := h.threads.set shell.id shell.projectId
    unfold ensureThreadRegistered
    split <;> exact hset
  groups := by
    rw [projectOf_setUnless]
    exact (groupedBy_ensureThreadRegistered h.groups _ _).mpr hcan
  ids {threadId found} hfound := by
    unfold setUnless at hfound
    split at hfound
    · exact h.ids hfound
    · by_cases hsame : threadId = shell.id
      · subst hsame
        rw [Record.set_self] at hfound
        rw [Option.some.inj hfound]
      · rw [Record.set_of_ne hsame] at hfound
        exact h.ids hfound

theorem canRegister_of_grouped (h : Registered state.threadIds state.threadIdsByProjectId
      state.threadShellById) (shell : ThreadShell)
    (hgrouped : (ensureThreadRegistered state shell.id shell.projectId
      ((state.threadShellById shell.id).map
        ThreadShell.projectId)).threadIdsByProjectId.GroupedBy
        (projectOf (setUnless (threadShellsEqual (state.threadShellById shell.id) shell) shell.id
          shell state.threadShellById))) : CanRegister state shell.id shell.projectId := by
  rw [projectOf_setUnless] at hgrouped
  exact (groupedBy_ensureThreadRegistered h.groups _ _).mp hgrouped

/-- A list of a thread, each entry of its record under its own id. -/
structure SliceOk {ι α : Type} (key : α → ι) (ids : Option (List ι))
    (byId : Option (Record ι α)) : Prop where
  listed : (byId.getD (.empty ι α)).ListedBy (ids.getD [])
  keyed : ∀ {id item}, byId.getD (.empty ι α) id = some item → key item = id

def Sliced {ι α : Type} (key : α → ι) (idsByThreadId : Record ThreadId (List ι))
    (byThreadId : Record ThreadId (Record ι α)) : Prop :=
  ∀ threadId, SliceOk key (idsByThreadId threadId) (byThreadId threadId)

section Slices

variable {ι α : Type} {key : α → ι} {idsByThreadId : Record ThreadId (List ι)}
  {byThreadId : Record ThreadId (Record ι α)} {items : List α}

theorem sliceOk_none : SliceOk key none none :=
  ⟨Record.listedBy_empty, nofun⟩

theorem Sliced.listed (h : Sliced key idsByThreadId byThreadId) :
    SlicesListed idsByThreadId byThreadId := fun threadId => (h threadId).listed

theorem Sliced.update (h : Sliced key idsByThreadId byThreadId) {ids : Option (List ι)}
    {byId : Option (Record ι α)} (hok : SliceOk key ids byId) (threadId : ThreadId) :
    Sliced key (Function.update idsByThreadId threadId ids)
      (Function.update byThreadId threadId byId) := by
  intro other
  by_cases hother : other = threadId
  · subst hother
    rwa [Function.update_self, Function.update_self]
  · rw [Function.update_of_ne hother, Function.update_of_ne hother]
    exact h other

theorem Sliced.set [DecidableEq ι] (h : Sliced key idsByThreadId byThreadId)
    (hnodup : (items.map key).Nodup) (threadId : ThreadId) :
    Sliced key (idsByThreadId.set threadId (items.map key))
      (byThreadId.set threadId (Record.fromItems key items)) := by
  have hok : SliceOk key (some (items.map key)) (some (Record.fromItems key items)) :=
    ⟨Record.listedBy_fromItems hnodup, Record.key_of_fromItems⟩
  exact h.update hok threadId

theorem Sliced.remove (h : Sliced key idsByThreadId byThreadId) (threadId : ThreadId) :
    Sliced key (idsByThreadId.remove threadId) (byThreadId.remove threadId) :=
  h.update sliceOk_none threadId

theorem Sliced.retain (h : Sliced key idsByThreadId byThreadId) (threadIds : List ThreadId) :
    Sliced key (retainThreadScopedRecord idsByThreadId threadIds)
      (retainThreadScopedRecord byThreadId threadIds) := by
  intro threadId
  unfold retainThreadScopedRecord
  split
  · exact h threadId
  · exact sliceOk_none

theorem Sliced.nodup_selectSlice (h : Sliced key idsByThreadId byThreadId) (threadId : ThreadId) :
    ((selectSlice idsByThreadId byThreadId threadId).map key).Nodup := by
  unfold selectSlice
  rw [(h threadId).listed.map_collect (h threadId).keyed]
  exact (h threadId).listed.nodup

theorem nodup_map_sliceLast (h : (items.map key).Nodup) (count : Nat) :
    ((sliceLast count items).map key).Nodup :=
  h.sublist ((sliceLast_sublist count items).map key)

theorem nodup_map_filter (h : (items.map key).Nodup) (keep : α → Bool) :
    ((items.filter keep).map key).Nodup :=
  h.sublist (List.filter_sublist.map key)

theorem nodup_map_upsert [DecidableEq ι] (h : (items.map key).Nodup) (item : α)
    (compare : α → α → Int) (count : Nat) :
    ((sliceLast count (toSorted compare
      (items.filter (fun entry => key entry ≠ key item) ++ [item]))).map key).Nodup := by
  refine nodup_map_sliceLast (((toSorted_perm compare _).map key).nodup_iff.mpr ?_) count
  rw [List.map_append]
  refine List.nodup_append.mpr ⟨nodup_map_filter h _, List.nodup_singleton _, ?_⟩
  rintro other hother _ hlast rfl
  obtain ⟨entry, hentry, rfl⟩ := List.mem_map.mp hother
  simpa [List.mem_singleton.mp hlast] using (List.mem_filter.mp hentry).2

end Slices

structure Thread.Distinct (thread : Thread) : Prop where
  messages : (thread.messages.map ChatMessage.id).Nodup
  activities : (thread.activities.map OrchestrationThreadActivity.id).Nodup
  proposedPlans : (thread.proposedPlans.map OrchestrationProposedPlan.id).Nodup
  turnDiffs : (thread.turnDiffSummaries.map TurnDiffSummary.turnId).Nodup

/-- An updater that keeps a thread's place and the ids of its lists apart. -/
def KeepsDistinct (updater : Thread → Option Thread) : Prop :=
  ∀ thread next, updater thread = some next → thread.Distinct →
    next.id = thread.id ∧ next.projectId = thread.projectId ∧ next.Distinct

theorem KeepsDistinct.other {updater : Thread → Option Thread}
    (h : ∀ {thread next}, updater thread = some next → next.id = thread.id ∧
      next.projectId = thread.projectId ∧ next.messages = thread.messages ∧
      next.activities = thread.activities ∧ next.proposedPlans = thread.proposedPlans ∧
      next.turnDiffSummaries = thread.turnDiffSummaries) : KeepsDistinct updater := by
  intro thread next hnext hdistinct
  obtain ⟨hid, hproject, hmessages, hactivities, hplans, hturnDiffs⟩ := h hnext
  exact ⟨hid, hproject, hmessages ▸ hdistinct.messages, hactivities ▸ hdistinct.activities,
    hplans ▸ hdistinct.proposedPlans, hturnDiffs ▸ hdistinct.turnDiffs⟩

section Updaters

theorem map_id_rebind (summaries : List TurnDiffSummary) (turnId : TurnId)
    (messageId : MessageId) :
    (rebindTurnDiffSummariesForAssistantMessage summaries turnId messageId).map
      TurnDiffSummary.turnId = summaries.map TurnDiffSummary.turnId := by
  unfold rebindTurnDiffSummariesForAssistantMessage
  rw [List.map_map]
  refine List.map_congr_left (fun summary _ => ?_)
  simp only [Function.comp]
  split <;> rfl

theorem keepsDistinct_revertThread [Collation] (payload : ThreadRevertedPayload)
    (occurredAt : IsoDateTime) :
    KeepsDistinct (fun thread => some (revertThread payload occurredAt thread)) := by
  rintro thread next hnext hdistinct
  cases hnext
  refine ⟨rfl, rfl, ?_, nodup_map_filter hdistinct.activities _, ?_, ?_⟩
  · simp only [revertThread]
    exact nodup_map_sliceLast (nodup_map_filter hdistinct.messages _) _
  · simp only [revertThread]
    exact nodup_map_sliceLast (nodup_map_filter hdistinct.proposedPlans _) _
  · simp only [revertThread]
    refine nodup_map_sliceLast (((toSorted_perm _ _).map _).nodup_iff.mpr ?_) _
    exact nodup_map_filter hdistinct.turnDiffs _

variable [ClientRuntime]

theorem keepsDistinct_sendMessage (payload : ThreadMessageSentPayload)
    (occurredAt : IsoDateTime) :
    KeepsDistinct (fun thread => some (sendMessage payload occurredAt thread)) := by
  rintro thread next hnext hdistinct
  cases hnext
  refine ⟨rfl, rfl, ?_, hdistinct.activities, hdistinct.proposedPlans, ?_⟩
  · simp only [sendMessage]
    refine nodup_map_sliceLast ?_ _
    split
    · rw [List.map_map]
      refine (congrArg List.Nodup (List.map_congr_left fun entry _ => ?_)).mpr hdistinct.messages
      simp only [Function.comp]
      split <;> rfl
    · rename_i hnew
      rw [List.map_append]
      refine List.nodup_append.mpr ⟨hdistinct.messages, List.nodup_singleton _, ?_⟩
      rintro other hother _ hlast rfl
      obtain ⟨entry, hentry, rfl⟩ := List.mem_map.mp hother
      refine hnew (List.find?_isSome.mpr ⟨entry, hentry, ?_⟩)
      simpa using hlast
  · simp only [sendMessage]
    split
    · rw [map_id_rebind]
      exact hdistinct.turnDiffs
    · exact hdistinct.turnDiffs

variable [Collation]

theorem keepsDistinct_updaterOfEvent {event : OrchestrationEvent}
    {updater : Thread → Option Thread} (h : updaterOfEvent event = some (threadId, updater)) :
    KeepsDistinct updater := by
  unfold updaterOfEvent threadUpdater at h
  cases hpayload : event.payload <;> simp only [hpayload] at h
  case threadMessageSent payload =>
    cases h
    exact keepsDistinct_sendMessage payload event.occurredAt
  case threadTurnDiffCompleted payload =>
    cases h
    intro thread next hnext hdistinct
    simp only [completeThreadTurnDiff] at hnext
    split at hnext
    · cases hnext
    · cases hnext
      refine ⟨rfl, rfl, hdistinct.messages, hdistinct.activities, hdistinct.proposedPlans, ?_⟩
      simp only [sortTurnDiffSummaries]
      exact nodup_map_upsert hdistinct.turnDiffs _ _ _
  case threadReverted payload =>
    cases h
    exact keepsDistinct_revertThread payload event.occurredAt
  case threadProposedPlanUpserted payload =>
    cases h
    rintro thread next hnext hdistinct
    cases hnext
    refine ⟨rfl, rfl, hdistinct.messages, hdistinct.activities, ?_, hdistinct.turnDiffs⟩
    simp only [upsertThreadProposedPlan]
    exact nodup_map_upsert hdistinct.proposedPlans _ _ _
  case threadActivityAppended payload =>
    cases h
    rintro thread next hnext hdistinct
    cases hnext
    refine ⟨rfl, rfl, hdistinct.messages, ?_, hdistinct.proposedPlans, hdistinct.turnDiffs⟩
    simp only [appendThreadActivity]
    exact nodup_map_upsert hdistinct.activities _ _ _
  case threadTurnInterruptRequested payload =>
    obtain ⟨turnId, -, hupdater⟩ := Option.map_eq_some_iff.mp h
    cases hupdater
    refine KeepsDistinct.other (fun {thread next} hnext => ?_)
    unfold interruptTurn at hnext
    split at hnext
    · cases hnext
    · split at hnext
      · cases hnext
      · cases hnext
        exact ⟨rfl, rfl, rfl, rfl, rfl, rfl⟩
  case threadSessionStopRequested payload =>
    cases h
    refine KeepsDistinct.other (fun {thread next} hnext => ?_)
    obtain ⟨session, -, rfl⟩ := Option.map_eq_some_iff.mp hnext
    exact ⟨rfl, rfl, rfl, rfl, rfl, rfl⟩
  all_goals
    first
    | cases h
      refine KeepsDistinct.other (fun {thread next} hnext => ?_)
      cases hnext
      exact ⟨rfl, rfl, rfl, rfl, rfl, rfl⟩
    | cases h

end Updaters

/-! ## Runs -/

/-- The invariant of the runs: consistent, every entry under its own id. -/
structure EnvironmentState.Indexed (state : EnvironmentState) : Prop where
  projects : state.projectById.ListedBy state.projectIds
  registered : Registered state.threadIds state.threadIdsByProjectId state.threadShellById
  messages : Sliced ChatMessage.id state.messageIdsByThreadId state.messageByThreadId
  activities : Sliced OrchestrationThreadActivity.id state.activityIdsByThreadId
    state.activityByThreadId
  proposedPlans : Sliced OrchestrationProposedPlan.id state.proposedPlanIdsByThreadId
    state.proposedPlanByThreadId
  turnDiffs : Sliced TurnDiffSummary.turnId state.turnDiffIdsByThreadId
    state.turnDiffSummaryByThreadId

namespace EnvironmentState.Indexed

theorem consistent (h : state.Indexed) : state.Consistent where
  projects := h.projects
  threads := ⟨h.registered.threads.nodup, fun threadId => by
    rw [h.registered.threads.mem, projectOf, Option.isSome_map]⟩
  groups := h.registered.groups
  messages := h.messages.listed
  activities := h.activities.listed
  proposedPlans := h.proposedPlans.listed
  turnDiffs := h.turnDiffs.listed

theorem initial : initialEnvironmentState.Indexed where
  projects := Record.listedBy_empty
  registered := ⟨Record.listedBy_empty, Record.groupedBy_empty, nofun⟩
  messages _ := sliceOk_none
  activities _ := sliceOk_none
  proposedPlans _ := sliceOk_none
  turnDiffs _ := sliceOk_none

theorem withProjects (h : state.Indexed) (hnext : ∃ projectById projectIds,
      next = { state with projectById := projectById, projectIds := projectIds })
    (hlisted : next.projectById.ListedBy next.projectIds) : next.Indexed := by
  obtain ⟨projectById, projectIds, rfl⟩ := hnext
  exact { h with projects := hlisted }

theorem upsertProject (h : state.Indexed) {nextProject : Project}
    (hcan : CanUpsert state nextProject.id nextProject.cwd) :
    (upsertProject nextProject state).Indexed := by
  refine h.withProjects ?_ ((listedBy_upsertProject h.projects nextProject).mpr hcan)
  unfold Web.upsertProject
  split
  · split <;> exact ⟨_, _, rfl⟩
  · exact ⟨_, _, rfl⟩

theorem removeProject (h : state.Indexed) (projectId : ProjectId) :
    (removeProject projectId state).Indexed := by
  refine h.withProjects ?_ (listedBy_removeProject h.projects projectId)
  unfold Web.removeProject
  split <;> exact ⟨_, _, rfl⟩

theorem updateProjectMeta (h : state.Indexed) (payload : ProjectMetaUpdatedPayload) :
    (updateProjectMeta payload state).Indexed := by
  refine h.withProjects ?_ (listedBy_updateProjectMeta h.projects payload)
  unfold Web.updateProjectMeta
  split <;> exact ⟨_, _, rfl⟩

theorem removeThreadState (h : state.Indexed) (threadId : ThreadId) :
    (removeThreadState state threadId).Indexed := by
  unfold Web.removeThreadState
  split
  · exact h
  · rename_i shell hshell
    have hproject : projectOf state.threadShellById threadId = some shell.projectId := by
      rw [projectOf, hshell]
      rfl
    have hremoved : projectOf (state.threadShellById.remove threadId) =
        (projectOf state.threadShellById).remove threadId := by
      funext other
      by_cases hother : other = threadId
      · subst hother
        simp [projectOf]
      · simp [projectOf, Record.remove_of_ne hother]
    refine ⟨h.projects, ⟨?_, ?_, fun {other found} hfound => ?_⟩, h.messages.remove _,
      h.activities.remove _, h.proposedPlans.remove _, h.turnDiffs.remove _⟩
    · rw [hremoved]
      exact h.registered.threads.remove threadId
    · rw [hremoved]
      exact h.registered.groups.drop hproject
    · by_cases hother : other = threadId
      · subst hother
        simp at hfound
      · exact h.registered.ids ((Record.remove_of_ne hother _).symm.trans hfound)

theorem writeThreadShellState (h : state.Indexed) {nextThread : MappedThreadShell}
    (hcan : CanRegister state nextThread.shell.id nextThread.shell.projectId) :
    (writeThreadShellState state nextThread).Indexed := by
  have hregistered := registered_write h.registered nextThread.shell hcan
  obtain ⟨threadIds, groups, heq⟩ := ensureThreadRegistered_eq state nextThread.shell.id
    nextThread.shell.projectId
    ((state.threadShellById nextThread.shell.id).map ThreadShell.projectId)
  rw [heq] at hregistered
  simp only [Web.writeThreadShellState, heq]
  exact ⟨h.projects, hregistered, h.messages, h.activities, h.proposedPlans, h.turnDiffs⟩

theorem projectId_read (threadId : ThreadId) :
    (getThreadFromEnvironmentState state threadId).map (fun thread => thread.projectId) =
      (state.threadShellById threadId).map ThreadShell.projectId := by
  rw [getThreadFromEnvironmentState, Option.map_map]
  rfl

theorem writeThreadState (h : state.Indexed) {nextThread : Thread} (hdistinct : nextThread.Distinct)
    (hcan : CanRegister state nextThread.id nextThread.projectId) :
    (writeThreadState state nextThread
      (getThreadFromEnvironmentState state nextThread.id)).Indexed := by
  have hregistered := registered_write h.registered nextThread.toThreadShell hcan
  obtain ⟨threadIds, groups, heq⟩ := ensureThreadRegistered_eq state nextThread.id
    nextThread.projectId ((state.threadShellById nextThread.id).map ThreadShell.projectId)
  rw [heq] at hregistered
  simp only [Web.writeThreadState, projectId_read, heq]
  exact ⟨h.projects, hregistered, h.messages.set hdistinct.messages _,
    h.activities.set hdistinct.activities _, h.proposedPlans.set hdistinct.proposedPlans _,
    h.turnDiffs.set hdistinct.turnDiffs _⟩

theorem read (h : state.Indexed) {thread : Thread}
    (hread : getThreadFromEnvironmentState state threadId = some thread) :
    thread.id = threadId ∧ thread.Distinct := by
  obtain ⟨shell, hshell, rfl⟩ := Option.map_eq_some_iff.mp hread
  exact ⟨h.registered.ids hshell, h.messages.nodup_selectSlice _,
    h.activities.nodup_selectSlice _, h.proposedPlans.nodup_selectSlice _,
    h.turnDiffs.nodup_selectSlice _⟩

theorem updateThreadState (h : state.Indexed) {updater : Thread → Option Thread}
    (hkeeps : KeepsDistinct updater) : (updateThreadState state threadId updater).Indexed := by
  unfold Web.updateThreadState
  cases hread : getThreadFromEnvironmentState state threadId with
  | none => exact h
  | some thread =>
    obtain ⟨hid, hdistinct⟩ := h.read hread
    simp only
    cases hnext : updater thread with
    | none => exact h
    | some nextThread =>
      obtain ⟨hnextId, hproject, hnextDistinct⟩ := hkeeps _ _ hnext hdistinct
      have hprevious : getThreadFromEnvironmentState state nextThread.id = some thread := by
        rw [hnextId, hid, hread]
      have hcan : CanRegister state nextThread.id nextThread.projectId := by
        intro hempty
        rw [projectOf, ← projectId_read, hprevious] at hempty
        exact hproject.trans (Option.some.inj hempty)
      rw [← hprevious]
      exact h.writeThreadState hnextDistinct hcan

section Snapshot

variable [ClientRuntime]

theorem foldl_writeThreadShellState (environmentId : EnvironmentId)
    (threads : List OrchestrationThreadShell) (h : state.Indexed)
    (hnodup : (threads.map OrchestrationThreadShell.id).Nodup)
    (hnew : ∀ thread ∈ threads, state.threadShellById thread.id = none) :
    (threads.foldl (fun nextState thread =>
      Web.writeThreadShellState nextState (mapThreadShell thread environmentId)) state).Indexed := by
  induction threads generalizing state with
  | nil => exact h
  | cons thread threads ih =>
    have hcan : CanRegister state thread.id thread.projectId := by
      intro hempty
      rw [projectOf, hnew thread List.mem_cons_self] at hempty
      cases hempty
    rw [List.map_cons, List.nodup_cons] at hnodup
    refine ih (h.writeThreadShellState hcan) hnodup.2 (fun other hother => ?_)
    have hne : other.id ≠ thread.id := fun heq => hnodup.1 (List.mem_map.mpr ⟨other, hother, heq⟩)
    simp only [Web.writeThreadShellState, setUnless]
    split
    · exact hnew other (List.mem_cons_of_mem _ hother)
    · exact (Record.set_of_ne hne _ _).trans (hnew other (List.mem_cons_of_mem _ hother))

theorem syncEnvironmentShellSnapshot (h : state.Indexed) (snapshot : DistinctShellSnapshot)
    (environmentId : EnvironmentId) :
    (syncEnvironmentShellSnapshot state snapshot.toOrchestrationShellSnapshot
      environmentId).Indexed := by
  refine foldl_writeThreadShellState environmentId snapshot.threads ?_ snapshot.distinctThreads
    (fun _ _ => rfl)
  refine ⟨Record.listedBy_fromItems ?_, ⟨Record.listedBy_empty, Record.groupedBy_empty, ?_⟩,
    h.messages.retain _, h.activities.retain _, h.proposedPlans.retain _, h.turnDiffs.retain _⟩
  · rw [List.map_map]
    exact snapshot.distinctProjects
  · exact nofun

theorem syncServerThreadDetail (h : state.Indexed) (thread : DistinctThreadDetail)
    (environmentId : EnvironmentId) (hcan : CanRegister state thread.id thread.projectId) :
    (syncServerThreadDetail state thread.toOrchestrationThread environmentId).Indexed := by
  have hdistinct : (mapThread thread.toOrchestrationThread environmentId).Distinct := by
    refine ⟨?_, thread.distinctActivities, thread.distinctProposedPlans, ?_⟩
    · simp only [mapThread, List.map_map]
      exact thread.distinctMessages
    · simp only [mapThread, List.map_map]
      exact thread.distinctCheckpoints
  exact h.writeThreadState hdistinct hcan

variable [Collation] {environmentId : EnvironmentId}

theorem applyEnvironmentOrchestrationEvent (h : state.Indexed) {event : OrchestrationEvent}
    (hkeeps : KeepsIndexes state (.orchestrationEvent event)) :
    (applyEnvironmentOrchestrationEvent environmentId state event).Indexed := by
  simp only [KeepsIndexes] at hkeeps
  unfold Web.applyEnvironmentOrchestrationEvent
  split
  · rename_i payload hpayload
    simp only [hpayload] at hkeeps
    rw [createProject_eq]
    exact h.upsertProject hkeeps
  · exact h.updateProjectMeta _
  · exact h.removeProject _
  · rename_i payload hpayload
    simp only [hpayload] at hkeeps
    have hdistinct : (threadFromCreated payload environmentId).Distinct :=
      ⟨List.nodup_nil, List.nodup_nil, List.nodup_nil, List.nodup_nil⟩
    exact h.writeThreadState hdistinct hkeeps
  · exact h.removeThreadState _
  · split
    · rename_i hupdater
      exact h.updateThreadState (keepsDistinct_updaterOfEvent hupdater)
    · exact h

theorem applyInput (h : state.Indexed) {input : StoreInput} (hkeeps : KeepsIndexes state input)
    (hstep : applyInput environmentId state input = some next) : next.Indexed := by
  cases input with
  | shellSnapshot snapshot =>
    cases hstep
    exact h.syncEnvironmentShellSnapshot snapshot environmentId
  | shellEvent event =>
    cases hstep
    cases event with
    | projectUpserted project => exact h.upsertProject hkeeps
    | projectRemoved projectId => exact h.removeProject projectId
    | threadUpserted thread => exact h.writeThreadShellState hkeeps
    | threadRemoved threadId => exact h.removeThreadState threadId
  | threadDetail thread =>
    cases hstep
    exact h.syncServerThreadDetail thread environmentId hkeeps
  | orchestrationEvent event =>
    cases hstep
    exact h.applyEnvironmentOrchestrationEvent hkeeps

end Snapshot

end EnvironmentState.Indexed

theorem canRegister_writeThreadState (h : state.Indexed) (nextThread : Thread)
    (hconsistent : (writeThreadState state nextThread
      (getThreadFromEnvironmentState state nextThread.id)).Consistent) :
    CanRegister state nextThread.id nextThread.projectId := by
  have hgrouped := hconsistent.groups
  simp only [writeThreadState, EnvironmentState.Indexed.projectId_read] at hgrouped
  exact canRegister_of_grouped h.registered nextThread.toThreadShell hgrouped

section Runs

variable [ClientRuntime] [Collation] {environmentId : EnvironmentId}

theorem keepsIndexes_of_consistent (h : state.Indexed) {input : StoreInput}
    (hconsistent : next.Consistent) (hstep : applyInput environmentId state input = some next) :
    KeepsIndexes state input := by
  cases input with
  | shellSnapshot snapshot => trivial
  | shellEvent event =>
    cases hstep
    cases event with
    | projectUpserted project =>
      exact (listedBy_upsertProject h.projects _).mp hconsistent.projects
    | threadUpserted thread =>
      exact canRegister_of_grouped h.registered (mapThreadShell thread environmentId).shell
        hconsistent.groups
    | projectRemoved projectId => trivial
    | threadRemoved threadId => trivial
  | threadDetail thread =>
    cases hstep
    exact canRegister_writeThreadState h (mapThread _ environmentId) hconsistent
  | orchestrationEvent event =>
    cases hstep
    simp only [KeepsIndexes]
    unfold applyEnvironmentOrchestrationEvent at hconsistent
    split
    · rename_i payload hpayload
      simp only [hpayload, createProject_eq] at hconsistent
      exact (listedBy_upsertProject h.projects _).mp hconsistent.projects
    · rename_i payload hpayload
      simp only [hpayload] at hconsistent
      exact canRegister_writeThreadState h (threadFromCreated payload environmentId) hconsistent
    · trivial

/-- The indexes are consistent all along exactly in the runs that put no project in the
place of another while it is listed itself, and move no thread away from the empty id. -/
theorem throughout_consistent_iff (environmentId : EnvironmentId) (inputs : List StoreInput) :
    Throughout (applyInput environmentId) EnvironmentState.Consistent initialEnvironmentState
        inputs ↔
      StepsMeet (applyInput environmentId) KeepsIndexes initialEnvironmentState inputs := by
  refine throughout_iff_stepsMeet_while (I := EnvironmentState.Indexed) ?_ ?_
    EnvironmentState.Indexed.initial EnvironmentState.Indexed.initial.consistent inputs
  · intro state input next h _ hconsistent hstep
    exact h.applyInput (keepsIndexes_of_consistent h hconsistent hstep) hstep
  · intro state input next h _ hstep
    exact ⟨fun hconsistent => keepsIndexes_of_consistent h hconsistent hstep,
      fun hkeeps => (h.applyInput hkeeps hstep).consistent⟩

end Runs

/-- Two projects, and the second one moved to the directory of the first. -/
def movedProject : List StoreInput :=
  let upsert (id workspaceRoot : String) := StoreInput.shellEvent (.projectUpserted
    ⟨id, "Project", workspaceRoot, none, [], "2026-01-01", "2026-01-01"⟩)
  [upsert "p1" "/a", upsert "p2" "/b", upsert "p2" "/a"]

theorem not_throughout_consistent :
    letI := relativeClientRuntime
    letI := codePointCollation
    ¬Throughout (applyInput "local") EnvironmentState.Consistent initialEnvironmentState
      movedProject := by
  intro h
  have hnodup := (((h.2 _ rfl).2 _ rfl).2 _ rfl).projects.nodup
  exact absurd hnodup (by decide)

end GT3Code.Web
