import GT3Code.Web.ThreadUpdates

/-! # Events in the web store

The reducer of the web store: what each orchestration event makes of the store of one
environment. An instance id is a provider's name where it is one of the four the model
tables list.
-/

namespace GT3Code.Web

open GT3Code.Base GT3Code.Contracts GT3Code.Orchestration

def MAX_THREAD_ACTIVITIES : Nat := 500

def CODEX_DRIVER_KIND : ProviderDriverKind := "codex"
def CLAUDE_DRIVER_KIND : ProviderDriverKind := "claudeAgent"
def CURSOR_DRIVER_KIND : ProviderDriverKind := "cursor"
def OPENCODE_DRIVER_KIND : ProviderDriverKind := "opencode"

def DEFAULT_MODEL : String := "gpt-5.4"

def DEFAULT_MODEL_BY_PROVIDER : List (ProviderDriverKind × String) :=
  [(CODEX_DRIVER_KIND, DEFAULT_MODEL), (CLAUDE_DRIVER_KIND, "claude-sonnet-4-6"),
    (CURSOR_DRIVER_KIND, "auto"), (OPENCODE_DRIVER_KIND, "openai/gpt-5")]

def MODEL_SLUG_ALIASES_BY_PROVIDER : List (ProviderDriverKind × List (String × String)) :=
  [(CODEX_DRIVER_KIND,
      [("gpt-5-codex", "gpt-5.4"), ("5.4", "gpt-5.4"), ("5.3", "gpt-5.3-codex"),
        ("gpt-5.3", "gpt-5.3-codex"), ("5.3-spark", "gpt-5.3-codex-spark"),
        ("gpt-5.3-spark", "gpt-5.3-codex-spark")]),
    (CLAUDE_DRIVER_KIND,
      [("opus", "claude-opus-4-7"), ("opus-4.7", "claude-opus-4-7"),
        ("claude-opus-4.7", "claude-opus-4-7"), ("opus-4.6", "claude-opus-4-6"),
        ("claude-opus-4.6", "claude-opus-4-6"), ("claude-opus-4-6-20251117", "claude-opus-4-6"),
        ("sonnet", "claude-sonnet-4-6"), ("sonnet-4.6", "claude-sonnet-4-6"),
        ("claude-sonnet-4.6", "claude-sonnet-4-6"),
        ("claude-sonnet-4-6-20251117", "claude-sonnet-4-6"), ("haiku", "claude-haiku-4-5"),
        ("haiku-4.5", "claude-haiku-4-5"), ("claude-haiku-4.5", "claude-haiku-4-5"),
        ("claude-haiku-4-5-20251001", "claude-haiku-4-5")]),
    (CURSOR_DRIVER_KIND,
      [("composer", "composer-2"), ("composer-1.5", "composer-1.5"),
        ("composer-1", "composer-1.5"), ("opus-4.6-thinking", "claude-opus-4-6"),
        ("opus-4.6", "claude-opus-4-6"), ("sonnet-4.6-thinking", "claude-sonnet-4-6"),
        ("sonnet-4.6", "claude-sonnet-4-6"), ("opus-4.5-thinking", "claude-opus-4-5"),
        ("opus-4.5", "claude-opus-4-5")]),
    (OPENCODE_DRIVER_KIND, [])]

def normalizeModelSlug (model : String) (provider : ProviderDriverKind) : Option String :=
  let trimmed := Gc.trim model
  if trimmed = "" then none
  else
    some (((MODEL_SLUG_ALIASES_BY_PROVIDER.lookup provider).bind (List.lookup trimmed)).getD
      trimmed)

def resolveModelSlugForProvider (provider : ProviderDriverKind) (model : String) : String :=
  (normalizeModelSlug model provider).getD
    ((DEFAULT_MODEL_BY_PROVIDER.lookup provider).getD DEFAULT_MODEL)

def normalizeModelSelection (selection : ModelSelection) : ModelSelection :=
  if isProviderDriverKind selection.instanceId then
    { selection with model := resolveModelSlugForProvider selection.instanceId selection.model }
  else selection

def mapProject (project : OrchestrationProject) (environmentId : EnvironmentId) : Project where
  id := project.id
  environmentId := environmentId
  name := project.title
  cwd := project.workspaceRoot
  defaultModelSelection := project.defaultModelSelection.map normalizeModelSelection
  createdAt := some project.createdAt
  updatedAt := some project.updatedAt
  scripts := project.scripts

/-- A project of the same id or the same directory is replaced, under the new id. -/
def createProject (payload : ProjectCreatedPayload) (environmentId : EnvironmentId)
    (state : EnvironmentState) : EnvironmentState :=
  let nextProject := mapProject (projectFromCreated payload) environmentId
  match state.projectIds.find? (fun projectId =>
      projectId = payload.projectId ∨
        (state.projectById projectId).map Project.cwd = some payload.workspaceRoot) with
  | some existingProjectId =>
    if existingProjectId ≠ nextProject.id then
      { state with
        projectById := (state.projectById.remove existingProjectId).set nextProject.id
          nextProject
        projectIds := state.projectIds.map (fun projectId =>
          if projectId = existingProjectId then nextProject.id else projectId) }
    else { state with projectById := state.projectById.set nextProject.id nextProject }
  | none =>
    { state with
      projectById := state.projectById.set nextProject.id nextProject
      projectIds := appendId state.projectIds nextProject.id }

def updateProjectMeta (payload : ProjectMetaUpdatedPayload) (state : EnvironmentState) :
    EnvironmentState :=
  match state.projectById payload.projectId with
  | none => state
  | some project =>
    { state with
      projectById := state.projectById.set payload.projectId
        { project with
          name := payload.title.getD project.name
          cwd := payload.workspaceRoot.getD project.cwd
          defaultModelSelection :=
            match payload.defaultModelSelection with
            | some selection => selection.map normalizeModelSelection
            | none => project.defaultModelSelection
          scripts := payload.scripts.getD project.scripts
          updatedAt := some payload.updatedAt } }

def deleteProject (payload : ProjectDeletedPayload) (state : EnvironmentState) :
    EnvironmentState :=
  match state.projectById payload.projectId with
  | none => state
  | some _ =>
    { state with
      projectById := state.projectById.remove payload.projectId
      projectIds := removeId state.projectIds payload.projectId }

/-! ## Threads -/

/-- The thread `mapThread` gives for a thread just created. -/
def threadFromCreated (payload : ThreadCreatedPayload) (environmentId : EnvironmentId) :
    Thread where
  id := payload.threadId
  environmentId := environmentId
  codexThreadId := none
  projectId := payload.projectId
  title := payload.title
  modelSelection := normalizeModelSelection payload.modelSelection
  runtimeMode := payload.runtimeMode
  interactionMode := payload.interactionMode
  error := none
  createdAt := payload.createdAt
  archivedAt := none
  updatedAt := some payload.updatedAt
  branch := payload.branch
  worktreePath := payload.worktreePath
  customMetadata := none
  session := none
  latestTurn := none
  pendingSourceProposedPlan := none
  messages := []
  proposedPlans := []
  turnDiffSummaries := []
  activities := []

def removeThreadState (state : EnvironmentState) (threadId : ThreadId) : EnvironmentState :=
  match state.threadShellById threadId with
  | none => state
  | some shell =>
    { state with
      threadIds := removeId state.threadIds threadId
      threadIdsByProjectId := removeThreadId state.threadIdsByProjectId shell.projectId threadId
      threadShellById := state.threadShellById.remove threadId
      threadSessionById := state.threadSessionById.remove threadId
      threadTurnStateById := state.threadTurnStateById.remove threadId
      messageIdsByThreadId := state.messageIdsByThreadId.remove threadId
      messageByThreadId := state.messageByThreadId.remove threadId
      activityIdsByThreadId := state.activityIdsByThreadId.remove threadId
      activityByThreadId := state.activityByThreadId.remove threadId
      proposedPlanIdsByThreadId := state.proposedPlanIdsByThreadId.remove threadId
      proposedPlanByThreadId := state.proposedPlanByThreadId.remove threadId
      turnDiffIdsByThreadId := state.turnDiffIdsByThreadId.remove threadId
      turnDiffSummaryByThreadId := state.turnDiffSummaryByThreadId.remove threadId
      sidebarThreadSummaryById := state.sidebarThreadSummaryById.remove threadId }

/-- The updater of `thread.archived`. -/
def archiveThread (payload : ThreadArchivedPayload) (thread : Thread) : Thread :=
  { thread with
    archivedAt := some payload.archivedAt
    updatedAt := some payload.updatedAt }

/-- The updater of `thread.unarchived`. -/
def unarchiveThread (payload : ThreadUnarchivedPayload) (thread : Thread) : Thread :=
  { thread with
    archivedAt := none
    updatedAt := some payload.updatedAt }

/-- The updater of `thread.meta-updated`. -/
def updateThreadMeta (payload : ThreadMetaUpdatedPayload) (thread : Thread) : Thread :=
  { thread with
    title := payload.title.getD thread.title
    modelSelection :=
      (payload.modelSelection.map normalizeModelSelection).getD thread.modelSelection
    branch := payload.branch.getD thread.branch
    worktreePath := payload.worktreePath.getD thread.worktreePath
    customMetadata := payload.customMetadata.orElse (fun _ => thread.customMetadata)
    updatedAt := some payload.updatedAt }

/-- The updater of `thread.runtime-mode-set`. -/
def setThreadRuntimeMode (payload : ThreadRuntimeModeSetPayload) (thread : Thread) : Thread :=
  { thread with
    runtimeMode := payload.runtimeMode
    updatedAt := some payload.updatedAt }

/-- The updater of `thread.interaction-mode-set`. -/
def setThreadInteractionMode (payload : ThreadInteractionModeSetPayload) (thread : Thread) :
    Thread :=
  { thread with
    interactionMode := payload.interactionMode
    updatedAt := some payload.updatedAt }

/-- The updater of `thread.turn-start-requested`. -/
def requestTurnStart (payload : ThreadTurnStartRequestedPayload) (occurredAt : IsoDateTime)
    (thread : Thread) : Thread :=
  { thread with
    modelSelection :=
      (payload.modelSelection.map normalizeModelSelection).getD thread.modelSelection
    runtimeMode := payload.runtimeMode
    interactionMode := payload.interactionMode
    pendingSourceProposedPlan := payload.sourceProposedPlan
    updatedAt := some occurredAt }

/-- The updater of `thread.turn-interrupt-requested` for turn `turnId`, which leaves a
thread alone whose latest turn is another. -/
def interruptTurn (payload : ThreadTurnInterruptRequestedPayload) (turnId : TurnId)
    (occurredAt : IsoDateTime) (thread : Thread) : Option Thread :=
  match thread.latestTurn with
  | none => none
  | some latestTurn =>
    if latestTurn.turnId ≠ turnId then none
    else
      some { thread with
        latestTurn := some (buildLatestTurn (some latestTurn) turnId .interrupted
          latestTurn.requestedAt
          (some (latestTurn.startedAt.getD payload.createdAt))
          (some (latestTurn.completedAt.getD payload.createdAt))
          latestTurn.assistantMessageId none)
        updatedAt := some occurredAt }

/-- The updater of `thread.session-stop-requested`. -/
def stopSession (payload : ThreadSessionStopRequestedPayload) (occurredAt : IsoDateTime)
    (thread : Thread) : Option Thread :=
  thread.session.map (fun session =>
    { thread with
      session := some { session with
        status := .closed
        orchestrationStatus := .stopped
        activeTurnId := none
        updatedAt := payload.createdAt }
      updatedAt := some occurredAt })

section Sorted

variable [Collation]

/-- The updater of `thread.proposed-plan-upserted`. -/
def upsertThreadProposedPlan (payload : ThreadProposedPlanUpsertedPayload)
    (occurredAt : IsoDateTime) (thread : Thread) : Thread :=
  let proposedPlan := payload.proposedPlan
  { thread with
    proposedPlans := sliceLast MAX_THREAD_PROPOSED_PLANS (toSorted compareProposedPlans
      (thread.proposedPlans.filter (fun entry => entry.id ≠ proposedPlan.id) ++ [proposedPlan]))
    updatedAt := some occurredAt }

/-- The updater of `thread.activity-appended`. -/
def appendThreadActivity (payload : ThreadActivityAppendedPayload) (occurredAt : IsoDateTime)
    (thread : Thread) : Thread :=
  { thread with
    activities := sliceLast MAX_THREAD_ACTIVITIES (toSorted compareThreadActivities
      (thread.activities.filter (fun activity => activity.id ≠ payload.activity.id) ++
        [payload.activity]))
    updatedAt := some occurredAt }

end Sorted

section Reducer

variable [ClientRuntime] [Collation]

/-- The thread and the updater of an event that updates one thread. -/
def updaterOfEvent (event : OrchestrationEvent) : Option (ThreadId × (Thread → Option Thread)) :=
  match event.payload with
  | .threadArchived payload =>
    some (payload.threadId, fun thread => some (archiveThread payload thread))
  | .threadUnarchived payload =>
    some (payload.threadId, fun thread => some (unarchiveThread payload thread))
  | .threadMetaUpdated payload =>
    some (payload.threadId, fun thread => some (updateThreadMeta payload thread))
  | .threadRuntimeModeSet payload =>
    some (payload.threadId, fun thread => some (setThreadRuntimeMode payload thread))
  | .threadInteractionModeSet payload =>
    some (payload.threadId, fun thread => some (setThreadInteractionMode payload thread))
  | .threadTurnStartRequested payload =>
    some (payload.threadId, fun thread =>
      some (requestTurnStart payload event.occurredAt thread))
  | .threadTurnInterruptRequested payload =>
    payload.turnId.map (fun turnId =>
      (payload.threadId, interruptTurn payload turnId event.occurredAt))
  | .threadSessionStopRequested payload =>
    some (payload.threadId, stopSession payload event.occurredAt)
  | .threadProposedPlanUpserted payload =>
    some (payload.threadId, fun thread =>
      some (upsertThreadProposedPlan payload event.occurredAt thread))
  | .threadActivityAppended payload =>
    some (payload.threadId, fun thread =>
      some (appendThreadActivity payload event.occurredAt thread))
  | _ => threadUpdater event

def applyEnvironmentOrchestrationEvent (environmentId : EnvironmentId) (state : EnvironmentState)
    (event : OrchestrationEvent) : EnvironmentState :=
  match event.payload with
  | .projectCreated payload => createProject payload environmentId state
  | .projectMetaUpdated payload => updateProjectMeta payload state
  | .projectDeleted payload => deleteProject payload state
  | .threadCreated payload =>
    writeThreadState state (threadFromCreated payload environmentId)
      (getThreadFromEnvironmentState state payload.threadId)
  | .threadDeleted payload => removeThreadState state payload.threadId
  | _ =>
    match updaterOfEvent event with
    | some (threadId, updater) => updateThreadState state threadId updater
    | none => state

/-- `applyOrchestrationEvents` on the environment's state. -/
def applyOrchestrationEvents (environmentId : EnvironmentId) (state : EnvironmentState)
    (events : List OrchestrationEvent) : EnvironmentState :=
  events.foldl (applyEnvironmentOrchestrationEvent environmentId) state

end Reducer

end GT3Code.Web
