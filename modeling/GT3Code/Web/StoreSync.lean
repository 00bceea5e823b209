import GT3Code.Web.EventReducer

/-! # Snapshots and the shell stream in the web store

What a shell snapshot, an event of the shell stream and the detail of a thread make of the
store of one environment.
-/

namespace GT3Code.Web

open GT3Code.Base GT3Code.Contracts GT3Code.Orchestration

inductive OrchestrationShellStreamEvent where
  | projectUpserted (project : OrchestrationProjectShell)
  | projectRemoved (projectId : ProjectId)
  | threadUpserted (thread : OrchestrationThreadShell)
  | threadRemoved (threadId : ThreadId)

/-- `latestTurnsEqual` compares every field. -/
def sidebarThreadSummariesEqual (left : Option SidebarThreadSummary)
    (right : SidebarThreadSummary) : Bool :=
  left.any (fun left =>
    decide (left.id = right.id) && decide (left.projectId = right.projectId) &&
      decide (left.title = right.title) &&
      decide (left.interactionMode = right.interactionMode) &&
      threadSessionsEqual left.session right.session &&
      decide (left.createdAt = right.createdAt) && decide (left.archivedAt = right.archivedAt) &&
      decide (left.updatedAt = right.updatedAt) && decide (left.latestTurn = right.latestTurn) &&
      decide (left.branch = right.branch) && decide (left.worktreePath = right.worktreePath) &&
      decide (left.latestUserMessageAt = right.latestUserMessageAt) &&
      decide (left.hasPendingApprovals = right.hasPendingApprovals) &&
      decide (left.hasPendingUserInput = right.hasPendingUserInput) &&
      decide (left.hasActionableProposedPlan = right.hasActionableProposedPlan) &&
      customMetadataEqual left.customMetadata right.customMetadata)

/-- `mapProject` on a project of the shell stream. -/
def mapProjectShell (project : OrchestrationProjectShell) (environmentId : EnvironmentId) :
    Project :=
  mapProject { project with deletedAt := none } environmentId

/-- The result of `mapThreadShell`. -/
structure MappedThreadShell where
  shell : ThreadShell
  session : Option ThreadSession
  turnState : ThreadTurnState
  summary : SidebarThreadSummary

section Mapping

variable [ClientRuntime]

def mapThread (thread : OrchestrationThread) (environmentId : EnvironmentId) : Thread where
  id := thread.id
  environmentId := environmentId
  codexThreadId := none
  projectId := thread.projectId
  title := thread.title
  modelSelection := normalizeModelSelection thread.modelSelection
  runtimeMode := thread.runtimeMode
  interactionMode := thread.interactionMode
  session := thread.session.map mapSession
  messages := thread.messages.map (mapMessage environmentId)
  proposedPlans := thread.proposedPlans
  error := sanitizeThreadErrorMessage (thread.session.bind OrchestrationSession.lastError)
  createdAt := thread.createdAt
  archivedAt := thread.archivedAt
  updatedAt := some thread.updatedAt
  latestTurn := thread.latestTurn
  pendingSourceProposedPlan :=
    thread.latestTurn.bind OrchestrationLatestTurn.sourceProposedPlan
  branch := thread.branch
  worktreePath := thread.worktreePath
  turnDiffSummaries := thread.checkpoints.map mapTurnDiffSummary
  activities := thread.activities
  customMetadata := some thread.customMetadata

def mapThreadShell (thread : OrchestrationThreadShell) (environmentId : EnvironmentId) :
    MappedThreadShell where
  shell := { thread with
    environmentId := environmentId
    codexThreadId := none
    modelSelection := normalizeModelSelection thread.modelSelection
    error := sanitizeThreadErrorMessage (thread.session.bind OrchestrationSession.lastError)
    updatedAt := some thread.updatedAt
    customMetadata := some thread.customMetadata }
  session := thread.session.map mapSession
  turnState :=
    ⟨thread.latestTurn, thread.latestTurn.bind OrchestrationLatestTurn.sourceProposedPlan⟩
  summary := { thread with
    environmentId := environmentId
    session := thread.session.map mapSession
    updatedAt := some thread.updatedAt
    customMetadata := some thread.customMetadata }

end Mapping

def writeThreadShellState (state : EnvironmentState) (nextThread : MappedThreadShell) :
    EnvironmentState :=
  let id := nextThread.shell.id
  let previousShell := state.threadShellById id
  { ensureThreadRegistered state id nextThread.shell.projectId
      (previousShell.map ThreadShell.projectId) with
    threadShellById := setUnless (threadShellsEqual previousShell nextThread.shell) id
      nextThread.shell state.threadShellById
    threadSessionById := setUnless (threadSessionsEqual (state.threadSessionById id).join
      nextThread.session) id nextThread.session state.threadSessionById
    threadTurnStateById := setUnless (threadTurnStatesEqual (state.threadTurnStateById id)
      nextThread.turnState) id nextThread.turnState state.threadTurnStateById
    sidebarThreadSummaryById := setUnless (sidebarThreadSummariesEqual
      (state.sidebarThreadSummaryById id) nextThread.summary) id nextThread.summary
      state.sidebarThreadSummaryById }

def retainThreadScopedRecord {α : Type} (record : Record ThreadId α)
    (nextThreadIds : List ThreadId) : Record ThreadId α :=
  fun threadId => if threadId ∈ nextThreadIds then record threadId else none

/-- The listed project of this id or this directory that `project-upserted` replaces. -/
def existingProjectId (state : EnvironmentState) (projectId : ProjectId)
    (workspaceRoot : String) : Option ProjectId :=
  state.projectIds.find? (fun listed =>
    listed = projectId ∨ (state.projectById listed).map Project.cwd = some workspaceRoot)

/-- The case `project-upserted`. -/
def upsertProject (nextProject : Project) (state : EnvironmentState) : EnvironmentState :=
  match existingProjectId state nextProject.id nextProject.cwd with
  | some existing =>
    if existing ≠ nextProject.id then
      { state with
        projectById := (state.projectById.remove existing).set nextProject.id nextProject
        projectIds := state.projectIds.map (fun projectId =>
          if projectId = existing then nextProject.id else projectId) }
    else { state with projectById := state.projectById.set nextProject.id nextProject }
  | none =>
    { state with
      projectById := state.projectById.set nextProject.id nextProject
      projectIds := appendId state.projectIds nextProject.id }

/-- `project.created` does in the one stream what `project-upserted` does in the other. -/
theorem createProject_eq (payload : ProjectCreatedPayload) (environmentId : EnvironmentId)
    (state : EnvironmentState) :
    createProject payload environmentId state =
      upsertProject (mapProject (projectFromCreated payload) environmentId) state := rfl

/-- The case `project-removed`. -/
def removeProject (projectId : ProjectId) (state : EnvironmentState) : EnvironmentState :=
  match state.projectById projectId with
  | none => state
  | some _ =>
    { state with
      projectById := state.projectById.remove projectId
      projectIds := removeId state.projectIds projectId }

section Streams

variable [ClientRuntime]

def clearedForSnapshot (state : EnvironmentState) (snapshot : OrchestrationShellSnapshot)
    (environmentId : EnvironmentId) : EnvironmentState :=
  let nextProjects := snapshot.projects.map (fun project => mapProjectShell project environmentId)
  let nextThreadIds := snapshot.threads.map OrchestrationThreadShell.id
  { projectIds := nextProjects.map Project.id
    projectById := Record.fromItems Project.id nextProjects
    threadIds := []
    threadIdsByProjectId := .empty _ _
    threadShellById := .empty _ _
    threadSessionById := .empty _ _
    threadTurnStateById := .empty _ _
    sidebarThreadSummaryById := .empty _ _
    messageIdsByThreadId := retainThreadScopedRecord state.messageIdsByThreadId nextThreadIds
    messageByThreadId := retainThreadScopedRecord state.messageByThreadId nextThreadIds
    activityIdsByThreadId := retainThreadScopedRecord state.activityIdsByThreadId nextThreadIds
    activityByThreadId := retainThreadScopedRecord state.activityByThreadId nextThreadIds
    proposedPlanIdsByThreadId :=
      retainThreadScopedRecord state.proposedPlanIdsByThreadId nextThreadIds
    proposedPlanByThreadId := retainThreadScopedRecord state.proposedPlanByThreadId nextThreadIds
    turnDiffIdsByThreadId := retainThreadScopedRecord state.turnDiffIdsByThreadId nextThreadIds
    turnDiffSummaryByThreadId :=
      retainThreadScopedRecord state.turnDiffSummaryByThreadId nextThreadIds
    bootstrapComplete := true }

def syncEnvironmentShellSnapshot (state : EnvironmentState)
    (snapshot : OrchestrationShellSnapshot) (environmentId : EnvironmentId) : EnvironmentState :=
  snapshot.threads.foldl
    (fun nextState thread => writeThreadShellState nextState (mapThreadShell thread environmentId))
    (clearedForSnapshot state snapshot environmentId)

def syncServerThreadDetail (state : EnvironmentState) (thread : OrchestrationThread)
    (environmentId : EnvironmentId) : EnvironmentState :=
  writeThreadState state (mapThread thread environmentId)
    (getThreadFromEnvironmentState state thread.id)

def applyEnvironmentShellEvent (state : EnvironmentState) (event : OrchestrationShellStreamEvent)
    (environmentId : EnvironmentId) : EnvironmentState :=
  match event with
  | .projectUpserted project => upsertProject (mapProjectShell project environmentId) state
  | .projectRemoved projectId => removeProject projectId state
  | .threadUpserted thread => writeThreadShellState state (mapThreadShell thread environmentId)
  | .threadRemoved threadId => removeThreadState state threadId

end Streams

end GT3Code.Web
