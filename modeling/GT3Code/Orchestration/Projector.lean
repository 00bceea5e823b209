import GT3Code.Contracts.Events
import GT3Code.Orchestration.Retention

/-! # In-memory projector

`projectEvent` folds one event into the command read model. A payload is a value
of its schema's type already, so the decoding the source wraps around each case
is the identity and no case fails.
-/

namespace GT3Code.Orchestration

open GT3Code.Base GT3Code.Contracts

def MAX_THREAD_MESSAGES : Nat := 2000
def MAX_THREAD_CHECKPOINTS : Nat := 500

def checkpointStatusToLatestTurnState :
    OrchestrationCheckpointStatus → OrchestrationLatestTurnState
  | .error => .error
  | .missing => .interrupted
  | .ready => .completed

/-- `{ ...thread, ...patch }` on the entries of one id. -/
def updateThread (threads : List OrchestrationThread) (threadId : ThreadId)
    (patch : OrchestrationThread → OrchestrationThread) : List OrchestrationThread :=
  threads.map (fun thread => if thread.id = threadId then patch thread else thread)

/-- Cases that look the thread up first return the model as it is without it. -/
def updateFound (threads : List OrchestrationThread) (threadId : ThreadId)
    (patch : OrchestrationThread → OrchestrationThread → OrchestrationThread) :
    List OrchestrationThread :=
  match threads.find? (fun entry => entry.id = threadId) with
  | none => threads
  | some thread => updateThread threads threadId (patch thread)

theorem find?_updateFound {threads : List OrchestrationThread} {threadId : ThreadId}
    {thread : OrchestrationThread}
    {patch : OrchestrationThread → OrchestrationThread → OrchestrationThread}
    (hfind : threads.find? (fun entry => entry.id = threadId) = some thread)
    (hid : ∀ entry, (patch thread entry).id = entry.id) :
    (updateFound threads threadId patch).find? (fun entry => entry.id = threadId) =
      some (patch thread thread) := by
  have hthread : thread.id = threadId := by simpa using List.find?_some hfind
  have hpred : ((fun entry : OrchestrationThread => decide (entry.id = threadId)) ∘
      fun entry => if entry.id = threadId then patch thread entry else entry) =
      fun entry => decide (entry.id = threadId) := by
    funext entry
    by_cases hentry : entry.id = threadId
    · simp [hentry, hid]
    · simp [hentry]
  unfold updateFound updateThread
  rw [hfind]
  simp only
  rw [List.find?_map, hpred, hfind, Option.map_some, if_pos hthread]

/-- Replace the entries of `entry`'s id in place, or append `entry`. -/
def upsertEntry {α : Type} (id : α → String) (entry : α) (entries : List α) : List α :=
  if (entries.find? (fun other => id other = id entry)).isSome then
    entries.map (fun other => if id other = id entry then entry else other)
  else
    entries ++ [entry]

def createEmptyReadModel (nowIso : IsoDateTime) : OrchestrationReadModel where
  snapshotSequence := 0
  projects := []
  threads := []
  updatedAt := nowIso

def messageFields : MessageFields OrchestrationMessage where
  id := OrchestrationMessage.id
  role := OrchestrationMessage.role
  turnId := OrchestrationMessage.turnId
  createdAt := OrchestrationMessage.createdAt

section Retain

variable [Collation]

def retainThreadMessagesAfterRevert (messages : List OrchestrationMessage)
    (retainedTurnIds : List TurnId) (turnCount : Nat) : List OrchestrationMessage :=
  retainMessagesAfterRevert messageFields [] messages retainedTurnIds turnCount

def retainThreadActivitiesAfterRevert (activities : List OrchestrationThreadActivity)
    (retainedTurnIds : List TurnId) : List OrchestrationThreadActivity :=
  activities.filter (fun activity => inTurnsOrNone retainedTurnIds activity.turnId)

def retainThreadProposedPlansAfterRevert (proposedPlans : List OrchestrationProposedPlan)
    (retainedTurnIds : List TurnId) : List OrchestrationProposedPlan :=
  proposedPlans.filter (fun proposedPlan => inTurnsOrNone retainedTurnIds proposedPlan.turnId)

def compareThreadActivities (left right : OrchestrationThreadActivity) : Int :=
  let byTime := orElse (Collation.localeCompare left.createdAt right.createdAt)
    (Collation.localeCompare left.id right.id)
  match left.sequence, right.sequence with
  | some l, some r => orElse ((l : Int) - (r : Int)) byTime
  | some _, none => 1
  | none, some _ => -1
  | none, none => byTime

def compareProposedPlans (left right : OrchestrationProposedPlan) : Int :=
  orElse (Collation.localeCompare left.createdAt right.createdAt)
    (Collation.localeCompare left.id right.id)

end Retain

/-! ## Patches -/

def projectFromCreated (payload : ProjectCreatedPayload) : OrchestrationProject where
  id := payload.projectId
  title := payload.title
  workspaceRoot := payload.workspaceRoot
  defaultModelSelection := payload.defaultModelSelection
  scripts := payload.scripts
  createdAt := payload.createdAt
  updatedAt := payload.updatedAt
  deletedAt := none

def patchProjectMeta (payload : ProjectMetaUpdatedPayload) (project : OrchestrationProject) :
    OrchestrationProject :=
  { project with
    title := payload.title.getD project.title
    workspaceRoot := payload.workspaceRoot.getD project.workspaceRoot
    defaultModelSelection := payload.defaultModelSelection.getD project.defaultModelSelection
    scripts := payload.scripts.getD project.scripts
    updatedAt := payload.updatedAt }

def threadFromCreated (payload : ThreadCreatedPayload) : OrchestrationThread where
  id := payload.threadId
  projectId := payload.projectId
  title := payload.title
  modelSelection := payload.modelSelection
  runtimeMode := payload.runtimeMode
  interactionMode := payload.interactionMode
  branch := payload.branch
  worktreePath := payload.worktreePath
  latestTurn := none
  createdAt := payload.createdAt
  updatedAt := payload.updatedAt
  archivedAt := none
  deletedAt := none
  messages := []
  proposedPlans := []
  activities := []
  checkpoints := []
  session := none
  customMetadata := payload.customMetadata.getD (KeyedTable.empty _)

/-- Metadata merges additively: incoming keys override, others stay. -/
def patchThreadMeta (payload : ThreadMetaUpdatedPayload) (existing : Option OrchestrationThread)
    (thread : OrchestrationThread) : OrchestrationThread :=
  { thread with
    title := payload.title.getD thread.title
    modelSelection := payload.modelSelection.getD thread.modelSelection
    branch := payload.branch.getD thread.branch
    worktreePath := payload.worktreePath.getD thread.worktreePath
    updatedAt := payload.updatedAt
    customMetadata :=
      match payload.customMetadata with
      | none => thread.customMetadata
      | some incoming =>
        CustomMetadata.merge
          ((existing.map OrchestrationThread.customMetadata).getD (KeyedTable.empty _)) incoming }

def messageFromSent (payload : ThreadMessageSentPayload) : OrchestrationMessage where
  id := payload.messageId
  role := payload.role
  text := payload.text
  attachments := payload.attachments
  turnId := payload.turnId
  streaming := payload.streaming
  createdAt := payload.createdAt
  updatedAt := payload.updatedAt

/-- A streaming message appends its text; a final one replaces it unless empty. -/
def mergeMessage (entry message : OrchestrationMessage) : OrchestrationMessage :=
  { entry with
    text :=
      if message.streaming then entry.text ++ message.text
      else if message.text.length > 0 then message.text
      else entry.text
    streaming := message.streaming
    updatedAt := message.updatedAt
    turnId := message.turnId
    attachments := message.attachments.orElse (fun _ => entry.attachments) }

def upsertMessage (message : OrchestrationMessage) (messages : List OrchestrationMessage) :
    List OrchestrationMessage :=
  if (messages.find? (fun entry => entry.id = message.id)).isSome then
    messages.map (fun entry => if entry.id = message.id then mergeMessage entry message else entry)
  else
    messages ++ [message]

def latestTurnOfSession (session : OrchestrationSession)
    (latestTurn : Option OrchestrationLatestTurn) : Option OrchestrationLatestTurn :=
  match session.status, session.activeTurnId with
  | .running, some activeTurnId =>
    let same := latestTurn.filter (fun turn => turn.turnId = activeTurnId)
    some {
      turnId := activeTurnId
      state := .running
      requestedAt := (same.map OrchestrationLatestTurn.requestedAt).getD session.updatedAt
      startedAt := some ((same.bind OrchestrationLatestTurn.startedAt).getD session.updatedAt)
      completedAt := none
      assistantMessageId := same.bind OrchestrationLatestTurn.assistantMessageId
      sourceProposedPlan := none }
  | _, _ => latestTurn

def checkpointFromPayload (payload : ThreadTurnDiffCompletedPayload) :
    OrchestrationCheckpointSummary where
  turnId := payload.turnId
  checkpointTurnCount := payload.checkpointTurnCount
  checkpointRef := payload.checkpointRef
  status := payload.status
  files := payload.files
  assistantMessageId := payload.assistantMessageId
  completedAt := payload.completedAt

/-- A placeholder of status `missing` does not overwrite a captured checkpoint. -/
def placeholderIgnored (checkpoints : List OrchestrationCheckpointSummary)
    (checkpoint : OrchestrationCheckpointSummary) : Bool :=
  match checkpoints.find? (fun entry => entry.turnId = checkpoint.turnId) with
  | some existing =>
    decide (existing.status ≠ .missing) && decide (checkpoint.status = .missing)
  | none => false

def sortCheckpoints (checkpoints : List OrchestrationCheckpointSummary) :
    List OrchestrationCheckpointSummary :=
  sliceLast MAX_THREAD_CHECKPOINTS
    (toSorted (byKey OrchestrationCheckpointSummary.checkpointTurnCount) checkpoints)

def upsertCheckpoint (checkpoint : OrchestrationCheckpointSummary)
    (checkpoints : List OrchestrationCheckpointSummary) : List OrchestrationCheckpointSummary :=
  sortCheckpoints
    (checkpoints.filter (fun entry => entry.turnId ≠ checkpoint.turnId) ++ [checkpoint])

def retainCheckpoints (turnCount : Nat) (checkpoints : List OrchestrationCheckpointSummary) :
    List OrchestrationCheckpointSummary :=
  sortCheckpoints (checkpoints.filter (fun entry => entry.checkpointTurnCount ≤ turnCount))

def latestTurnOfDiff (payload : ThreadTurnDiffCompletedPayload)
    (latestTurn : Option OrchestrationLatestTurn) : OrchestrationLatestTurn :=
  let same := latestTurn.filter (fun turn => turn.turnId = payload.turnId)
  { turnId := payload.turnId
    state := checkpointStatusToLatestTurnState payload.status
    requestedAt := (same.map OrchestrationLatestTurn.requestedAt).getD payload.completedAt
    startedAt := some ((same.bind OrchestrationLatestTurn.startedAt).getD payload.completedAt)
    completedAt := some payload.completedAt
    assistantMessageId := payload.assistantMessageId
    sourceProposedPlan := none }

def latestTurnOfCheckpoint (checkpoint : OrchestrationCheckpointSummary) :
    OrchestrationLatestTurn where
  turnId := checkpoint.turnId
  state := checkpointStatusToLatestTurnState checkpoint.status
  requestedAt := checkpoint.completedAt
  startedAt := some checkpoint.completedAt
  completedAt := some checkpoint.completedAt
  assistantMessageId := checkpoint.assistantMessageId
  sourceProposedPlan := none

section Patches

variable [Collation]

def upsertProposedPlan (proposedPlan : OrchestrationProposedPlan)
    (proposedPlans : List OrchestrationProposedPlan) : List OrchestrationProposedPlan :=
  sliceLast 200 (toSorted compareProposedPlans
    (proposedPlans.filter (fun entry => entry.id ≠ proposedPlan.id) ++ [proposedPlan]))

def upsertActivity (activity : OrchestrationThreadActivity)
    (activities : List OrchestrationThreadActivity) : List OrchestrationThreadActivity :=
  sliceLast 500 (toSorted compareThreadActivities
    (activities.filter (fun entry => entry.id ≠ activity.id) ++ [activity]))

/-- The fields `thread.reverted` replaces, from the thread as found. -/
def revertThread (turnCount : Nat) (found thread : OrchestrationThread) : OrchestrationThread :=
  let checkpoints := retainCheckpoints turnCount found.checkpoints
  let retainedTurnIds := checkpoints.map OrchestrationCheckpointSummary.turnId
  { thread with
    checkpoints := checkpoints
    messages := sliceLast MAX_THREAD_MESSAGES
      (retainThreadMessagesAfterRevert found.messages retainedTurnIds turnCount)
    proposedPlans := sliceLast 200
      (retainThreadProposedPlansAfterRevert found.proposedPlans retainedTurnIds)
    activities := retainThreadActivitiesAfterRevert found.activities retainedTurnIds
    latestTurn := checkpoints.getLast?.map latestTurnOfCheckpoint }

def projectThreads (threads : List OrchestrationThread) (event : OrchestrationEvent) :
    List OrchestrationThread :=
  match event.payload with
  | .threadCreated payload => upsertEntry OrchestrationThread.id (threadFromCreated payload) threads
  | .threadDeleted payload =>
    updateThread threads payload.threadId (fun thread =>
      { thread with deletedAt := some payload.deletedAt, updatedAt := payload.deletedAt })
  | .threadArchived payload =>
    updateThread threads payload.threadId (fun thread =>
      { thread with archivedAt := some payload.archivedAt, updatedAt := payload.updatedAt })
  | .threadUnarchived payload =>
    updateThread threads payload.threadId (fun thread =>
      { thread with archivedAt := none, updatedAt := payload.updatedAt })
  | .threadMetaUpdated payload =>
    updateThread threads payload.threadId
      (patchThreadMeta payload (threads.find? (fun entry => entry.id = payload.threadId)))
  | .threadRuntimeModeSet payload =>
    updateThread threads payload.threadId (fun thread =>
      { thread with runtimeMode := payload.runtimeMode, updatedAt := payload.updatedAt })
  | .threadInteractionModeSet payload =>
    updateThread threads payload.threadId (fun thread =>
      { thread with interactionMode := payload.interactionMode, updatedAt := payload.updatedAt })
  | .threadMessageSent payload =>
    updateFound threads payload.threadId (fun thread entry =>
      { entry with
        messages := sliceLast MAX_THREAD_MESSAGES
          (upsertMessage (messageFromSent payload) thread.messages)
        updatedAt := event.occurredAt })
  | .threadSessionSet payload =>
    updateFound threads payload.threadId (fun thread entry =>
      { entry with
        session := some payload.session
        latestTurn := latestTurnOfSession payload.session thread.latestTurn
        updatedAt := event.occurredAt })
  | .threadProposedPlanUpserted payload =>
    updateFound threads payload.threadId (fun thread entry =>
      { entry with
        proposedPlans := upsertProposedPlan payload.proposedPlan thread.proposedPlans
        updatedAt := event.occurredAt })
  | .threadTurnDiffCompleted payload =>
    updateFound threads payload.threadId (fun thread entry =>
      if placeholderIgnored thread.checkpoints (checkpointFromPayload payload) then entry
      else
        { entry with
          checkpoints := upsertCheckpoint (checkpointFromPayload payload) thread.checkpoints
          latestTurn := some (latestTurnOfDiff payload thread.latestTurn)
          updatedAt := event.occurredAt })
  | .threadReverted payload =>
    updateFound threads payload.threadId (fun thread entry =>
      { revertThread payload.turnCount thread entry with updatedAt := event.occurredAt })
  | .threadActivityAppended payload =>
    updateFound threads payload.threadId (fun thread entry =>
      { entry with
        activities := upsertActivity payload.activity thread.activities
        updatedAt := event.occurredAt })
  | _ => threads

end Patches

def projectProjects (projects : List OrchestrationProject) (event : OrchestrationEvent) :
    List OrchestrationProject :=
  match event.payload with
  | .projectCreated payload =>
    upsertEntry OrchestrationProject.id (projectFromCreated payload) projects
  | .projectMetaUpdated payload =>
    projects.map (fun project =>
      if project.id = payload.projectId then patchProjectMeta payload project else project)
  | .projectDeleted payload =>
    projects.map (fun project =>
      if project.id = payload.projectId then
        { project with deletedAt := some payload.deletedAt, updatedAt := payload.deletedAt }
      else project)
  | _ => projects

/-- The read model after `event`. No case touches both lists, so the one switch
of the source is its part on projects and its part on threads. -/
def projectEvent [Collation] (model : OrchestrationReadModel) (event : OrchestrationEvent) :
    OrchestrationReadModel where
  snapshotSequence := event.sequence
  projects := projectProjects model.projects event
  threads := projectThreads model.threads event
  updatedAt := event.occurredAt

@[simp] theorem projectEvent_snapshotSequence [Collation] (model : OrchestrationReadModel)
    (event : OrchestrationEvent) :
    (projectEvent model event).snapshotSequence = event.sequence := rfl

@[simp] theorem projectEvent_projects [Collation] (model : OrchestrationReadModel)
    (event : OrchestrationEvent) :
    (projectEvent model event).projects = projectProjects model.projects event := rfl

@[simp] theorem projectEvent_threads [Collation] (model : OrchestrationReadModel)
    (event : OrchestrationEvent) :
    (projectEvent model event).threads = projectThreads model.threads event := rfl

end GT3Code.Orchestration
