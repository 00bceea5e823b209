import GT3Code.Base.Record
import GT3Code.Orchestration.Projector

/-! # Web store

The client keeps an environment's threads normalised: a shell, a session and a
turn state for each thread, and its lists as slices. The detail stream reads a
thread together, replaces it and writes its parts back.

Two objects are one when they hold the same values: a write the source skips for
identity leaves what it would have written.
-/

namespace GT3Code.Web

open GT3Code.Base GT3Code.Contracts GT3Code.Orchestration

abbrev EnvironmentId := String
abbrev ProviderDriverKind := String

def MAX_THREAD_MESSAGES : Nat := 2000
def MAX_THREAD_CHECKPOINTS : Nat := 500
def MAX_THREAD_PROPOSED_PLANS : Nat := 200

/-- `Number.MAX_SAFE_INTEGER`. -/
def MAX_SAFE_INTEGER : Nat := 9007199254740991

/-! ## Entities -/

structure Project where
  id : ProjectId
  environmentId : EnvironmentId
  name : String
  cwd : String
  defaultModelSelection : Option ModelSelection
  createdAt : Option IsoDateTime
  updatedAt : Option IsoDateTime
  scripts : List ProjectScript

structure ChatImageAttachment extends Contracts.ChatAttachment where
  previewUrl : Option String
  deriving DecidableEq

structure ChatMessage where
  id : MessageId
  role : OrchestrationMessageRole
  text : Text16
  attachments : Option (List ChatImageAttachment)
  turnId : Option TurnId
  createdAt : IsoDateTime
  completedAt : Option IsoDateTime
  streaming : Bool

abbrev ProposedPlan := OrchestrationProposedPlan

/-- `status` is an open string in the source, but only a checkpoint's status is
ever written there. -/
structure TurnDiffSummary where
  turnId : TurnId
  completedAt : IsoDateTime
  status : Option OrchestrationCheckpointStatus
  files : List OrchestrationCheckpointFile
  checkpointRef : Option CheckpointRef
  assistantMessageId : Option MessageId
  checkpointTurnCount : Option Nat

inductive ThreadSessionStatus where
  | disconnected
  | connecting
  | ready
  | running
  | error
  | closed
  deriving DecidableEq

structure ThreadSession where
  provider : ProviderDriverKind
  providerInstanceId : Option ProviderInstanceId
  status : ThreadSessionStatus
  activeTurnId : Option TurnId
  createdAt : IsoDateTime
  updatedAt : IsoDateTime
  lastError : Option String
  orchestrationStatus : OrchestrationSessionStatus

structure ThreadShell where
  id : ThreadId
  environmentId : EnvironmentId
  codexThreadId : Option String
  projectId : ProjectId
  title : String
  modelSelection : ModelSelection
  runtimeMode : RuntimeMode
  interactionMode : ProviderInteractionMode
  error : Option String
  createdAt : IsoDateTime
  archivedAt : Option IsoDateTime
  updatedAt : Option IsoDateTime
  branch : Option String
  worktreePath : Option String
  customMetadata : Option CustomMetadata

structure ThreadTurnState where
  latestTurn : Option OrchestrationLatestTurn
  pendingSourceProposedPlan : Option SourceProposedPlanReference
  deriving DecidableEq

structure SidebarThreadSummary where
  id : ThreadId
  environmentId : EnvironmentId
  projectId : ProjectId
  title : String
  interactionMode : ProviderInteractionMode
  session : Option ThreadSession
  createdAt : IsoDateTime
  archivedAt : Option IsoDateTime
  updatedAt : Option IsoDateTime
  latestTurn : Option OrchestrationLatestTurn
  branch : Option String
  worktreePath : Option String
  latestUserMessageAt : Option IsoDateTime
  hasPendingApprovals : Bool
  hasPendingUserInput : Bool
  hasActionableProposedPlan : Bool
  customMetadata : Option CustomMetadata

structure Thread extends ThreadShell where
  session : Option ThreadSession
  latestTurn : Option OrchestrationLatestTurn
  pendingSourceProposedPlan : Option SourceProposedPlanReference
  messages : List ChatMessage
  proposedPlans : List ProposedPlan
  turnDiffSummaries : List TurnDiffSummary
  activities : List OrchestrationThreadActivity

structure EnvironmentState where
  projectIds : List ProjectId
  projectById : Record ProjectId Project
  threadIds : List ThreadId
  threadIdsByProjectId : Record ProjectId (List ThreadId)
  threadShellById : Record ThreadId ThreadShell
  threadSessionById : Record ThreadId (Option ThreadSession)
  threadTurnStateById : Record ThreadId ThreadTurnState
  messageIdsByThreadId : Record ThreadId (List MessageId)
  messageByThreadId : Record ThreadId (Record MessageId ChatMessage)
  activityIdsByThreadId : Record ThreadId (List EventId)
  activityByThreadId : Record ThreadId (Record EventId OrchestrationThreadActivity)
  proposedPlanIdsByThreadId : Record ThreadId (List OrchestrationProposedPlanId)
  proposedPlanByThreadId : Record ThreadId (Record OrchestrationProposedPlanId ProposedPlan)
  turnDiffIdsByThreadId : Record ThreadId (List TurnId)
  turnDiffSummaryByThreadId : Record ThreadId (Record TurnId TurnDiffSummary)
  sidebarThreadSummaryById : Record ThreadId SidebarThreadSummary
  bootstrapComplete : Bool

def initialEnvironmentState : EnvironmentState where
  projectIds := []
  projectById := .empty _ _
  threadIds := []
  threadIdsByProjectId := .empty _ _
  threadShellById := .empty _ _
  threadSessionById := .empty _ _
  threadTurnStateById := .empty _ _
  messageIdsByThreadId := .empty _ _
  messageByThreadId := .empty _ _
  activityIdsByThreadId := .empty _ _
  activityByThreadId := .empty _ _
  proposedPlanIdsByThreadId := .empty _ _
  proposedPlanByThreadId := .empty _ _
  turnDiffIdsByThreadId := .empty _ _
  turnDiffSummaryByThreadId := .empty _ _
  sidebarThreadSummaryById := .empty _ _
  bootstrapComplete := false

/-- `providerInstanceId` is not compared. -/
def threadSessionsEqual : Option ThreadSession → Option ThreadSession → Bool
  | none, none => true
  | some left, some right =>
    decide (left.provider = right.provider) && decide (left.status = right.status) &&
      decide (left.orchestrationStatus = right.orchestrationStatus) &&
      decide (left.activeTurnId = right.activeTurnId) &&
      decide (left.createdAt = right.createdAt) && decide (left.updatedAt = right.updatedAt) &&
      decide (left.lastError = right.lastError)
  | _, _ => false

def customMetadataEqual (left right : Option CustomMetadata) : Bool :=
  let leftEntries := (left.map KeyedTable.rows).getD []
  let rightEntries := (right.map KeyedTable.rows).getD []
  decide (leftEntries.length = rightEntries.length) &&
    leftEntries.all (fun entry => decide (right.bind (CustomMetadata.get entry.1) = some entry.2))

def threadShellsEqual (left : Option ThreadShell) (right : ThreadShell) : Bool :=
  left.any (fun left =>
    decide (left.id = right.id) && decide (left.environmentId = right.environmentId) &&
      decide (left.codexThreadId = right.codexThreadId) &&
      decide (left.projectId = right.projectId) && decide (left.title = right.title) &&
      decide (left.modelSelection = right.modelSelection) &&
      decide (left.runtimeMode = right.runtimeMode) &&
      decide (left.interactionMode = right.interactionMode) &&
      decide (left.error = right.error) && decide (left.createdAt = right.createdAt) &&
      decide (left.archivedAt = right.archivedAt) && decide (left.updatedAt = right.updatedAt) &&
      decide (left.branch = right.branch) && decide (left.worktreePath = right.worktreePath) &&
      customMetadataEqual left.customMetadata right.customMetadata)

/-- `latestTurnsEqual` and `sourceProposedPlansEqual` compare every field. -/
def threadTurnStatesEqual (left : Option ThreadTurnState) (right : ThreadTurnState) : Bool :=
  decide (left = some right)

theorem id_of_threadShellsEqual {left : Option ThreadShell} {right : ThreadShell}
    (h : threadShellsEqual left right = true) : left.map ThreadShell.id = some right.id := by
  cases left with
  | none => cases h
  | some left =>
    simp only [threadShellsEqual, Option.any_some, Bool.and_eq_true, decide_eq_true_eq] at h
    simpa using h.1.1.1.1.1.1.1.1.1.1.1.1.1.1

def selectSlice {ι α : Type} (idsByThreadId : Record ThreadId (List ι))
    (byThreadId : Record ThreadId (Record ι α)) (threadId : ThreadId) : List α :=
  Record.collect ((idsByThreadId threadId).getD [])
    ((byThreadId threadId).getD (Record.empty ι α))

def selectThreadMessages (state : EnvironmentState) (threadId : ThreadId) : List ChatMessage :=
  selectSlice state.messageIdsByThreadId state.messageByThreadId threadId

def selectThreadActivities (state : EnvironmentState) (threadId : ThreadId) :
    List OrchestrationThreadActivity :=
  selectSlice state.activityIdsByThreadId state.activityByThreadId threadId

def selectThreadProposedPlans (state : EnvironmentState) (threadId : ThreadId) :
    List ProposedPlan :=
  selectSlice state.proposedPlanIdsByThreadId state.proposedPlanByThreadId threadId

def selectThreadTurnDiffSummaries (state : EnvironmentState) (threadId : ThreadId) :
    List TurnDiffSummary :=
  selectSlice state.turnDiffIdsByThreadId state.turnDiffSummaryByThreadId threadId

def getThreadFromEnvironmentState (state : EnvironmentState) (threadId : ThreadId) :
    Option Thread :=
  (state.threadShellById threadId).map (fun shell =>
    let turnState := state.threadTurnStateById threadId
    { shell with
      session := (state.threadSessionById threadId).join
      latestTurn := turnState.bind ThreadTurnState.latestTurn
      pendingSourceProposedPlan := turnState.bind ThreadTurnState.pendingSourceProposedPlan
      messages := selectThreadMessages state threadId
      proposedPlans := selectThreadProposedPlans state threadId
      turnDiffSummaries := selectThreadTurnDiffSummaries state threadId
      activities := selectThreadActivities state threadId })

def appendId (ids : List String) (id : String) : List String :=
  if id ∈ ids then ids else ids ++ [id]

def removeId (ids : List String) (id : String) : List String :=
  ids.filter (fun value => value ≠ id)

/-- `threadIdsByProjectId` without a thread, a project left without threads removed. -/
def removeThreadId (threadIdsByProjectId : Record ProjectId (List ThreadId))
    (projectId : ProjectId) (threadId : ThreadId) : Record ProjectId (List ThreadId) :=
  let nextIds := removeId ((threadIdsByProjectId projectId).getD []) threadId
  if nextIds.length = 0 then threadIdsByProjectId.remove projectId
  else threadIdsByProjectId.set projectId nextIds

def ensureThreadRegistered (state : EnvironmentState) (threadId : ThreadId)
    (nextProjectId : ProjectId) (previousProjectId : Option ProjectId) : EnvironmentState :=
  let withId := { state with threadIds := appendId state.threadIds threadId }
  if previousProjectId = some nextProjectId then withId
  else
    -- An empty project id counts as none.
    let threadIdsByProjectId :=
      match previousProjectId with
      | none | some "" => state.threadIdsByProjectId
      | some projectId => removeThreadId state.threadIdsByProjectId projectId threadId
    let projectThreadIds := (threadIdsByProjectId nextProjectId).getD []
    { withId with
      threadIdsByProjectId :=
        threadIdsByProjectId.set nextProjectId (appendId projectThreadIds threadId) }

def toThreadTurnState (thread : Thread) : ThreadTurnState where
  latestTurn := thread.latestTurn
  pendingSourceProposedPlan := thread.pendingSourceProposedPlan

/-- `{ ...record, [key]: value }` unless `equal` holds already. -/
def setUnless {α : Type} (equal : Bool) (key : ThreadId) (value : α) (record : Record ThreadId α) :
    Record ThreadId α :=
  if equal then record else record.set key value

/-- What the detail stream writes of a thread. A list keeps its slice where it is the
one read before; the slice built anew is the same. -/
def writeThreadState (state : EnvironmentState) (nextThread : Thread)
    (previousThread : Option Thread) : EnvironmentState :=
  let nextTurnState := toThreadTurnState nextThread
  let registered := ensureThreadRegistered state nextThread.id nextThread.projectId
    (previousThread.map (fun previous => previous.projectId))
  { registered with
    threadShellById :=
      setUnless (threadShellsEqual (state.threadShellById nextThread.id) nextThread.toThreadShell)
        nextThread.id nextThread.toThreadShell state.threadShellById
    threadSessionById :=
      setUnless (threadSessionsEqual (previousThread.bind Thread.session) nextThread.session)
        nextThread.id nextThread.session state.threadSessionById
    threadTurnStateById :=
      setUnless (threadTurnStatesEqual (state.threadTurnStateById nextThread.id) nextTurnState)
        nextThread.id nextTurnState state.threadTurnStateById
    messageIdsByThreadId :=
      state.messageIdsByThreadId.set nextThread.id (nextThread.messages.map ChatMessage.id)
    messageByThreadId :=
      state.messageByThreadId.set nextThread.id
        (Record.fromItems ChatMessage.id nextThread.messages)
    activityIdsByThreadId :=
      state.activityIdsByThreadId.set nextThread.id
        (nextThread.activities.map OrchestrationThreadActivity.id)
    activityByThreadId :=
      state.activityByThreadId.set nextThread.id
        (Record.fromItems OrchestrationThreadActivity.id nextThread.activities)
    proposedPlanIdsByThreadId :=
      state.proposedPlanIdsByThreadId.set nextThread.id
        (nextThread.proposedPlans.map OrchestrationProposedPlan.id)
    proposedPlanByThreadId :=
      state.proposedPlanByThreadId.set nextThread.id
        (Record.fromItems OrchestrationProposedPlan.id nextThread.proposedPlans)
    turnDiffIdsByThreadId :=
      state.turnDiffIdsByThreadId.set nextThread.id
        (nextThread.turnDiffSummaries.map TurnDiffSummary.turnId)
    turnDiffSummaryByThreadId :=
      state.turnDiffSummaryByThreadId.set nextThread.id
        (Record.fromItems TurnDiffSummary.turnId nextThread.turnDiffSummaries) }

/-- Replace the thread where it is known. The updater gives nothing where it returns
the thread it was given. -/
def updateThreadState (state : EnvironmentState) (threadId : ThreadId)
    (updater : Thread → Option Thread) : EnvironmentState :=
  match getThreadFromEnvironmentState state threadId with
  | none => state
  | some currentThread =>
    match updater currentThread with
    | none => state
    | some nextThread => writeThreadState state nextThread (some currentThread)

theorem turnDiffSummaries_writeThreadState {state : EnvironmentState} {nextThread : Thread}
    {previousThread : Option Thread}
    (hnodup : (nextThread.turnDiffSummaries.map TurnDiffSummary.turnId).Nodup) :
    selectThreadTurnDiffSummaries (writeThreadState state nextThread previousThread)
      nextThread.id = nextThread.turnDiffSummaries := by
  simp only [selectThreadTurnDiffSummaries, selectSlice, writeThreadState, Record.set_self,
    Option.getD_some]
  exact Record.collect_fromItems hnodup

theorem shellId_writeThreadState (state : EnvironmentState) (nextThread : Thread)
    (previousThread : Option Thread) :
    ((writeThreadState state nextThread previousThread).threadShellById nextThread.id).map
      ThreadShell.id = some nextThread.id := by
  simp only [writeThreadState, setUnless]
  split
  · rename_i hequal
    exact id_of_threadShellsEqual hequal
  · simp

/-! ## Turn diffs and reverts -/

def mapTurnDiffSummary (checkpoint : OrchestrationCheckpointSummary) : TurnDiffSummary where
  turnId := checkpoint.turnId
  completedAt := checkpoint.completedAt
  status := some checkpoint.status
  assistantMessageId := checkpoint.assistantMessageId
  checkpointTurnCount := some checkpoint.checkpointTurnCount
  checkpointRef := some checkpoint.checkpointRef
  files := checkpoint.files

def buildLatestTurn (previous : Option OrchestrationLatestTurn) (turnId : TurnId)
    (state : OrchestrationLatestTurnState) (requestedAt : IsoDateTime)
    (startedAt completedAt : Option IsoDateTime) (assistantMessageId : Option MessageId)
    (sourceProposedPlan : Option SourceProposedPlanReference) : OrchestrationLatestTurn where
  turnId := turnId
  state := state
  requestedAt := requestedAt
  startedAt := startedAt
  completedAt := completedAt
  assistantMessageId := assistantMessageId
  sourceProposedPlan :=
    if previous.map OrchestrationLatestTurn.turnId = some turnId then
      previous.bind OrchestrationLatestTurn.sourceProposedPlan
    else sourceProposedPlan

/-- `left.checkpointTurnCount ?? Number.MAX_SAFE_INTEGER`. -/
def turnCountKey (checkpointTurnCount : Option Nat) : Nat :=
  checkpointTurnCount.getD MAX_SAFE_INTEGER

def sortTurnDiffSummaries (turnDiffSummaries : List TurnDiffSummary) : List TurnDiffSummary :=
  sliceLast MAX_THREAD_CHECKPOINTS
    (toSorted (byKey (fun summary => turnCountKey summary.checkpointTurnCount)) turnDiffSummaries)

/-- `existing && existing.status !== "missing" && checkpoint.status === "missing"`. -/
def keepsExisting (turnDiffSummaries : List TurnDiffSummary) (checkpoint : TurnDiffSummary) :
    Bool :=
  match turnDiffSummaries.find? (fun entry => entry.turnId = checkpoint.turnId) with
  | none => false
  | some existing =>
    decide (existing.status ≠ some .missing) && decide (checkpoint.status = some .missing)

def checkpointOfPayload (payload : ThreadTurnDiffCompletedPayload) : TurnDiffSummary :=
  mapTurnDiffSummary {
    turnId := payload.turnId
    checkpointTurnCount := payload.checkpointTurnCount
    checkpointRef := payload.checkpointRef
    status := payload.status
    files := payload.files
    assistantMessageId := payload.assistantMessageId
    completedAt := payload.completedAt }

/-- The updater of `thread.turn-diff-completed`. -/
def completeThreadTurnDiff (payload : ThreadTurnDiffCompletedPayload) (occurredAt : IsoDateTime)
    (thread : Thread) : Option Thread :=
  let checkpoint := checkpointOfPayload payload
  if keepsExisting thread.turnDiffSummaries checkpoint then none
  else
    some { thread with
      turnDiffSummaries := sortTurnDiffSummaries
        (thread.turnDiffSummaries.filter (fun entry => entry.turnId ≠ checkpoint.turnId) ++
          [checkpoint])
      latestTurn :=
        if thread.latestTurn.all (fun latestTurn => latestTurn.turnId = payload.turnId) then
          some (buildLatestTurn thread.latestTurn payload.turnId
            (checkpointStatusToLatestTurnState payload.status)
            ((thread.latestTurn.map OrchestrationLatestTurn.requestedAt).getD payload.completedAt)
            (some ((thread.latestTurn.bind OrchestrationLatestTurn.startedAt).getD
              payload.completedAt))
            (some payload.completedAt) payload.assistantMessageId thread.pendingSourceProposedPlan)
        else thread.latestTurn
      updatedAt := some occurredAt }

variable {payload : ThreadTurnDiffCompletedPayload} {occurredAt : IsoDateTime}
  {thread next : Thread}

theorem id_of_completeThreadTurnDiff
    (h : completeThreadTurnDiff payload occurredAt thread = some next) : next.id = thread.id := by
  by_cases hkeeps : keepsExisting thread.turnDiffSummaries (checkpointOfPayload payload) = true
  · rw [completeThreadTurnDiff, if_pos hkeeps] at h
    cases h
  · rw [completeThreadTurnDiff, if_neg hkeeps] at h
    rw [← Option.some.inj h]

theorem turnDiffSummaries_completeThreadTurnDiff
    (h : completeThreadTurnDiff payload occurredAt thread = some next) :
    next.turnDiffSummaries = sortTurnDiffSummaries
      (thread.turnDiffSummaries.filter
        (fun entry => entry.turnId ≠ (checkpointOfPayload payload).turnId) ++
          [checkpointOfPayload payload]) := by
  by_cases hkeeps : keepsExisting thread.turnDiffSummaries (checkpointOfPayload payload) = true
  · rw [completeThreadTurnDiff, if_pos hkeeps] at h
    cases h
  · rw [completeThreadTurnDiff, if_neg hkeeps] at h
    rw [← Option.some.inj h]

def chatMessageFields : MessageFields ChatMessage where
  id := ChatMessage.id
  role := ChatMessage.role
  turnId := ChatMessage.turnId
  createdAt := ChatMessage.createdAt

def retainThreadProposedPlansAfterRevert (proposedPlans : List ProposedPlan)
    (retainedTurnIds : List TurnId) : List ProposedPlan :=
  proposedPlans.filter (fun proposedPlan => inTurnsOrNone retainedTurnIds proposedPlan.turnId)

def retainThreadActivitiesAfterRevert (activities : List OrchestrationThreadActivity)
    (retainedTurnIds : List TurnId) : List OrchestrationThreadActivity :=
  activities.filter (fun activity => inTurnsOrNone retainedTurnIds activity.turnId)

/-- `entry.checkpointTurnCount !== undefined && entry.checkpointTurnCount <= turnCount`. -/
def isRetainedSummary (turnCount : Nat) (entry : TurnDiffSummary) : Bool :=
  entry.checkpointTurnCount.any (fun count => decide (count ≤ turnCount))

def latestTurnOfSummary (latestCheckpoint : TurnDiffSummary) : OrchestrationLatestTurn where
  turnId := latestCheckpoint.turnId
  state := checkpointStatusToLatestTurnState (latestCheckpoint.status.getD .ready)
  requestedAt := latestCheckpoint.completedAt
  startedAt := some latestCheckpoint.completedAt
  completedAt := some latestCheckpoint.completedAt
  assistantMessageId := latestCheckpoint.assistantMessageId
  sourceProposedPlan := none

section Revert

variable [Collation]

def retainThreadMessagesAfterRevert (messages : List ChatMessage) (retainedTurnIds : List TurnId)
    (turnCount : Nat) : List ChatMessage :=
  retainMessagesAfterRevert chatMessageFields [] messages retainedTurnIds turnCount

/-- The updater of `thread.reverted`. -/
def revertThread (payload : ThreadRevertedPayload) (occurredAt : IsoDateTime) (thread : Thread) :
    Thread :=
  let turnDiffSummaries := sortTurnDiffSummaries
    (thread.turnDiffSummaries.filter (isRetainedSummary payload.turnCount))
  let retainedTurnIds := turnDiffSummaries.map TurnDiffSummary.turnId
  { thread with
    turnDiffSummaries := turnDiffSummaries
    messages := sliceLast MAX_THREAD_MESSAGES
      (retainThreadMessagesAfterRevert thread.messages retainedTurnIds payload.turnCount)
    proposedPlans := sliceLast MAX_THREAD_PROPOSED_PLANS
      (retainThreadProposedPlansAfterRevert thread.proposedPlans retainedTurnIds)
    activities := retainThreadActivitiesAfterRevert thread.activities retainedTurnIds
    pendingSourceProposedPlan := none
    latestTurn := turnDiffSummaries.getLast?.map latestTurnOfSummary
    updatedAt := some occurredAt }

theorem turnDiffSummaries_revertThread (payload : ThreadRevertedPayload)
    (occurredAt : IsoDateTime) (thread : Thread) :
    (revertThread payload occurredAt thread).turnDiffSummaries = sortTurnDiffSummaries
      (thread.turnDiffSummaries.filter (isRetainedSummary payload.turnCount)) := by
  simp only [revertThread]

theorem latestTurn_revertThread (payload : ThreadRevertedPayload) (occurredAt : IsoDateTime)
    (thread : Thread) :
    (revertThread payload occurredAt thread).latestTurn =
      (sortTurnDiffSummaries (thread.turnDiffSummaries.filter
        (isRetainedSummary payload.turnCount))).getLast?.map latestTurnOfSummary := by
  simp only [revertThread]

end Revert

end GT3Code.Web
