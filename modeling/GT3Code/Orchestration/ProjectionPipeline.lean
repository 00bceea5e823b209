import GT3Code.Orchestration.Retention
import GT3Code.Persistence.EventStore
import GT3Code.Persistence.ProjectionTables
import Mathlib.Data.List.Infix

/-! # Projection pipeline

Nine projectors fold events into the projection tables. Live projection runs all
of them on one event; bootstrap runs each of them over its backlog before it
starts the next. A projector's definition names the tables it reads.
-/

namespace GT3Code.Orchestration

open GT3Code.Base GT3Code.Contracts GT3Code.Persistence

/-- `payload.requestId` when it is a string. -/
def extractActivityRequestId (payload : Json) : Option ApprovalRequestId :=
  (payload.field? "requestId").bind Json.string?

/-- `value.includes(part)`. -/
def includes (value part : String) : Bool := decide (part.toList <:+: value.toList)

def isStalePendingApprovalFailureDetail : Option String → Bool
  | none => false
  | some detail =>
    includes detail "stale pending approval request" ||
      includes detail "unknown pending approval request" ||
      includes detail "unknown pending permission request"

section Derive

variable [Collation] [TextRuntime]

/-- `payload.detail` in lower case when it is a string. -/
def failureDetail (payload : Json) : Option String :=
  ((payload.field? "detail").bind Json.string?).map TextRuntime.toLowerCase

def openRequestsAfter (openRequestIds : List ApprovalRequestId)
    (activity : ProjectionThreadActivity) : List ApprovalRequestId :=
  match extractActivityRequestId activity.payload with
  | none => openRequestIds
  | some requestId =>
    if activity.kind = "user-input.requested" then
      if requestId ∈ openRequestIds then openRequestIds else openRequestIds ++ [requestId]
    else if activity.kind = "user-input.resolved" then
      openRequestIds.filter (fun other => other ≠ requestId)
    else if activity.kind = "provider.user-input.respond.failed" ∧
        ((failureDetail activity.payload).any (fun detail =>
          includes detail "stale pending user-input request" ||
            includes detail "unknown pending user-input request")) then
      openRequestIds.filter (fun other => other ≠ requestId)
    else openRequestIds

def derivePendingUserInputCountFromActivities (activities : List ProjectionThreadActivity) : Nat :=
  let ordered := toSorted (fun left right =>
    orElse (Collation.localeCompare left.createdAt right.createdAt)
      (Collation.localeCompare left.activityId right.activityId)) activities
  (ordered.foldl openRequestsAfter []).length

/-- The latest plan of the latest turn, or else the latest plan, is not implemented. -/
def deriveHasActionableProposedPlan (latestTurnId : Option TurnId)
    (proposedPlans : List ProjectionThreadProposedPlan) : Bool :=
  let sorted := toSorted (fun left right =>
    orElse (Collation.localeCompare left.updatedAt right.updatedAt)
      (Collation.localeCompare left.planId right.planId)) proposedPlans
  let latestForTurn := latestTurnId.bind (fun turnId =>
    (sorted.filter (fun plan => plan.turnId = some turnId)).getLast?)
  match latestForTurn with
  | some plan => plan.implementedAt.isNone
  | none => sorted.getLast?.any (fun plan => plan.implementedAt.isNone)

end Derive

/-- Turns whose checkpoint a revert to `turnCount` keeps. -/
def isKeptTurn (turnCount : Nat) (turn : ProjectionTurn) : Bool :=
  turn.turnId.isSome && turn.checkpointTurnCount.any (fun count => decide (count ≤ turnCount))

def keptTurns (turns : List ProjectionTurn) (turnCount : Nat) : List ProjectionTurn :=
  turns.filter (isKeptTurn turnCount)

def keptTurnIds (turns : List ProjectionTurn) (turnCount : Nat) : List TurnId :=
  (keptTurns turns turnCount).filterMap ProjectionTurn.turnId

def messageRowFields : MessageFields ProjectionThreadMessage where
  id := ProjectionThreadMessage.messageId
  role := ProjectionThreadMessage.role
  turnId := ProjectionThreadMessage.turnId
  createdAt := ProjectionThreadMessage.createdAt

def namedMessageIds (turns : List ProjectionTurn) (turnCount : Nat) : List MessageId :=
  (keptTurns turns turnCount).flatMap (fun turn =>
    turn.pendingMessageId.toList ++ turn.assistantMessageId.toList)

def retainProjectionMessagesAfterRevert [Collation] (messages : List ProjectionThreadMessage)
    (turns : List ProjectionTurn) (turnCount : Nat) : List ProjectionThreadMessage :=
  retainMessagesAfterRevert messageRowFields (namedMessageIds turns turnCount) messages
    (keptTurnIds turns turnCount) turnCount

def retainProjectionActivitiesAfterRevert (activities : List ProjectionThreadActivity)
    (turns : List ProjectionTurn) (turnCount : Nat) : List ProjectionThreadActivity :=
  activities.filter (fun activity => inTurnsOrNone (keptTurnIds turns turnCount) activity.turnId)

def retainProjectionProposedPlansAfterRevert (proposedPlans : List ProjectionThreadProposedPlan)
    (turns : List ProjectionTurn) (turnCount : Nat) : List ProjectionThreadProposedPlan :=
  proposedPlans.filter (fun plan => inTurnsOrNone (keptTurnIds turns turnCount) plan.turnId)

/-! ## Projectors -/

def applyProjectsProjection (projects : ProjectTable) (event : OrchestrationEvent) :
    ProjectTable :=
  match event.payload with
  | .projectCreated payload =>
    KeyedTable.put
      { projectId := payload.projectId
        title := payload.title
        workspaceRoot := payload.workspaceRoot
        defaultModelSelection := payload.defaultModelSelection
        scripts := payload.scripts
        createdAt := payload.createdAt
        updatedAt := payload.updatedAt
        deletedAt := none } projects
  | .projectMetaUpdated payload =>
    match KeyedTable.lookup payload.projectId projects with
    | none => projects
    | some existingRow =>
      KeyedTable.put
        { existingRow with
          title := payload.title.getD existingRow.title
          workspaceRoot := payload.workspaceRoot.getD existingRow.workspaceRoot
          defaultModelSelection :=
            payload.defaultModelSelection.getD existingRow.defaultModelSelection
          scripts := payload.scripts.getD existingRow.scripts
          updatedAt := payload.updatedAt } projects
  | .projectDeleted payload =>
    match KeyedTable.lookup payload.projectId projects with
    | none => projects
    | some existingRow =>
      KeyedTable.put
        { existingRow with
          deletedAt := some payload.deletedAt
          updatedAt := payload.deletedAt } projects
  | _ => projects

/-- The row a message event writes over the message's previous row. SQLite has its text in
UTF-8. -/
def messageRow (payload : ThreadMessageSentPayload) (previous : Option ProjectionThreadMessage) :
    ProjectionThreadMessage where
  messageId := payload.messageId
  threadId := payload.threadId
  turnId := payload.turnId
  role := payload.role
  text := stored <|
    match previous with
    | none => payload.text
    | some message =>
      if payload.streaming then units message.text ++ payload.text
      else if payload.text.length = 0 then units message.text
      else payload.text
  attachments :=
    payload.attachments.orElse (fun _ => previous.bind ProjectionThreadMessage.attachments)
  isStreaming := payload.streaming
  createdAt := (previous.map ProjectionThreadMessage.createdAt).getD payload.createdAt
  updatedAt := payload.updatedAt

def finalizedRow (row : ProjectionThreadMessage) : FinalizedThreadMessage where
  messageId := row.messageId
  threadId := row.threadId
  turnId := row.turnId
  role := row.role
  text := row.text
  attachments := row.attachments
  createdAt := row.createdAt
  updatedAt := row.updatedAt

section Messages

variable [Collation]

/-- Replace the thread's messages by those a revert keeps, unless it keeps all. -/
def revertMessages (turns : TurnTable) (messages : MessageTable)
    (payload : ThreadRevertedPayload) : MessageTable :=
  let existingRows := MessageTable.listByThreadId messages payload.threadId
  let existingTurns := TurnTable.listByThreadId turns payload.threadId
  let keptRows := retainProjectionMessagesAfterRevert existingRows existingTurns payload.turnCount
  if existingRows.length = 0 ∨ keptRows.length = existingRows.length then messages
  else
    keptRows.foldl MessageTable.upsert
      (MessageTable.deleteByThreadId messages payload.threadId)

def applyThreadMessagesProjection (turns : TurnTable) (messages : MessageTable)
    (event : OrchestrationEvent) : MessageTable :=
  match event.payload with
  | .threadMessageSent payload =>
    let previousMessage := KeyedTable.lookup payload.messageId messages
    MessageTable.upsert messages (messageRow payload previousMessage)
  | .threadReverted payload => revertMessages turns messages payload
  | _ => messages

/-- The cache of finished messages the message projector writes next to its table. -/
def applyFinalizedMessages (messages : MessageTable) (finalizedMessages : FinalizedMessageTable)
    (event : OrchestrationEvent) : FinalizedMessageTable :=
  match event.payload with
  | .threadMessageSent payload =>
    if payload.streaming then finalizedMessages
    else
      let previousMessage := KeyedTable.lookup payload.messageId messages
      KeyedTable.put (finalizedRow (messageRow payload previousMessage)) finalizedMessages
  | _ => finalizedMessages

end Messages

def revertProposedPlans (turns : TurnTable) (proposedPlans : ProposedPlanTable)
    (payload : ThreadRevertedPayload) : ProposedPlanTable :=
  let existingRows := ProposedPlanTable.listByThreadId proposedPlans payload.threadId
  let existingTurns := TurnTable.listByThreadId turns payload.threadId
  let keptRows :=
    retainProjectionProposedPlansAfterRevert existingRows existingTurns payload.turnCount
  if existingRows.length = 0 ∨ keptRows.length = existingRows.length then proposedPlans
  else
    KeyedTable.putAll keptRows (ProposedPlanTable.deleteByThreadId proposedPlans payload.threadId)

def applyThreadProposedPlansProjection (turns : TurnTable) (proposedPlans : ProposedPlanTable)
    (event : OrchestrationEvent) : ProposedPlanTable :=
  match event.payload with
  | .threadProposedPlanUpserted payload =>
    KeyedTable.put
      { planId := payload.proposedPlan.id
        threadId := payload.threadId
        turnId := payload.proposedPlan.turnId
        planMarkdown := payload.proposedPlan.planMarkdown
        implementedAt := payload.proposedPlan.implementedAt
        implementationThreadId := payload.proposedPlan.implementationThreadId
        createdAt := payload.proposedPlan.createdAt
        updatedAt := payload.proposedPlan.updatedAt } proposedPlans
  | .threadReverted payload => revertProposedPlans turns proposedPlans payload
  | _ => proposedPlans

def revertActivities (turns : TurnTable) (activities : ActivityTable)
    (payload : ThreadRevertedPayload) : ActivityTable :=
  let existingRows := ActivityTable.listByThreadId activities payload.threadId
  let existingTurns := TurnTable.listByThreadId turns payload.threadId
  let keptRows :=
    retainProjectionActivitiesAfterRevert existingRows existingTurns payload.turnCount
  if existingRows.length = 0 ∨ keptRows.length = existingRows.length then activities
  else KeyedTable.putAll keptRows (ActivityTable.deleteByThreadId activities payload.threadId)

def applyThreadActivitiesProjection (turns : TurnTable) (activities : ActivityTable)
    (event : OrchestrationEvent) : ActivityTable :=
  match event.payload with
  | .threadActivityAppended payload =>
    KeyedTable.put
      { activityId := payload.activity.id
        threadId := payload.threadId
        turnId := payload.activity.turnId
        tone := payload.activity.tone
        kind := payload.activity.kind
        summary := payload.activity.summary
        payload := payload.activity.payload
        sequence := payload.activity.sequence
        createdAt := payload.activity.createdAt } activities
  | .threadReverted payload => revertActivities turns activities payload
  | _ => activities

def applyThreadSessionsProjection (sessions : SessionTable) (event : OrchestrationEvent) :
    SessionTable :=
  match event.payload with
  | .threadSessionSet payload =>
    KeyedTable.put
      { threadId := payload.threadId
        status := payload.session.status
        providerName := payload.session.providerName
        providerInstanceId := payload.session.providerInstanceId
        runtimeMode := payload.session.runtimeMode
        activeTurnId := payload.session.activeTurnId
        lastError := payload.session.lastError
        updatedAt := payload.session.updatedAt } sessions
  | _ => sessions

def freshTurn (threadId : ThreadId) (turnId : TurnId) (state : ProjectionTurnState)
    (requestedAt : IsoDateTime) : ProjectionTurn where
  threadId := threadId
  turnId := some turnId
  pendingMessageId := none
  sourceProposedPlanThreadId := none
  sourceProposedPlanId := none
  assistantMessageId := none
  state := state
  requestedAt := requestedAt
  startedAt := some requestedAt
  completedAt := none
  checkpointTurnCount := none
  checkpointRef := none
  checkpointStatus := none
  checkpointFiles := []

/-- The row of a turn a session runs. `requestedAt` is never null in a row. -/
def runningTurn (turns : TurnTable) (threadId : ThreadId) (turnId : TurnId)
    (occurredAt : IsoDateTime) : ProjectionTurn :=
  let pendingTurnStart := TurnTable.getPendingTurnStartByThreadId turns threadId
  let requestedAt := (pendingTurnStart.map ProjectionTurn.requestedAt).getD occurredAt
  match TurnTable.getByTurnId turns threadId turnId with
  | some existingTurn =>
    { existingTurn with
      state :=
        if existingTurn.state = .completed ∨ existingTurn.state = .error then existingTurn.state
        else .running
      pendingMessageId := existingTurn.pendingMessageId.orElse
        (fun _ => pendingTurnStart.bind ProjectionTurn.pendingMessageId)
      sourceProposedPlanThreadId := existingTurn.sourceProposedPlanThreadId.orElse
        (fun _ => pendingTurnStart.bind ProjectionTurn.sourceProposedPlanThreadId)
      sourceProposedPlanId := existingTurn.sourceProposedPlanId.orElse
        (fun _ => pendingTurnStart.bind ProjectionTurn.sourceProposedPlanId)
      startedAt := some (existingTurn.startedAt.getD requestedAt) }
  | none =>
    { freshTurn threadId turnId .running requestedAt with
      pendingMessageId := pendingTurnStart.bind ProjectionTurn.pendingMessageId
      sourceProposedPlanThreadId :=
        pendingTurnStart.bind ProjectionTurn.sourceProposedPlanThreadId
      sourceProposedPlanId := pendingTurnStart.bind ProjectionTurn.sourceProposedPlanId }

def messageTurn (turns : TurnTable) (turnId : TurnId) (payload : ThreadMessageSentPayload) :
    ProjectionTurn :=
  match TurnTable.getByTurnId turns payload.threadId turnId with
  | some existingTurn =>
    { existingTurn with
      assistantMessageId := some payload.messageId
      state :=
        if payload.streaming then existingTurn.state
        else if existingTurn.state = .interrupted then .interrupted
        else if existingTurn.state = .error then .error
        else .completed
      completedAt :=
        if payload.streaming then existingTurn.completedAt
        else some (existingTurn.completedAt.getD payload.updatedAt)
      startedAt := some (existingTurn.startedAt.getD payload.createdAt) }
  | none =>
    { freshTurn payload.threadId turnId (if payload.streaming then .running else .completed)
        payload.createdAt with
      assistantMessageId := some payload.messageId
      completedAt := if payload.streaming then none else some payload.updatedAt }

def interruptedTurn (turns : TurnTable) (turnId : TurnId)
    (payload : ThreadTurnInterruptRequestedPayload) : ProjectionTurn :=
  match TurnTable.getByTurnId turns payload.threadId turnId with
  | some existingTurn =>
    { existingTurn with
      state := .interrupted
      completedAt := some (existingTurn.completedAt.getD payload.createdAt)
      startedAt := some (existingTurn.startedAt.getD payload.createdAt) }
  | none =>
    { freshTurn payload.threadId turnId .interrupted payload.createdAt with
      completedAt := some payload.createdAt }

/-- The row of a turn whose checkpoint `payload` reports. -/
def checkpointTurn (existingTurn : Option ProjectionTurn)
    (payload : ThreadTurnDiffCompletedPayload) : ProjectionTurn :=
  let base := existingTurn.getD
    (freshTurn payload.threadId payload.turnId .completed payload.completedAt)
  { base with
    assistantMessageId := payload.assistantMessageId
    state := if payload.status = .error then .error else .completed
    checkpointTurnCount := some payload.checkpointTurnCount
    checkpointRef := some payload.checkpointRef
    checkpointStatus := some payload.status
    checkpointFiles := payload.files
    startedAt := some (base.startedAt.getD payload.completedAt)
    completedAt := some payload.completedAt }

/-- The existing row is read before conflicting checkpoints are cleared. -/
def completeTurnDiff (turns : TurnTable) (payload : ThreadTurnDiffCompletedPayload) : TurnTable :=
  let existingTurn := TurnTable.getByTurnId turns payload.threadId payload.turnId
  TurnTable.upsertByTurnId
    (TurnTable.clearCheckpointTurnConflict turns payload.threadId payload.turnId
      payload.checkpointTurnCount)
    (checkpointTurn existingTurn payload)

def revertTurns (turns : TurnTable) (payload : ThreadRevertedPayload) : TurnTable :=
  KeyedTable.putAll
    (keptTurns (TurnTable.listByThreadId turns payload.threadId) payload.turnCount)
    (TurnTable.deleteByThreadId turns payload.threadId)

def applyThreadTurnsProjection (turns : TurnTable) (event : OrchestrationEvent) : TurnTable :=
  match event.payload with
  | .threadTurnStartRequested payload =>
    TurnTable.replacePendingTurnStart turns payload.threadId payload.messageId
      (payload.sourceProposedPlan.map SourceProposedPlanReference.threadId)
      (payload.sourceProposedPlan.map SourceProposedPlanReference.planId) payload.createdAt
  | .threadSessionSet payload =>
    match payload.session.activeTurnId with
    | some turnId =>
      if payload.session.status = .running then
        TurnTable.deletePendingTurnStartByThreadId
          (TurnTable.upsertByTurnId turns
            (runningTurn turns payload.threadId turnId event.occurredAt))
          payload.threadId
      else turns
    | none => turns
  | .threadMessageSent payload =>
    match payload.turnId with
    | some turnId =>
      if payload.role = .assistant then
        TurnTable.upsertByTurnId turns (messageTurn turns turnId payload)
      else turns
    | none => turns
  | .threadTurnInterruptRequested payload =>
    match payload.turnId with
    | some turnId => TurnTable.upsertByTurnId turns (interruptedTurn turns turnId payload)
    | none => turns
  | .threadTurnDiffCompleted payload => completeTurnDiff turns payload
  | .threadReverted payload => revertTurns turns payload
  | _ => turns

/-- `payload.decision` when it is one of the four decisions. -/
def resolvedDecision (payload : Json) : Option ProviderApprovalDecision :=
  match (payload.field? "decision").bind Json.string? with
  | some "accept" => some .accept
  | some "acceptForSession" => some .acceptForSession
  | some "decline" => some .decline
  | some "cancel" => some .cancel
  | _ => none

section Approvals

variable [TextRuntime]

/-- What an activity about request `requestId` makes of the approvals. -/
def applyApprovalActivity (pendingApprovals : PendingApprovalTable) (requestId : ApprovalRequestId)
    (payload : ThreadActivityAppendedPayload) : PendingApprovalTable :=
  let activity := payload.activity
  let existingRow := KeyedTable.lookup requestId pendingApprovals
  if activity.kind = "approval.resolved" then
    KeyedTable.put
      { requestId := requestId
        threadId := (existingRow.map ProjectionPendingApproval.threadId).getD payload.threadId
        turnId := (existingRow.map ProjectionPendingApproval.turnId).getD activity.turnId
        status := .resolved
        decision := resolvedDecision activity.payload
        createdAt := (existingRow.map ProjectionPendingApproval.createdAt).getD activity.createdAt
        resolvedAt := some activity.createdAt } pendingApprovals
  else if activity.kind = "provider.approval.respond.failed" then
    if isStalePendingApprovalFailureDetail (failureDetail activity.payload) then
      match existingRow with
      | none => pendingApprovals
      | some row =>
        if row.status = .resolved then pendingApprovals
        else
          KeyedTable.put
            { row with
              status := .resolved
              decision := none
              resolvedAt := some activity.createdAt } pendingApprovals
    else pendingApprovals
  else if activity.kind ≠ "approval.requested" then pendingApprovals
  else if existingRow.any (fun row => row.status = .resolved) then pendingApprovals
  else
    KeyedTable.put
      { requestId := requestId
        threadId := payload.threadId
        turnId := activity.turnId
        status := .pending
        decision := none
        createdAt := (existingRow.map ProjectionPendingApproval.createdAt).getD activity.createdAt
        resolvedAt := none } pendingApprovals

def applyPendingApprovalsProjection (pendingApprovals : PendingApprovalTable)
    (event : OrchestrationEvent) : PendingApprovalTable :=
  match event.payload with
  | .threadActivityAppended payload =>
    match (extractActivityRequestId payload.activity.payload).orElse
        (fun _ => event.metadata.requestId) with
    | none => pendingApprovals
    | some requestId => applyApprovalActivity pendingApprovals requestId payload
  | .threadApprovalResponseRequested payload =>
    let existingRow := KeyedTable.lookup payload.requestId pendingApprovals
    KeyedTable.put
      { requestId := payload.requestId
        threadId := (existingRow.map ProjectionPendingApproval.threadId).getD payload.threadId
        turnId := existingRow.bind ProjectionPendingApproval.turnId
        status := .resolved
        decision := some payload.decision
        createdAt :=
          (existingRow.map ProjectionPendingApproval.createdAt).getD payload.createdAt
        resolvedAt := some payload.createdAt } pendingApprovals
  | _ => pendingApprovals

end Approvals

section Threads

variable [Collation] [TextRuntime]

/-- The four columns derived from a thread's rows in other tables. -/
structure ThreadShellSummary where
  latestUserMessageAt : Option IsoDateTime
  pendingApprovalCount : Nat
  pendingUserInputCount : Nat
  hasActionableProposedPlan : Nat

def threadShellSummary (tables : ProjectionTables) (threadId : ThreadId)
    (latestTurnId : Option TurnId) : ThreadShellSummary :=
  let messages := MessageTable.listByThreadId tables.messages threadId
  let proposedPlans := ProposedPlanTable.listByThreadId tables.proposedPlans threadId
  let activities := ActivityTable.listByThreadId tables.activities threadId
  let pendingApprovals := PendingApprovalTable.listByThreadId tables.pendingApprovals threadId
  { latestUserMessageAt :=
      (toSorted compareUnits ((messages.filter (fun message => message.role = .user)).map
        ProjectionThreadMessage.createdAt)).getLast?
    pendingApprovalCount :=
      (pendingApprovals.filter (fun approval => approval.status = .pending)).length
    pendingUserInputCount := derivePendingUserInputCountFromActivities activities
    hasActionableProposedPlan :=
      if deriveHasActionableProposedPlan latestTurnId proposedPlans then 1 else 0 }

def withSummary (row : ProjectionThread) (summary : ThreadShellSummary) : ProjectionThread :=
  { row with
    latestUserMessageAt := summary.latestUserMessageAt
    pendingApprovalCount := summary.pendingApprovalCount
    pendingUserInputCount := summary.pendingUserInputCount
    hasActionableProposedPlan := summary.hasActionableProposedPlan }

def patchThreadRow (threads : ThreadTable) (threadId : ThreadId)
    (patch : ProjectionThread → ProjectionThread) : ThreadTable :=
  match KeyedTable.lookup threadId threads with
  | none => threads
  | some existingRow => KeyedTable.put (patch existingRow) threads

def patchThreadRowAndRefresh (tables : ProjectionTables) (threadId : ThreadId)
    (patch : ProjectionThread → ProjectionThread) : ThreadTable :=
  patchThreadRow tables.threads threadId (fun row =>
    let patched := patch row
    withSummary patched (threadShellSummary tables threadId patched.latestTurnId))

/-- The turn with the highest checkpoint up to `turnCount`, the first of them. -/
def latestTurnIdAfterRevert (turns : List ProjectionTurn) (turnCount : Nat) : Option TurnId :=
  (turns.foldl (fun (latest : Option (Nat × TurnId)) turn =>
    match turn.turnId, turn.checkpointTurnCount with
    | some turnId, some count =>
      if count ≤ turnCount ∧ latest.all (fun best => best.1 < count) then some (count, turnId)
      else latest
    | _, _ => latest) none).map Prod.snd

def createdThreadRow (payload : ThreadCreatedPayload) : ProjectionThread where
  threadId := payload.threadId
  projectId := payload.projectId
  title := payload.title
  modelSelection := payload.modelSelection
  runtimeMode := payload.runtimeMode
  interactionMode := payload.interactionMode
  branch := payload.branch
  worktreePath := payload.worktreePath
  latestTurnId := none
  createdAt := payload.createdAt
  updatedAt := payload.updatedAt
  archivedAt := none
  latestUserMessageAt := none
  pendingApprovalCount := 0
  pendingUserInputCount := 0
  hasActionableProposedPlan := 0
  deletedAt := none
  customMetadata := payload.customMetadata.getD (KeyedTable.empty _)

def patchThreadRowMeta (payload : ThreadMetaUpdatedPayload) (row : ProjectionThread) :
    ProjectionThread :=
  { row with
    title := payload.title.getD row.title
    modelSelection := payload.modelSelection.getD row.modelSelection
    branch := payload.branch.getD row.branch
    worktreePath := payload.worktreePath.getD row.worktreePath
    updatedAt := payload.updatedAt
    customMetadata :=
      (payload.customMetadata.map (CustomMetadata.merge row.customMetadata)).getD
        row.customMetadata }

def applyThreadsProjection (tables : ProjectionTables) (event : OrchestrationEvent) :
    ThreadTable :=
  match event.payload with
  | .threadCreated payload => KeyedTable.put (createdThreadRow payload) tables.threads
  | .threadArchived payload =>
    patchThreadRow tables.threads payload.threadId (fun row =>
      { row with archivedAt := some payload.archivedAt, updatedAt := payload.updatedAt })
  | .threadUnarchived payload =>
    patchThreadRow tables.threads payload.threadId (fun row =>
      { row with archivedAt := none, updatedAt := payload.updatedAt })
  | .threadMetaUpdated payload =>
    patchThreadRow tables.threads payload.threadId (patchThreadRowMeta payload)
  | .threadRuntimeModeSet payload =>
    patchThreadRow tables.threads payload.threadId (fun row =>
      { row with runtimeMode := payload.runtimeMode, updatedAt := payload.updatedAt })
  | .threadInteractionModeSet payload =>
    patchThreadRow tables.threads payload.threadId (fun row =>
      { row with interactionMode := payload.interactionMode, updatedAt := payload.updatedAt })
  | .threadDeleted payload =>
    patchThreadRow tables.threads payload.threadId (fun row =>
      { row with deletedAt := some payload.deletedAt, updatedAt := payload.deletedAt })
  | .threadMessageSent payload =>
    patchThreadRowAndRefresh tables payload.threadId (fun row =>
      { row with updatedAt := event.occurredAt })
  | .threadProposedPlanUpserted payload =>
    patchThreadRowAndRefresh tables payload.threadId (fun row =>
      { row with updatedAt := event.occurredAt })
  | .threadActivityAppended payload =>
    patchThreadRowAndRefresh tables payload.threadId (fun row =>
      { row with updatedAt := event.occurredAt })
  | .threadApprovalResponseRequested payload =>
    patchThreadRowAndRefresh tables payload.threadId (fun row =>
      { row with updatedAt := event.occurredAt })
  | .threadUserInputResponseRequested payload =>
    patchThreadRowAndRefresh tables payload.threadId (fun row =>
      { row with updatedAt := event.occurredAt })
  | .threadSessionSet payload =>
    patchThreadRowAndRefresh tables payload.threadId (fun row =>
      { row with latestTurnId := payload.session.activeTurnId, updatedAt := event.occurredAt })
  | .threadTurnDiffCompleted payload =>
    patchThreadRowAndRefresh tables payload.threadId (fun row =>
      { row with latestTurnId := some payload.turnId, updatedAt := event.occurredAt })
  | .threadReverted payload =>
    patchThreadRowAndRefresh tables payload.threadId (fun row =>
      { row with
        latestTurnId := latestTurnIdAfterRevert
          (TurnTable.listByThreadId tables.turns payload.threadId) payload.turnCount
        updatedAt := event.occurredAt })
  | _ => tables.threads

end Threads

/-! ## The pipeline -/

/-- `ORCHESTRATION_PROJECTOR_NAMES`. -/
inductive ProjectorName where
  | projects
  | threads
  | threadMessages
  | threadProposedPlans
  | threadActivities
  | threadSessions
  | threadTurns
  | checkpoints
  | pendingApprovals
  deriving DecidableEq

def projectors : List ProjectorName :=
  [.projects, .threadMessages, .threadProposedPlans, .threadActivities, .threadSessions,
    .threadTurns, .checkpoints, .pendingApprovals, .threads]

/-- A row of `projection_state`. -/
structure ProjectionStateRow where
  projector : ProjectorName
  lastAppliedSequence : Nat
  updatedAt : IsoDateTime

abbrev ProjectionStateTable := KeyedTable (fun row : ProjectionStateRow => some row.projector)

section Pipeline

variable [Collation] [TextRuntime]

/-- The tables after one projector's `apply`. -/
def ProjectorName.apply (projector : ProjectorName) (tables : ProjectionTables)
    (event : OrchestrationEvent) : ProjectionTables :=
  match projector with
  | .projects => { tables with projects := applyProjectsProjection tables.projects event }
  | .threads => { tables with threads := applyThreadsProjection tables event }
  | .threadMessages =>
    { tables with
      messages := applyThreadMessagesProjection tables.turns tables.messages event
      finalizedMessages :=
        applyFinalizedMessages tables.messages tables.finalizedMessages event }
  | .threadProposedPlans =>
    { tables with
      proposedPlans :=
        applyThreadProposedPlansProjection tables.turns tables.proposedPlans event }
  | .threadActivities =>
    { tables with
      activities := applyThreadActivitiesProjection tables.turns tables.activities event }
  | .threadSessions =>
    { tables with sessions := applyThreadSessionsProjection tables.sessions event }
  | .threadTurns => { tables with turns := applyThreadTurnsProjection tables.turns event }
  | .checkpoints => tables
  | .pendingApprovals =>
    { tables with
      pendingApprovals := applyPendingApprovalsProjection tables.pendingApprovals event }

/-- The database the pipeline writes. `applied` records, for statements about the
cursors, the events each projector has applied. -/
structure PipelineState where
  tables : ProjectionTables
  projectionState : ProjectionStateTable
  applied : ProjectorName → List OrchestrationEvent

def PipelineState.empty : PipelineState where
  tables := .empty
  projectionState := .empty _
  applied := fun _ => []

/-- The projector's `lastAppliedSequence`, zero without a row. -/
def PipelineState.cursor (state : PipelineState) (projector : ProjectorName) : Nat :=
  ((KeyedTable.lookup projector state.projectionState).map
    ProjectionStateRow.lastAppliedSequence).getD 0

def runProjectorForEvent (projector : ProjectorName) (state : PipelineState)
    (event : OrchestrationEvent) : PipelineState where
  tables := projector.apply state.tables event
  projectionState := KeyedTable.put
    { projector := projector
      lastAppliedSequence := event.sequence
      updatedAt := event.occurredAt } state.projectionState
  applied := fun other =>
    if other = projector then state.applied other ++ [event] else state.applied other

/-- One projector over what a default read of the log past its cursor returns. -/
def bootstrapProjector (log : EventLog) (state : PipelineState) (projector : ProjectorName) :
    PipelineState :=
  (log.readFromSequence (state.cursor projector) DEFAULT_READ_FROM_SEQUENCE_LIMIT).foldl
    (runProjectorForEvent projector) state

def ProjectionPipeline.bootstrap (log : EventLog) (state : PipelineState) : PipelineState :=
  projectors.foldl (bootstrapProjector log) state

def ProjectionPipeline.projectEvent (state : PipelineState) (event : OrchestrationEvent) : PipelineState :=
  projectors.foldl (fun state projector => runProjectorForEvent projector state event) state

structure Database where
  log : EventLog
  pipeline : PipelineState

def Database.persist (database : Database) (event : PlannedOrchestrationEvent) : Database where
  log := database.log.append event
  pipeline := ProjectionPipeline.projectEvent database.pipeline (database.log.nextRow event)

def Database.persistAll (database : Database) (events : List PlannedOrchestrationEvent) :
    Database :=
  events.foldl Database.persist database

end Pipeline

end GT3Code.Orchestration
