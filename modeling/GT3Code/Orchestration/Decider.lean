import GT3Code.Gc.FolderMetadata
import GT3Code.Orchestration.CommandInvariants
import GT3Code.Orchestration.Projector

/-! # Decider

`decideOrchestrationCommand` turns a command into planned events or refuses it.
A forced `project.delete` decides the deletion of every active thread and then
an unforced `project.delete`, folding what it planned as it goes, so the
recursion is one level deep: `decideWith` is the switch over its recursive call.
-/

namespace GT3Code.Orchestration

open GT3Code.Base GT3Code.Contracts GT3Code.Gc

/-- What `new Date().toISOString()` and `crypto.randomUUID()` return, call by call. -/
structure DecideEnv where
  nowIso : Nat → IsoDateTime
  randomUUID : Nat → EventId

/-- The environment after `count` calls of each. -/
def DecideEnv.drop (env : DecideEnv) (count : Nat) : DecideEnv where
  nowIso := fun call => env.nowIso (count + call)
  randomUUID := fun call => env.randomUUID (count + call)

abbrev Decided := Except OrchestrationCommandInvariantError (List PlannedOrchestrationEvent)

def withEventBase (eventId : EventId) (command : OrchestrationCommand)
    (aggregateKind : OrchestrationAggregateKind) (aggregateId : String) (occurredAt : IsoDateTime)
    (requestId : Option ApprovalRequestId) (payload : EventPayload) :
    PlannedOrchestrationEvent where
  eventId := eventId
  aggregateKind := aggregateKind
  aggregateId := aggregateId
  occurredAt := occurredAt
  commandId := some command.commandId
  causationEventId := none
  correlationId := some command.commandId
  metadata := ⟨requestId⟩
  payload := payload

@[simp] theorem withEventBase_payload (eventId : EventId) (command : OrchestrationCommand)
    (aggregateKind : OrchestrationAggregateKind) (aggregateId : String) (occurredAt : IsoDateTime)
    (requestId : Option ApprovalRequestId) (payload : EventPayload) :
    (withEventBase eventId command aggregateKind aggregateId occurredAt requestId payload).payload =
      payload := rfl

section Switch

variable [TextRuntime]

def planProject (env : DecideEnv) (command : OrchestrationCommand) (projectId : ProjectId)
    (occurredAt : IsoDateTime) (payload : EventPayload) : List PlannedOrchestrationEvent :=
  [withEventBase (env.randomUUID 0) command .project projectId occurredAt none payload]

def planThread (env : DecideEnv) (command : OrchestrationCommand) (threadId : ThreadId)
    (occurredAt : IsoDateTime) (requestId : Option ApprovalRequestId) (payload : EventPayload) :
    List PlannedOrchestrationEvent :=
  [withEventBase (env.randomUUID 0) command .thread threadId occurredAt requestId payload]

/-- Threads that keep a project from being deleted without `force`. -/
def activeThreads (readModel : OrchestrationReadModel) (projectId : ProjectId) :
    List OrchestrationThread :=
  (listThreadsByProjectId readModel projectId).filter (fun thread => thread.deletedAt = none)

/-- `thread.delete` of every active thread, then `project.delete` without `force`. -/
def forcedDeleteCommands (command : OrchestrationCommand) (projectId : ProjectId)
    (threads : List OrchestrationThread) : List OrchestrationCommand :=
  threads.map (fun thread => ⟨command.commandId, .threadDelete ⟨thread.id⟩⟩) ++
    [⟨command.commandId, .projectDelete ⟨projectId, none⟩⟩]

/-- The source plan a `thread.turn.start` refers to exists, in the same project. -/
def requireSourcePlan (readModel : OrchestrationReadModel) (command : OrchestrationCommand)
    (targetThread : OrchestrationThread) (source : SourceProposedPlanReference) :
    Except OrchestrationCommandInvariantError Unit := do
  let sourceThread ← requireThread readModel command source.threadId
  match sourceThread.proposedPlans.find? (fun entry => entry.id = source.planId) with
  | none =>
    .error (invariantError command.body.type
      ("Proposed plan '" ++ source.planId ++ "' does not exist on thread '" ++
        source.threadId ++ "'."))
  | some _ =>
    if sourceThread.projectId ≠ targetThread.projectId then
      .error (invariantError command.body.type
        ("Proposed plan '" ++ source.planId ++ "' belongs to thread '" ++ sourceThread.id ++
          "' in a different project."))
    else .ok ()

def requireSourceProposedPlan (readModel : OrchestrationReadModel)
    (command : OrchestrationCommand) (targetThread : OrchestrationThread) :
    Option SourceProposedPlanReference → Except OrchestrationCommandInvariantError Unit
  | none => .ok ()
  | some source => requireSourcePlan readModel command targetThread source

/-- One command, with `decideSequence` for the recursive call of a forced delete. -/
def decideWith (decideSequence : List OrchestrationCommand → Decided) (env : DecideEnv)
    (readModel : OrchestrationReadModel) (command : OrchestrationCommand) : Decided :=
  match command.body with
  | .projectCreate c => do
      requireProjectAbsent readModel command c.projectId
      requireProjectWorkspaceRootAbsent readModel command c.workspaceRoot
      .ok (planProject env command c.projectId c.createdAt (.projectCreated {
        projectId := c.projectId
        title := c.title
        workspaceRoot := c.workspaceRoot
        defaultModelSelection := c.defaultModelSelection.join
        scripts := []
        createdAt := c.createdAt
        updatedAt := c.createdAt }))
  | .projectMetaUpdate c => do
      let _ ← requireProject readModel command c.projectId
      .ok (planProject env command c.projectId (env.nowIso 0) (.projectMetaUpdated {
        projectId := c.projectId
        title := c.title
        workspaceRoot := c.workspaceRoot
        defaultModelSelection := c.defaultModelSelection
        scripts := c.scripts
        updatedAt := env.nowIso 0 }))
  | .projectDelete c => do
      let _ ← requireProject readModel command c.projectId
      let active := activeThreads readModel c.projectId
      if active.length > 0 ∧ c.force ≠ some true then
        .error (invariantError command.body.type
          ("Project '" ++ c.projectId ++
            "' is not empty and cannot be deleted without force=true."))
      else if active.length > 0 then
        decideSequence (forcedDeleteCommands command c.projectId active)
      else
        .ok (planProject env command c.projectId (env.nowIso 0) (.projectDeleted {
          projectId := c.projectId
          deletedAt := env.nowIso 0 }))
  | .threadCreate c => do
      let _ ← requireProject readModel command c.projectId
      requireThreadAbsent readModel command c.threadId
      .ok (planThread env command c.threadId c.createdAt none (.threadCreated {
        threadId := c.threadId
        projectId := c.projectId
        title := c.title
        modelSelection := c.modelSelection
        runtimeMode := c.runtimeMode
        interactionMode := c.interactionMode
        branch := c.branch
        worktreePath := c.worktreePath
        customMetadata := buildStampedGcMetadataUpdate none c.customMetadata
        createdAt := c.createdAt
        updatedAt := c.createdAt }))
  | .threadDelete c => do
      let _ ← requireThread readModel command c.threadId
      .ok (planThread env command c.threadId (env.nowIso 0) none (.threadDeleted {
        threadId := c.threadId
        deletedAt := env.nowIso 0 }))
  | .threadArchive c => do
      let _ ← requireThreadNotArchived readModel command c.threadId
      .ok (planThread env command c.threadId (env.nowIso 0) none (.threadArchived {
        threadId := c.threadId
        archivedAt := env.nowIso 0
        updatedAt := env.nowIso 0 }))
  | .threadUnarchive c => do
      let _ ← requireThreadArchived readModel command c.threadId
      .ok (planThread env command c.threadId (env.nowIso 0) none (.threadUnarchived {
        threadId := c.threadId
        updatedAt := env.nowIso 0 }))
  | .threadMetaUpdate c => do
      let thread ← requireThread readModel command c.threadId
      .ok (planThread env command c.threadId (env.nowIso 0) none (.threadMetaUpdated {
        threadId := c.threadId
        title := c.title
        modelSelection := c.modelSelection
        branch := c.branch
        worktreePath := c.worktreePath
        customMetadata := buildStampedGcMetadataUpdate (some thread.customMetadata) c.customMetadata
        updatedAt := env.nowIso 0 }))
  | .threadRuntimeModeSet c => do
      let _ ← requireThread readModel command c.threadId
      .ok (planThread env command c.threadId (env.nowIso 0) none (.threadRuntimeModeSet {
        threadId := c.threadId
        runtimeMode := c.runtimeMode
        updatedAt := env.nowIso 0 }))
  | .threadInteractionModeSet c => do
      let _ ← requireThread readModel command c.threadId
      .ok (planThread env command c.threadId (env.nowIso 0) none (.threadInteractionModeSet {
        threadId := c.threadId
        interactionMode := c.interactionMode
        updatedAt := env.nowIso 0 }))
  | .threadTurnStart c => do
      let targetThread ← requireThread readModel command c.threadId
      requireSourceProposedPlan readModel command targetThread c.sourceProposedPlan
      let userMessageEvent := withEventBase (env.randomUUID 0) command .thread c.threadId
        c.createdAt none (.threadMessageSent {
          threadId := c.threadId
          messageId := c.message.messageId
          role := .user
          text := c.message.text
          attachments := some c.message.attachments
          turnId := none
          streaming := false
          createdAt := c.createdAt
          updatedAt := c.createdAt })
      let turnStartRequestedEvent := withEventBase (env.randomUUID 1) command .thread c.threadId
        c.createdAt none (.threadTurnStartRequested {
          threadId := c.threadId
          messageId := c.message.messageId
          modelSelection := c.modelSelection
          titleSeed := c.titleSeed
          runtimeMode := targetThread.runtimeMode
          interactionMode := targetThread.interactionMode
          sourceProposedPlan := c.sourceProposedPlan
          createdAt := c.createdAt })
      .ok [userMessageEvent,
        { turnStartRequestedEvent with causationEventId := some userMessageEvent.eventId }]
  | .threadTurnInterrupt c => do
      let _ ← requireThread readModel command c.threadId
      .ok (planThread env command c.threadId c.createdAt none (.threadTurnInterruptRequested {
        threadId := c.threadId
        turnId := c.turnId
        createdAt := c.createdAt }))
  | .threadApprovalRespond c => do
      let _ ← requireThread readModel command c.threadId
      .ok (planThread env command c.threadId c.createdAt (some c.requestId)
        (.threadApprovalResponseRequested {
          threadId := c.threadId
          requestId := c.requestId
          decision := c.decision
          createdAt := c.createdAt }))
  | .threadUserInputRespond c => do
      let _ ← requireThread readModel command c.threadId
      .ok (planThread env command c.threadId c.createdAt (some c.requestId)
        (.threadUserInputResponseRequested {
          threadId := c.threadId
          requestId := c.requestId
          answers := c.answers
          createdAt := c.createdAt }))
  | .threadCheckpointRevert c => do
      let _ ← requireThread readModel command c.threadId
      .ok (planThread env command c.threadId c.createdAt none (.threadCheckpointRevertRequested {
        threadId := c.threadId
        turnCount := c.turnCount
        createdAt := c.createdAt }))
  | .threadSessionStop c => do
      let _ ← requireThread readModel command c.threadId
      .ok (planThread env command c.threadId c.createdAt none (.threadSessionStopRequested {
        threadId := c.threadId
        createdAt := c.createdAt }))
  | .threadSessionSet c => do
      let _ ← requireThread readModel command c.threadId
      .ok (planThread env command c.threadId c.createdAt none (.threadSessionSet {
        threadId := c.threadId
        session := c.session }))
  | .threadMessageAssistantDelta c => do
      let _ ← requireThread readModel command c.threadId
      .ok (planThread env command c.threadId c.createdAt none (.threadMessageSent {
        threadId := c.threadId
        messageId := c.messageId
        role := .assistant
        text := c.delta
        attachments := none
        turnId := c.turnId
        streaming := true
        createdAt := c.createdAt
        updatedAt := c.createdAt }))
  | .threadMessageAssistantComplete c => do
      let _ ← requireThread readModel command c.threadId
      .ok (planThread env command c.threadId c.createdAt none (.threadMessageSent {
        threadId := c.threadId
        messageId := c.messageId
        role := .assistant
        text := []
        attachments := none
        turnId := c.turnId
        streaming := false
        createdAt := c.createdAt
        updatedAt := c.createdAt }))
  | .threadProposedPlanUpsert c => do
      let _ ← requireThread readModel command c.threadId
      .ok (planThread env command c.threadId c.createdAt none (.threadProposedPlanUpserted {
        threadId := c.threadId
        proposedPlan := c.proposedPlan }))
  | .threadTurnDiffComplete c => do
      let _ ← requireThread readModel command c.threadId
      .ok (planThread env command c.threadId c.createdAt none (.threadTurnDiffCompleted {
        threadId := c.threadId
        turnId := c.turnId
        checkpointTurnCount := c.checkpointTurnCount
        checkpointRef := c.checkpointRef
        status := c.status
        files := c.files
        assistantMessageId := c.assistantMessageId
        completedAt := c.completedAt }))
  | .threadRevertComplete c => do
      let _ ← requireThread readModel command c.threadId
      .ok (planThread env command c.threadId c.createdAt none (.threadReverted {
        threadId := c.threadId
        turnCount := c.turnCount }))
  | .threadActivityAppend c => do
      let _ ← requireThread readModel command c.threadId
      .ok (planThread env command c.threadId c.createdAt
        ((c.activity.payload.field? "requestId").bind Json.string?) (.threadActivityAppended {
          threadId := c.threadId
          activity := c.activity }))

end Switch

/-- Fold planned events under consecutive sequences after `sequence`. -/
def projectPlanned [Collation] :
    OrchestrationReadModel → Nat → List PlannedOrchestrationEvent → OrchestrationReadModel
  | readModel, _, [] => readModel
  | readModel, sequence, event :: events =>
    projectPlanned (projectEvent readModel (event.withSequence (sequence + 1))) (sequence + 1)
      events

/-- Decide the commands in order, each against the model its predecessors leave. -/
def decideCommandSequence [Collation]
    (decide : DecideEnv → OrchestrationReadModel → OrchestrationCommand → Decided)
    (env : DecideEnv) :
    OrchestrationReadModel → Nat → List PlannedOrchestrationEvent → List OrchestrationCommand →
      Decided
  | _, _, plannedEvents, [] => .ok plannedEvents
  | nextReadModel, nextSequence, plannedEvents, nextCommand :: commands => do
      let nextEvents ← decide (env.drop plannedEvents.length) nextReadModel nextCommand
      decideCommandSequence decide env (projectPlanned nextReadModel nextSequence nextEvents)
        (nextSequence + nextEvents.length) (plannedEvents ++ nextEvents) commands

section Decide

variable [Collation] [TextRuntime]

/-- A command inside a sequence. None of them is forced, so none recurses. -/
def decideUnforced (env : DecideEnv) (readModel : OrchestrationReadModel)
    (command : OrchestrationCommand) : Decided :=
  decideWith (fun _ => .ok []) env readModel command

def decideOrchestrationCommand (env : DecideEnv) (readModel : OrchestrationReadModel)
    (command : OrchestrationCommand) : Decided :=
  decideWith
    (decideCommandSequence decideUnforced env readModel readModel.snapshotSequence [])
    env readModel command

end Decide

end GT3Code.Orchestration
