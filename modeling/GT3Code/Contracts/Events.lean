import GT3Code.Contracts.ReadModel

/-! # Orchestration commands and events

One structure per command and per event payload of the wire contract. The
`type` literal of the source is the constructor of `CommandBody` and
`EventPayload`; every other field keeps its name.
-/

namespace GT3Code.Contracts

open GT3Code.Base (Text16)

/-! ## Commands -/

structure ProjectCreateCommand where
  projectId : ProjectId
  title : String
  workspaceRoot : String
  defaultModelSelection : Option (Option ModelSelection)
  createdAt : IsoDateTime

structure ProjectMetaUpdateCommand where
  projectId : ProjectId
  title : Option String
  workspaceRoot : Option String
  defaultModelSelection : Option (Option ModelSelection)
  scripts : Option (List ProjectScript)

structure ProjectDeleteCommand where
  projectId : ProjectId
  force : Option Bool

structure ThreadCreateCommand where
  threadId : ThreadId
  projectId : ProjectId
  title : String
  modelSelection : ModelSelection
  runtimeMode : RuntimeMode
  interactionMode : ProviderInteractionMode
  branch : Option String
  worktreePath : Option String
  customMetadata : Option CustomMetadata
  createdAt : IsoDateTime

/-- `thread.delete`, `thread.archive` and `thread.unarchive` carry the thread alone. -/
structure ThreadOnlyCommand where
  threadId : ThreadId

structure ThreadMetaUpdateCommand where
  threadId : ThreadId
  title : Option String
  modelSelection : Option ModelSelection
  branch : Option (Option String)
  worktreePath : Option (Option String)
  customMetadata : Option CustomMetadata

structure ThreadRuntimeModeSetCommand where
  threadId : ThreadId
  runtimeMode : RuntimeMode
  createdAt : IsoDateTime

structure ThreadInteractionModeSetCommand where
  threadId : ThreadId
  interactionMode : ProviderInteractionMode
  createdAt : IsoDateTime

structure ThreadTurnStartMessage where
  messageId : MessageId
  text : Text16
  attachments : List ChatAttachment

structure ThreadTurnStartCommand where
  threadId : ThreadId
  message : ThreadTurnStartMessage
  modelSelection : Option ModelSelection
  titleSeed : Option String
  runtimeMode : RuntimeMode
  interactionMode : ProviderInteractionMode
  sourceProposedPlan : Option SourceProposedPlanReference
  createdAt : IsoDateTime

structure ThreadTurnInterruptCommand where
  threadId : ThreadId
  turnId : Option TurnId
  createdAt : IsoDateTime

structure ThreadApprovalRespondCommand where
  threadId : ThreadId
  requestId : ApprovalRequestId
  decision : ProviderApprovalDecision
  createdAt : IsoDateTime

structure ThreadUserInputRespondCommand where
  threadId : ThreadId
  requestId : ApprovalRequestId
  answers : List (String × Json)
  createdAt : IsoDateTime

structure ThreadCheckpointRevertCommand where
  threadId : ThreadId
  turnCount : Nat
  createdAt : IsoDateTime

structure ThreadSessionStopCommand where
  threadId : ThreadId
  createdAt : IsoDateTime

structure ThreadSessionSetCommand where
  threadId : ThreadId
  session : OrchestrationSession
  createdAt : IsoDateTime

structure ThreadMessageAssistantDeltaCommand where
  threadId : ThreadId
  messageId : MessageId
  delta : String
  turnId : Option TurnId
  createdAt : IsoDateTime

structure ThreadMessageAssistantCompleteCommand where
  threadId : ThreadId
  messageId : MessageId
  turnId : Option TurnId
  createdAt : IsoDateTime

structure ThreadProposedPlanUpsertCommand where
  threadId : ThreadId
  proposedPlan : OrchestrationProposedPlan
  createdAt : IsoDateTime

structure ThreadTurnDiffCompleteCommand where
  threadId : ThreadId
  turnId : TurnId
  completedAt : IsoDateTime
  checkpointRef : CheckpointRef
  status : OrchestrationCheckpointStatus
  files : List OrchestrationCheckpointFile
  assistantMessageId : Option MessageId
  checkpointTurnCount : Nat
  createdAt : IsoDateTime

structure ThreadActivityAppendCommand where
  threadId : ThreadId
  activity : OrchestrationThreadActivity
  createdAt : IsoDateTime

structure ThreadRevertCompleteCommand where
  threadId : ThreadId
  turnCount : Nat
  createdAt : IsoDateTime

inductive CommandBody where
  | projectCreate (command : ProjectCreateCommand)
  | projectMetaUpdate (command : ProjectMetaUpdateCommand)
  | projectDelete (command : ProjectDeleteCommand)
  | threadCreate (command : ThreadCreateCommand)
  | threadDelete (command : ThreadOnlyCommand)
  | threadArchive (command : ThreadOnlyCommand)
  | threadUnarchive (command : ThreadOnlyCommand)
  | threadMetaUpdate (command : ThreadMetaUpdateCommand)
  | threadRuntimeModeSet (command : ThreadRuntimeModeSetCommand)
  | threadInteractionModeSet (command : ThreadInteractionModeSetCommand)
  | threadTurnStart (command : ThreadTurnStartCommand)
  | threadTurnInterrupt (command : ThreadTurnInterruptCommand)
  | threadApprovalRespond (command : ThreadApprovalRespondCommand)
  | threadUserInputRespond (command : ThreadUserInputRespondCommand)
  | threadCheckpointRevert (command : ThreadCheckpointRevertCommand)
  | threadSessionStop (command : ThreadSessionStopCommand)
  | threadSessionSet (command : ThreadSessionSetCommand)
  | threadMessageAssistantDelta (command : ThreadMessageAssistantDeltaCommand)
  | threadMessageAssistantComplete (command : ThreadMessageAssistantCompleteCommand)
  | threadProposedPlanUpsert (command : ThreadProposedPlanUpsertCommand)
  | threadTurnDiffComplete (command : ThreadTurnDiffCompleteCommand)
  | threadRevertComplete (command : ThreadRevertCompleteCommand)
  | threadActivityAppend (command : ThreadActivityAppendCommand)

/-- `command.type`. -/
def CommandBody.type : CommandBody → String
  | projectCreate _ => "project.create"
  | projectMetaUpdate _ => "project.meta.update"
  | projectDelete _ => "project.delete"
  | threadCreate _ => "thread.create"
  | threadDelete _ => "thread.delete"
  | threadArchive _ => "thread.archive"
  | threadUnarchive _ => "thread.unarchive"
  | threadMetaUpdate _ => "thread.meta.update"
  | threadRuntimeModeSet _ => "thread.runtime-mode.set"
  | threadInteractionModeSet _ => "thread.interaction-mode.set"
  | threadTurnStart _ => "thread.turn.start"
  | threadTurnInterrupt _ => "thread.turn.interrupt"
  | threadApprovalRespond _ => "thread.approval.respond"
  | threadUserInputRespond _ => "thread.user-input.respond"
  | threadCheckpointRevert _ => "thread.checkpoint.revert"
  | threadSessionStop _ => "thread.session.stop"
  | threadSessionSet _ => "thread.session.set"
  | threadMessageAssistantDelta _ => "thread.message.assistant.delta"
  | threadMessageAssistantComplete _ => "thread.message.assistant.complete"
  | threadProposedPlanUpsert _ => "thread.proposed-plan.upsert"
  | threadTurnDiffComplete _ => "thread.turn.diff.complete"
  | threadRevertComplete _ => "thread.revert.complete"
  | threadActivityAppend _ => "thread.activity.append"

structure OrchestrationCommand where
  commandId : CommandId
  body : CommandBody

/-! ## Event payloads -/

structure ProjectCreatedPayload where
  projectId : ProjectId
  title : String
  workspaceRoot : String
  defaultModelSelection : Option ModelSelection
  scripts : List ProjectScript
  createdAt : IsoDateTime
  updatedAt : IsoDateTime

structure ProjectMetaUpdatedPayload where
  projectId : ProjectId
  title : Option String
  workspaceRoot : Option String
  defaultModelSelection : Option (Option ModelSelection)
  scripts : Option (List ProjectScript)
  updatedAt : IsoDateTime

structure ProjectDeletedPayload where
  projectId : ProjectId
  deletedAt : IsoDateTime

structure ThreadCreatedPayload where
  threadId : ThreadId
  projectId : ProjectId
  title : String
  modelSelection : ModelSelection
  runtimeMode : RuntimeMode
  interactionMode : ProviderInteractionMode
  branch : Option String
  worktreePath : Option String
  customMetadata : Option CustomMetadata
  createdAt : IsoDateTime
  updatedAt : IsoDateTime

structure ThreadDeletedPayload where
  threadId : ThreadId
  deletedAt : IsoDateTime

structure ThreadArchivedPayload where
  threadId : ThreadId
  archivedAt : IsoDateTime
  updatedAt : IsoDateTime

structure ThreadUnarchivedPayload where
  threadId : ThreadId
  updatedAt : IsoDateTime

structure ThreadMetaUpdatedPayload where
  threadId : ThreadId
  title : Option String
  modelSelection : Option ModelSelection
  branch : Option (Option String)
  worktreePath : Option (Option String)
  customMetadata : Option CustomMetadata
  updatedAt : IsoDateTime

structure ThreadRuntimeModeSetPayload where
  threadId : ThreadId
  runtimeMode : RuntimeMode
  updatedAt : IsoDateTime

structure ThreadInteractionModeSetPayload where
  threadId : ThreadId
  interactionMode : ProviderInteractionMode
  updatedAt : IsoDateTime

structure ThreadMessageSentPayload where
  threadId : ThreadId
  messageId : MessageId
  role : OrchestrationMessageRole
  text : Text16
  attachments : Option (List ChatAttachment)
  turnId : Option TurnId
  streaming : Bool
  createdAt : IsoDateTime
  updatedAt : IsoDateTime

structure ThreadTurnStartRequestedPayload where
  threadId : ThreadId
  messageId : MessageId
  modelSelection : Option ModelSelection
  titleSeed : Option String
  runtimeMode : RuntimeMode
  interactionMode : ProviderInteractionMode
  sourceProposedPlan : Option SourceProposedPlanReference
  createdAt : IsoDateTime

structure ThreadTurnInterruptRequestedPayload where
  threadId : ThreadId
  turnId : Option TurnId
  createdAt : IsoDateTime

structure ThreadApprovalResponseRequestedPayload where
  threadId : ThreadId
  requestId : ApprovalRequestId
  decision : ProviderApprovalDecision
  createdAt : IsoDateTime

structure ThreadUserInputResponseRequestedPayload where
  threadId : ThreadId
  requestId : ApprovalRequestId
  answers : List (String × Json)
  createdAt : IsoDateTime

structure ThreadCheckpointRevertRequestedPayload where
  threadId : ThreadId
  turnCount : Nat
  createdAt : IsoDateTime

structure ThreadRevertedPayload where
  threadId : ThreadId
  turnCount : Nat

structure ThreadSessionStopRequestedPayload where
  threadId : ThreadId
  createdAt : IsoDateTime

structure ThreadSessionSetPayload where
  threadId : ThreadId
  session : OrchestrationSession

structure ThreadProposedPlanUpsertedPayload where
  threadId : ThreadId
  proposedPlan : OrchestrationProposedPlan

structure ThreadTurnDiffCompletedPayload where
  threadId : ThreadId
  turnId : TurnId
  checkpointTurnCount : Nat
  checkpointRef : CheckpointRef
  status : OrchestrationCheckpointStatus
  files : List OrchestrationCheckpointFile
  assistantMessageId : Option MessageId
  completedAt : IsoDateTime

structure ThreadActivityAppendedPayload where
  threadId : ThreadId
  activity : OrchestrationThreadActivity

inductive EventPayload where
  | projectCreated (payload : ProjectCreatedPayload)
  | projectMetaUpdated (payload : ProjectMetaUpdatedPayload)
  | projectDeleted (payload : ProjectDeletedPayload)
  | threadCreated (payload : ThreadCreatedPayload)
  | threadDeleted (payload : ThreadDeletedPayload)
  | threadArchived (payload : ThreadArchivedPayload)
  | threadUnarchived (payload : ThreadUnarchivedPayload)
  | threadMetaUpdated (payload : ThreadMetaUpdatedPayload)
  | threadRuntimeModeSet (payload : ThreadRuntimeModeSetPayload)
  | threadInteractionModeSet (payload : ThreadInteractionModeSetPayload)
  | threadMessageSent (payload : ThreadMessageSentPayload)
  | threadTurnStartRequested (payload : ThreadTurnStartRequestedPayload)
  | threadTurnInterruptRequested (payload : ThreadTurnInterruptRequestedPayload)
  | threadApprovalResponseRequested (payload : ThreadApprovalResponseRequestedPayload)
  | threadUserInputResponseRequested (payload : ThreadUserInputResponseRequestedPayload)
  | threadCheckpointRevertRequested (payload : ThreadCheckpointRevertRequestedPayload)
  | threadReverted (payload : ThreadRevertedPayload)
  | threadSessionStopRequested (payload : ThreadSessionStopRequestedPayload)
  | threadSessionSet (payload : ThreadSessionSetPayload)
  | threadProposedPlanUpserted (payload : ThreadProposedPlanUpsertedPayload)
  | threadTurnDiffCompleted (payload : ThreadTurnDiffCompletedPayload)
  | threadActivityAppended (payload : ThreadActivityAppendedPayload)

/-- `payload.threadId`, absent from the payloads of project events. -/
def EventPayload.threadId : EventPayload → Option ThreadId
  | projectCreated _ | projectMetaUpdated _ | projectDeleted _ => none
  | threadCreated payload => some payload.threadId
  | threadDeleted payload => some payload.threadId
  | threadArchived payload => some payload.threadId
  | threadUnarchived payload => some payload.threadId
  | threadMetaUpdated payload => some payload.threadId
  | threadRuntimeModeSet payload => some payload.threadId
  | threadInteractionModeSet payload => some payload.threadId
  | threadMessageSent payload => some payload.threadId
  | threadTurnStartRequested payload => some payload.threadId
  | threadTurnInterruptRequested payload => some payload.threadId
  | threadApprovalResponseRequested payload => some payload.threadId
  | threadUserInputResponseRequested payload => some payload.threadId
  | threadCheckpointRevertRequested payload => some payload.threadId
  | threadReverted payload => some payload.threadId
  | threadSessionStopRequested payload => some payload.threadId
  | threadSessionSet payload => some payload.threadId
  | threadProposedPlanUpserted payload => some payload.threadId
  | threadTurnDiffCompleted payload => some payload.threadId
  | threadActivityAppended payload => some payload.threadId

inductive OrchestrationAggregateKind where
  | project
  | thread
  deriving DecidableEq

structure OrchestrationEventMetadata where
  requestId : Option ApprovalRequestId

/-- `Omit<OrchestrationEvent, "sequence">`, what the decider plans. -/
structure PlannedOrchestrationEvent where
  eventId : EventId
  aggregateKind : OrchestrationAggregateKind
  aggregateId : String
  occurredAt : IsoDateTime
  commandId : Option CommandId
  causationEventId : Option EventId
  correlationId : Option CommandId
  metadata : OrchestrationEventMetadata
  payload : EventPayload

/-- A planned event under the sequence its place in the log gives it. -/
structure OrchestrationEvent extends PlannedOrchestrationEvent where
  sequence : Nat

/-- `{ ...event, sequence }`. -/
def PlannedOrchestrationEvent.withSequence (event : PlannedOrchestrationEvent) (sequence : Nat) :
    OrchestrationEvent :=
  { event with sequence := sequence }

@[simp] theorem PlannedOrchestrationEvent.withSequence_sequence
    (event : PlannedOrchestrationEvent) (sequence : Nat) :
    (event.withSequence sequence).sequence = sequence := rfl

@[simp] theorem PlannedOrchestrationEvent.withSequence_payload
    (event : PlannedOrchestrationEvent) (sequence : Nat) :
    (event.withSequence sequence).payload = event.payload := rfl

end GT3Code.Contracts
