import GT3Code.Base.Ordering
import GT3Code.Contracts.ReadModel

/-! # Projection tables

Rows of the projection tables and the statements their repositories run. A table
is its rows under its unique index, an `INSERT ... ON CONFLICT DO UPDATE` is
`KeyedTable.put`, and a listing filters by thread and sorts by its `ORDER BY`.
JSON columns hold the values they encode.
-/

namespace GT3Code.Persistence

open GT3Code.Base GT3Code.Contracts

structure ProjectionProject where
  projectId : ProjectId
  title : String
  workspaceRoot : String
  defaultModelSelection : Option ModelSelection
  scripts : List ProjectScript
  createdAt : IsoDateTime
  updatedAt : IsoDateTime
  deletedAt : Option IsoDateTime

structure ProjectionThread where
  threadId : ThreadId
  projectId : ProjectId
  title : String
  modelSelection : ModelSelection
  runtimeMode : RuntimeMode
  interactionMode : ProviderInteractionMode
  branch : Option String
  worktreePath : Option String
  latestTurnId : Option TurnId
  createdAt : IsoDateTime
  updatedAt : IsoDateTime
  archivedAt : Option IsoDateTime
  latestUserMessageAt : Option IsoDateTime
  pendingApprovalCount : Nat
  pendingUserInputCount : Nat
  hasActionableProposedPlan : Nat
  deletedAt : Option IsoDateTime
  customMetadata : CustomMetadata

structure ProjectionThreadMessage where
  messageId : MessageId
  threadId : ThreadId
  turnId : Option TurnId
  role : OrchestrationMessageRole
  text : String
  attachments : Option (List ChatAttachment)
  isStreaming : Bool
  createdAt : IsoDateTime
  updatedAt : IsoDateTime

structure FinalizedThreadMessage where
  messageId : MessageId
  threadId : ThreadId
  turnId : Option TurnId
  role : OrchestrationMessageRole
  text : String
  attachments : Option (List ChatAttachment)
  createdAt : IsoDateTime
  updatedAt : IsoDateTime

structure ProjectionThreadProposedPlan where
  planId : OrchestrationProposedPlanId
  threadId : ThreadId
  turnId : Option TurnId
  planMarkdown : String
  implementedAt : Option IsoDateTime
  implementationThreadId : Option ThreadId
  createdAt : IsoDateTime
  updatedAt : IsoDateTime

structure ProjectionThreadActivity where
  activityId : EventId
  threadId : ThreadId
  turnId : Option TurnId
  tone : OrchestrationThreadActivityTone
  kind : String
  summary : String
  payload : Json
  sequence : Option Nat
  createdAt : IsoDateTime

structure ProjectionThreadSession where
  threadId : ThreadId
  status : OrchestrationSessionStatus
  providerName : Option String
  providerInstanceId : Option ProviderInstanceId
  runtimeMode : RuntimeMode
  activeTurnId : Option TurnId
  lastError : Option String
  updatedAt : IsoDateTime

inductive ProjectionTurnState where
  | pending
  | running
  | interrupted
  | completed
  | error
  deriving DecidableEq

structure ProjectionTurn where
  threadId : ThreadId
  turnId : Option TurnId
  pendingMessageId : Option MessageId
  sourceProposedPlanThreadId : Option ThreadId
  sourceProposedPlanId : Option OrchestrationProposedPlanId
  assistantMessageId : Option MessageId
  state : ProjectionTurnState
  requestedAt : IsoDateTime
  startedAt : Option IsoDateTime
  completedAt : Option IsoDateTime
  checkpointTurnCount : Option Nat
  checkpointRef : Option CheckpointRef
  checkpointStatus : Option OrchestrationCheckpointStatus
  checkpointFiles : List OrchestrationCheckpointFile

inductive ProjectionPendingApprovalStatus where
  | pending
  | resolved
  deriving DecidableEq

structure ProjectionPendingApproval where
  requestId : ApprovalRequestId
  threadId : ThreadId
  turnId : Option TurnId
  status : ProjectionPendingApprovalStatus
  decision : Option ProviderApprovalDecision
  createdAt : IsoDateTime
  resolvedAt : Option IsoDateTime

/-! ## Tables -/

abbrev ProjectTable := KeyedTable (fun row : ProjectionProject => some row.projectId)
abbrev ThreadTable := KeyedTable (fun row : ProjectionThread => some row.threadId)
abbrev MessageTable := KeyedTable (fun row : ProjectionThreadMessage => some row.messageId)
abbrev FinalizedMessageTable := KeyedTable (fun row : FinalizedThreadMessage => some row.messageId)
abbrev ProposedPlanTable := KeyedTable (fun row : ProjectionThreadProposedPlan => some row.planId)
abbrev ActivityTable := KeyedTable (fun row : ProjectionThreadActivity => some row.activityId)
abbrev SessionTable := KeyedTable (fun row : ProjectionThreadSession => some row.threadId)
abbrev PendingApprovalTable := KeyedTable (fun row : ProjectionPendingApproval => some row.requestId)

/-- `UNIQUE (thread_id, turn_id)`; rows without a turn never collide. -/
def turnKey (row : ProjectionTurn) : Option (ThreadId × TurnId) :=
  row.turnId.map (fun turnId => (row.threadId, turnId))

abbrev TurnTable := KeyedTable turnKey

/-- `WHERE thread_id = ? ORDER BY ...`. -/
def listByThread {ρ : Type} {κ : Type} {key : ρ → Option κ} (thread : ρ → ThreadId)
    (order : ρ → ρ → Int) (table : KeyedTable key) (threadId : ThreadId) : List ρ :=
  toSorted order (table.rows.filter (fun row => thread row = threadId))

/-- `DELETE ... WHERE thread_id = ?`. -/
def deleteByThread {ρ : Type} {κ : Type} {key : ρ → Option κ} (thread : ρ → ThreadId)
    (table : KeyedTable key) (threadId : ThreadId) : KeyedTable key :=
  table.restrict (fun row => thread row ≠ threadId)

theorem mem_listByThread {ρ : Type} {κ : Type} {key : ρ → Option κ} {thread : ρ → ThreadId}
    {order : ρ → ρ → Int} {table : KeyedTable key} {threadId : ThreadId} {row : ρ} :
    row ∈ listByThread thread order table threadId ↔ row ∈ table.rows ∧ thread row = threadId := by
  simp [listByThread]

theorem rows_putAll_deleteByThread {ρ : Type} {κ : Type} [DecidableEq κ] {key : ρ → Option κ}
    (thread : ρ → ThreadId) (order : ρ → ρ → Int) (kept : ρ → Bool) (table : KeyedTable key)
    (threadId : ThreadId) :
    ((deleteByThread thread table threadId).putAll
        ((listByThread thread order table threadId).filter kept)).rows =
      (deleteByThread thread table threadId).rows ++
        (listByThread thread order table threadId).filter kept := by
  have hperm : ((deleteByThread thread table threadId).rows ++
      listByThread thread order table threadId).Perm table.rows := by
    have hsplit := List.filter_append_perm (fun row => decide (thread row ≠ threadId)) table.rows
    have hcomplement : (fun row => !decide (thread row ≠ threadId)) =
        fun row => decide (thread row = threadId) := by
      funext row
      simp
    rw [hcomplement] at hsplit
    exact ((toSorted_perm order _).append_left _).trans hsplit
  have hunique : (((deleteByThread thread table threadId).rows ++
      (listByThread thread order table threadId).filter kept).filterMap key).Nodup := by
    have hall := (hperm.filterMap key).nodup_iff.mpr table.unique
    exact hall.sublist ((List.filter_sublist.append_left _).filterMap key)
  exact KeyedTable.putAll_append hunique

/-- Deleting a thread's rows and inserting the kept ones again keeps exactly these of
its rows, and every row of the others. -/
theorem mem_putAll_deleteByThread {ρ : Type} {κ : Type} [DecidableEq κ] {key : ρ → Option κ}
    (thread : ρ → ThreadId) (order : ρ → ρ → Int) (kept : ρ → Bool) (table : KeyedTable key)
    (threadId : ThreadId) {row : ρ} :
    row ∈ ((deleteByThread thread table threadId).putAll
        ((listByThread thread order table threadId).filter kept)).rows ↔
      row ∈ table.rows ∧ (thread row = threadId → kept row = true) := by
  rw [rows_putAll_deleteByThread, List.mem_append, List.mem_filter, mem_listByThread]
  simp only [deleteByThread, KeyedTable.rows_restrict, List.mem_filter, decide_eq_true_eq]
  by_cases hthread : thread row = threadId
  · simp [hthread]
  · simp [hthread]

/-! ## Statements -/

namespace MessageTable

def upsert (table : MessageTable) (row : ProjectionThreadMessage) : MessageTable :=
  let existing := (KeyedTable.lookup row.messageId table).bind ProjectionThreadMessage.attachments
  KeyedTable.put { row with attachments := row.attachments.orElse (fun _ => existing) } table

/-- `ORDER BY created_at ASC, message_id ASC`. -/
def listByThreadId (table : MessageTable) (threadId : ThreadId) : List ProjectionThreadMessage :=
  listByThread ProjectionThreadMessage.threadId (fun left right =>
    orElse (compareText left.createdAt right.createdAt)
      (compareText left.messageId right.messageId)) table threadId

def deleteByThreadId (table : MessageTable) (threadId : ThreadId) : MessageTable :=
  deleteByThread ProjectionThreadMessage.threadId table threadId

end MessageTable

namespace ProposedPlanTable

/-- `ORDER BY created_at ASC, plan_id ASC`. -/
def listByThreadId (table : ProposedPlanTable) (threadId : ThreadId) :
    List ProjectionThreadProposedPlan :=
  listByThread ProjectionThreadProposedPlan.threadId (fun left right =>
    orElse (compareText left.createdAt right.createdAt)
      (compareText left.planId right.planId)) table threadId

def deleteByThreadId (table : ProposedPlanTable) (threadId : ThreadId) : ProposedPlanTable :=
  deleteByThread ProjectionThreadProposedPlan.threadId table threadId

end ProposedPlanTable

namespace ActivityTable

/-- Rows without a sequence first, then by sequence, `created_at` and `activity_id`. -/
def listByThreadId (table : ActivityTable) (threadId : ThreadId) :
    List ProjectionThreadActivity :=
  listByThread ProjectionThreadActivity.threadId (fun left right =>
    orElse (compareNullable (byKey id) left.sequence right.sequence)
      (orElse (compareText left.createdAt right.createdAt)
        (compareText left.activityId right.activityId))) table threadId

def deleteByThreadId (table : ActivityTable) (threadId : ThreadId) : ActivityTable :=
  deleteByThread ProjectionThreadActivity.threadId table threadId

end ActivityTable

namespace PendingApprovalTable

/-- `ORDER BY created_at ASC, request_id ASC`. -/
def listByThreadId (table : PendingApprovalTable) (threadId : ThreadId) :
    List ProjectionPendingApproval :=
  listByThread ProjectionPendingApproval.threadId (fun left right =>
    orElse (compareText left.createdAt right.createdAt)
      (compareText left.requestId right.requestId)) table threadId

end PendingApprovalTable

namespace TurnTable

def upsertByTurnId (table : TurnTable) (row : ProjectionTurn) : TurnTable :=
  KeyedTable.put row table

def getByTurnId (table : TurnTable) (threadId : ThreadId) (turnId : TurnId) :
    Option ProjectionTurn :=
  KeyedTable.lookup (threadId, turnId) table

/-- `turn_id IS NULL AND state = 'pending' AND checkpoint_turn_count IS NULL`. -/
def isPendingOf (threadId : ThreadId) (row : ProjectionTurn) : Bool :=
  decide (row.threadId = threadId) && row.turnId.isNone && decide (row.state = .pending) &&
    row.checkpointTurnCount.isNone

def deletePendingTurnStartByThreadId (table : TurnTable) (threadId : ThreadId) : TurnTable :=
  table.restrict (fun row => !isPendingOf threadId row)

def getPendingTurnStartByThreadId (table : TurnTable) (threadId : ThreadId) :
    Option ProjectionTurn :=
  (toSorted (fun left right => compareText right.requestedAt left.requestedAt)
    (table.rows.filter (fun row => isPendingOf threadId row && row.pendingMessageId.isSome))).head?

/-- Delete the pending starts of the thread, then insert this one. -/
def replacePendingTurnStart (table : TurnTable) (threadId : ThreadId) (messageId : MessageId)
    (sourceProposedPlanThreadId : Option ThreadId)
    (sourceProposedPlanId : Option OrchestrationProposedPlanId) (requestedAt : IsoDateTime) :
    TurnTable :=
  KeyedTable.put
    { threadId := threadId
      turnId := none
      pendingMessageId := some messageId
      sourceProposedPlanThreadId := sourceProposedPlanThreadId
      sourceProposedPlanId := sourceProposedPlanId
      assistantMessageId := none
      state := .pending
      requestedAt := requestedAt
      startedAt := none
      completedAt := none
      checkpointTurnCount := none
      checkpointRef := none
      checkpointStatus := none
      checkpointFiles := [] }
    (deletePendingTurnStartByThreadId table threadId)

/-- Turns with a checkpoint first, by its turn count, then by request time and turn. -/
def compareTurns (left right : ProjectionTurn) : Int :=
  orElse (byKey (fun row : ProjectionTurn => if row.checkpointTurnCount.isNone then 1 else 0)
      left right)
    (orElse (compareNullable (byKey id) left.checkpointTurnCount right.checkpointTurnCount)
      (orElse (compareText left.requestedAt right.requestedAt)
        (compareNullable compareText left.turnId right.turnId)))

def listByThreadId (table : TurnTable) (threadId : ThreadId) : List ProjectionTurn :=
  listByThread ProjectionTurn.threadId compareTurns table threadId

def withoutCheckpoint (row : ProjectionTurn) : ProjectionTurn :=
  { row with
    checkpointTurnCount := none
    checkpointRef := none
    checkpointStatus := none
    checkpointFiles := [] }

/-- `checkpoint_turn_count = ? AND (turn_id IS NULL OR turn_id <> ?)`. -/
def conflicts (threadId : ThreadId) (turnId : TurnId) (checkpointTurnCount : Nat)
    (row : ProjectionTurn) : Bool :=
  decide (row.threadId = threadId) && decide (row.checkpointTurnCount = some checkpointTurnCount) &&
    decide (row.turnId ≠ some turnId)

def clearCheckpointTurnConflict (table : TurnTable) (threadId : ThreadId) (turnId : TurnId)
    (checkpointTurnCount : Nat) : TurnTable :=
  table.amend
    (fun row => if conflicts threadId turnId checkpointTurnCount row then withoutCheckpoint row
      else row)
    (fun row => by split <;> rfl)

def deleteByThreadId (table : TurnTable) (threadId : ThreadId) : TurnTable :=
  deleteByThread ProjectionTurn.threadId table threadId

end TurnTable

structure ProjectionTables where
  projects : ProjectTable
  threads : ThreadTable
  messages : MessageTable
  finalizedMessages : FinalizedMessageTable
  proposedPlans : ProposedPlanTable
  activities : ActivityTable
  sessions : SessionTable
  turns : TurnTable
  pendingApprovals : PendingApprovalTable

def ProjectionTables.empty : ProjectionTables where
  projects := .empty _
  threads := .empty _
  messages := .empty _
  finalizedMessages := .empty _
  proposedPlans := .empty _
  activities := .empty _
  sessions := .empty _
  turns := .empty _
  pendingApprovals := .empty _

end GT3Code.Persistence
