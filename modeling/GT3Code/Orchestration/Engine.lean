import GT3Code.Orchestration.Admissible
import GT3Code.Orchestration.ProjectionSnapshotQuery

/-! # The orchestration engine

One worker takes command envelopes from a queue. An accepted command's events,
projection rows and receipt are one transaction; the read model and the published
stream follow it. Every step that can fail may fail: an envelope carries the fault
its processing meets, and a transaction that fails leaves the database alone.
-/

namespace GT3Code.Orchestration

open GT3Code.Base GT3Code.Contracts GT3Code.Persistence

inductive OrchestrationCommandReceiptStatus where
  | accepted
  | rejected
  deriving DecidableEq

/-- A row of `orchestration_command_receipts`. -/
structure OrchestrationCommandReceipt where
  commandId : CommandId
  aggregateKind : OrchestrationAggregateKind
  aggregateId : String
  acceptedAt : IsoDateTime
  resultSequence : Nat
  status : OrchestrationCommandReceiptStatus
  error : Option String

abbrev ReceiptTable := KeyedTable (fun row : OrchestrationCommandReceipt => some row.commandId)

theorem lookup_put_receipt (receipt : OrchestrationCommandReceipt) (receipts : ReceiptTable) :
    KeyedTable.lookup receipt.commandId (KeyedTable.put receipt receipts) = some receipt :=
  KeyedTable.lookup_put_self (by rfl) receipts

theorem lookup_put_receipt_of_ne {receipt : OrchestrationCommandReceipt} {commandId : CommandId}
    (h : receipt.commandId ≠ commandId) (receipts : ReceiptTable) :
    KeyedTable.lookup commandId (KeyedTable.put receipt receipts) =
      KeyedTable.lookup commandId receipts :=
  KeyedTable.lookup_put_of_ne (by simpa using h) receipts

def OrchestrationCommandInvariantError.message (error : OrchestrationCommandInvariantError) :
    String :=
  "Orchestration command invariant failed (" ++ error.commandType ++ "): " ++ error.detail

inductive OrchestrationDispatchError where
  | persistence
  | projectorDecode
  | invariant (error : OrchestrationCommandInvariantError)
  | previouslyRejected (commandId : CommandId) (detail : String)

/-- The step at which processing an envelope fails. A commit may report a failure
although it took effect. -/
inductive FaultPoint where
  | receiptLookup
  | decide
  | append (index : Nat)
  | projectModel (index : Nat)
  | projectTables (index : Nat)
  | receiptUpsert
  | commit (tookEffect : Bool)
  deriving DecidableEq

/-- A queued command with what its processing meets: clock and ids, the step that
fails, whether storing a rejection fails, and the time of that rejection. -/
structure CommandEnvelope where
  env : DecideEnv
  command : OrchestrationCommand
  fault : Option FaultPoint
  rejectionFault : Bool
  rejectedAt : IsoDateTime

/-- The database of the engine. `batches` records, for statements about command ids,
the rows each transaction appended. -/
structure EngineDatabase extends Database where
  receipts : ReceiptTable
  batches : List (CommandId × List OrchestrationEvent)

def EngineDatabase.empty : EngineDatabase where
  log := .empty
  pipeline := .empty
  receipts := .empty _
  batches := []

/-- `published` is what went through the engine's `PubSub` since it started. -/
structure EngineState where
  database : EngineDatabase
  commandReadModel : OrchestrationReadModel
  published : List OrchestrationEvent

def commandToAggregateRef (command : OrchestrationCommand) :
    OrchestrationAggregateKind × String :=
  match command.body with
  | .projectCreate c => (.project, c.projectId)
  | .projectMetaUpdate c => (.project, c.projectId)
  | .projectDelete c => (.project, c.projectId)
  | .threadCreate c => (.thread, c.threadId)
  | .threadDelete c => (.thread, c.threadId)
  | .threadArchive c => (.thread, c.threadId)
  | .threadUnarchive c => (.thread, c.threadId)
  | .threadMetaUpdate c => (.thread, c.threadId)
  | .threadRuntimeModeSet c => (.thread, c.threadId)
  | .threadInteractionModeSet c => (.thread, c.threadId)
  | .threadTurnStart c => (.thread, c.threadId)
  | .threadTurnInterrupt c => (.thread, c.threadId)
  | .threadApprovalRespond c => (.thread, c.threadId)
  | .threadUserInputRespond c => (.thread, c.threadId)
  | .threadCheckpointRevert c => (.thread, c.threadId)
  | .threadSessionStop c => (.thread, c.threadId)
  | .threadSessionSet c => (.thread, c.threadId)
  | .threadMessageAssistantDelta c => (.thread, c.threadId)
  | .threadMessageAssistantComplete c => (.thread, c.threadId)
  | .threadProposedPlanUpsert c => (.thread, c.threadId)
  | .threadTurnDiffComplete c => (.thread, c.threadId)
  | .threadRevertComplete c => (.thread, c.threadId)
  | .threadActivityAppend c => (.thread, c.threadId)

section Engine

variable [Collation] [TextRuntime]

def projectEventsOntoReadModel (baseReadModel : OrchestrationReadModel)
    (events : List OrchestrationEvent) : OrchestrationReadModel :=
  events.foldl projectEvent baseReadModel

structure OpenTransaction where
  database : Database
  committedEvents : List OrchestrationEvent
  nextCommandReadModel : OrchestrationReadModel

/-- Append, project in memory and project into the tables, event by event. -/
def appendEvents (fault : Option FaultPoint) :
    Nat → OpenTransaction → List PlannedOrchestrationEvent →
      Except OrchestrationDispatchError OpenTransaction
  | _, transaction, [] => .ok transaction
  | index, transaction, nextEvent :: eventBases =>
    if fault = some (.append index) then .error .persistence
    else if fault = some (.projectModel index) then .error .projectorDecode
    else if fault = some (.projectTables index) then .error .persistence
    else
      let savedEvent := transaction.database.log.nextRow nextEvent
      appendEvents fault (index + 1)
        { database := transaction.database.persist nextEvent
          committedEvents := transaction.committedEvents ++ [savedEvent]
          nextCommandReadModel := projectEvent transaction.nextCommandReadModel savedEvent }
        eventBases

structure CommittedCommand where
  database : EngineDatabase
  committedEvents : List OrchestrationEvent
  lastSequence : Nat
  nextCommandReadModel : OrchestrationReadModel

def acceptedReceipt (command : OrchestrationCommand) (lastSavedEvent : OrchestrationEvent) :
    OrchestrationCommandReceipt where
  commandId := command.commandId
  aggregateKind := lastSavedEvent.aggregateKind
  aggregateId := lastSavedEvent.aggregateId
  acceptedAt := lastSavedEvent.occurredAt
  resultSequence := lastSavedEvent.sequence
  status := .accepted
  error := none

/-- The body of `sql.withTransaction`, up to the commit. -/
def runTransaction (fault : Option FaultPoint) (state : EngineState)
    (command : OrchestrationCommand) (eventBases : List PlannedOrchestrationEvent) :
    Except OrchestrationDispatchError CommittedCommand :=
  match appendEvents fault 0 ⟨state.database.toDatabase, [], state.commandReadModel⟩ eventBases with
  | .error error => .error error
  | .ok transaction =>
    match transaction.committedEvents.getLast? with
    | none => .error (.invariant (invariantError command.body.type "Command produced no events."))
    | some lastSavedEvent =>
      if fault = some .receiptUpsert then .error .persistence
      else
        .ok {
          database := {
            transaction.database with
            receipts := KeyedTable.put (acceptedReceipt command lastSavedEvent)
              state.database.receipts
            batches := state.database.batches ++
              [(command.commandId, transaction.committedEvents)] }
          committedEvents := transaction.committedEvents
          lastSequence := lastSavedEvent.sequence
          nextCommandReadModel := transaction.nextCommandReadModel }

/-! ## One envelope -/

inductive EnvelopeExit where
  | deduplicated (sequence : Nat)
  | committed (command : CommittedCommand)
  | unacknowledged (command : CommittedCommand)
  | failed (error : OrchestrationDispatchError)

def commitTransaction (fault : Option FaultPoint) (command : CommittedCommand) : EnvelopeExit :=
  match fault with
  | some (.commit true) => .unacknowledged command
  | some (.commit false) => .failed .persistence
  | _ => .committed command

def attemptCommand (state : EngineState) (envelope : CommandEnvelope) : EnvelopeExit :=
  if envelope.fault = some .receiptLookup then .failed .persistence
  else
    match KeyedTable.lookup envelope.command.commandId state.database.receipts with
    | some existingReceipt =>
      match existingReceipt.status with
      | .accepted => .deduplicated existingReceipt.resultSequence
      | .rejected =>
        .failed (.previouslyRejected envelope.command.commandId
          (existingReceipt.error.getD "Previously rejected."))
    | none =>
      if envelope.fault = some .decide then .failed .projectorDecode
      else
        match decideOrchestrationCommand envelope.env state.commandReadModel
            envelope.command with
        | .error error => .failed (.invariant error)
        | .ok eventBases =>
          match runTransaction envelope.fault state envelope.command eventBases with
          | .error error => .failed error
          | .ok command => commitTransaction envelope.fault command

/-- Fold and publish what a default read of the log past the model's sequence returns. -/
def reconcileReadModelAfterDispatchFailure (state : EngineState) : EngineState :=
  let persistedEvents := state.database.log.readFromSequence
    state.commandReadModel.snapshotSequence DEFAULT_READ_FROM_SEQUENCE_LIMIT
  if persistedEvents.length = 0 then state
  else
    { state with
      commandReadModel := projectEventsOntoReadModel state.commandReadModel persistedEvents
      published := state.published ++ persistedEvents }

def rejectedReceipt (state : EngineState) (envelope : CommandEnvelope)
    (error : OrchestrationCommandInvariantError) : OrchestrationCommandReceipt where
  commandId := envelope.command.commandId
  aggregateKind := (commandToAggregateRef envelope.command).1
  aggregateId := (commandToAggregateRef envelope.command).2
  acceptedAt := envelope.rejectedAt
  resultSequence := state.commandReadModel.snapshotSequence
  status := .rejected
  error := some error.message

def storeRejection (state : EngineState) (envelope : CommandEnvelope)
    (error : OrchestrationCommandInvariantError) : EngineState :=
  if envelope.rejectionFault then state
  else
    { state with
      database := {
        state.database with
        receipts := KeyedTable.put (rejectedReceipt state envelope error)
          state.database.receipts } }

def handleFailure (state : EngineState) (envelope : CommandEnvelope) :
    OrchestrationDispatchError → EngineState
  | .previouslyRejected _ _ => state
  | .invariant error => storeRejection (reconcileReadModelAfterDispatchFailure state) envelope error
  | .persistence | .projectorDecode => reconcileReadModelAfterDispatchFailure state

def publishCommitted (state : EngineState) (command : CommittedCommand) : EngineState where
  database := command.database
  commandReadModel := command.nextCommandReadModel
  published := state.published ++ command.committedEvents

/-- The state after an envelope, with what its `Deferred` is completed by. -/
def processEnvelope (state : EngineState) (envelope : CommandEnvelope) :
    EngineState × Except OrchestrationDispatchError Nat :=
  match attemptCommand state envelope with
  | .deduplicated sequence => (state, .ok sequence)
  | .committed command => (publishCommitted state command, .ok command.lastSequence)
  | .unacknowledged command =>
    (handleFailure { state with database := command.database } envelope .persistence,
      .error .persistence)
  | .failed error => (handleFailure state envelope error, .error error)

/-- Bootstrap the projections and read the model the worker starts from. -/
def startEngine (database : EngineDatabase) : EngineState :=
  let pipeline := ProjectionPipeline.bootstrap database.log database.pipeline
  { database := { database with pipeline := pipeline }
    commandReadModel := getCommandReadModel pipeline
    published := [] }

theorem startEngine_empty :
    startEngine .empty = ⟨.empty, getCommandReadModel .empty, []⟩ := by
  have hnothing : ∀ (projector : ProjectorName) (state : PipelineState),
      bootstrapProjector .empty state projector = state := by
    intro projector state
    rw [bootstrapProjector, EventLog.readFromSequence_eq_take]
    rfl
  have hboot : ProjectionPipeline.bootstrap .empty .empty = .empty := by
    simp [ProjectionPipeline.bootstrap, projectors, hnothing]
  simp only [startEngine, EngineDatabase.empty, hboot]

variable {fault : Option FaultPoint} {eventBases : List PlannedOrchestrationEvent}
  {state : EngineState}

theorem appendEvents_ok {index : Nat} {transaction result : OpenTransaction}
    (h : appendEvents fault index transaction eventBases = .ok result) :
    result = {
      database := transaction.database.persistAll eventBases
      committedEvents :=
        transaction.committedEvents ++ transaction.database.log.nextRows eventBases
      nextCommandReadModel := projectEventsOntoReadModel transaction.nextCommandReadModel
        (transaction.database.log.nextRows eventBases) } := by
  induction eventBases generalizing index transaction with
  | nil =>
    cases h
    simp [Database.persistAll, EventLog.nextRows, projectEventsOntoReadModel]
  | cons nextEvent eventBases ih =>
    unfold appendEvents at h
    split at h
    · cases h
    · split at h
      · cases h
      · split at h
        · cases h
        · rw [ih h]
          simp [Database.persistAll, Database.persist, EventLog.nextRows,
            projectEventsOntoReadModel]

theorem log_persistAll (database : Database) (events : List PlannedOrchestrationEvent) :
    (database.persistAll events).log = database.log.appendAll events := by
  induction events generalizing database with
  | nil => rfl
  | cons event events ih =>
    have hrest := ih (database.persist event)
    rw [Database.persistAll] at hrest
    rw [Database.persistAll, List.foldl_cons, hrest]
    rfl

structure Commits (state : EngineState) (command : OrchestrationCommand)
    (eventBases : List PlannedOrchestrationEvent) (committed : CommittedCommand) : Prop where
  planned : ∃ env, decideOrchestrationCommand env state.commandReadModel command = .ok eventBases
  nonempty : eventBases ≠ []
  database : committed.database.toDatabase = state.database.persistAll eventBases
  committedEvents : committed.committedEvents = state.database.log.nextRows eventBases
  lastSequence : committed.lastSequence = state.database.log.lastSequence + eventBases.length
  nextCommandReadModel : committed.nextCommandReadModel =
    projectEventsOntoReadModel state.commandReadModel (state.database.log.nextRows eventBases)
  receipts : ∃ receipt, receipt.commandId = command.commandId ∧ receipt.status = .accepted ∧
    receipt.resultSequence = committed.lastSequence ∧
    committed.database.receipts = KeyedTable.put receipt state.database.receipts
  batches : committed.database.batches = state.database.batches ++
    [(command.commandId, state.database.log.nextRows eventBases)]

variable {command : OrchestrationCommand} {committed : CommittedCommand}

theorem Commits.log (h : Commits state command eventBases committed) :
    committed.database.log = state.database.log.appendAll eventBases := by
  rw [h.database, log_persistAll]

theorem commits_of_runTransaction {env : DecideEnv}
    (hdecide : decideOrchestrationCommand env state.commandReadModel command = .ok eventBases)
    (h : runTransaction fault state command eventBases = .ok committed) :
    Commits state command eventBases committed := by
  unfold runTransaction at h
  cases happend : appendEvents fault 0 ⟨state.database.toDatabase, [], state.commandReadModel⟩
      eventBases with
  | error error => simp [happend] at h
  | ok transaction =>
    have htransaction := appendEvents_ok happend
    simp only [happend] at h
    cases hlast : transaction.committedEvents.getLast? with
    | none => simp [hlast] at h
    | some lastSavedEvent =>
      simp only [hlast] at h
      split at h
      · cases h
      · cases h
        simp only [htransaction, List.nil_append] at hlast ⊢
        refine ⟨⟨env, hdecide⟩, ?_, rfl, rfl, EventLog.getLast?_nextRows hlast, rfl,
          ⟨acceptedReceipt command lastSavedEvent, rfl, rfl, rfl, rfl⟩, rfl⟩
        rintro rfl
        simp [EventLog.nextRows] at hlast

omit [TextRuntime] in
theorem database_reconcile (state : EngineState) :
    (reconcileReadModelAfterDispatchFailure state).database = state.database := by
  unfold reconcileReadModelAfterDispatchFailure
  dsimp only
  split <;> rfl

/-- A stored receipt for the envelope's command, read successfully. -/
structure FindsReceipt (state : EngineState) (envelope : CommandEnvelope)
    (receipt : OrchestrationCommandReceipt) : Prop where
  lookup : KeyedTable.lookup envelope.command.commandId state.database.receipts = some receipt
  noFault : envelope.fault ≠ some .receiptLookup

/-- The envelope's command has no receipt and its transaction reaches the commit. -/
def ReachesCommit (state : EngineState) (envelope : CommandEnvelope)
    (committed : CommittedCommand) : Prop :=
  KeyedTable.lookup envelope.command.commandId state.database.receipts = none ∧
    ∃ eventBases,
      decideOrchestrationCommand envelope.env state.commandReadModel envelope.command =
        .ok eventBases ∧
      Commits state envelope.command eventBases committed

def ExitSpec (state : EngineState) (envelope : CommandEnvelope) : EnvelopeExit → Prop
  | .deduplicated sequence =>
    ∃ receipt, FindsReceipt state envelope receipt ∧ receipt.status = .accepted ∧
      receipt.resultSequence = sequence
  | .committed command => ReachesCommit state envelope command
  | .unacknowledged command =>
    envelope.fault = some (.commit true) ∧ ReachesCommit state envelope command
  | .failed error =>
    (envelope.fault = some .receiptLookup ∧ error = .persistence) ∨
      (∃ receipt, FindsReceipt state envelope receipt ∧ receipt.status = .rejected ∧
        ∃ detail, error = .previouslyRejected envelope.command.commandId detail) ∨
      KeyedTable.lookup envelope.command.commandId state.database.receipts = none

theorem exitSpec_attemptCommand (state : EngineState) (envelope : CommandEnvelope) :
    ExitSpec state envelope (attemptCommand state envelope) := by
  unfold attemptCommand
  split
  · rename_i hfault
    exact Or.inl ⟨hfault, rfl⟩
  · rename_i hfault
    cases hlookup : KeyedTable.lookup envelope.command.commandId state.database.receipts with
    | some receipt =>
      cases hstatus : receipt.status with
      | accepted =>
        simp only [hstatus]
        exact ⟨receipt, ⟨hlookup, hfault⟩, hstatus, rfl⟩
      | rejected =>
        simp only [hstatus]
        exact Or.inr (Or.inl ⟨receipt, ⟨hlookup, hfault⟩, hstatus, _, rfl⟩)
    | none =>
      simp only
      split
      · exact Or.inr (Or.inr hlookup)
      · cases hdecide : decideOrchestrationCommand envelope.env state.commandReadModel
            envelope.command with
        | error error => exact Or.inr (Or.inr hlookup)
        | ok eventBases =>
          simp only
          cases hrun : runTransaction envelope.fault state envelope.command eventBases with
          | error error => exact Or.inr (Or.inr hlookup)
          | ok committed =>
            have hreaches : ReachesCommit state envelope committed :=
              ⟨hlookup, eventBases, hdecide, commits_of_runTransaction hdecide hrun⟩
            simp only [commitTransaction]
            split
            · rename_i htook
              exact ⟨htook, hreaches⟩
            · exact Or.inr (Or.inr hlookup)
            · exact hreaches

def reachesCommit : Option FaultPoint → Bool
  | none | some (.commit _) => true
  | _ => false

theorem appendEvents_of_reachesCommit (h : reachesCommit fault) (index : Nat)
    (transaction : OpenTransaction) (eventBases : List PlannedOrchestrationEvent) :
    ∃ result, appendEvents fault index transaction eventBases = .ok result := by
  induction eventBases generalizing index transaction with
  | nil => exact ⟨transaction, rfl⟩
  | cons nextEvent eventBases ih =>
    have hnone : fault ≠ some (.append index) ∧ fault ≠ some (.projectModel index) ∧
        fault ≠ some (.projectTables index) := by
      refine ⟨?_, ?_, ?_⟩ <;> rintro rfl <;> cases h
    rw [appendEvents, if_neg hnone.1, if_neg hnone.2.1, if_neg hnone.2.2]
    exact ih _ _

theorem attemptCommand_of_reachesCommit {envelope : CommandEnvelope}
    (hfault : reachesCommit envelope.fault)
    (hlookup : KeyedTable.lookup envelope.command.commandId state.database.receipts = none)
    (hdecide : decideOrchestrationCommand envelope.env state.commandReadModel envelope.command =
      .ok eventBases)
    (hnonempty : eventBases ≠ []) :
    ∃ committed, attemptCommand state envelope = commitTransaction envelope.fault committed ∧
      Commits state envelope.command eventBases committed := by
  have hfaults : envelope.fault ≠ some .receiptLookup ∧ envelope.fault ≠ some .decide ∧
      envelope.fault ≠ some .receiptUpsert := by
    refine ⟨?_, ?_, ?_⟩ <;> intro he <;> rw [he] at hfault <;> cases hfault
  obtain ⟨transaction, happend⟩ := appendEvents_of_reachesCommit hfault 0
    ⟨state.database.toDatabase, [], state.commandReadModel⟩ eventBases
  have hevents := congrArg OpenTransaction.committedEvents (appendEvents_ok happend)
  simp only [List.nil_append] at hevents
  have hlast : transaction.committedEvents ≠ [] := by
    rw [hevents]
    exact EventLog.nextRows_ne_nil hnonempty
  have hrun : ∃ committed, runTransaction envelope.fault state envelope.command eventBases =
      .ok committed := by
    rw [runTransaction, happend]
    simp only
    rw [List.getLast?_eq_some_getLast hlast]
    simp only
    rw [if_neg hfaults.2.2]
    exact ⟨_, rfl⟩
  obtain ⟨committed, hrun⟩ := hrun
  refine ⟨committed, ?_, commits_of_runTransaction hdecide hrun⟩
  rw [attemptCommand, if_neg hfaults.1, hlookup]
  simp only
  rw [if_neg hfaults.2.1, hdecide]
  simp only
  rw [hrun]

end Engine

end GT3Code.Orchestration
