import GT3Code.Orchestration.Engine
import GT3Code.Orchestration.ForcedDelete
import GT3Code.Orchestration.ProjectorCursors

/-! # Atomic dispatch

The engine's model and its published stream, against the log. Both follow the log
through every fault but one: when a commit takes effect and is reported as failed,
the worker reads the log again, and that read returns a thousand events at most.
-/

namespace GT3Code.Orchestration

open GT3Code.Base GT3Code.Contracts GT3Code.Persistence

variable [Collation] [TextRuntime]

def eventsSince (start state : EngineState) : List OrchestrationEvent :=
  state.database.log.after start.commandReadModel.snapshotSequence

/-- The model is the start-up model folded over exactly those events, and each of
them has been published once, in sequence order. -/
structure InStep (start state : EngineState) : Prop where
  model : state.commandReadModel =
    projectEventsOntoReadModel start.commandReadModel (eventsSince start state)
  published : state.published = eventsSince start state

/-- No event, no projection row and no accepted receipt was added. -/
structure LeavesNothing (before after : EngineState) : Prop where
  log : after.database.log = before.database.log
  pipeline : after.database.pipeline = before.database.pipeline
  receipts : ∀ receipt ∈ after.database.receipts.rows, receipt.status = .accepted →
    receipt ∈ before.database.receipts.rows

/-- A commit that takes effect unacknowledged carries at most a thousand events. -/
def UnacknowledgedCommitFits (state : EngineState) (envelope : CommandEnvelope) : Prop :=
  envelope.fault = some (.commit true) →
    KeyedTable.lookup envelope.command.commandId state.database.receipts = none →
      ∀ eventBases,
        decideOrchestrationCommand envelope.env state.commandReadModel envelope.command =
          .ok eventBases →
        eventBases.length ≤ DEFAULT_READ_FROM_SEQUENCE_LIMIT

def dispatch (state : EngineState) (envelope : CommandEnvelope) : Option EngineState :=
  some (processEnvelope state envelope).1

omit [Collation] [TextRuntime] in
theorem leavesNothing_storeRejection (state : EngineState) (envelope : CommandEnvelope)
    (error : OrchestrationCommandInvariantError) :
    LeavesNothing state (storeRejection state envelope error) := by
  unfold storeRejection
  split
  · exact ⟨rfl, rfl, fun _ hreceipt _ => hreceipt⟩
  · refine ⟨rfl, rfl, fun receipt hreceipt haccepted => ?_⟩
    rcases KeyedTable.mem_of_mem_putRow hreceipt with rfl | hold
    · cases haccepted
    · exact hold

omit [TextRuntime] in
theorem leavesNothing_handleFailure (state : EngineState) (envelope : CommandEnvelope)
    (error : OrchestrationDispatchError) :
    LeavesNothing state (handleFailure state envelope error) := by
  have hreconcile : LeavesNothing state (reconcileReadModelAfterDispatchFailure state) := by
    constructor <;> rw [database_reconcile]
    exact fun _ hreceipt _ => hreceipt
  cases error with
  | previouslyRejected commandId detail => exact ⟨rfl, rfl, fun _ hreceipt _ => hreceipt⟩
  | invariant error =>
    have hstore := leavesNothing_storeRejection
      (reconcileReadModelAfterDispatchFailure state) envelope error
    exact ⟨hstore.log.trans hreconcile.log, hstore.pipeline.trans hreconcile.pipeline,
      fun receipt hreceipt haccepted =>
        hreconcile.receipts receipt (hstore.receipts receipt hreceipt haccepted) haccepted⟩
  | persistence => exact hreconcile
  | projectorDecode => exact hreconcile

variable {envelope : CommandEnvelope}

theorem leavesNothing_of_failed {state : EngineState} {error : OrchestrationDispatchError}
    (h : attemptCommand state envelope = .failed error) :
    LeavesNothing state (processEnvelope state envelope).1 := by
  rw [processEnvelope, h]
  exact leavesNothing_handleFailure state envelope error

omit [TextRuntime] in
theorem snapshotSequence_projectEvents (readModel : OrchestrationReadModel)
    (events : List OrchestrationEvent) :
    (projectEventsOntoReadModel readModel events).snapshotSequence =
      advance OrchestrationEvent.sequence readModel.snapshotSequence events := by
  induction events using List.reverseRecOn with
  | nil => rfl
  | append_singleton events event _ =>
    rw [advance_append_singleton, projectEventsOntoReadModel, List.foldl_append, List.foldl_cons,
      List.foldl_nil, projectEvent_snapshotSequence]

variable {start state : EngineState}

omit [TextRuntime] in
theorem InStep.current (h : InStep start state)
    (hstart : start.commandReadModel.snapshotSequence ≤ state.database.log.lastSequence) :
    state.commandReadModel.snapshotSequence = state.database.log.lastSequence := by
  rw [h.model, snapshotSequence_projectEvents]
  exact state.database.log.advance_after hstart

omit [TextRuntime] in
theorem reconcile_of_current
    (hcurrent : state.commandReadModel.snapshotSequence = state.database.log.lastSequence) :
    reconcileReadModelAfterDispatchFailure state = state := by
  have hnone : state.database.log.readFromSequence state.commandReadModel.snapshotSequence
      DEFAULT_READ_FROM_SEQUENCE_LIMIT = [] := by
    rw [EventLog.readFromSequence_eq_take, hcurrent, EventLog.after_lastSequence, List.take_nil]
  simp [reconcileReadModelAfterDispatchFailure, hnone]

omit [TextRuntime] in
theorem InStep.storeRejection (h : InStep start state) (envelope : CommandEnvelope)
    (error : OrchestrationCommandInvariantError) :
    InStep start (storeRejection state envelope error) := by
  unfold GT3Code.Orchestration.storeRejection
  split
  · exact h
  · exact ⟨h.model, h.published⟩

omit [TextRuntime] in
theorem InStep.handleFailure (h : InStep start state)
    (hcurrent : state.commandReadModel.snapshotSequence = state.database.log.lastSequence)
    (envelope : CommandEnvelope) (error : OrchestrationDispatchError) :
    InStep start (handleFailure state envelope error) := by
  cases error with
  | previouslyRejected commandId detail => exact h
  | invariant error =>
    rw [GT3Code.Orchestration.handleFailure, reconcile_of_current hcurrent]
    exact h.storeRejection envelope error
  | persistence | projectorDecode =>
    rwa [GT3Code.Orchestration.handleFailure, reconcile_of_current hcurrent]

section Commits

variable {envelope : CommandEnvelope} {eventBases : List PlannedOrchestrationEvent}
  {committed : CommittedCommand}

theorem eventsSince_commit
    (hstart : start.commandReadModel.snapshotSequence ≤ state.database.log.lastSequence)
    (hcommits : Commits state envelope.command eventBases committed) :
    committed.database.log.after start.commandReadModel.snapshotSequence =
      eventsSince start state ++ state.database.log.nextRows eventBases := by
  rw [hcommits.log, EventLog.after_appendAll _ _ hstart]
  rfl

theorem InStep.commit (h : InStep start state)
    (hstart : start.commandReadModel.snapshotSequence ≤ state.database.log.lastSequence)
    (hcommits : Commits state envelope.command eventBases committed) :
    InStep start (publishCommitted state committed) := by
  have hevents := eventsSince_commit hstart hcommits
  constructor
  · rw [eventsSince]
    simp only [publishCommitted]
    rw [hevents, hcommits.nextCommandReadModel, h.model, projectEventsOntoReadModel,
      projectEventsOntoReadModel, projectEventsOntoReadModel, List.foldl_append]
  · rw [eventsSince]
    simp only [publishCommitted]
    rw [hevents, hcommits.committedEvents, h.published]

theorem reconcile_unacknowledged
    (hcurrent : state.commandReadModel.snapshotSequence = state.database.log.lastSequence)
    (hcommits : Commits state envelope.command eventBases committed) :
    reconcileReadModelAfterDispatchFailure { state with database := committed.database } =
      { database := committed.database
        commandReadModel := projectEventsOntoReadModel state.commandReadModel
          ((state.database.log.nextRows eventBases).take DEFAULT_READ_FROM_SEQUENCE_LIMIT)
        published := state.published ++
          (state.database.log.nextRows eventBases).take DEFAULT_READ_FROM_SEQUENCE_LIMIT } := by
  have hread : committed.database.log.readFromSequence state.commandReadModel.snapshotSequence
      DEFAULT_READ_FROM_SEQUENCE_LIMIT =
      (state.database.log.nextRows eventBases).take DEFAULT_READ_FROM_SEQUENCE_LIMIT := by
    rw [EventLog.readFromSequence_eq_take, hcurrent, hcommits.log,
      EventLog.after_appendAll _ _ le_rfl, EventLog.after_lastSequence, List.nil_append]
  have hnonempty : ¬ ((state.database.log.nextRows eventBases).take
      DEFAULT_READ_FROM_SEQUENCE_LIMIT).length = 0 := by
    have hlength := List.length_pos_iff.mpr hcommits.nonempty
    rw [List.length_take, EventLog.length_nextRows, DEFAULT_READ_FROM_SEQUENCE_LIMIT]
    omega
  simp only [reconcileReadModelAfterDispatchFailure]
  rw [hread, if_neg hnonempty]

/-- An unacknowledged commit keeps the engine in step exactly when one default read
returns all of its events. -/
theorem inStep_unacknowledged_iff (h : InStep start state)
    (hstart : start.commandReadModel.snapshotSequence ≤ state.database.log.lastSequence)
    (hcommits : Commits state envelope.command eventBases committed) :
    InStep start (handleFailure { state with database := committed.database } envelope
        .persistence) ↔
      eventBases.length ≤ DEFAULT_READ_FROM_SEQUENCE_LIMIT := by
  have hevents := eventsSince_commit hstart hcommits
  rw [GT3Code.Orchestration.handleFailure, reconcile_unacknowledged (h.current hstart) hcommits]
  constructor
  · intro hafter
    have hpublished := hafter.published
    rw [eventsSince, hevents, h.published] at hpublished
    have hlength := congrArg List.length (List.append_cancel_left hpublished)
    rw [List.length_take, EventLog.length_nextRows] at hlength
    omega
  · intro hfits
    have htake : (state.database.log.nextRows eventBases).take DEFAULT_READ_FROM_SEQUENCE_LIMIT =
        state.database.log.nextRows eventBases :=
      List.take_of_length_le (by rwa [EventLog.length_nextRows])
    constructor
    · rw [eventsSince]
      simp only
      rw [hevents, htake, h.model, projectEventsOntoReadModel, projectEventsOntoReadModel,
        projectEventsOntoReadModel, List.foldl_append]
    · rw [eventsSince]
      simp only
      rw [hevents, htake, h.published]

end Commits

theorem inStep_processEnvelope_iff (h : InStep start state)
    (hstart : start.commandReadModel.snapshotSequence ≤ state.database.log.lastSequence)
    (envelope : CommandEnvelope) :
    InStep start (processEnvelope state envelope).1 ↔ UnacknowledgedCommitFits state envelope := by
  by_cases hunacknowledged : ∃ committed, attemptCommand state envelope = .unacknowledged committed
  · obtain ⟨committed, hattempt⟩ := hunacknowledged
    have hspec := exitSpec_attemptCommand state envelope
    rw [hattempt] at hspec
    obtain ⟨hfault, hlookup, eventBases, hdecide, hcommits⟩ := hspec
    rw [processEnvelope, hattempt]
    refine (inStep_unacknowledged_iff h hstart hcommits).trans ?_
    constructor
    · intro hfits _ _ planned hplanned
      cases hdecide.symm.trans hplanned
      exact hfits
    · exact fun hfits => hfits hfault hlookup eventBases hdecide
  · have hfits : UnacknowledgedCommitFits state envelope := by
      intro hfault hlookup eventBases hdecide
      by_cases hnonempty : eventBases = []
      · rw [hnonempty]
        exact Nat.zero_le _
      · obtain ⟨committed, hattempt, -⟩ :=
          attemptCommand_of_reachesCommit (by rw [hfault]; rfl) hlookup hdecide hnonempty
        rw [hfault] at hattempt
        exact absurd ⟨committed, hattempt⟩ hunacknowledged
    refine ⟨fun _ => hfits, fun _ => ?_⟩
    have hspec := exitSpec_attemptCommand state envelope
    rw [processEnvelope]
    cases hattempt : attemptCommand state envelope with
    | deduplicated sequence => exact h
    | committed command =>
      rw [hattempt] at hspec
      obtain ⟨-, eventBases, -, hcommits⟩ := hspec
      exact h.commit hstart hcommits
    | unacknowledged command => exact absurd ⟨command, hattempt⟩ hunacknowledged
    | failed error => exact h.handleFailure (h.current hstart) envelope error

theorem lastSequence_processEnvelope (state : EngineState) (envelope : CommandEnvelope) :
    state.database.log.lastSequence ≤
      (processEnvelope state envelope).1.database.log.lastSequence := by
  have hspec := exitSpec_attemptCommand state envelope
  rw [processEnvelope]
  cases hattempt : attemptCommand state envelope with
  | deduplicated sequence => exact le_rfl
  | committed command =>
    rw [hattempt] at hspec
    obtain ⟨-, eventBases, -, hcommits⟩ := hspec
    simp only [publishCommitted]
    rw [hcommits.log, EventLog.lastSequence_appendAll]
    omega
  | unacknowledged command =>
    rw [hattempt] at hspec
    obtain ⟨-, -, eventBases, -, hcommits⟩ := hspec
    simp only
    rw [(leavesNothing_handleFailure _ envelope .persistence).log]
    simp only
    rw [hcommits.log, EventLog.lastSequence_appendAll]
    omega
  | failed error => rw [(leavesNothing_handleFailure state envelope error).log]

/-- Every projector the snapshot needs has a backlog one default read returns. -/
def StartsCaughtUp (database : EngineDatabase) : Prop :=
  ∀ projector ∈ REQUIRED_SNAPSHOT_PROJECTORS,
    (database.log.after (database.pipeline.cursor projector)).length ≤
      DEFAULT_READ_FROM_SEQUENCE_LIMIT

variable {database : EngineDatabase}

theorem cursor_startEngine_le
    (hcursor : ∀ projector, database.pipeline.cursor projector ≤ database.log.lastSequence)
    (projector : ProjectorName) :
    (ProjectionPipeline.bootstrap database.log database.pipeline).cursor projector ≤
      database.log.lastSequence := by
  rw [cursor_bootstrap]
  exact database.log.advance_take_le (hcursor projector)

theorem snapshotSequence_startEngine_le
    (hcursor : ∀ projector, database.pipeline.cursor projector ≤ database.log.lastSequence) :
    (startEngine database).commandReadModel.snapshotSequence ≤ database.log.lastSequence := by
  have hle : (startEngine database).commandReadModel.snapshotSequence ≤
      (ProjectionPipeline.bootstrap database.log database.pipeline).cursor .projects :=
    le_computeSnapshotSequence_iff.mp le_rfl .projects (by decide)
  exact hle.trans (cursor_startEngine_le hcursor _)

theorem inStep_startEngine_iff
    (hcursor : ∀ projector, database.pipeline.cursor projector ≤ database.log.lastSequence) :
    InStep (startEngine database) (startEngine database) ↔ StartsCaughtUp database := by
  have hend : (startEngine database).commandReadModel.snapshotSequence =
      database.log.lastSequence ↔ StartsCaughtUp database := by
    refine (computeSnapshotSequence_eq_iff (cursor_startEngine_le hcursor)).trans ?_
    exact forall₂_congr (fun projector _ => cursor_bootstrap_eq_iff (hcursor projector))
  rw [← hend]
  constructor
  · intro h
    exact h.current (snapshotSequence_startEngine_le hcursor)
  · intro hcurrent
    have hnone : eventsSince (startEngine database) (startEngine database) = [] := by
      rw [eventsSince, hcurrent]
      exact database.log.after_lastSequence
    exact ⟨by rw [hnone]; rfl, by rw [hnone]; rfl⟩

/-- A command rolled back leaves nothing, and the model and the published stream stay
in step with the log exactly when start-up reads every event the projections miss and
no unacknowledged commit is longer than one default read. -/
theorem dispatch_atomic_iff_rereads_fit
    (hcursor : ∀ projector, database.pipeline.cursor projector ≤ database.log.lastSequence)
    (envelopes : List CommandEnvelope) :
    (∀ state envelope error, attemptCommand state envelope = .failed error →
      LeavesNothing state (processEnvelope state envelope).1) ∧
    (Throughout dispatch (InStep (startEngine database)) (startEngine database) envelopes ↔
      StartsCaughtUp database ∧
        StepsMeet dispatch UnacknowledgedCommitFits (startEngine database) envelopes) := by
  refine ⟨fun _ _ _ hfailed => leavesNothing_of_failed hfailed, ?_⟩
  have hrun : InStep (startEngine database) (startEngine database) →
      (Throughout dispatch (InStep (startEngine database)) (startEngine database) envelopes ↔
        StepsMeet dispatch UnacknowledgedCommitFits (startEngine database) envelopes) := by
    intro hstart
    refine throughout_iff_stepsMeet
      (I := fun state => (startEngine database).commandReadModel.snapshotSequence ≤
        state.database.log.lastSequence) ?_ ?_ (snapshotSequence_startEngine_le hcursor) hstart
      envelopes
    · intro state envelope next hsequence hnext
      cases hnext
      exact hsequence.trans (lastSequence_processEnvelope state envelope)
    · intro state envelope next hsequence hinStep hnext
      cases hnext
      exact inStep_processEnvelope_iff hinStep hsequence envelope
  rw [← inStep_startEngine_iff hcursor]
  constructor
  · exact fun h => ⟨h.start, (hrun h.start).mp h⟩
  · exact fun h => (hrun h.1).mpr h.2

/-! ## An unacknowledged delete of a thousand threads -/

theorem processEnvelope_single {event : PlannedOrchestrationEvent}
    (hfault : envelope.fault = none)
    (hlookup : KeyedTable.lookup envelope.command.commandId state.database.receipts = none)
    (hdecide : decideOrchestrationCommand envelope.env state.commandReadModel envelope.command =
      .ok [event]) :
    (processEnvelope state envelope).1.commandReadModel =
        projectEvent state.commandReadModel (state.database.log.nextRow event) ∧
      ∀ receipt ∈ (processEnvelope state envelope).1.database.receipts.rows,
        receipt.commandId = envelope.command.commandId ∨
          receipt ∈ state.database.receipts.rows := by
  obtain ⟨committed, hattempt, hcommits⟩ :=
    attemptCommand_of_reachesCommit (by rw [hfault]; rfl) hlookup hdecide (by simp)
  rw [processEnvelope, hattempt, hfault]
  simp only [commitTransaction, publishCommitted]
  refine ⟨hcommits.nextCommandReadModel, fun receipt hreceipt => ?_⟩
  obtain ⟨added, hid, -, -, hreceipts⟩ := hcommits.receipts
  rw [hreceipts] at hreceipt
  rcases KeyedTable.mem_of_mem_putRow hreceipt with rfl | hold
  · exact Or.inl hid
  · exact Or.inr hold

def indexedId (index : Nat) : String := String.ofList (List.replicate (index + 1) 'a')

omit [Collation] [TextRuntime] in
theorem indexedId_inj {i j : Nat} (h : indexedId i = indexedId j) : i = j := by
  have hlength := congrArg (fun id : String => id.toList.length) h
  simpa [indexedId] using hlength

def bulkEnvelope (fault : Option FaultPoint) (commandId : CommandId) (body : CommandBody) :
    CommandEnvelope where
  env := ⟨fun _ => "2026-01-01T00:00:00.000Z", fun _ => "event"⟩
  command := ⟨commandId, body⟩
  fault := fault
  rejectionFault := false
  rejectedAt := "2026-01-01T00:00:00.000Z"

def createProjectEnvelope : CommandEnvelope :=
  bulkEnvelope none "project" (.projectCreate
    ⟨"p1", "Project", "/srv/app", none, "2026-01-01T00:00:00.000Z"⟩)

def createThreadEnvelope (index : Nat) : CommandEnvelope :=
  bulkEnvelope none (indexedId index) (.threadCreate {
    threadId := indexedId index
    projectId := "p1"
    title := "Thread"
    modelSelection := ⟨"codex", "model", none⟩
    runtimeMode := .fullAccess
    interactionMode := .default
    branch := none
    worktreePath := none
    customMetadata := none
    createdAt := "2026-01-01T00:00:00.000Z" })

/-- The commit of the delete takes effect and is reported as failed. -/
def deleteProjectEnvelope : CommandEnvelope :=
  bulkEnvelope (some (.commit true)) "delete" (.projectDelete ⟨"p1", some true⟩)

def createEnvelopes (count : Nat) : List CommandEnvelope :=
  createProjectEnvelope :: (List.range count).map createThreadEnvelope

/-- The project and `count` active threads, by commands of known ids. -/
structure Grown (count : Nat) (state : EngineState) : Prop where
  project : ∃ project, findProjectById state.commandReadModel "p1" = some project
  threads : state.commandReadModel.threads.map
      (fun thread => (thread.id, thread.projectId, thread.deletedAt)) =
    (List.range count).map (fun index => (indexedId index, "p1", none))
  receipts : ∀ receipt ∈ state.database.receipts.rows,
    receipt.commandId = "project" ∨ ∃ index < count, receipt.commandId = indexedId index

theorem grown_start : Grown 0 (processEnvelope (startEngine .empty) createProjectEnvelope).1 := by
  have hmodel : (startEngine .empty).commandReadModel = getCommandReadModel .empty := by
    rw [startEngine_empty]
  have hlookup : KeyedTable.lookup createProjectEnvelope.command.commandId
      (startEngine .empty).database.receipts = none := rfl
  have hdecide : ∃ event payload, decideOrchestrationCommand createProjectEnvelope.env
      (startEngine .empty).commandReadModel createProjectEnvelope.command = .ok [event] ∧
      event.payload = .projectCreated payload ∧ payload.projectId = "p1" := by
    rw [hmodel]
    exact ⟨_, _, rfl, rfl, rfl⟩
  obtain ⟨event, payload, hdecide, hpayload, hid⟩ := hdecide
  obtain ⟨hnext, hreceipts⟩ := processEnvelope_single rfl hlookup hdecide
  rw [hmodel] at hnext
  refine ⟨⟨projectFromCreated payload, ?_⟩, ?_, fun receipt hreceipt => ?_⟩
  · rw [hnext, findProjectById, projectEvent_projects, projectProjects]
    simp only [EventLog.nextRow, PlannedOrchestrationEvent.withSequence_payload, hpayload]
    simp [getCommandReadModel, listProjectRows, PipelineState.empty, ProjectionTables.empty,
      toSorted, upsertEntry, projectFromCreated, hid]
  · rw [hnext, projectEvent_threads, projectThreads]
    simp only [EventLog.nextRow, PlannedOrchestrationEvent.withSequence_payload, hpayload]
    rfl
  · rcases hreceipts receipt hreceipt with hnew | hold
    · exact Or.inl hnew
    · cases hold

omit [Collation] [TextRuntime] in
theorem indexedId_ne {id : String} (h : id.toList.head? ≠ some 'a') (index : Nat) :
    id ≠ indexedId index := by
  rintro rfl
  simp [indexedId, List.replicate_succ] at h

omit [Collation] [TextRuntime] in
theorem Grown.ids {count : Nat} (h : Grown count state) :
    state.commandReadModel.threads.map OrchestrationThread.id =
      (List.range count).map indexedId := by
  have hfirst := congrArg (List.map Prod.fst) h.threads
  simpa [Function.comp_def] using hfirst

omit [Collation] [TextRuntime] in
theorem Grown.lookup_receipts {count : Nat} (h : Grown count state) {commandId : CommandId}
    (hproject : commandId ≠ "project") (hthread : ∀ index < count, commandId ≠ indexedId index) :
    KeyedTable.lookup commandId state.database.receipts = none := by
  refine KeyedTable.lookup_eq_none_iff.mpr (fun receipt hreceipt hkey => ?_)
  have hid : receipt.commandId = commandId := Option.some.inj hkey
  rcases h.receipts receipt hreceipt with hnew | ⟨index, hindex, hold⟩
  · exact hproject (hid.symm.trans hnew)
  · exact hthread index hindex (hid.symm.trans hold)

theorem Grown.createThread {count : Nat} (h : Grown count state) :
    Grown (count + 1) (processEnvelope state (createThreadEnvelope count)).1 := by
  obtain ⟨project, hproject⟩ := h.project
  have hlookup : KeyedTable.lookup (createThreadEnvelope count).command.commandId
      state.database.receipts = none := by
    refine h.lookup_receipts (indexedId_ne (by decide) count).symm (fun index hindex hsame => ?_)
    have := indexedId_inj hsame
    omega
  have habsent : findThreadById state.commandReadModel (indexedId count) = none := by
    refine findThreadById_eq_none.mpr (fun thread hthread hsame => ?_)
    have hmem : indexedId count ∈ (List.range count).map indexedId := by
      rw [← h.ids, ← hsame]
      exact List.mem_map.mpr ⟨thread, hthread, rfl⟩
    obtain ⟨index, hindex, hsame⟩ := List.mem_map.mp hmem
    have := indexedId_inj hsame
    rw [List.mem_range] at hindex
    omega
  have hdecide : ∃ event payload, decideOrchestrationCommand (createThreadEnvelope count).env
      state.commandReadModel (createThreadEnvelope count).command = .ok [event] ∧
      event.payload = .threadCreated payload ∧ payload.threadId = indexedId count ∧
      payload.projectId = "p1" :=
    ⟨_, _, bind_eq_ok.mpr ⟨project, requireProject_eq_ok.mpr hproject,
      bind_eq_ok.mpr ⟨(), requireThreadAbsent_eq_ok.mpr habsent, rfl⟩⟩, rfl, rfl, rfl⟩
  obtain ⟨event, payload, hdecide, hpayload, hthread, howner⟩ := hdecide
  obtain ⟨hnext, hreceipts⟩ := processEnvelope_single rfl hlookup hdecide
  refine ⟨⟨project, ?_⟩, ?_, fun receipt hreceipt => ?_⟩
  · rw [hnext, findProjectById, projectEvent_projects, projectProjects]
    simp only [EventLog.nextRow, PlannedOrchestrationEvent.withSequence_payload, hpayload]
    exact hproject
  · have happend : upsertEntry OrchestrationThread.id (threadFromCreated payload)
        state.commandReadModel.threads =
        state.commandReadModel.threads ++ [threadFromCreated payload] := by
      refine upsertEntry_of_fresh (fun other hother hsame => ?_)
      exact findThreadById_eq_none.mp habsent other hother (hsame.trans hthread)
    rw [hnext, projectEvent_threads, projectThreads]
    simp only [EventLog.nextRow, PlannedOrchestrationEvent.withSequence_payload, hpayload]
    rw [happend, List.map_append, h.threads, List.range_succ, List.map_append]
    simp [threadFromCreated, hthread, howner]
  · rcases hreceipts receipt hreceipt with hnew | hold
    · exact Or.inr ⟨count, Nat.lt_succ_self count, hnew⟩
    · rcases h.receipts receipt hold with hproject | ⟨index, hindex, hsame⟩
      · exact Or.inl hproject
      · exact Or.inr ⟨index, hindex.trans (Nat.lt_succ_self count), hsame⟩

theorem exec_createEnvelopes (count : Nat) :
    ∃ state, exec dispatch (startEngine .empty) (createEnvelopes count) = some state ∧
      Grown count state := by
  induction count with
  | zero => exact ⟨_, rfl, grown_start⟩
  | succ count ih =>
    obtain ⟨state, hexec, hgrown⟩ := ih
    refine ⟨_, ?_, hgrown.createThread⟩
    rw [createEnvelopes, List.range_succ, List.map_append, ← List.cons_append]
    rw [createEnvelopes] at hexec
    rw [exec_append, hexec]
    rfl

omit [Collation] [TextRuntime] in
theorem Grown.length_activeThreads {count : Nat} (h : Grown count state) :
    (activeThreads state.commandReadModel "p1").length = count := by
  have hall : activeThreads state.commandReadModel "p1" = state.commandReadModel.threads := by
    rw [activeThreads, listThreadsByProjectId, List.filter_filter]
    refine List.filter_eq_self.mpr (fun thread hthread => ?_)
    have hmem : (thread.id, thread.projectId, thread.deletedAt) ∈
        state.commandReadModel.threads.map
          (fun thread => (thread.id, thread.projectId, thread.deletedAt)) :=
      List.mem_map.mpr ⟨thread, hthread, rfl⟩
    rw [h.threads] at hmem
    obtain ⟨index, -, hsame⟩ := List.mem_map.mp hmem
    simp only [Prod.mk.injEq] at hsame
    simp [← hsame.2.1, ← hsame.2.2]
  rw [hall]
  have hlength := congrArg List.length h.threads
  simpa using hlength

omit [Collation] [TextRuntime] in
theorem Grown.distinctThreads {count : Nat} (h : Grown count state) :
    (state.commandReadModel.threads.map OrchestrationThread.id).Nodup := by
  rw [h.ids]
  exact List.nodup_range.map (fun _ _ => indexedId_inj)

omit [Collation] [TextRuntime] in
/-- The delete of a project with a thousand active threads plans 1001 events. When its
commit takes effect unacknowledged, the model and the stream miss the last of them. -/
theorem unacknowledged_delete_of_1000_threads_drifts :
    ¬ ∀ [Collation] [TextRuntime],
      Throughout dispatch (InStep (startEngine .empty)) (startEngine .empty)
        (createEnvelopes 1000 ++ [deleteProjectEnvelope]) := by
  intro h
  let _ := codePointCollation
  let _ := asciiTextRuntime
  obtain ⟨state, hexec, hgrown⟩ := exec_createEnvelopes 1000
  have hrun : Throughout dispatch (InStep (startEngine .empty)) state [deleteProjectEnvelope] :=
    Throughout.of_exec h hexec
  obtain ⟨project, hproject⟩ := hgrown.project
  obtain ⟨events, hdecide, hlength⟩ := decide_forcedDelete deleteProjectEnvelope.env "delete"
    hproject hgrown.distinctThreads
  have hlookup : KeyedTable.lookup deleteProjectEnvelope.command.commandId
      state.database.receipts = none :=
    hgrown.lookup_receipts (by decide) (fun index _ => indexedId_ne (by decide) index)
  have hstart : (startEngine .empty).commandReadModel.snapshotSequence ≤
      state.database.log.lastSequence :=
    (snapshotSequence_startEngine_le (fun _ => Nat.zero_le _)).trans (Nat.zero_le _)
  have hfits := (inStep_processEnvelope_iff hrun.1 hstart deleteProjectEnvelope).mp
    (hrun.2 _ rfl) rfl hlookup events hdecide
  rw [hlength, hgrown.length_activeThreads, DEFAULT_READ_FROM_SEQUENCE_LIMIT] at hfits
  omega

/-- A project is created, created again in vain, and given a thread by a commit that takes effect
and is reported as failed, so that its event is read again. -/
def unacknowledgedRun : List CommandEnvelope :=
  [createProjectEnvelope,
    bulkEnvelope none "again" createProjectEnvelope.command.body,
    { createThreadEnvelope 0 with fault := some (.commit true) }]

omit [Collation] [TextRuntime] in
theorem unacknowledged_thread_keeps_in_step :
    letI := codePointCollation
    letI := asciiTextRuntime
    Throughout dispatch (InStep (startEngine .empty)) (startEngine .empty) unacknowledgedRun ∧
      (exec dispatch (startEngine .empty) unacknowledgedRun).map (fun state =>
        (state.database.receipts.rows.map OrchestrationCommandReceipt.status,
          state.published.length, state.commandReadModel.threads.map OrchestrationThread.id)) =
        some ([.accepted, .rejected, .accepted], 2, [indexedId 0]) := by
  let _ := codePointCollation
  let _ := asciiTextRuntime
  have hplanned : (exec dispatch (startEngine .empty) (unacknowledgedRun.take 2)).map
      (fun state => (decideOrchestrationCommand (createThreadEnvelope 0).env
        state.commandReadModel (createThreadEnvelope 0).command).toOption.map List.length) =
      some (some 1) := by
    decide +kernel
  constructor
  · refine (dispatch_atomic_iff_rereads_fit (fun _ => Nat.zero_le _)
      unacknowledgedRun).2.mpr ⟨fun _ _ => Nat.zero_le _, ?_⟩
    refine (stepsMeet_cons rfl).mpr ⟨fun h => (by cases h), (stepsMeet_cons rfl).mpr
      ⟨fun h => (by cases h), (stepsMeet_cons rfl).mpr ⟨fun _ _ eventBases hdecide => ?_, trivial⟩⟩⟩
    have hone := (Option.some.inj hplanned).symm.trans
      (congrArg (fun result => result.toOption.map List.length) hdecide)
    rw [← Option.some.inj hone]
    decide
  · decide +kernel

end GT3Code.Orchestration
