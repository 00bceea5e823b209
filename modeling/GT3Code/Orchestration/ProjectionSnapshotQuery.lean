import GT3Code.Orchestration.ProjectionPipeline

/-! # Snapshot queries

What the server reads back from the projection tables: the read model the engine
starts from, and a thread in full for its subscribers. A snapshot stands at the
sequence every required projector has reached.
-/

namespace GT3Code.Orchestration

open GT3Code.Base GT3Code.Contracts GT3Code.Persistence

/-- `new Map(items.map((item) => [key(item), item])).get(k)`. -/
def mapGet {α κ : Type} [DecidableEq κ] (key : α → κ) (items : List α) (k : κ) : Option α :=
  items.reverse.find? (fun item => key item = k)

/-- The later of two ISO instants, compared as JavaScript compares strings. -/
def maxIso (left : Option IsoDateTime) (right : IsoDateTime) : Option IsoDateTime :=
  match left with
  | none => some right
  | some left => some (if 0 < compareUnits left right then left else right)

/-- `new Date(0).toISOString()`. -/
def epochIso : IsoDateTime := "1970-01-01T00:00:00.000Z"

def REQUIRED_SNAPSHOT_PROJECTORS : List ProjectorName :=
  [.projects, .threads, .threadMessages, .threadProposedPlans, .threadActivities,
    .threadSessions, .checkpoints]

/-- The loop over the required projectors; no minimum yet stands for infinity. -/
def leastSequence (sequenceOf : ProjectorName → Option Nat) :
    Option Nat → List ProjectorName → Nat
  | minSequence, [] => minSequence.getD 0
  | minSequence, projector :: projectors =>
    match sequenceOf projector with
    | none => 0
    | some sequence =>
      if minSequence.all (fun least => sequence < least) then
        leastSequence sequenceOf (some sequence) projectors
      else leastSequence sequenceOf minSequence projectors

/-- The least sequence of the required projectors, zero while one has no row. -/
def computeSnapshotSequence (stateRows : List ProjectionStateRow) : Nat :=
  if stateRows.length = 0 then 0
  else
    leastSequence (fun projector =>
      (mapGet ProjectionStateRow.projector stateRows projector).map
        ProjectionStateRow.lastAppliedSequence) none REQUIRED_SNAPSHOT_PROJECTORS

/-- `ORDER BY created_at ASC, project_id ASC`. -/
def listProjectRows (tables : ProjectionTables) : List ProjectionProject :=
  toSorted (fun left right => orElse (compareText left.createdAt right.createdAt)
    (compareText left.projectId right.projectId)) tables.projects.rows

/-- `ORDER BY created_at ASC, thread_id ASC`. -/
def listThreadRows (tables : ProjectionTables) : List ProjectionThread :=
  toSorted (fun left right => orElse (compareText left.createdAt right.createdAt)
    (compareText left.threadId right.threadId)) tables.threads.rows

/-- `ORDER BY thread_id ASC, created_at ASC, plan_id ASC`. -/
def listThreadProposedPlanRows (tables : ProjectionTables) : List ProjectionThreadProposedPlan :=
  toSorted (fun left right => orElse (compareText left.threadId right.threadId)
    (orElse (compareText left.createdAt right.createdAt)
      (compareText left.planId right.planId))) tables.proposedPlans.rows

/-- `ORDER BY thread_id ASC`. -/
def listThreadSessionRows (tables : ProjectionTables) : List ProjectionThreadSession :=
  toSorted (fun left right => compareText left.threadId right.threadId) tables.sessions.rows

/-- Threads joined with the turn their `latest_turn_id` names, in thread order. -/
def listLatestTurnRows (tables : ProjectionTables) : List ProjectionTurn :=
  toSorted (fun left right => compareText left.threadId right.threadId)
    (tables.threads.rows.filterMap (fun thread => thread.latestTurnId.bind (fun turnId =>
      TurnTable.getByTurnId tables.turns thread.threadId turnId)))

def mapProjectRow (row : ProjectionProject) : OrchestrationProject where
  id := row.projectId
  title := row.title
  workspaceRoot := row.workspaceRoot
  defaultModelSelection := row.defaultModelSelection
  scripts := row.scripts
  createdAt := row.createdAt
  updatedAt := row.updatedAt
  deletedAt := row.deletedAt

def mapTurnState : ProjectionTurnState → OrchestrationLatestTurnState
  | .error => .error
  | .interrupted => .interrupted
  | .completed => .completed
  | .pending | .running => .running

/-- A joined row always has a turn; its id is passed beside the row. -/
def mapLatestTurn (turnId : TurnId) (row : ProjectionTurn) : OrchestrationLatestTurn where
  turnId := turnId
  state := mapTurnState row.state
  requestedAt := row.requestedAt
  startedAt := row.startedAt
  completedAt := row.completedAt
  assistantMessageId := row.assistantMessageId
  sourceProposedPlan := row.sourceProposedPlanThreadId.bind (fun threadId =>
    row.sourceProposedPlanId.map (fun planId => ⟨threadId, planId⟩))

def mapSessionRow (row : ProjectionThreadSession) : OrchestrationSession where
  threadId := row.threadId
  status := row.status
  providerName := row.providerName
  providerInstanceId := row.providerInstanceId
  runtimeMode := row.runtimeMode
  activeTurnId := row.activeTurnId
  lastError := row.lastError
  updatedAt := row.updatedAt

def mapProposedPlanRow (row : ProjectionThreadProposedPlan) : OrchestrationProposedPlan where
  id := row.planId
  turnId := row.turnId
  planMarkdown := row.planMarkdown
  implementedAt := row.implementedAt
  implementationThreadId := row.implementationThreadId
  createdAt := row.createdAt
  updatedAt := row.updatedAt

def latestTurnOf (latestTurnRows : List ProjectionTurn) (threadId : ThreadId) :
    Option OrchestrationLatestTurn :=
  (mapGet ProjectionTurn.threadId latestTurnRows threadId).bind (fun row =>
    row.turnId.map (fun turnId => mapLatestTurn turnId row))

/-- Everything `updatedAt` is the maximum of, in the order it is visited. -/
def snapshotInstants (tables : ProjectionTables) (stateRows : List ProjectionStateRow) :
    List IsoDateTime :=
  (listProjectRows tables).map ProjectionProject.updatedAt ++
    (listThreadRows tables).map ProjectionThread.updatedAt ++
    (listThreadProposedPlanRows tables).map ProjectionThreadProposedPlan.updatedAt ++
    (listThreadSessionRows tables).map ProjectionThreadSession.updatedAt ++
    (listLatestTurnRows tables).flatMap (fun row =>
      row.requestedAt :: (row.startedAt.toList ++ row.completedAt.toList)) ++
    stateRows.map ProjectionStateRow.updatedAt

/-- A thread of the command read model. `customMetadata` is not read, and a missing
one counts as empty; neither are messages, activities and checkpoints. -/
def commandThread (tables : ProjectionTables) (row : ProjectionThread) : OrchestrationThread where
  id := row.threadId
  projectId := row.projectId
  title := row.title
  modelSelection := row.modelSelection
  runtimeMode := row.runtimeMode
  interactionMode := row.interactionMode
  branch := row.branch
  worktreePath := row.worktreePath
  latestTurn := latestTurnOf (listLatestTurnRows tables) row.threadId
  createdAt := row.createdAt
  updatedAt := row.updatedAt
  archivedAt := row.archivedAt
  deletedAt := row.deletedAt
  messages := []
  proposedPlans := ((listThreadProposedPlanRows tables).filter
    (fun plan => plan.threadId = row.threadId)).map mapProposedPlanRow
  activities := []
  checkpoints := []
  session := (mapGet ProjectionThreadSession.threadId (listThreadSessionRows tables)
    row.threadId).map mapSessionRow
  customMetadata := KeyedTable.empty _

def getCommandReadModel (state : PipelineState) : OrchestrationReadModel where
  snapshotSequence := computeSnapshotSequence state.projectionState.rows
  projects := (listProjectRows state.tables).map mapProjectRow
  threads := (listThreadRows state.tables).map (commandThread state.tables)
  updatedAt := ((snapshotInstants state.tables state.projectionState.rows).foldl
    (fun updatedAt instant => maxIso updatedAt instant) none).getD epochIso

/-- `thread_id = ? AND deleted_at IS NULL`. -/
def getActiveThreadRowById (tables : ProjectionTables) (threadId : ThreadId) :
    Option ProjectionThread :=
  (KeyedTable.lookup threadId tables.threads).filter (fun row => row.deletedAt.isNone)

/-- The turn the active thread's `latest_turn_id` names. -/
def getLatestTurnRowByThread (tables : ProjectionTables) (threadId : ThreadId) :
    Option OrchestrationLatestTurn :=
  (getActiveThreadRowById tables threadId).bind (fun row => row.latestTurnId.bind (fun turnId =>
    (TurnTable.getByTurnId tables.turns threadId turnId).map (mapLatestTurn turnId)))

/-- `checkpoint_turn_count IS NOT NULL ORDER BY checkpoint_turn_count ASC`. -/
def listCheckpointRowsByThread (turns : TurnTable) (threadId : ThreadId) : List ProjectionTurn :=
  listByThread ProjectionTurn.threadId
    (fun left right => compareNullable (byKey id) left.checkpointTurnCount
      right.checkpointTurnCount)
    (turns.restrict (fun row => row.checkpointTurnCount.isSome)) threadId

def mapCheckpointRow (row : ProjectionTurn) : Option OrchestrationCheckpointSummary := do
  let turnId ← row.turnId
  let checkpointTurnCount ← row.checkpointTurnCount
  let checkpointRef ← row.checkpointRef
  let status ← row.checkpointStatus
  let completedAt ← row.completedAt
  some {
    turnId := turnId
    checkpointTurnCount := checkpointTurnCount
    checkpointRef := checkpointRef
    status := status
    files := row.checkpointFiles
    assistantMessageId := row.assistantMessageId
    completedAt := completedAt }

def mapMessageRow (row : ProjectionThreadMessage) : OrchestrationMessage where
  id := row.messageId
  role := row.role
  text := units row.text
  attachments := row.attachments
  turnId := row.turnId
  streaming := row.isStreaming
  createdAt := row.createdAt
  updatedAt := row.updatedAt

def mapActivityRow (row : ProjectionThreadActivity) : OrchestrationThreadActivity where
  id := row.activityId
  tone := row.tone
  kind := row.kind
  summary := row.summary
  payload := row.payload
  turnId := row.turnId
  sequence := row.sequence
  createdAt := row.createdAt

def getThreadDetailById (tables : ProjectionTables) (threadId : ThreadId) :
    Option OrchestrationThread :=
  (getActiveThreadRowById tables threadId).map (fun row =>
    { id := row.threadId
      projectId := row.projectId
      title := row.title
      modelSelection := row.modelSelection
      runtimeMode := row.runtimeMode
      interactionMode := row.interactionMode
      branch := row.branch
      worktreePath := row.worktreePath
      latestTurn := getLatestTurnRowByThread tables threadId
      createdAt := row.createdAt
      updatedAt := row.updatedAt
      archivedAt := row.archivedAt
      deletedAt := none
      messages := (MessageTable.listByThreadId tables.messages threadId).map mapMessageRow
      proposedPlans :=
        (ProposedPlanTable.listByThreadId tables.proposedPlans threadId).map mapProposedPlanRow
      activities := (ActivityTable.listByThreadId tables.activities threadId).map mapActivityRow
      checkpoints :=
        (listCheckpointRowsByThread tables.turns threadId).filterMap mapCheckpointRow
      session := (KeyedTable.lookup threadId tables.sessions).map mapSessionRow
      customMetadata := row.customMetadata })

def getSnapshotSequence (state : PipelineState) : Nat :=
  computeSnapshotSequence state.projectionState.rows

variable {state : PipelineState} {n : Nat}

theorem mapGet_lookup (projector : ProjectorName) :
    mapGet ProjectionStateRow.projector state.projectionState.rows projector =
      KeyedTable.lookup projector state.projectionState := by
  unfold mapGet
  cases hfound : state.projectionState.rows.reverse.find?
      (fun row => row.projector = projector) with
  | none =>
    refine (KeyedTable.lookup_eq_none_iff.mpr (fun row hrow hkey => ?_)).symm
    have := List.find?_eq_none.mp hfound row (List.mem_reverse.mpr hrow)
    simp only [Option.some.injEq] at hkey
    simp [hkey] at this
  | some row =>
    have hmem := List.mem_reverse.mp (List.mem_of_find?_eq_some hfound)
    have hkey := List.find?_some hfound
    refine (KeyedTable.lookup_eq_some_iff.mpr ⟨hmem, ?_⟩).symm
    simpa using hkey

theorem le_leastSequence_iff {sequenceOf : ProjectorName → Option Nat} {least : Nat}
    {projectors : List ProjectorName} :
    n ≤ leastSequence sequenceOf (some least) projectors ↔
      n ≤ least ∧ ∀ projector ∈ projectors, n ≤ (sequenceOf projector).getD 0 := by
  induction projectors generalizing least with
  | nil => simp [leastSequence]
  | cons projector projectors ih =>
    cases hsequence : sequenceOf projector with
    | none =>
      simp only [leastSequence, hsequence, List.forall_mem_cons, Option.getD_none]
      constructor
      · intro hn
        exact ⟨by omega, hn, fun _ _ => by omega⟩
      · exact fun h => h.2.1
    | some sequence =>
      simp only [leastSequence, hsequence, List.forall_mem_cons, Option.getD_some,
        Option.all_some, decide_eq_true_eq]
      by_cases hless : sequence < least
      · rw [if_pos hless, ih]
        constructor
        · exact fun h => ⟨by omega, h⟩
        · exact fun h => h.2
      · rw [if_neg hless, ih]
        constructor
        · exact fun h => ⟨h.1, by omega, h.2⟩
        · exact fun h => ⟨h.1, h.2.2⟩

theorem le_computeSnapshotSequence_iff :
    n ≤ computeSnapshotSequence state.projectionState.rows ↔
      ∀ projector ∈ REQUIRED_SNAPSHOT_PROJECTORS, n ≤ state.cursor projector := by
  unfold computeSnapshotSequence
  split
  · rename_i hempty
    have hzero : ∀ projector, state.cursor projector = 0 := by
      intro projector
      rw [PipelineState.cursor, KeyedTable.lookup, List.length_eq_zero_iff.mp hempty]
      rfl
    constructor
    · exact fun hn projector _ => by rw [hzero]; exact hn
    · exact fun h => (h .projects (by decide)).trans_eq (hzero _)
  · simp only [mapGet_lookup]
    have hcursor : ∀ projector, state.cursor projector =
        ((KeyedTable.lookup projector state.projectionState).map
          ProjectionStateRow.lastAppliedSequence).getD 0 := fun _ => rfl
    simp only [hcursor]
    generalize hsequenceOf : (fun projector => (KeyedTable.lookup projector
      state.projectionState).map ProjectionStateRow.lastAppliedSequence) = sequenceOf
    have happly : ∀ projector, (KeyedTable.lookup projector state.projectionState).map
        ProjectionStateRow.lastAppliedSequence = sequenceOf projector :=
      fun projector => congrFun hsequenceOf projector
    simp only [happly]
    unfold REQUIRED_SNAPSHOT_PROJECTORS
    rw [List.forall_mem_cons, leastSequence]
    cases hfirst : sequenceOf .projects with
    | none =>
      constructor
      · exact fun hn => ⟨hn, fun _ _ => (Nat.le_zero.mp hn).trans_le (Nat.zero_le _)⟩
      · exact fun h => h.1
    | some sequence => simp [le_leastSequence_iff]

theorem computeSnapshotSequence_eq_iff (hcursor : ∀ projector, state.cursor projector ≤ n) :
    computeSnapshotSequence state.projectionState.rows = n ↔
      ∀ projector ∈ REQUIRED_SNAPSHOT_PROJECTORS, state.cursor projector = n := by
  have hle : computeSnapshotSequence state.projectionState.rows ≤ state.cursor .projects :=
    le_computeSnapshotSequence_iff.mp le_rfl .projects (by decide)
  have hbound : computeSnapshotSequence state.projectionState.rows ≤ n := hle.trans (hcursor _)
  constructor
  · intro hend projector hrequired
    have hreached := (le_computeSnapshotSequence_iff.mp hend.ge) projector hrequired
    exact Nat.le_antisymm (hcursor projector) hreached
  · intro hreached
    exact Nat.le_antisymm hbound
      (le_computeSnapshotSequence_iff.mpr (fun projector hrequired => (hreached projector hrequired).ge))

end GT3Code.Orchestration
