import GT3Code.Orchestration.ProjectionSnapshotQuery
import GT3Code.Orchestration.Projector
import GT3Code.Orchestration.LiveProjection

/-! # Checkpoint reactor

What the handlers of the reactor share: the ref of a checkpoint, the session a thread
runs in, the highest checkpoint of a thread, and the checkpoints a thread is read back
with after the events the reactor dispatches.
-/

namespace GT3Code.Orchestration

open GT3Code.Base GT3Code.Contracts GT3Code.Persistence

/-- `Encoding.encodeBase64Url` of the runtime. -/
class Base64UrlRuntime where
  encodeBase64Url : String → String

def CHECKPOINT_REFS_PREFIX : String := "refs/t3/checkpoints"

def checkpointRefForThreadTurn [Base64UrlRuntime] (threadId : ThreadId) (turnCount : Nat) :
    CheckpointRef :=
  CHECKPOINT_REFS_PREFIX ++ "/" ++ Base64UrlRuntime.encodeBase64Url threadId ++ "/turn/" ++
    toString turnCount

structure ProviderSession where
  threadId : ThreadId
  cwd : Option String

structure SessionRuntime where
  threadId : ThreadId
  cwd : String

def resolveSessionRuntimeForThread (sessions : List ProviderSession) (threadId : ThreadId) :
    Option SessionRuntime :=
  (sessions.find? (fun entry => entry.threadId = threadId)).bind (fun session =>
    (session.cwd.filter (fun cwd => cwd ≠ "")).map (fun cwd => ⟨session.threadId, cwd⟩))

/-- `checkpoints.reduce((max, c) => Math.max(max, c.checkpointTurnCount), 0)`. -/
def currentTurnCount (checkpoints : List OrchestrationCheckpointSummary) : Nat :=
  checkpoints.foldl (fun maxTurnCount checkpoint =>
    max maxTurnCount checkpoint.checkpointTurnCount) 0

theorem lt_foldl_turnCount_iff (checkpoints : List OrchestrationCheckpointSummary)
    (start turnCount : Nat) :
    turnCount < checkpoints.foldl (fun maxTurnCount checkpoint =>
      max maxTurnCount checkpoint.checkpointTurnCount) start ↔
      turnCount < start ∨ ∃ checkpoint ∈ checkpoints, turnCount < checkpoint.checkpointTurnCount := by
  induction checkpoints generalizing start with
  | nil => simp
  | cons checkpoint checkpoints ih =>
    rw [List.foldl_cons, ih, lt_max_iff, List.exists_mem_cons_iff, or_assoc]

variable {checkpoints : List OrchestrationCheckpointSummary}
  {checkpoint : OrchestrationCheckpointSummary} {turns : TurnTable}

theorem lt_currentTurnCount_iff {turnCount : Nat} :
    turnCount < currentTurnCount checkpoints ↔
      ∃ checkpoint ∈ checkpoints, turnCount < checkpoint.checkpointTurnCount := by
  rw [currentTurnCount, lt_foldl_turnCount_iff]
  exact or_iff_right (Nat.not_lt_zero turnCount)

theorem le_currentTurnCount (h : checkpoint ∈ checkpoints) :
    checkpoint.checkpointTurnCount ≤ currentTurnCount checkpoints := by
  by_contra hless
  have := lt_currentTurnCount_iff.mpr ⟨checkpoint, h, Nat.lt_of_not_le hless⟩
  omega

theorem exists_eq_currentTurnCount (h : 0 < currentTurnCount checkpoints) :
    ∃ checkpoint ∈ checkpoints, checkpoint.checkpointTurnCount = currentTurnCount checkpoints := by
  have hpred : currentTurnCount checkpoints - 1 < currentTurnCount checkpoints := by omega
  obtain ⟨checkpoint, hmem, hless⟩ := lt_currentTurnCount_iff.mp hpred
  have hle := le_currentTurnCount hmem
  exact ⟨checkpoint, hmem, by omega⟩

def threadCheckpoints (tables : ProjectionTables) (threadId : ThreadId) :
    Option (List OrchestrationCheckpointSummary) :=
  (getThreadDetailById tables threadId).map OrchestrationThread.checkpoints

theorem threadCheckpoints_eq (tables : ProjectionTables) (threadId : ThreadId) :
    threadCheckpoints tables threadId = (getActiveThreadRowById tables threadId).map
      (fun _ => (listCheckpointRowsByThread tables.turns threadId).filterMap mapCheckpointRow) := by
  unfold threadCheckpoints getThreadDetailById
  rw [Option.map_map]
  rfl

variable {threadId : ThreadId} {row : ProjectionTurn}

theorem threadCheckpoints_congr {tables others : ProjectionTables}
    (hactive : (getActiveThreadRowById tables threadId).isSome =
      (getActiveThreadRowById others threadId).isSome)
    (hturns : tables.turns = others.turns) :
    threadCheckpoints tables threadId = threadCheckpoints others threadId := by
  rw [threadCheckpoints_eq, threadCheckpoints_eq, hturns]
  cases hleft : getActiveThreadRowById tables threadId with
  | none =>
    rw [hleft] at hactive
    rw [Option.isSome_eq_false_iff.mp hactive.symm |> Option.isNone_iff_eq_none.mp]
  | some row =>
    rw [hleft] at hactive
    obtain ⟨other, hother⟩ := Option.isSome_iff_exists.mp hactive.symm
    rw [hother]
    rfl

theorem turnCount_of_mapCheckpointRow (h : mapCheckpointRow row = some checkpoint) :
    row.checkpointTurnCount = some checkpoint.checkpointTurnCount := by
  simp only [mapCheckpointRow, Option.bind_eq_bind, Option.bind_eq_some_iff,
    Option.some.injEq] at h
  obtain ⟨turnId, -, count, hcount, ref, -, status, -, completedAt, -, rfl⟩ := h
  exact hcount

def checkpointRows (turns : TurnTable) (threadId : ThreadId) :
    List OrchestrationCheckpointSummary :=
  (listCheckpointRowsByThread turns threadId).filterMap mapCheckpointRow

theorem turnId_of_mapCheckpointRow (h : mapCheckpointRow row = some checkpoint) :
    row.turnId = some checkpoint.turnId := by
  simp only [mapCheckpointRow, Option.bind_eq_bind, Option.bind_eq_some_iff,
    Option.some.injEq] at h
  obtain ⟨turnId, hturn, count, -, ref, -, status, -, completedAt, -, rfl⟩ := h
  exact hturn

theorem mem_checkpointRows :
    checkpoint ∈ checkpointRows turns threadId ↔
      ∃ row ∈ turns.rows, row.threadId = threadId ∧ mapCheckpointRow row = some checkpoint := by
  unfold checkpointRows
  rw [List.mem_filterMap]
  constructor
  · intro h
    obtain ⟨row, hrow, hcheckpoint⟩ := h
    obtain ⟨hmem, hthread⟩ := mem_listByThread.mp hrow
    rw [KeyedTable.rows_restrict, List.mem_filter] at hmem
    exact ⟨row, hmem.1, hthread, hcheckpoint⟩
  · intro h
    obtain ⟨row, hmem, hthread, hcheckpoint⟩ := h
    refine ⟨row, mem_listByThread.mpr ⟨?_, hthread⟩, hcheckpoint⟩
    rw [KeyedTable.rows_restrict, List.mem_filter]
    exact ⟨hmem, by rw [turnCount_of_mapCheckpointRow hcheckpoint]; rfl⟩

theorem mem_checkpointRows_completeTurnDiff {payload : ThreadTurnDiffCompletedPayload} :
    checkpoint ∈ checkpointRows (completeTurnDiff turns payload) payload.threadId ↔
      checkpoint = checkpointFromPayload payload ∨
      checkpoint ∈ checkpointRows turns payload.threadId ∧
        checkpoint.turnId ≠ payload.turnId ∧
        checkpoint.checkpointTurnCount ≠ payload.checkpointTurnCount := by
  obtain ⟨hthread, hturn⟩ := turnId_checkpointTurn turns payload
  have hown : mapCheckpointRow
      (checkpointTurn (TurnTable.getByTurnId turns payload.threadId payload.turnId) payload) =
      some (checkpointFromPayload payload) := by
    unfold mapCheckpointRow
    rw [hturn]
    rfl
  rw [mem_checkpointRows, mem_checkpointRows]
  constructor
  · intro h
    obtain ⟨row, hrow, hrowThread, hcheckpoint⟩ := h
    rcases mem_completeTurnDiff.mp hrow with rfl | ⟨existing, hmem, hkey, rfl⟩
    · left
      rw [hown] at hcheckpoint
      exact (Option.some.inj hcheckpoint).symm
    · right
      by_cases hconflict : TurnTable.conflicts payload.threadId payload.turnId
          payload.checkpointTurnCount existing = true
      · rw [if_pos hconflict] at hcheckpoint
        have hempty := turnCount_of_mapCheckpointRow hcheckpoint
        cases hempty
      · rw [if_neg hconflict] at hcheckpoint hrowThread
        refine ⟨⟨existing, hmem, hrowThread, hcheckpoint⟩, ?_, ?_⟩
        · intro heq
          have hexisting := turnId_of_mapCheckpointRow hcheckpoint
          exact hkey (by simp [turnKey, hexisting, hrowThread, heq])
        · intro heq
          rw [conflicts_iff hrowThread hkey, turnCount_of_mapCheckpointRow hcheckpoint] at hconflict
          exact hconflict (congrArg some heq)
  · intro h
    rcases h with rfl | ⟨⟨row, hmem, hrowThread, hcheckpoint⟩, hneTurn, hneCount⟩
    · exact ⟨_, mem_completeTurnDiff.mpr (Or.inl rfl), hthread, hown⟩
    · have hkey : turnKey row ≠ some (payload.threadId, payload.turnId) := by
        rw [turnKey, turnId_of_mapCheckpointRow hcheckpoint]
        simp [hneTurn]
      refine ⟨row, mem_completeTurnDiff.mpr (Or.inr ⟨row, hmem, hkey, ?_⟩), hrowThread, hcheckpoint⟩
      rw [if_neg]
      rw [conflicts_iff hrowThread hkey, turnCount_of_mapCheckpointRow hcheckpoint]
      simpa using hneCount

theorem turnCount_le_of_reverted {payload : ThreadRevertedPayload}
    (h : checkpoint ∈ (listCheckpointRowsByThread (revertTurns turns payload)
      payload.threadId).filterMap mapCheckpointRow) :
    checkpoint.checkpointTurnCount ≤ payload.turnCount := by
  obtain ⟨row, hrow, hcheckpoint⟩ := List.mem_filterMap.mp h
  obtain ⟨hmem, hthread⟩ := mem_listByThread.mp hrow
  rw [KeyedTable.rows_restrict, List.mem_filter] at hmem
  have hkept := (mem_revertTurns.mp hmem.1).2 hthread
  rw [isKeptTurn, turnCount_of_mapCheckpointRow hcheckpoint] at hkept
  simpa using (Bool.and_eq_true_iff.mp hkept).2

section Projection

variable [Collation] [TextRuntime]

variable {event : OrchestrationEvent}

theorem isSome_getActiveThreadRowById {threadId : ThreadId} {latestTurn : LatestTurnChange}
    (heffect : threadRowEffect event = touchRow event threadId latestTurn)
    (tables : ProjectionTables) (other : ThreadId) :
    (getActiveThreadRowById (projectTables tables event) other).isSome =
      (getActiveThreadRowById tables other).isSome := by
  have hlookup : ∃ patch : ProjectionThread → ProjectionThread,
      (∀ row, (patch row).deletedAt = row.deletedAt) ∧
      KeyedTable.lookup other (projectTables tables event).threads =
        if threadId = other then (KeyedTable.lookup other tables.threads).map patch
        else KeyedTable.lookup other tables.threads := by
    rw [projectTables_eq]
    simp only
    rw [lookup_applyThreadsProjection, heffect]
    refine ⟨_, ?_, rfl⟩
    intro row
    rfl
  obtain ⟨patch, hpatch, hlookup⟩ := hlookup
  unfold getActiveThreadRowById
  rw [hlookup]
  split
  · cases KeyedTable.lookup other tables.threads with
    | none => rfl
    | some row =>
      simp only [Option.map_some, Option.filter_some, hpatch]
      split <;> rfl
  · rfl

theorem tables_persist (database : Database) (event : PlannedOrchestrationEvent) :
    (database.persist event).pipeline.tables =
      projectTables database.pipeline.tables (database.log.nextRow event) :=
  tables_projectEvent _ _

theorem threadCheckpoints_activityAppended {payload : ThreadActivityAppendedPayload}
    (h : event.payload = .threadActivityAppended payload) (tables : ProjectionTables)
    (threadId : ThreadId) :
    threadCheckpoints (projectTables tables event) threadId = threadCheckpoints tables threadId := by
  apply threadCheckpoints_congr
  · have heffect : threadRowEffect event = touchRow event payload.threadId .keep := by
      rw [threadRowEffect, h]
    exact isSome_getActiveThreadRowById heffect tables threadId
  · rw [projectTables_eq]
    simp only [applyThreadTurnsProjection, h]

theorem turnCount_le_of_threadReverted {payload : ThreadRevertedPayload}
    (h : event.payload = .threadReverted payload) {tables : ProjectionTables}
    {checkpoints : List OrchestrationCheckpointSummary}
    (hcheckpoints : threadCheckpoints (projectTables tables event) payload.threadId =
      some checkpoints) :
    ∀ checkpoint ∈ checkpoints, checkpoint.checkpointTurnCount ≤ payload.turnCount := by
  have hturns : (projectTables tables event).turns = revertTurns tables.turns payload := by
    rw [projectTables_eq]
    simp only [applyThreadTurnsProjection, h]
  rw [threadCheckpoints_eq, hturns, Option.map_eq_some_iff] at hcheckpoints
  obtain ⟨row, -, rfl⟩ := hcheckpoints
  intro checkpoint hmem
  exact turnCount_le_of_reverted hmem

end Projection

end GT3Code.Orchestration
