import GT3Code.Orchestration.TurnRows

/-! # Thread rows

The threads projector reads four other tables and the turns. What an event makes of
one thread's row is said once: columns of its own, a latest turn, and whether the
derived columns are computed anew.
-/

namespace GT3Code.Orchestration

open GT3Code.Base GT3Code.Contracts GT3Code.Persistence

/-- How an event moves `latest_turn_id`. -/
inductive LatestTurnChange where
  | keep
  | set (turnId : Option TurnId)
  | revertTo (turnCount : Nat)

/-- A patch of one thread's row. `columns` leaves `latest_turn_id` and the derived
columns alone. -/
structure ThreadRowChange where
  threadId : ThreadId
  columns : ProjectionThread → ProjectionThread
  latestTurn : LatestTurnChange
  refresh : Bool

inductive ThreadRowEffect where
  | none
  | create (payload : ThreadCreatedPayload)
  | update (change : ThreadRowChange)

/-- The patch of a case that moves `updated_at` to the event and refreshes. -/
def touchRow (event : OrchestrationEvent) (threadId : ThreadId) (latestTurn : LatestTurnChange) :
    ThreadRowEffect :=
  .update ⟨threadId, fun row => { row with updatedAt := event.occurredAt }, latestTurn, true⟩

def threadRowEffect (event : OrchestrationEvent) : ThreadRowEffect :=
  match event.payload with
  | .threadCreated payload => .create payload
  | .threadArchived payload =>
    .update ⟨payload.threadId, fun row =>
      { row with archivedAt := some payload.archivedAt, updatedAt := payload.updatedAt },
      .keep, false⟩
  | .threadUnarchived payload =>
    .update ⟨payload.threadId, fun row =>
      { row with archivedAt := none, updatedAt := payload.updatedAt }, .keep, false⟩
  | .threadMetaUpdated payload =>
    .update ⟨payload.threadId, patchThreadRowMeta payload, .keep, false⟩
  | .threadRuntimeModeSet payload =>
    .update ⟨payload.threadId, fun row =>
      { row with runtimeMode := payload.runtimeMode, updatedAt := payload.updatedAt },
      .keep, false⟩
  | .threadInteractionModeSet payload =>
    .update ⟨payload.threadId, fun row =>
      { row with interactionMode := payload.interactionMode, updatedAt := payload.updatedAt },
      .keep, false⟩
  | .threadDeleted payload =>
    .update ⟨payload.threadId, fun row =>
      { row with deletedAt := some payload.deletedAt, updatedAt := payload.deletedAt },
      .keep, false⟩
  | .threadMessageSent payload => touchRow event payload.threadId .keep
  | .threadProposedPlanUpserted payload => touchRow event payload.threadId .keep
  | .threadActivityAppended payload => touchRow event payload.threadId .keep
  | .threadApprovalResponseRequested payload => touchRow event payload.threadId .keep
  | .threadUserInputResponseRequested payload => touchRow event payload.threadId .keep
  | .threadSessionSet payload =>
    touchRow event payload.threadId (.set payload.session.activeTurnId)
  | .threadTurnDiffCompleted payload => touchRow event payload.threadId (.set (some payload.turnId))
  | .threadReverted payload => touchRow event payload.threadId (.revertTo payload.turnCount)
  | _ => .none

def LatestTurnChange.eval (turns : TurnTable) (threadId : ThreadId) (current : Option TurnId) :
    LatestTurnChange → Option TurnId
  | keep => current
  | set turnId => turnId
  | revertTo turnCount =>
    latestTurnIdAfterRevert (TurnTable.listByThreadId turns threadId) turnCount

section Rows

variable [Collation] [TextRuntime]

def ThreadRowChange.apply (tables : ProjectionTables) (change : ThreadRowChange)
    (row : ProjectionThread) : ProjectionThread :=
  let latestTurnId := change.latestTurn.eval tables.turns change.threadId row.latestTurnId
  let patched := { change.columns row with latestTurnId := latestTurnId }
  if change.refresh then
    withSummary patched (threadShellSummary tables change.threadId latestTurnId)
  else patched

def ThreadRowEffect.step (tables : ProjectionTables) (threadId : ThreadId)
    (row : Option ProjectionThread) : ThreadRowEffect → Option ProjectionThread
  | .none => row
  | .create payload => if payload.threadId = threadId then some (createdThreadRow payload) else row
  | .update change => if change.threadId = threadId then row.map (change.apply tables) else row

omit [Collation] [TextRuntime] in
theorem lookup_patchThreadRow (threads : ThreadTable) (threadId other : ThreadId)
    {patch : ProjectionThread → ProjectionThread}
    (hpatch : ∀ row, (patch row).threadId = row.threadId) :
    KeyedTable.lookup other (patchThreadRow threads threadId patch) =
      if threadId = other then (KeyedTable.lookup other threads).map patch
      else KeyedTable.lookup other threads := by
  unfold patchThreadRow
  cases hfound : KeyedTable.lookup threadId threads with
  | none =>
    by_cases hsame : threadId = other
    · subst hsame
      simp [hfound]
    · simp [hsame]
  | some row =>
    have hrow : some row.threadId = some threadId :=
      (KeyedTable.lookup_eq_some_iff.mp hfound).2
    by_cases hsame : threadId = other
    · subst hsame
      simp only [hfound, Option.map_some, if_true]
      exact KeyedTable.lookup_put_self (by rw [hpatch, hrow]) threads
    · simp only [hsame, if_false]
      exact KeyedTable.lookup_put_of_ne (by rw [hpatch, hrow]; simpa using hsame) threads

theorem lookup_applyThreadsProjection (tables : ProjectionTables) (event : OrchestrationEvent)
    (threadId : ThreadId) :
    KeyedTable.lookup threadId (applyThreadsProjection tables event) =
      (threadRowEffect event).step tables threadId (KeyedTable.lookup threadId tables.threads) := by
  cases hpayload : event.payload with
  | threadCreated payload =>
    simp only [applyThreadsProjection, threadRowEffect, hpayload, ThreadRowEffect.step]
    by_cases hsame : payload.threadId = threadId
    · rw [if_pos hsame]
      exact KeyedTable.lookup_put_self (by rw [← hsame]; rfl) tables.threads
    · rw [if_neg hsame]
      exact KeyedTable.lookup_put_of_ne (by simpa [createdThreadRow] using hsame) tables.threads
  | projectCreated | projectMetaUpdated | projectDeleted | threadTurnStartRequested
  | threadTurnInterruptRequested | threadCheckpointRevertRequested | threadSessionStopRequested =>
    simp only [applyThreadsProjection, threadRowEffect, hpayload, ThreadRowEffect.step]
  | threadArchived | threadUnarchived | threadMetaUpdated | threadRuntimeModeSet
  | threadInteractionModeSet | threadDeleted =>
    simp only [applyThreadsProjection, threadRowEffect, hpayload, ThreadRowEffect.step]
    exact lookup_patchThreadRow _ _ _ (fun _ => rfl)
  | threadMessageSent | threadProposedPlanUpserted | threadActivityAppended
  | threadApprovalResponseRequested | threadUserInputResponseRequested | threadSessionSet
  | threadTurnDiffCompleted | threadReverted =>
    simp only [applyThreadsProjection, threadRowEffect, hpayload, ThreadRowEffect.step, touchRow]
    exact lookup_patchThreadRow _ _ _ (fun _ => rfl)

end Rows

end GT3Code.Orchestration
