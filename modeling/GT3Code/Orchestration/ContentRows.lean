import GT3Code.Orchestration.ThreadRows

/-! # Rows of a thread's content

Messages, proposed plans and activities are keyed by their own ids, pending approvals
by their request. What an event makes of each table is said as membership: which rows
are there afterwards.
-/

namespace GT3Code.Orchestration

open GT3Code.Base GT3Code.Contracts GT3Code.Persistence

/-- A revert leaves the rows of other threads and, of the thread's, the kept ones. It
writes nothing where there is nothing to write. -/
theorem mem_revertRows {ρ κ : Type} [DecidableEq κ] {key : ρ → Option κ} (thread : ρ → ThreadId)
    (order : ρ → ρ → Int) (kept : ρ → Bool) (table : KeyedTable key) (threadId : ThreadId)
    {row : ρ} :
    row ∈ (if (listByThread thread order table threadId).length = 0 ∨
          ((listByThread thread order table threadId).filter kept).length =
            (listByThread thread order table threadId).length then table
        else KeyedTable.putAll ((listByThread thread order table threadId).filter kept)
          (deleteByThread thread table threadId)).rows ↔
      row ∈ table.rows ∧ (thread row = threadId → kept row = true) := by
  by_cases hsame : (listByThread thread order table threadId).length = 0 ∨
      ((listByThread thread order table threadId).filter kept).length =
        (listByThread thread order table threadId).length
  · rw [if_pos hsame]
    refine ⟨fun hrow => ⟨hrow, fun hthread => ?_⟩, And.left⟩
    have hlisted : row ∈ listByThread thread order table threadId :=
      mem_listByThread.mpr ⟨hrow, hthread⟩
    rcases hsame with hnone | hall
    · rw [List.length_eq_zero_iff.mp hnone] at hlisted
      cases hlisted
    · exact List.length_filter_eq_length_iff.mp hall row hlisted
  · rw [if_neg hsame]
    exact mem_putAll_deleteByThread thread order kept table threadId

theorem foldl_upsert_eq_putAll {table : MessageTable} {rows : List ProjectionThreadMessage}
    (hfresh : ∀ row ∈ rows, KeyedTable.lookup row.messageId table = none)
    (hnodup : (rows.map ProjectionThreadMessage.messageId).Nodup) :
    rows.foldl MessageTable.upsert table = KeyedTable.putAll rows table := by
  induction rows generalizing table with
  | nil => rfl
  | cons row rows ih =>
    rw [List.map_cons, List.nodup_cons] at hnodup
    have hrow : MessageTable.upsert table row = KeyedTable.put row table := by
      unfold MessageTable.upsert
      rw [hfresh row List.mem_cons_self]
      cases hattachments : row.attachments <;> simp [← hattachments]
    rw [List.foldl_cons, hrow, KeyedTable.putAll_cons]
    refine ih (fun other hother => ?_) hnodup.2
    have hne : other.messageId ≠ row.messageId :=
      fun heq => hnodup.1 (List.mem_map.mpr ⟨other, hother, heq⟩)
    have hkept : KeyedTable.lookup other.messageId (KeyedTable.put row table) =
        KeyedTable.lookup other.messageId table :=
      KeyedTable.lookup_put_of_ne (by simpa using hne.symm) table
    exact hkept.trans (hfresh other (List.mem_cons_of_mem _ hother))

section Messages

variable [Collation]

/-- Whether the retention over the thread's rows keeps the message. -/
def keepsMessage (messages : List ProjectionThreadMessage) (turns : List ProjectionTurn)
    (turnCount : Nat) (row : ProjectionThreadMessage) : Bool :=
  decide (row.messageId ∈ retainedMessageIds messageRowFields (namedMessageIds turns turnCount)
    messages (keptTurnIds turns turnCount) turnCount)

theorem retainProjectionMessages_eq (messages : List ProjectionThreadMessage)
    (turns : List ProjectionTurn) (turnCount : Nat) :
    retainProjectionMessagesAfterRevert messages turns turnCount =
      messages.filter (keepsMessage messages turns turnCount) := rfl

theorem revertMessages_eq (turns : TurnTable) (messages : MessageTable)
    (payload : ThreadRevertedPayload) :
    revertMessages turns messages payload =
      let existingRows := MessageTable.listByThreadId messages payload.threadId
      let keptRows := existingRows.filter (keepsMessage existingRows
        (TurnTable.listByThreadId turns payload.threadId) payload.turnCount)
      if existingRows.length = 0 ∨ keptRows.length = existingRows.length then messages
      else KeyedTable.putAll keptRows
        (MessageTable.deleteByThreadId messages payload.threadId) := by
  generalize hkept : keepsMessage (MessageTable.listByThreadId messages payload.threadId)
    (TurnTable.listByThreadId turns payload.threadId) payload.turnCount = kept
  have hnodup : (((MessageTable.listByThreadId messages payload.threadId).filter kept).map
      ProjectionThreadMessage.messageId).Nodup := by
    have hkeys : ((MessageTable.listByThreadId messages payload.threadId).filterMap
        (fun row => some row.messageId)).Nodup :=
      ((toSorted_perm _ _).filterMap _).nodup_iff.mpr
        (messages.unique.sublist (List.filter_sublist.filterMap _))
    rw [List.filterMap_eq_map'] at hkeys
    exact hkeys.sublist (List.filter_sublist.map _)
  have hfresh : ∀ row ∈ (MessageTable.listByThreadId messages payload.threadId).filter kept,
      KeyedTable.lookup row.messageId
        (MessageTable.deleteByThreadId messages payload.threadId) = none := by
    intro row hrow
    obtain ⟨hmem, hthread⟩ := mem_listByThread.mp (List.mem_of_mem_filter hrow)
    refine KeyedTable.lookup_eq_none_iff.mpr (fun other hother hkey => ?_)
    obtain ⟨hotherMem, hotherThread⟩ := List.mem_filter.mp hother
    have hsame : other = row := KeyedTable.eq_of_key hotherMem hmem hkey rfl
    rw [hsame] at hotherThread
    simp [hthread] at hotherThread
  unfold revertMessages
  simp only [retainProjectionMessages_eq, hkept]
  rw [foldl_upsert_eq_putAll hfresh hnodup]

theorem mem_revertMessages {turns : TurnTable} {messages : MessageTable}
    {payload : ThreadRevertedPayload} {row : ProjectionThreadMessage} :
    row ∈ (revertMessages turns messages payload).rows ↔
      row ∈ messages.rows ∧ (row.threadId = payload.threadId →
        keepsMessage (MessageTable.listByThreadId messages payload.threadId)
          (TurnTable.listByThreadId turns payload.threadId) payload.turnCount row = true) := by
  rw [revertMessages_eq]
  exact mem_revertRows ProjectionThreadMessage.threadId _ _ messages payload.threadId

end Messages

section Summary

variable [Collation] [TextRuntime] {tables : ProjectionTables} {event : OrchestrationEvent}

/-- The tables after the projectors other than the threads projector. -/
def projectContent (tables : ProjectionTables) (event : OrchestrationEvent) : ProjectionTables :=
  { tables with
    messages := applyThreadMessagesProjection tables.turns tables.messages event
    proposedPlans := applyThreadProposedPlansProjection tables.turns tables.proposedPlans event
    activities := applyThreadActivitiesProjection tables.turns tables.activities event
    pendingApprovals := applyPendingApprovalsProjection tables.pendingApprovals event }

end Summary

end GT3Code.Orchestration
