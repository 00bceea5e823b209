import GT3Code.Orchestration.ProviderRuntimeIngestion

/-! # Threads and each other's rows

The rows of a thread in the shared tables against the projection of the thread's own
events. Turn rows carry their thread in the key; message and approval rows do not.
-/

namespace GT3Code.Orchestration

open GT3Code.Base GT3Code.Contracts GT3Code.Persistence

/-! ## The part of a table that is a thread's -/

def ofThread {ρ κ : Type} {key : ρ → Option κ} (thread : ρ → ThreadId) (threadId : ThreadId)
    (table : KeyedTable key) : KeyedTable key :=
  table.restrict (fun row => decide (thread row = threadId))

section Parts

variable {ρ κ : Type} {key : ρ → Option κ} {thread : ρ → ThreadId} {order : ρ → ρ → Int}
  {table : KeyedTable key} {threadId other : ThreadId}

theorem listByThread_ofThread :
    listByThread thread order (ofThread thread threadId table) threadId =
      listByThread thread order table threadId := by
  simp only [listByThread, ofThread, KeyedTable.rows_restrict, List.filter_filter, Bool.and_self]

theorem deleteByThread_ofThread :
    deleteByThread thread (ofThread thread threadId table) threadId = .empty key := by
  apply KeyedTable.ext
  simp [deleteByThread, ofThread]

theorem ofThread_deleteByThread :
    ofThread thread other (deleteByThread thread table threadId) =
      if threadId = other then .empty key else ofThread thread other table := by
  by_cases hsame : threadId = other
  · subst hsame
    rw [if_pos rfl]
    apply KeyedTable.ext
    simp [deleteByThread, ofThread]
  · rw [if_neg hsame]
    apply KeyedTable.restrict_restrict_of_imp
    intro row hrow
    rw [decide_eq_true_eq] at hrow ⊢
    rw [hrow]
    exact Ne.symm hsame

variable [DecidableEq κ]

variable {row : ρ} {k : κ}

theorem ofThread_put_self (hrow : thread row = threadId)
    (hold : ∀ k existing, key row = some k → KeyedTable.lookup k table = some existing →
      thread existing = threadId) :
    ofThread thread threadId (KeyedTable.put row table) =
      KeyedTable.put row (ofThread thread threadId table) :=
  KeyedTable.restrict_put_of_true (decide_eq_true hrow)
    (fun k existing hk hfound => decide_eq_true (hold k existing hk hfound))

theorem ofThread_put_of_ne (hrow : thread row ≠ threadId)
    (hold : ∀ k existing, key row = some k → KeyedTable.lookup k table = some existing →
      thread existing ≠ threadId) :
    ofThread thread threadId (KeyedTable.put row table) = ofThread thread threadId table :=
  KeyedTable.restrict_put_of_false (decide_eq_false hrow)
    (fun k existing hk hfound => decide_eq_false (hold k existing hk hfound))

theorem lookup_ofThread
    (hold : ∀ existing ∈ KeyedTable.lookup k table, thread existing = threadId) :
    KeyedTable.lookup k (ofThread thread threadId table) = KeyedTable.lookup k table := by
  rw [ofThread, KeyedTable.lookup_restrict]
  cases hfound : KeyedTable.lookup k table with
  | none => rfl
  | some existing =>
    rw [Option.filter_some_pos]
    exact decide_eq_true (hold existing hfound)

theorem lookup_ofThread_of_ne {existing : ρ} (hfound : KeyedTable.lookup k table = some existing)
    (hne : thread existing ≠ threadId) :
    KeyedTable.lookup k (ofThread thread threadId table) = none := by
  rw [ofThread, KeyedTable.lookup_restrict, hfound,
    Option.filter_some_neg (by simpa using hne)]

theorem ofThread_putAll_deleteByThread (kept : ρ → Bool) :
    ofThread thread other (KeyedTable.putAll ((listByThread thread order table threadId).filter
        kept) (deleteByThread thread table threadId)) =
      if threadId = other then
        KeyedTable.putAll ((listByThread thread order (ofThread thread other table) other).filter
          kept) (deleteByThread thread (ofThread thread other table) other)
      else ofThread thread other table := by
  apply KeyedTable.ext
  have hrows : ∀ row ∈ (listByThread thread order table threadId).filter kept,
      thread row = threadId := by
    intro row hrow
    exact (mem_listByThread.mp (List.mem_filter.mp hrow).1).2
  rw [ofThread, KeyedTable.rows_restrict, rows_putAll_deleteByThread, List.filter_append]
  have hdeleted : (deleteByThread thread table threadId).rows.filter
      (fun row => decide (thread row = other)) =
        (if threadId = other then KeyedTable.empty key else ofThread thread other table).rows :=
    congrArg KeyedTable.rows ofThread_deleteByThread
  rw [hdeleted]
  by_cases hsame : threadId = other
  · subst hsame
    rw [if_pos rfl, if_pos rfl, rows_putAll_deleteByThread, deleteByThread_ofThread,
      listByThread_ofThread, List.filter_eq_self.mpr]
    intro row hrow
    exact decide_eq_true (hrows row hrow)
  · rw [if_neg hsame, if_neg hsame, List.filter_eq_nil_iff.mpr, List.append_nil]
    intro row hrow heq
    exact hsame ((hrows row hrow).symm.trans (of_decide_eq_true heq))

theorem ofThread_revertRows (kept : ρ → Bool) :
    ofThread thread other
        (if (listByThread thread order table threadId).length = 0 ∨
            ((listByThread thread order table threadId).filter kept).length =
              (listByThread thread order table threadId).length then table
          else KeyedTable.putAll ((listByThread thread order table threadId).filter kept)
            (deleteByThread thread table threadId)) =
      if threadId = other then
        (if (listByThread thread order (ofThread thread other table) other).length = 0 ∨
            ((listByThread thread order (ofThread thread other table) other).filter kept).length =
              (listByThread thread order (ofThread thread other table) other).length then
            ofThread thread other table
          else KeyedTable.putAll
            ((listByThread thread order (ofThread thread other table) other).filter kept)
            (deleteByThread thread (ofThread thread other table) other))
      else ofThread thread other table := by
  by_cases hsame : threadId = other
  · subst hsame
    rw [if_pos rfl, listByThread_ofThread]
    split
    · rfl
    · rw [ofThread_putAll_deleteByThread, if_pos rfl, listByThread_ofThread]
  · rw [if_neg hsame]
    split
    · rfl
    · rw [ofThread_putAll_deleteByThread, if_neg hsame]

end Parts

section Turns

variable {turns : TurnTable} {threadId : ThreadId}

theorem getByTurnId_ofThread (turnId : TurnId) :
    TurnTable.getByTurnId (ofThread ProjectionTurn.threadId threadId turns) threadId turnId =
      TurnTable.getByTurnId turns threadId turnId := by
  apply lookup_ofThread
  intro existing hexisting
  exact (key_of_getByTurnId hexisting).1

theorem getPendingTurnStart_ofThread :
    TurnTable.getPendingTurnStartByThreadId (ofThread ProjectionTurn.threadId threadId turns)
      threadId = TurnTable.getPendingTurnStartByThreadId turns threadId := by
  unfold TurnTable.getPendingTurnStartByThreadId ofThread
  rw [KeyedTable.rows_restrict, List.filter_filter]
  congr 2
  refine List.filter_congr (fun row _ => ?_)
  by_cases hthread : row.threadId = threadId
  · simp [hthread]
  · simp [TurnTable.isPendingOf, hthread]

variable {other : ThreadId}

theorem ofThread_upsertByTurnId {row : ProjectionTurn} (hrow : row.threadId = threadId) :
    ofThread ProjectionTurn.threadId other (TurnTable.upsertByTurnId turns row) =
      if threadId = other then
        TurnTable.upsertByTurnId (ofThread ProjectionTurn.threadId other turns) row
      else ofThread ProjectionTurn.threadId other turns := by
  have hold : ∀ k existing, turnKey row = some k → KeyedTable.lookup k turns = some existing →
      existing.threadId = threadId := by
    intro k existing hk hfound
    have hkey := (KeyedTable.lookup_eq_some_iff.mp hfound).2
    obtain ⟨turnId, -, hturnKey⟩ := Option.map_eq_some_iff.mp hk
    obtain ⟨otherTurn, -, hotherKey⟩ := Option.map_eq_some_iff.mp hkey
    have hsame := congrArg Prod.fst (hotherKey.trans hturnKey.symm)
    exact hsame.trans hrow
  by_cases hsame : threadId = other
  · subst hsame
    rw [if_pos rfl]
    exact ofThread_put_self hrow hold
  · rw [if_neg hsame]
    apply ofThread_put_of_ne
    · rw [hrow]
      exact hsame
    · intro k existing hk hfound
      rw [hold k existing hk hfound]
      exact hsame

theorem ofThread_deletePending :
    ofThread ProjectionTurn.threadId other
        (TurnTable.deletePendingTurnStartByThreadId turns threadId) =
      if threadId = other then
        TurnTable.deletePendingTurnStartByThreadId (ofThread ProjectionTurn.threadId other turns)
          other
      else ofThread ProjectionTurn.threadId other turns := by
  by_cases hsame : threadId = other
  · subst hsame
    rw [if_pos rfl]
    exact KeyedTable.restrict_restrict_comm _
  · rw [if_neg hsame]
    apply KeyedTable.restrict_restrict_of_imp
    intro row hrow
    have hne : row.threadId ≠ threadId := by
      rw [of_decide_eq_true hrow]
      exact Ne.symm hsame
    simp [TurnTable.isPendingOf, hne]

theorem ofThread_clearCheckpointTurnConflict {turnId : TurnId} {count : Nat} :
    ofThread ProjectionTurn.threadId other
        (TurnTable.clearCheckpointTurnConflict turns threadId turnId count) =
      if threadId = other then
        TurnTable.clearCheckpointTurnConflict (ofThread ProjectionTurn.threadId other turns) other
          turnId count
      else ofThread ProjectionTurn.threadId other turns := by
  have hthread : ∀ row : ProjectionTurn,
      decide ((if TurnTable.conflicts threadId turnId count row then
        TurnTable.withoutCheckpoint row else row).threadId = other) =
        decide (row.threadId = other) := by
    intro row
    split
    · rfl
    · rfl
  by_cases hsame : threadId = other
  · subst hsame
    rw [if_pos rfl]
    exact KeyedTable.restrict_amend hthread
  · rw [if_neg hsame]
    apply KeyedTable.restrict_amend_of_false hthread
    intro row hrow
    have hne : row.threadId ≠ threadId := by
      rw [of_decide_eq_true hrow]
      exact Ne.symm hsame
    rw [if_neg]
    simp [TurnTable.conflicts, hne]

theorem ofThread_applyThreadTurns (event : OrchestrationEvent) :
    ofThread ProjectionTurn.threadId other (applyThreadTurnsProjection turns event) =
      if event.payload.threadId = some other then
        applyThreadTurnsProjection (ofThread ProjectionTurn.threadId other turns) event
      else ofThread ProjectionTurn.threadId other turns := by
  cases hpayload : event.payload with
  | threadTurnStartRequested payload =>
    simp only [applyThreadTurnsProjection, hpayload, EventPayload.threadId, Option.some.injEq,
      TurnTable.replacePendingTurnStart]
    refine (ofThread_upsertByTurnId rfl).trans ?_
    rw [ofThread_deletePending]
    split
    · rename_i hsame
      subst hsame
      rfl
    · rfl
  | threadSessionSet payload =>
    simp only [applyThreadTurnsProjection, hpayload, EventPayload.threadId, Option.some.injEq]
    cases payload.session.activeTurnId with
    | none => rw [ite_self]
    | some turnId =>
      simp only
      by_cases hrunning : payload.session.status = .running
      · rw [if_pos hrunning, if_pos hrunning, ofThread_deletePending,
          ofThread_upsertByTurnId (key_runningTurn turns payload.threadId turnId _).1]
        split
        · rename_i hsame
          subst hsame
          rw [runningTurn, runningTurn, getByTurnId_ofThread, getPendingTurnStart_ofThread]
        · rfl
      · rw [if_neg hrunning, if_neg hrunning, ite_self]
  | threadMessageSent payload =>
    simp only [applyThreadTurnsProjection, hpayload, EventPayload.threadId, Option.some.injEq]
    cases payload.turnId with
    | none => rw [ite_self]
    | some turnId =>
      simp only
      by_cases hrole : payload.role = .assistant
      · rw [if_pos hrole, if_pos hrole,
          ofThread_upsertByTurnId (key_messageTurn turns turnId payload).1]
        split
        · rename_i hsame
          subst hsame
          rw [messageTurn, messageTurn, getByTurnId_ofThread]
        · rfl
      · rw [if_neg hrole, if_neg hrole, ite_self]
  | threadTurnInterruptRequested payload =>
    simp only [applyThreadTurnsProjection, hpayload, EventPayload.threadId, Option.some.injEq]
    cases payload.turnId with
    | none => rw [ite_self]
    | some turnId =>
      simp only
      have hrow : (interruptedTurn turns turnId payload).threadId = payload.threadId := by
        unfold interruptedTurn
        split
        · rename_i existing hfound
          exact (key_of_getByTurnId hfound).1
        · rfl
      rw [ofThread_upsertByTurnId hrow]
      split
      · rename_i hsame
        subst hsame
        rw [interruptedTurn, interruptedTurn, getByTurnId_ofThread]
      · rfl
  | threadTurnDiffCompleted payload =>
    simp only [applyThreadTurnsProjection, hpayload, EventPayload.threadId, Option.some.injEq,
      completeTurnDiff]
    rw [ofThread_upsertByTurnId (turnId_checkpointTurn turns payload).1,
      ofThread_clearCheckpointTurnConflict]
    split
    · rename_i hsame
      subst hsame
      rw [getByTurnId_ofThread]
    · rfl
  | threadReverted payload =>
    simp only [applyThreadTurnsProjection, hpayload, EventPayload.threadId, Option.some.injEq,
      revertTurns, keptTurns]
    refine (ofThread_putAll_deleteByThread _).trans ?_
    split
    · rename_i hsame
      subst hsame
      rfl
    · rfl
  | _ =>
    simp only [applyThreadTurnsProjection, hpayload, ite_self]

end Turns

section Messages

variable [Collation] {turns : TurnTable} {messages : MessageTable} {other : ThreadId}

theorem ofThread_revertMessages (payload : ThreadRevertedPayload) :
    ofThread ProjectionThreadMessage.threadId other (revertMessages turns messages payload) =
      if payload.threadId = other then
        revertMessages (ofThread ProjectionTurn.threadId other turns)
          (ofThread ProjectionThreadMessage.threadId other messages) payload
      else ofThread ProjectionThreadMessage.threadId other messages := by
  rw [revertMessages_eq, revertMessages_eq]
  refine (ofThread_revertRows _).trans ?_
  split
  · rename_i hsame
    subst hsame
    have hturns : TurnTable.listByThreadId
        (ofThread ProjectionTurn.threadId payload.threadId turns) payload.threadId =
          TurnTable.listByThreadId turns payload.threadId := listByThread_ofThread
    have hmessages : MessageTable.listByThreadId
        (ofThread ProjectionThreadMessage.threadId payload.threadId messages) payload.threadId =
          MessageTable.listByThreadId messages payload.threadId := listByThread_ofThread
    simp only [hturns, hmessages, listByThread_ofThread]
    rfl
  · rfl

/-- Where a message is sent under an id no other thread holds, the message projector works on
the rows of the event's thread. -/
theorem ofThread_applyThreadMessages {event : OrchestrationEvent}
    (howned : ∀ payload, event.payload = .threadMessageSent payload →
      ∀ row ∈ KeyedTable.lookup payload.messageId messages, row.threadId = payload.threadId) :
    ofThread ProjectionThreadMessage.threadId other
        (applyThreadMessagesProjection turns messages event) =
      if event.payload.threadId = some other then
        applyThreadMessagesProjection (ofThread ProjectionTurn.threadId other turns)
          (ofThread ProjectionThreadMessage.threadId other messages) event
      else ofThread ProjectionThreadMessage.threadId other messages := by
  cases hpayload : event.payload with
  | threadMessageSent payload =>
    have hrows := howned payload hpayload
    have hold : ∀ k existing, some payload.messageId = some k →
        KeyedTable.lookup k messages = some existing → existing.threadId = payload.threadId := by
      intro k existing hk hfound
      cases hk
      exact hrows existing hfound
    simp only [applyThreadMessagesProjection, hpayload, EventPayload.threadId,
      Option.some.injEq, MessageTable.upsert]
    by_cases hsame : payload.threadId = other
    · subst hsame
      rw [if_pos rfl]
      have hlookup : KeyedTable.lookup payload.messageId
          (ofThread ProjectionThreadMessage.threadId payload.threadId messages) =
            KeyedTable.lookup payload.messageId messages := lookup_ofThread hrows
      rw [hlookup]
      have hmessageId : ∀ previous, (messageRow payload previous).messageId =
          payload.messageId := fun _ => rfl
      simp only [hmessageId, hlookup]
      exact ofThread_put_self rfl hold
    · rw [if_neg hsame]
      apply ofThread_put_of_ne
      · exact hsame
      · intro k existing hk hfound
        rw [hold k existing hk hfound]
        exact hsame
  | threadReverted payload =>
    simp only [applyThreadMessagesProjection, hpayload, EventPayload.threadId,
      Option.some.injEq]
    exact ofThread_revertMessages payload
  | _ => simp only [applyThreadMessagesProjection, hpayload, ite_self]

end Messages

section Approvals

variable [TextRuntime] {pendingApprovals : PendingApprovalTable} {event : OrchestrationEvent}
  {requestId : ApprovalRequestId} {other : ThreadId}

def approvalRequest (event : OrchestrationEvent) : Option ApprovalRequestId :=
  match event.payload with
  | .threadActivityAppended payload =>
    (extractActivityRequestId payload.activity.payload).orElse (fun _ => event.metadata.requestId)
  | .threadApprovalResponseRequested payload => some payload.requestId
  | _ => none

omit [TextRuntime] in
theorem exists_threadId_of_approvalRequest (h : requestId ∈ approvalRequest event) :
    ∃ threadId, event.payload.threadId = some threadId := by
  cases hpayload : event.payload with
  | threadActivityAppended payload => exact ⟨_, rfl⟩
  | threadApprovalResponseRequested payload => exact ⟨_, rfl⟩
  | _ =>
    simp only [approvalRequest, hpayload] at h
    cases h

/-- The row an activity writes over the request's row, none where it writes none. -/
def approvalAfterActivity (existingRow : Option ProjectionPendingApproval)
    (requestId : ApprovalRequestId) (payload : ThreadActivityAppendedPayload) :
    Option ProjectionPendingApproval :=
  let activity := payload.activity
  if activity.kind = "approval.resolved" then
    some
      { requestId := requestId
        threadId := (existingRow.map ProjectionPendingApproval.threadId).getD payload.threadId
        turnId := (existingRow.map ProjectionPendingApproval.turnId).getD activity.turnId
        status := .resolved
        decision := resolvedDecision activity.payload
        createdAt := (existingRow.map ProjectionPendingApproval.createdAt).getD activity.createdAt
        resolvedAt := some activity.createdAt }
  else if activity.kind = "provider.approval.respond.failed" then
    if isStalePendingApprovalFailureDetail (failureDetail activity.payload) then
      (existingRow.filter (fun row => row.status ≠ .resolved)).map (fun row =>
        { row with
          status := .resolved
          decision := none
          resolvedAt := some activity.createdAt })
    else none
  else if activity.kind ≠ "approval.requested" then none
  else if existingRow.any (fun row => row.status = .resolved) then none
  else
    some
      { requestId := requestId
        threadId := payload.threadId
        turnId := activity.turnId
        status := .pending
        decision := none
        createdAt := (existingRow.map ProjectionPendingApproval.createdAt).getD activity.createdAt
        resolvedAt := none }

def writtenApproval (existingRow : Option ProjectionPendingApproval)
    (requestId : ApprovalRequestId) (event : OrchestrationEvent) :
    Option ProjectionPendingApproval :=
  match event.payload with
  | .threadActivityAppended payload => approvalAfterActivity existingRow requestId payload
  | .threadApprovalResponseRequested payload =>
    some
      { requestId := requestId
        threadId := (existingRow.map ProjectionPendingApproval.threadId).getD payload.threadId
        turnId := existingRow.bind ProjectionPendingApproval.turnId
        status := .resolved
        decision := some payload.decision
        createdAt :=
          (existingRow.map ProjectionPendingApproval.createdAt).getD payload.createdAt
        resolvedAt := some payload.createdAt }
  | _ => none

theorem applyApprovalActivity_eq (payload : ThreadActivityAppendedPayload) :
    applyApprovalActivity pendingApprovals requestId payload =
      match approvalAfterActivity (KeyedTable.lookup requestId pendingApprovals) requestId
          payload with
      | none => pendingApprovals
      | some row => KeyedTable.put row pendingApprovals := by
  simp only [applyApprovalActivity, approvalAfterActivity]
  by_cases hresolved : payload.activity.kind = "approval.resolved"
  · rw [if_pos hresolved, if_pos hresolved]
  · rw [if_neg hresolved, if_neg hresolved]
    by_cases hfailed : payload.activity.kind = "provider.approval.respond.failed"
    · rw [if_pos hfailed, if_pos hfailed]
      by_cases hstale : isStalePendingApprovalFailureDetail
          (failureDetail payload.activity.payload) = true
      · rw [if_pos hstale, if_pos hstale]
        cases KeyedTable.lookup requestId pendingApprovals with
        | none => rfl
        | some row =>
          rw [Option.filter_some]
          by_cases hstatus : row.status = .resolved
          · simp [hstatus]
          · simp [hstatus]
      · rw [if_neg hstale, if_neg hstale]
    · rw [if_neg hfailed, if_neg hfailed]
      by_cases hrequested : payload.activity.kind ≠ "approval.requested"
      · rw [if_pos hrequested, if_pos hrequested]
      · rw [if_neg hrequested, if_neg hrequested]
        split
        · rfl
        · rfl

theorem applyPendingApprovals_eq :
    applyPendingApprovalsProjection pendingApprovals event =
      match approvalRequest event with
      | none => pendingApprovals
      | some requestId =>
        match writtenApproval (KeyedTable.lookup requestId pendingApprovals) requestId event with
        | none => pendingApprovals
        | some row => KeyedTable.put row pendingApprovals := by
  cases hpayload : event.payload with
  | threadActivityAppended payload =>
    simp only [applyPendingApprovalsProjection, approvalRequest, writtenApproval, hpayload]
    cases (extractActivityRequestId payload.activity.payload).orElse
        (fun _ => event.metadata.requestId) with
    | none => rfl
    | some requestId => exact applyApprovalActivity_eq payload
  | threadApprovalResponseRequested payload =>
    simp only [applyPendingApprovalsProjection, approvalRequest, writtenApproval, hpayload]
  | _ => simp only [applyPendingApprovalsProjection, approvalRequest, hpayload]

/-- Whether an event writes, or would write, the row of a request: a stale failure leaves a
resolved row. -/
def usesApproval (event : OrchestrationEvent) (row : ProjectionPendingApproval) : Prop :=
  match event.payload with
  | .threadActivityAppended payload =>
    payload.activity.kind = "approval.resolved" ∨ payload.activity.kind = "approval.requested" ∨
      payload.activity.kind = "provider.approval.respond.failed" ∧
        isStalePendingApprovalFailureDetail (failureDetail payload.activity.payload) = true ∧
        row.status ≠ .resolved
  | .threadApprovalResponseRequested _ => True
  | _ => False

variable {row : ProjectionPendingApproval}

theorem writtenApproval_of_not_uses (requestId : ApprovalRequestId) (h : ¬ usesApproval event row) :
    writtenApproval (some row) requestId event = none ∧
      writtenApproval none requestId event = none := by
  cases hpayload : event.payload with
  | threadActivityAppended payload =>
    simp only [usesApproval, hpayload, not_or, not_and] at h
    obtain ⟨hresolved, hrequested, hfailed⟩ := h
    simp only [writtenApproval, hpayload, approvalAfterActivity, if_neg hresolved,
      if_pos hrequested, Option.filter_none, Option.map_none, ite_self, and_true]
    by_cases hkind : payload.activity.kind = "provider.approval.respond.failed"
    · rw [if_pos hkind]
      by_cases hstale : isStalePendingApprovalFailureDetail
          (failureDetail payload.activity.payload) = true
      · have hstatus : row.status = .resolved := by
          by_contra hpending
          exact hfailed hkind hstale hpending
        simp [hstatus]
      · rw [if_neg hstale]
    · rw [if_neg hkind]
  | threadApprovalResponseRequested payload =>
    simp only [usesApproval, hpayload, not_true] at h
  | _ => simp only [writtenApproval, hpayload, and_self]

theorem writtenApproval_thread {existingRow : Option ProjectionPendingApproval}
    {threadId : ThreadId}
    (hexisting : ∀ existing ∈ existingRow,
      existing.requestId = requestId ∧ existing.threadId = threadId)
    (hthread : event.payload.threadId = some threadId)
    (h : writtenApproval existingRow requestId event = some row) :
    row.requestId = requestId ∧ row.threadId = threadId := by
  have hgetD : ∀ default, some default = some threadId →
      (existingRow.map ProjectionPendingApproval.threadId).getD default = threadId := by
    intro default hdefault
    cases existingRow with
    | none => exact Option.some.inj hdefault
    | some existing => exact (hexisting existing rfl).2
  cases hpayload : event.payload with
  | threadActivityAppended payload =>
    rw [hpayload] at hthread
    simp only [writtenApproval, hpayload, approvalAfterActivity] at h
    split at h
    · cases h
      exact ⟨rfl, hgetD _ hthread⟩
    · split at h
      · split at h
        · obtain ⟨existing, hfound, hrow⟩ := Option.map_eq_some_iff.mp h
          cases hrow
          exact hexisting existing (Option.filter_eq_some_iff.mp hfound).1
        · cases h
      · split at h
        · cases h
        · split at h
          · cases h
          · cases h
            exact ⟨rfl, Option.some.inj hthread⟩
  | threadApprovalResponseRequested payload =>
    rw [hpayload] at hthread
    simp only [writtenApproval, hpayload] at h
    cases h
    exact ⟨rfl, hgetD _ hthread⟩
  | _ =>
    simp only [writtenApproval, hpayload] at h
    cases h

theorem writtenApproval_of_uses (h : usesApproval event row) :
    (∃ written, writtenApproval none requestId event = some written ∧
        written.requestId = requestId) ∨
      ∃ written, writtenApproval (some row) requestId event = some written ∧
        written.requestId = row.requestId ∧ written ≠ row := by
  cases hpayload : event.payload with
  | threadActivityAppended payload =>
    simp only [usesApproval, hpayload] at h
    simp only [writtenApproval, hpayload, approvalAfterActivity]
    rcases h with hresolved | hrequested | ⟨hfailed, hstale, hpending⟩
    · rw [if_pos hresolved]
      exact Or.inl ⟨_, rfl, rfl⟩
    · have hresolved : ¬ payload.activity.kind = "approval.resolved" := by
        rw [hrequested]
        decide
      have hfailed : ¬ payload.activity.kind = "provider.approval.respond.failed" := by
        rw [hrequested]
        decide
      rw [if_neg hresolved, if_neg hfailed, if_neg (not_not_intro hrequested)]
      exact Or.inl ⟨_, rfl, rfl⟩
    · have hresolved : ¬ payload.activity.kind = "approval.resolved" := by
        rw [hfailed]
        decide
      right
      have hleft : (some row).filter (fun row => decide (row.status ≠ .resolved)) = some row :=
        Option.filter_some_pos (decide_eq_true hpending)
      rw [if_neg hresolved, if_pos hfailed, if_pos hstale, hleft, Option.map_some]
      refine ⟨_, rfl, rfl, ?_⟩
      intro hsame
      exact hpending (congrArg ProjectionPendingApproval.status hsame).symm
  | threadApprovalResponseRequested payload =>
    simp only [writtenApproval, hpayload]
    exact Or.inl ⟨_, rfl, rfl⟩
  | _ =>
    simp only [usesApproval, hpayload] at h

/-- Where every row an event uses is of its thread, the approvals projector works on the rows
of that thread. -/
theorem ofThread_applyPendingApprovals
    (howned : ∀ requestId ∈ approvalRequest event,
      ∀ row ∈ KeyedTable.lookup requestId pendingApprovals, usesApproval event row →
        event.payload.threadId = some row.threadId) :
    ofThread ProjectionPendingApproval.threadId other
        (applyPendingApprovalsProjection pendingApprovals event) =
      if event.payload.threadId = some other then
        applyPendingApprovalsProjection
          (ofThread ProjectionPendingApproval.threadId other pendingApprovals) event
      else ofThread ProjectionPendingApproval.threadId other pendingApprovals := by
  rw [applyPendingApprovals_eq, applyPendingApprovals_eq]
  cases hrequest : approvalRequest event with
  | none => rw [ite_self]
  | some requestId =>
    obtain ⟨threadId, hthread⟩ := exists_threadId_of_approvalRequest hrequest
    simp only [hthread, Option.some.injEq]
    have hrows := howned requestId hrequest
    rw [hthread] at hrows
    by_cases hforeign : ∃ row, KeyedTable.lookup requestId pendingApprovals = some row ∧
        row.threadId ≠ threadId
    -- a row of another thread, which the event does not use
    · obtain ⟨row, hfound, hne⟩ := hforeign
      have hunused : ¬ usesApproval event row := by
        intro huses
        exact hne (Option.some.inj (hrows row hfound huses)).symm
      obtain ⟨hwith, hwithout⟩ := writtenApproval_of_not_uses requestId hunused
      rw [hfound, hwith]
      by_cases hsame : threadId = other
      · subst hsame
        rw [if_pos rfl, lookup_ofThread_of_ne hfound hne, hwithout]
      · rw [if_neg hsame]
    · have hexisting : ∀ existing ∈ KeyedTable.lookup requestId pendingApprovals,
          existing.requestId = requestId ∧ existing.threadId = threadId := by
        intro existing hfound
        refine ⟨Option.some.inj (KeyedTable.lookup_eq_some_iff.mp hfound).2, ?_⟩
        by_contra hne
        exact hforeign ⟨existing, hfound, hne⟩
      have hlookup : KeyedTable.lookup requestId
          (ofThread ProjectionPendingApproval.threadId threadId pendingApprovals) =
            KeyedTable.lookup requestId pendingApprovals :=
        lookup_ofThread (fun existing hfound => (hexisting existing hfound).2)
      cases hwritten : writtenApproval (KeyedTable.lookup requestId pendingApprovals) requestId
          event with
      | none =>
        by_cases hsame : threadId = other
        · subst hsame
          rw [if_pos rfl, hlookup, hwritten]
        · rw [if_neg hsame]
      | some row =>
        obtain ⟨hid, hrow⟩ := writtenApproval_thread hexisting hthread hwritten
        have hold : ∀ k existing, some row.requestId = some k →
            KeyedTable.lookup k pendingApprovals = some existing →
            existing.threadId = threadId := by
          intro k existing hk hfound
          cases hk
          rw [hid] at hfound
          exact (hexisting existing hfound).2
        by_cases hsame : threadId = other
        · subst hsame
          rw [if_pos rfl, hlookup, hwritten]
          exact ofThread_put_self hrow hold
        · rw [if_neg hsame]
          apply ofThread_put_of_ne
          · rw [hrow]
            exact hsame
          · intro k existing hk hfound
            rw [hold k existing hk hfound]
            exact hsame

end Approvals

/-! ## Logs -/

section Logs

variable [Collation] [TextRuntime] {log next : List OrchestrationEvent}
  {event : OrchestrationEvent} {threadId : ThreadId}

def eventsOf (threadId : ThreadId) (log : List OrchestrationEvent) : List OrchestrationEvent :=
  log.filter (fun event => decide (event.payload.threadId = some threadId))

def appendEvent (log : List OrchestrationEvent) (event : OrchestrationEvent) :
    Option (List OrchestrationEvent) := some (log ++ [event])

/-- The message and approval rows of every thread are the projection of its own events. -/
structure Isolated (log : List OrchestrationEvent) : Prop where
  messages : ∀ threadId, ofThread ProjectionThreadMessage.threadId threadId
    (liveTables log).messages = (liveTables (eventsOf threadId log)).messages
  pendingApprovals : ∀ threadId, ofThread ProjectionPendingApproval.threadId threadId
    (liveTables log).pendingApprovals = (liveTables (eventsOf threadId log)).pendingApprovals

/-- The event leaves the message and approval rows of the threads it does not name. -/
def LeavesOthers (log : List OrchestrationEvent) (event : OrchestrationEvent) : Prop :=
  ∀ threadId, event.payload.threadId ≠ some threadId →
    ofThread ProjectionThreadMessage.threadId threadId (liveTables (log ++ [event])).messages =
        ofThread ProjectionThreadMessage.threadId threadId (liveTables log).messages ∧
      ofThread ProjectionPendingApproval.threadId threadId
          (liveTables (log ++ [event])).pendingApprovals =
        ofThread ProjectionPendingApproval.threadId threadId (liveTables log).pendingApprovals

/-- No other thread holds the message id an event sends under, nor the request id of an approval
row the event uses. -/
structure OwnsIds (log : List OrchestrationEvent) (event : OrchestrationEvent) : Prop where
  message : ∀ payload, event.payload = .threadMessageSent payload →
    ∀ row ∈ KeyedTable.lookup payload.messageId (liveTables log).messages,
      row.threadId = payload.threadId
  request : ∀ requestId ∈ approvalRequest event,
    ∀ row ∈ KeyedTable.lookup requestId (liveTables log).pendingApprovals,
      usesApproval event row → event.payload.threadId = some row.threadId

theorem liveTables_eventsOf_append :
    liveTables (eventsOf threadId (log ++ [event])) =
      if event.payload.threadId = some threadId then
        projectTables (liveTables (eventsOf threadId log)) event
      else liveTables (eventsOf threadId log) := by
  unfold eventsOf
  rw [List.filter_append]
  by_cases hthread : event.payload.threadId = some threadId
  · rw [if_pos hthread, List.filter_singleton, decide_eq_true hthread, cond_true,
      liveTables_append]
  · rw [if_neg hthread, List.filter_singleton, decide_eq_false hthread, cond_false,
      List.append_nil]

def TurnsIsolated (log : List OrchestrationEvent) : Prop :=
  ∀ threadId, ofThread ProjectionTurn.threadId threadId (liveTables log).turns =
    (liveTables (eventsOf threadId log)).turns

theorem TurnsIsolated.append (h : TurnsIsolated log) : TurnsIsolated (log ++ [event]) := by
  intro threadId
  rw [liveTables_append, liveTables_eventsOf_append, projectTables_eq, ofThread_applyThreadTurns,
    h threadId]
  split
  · rw [projectTables_eq]
  · rfl

theorem OwnsIds.isolated (howns : OwnsIds log event) (hturns : TurnsIsolated log)
    (h : Isolated log) : Isolated (log ++ [event]) := by
  constructor
  · intro threadId
    rw [liveTables_append, liveTables_eventsOf_append, projectTables_eq,
      ofThread_applyThreadMessages howns.message, h.messages threadId, hturns threadId]
    split
    · rw [projectTables_eq]
    · rfl
  · intro threadId
    rw [liveTables_append, liveTables_eventsOf_append, projectTables_eq,
      ofThread_applyPendingApprovals howns.request, h.pendingApprovals threadId]
    split
    · rw [projectTables_eq]
    · rfl

theorem Isolated.leavesOthers (h : Isolated log) (hnext : Isolated (log ++ [event])) :
    LeavesOthers log event := by
  intro threadId hother
  rw [hnext.messages, h.messages, hnext.pendingApprovals, h.pendingApprovals,
    liveTables_eventsOf_append, if_neg hother]
  exact ⟨rfl, rfl⟩

theorem Isolated.ownsIds (h : Isolated log) (hnext : Isolated (log ++ [event])) :
    OwnsIds log event := by
  have hleaves := h.leavesOthers hnext
  constructor
  · intro payload hpayload row hfound
    by_contra hne
    -- the row of the other thread is still there, and under its id stands the event's row
    have hother : event.payload.threadId ≠ some row.threadId := by
      rw [hpayload]
      intro heq
      exact hne (Option.some.inj heq).symm
    have hkept := congrArg (KeyedTable.lookup payload.messageId) (hleaves row.threadId hother).1
    have hrow : KeyedTable.lookup payload.messageId (ofThread ProjectionThreadMessage.threadId
        row.threadId (liveTables log).messages) = some row := by
      rw [lookup_ofThread, hfound]
      intro existing hexisting
      rw [hfound] at hexisting
      cases hexisting
      rfl
    have hwritten : KeyedTable.lookup payload.messageId (liveTables (log ++ [event])).messages =
        some { messageRow payload (KeyedTable.lookup payload.messageId (liveTables log).messages) with
          attachments := (messageRow payload (KeyedTable.lookup payload.messageId
            (liveTables log).messages)).attachments.orElse (fun _ =>
              (KeyedTable.lookup payload.messageId (liveTables log).messages).bind
                ProjectionThreadMessage.attachments) } := by
      rw [liveTables_append, projectTables_eq]
      simp only [applyThreadMessagesProjection, hpayload, MessageTable.upsert]
      exact KeyedTable.lookup_put_self (by rfl) _
    rw [hrow, lookup_ofThread_of_ne hwritten (Ne.symm hne)] at hkept
    cases hkept
  · intro requestId hrequest row hfound huses
    by_contra hother
    have hkept := congrArg (KeyedTable.lookup requestId) (hleaves row.threadId hother).2
    have hrow : KeyedTable.lookup requestId (ofThread ProjectionPendingApproval.threadId
        row.threadId (liveTables log).pendingApprovals) = some row := by
      rw [lookup_ofThread, hfound]
      intro existing hexisting
      rw [hfound] at hexisting
      cases hexisting
      rfl
    have hnextRow : KeyedTable.lookup requestId (liveTables (log ++ [event])).pendingApprovals =
        some row := by
      rw [hrow, ofThread, KeyedTable.lookup_restrict] at hkept
      exact (Option.filter_eq_some_iff.mp hkept).1
    have hfull : (liveTables (log ++ [event])).pendingApprovals =
        applyPendingApprovalsProjection (liveTables log).pendingApprovals event := by
      rw [liveTables_append, projectTables_eq]
    obtain ⟨threadId, hthread⟩ := exists_threadId_of_approvalRequest hrequest
    rw [hthread] at hother
    have hne : row.threadId ≠ threadId := fun heq => hother (congrArg some heq).symm
    -- among the rows of the event's own thread there is none before or after the event
    have hpart := hnext.pendingApprovals threadId
    rw [liveTables_eventsOf_append, if_pos hthread, projectTables_eq,
      ← h.pendingApprovals threadId] at hpart
    have hnone := lookup_ofThread_of_ne hnextRow hne
    rw [hpart] at hnone
    rw [hfull] at hnextRow
    simp only [applyPendingApprovals_eq, Option.mem_def.mp hrequest, Option.mem_def.mp hfound]
      at hnextRow
    simp only [applyPendingApprovals_eq, Option.mem_def.mp hrequest,
      lookup_ofThread_of_ne hfound hne] at hnone
    have hkey := Option.some.inj (KeyedTable.lookup_eq_some_iff.mp hfound).2
    rcases writtenApproval_of_uses huses with ⟨written, hwritten, hid⟩ |
      ⟨written, hwritten, hid, hchanged⟩
    · rw [hwritten] at hnone
      have hstored : KeyedTable.lookup requestId (KeyedTable.put written
          (ofThread ProjectionPendingApproval.threadId threadId
            (liveTables log).pendingApprovals)) = some written :=
        KeyedTable.lookup_put_self (by rw [hid]) _
      exact absurd (hstored.symm.trans hnone) (by simp)
    · rw [hwritten] at hnextRow
      have hstored : KeyedTable.lookup requestId
          (KeyedTable.put written (liveTables log).pendingApprovals) = some written :=
        KeyedTable.lookup_put_self (by rw [hid, hkey]) _
      exact hchanged (Option.some.inj (hstored.symm.trans hnextRow))

theorem isolated_nil : Isolated [] := by
  constructor
  · intro threadId
    rfl
  · intro threadId
    rfl

theorem turnsIsolated_nil : TurnsIsolated [] := by
  intro threadId
  rfl

/-- In a log every event leaves the rows of the other threads, and every thread's rows are the
projection of its own events, exactly where no event uses an id that another thread holds. -/
theorem isolated_throughout_iff (log : List OrchestrationEvent) :
    (Throughout appendEvent Isolated [] log ∧ StepsMeet appendEvent LeavesOthers [] log) ↔
      StepsMeet appendEvent OwnsIds [] log := by
  have hiff : Throughout appendEvent Isolated [] log ↔ StepsMeet appendEvent OwnsIds [] log := by
    refine throughout_iff_stepsMeet ?_ ?_ turnsIsolated_nil isolated_nil log
    · intro before event after hturns hstep
      cases hstep
      exact hturns.append
    · intro before event after hturns h hstep
      cases hstep
      constructor
      · intro hnext
        exact h.ownsIds hnext
      · intro howns
        exact howns.isolated hturns h
  constructor
  · intro h
    exact hiff.mp h.1
  · intro howns
    have hisolated := hiff.mpr howns
    refine ⟨hisolated, ?_⟩
    have hboth : Throughout appendEvent (fun log => TurnsIsolated log ∧ Isolated log) [] log :=
      throughout_of_stepsMeet
        (by
          intro before event after h howned hstep
          cases hstep
          exact ⟨h.1.append, howned.isolated h.1 h.2⟩)
        ⟨turnsIsolated_nil, isolated_nil⟩ howns
    refine StepsMeet.imp_of_throughout ?_ hboth howns
    intro before event after h howned hstep
    exact h.2.leavesOthers (howned.isolated h.1 h.2)

omit [Collation] [TextRuntime] in
def logOf (payloads : List EventPayload) : List OrchestrationEvent :=
  payloads.zipIdx.map (fun entry => {
    eventId := "e"
    aggregateKind := .thread
    aggregateId := entry.1.threadId.getD ""
    occurredAt := "2024"
    commandId := none
    causationEventId := none
    correlationId := none
    metadata := { requestId := none }
    payload := entry.1
    sequence := entry.2 + 1 })

def threadCreatedPayload (threadId : ThreadId) : EventPayload :=
  .threadCreated {
    threadId := threadId
    projectId := "p1"
    title := "thread"
    modelSelection := ⟨"codex", "model", none⟩
    runtimeMode := .fullAccess
    interactionMode := .default
    branch := none
    worktreePath := none
    customMetadata := none
    createdAt := "2024"
    updatedAt := "2024" }

def ingestedLog (events : List ProviderRuntimeEvent) : List OrchestrationEvent :=
  logOf ([threadCreatedPayload "t1", threadCreatedPayload "t2"] ++
    (events.foldl (fun state event => state.processRuntimeEvent true true event)
      (IngestionState.start none (.empty _))).dispatched.filterMap IngestionState.plannedPayload)

def sharedItemEvents : List ProviderRuntimeEvent :=
  [⟨"e1", "codex", none, "t1", "2024", some "u1", some "i1", .contentDelta .assistantText "a"⟩,
    ⟨"e2", "codex", none, "t2", "2024", some "u2", some "i1", .contentDelta .assistantText "b"⟩]

omit [Collation] [TextRuntime] in
/-- The second thread's text takes the message row of the first. -/
theorem shared_item_moves_row :
    ¬ ∀ [Collation] [TextRuntime] (events : List ProviderRuntimeEvent),
      Throughout appendEvent Isolated [] (ingestedLog events) ∧
        StepsMeet appendEvent LeavesOthers [] (ingestedLog events) := by
  intro h
  let _ := codePointCollation
  let _ := asciiTextRuntime
  have hexec : exec appendEvent [] (ingestedLog sharedItemEvents) =
      some (ingestedLog sharedItemEvents) := rfl
  have hisolated := (h sharedItemEvents).1.final hexec
  have hrows := congrArg (fun table => table.rows.map ProjectionThreadMessage.text)
    (hisolated.messages "t1")
  have hmoved : ((ofThread ProjectionThreadMessage.threadId "t1"
      (liveTables (ingestedLog sharedItemEvents)).messages).rows.map
        ProjectionThreadMessage.text) = [] := rfl
  have hown : ((liveTables (eventsOf "t1" (ingestedLog sharedItemEvents))).messages.rows.map
      ProjectionThreadMessage.text) = ["a"] := rfl
  rw [hmoved, hown] at hrows
  cases hrows

end Logs

end GT3Code.Orchestration
