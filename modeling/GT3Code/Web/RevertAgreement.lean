import GT3Code.Orchestration.ContentRows
import GT3Code.Web.Store

/-! # Messages kept by a revert

Three copies of one retention rule run on three records of one thread: the read model,
the message rows and the web store. The copy over rows also retains the messages that a
kept turn names as its prompt or answer, which the others cannot see.
-/

namespace GT3Code.Web

open GT3Code.Base GT3Code.Contracts GT3Code.Persistence GT3Code.Orchestration

section Records

variable [Collation]

def byCreation {ρ : Type} (fields : MessageFields ρ) (messages : List ρ) : List MessageKey :=
  toSorted (compareCreated keyFields) (messages.map fields.key)

theorem byCreation_perm {ρ : Type} (fields : MessageFields ρ) (messages : List ρ) :
    (byCreation fields messages).Perm (messages.map fields.key) :=
  toSorted_perm _ _

/-- The read model, the rows and the web store hold the same thread before a revert. -/
structure SameHistory (threadId : ThreadId) (thread : OrchestrationThread) (turns : TurnTable)
    (messages : MessageTable) (shown : Thread) : Prop where
  rows : byCreation messageFields thread.messages =
    byCreation messageRowFields (MessageTable.listByThreadId messages threadId)
  store : byCreation chatMessageFields shown.messages =
    byCreation messageRowFields (MessageTable.listByThreadId messages threadId)
  checkpoints : ∀ turnId count, (∃ checkpoint ∈ thread.checkpoints,
      checkpoint.turnId = turnId ∧ checkpoint.checkpointTurnCount = count) ↔
    ∃ turn ∈ TurnTable.listByThreadId turns threadId,
      turn.turnId = some turnId ∧ turn.checkpointTurnCount = some count
  summaries : ∀ turnId count, (∃ summary ∈ shown.turnDiffSummaries,
      summary.turnId = turnId ∧ summary.checkpointTurnCount = some count) ↔
    ∃ turn ∈ TurnTable.listByThreadId turns threadId,
      turn.turnId = some turnId ∧ turn.checkpointTurnCount = some count
  messages_le : thread.messages.length ≤ MAX_THREAD_MESSAGES
  checkpoints_le : thread.checkpoints.length ≤ MAX_THREAD_CHECKPOINTS
  summaries_le : shown.turnDiffSummaries.length ≤ MAX_THREAD_CHECKPOINTS

def messagesKeptInMemory (payload : ThreadRevertedPayload) (thread : OrchestrationThread) :
    List MessageId :=
  (Orchestration.revertThread payload.turnCount thread thread).messages.map OrchestrationMessage.id

def messagesKeptInRows (turns : TurnTable) (messages : MessageTable)
    (payload : ThreadRevertedPayload) : List MessageId :=
  (MessageTable.listByThreadId (revertMessages turns messages payload) payload.threadId).map
    ProjectionThreadMessage.messageId

def messagesKeptInStore (payload : ThreadRevertedPayload) (occurredAt : IsoDateTime)
    (shown : Thread) : List MessageId :=
  (revertThread payload occurredAt shown).messages.map ChatMessage.id

/-- The three records keep the same messages: those of retained turns and of the system,
none of a discarded turn. -/
structure RevertKeepsSame (thread : OrchestrationThread) (turns : TurnTable)
    (messages : MessageTable) (shown : Thread) (payload : ThreadRevertedPayload)
    (occurredAt : IsoDateTime) : Prop where
  rows : ∀ id, id ∈ messagesKeptInMemory payload thread ↔
    id ∈ messagesKeptInRows turns messages payload
  store : ∀ id, id ∈ messagesKeptInMemory payload thread ↔
    id ∈ messagesKeptInStore payload occurredAt shown
  retained : ∀ message ∈ thread.messages, message.role = .system ∨
    inTurns (keptTurnIds (TurnTable.listByThreadId turns payload.threadId) payload.turnCount)
      message.turnId = true → message.id ∈ messagesKeptInMemory payload thread
  discarded : ∀ message ∈ thread.messages, message.id ∈ messagesKeptInMemory payload thread →
    inTurnsOrNone (keptTurnIds (TurnTable.listByThreadId turns payload.threadId) payload.turnCount)
      message.turnId = true

/-- Every message a kept turn names is retained by its role, its turn or its age, and no
system message belongs to a discarded turn. -/
def NamesRetained (turns : TurnTable) (messages : MessageTable) (payload : ThreadRevertedPayload) :
    Prop :=
  let rows := (MessageTable.listByThreadId messages payload.threadId).map messageRowFields.key
  let turnRows := TurnTable.listByThreadId turns payload.threadId
  SeedRetained (namedMessageIds turnRows payload.turnCount) rows
      (keptTurnIds turnRows payload.turnCount) payload.turnCount ∧
    ∀ row ∈ rows, row.role = .system →
      inTurnsOrNone (keptTurnIds turnRows payload.turnCount) row.turnId = true

variable {threadId : ThreadId} {thread : OrchestrationThread} {turns : TurnTable}
  {messages : MessageTable} {shown : Thread} {payload : ThreadRevertedPayload}

omit [Collation] in
theorem mem_keptTurnIds {rows : List ProjectionTurn} {turnCount : Nat} {turnId : TurnId} :
    turnId ∈ keptTurnIds rows turnCount ↔ ∃ count, count ≤ turnCount ∧ ∃ turn ∈ rows,
      turn.turnId = some turnId ∧ turn.checkpointTurnCount = some count := by
  unfold keptTurnIds keptTurns
  rw [List.mem_filterMap]
  constructor
  · rintro ⟨turn, hturn, hid⟩
    obtain ⟨hmem, hkept⟩ := List.mem_filter.mp hturn
    cases hcount : turn.checkpointTurnCount with
    | none => simp [isKeptTurn, hcount] at hkept
    | some count =>
      simp only [isKeptTurn, hcount, Option.any_some, Bool.and_eq_true,
        decide_eq_true_eq] at hkept
      exact ⟨count, hkept.2, turn, hmem, hid, hcount⟩
  · rintro ⟨count, hle, turn, hmem, hid, hcount⟩
    exact ⟨turn, List.mem_filter.mpr ⟨hmem, by simp [isKeptTurn, hid, hcount, hle]⟩, hid⟩

omit [Collation] in
theorem nodup_rowIds (messages : MessageTable) (threadId : ThreadId) :
    (((MessageTable.listByThreadId messages threadId).map messageRowFields.key).map
      MessageKey.id).Nodup := by
  have hkeys : ((MessageTable.listByThreadId messages threadId).filterMap
      (fun row => some row.messageId)).Nodup :=
    ((toSorted_perm _ _).filterMap _).nodup_iff.mpr
      (messages.unique.sublist (List.filter_sublist.filterMap _))
  rw [List.filterMap_eq_map'] at hkeys
  rw [List.map_map]
  exact hkeys

theorem mem_plainly_kept_iff (hcollation : Collation.ComparesSortKeys) {ρ : Type}
    {fields : MessageFields ρ} {records : List ρ} {retainedTurnIds : List TurnId}
    (hsorted : byCreation fields records =
      byCreation messageRowFields (MessageTable.listByThreadId messages threadId))
    {rows : List ProjectionTurn} {turnCount : Nat}
    (hturns : ∀ turnId, turnId ∈ retainedTurnIds ↔ turnId ∈ keptTurnIds rows turnCount)
    {id : MessageId} :
    id ∈ (retainMessagesAfterRevert fields [] records retainedTurnIds turnCount).map fields.id ↔
      ∃ key ∈ (MessageTable.listByThreadId messages threadId).map messageRowFields.key,
        key.id = id ∧ key.id ∈ retainedMessageIds keyFields []
          ((MessageTable.listByThreadId messages threadId).map messageRowFields.key)
          (keptTurnIds rows turnCount) turnCount := by
  obtain ⟨ι, order, sortKey, hkey⟩ := hcollation
  have hrank : RankedBy (compareCreated keyFields)
      (fun key => toLex (sortKey key.createdAt, sortKey key.id)) :=
    RankedBy.orElse (fun a b => hkey a.createdAt b.createdAt) (fun a b => hkey a.id b.id)
  have hperm : (records.map fields.key).Perm
      ((MessageTable.listByThreadId messages threadId).map messageRowFields.key) :=
    (byCreation_perm fields records).symm.trans (hsorted ▸ byCreation_perm messageRowFields _)
  have hdistinct : ((records.map fields.key).map MessageKey.id).Nodup :=
    (hperm.map MessageKey.id).nodup_iff.mpr (nodup_rowIds messages threadId)
  rw [mem_ids_retainMessages_iff]
  constructor
  · rintro ⟨key, hmem, hid, hkept⟩
    exact ⟨key, hperm.mem_iff.mp hmem, hid,
      (retainedMessageIds_nil_congr hrank hdistinct hsorted hturns hmem).mp hkept⟩
  · rintro ⟨key, hmem, hid, hkept⟩
    have hmem' := hperm.mem_iff.mpr hmem
    exact ⟨key, hmem', hid,
      (retainedMessageIds_nil_congr hrank hdistinct hsorted hturns hmem').mpr hkept⟩

theorem mem_messagesKeptInMemory_iff (hcollation : Collation.ComparesSortKeys)
    (hsame : SameHistory payload.threadId thread turns messages shown) {id : MessageId} :
    id ∈ messagesKeptInMemory payload thread ↔
      ∃ key ∈ (MessageTable.listByThreadId messages payload.threadId).map messageRowFields.key,
        key.id = id ∧ key.id ∈ retainedMessageIds keyFields []
          ((MessageTable.listByThreadId messages payload.threadId).map messageRowFields.key)
          (keptTurnIds (TurnTable.listByThreadId turns payload.threadId) payload.turnCount)
          payload.turnCount := by
  have hcheckpoints : retainCheckpoints payload.turnCount thread.checkpoints =
      toSorted (byKey OrchestrationCheckpointSummary.checkpointTurnCount)
        (thread.checkpoints.filter (fun entry =>
          entry.checkpointTurnCount ≤ payload.turnCount)) := by
    refine sliceLast_of_length_le ?_
    rw [length_toSorted]
    exact (List.length_filter_le _ _).trans hsame.checkpoints_le
  have hturns : ∀ turnId, turnId ∈ (retainCheckpoints payload.turnCount thread.checkpoints).map
        OrchestrationCheckpointSummary.turnId ↔
      turnId ∈ keptTurnIds (TurnTable.listByThreadId turns payload.threadId)
        payload.turnCount := by
    intro turnId
    rw [hcheckpoints, mem_keptTurnIds]
    constructor
    · intro h
      obtain ⟨checkpoint, hmem, hid⟩ := List.mem_map.mp h
      obtain ⟨hmem, hle⟩ := List.mem_filter.mp (mem_toSorted.mp hmem)
      exact ⟨_, of_decide_eq_true hle,
        (hsame.checkpoints turnId _).mp ⟨checkpoint, hmem, hid, rfl⟩⟩
    · rintro ⟨count, hle, hturn⟩
      obtain ⟨checkpoint, hmem, hid, hcount⟩ := (hsame.checkpoints turnId count).mpr hturn
      exact List.mem_map.mpr ⟨checkpoint, mem_toSorted.mpr (List.mem_filter.mpr
        ⟨hmem, decide_eq_true (hcount ▸ hle)⟩), hid⟩
  have hlength : (Orchestration.retainThreadMessagesAfterRevert thread.messages
      ((retainCheckpoints payload.turnCount thread.checkpoints).map
        OrchestrationCheckpointSummary.turnId) payload.turnCount).length ≤
      Orchestration.MAX_THREAD_MESSAGES :=
    (List.length_filter_le _ _).trans hsame.messages_le
  simp only [messagesKeptInMemory, Orchestration.revertThread]
  rw [sliceLast_of_length_le hlength]
  exact mem_plainly_kept_iff hcollation hsame.rows hturns

theorem mem_messagesKeptInStore_iff (hcollation : Collation.ComparesSortKeys)
    (hsame : SameHistory payload.threadId thread turns messages shown)
    {occurredAt : IsoDateTime} {id : MessageId} :
    id ∈ messagesKeptInStore payload occurredAt shown ↔
      ∃ key ∈ (MessageTable.listByThreadId messages payload.threadId).map messageRowFields.key,
        key.id = id ∧ key.id ∈ retainedMessageIds keyFields []
          ((MessageTable.listByThreadId messages payload.threadId).map messageRowFields.key)
          (keptTurnIds (TurnTable.listByThreadId turns payload.threadId) payload.turnCount)
          payload.turnCount := by
  have hlength : shown.messages.length ≤ MAX_THREAD_MESSAGES := by
    have hrows := (byCreation_perm messageFields thread.messages).length_eq
    have hstore := (byCreation_perm chatMessageFields shown.messages).length_eq
    rw [hsame.store, ← hsame.rows, hrows, List.length_map, List.length_map] at hstore
    exact hstore ▸ hsame.messages_le
  have hsummaries : sortTurnDiffSummaries
        (shown.turnDiffSummaries.filter (isRetainedSummary payload.turnCount)) =
      toSorted (byKey (fun summary => turnCountKey summary.checkpointTurnCount))
        (shown.turnDiffSummaries.filter (isRetainedSummary payload.turnCount)) := by
    refine sliceLast_of_length_le ?_
    rw [length_toSorted]
    exact (List.length_filter_le _ _).trans hsame.summaries_le
  have hturns : ∀ turnId, turnId ∈ (sortTurnDiffSummaries
        (shown.turnDiffSummaries.filter (isRetainedSummary payload.turnCount))).map
          TurnDiffSummary.turnId ↔
      turnId ∈ keptTurnIds (TurnTable.listByThreadId turns payload.threadId)
        payload.turnCount := by
    intro turnId
    rw [hsummaries, mem_keptTurnIds]
    constructor
    · intro h
      obtain ⟨summary, hmem, hid⟩ := List.mem_map.mp h
      obtain ⟨hmem, hle⟩ := List.mem_filter.mp (mem_toSorted.mp hmem)
      cases hcount : summary.checkpointTurnCount with
      | none => simp [isRetainedSummary, hcount] at hle
      | some count =>
        simp only [isRetainedSummary, hcount, Option.any_some, decide_eq_true_eq] at hle
        exact ⟨count, hle, (hsame.summaries turnId count).mp ⟨summary, hmem, hid, hcount⟩⟩
    · rintro ⟨count, hle, hturn⟩
      obtain ⟨summary, hmem, hid, hcount⟩ := (hsame.summaries turnId count).mpr hturn
      exact List.mem_map.mpr ⟨summary, mem_toSorted.mpr (List.mem_filter.mpr
        ⟨hmem, by simp [isRetainedSummary, hcount, hle]⟩), hid⟩
  have hall : (retainThreadMessagesAfterRevert shown.messages ((sortTurnDiffSummaries
      (shown.turnDiffSummaries.filter (isRetainedSummary payload.turnCount))).map
        TurnDiffSummary.turnId) payload.turnCount).length ≤ MAX_THREAD_MESSAGES :=
    (List.length_filter_le _ _).trans hlength
  simp only [messagesKeptInStore, revertThread]
  rw [sliceLast_of_length_le hall]
  exact mem_plainly_kept_iff hcollation hsame.store hturns

theorem mem_messagesKeptInRows_iff {id : MessageId} :
    id ∈ messagesKeptInRows turns messages payload ↔
      ∃ key ∈ (MessageTable.listByThreadId messages payload.threadId).map messageRowFields.key,
        key.id = id ∧ key.id ∈ retainedMessageIds keyFields
          (namedMessageIds (TurnTable.listByThreadId turns payload.threadId) payload.turnCount)
          ((MessageTable.listByThreadId messages payload.threadId).map messageRowFields.key)
          (keptTurnIds (TurnTable.listByThreadId turns payload.threadId) payload.turnCount)
          payload.turnCount := by
  rw [retainedMessageIds_map_key]
  constructor
  · intro h
    obtain ⟨row, hrow, hid⟩ := List.mem_map.mp h
    obtain ⟨hmem, hthread⟩ := mem_listByThread.mp hrow
    obtain ⟨hmem, hkept⟩ := mem_revertMessages.mp hmem
    exact ⟨messageRowFields.key row, List.mem_map_of_mem (mem_listByThread.mpr ⟨hmem, hthread⟩),
      hid, of_decide_eq_true (hkept hthread)⟩
  · rintro ⟨key, hkey, hid, hkept⟩
    obtain ⟨row, hrow, hkeyOf⟩ := List.mem_map.mp hkey
    subst hkeyOf
    obtain ⟨hmem, hthread⟩ := mem_listByThread.mp hrow
    exact List.mem_map.mpr ⟨row, mem_listByThread.mpr
      ⟨mem_revertMessages.mpr ⟨hmem, fun _ => decide_eq_true hkept⟩, hthread⟩, hid⟩

/-- A revert keeps the same messages in all three records exactly when the plain rule
retains the messages that kept turns name, and every system message is of no discarded
turn. -/
theorem revert_keeps_same_iff (hcollation : Collation.ComparesSortKeys)
    (hsame : SameHistory payload.threadId thread turns messages shown)
    (occurredAt : IsoDateTime) :
    RevertKeepsSame thread turns messages shown payload occurredAt ↔
      NamesRetained turns messages payload := by
  have hmemory : ∀ id, id ∈ messagesKeptInMemory payload thread ↔ _ :=
    fun _ => mem_messagesKeptInMemory_iff hcollation hsame
  have hstore : ∀ id, id ∈ messagesKeptInStore payload occurredAt shown ↔ _ :=
    fun _ => mem_messagesKeptInStore_iff hcollation hsame
  have hrows : ∀ id, id ∈ messagesKeptInRows turns messages payload ↔ _ :=
    fun _ => mem_messagesKeptInRows_iff
  have hdistinct := nodup_rowIds messages payload.threadId
  have hperm : (thread.messages.map messageFields.key).Perm
      ((MessageTable.listByThreadId messages payload.threadId).map messageRowFields.key) :=
    (byCreation_perm messageFields _).symm.trans
      (hsame.rows ▸ byCreation_perm messageRowFields _)
  obtain ⟨ι, order, sortKey, hsort⟩ := hcollation
  have hrank : RankedBy (compareCreated keyFields)
      (fun key => toLex (sortKey key.createdAt, sortKey key.id)) :=
    RankedBy.orElse (fun a b => hsort a.createdAt b.createdAt) (fun a b => hsort a.id b.id)
  show RevertKeepsSame thread turns messages shown payload occurredAt ↔
    SeedRetained (namedMessageIds (TurnTable.listByThreadId turns payload.threadId)
        payload.turnCount)
        ((MessageTable.listByThreadId messages payload.threadId).map messageRowFields.key)
        (keptTurnIds (TurnTable.listByThreadId turns payload.threadId) payload.turnCount)
        payload.turnCount ∧
      ∀ row ∈ (MessageTable.listByThreadId messages payload.threadId).map messageRowFields.key,
        row.role = .system → inTurnsOrNone (keptTurnIds
          (TurnTable.listByThreadId turns payload.threadId) payload.turnCount) row.turnId = true
  generalize (MessageTable.listByThreadId messages payload.threadId).map messageRowFields.key =
    keys at *
  generalize hturnIds : keptTurnIds (TurnTable.listByThreadId turns payload.threadId)
    payload.turnCount = turnIds at *
  -- Distinct ids: the kept ids are those of the kept messages.
  have hkept : ∀ {seed : List MessageId} {key : MessageKey}, key ∈ keys →
      ((∃ other ∈ keys, other.id = key.id ∧ other.id ∈ retainedMessageIds keyFields seed keys
        turnIds payload.turnCount) ↔
        key.id ∈ retainedMessageIds keyFields seed keys turnIds payload.turnCount) := by
    intro seed key hkey
    constructor
    · rintro ⟨other, -, hid, hother⟩
      exact hid ▸ hother
    · exact fun h => ⟨key, hkey, rfl, h⟩
  have hseed : (∀ key ∈ keys, (key.id ∈ retainedMessageIds keyFields
        (namedMessageIds (TurnTable.listByThreadId turns payload.threadId) payload.turnCount) keys
          turnIds payload.turnCount ↔
        key.id ∈ retainedMessageIds keyFields [] keys turnIds payload.turnCount)) ↔
      SeedRetained (namedMessageIds (TurnTable.listByThreadId turns payload.threadId)
        payload.turnCount) keys turnIds payload.turnCount :=
    retained_seed_iff hrank hdistinct
  constructor
  · intro h
    refine ⟨hseed.mp (fun key hkey => ?_), fun key hkey hrole => ?_⟩
    · rw [← hkept hkey, ← hkept hkey, ← hrows, ← hmemory]
      exact (h.rows key.id).symm
    · obtain ⟨message, hmessage, rfl⟩ := List.mem_map.mp (hperm.mem_iff.mpr hkey)
      have hdiscarded := h.discarded message hmessage (h.retained message hmessage (Or.inl hrole))
      rwa [hturnIds] at hdiscarded
  · rintro ⟨hnames, hsystem⟩
    have hagree := hseed.mpr hnames
    refine ⟨fun id => ?_, fun id => (hmemory id).trans (hstore id).symm, ?_, ?_⟩
    · rw [hmemory, hrows]
      refine exists_congr (fun key => and_congr_right (fun hkey => and_congr_right (fun _ => ?_)))
      exact (hagree key hkey).symm
    · intro message hmessage htag
      have hkey := hperm.mem_iff.mp (List.mem_map_of_mem (f := messageFields.key) hmessage)
      refine (hmemory message.id).mpr ⟨_, hkey, rfl, ?_⟩
      rw [mem_retainedMessageIds_nil_iff hdistinct hkey]
      rw [hturnIds] at htag
      refine Or.inl ?_
      rcases htag with hrole | hturn
      · simp [keptByTurn, MessageFields.key, messageFields, hrole]
      · simp [keptByTurn, MessageFields.key, messageFields, hturn]
    · intro message hmessage hid
      have hkey := hperm.mem_iff.mp (List.mem_map_of_mem (f := messageFields.key) hmessage)
      have hretained := (hkept hkey).mp ((hmemory message.id).mp hid)
      rw [hturnIds]
      rcases (mem_retainedMessageIds_nil_iff hdistinct hkey).mp hretained with htag | hold
      · by_cases hrole : message.role = .system
        · exact hsystem _ hkey hrole
        · cases hturn : message.turnId with
          | none => rfl
          | some turnId =>
            simpa [keptByTurn, MessageFields.key, messageFields, hrole, hturn, inTurns,
              inTurnsOrNone] using htag
      · have hnone : message.turnId = none := (mem_oldestUntagged hold).2.2
        rw [hnone]
        rfl

end Records

/-- Thread `t1` with user messages `m1` and `m2`, the older one left without a turn, and
the checkpoint of turn `u1`. -/
def promptedThread : OrchestrationThread :=
  { threadFromCreated {
      threadId := "t1"
      projectId := "p1"
      title := "Thread"
      modelSelection := ⟨"codex", "model", none⟩
      runtimeMode := .fullAccess
      interactionMode := .default
      branch := none
      worktreePath := none
      customMetadata := none
      createdAt := "2026-01-01T00:00:00.000Z"
      updatedAt := "2026-01-01T00:00:00.000Z" } with
    messages := [
      ⟨"m1", .user, "first", none, none, false, "2026-01-01T00:00:01.000Z",
        "2026-01-01T00:00:01.000Z"⟩,
      ⟨"m2", .user, "second", none, none, false, "2026-01-01T00:00:02.000Z",
        "2026-01-01T00:00:02.000Z"⟩]
    checkpoints := [{
      turnId := "u1"
      checkpointTurnCount := 1
      checkpointRef := "ref"
      status := .ready
      files := []
      assistantMessageId := none
      completedAt := "2026-01-01T00:00:03.000Z" }] }

def promptedRows : MessageTable :=
  KeyedTable.put
    { messageId := "m2", threadId := "t1", turnId := none, role := .user, text := "second"
      attachments := none, isStreaming := false
      createdAt := "2026-01-01T00:00:02.000Z", updatedAt := "2026-01-01T00:00:02.000Z" }
    (KeyedTable.put
      { messageId := "m1", threadId := "t1", turnId := none, role := .user, text := "first"
        attachments := none, isStreaming := false
        createdAt := "2026-01-01T00:00:01.000Z", updatedAt := "2026-01-01T00:00:01.000Z" }
      (.empty _))

/-- The row of turn `u1`, prompted by the message given. -/
def promptedTurn (pendingMessageId : MessageId) : ProjectionTurn where
  threadId := "t1"
  turnId := some "u1"
  pendingMessageId := some pendingMessageId
  sourceProposedPlanThreadId := none
  sourceProposedPlanId := none
  assistantMessageId := none
  state := .completed
  requestedAt := "2026-01-01T00:00:02.000Z"
  startedAt := some "2026-01-01T00:00:02.000Z"
  completedAt := some "2026-01-01T00:00:03.000Z"
  checkpointTurnCount := some 1
  checkpointRef := some "ref"
  checkpointStatus := some .ready
  checkpointFiles := []

def promptedTurns (pendingMessageId : MessageId) : TurnTable :=
  KeyedTable.put (promptedTurn pendingMessageId) (.empty _)

def promptedShown : Thread where
  id := "t1"
  environmentId := "local"
  codexThreadId := none
  projectId := "p1"
  title := "Thread"
  modelSelection := ⟨"codex", "model", none⟩
  runtimeMode := .fullAccess
  interactionMode := .default
  error := none
  createdAt := "2026-01-01T00:00:00.000Z"
  archivedAt := none
  updatedAt := some "2026-01-01T00:00:03.000Z"
  branch := none
  worktreePath := none
  customMetadata := none
  session := none
  latestTurn := none
  pendingSourceProposedPlan := none
  messages := [
    ⟨"m1", .user, "first", none, none, "2026-01-01T00:00:01.000Z", none, false⟩,
    ⟨"m2", .user, "second", none, none, "2026-01-01T00:00:02.000Z", none, false⟩]
  proposedPlans := []
  turnDiffSummaries := promptedThread.checkpoints.map mapTurnDiffSummary
  activities := []

theorem sameHistory_prompted (pendingMessageId : MessageId) :
    @SameHistory codePointCollation "t1" promptedThread (promptedTurns pendingMessageId)
      promptedRows promptedShown := by
  let _ := codePointCollation
  have hturns : TurnTable.listByThreadId (promptedTurns pendingMessageId) "t1" =
      [promptedTurn pendingMessageId] := rfl
  refine ⟨by decide +kernel, by decide +kernel, fun turnId count => ?_, fun turnId count => ?_,
    by decide, by decide, by decide⟩
  · rw [hturns]
    simp [promptedThread, promptedTurn]
  · rw [hturns]
    simp [promptedShown, promptedThread, mapTurnDiffSummary, promptedTurn]

/-- Turn `u1` prompted by the oldest message. -/
theorem revert_keeps_same_of_oldest_prompt :
    letI := codePointCollation
    RevertKeepsSame promptedThread (promptedTurns "m1") promptedRows promptedShown ⟨"t1", 1⟩
      "2026-01-01T00:00:04.000Z" := by
  let _ := codePointCollation
  have hsame : SameHistory (ThreadRevertedPayload.mk "t1" 1).threadId promptedThread
      (promptedTurns "m1") promptedRows promptedShown := sameHistory_prompted "m1"
  have hnamed : NamesRetained (promptedTurns "m1") promptedRows ⟨"t1", 1⟩ := by
    unfold NamesRetained SeedRetained
    decide
  exact (revert_keeps_same_iff comparesSortKeys_codePoint hsame _).mpr hnamed

/-- After a message that started no turn, the prompt of the first turn is not the oldest
message: the rows keep the prompt, the read model and the store the message before it. -/
theorem revert_loses_second_prompt :
    ¬ ∀ [Collation], Collation.ComparesSortKeys → ∀ (thread : OrchestrationThread)
      (turns : TurnTable) (messages : MessageTable) (shown : Thread)
      (payload : ThreadRevertedPayload) (occurredAt : IsoDateTime),
      SameHistory payload.threadId thread turns messages shown →
        RevertKeepsSame thread turns messages shown payload occurredAt := by
  intro h
  let _ := codePointCollation
  have hkeeps := h comparesSortKeys_codePoint promptedThread (promptedTurns "m2") promptedRows
    promptedShown ⟨"t1", 1⟩ "2026-01-01T00:00:04.000Z" (sameHistory_prompted "m2")
  exact absurd (hkeeps.rows "m2") (by decide)

end GT3Code.Web
