import GT3Code.Orchestration.ProjectionSnapshotQuery
import GT3Code.Orchestration.LiveProjection
import GT3Code.Web.ThreadUpdates

/-! # The latest turn of one thread

The client keeps one record of a thread's latest turn and changes it in place. The
server keeps a pointer on the thread's row and a state on every turn's row, and joins
the two when it is asked. Each of four kinds of event is followed in both.
-/

namespace GT3Code.Web

open GT3Code.Base GT3Code.Contracts GT3Code.Persistence GT3Code.Orchestration

/-! ## The two records -/

/-- The projection tables, and the store of a client that receives every event. -/
structure LatestTurnViews where
  tables : ProjectionTables
  store : EnvironmentState

abbrev TurnOutcome := TurnId × OrchestrationLatestTurnState

def outcomeOf (latestTurn : OrchestrationLatestTurn) : TurnOutcome :=
  (latestTurn.turnId, latestTurn.state)

def serverOutcome (threadId : ThreadId) (tables : ProjectionTables) : Option TurnOutcome :=
  ((getThreadDetailById tables threadId).bind OrchestrationThread.latestTurn).map outcomeOf

def clientOutcome (threadId : ThreadId) (store : EnvironmentState) : Option TurnOutcome :=
  ((getThreadFromEnvironmentState store threadId).bind Thread.latestTurn).map outcomeOf

def storeTurnDiffs (threadId : ThreadId) (store : EnvironmentState) : List TurnDiffSummary :=
  ((getThreadFromEnvironmentState store threadId).map Thread.turnDiffSummaries).getD []

def latestTurnPointer (threadId : ThreadId) (tables : ProjectionTables) : Option TurnId :=
  (getActiveThreadRowById tables threadId).bind ProjectionThread.latestTurnId

def turnState (turns : TurnTable) (threadId : ThreadId) (turnId : TurnId) :
    Option OrchestrationLatestTurnState :=
  (TurnTable.getByTurnId turns threadId turnId).map (fun row => mapTurnState row.state)

def pointedOutcome (turns : TurnTable) (threadId : ThreadId) (pointer : Option TurnId) :
    Option TurnOutcome :=
  pointer.bind (fun turnId => (turnState turns threadId turnId).map (fun state => (turnId, state)))

theorem serverOutcome_eq (threadId : ThreadId) (tables : ProjectionTables) :
    serverOutcome threadId tables =
      pointedOutcome tables.turns threadId (latestTurnPointer threadId tables) := by
  unfold serverOutcome latestTurnPointer pointedOutcome turnState getThreadDetailById
    getLatestTurnRowByThread
  cases getActiveThreadRowById tables threadId with
  | none => rfl
  | some row =>
    cases hpointer : row.latestTurnId with
    | none => simp [hpointer]
    | some turnId =>
      simp only [Option.map_some, Option.bind_some, hpointer, Option.map_map]
      rfl

section Steps

variable [Collation] [TextRuntime] [ClientRuntime]

/-- A message, a session, a turn diff or a revert of the thread, projected by the server
and received by the client. -/
def LatestTurnViews.step (threadId : ThreadId) (views : LatestTurnViews)
    (event : OrchestrationEvent) : Option LatestTurnViews :=
  (threadUpdater event).bind (fun update =>
    if update.1 = threadId then
      some
        { tables := projectTables views.tables event
          store := updateThreadState views.store threadId update.2 }
    else none)

/-- Client and server name the same latest turn in the same state, or both none. -/
def LatestTurnsAgree (threadId : ThreadId) (views : LatestTurnViews) : Prop :=
  clientOutcome threadId views.store = serverOutcome threadId views.tables

structure WithoutTurns (threadId : ThreadId) (views : LatestTurnViews) : Prop where
  active : (getActiveThreadRowById views.tables threadId).map ProjectionThread.latestTurnId =
    some none
  turns : ∀ row ∈ views.tables.turns.rows, row.threadId ≠ threadId
  shown : Shows views.store threadId none []

/-- A session that runs a turn runs one that has not finished. Any other session names
the turn shown, and names none, or one without a row, where none is shown. -/
def SessionFollowed (threadId : ThreadId) (views : LatestTurnViews)
    (session : OrchestrationSession) : Prop :=
  (∀ turnId, session.activeTurnId = some turnId → session.status = .running →
    ∀ state, turnState views.tables.turns threadId turnId = some state →
      state ≠ .completed ∧ state ≠ .error) ∧
  (session.activeTurnId = none ∨ session.status ≠ .running →
    (clientOutcome threadId views.store).map Prod.fst = session.activeTurnId.filter
      (fun turnId => (TurnTable.getByTurnId views.tables.turns threadId turnId).isSome))

/-- A first turn shown by an assistant's message is the one the pointer names already, and
a streamed message belongs to a running turn if to the one shown. -/
def MessageFollowed (threadId : ThreadId) (views : LatestTurnViews)
    (payload : ThreadMessageSentPayload) : Prop :=
  payload.role = .assistant → ∀ turnId, payload.turnId = some turnId →
    (clientOutcome threadId views.store = none →
      latestTurnPointer threadId views.tables = some turnId) ∧
    (∀ state, clientOutcome threadId views.store = some (turnId, state) →
      payload.streaming = true → state = .running)

/-- A placeholder the client ignores is of the turn shown as completed. Any other turn
diff is captured and of the turn shown, if one is. -/
def TurnDiffFollowed (threadId : ThreadId) (views : LatestTurnViews)
    (payload : ThreadTurnDiffCompletedPayload) : Prop :=
  if keepsExisting (storeTurnDiffs threadId views.store) (checkpointOfPayload payload) then
    clientOutcome threadId views.store = some (payload.turnId, .completed)
  else
    payload.status ≠ .missing ∧
      ∀ shown ∈ clientOutcome threadId views.store, shown.1 = payload.turnId

def lastTurnDiff (turnCount : Nat) (turnDiffSummaries : List TurnDiffSummary) :
    Option TurnDiffSummary :=
  (sortTurnDiffSummaries (turnDiffSummaries.filter (isRetainedSummary turnCount))).getLast?

/-- The client's last turn diff is captured and of the turn with the highest checkpoint in
the rows, which reports an error exactly where the turn diff does. Without one there is no
checkpoint to keep. -/
def RevertFollowed (threadId : ThreadId) (views : LatestTurnViews)
    (payload : ThreadRevertedPayload) : Prop :=
  (∀ turnDiff, lastTurnDiff payload.turnCount (storeTurnDiffs threadId views.store) =
      some turnDiff →
    turnDiff.status ≠ some .missing ∧
    ∃ count row, HighestCheckpoint views.tables.turns threadId payload.turnCount
        turnDiff.turnId count ∧
      TurnTable.getByTurnId views.tables.turns threadId turnDiff.turnId = some row ∧
      (turnDiff.status = some .error ↔ row.checkpointStatus = some .error)) ∧
  (lastTurnDiff payload.turnCount (storeTurnDiffs threadId views.store) = none →
    ∀ turnId count, ¬ HighestCheckpoint views.tables.turns threadId payload.turnCount turnId count)

structure EventFollowed (threadId : ThreadId) (views : LatestTurnViews)
    (event : OrchestrationEvent) : Prop where
  session : ∀ payload, event.payload = .threadSessionSet payload →
    SessionFollowed threadId views payload.session
  message : ∀ payload, event.payload = .threadMessageSent payload →
    MessageFollowed threadId views payload
  turnDiff : ∀ payload, event.payload = .threadTurnDiffCompleted payload →
    TurnDiffFollowed threadId views payload
  revert : ∀ payload, event.payload = .threadReverted payload →
    RevertFollowed threadId views payload

/-- A row with a checkpoint has ended, in error where its checkpoint has. -/
def OutcomesRecorded (turns : TurnTable) (threadId : ThreadId) : Prop :=
  ∀ row ∈ turns.rows, row.threadId = threadId → row.checkpointTurnCount.isSome →
    row.state = if row.checkpointStatus = some .error then .error else .completed

/-- The thread is known to both, its turn diffs apart, its checkpoints one to a count. -/
structure Followed (threadId : ThreadId) (views : LatestTurnViews) : Prop where
  active : (getActiveThreadRowById views.tables threadId).isSome
  shown : ∃ latestTurn turnDiffs, Shows views.store threadId latestTurn turnDiffs ∧
    (turnDiffs.map TurnDiffSummary.turnId).Nodup
  oneTurn : OneTurnPerCount views.tables.turns threadId
  outcomes : OutcomesRecorded views.tables.turns threadId

variable {threadId : ThreadId} {views next : LatestTurnViews} {event : OrchestrationEvent}

theorem step_eq_some_iff : views.step threadId event = some next ↔
    ∃ updater, threadUpdater event = some (threadId, updater) ∧
      next.tables = projectTables views.tables event ∧
      next.store = updateThreadState views.store threadId updater := by
  unfold LatestTurnViews.step
  rw [Option.bind_eq_some_iff]
  constructor
  · rintro ⟨⟨id, updater⟩, hupdate, hstep⟩
    by_cases hsame : id = threadId
    · rw [if_pos hsame] at hstep
      cases hstep
      exact ⟨updater, hsame ▸ hupdate, rfl, rfl⟩
    · rw [if_neg hsame] at hstep
      cases hstep
  · rintro ⟨updater, hupdate, htables, hstore⟩
    refine ⟨(threadId, updater), hupdate, ?_⟩
    rw [if_pos rfl, ← htables, ← hstore]

theorem threadId_of_step {other : ThreadId} {updater : Thread → Option Thread}
    (hstep : views.step threadId event = some next)
    (hupdater : threadUpdater event = some (other, updater)) : other = threadId := by
  obtain ⟨taken, htaken, -⟩ := step_eq_some_iff.mp hstep
  exact congrArg Prod.fst (Option.some.inj (hupdater.symm.trans htaken))

omit [ClientRuntime] in
theorem pointer_projectTables {tables : ProjectionTables} {change : LatestTurnChange}
    (heffect : threadRowEffect event = touchRow event threadId change)
    (hactive : (getActiveThreadRowById tables threadId).isSome) :
    (getActiveThreadRowById (projectTables tables event) threadId).isSome ∧
      latestTurnPointer threadId (projectTables tables event) =
        change.eval (applyThreadTurnsProjection tables.turns event) threadId
          (latestTurnPointer threadId tables) := by
  obtain ⟨row, hrow⟩ := Option.isSome_iff_exists.mp hactive
  obtain ⟨hfound, hlive⟩ := Option.filter_eq_some_iff.mp hrow
  have hlookup : KeyedTable.lookup threadId (projectTables tables event).threads =
      (threadRowEffect event).step _ threadId (KeyedTable.lookup threadId tables.threads) :=
    lookup_applyThreadsProjection _ event threadId
  rw [heffect, hfound] at hlookup
  simp only [touchRow, ThreadRowEffect.step, if_true, Option.map_some] at hlookup
  have hnext : getActiveThreadRowById (projectTables tables event) threadId =
      KeyedTable.lookup threadId (projectTables tables event).threads := by
    unfold getActiveThreadRowById
    rw [hlookup]
    exact Option.filter_some_pos hlive
  rw [latestTurnPointer, latestTurnPointer, hnext, hlookup, hrow]
  exact ⟨rfl, rfl⟩

omit [Collation] [TextRuntime] [ClientRuntime] in
theorem client_of_shows {store : EnvironmentState} {latestTurn : Option OrchestrationLatestTurn}
    {turnDiffs : List TurnDiffSummary} (h : Shows store threadId latestTurn turnDiffs) :
    clientOutcome threadId store = latestTurn.map outcomeOf ∧
      storeTurnDiffs threadId store = turnDiffs := by
  obtain ⟨thread, hthread, -, hlatest, hdiffs⟩ := h
  unfold clientOutcome storeTurnDiffs
  rw [hthread]
  exact ⟨by rw [Option.bind_some, hlatest], hdiffs⟩

theorem outcomes_of_step (hI : Followed threadId views)
    (hstep : views.step threadId event = some next) {updater : Thread → Option Thread}
    (hupdater : threadUpdater event = some (threadId, updater)) {change : LatestTurnChange}
    (heffect : threadRowEffect event = touchRow event threadId change) :
    (∃ thread, getThreadFromEnvironmentState views.store threadId = some thread ∧
      clientOutcome threadId views.store = thread.latestTurn.map outcomeOf ∧
      storeTurnDiffs threadId views.store = thread.turnDiffSummaries ∧
      (thread.turnDiffSummaries.map TurnDiffSummary.turnId).Nodup ∧
      (∀ after, updater thread = some after → after.id = thread.id →
        (after.turnDiffSummaries.map TurnDiffSummary.turnId).Nodup →
        Shows next.store threadId after.latestTurn after.turnDiffSummaries) ∧
      (updater thread = none → next.store = views.store)) ∧
    serverOutcome threadId views.tables =
      pointedOutcome views.tables.turns threadId (latestTurnPointer threadId views.tables) ∧
    (getActiveThreadRowById next.tables threadId).isSome ∧
    next.tables.turns = applyThreadTurnsProjection views.tables.turns event ∧
    serverOutcome threadId next.tables =
      pointedOutcome next.tables.turns threadId
        (change.eval next.tables.turns threadId (latestTurnPointer threadId views.tables)) := by
  obtain ⟨taken, htaken, htables, hstore⟩ := step_eq_some_iff.mp hstep
  have hsame : taken = updater := by
    rw [hupdater, Option.some.injEq, Prod.mk.injEq] at htaken
    exact htaken.2.symm
  subst hsame
  obtain ⟨hactive, hpointer⟩ := pointer_projectTables heffect hI.active
  obtain ⟨latestTurn, turnDiffs, ⟨thread, hfound, hid, hlatest, hdiffs⟩, hdistinct⟩ := hI.shown
  obtain ⟨hbefore, hbeforeDiffs⟩ := client_of_shows ⟨thread, hfound, hid, rfl, rfl⟩
  refine ⟨⟨thread, hfound, hbefore, hbeforeDiffs, hdiffs ▸ hdistinct, ?_, ?_⟩, ?_, ?_, ?_, ?_⟩
  · intro after hafter hafterId hafterDistinct
    rw [hstore]
    exact shows_updateThreadState taken hfound hafter (hafterId.trans hid) hafterDistinct
  · intro hafter
    rw [hstore]
    exact shows_of_unchanged hfound hafter
  · exact serverOutcome_eq threadId views.tables
  · rw [htables]
    exact hactive
  · rw [htables]
    rfl
  · rw [serverOutcome_eq, htables, hpointer]
    rfl

end Steps

section Rows

variable {threadId : ThreadId}

def RowRecorded (row : ProjectionTurn) : Prop :=
  row.checkpointTurnCount.isSome →
    row.state = if row.checkpointStatus = some .error then .error else .completed

variable {turns : TurnTable} {turnId : TurnId}

variable {row : ProjectionTurn}

theorem outcomesRecorded_upsert (hthread : row.threadId = threadId)
    (hturn : row.turnId = some turnId) (hrow : RowRecorded row)
    (h : OutcomesRecorded turns threadId) :
    OutcomesRecorded (TurnTable.upsertByTurnId turns row) threadId := by
  intro other hother hotherThread
  have hkey : turnKey row = some (threadId, turnId) := by simp [turnKey, hturn, hthread]
  rcases (KeyedTable.mem_put_iff hkey).mp hother with rfl | ⟨hmem, -⟩
  · exact hrow
  · exact h other hmem hotherThread

theorem recorded_of_getByTurnId {existing : ProjectionTurn} (h : OutcomesRecorded turns threadId)
    (hfound : TurnTable.getByTurnId turns threadId turnId = some existing) : RowRecorded existing :=
  h existing (KeyedTable.mem_of_lookup hfound).1 (key_of_getByTurnId hfound).1

theorem recorded_runningTurn (h : OutcomesRecorded turns threadId) (turnId : TurnId)
    (occurredAt : IsoDateTime) : RowRecorded (runningTurn turns threadId turnId occurredAt) := by
  intro hcount
  cases hfound : TurnTable.getByTurnId turns threadId turnId with
  | none => simp [runningTurn, hfound, freshTurn] at hcount
  | some existing =>
    simp only [runningTurn, hfound] at hcount ⊢
    rw [recorded_of_getByTurnId h hfound hcount]
    by_cases herror : existing.checkpointStatus = some .error <;> simp [herror]

theorem recorded_messageTurn {payload : ThreadMessageSentPayload}
    (h : OutcomesRecorded turns payload.threadId) (turnId : TurnId) :
    RowRecorded (messageTurn turns turnId payload) := by
  intro hcount
  cases hfound : TurnTable.getByTurnId turns payload.threadId turnId with
  | none => simp [messageTurn, hfound, freshTurn] at hcount
  | some existing =>
    simp only [messageTurn, hfound] at hcount ⊢
    rw [recorded_of_getByTurnId h hfound hcount]
    by_cases herror : existing.checkpointStatus = some .error <;> simp [herror]

theorem outcomesRecorded_completeTurnDiff (payload : ThreadTurnDiffCompletedPayload)
    (h : OutcomesRecorded turns threadId) :
    OutcomesRecorded (completeTurnDiff turns payload) threadId := by
  intro row hrow hthread hcount
  rcases mem_completeTurnDiff.mp hrow with rfl | ⟨existing, hmem, -, rfl⟩
  · simp [checkpointTurn]
  · by_cases hconflict : TurnTable.conflicts payload.threadId payload.turnId
        payload.checkpointTurnCount existing = true
    · simp [if_pos hconflict, TurnTable.withoutCheckpoint] at hcount
    · rw [if_neg hconflict] at hthread hcount ⊢
      exact h existing hmem hthread hcount

theorem turn_pointedOutcome (threadId : ThreadId) (turns : TurnTable) (pointer : Option TurnId) :
    (pointedOutcome turns threadId pointer).map Prod.fst =
      pointer.filter (fun turnId => (TurnTable.getByTurnId turns threadId turnId).isSome) := by
  cases pointer with
  | none => rfl
  | some turnId =>
    simp only [pointedOutcome, turnState, Option.bind_some]
    cases hfound : TurnTable.getByTurnId turns threadId turnId with
    | none => rw [Option.filter_some_neg (by simp [hfound]), Option.map_none, Option.map_none,
        Option.map_none]
    | some row => rw [Option.filter_some_pos (by simp [hfound]), Option.map_some, Option.map_some,
        Option.map_some]

theorem pointedOutcome_eq_iff (turns : TurnTable) (left right : Option TurnId) :
    pointedOutcome turns threadId left = pointedOutcome turns threadId right ↔
      (pointedOutcome turns threadId left).map Prod.fst =
        (pointedOutcome turns threadId right).map Prod.fst := by
  refine ⟨congrArg (Option.map Prod.fst), fun h => ?_⟩
  have hstate : ∀ pointer turnId state,
      pointedOutcome turns threadId pointer = some (turnId, state) →
        turnState turns threadId turnId = some state := by
    intro pointer turnId state houtcome
    obtain ⟨named, -, hnamed⟩ := Option.bind_eq_some_iff.mp houtcome
    obtain ⟨found, hfound, hpair⟩ := Option.map_eq_some_iff.mp hnamed
    cases hpair
    exact hfound
  cases hleft : pointedOutcome turns threadId left with
  | none =>
    rw [hleft] at h
    exact (Option.map_eq_none_iff.mp h.symm).symm
  | some outcome =>
    rw [hleft] at h
    obtain ⟨other, hright, hturn⟩ := Option.map_eq_some_iff.mp h.symm
    have hsame := hstate left outcome.1 outcome.2 hleft
    rw [← hturn, hstate right other.1 other.2 hright] at hsame
    rw [hright, ← Prod.ext hturn (Option.some.inj hsame)]

theorem pointedOutcome_some (h : TurnTable.getByTurnId turns threadId turnId = some row) :
    pointedOutcome turns threadId (some turnId) = some (turnId, mapTurnState row.state) := by
  simp only [pointedOutcome, turnState, Option.bind_some, h, Option.map_some]

end Rows

section Runs

variable [Collation] [TextRuntime] [ClientRuntime] {threadId : ThreadId}
  {views next : LatestTurnViews} {event : OrchestrationEvent}

omit [Collation] [TextRuntime] [ClientRuntime] in
theorem state_runningTurn (threadId : ThreadId) (turns : TurnTable) (turnId : TurnId) (occurredAt : IsoDateTime) :
    mapTurnState (runningTurn turns threadId turnId occurredAt).state = .running ↔
      ∀ state, turnState turns threadId turnId = some state → state ≠ .completed ∧ state ≠ .error := by
  unfold turnState
  cases hfound : TurnTable.getByTurnId turns threadId turnId with
  | none => simp [runningTurn, hfound, freshTurn, mapTurnState]
  | some existing =>
    simp only [runningTurn, hfound, Option.map_some, Option.some.injEq, forall_eq']
    cases existing.state <;> simp [mapTurnState]

theorem agree_session {payload : ThreadSessionSetPayload}
    (hI : Followed threadId views) (hP : LatestTurnsAgree threadId views)
    (hevent : event.payload = .threadSessionSet payload)
    (hstep : views.step threadId event = some next) :
    LatestTurnsAgree threadId next ↔ SessionFollowed threadId views payload.session := by
  have hupdater : threadUpdater event = some (payload.threadId,
      fun thread => some (setSession payload event.occurredAt thread)) := by
    simp only [threadUpdater, hevent]
  obtain rfl := threadId_of_step hstep hupdater
  have heffect : threadRowEffect event =
      touchRow event payload.threadId (.set payload.session.activeTurnId) := by
    simp only [threadRowEffect, hevent]
  obtain ⟨⟨thread, -, hbefore, -, hdistinct, hshows, -⟩, hserver, -, hturns, hserverNext⟩ :=
    outcomes_of_step hI hstep hupdater heffect
  have hclient := (client_of_shows (hshows _ rfl rfl hdistinct)).1
  unfold LatestTurnsAgree at hP ⊢
  rw [hserver] at hP
  rw [hclient, hserverNext, hturns]
  simp only [LatestTurnChange.eval, setSession, applyThreadTurnsProjection, hevent]
  unfold SessionFollowed
  cases hactive : payload.session.activeTurnId with
  | none =>
    have hnone := turn_pointedOutcome payload.threadId views.tables.turns none
    rw [← hbefore, hP, pointedOutcome_eq_iff, hnone]
    simp
  | some turnId =>
    by_cases hrunning : payload.session.status = .running
    · simp only [hrunning, if_true]
      have hrow : TurnTable.getByTurnId (TurnTable.deletePendingTurnStartByThreadId
          (TurnTable.upsertByTurnId views.tables.turns
            (runningTurn views.tables.turns payload.threadId turnId event.occurredAt))
          payload.threadId) payload.threadId turnId =
          some (runningTurn views.tables.turns payload.threadId turnId event.occurredAt) := by
        obtain ⟨hthread, hturn⟩ :=
          key_runningTurn views.tables.turns payload.threadId turnId event.occurredAt
        rw [getByTurnId_deletePending, getByTurnId_upsert hthread hturn, if_pos rfl]
      rw [pointedOutcome_some hrow]
      have hstate := state_runningTurn payload.threadId views.tables.turns turnId event.occurredAt
      simp only [Option.map_some, outcomeOf, latestTurnOfSession, buildLatestTurn,
        Option.some.injEq, Prod.mk.injEq, true_and]
      rw [eq_comm, hstate]
      simp
    · simp only [hrunning, if_false]
      have hnamed := turn_pointedOutcome payload.threadId views.tables.turns
        (some turnId)
      rw [← hbefore, hP, pointedOutcome_eq_iff, hnamed]
      simp [hrunning]

omit [Collation] [TextRuntime] [ClientRuntime] in
theorem state_messageTurn {turns : TurnTable} {turnId : TurnId} {existing : ProjectionTurn}
    {payload : ThreadMessageSentPayload}
    (hfound : TurnTable.getByTurnId turns payload.threadId turnId = some existing) :
    mapTurnState (messageTurn turns turnId payload).state =
      if payload.streaming then mapTurnState existing.state
      else if mapTurnState existing.state = .interrupted then .interrupted
      else if mapTurnState existing.state = .error then .error
      else .completed := by
  simp only [messageTurn, hfound]
  cases payload.streaming <;> cases existing.state <;> rfl

omit [Collation] [TextRuntime] [ClientRuntime] in
theorem state_messageTurn_fresh {turns : TurnTable} {turnId : TurnId}
    {payload : ThreadMessageSentPayload}
    (hfound : TurnTable.getByTurnId turns payload.threadId turnId = none) :
    mapTurnState (messageTurn turns turnId payload).state =
      if payload.streaming then .running else .completed := by
  simp only [messageTurn, hfound, freshTurn]
  cases payload.streaming <;> rfl

omit [Collation] [TextRuntime] [ClientRuntime] in
theorem outcome_latestTurnOfMessage (payload : ThreadMessageSentPayload) (turnId : TurnId)
    (thread : Thread) :
    outcomeOf (latestTurnOfMessage payload turnId thread) =
      (turnId,
        if payload.streaming then .running
        else if thread.latestTurn.map OrchestrationLatestTurn.state = some .interrupted then
          .interrupted
        else if thread.latestTurn.map OrchestrationLatestTurn.state = some .error then .error
        else .completed) := rfl

omit [Collation] [TextRuntime] in
theorem latestTurn_sendMessage_of_none {payload : ThreadMessageSentPayload}
    (hturn : (if payload.role = .assistant then payload.turnId else none) = none)
    (occurredAt : IsoDateTime) (thread : Thread) :
    (sendMessage payload occurredAt thread).latestTurn = thread.latestTurn ∧
      (sendMessage payload occurredAt thread).turnDiffSummaries = thread.turnDiffSummaries := by
  simp only [sendMessage, hturn, and_self]

omit [Collation] [TextRuntime] in
theorem latestTurn_sendMessage {payload : ThreadMessageSentPayload} {turnId : TurnId}
    (hrole : payload.role = .assistant) (hturn : payload.turnId = some turnId)
    (occurredAt : IsoDateTime) (thread : Thread) :
    (sendMessage payload occurredAt thread).latestTurn =
        (if thread.latestTurn.all (fun latestTurn => latestTurn.turnId = turnId) then
          some (latestTurnOfMessage payload turnId thread)
        else thread.latestTurn) ∧
      (sendMessage payload occurredAt thread).turnDiffSummaries =
        rebindTurnDiffSummariesForAssistantMessage thread.turnDiffSummaries turnId
          payload.messageId := by
  simp only [sendMessage, hrole, hturn, if_true, and_self]

omit [Collation] [TextRuntime] in
theorem map_turnId_sendMessage (payload : ThreadMessageSentPayload) (occurredAt : IsoDateTime)
    (thread : Thread) :
    (sendMessage payload occurredAt thread).turnDiffSummaries.map TurnDiffSummary.turnId =
      thread.turnDiffSummaries.map TurnDiffSummary.turnId := by
  cases hturn : (if payload.role = .assistant then payload.turnId else none) with
  | none => rw [(latestTurn_sendMessage_of_none hturn occurredAt thread).2]
  | some turnId =>
    by_cases hrole : payload.role = .assistant
    · rw [if_pos hrole] at hturn
      rw [(latestTurn_sendMessage hrole hturn occurredAt thread).2,
        rebindTurnDiffSummariesForAssistantMessage, List.map_map]
      refine List.map_congr_left (fun summary _ => ?_)
      simp only [Function.comp_apply]
      split <;> rfl
    · rw [if_neg hrole] at hturn
      cases hturn

omit [Collation] [TextRuntime] in
variable {payload : ThreadMessageSentPayload}

omit [Collation] [TextRuntime] in
theorem assistant_message_iff {turns : TurnTable} {pointer : Option TurnId} {turnId : TurnId}
    {thread : Thread} (occurredAt : IsoDateTime) (hrole : payload.role = .assistant)
    (hturn : payload.turnId = some turnId)
    (hP : thread.latestTurn.map outcomeOf = pointedOutcome turns payload.threadId pointer) :
    (sendMessage payload occurredAt thread).latestTurn.map outcomeOf =
        pointedOutcome (TurnTable.upsertByTurnId turns (messageTurn turns turnId payload))
          payload.threadId pointer ↔
      (thread.latestTurn.map outcomeOf = none → pointer = some turnId) ∧
        ∀ state, thread.latestTurn.map outcomeOf = some (turnId, state) →
          payload.streaming = true → state = .running := by
  obtain ⟨hthread, hturnId⟩ := key_messageTurn turns turnId payload
  rw [(latestTurn_sendMessage hrole hturn occurredAt thread).1]
  cases pointer with
  | none =>
    have hlatest : thread.latestTurn = none := Option.map_eq_none_iff.mp hP
    simp [hlatest, pointedOutcome]
  | some pointed =>
    have hnew : TurnTable.getByTurnId (TurnTable.upsertByTurnId turns
          (messageTurn turns turnId payload)) payload.threadId pointed =
        if turnId = pointed then some (messageTurn turns turnId payload)
        else TurnTable.getByTurnId turns payload.threadId pointed :=
      getByTurnId_upsert hthread hturnId pointed
    cases hfound : TurnTable.getByTurnId turns payload.threadId pointed with
    | none =>
      have hlatest : thread.latestTurn = none := by
        refine Option.map_eq_none_iff.mp (hP.trans ?_)
        simp [pointedOutcome, turnState, hfound]
      by_cases hsame : turnId = pointed
      · subst hsame
        rw [if_pos rfl] at hnew
        rw [pointedOutcome_some hnew, state_messageTurn_fresh hfound, hlatest]
        simp [outcome_latestTurnOfMessage, hlatest]
      · rw [if_neg hsame, hfound] at hnew
        simp [hlatest, pointedOutcome, turnState, hnew, Ne.symm hsame]
    | some existing =>
      obtain ⟨shown, hlatest, hshown⟩ :=
        Option.map_eq_some_iff.mp (hP.trans (pointedOutcome_some hfound))
      have hshownTurn : shown.turnId = pointed := congrArg Prod.fst hshown
      have hshownState : shown.state = mapTurnState existing.state :=
        congrArg Prod.snd hshown
      by_cases hsame : turnId = pointed
      · subst hsame
        rw [if_pos rfl] at hnew
        rw [pointedOutcome_some hnew, state_messageTurn hfound, hlatest]
        simp only [Option.all_some, hshownTurn, decide_true, if_true, Option.map_some,
          outcome_latestTurnOfMessage, hlatest, hshownState, hshown, Option.some.injEq,
          Prod.mk.injEq, true_and, forall_eq', reduceCtorEq, false_imp_iff]
        cases payload.streaming <;> simp [eq_comm]
      · rw [if_neg hsame, hfound] at hnew
        rw [pointedOutcome_some hnew, hlatest]
        simp [hshownTurn, Ne.symm hsame, hshown]

theorem agree_message (hI : Followed threadId views) (hP : LatestTurnsAgree threadId views)
    (hevent : event.payload = .threadMessageSent payload)
    (hstep : views.step threadId event = some next) :
    LatestTurnsAgree threadId next ↔ MessageFollowed threadId views payload := by
  have hupdater : threadUpdater event = some (payload.threadId,
      fun thread => some (sendMessage payload event.occurredAt thread)) := by
    simp only [threadUpdater, hevent]
  obtain rfl := threadId_of_step hstep hupdater
  have heffect : threadRowEffect event = touchRow event payload.threadId .keep := by
    simp only [threadRowEffect, hevent]
  obtain ⟨⟨thread, -, hbefore, -, hdistinct, hshows, -⟩, hserver, -, hturns, hserverNext⟩ :=
    outcomes_of_step hI hstep hupdater heffect
  have hclient := (client_of_shows (hshows _ rfl rfl (by
    rw [map_turnId_sendMessage]
    exact hdistinct))).1
  unfold LatestTurnsAgree MessageFollowed at *
  rw [hserver, hbefore] at hP
  rw [hclient, hserverNext, hturns, hbefore]
  simp only [LatestTurnChange.eval, applyThreadTurnsProjection, hevent]
  by_cases hrole : payload.role = .assistant
  · cases hturn : payload.turnId with
    | none =>
      have hnone : (if payload.role = .assistant then payload.turnId else none) = none := by
        rw [if_pos hrole, hturn]
      rw [(latestTurn_sendMessage_of_none hnone event.occurredAt thread).1, hP]
      simp
    | some turnId =>
      have hiff := assistant_message_iff event.occurredAt hrole hturn hP
      simp only [hrole, if_true, true_imp_iff, Option.some.injEq, forall_eq']
      exact hiff
  · have hnone : (if payload.role = .assistant then payload.turnId else none) = none :=
      if_neg hrole
    rw [(latestTurn_sendMessage_of_none hnone event.occurredAt thread).1, hP]
    cases payload.turnId <;> simp [hrole]

omit [Collation] [TextRuntime] [ClientRuntime] in
theorem nodup_sortTurnDiffSummaries {turnDiffs : List TurnDiffSummary}
    (h : (turnDiffs.map TurnDiffSummary.turnId).Nodup) :
    ((sortTurnDiffSummaries turnDiffs).map TurnDiffSummary.turnId).Nodup := by
  have hsorted := ((toSorted_perm (byKey (fun summary : TurnDiffSummary =>
    turnCountKey summary.checkpointTurnCount)) turnDiffs).map TurnDiffSummary.turnId).nodup_iff.mpr h
  exact hsorted.sublist ((sliceLast_sublist _ _).map _)

omit [Collation] [TextRuntime] [ClientRuntime] in
theorem nodup_completeThreadTurnDiff {payload : ThreadTurnDiffCompletedPayload}
    {occurredAt : IsoDateTime} {thread after : Thread}
    (h : (thread.turnDiffSummaries.map TurnDiffSummary.turnId).Nodup)
    (hafter : completeThreadTurnDiff payload occurredAt thread = some after) :
    (after.turnDiffSummaries.map TurnDiffSummary.turnId).Nodup := by
  rw [turnDiffSummaries_completeThreadTurnDiff hafter]
  refine nodup_sortTurnDiffSummaries ?_
  rw [List.map_append, List.nodup_append]
  refine ⟨h.sublist (List.filter_sublist.map _), List.nodup_singleton _, ?_⟩
  intro turnId hturnId other hother
  obtain ⟨summary, hsummary, rfl⟩ := List.mem_map.mp hturnId
  have hne := (List.mem_filter.mp hsummary).2
  rw [List.mem_singleton.mp hother]
  exact of_decide_eq_true hne

theorem agree_turnDiff {payload : ThreadTurnDiffCompletedPayload}
    (hI : Followed threadId views) (hP : LatestTurnsAgree threadId views)
    (hevent : event.payload = .threadTurnDiffCompleted payload)
    (hstep : views.step threadId event = some next) :
    LatestTurnsAgree threadId next ↔ TurnDiffFollowed threadId views payload := by
  have hupdater : threadUpdater event =
      some (payload.threadId, completeThreadTurnDiff payload event.occurredAt) := by
    simp only [threadUpdater, hevent]
  obtain rfl := threadId_of_step hstep hupdater
  have heffect : threadRowEffect event =
      touchRow event payload.threadId (.set (some payload.turnId)) := by
    simp only [threadRowEffect, hevent]
  obtain ⟨⟨thread, -, hbefore, hbeforeDiffs, hdistinct, hshows, hsame⟩, -, -, hturns,
    hserverNext⟩ := outcomes_of_step hI hstep hupdater heffect
  have hserver : serverOutcome payload.threadId next.tables =
      some (payload.turnId, if payload.status = .error then .error else .completed) := by
    have hstate := state_completeTurnDiff views.tables.turns payload payload.turnId
    rw [if_pos rfl] at hstate
    obtain ⟨row, hrow, hrowState⟩ := Option.map_eq_some_iff.mp hstate
    rw [hserverNext, hturns]
    simp only [LatestTurnChange.eval, applyThreadTurnsProjection, hevent]
    rw [pointedOutcome_some hrow, hrowState]
    split <;> rfl
  unfold LatestTurnsAgree TurnDiffFollowed
  rw [hserver, hbeforeDiffs]
  by_cases hkeeps : keepsExisting thread.turnDiffSummaries (checkpointOfPayload payload) = true
  · have hmissing : payload.status = .missing := by
      unfold keepsExisting at hkeeps
      split at hkeeps
      · cases hkeeps
      · rw [Bool.and_eq_true, decide_eq_true_eq, decide_eq_true_eq] at hkeeps
        exact Option.some.inj hkeeps.2
    have hignored : completeThreadTurnDiff payload event.occurredAt thread = none := by
      rw [completeThreadTurnDiff, if_pos hkeeps]
    rw [hsame hignored, if_pos hkeeps, hmissing]
    rfl
  · obtain ⟨after, hafter⟩ : ∃ after,
        completeThreadTurnDiff payload event.occurredAt thread = some after :=
      ⟨_, by rw [completeThreadTurnDiff, if_neg hkeeps]⟩
    have hclient := (client_of_shows (hshows after hafter (id_of_completeThreadTurnDiff hafter)
      (nodup_completeThreadTurnDiff hdistinct hafter))).1
    rw [hclient, hbefore, if_neg hkeeps]
    rw [completeThreadTurnDiff, if_neg hkeeps] at hafter
    rw [← Option.some.inj hafter]
    cases hshown : thread.latestTurn with
    | none =>
      simp only [Option.all_none, if_true, Option.map_some, outcomeOf, buildLatestTurn]
      cases payload.status <;> simp [checkpointStatusToLatestTurnState]
    | some shown =>
      by_cases hsame : shown.turnId = payload.turnId
      · simp only [Option.all_some, hsame, decide_true, if_true, Option.map_some, outcomeOf,
          buildLatestTurn]
        cases payload.status <;> simp [checkpointStatusToLatestTurnState]
      · simp [hsame, outcomeOf]

theorem agree_revert {payload : ThreadRevertedPayload}
    (hI : Followed threadId views)
    (hevent : event.payload = .threadReverted payload)
    (hstep : views.step threadId event = some next) :
    LatestTurnsAgree threadId next ↔ RevertFollowed threadId views payload := by
  have hupdater : threadUpdater event = some (payload.threadId,
      fun thread => some (revertThread payload event.occurredAt thread)) := by
    simp only [threadUpdater, hevent]
  obtain rfl := threadId_of_step hstep hupdater
  have heffect : threadRowEffect event =
      touchRow event payload.threadId (.revertTo payload.turnCount) := by
    simp only [threadRowEffect, hevent]
  obtain ⟨⟨thread, -, -, hbeforeDiffs, hdistinct, hshows, -⟩, -, -, hturns, hserverNext⟩ :=
    outcomes_of_step hI hstep hupdater heffect
  have hclient := (client_of_shows (hshows _ rfl rfl (by
    rw [turnDiffSummaries_revertThread]
    exact nodup_sortTurnDiffSummaries (hdistinct.sublist (List.filter_sublist.map _))))).1
  have hone : OneTurnPerCount (revertTurns views.tables.turns payload) payload.threadId :=
    oneTurnPerCount_revertTurns payload hI.oneTurn
  unfold LatestTurnsAgree RevertFollowed
  rw [hclient, hbeforeDiffs, latestTurn_revertThread, hserverNext, hturns]
  simp only [LatestTurnChange.eval, applyThreadTurnsProjection, hevent]
  have hpointed : ∀ turnId, latestTurnIdAfterRevert (TurnTable.listByThreadId
      (revertTurns views.tables.turns payload) payload.threadId) payload.turnCount = some turnId ↔
        ∃ count, HighestCheckpoint (revertTurns views.tables.turns payload) payload.threadId
          payload.turnCount turnId count :=
    fun _ => latestTurnIdAfterRevert_eq_some_iff hone
  simp only [highestCheckpoint_revertTurns] at hpointed
  generalize latestTurnIdAfterRevert (TurnTable.listByThreadId
    (revertTurns views.tables.turns payload) payload.threadId) payload.turnCount = pointer
    at hpointed ⊢
  show ((lastTurnDiff payload.turnCount thread.turnDiffSummaries).map latestTurnOfSummary).map
    outcomeOf = _ ↔ _
  -- The pointer names a turn whose row is kept and says how the turn ended.
  have hrow : ∀ turnId, pointer = some turnId → ∃ row,
      TurnTable.getByTurnId views.tables.turns payload.threadId turnId = some row ∧
        pointedOutcome (revertTurns views.tables.turns payload) payload.threadId pointer =
          some (turnId, if row.checkpointStatus = some .error then .error else .completed) := by
    intro turnId hpointer
    obtain ⟨count, hcheckpoint, hle, -⟩ := (hpointed turnId).mp hpointer
    obtain ⟨row, hlookup, hmem, hthread, hcount⟩ := row_of_hasCheckpoint hcheckpoint
    have hstate := hI.outcomes row hmem hthread (by rw [hcount]; rfl)
    have hkept : TurnTable.getByTurnId (revertTurns views.tables.turns payload)
        payload.threadId turnId = some row := by
      rw [getByTurnId_revertTurns, hlookup]
      have hturn := (key_of_getByTurnId hlookup).2
      exact Option.filter_some_pos (by simp [isKeptTurn, hturn, hcount, hle])
    refine ⟨row, hlookup, ?_⟩
    rw [hpointer, pointedOutcome_some hkept, hstate]
    split <;> rfl
  cases hlast : lastTurnDiff payload.turnCount thread.turnDiffSummaries with
  | none =>
    cases pointer with
    | none =>
      have hnone : ∀ turnId count, ¬ HighestCheckpoint views.tables.turns payload.threadId
          payload.turnCount turnId count :=
        fun turnId count h => absurd ((hpointed turnId).mpr ⟨count, h⟩) (by simp)
      simp [pointedOutcome, hnone]
    | some turnId =>
      obtain ⟨row, -, houtcome⟩ := hrow turnId rfl
      obtain ⟨count, hhighest⟩ := (hpointed turnId).mp rfl
      rw [houtcome]
      constructor
      · exact fun h => by cases h
      · exact fun h => absurd hhighest (h.2 rfl turnId count)
  | some turnDiff =>
    have houtcome : outcomeOf (latestTurnOfSummary turnDiff) = (turnDiff.turnId,
        checkpointStatusToLatestTurnState (turnDiff.status.getD .ready)) := rfl
    rw [Option.map_some, Option.map_some, houtcome]
    cases hpointer : pointer with
    | none =>
      constructor
      · exact fun h => by cases h
      · intro h
        obtain ⟨-, count, row, hhighest, -⟩ := h.1 turnDiff rfl
        have hnamed := (hpointed turnDiff.turnId).mpr ⟨count, hhighest⟩
        rw [hpointer] at hnamed
        cases hnamed
    | some turnId =>
      obtain ⟨row, hlookup, hpointedRow⟩ := hrow turnId hpointer
      obtain ⟨count, hhighest⟩ := (hpointed turnId).mp hpointer
      rw [← hpointer, hpointedRow, Option.some.injEq, Prod.mk.injEq]
      have hstates : checkpointStatusToLatestTurnState (turnDiff.status.getD .ready) =
            (if row.checkpointStatus = some .error then .error else .completed) ↔
          turnDiff.status ≠ some .missing ∧
            (turnDiff.status = some .error ↔ row.checkpointStatus = some .error) := by
        by_cases herror : row.checkpointStatus = some .error
        · rw [if_pos herror]
          rcases turnDiff.status with _ | status
          · simp [checkpointStatusToLatestTurnState, herror]
          · cases status <;> simp [checkpointStatusToLatestTurnState, herror]
        · rw [if_neg herror]
          rcases turnDiff.status with _ | status
          · simp [checkpointStatusToLatestTurnState, herror]
          · cases status <;> simp [checkpointStatusToLatestTurnState, herror]
      rw [hstates]
      constructor
      · rintro ⟨rfl, hcaptured, herror⟩
        refine ⟨fun other hother => ?_, fun h => by cases h⟩
        cases hother
        exact ⟨hcaptured, count, row, hhighest, hlookup, herror⟩
      · intro h
        obtain ⟨hcaptured, otherCount, otherRow, hother, hotherLookup, herror⟩ :=
          h.1 turnDiff rfl
        have hnamed := (hpointed turnDiff.turnId).mpr ⟨otherCount, hother⟩
        rw [hpointer, Option.some.injEq] at hnamed
        subst hnamed
        rw [hlookup, Option.some.injEq] at hotherLookup
        exact ⟨rfl, hcaptured, hotherLookup ▸ herror⟩

omit [TextRuntime] in
theorem outcomesRecorded_applyThreadTurns {turns : TurnTable} {updater : Thread → Option Thread}
    (hupdater : threadUpdater event = some (threadId, updater))
    (h : OutcomesRecorded turns threadId) :
    OutcomesRecorded (applyThreadTurnsProjection turns event) threadId := by
  unfold threadUpdater at hupdater
  cases hpayload : event.payload with
  | threadMessageSent payload =>
    simp only [hpayload, Option.some.injEq, Prod.mk.injEq] at hupdater
    obtain ⟨rfl, -⟩ := hupdater
    simp only [applyThreadTurnsProjection, hpayload]
    cases hturn : payload.turnId with
    | none => exact h
    | some turnId =>
      simp only
      split
      · obtain ⟨hthread, hrowTurn⟩ := key_messageTurn turns turnId payload
        exact outcomesRecorded_upsert hthread hrowTurn (recorded_messageTurn h turnId) h
      · exact h
  | threadSessionSet payload =>
    simp only [hpayload, Option.some.injEq, Prod.mk.injEq] at hupdater
    obtain ⟨rfl, -⟩ := hupdater
    simp only [applyThreadTurnsProjection, hpayload]
    cases hactive : payload.session.activeTurnId with
    | none => exact h
    | some turnId =>
      simp only
      split
      · obtain ⟨hthread, hrowTurn⟩ := key_runningTurn turns payload.threadId turnId
          event.occurredAt
        intro row hrow
        rw [TurnTable.deletePendingTurnStartByThreadId, KeyedTable.rows_restrict] at hrow
        exact outcomesRecorded_upsert hthread hrowTurn
          (recorded_runningTurn h turnId event.occurredAt) h row (List.mem_of_mem_filter hrow)
      · exact h
  | threadTurnDiffCompleted payload =>
    simp only [applyThreadTurnsProjection, hpayload]
    exact outcomesRecorded_completeTurnDiff payload h
  | threadReverted payload =>
    simp only [applyThreadTurnsProjection, hpayload]
    exact fun row hrow => h row (mem_revertTurns.mp hrow).1
  | _ => simp [hpayload] at hupdater

omit [TextRuntime] in
theorem nodup_of_threadUpdater {updater : Thread → Option Thread} {thread after : Thread}
    (hupdater : threadUpdater event = some (threadId, updater))
    (hdistinct : (thread.turnDiffSummaries.map TurnDiffSummary.turnId).Nodup)
    (hafter : updater thread = some after) :
    after.id = thread.id ∧ (after.turnDiffSummaries.map TurnDiffSummary.turnId).Nodup := by
  unfold threadUpdater at hupdater
  cases hpayload : event.payload with
  | threadMessageSent payload =>
    simp only [hpayload, Option.some.injEq, Prod.mk.injEq] at hupdater
    obtain ⟨-, rfl⟩ := hupdater
    cases hafter
    refine ⟨rfl, ?_⟩
    rw [map_turnId_sendMessage]
    exact hdistinct
  | threadSessionSet payload =>
    simp only [hpayload, Option.some.injEq, Prod.mk.injEq] at hupdater
    obtain ⟨-, rfl⟩ := hupdater
    cases hafter
    exact ⟨rfl, hdistinct⟩
  | threadTurnDiffCompleted payload =>
    simp only [hpayload, Option.some.injEq, Prod.mk.injEq] at hupdater
    obtain ⟨-, rfl⟩ := hupdater
    exact ⟨id_of_completeThreadTurnDiff hafter, nodup_completeThreadTurnDiff hdistinct hafter⟩
  | threadReverted payload =>
    simp only [hpayload, Option.some.injEq, Prod.mk.injEq] at hupdater
    obtain ⟨-, rfl⟩ := hupdater
    cases hafter
    refine ⟨rfl, ?_⟩
    rw [turnDiffSummaries_revertThread]
    exact nodup_sortTurnDiffSummaries (hdistinct.sublist (List.filter_sublist.map _))
  | _ => simp [hpayload] at hupdater

omit [TextRuntime] in
theorem touchRow_of_threadUpdater {updater : Thread → Option Thread}
    (hupdater : threadUpdater event = some (threadId, updater)) :
    ∃ change, threadRowEffect event = touchRow event threadId change := by
  unfold threadUpdater at hupdater
  cases hpayload : event.payload with
  | threadMessageSent | threadSessionSet | threadTurnDiffCompleted | threadReverted =>
    simp only [hpayload, Option.some.injEq, Prod.mk.injEq] at hupdater
    simp only [threadRowEffect, hpayload, hupdater.1]
    exact ⟨_, rfl⟩
  | _ => simp [hpayload] at hupdater

theorem followed_step (hI : Followed threadId views)
    (hstep : views.step threadId event = some next) : Followed threadId next := by
  obtain ⟨updater, hupdater, -⟩ := step_eq_some_iff.mp hstep
  obtain ⟨change, heffect⟩ := touchRow_of_threadUpdater hupdater
  obtain ⟨⟨thread, hfound, -, -, hdistinct, hshows, hsame⟩, -, hactive, hturns, -⟩ :=
    outcomes_of_step hI hstep hupdater heffect
  refine ⟨hactive, ?_, ?_, ?_⟩
  · cases hafter : updater thread with
    | none =>
      rw [hsame hafter]
      exact hI.shown
    | some after =>
      obtain ⟨hid, hafterDistinct⟩ := nodup_of_threadUpdater hupdater hdistinct hafter
      exact ⟨_, _, hshows after hafter hid hafterDistinct, hafterDistinct⟩
  · rw [hturns]
    exact oneTurnPerCount_applyThreadTurns event hI.oneTurn
  · rw [hturns]
    exact outcomesRecorded_applyThreadTurns hupdater hI.outcomes

theorem agree_step (hI : Followed threadId views) (hP : LatestTurnsAgree threadId views)
    (hstep : views.step threadId event = some next) :
    LatestTurnsAgree threadId next ↔ EventFollowed threadId views event := by
  obtain ⟨updater, hupdater, -, -⟩ := step_eq_some_iff.mp hstep
  unfold threadUpdater at hupdater
  cases hevent : event.payload with
  | threadMessageSent payload =>
    rw [agree_message hI hP hevent hstep]
    refine ⟨fun h => ⟨?_, ?_, ?_, ?_⟩, fun h => h.message payload hevent⟩
    all_goals
      intro other hother
      cases hevent.symm.trans hother
    exact h
  | threadSessionSet payload =>
    rw [agree_session hI hP hevent hstep]
    refine ⟨fun h => ⟨?_, ?_, ?_, ?_⟩, fun h => h.session payload hevent⟩
    all_goals
      intro other hother
      cases hevent.symm.trans hother
    exact h
  | threadTurnDiffCompleted payload =>
    rw [agree_turnDiff hI hP hevent hstep]
    refine ⟨fun h => ⟨?_, ?_, ?_, ?_⟩, fun h => h.turnDiff payload hevent⟩
    all_goals
      intro other hother
      cases hevent.symm.trans hother
    exact h
  | threadReverted payload =>
    rw [agree_revert hI hevent hstep]
    refine ⟨fun h => ⟨?_, ?_, ?_, ?_⟩, fun h => h.revert payload hevent⟩
    all_goals
      intro other hother
      cases hevent.symm.trans hother
    exact h
  | _ => simp [hevent] at hupdater

omit [Collation] [TextRuntime] [ClientRuntime] in
theorem WithoutTurns.followed (h : WithoutTurns threadId views) : Followed threadId views where
  active := by simpa using congrArg Option.isSome h.active
  shown := ⟨none, [], h.shown, List.nodup_nil⟩
  oneTurn := fun _ _ _ hleft => by
    obtain ⟨row, hmem, hthread, -⟩ := hleft
    exact absurd hthread (h.turns row hmem)
  outcomes := fun row hmem hthread => absurd hthread (h.turns row hmem)

omit [Collation] [TextRuntime] [ClientRuntime] in
theorem WithoutTurns.agree (h : WithoutTurns threadId views) : LatestTurnsAgree threadId views := by
  obtain ⟨row, hrow, hpointer⟩ := Option.map_eq_some_iff.mp h.active
  unfold LatestTurnsAgree
  rw [(client_of_shows h.shown).1, serverOutcome_eq, latestTurnPointer, hrow, Option.bind_some,
    hpointer]
  rfl

/-- Client and server agree on the latest turn all along a run of the four events exactly
when every event is followed. -/
theorem latest_turns_agree_iff_events_followed {start : LatestTurnViews}
    (hstart : WithoutTurns threadId start) (events : List OrchestrationEvent) :
    Throughout (LatestTurnViews.step threadId) (LatestTurnsAgree threadId) start events ↔
      StepsMeet (LatestTurnViews.step threadId) (EventFollowed threadId) start events :=
  throughout_iff_stepsMeet (fun _ _ _ hI h => followed_step hI h)
    (fun _ _ _ hI hP h => agree_step hI hP h) hstart.followed hstart.agree events

end Runs

/-- Thread `t1` as created, in the projection and in the store. -/
def createdLatestTurnViews : LatestTurnViews where
  tables :=
    { ProjectionTables.empty with
      threads := KeyedTable.put (createdThreadRow {
        threadId := "t1"
        projectId := "p1"
        title := "Thread"
        modelSelection := ⟨"codex", "model", none⟩
        runtimeMode := .fullAccess
        interactionMode := .default
        branch := none
        worktreePath := none
        customMetadata := none
        createdAt := "2026-01-01T00:00:00.000Z"
        updatedAt := "2026-01-01T00:00:00.000Z" }) (.empty _) }
  store := writeThreadState initialEnvironmentState {
    id := "t1"
    environmentId := "local"
    codexThreadId := none
    projectId := "p1"
    title := "Thread"
    modelSelection := ⟨"codex", "model", none⟩
    runtimeMode := .fullAccess
    interactionMode := .default
    error := none
    createdAt := "2026-01-01T00:00:00.000Z"
    archivedAt := none
    updatedAt := some "2026-01-01T00:00:00.000Z"
    branch := none
    worktreePath := none
    customMetadata := none
    session := none
    latestTurn := none
    pendingSourceProposedPlan := none
    messages := []
    proposedPlans := []
    turnDiffSummaries := []
    activities := [] } none

/-- A session of thread `t1` in the status given. -/
def sessionEvent (status : OrchestrationSessionStatus) (activeTurnId : Option TurnId) :
    OrchestrationEvent where
  eventId := "event"
  aggregateKind := .thread
  aggregateId := "t1"
  occurredAt := "2026-01-01T00:00:01.000Z"
  commandId := none
  causationEventId := none
  correlationId := none
  metadata := ⟨none⟩
  sequence := 1
  payload := .threadSessionSet {
    threadId := "t1"
    session := {
      threadId := "t1"
      status := status
      providerName := some "codex"
      providerInstanceId := none
      runtimeMode := .fullAccess
      activeTurnId := activeTurnId
      lastError := none
      updatedAt := "2026-01-01T00:00:01.000Z" } }

theorem withoutTurns_created : WithoutTurns "t1" createdLatestTurnViews where
  active := rfl
  turns _ hrow := absurd hrow List.not_mem_nil
  shown := ⟨_, rfl, rfl, rfl, rfl⟩

/-- A first turn runs, streams a message and is captured. -/
def firstTurnRun : List OrchestrationEvent :=
  [sessionEvent .running (some "u1"),
    { sessionEvent .running none with
      payload := .threadMessageSent ⟨"t1", "m1", .assistant, "Done", none, some "u1", true,
        "2026-01-01T00:00:02.000Z", "2026-01-01T00:00:02.000Z"⟩ },
    { sessionEvent .running none with
      payload := .threadTurnDiffCompleted ⟨"t1", "u1", 1, "ref1", .ready, [], some "m1",
        "2026-01-01T00:00:03.000Z"⟩ }]

theorem latest_turns_agree_on_first_turn :
    letI := codePointCollation
    letI := asciiTextRuntime
    letI := relativeClientRuntime
    Throughout (LatestTurnViews.step "t1") (LatestTurnsAgree "t1") createdLatestTurnViews
        firstTurnRun ∧
      (exec (LatestTurnViews.step "t1") createdLatestTurnViews firstTurnRun).map
          (fun views => clientOutcome "t1" views.store) = some (some ("u1", .completed)) := by
  let _ := codePointCollation
  let _ := asciiTextRuntime
  let _ := relativeClientRuntime
  refine ⟨(latest_turns_agree_iff_events_followed withoutTurns_created _).mpr ?_, ?_⟩
  · refine (stepsMeet_cons rfl).mpr ⟨⟨?_, ?_, ?_, ?_⟩, (stepsMeet_cons rfl).mpr
      ⟨⟨?_, ?_, ?_, ?_⟩, (stepsMeet_cons rfl).mpr ⟨⟨?_, ?_, ?_, ?_⟩, trivial⟩⟩⟩ <;>
      intro payload hevent <;> cases hevent
    · refine ⟨fun turnId hturn _ state hstate => ?_, fun h => ?_⟩
      · cases hturn
        cases hstate
      · rcases h with h | h
        · cases h
        · exact absurd rfl h
    · intro _ turnId hturn
      cases hturn
      refine ⟨fun hnone => ?_, fun state hstate _ => ?_⟩
      · cases hnone
      · cases hstate
        rfl
    · rw [TurnDiffFollowed, if_neg (by decide)]
      refine ⟨by decide, fun shown hshown => ?_⟩
      cases hshown
      rfl
  · rfl

/-- When a session becomes ready the row's pointer is cleared, while the client keeps the
turn it shows. -/
theorem ready_session_hides_latest_turn :
    ¬ ∀ [Collation] [TextRuntime] [ClientRuntime] (start : LatestTurnViews),
      WithoutTurns "t1" start →
        Throughout (LatestTurnViews.step "t1") (LatestTurnsAgree "t1") start
          [sessionEvent .running (some "u1"), sessionEvent .ready none] := by
  intro h
  let _ := codePointCollation
  let _ := asciiTextRuntime
  let _ := relativeClientRuntime
  have hdiffer : ∃ views, exec (LatestTurnViews.step "t1") createdLatestTurnViews
      [sessionEvent .running (some "u1"), sessionEvent .ready none] = some views ∧
      ¬ LatestTurnsAgree "t1" views :=
    ⟨_, rfl, (by decide : ¬ clientOutcome "t1" _ = serverOutcome "t1" _)⟩
  obtain ⟨views, hexec, hnot⟩ := hdiffer
  exact hnot ((h createdLatestTurnViews withoutTurns_created).final hexec)

end GT3Code.Web
