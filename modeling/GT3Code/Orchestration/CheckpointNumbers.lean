import GT3Code.Base.Numbering
import GT3Code.Contracts.ProviderRuntime
import GT3Code.Orchestration.CheckpointReactor

/-! # Checkpoint numbers

Two workers number the turns of a thread: the ingestion worker by a placeholder when the
provider reports a diff, the checkpoint reactor by a captured checkpoint when a turn
completes or a placeholder was appended. Each reads the thread's checkpoints, picks the
turn count and dispatches it later.
-/

namespace GT3Code.Orchestration

open GT3Code.Base GT3Code.Contracts GT3Code.Persistence

def hasCheckpointForTurn (checkpoints : List OrchestrationCheckpointSummary) (turnId : TurnId) :
    Bool :=
  checkpoints.any (fun checkpoint => checkpoint.turnId = turnId)

def maxCheckpointTurnCount (checkpoints : List OrchestrationCheckpointSummary) : Nat :=
  checkpoints.foldl (fun maxTurnCount checkpoint =>
    if checkpoint.checkpointTurnCount > maxTurnCount then checkpoint.checkpointTurnCount
    else maxTurnCount) 0

/-- The placeholder for a reported diff, unless the turn has a checkpoint. -/
def placeholderForDiff (checkpoints : List OrchestrationCheckpointSummary)
    (event : ProviderRuntimeEvent) : Option ThreadTurnDiffCompletedPayload :=
  match event.payload, event.turnId with
  | .turnDiffUpdated, some turnId =>
    if hasCheckpointForTurn checkpoints turnId then none
    else
      some {
        threadId := event.threadId
        turnId := turnId
        checkpointTurnCount := maxCheckpointTurnCount checkpoints + 1
        checkpointRef := "provider-diff:" ++ event.eventId
        status := .missing
        files := []
        assistantMessageId :=
          some ("assistant:" ++ (event.itemId.orElse (fun _ => event.turnId)).getD event.eventId)
        completedAt := event.createdAt }
  | _, _ => none

def checkpointStatusFromRuntime : RuntimeTurnState → OrchestrationCheckpointStatus
  | .failed => .error
  | .cancelled | .interrupted => .missing
  | .completed => .ready

/-- What the capture finds next to the checkpoints: the files of the diff and the messages
of the thread. -/
structure CaptureFindings where
  files : List OrchestrationCheckpointFile
  messages : List OrchestrationMessage

section Capture

variable [Base64UrlRuntime]

def captureAndDispatchCheckpoint (findings : CaptureFindings) (threadId : ThreadId)
    (turnId : TurnId) (turnCount : Nat) (status : OrchestrationCheckpointStatus)
    (assistantMessageId : Option MessageId) (createdAt : IsoDateTime) :
    ThreadTurnDiffCompletedPayload where
  threadId := threadId
  turnId := turnId
  checkpointTurnCount := turnCount
  checkpointRef := checkpointRefForThreadTurn threadId turnCount
  status := status
  files := findings.files
  assistantMessageId :=
    assistantMessageId.orElse (fun _ =>
      some (((findings.messages.reverse.find? (fun entry =>
        entry.role = .assistant ∧ entry.turnId = some turnId)).map OrchestrationMessage.id).getD
          ("assistant:" ++ turnId)))
  completedAt := createdAt

def hasRealCheckpoint (checkpoints : List OrchestrationCheckpointSummary) (turnId : TurnId) :
    Bool :=
  checkpoints.any (fun checkpoint => checkpoint.turnId = turnId ∧ checkpoint.status ≠ .missing)

def nextTurnCount (checkpoints : List OrchestrationCheckpointSummary) (turnId : TurnId) : Nat :=
  match checkpoints.find? (fun checkpoint =>
    checkpoint.turnId = turnId ∧ checkpoint.status = .missing) with
  | some existingPlaceholder => existingPlaceholder.checkpointTurnCount
  | none => currentTurnCount checkpoints + 1

def captureCheckpointFromTurnCompletion (checkpoints : List OrchestrationCheckpointSummary)
    (activeTurnId : Option TurnId) (findings : CaptureFindings) (event : ProviderRuntimeEvent) :
    Option ThreadTurnDiffCompletedPayload :=
  match event.payload, event.turnId with
  | .turnCompleted state _, some turnId =>
    if activeTurnId.any (fun active => active ≠ turnId) then none
    else if hasRealCheckpoint checkpoints turnId then none
    else
      some (captureAndDispatchCheckpoint findings event.threadId turnId
        (nextTurnCount checkpoints turnId) (checkpointStatusFromRuntime state) none
        event.createdAt)
  | _, _ => none

def captureCheckpointFromPlaceholder (checkpoints : List OrchestrationCheckpointSummary)
    (findings : CaptureFindings) (payload : ThreadTurnDiffCompletedPayload) :
    Option ThreadTurnDiffCompletedPayload :=
  if payload.status ≠ .missing then none
  else if hasRealCheckpoint checkpoints payload.turnId then none
  else
    some (captureAndDispatchCheckpoint findings payload.threadId payload.turnId
      payload.checkpointTurnCount .ready payload.assistantMessageId payload.completedAt)

end Capture

/-- A checkpoint a worker picked, and how many turn diffs the log had when it read. -/
structure PendingCheckpoint where
  payload : ThreadTurnDiffCompletedPayload
  readAt : Nat

/-- The turn rows, the thread's turn diffs in the event log, and what each worker is about
to dispatch. -/
structure CheckpointWorkers where
  turns : TurnTable
  log : List ThreadTurnDiffCompletedPayload
  ingestion : Option PendingCheckpoint
  reactor : Option PendingCheckpoint

/-- A worker that finds no repository or whose dispatch fails drops what it picked. -/
inductive CheckpointAction where
  | readDiffUpdated (event : ProviderRuntimeEvent)
  | dispatchPlaceholder
  | dropPlaceholder
  | readTurnCompleted (event : ProviderRuntimeEvent) (activeTurnId : Option TurnId)
      (findings : CaptureFindings)
  | readPlaceholder (index : Nat) (findings : CaptureFindings)
  | dispatchCaptured
  | dropCaptured

namespace CheckpointWorkers

def start (turns : TurnTable) : CheckpointWorkers := ⟨turns, [], none, none⟩

def append (workers : CheckpointWorkers) (payload : ThreadTurnDiffCompletedPayload) :
    CheckpointWorkers :=
  { workers with
    turns := completeTurnDiff workers.turns payload
    log := workers.log ++ [payload] }

variable [Base64UrlRuntime]

def step (threadId : ThreadId) (workers : CheckpointWorkers) :
    CheckpointAction → Option CheckpointWorkers
  | .readDiffUpdated event =>
    if workers.ingestion.isNone ∧ event.threadId = threadId then
      some { workers with
        ingestion := (placeholderForDiff (checkpointRows workers.turns threadId) event).map
          (fun payload => ⟨payload, workers.log.length⟩) }
    else none
  | .dispatchPlaceholder =>
    workers.ingestion.map (fun pending =>
      { workers.append pending.payload with ingestion := none })
  | .dropPlaceholder =>
    workers.ingestion.map (fun _ => { workers with ingestion := none })
  | .readTurnCompleted event activeTurnId findings =>
    if workers.reactor.isNone ∧ event.threadId = threadId then
      some { workers with
        reactor := (captureCheckpointFromTurnCompletion (checkpointRows workers.turns threadId)
          activeTurnId findings event).map (fun payload => ⟨payload, workers.log.length⟩) }
    else none
  | .readPlaceholder index findings =>
    if workers.reactor.isNone then
      workers.log[index]?.map (fun payload =>
        { workers with
          reactor := (captureCheckpointFromPlaceholder (checkpointRows workers.turns threadId)
            findings payload).map (fun captured => ⟨captured, workers.log.length⟩) })
    else none
  | .dispatchCaptured =>
    workers.reactor.map (fun pending =>
      { workers.append pending.payload with reactor := none })
  | .dropCaptured =>
    workers.reactor.map (fun _ => { workers with reactor := none })

/-- A turn count is of one turn in the log, and every turn captured has a captured checkpoint
in the rows. -/
structure CheckpointsApart (threadId : ThreadId) (workers : CheckpointWorkers) : Prop where
  oneTurn : OneOwner ThreadTurnDiffCompletedPayload.turnId
    ThreadTurnDiffCompletedPayload.checkpointTurnCount workers.log
  kept : ∀ event ∈ workers.log, event.status ≠ .missing →
    ∃ checkpoint ∈ checkpointRows workers.turns threadId,
      checkpoint.turnId = event.turnId ∧ checkpoint.status ≠ .missing

/-- Since a worker read the checkpoints, no other turn was given the turn count it picked,
and the turn of a placeholder was not captured. -/
def NotOvertaken (workers : CheckpointWorkers) : CheckpointAction → Prop
  | .dispatchPlaceholder =>
    ∀ pending ∈ workers.ingestion, ∀ event ∈ workers.log.drop pending.readAt,
      (event.checkpointTurnCount = pending.payload.checkpointTurnCount →
        event.turnId = pending.payload.turnId) ∧
      (event.turnId = pending.payload.turnId → event.status = .missing)
  | .dispatchCaptured =>
    ∀ pending ∈ workers.reactor, ∀ event ∈ workers.log.drop pending.readAt,
      event.checkpointTurnCount = pending.payload.checkpointTurnCount →
        event.turnId = pending.payload.turnId
  | _ => True

end CheckpointWorkers

/-- The log's turn counts are given out one after another, and the rows list for every turn
of the log its turn count and nothing else. -/
structure RowsTrackLog (threadId : ThreadId) (turns : TurnTable)
    (log : List ThreadTurnDiffCompletedPayload) : Prop where
  ofThread : ∀ event ∈ log, event.threadId = threadId
  oneNumber : OneNumber ThreadTurnDiffCompletedPayload.turnId
    ThreadTurnDiffCompletedPayload.checkpointTurnCount log
  consecutive : Consecutive ThreadTurnDiffCompletedPayload.checkpointTurnCount log
  listed : ∀ event ∈ log, ∃ checkpoint ∈ checkpointRows turns threadId,
    checkpoint.turnId = event.turnId ∧
      checkpoint.checkpointTurnCount = event.checkpointTurnCount
  logged : ∀ checkpoint ∈ checkpointRows turns threadId, ∃ event ∈ log,
    event.turnId = checkpoint.turnId ∧
      event.checkpointTurnCount = checkpoint.checkpointTurnCount ∧
      event.status = checkpoint.status

/-- The turn count is the one the turn has in the events read, or the next one. -/
def NumberedFrom (known : List ThreadTurnDiffCompletedPayload)
    (payload : ThreadTurnDiffCompletedPayload) : Prop :=
  TakesNext ThreadTurnDiffCompletedPayload.turnId
      ThreadTurnDiffCompletedPayload.checkpointTurnCount known payload ∨
    Repeats ThreadTurnDiffCompletedPayload.turnId
      ThreadTurnDiffCompletedPayload.checkpointTurnCount known payload

section Rows

variable {threadId : ThreadId} {turns : TurnTable} {log : List ThreadTurnDiffCompletedPayload}
  {payload : ThreadTurnDiffCompletedPayload}

theorem rowsTrackLog_nil (hturns : checkpointRows turns threadId = []) :
    RowsTrackLog threadId turns [] where
  ofThread _ h := by cases h
  oneNumber _ h := by cases h
  consecutive _ h := by cases h
  listed _ h := by cases h
  logged checkpoint h := by
    rw [hturns] at h
    cases h

theorem RowsTrackLog.append (h : RowsTrackLog threadId turns log)
    (hthread : payload.threadId = threadId) {readAt : Nat}
    (hread : NumberedFrom (log.take readAt) payload)
    (happend : OneOwner ThreadTurnDiffCompletedPayload.turnId
      ThreadTurnDiffCompletedPayload.checkpointTurnCount (log ++ [payload])) :
    RowsTrackLog threadId (completeTurnDiff turns payload) (log ++ [payload]) := by
  have hsplit : log.take readAt ++ log.drop readAt = log := List.take_append_drop readAt log
  have hnumber := h.oneNumber
  have hconsecutive := h.consecutive
  rw [← hsplit] at hnumber hconsecutive happend
  have hsame : ∀ event ∈ log, event.turnId = payload.turnId →
      event.checkpointTurnCount = payload.checkpointTurnCount := by
    intro event hevent
    rw [← hsplit] at hevent
    exact number_eq_of_owner hnumber hconsecutive hread happend hevent
  have hother := (oneOwner_append.mp happend).2
  rw [hsplit] at hother
  subst hthread
  constructor
  · intro event hevent
    rcases List.mem_append.mp hevent with hold | hnew
    · exact h.ofThread event hold
    · rw [List.mem_singleton.mp hnew]
  · rw [← hsplit]
    exact oneNumber_append hnumber hconsecutive hread happend
  · rw [← hsplit]
    exact consecutive_append hconsecutive hread
  · intro event hevent
    by_cases hturn : event.turnId = payload.turnId
    · refine ⟨_, mem_checkpointRows_completeTurnDiff.mpr (Or.inl rfl), hturn.symm, ?_⟩
      rcases List.mem_append.mp hevent with hold | hnew
      · exact (hsame event hold hturn).symm
      · rw [List.mem_singleton.mp hnew]
        rfl
    · have hold : event ∈ log := by
        rcases List.mem_append.mp hevent with hold | hnew
        · exact hold
        · rw [List.mem_singleton.mp hnew] at hturn
          exact absurd rfl hturn
      obtain ⟨checkpoint, hmem, hcheckpointTurn, hcount⟩ := h.listed event hold
      refine ⟨checkpoint, mem_checkpointRows_completeTurnDiff.mpr (Or.inr ⟨hmem, ?_, ?_⟩),
        hcheckpointTurn, hcount⟩
      · rw [hcheckpointTurn]
        exact hturn
      · rw [hcount]
        exact fun heq => hturn (hother event hold heq)
  · intro checkpoint hmem
    rcases mem_checkpointRows_completeTurnDiff.mp hmem with rfl | ⟨hold, -, -⟩
    · exact ⟨payload, by simp, rfl, rfl, rfl⟩
    · obtain ⟨event, hevent, hlogged⟩ := h.logged checkpoint hold
      exact ⟨event, List.mem_append_left _ hevent, hlogged⟩

theorem kept_append_iff (h : RowsTrackLog threadId turns log)
    (hthread : payload.threadId = threadId)
    (happend : OneOwner ThreadTurnDiffCompletedPayload.turnId
      ThreadTurnDiffCompletedPayload.checkpointTurnCount (log ++ [payload]))
    (hkept : ∀ event ∈ log, event.status ≠ .missing →
      ∃ checkpoint ∈ checkpointRows turns threadId,
        checkpoint.turnId = event.turnId ∧ checkpoint.status ≠ .missing) :
    (∀ event ∈ log ++ [payload], event.status ≠ .missing →
      ∃ checkpoint ∈ checkpointRows (completeTurnDiff turns payload) threadId,
        checkpoint.turnId = event.turnId ∧ checkpoint.status ≠ .missing) ↔
      (payload.status = .missing →
        ∀ event ∈ log, event.turnId = payload.turnId → event.status = .missing) := by
  have hother := (oneOwner_append.mp happend).2
  subst hthread
  constructor
  · intro hafter hmissing event hevent hturn
    by_contra hcaptured
    obtain ⟨checkpoint, hmem, hcheckpointTurn, hstatus⟩ :=
      hafter event (List.mem_append_left _ hevent) hcaptured
    rcases mem_checkpointRows_completeTurnDiff.mp hmem with rfl | ⟨-, hne, -⟩
    · exact hstatus hmissing
    · exact hne (hcheckpointTurn.trans hturn)
  · intro hplaceholder event hevent hcaptured
    by_cases hturn : event.turnId = payload.turnId
    · refine ⟨_, mem_checkpointRows_completeTurnDiff.mpr (Or.inl rfl), hturn.symm, ?_⟩
      intro hmissing
      rcases List.mem_append.mp hevent with hold | hnew
      · exact hcaptured (hplaceholder hmissing event hold hturn)
      · rw [List.mem_singleton.mp hnew] at hcaptured
        exact hcaptured hmissing
    · have hold : event ∈ log := by
        rcases List.mem_append.mp hevent with hold | hnew
        · exact hold
        · rw [List.mem_singleton.mp hnew] at hturn
          exact absurd rfl hturn
      obtain ⟨checkpoint, hmem, hcheckpointTurn, hstatus⟩ := hkept event hold hcaptured
      obtain ⟨logged, hlogged, hloggedTurn, hloggedCount, -⟩ := h.logged checkpoint hmem
      refine ⟨checkpoint, mem_checkpointRows_completeTurnDiff.mpr (Or.inr ⟨hmem, ?_, ?_⟩),
        hcheckpointTurn, hstatus⟩
      · rw [hcheckpointTurn]
        exact hturn
      · intro heq
        have howner := hother logged hlogged (hloggedCount.trans heq)
        exact hturn (hcheckpointTurn.symm.trans (hloggedTurn.symm.trans howner))

end Rows

theorem maxCheckpointTurnCount_eq (checkpoints : List OrchestrationCheckpointSummary) :
    maxCheckpointTurnCount checkpoints = currentTurnCount checkpoints := by
  unfold maxCheckpointTurnCount currentTurnCount
  congr 1
  funext maxTurnCount checkpoint
  rw [Nat.max_def]
  split <;> split <;> omega

variable {checkpoints : List OrchestrationCheckpointSummary} {turnId : TurnId}

theorem hasCheckpointForTurn_eq_false_iff :
    hasCheckpointForTurn checkpoints turnId = false ↔
      ∀ checkpoint ∈ checkpoints, checkpoint.turnId ≠ turnId := by
  simp [hasCheckpointForTurn]

theorem hasRealCheckpoint_eq_false_iff :
    hasRealCheckpoint checkpoints turnId = false ↔
      ∀ checkpoint ∈ checkpoints, checkpoint.turnId = turnId → checkpoint.status = .missing := by
  simp [hasRealCheckpoint]

section Read

variable {threadId : ThreadId} {turns : TurnTable} {log : List ThreadTurnDiffCompletedPayload}
  {payload : ThreadTurnDiffCompletedPayload}

theorem RowsTrackLog.takesNext (h : RowsTrackLog threadId turns log)
    (hturn : ∀ checkpoint ∈ checkpointRows turns threadId, checkpoint.turnId ≠ payload.turnId)
    (hcount : payload.checkpointTurnCount =
      currentTurnCount (checkpointRows turns threadId) + 1) :
    TakesNext ThreadTurnDiffCompletedPayload.turnId
      ThreadTurnDiffCompletedPayload.checkpointTurnCount log payload := by
  apply takesNext_of_highest h.consecutive
  · intro event hevent heq
    obtain ⟨checkpoint, hmem, hcheckpointTurn, -⟩ := h.listed event hevent
    exact hturn checkpoint hmem (hcheckpointTurn.trans heq)
  · intro event hevent
    obtain ⟨checkpoint, hmem, -, hcheckpointCount⟩ := h.listed event hevent
    rw [← hcheckpointCount]
    exact le_currentTurnCount hmem
  · intro hpositive
    obtain ⟨checkpoint, hmem, heq⟩ := exists_eq_currentTurnCount hpositive
    obtain ⟨event, hevent, -, heventCount, -⟩ := h.logged checkpoint hmem
    exact ⟨event, hevent, heventCount.trans heq⟩
  · exact hcount

variable {checkpoints : List OrchestrationCheckpointSummary}

variable {event : ProviderRuntimeEvent} {findings : CaptureFindings}

theorem placeholderForDiff_eq_some (h : placeholderForDiff checkpoints event = some payload) :
    hasCheckpointForTurn checkpoints payload.turnId = false ∧
      payload.threadId = event.threadId ∧ payload.status = .missing ∧
      payload.checkpointTurnCount = maxCheckpointTurnCount checkpoints + 1 := by
  unfold placeholderForDiff at h
  split at h
  · split at h
    · cases h
    · rename_i hfree
      cases h
      exact ⟨by simpa using hfree, rfl, rfl, rfl⟩
  · cases h

variable [Base64UrlRuntime]

theorem captureCheckpointFromTurnCompletion_eq_some {activeTurnId : Option TurnId}
    (h : captureCheckpointFromTurnCompletion checkpoints activeTurnId findings event =
      some payload) :
    hasRealCheckpoint checkpoints payload.turnId = false ∧
      payload.threadId = event.threadId ∧
      payload.checkpointTurnCount = nextTurnCount checkpoints payload.turnId := by
  unfold captureCheckpointFromTurnCompletion at h
  split at h
  · split at h
    · cases h
    · split at h
      · cases h
      · rename_i hfree
        cases h
        exact ⟨by simpa [captureAndDispatchCheckpoint] using hfree, rfl, rfl⟩
  · cases h

theorem captureCheckpointFromPlaceholder_eq_some {placeholder : ThreadTurnDiffCompletedPayload}
    (h : captureCheckpointFromPlaceholder checkpoints findings placeholder = some payload) :
    hasRealCheckpoint checkpoints payload.turnId = false ∧
      payload.threadId = placeholder.threadId ∧ payload.turnId = placeholder.turnId ∧
      payload.checkpointTurnCount = placeholder.checkpointTurnCount := by
  unfold captureCheckpointFromPlaceholder at h
  split at h
  · cases h
  · split at h
    · cases h
    · rename_i hfree
      cases h
      exact ⟨by simpa [captureAndDispatchCheckpoint] using hfree, rfl, rfl, rfl⟩

omit [Base64UrlRuntime] in
theorem RowsTrackLog.numberedFrom_nextTurnCount (h : RowsTrackLog threadId turns log)
    (hreal : hasRealCheckpoint (checkpointRows turns threadId) payload.turnId = false)
    (hcount : payload.checkpointTurnCount =
      nextTurnCount (checkpointRows turns threadId) payload.turnId) :
    NumberedFrom log payload := by
  unfold nextTurnCount at hcount
  split at hcount
  · rename_i placeholder hfound
    right
    obtain ⟨event, hevent, hturn, heventCount, -⟩ :=
      h.logged placeholder (List.mem_of_find?_eq_some hfound)
    have hplaceholder := List.find?_some hfound
    simp only [decide_eq_true_eq] at hplaceholder
    exact ⟨event, hevent, hturn.trans hplaceholder.1, heventCount.trans hcount.symm⟩
  · rename_i hnone
    left
    refine h.takesNext ?_ hcount
    intro checkpoint hmem hturn
    have hmissing := hasRealCheckpoint_eq_false_iff.mp hreal checkpoint hmem hturn
    have hnot := List.find?_eq_none.mp hnone checkpoint hmem
    simp only [decide_eq_true_eq] at hnot
    exact hnot ⟨hturn, hmissing⟩

end Read

/-! ## Every interleaving -/

namespace CheckpointWorkers

structure ReadFrom (threadId : ThreadId) (log : List ThreadTurnDiffCompletedPayload)
    (pending : PendingCheckpoint) : Prop where
  ofThread : pending.payload.threadId = threadId
  readAt_le : pending.readAt ≤ log.length
  numbered : NumberedFrom (log.take pending.readAt) pending.payload

variable {log : List ThreadTurnDiffCompletedPayload} {pending : PendingCheckpoint}
  {payload : ThreadTurnDiffCompletedPayload}

theorem ReadFrom.append {threadId : ThreadId} (h : ReadFrom threadId log pending)
    (payload : ThreadTurnDiffCompletedPayload) :
    ReadFrom threadId (log ++ [payload]) pending where
  ofThread := h.ofThread
  readAt_le := by
    have := h.readAt_le
    rw [List.length_append]
    omega
  numbered := by
    rw [List.take_append_of_le_length h.readAt_le]
    exact h.numbered

/-- The ingestion worker is about to append the first event of its turn it knows of. -/
structure IngestionReads (threadId : ThreadId) (log : List ThreadTurnDiffCompletedPayload)
    (pending : PendingCheckpoint) : Prop extends ReadFrom threadId log pending where
  placeholder : pending.payload.status = .missing
  newTurn : ∀ event ∈ log.take pending.readAt, event.turnId ≠ pending.payload.turnId

structure ReactorReads (threadId : ThreadId) (log : List ThreadTurnDiffCompletedPayload)
    (pending : PendingCheckpoint) : Prop extends ReadFrom threadId log pending where
  uncaptured : ∀ event ∈ log, event.turnId = pending.payload.turnId → event.status = .missing

structure Sound (threadId : ThreadId) (workers : CheckpointWorkers) : Prop where
  rows : RowsTrackLog threadId workers.turns workers.log
  ingestion : ∀ pending ∈ workers.ingestion, IngestionReads threadId workers.log pending
  reactor : ∀ pending ∈ workers.reactor, ReactorReads threadId workers.log pending

variable {threadId : ThreadId} {workers next : CheckpointWorkers}

theorem IngestionReads.append (h : IngestionReads threadId log pending)
    (payload : ThreadTurnDiffCompletedPayload) :
    IngestionReads threadId (log ++ [payload]) pending where
  toReadFrom := h.toReadFrom.append payload
  placeholder := h.placeholder
  newTurn := by
    rw [List.take_append_of_le_length h.readAt_le]
    exact h.newTurn

theorem ReactorReads.append (h : ReactorReads threadId log pending)
    (hplaceholder : payload.status = .missing) :
    ReactorReads threadId (log ++ [payload]) pending where
  toReadFrom := h.toReadFrom.append payload
  uncaptured event hevent hturn := by
    rcases List.mem_append.mp hevent with hold | hnew
    · exact h.uncaptured event hold hturn
    · rw [List.mem_singleton.mp hnew]
      exact hplaceholder

theorem numberedFrom_take_length (h : NumberedFrom log payload) :
    NumberedFrom (log.take log.length) payload := by
  rw [List.take_length]
  exact h

theorem CheckpointsApart.uncaptured (h : workers.CheckpointsApart threadId) {turnId : TurnId}
    (hreal : hasRealCheckpoint (checkpointRows workers.turns threadId) turnId = false) :
    ∀ event ∈ workers.log, event.turnId = turnId → event.status = .missing := by
  intro event hevent hturn
  by_contra hcaptured
  obtain ⟨checkpoint, hmem, hcheckpointTurn, hstatus⟩ := h.kept event hevent hcaptured
  exact hstatus
    (hasRealCheckpoint_eq_false_iff.mp hreal checkpoint hmem (hcheckpointTurn.trans hturn))

variable {event : ProviderRuntimeEvent} {findings : CaptureFindings} {action : CheckpointAction}

theorem Sound.ingestionReads (h : workers.Sound threadId) (hthread : event.threadId = threadId)
    (hread : placeholderForDiff (checkpointRows workers.turns threadId) event = some payload) :
    IngestionReads threadId workers.log ⟨payload, workers.log.length⟩ := by
  obtain ⟨hfree, hpayloadThread, hplaceholder, hcount⟩ := placeholderForDiff_eq_some hread
  rw [maxCheckpointTurnCount_eq] at hcount
  have hnext := h.rows.takesNext (hasCheckpointForTurn_eq_false_iff.mp hfree) hcount
  constructor
  · exact ⟨hpayloadThread.trans hthread, Nat.le_refl _, numberedFrom_take_length (Or.inl hnext)⟩
  · exact hplaceholder
  · rw [List.take_length]
    exact hnext.newOwner

theorem Sound.appendIngestion (h : workers.Sound threadId)
    (hpending : workers.ingestion = some pending)
    (happend : OneOwner ThreadTurnDiffCompletedPayload.turnId
      ThreadTurnDiffCompletedPayload.checkpointTurnCount (workers.log ++ [pending.payload])) :
    Sound threadId { workers.append pending.payload with ingestion := none } := by
  have hreads := h.ingestion pending hpending
  constructor
  · exact h.rows.append hreads.ofThread hreads.numbered happend
  · exact fun _ h => by cases h
  · intro other hother
    exact (h.reactor other hother).append hreads.placeholder

theorem Sound.appendReactor (h : workers.Sound threadId)
    (hpending : workers.reactor = some pending)
    (happend : OneOwner ThreadTurnDiffCompletedPayload.turnId
      ThreadTurnDiffCompletedPayload.checkpointTurnCount (workers.log ++ [pending.payload])) :
    Sound threadId { workers.append pending.payload with reactor := none } := by
  have hreads := h.reactor pending hpending
  constructor
  · exact h.rows.append hreads.ofThread hreads.numbered happend
  · intro other hother
    exact (h.ingestion other hother).append pending.payload
  · exact fun _ h => by cases h

variable [Base64UrlRuntime]

theorem Sound.reactorReads_turnCompleted (h : workers.Sound threadId)
    (happart : workers.CheckpointsApart threadId) (hthread : event.threadId = threadId)
    {activeTurnId : Option TurnId}
    (hread : captureCheckpointFromTurnCompletion (checkpointRows workers.turns threadId)
      activeTurnId findings event = some payload) :
    ReactorReads threadId workers.log ⟨payload, workers.log.length⟩ := by
  obtain ⟨hreal, hpayloadThread, hcount⟩ := captureCheckpointFromTurnCompletion_eq_some hread
  constructor
  · exact ⟨hpayloadThread.trans hthread, Nat.le_refl _,
      numberedFrom_take_length (h.rows.numberedFrom_nextTurnCount hreal hcount)⟩
  · exact happart.uncaptured hreal

theorem Sound.reactorReads_placeholder (h : workers.Sound threadId)
    (happart : workers.CheckpointsApart threadId) {placeholder : ThreadTurnDiffCompletedPayload}
    (hmem : placeholder ∈ workers.log)
    (hread : captureCheckpointFromPlaceholder (checkpointRows workers.turns threadId) findings
      placeholder = some payload) :
    ReactorReads threadId workers.log ⟨payload, workers.log.length⟩ := by
  obtain ⟨hreal, hpayloadThread, hturn, hcount⟩ := captureCheckpointFromPlaceholder_eq_some hread
  constructor
  · exact ⟨hpayloadThread.trans (h.rows.ofThread placeholder hmem), Nat.le_refl _,
      numberedFrom_take_length (Or.inr ⟨placeholder, hmem, hturn.symm, hcount.symm⟩)⟩
  · exact happart.uncaptured hreal

theorem Sound.step (h : workers.Sound threadId) (happart : workers.CheckpointsApart threadId)
    (hnext : next.CheckpointsApart threadId)
    (hstep : CheckpointWorkers.step threadId workers action = some next) : next.Sound threadId := by
  cases action with
  | readDiffUpdated event =>
    simp only [CheckpointWorkers.step] at hstep
    split at hstep
    · rename_i hguard
      cases hstep
      refine ⟨h.rows, ?_, h.reactor⟩
      intro pending hpending
      obtain ⟨payload, hread, rfl⟩ := Option.map_eq_some_iff.mp hpending
      exact h.ingestionReads hguard.2 hread
    · cases hstep
  | dispatchPlaceholder =>
    obtain ⟨pending, hpending, rfl⟩ := Option.map_eq_some_iff.mp hstep
    exact h.appendIngestion hpending hnext.oneTurn
  | dropPlaceholder =>
    obtain ⟨pending, hpending, rfl⟩ := Option.map_eq_some_iff.mp hstep
    refine ⟨h.rows, ?_, h.reactor⟩
    intro other hother
    cases hother
  | readTurnCompleted event activeTurnId findings =>
    simp only [CheckpointWorkers.step] at hstep
    split at hstep
    · rename_i hguard
      cases hstep
      refine ⟨h.rows, h.ingestion, ?_⟩
      intro pending hpending
      obtain ⟨payload, hread, rfl⟩ := Option.map_eq_some_iff.mp hpending
      exact h.reactorReads_turnCompleted happart hguard.2 hread
    · cases hstep
  | readPlaceholder index findings =>
    simp only [CheckpointWorkers.step] at hstep
    split at hstep
    · obtain ⟨placeholder, hfound, rfl⟩ := Option.map_eq_some_iff.mp hstep
      refine ⟨h.rows, h.ingestion, ?_⟩
      intro pending hpending
      obtain ⟨payload, hread, rfl⟩ := Option.map_eq_some_iff.mp hpending
      exact h.reactorReads_placeholder happart (List.mem_of_getElem? hfound) hread
    · cases hstep
  | dispatchCaptured =>
    obtain ⟨pending, hpending, rfl⟩ := Option.map_eq_some_iff.mp hstep
    exact h.appendReactor hpending hnext.oneTurn
  | dropCaptured =>
    obtain ⟨pending, hpending, rfl⟩ := Option.map_eq_some_iff.mp hstep
    refine ⟨h.rows, h.ingestion, ?_⟩
    intro other hother
    cases hother

omit [Base64UrlRuntime] in
theorem oneTurn_append_iff (h : workers.CheckpointsApart threadId)
    (hread : ReadFrom threadId workers.log pending) :
    OneOwner ThreadTurnDiffCompletedPayload.turnId
        ThreadTurnDiffCompletedPayload.checkpointTurnCount (workers.log ++ [pending.payload]) ↔
      ∀ event ∈ workers.log.drop pending.readAt,
        event.checkpointTurnCount = pending.payload.checkpointTurnCount →
          event.turnId = pending.payload.turnId := by
  have hlog := h.oneTurn
  have hsplit : workers.log.take pending.readAt ++ workers.log.drop pending.readAt =
      workers.log := List.take_append_drop pending.readAt workers.log
  rw [← hsplit] at hlog
  have happend := oneOwner_append_iff hlog hread.numbered
  rw [hsplit] at happend
  exact happend

omit [Base64UrlRuntime] in
theorem checkpointsApart_ingestion_iff (h : workers.Sound threadId)
    (happart : workers.CheckpointsApart threadId) {pending : PendingCheckpoint}
    (hpending : workers.ingestion = some pending) :
    CheckpointsApart threadId { workers.append pending.payload with ingestion := none } ↔
      workers.NotOvertaken .dispatchPlaceholder := by
  have hreads := h.ingestion pending hpending
  have hone := oneTurn_append_iff happart hreads.toReadFrom
  constructor
  · intro hnext other hother event hevent
    cases hpending.symm.trans hother
    have hkept := (kept_append_iff h.rows hreads.ofThread hnext.oneTurn happart.kept).mp hnext.kept
    exact ⟨hone.mp hnext.oneTurn event hevent,
      hkept hreads.placeholder event (List.mem_of_mem_drop hevent)⟩
  · intro hcondition
    have happend := hone.mpr (fun event hevent => (hcondition pending hpending event hevent).1)
    refine ⟨happend, (kept_append_iff h.rows hreads.ofThread happend happart.kept).mpr ?_⟩
    intro _ event hevent hturn
    rw [← List.take_append_drop pending.readAt workers.log] at hevent
    rcases List.mem_append.mp hevent with hknown | hsince
    · exact absurd hturn (hreads.newTurn event hknown)
    · exact (hcondition pending hpending event hsince).2 hturn

omit [Base64UrlRuntime] in
theorem checkpointsApart_reactor_iff (h : workers.Sound threadId)
    (happart : workers.CheckpointsApart threadId) {pending : PendingCheckpoint}
    (hpending : workers.reactor = some pending) :
    CheckpointsApart threadId { workers.append pending.payload with reactor := none } ↔
      workers.NotOvertaken .dispatchCaptured := by
  have hreads := h.reactor pending hpending
  have hone := oneTurn_append_iff happart hreads.toReadFrom
  constructor
  · intro hnext other hother event hevent
    cases hpending.symm.trans hother
    exact hone.mp hnext.oneTurn event hevent
  · intro hcondition
    have happend := hone.mpr (hcondition pending hpending)
    refine ⟨happend, (kept_append_iff h.rows hreads.ofThread happend happart.kept).mpr ?_⟩
    intro _
    exact hreads.uncaptured

theorem checkpointsApart_step_iff (h : workers.Sound threadId)
    (happart : workers.CheckpointsApart threadId)
    (hstep : CheckpointWorkers.step threadId workers action = some next) :
    next.CheckpointsApart threadId ↔ workers.NotOvertaken action := by
  cases action with
  | dispatchPlaceholder =>
    obtain ⟨pending, hpending, rfl⟩ := Option.map_eq_some_iff.mp hstep
    exact checkpointsApart_ingestion_iff h happart hpending
  | dispatchCaptured =>
    obtain ⟨pending, hpending, rfl⟩ := Option.map_eq_some_iff.mp hstep
    exact checkpointsApart_reactor_iff h happart hpending
  | dropPlaceholder | dropCaptured =>
    obtain ⟨pending, hpending, rfl⟩ := Option.map_eq_some_iff.mp hstep
    exact iff_of_true ⟨happart.oneTurn, happart.kept⟩ trivial
  | readDiffUpdated | readTurnCompleted =>
    simp only [CheckpointWorkers.step] at hstep
    split at hstep
    · cases hstep
      exact iff_of_true ⟨happart.oneTurn, happart.kept⟩ trivial
    · cases hstep
  | readPlaceholder index findings =>
    simp only [CheckpointWorkers.step] at hstep
    split at hstep
    · obtain ⟨placeholder, -, rfl⟩ := Option.map_eq_some_iff.mp hstep
      exact iff_of_true ⟨happart.oneTurn, happart.kept⟩ trivial
    · cases hstep

/-- On a thread without checkpoints the workers keep the turns' checkpoints apart exactly in
the interleavings where no dispatch was overtaken since its read. -/
theorem checkpointsApart_throughout_iff (threadId : ThreadId) {turns : TurnTable}
    (hturns : checkpointRows turns threadId = []) (actions : List CheckpointAction) :
    Throughout (CheckpointWorkers.step threadId) (CheckpointsApart threadId) (start turns)
        actions ↔
      StepsMeet (CheckpointWorkers.step threadId) NotOvertaken (start turns) actions := by
  have hsound : Sound threadId (start turns) := by
    refine ⟨rowsTrackLog_nil hturns, ?_, ?_⟩
    · exact fun _ h => by cases h
    · exact fun _ h => by cases h
  have happart : CheckpointsApart threadId (start turns) := by
    constructor
    · exact fun _ h => by cases h
    · exact fun _ h => by cases h
  refine throughout_iff_stepsMeet_while ?_ ?_ hsound happart actions
  · intro workers action next hworkers hapart hnext hstep
    exact hworkers.step hapart hnext hstep
  · intro workers action next hworkers hapart hstep
    exact checkpointsApart_step_iff hworkers hapart hstep

/-- The first turn's placeholder is appended and its checkpoint captured, then the next turn's
placeholder is. -/
def capturedThenNextRun : List CheckpointAction :=
  [.readDiffUpdated ⟨"e1", "codex", none, "t1", "2024", some "u1", none, .turnDiffUpdated⟩,
    .dispatchPlaceholder,
    .readTurnCompleted
      ⟨"e2", "codex", none, "t1", "2024", some "u1", none, .turnCompleted .completed none⟩ none
      ⟨[], []⟩,
    .dispatchCaptured,
    .readDiffUpdated ⟨"e3", "codex", none, "t1", "2024", some "u2", none, .turnDiffUpdated⟩,
    .dispatchPlaceholder]

instance (workers : CheckpointWorkers) : ∀ action, Decidable (NotOvertaken workers action)
  | .dispatchPlaceholder => inferInstanceAs (Decidable
      (∀ pending ∈ workers.ingestion, ∀ event ∈ workers.log.drop pending.readAt,
        (event.checkpointTurnCount = pending.payload.checkpointTurnCount →
          event.turnId = pending.payload.turnId) ∧
        (event.turnId = pending.payload.turnId → event.status = .missing)))
  | .dispatchCaptured => inferInstanceAs (Decidable
      (∀ pending ∈ workers.reactor, ∀ event ∈ workers.log.drop pending.readAt,
        event.checkpointTurnCount = pending.payload.checkpointTurnCount →
          event.turnId = pending.payload.turnId))
  | .readDiffUpdated _ | .dropPlaceholder | .readTurnCompleted _ _ _ | .readPlaceholder _ _
  | .dropCaptured => isTrue trivial

omit [Base64UrlRuntime] in
theorem checkpointsApart_throughout_capturedThenNext :
    letI : Base64UrlRuntime := ⟨id⟩
    Throughout (CheckpointWorkers.step "t1") (CheckpointsApart "t1") (start (.empty _))
        capturedThenNextRun ∧
      (exec (CheckpointWorkers.step "t1") (start (.empty _)) capturedThenNextRun).map
          (fun workers => workers.log.map (fun event =>
            (event.turnId, event.checkpointTurnCount, decide (event.status = .missing)))) =
        some [("u1", 1, true), ("u1", 1, false), ("u2", 2, true)] := by
  let _ : Base64UrlRuntime := ⟨id⟩
  refine ⟨(checkpointsApart_throughout_iff "t1" rfl _).mpr ?_, ?_⟩
  · decide +kernel
  · decide +kernel

/-- The reactor reads before the first placeholder of the next turn is appended. -/
def overtakenRun : List CheckpointAction :=
  [.readTurnCompleted
      ⟨"e1", "codex", none, "t1", "2024", some "u1", none, .turnCompleted .completed none⟩ none
      ⟨[], []⟩,
    .readDiffUpdated ⟨"e2", "codex", none, "t1", "2024", some "u2", none, .turnDiffUpdated⟩,
    .dispatchPlaceholder, .dispatchCaptured]

omit [Base64UrlRuntime] in
/-- Two turns are given the first turn count. -/
theorem two_turns_share_turnCount :
    ¬ ∀ [Base64UrlRuntime] (threadId : ThreadId) (turns : TurnTable),
      checkpointRows turns threadId = [] → ∀ actions,
        Throughout (CheckpointWorkers.step threadId) (CheckpointsApart threadId) (start turns)
          actions := by
  intro h
  let _ : Base64UrlRuntime := ⟨id⟩
  have hrun : ∃ workers, exec (CheckpointWorkers.step "t1") (start (.empty _)) overtakenRun =
      some workers ∧ workers.log.map ThreadTurnDiffCompletedPayload.turnId = ["u2", "u1"] ∧
        workers.log.map ThreadTurnDiffCompletedPayload.checkpointTurnCount = [1, 1] :=
    ⟨_, rfl, rfl, rfl⟩
  obtain ⟨workers, hexec, hturns, hcounts⟩ := hrun
  have hone := ((h "t1" (.empty _) rfl overtakenRun).final hexec).oneTurn
  match hlog : workers.log with
  | [left, right] =>
    rw [hlog] at hone hturns hcounts
    simp only [List.map_cons, List.map_nil, List.cons.injEq, and_true] at hturns hcounts
    have hsame := hone left (by simp) right (by simp) (hcounts.1.trans hcounts.2.symm)
    rw [hturns.1, hturns.2] at hsame
    exact absurd hsame (by decide)
  | [] => simp [hlog] at hturns
  | [_] => simp [hlog] at hturns
  | _ :: _ :: _ :: _ => simp [hlog] at hturns

end CheckpointWorkers

end GT3Code.Orchestration
