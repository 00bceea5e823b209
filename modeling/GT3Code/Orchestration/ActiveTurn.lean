import Mathlib.Data.Fintype.EquivFin
import GT3Code.Orchestration.ProviderRuntimeIngestion

/-! # The active turn

Which turn a thread's session names while runtime events arrive late, twice or without a
turn id, against the turns whose start and completion were accepted.
-/

namespace GT3Code.Orchestration

open GT3Code.Base GT3Code.Contracts GT3Code.Persistence

namespace IngestionState

/-! ## What writing text leaves as it is -/

def outline (state : IngestionState) :
    Option OrchestrationSession × KeyedMap String AssistantSegmentState :=
  (state.session, state.assistantSegmentStateByTurnKey)

section Frame

variable {state next : IngestionState} {event : ProviderRuntimeEvent} {threadId : ThreadId}
  {turnId : TurnId} {messageId : MessageId}

theorem session_of_outline (h : next.outline = state.outline) : next.session = state.session :=
  congrArg Prod.fst h

theorem segments_of_outline (h : next.outline = state.outline) :
    next.assistantSegmentStateByTurnKey = state.assistantSegmentStateByTurnKey :=
  congrArg Prod.snd h

@[simp] theorem outline_clearBufferedAssistantText :
    (state.clearBufferedAssistantText messageId).outline = state.outline := rfl

@[simp] theorem outline_dispatchComplete (c : ThreadMessageAssistantCompleteCommand) :
    (state.dispatchComplete c).outline = state.outline := rfl

theorem outline_forgetAssistantMessageId :
    (state.forgetAssistantMessageId threadId turnId messageId).outline = state.outline := by
  simp only [forgetAssistantMessageId]
  split
  · rfl
  · rfl

theorem outline_flushBufferedAssistantMessage :
    (state.flushBufferedAssistantMessage event turnId messageId).1.outline = state.outline := by
  simp only [flushBufferedAssistantMessage]
  split
  · rfl
  · rfl

theorem outline_flushMessages (ids : List MessageId) :
    (flushMessages event turnId ids state).1.outline = state.outline := by
  induction ids generalizing state with
  | nil => rfl
  | cons messageId rest ih =>
    simp only [flushMessages]
    rw [ih, outline_flushBufferedAssistantMessage]

theorem outline_dispatchRenderable (text : String) :
    (state.dispatchRenderable event messageId text).outline = state.outline := by
  unfold dispatchRenderable
  split
  · rfl
  · rfl

theorem outline_finalizeAssistantMessage (fallbackText : Option String)
    (hasProjectedMessage : Bool) :
    (state.finalizeAssistantMessage event messageId fallbackText hasProjectedMessage).outline =
      state.outline := by
  simp only [finalizeAssistantMessage, outline_clearBufferedAssistantText]
  split
  · rw [outline_dispatchComplete, outline_dispatchRenderable, outline_clearBufferedAssistantText]
  · rw [outline_dispatchRenderable, outline_clearBufferedAssistantText]

theorem outline_finalizeMessages (messages : List OrchestrationMessage) (ids : List MessageId) :
    (finalizeMessages event messages ids state).outline = state.outline := by
  induction ids generalizing state with
  | nil => rfl
  | cons messageId rest ih =>
    simp only [finalizeMessages]
    rw [ih, outline_finalizeAssistantMessage]

theorem outline_deliverAssistantDelta (streaming : Bool) (delta : String) :
    (state.deliverAssistantDelta streaming event messageId delta).outline = state.outline := by
  simp only [deliverAssistantDelta, appendBufferedAssistantText]
  split
  · rfl
  · split
    · rfl
    · split
      · rfl
      · rfl

theorem outline_rememberCompletion :
    (state.rememberCompletion event messageId).outline = state.outline := by
  unfold rememberCompletion
  split
  · rfl
  · split
    · rfl
    · rfl

theorem outline_forgetCompletion :
    (state.forgetCompletion event messageId).outline = state.outline := by
  unfold forgetCompletion
  split
  · rfl
  · exact outline_forgetAssistantMessageId

theorem outline_completeAssistantMessage (detail : Option String) :
    (state.completeAssistantMessage event detail).outline = state.outline := by
  simp only [completeAssistantMessage]
  rw [outline_forgetCompletion, outline_finalizeAssistantMessage, outline_rememberCompletion]

@[simp] theorem session_processAssistantDelta (streaming : Bool) :
    (state.processAssistantDelta streaming event).session = state.session := by
  have hrouted : (state.getOrCreateAssistantMessageId event.threadId event).1.session =
      state.session := by
    unfold getOrCreateAssistantMessageId
    split
    · rfl
    · split
      · rfl
      · rfl
  unfold processAssistantDelta
  split
  · rfl
  · simp only [session_of_outline (outline_deliverAssistantDelta _ _)]
    split
    · exact hrouted
    · exact hrouted

theorem session_finalizeActiveAssistantSegmentForTurn (hasProjectedMessage : Bool)
    (flushedMessageIds : List MessageId) :
    (state.finalizeActiveAssistantSegmentForTurn event turnId hasProjectedMessage
      flushedMessageIds).session = state.session := by
  simp only [finalizeActiveAssistantSegmentForTurn]
  split
  · rfl
  · rename_i activeMessageId hactive
    have hforgotten : ((state.finalizeAssistantMessage event activeMessageId none
        (hasProjectedMessage || decide (activeMessageId ∈ flushedMessageIds)))
          |>.forgetAssistantMessageId event.threadId turnId activeMessageId).outline =
        state.outline := by
      rw [outline_forgetAssistantMessageId, outline_finalizeAssistantMessage]
    have hsession := session_of_outline hforgotten
    split
    · exact hsession
    · exact hsession

@[simp] theorem session_processPause (streaming : Bool) :
    (state.processPause streaming event).session = state.session := by
  unfold processPause
  split
  · rfl
  · simp only [session_finalizeActiveAssistantSegmentForTurn]
    split
    · rfl
    · exact session_of_outline (outline_flushMessages _)

@[simp] theorem session_processAssistantCompletion :
    (state.processAssistantCompletion event).session = state.session := by
  unfold processAssistantCompletion
  split
  · rfl
  · rename_i detail hdetail
    have hcompleted : (if shouldSkipRedundantCompletion event detail state then state
        else completeAssistantMessage event detail state).session = state.session := by
      split
      · rfl
      · exact session_of_outline (outline_completeAssistantMessage detail)
    cases event.turnId with
    | none => exact hcompleted
    | some turnId => exact hcompleted

@[simp] theorem session_processTurnCompleted :
    (state.processTurnCompleted event).session = state.session := by
  unfold processTurnCompleted
  split
  · rfl
  · rename_i turnId hturn
    have hsession : (finalizeMessages event (state.threadMessages event.threadId)
        (state.getAssistantMessageIdsForTurn event.threadId turnId) state).session =
          state.session := session_of_outline (outline_finalizeMessages _ _)
    exact hsession

@[simp] theorem session_processSessionExited :
    (state.processSessionExited event).session = state.session := by
  unfold processSessionExited
  split
  · rfl
  · rfl

end Frame

def activeTurnAfter (strict : Bool) (activeTurnId : Option TurnId) (event : ProviderRuntimeEvent) :
    Option TurnId :=
  match event.payload with
  | .runtimeError _ =>
    if shouldApplyRuntimeError strict activeTurnId event.turnId then event.turnId
    else activeTurnId
  | _ =>
    if shouldApplyThreadLifecycle strict activeTurnId event then
      nextActiveTurnId activeTurnId event
    else activeTurnId

variable {strict streaming : Bool} {event : ProviderRuntimeEvent} {state : IngestionState}

theorem session_processRuntimeEvent :
    (state.processRuntimeEvent strict streaming event).session =
      match event.payload with
      | .runtimeError message =>
        if shouldApplyRuntimeError strict (activeTurnIdOf state.session) event.turnId then
          some (sessionOfEvent state.session event .error event.turnId (some message))
        else state.session
      | _ => (state.processLifecycle strict event).session := by
  have hbefore : ∀ lifecycle : IngestionState,
      ((((lifecycle.processAssistantDelta streaming event).processPause streaming
        event).processAssistantCompletion event).processTurnCompleted
          event |>.processSessionExited event).session = lifecycle.session := by
    intro lifecycle
    simp
  unfold processRuntimeEvent processRuntimeError
  cases hpayload : event.payload with
  | runtimeError message =>
    have hlifecycle : state.processLifecycle strict event = state := by
      simp only [processLifecycle, lifecycleStatus, hpayload]
    simp only [hbefore, hlifecycle]
    split
    · simp only [dispatchSessionSet]
    · exact hbefore state
  | _ => exact hbefore _

theorem activeTurnIdOf_processLifecycle
    (herror : ∀ message, event.payload ≠ .runtimeError message) :
    activeTurnIdOf (state.processLifecycle strict event).session =
      activeTurnAfter strict (activeTurnIdOf state.session) event := by
  have hafter : activeTurnAfter strict (activeTurnIdOf state.session) event =
      if shouldApplyThreadLifecycle strict (activeTurnIdOf state.session) event then
        nextActiveTurnId (activeTurnIdOf state.session) event
      else activeTurnIdOf state.session := by
    unfold activeTurnAfter
    split
    · rename_i message hpayload
      exact absurd hpayload (herror message)
    · rfl
  rw [hafter]
  simp only [processLifecycle]
  split
  -- an event outside the lifecycle sets no session, and would not change the active turn
  · rename_i hstatus
    have hsame : nextActiveTurnId (activeTurnIdOf state.session) event =
        activeTurnIdOf state.session := by
      unfold lifecycleStatus at hstatus
      unfold nextActiveTurnId
      cases hpayload : event.payload <;> simp_all
    rw [hsame, ite_self]
  · split
    · rfl
    · rfl

theorem activeTurnIdOf_processRuntimeEvent :
    activeTurnIdOf (state.processRuntimeEvent strict streaming event).session =
      activeTurnAfter strict (activeTurnIdOf state.session) event := by
  rw [session_processRuntimeEvent]
  cases hpayload : event.payload with
  | runtimeError message =>
    simp only [activeTurnAfter, hpayload]
    split
    · rfl
    · rfl
  | _ => exact activeTurnIdOf_processLifecycle (by simp [hpayload])

theorem session_of_turnStarted (hpayload : event.payload = .turnStarted)
    (haccepted : shouldApplyThreadLifecycle strict (activeTurnIdOf state.session) event = true) :
    ∃ session, (state.processRuntimeEvent strict streaming event).session = some session ∧
      session.activeTurnId = event.turnId ∧ session.status = .running := by
  rw [session_processRuntimeEvent]
  simp only [hpayload, processLifecycle, lifecycleStatus, haccepted]
  refine ⟨_, rfl, ?_, rfl⟩
  simp only [sessionOfEvent, nextActiveTurnId, hpayload]

end IngestionState

/-- The thread's session next to the turns whose start and whose completion were accepted. -/
structure TurnLifecycle where
  ingestion : IngestionState
  started : List TurnId
  completed : List TurnId

/-- A runtime event and `enableAssistantStreaming` when it is processed. -/
structure RuntimeInput where
  event : ProviderRuntimeEvent
  streaming : Bool

namespace TurnLifecycle

def acceptedStart (strict : Bool) (activeTurnId : Option TurnId) (event : ProviderRuntimeEvent) :
    Option TurnId :=
  match event.payload with
  | .turnStarted =>
    if shouldApplyThreadLifecycle strict activeTurnId event then event.turnId else none
  | _ => none

def acceptedCompletion (strict : Bool) (activeTurnId : Option TurnId)
    (event : ProviderRuntimeEvent) : Option TurnId :=
  match event.payload with
  | .turnCompleted _ _ =>
    if shouldApplyThreadLifecycle strict activeTurnId event then event.turnId else none
  | _ => none

def acceptedError (strict : Bool) (activeTurnId : Option TurnId) (event : ProviderRuntimeEvent) :
    Option TurnId :=
  match event.payload with
  | .runtimeError _ =>
    if IngestionState.shouldApplyRuntimeError strict activeTurnId event.turnId then event.turnId
    else none
  | _ => none

def start (session : Option OrchestrationSession) (messages : MessageTable) : TurnLifecycle :=
  ⟨.start session messages, (activeTurnIdOf session).toList, []⟩

def activeTurnId (run : TurnLifecycle) : Option TurnId := activeTurnIdOf run.ingestion.session

def step (strict : Bool) (run : TurnLifecycle) (input : RuntimeInput) : Option TurnLifecycle :=
  some {
    ingestion := run.ingestion.processRuntimeEvent strict input.streaming input.event
    started := run.started ++ (acceptedStart strict run.activeTurnId input.event).toList
    completed := run.completed ++ (acceptedCompletion strict run.activeTurnId input.event).toList }

/-- The start of a turn that was neither started nor completed is accepted and shown as
running, once every started turn is completed. -/
def NewTurnStarts (strict : Bool) (run : TurnLifecycle) : Prop :=
  (∀ turnId ∈ run.started, turnId ∈ run.completed) →
    ∀ (event : ProviderRuntimeEvent) (turnId : TurnId) (streaming : Bool),
      event.payload = .turnStarted → event.turnId = some turnId →
      turnId ∉ run.started → turnId ∉ run.completed →
      ∃ session, (run.ingestion.processRuntimeEvent strict streaming event).session =
        some session ∧ session.activeTurnId = some turnId ∧ session.status = .running

/-- The session names no turn whose completion was accepted, and new turns start. -/
structure NeverFinished (strict : Bool) (run : TurnLifecycle) : Prop where
  unfinished : ∀ turnId ∈ run.activeTurnId, turnId ∉ run.completed
  newTurnStarts : NewTurnStarts strict run

/-- An accepted start or error names no completed turn, and no error names a turn while no
started turn is open. -/
structure NamesOpenTurn (strict : Bool) (run : TurnLifecycle) (input : RuntimeInput) : Prop where
  start : ∀ turnId ∈ acceptedStart strict run.activeTurnId input.event, turnId ∉ run.completed
  error : ∀ turnId ∈ acceptedError strict run.activeTurnId input.event, turnId ∉ run.completed
  errorOpen : strict = true → ∀ turnId ∈ acceptedError strict run.activeTurnId input.event,
    ∃ opened ∈ run.started, opened ∉ run.completed

/-! ## The condition -/

variable {strict : Bool} {run : TurnLifecycle}

/-- The same on the active turn alone: once every started turn is completed, no turn is
active. -/
def Settles (strict : Bool) (activeTurnId : Option TurnId) (started completed : List TurnId) :
    Prop :=
  (∀ turnId ∈ activeTurnId, turnId ∉ completed) ∧
    (strict = true → (∀ turnId ∈ started, turnId ∈ completed) → activeTurnId = none)

theorem exists_fresh_turnId (turnIds : List TurnId) : ∃ turnId : TurnId, turnId ∉ turnIds := by
  obtain ⟨turnId, hfresh⟩ := Infinite.exists_notMem_finset turnIds.toFinset
  exact ⟨turnId, by simpa using hfresh⟩

theorem shouldApply_turnStarted {activeTurnId : Option TurnId} {event : ProviderRuntimeEvent}
    (hpayload : event.payload = .turnStarted) :
    shouldApplyThreadLifecycle strict activeTurnId event =
      (!strict || !conflictsWithActiveTurn activeTurnId event.turnId) := by
  simp only [shouldApplyThreadLifecycle, hpayload]

theorem newTurnStarts_iff : NewTurnStarts strict run ↔
    (strict = true → (∀ turnId ∈ run.started, turnId ∈ run.completed) →
      run.activeTurnId = none) := by
  constructor
  · intro h hstrict hsettled
    cases hactive : run.activeTurnId with
    | none => rfl
    | some active =>
      -- a fresh turn other than the active one would be refused
      obtain ⟨turnId, hfresh⟩ := exists_fresh_turnId (active :: run.started ++ run.completed)
      simp only [List.cons_append, List.mem_cons, List.mem_append, not_or] at hfresh
      let event : ProviderRuntimeEvent :=
        ⟨"", "", none, "", "", some turnId, none, .turnStarted⟩
      obtain ⟨session, hsession, hturn, -⟩ :=
        h hsettled event turnId false rfl rfl hfresh.2.1 hfresh.2.2
      have hafter : activeTurnIdOf
          (run.ingestion.processRuntimeEvent strict false event).session = some active := by
        rw [IngestionState.activeTurnIdOf_processRuntimeEvent]
        show IngestionState.activeTurnAfter strict run.activeTurnId event = some active
        have hrefused : shouldApplyThreadLifecycle strict run.activeTurnId event = false := by
          rw [shouldApply_turnStarted rfl, hstrict, hactive]
          simpa [conflictsWithActiveTurn, event] using Ne.symm hfresh.1
        simp only [IngestionState.activeTurnAfter, event] at hrefused ⊢
        rw [hrefused]
        exact hactive
      rw [hsession] at hafter
      have hsame : session.activeTurnId = some active := hafter
      rw [hturn] at hsame
      exact absurd (Option.some.inj hsame) hfresh.1
  · intro h hsettled event turnId streaming hpayload hturn hnotStarted hnotCompleted
    have haccepted : shouldApplyThreadLifecycle strict
        (activeTurnIdOf run.ingestion.session) event = true := by
      rw [shouldApply_turnStarted hpayload]
      cases strict with
      | false => rfl
      | true =>
        have hnone : activeTurnIdOf run.ingestion.session = none := h rfl hsettled
        rw [hnone]
        rfl
    obtain ⟨session, hsession, hactive, hstatus⟩ :=
      IngestionState.session_of_turnStarted hpayload haccepted
    exact ⟨session, hsession, hactive.trans hturn, hstatus⟩

theorem neverFinished_iff : NeverFinished strict run ↔
    Settles strict run.activeTurnId run.started run.completed := by
  constructor
  · intro h
    exact ⟨h.unfinished, newTurnStarts_iff.mp h.newTurnStarts⟩
  · intro h
    exact ⟨h.1, newTurnStarts_iff.mpr h.2⟩

theorem settles_some_iff {turnId : TurnId} {started completed : List TurnId} :
    Settles strict (some turnId) started completed ↔
      turnId ∉ completed ∧ (strict = true → ∃ opened ∈ started, opened ∉ completed) := by
  unfold Settles
  constructor
  · intro h
    refine ⟨h.1 turnId rfl, ?_⟩
    intro hstrict
    by_contra hnone
    have hall : ∀ opened ∈ started, opened ∈ completed := by
      intro opened hopened
      by_contra hopen
      exact hnone ⟨opened, hopened, hopen⟩
    exact absurd (h.2 hstrict hall) (by simp)
  · intro h
    constructor
    · intro other hother
      cases hother
      exact h.1
    · intro hstrict hall
      obtain ⟨opened, hopened, hopen⟩ := h.2 hstrict
      exact absurd (hall opened hopened) hopen

theorem settles_none (started completed : List TurnId) : Settles strict none started completed := by
  constructor
  · exact nofun
  · intro _ _
    rfl

section Step

variable {activeTurnId : Option TurnId} {started completed : List TurnId}
  {event : ProviderRuntimeEvent}

theorem settles_turnStarted_iff (h : Settles strict activeTurnId started completed)
    (hpayload : event.payload = .turnStarted) :
    Settles strict (IngestionState.activeTurnAfter strict activeTurnId event)
        (started ++ (acceptedStart strict activeTurnId event).toList) completed ↔
      ∀ turnId ∈ acceptedStart strict activeTurnId event, turnId ∉ completed := by
  simp only [IngestionState.activeTurnAfter, acceptedStart, hpayload, nextActiveTurnId]
  split
  · cases hturn : event.turnId with
    | none => exact iff_of_true (settles_none _ _) (by simp)
    | some turnId =>
      rw [settles_some_iff]
      constructor
      · intro hopen other hother
        cases hother
        exact hopen.1
      · intro hopen
        have hnot := hopen turnId rfl
        exact ⟨hnot, fun _ => ⟨turnId, by simp, hnot⟩⟩
  · simpa using h

theorem settles_turnCompleted (h : Settles strict activeTurnId started completed)
    {state : RuntimeTurnState} {errorMessage : Option String}
    (hpayload : event.payload = .turnCompleted state errorMessage) :
    Settles strict (IngestionState.activeTurnAfter strict activeTurnId event) started
      (completed ++ (acceptedCompletion strict activeTurnId event).toList) := by
  simp only [IngestionState.activeTurnAfter, acceptedCompletion, hpayload, nextActiveTurnId]
  split
  · exact settles_none _ _
  · simpa using h

theorem settles_runtimeError_iff (h : Settles strict activeTurnId started completed)
    {message : String} (hpayload : event.payload = .runtimeError message) :
    Settles strict (IngestionState.activeTurnAfter strict activeTurnId event) started completed ↔
      ∀ turnId ∈ acceptedError strict activeTurnId event, turnId ∉ completed ∧
        (strict = true → ∃ opened ∈ started, opened ∉ completed) := by
  simp only [IngestionState.activeTurnAfter, acceptedError, hpayload]
  split
  · cases hturn : event.turnId with
    | none => exact iff_of_true (settles_none _ _) (by simp)
    | some turnId =>
      rw [settles_some_iff]
      simp
  · simpa using h

theorem namesOpenTurn_iff {streaming : Bool} : NamesOpenTurn strict run ⟨event, streaming⟩ ↔
    (∀ turnId ∈ acceptedStart strict run.activeTurnId event, turnId ∉ run.completed) ∧
      ∀ turnId ∈ acceptedError strict run.activeTurnId event, turnId ∉ run.completed ∧
        (strict = true → ∃ opened ∈ run.started, opened ∉ run.completed) := by
  constructor
  · intro h
    exact ⟨h.start, fun turnId hturn =>
      ⟨h.error turnId hturn, fun hstrict => h.errorOpen hstrict turnId hturn⟩⟩
  · intro h
    exact ⟨h.1, fun turnId hturn => (h.2 turnId hturn).1,
      fun hstrict turnId hturn => (h.2 turnId hturn).2 hstrict⟩

end Step

variable {input : RuntimeInput} {next : TurnLifecycle}

theorem activeTurnId_step (hstep : run.step strict input = some next) :
    next.activeTurnId = IngestionState.activeTurnAfter strict run.activeTurnId input.event := by
  cases hstep
  exact IngestionState.activeTurnIdOf_processRuntimeEvent

theorem neverFinished_step_iff (h : NeverFinished strict run)
    (hstep : run.step strict input = some next) :
    NeverFinished strict next ↔ NamesOpenTurn strict run input := by
  obtain ⟨event, streaming⟩ := input
  have hsettles := neverFinished_iff.mp h
  rw [neverFinished_iff, activeTurnId_step hstep, namesOpenTurn_iff]
  cases hstep
  show Settles strict (IngestionState.activeTurnAfter strict run.activeTurnId event)
      (run.started ++ (acceptedStart strict run.activeTurnId event).toList)
      (run.completed ++ (acceptedCompletion strict run.activeTurnId event).toList) ↔ _
  cases hpayload : event.payload with
  | turnStarted =>
    have hcompleted : acceptedCompletion strict run.activeTurnId event = none := by
      simp only [acceptedCompletion, hpayload]
    have herror : acceptedError strict run.activeTurnId event = none := by
      simp only [acceptedError, hpayload]
    rw [hcompleted, herror, Option.toList_none, List.append_nil,
      settles_turnStarted_iff hsettles hpayload]
    simp
  | turnCompleted state errorMessage =>
    have hstarted : acceptedStart strict run.activeTurnId event = none := by
      simp only [acceptedStart, hpayload]
    have herror : acceptedError strict run.activeTurnId event = none := by
      simp only [acceptedError, hpayload]
    rw [hstarted, herror, Option.toList_none, List.append_nil]
    exact iff_of_true (settles_turnCompleted hsettles hpayload) (by simp)
  | runtimeError message =>
    have hstarted : acceptedStart strict run.activeTurnId event = none := by
      simp only [acceptedStart, hpayload]
    have hcompleted : acceptedCompletion strict run.activeTurnId event = none := by
      simp only [acceptedCompletion, hpayload]
    rw [hstarted, hcompleted, Option.toList_none, List.append_nil, List.append_nil,
      settles_runtimeError_iff hsettles hpayload]
    simp
  | _ =>
    -- the other events keep the active turn or clear it
    have hafter : IngestionState.activeTurnAfter strict run.activeTurnId event =
        run.activeTurnId ∨
        IngestionState.activeTurnAfter strict run.activeTurnId event = none := by
      simp [IngestionState.activeTurnAfter, nextActiveTurnId, shouldApplyThreadLifecycle, hpayload]
    simp only [acceptedStart, acceptedCompletion, acceptedError, hpayload, Option.toList_none,
      List.append_nil]
    refine iff_of_true ?_ (by simp)
    rcases hafter with hsame | hnone
    · rw [hsame]
      exact hsettles
    · rw [hnone]
      exact settles_none _ _

/-- The active turn is never a finished one and new turns start exactly in the runs where
every accepted start and error names an open turn. -/
theorem neverFinished_throughout_iff (strict : Bool) (session : Option OrchestrationSession)
    (messages : MessageTable) (inputs : List RuntimeInput) :
    Throughout (step strict) (NeverFinished strict) (start session messages) inputs ↔
      StepsMeet (step strict) (NamesOpenTurn strict) (start session messages) inputs := by
  have hstart : NeverFinished strict (start session messages) := by
    rw [neverFinished_iff]
    show Settles strict (activeTurnIdOf session) (activeTurnIdOf session).toList []
    cases activeTurnIdOf session with
    | none => exact settles_none _ _
    | some turnId =>
      rw [settles_some_iff]
      exact ⟨by simp, fun _ => ⟨turnId, by simp, by simp⟩⟩
  have hinvariant : ∀ (run : TurnLifecycle) (input : RuntimeInput) (next : TurnLifecycle),
      True → run.step strict input = some next → True := fun _ _ _ _ _ => trivial
  exact throughout_iff_stepsMeet hinvariant
    (fun run input next _ h hstep => neverFinished_step_iff h hstep) trivial hstart inputs

def startOf (input : RuntimeInput) : Option TurnId :=
  match input.event.payload with
  | .turnStarted => input.event.turnId
  | _ => none

def completionOf (input : RuntimeInput) : Option TurnId :=
  IngestionState.completedTurnId input.event

def OncePerTurn (inputs : List RuntimeInput) : Prop :=
  (inputs.filterMap startOf).Nodup ∧ (inputs.filterMap completionOf).Nodup

/-- An error of a finished turn that arrives late makes the turn active again. -/
def lateErrorRun : List RuntimeInput :=
  [⟨⟨"e1", "codex", none, "t1", "2024", some "u1", none, .turnStarted⟩, false⟩,
    ⟨⟨"e2", "codex", none, "t1", "2024", some "u1", none, .turnCompleted .completed none⟩, false⟩,
    ⟨⟨"e3", "codex", none, "t1", "2024", some "u1", none, .runtimeError "late"⟩, false⟩]

/-- After the late error the session names the finished turn, and the next turn is refused. -/
theorem late_error_revives_turn :
    ¬ ∀ (session : Option OrchestrationSession) (messages : MessageTable)
      (inputs : List RuntimeInput), OncePerTurn inputs →
      Throughout (step true) (NeverFinished true) (start session messages) inputs := by
  intro h
  have honce : OncePerTurn lateErrorRun := ⟨by decide, by decide⟩
  have hrun : ∃ run, exec (step true) (start none (.empty _)) lateErrorRun = some run ∧
      run.activeTurnId = some "u1" ∧ run.completed = ["u1"] := ⟨_, rfl, rfl, rfl⟩
  obtain ⟨run, hexec, hactive, hcompleted⟩ := hrun
  have hnever := (h none (.empty _) lateErrorRun honce).final hexec
  refine hnever.unfinished "u1" hactive ?_
  rw [hcompleted]
  exact List.mem_singleton.mpr rfl

end TurnLifecycle

end GT3Code.Orchestration
