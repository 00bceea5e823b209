import GT3Code.Orchestration.AssistantText

/-! # Delivery modes

The text of a message at the end of its turns does not depend on which deltas were
streamed and which were buffered, as long as no text overtakes a buffer and no buffer of
whitespace is dropped.
-/

namespace GT3Code.Orchestration

open GT3Code.Base GT3Code.Contracts GT3Code.Persistence

namespace IngestionState

section Routing

variable {state other : IngestionState} {event : ProviderRuntimeEvent} {turnId : TurnId}

theorem getOrCreateAssistantMessageId_congr (event : ProviderRuntimeEvent)
    (h : state.assistantSegmentStateByTurnKey = other.assistantSegmentStateByTurnKey) :
    (state.getOrCreateAssistantMessageId event.threadId event).1.assistantSegmentStateByTurnKey =
        (other.getOrCreateAssistantMessageId event.threadId event).1.assistantSegmentStateByTurnKey ∧
      (state.getOrCreateAssistantMessageId event.threadId event).2 =
        (other.getOrCreateAssistantMessageId event.threadId event).2 := by
  unfold getOrCreateAssistantMessageId
  cases event.turnId with
  | none => exact ⟨h, rfl⟩
  | some turnId =>
    simp only [active_of_segments h]
    split
    · exact ⟨h, rfl⟩
    · simp only [startAssistantSegmentForTurn, getAssistantSegmentStateForTurn,
        setAssistantSegmentStateForTurn, h]
      exact ⟨trivial, trivial⟩

variable {strict streaming otherStreaming : Bool}

theorem segments_processLifecycle :
    (state.processLifecycle strict event).assistantSegmentStateByTurnKey =
      state.assistantSegmentStateByTurnKey := by
  simp only [processLifecycle]
  split
  · rfl
  · split
    · rfl
    · rfl

theorem segments_processRuntimeError :
    (state.processRuntimeError strict event).assistantSegmentStateByTurnKey =
      state.assistantSegmentStateByTurnKey := by
  unfold processRuntimeError
  split
  · split
    · rfl
    · rfl
  · rfl

theorem segments_processAssistantDelta_congr
    (h : state.assistantSegmentStateByTurnKey = other.assistantSegmentStateByTurnKey) :
    (state.processAssistantDelta streaming event).assistantSegmentStateByTurnKey =
      (other.processAssistantDelta otherStreaming event).assistantSegmentStateByTurnKey := by
  simp only [processAssistantDelta]
  split
  · exact h
  · simp only [segments_of_outline (outline_deliverAssistantDelta _ _)]
    obtain ⟨hrouted, -⟩ := getOrCreateAssistantMessageId_congr event h
    cases event.turnId with
    | none => exact hrouted
    | some turnId => exact hrouted

theorem segments_finalizeActive_congr {hasProjected otherProjected : Bool}
    {flushed otherFlushed : List MessageId}
    (h : state.assistantSegmentStateByTurnKey = other.assistantSegmentStateByTurnKey) :
    (state.finalizeActiveAssistantSegmentForTurn event turnId hasProjected
        flushed).assistantSegmentStateByTurnKey =
      (other.finalizeActiveAssistantSegmentForTurn event turnId otherProjected
        otherFlushed).assistantSegmentStateByTurnKey := by
  have hforgotten : ∀ (before : IngestionState) (messageId : MessageId) (hasProjected : Bool),
      ((before.finalizeAssistantMessage event messageId none
          hasProjected).forgetAssistantMessageId event.threadId turnId
            messageId).assistantSegmentStateByTurnKey =
        before.assistantSegmentStateByTurnKey := by
    intro before messageId hasProjected
    apply segments_of_outline
    rw [outline_forgetAssistantMessageId, outline_finalizeAssistantMessage]
  simp only [finalizeActiveAssistantSegmentForTurn, active_of_segments h]
  split
  · exact h
  · simp only [getAssistantSegmentStateForTurn, hforgotten, h]
    split
    · rw [hforgotten, hforgotten, h]
    · simp only [setAssistantSegmentStateForTurn, hforgotten, h]

theorem segments_processPause_congr
    (h : state.assistantSegmentStateByTurnKey = other.assistantSegmentStateByTurnKey) :
    (state.processPause streaming event).assistantSegmentStateByTurnKey =
      (other.processPause otherStreaming event).assistantSegmentStateByTurnKey := by
  have hflushed : ∀ (before : IngestionState) (turnId : TurnId) (streaming : Bool),
      (if streaming then (before, [])
        else before.flushBufferedAssistantMessagesForTurn event
          turnId).1.assistantSegmentStateByTurnKey = before.assistantSegmentStateByTurnKey := by
    intro before turnId streaming
    cases streaming with
    | true => rfl
    | false => exact segments_of_outline (outline_flushMessages _)
  simp only [processPause]
  split
  · exact h
  · apply segments_finalizeActive_congr
    rw [hflushed, hflushed, h]

theorem segments_processAssistantCompletion_congr
    (h : state.assistantSegmentStateByTurnKey = other.assistantSegmentStateByTurnKey) :
    (state.processAssistantCompletion event).assistantSegmentStateByTurnKey =
      (other.processAssistantCompletion event).assistantSegmentStateByTurnKey := by
  have hcompleted : ∀ (before : IngestionState) (detail : Option String),
      (if shouldSkipRedundantCompletion event detail before then before
        else before.completeAssistantMessage event detail).assistantSegmentStateByTurnKey =
        before.assistantSegmentStateByTurnKey := by
    intro before detail
    split
    · rfl
    · exact segments_of_outline (outline_completeAssistantMessage detail)
  simp only [processAssistantCompletion]
  split
  · exact h
  · cases event.turnId with
    | none => simp only [hcompleted, h]
    | some turnId => simp only [clearAssistantSegmentStateForTurn, hcompleted, h]

theorem segments_processTurnCompleted_congr
    (h : state.assistantSegmentStateByTurnKey = other.assistantSegmentStateByTurnKey) :
    (state.processTurnCompleted event).assistantSegmentStateByTurnKey =
      (other.processTurnCompleted event).assistantSegmentStateByTurnKey := by
  simp only [processTurnCompleted]
  split
  · exact h
  · simp only [clearAssistantMessageIdsForTurn, clearAssistantSegmentStateForTurn,
      segments_of_outline (outline_finalizeMessages _ _), h]

theorem segments_processSessionExited_congr
    (h : state.assistantSegmentStateByTurnKey = other.assistantSegmentStateByTurnKey) :
    (state.processSessionExited event).assistantSegmentStateByTurnKey =
      (other.processSessionExited event).assistantSegmentStateByTurnKey := by
  simp only [processSessionExited]
  split
  · simp only [clearTurnStateForSession, h]
  · exact h

theorem segments_processRuntimeEvent_congr
    (h : state.assistantSegmentStateByTurnKey = other.assistantSegmentStateByTurnKey) :
    (state.processRuntimeEvent strict streaming event).assistantSegmentStateByTurnKey =
      (other.processRuntimeEvent strict otherStreaming event).assistantSegmentStateByTurnKey := by
  unfold processRuntimeEvent
  rw [segments_processRuntimeError, segments_processRuntimeError]
  apply segments_processSessionExited_congr
  apply segments_processTurnCompleted_congr
  apply segments_processAssistantCompletion_congr
  apply segments_processPause_congr
  apply segments_processAssistantDelta_congr
  rw [segments_processLifecycle, segments_processLifecycle, h]

end Routing

def routeOf (state : IngestionState) (event : ProviderRuntimeEvent) : Option RoutedDelta :=
  (assistantDelta event).map (fun delta =>
    ⟨(state.getOrCreateAssistantMessageId event.threadId event).2, delta⟩)

def takenMessageIds (state : IngestionState) (streaming : Bool) (event : ProviderRuntimeEvent) :
    List MessageId :=
  state.takenAtPause streaming event ++ state.takenAtCompletion event ++ state.takenAtTurnEnd event

/-- What the event keeps of the text routed to a message: a delta of it is appended, and its
buffer is taken only where that loses nothing. -/
structure KeepsTextOf (message : MessageId) (text : String) (streaming : Bool)
    (event : ProviderRuntimeEvent) (state : IngestionState) : Prop where
  appends : ∀ delta ∈ state.routeOf event, delta.messageId = message →
    Appends message text streaming state
  taken : message ∈ state.takenMessageIds streaming event → Takeable (state.bufferedText message)

section Event

variable {threadId : ThreadId} {message : MessageId} {text : String}
  {awaiting : List (MessageId × Option TurnId)} {state : IngestionState}
  {event : ProviderRuntimeEvent} {strict streaming : Bool}

theorem TextKept.processLifecycle (h : TextKept threadId message text awaiting state) :
    TextKept threadId message text awaiting (state.processLifecycle strict event) := by
  simp only [IngestionState.processLifecycle]
  split
  · exact h
  · split
    · exact h.congr rfl rfl (fun _ _ hmem => hmem)
    · exact h

theorem TextKept.processRuntimeError (h : TextKept threadId message text awaiting state) :
    TextKept threadId message text awaiting (state.processRuntimeError strict event) := by
  unfold IngestionState.processRuntimeError
  split
  · split
    · exact h.congr rfl rfl (fun _ _ hmem => hmem)
    · exact h
  · exact h

theorem TextKept.clearTurnStateForSession (h : TextKept threadId message text awaiting state)
    (hawaiting : ∀ entry ∈ awaiting, entry.2 = none) :
    TextKept threadId message text awaiting (state.clearTurnStateForSession event.threadId) := by
  have hempty : state.bufferedText message = "" := by
    by_contra hbuffered
    obtain ⟨turnId, hentry, -⟩ := h.bufferedAwaits hbuffered
    cases hawaiting _ hentry
  have hcleared : (state.clearTurnStateForSession event.threadId).bufferedText message = "" := by
    unfold bufferedText KeyedMap.get at hempty ⊢
    simp only [IngestionState.clearTurnStateForSession, KeyedTable.lookup_restrict]
    cases hfound : KeyedTable.lookup message state.bufferedAssistantTextByMessageId with
    | none => rfl
    | some entry =>
      rw [hfound] at hempty
      rw [Option.filter_some]
      split
      · exact hempty
      · rfl
  refine h.congr rfl ?_ ?_
  · rw [hcleared, hempty]
  · intro turnId hother
    exact absurd hcleared hother

/-- The messages awaited after an event: one more for a delta, fewer at the end of a turn. -/
def awaitingAfter (state : IngestionState) (event : ProviderRuntimeEvent)
    (awaiting : List (MessageId × Option TurnId)) : List (MessageId × Option TurnId) :=
  awaitedAfter event awaiting ++
    ((state.routeOf event).map (fun delta => (delta.messageId, event.turnId))).toList

def textAfter (state : IngestionState) (event : ProviderRuntimeEvent) (message : MessageId)
    (text : String) : String :=
  match state.routeOf event with
  | none => text
  | some delta => if delta.messageId = message then text ++ delta.text else text

theorem routeOf_of_none (hdelta : assistantDelta event = none) : state.routeOf event = none := by
  rw [routeOf, hdelta]
  rfl

theorem awaitedAfter_of_none (hcompleted : completedTurnId event = none) :
    awaitedAfter event awaiting = awaiting := by
  simp [awaitedAfter, hcompleted]

theorem TextKept.processRuntimeEvent (h : TextKept threadId message text awaiting state)
    (hthread : event.threadId = threadId)
    (hexited : event.payload = .sessionExited → ∀ entry ∈ awaiting, entry.2 = none)
    (hkeeps : KeepsTextOf message text streaming event state)
    (hturn : (message, none) ∉ state.awaitingAfter event awaiting) :
    TextKept threadId message (state.textAfter event message text)
      (state.awaitingAfter event awaiting) (state.processRuntimeEvent strict streaming event) := by
  obtain ⟨happends, htaken⟩ := hkeeps
  simp only [takenMessageIds, List.mem_append] at htaken
  have hundelivered : assistantDelta event = none →
      state.textAfter event message text = text ∧
        state.awaitingAfter event awaiting = awaitedAfter event awaiting := by
    intro hdelta
    rw [textAfter, awaitingAfter, routeOf_of_none hdelta]
    exact ⟨rfl, List.append_nil _⟩
  cases hpayload : event.payload with
  | contentDelta streamKind content =>
    have hcompleted : completedTurnId event = none := by simp only [completedTurnId, hpayload]
    rw [processRuntimeEvent_contentDelta hpayload]
    cases hdelta : assistantDelta event with
    | none =>
      obtain ⟨htext, hawaiting⟩ := hundelivered hdelta
      rw [htext, hawaiting, awaitedAfter_of_none hcompleted]
      simp only [IngestionState.processAssistantDelta, hdelta]
      exact h
    | some delta =>
      have hroute : state.routeOf event =
          some ⟨(state.getOrCreateAssistantMessageId event.threadId event).2, delta⟩ := by
        rw [routeOf, hdelta]
        rfl
      simp only [textAfter, awaitingAfter, hroute, Option.map_some, Option.toList_some,
        awaitedAfter_of_none hcompleted] at hturn ⊢
      subst hthread
      apply h.processAssistantDelta rfl hdelta
      · intro hsame
        exact happends _ hroute hsame.symm
      · intro hsame hnone
        apply hturn
        rw [hsame, hnone]
        exact List.mem_append_right _ (by simp)
  | requestOpened =>
    obtain ⟨htext, hawaiting⟩ := hundelivered (by simp only [assistantDelta, hpayload])
    have hcompleted : completedTurnId event = none := by simp only [completedTurnId, hpayload]
    rw [htext, hawaiting, awaitedAfter_of_none hcompleted,
      processRuntimeEvent_pause (Or.inl hpayload)]
    exact h.processPause hthread (fun hmem => htaken (Or.inl (Or.inl hmem)))
  | userInputRequested =>
    obtain ⟨htext, hawaiting⟩ := hundelivered (by simp only [assistantDelta, hpayload])
    have hcompleted : completedTurnId event = none := by simp only [completedTurnId, hpayload]
    rw [htext, hawaiting, awaitedAfter_of_none hcompleted,
      processRuntimeEvent_pause (Or.inr hpayload)]
    exact h.processPause hthread (fun hmem => htaken (Or.inl (Or.inl hmem)))
  | itemCompleted itemType detail =>
    obtain ⟨htext, hawaiting⟩ := hundelivered (by simp only [assistantDelta, hpayload])
    have hcompleted : completedTurnId event = none := by simp only [completedTurnId, hpayload]
    rw [htext, hawaiting, awaitedAfter_of_none hcompleted,
      processRuntimeEvent_itemCompleted hpayload]
    exact h.processAssistantCompletion hthread (fun hmem => htaken (Or.inl (Or.inr hmem)))
  | turnCompleted turnState errorMessage =>
    obtain ⟨htext, hawaiting⟩ := hundelivered (by simp only [assistantDelta, hpayload])
    rw [htext, hawaiting, processRuntimeEvent_turnCompleted hpayload]
    apply h.processLifecycle.processTurnCompleted hthread
    intro hmem
    have hids : (state.processLifecycle strict event).takenAtTurnEnd event =
        state.takenAtTurnEnd event := by
      simp only [IngestionState.processLifecycle]
      split
      · rfl
      · split
        · rfl
        · rfl
    have hbuffer : (state.processLifecycle strict event).bufferedText message =
        state.bufferedText message := by
      simp only [IngestionState.processLifecycle]
      split
      · rfl
      · split
        · rfl
        · rfl
    rw [hids] at hmem
    rw [hbuffer]
    exact htaken (Or.inr hmem)
  | sessionExited =>
    obtain ⟨htext, hawaiting⟩ := hundelivered (by simp only [assistantDelta, hpayload])
    have hcompleted : completedTurnId event = none := by simp only [completedTurnId, hpayload]
    rw [htext, hawaiting, awaitedAfter_of_none hcompleted,
      processRuntimeEvent_sessionExited hpayload]
    exact h.processLifecycle.clearTurnStateForSession (hexited hpayload)
  | _ =>
    have hkeeps : KeepsMessages event := by
      simp [KeepsMessages, assistantDelta, pauseForUserTurnId, assistantCompletion,
        completedTurnId, hpayload]
    obtain ⟨htext, hawaiting⟩ := hundelivered hkeeps.1
    rw [htext, hawaiting, awaitedAfter_of_none hkeeps.2.2.2.1,
      processRuntimeEvent_keepsMessages hkeeps]
    exact h.processLifecycle.processRuntimeError

end Event

end IngestionState

/-! ## Runs of one thread -/

/-- The worker with the deltas routed so far and, until their turns are completed, the messages
they were routed to. -/
structure AssistantRun where
  ingestion : IngestionState
  routed : List RoutedDelta
  awaiting : List (MessageId × Option TurnId)

namespace AssistantRun

def start (session : Option OrchestrationSession) (messages : MessageTable) : AssistantRun where
  ingestion := .start session messages
  routed := []
  awaiting := []

/-- An event of the thread; the session is not exited while a turn is awaited. -/
def step (strict : Bool) (threadId : ThreadId) (run : AssistantRun) (input : RuntimeInput) :
    Option AssistantRun :=
  if input.event.threadId = threadId ∧
      (input.event.payload = .sessionExited → ∀ entry ∈ run.awaiting, entry.2 = none) then
    some {
      ingestion := run.ingestion.processRuntimeEvent strict input.streaming input.event
      routed := run.routed ++ (run.ingestion.routeOf input.event).toList
      awaiting := run.ingestion.awaitingAfter input.event run.awaiting }
  else none

/-- Every delta routed to the message is of a turn completed since. -/
def Settled (message : MessageId) (run : AssistantRun) : Prop :=
  ∀ entry ∈ run.awaiting, entry.1 ≠ message

/-- Once its turns are completed, a message with a character that is no whitespace is projected
with the deltas routed to it, in the order they arrived. -/
def Delivered (message : MessageId) (run : AssistantRun) : Prop :=
  run.Settled message → hasNonWhitespace (routedText run.routed message) = true →
    run.ingestion.projectedText message = routedText run.routed message

/-- No delta of the message is streamed past its buffer, its first one finds no text, and its
buffer is taken only where it is empty or holds a character that is no whitespace. -/
def KeepsText (message : MessageId) (run : AssistantRun) (input : RuntimeInput) : Prop :=
  run.ingestion.KeepsTextOf message (routedText run.routed message) input.streaming input.event

section Run

variable {strict : Bool} {threadId : ThreadId} {message : MessageId} {run next : AssistantRun}
  {input : RuntimeInput}

theorem step_eq_some_iff : run.step strict threadId input = some next ↔
    (input.event.threadId = threadId ∧
      (input.event.payload = .sessionExited → ∀ entry ∈ run.awaiting, entry.2 = none)) ∧
    next = {
      ingestion := run.ingestion.processRuntimeEvent strict input.streaming input.event
      routed := run.routed ++ (run.ingestion.routeOf input.event).toList
      awaiting := run.ingestion.awaitingAfter input.event run.awaiting } := by
  unfold step
  split
  · rename_i hguard
    rw [Option.some.injEq, eq_comm]
    exact ⟨fun hnext => ⟨hguard, hnext⟩, fun h => h.2⟩
  · rename_i hguard
    constructor
    · exact nofun
    · intro h
      exact absurd h.1 hguard

theorem routedText_step (event : ProviderRuntimeEvent) :
    routedText (run.routed ++ (run.ingestion.routeOf event).toList) message =
      run.ingestion.textAfter event message (routedText run.routed message) := by
  unfold IngestionState.textAfter
  cases run.ingestion.routeOf event with
  | none => rw [Option.toList_none, List.append_nil]
  | some delta => exact routedText_append run.routed delta message

/-- A message of deltas without a turn is awaited for good; any other has its text kept. -/
def Kept (threadId : ThreadId) (message : MessageId) (run : AssistantRun) : Prop :=
  (message, none) ∉ run.awaiting →
    run.ingestion.TextKept threadId message (routedText run.routed message) run.awaiting

theorem Kept.delivered (h : Kept threadId message run) : Delivered message run := by
  intro hsettled hrenders
  have hkept := h (fun hmem => hsettled _ hmem rfl)
  have hempty : run.ingestion.bufferedText message = "" := by
    by_contra hbuffered
    obtain ⟨turnId, hentry, -⟩ := hkept.bufferedAwaits hbuffered
    exact hsettled _ hentry rfl
  have hwhole := hkept.whole (ne_empty_of_hasNonWhitespace hrenders)
  rw [hempty, String.append_empty] at hwhole
  exact hwhole

theorem Kept.step (h : Kept threadId message run) (hkeeps : KeepsText message run input)
    (hstep : AssistantRun.step strict threadId run input = some next) :
    Kept threadId message next := by
  obtain ⟨⟨hthread, hexited⟩, rfl⟩ := step_eq_some_iff.mp hstep
  intro hturn
  rw [routedText_step]
  refine (h ?_).processRuntimeEvent hthread hexited hkeeps hturn
  intro hmem
  apply hturn
  apply List.mem_append_left
  rw [IngestionState.awaitedAfter, List.mem_filter]
  refine ⟨hmem, ?_⟩
  cases IngestionState.completedTurnId input.event with
  | none => rfl
  | some turnId => simp

theorem kept_start (session : Option OrchestrationSession) (messages : MessageTable) :
    Kept threadId message (start session messages) := by
  intro _
  have hempty : routedText [] message = "" := rfl
  constructor
  · intro htext
    exact absurd hempty htext
  · intro htext
    exact absurd hempty htext
  · intro hbuffered
    exact absurd rfl hbuffered
  · intro hbuffered
    exact absurd rfl hbuffered

structure SameRouting (run other : AssistantRun) : Prop where
  segments : run.ingestion.assistantSegmentStateByTurnKey =
    other.ingestion.assistantSegmentStateByTurnKey
  routed : run.routed = other.routed
  awaiting : run.awaiting = other.awaiting

theorem SameRouting.step {other otherNext : AssistantRun} {otherInput : RuntimeInput}
    (h : SameRouting run other) (hevent : input.event = otherInput.event)
    (hstep : AssistantRun.step strict threadId run input = some next)
    (hother : AssistantRun.step strict threadId other otherInput = some otherNext) :
    SameRouting next otherNext := by
  obtain ⟨-, rfl⟩ := step_eq_some_iff.mp hstep
  obtain ⟨-, rfl⟩ := step_eq_some_iff.mp hother
  have hroute : run.ingestion.routeOf input.event =
      other.ingestion.routeOf otherInput.event := by
    rw [hevent]
    unfold IngestionState.routeOf
    rw [(IngestionState.getOrCreateAssistantMessageId_congr _ h.segments).2]
  constructor
  · show (run.ingestion.processRuntimeEvent strict input.streaming
        input.event).assistantSegmentStateByTurnKey =
      (other.ingestion.processRuntimeEvent strict otherInput.streaming
        otherInput.event).assistantSegmentStateByTurnKey
    rw [hevent]
    exact IngestionState.segments_processRuntimeEvent_congr h.segments
  · show run.routed ++ _ = other.routed ++ _
    rw [h.routed, hroute]
  · show run.ingestion.awaitingAfter input.event run.awaiting =
      other.ingestion.awaitingAfter otherInput.event other.awaiting
    rw [IngestionState.awaitingAfter, IngestionState.awaitingAfter, hroute, hevent, h.awaiting]

theorem SameRouting.exec {other last otherLast : AssistantRun} {inputs others : List RuntimeInput}
    (h : SameRouting run other)
    (hevents : inputs.map RuntimeInput.event = others.map RuntimeInput.event)
    (hrun : Base.exec (AssistantRun.step strict threadId) run inputs = some last)
    (hother : Base.exec (AssistantRun.step strict threadId) other others = some otherLast) :
    SameRouting last otherLast := by
  induction inputs generalizing run other others with
  | nil =>
    cases others with
    | nil =>
      cases hrun
      cases hother
      exact h
    | cons otherInput others => cases hevents
  | cons input inputs ih =>
    cases others with
    | nil => cases hevents
    | cons otherInput others =>
      simp only [List.map_cons, List.cons.injEq] at hevents
      obtain ⟨hevent, hrest⟩ := hevents
      obtain ⟨middle, hmiddle, hrun⟩ := exec_cons_eq_some hrun
      obtain ⟨otherMiddle, hotherMiddle, hother⟩ := exec_cons_eq_some hother
      exact ih (h.step hevent hmiddle hotherMiddle) hrest hrun hother

end Run

/-- The deltas of a message are projected in order in every run that keeps its text, and two
such runs of the same events project the same text. -/
theorem assistantText_independent_of_mode (strict : Bool) (threadId : ThreadId)
    (session : Option OrchestrationSession) (messages : MessageTable) (message : MessageId)
    {inputs others : List RuntimeInput}
    (hevents : inputs.map RuntimeInput.event = others.map RuntimeInput.event)
    (hkeeps : StepsMeet (step strict threadId) (KeepsText message) (start session messages) inputs)
    (hothers : StepsMeet (step strict threadId) (KeepsText message) (start session messages)
      others) :
    Throughout (step strict threadId) (Delivered message) (start session messages) inputs ∧
      ∀ run other, exec (step strict threadId) (start session messages) inputs = some run →
        exec (step strict threadId) (start session messages) others = some other →
        run.Settled message → hasNonWhitespace (routedText run.routed message) = true →
        run.ingestion.projectedText message = other.ingestion.projectedText message := by
  have hdelivered : ∀ inputs : List RuntimeInput,
      StepsMeet (step strict threadId) (KeepsText message) (start session messages) inputs →
      Throughout (step strict threadId) (Delivered message) (start session messages) inputs := by
    intro inputs hmeets
    have hkept : Throughout (step strict threadId) (Kept threadId message)
        (start session messages) inputs :=
      throughout_of_stepsMeet (fun run input next h hkeeps hstep => h.step hkeeps hstep)
        (kept_start session messages) hmeets
    exact hkept.imp (fun run h => h.delivered)
  refine ⟨hdelivered inputs hkeeps, ?_⟩
  intro run other hrun hother hsettled hrenders
  obtain ⟨-, hrouted, hawaiting⟩ : SameRouting run other :=
    SameRouting.exec ⟨rfl, rfl, rfl⟩ hevents hrun hother
  have hotherSettled : other.Settled message := by
    rw [Settled, ← hawaiting]
    exact hsettled
  rw [(hdelivered inputs hkeeps).final hrun hsettled hrenders, hrouted,
    (hdelivered others hothers).final hother hotherSettled (by rw [← hrouted]; exact hrenders)]

/-- A delta and the completion of its turn, with the delta streamed or buffered. -/
def oneDeltaRun (streaming : Bool) : List RuntimeInput :=
  [⟨⟨"e1", "codex", none, "t1", "2024", some "u1", some "i1",
      .contentDelta .assistantText "a"⟩, streaming⟩,
    ⟨⟨"e2", "codex", none, "t1", "2024", some "u1", none, .turnCompleted .completed none⟩,
      streaming⟩]

theorem oneDeltaRun_keepsText (streaming : Bool) :
    StepsMeet (step true "t1") (KeepsText "assistant:i1") (start none (.empty _))
      (oneDeltaRun streaming) := by
  cases streaming with
  | true =>
    apply (stepsMeet_cons rfl).mpr
    refine ⟨⟨fun _ _ _ => ⟨fun _ => rfl, fun _ => rfl⟩, fun _ => Or.inl rfl⟩, ?_⟩
    apply (stepsMeet_cons rfl).mpr
    refine ⟨⟨?_, fun _ => Or.inl rfl⟩, trivial⟩
    intro delta hdelta
    cases hdelta
  | false =>
    apply (stepsMeet_cons rfl).mpr
    refine ⟨⟨fun _ _ _ => ⟨fun _ => rfl, fun _ => rfl⟩, fun _ => Or.inl rfl⟩, ?_⟩
    apply (stepsMeet_cons rfl).mpr
    refine ⟨⟨?_, fun _ => Or.inr (by decide)⟩, trivial⟩
    intro delta hdelta
    cases hdelta

/-- Streamed or buffered, the delta is projected. -/
theorem assistantText_independent_of_mode_oneDelta :
    Throughout (step true "t1") (Delivered "assistant:i1") (start none (.empty _))
        (oneDeltaRun true) ∧
      ∀ run other, exec (step true "t1") (start none (.empty _)) (oneDeltaRun true) = some run →
        exec (step true "t1") (start none (.empty _)) (oneDeltaRun false) = some other →
        run.Settled "assistant:i1" →
        hasNonWhitespace (routedText run.routed "assistant:i1") = true →
        run.ingestion.projectedText "assistant:i1" =
          other.ingestion.projectedText "assistant:i1" :=
  assistantText_independent_of_mode true "t1" none (.empty _) "assistant:i1" rfl
    (oneDeltaRun_keepsText true) (oneDeltaRun_keepsText false)

/-- A delta is buffered, the next one is streamed, and the turn completes. -/
def overtakenRun : List RuntimeInput :=
  [⟨⟨"e1", "codex", none, "t1", "2024", some "u1", some "i1",
      .contentDelta .assistantText "a"⟩, false⟩,
    ⟨⟨"e2", "codex", none, "t1", "2024", some "u1", some "i1",
      .contentDelta .assistantText "b"⟩, true⟩,
    ⟨⟨"e3", "codex", none, "t1", "2024", some "u1", none, .turnCompleted .completed none⟩, true⟩]

/-- The streamed delta is projected before the buffered one. -/
theorem streamed_delta_overtakes_buffer :
    ¬ ∀ (session : Option OrchestrationSession) (message : MessageId)
      (inputs others : List RuntimeInput),
      inputs.map RuntimeInput.event = others.map RuntimeInput.event →
      Throughout (step true "t1") (Delivered message) (start session (.empty _)) inputs ∧
        ∀ run other, exec (step true "t1") (start session (.empty _)) inputs = some run →
          exec (step true "t1") (start session (.empty _)) others = some other →
          run.Settled message → hasNonWhitespace (routedText run.routed message) = true →
          run.ingestion.projectedText message = other.ingestion.projectedText message := by
  intro h
  have hrun : ∃ run, exec (step true "t1") (start none (.empty _)) overtakenRun = some run ∧
      run.awaiting = [] ∧ routedText run.routed "assistant:i1" = "ab" ∧
      run.ingestion.projectedText "assistant:i1" = "ba" := ⟨_, rfl, rfl, rfl, rfl⟩
  obtain ⟨run, hexec, hawaiting, hrouted, hprojected⟩ := hrun
  have hdelivered : Delivered "assistant:i1" run :=
    (h none "assistant:i1" overtakenRun overtakenRun rfl).1.final hexec
  have hsettled : run.Settled "assistant:i1" := by
    intro entry hentry
    rw [hawaiting] at hentry
    cases hentry
  have hsame := hdelivered hsettled (by rw [hrouted]; decide)
  rw [hprojected, hrouted] at hsame
  exact absurd hsame (by decide)

end AssistantRun

end GT3Code.Orchestration
