import GT3Code.Orchestration.ActiveTurn

/-! # Assistant messages

Whether a message the ingestion worker completed is written again, and where a segment's
message id is used for a second segment.
-/

namespace GT3Code.Orchestration

open GT3Code.Base GT3Code.Contracts GT3Code.Persistence
open GT3Code.Gc (trim)

def writtenMessage : CommandBody → Option MessageId
  | .threadMessageAssistantDelta c => some c.messageId
  | _ => none

def completedMessage : CommandBody → Option MessageId
  | .threadMessageAssistantComplete c => some c.messageId
  | _ => none

/-- The later command does not write the message the earlier one completes. -/
def NotRewrittenBy (earlier later : CommandBody) : Prop :=
  ∀ messageId ∈ completedMessage earlier, writtenMessage later ≠ some messageId

namespace IngestionState

def Completed (state : IngestionState) (messageId : MessageId) : Prop :=
  ∃ command ∈ state.dispatched, completedMessage command = some messageId

/-- After the completion of a message no delta of it is dispatched. -/
def NeverRewritten (state : IngestionState) : Prop := state.dispatched.Pairwise NotRewrittenBy

structure Closed (state : IngestionState) : Prop where
  neverRewritten : state.NeverRewritten
  bufferedOpen : ∀ messageId, state.bufferedText messageId ≠ "" → ¬ state.Completed messageId

section Buffers

variable {state : IngestionState} {messageId other : MessageId}

@[simp] theorem bufferedText_dispatchDelta (c : ThreadMessageAssistantDeltaCommand) :
    (state.dispatchDelta c).bufferedText messageId = state.bufferedText messageId := rfl

@[simp] theorem bufferedText_dispatchComplete (c : ThreadMessageAssistantCompleteCommand) :
    (state.dispatchComplete c).bufferedText messageId = state.bufferedText messageId := rfl

theorem bufferedText_clear_self :
    (state.clearBufferedAssistantText messageId).bufferedText messageId = "" := by
  simp [bufferedText, clearBufferedAssistantText]

theorem bufferedText_clear_of_ne (h : other ≠ messageId) :
    (state.clearBufferedAssistantText messageId).bufferedText other = state.bufferedText other := by
  simp [bufferedText, clearBufferedAssistantText, KeyedMap.get_delete_of_ne h]

theorem bufferedText_clear : (state.clearBufferedAssistantText messageId).bufferedText other =
    if other = messageId then "" else state.bufferedText other := by
  by_cases h : other = messageId
  · rw [if_pos h, h]
    exact bufferedText_clear_self
  · rw [if_neg h]
    exact bufferedText_clear_of_ne h

theorem bufferedText_set (text : String) :
    (state.setBufferedText messageId text).bufferedText other =
      if other = messageId then text else state.bufferedText other := by
  by_cases h : other = messageId
  · rw [if_pos h, h]
    simp [bufferedText, setBufferedText]
  · rw [if_neg h]
    simp [bufferedText, setBufferedText, KeyedMap.get_set_of_ne h]

end Buffers

/-! ## Each part keeps messages closed -/

section Parts

variable {state next : IngestionState} {event : ProviderRuntimeEvent} {threadId : ThreadId}
  {turnId : TurnId} {messageId : MessageId}

theorem Closed.congr (h : state.Closed) (hdispatched : next.dispatched = state.dispatched)
    (hbuffered : ∀ other, next.bufferedText other = state.bufferedText other ∨
      next.bufferedText other = "") : next.Closed := by
  constructor
  · rw [NeverRewritten, hdispatched]
    exact h.neverRewritten
  · intro other hother hcompleted
    rw [Completed, hdispatched] at hcompleted
    rcases hbuffered other with hsame | hempty
    · rw [hsame] at hother
      exact h.bufferedOpen other hother hcompleted
    · exact hother hempty

theorem Closed.clearBufferedAssistantText (h : state.Closed) (messageId : MessageId) :
    (state.clearBufferedAssistantText messageId).Closed := by
  refine h.congr rfl ?_
  intro other
  rw [bufferedText_clear]
  split
  · exact Or.inr rfl
  · exact Or.inl rfl

theorem Closed.setBufferedText (h : state.Closed) (hopen : ¬ state.Completed messageId)
    (text : String) : (state.setBufferedText messageId text).Closed where
  neverRewritten := h.neverRewritten
  bufferedOpen other hother := by
    rw [bufferedText_set] at hother
    split at hother
    · rename_i hsame
      rw [hsame]
      exact hopen
    · exact h.bufferedOpen other hother

variable {command : CommandBody}

theorem completed_append (hdispatched : next.dispatched = state.dispatched ++ [command]) :
    next.Completed messageId ↔
      state.Completed messageId ∨ completedMessage command = some messageId := by
  simp only [Completed, hdispatched, List.mem_append, List.mem_singleton]
  constructor
  · intro h
    obtain ⟨entry, hentry | rfl, hcompleted⟩ := h
    · exact Or.inl ⟨entry, hentry, hcompleted⟩
    · exact Or.inr hcompleted
  · intro h
    rcases h with ⟨entry, hentry, hcompleted⟩ | hcompleted
    · exact ⟨entry, Or.inl hentry, hcompleted⟩
    · exact ⟨command, Or.inr rfl, hcompleted⟩

theorem Closed.append (h : state.Closed)
    (hdispatched : next.dispatched = state.dispatched ++ [command])
    (hbuffered : ∀ other, next.bufferedText other = state.bufferedText other)
    (hwritten : ∀ written ∈ writtenMessage command, ¬ state.Completed written)
    (hcompleted : ∀ completed ∈ completedMessage command, state.bufferedText completed = "") :
    next.Closed := by
  constructor
  · rw [NeverRewritten, hdispatched, List.pairwise_append]
    refine ⟨h.neverRewritten, List.pairwise_singleton .., ?_⟩
    intro earlier hearlier later hlater completed hearlierCompleted hlaterWritten
    rw [List.mem_singleton.mp hlater] at hlaterWritten
    exact hwritten completed hlaterWritten ⟨earlier, hearlier, hearlierCompleted⟩
  · intro other hother hboth
    rw [hbuffered] at hother
    rcases (completed_append hdispatched).mp hboth with hold | hnew
    · exact h.bufferedOpen other hother hold
    · exact hother (hcompleted other hnew)

theorem Closed.dispatchDelta (h : state.Closed) {c : ThreadMessageAssistantDeltaCommand}
    (hopen : ¬ state.Completed c.messageId) : (state.dispatchDelta c).Closed := by
  refine h.append rfl (fun _ => rfl) ?_ ?_
  · intro written hwritten
    cases hwritten
    exact hopen
  · exact nofun

theorem Closed.dispatchComplete (h : state.Closed) {c : ThreadMessageAssistantCompleteCommand}
    (hempty : state.bufferedText c.messageId = "") : (state.dispatchComplete c).Closed := by
  refine h.append rfl (fun _ => rfl) ?_ ?_
  · exact nofun
  · intro completed hcompleted
    cases hcompleted
    exact hempty

theorem Closed.dispatchSessionSet (h : state.Closed) (c : ThreadSessionSetCommand) :
    (state.dispatchSessionSet c).Closed := by
  refine h.append rfl (fun _ => rfl) ?_ ?_
  · exact nofun
  · exact nofun

theorem Closed.forgetAssistantMessageId (h : state.Closed) :
    (state.forgetAssistantMessageId threadId turnId messageId).Closed := by
  simp only [IngestionState.forgetAssistantMessageId]
  split
  · exact h
  · exact h.congr rfl (fun _ => Or.inl rfl)

theorem Closed.flushBufferedAssistantMessage (h : state.Closed) :
    (state.flushBufferedAssistantMessage event turnId messageId).1.Closed := by
  simp only [IngestionState.flushBufferedAssistantMessage]
  split
  · rename_i hrenders
    apply (h.clearBufferedAssistantText messageId).dispatchDelta
    apply h.bufferedOpen
    intro hempty
    rw [hempty, hasRenderableAssistantText_empty] at hrenders
    cases hrenders
  · exact h.clearBufferedAssistantText messageId

theorem Closed.flushMessages (h : state.Closed) (ids : List MessageId) :
    (flushMessages event turnId ids state).1.Closed := by
  induction ids generalizing state with
  | nil => exact h
  | cons messageId rest ih =>
    have hflushed : (state.flushBufferedAssistantMessage event turnId messageId).1.Closed :=
      h.flushBufferedAssistantMessage
    simp only [IngestionState.flushMessages]
    exact ih hflushed

theorem Closed.dispatchRenderable (h : state.Closed) {text : String}
    (hopen : hasRenderableAssistantText text = true → ¬ state.Completed messageId) :
    (state.dispatchRenderable event messageId text).Closed := by
  unfold IngestionState.dispatchRenderable
  split
  · rename_i hrenders
    exact h.dispatchDelta (hopen hrenders)
  · exact h

theorem bufferedText_dispatchRenderable (messageId other : MessageId) (text : String) :
    (state.dispatchRenderable event messageId text).bufferedText other =
      state.bufferedText other := by
  unfold IngestionState.dispatchRenderable
  split
  · rfl
  · rfl

theorem Closed.finalizeAssistantMessage (h : state.Closed) {fallbackText : Option String}
    (hfallback : state.bufferedText messageId = "" →
      hasRenderableAssistantText (finalText "" fallbackText) = true →
      ¬ state.Completed messageId) (hasProjectedMessage : Bool) :
    (state.finalizeAssistantMessage event messageId fallbackText hasProjectedMessage).Closed := by
  have hopen : hasRenderableAssistantText
      (finalText (state.bufferedText messageId) fallbackText) = true →
      ¬ state.Completed messageId := by
    intro hrenders
    by_cases hempty : state.bufferedText messageId = ""
    · rw [hempty] at hrenders
      exact hfallback hempty hrenders
    · exact h.bufferedOpen messageId hempty
  have hwritten : ((state.clearBufferedAssistantText messageId).dispatchRenderable event messageId
      (finalText (state.bufferedText messageId) fallbackText)).Closed :=
    (h.clearBufferedAssistantText messageId).dispatchRenderable hopen
  have hcleared : ((state.clearBufferedAssistantText messageId).dispatchRenderable event messageId
      (finalText (state.bufferedText messageId) fallbackText)).bufferedText messageId = "" := by
    rw [bufferedText_dispatchRenderable]
    exact bufferedText_clear_self
  simp only [IngestionState.finalizeAssistantMessage]
  apply Closed.clearBufferedAssistantText
  split
  · exact hwritten.dispatchComplete hcleared
  · exact hwritten

theorem Closed.finalizeWithoutFallback (h : state.Closed) (event : ProviderRuntimeEvent)
    (messageId : MessageId) (hasProjectedMessage : Bool) :
    (state.finalizeAssistantMessage event messageId none hasProjectedMessage).Closed := by
  apply h.finalizeAssistantMessage
  intro _ hrenders
  have hempty : finalText "" none = "" := rfl
  rw [hempty, hasRenderableAssistantText_empty] at hrenders
  cases hrenders

theorem Closed.finalizeActiveAssistantSegmentForTurn (h : state.Closed)
    (hasProjectedMessage : Bool) (flushedMessageIds : List MessageId) :
    (state.finalizeActiveAssistantSegmentForTurn event turnId hasProjectedMessage
      flushedMessageIds).Closed := by
  simp only [IngestionState.finalizeActiveAssistantSegmentForTurn]
  split
  · exact h
  · rename_i activeMessageId hactive
    have hfinalized := h.finalizeWithoutFallback event activeMessageId
      (hasProjectedMessage || decide (activeMessageId ∈ flushedMessageIds))
    have hforgotten : ((state.finalizeAssistantMessage event activeMessageId none
        (hasProjectedMessage || decide (activeMessageId ∈ flushedMessageIds)))
          |>.forgetAssistantMessageId event.threadId turnId activeMessageId).Closed :=
      hfinalized.forgetAssistantMessageId
    split
    · exact hforgotten
    · exact hforgotten.congr rfl (fun _ => Or.inl rfl)

theorem Closed.finalizeMessages (h : state.Closed) (messages : List OrchestrationMessage)
    (ids : List MessageId) : (finalizeMessages event messages ids state).Closed := by
  induction ids generalizing state with
  | nil => exact h
  | cons messageId rest ih =>
    have hfinalized := h.finalizeWithoutFallback event messageId
      (findMessageById messages messageId).isSome
    simp only [IngestionState.finalizeMessages]
    exact ih hfinalized

theorem getOrCreateAssistantMessageId_frame :
    (state.getOrCreateAssistantMessageId threadId event).1.dispatched = state.dispatched ∧
      (state.getOrCreateAssistantMessageId threadId event).1.bufferedAssistantTextByMessageId =
        state.bufferedAssistantTextByMessageId := by
  unfold IngestionState.getOrCreateAssistantMessageId
  split
  · exact ⟨rfl, rfl⟩
  · split
    · exact ⟨rfl, rfl⟩
    · exact ⟨rfl, rfl⟩

theorem Closed.deliverAssistantDelta (h : state.Closed) (hopen : ¬ state.Completed messageId)
    (streaming : Bool) (delta : String) :
    (state.deliverAssistantDelta streaming event messageId delta).Closed := by
  simp only [IngestionState.deliverAssistantDelta]
  cases streaming with
  | true => exact h.dispatchDelta hopen
  | false =>
    simp only [Bool.false_eq_true, if_false, IngestionState.appendBufferedAssistantText]
    split
    · exact h.setBufferedText hopen _
    · split
      · exact (h.clearBufferedAssistantText messageId).dispatchDelta hopen
      · exact h.clearBufferedAssistantText messageId

end Parts

/-- The message an event writes is not completed: neither the one an assistant delta is
routed to, nor the one a completion gives its text. -/
structure WritesOpenMessage (state : IngestionState) (event : ProviderRuntimeEvent) : Prop where
  delta : ∀ delta ∈ assistantDelta event,
    ¬ state.Completed (state.getOrCreateAssistantMessageId event.threadId event).2
  detail : ∀ detail ∈ assistantCompletion event,
    state.bufferedText (completionMessageId event state) = "" →
    hasRenderableAssistantText (finalText "" (completionFallback event detail state)) = true →
      ¬ state.Completed (completionMessageId event state)

section Event

variable {state : IngestionState} {event : ProviderRuntimeEvent} {strict streaming : Bool}

theorem Closed.processLifecycle (h : state.Closed) :
    (state.processLifecycle strict event).Closed := by
  simp only [IngestionState.processLifecycle]
  split
  · exact h
  · split
    · exact h.dispatchSessionSet _
    · exact h

theorem Closed.processRuntimeError (h : state.Closed) :
    (state.processRuntimeError strict event).Closed := by
  simp only [IngestionState.processRuntimeError]
  split
  · split
    · exact h.dispatchSessionSet _
    · exact h
  · exact h

theorem Closed.processAssistantDelta (h : state.Closed)
    (hopen : ∀ delta ∈ assistantDelta event,
      ¬ state.Completed (state.getOrCreateAssistantMessageId event.threadId event).2) :
    (state.processAssistantDelta streaming event).Closed := by
  simp only [IngestionState.processAssistantDelta]
  split
  · exact h
  · rename_i delta hdelta
    obtain ⟨hdispatched, hbuffered⟩ :
        (state.getOrCreateAssistantMessageId event.threadId event).1.dispatched =
          state.dispatched ∧ _ := getOrCreateAssistantMessageId_frame
    have hrouted : (state.getOrCreateAssistantMessageId event.threadId event).1.Closed := by
      refine h.congr hdispatched (fun other => Or.inl ?_)
      simp only [bufferedText, hbuffered]
    have hnot := hopen delta hdelta
    split
    · apply hrouted.deliverAssistantDelta
      rw [Completed, hdispatched]
      exact hnot
    · apply Closed.deliverAssistantDelta
      · exact hrouted.congr rfl (fun _ => Or.inl rfl)
      · show ¬ ∃ command ∈ (state.getOrCreateAssistantMessageId event.threadId event).1.dispatched, _
        rw [hdispatched]
        exact hnot

theorem Closed.processPause (h : state.Closed) : (state.processPause streaming event).Closed := by
  simp only [IngestionState.processPause]
  split
  · exact h
  · apply Closed.finalizeActiveAssistantSegmentForTurn
    split
    · exact h
    · exact h.flushMessages _

theorem rememberCompletion_frame (messageId : MessageId) :
    (state.rememberCompletion event messageId).dispatched = state.dispatched ∧
      (state.rememberCompletion event messageId).bufferedAssistantTextByMessageId =
        state.bufferedAssistantTextByMessageId := by
  unfold rememberCompletion
  split
  · exact ⟨rfl, rfl⟩
  · split
    · exact ⟨rfl, rfl⟩
    · exact ⟨rfl, rfl⟩

theorem Closed.forgetCompletion (h : state.Closed) (messageId : MessageId) :
    (state.forgetCompletion event messageId).Closed := by
  unfold IngestionState.forgetCompletion
  split
  · exact h
  · exact h.forgetAssistantMessageId

theorem Closed.completeAssistantMessage (h : state.Closed) {detail : Option String}
    (hopen : state.bufferedText (completionMessageId event state) = "" →
      hasRenderableAssistantText (finalText "" (completionFallback event detail state)) = true →
      ¬ state.Completed (completionMessageId event state)) :
    (state.completeAssistantMessage event detail).Closed := by
  obtain ⟨hdispatched, hbuffered⟩ :
      (state.rememberCompletion event (completionMessageId event state)).dispatched =
        state.dispatched ∧ _ := rememberCompletion_frame _
  have hsame : ∀ other, (state.rememberCompletion event
      (completionMessageId event state)).bufferedText other = state.bufferedText other := by
    intro other
    simp only [bufferedText, hbuffered]
  have hremembered := h.congr hdispatched (fun other => Or.inl (hsame other))
  simp only [IngestionState.completeAssistantMessage]
  apply Closed.forgetCompletion
  apply hremembered.finalizeAssistantMessage
  rw [hsame, Completed, hdispatched]
  exact hopen

theorem Closed.processAssistantCompletion (h : state.Closed)
    (hopen : ∀ detail ∈ assistantCompletion event,
      state.bufferedText (completionMessageId event state) = "" →
      hasRenderableAssistantText (finalText "" (completionFallback event detail state)) = true →
        ¬ state.Completed (completionMessageId event state)) :
    (state.processAssistantCompletion event).Closed := by
  simp only [IngestionState.processAssistantCompletion]
  split
  · exact h
  · rename_i detail hdetail
    have hcompleted : (if shouldSkipRedundantCompletion event detail state then state
        else state.completeAssistantMessage event detail).Closed := by
      split
      · exact h
      · exact h.completeAssistantMessage (hopen detail hdetail)
    cases event.turnId with
    | none => exact hcompleted
    | some turnId => exact hcompleted.congr rfl (fun _ => Or.inl rfl)

theorem Closed.processTurnCompleted (h : state.Closed) :
    (state.processTurnCompleted event).Closed := by
  simp only [IngestionState.processTurnCompleted]
  split
  · exact h
  · rename_i turnId hturn
    have hfinalized : (IngestionState.finalizeMessages event (state.threadMessages event.threadId)
        (state.getAssistantMessageIdsForTurn event.threadId turnId) state).Closed :=
      h.finalizeMessages _ _
    exact hfinalized.congr rfl (fun _ => Or.inl rfl)

theorem Closed.restrictBuffers (h : state.Closed) {next : IngestionState}
    (hdispatched : next.dispatched = state.dispatched) {keep : MessageId × String → Bool}
    (hbuffered : next.bufferedAssistantTextByMessageId =
      state.bufferedAssistantTextByMessageId.restrict keep) : next.Closed := by
  apply h.congr hdispatched
  intro other
  simp only [bufferedText, hbuffered, KeyedMap.get, KeyedTable.lookup_restrict]
  cases hfound : KeyedTable.lookup other state.bufferedAssistantTextByMessageId with
  | none => exact Or.inl rfl
  | some entry =>
    rw [Option.filter_some]
    split
    · exact Or.inl rfl
    · exact Or.inr rfl

theorem Closed.clearTurnStateForSession (h : state.Closed) (threadId : ThreadId) :
    (state.clearTurnStateForSession threadId).Closed :=
  h.restrictBuffers rfl rfl

theorem Closed.processRuntimeEvent (h : state.Closed) (hopen : state.WritesOpenMessage event) :
    (state.processRuntimeEvent strict streaming event).Closed := by
  cases hpayload : event.payload with
  | contentDelta streamKind delta =>
    rw [processRuntimeEvent_contentDelta hpayload]
    exact h.processAssistantDelta hopen.delta
  | requestOpened =>
    rw [processRuntimeEvent_pause (Or.inl hpayload)]
    exact h.processPause
  | userInputRequested =>
    rw [processRuntimeEvent_pause (Or.inr hpayload)]
    exact h.processPause
  | itemCompleted itemType detail =>
    rw [processRuntimeEvent_itemCompleted hpayload]
    exact h.processAssistantCompletion hopen.detail
  | turnCompleted turnState errorMessage =>
    rw [processRuntimeEvent_turnCompleted hpayload]
    exact h.processLifecycle.processTurnCompleted
  | sessionExited =>
    rw [processRuntimeEvent_sessionExited hpayload]
    exact h.processLifecycle.clearTurnStateForSession _
  | _ =>
    have hkeeps : KeepsMessages event := by
      simp [KeepsMessages, assistantDelta, pauseForUserTurnId, assistantCompletion,
        completedTurnId, hpayload]
    rw [processRuntimeEvent_keepsMessages hkeeps]
    exact h.processLifecycle.processRuntimeError

end Event

inductive IngestionAction where
  | runtimeEvent (input : RuntimeInput)
  | dropTurnMessageIds (key : String)
  | dropBufferedText (messageId : MessageId)
  | dropSegmentState (key : String)

def step (strict : Bool) (state : IngestionState) : IngestionAction → Option IngestionState
  | .runtimeEvent input => some (state.processRuntimeEvent strict input.streaming input.event)
  | .dropTurnMessageIds key =>
    some { state with
      turnMessageIdsByTurnKey := KeyedMap.delete key state.turnMessageIdsByTurnKey }
  | .dropBufferedText messageId => some (state.clearBufferedAssistantText messageId)
  | .dropSegmentState key =>
    some { state with
      assistantSegmentStateByTurnKey :=
        KeyedMap.delete key state.assistantSegmentStateByTurnKey }

def ActionWritesOpenMessage (state : IngestionState) : IngestionAction → Prop
  | .runtimeEvent input => state.WritesOpenMessage input.event
  | _ => True

theorem closed_start (session : Option OrchestrationSession) (messages : MessageTable) :
    (start session messages).Closed where
  neverRewritten := List.Pairwise.nil
  bufferedOpen messageId _ hcompleted := by
    obtain ⟨command, hcommand, -⟩ := hcompleted
    cases hcommand

theorem Closed.step {state next : IngestionState} {strict : Bool} {action : IngestionAction}
    (h : state.Closed) (hopen : state.ActionWritesOpenMessage action)
    (hstep : IngestionState.step strict state action = some next) : next.Closed := by
  cases action with
  | runtimeEvent input =>
    cases hstep
    exact h.processRuntimeEvent hopen
  | dropTurnMessageIds | dropSegmentState =>
    cases hstep
    exact h.congr rfl (fun _ => Or.inl rfl)
  | dropBufferedText messageId =>
    cases hstep
    exact h.clearBufferedAssistantText messageId

/-- In every run whose events write open messages only, no completed message is written
again. -/
theorem neverRewritten_throughout (strict : Bool) (session : Option OrchestrationSession)
    (messages : MessageTable) (actions : List IngestionAction)
    (hopen : StepsMeet (step strict) ActionWritesOpenMessage (start session messages) actions) :
    Throughout (step strict) NeverRewritten (start session messages) actions := by
  have hclosed : Throughout (step strict) Closed (start session messages) actions :=
    throughout_of_stepsMeet
      (fun state action next h hmeets hstep => h.step hmeets hstep)
      (closed_start session messages) hopen
  exact hclosed.imp (fun state h => h.neverRewritten)

instance (state : IngestionState) (messageId : MessageId) :
    Decidable (state.Completed messageId) :=
  inferInstanceAs (Decidable (∃ command ∈ state.dispatched, _))

instance (state : IngestionState) (event : ProviderRuntimeEvent) :
    Decidable (state.WritesOpenMessage event) :=
  decidable_of_iff
    ((∀ delta ∈ assistantDelta event,
      ¬ state.Completed (state.getOrCreateAssistantMessageId event.threadId event).2) ∧
    ∀ detail ∈ assistantCompletion event,
      state.bufferedText (completionMessageId event state) = "" →
        hasRenderableAssistantText (finalText "" (completionFallback event detail state)) = true →
          ¬ state.Completed (completionMessageId event state))
    ⟨fun h => ⟨h.1, h.2⟩, fun h => ⟨h.delta, h.detail⟩⟩

instance (state : IngestionState) : ∀ action, Decidable (state.ActionWritesOpenMessage action)
  | .runtimeEvent input => inferInstanceAs (Decidable (state.WritesOpenMessage input.event))
  | .dropTurnMessageIds _ | .dropSegmentState _ | .dropBufferedText _ => isTrue trivial

/-- A request completes the first segment of an item, which then goes on until the turn ends. -/
def resumedRun : List RuntimeInput :=
  [⟨⟨"e1", "codex", none, "t1", "2024", some "u1", some "i1",
      .contentDelta .assistantText "a"⟩, true⟩,
    ⟨⟨"e2", "codex", none, "t1", "2024", some "u1", none, .requestOpened⟩, true⟩,
    ⟨⟨"e3", "codex", none, "t1", "2024", some "u1", some "i1",
      .contentDelta .assistantText "b"⟩, true⟩,
    ⟨⟨"e4", "codex", none, "t1", "2024", some "u1", none, .turnCompleted .completed none⟩, true⟩]

theorem neverRewritten_throughout_resumed :
    Throughout (step true) NeverRewritten (start none (.empty _))
        (resumedRun.map .runtimeEvent) ∧
      (exec (step true) (start none (.empty _)) (resumedRun.map .runtimeEvent)).map
          (fun state => state.dispatched.map
            (fun command => (completedMessage command, writtenMessage command))) =
        some [(none, some (assistantSegmentMessageId "i1" 0)),
          (some (assistantSegmentMessageId "i1" 0), none),
          (none, some (assistantSegmentMessageId "i1" 1)),
          (none, none), -- the session's status
          (some (assistantSegmentMessageId "i1" 1), none)] := by
  constructor
  · apply neverRewritten_throughout
    decide +kernel
  · rfl

/-- Two items take turns, with a request after each: the second segment of the first item gets
the message id of its first. -/
def rewrittenRun : List RuntimeInput :=
  [⟨⟨"e1", "codex", none, "t1", "2024", some "u1", some "i1",
      .contentDelta .assistantText "a"⟩, true⟩,
    ⟨⟨"e2", "codex", none, "t1", "2024", some "u1", none, .requestOpened⟩, true⟩,
    ⟨⟨"e3", "codex", none, "t1", "2024", some "u1", some "i2",
      .contentDelta .assistantText "b"⟩, true⟩,
    ⟨⟨"e4", "codex", none, "t1", "2024", some "u1", none, .requestOpened⟩, true⟩,
    ⟨⟨"e5", "codex", none, "t1", "2024", some "u1", some "i1",
      .contentDelta .assistantText "c"⟩, true⟩]

theorem segment_id_reused :
    ¬ ∀ (session : Option OrchestrationSession) (messages : MessageTable)
      (inputs : List RuntimeInput), (inputs.map (fun input => input.event.eventId)).Nodup →
        Throughout (step true) NeverRewritten (start session messages)
          (inputs.map .runtimeEvent) := by
  intro h
  have hrun : ∃ state, exec (step true) (start none (.empty _))
      (rewrittenRun.map .runtimeEvent) = some state ∧
      state.dispatched.map (fun command => (completedMessage command, writtenMessage command)) =
        [(none, some (assistantSegmentMessageId "i1" 0)),
          (some (assistantSegmentMessageId "i1" 0), none),
          (none, some (assistantSegmentMessageId "i2" 0)),
          (some (assistantSegmentMessageId "i2" 0), none),
          (none, some (assistantSegmentMessageId "i1" 0))] := ⟨_, rfl, rfl⟩
  obtain ⟨state, hexec, hdispatched⟩ := hrun
  have hnever := (h none (.empty _) rewrittenRun (by decide)).final hexec
  have hpairs : (state.dispatched.map
      (fun command => (completedMessage command, writtenMessage command))).Pairwise
        (fun earlier later => ∀ messageId ∈ earlier.1, later.2 ≠ some messageId) :=
    List.pairwise_map.mpr hnever
  rw [hdispatched, List.pairwise_cons, List.pairwise_cons] at hpairs
  exact hpairs.2.1 (none, some (assistantSegmentMessageId "i1" 0)) (by simp) _ rfl rfl

end IngestionState

end GT3Code.Orchestration
