import Mathlib.Data.List.TakeWhile
import GT3Code.Orchestration.AssistantMessages

/-! # Assistant text

The deltas routed to a message against the text projected for it and the text still in its
buffer, while deltas are streamed or buffered and buffers are written out. A delta is well-formed
Unicode here: it cuts no pair of surrogates.
-/

namespace GT3Code.Orchestration

open GT3Code.Base GT3Code.Contracts GT3Code.Persistence
open GT3Code.Gc (trim isWhitespace)

structure RoutedDelta where
  messageId : MessageId
  text : String

def routedText (routed : List RoutedDelta) (messageId : MessageId) : String :=
  routed.foldl (fun text delta =>
    if delta.messageId = messageId then text ++ delta.text else text) ""

theorem routedText_append (routed : List RoutedDelta) (delta : RoutedDelta)
    (messageId : MessageId) :
    routedText (routed ++ [delta]) messageId =
      if delta.messageId = messageId then routedText routed messageId ++ delta.text
      else routedText routed messageId := by
  simp [routedText]

def hasNonWhitespace (text : String) : Bool := text.toList.any (fun c => !isWhitespace c)

variable {text : String}

theorem ne_empty_of_hasNonWhitespace (h : hasNonWhitespace text = true) : text ≠ "" := by
  intro hempty
  rw [hempty] at h
  simp [hasNonWhitespace] at h

theorem append_ne_empty {delta : String} (h : delta ≠ "") : text ++ delta ≠ "" := by
  intro hempty
  exact h (String.append_eq_empty_iff.mp hempty).2

namespace IngestionState

/-! ## Projected text -/

def projectedText (state : IngestionState) (messageId : MessageId) : String :=
  ((KeyedTable.lookup messageId state.messages).map ProjectionThreadMessage.text).getD ""

theorem lookup_projectMessage (messages : MessageTable) (payload : ThreadMessageSentPayload)
    (messageId : MessageId) :
    (KeyedTable.lookup messageId (projectMessage messages payload)).map
        (fun row => (row.text, row.threadId)) =
      if payload.messageId = messageId then
        some ((messageRow payload (KeyedTable.lookup payload.messageId messages)).text,
          payload.threadId)
      else (KeyedTable.lookup messageId messages).map (fun row => (row.text, row.threadId)) := by
  unfold projectMessage MessageTable.upsert
  by_cases hsame : payload.messageId = messageId
  · subst hsame
    rw [if_pos rfl, KeyedTable.lookup_put_self (by rfl)]
    rfl
  · rw [if_neg hsame, KeyedTable.lookup_put_of_ne]
    exact fun heq => hsame (Option.some.inj heq)

section Projected

variable {state : IngestionState} {messageId : MessageId}

def textRow (state : IngestionState) (messageId : MessageId) : Option (String × ThreadId) :=
  (KeyedTable.lookup messageId state.messages).map (fun row => (row.text, row.threadId))

theorem projectedText_eq (state : IngestionState) (messageId : MessageId) :
    state.projectedText messageId = ((state.textRow messageId).map Prod.fst).getD "" := by
  rw [projectedText, textRow, Option.map_map]
  rfl

theorem messageRow_text_delta (c : ThreadMessageAssistantDeltaCommand)
    (previous : Option ProjectionThreadMessage) :
    (messageRow (deltaPayload c) previous).text =
      (previous.map ProjectionThreadMessage.text).getD "" ++ c.delta := by
  cases previous with
  | none => simp [messageRow, deltaPayload]
  | some row => simp [messageRow, deltaPayload, stored_units_append]

theorem messageRow_text_complete (c : ThreadMessageAssistantCompleteCommand)
    (previous : Option ProjectionThreadMessage) :
    (messageRow (completePayload c) previous).text =
      (previous.map ProjectionThreadMessage.text).getD "" := by
  cases previous with
  | none => rfl
  | some row => simp [messageRow, completePayload]

theorem textRow_dispatchDelta (c : ThreadMessageAssistantDeltaCommand) :
    (state.dispatchDelta c).textRow messageId =
      if c.messageId = messageId then
        some (state.projectedText c.messageId ++ c.delta, c.threadId)
      else state.textRow messageId := by
  refine (lookup_projectMessage state.messages (deltaPayload c) messageId).trans ?_
  rw [messageRow_text_delta]
  rfl

theorem textRow_dispatchComplete (c : ThreadMessageAssistantCompleteCommand) :
    (state.dispatchComplete c).textRow messageId =
      if c.messageId = messageId then some (state.projectedText c.messageId, c.threadId)
      else state.textRow messageId := by
  refine (lookup_projectMessage state.messages (completePayload c) messageId).trans ?_
  rw [messageRow_text_complete]
  rfl

theorem projectedText_dispatchDelta (c : ThreadMessageAssistantDeltaCommand) :
    (state.dispatchDelta c).projectedText messageId =
      if c.messageId = messageId then state.projectedText messageId ++ c.delta
      else state.projectedText messageId := by
  rw [projectedText_eq, textRow_dispatchDelta]
  split
  · rename_i hsame
    rw [hsame]
    rfl
  · exact (projectedText_eq state messageId).symm

theorem projectedText_dispatchComplete (c : ThreadMessageAssistantCompleteCommand) :
    (state.dispatchComplete c).projectedText messageId = state.projectedText messageId := by
  rw [projectedText_eq, textRow_dispatchComplete]
  split
  · rename_i hsame
    rw [hsame]
    rfl
  · exact (projectedText_eq state messageId).symm

end Projected

/-- Of a message that was routed the deltas joined as `text`: they are the text projected for
it and the text in its buffer, its row is the thread's, and buffered text is remembered for a
turn that is awaited. -/
structure TextKept (threadId : ThreadId) (message : MessageId) (text : String)
    (awaiting : List (MessageId × Option TurnId)) (state : IngestionState) : Prop where
  whole : text ≠ "" → state.projectedText message ++ state.bufferedText message = text
  ofThread : text ≠ "" → state.projectedText message ≠ "" →
    ∀ row ∈ state.textRow message, row.2 = threadId
  bufferedRouted : state.bufferedText message ≠ "" → text ≠ ""
  bufferedAwaits : state.bufferedText message ≠ "" → ∃ turnId, (message, some turnId) ∈ awaiting ∧
    message ∈ state.getAssistantMessageIdsForTurn threadId turnId

section Kept

variable {threadId : ThreadId} {message messageId : MessageId} {text : String}
  {awaiting : List (MessageId × Option TurnId)} {state next : IngestionState}
  {event : ProviderRuntimeEvent} {turnId : TurnId}

theorem TextKept.congr (h : TextKept threadId message text awaiting state)
    (hmessages : next.messages = state.messages)
    (hbuffered : next.bufferedText message = state.bufferedText message)
    (hremembered : ∀ turnId, next.bufferedText message ≠ "" →
      message ∈ state.getAssistantMessageIdsForTurn threadId turnId →
      message ∈ next.getAssistantMessageIdsForTurn threadId turnId) :
    TextKept threadId message text awaiting next := by
  have hrow : next.textRow message = state.textRow message := by
    rw [textRow, textRow, hmessages]
  have hprojected : next.projectedText message = state.projectedText message := by
    rw [projectedText, projectedText, hmessages]
  constructor
  · rw [hprojected, hbuffered]
    exact h.whole
  · rw [hrow, hprojected]
    exact h.ofThread
  · rw [hbuffered]
    exact h.bufferedRouted
  · intro hother
    have hbefore := hother
    rw [hbuffered] at hbefore
    obtain ⟨turnId, hentry, hmem⟩ := h.bufferedAwaits hbefore
    exact ⟨turnId, hentry, hremembered turnId hother hmem⟩

theorem TextKept.dispatchComplete (h : TextKept threadId message text awaiting state)
    {c : ThreadMessageAssistantCompleteCommand} (hthread : c.threadId = threadId) :
    TextKept threadId message text awaiting (state.dispatchComplete c) := by
  constructor
  · rw [projectedText_dispatchComplete]
    exact h.whole
  · intro htext hprojected row hrow
    rw [projectedText_dispatchComplete] at hprojected
    rw [textRow_dispatchComplete] at hrow
    split at hrow
    · cases hrow
      exact hthread
    · exact h.ofThread htext hprojected row hrow
  · exact h.bufferedRouted
  · exact h.bufferedAwaits

variable {c : ThreadMessageAssistantDeltaCommand} {fallbackText detail : Option String}

theorem TextKept.takeAndDispatch (h : TextKept threadId message text awaiting state)
    (hthread : c.threadId = threadId) (hdelta : c.delta = state.bufferedText c.messageId) :
    TextKept threadId message text awaiting
      ((state.clearBufferedAssistantText c.messageId).dispatchDelta c) := by
  have hbuffered :
      ((state.clearBufferedAssistantText c.messageId).dispatchDelta c).bufferedText message =
        if message = c.messageId then "" else state.bufferedText message := bufferedText_clear
  have hleft :
      ((state.clearBufferedAssistantText c.messageId).dispatchDelta c).bufferedText message ≠ "" →
        state.bufferedText message ≠ "" := by
    rw [hbuffered]
    intro hother
    split at hother
    · exact absurd rfl hother
    · exact hother
  constructor
  · intro htext
    rw [hbuffered, projectedText_dispatchDelta]
    have hwhole := h.whole htext
    by_cases hsame : c.messageId = message
    · rw [if_pos hsame, if_pos hsame.symm, String.append_empty, hdelta, hsame]
      exact hwhole
    · rw [if_neg hsame, if_neg (Ne.symm hsame)]
      exact hwhole
  · intro htext hprojected row hrow
    rw [textRow_dispatchDelta] at hrow
    rw [projectedText_dispatchDelta] at hprojected
    split at hrow
    · cases hrow
      exact hthread
    · rename_i hne
      rw [if_neg hne] at hprojected
      exact h.ofThread htext hprojected row hrow
  · intro hother
    exact h.bufferedRouted (hleft hother)
  · intro hother
    exact h.bufferedAwaits (hleft hother)

theorem TextKept.clearEmptyBuffer (h : TextKept threadId message text awaiting state)
    (hempty : message = messageId → state.bufferedText message = "") :
    TextKept threadId message text awaiting (state.clearBufferedAssistantText messageId) := by
  refine h.congr rfl ?_ (fun _ _ hmem => hmem)
  rw [bufferedText_clear]
  split
  · rename_i hsame
    exact (hempty hsame).symm
  · rfl

theorem TextKept.dispatchUnrouted (h : TextKept threadId message text awaiting state)
    (hunrouted : message = c.messageId → text = "") :
    TextKept threadId message text awaiting (state.dispatchDelta c) := by
  have hne : text ≠ "" → ¬ c.messageId = message := fun htext hsame =>
    htext (hunrouted hsame.symm)
  constructor
  · intro htext
    rw [projectedText_dispatchDelta, if_neg (hne htext)]
    exact h.whole htext
  · intro htext
    rw [textRow_dispatchDelta, if_neg (hne htext), projectedText_dispatchDelta,
      if_neg (hne htext)]
    exact h.ofThread htext
  · exact h.bufferedRouted
  · exact h.bufferedAwaits

def Takeable (text : String) : Prop := text = "" ∨ hasRenderableAssistantText text = true

theorem bufferedText_flush (messageId other : MessageId) :
    (state.flushBufferedAssistantMessage event turnId messageId).1.bufferedText other =
      if other = messageId then "" else state.bufferedText other := by
  simp only [flushBufferedAssistantMessage]
  split
  · exact bufferedText_clear
  · exact bufferedText_clear

theorem TextKept.flushBufferedAssistantMessage (h : TextKept threadId message text awaiting state)
    (hthread : event.threadId = threadId)
    (htake : message = messageId → Takeable (state.bufferedText message)) :
    TextKept threadId message text awaiting
      (state.flushBufferedAssistantMessage event turnId messageId).1 := by
  simp only [IngestionState.flushBufferedAssistantMessage]
  split
  · have hdispatched := h.takeAndDispatch (c := ⟨event.threadId, messageId,
      state.bufferedText messageId, some turnId, event.createdAt⟩) hthread rfl
    exact hdispatched
  · rename_i hblank
    apply h.clearEmptyBuffer
    intro hsame
    rw [← hsame] at hblank
    exact (htake hsame).resolve_right hblank

variable {ids : List MessageId} {other : MessageId} {otherTurn : TurnId} {streaming : Bool}
  {delta : String}

theorem TextKept.flushMessages (h : TextKept threadId message text awaiting state)
    (hthread : event.threadId = threadId)
    (htake : message ∈ ids → Takeable (state.bufferedText message)) :
    TextKept threadId message text awaiting (flushMessages event turnId ids state).1 := by
  induction ids generalizing state with
  | nil => exact h
  | cons messageId rest ih =>
    have hflushed : TextKept threadId message text awaiting
        (state.flushBufferedAssistantMessage event turnId messageId).1 := by
      apply h.flushBufferedAssistantMessage hthread
      intro hsame
      rw [hsame] at htake ⊢
      exact htake (by simp)
    simp only [IngestionState.flushMessages]
    refine ih hflushed ?_
    intro hrest
    rw [bufferedText_flush]
    split
    · exact Or.inl rfl
    · exact htake (List.mem_cons_of_mem _ hrest)

theorem bufferedText_flushMessages (other : MessageId) :
    (IngestionState.flushMessages event turnId ids state).1.bufferedText other =
        state.bufferedText other ∨
      (IngestionState.flushMessages event turnId ids state).1.bufferedText other = "" := by
  induction ids generalizing state with
  | nil => exact Or.inl rfl
  | cons messageId rest ih =>
    simp only [IngestionState.flushMessages]
    have hrest := @ih (state.flushBufferedAssistantMessage event turnId messageId).1
    rw [bufferedText_flush] at hrest
    split at hrest
    · exact Or.inr (hrest.elim id id)
    · exact hrest

theorem finalText_empty_of_none : finalText "" none = "" := rfl

theorem finalText_of_ne_empty {text : String} (h : text ≠ "") (fallbackText : Option String) :
    finalText text fallbackText = text := by
  have hlength : 0 < text.length := by
    have := mt String.length_eq_zero_iff.mp h
    omega
  rw [finalText, if_pos hlength]

theorem bufferedText_finalize (messageId other : MessageId) (fallbackText : Option String)
    (hasProjectedMessage : Bool) :
    (state.finalizeAssistantMessage event messageId fallbackText
      hasProjectedMessage).bufferedText other =
      if other = messageId then "" else state.bufferedText other := by
  simp only [finalizeAssistantMessage]
  rw [bufferedText_clear]
  by_cases hsame : other = messageId
  · rw [if_pos hsame, if_pos hsame]
  · rw [if_neg hsame, if_neg hsame]
    split
    · rw [bufferedText_dispatchComplete, bufferedText_dispatchRenderable,
        bufferedText_clear_of_ne hsame]
    · rw [bufferedText_dispatchRenderable, bufferedText_clear_of_ne hsame]

theorem TextKept.takeAndRender (h : TextKept threadId message text awaiting state)
    (hthread : event.threadId = threadId)
    (htake : message = messageId → Takeable (state.bufferedText message))
    (hfallback : message = messageId → state.bufferedText message = "" →
      hasRenderableAssistantText (finalText "" fallbackText) = true → text = "") :
    TextKept threadId message text awaiting
      ((state.clearBufferedAssistantText messageId).dispatchRenderable event messageId
        (finalText (state.bufferedText messageId) fallbackText)) := by
  unfold dispatchRenderable
  by_cases hempty : state.bufferedText messageId = ""
  · have hcleared : TextKept threadId message text awaiting
        (state.clearBufferedAssistantText messageId) := by
      apply h.clearEmptyBuffer
      intro hsame
      rw [hsame]
      exact hempty
    rw [hempty]
    split
    · rename_i hrenders
      apply hcleared.dispatchUnrouted
      intro hsame
      apply hfallback hsame _ hrenders
      rw [hsame]
      exact hempty
    · exact hcleared
  · rw [finalText_of_ne_empty hempty]
    split
    · have hdispatched := h.takeAndDispatch (c := ⟨event.threadId, messageId,
        state.bufferedText messageId, event.turnId, event.createdAt⟩) hthread rfl
      exact hdispatched
    · rename_i hblank
      apply h.clearEmptyBuffer
      intro hsame
      rw [← hsame] at hblank
      exact (htake hsame).resolve_right hblank

theorem TextKept.finalizeAssistantMessage (h : TextKept threadId message text awaiting state)
    (hthread : event.threadId = threadId)
    (htake : message = messageId → Takeable (state.bufferedText message))
    (hfallback : message = messageId → state.bufferedText message = "" →
      hasRenderableAssistantText (finalText "" fallbackText) = true → text = "")
    (hasProjectedMessage : Bool) :
    TextKept threadId message text awaiting
      (state.finalizeAssistantMessage event messageId fallbackText hasProjectedMessage) := by
  have hkept := h.takeAndRender hthread htake hfallback
  have hcleared : message = messageId →
      ((state.clearBufferedAssistantText messageId).dispatchRenderable event messageId
        (finalText (state.bufferedText messageId) fallbackText)).bufferedText message = "" := by
    intro hsame
    rw [bufferedText_dispatchRenderable, hsame]
    exact bufferedText_clear_self
  simp only [IngestionState.finalizeAssistantMessage]
  split
  · apply TextKept.clearEmptyBuffer
    · exact hkept.dispatchComplete hthread
    · rw [bufferedText_dispatchComplete]
      exact hcleared
  · exact hkept.clearEmptyBuffer hcleared

theorem TextKept.finalizeWithoutFallback (h : TextKept threadId message text awaiting state)
    (hthread : event.threadId = threadId)
    (htake : message = messageId → Takeable (state.bufferedText message))
    {hasProjectedMessage : Bool} :
    TextKept threadId message text awaiting
      (state.finalizeAssistantMessage event messageId none hasProjectedMessage) := by
  apply h.finalizeAssistantMessage hthread htake
  intro _ _ hrenders
  rw [finalText_empty_of_none, hasRenderableAssistantText_empty] at hrenders
  cases hrenders

theorem TextKept.finalizeMessages (h : TextKept threadId message text awaiting state)
    (hthread : event.threadId = threadId) (messages : List OrchestrationMessage)
    (htake : message ∈ ids → Takeable (state.bufferedText message)) :
    TextKept threadId message text awaiting (finalizeMessages event messages ids state) := by
  induction ids generalizing state with
  | nil => exact h
  | cons messageId rest ih =>
    have hfinalized : TextKept threadId message text awaiting
        (state.finalizeAssistantMessage event messageId none
          (findMessageById messages messageId).isSome) := by
      apply h.finalizeWithoutFallback hthread
      intro hsame
      rw [hsame] at htake ⊢
      exact htake (by simp)
    simp only [IngestionState.finalizeMessages]
    refine ih hfinalized ?_
    intro hrest
    rw [bufferedText_finalize]
    split
    · exact Or.inl rfl
    · exact htake (List.mem_cons_of_mem _ hrest)

theorem bufferedText_finalizeMessages (messages : List OrchestrationMessage) (other : MessageId) :
    (IngestionState.finalizeMessages event messages ids state).bufferedText other =
      if other ∈ ids then "" else state.bufferedText other := by
  induction ids generalizing state with
  | nil => rfl
  | cons messageId rest ih =>
    simp only [IngestionState.finalizeMessages]
    rw [ih, bufferedText_finalize]
    by_cases hsame : other = messageId
    · simp [hsame]
    · simp [hsame]

theorem providerTurnKey_inj {turnId other : TurnId}
    (h : providerTurnKey threadId turnId = providerTurnKey threadId other) : turnId = other := by
  unfold providerTurnKey at h
  exact (String.append_right_inj _).mp h

theorem mem_addId {messageId : MessageId} :
    other ∈ addId messageId ids ↔ other = messageId ∨ other ∈ ids := by
  unfold addId
  split
  · rename_i hmem
    constructor
    · exact Or.inr
    · intro h
      rcases h with rfl | h
      · exact hmem
      · exact h
  · rw [List.mem_append, List.mem_singleton, or_comm]

theorem getAssistantMessageIdsForTurn_remember (messageId : MessageId) (turnId other : TurnId) :
    (state.rememberAssistantMessageId threadId turnId messageId).getAssistantMessageIdsForTurn
        threadId other =
      if other = turnId then addId messageId (state.getAssistantMessageIdsForTurn threadId turnId)
      else state.getAssistantMessageIdsForTurn threadId other := by
  simp only [getAssistantMessageIdsForTurn, rememberAssistantMessageId]
  by_cases hsame : other = turnId
  · rw [if_pos hsame, hsame, KeyedMap.get_set_self]
    rfl
  · rw [if_neg hsame, KeyedMap.get_set_of_ne]
    exact fun heq => hsame (providerTurnKey_inj heq)

theorem mem_remember_of_mem (h : other ∈ state.getAssistantMessageIdsForTurn threadId otherTurn) :
    other ∈ (state.rememberAssistantMessageId threadId turnId
      messageId).getAssistantMessageIdsForTurn threadId otherTurn := by
  rw [getAssistantMessageIdsForTurn_remember]
  split
  · rename_i hsame
    rw [hsame] at h
    exact mem_addId.mpr (Or.inr h)
  · exact h

theorem mem_forget_of_mem (hne : other ≠ messageId)
    (h : other ∈ state.getAssistantMessageIdsForTurn threadId otherTurn) :
    other ∈ (state.forgetAssistantMessageId threadId turnId
      messageId).getAssistantMessageIdsForTurn threadId otherTurn := by
  simp only [forgetAssistantMessageId]
  split
  · exact h
  · rename_i ids hids
    simp only [getAssistantMessageIdsForTurn] at h ⊢
    by_cases hsame : otherTurn = turnId
    · rw [hsame, hids, Option.getD_some] at h
      have hkept : other ∈ ids.filter (fun id => id ≠ messageId) :=
        List.mem_filter.mpr ⟨h, by simpa using hne⟩
      have hnonempty : (ids.filter (fun id => id ≠ messageId)).isEmpty = false := by
        rw [List.isEmpty_eq_false_iff]
        exact List.ne_nil_of_mem hkept
      rw [hnonempty, if_neg Bool.false_ne_true, hsame, KeyedMap.get_set_self]
      exact hkept
    · have hkey : providerTurnKey threadId otherTurn ≠ providerTurnKey threadId turnId :=
        fun heq => hsame (providerTurnKey_inj heq)
      split
      · rw [KeyedMap.get_delete_of_ne hkey]
        exact h
      · rw [KeyedMap.get_set_of_ne hkey]
        exact h

theorem getAssistantMessageIdsForTurn_clear_of_ne (hne : otherTurn ≠ turnId) :
    (state.clearAssistantMessageIdsForTurn threadId turnId).getAssistantMessageIdsForTurn threadId
      otherTurn = state.getAssistantMessageIdsForTurn threadId otherTurn := by
  simp only [getAssistantMessageIdsForTurn, clearAssistantMessageIdsForTurn]
  rw [KeyedMap.get_delete_of_ne (fun heq => hne (providerTurnKey_inj heq))]

theorem forget_frame : (state.forgetAssistantMessageId threadId turnId messageId).messages =
      state.messages ∧
    (state.forgetAssistantMessageId threadId turnId
      messageId).bufferedAssistantTextByMessageId = state.bufferedAssistantTextByMessageId := by
  simp only [forgetAssistantMessageId]
  split
  · exact ⟨rfl, rfl⟩
  · exact ⟨rfl, rfl⟩

theorem TextKept.forgetAssistantMessageId (h : TextKept threadId message text awaiting state)
    (hempty : message = messageId → state.bufferedText message = "") :
    TextKept threadId message text awaiting
      (state.forgetAssistantMessageId threadId turnId messageId) := by
  obtain ⟨hmessages, hbuffered⟩ :
      (state.forgetAssistantMessageId threadId turnId messageId).messages = state.messages ∧ _ :=
    forget_frame
  have hsame : (state.forgetAssistantMessageId threadId turnId
      messageId).bufferedText message = state.bufferedText message := by
    rw [bufferedText, hbuffered]
    rfl
  refine h.congr hmessages hsame ?_
  intro otherTurn hother hmem
  rw [hsame] at hother
  apply mem_forget_of_mem
  · intro heq
    exact hother (hempty heq)
  · exact hmem

theorem TextKept.rememberAssistantMessageId (h : TextKept threadId message text awaiting state) :
    TextKept threadId message text awaiting
      (state.rememberAssistantMessageId threadId turnId messageId) :=
  h.congr rfl rfl (fun _ _ hmem => mem_remember_of_mem hmem)

/-! ## A delta -/

theorem whole_deliverAssistantDelta
    (hstreamed : streaming = true → state.bufferedText messageId = "") :
    (state.deliverAssistantDelta streaming event messageId delta).projectedText messageId ++
        (state.deliverAssistantDelta streaming event messageId delta).bufferedText messageId =
      state.projectedText messageId ++ state.bufferedText messageId ++ delta := by
  simp only [deliverAssistantDelta]
  cases streaming with
  | true =>
    simp only [if_true]
    rw [projectedText_dispatchDelta, bufferedText_dispatchDelta, if_pos rfl, hstreamed rfl,
      String.append_empty, String.append_empty]
  | false =>
    simp only [Bool.false_eq_true, if_false, appendBufferedAssistantText]
    split
    -- the buffer holds the delta
    · simp only [String.length_empty, Nat.lt_irrefl, if_false]
      rw [bufferedText_set, if_pos rfl, String.append_assoc]
      rfl
    -- the buffer spills with the delta
    · simp only
      split
      · rw [projectedText_dispatchDelta, bufferedText_dispatchDelta, bufferedText_clear,
          if_pos rfl, if_pos rfl, String.append_empty, String.append_assoc]
        rfl
      · rename_i hlength
        have hempty : state.bufferedText messageId ++ delta = "" :=
          String.length_eq_zero_iff.mp (by omega)
        rw [bufferedText_clear, if_pos rfl, String.append_assoc, hempty]
        rfl

theorem textRow_deliverAssistantDelta (other : MessageId) :
    (state.deliverAssistantDelta streaming event messageId delta).textRow other =
        state.textRow other ∨
      messageId = other ∧
        ∀ row ∈ (state.deliverAssistantDelta streaming event messageId delta).textRow other,
          row.2 = event.threadId := by
  have hdispatched : ∀ (before : IngestionState) (written : String),
      before.messages = state.messages →
      (before.dispatchDelta ⟨event.threadId, messageId, written, event.turnId,
          event.createdAt⟩).textRow other = state.textRow other ∨
        messageId = other ∧ ∀ row ∈ (before.dispatchDelta ⟨event.threadId, messageId, written,
          event.turnId, event.createdAt⟩).textRow other, row.2 = event.threadId := by
    intro before written hmessages
    rw [textRow_dispatchDelta]
    split
    · rename_i hsame
      refine Or.inr ⟨hsame, ?_⟩
      intro row hrow
      cases hrow
      rfl
    · rw [textRow, textRow, hmessages]
      exact Or.inl rfl
  simp only [deliverAssistantDelta, appendBufferedAssistantText]
  split
  · exact hdispatched state delta rfl
  · split
    · exact Or.inl rfl
    · split
      · exact hdispatched _ _ rfl
      · exact Or.inl rfl

theorem bufferedText_deliverAssistantDelta_of_ne (hne : other ≠ messageId) :
    (state.deliverAssistantDelta streaming event messageId delta).bufferedText other =
      state.bufferedText other := by
  simp only [deliverAssistantDelta, appendBufferedAssistantText]
  split
  · rfl
  · split
    · exact (bufferedText_set _).trans (if_neg hne)
    · split
      · exact bufferedText_clear_of_ne hne
      · exact bufferedText_clear_of_ne hne

theorem turnMessageIds_deliverAssistantDelta :
    (state.deliverAssistantDelta streaming event messageId delta).turnMessageIdsByTurnKey =
      state.turnMessageIdsByTurnKey := by
  simp only [deliverAssistantDelta, appendBufferedAssistantText]
  split
  · rfl
  · split
    · rfl
    · split
      · rfl
      · rfl

/-- What a delta of a message needs: nothing is buffered where it is streamed, and the first one
finds no text. -/
structure Appends (message : MessageId) (text : String) (streaming : Bool)
    (state : IngestionState) : Prop where
  streamed : streaming = true → state.bufferedText message = ""
  first : text = "" → state.projectedText message = ""

theorem TextKept.deliverAssistantDelta (h : TextKept threadId message text awaiting state)
    (hthread : event.threadId = threadId) (hdelta : delta ≠ "")
    (happends : message = messageId → Appends message text streaming state)
    (hawaits : message = messageId → ∃ turnId, (message, some turnId) ∈ awaiting ∧
      message ∈ state.getAssistantMessageIdsForTurn threadId turnId) :
    TextKept threadId message (if messageId = message then text ++ delta else text) awaiting
      (state.deliverAssistantDelta streaming event messageId delta) := by
  have hids : ∀ turnId, (state.deliverAssistantDelta streaming event messageId
      delta).getAssistantMessageIdsForTurn threadId turnId =
      state.getAssistantMessageIdsForTurn threadId turnId := by
    intro turnId
    rw [getAssistantMessageIdsForTurn, turnMessageIds_deliverAssistantDelta]
    rfl
  have hrow : (state.deliverAssistantDelta streaming event messageId delta).textRow message =
      state.textRow message ∨ _ := textRow_deliverAssistantDelta message
  by_cases hsame : message = messageId
  · subst hsame
    obtain ⟨hstreamed, hfirst⟩ := happends rfl
    rw [if_pos rfl]
    constructor
    · intro _
      rw [whole_deliverAssistantDelta hstreamed]
      by_cases htext : text = ""
      · have hbuffer : state.bufferedText message = "" := by
          by_contra hbuffered
          exact h.bufferedRouted hbuffered htext
        rw [hfirst htext, hbuffer, htext, String.append_empty]
      · rw [h.whole htext]
    · intro _ hprojected row hmem
      rcases hrow with hunchanged | ⟨-, hthreadRow⟩
      · rw [projectedText_eq, hunchanged, ← projectedText_eq] at hprojected
        rw [hunchanged] at hmem
        exact h.ofThread (fun htext => hprojected (hfirst htext)) hprojected row hmem
      · rw [hthreadRow row hmem, hthread]
    · intro _
      exact append_ne_empty hdelta
    · intro _
      obtain ⟨turnId, hentry, hmem⟩ := hawaits rfl
      refine ⟨turnId, hentry, ?_⟩
      rw [hids]
      exact hmem
  · rw [if_neg (Ne.symm hsame)]
    have hunchanged := hrow.resolve_right (fun hother => hsame hother.1.symm)
    have hbuffered : (state.deliverAssistantDelta streaming event messageId delta).bufferedText
        message = state.bufferedText message := bufferedText_deliverAssistantDelta_of_ne hsame
    have hprojected : (state.deliverAssistantDelta streaming event messageId delta).projectedText
        message = state.projectedText message := by
      rw [projectedText_eq, hunchanged, ← projectedText_eq]
    constructor
    · rw [hprojected, hbuffered]
      exact h.whole
    · rw [hprojected, hunchanged]
      exact h.ofThread
    · rw [hbuffered]
      exact h.bufferedRouted
    · rw [hbuffered]
      intro hother
      obtain ⟨turnId, hentry, hmem⟩ := h.bufferedAwaits hother
      refine ⟨turnId, hentry, ?_⟩
      rw [hids]
      exact hmem

theorem TextKept.await (h : TextKept threadId message text awaiting state)
    {more : List (MessageId × Option TurnId)} (hmore : ∀ entry ∈ awaiting, entry ∈ more) :
    TextKept threadId message text more state where
  whole := h.whole
  ofThread := h.ofThread
  bufferedRouted := h.bufferedRouted
  bufferedAwaits hother := by
    obtain ⟨turnId, hentry, hmem⟩ := h.bufferedAwaits hother
    exact ⟨turnId, hmore _ hentry, hmem⟩

theorem assistantDelta_ne_empty (h : assistantDelta event = some delta) : delta ≠ "" := by
  unfold assistantDelta at h
  split at h
  · split at h
    · rename_i hlength
      cases h
      intro hempty
      rw [hempty] at hlength
      simp at hlength
    · cases h
  · cases h

theorem getOrCreateAssistantMessageId_messages :
    (state.getOrCreateAssistantMessageId threadId event).1.messages = state.messages ∧
      (state.getOrCreateAssistantMessageId threadId event).1.turnMessageIdsByTurnKey =
        state.turnMessageIdsByTurnKey := by
  unfold getOrCreateAssistantMessageId
  split
  · exact ⟨rfl, rfl⟩
  · split
    · exact ⟨rfl, rfl⟩
    · exact ⟨rfl, rfl⟩

theorem mem_remember_self :
    messageId ∈ (state.rememberAssistantMessageId threadId turnId
      messageId).getAssistantMessageIdsForTurn threadId turnId := by
  rw [getAssistantMessageIdsForTurn_remember, if_pos rfl]
  exact mem_addId.mpr (Or.inl rfl)

theorem TextKept.processAssistantDelta (h : TextKept threadId message text awaiting state)
    (hthread : event.threadId = threadId) (hdelta : assistantDelta event = some delta)
    (happends : message = (state.getOrCreateAssistantMessageId threadId event).2 →
      Appends message text streaming state)
    (hturn : message = (state.getOrCreateAssistantMessageId threadId event).2 →
      event.turnId ≠ none) :
    TextKept threadId message
      (if (state.getOrCreateAssistantMessageId threadId event).2 = message then text ++ delta
        else text)
      (awaiting ++ [((state.getOrCreateAssistantMessageId threadId event).2, event.turnId)])
      (state.processAssistantDelta streaming event) := by
  subst hthread
  obtain ⟨hmessages, hids⟩ :
      (state.getOrCreateAssistantMessageId event.threadId event).1.messages = state.messages ∧ _ :=
    getOrCreateAssistantMessageId_messages
  obtain ⟨-, hbuffered⟩ :
      (state.getOrCreateAssistantMessageId event.threadId event).1.dispatched =
        state.dispatched ∧ _ := getOrCreateAssistantMessageId_frame
  have hsame : (state.getOrCreateAssistantMessageId event.threadId event).1.bufferedText message =
      state.bufferedText message := by
    rw [bufferedText, hbuffered]
    rfl
  have hprojected : (state.getOrCreateAssistantMessageId event.threadId event).1.projectedText
      message = state.projectedText message := by
    rw [projectedText, hmessages]
    rfl
  have hrouted : TextKept event.threadId message text
      (awaiting ++ [((state.getOrCreateAssistantMessageId event.threadId event).2, event.turnId)])
      (state.getOrCreateAssistantMessageId event.threadId event).1 := by
    have hkept : TextKept event.threadId message text awaiting
        (state.getOrCreateAssistantMessageId event.threadId event).1 := by
      refine h.congr hmessages hsame ?_
      intro turnId _ hmem
      rw [getAssistantMessageIdsForTurn, hids]
      exact hmem
    exact hkept.await (fun entry hentry => List.mem_append_left _ hentry)
  simp only [IngestionState.processAssistantDelta, hdelta]
  cases hevent : event.turnId with
  | none =>
    rw [hevent] at hrouted
    apply hrouted.deliverAssistantDelta rfl (assistantDelta_ne_empty hdelta)
    · intro hmessage
      exact absurd hevent (hturn hmessage)
    · intro hmessage
      exact absurd hevent (hturn hmessage)
  | some turnId =>
    rw [hevent] at hrouted
    apply hrouted.rememberAssistantMessageId.deliverAssistantDelta rfl
      (assistantDelta_ne_empty hdelta)
    · intro hmessage
      obtain ⟨hstreamed, hfirst⟩ := happends hmessage
      constructor
      · intro hstreaming
        show (state.getOrCreateAssistantMessageId event.threadId event).1.bufferedText message = ""
        rw [hsame]
        exact hstreamed hstreaming
      · intro htext
        show (state.getOrCreateAssistantMessageId event.threadId event).1.projectedText message
          = ""
        rw [hprojected]
        exact hfirst htext
    · intro hmessage
      refine ⟨turnId, ?_, ?_⟩
      · rw [← hmessage]
        exact List.mem_append_right _ (by simp)
      · rw [← hmessage]
        exact mem_remember_self

theorem active_of_segments (h : next.assistantSegmentStateByTurnKey =
    state.assistantSegmentStateByTurnKey) :
    next.getActiveAssistantMessageIdForTurn threadId turnId =
      state.getActiveAssistantMessageIdForTurn threadId turnId := by
  rw [getActiveAssistantMessageIdForTurn, getAssistantSegmentStateForTurn, h]
  rfl

theorem TextKept.finalizeActiveAssistantSegmentForTurn
    (h : TextKept threadId message text awaiting state) (hthread : event.threadId = threadId)
    (htake : state.getActiveAssistantMessageIdForTurn threadId turnId = some message →
      Takeable (state.bufferedText message))
    (hasProjectedMessage : Bool) (flushedMessageIds : List MessageId) :
    TextKept threadId message text awaiting
      (state.finalizeActiveAssistantSegmentForTurn event turnId hasProjectedMessage
        flushedMessageIds) := by
  subst hthread
  simp only [IngestionState.finalizeActiveAssistantSegmentForTurn]
  split
  · exact h
  · rename_i activeMessageId hactive
    have hfinalized : TextKept event.threadId message text awaiting
        (state.finalizeAssistantMessage event activeMessageId none
          (hasProjectedMessage || decide (activeMessageId ∈ flushedMessageIds))) := by
      apply h.finalizeWithoutFallback rfl
      intro hsame
      rw [← hsame] at hactive
      exact htake hactive
    have hforgotten : TextKept event.threadId message text awaiting
        ((state.finalizeAssistantMessage event activeMessageId none
          (hasProjectedMessage || decide (activeMessageId ∈ flushedMessageIds)))
            |>.forgetAssistantMessageId event.threadId turnId activeMessageId) := by
      apply hfinalized.forgetAssistantMessageId
      intro hsame
      rw [bufferedText_finalize, if_pos hsame]
    split
    · exact hforgotten
    · exact hforgotten.congr rfl rfl (fun _ _ hmem => hmem)

def takenAtPause (streaming : Bool) (event : ProviderRuntimeEvent) (state : IngestionState) :
    List MessageId :=
  match pauseForUserTurnId event with
  | none => []
  | some turnId =>
    (if streaming then [] else state.getAssistantMessageIdsForTurn event.threadId turnId) ++
      (state.getActiveAssistantMessageIdForTurn event.threadId turnId).toList

theorem TextKept.processPause (h : TextKept threadId message text awaiting state)
    (hthread : event.threadId = threadId)
    (htake : message ∈ state.takenAtPause streaming event → Takeable (state.bufferedText message)) :
    TextKept threadId message text awaiting (state.processPause streaming event) := by
  subst hthread
  simp only [IngestionState.processPause]
  simp only [takenAtPause] at htake
  cases hpause : pauseForUserTurnId event with
  | none => exact h
  | some turnId =>
    simp only [hpause, List.mem_append, Option.mem_toList] at htake
    cases streaming with
    | true =>
      apply h.finalizeActiveAssistantSegmentForTurn rfl
      intro hactive
      exact htake (Or.inr hactive)
    | false =>
      have hflushed : TextKept event.threadId message text awaiting
          (IngestionState.flushMessages event turnId
            (state.getAssistantMessageIdsForTurn event.threadId turnId) state).1 := by
        apply h.flushMessages rfl
        intro hmem
        exact htake (Or.inl hmem)
      apply hflushed.finalizeActiveAssistantSegmentForTurn rfl
      intro hactive
      rw [active_of_segments (segments_of_outline (outline_flushMessages _))] at hactive
      have hbuffer : (IngestionState.flushMessages event turnId
          (state.getAssistantMessageIdsForTurn event.threadId turnId) state).1.bufferedText
            message = state.bufferedText message ∨ _ := bufferedText_flushMessages message
      rcases hbuffer with hsame | hempty
      · rw [hsame]
        exact htake (Or.inr hactive)
      · exact Or.inl hempty

theorem findMessageById_threadMessages {row : String × ThreadId}
    (hrow : state.textRow messageId = some row) (hthread : row.2 = threadId) :
    ∃ found, findMessageById (state.threadMessages threadId) messageId = some found ∧
      found.text = units row.1 := by
  obtain ⟨stored, hstored, hrowEq⟩ := Option.map_eq_some_iff.mp hrow
  obtain ⟨hmem, hkey⟩ := KeyedTable.lookup_eq_some_iff.mp hstored
  have hid : stored.messageId = messageId := Option.some.inj hkey
  have hstoredThread : stored.threadId = threadId := by
    rw [← hthread, ← hrowEq]
  have hlisted : mapMessageRow stored ∈ state.threadMessages threadId := by
    apply List.mem_map_of_mem
    rw [MessageTable.listByThreadId, listByThread, mem_toSorted, List.mem_filter]
    exact ⟨hmem, by simpa using hstoredThread⟩
  cases hfound : findMessageById (state.threadMessages threadId) messageId with
  | none =>
    have hnone := List.find?_eq_none.mp hfound (mapMessageRow stored) hlisted
    exact absurd (decide_eq_true hid) hnone
  | some found =>
    refine ⟨found, rfl, ?_⟩
    have hfoundId : found.id = messageId := by simpa using List.find?_some hfound
    obtain ⟨other, hother, rfl⟩ := List.mem_map.mp (List.mem_of_find?_eq_some hfound)
    rw [MessageTable.listByThreadId, listByThread, mem_toSorted, List.mem_filter] at hother
    have hsame : other = stored := state.messages.eq_of_key hother.1 hmem
      (congrArg some hfoundId) hkey
    rw [hsame, ← hrowEq]
    rfl

theorem completionFallback_of_text
    (hthread : ∀ row ∈ state.textRow (completionMessageId event state), row.2 = event.threadId)
    (htext : state.projectedText (completionMessageId event state) ≠ "") :
    completionFallback event detail state = none := by
  cases hrow : state.textRow (completionMessageId event state) with
  | none =>
    rw [projectedText_eq, hrow] at htext
    exact absurd rfl htext
  | some row =>
    rw [projectedText_eq, hrow] at htext
    obtain ⟨found, hfound, hfoundText⟩ :=
      findMessageById_threadMessages hrow (hthread row hrow)
    have hlength : found.text.length ≠ 0 := by
      rw [hfoundText]
      exact mt (fun h => units_eq_nil_iff.mp (List.length_eq_zero_iff.mp h)) htext
    rw [completionFallback, hfound, Option.all_some, if_neg]
    simpa using hlength

theorem TextKept.rememberCompletion (h : TextKept threadId message text awaiting state)
    (hthread : event.threadId = threadId) :
    TextKept threadId message text awaiting (state.rememberCompletion event messageId) := by
  subst hthread
  unfold IngestionState.rememberCompletion
  split
  · exact h
  · split
    · exact h.rememberAssistantMessageId
    · exact h

theorem TextKept.forgetCompletion (h : TextKept threadId message text awaiting state)
    (hthread : event.threadId = threadId)
    (hempty : message = messageId → state.bufferedText message = "") :
    TextKept threadId message text awaiting (state.forgetCompletion event messageId) := by
  subst hthread
  unfold IngestionState.forgetCompletion
  split
  · exact h
  · exact h.forgetAssistantMessageId hempty

theorem TextKept.completeAssistantMessage (h : TextKept threadId message text awaiting state)
    (hthread : event.threadId = threadId)
    (htake : message = completionMessageId event state → Takeable (state.bufferedText message)) :
    TextKept threadId message text awaiting (state.completeAssistantMessage event detail) := by
  have hbuffered : (state.rememberCompletion event
      (completionMessageId event state)).bufferedText message = state.bufferedText message := by
    rw [bufferedText, (rememberCompletion_frame _).2]
    rfl
  simp only [IngestionState.completeAssistantMessage]
  apply TextKept.forgetCompletion
  · apply (h.rememberCompletion hthread).finalizeAssistantMessage hthread
    · rw [hbuffered]
      exact htake
    · intro hsame hempty hrenders
      rw [hbuffered] at hempty
      by_contra htext
      have hprojected : state.projectedText message ≠ "" := by
        have hwhole := h.whole htext
        rw [hempty, String.append_empty] at hwhole
        rw [hwhole]
        exact htext
      have hrow := h.ofThread htext hprojected
      rw [← hthread, hsame] at hrow
      rw [hsame] at hprojected
      rw [completionFallback_of_text hrow hprojected, finalText_empty_of_none,
        hasRenderableAssistantText_empty] at hrenders
      cases hrenders
  · exact hthread
  · intro hsame
    rw [bufferedText_finalize, if_pos hsame]

def takenAtCompletion (event : ProviderRuntimeEvent) (state : IngestionState) : List MessageId :=
  match assistantCompletion event with
  | none => []
  | some detail =>
    if shouldSkipRedundantCompletion event detail state then []
    else [completionMessageId event state]

theorem TextKept.processAssistantCompletion (h : TextKept threadId message text awaiting state)
    (hthread : event.threadId = threadId)
    (htake : message ∈ state.takenAtCompletion event → Takeable (state.bufferedText message)) :
    TextKept threadId message text awaiting (state.processAssistantCompletion event) := by
  simp only [IngestionState.processAssistantCompletion]
  simp only [takenAtCompletion] at htake
  cases hcompletion : assistantCompletion event with
  | none => exact h
  | some detail =>
    simp only [hcompletion] at htake
    have hcompleted : TextKept threadId message text awaiting
        (if shouldSkipRedundantCompletion event detail state then state
          else state.completeAssistantMessage event detail) := by
      split
      · exact h
      · rename_i hskip
        rw [if_neg hskip, List.mem_singleton] at htake
        exact h.completeAssistantMessage hthread htake
    cases event.turnId with
    | none => exact hcompleted
    | some turnId => exact hcompleted.congr rfl rfl (fun _ _ hmem => hmem)

def takenAtTurnEnd (event : ProviderRuntimeEvent) (state : IngestionState) : List MessageId :=
  match completedTurnId event with
  | none => []
  | some turnId => state.getAssistantMessageIdsForTurn event.threadId turnId

/-- The messages of deltas whose turn the event does not complete are still awaited. -/
def awaitedAfter (event : ProviderRuntimeEvent) (awaiting : List (MessageId × Option TurnId)) :
    List (MessageId × Option TurnId) :=
  awaiting.filter (fun entry =>
    (completedTurnId event).all (fun turnId => decide (entry.2 ≠ some turnId)))

theorem turnMessageIds_finalizeMessages (messages : List OrchestrationMessage)
    (ids : List MessageId) :
    (IngestionState.finalizeMessages event messages ids state).turnMessageIdsByTurnKey =
      state.turnMessageIdsByTurnKey := by
  induction ids generalizing state with
  | nil => rfl
  | cons messageId rest ih =>
    simp only [IngestionState.finalizeMessages]
    rw [ih]
    simp only [IngestionState.finalizeAssistantMessage, dispatchRenderable]
    split
    · split
      · rfl
      · rfl
    · split
      · rfl
      · rfl

theorem TextKept.processTurnCompleted (h : TextKept threadId message text awaiting state)
    (hthread : event.threadId = threadId)
    (htake : message ∈ state.takenAtTurnEnd event → Takeable (state.bufferedText message)) :
    TextKept threadId message text (awaitedAfter event awaiting)
      (state.processTurnCompleted event) := by
  subst hthread
  simp only [IngestionState.processTurnCompleted, awaitedAfter]
  simp only [takenAtTurnEnd] at htake
  cases hcompleted : completedTurnId event with
  | none => simpa using h
  | some turnId =>
    simp only [hcompleted] at htake
    have hfinalized := h.finalizeMessages rfl (state.threadMessages event.threadId) htake
    constructor
    · exact hfinalized.whole
    · exact hfinalized.ofThread
    · exact hfinalized.bufferedRouted
    · intro hother
      have hleft : (IngestionState.finalizeMessages event (state.threadMessages event.threadId)
          (state.getAssistantMessageIdsForTurn event.threadId turnId) state).bufferedText
            message ≠ "" := hother
      have hnot : message ∉ state.getAssistantMessageIdsForTurn event.threadId turnId := by
        intro hmem
        rw [bufferedText_finalizeMessages, if_pos hmem] at hleft
        exact hleft rfl
      obtain ⟨otherTurn, hentry, hmem⟩ := hfinalized.bufferedAwaits hleft
      have hids : (IngestionState.finalizeMessages event (state.threadMessages event.threadId)
          (state.getAssistantMessageIdsForTurn event.threadId turnId)
            state).getAssistantMessageIdsForTurn event.threadId otherTurn =
          state.getAssistantMessageIdsForTurn event.threadId otherTurn := by
        rw [getAssistantMessageIdsForTurn, turnMessageIds_finalizeMessages]
        rfl
      have hne : otherTurn ≠ turnId := by
        intro heq
        rw [hids, heq] at hmem
        exact hnot hmem
      refine ⟨otherTurn, ?_, ?_⟩
      · rw [List.mem_filter]
        exact ⟨hentry, by simpa using hne⟩
      · show message ∈ ((IngestionState.finalizeMessages event
            (state.threadMessages event.threadId)
            (state.getAssistantMessageIdsForTurn event.threadId turnId)
              state).clearAssistantMessageIdsForTurn event.threadId
                turnId).getAssistantMessageIdsForTurn event.threadId otherTurn
        rw [getAssistantMessageIdsForTurn_clear_of_ne hne]
        exact hmem

end Kept

end IngestionState

end GT3Code.Orchestration
