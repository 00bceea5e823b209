import GT3Code.Base.KeyedMap
import GT3Code.Contracts.ProviderRuntime
import GT3Code.Orchestration.Decider
import GT3Code.Orchestration.ProjectionSnapshotQuery
import GT3Code.Orchestration.LiveProjection
import Mathlib.Algebra.GroupWithZero.Nat

/-! # Provider runtime ingestion

How the server turns the runtime events of a provider into the session and the assistant
messages of a thread: a guard on the turn lifecycle, segments of assistant text under
message ids, a buffer of text per message, and the commands dispatched for them.
-/

namespace GT3Code.Orchestration

open GT3Code.Base GT3Code.Contracts GT3Code.Persistence
open GT3Code.Gc (trim isWhitespace)

def MAX_BUFFERED_ASSISTANT_CHARS : Nat := 24000

def providerTurnKey (threadId : ThreadId) (turnId : TurnId) : String :=
  threadId ++ ":" ++ turnId

/-- `text.length`, in UTF-16 code units. -/
def utf16Length (text : String) : Nat :=
  (text.toList.map (fun c => if c.toNat < 0x10000 then 1 else 2)).sum

def hasRenderableAssistantText (text : String) : Bool := decide (0 < (trim text).length)

theorem hasRenderableAssistantText_empty : hasRenderableAssistantText "" = false := by
  simp [hasRenderableAssistantText, trim, Gc.dropTrailing]

def hasAssistantMessageForTurn (messages : List OrchestrationMessage) (turnId : TurnId)
    (streamingOnly : Bool) : Bool :=
  messages.any (fun message =>
    message.role = .assistant ∧ message.turnId = some turnId ∧
      (streamingOnly = true → message.streaming = true))

def findMessageById (messages : List OrchestrationMessage) (messageId : MessageId) :
    Option OrchestrationMessage :=
  messages.find? (fun message => message.id = messageId)

/-- `event.itemId ?? event.turnId ?? event.eventId`. -/
def assistantSegmentBaseKeyFromEvent (event : ProviderRuntimeEvent) : String :=
  (event.itemId.orElse (fun _ => event.turnId)).getD event.eventId

def assistantSegmentMessageId (baseKey : String) (segmentIndex : Nat) : MessageId :=
  if segmentIndex = 0 then "assistant:" ++ baseKey
  else "assistant:" ++ baseKey ++ ":segment:" ++ toString segmentIndex

structure AssistantSegmentState where
  baseKey : String
  nextSegmentIndex : Nat
  activeMessageId : Option MessageId

/-- The three caches, the session and the message rows the thread is read back from, and the
commands dispatched so far. -/
structure IngestionState where
  turnMessageIdsByTurnKey : KeyedMap String (List MessageId)
  bufferedAssistantTextByMessageId : KeyedMap MessageId String
  assistantSegmentStateByTurnKey : KeyedMap String AssistantSegmentState
  session : Option OrchestrationSession
  messages : MessageTable
  dispatched : List CommandBody

namespace IngestionState

def start (session : Option OrchestrationSession) (messages : MessageTable) : IngestionState where
  turnMessageIdsByTurnKey := .empty _
  bufferedAssistantTextByMessageId := .empty _
  assistantSegmentStateByTurnKey := .empty _
  session := session
  messages := messages
  dispatched := []

def deltaPayload (c : ThreadMessageAssistantDeltaCommand) : ThreadMessageSentPayload where
  threadId := c.threadId
  messageId := c.messageId
  role := .assistant
  text := c.delta
  attachments := none
  turnId := c.turnId
  streaming := true
  createdAt := c.createdAt
  updatedAt := c.createdAt

def completePayload (c : ThreadMessageAssistantCompleteCommand) : ThreadMessageSentPayload where
  threadId := c.threadId
  messageId := c.messageId
  role := .assistant
  text := []
  attachments := none
  turnId := c.turnId
  streaming := false
  createdAt := c.createdAt
  updatedAt := c.createdAt

def projectMessage (messages : MessageTable) (payload : ThreadMessageSentPayload) : MessageTable :=
  MessageTable.upsert messages (messageRow payload (KeyedTable.lookup payload.messageId messages))

def dispatchSessionSet (state : IngestionState) (c : ThreadSessionSetCommand) : IngestionState :=
  { state with
    session := some c.session
    dispatched := state.dispatched ++ [.threadSessionSet c] }

def dispatchDelta (state : IngestionState) (c : ThreadMessageAssistantDeltaCommand) :
    IngestionState :=
  { state with
    messages := projectMessage state.messages (deltaPayload c)
    dispatched := state.dispatched ++ [.threadMessageAssistantDelta c] }

def dispatchComplete (state : IngestionState) (c : ThreadMessageAssistantCompleteCommand) :
    IngestionState :=
  { state with
    messages := projectMessage state.messages (completePayload c)
    dispatched := state.dispatched ++ [.threadMessageAssistantComplete c] }

/-! ## Caches -/

/-- `nextIds.add(messageId)`. -/
def addId (messageId : MessageId) (ids : List MessageId) : List MessageId :=
  if messageId ∈ ids then ids else ids ++ [messageId]

def rememberAssistantMessageId (state : IngestionState) (threadId : ThreadId) (turnId : TurnId)
    (messageId : MessageId) : IngestionState :=
  let key := providerTurnKey threadId turnId
  { state with
    turnMessageIdsByTurnKey := KeyedMap.set key
      (addId messageId ((KeyedMap.get key state.turnMessageIdsByTurnKey).getD []))
      state.turnMessageIdsByTurnKey }

/-- The ids of a turn without `messageId`, dropped where none is left. -/
def forgetAssistantMessageId (state : IngestionState) (threadId : ThreadId) (turnId : TurnId)
    (messageId : MessageId) : IngestionState :=
  let key := providerTurnKey threadId turnId
  match KeyedMap.get key state.turnMessageIdsByTurnKey with
  | none => state
  | some ids =>
    let nextIds := ids.filter (fun id => id ≠ messageId)
    { state with
      turnMessageIdsByTurnKey :=
        if nextIds.isEmpty then KeyedMap.delete key state.turnMessageIdsByTurnKey
        else KeyedMap.set key nextIds state.turnMessageIdsByTurnKey }

def getAssistantMessageIdsForTurn (state : IngestionState) (threadId : ThreadId)
    (turnId : TurnId) : List MessageId :=
  (KeyedMap.get (providerTurnKey threadId turnId) state.turnMessageIdsByTurnKey).getD []

def clearAssistantMessageIdsForTurn (state : IngestionState) (threadId : ThreadId)
    (turnId : TurnId) : IngestionState :=
  { state with
    turnMessageIdsByTurnKey :=
      KeyedMap.delete (providerTurnKey threadId turnId) state.turnMessageIdsByTurnKey }

def getAssistantSegmentStateForTurn (state : IngestionState) (threadId : ThreadId)
    (turnId : TurnId) : Option AssistantSegmentState :=
  KeyedMap.get (providerTurnKey threadId turnId) state.assistantSegmentStateByTurnKey

def setAssistantSegmentStateForTurn (state : IngestionState) (threadId : ThreadId)
    (turnId : TurnId) (segment : AssistantSegmentState) : IngestionState :=
  { state with
    assistantSegmentStateByTurnKey :=
      KeyedMap.set (providerTurnKey threadId turnId) segment
        state.assistantSegmentStateByTurnKey }

def clearAssistantSegmentStateForTurn (state : IngestionState) (threadId : ThreadId)
    (turnId : TurnId) : IngestionState :=
  { state with
    assistantSegmentStateByTurnKey :=
      KeyedMap.delete (providerTurnKey threadId turnId) state.assistantSegmentStateByTurnKey }

def getActiveAssistantMessageIdForTurn (state : IngestionState) (threadId : ThreadId)
    (turnId : TurnId) : Option MessageId :=
  (state.getAssistantSegmentStateForTurn threadId turnId).bind
    AssistantSegmentState.activeMessageId

def nextSegmentMessageId (existing : Option AssistantSegmentState) (baseKey : String) : MessageId :=
  match existing with
  | none => assistantSegmentMessageId baseKey 0
  | some segment =>
    assistantSegmentMessageId baseKey
      (if segment.baseKey = baseKey then segment.nextSegmentIndex else 0)

def startAssistantSegmentForTurn (state : IngestionState) (threadId : ThreadId) (turnId : TurnId)
    (baseKey : String) : IngestionState × MessageId :=
  let existing := state.getAssistantSegmentStateForTurn threadId turnId
  let messageId := nextSegmentMessageId existing baseKey
  (state.setAssistantSegmentStateForTurn threadId turnId {
    baseKey := baseKey
    nextSegmentIndex :=
      match existing with
      | none => 1
      | some segment => if segment.baseKey = baseKey then segment.nextSegmentIndex + 1 else 1
    activeMessageId := some messageId }, messageId)

def getOrCreateAssistantMessageId (state : IngestionState) (threadId : ThreadId)
    (event : ProviderRuntimeEvent) : IngestionState × MessageId :=
  match event.turnId with
  | none => (state, assistantSegmentMessageId (assistantSegmentBaseKeyFromEvent event) 0)
  | some turnId =>
    match state.getActiveAssistantMessageIdForTurn threadId turnId with
    | some activeMessageId => (state, activeMessageId)
    | none =>
      state.startAssistantSegmentForTurn threadId turnId
        (assistantSegmentBaseKeyFromEvent event)

/-- `Cache.getOption` of a message's buffer, empty where there is none. -/
def bufferedText (state : IngestionState) (messageId : MessageId) : String :=
  (KeyedMap.get messageId state.bufferedAssistantTextByMessageId).getD ""

def setBufferedText (state : IngestionState) (messageId : MessageId) (text : String) :
    IngestionState :=
  { state with
    bufferedAssistantTextByMessageId :=
      KeyedMap.set messageId text state.bufferedAssistantTextByMessageId }

def clearBufferedAssistantText (state : IngestionState) (messageId : MessageId) :
    IngestionState :=
  { state with
    bufferedAssistantTextByMessageId :=
      KeyedMap.delete messageId state.bufferedAssistantTextByMessageId }

/-- The text that no longer fits the buffer is returned, and the buffer emptied. -/
def appendBufferedAssistantText (state : IngestionState) (messageId : MessageId)
    (delta : String) : IngestionState × String :=
  let nextText := state.bufferedText messageId ++ delta
  if utf16Length nextText ≤ MAX_BUFFERED_ASSISTANT_CHARS then
    (state.setBufferedText messageId nextText, "")
  else (state.clearBufferedAssistantText messageId, nextText)

/-- Take the buffer of a message and dispatch it where it renders; whether it did. -/
def flushBufferedAssistantMessage (state : IngestionState) (event : ProviderRuntimeEvent)
    (turnId : TurnId) (messageId : MessageId) : IngestionState × Bool :=
  let text := state.bufferedText messageId
  let taken := state.clearBufferedAssistantText messageId
  if hasRenderableAssistantText text then
    (taken.dispatchDelta {
      threadId := event.threadId
      messageId := messageId
      delta := text
      turnId := some turnId
      createdAt := event.createdAt }, true)
  else (taken, false)

/-- Flush the messages one after another; the ids of those that were dispatched. -/
def flushMessages (event : ProviderRuntimeEvent) (turnId : TurnId) :
    List MessageId → IngestionState → IngestionState × List MessageId
  | [], state => (state, [])
  | messageId :: rest, state =>
    let flushed := state.flushBufferedAssistantMessage event turnId messageId
    let later := flushMessages event turnId rest flushed.1
    (later.1, if flushed.2 then messageId :: later.2 else later.2)

def flushBufferedAssistantMessagesForTurn (state : IngestionState) (event : ProviderRuntimeEvent)
    (turnId : TurnId) : IngestionState × List MessageId :=
  flushMessages event turnId (state.getAssistantMessageIdsForTurn event.threadId turnId) state

/-- The text a completed message still gets: its buffer, else the fallback. -/
def finalText (buffered : String) (fallbackText : Option String) : String :=
  if 0 < buffered.length then buffered
  else (fallbackText.filter (fun text => 0 < (trim text).length)).getD ""

def dispatchRenderable (state : IngestionState) (event : ProviderRuntimeEvent)
    (messageId : MessageId) (text : String) : IngestionState :=
  if hasRenderableAssistantText text then
    state.dispatchDelta {
      threadId := event.threadId
      messageId := messageId
      delta := text
      turnId := event.turnId
      createdAt := event.createdAt }
  else state

def finalizeAssistantMessage (state : IngestionState) (event : ProviderRuntimeEvent)
    (messageId : MessageId) (fallbackText : Option String) (hasProjectedMessage : Bool) :
    IngestionState :=
  let text := finalText (state.bufferedText messageId) fallbackText
  let written :=
    (state.clearBufferedAssistantText messageId).dispatchRenderable event messageId text
  let completed :=
    if hasProjectedMessage || hasRenderableAssistantText text then
      written.dispatchComplete {
        threadId := event.threadId
        messageId := messageId
        turnId := event.turnId
        createdAt := event.createdAt }
    else written
  completed.clearBufferedAssistantText messageId

def finalizeActiveAssistantSegmentForTurn (state : IngestionState) (event : ProviderRuntimeEvent)
    (turnId : TurnId) (hasProjectedMessage : Bool) (flushedMessageIds : List MessageId) :
    IngestionState :=
  match state.getActiveAssistantMessageIdForTurn event.threadId turnId with
  | none => state
  | some activeMessageId =>
    let finalized := state.finalizeAssistantMessage event activeMessageId none
      (hasProjectedMessage || decide (activeMessageId ∈ flushedMessageIds))
    let forgotten := finalized.forgetAssistantMessageId event.threadId turnId activeMessageId
    match forgotten.getAssistantSegmentStateForTurn event.threadId turnId with
    | none => forgotten
    | some segment =>
      forgotten.setAssistantSegmentStateForTurn event.threadId turnId
        { segment with activeMessageId := none }

/-- Drop the caches of a thread, with the buffers of the messages they name. -/
def clearTurnStateForSession (state : IngestionState) (threadId : ThreadId) : IngestionState :=
  let ofThread : String → Bool := fun key => Gc.startsWith key (threadId ++ ":")
  let cleared := (state.turnMessageIdsByTurnKey.rows.filter (fun entry => ofThread entry.1)).flatMap
    Prod.snd
  { state with
    turnMessageIdsByTurnKey :=
      state.turnMessageIdsByTurnKey.restrict (fun entry => !ofThread entry.1)
    bufferedAssistantTextByMessageId :=
      state.bufferedAssistantTextByMessageId.restrict (fun entry => !decide (entry.1 ∈ cleared))
    assistantSegmentStateByTurnKey :=
      state.assistantSegmentStateByTurnKey.restrict (fun entry => !ofThread entry.1) }

end IngestionState

def orchestrationSessionStatusFromRuntimeState : RuntimeSessionState → OrchestrationSessionStatus
  | .starting => .starting
  | .running | .waiting => .running
  | .ready => .ready
  | .stopped => .stopped
  | .error => .error

def conflictsWithActiveTurn (activeTurnId eventTurnId : Option TurnId) : Bool :=
  activeTurnId.any (fun active => eventTurnId.any (fun turnId => active ≠ turnId))

def missingTurnForActiveTurn (activeTurnId eventTurnId : Option TurnId) : Bool :=
  activeTurnId.isSome && eventTurnId.isNone

/-- `strict` is `STRICT_PROVIDER_LIFECYCLE_GUARD`. -/
def shouldApplyThreadLifecycle (strict : Bool) (activeTurnId : Option TurnId)
    (event : ProviderRuntimeEvent) : Bool :=
  !strict ||
    match event.payload with
    | .turnStarted => !conflictsWithActiveTurn activeTurnId event.turnId
    | .turnCompleted _ _ =>
      !(conflictsWithActiveTurn activeTurnId event.turnId ||
        missingTurnForActiveTurn activeTurnId event.turnId)
    | _ => true

def nextActiveTurnId (activeTurnId : Option TurnId) (event : ProviderRuntimeEvent) :
    Option TurnId :=
  match event.payload with
  | .turnStarted => event.turnId
  | .turnCompleted _ _ | .sessionExited => none
  | _ => activeTurnId

def lifecycleStatus (activeTurnId : Option TurnId) (event : ProviderRuntimeEvent) :
    Option OrchestrationSessionStatus :=
  match event.payload with
  | .sessionStateChanged state _ => some (orchestrationSessionStatusFromRuntimeState state)
  | .turnStarted => some .running
  | .sessionExited => some .stopped
  | .turnCompleted state _ => some (if state = .failed then .error else .ready)
  | .sessionStarted | .threadStarted => some (if activeTurnId.isSome then .running else .ready)
  | _ => none

def lifecycleLastError (session : Option OrchestrationSession)
    (status : OrchestrationSessionStatus) (event : ProviderRuntimeEvent) : Option String :=
  let lastError := session.bind OrchestrationSession.lastError
  match event.payload with
  | .sessionStateChanged .error reason =>
    some ((reason.orElse (fun _ => lastError)).getD "Provider session error")
  | .turnCompleted .failed errorMessage =>
    some ((errorMessage.orElse (fun _ => lastError)).getD "Turn failed")
  | _ => if status = .ready then none else lastError

def sessionOfEvent (session : Option OrchestrationSession) (event : ProviderRuntimeEvent)
    (status : OrchestrationSessionStatus) (activeTurnId : Option TurnId)
    (lastError : Option String) : OrchestrationSession where
  threadId := event.threadId
  status := status
  providerName := some event.provider
  providerInstanceId := event.providerInstanceId
  runtimeMode := (session.map OrchestrationSession.runtimeMode).getD .fullAccess
  activeTurnId := activeTurnId
  lastError := lastError
  updatedAt := event.createdAt

def activeTurnIdOf (session : Option OrchestrationSession) : Option TurnId :=
  session.bind OrchestrationSession.activeTurnId

namespace IngestionState

def processLifecycle (strict : Bool) (event : ProviderRuntimeEvent) (state : IngestionState) :
    IngestionState :=
  let activeTurnId := activeTurnIdOf state.session
  match lifecycleStatus activeTurnId event with
  | none => state
  | some status =>
    if shouldApplyThreadLifecycle strict activeTurnId event then
      state.dispatchSessionSet {
        threadId := event.threadId
        session := sessionOfEvent state.session event status
          (nextActiveTurnId activeTurnId event)
          (lifecycleLastError state.session status event)
        createdAt := event.createdAt }
    else state

def shouldApplyRuntimeError (strict : Bool) (activeTurnId eventTurnId : Option TurnId) : Bool :=
  !strict || activeTurnId.isNone || eventTurnId.isNone || decide (activeTurnId = eventTurnId)

def processRuntimeError (strict : Bool) (event : ProviderRuntimeEvent) (state : IngestionState) :
    IngestionState :=
  match event.payload with
  | .runtimeError message =>
    if shouldApplyRuntimeError strict (activeTurnIdOf state.session) event.turnId then
      state.dispatchSessionSet {
        threadId := event.threadId
        session := sessionOfEvent state.session event .error event.turnId (some message)
        createdAt := event.createdAt }
    else state
  | _ => state

/-! ## Assistant text -/

/-- `streaming` is `enableAssistantStreaming` at the event. -/
def deliverAssistantDelta (streaming : Bool) (event : ProviderRuntimeEvent)
    (messageId : MessageId) (delta : String) (state : IngestionState) : IngestionState :=
  let command : String → ThreadMessageAssistantDeltaCommand := fun text => {
    threadId := event.threadId
    messageId := messageId
    delta := text
    turnId := event.turnId
    createdAt := event.createdAt }
  if streaming then state.dispatchDelta (command delta)
  else
    let appended := state.appendBufferedAssistantText messageId delta
    if 0 < appended.2.length then appended.1.dispatchDelta (command appended.2) else appended.1

def assistantDelta (event : ProviderRuntimeEvent) : Option String :=
  match event.payload with
  | .contentDelta .assistantText delta => if 0 < delta.length then some delta else none
  | _ => none

def processAssistantDelta (streaming : Bool) (event : ProviderRuntimeEvent)
    (state : IngestionState) : IngestionState :=
  match assistantDelta event with
  | none => state
  | some delta =>
    let routed := state.getOrCreateAssistantMessageId event.threadId event
    let remembered :=
      match event.turnId with
      | none => routed.1
      | some turnId => routed.1.rememberAssistantMessageId event.threadId turnId routed.2
    remembered.deliverAssistantDelta streaming event routed.2 delta

def threadMessages (state : IngestionState) (threadId : ThreadId) : List OrchestrationMessage :=
  (MessageTable.listByThreadId state.messages threadId).map mapMessageRow

def pauseForUserTurnId (event : ProviderRuntimeEvent) : Option TurnId :=
  match event.payload with
  | .requestOpened | .userInputRequested => event.turnId
  | _ => none

def processPause (streaming : Bool) (event : ProviderRuntimeEvent) (state : IngestionState) :
    IngestionState :=
  match pauseForUserTurnId event with
  | none => state
  | some turnId =>
    let hasProjectedMessage :=
      hasAssistantMessageForTurn (state.threadMessages event.threadId) turnId true
    let flushed :=
      if streaming then (state, [])
      else state.flushBufferedAssistantMessagesForTurn event turnId
    flushed.1.finalizeActiveAssistantSegmentForTurn event turnId hasProjectedMessage flushed.2

def assistantCompletion (event : ProviderRuntimeEvent) : Option (Option String) :=
  match event.payload with
  | .itemCompleted .assistantMessage detail => some detail
  | _ => none

/-- The message a completion is for: the active segment of its turn, else the message of its
item. -/
def completionMessageId (event : ProviderRuntimeEvent) (state : IngestionState) : MessageId :=
  ((event.turnId.bind (state.getActiveAssistantMessageIdForTurn event.threadId)).getD
    ("assistant:" ++ assistantSegmentBaseKeyFromEvent event))

/-- A completion without text of a turn that has messages and no active segment. -/
def shouldSkipRedundantCompletion (event : ProviderRuntimeEvent) (detail : Option String)
    (state : IngestionState) : Bool :=
  event.turnId.any (fun turnId =>
    (state.getActiveAssistantMessageIdForTurn event.threadId turnId).isNone &&
      hasAssistantMessageForTurn (state.threadMessages event.threadId) turnId false &&
      detail.all (fun text => (trim text).length = 0))

def completionFallback (event : ProviderRuntimeEvent) (detail : Option String)
    (state : IngestionState) : Option String :=
  if (findMessageById (state.threadMessages event.threadId)
      (completionMessageId event state)).all (fun message => message.text.length = 0) then detail
  else none

/-- The message of a completion outside a segment is one of its turn's. -/
def rememberCompletion (event : ProviderRuntimeEvent) (messageId : MessageId)
    (state : IngestionState) : IngestionState :=
  match event.turnId with
  | none => state
  | some turnId =>
    if (state.getActiveAssistantMessageIdForTurn event.threadId turnId).isNone then
      state.rememberAssistantMessageId event.threadId turnId messageId
    else state

def forgetCompletion (event : ProviderRuntimeEvent) (messageId : MessageId)
    (state : IngestionState) : IngestionState :=
  match event.turnId with
  | none => state
  | some turnId => state.forgetAssistantMessageId event.threadId turnId messageId

def completeAssistantMessage (event : ProviderRuntimeEvent) (detail : Option String)
    (state : IngestionState) : IngestionState :=
  let messageId := completionMessageId event state
  let existing := findMessageById (state.threadMessages event.threadId) messageId
  let fallbackText := completionFallback event detail state
  ((state.rememberCompletion event messageId).finalizeAssistantMessage event messageId fallbackText
    existing.isSome).forgetCompletion event messageId

def processAssistantCompletion (event : ProviderRuntimeEvent) (state : IngestionState) :
    IngestionState :=
  match assistantCompletion event with
  | none => state
  | some detail =>
    let completed :=
      if shouldSkipRedundantCompletion event detail state then state
      else completeAssistantMessage event detail state
    match event.turnId with
    | none => completed
    | some turnId => completed.clearAssistantSegmentStateForTurn event.threadId turnId

/-- Finalize the messages one after another; `messages` were read before. -/
def finalizeMessages (event : ProviderRuntimeEvent) (messages : List OrchestrationMessage) :
    List MessageId → IngestionState → IngestionState
  | [], state => state
  | messageId :: rest, state =>
    finalizeMessages event messages rest
      (state.finalizeAssistantMessage event messageId none
        (findMessageById messages messageId).isSome)

def completedTurnId (event : ProviderRuntimeEvent) : Option TurnId :=
  match event.payload with
  | .turnCompleted _ _ => event.turnId
  | _ => none

def processTurnCompleted (event : ProviderRuntimeEvent) (state : IngestionState) :
    IngestionState :=
  match completedTurnId event with
  | none => state
  | some turnId =>
    let finalized := finalizeMessages event (state.threadMessages event.threadId)
      (state.getAssistantMessageIdsForTurn event.threadId turnId) state
    (finalized.clearAssistantMessageIdsForTurn event.threadId turnId)
      |>.clearAssistantSegmentStateForTurn event.threadId turnId

def processSessionExited (event : ProviderRuntimeEvent) (state : IngestionState) :
    IngestionState :=
  match event.payload with
  | .sessionExited => state.clearTurnStateForSession event.threadId
  | _ => state

/-- The parts of `processRuntimeEvent` in the source's order. -/
def processRuntimeEvent (strict streaming : Bool) (event : ProviderRuntimeEvent)
    (state : IngestionState) : IngestionState :=
  (state.processLifecycle strict event)
    |>.processAssistantDelta streaming event
    |>.processPause streaming event
    |>.processAssistantCompletion event
    |>.processTurnCompleted event
    |>.processSessionExited event
    |>.processRuntimeError strict event

section OnePart

variable {strict streaming : Bool} {event : ProviderRuntimeEvent} {state : IngestionState}

theorem processRuntimeEvent_contentDelta {streamKind : RuntimeContentStreamKind} {delta : String}
    (hpayload : event.payload = .contentDelta streamKind delta) :
    state.processRuntimeEvent strict streaming event =
      state.processAssistantDelta streaming event := by
  simp only [processRuntimeEvent, processLifecycle, lifecycleStatus, processPause,
    pauseForUserTurnId, processAssistantCompletion, assistantCompletion, processTurnCompleted,
    completedTurnId, processSessionExited, processRuntimeError, hpayload]

theorem processRuntimeEvent_pause
    (hpayload : event.payload = .requestOpened ∨ event.payload = .userInputRequested) :
    state.processRuntimeEvent strict streaming event = state.processPause streaming event := by
  rcases hpayload with hpayload | hpayload
  all_goals
    simp only [processRuntimeEvent, processLifecycle, lifecycleStatus, processAssistantDelta,
      assistantDelta, processAssistantCompletion, assistantCompletion, processTurnCompleted,
      completedTurnId, processSessionExited, processRuntimeError, hpayload]

theorem processRuntimeEvent_itemCompleted {itemType : CanonicalItemType} {detail : Option String}
    (hpayload : event.payload = .itemCompleted itemType detail) :
    state.processRuntimeEvent strict streaming event = state.processAssistantCompletion event := by
  simp only [processRuntimeEvent, processLifecycle, lifecycleStatus, processAssistantDelta,
    assistantDelta, processPause, pauseForUserTurnId, processTurnCompleted, completedTurnId,
    processSessionExited, processRuntimeError, hpayload]

theorem processRuntimeEvent_turnCompleted {turnState : RuntimeTurnState}
    {errorMessage : Option String}
    (hpayload : event.payload = .turnCompleted turnState errorMessage) :
    state.processRuntimeEvent strict streaming event =
      (state.processLifecycle strict event).processTurnCompleted event := by
  simp only [processRuntimeEvent, processAssistantDelta, assistantDelta, processPause,
    pauseForUserTurnId, processAssistantCompletion, assistantCompletion, processSessionExited,
    processRuntimeError, hpayload]

theorem processRuntimeEvent_sessionExited (hpayload : event.payload = .sessionExited) :
    state.processRuntimeEvent strict streaming event =
      (state.processLifecycle strict event).clearTurnStateForSession event.threadId := by
  simp only [processRuntimeEvent, processAssistantDelta, assistantDelta, processPause,
    pauseForUserTurnId, processAssistantCompletion, assistantCompletion, processTurnCompleted,
    completedTurnId, processSessionExited, processRuntimeError, hpayload]

def KeepsMessages (event : ProviderRuntimeEvent) : Prop :=
  assistantDelta event = none ∧ pauseForUserTurnId event = none ∧
    assistantCompletion event = none ∧ completedTurnId event = none ∧
    event.payload ≠ .sessionExited

theorem processRuntimeEvent_keepsMessages (h : KeepsMessages event) :
    state.processRuntimeEvent strict streaming event =
      (state.processLifecycle strict event).processRuntimeError strict event := by
  obtain ⟨hdelta, hpause, hcompletion, hcompleted, hexited⟩ := h
  have hexit : ∀ lifecycle : IngestionState,
      lifecycle.processSessionExited event = lifecycle := by
    intro lifecycle
    unfold processSessionExited
    split
    · rename_i hpayload
      exact absurd hpayload hexited
    · rfl
  simp only [processRuntimeEvent, processAssistantDelta, hdelta, processPause, hpause,
    processAssistantCompletion, hcompletion, processTurnCompleted, hcompleted, hexit]

end OnePart

/-- The event payload the decider plans for a command of this worker. -/
def plannedPayload : CommandBody → Option EventPayload
  | .threadSessionSet c => some (.threadSessionSet ⟨c.threadId, c.session⟩)
  | .threadMessageAssistantDelta c => some (.threadMessageSent (deltaPayload c))
  | .threadMessageAssistantComplete c => some (.threadMessageSent (completePayload c))
  | _ => none

end IngestionState

end GT3Code.Orchestration
