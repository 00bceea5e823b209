import GT3Code.Gc.FolderMetadata
import GT3Code.Web.Store

/-! # Events of a thread in the web store

The updaters the store runs for a message, a session, a turn diff and a revert of one
thread.
-/

namespace GT3Code.Web

open GT3Code.Base GT3Code.Contracts GT3Code.Orchestration

/-- What the client takes from its runtime: an environment's URLs, `encodeURIComponent`
and the regular expressions of `TRANSPORT_ERROR_PATTERNS`. -/
class ClientRuntime where
  resolveEnvironmentHttpUrl : EnvironmentId → String → String
  encodeURIComponent : String → String
  matchesTransportErrorPattern : String → Bool

/-- URLs relative to the environment, nothing to encode, and no text matched. -/
@[reducible] def relativeClientRuntime : ClientRuntime where
  resolveEnvironmentHttpUrl _ pathname := pathname
  encodeURIComponent value := value
  matchesTransportErrorPattern _ := false

section Updaters

variable [ClientRuntime]

def attachmentPreviewRoutePath (attachmentId : String) : String :=
  "/attachments/" ++ ClientRuntime.encodeURIComponent attachmentId

def mapAttachment (environmentId : EnvironmentId) (attachment : Contracts.ChatAttachment) :
    ChatImageAttachment where
  toChatAttachment := attachment
  previewUrl := some (ClientRuntime.resolveEnvironmentHttpUrl environmentId
    (attachmentPreviewRoutePath attachment.id))

def mapMessage (environmentId : EnvironmentId) (message : OrchestrationMessage) : ChatMessage where
  id := message.id
  role := message.role
  text := message.text
  attachments :=
    (message.attachments.map (List.map (mapAttachment environmentId))).filter
      (fun attachments => attachments.length > 0)
  turnId := message.turnId
  createdAt := message.createdAt
  completedAt := if message.streaming then none else some message.updatedAt
  streaming := message.streaming

def messageOfPayload (payload : ThreadMessageSentPayload) : OrchestrationMessage where
  id := payload.messageId
  role := payload.role
  text := payload.text
  attachments := payload.attachments
  turnId := payload.turnId
  streaming := payload.streaming
  createdAt := payload.createdAt
  updatedAt := payload.updatedAt

/-- A streamed text is appended, an empty final text keeps what was streamed. -/
def mergeMessage (message entry : ChatMessage) : ChatMessage :=
  { entry with
    text :=
      if message.streaming then entry.text ++ message.text
      else if message.text.length > 0 then message.text
      else entry.text
    streaming := message.streaming
    turnId := message.turnId
    completedAt := if message.streaming then entry.completedAt else message.completedAt
    attachments := message.attachments.orElse (fun _ => entry.attachments) }

def rebindTurnDiffSummariesForAssistantMessage (turnDiffSummaries : List TurnDiffSummary)
    (turnId : TurnId) (assistantMessageId : MessageId) : List TurnDiffSummary :=
  turnDiffSummaries.map (fun summary =>
    if summary.turnId ≠ turnId ∨ summary.assistantMessageId = some assistantMessageId then summary
    else { summary with assistantMessageId := some assistantMessageId })

/-- The latest turn after an assistant message of turn `turnId`. -/
def latestTurnOfMessage (payload : ThreadMessageSentPayload) (turnId : TurnId) (thread : Thread) :
    OrchestrationLatestTurn :=
  let same := thread.latestTurn.filter (fun latestTurn => latestTurn.turnId = turnId)
  let state := thread.latestTurn.map OrchestrationLatestTurn.state
  buildLatestTurn thread.latestTurn turnId
    (if payload.streaming then .running
      else if state = some .interrupted then .interrupted
      else if state = some .error then .error
      else .completed)
    ((same.map OrchestrationLatestTurn.requestedAt).getD payload.createdAt)
    (some ((same.bind OrchestrationLatestTurn.startedAt).getD payload.createdAt))
    (if payload.streaming then same.bind OrchestrationLatestTurn.completedAt
      else some payload.updatedAt)
    (some payload.messageId) thread.pendingSourceProposedPlan

/-- The updater of `thread.message-sent`. -/
def sendMessage (payload : ThreadMessageSentPayload) (occurredAt : IsoDateTime)
    (thread : Thread) : Thread :=
  let message := mapMessage thread.environmentId (messageOfPayload payload)
  let messages :=
    if (thread.messages.find? (fun entry => entry.id = message.id)).isSome then
      thread.messages.map (fun entry =>
        if entry.id ≠ message.id then entry else mergeMessage message entry)
    else thread.messages ++ [message]
  let assistantTurn := if payload.role = .assistant then payload.turnId else none
  { thread with
    messages := sliceLast MAX_THREAD_MESSAGES messages
    turnDiffSummaries :=
      match assistantTurn with
      | some turnId =>
        rebindTurnDiffSummariesForAssistantMessage thread.turnDiffSummaries turnId
          payload.messageId
      | none => thread.turnDiffSummaries
    latestTurn :=
      match assistantTurn with
      | some turnId =>
        if thread.latestTurn.all (fun latestTurn => latestTurn.turnId = turnId) then
          some (latestTurnOfMessage payload turnId thread)
        else thread.latestTurn
      | none => thread.latestTurn
    updatedAt := some occurredAt }

/-! ## Sessions -/

def toLegacySessionStatus : OrchestrationSessionStatus → ThreadSessionStatus
  | .starting => .connecting
  | .running => .running
  | .error => .error
  | .ready | .interrupted => .ready
  | .idle | .stopped => .closed

def PROVIDER_SLUG_MAX_CHARS : Nat := 64

def isAsciiLetter (c : Char) : Bool :=
  ('a' ≤ c && c ≤ 'z') || ('A' ≤ c && c ≤ 'Z')

/-- A letter, then letters, digits, dashes and underscores, 64 characters at most. -/
def isProviderDriverKind (value : String) : Bool :=
  match value.toList with
  | [] => false
  | first :: rest =>
    isAsciiLetter first &&
      rest.all (fun c => isAsciiLetter c || ('0' ≤ c && c ≤ '9') || c = '-' || c = '_') &&
      decide (value.length ≤ PROVIDER_SLUG_MAX_CHARS)

def toLegacyProvider (providerName : Option String) : ProviderDriverKind :=
  (providerName.filter isProviderDriverKind).getD "codex"

def mapSession (session : OrchestrationSession) : ThreadSession where
  provider := toLegacyProvider session.providerName
  providerInstanceId := session.providerInstanceId
  status := toLegacySessionStatus session.status
  orchestrationStatus := session.status
  activeTurnId := session.activeTurnId
  createdAt := session.updatedAt
  updatedAt := session.updatedAt
  lastError := session.lastError.filter (fun lastError => lastError.length > 0)

def isTransportConnectionErrorMessage (message : Option String) : Bool :=
  message.any (fun message =>
    let normalizedMessage := Gc.trim message
    normalizedMessage.length > 0 && ClientRuntime.matchesTransportErrorPattern normalizedMessage)

def sanitizeThreadErrorMessage (message : Option String) : Option String :=
  if isTransportConnectionErrorMessage message then none else message

/-- The latest turn after a session that runs turn `turnId`. -/
def latestTurnOfSession (session : OrchestrationSession) (turnId : TurnId) (thread : Thread) :
    OrchestrationLatestTurn :=
  let same := thread.latestTurn.filter (fun latestTurn => latestTurn.turnId = turnId)
  buildLatestTurn thread.latestTurn turnId .running
    ((same.map OrchestrationLatestTurn.requestedAt).getD session.updatedAt)
    (some ((same.bind OrchestrationLatestTurn.startedAt).getD session.updatedAt))
    none (same.bind OrchestrationLatestTurn.assistantMessageId) thread.pendingSourceProposedPlan

/-- The updater of `thread.session-set`. -/
def setSession (payload : ThreadSessionSetPayload) (occurredAt : IsoDateTime) (thread : Thread) :
    Thread :=
  { thread with
    session := some (mapSession payload.session)
    error := sanitizeThreadErrorMessage payload.session.lastError
    latestTurn :=
      match payload.session.activeTurnId with
      | some turnId =>
        if payload.session.status = .running then
          some (latestTurnOfSession payload.session turnId thread)
        else thread.latestTurn
      | none => thread.latestTurn
    updatedAt := some occurredAt }

variable [Collation]

/-- The thread and the updater of a message, a session, a turn diff or a revert. -/
def threadUpdater (event : OrchestrationEvent) : Option (ThreadId × (Thread → Option Thread)) :=
  match event.payload with
  | .threadMessageSent payload =>
    some (payload.threadId, fun thread => some (sendMessage payload event.occurredAt thread))
  | .threadSessionSet payload =>
    some (payload.threadId, fun thread => some (setSession payload event.occurredAt thread))
  | .threadTurnDiffCompleted payload =>
    some (payload.threadId, completeThreadTurnDiff payload event.occurredAt)
  | .threadReverted payload =>
    some (payload.threadId, fun thread => some (revertThread payload event.occurredAt thread))
  | _ => none

end Updaters

/-- The store shows the thread with this latest turn and these turn diffs. -/
def Shows (store : EnvironmentState) (threadId : ThreadId)
    (latestTurn : Option OrchestrationLatestTurn) (turnDiffSummaries : List TurnDiffSummary) :
    Prop :=
  ∃ thread, getThreadFromEnvironmentState store threadId = some thread ∧ thread.id = threadId ∧
    thread.latestTurn = latestTurn ∧ thread.turnDiffSummaries = turnDiffSummaries

theorem latestTurn_writeThreadState (state : EnvironmentState) (nextThread : Thread)
    (previousThread : Option Thread) :
    ((writeThreadState state nextThread previousThread).threadTurnStateById nextThread.id).bind
      ThreadTurnState.latestTurn = nextThread.latestTurn := by
  simp only [writeThreadState, setUnless]
  split
  · rename_i hequal
    rw [of_decide_eq_true hequal]
    rfl
  · simp [toThreadTurnState]

variable {store : EnvironmentState} {threadId : ThreadId} {thread : Thread}

theorem shows_updateThreadState {next : Thread} (updater : Thread → Option Thread)
    (hthread : getThreadFromEnvironmentState store threadId = some thread)
    (hnext : updater thread = some next) (hid : next.id = threadId)
    (hdistinct : (next.turnDiffSummaries.map TurnDiffSummary.turnId).Nodup) :
    Shows (updateThreadState store threadId updater) threadId next.latestTurn
      next.turnDiffSummaries := by
  have hshell := shellId_writeThreadState store next (some thread)
  have hlatest := latestTurn_writeThreadState store next (some thread)
  have hdiffs : selectThreadTurnDiffSummaries (writeThreadState store next (some thread)) next.id =
      next.turnDiffSummaries := turnDiffSummaries_writeThreadState hdistinct
  rw [hid] at hshell hlatest hdiffs
  obtain ⟨shell, hfound, hshellId⟩ := Option.map_eq_some_iff.mp hshell
  have hupdate : updateThreadState store threadId updater =
      writeThreadState store next (some thread) := by
    simp only [updateThreadState, hthread, hnext]
  rw [hupdate]
  refine ⟨_, by rw [getThreadFromEnvironmentState, hfound, Option.map_some], hshellId, hlatest, ?_⟩
  exact hdiffs

theorem shows_of_unchanged {updater : Thread → Option Thread}
    (hthread : getThreadFromEnvironmentState store threadId = some thread)
    (hnext : updater thread = none) : updateThreadState store threadId updater = store := by
  simp only [updateThreadState, hthread, hnext]

end GT3Code.Web
