import GT3Code.Base.Loops
import GT3Code.Codex.Protocol
import GT3Code.Contracts.ProviderSession

/-! # The session runtime of the Codex app server

One loop reads the messages of the app server and routes them: a response completes its request, a
notification and a request run their handlers, and the handler of an approval waits for the user.
The calls of the runtime send requests and write the session record next to it. Every effect of a
fiber is an operation, and between two operations the other fibers run.
-/

namespace GT3Code.Codex

open GT3Code.Base GT3Code.Contracts

structure CodexResumeCursor where
  threadId : String

/-- What the runtime changes of its `ProviderSession`. -/
structure CodexSession where
  status : ProviderSessionStatus
  cwd : Option String
  model : Option String
  resumeCursor : Option CodexResumeCursor
  activeTurnId : Option TurnId
  lastError : Option String

def currentProviderThreadId (session : CodexSession) : Option String :=
  session.resumeCursor.map CodexResumeCursor.threadId

def truthy (text : Option String) : Option String := text.filter fun value => value ≠ ""

/-- A notification is of the session's own conversation where either names none. -/
def CodexSession.isOwn (session : CodexSession) (threadId : Option String) : Bool :=
  match truthy (currentProviderThreadId session), threadId with
  | some providerThreadId, some threadId => threadId = providerThreadId
  | _, _ => true

/-- The calls of `updateSession`, by what makes them. -/
inductive SessionUpdate where
  | threadStarted (threadId : String)
  | turnStarted (turnId : TurnId)
  | turnCompleted (turnId : TurnId) (failed : Bool) (lastError : Option String)
  | error (message : String) (willRetry : Bool)
  | exited (exitCode : Int)
  | closed
  | turnSent (turnId : TurnId) (model : Option String)
  | rolledBack

def updateSession (session : CodexSession) : SessionUpdate → CodexSession
  | .threadStarted threadId => { session with resumeCursor := some { threadId := threadId } }
  | .turnStarted turnId => { session with status := .running, activeTurnId := some turnId }
  | .turnCompleted _ failed lastError =>
    { session with
      status := if failed then .error else .ready
      activeTurnId := none
      lastError := (truthy lastError).or session.lastError }
  | .error message willRetry =>
    { session with
      status := if willRetry then .running else .error
      lastError := (truthy (some message)).or session.lastError }
  | .exited exitCode =>
    { session with status := if exitCode = 0 then .closed else .error, activeTurnId := none }
  | .closed => { session with status := .closed, activeTurnId := none }
  | .turnSent turnId model =>
    { session with
      status := .running, activeTurnId := some turnId, model := model.or session.model }
  | .rolledBack => { session with status := .ready, activeTurnId := none }

/-! ## Messages -/

inductive ServerNotification where
  | threadStarted (threadId : String)
  | turnStarted (threadId : String) (turnId : TurnId)
  | turnCompleted (threadId : String) (turnId : TurnId) (failed : Bool) (error : Option String)
  | error (threadId : String) (message : String) (willRetry : Bool)
  | other (method : String) (params : Json)

inductive JsonRpcId where
  | number (value : Rat)
  | string (value : String)

inductive ServerRequest where
  | commandApproval (turnId itemId : String) (approvalId : Option String)
  | fileChangeApproval (turnId itemId : String)
  | userInput (turnId itemId : String)
  | other (method : String)

def ServerRequest.asksUser : ServerRequest → Bool
  | .other _ => false
  | _ => true

inductive ServerMessage where
  | response (response : JsonRpcResponse Json)
  | notification (notification : ServerNotification)
  | request (id : JsonRpcId) (request : ServerRequest)

inductive ClientRequest where
  | codexInitialize
  | threadStart (cwd : String) (runtimeMode : RuntimeMode) (model serviceTier : Option String)
  | threadResume (threadId cwd : String) (runtimeMode : RuntimeMode)
      (model serviceTier : Option String)
  | turnStart (threadId : String) (runtimeMode : RuntimeMode)
      (prompt model serviceTier effort : Option String)
      (interactionMode : Option ProviderInteractionMode) (images : List String)
  | turnInterrupt (threadId : String) (turnId : TurnId)
  | threadRead (threadId : String)
  | threadRollback (threadId : String) (numTurns : Nat)

inductive UserAnswer where
  | decision (decision : ProviderApprovalDecision)
  | answers (answers : List (String × Json))

/-- `CodexAppServerRequestError` without its data. -/
structure RequestError where
  code : Rat
  message : String

inductive OutgoingMessage where
  | request (id : Nat) (request : ClientRequest)
  | initialized
  | result (id : JsonRpcId) (answer : UserAnswer)
  | failure (id : JsonRpcId) (error : RequestError)

inductive ProviderRequestKind where
  | command
  | fileChange

inductive PendingKind where
  | approval
  | userInput
  deriving DecidableEq

/-- A deferred is known by the number of the message its request came with. -/
structure PendingRequest where
  requestId : ApprovalRequestId
  jsonRpcId : Option String
  requestKind : Option ProviderRequestKind
  turnId : String
  itemId : String
  deferred : Nat

structure ApprovalCorrelation where
  requestId : ApprovalRequestId
  requestKind : ProviderRequestKind
  turnId : String
  itemId : String

inductive CodexEvent where
  | session (method message : String)
  | request (requestId : ApprovalRequestId) (request : ServerRequest)
  | answered (pending : PendingRequest) (answer : UserAnswer)

inductive CodexSessionRuntimeError where
  | appServer (error : CodexAppServerError Json)
  | threadIdMissing
  | pendingApprovalNotFound (requestId : ApprovalRequestId)
  | pendingUserInputNotFound (requestId : ApprovalRequestId)
  | invalidUserInputAnswers (questionId : String)

inductive CodexOp where
  | nextUUID
  | getSession
  | setSession (session : CodexSession)
  | updateSession (update : SessionUpdate)
  | allocateRequestId
  | registerPending (id : Nat)
  | offerOutgoing (message : OutgoingMessage)
  | awaitResponse (id : Nat)
  | takePending (id : String)
  | completeResponse (id : Nat) (exit : Except (CodexAppServerError Json) (Option Json))
  | setPending (kind : PendingKind) (pending : PendingRequest)
  | deletePending (kind : PendingKind) (requestId : ApprovalRequestId)
  | getPending (kind : PendingKind)
  | setCorrelation (key : String) (correlation : ApprovalCorrelation)
  | succeed (deferred : Nat) (answer : UserAnswer)
  | awaitAnswer (kind : PendingKind) (requestId : ApprovalRequestId) (deferred : Nat)
  | emit (event : CodexEvent)
  | offerNotification (notification : ServerNotification)
  | getAndSetClosed
  | getClosed
  | closeScope
  | awaitScope
  | shutdownNotifications
  | shutdownEvents
  | handleTermination
  | awaitExitCode
  | getPendingResponses
  | clearPending
  | endOutgoing

def CodexOp.Result : CodexOp → Type
  | .nextUUID => String
  | .getSession => CodexSession
  | .allocateRequestId => Nat
  | .awaitResponse _ => Except (CodexAppServerError Json) (Option Json)
  | .takePending _ => Option Nat
  | .getPending _ => List PendingRequest
  | .awaitAnswer _ _ _ => UserAnswer
  | .getAndSetClosed | .getClosed | .handleTermination => Bool
  | .awaitExitCode => Int
  | .getPendingResponses => List Nat
  | _ => Unit

abbrev CodexEffect (α : Type) := Process CodexOp CodexOp.Result CodexSessionRuntimeError α

abbrev perform (op : CodexOp) : CodexEffect op.Result := Process.perform op

abbrev HandlerEffect (α : Type) := Process CodexOp CodexOp.Result RequestError α

abbrev handle (op : CodexOp) : HandlerEffect op.Result := Process.perform op

/-- How the input came to its end: it failed, or ended with the process. -/
inductive InputEnd where
  | failed (detail : String)
  | ended

structure CodexWorld where
  session : CodexSession
  nextRequestId : Nat
  pending : List Nat
  responses : Nat → Option (Except (CodexAppServerError Json) (Option Json))
  outgoing : List OutgoingMessage
  outgoingEnded : Bool
  pendingRequests : PendingKind → KeyedMap ApprovalRequestId PendingRequest
  approvalCorrelations : KeyedMap String ApprovalCorrelation
  answers : Nat → Option UserAnswer
  events : List CodexEvent
  notifications : List ServerNotification
  closed : Bool
  scopeClosing : Bool
  interrupted : List Nat
  notificationsShutdown : Bool
  eventsShutdown : Bool
  terminationHandled : Bool
  watching : Bool
  exitCode : Option Int
  received : List ServerMessage
  taken : Nat
  inputEnd : Option InputEnd
  inputHandled : Bool
  /-- The requests registered, those of them a response was received for, the turns whose end was
  handled, whether the end of the session was written and whether the pending requests were read
  for their failure, so far. -/
  registered : List Nat
  responded : List Nat
  completedTurns : List TurnId
  ended : Bool
  pendingRead : Bool

namespace CodexWorld

def initial (session : CodexSession) : CodexWorld :=
  { session := session, nextRequestId := 1, pending := [], responses := fun _ => none
    outgoing := [], outgoingEnded := false, pendingRequests := fun _ => KeyedTable.empty _
    approvalCorrelations := KeyedTable.empty _, answers := fun _ => none, events := []
    notifications := [], closed := false, scopeClosing := false, interrupted := []
    notificationsShutdown := false, eventsShutdown := false, terminationHandled := false
    watching := false, exitCode := none, received := [], taken := 0, inputEnd := none
    inputHandled := false, registered := [], responded := [], completedTurns := []
    ended := false, pendingRead := false }

/-- An update of the session with what it says of turns and of the end of the session. -/
def update (world : CodexWorld) (change : SessionUpdate) : CodexWorld :=
  { world with
    session := updateSession world.session change
    completedTurns :=
      match change with
      | .turnCompleted turnId _ _ => turnId :: world.completedTurns
      | _ => world.completedTurns
    ended :=
      match change with
      | .exited _ | .closed => true
      | _ => world.ended }

def setPendingRequests (world : CodexWorld) (kind : PendingKind)
    (change : KeyedMap ApprovalRequestId PendingRequest →
      KeyedMap ApprovalRequestId PendingRequest) : CodexWorld :=
  { world with
    pendingRequests :=
      Function.update world.pendingRequests kind (change (world.pendingRequests kind)) }

/-- `Deferred.succeed` and `Deferred.fail` leave a completed deferred as it is. -/
def complete {α : Type} (deferreds : Nat → Option α) (deferred : Nat) (value : α) :
    Nat → Option α :=
  Function.update deferreds deferred ((deferreds deferred).or (some value))

theorem complete_self {α : Type} (deferreds : Nat → Option α) (deferred : Nat) (value : α) :
    complete deferreds deferred value deferred ≠ none := by
  unfold complete
  rw [Function.update_self]
  cases deferreds deferred <;> simp

theorem complete_ne_none {α : Type} {deferreds : Nat → Option α} {other : Nat}
    (h : deferreds other ≠ none) (deferred : Nat) (value : α) :
    complete deferreds deferred value other ≠ none := by
  by_cases heq : other = deferred
  · subst heq
    exact complete_self deferreds other value
  · unfold complete
    rwa [Function.update_of_ne heq]

def after (world : CodexWorld) : CodexOp → CodexWorld
  | .setSession session => { world with session := session }
  | .updateSession change => world.update change
  | .allocateRequestId => { world with nextRequestId := world.nextRequestId + 1 }
  | .registerPending id =>
    { world with pending := world.pending ++ [id], registered := world.registered ++ [id] }
  | .offerOutgoing message =>
    { world with
      outgoing :=
        if world.outgoingEnded then world.outgoing else world.outgoing ++ [message] }
  | .takePending id =>
    { world with pending := world.pending.filter fun request => toString request ≠ id }
  | .completeResponse id exit => { world with responses := complete world.responses id exit }
  | .setPending kind pending =>
    world.setPendingRequests kind (KeyedMap.set pending.requestId pending)
  | .deletePending kind requestId => world.setPendingRequests kind (KeyedMap.delete requestId)
  | .setCorrelation key correlation =>
    { world with
      approvalCorrelations := KeyedMap.set key correlation world.approvalCorrelations }
  | .succeed deferred answer => { world with answers := complete world.answers deferred answer }
  | .emit event =>
    { world with
      events := if world.eventsShutdown then world.events else world.events ++ [event] }
  | .offerNotification notification =>
    { world with
      notifications :=
        if world.notificationsShutdown then world.notifications
        else world.notifications ++ [notification] }
  | .getAndSetClosed => { world with closed := true }
  | .closeScope => { world with scopeClosing := true }
  | .shutdownNotifications => { world with notificationsShutdown := true }
  | .shutdownEvents => { world with eventsShutdown := true }
  | .handleTermination => { world with terminationHandled := true }
  | .getPendingResponses => { world with pendingRead := true }
  | .clearPending => { world with pending := [] }
  | .endOutgoing => { world with outgoingEnded := true }
  | .nextUUID | .getSession | .awaitResponse _ | .getPending _ | .awaitAnswer _ _ _ | .getClosed
  | .awaitScope | .awaitExitCode => world

/-- What an operation gives; it is refused while what it waits for has not happened. -/
def result (world : CodexWorld) : (op : CodexOp) → String → Option op.Result
  | .nextUUID, uuid => some uuid
  | .getSession, _ => some world.session
  | .allocateRequestId, _ => some world.nextRequestId
  | .awaitResponse id, _ => world.responses id
  | .takePending id, _ => some (world.pending.find? fun request => toString request = id)
  | .getPending kind, _ => some ((world.pendingRequests kind).rows.map Prod.snd)
  | .awaitAnswer _ _ deferred, _ => world.answers deferred
  | .getAndSetClosed, _ | .getClosed, _ => some world.closed
  | .awaitScope, _ => if 0 ∈ world.interrupted ∧ 1 ∈ world.interrupted then some () else none
  | .handleTermination, _ => some world.terminationHandled
  | .awaitExitCode, _ => world.exitCode
  | .getPendingResponses, _ => some world.pending
  | .setSession _, _ | .updateSession _, _ | .registerPending _, _ | .offerOutgoing _, _
  | .completeResponse _ _, _ | .setPending _ _, _ | .deletePending _ _, _ | .setCorrelation _ _, _
  | .succeed _ _, _ | .emit _, _ | .offerNotification _, _ | .closeScope, _
  | .shutdownNotifications, _ | .shutdownEvents, _ | .clearPending, _ | .endOutgoing, _ => some ()

def answer (world : CodexWorld) (op : CodexOp) (uuid : String) : Option (op.Result × CodexWorld) :=
  (world.result op uuid).map fun res => (res, world.after op)

theorem of_answer {world next : CodexWorld} {op : CodexOp} {uuid : String} {res : op.Result}
    (h : world.answer op uuid = some (res, next)) :
    world.result op uuid = some res ∧ next = world.after op := by
  obtain ⟨res', hres, heq⟩ := Option.map_eq_some_iff.mp h
  cases heq
  exact ⟨hres, rfl⟩

end CodexWorld

/-- The generated schemas of the results, with the issue where one does not match, the table of
model aliases, and the test for errors a resume recovers from. -/
structure CodexLibrary where
  decodeInitialize : Option Json → Except String Unit
  decodeThreadOpen : Option Json → Except String (String × String × String)
  decodeTurnStart : Option Json → Except String TurnId
  decodeTurnInterrupt : Option Json → Except String Unit
  decodeThreadRead : Option Json → Except String Unit
  decodeThreadRollback : Option Json → Except String Unit
  normalizeModelSlug : String → Option String
  isRecoverableThreadResumeError : CodexAppServerError Json → Bool

structure CodexSessionRuntimeOptions where
  cwd : String
  runtimeMode : RuntimeMode
  model : Option String
  serviceTier : Option String
  resumeCursor : Option CodexResumeCursor

variable (library : CodexLibrary) (options : CodexSessionRuntimeOptions)

def normalizeCodexModelSlug (model : Option String) : Option String :=
  truthy (model.bind library.normalizeModelSlug)

/-! ## Requests to the app server -/

/-- `request` of the protocol. -/
def rawRequest (payload : ClientRequest) : CodexEffect (Option Json) := do
  let requestId ← perform .allocateRequestId
  perform (.registerPending requestId)
  perform (.offerOutgoing (.request requestId payload))
  match ← perform (.awaitResponse requestId) with
  | .ok result => pure result
  | .error error => .fail (.appServer error)

/-- `request` of the client, which decodes the result. -/
def request {α : Type} (method : String) (decode : Option Json → Except String α)
    (payload : ClientRequest) : CodexEffect α := do
  match decode (← rawRequest payload) with
  | .ok value => pure value
  | .error issue =>
    .fail (.appServer (.request (-32602) ("Invalid " ++ method ++ " payload: " ++ issue) none))

def readProviderThreadId : CodexEffect String := do
  match truthy (currentProviderThreadId (← perform .getSession)) with
  | some providerThreadId => pure providerThreadId
  | none => .fail .threadIdMissing

def threadStart (requestedModel : Option String) : CodexEffect (String × String × String) :=
  request "thread/start" library.decodeThreadOpen
    (.threadStart options.cwd options.runtimeMode requestedModel options.serviceTier)

def openCodexThread (requestedModel : Option String) : CodexEffect (String × String × String) :=
  match options.resumeCursor with
  | none => threadStart library options requestedModel
  | some cursor =>
    (request "thread/resume" library.decodeThreadOpen (.threadResume cursor.threadId options.cwd
      options.runtimeMode requestedModel options.serviceTier)).orElse fun error =>
        match error with
        | .appServer appServerError =>
          if library.isRecoverableThreadResumeError appServerError then
            threadStart library options requestedModel
          else .fail error
        | _ => .fail error

def start : CodexEffect Unit := do
  perform (.emit (.session "session/connecting" "Starting Codex App Server session."))
  request "initialize" library.decodeInitialize .codexInitialize
  perform (.offerOutgoing .initialized)
  let opened ← openCodexThread library options (normalizeCodexModelSlug library options.model)
  let session ← perform .getSession
  perform (.setSession { session with
    status := .ready, cwd := some opened.2.1, model := some opened.2.2
    resumeCursor := some { threadId := opened.1 } })
  perform (.emit (.session "session/ready" "Codex App Server session ready."))

structure CodexSessionRuntimeSendTurnInput where
  input : Option String
  images : List String
  model : Option String
  serviceTier : Option String
  effort : Option String
  interactionMode : Option ProviderInteractionMode

def turnModel (input : CodexSessionRuntimeSendTurnInput) : CodexEffect (Option String) :=
  match input.model with
  | some model => pure (some model)
  | none => do
      let session ← perform .getSession
      pure session.model

def sendTurn (input : CodexSessionRuntimeSendTurnInput) : CodexEffect Unit := do
  let providerThreadId ← readProviderThreadId
  let normalizedModel := normalizeCodexModelSlug library (← turnModel input)
  let rawResponse ← rawRequest (.turnStart providerThreadId options.runtimeMode
    (truthy input.input) normalizedModel (truthy input.serviceTier) (truthy input.effort)
    input.interactionMode input.images)
  match library.decodeTurnStart rawResponse with
  | .error issue =>
    .fail (.appServer
      (.protocolParse ("Invalid turn/start response payload: " ++ issue)))
  | .ok turnId => do
      perform (.updateSession (.turnSent turnId normalizedModel))
      let _ ← perform .getSession
      pure ()

def effectiveTurnId (turnId : Option TurnId) (session : CodexSession) : Option TurnId :=
  truthy (turnId.or session.activeTurnId)

def interruptTurn (turnId : Option TurnId) : CodexEffect Unit := do
  let providerThreadId ← readProviderThreadId
  let session ← perform .getSession
  match effectiveTurnId turnId session with
  | none => pure ()
  | some target =>
    request "turn/interrupt" library.decodeTurnInterrupt (.turnInterrupt providerThreadId target)

def readThread : CodexEffect Unit := do
  let providerThreadId ← readProviderThreadId
  request "thread/read" library.decodeThreadRead (.threadRead providerThreadId)

def rollbackThread (numTurns : Nat) : CodexEffect Unit := do
  let providerThreadId ← readProviderThreadId
  request "thread/rollback" library.decodeThreadRollback
    (.threadRollback providerThreadId numTurns)
  perform (.updateSession .rolledBack)

def respondToRequest (requestId : ApprovalRequestId) (decision : ProviderApprovalDecision) :
    CodexEffect Unit := do
  let pendingApprovals ← perform (.getPending .approval)
  match pendingApprovals.find? fun pending => pending.requestId = requestId with
  | none => .fail (.pendingApprovalNotFound requestId)
  | some pending => do
      perform (.deletePending .approval requestId)
      perform (.succeed pending.deferred (.decision decision))
      perform (.emit (.answered pending (.decision decision)))

def isTextList : List Json → List String := fun items => items.filterMap Json.string?

/-- An answer is a string, a list, or an object with a list of strings. -/
def toCodexUserInputAnswer : Json → Option (List String)
  | .str value => some [value]
  | .arr items => some (isTextList items)
  | .obj entries =>
    match (Json.obj entries).field? "answers" with
    | some (.arr items) =>
      if items.all fun item => item.string?.isSome then some (isTextList items) else none
    | _ => none
  | _ => none

def invalidAnswer (answers : List (String × Json)) : Option String :=
  (answers.find? fun answer => (toCodexUserInputAnswer answer.2).isNone).map Prod.fst

def respondToUserInput (requestId : ApprovalRequestId) (answers : List (String × Json)) :
    CodexEffect Unit := do
  let pendingUserInputs ← perform (.getPending .userInput)
  match pendingUserInputs.find? fun pending => pending.requestId = requestId with
  | none => .fail (.pendingUserInputNotFound requestId)
  | some pending =>
    match invalidAnswer answers with
    | some questionId => .fail (.invalidUserInputAnswers questionId)
    | none => do
        perform (.deletePending .userInput requestId)
        perform (.succeed pending.deferred (.answers answers))
        perform (.emit (.answered pending (.answers answers)))

/-! ## Handlers of the read loop -/

/-- The handler of the two kinds of approval, with the key its correlation is kept under. -/
def requestApproval (number : Nat) (serverRequest : ServerRequest)
    (requestKind : ProviderRequestKind) (jsonRpcId turnId itemId : String) :
    HandlerEffect UserAnswer := do
  let requestId ← handle .nextUUID
  handle (.setPending .approval
    { requestId := requestId, jsonRpcId := some jsonRpcId, requestKind := some requestKind
      turnId := turnId, itemId := itemId, deferred := number })
  handle (.setCorrelation jsonRpcId
    { requestId := requestId, requestKind := requestKind, turnId := turnId, itemId := itemId })
  handle (.emit (.request requestId serverRequest))
  let decision ← handle (.awaitAnswer .approval requestId number)
  handle (.deletePending .approval requestId)
  pure decision

def checkAnswers : UserAnswer → HandlerEffect UserAnswer
  | .decision decision => pure (.decision decision)
  | .answers answers =>
    match invalidAnswer answers with
    | some questionId =>
      .fail { code := -32602
              message :=
                "Invalid Codex user input answers for question '" ++ questionId ++ "'" }
    | none => pure (.answers answers)

def requestUserInput (number : Nat) (serverRequest : ServerRequest) (turnId itemId : String) :
    HandlerEffect UserAnswer := do
  let requestId ← handle .nextUUID
  handle (.setPending .userInput
    { requestId := requestId, jsonRpcId := none, requestKind := none
      turnId := turnId, itemId := itemId, deferred := number })
  handle (.emit (.request requestId serverRequest))
  let resolvedAnswers ← handle (.awaitAnswer .userInput requestId number)
  handle (.deletePending .userInput requestId)
  checkAnswers resolvedAnswers

def dispatchRequest (number : Nat) : ServerRequest → HandlerEffect UserAnswer
  | .commandApproval turnId itemId approvalId =>
    requestApproval number (.commandApproval turnId itemId approvalId) .command
      (approvalId.getD itemId) turnId itemId
  | .fileChangeApproval turnId itemId =>
    requestApproval number (.fileChangeApproval turnId itemId) .fileChange itemId turnId itemId
  | .userInput turnId itemId =>
    requestUserInput number (.userInput turnId itemId) turnId itemId
  | .other method => .fail { code := -32601, message := "Method not found: " ++ method }

def handleRequest (number : Nat) (id : JsonRpcId) (serverRequest : ServerRequest) :
    CodexEffect Unit := do
  match ← (dispatchRequest number serverRequest).attempt with
  | .ok answer => perform (.offerOutgoing (.result id answer))
  | .error error => perform (.offerOutgoing (.failure id error))

def handleResponse (response : JsonRpcResponse Json) : CodexEffect Unit := do
  match ← perform (.takePending response.id) with
  | some deferred => perform (.completeResponse deferred response.exit)
  | none => pure ()

def updateOwn (threadId : Option String) (change : SessionUpdate) : CodexEffect Unit := do
  let session ← perform .getSession
  match session.isOwn threadId with
  | true => perform (.updateSession change)
  | false => pure ()

/-- What the session handler of a notification writes, with the conversation it is of. -/
def ServerNotification.change : ServerNotification → Option (Option String × SessionUpdate)
  | .threadStarted threadId => some (some threadId, .threadStarted threadId)
  | .turnStarted threadId turnId => some (some threadId, .turnStarted turnId)
  | .turnCompleted threadId turnId failed turnError =>
    some (some threadId, .turnCompleted turnId failed (if failed then turnError else none))
  | .error threadId message willRetry =>
    some (truthy (some threadId), .error message willRetry)
  | .other _ _ => none

/-- The session handler, then the one that queues the notification. -/
def handleNotification (notification : ServerNotification) : CodexEffect Unit :=
  match notification.change with
  | some (threadId, change) => do
      updateOwn threadId change
      perform (.offerNotification notification)
  | none => perform (.offerNotification notification)

def routeMessage (number : Nat) : ServerMessage → CodexEffect Unit
  | .response response => handleResponse response
  | .notification notification => handleNotification notification
  | .request id serverRequest => handleRequest number id serverRequest

def classify : InputEnd → CodexEffect (CodexAppServerError Json)
  | .failed detail => pure (.transport detail)
  | .ended => do
      let exitCode : Int ← perform .awaitExitCode
      pure (.processExited (some exitCode))

def failAllPending (error : CodexAppServerError Json) : CodexEffect Unit := do
  let deferreds ← perform .getPendingResponses
  Process.forEach deferreds fun id => perform (.completeResponse id (.error error))
  perform .clearPending

def handleTermination (inputEnd : InputEnd) : CodexEffect Unit := do
  match ← perform .handleTermination with
  | true => pure ()
  | false => do
      let error ← classify inputEnd
      failAllPending error
      perform .endOutgoing

def watchExit : CodexEffect Unit := do
  let exitCode : Int ← perform .awaitExitCode
  match ← perform .getClosed with
  | true => pure ()
  | false => do
      perform (.updateSession (.exited exitCode))
      perform (.emit (.session "session/exited"
        (if exitCode = 0 then "Codex App Server exited."
          else "Codex App Server exited with code " ++ toString exitCode ++ ".")))

def settlePending (kind : PendingKind) (answer : UserAnswer) : CodexEffect Unit := do
  let pending ← perform (.getPending kind)
  Process.forEach pending fun pendingRequest => perform (.succeed pendingRequest.deferred answer)

def close : CodexEffect Unit := do
  match ← perform .getAndSetClosed with
  | true => pure ()
  | false => do
      settlePending .approval (.decision .cancel)
      settlePending .userInput (.answers [])
      perform (.updateSession .closed)
      perform (.emit (.session "session/closed" "Session stopped"))
      perform .closeScope
      perform .awaitScope
      perform .shutdownNotifications
      perform .shutdownEvents

inductive CodexCall where
  | start
  | sendTurn (input : CodexSessionRuntimeSendTurnInput)
  | interruptTurn (turnId : Option TurnId)
  | readThread
  | rollbackThread (numTurns : Nat)
  | respondToRequest (requestId : ApprovalRequestId) (decision : ProviderApprovalDecision)
  | respondToUserInput (requestId : ApprovalRequestId) (answers : List (String × Json))
  | close

def CodexCall.starts : CodexCall → Bool
  | .start => true
  | _ => false

inductive CodexExternal where
  | receive (message : ServerMessage)
  | endInput (inputEnd : InputEnd)
  | exit (exitCode : Int)

def codexProgram : CodexCall → CodexEffect PUnit
  | .start => start library options
  | .sendTurn input => sendTurn library options input
  | .interruptTurn turnId => interruptTurn library turnId
  | .readThread => readThread library
  | .rollbackThread numTurns => rollbackThread library numTurns
  | .respondToRequest requestId decision => respondToRequest requestId decision
  | .respondToUserInput requestId answers => respondToUserInput requestId answers
  | .close => close

def ServerMessage.answers : ServerMessage → Nat → Bool
  | .response answer, id => toString id = answer.id
  | _, _ => false

def codexExternal (world : CodexWorld) : CodexExternal → Option CodexWorld
  | .receive message =>
    match world.inputEnd with
    | some _ => none
    | none =>
      some
        { world with
          received := world.received ++ [message]
          responded := world.responded ++ world.registered.filter message.answers }
  | .endInput inputEnd =>
    match world.inputEnd with
    | some _ => none
    | none => some { world with inputEnd := some inputEnd }
  | .exit exitCode =>
    match world.exitCode with
    | some _ => none
    | none => some { world with exitCode := some exitCode }

/-- The read loop takes the messages in order, the watcher of the exit is run once. -/
def codexTake : Nat → CodexWorld → Option (CodexEffect PUnit × CodexWorld)
  | 0, world =>
    if 0 ∈ world.interrupted then none
    else
      match world.received[world.taken]? with
      | some message =>
        some (routeMessage world.taken message, { world with taken := world.taken + 1 })
      | none =>
        match world.inputEnd, world.inputHandled with
        | some inputEnd, false =>
          some (handleTermination inputEnd, { world with inputHandled := true })
        | _, _ => none
  | _, world =>
    if 1 ∈ world.interrupted ∨ world.watching then none
    else some (watchExit, { world with watching := true })

def codexFinalize (loop : Nat) (op : Option CodexOp) (world : CodexWorld) : CodexWorld :=
  let interrupted := { world with interrupted := loop :: world.interrupted }
  match op with
  | some (.awaitAnswer kind requestId _) | some (.deletePending kind requestId) =>
    interrupted.setPendingRequests kind (KeyedMap.delete requestId)
  | _ => interrupted

/-- The read loop is the first process, the watcher of the exit the second; both are in the
runtime's scope. -/
def codex : LoopSystem CodexWorld CodexOp CodexOp.Result CodexSessionRuntimeError String CodexCall
    CodexExternal where
  answer := CodexWorld.answer
  program := codexProgram library options
  forks _ := none
  external := codexExternal
  loops := 2
  take := codexTake
  interrupts loop world := world.scopeClosing && !(world.interrupted.contains loop)
  finalize := codexFinalize

abbrev SessionPool := Pool CodexWorld CodexOp CodexOp.Result CodexSessionRuntimeError

abbrev SessionAction := LoopAction String CodexCall CodexExternal

end GT3Code.Codex
