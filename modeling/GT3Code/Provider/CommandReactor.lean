import GT3Code.Base.Programs
import GT3Code.Contracts.ProviderSession

/-! # Turn starts in the provider command reactor

The handling of a `thread.turn-start-requested` event. What is called outside of it (the
projection's reads, the provider service, the dispatch of commands) gives the result of its
runtime, and other fibers may change the thread at every such call.
-/

namespace GT3Code.Provider

open GT3Code.Base GT3Code.Contracts

def mapProviderSessionStatusToOrchestrationStatus :
    ProviderSessionStatus → OrchestrationSessionStatus
  | .connecting => .starting
  | .running => .running
  | .error => .error
  | .closed => .stopped
  | .ready => .ready

structure ProviderInstanceInfo where
  driverKind : ProviderDriverKind
  continuationKey : String

inductive SessionModelSwitch where
  | inSession
  | unsupported
  deriving DecidableEq

structure ProviderAdapterRequestError where
  provider : String
  method : String
  detail : String

inductive Cause where
  | fail (error : ProviderAdapterRequestError)
  | die (message : String)
  | other (interruptsOnly : Bool) (text : String)

def Cause.hasInterruptsOnly : Cause → Bool
  | .other interruptsOnly _ => interruptsOnly
  | _ => false

/-- A call of the provider service: refused before the adapter was called, failed after it, or
done. -/
inductive ProviderOutcome (α : Type) where
  | refused (cause : Cause)
  | failed (cause : Cause)
  | done (value : α)

structure TurnStartRequested where
  eventId : EventId
  commandId : Option CommandId
  threadId : ThreadId
  messageId : MessageId
  modelSelection : Option ModelSelection
  interactionMode : ProviderInteractionMode
  createdAt : IsoDateTime

def turnStartKeyForEvent (event : TurnStartRequested) : String :=
  match event.commandId with
  | some commandId => "command:" ++ commandId
  | none => "event:" ++ event.eventId

structure StartSessionInput where
  threadId : ThreadId
  provider : ProviderDriverKind
  providerInstanceId : ProviderInstanceId
  cwd : Option String
  modelSelection : ModelSelection
  resumeCursor : Option Json
  runtimeMode : RuntimeMode

structure SendTurnInput where
  threadId : ThreadId
  input : Option String
  attachments : Option (List ChatAttachment)
  modelSelection : Option ModelSelection
  interactionMode : ProviderInteractionMode

/-- The projection of the thread, the entries of the thread in the reactor's maps, and the number
of calls the adapters got. `steps` counts the calls made. -/
structure ReactorState where
  thread : Option OrchestrationThread
  handledTurnStartKeys : List String
  threadModelSelection : Option ModelSelection
  gcSessionEnvSignature : Option String
  adapterCalls : Nat
  steps : Nat

def runningTurn (session : Option OrchestrationSession) : Option TurnId :=
  match session with
  | some session => if session.status = .running then session.activeTurnId else none
  | none => none

def ReactorState.runningTurn (state : ReactorState) : Option TurnId :=
  Provider.runningTurn (state.thread.bind OrchestrationThread.session)

/-- The results of the `n`-th call. What other fibers make of the thread keeps the turn it is
shown to run: they do not see its end. -/
structure ReactorRuntime where
  meanwhile : Nat → OrchestrationThread → OrchestrationThread
  runningTurn_meanwhile : ∀ n thread,
    runningTurn (meanwhile n thread).session = runningTurn thread.session
  resolveThreadFailure : Nat → Option Cause
  dispatchFailure : Nat → Option Cause
  getProjectShellById : Nat → ProjectId → Except Cause (Option OrchestrationProject)
  listSessions : Nat → Except Cause (List ProviderSession)
  getInstanceInfo : Nat → ProviderInstanceId → Except Cause ProviderInstanceInfo
  getCapabilities : Nat → ProviderInstanceId → Except Cause SessionModelSwitch
  startSession : Nat → StartSessionInput → ProviderOutcome ProviderSession
  sendTurn : Nat → SendTurnInput → ProviderOutcome Unit
  isProviderDriverKind : String → Bool
  gcSessionEnvSignature : CustomMetadata → Option String
  trim : String → String
  pretty : Cause → String
  randomUUID : Nat → String

abbrev ReactorM (α : Type) := EStateM Cause ReactorState α

variable (runtime : ReactorRuntime)

def ReactorState.afterCall (state : ReactorState) : ReactorState :=
  { state with
    thread := state.thread.map (runtime.meanwhile state.steps)
    steps := state.steps + 1 }

def call {α : Type} (result : Nat → Except Cause α) : ReactorM α := fun state =>
  match result state.steps with
  | .ok value => .ok value (state.afterCall runtime)
  | .error cause => .error cause (state.afterCall runtime)

def callAdapter {α : Type} (result : Nat → ProviderOutcome α) : ReactorM α := fun state =>
  let next := state.afterCall runtime
  match result state.steps with
  | .refused cause => .error cause next
  | .failed cause => .error cause { next with adapterCalls := next.adapterCalls + 1 }
  | .done value => .ok value { next with adapterCalls := next.adapterCalls + 1 }

def resolveThread : ReactorM (Option OrchestrationThread) := do
  call runtime fun n =>
    match runtime.resolveThreadFailure n with
    | some cause => .error cause
    | none => .ok ()
  return (← get).thread

def dispatch (change : OrchestrationThread → OrchestrationThread) : ReactorM Unit := do
  call runtime fun n =>
    match runtime.dispatchFailure n with
    | some cause => .error cause
    | none => .ok ()
  modify fun state => { state with thread := state.thread.map change }

/-! ## Functions of the reactor -/

def providerErrorLabel (value : Option String) : String :=
  match value.map runtime.trim with
  | some normalized => if normalized = "" then "unknown" else normalized
  | none => "unknown"

def formatFailureDetail : Cause → String
  | .fail error => error.detail
  | cause => runtime.pretty cause

def requestError (provider detail : String) : Cause :=
  .fail { provider := provider, method := "thread.turn.start", detail := detail }

def appendProviderFailureActivity (detail : String) (createdAt : IsoDateTime) : ReactorM Unit := do
  let id := runtime.randomUUID (← get).steps
  dispatch runtime fun thread =>
    { thread with
      activities := thread.activities ++
        [{ id := id
           tone := .error
           kind := "provider.turn.start.failed"
           summary := "Provider turn start failed"
           payload := .obj [("detail", .str detail)]
           turnId := none
           sequence := none
           createdAt := createdAt }] }

def setThreadSession (session : OrchestrationSession) : ReactorM Unit :=
  dispatch runtime fun thread => { thread with session := some session }

def setThreadSessionErrorOnTurnStartFailure (detail : String) (createdAt : IsoDateTime) :
    ReactorM Unit := do
  match (← resolveThread runtime).bind OrchestrationThread.session with
  | none => return
  | some session =>
    setThreadSession runtime
      { session with
        status := if session.status = .stopped then .stopped else .ready
        activeTurnId := none
        lastError := some detail
        updatedAt := createdAt }

def resolveProject (projectId : ProjectId) : ReactorM (Option OrchestrationProject) :=
  call runtime fun n => runtime.getProjectShellById n projectId

def resolveThreadWorkspaceCwd (thread : OrchestrationThread)
    (project : Option OrchestrationProject) : Option String :=
  match thread.worktreePath.filter (fun path => path ≠ "") with
  | some worktreeCwd => some worktreeCwd
  | none =>
    (project.filter fun project => project.id = thread.projectId).map
      OrchestrationProject.workspaceRoot

def resolveActiveSession (threadId : ThreadId) : ReactorM (Option ProviderSession) := do
  let sessions ← call runtime runtime.listSessions
  return sessions.find? fun session => session.threadId = threadId

def startProviderSession (input : StartSessionInput) (signature : Option String) :
    ReactorM ProviderSession := do
  let session ← callAdapter runtime fun n => runtime.startSession n input
  modify fun state => { state with gcSessionEnvSignature := signature }
  return session

def bindSessionToThread (threadId : ThreadId) (runtimeMode : RuntimeMode)
    (session : ProviderSession) : ReactorM Unit :=
  match session.providerInstanceId with
  | none =>
    throw (requestError (providerErrorLabel runtime (some session.provider))
      ("Provider session '" ++ session.threadId ++
        "' started without a provider instance id."))
  | some instanceId =>
    setThreadSession runtime
      { threadId := threadId
        status := mapProviderSessionStatusToOrchestrationStatus session.status
        providerName := some session.provider
        providerInstanceId := some instanceId
        runtimeMode := runtimeMode
        activeTurnId := none
        lastError := session.lastError
        updatedAt := session.updatedAt }

def failIf (condition : Bool) (cause : Cause) : ReactorM Unit :=
  if condition then throw cause else pure ()

/-- The projected session, where the provider has one of the thread too. -/
def activeThreadSession (thread : OrchestrationThread) (activeSession : Option ProviderSession) :
    Option OrchestrationSession :=
  thread.session.filter fun session => session.status ≠ .stopped && activeSession.isSome

def currentInstanceId (thread : OrchestrationThread) (activeSession : Option ProviderSession) :
    ProviderInstanceId :=
  ((activeThreadSession thread activeSession).bind fun _ =>
    activeSession.bind ProviderSession.providerInstanceId).getD thread.modelSelection.instanceId

def getInstanceInfo (instanceId : ProviderInstanceId) (detail : String) :
    ReactorM ProviderInstanceInfo :=
  tryCatch (call runtime fun n => runtime.getInstanceInfo n instanceId)
    fun _ => throw (requestError (providerErrorLabel runtime (some instanceId)) detail)

/-- A thread with a session stays with the driver and the resume state of its instance. -/
def checkSwitch (thread : OrchestrationThread) (currentInstanceId : ProviderInstanceId)
    (requested : Option ModelSelection) (currentInfo desiredInfo : ProviderInstanceInfo) :
    ReactorM Unit := do
  let switches := thread.session.isSome && requested.any fun selection =>
    selection.instanceId ≠ currentInstanceId
  failIf (switches && currentInfo.driverKind ≠ desiredInfo.driverKind)
    (requestError desiredInfo.driverKind
      ("Thread '" ++ thread.id ++ "' is bound to driver '" ++ currentInfo.driverKind ++
        "' and cannot switch to '" ++ desiredInfo.driverKind ++ "'."))
  failIf (switches && currentInfo.continuationKey ≠ desiredInfo.continuationKey)
    (requestError desiredInfo.driverKind
      ("Thread '" ++ thread.id ++ "' cannot switch from instance '" ++ currentInstanceId ++
        "' to '" ++ (requested.getD thread.modelSelection).instanceId ++
          "' because their provider resume state is incompatible."))

/-- The checks before a session is started or kept, and the instance that is asked for. -/
def checkInstances (thread : OrchestrationThread) (activeSession : Option ProviderSession)
    (requested : Option ModelSelection) : ReactorM ProviderInstanceInfo := do
  failIf ((activeThreadSession thread activeSession).any fun threadSession =>
      threadSession.providerInstanceId.isNone ||
        (activeSession.bind ProviderSession.providerInstanceId).isNone)
    (requestError
      (providerErrorLabel runtime (thread.session.bind OrchestrationSession.providerName))
      ("Thread '" ++ thread.id ++
        "' has an active provider session without a provider instance id."))
  let currentId := currentInstanceId thread activeSession
  let desiredId := (requested.getD thread.modelSelection).instanceId
  let currentInfo ← getInstanceInfo runtime currentId
    ("Thread '" ++ thread.id ++ "' references unknown provider instance '" ++ currentId ++
      "'. The instance is not configured in this build.")
  let desiredInfo ← getInstanceInfo runtime desiredId
    ("Requested provider instance '" ++ desiredId ++ "' is not configured in this build.")
  failIf (!runtime.isProviderDriverKind desiredInfo.driverKind)
    (requestError (providerErrorLabel runtime (some desiredInfo.driverKind))
      ("Requested provider instance '" ++ desiredId ++ "' uses unknown provider driver '" ++
        desiredInfo.driverKind ++ "'. The driver is not installed in this build."))
  checkSwitch thread currentId requested currentInfo desiredInfo
  return desiredInfo

/-- Whether an active session has to be restarted, and for another model. -/
def restartReasons (thread : OrchestrationThread) (session : ProviderSession)
    (requested : Option ModelSelection) (preferredProvider : String) (cwd : Option String)
    (signature : Option String) (modelSwitch : SessionModelSwitch) (state : ReactorState) :
    Bool × Bool :=
  let runtimeModeChanged := some thread.runtimeMode ≠ thread.session.map
    OrchestrationSession.runtimeMode
  let cwdChanged := cwd ≠ session.cwd
  let modelChanged := requested.any fun selection => some selection.model ≠ session.model
  let instanceChanged := requested.any fun selection =>
    session.providerInstanceId ≠ some selection.instanceId
  let forModelChange := modelChanged && modelSwitch = .unsupported
  let forModelSelection := preferredProvider = "claudeAgent" && requested.isSome &&
    state.threadModelSelection ≠ requested
  let forGcSessionEnv := state.gcSessionEnvSignature ≠ signature
  (runtimeModeChanged || cwdChanged || instanceChanged || forModelChange || forModelSelection ||
    forGcSessionEnv, forModelChange)

def restartSession (thread : OrchestrationThread) (desiredInfo : ProviderInstanceInfo)
    (requested : Option ModelSelection) (cwd signature : Option String)
    (resumeCursor : Option Json) : ReactorM Unit := do
  let desired := requested.getD thread.modelSelection
  let session ← startProviderSession runtime
    { threadId := thread.id
      provider := desiredInfo.driverKind
      providerInstanceId := desired.instanceId
      cwd := cwd
      modelSelection := desired
      resumeCursor := resumeCursor
      runtimeMode := thread.runtimeMode } signature
  bindSessionToThread runtime thread.id thread.runtimeMode session

/-- A session that is active is kept where nothing it was started with has changed. -/
def keepOrRestart (thread : OrchestrationThread) (session : ProviderSession)
    (desiredInfo : ProviderInstanceInfo) (requested : Option ModelSelection)
    (cwd signature : Option String) : ReactorM Unit := do
  let modelSwitch ← call runtime fun n =>
    runtime.getCapabilities n (requested.getD thread.modelSelection).instanceId
  let reasons := restartReasons thread session requested desiredInfo.driverKind cwd signature
    modelSwitch (← get)
  if reasons.1 then
    restartSession runtime thread desiredInfo requested cwd signature
      (if reasons.2 then none else session.resumeCursor)
  else pure ()

def ensureSessionForThread (threadId : ThreadId) (requested : Option ModelSelection) :
    ReactorM Unit := do
  match ← resolveThread runtime with
  | none => throw (.die ("Thread '" ++ threadId ++ "' was not found in read model."))
  | some thread =>
    let activeSession ← resolveActiveSession runtime threadId
    let desiredInfo ← checkInstances runtime thread activeSession requested
    let project ← resolveProject runtime thread.projectId
    let cwd := resolveThreadWorkspaceCwd thread project
    let signature := runtime.gcSessionEnvSignature thread.customMetadata
    match activeThreadSession thread activeSession, activeSession with
    | some _, some session =>
      keepOrRestart runtime thread session desiredInfo requested cwd signature
    | _, _ => restartSession runtime thread desiredInfo requested cwd signature none

def activeModelSwitch (activeSession : Option ProviderSession) : ReactorM SessionModelSwitch :=
  match activeSession with
  | none => pure .inSession
  | some session =>
    match session.providerInstanceId with
    | none =>
      throw (requestError (providerErrorLabel runtime (some session.provider))
        ("Active provider session '" ++ session.threadId ++
          "' is missing a provider instance id."))
    | some instanceId => call runtime fun n => runtime.getCapabilities n instanceId

def modelForTurn (requested cached : Option ModelSelection) (threadSelection : ModelSelection)
    (modelSwitch : SessionModelSwitch) (activeModel : Option String) : Option ModelSelection :=
  let selection := (requested.or cached).getD threadSelection
  if modelSwitch = .unsupported && requested.isNone then
    match activeModel with
    | some model => some { selection with model := model }
    | none => some selection
  else requested

def rememberModelSelection (requested : Option ModelSelection) : ReactorM Unit :=
  modify fun state => { state with threadModelSelection := requested.or state.threadModelSelection }

def buildSendTurnRequestForThread (event : TurnStartRequested) (message : OrchestrationMessage) :
    ReactorM SendTurnInput := do
  match ← resolveThread runtime with
  | none => throw (.die ("Thread '" ++ event.threadId ++ "' was not found in read model."))
  | some thread =>
    ensureSessionForThread runtime event.threadId event.modelSelection
    rememberModelSelection event.modelSelection
    let activeSession ← resolveActiveSession runtime event.threadId
    let modelSwitch ← activeModelSwitch runtime activeSession
    let cached := (← get).threadModelSelection
    let text := runtime.trim (stored message.text)
    return {
      threadId := event.threadId
      input := if text = "" then none else some text
      attachments := message.attachments.filter fun attachments => attachments ≠ []
      modelSelection := modelForTurn event.modelSelection cached thread.modelSelection
        modelSwitch (activeSession.bind ProviderSession.model)
      interactionMode := event.interactionMode }

def hasHandledTurnStartRecently (key : String) : ReactorM Bool := do
  let handled := (← get).handledTurnStartKeys.contains key
  modify fun state => { state with handledTurnStartKeys := key :: state.handledTurnStartKeys }
  return handled

def handleTurnStartFailure (event : TurnStartRequested) (cause : Cause) : ReactorM Unit :=
  if cause.hasInterruptsOnly then pure ()
  else do
    let detail := formatFailureDetail runtime cause
    setThreadSessionErrorOnTurnStartFailure runtime detail event.createdAt
    appendProviderFailureActivity runtime detail event.createdAt

/-- The first turn of a thread has its title and its branch generated by fibers of their own. -/
def prepareFirstTurn (thread : OrchestrationThread) : ReactorM Unit :=
  if (thread.messages.filter fun entry => entry.role = .user).length = 1 then do
    let _ ← resolveProject runtime thread.projectId
  else pure ()

/-- What comes before the request is built: the user message of the turn, where there is one. -/
def findTurnMessage (event : TurnStartRequested) : ReactorM (Option OrchestrationMessage) := do
  if ← hasHandledTurnStartRecently (turnStartKeyForEvent event) then return none
  else
    match ← resolveThread runtime with
    | none => return none
    | some thread =>
      match (thread.messages.find? fun entry => entry.id = event.messageId).filter
          fun message => message.role = .user with
      | none =>
        appendProviderFailureActivity runtime ("User message '" ++ event.messageId ++
          "' was not found for turn start request.") event.createdAt
        return none
      | some message =>
        prepareFirstTurn runtime thread
        return some message

def sendTurn (request : SendTurnInput) : ReactorM Unit :=
  callAdapter runtime fun n => runtime.sendTurn n request

def processTurnStartRequested (event : TurnStartRequested) : ReactorM Unit := do
  match ← findTurnMessage runtime event with
  | none => return
  | some message =>
    let request ← tryCatch (some <$> buildSendTurnRequestForThread runtime event message)
      fun cause => do
        handleTurnStartFailure runtime event cause
        return none
    match request with
    | none => return
    | some request =>
      tryCatch (sendTurn runtime request) fun cause =>
        tryCatch (handleTurnStartFailure runtime event cause) fun _ => pure ()

end GT3Code.Provider
