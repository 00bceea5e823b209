import GT3Code.Base.KeyedMap
import GT3Code.Base.Processes
import GT3Code.Provider.ProviderSessionDirectory
import Mathlib.Data.List.Sort

/-! # Provider service

The calls of the provider service as processes: they read and write the persisted bindings and
use the adapters of a fixed set of provider instances, and other calls run between any two of
these operations. An adapter answers as it likes, but keeps one session for a thread.
-/

namespace GT3Code.Provider

open GT3Code.Base GT3Code.Contracts

structure ProviderInstance where
  instanceId : ProviderInstanceId
  driverKind : ProviderDriverKind
  enabled : Bool

/-- The configured instances, and the functions on text and values the service uses. -/
structure ServiceRuntime where
  instances : List ProviderInstance
  trim : String → String
  toISOString : Nat → String
  isModelSelection : Json → Bool

/-! ## Operations -/

structure ProviderSessionStartInput where
  threadId : ThreadId
  provider : Option ProviderDriverKind
  providerInstanceId : Option ProviderInstanceId
  cwd : Option String
  modelSelection : Option Json
  resumeCursor : Option Json
  runtimeMode : RuntimeMode

structure ProviderSendTurnInput where
  threadId : ThreadId
  input : Option String
  attachments : List ChatAttachment
  modelSelection : Option Json

/-- What an adapter is started with, and which of it was read from the binding. -/
structure AdapterStart where
  input : ProviderSessionStartInput
  cursorPersisted : Bool
  cwdPersisted : Bool

inductive ProviderOp where
  | getByThreadId (threadId : ThreadId)
  | write (existing : Option ProviderSessionRuntime) (binding : ProviderRuntimeBinding)
  | listRows
  | now
  | hasSession (instanceId : ProviderInstanceId) (threadId : ThreadId)
  | listSessions (instanceId : ProviderInstanceId)
  | startSession (instanceId : ProviderInstanceId) (start : AdapterStart)
  | stopSession (instanceId : ProviderInstanceId) (threadId : ThreadId)
  | sendTurn (instanceId : ProviderInstanceId) (input : ProviderSendTurnInput)
  | getActiveTurn (threadId : ThreadId)

abbrev ProviderOp.Res : ProviderOp → Type
  | .getByThreadId _ => Option ProviderSessionRuntime
  | .write _ _ => Except ProviderValidationError Unit
  | .listRows => List ProviderSessionRuntime
  | .now => Nat
  | .hasSession _ _ => Bool
  | .listSessions _ => List ProviderSession
  | .startSession _ _ => Except String ProviderSession
  | .stopSession _ _ => Except String Unit
  | .sendTurn _ _ => Except String ProviderTurnStartResult
  | .getActiveTurn _ => Option TurnId

/-- The persisted rows, the live sessions, the clock, and the active turns of the projection. -/
structure ServiceWorld where
  rows : KeyedMap ThreadId ProviderSessionRuntime
  sessions : KeyedMap (ProviderInstanceId × ThreadId) ProviderSession
  clock : Nat
  activeTurns : KeyedMap ThreadId TurnId

inductive AdapterAnswer where
  | done
  | session (session : ProviderSession)
  | turn (turn : ProviderTurnStartResult)
  | failed (message : String)

def Row.before (first second : ProviderSessionRuntime) : Prop :=
  first.lastSeenAt < second.lastSeenAt ∨
    (first.lastSeenAt = second.lastSeenAt ∧ first.threadId ≤ second.threadId)

instance : DecidableRel Row.before := fun first second =>
  inferInstanceAs (Decidable (first.lastSeenAt < second.lastSeenAt ∨
    (first.lastSeenAt = second.lastSeenAt ∧ first.threadId ≤ second.threadId)))

def ServiceWorld.listRows (world : ServiceWorld) : List ProviderSessionRuntime :=
  (world.rows.rows.map Prod.snd).insertionSort Row.before

def ServiceWorld.sessionsOf (world : ServiceWorld) (instanceId : ProviderInstanceId) :
    List ProviderSession :=
  (world.sessions.rows.filter fun entry => entry.1.1 = instanceId).map Prod.snd

/-- How an operation is answered; what an adapter answers is its own. -/
def answerOp (world : ServiceWorld) :
    (op : ProviderOp) → AdapterAnswer → Option (op.Res × ServiceWorld)
  | .getByThreadId threadId, .done => some (KeyedMap.get threadId world.rows, world)
  | .write existing binding, .done =>
    match upsert existing binding world.clock with
    | .ok row => some (.ok (), { world with rows := KeyedMap.set row.threadId row world.rows })
    | .error error => some (.error error, world)
  | .listRows, .done => some (world.listRows, world)
  | .now, .done => some (world.clock, world)
  | .hasSession instanceId threadId, .done =>
    some (KeyedMap.has (instanceId, threadId) world.sessions, world)
  | .listSessions instanceId, .done => some (world.sessionsOf instanceId, world)
  | .startSession instanceId start, .session session =>
    let started := { session with threadId := start.input.threadId }
    some (.ok started,
      { world with
        sessions := KeyedMap.set (instanceId, start.input.threadId) started world.sessions })
  | .startSession _ _, .failed message => some (.error message, world)
  | .stopSession instanceId threadId, .done =>
    some (.ok (), { world with sessions := KeyedMap.delete (instanceId, threadId) world.sessions })
  | .stopSession _ _, .failed message => some (.error message, world)
  | .sendTurn _ _, .turn turn => some (.ok turn, world)
  | .sendTurn _ _, .failed message => some (.error message, world)
  | .getActiveTurn threadId, .done => some (KeyedMap.get threadId world.activeTurns, world)
  | _, _ => none

/-- What happens outside of the service: time goes on, a session ends or changes what it tells of
itself, and a turn of a thread starts or ends. -/
inductive OutsideEvent where
  | tick (elapsed : Nat)
  | sessionExited (instanceId : ProviderInstanceId) (threadId : ThreadId)
  | sessionChanged (instanceId : ProviderInstanceId) (threadId : ThreadId)
      (status : ProviderSessionStatus) (resumeCursor : Option Json) (cwd : Option String)
  | turnStarted (threadId : ThreadId) (turnId : TurnId)
  | turnEnded (threadId : ThreadId)

def outside (world : ServiceWorld) : OutsideEvent → Option ServiceWorld
  | .tick elapsed => some { world with clock := world.clock + elapsed }
  | .sessionExited instanceId threadId =>
    some { world with sessions := KeyedMap.delete (instanceId, threadId) world.sessions }
  | .sessionChanged instanceId threadId status resumeCursor cwd =>
    (KeyedMap.get (instanceId, threadId) world.sessions).map fun session =>
      { world with
        sessions := KeyedMap.set (instanceId, threadId)
          { session with status := status, resumeCursor := resumeCursor, cwd := cwd }
          world.sessions }
  | .turnStarted threadId turnId =>
    some { world with activeTurns := KeyedMap.set threadId turnId world.activeTurns }
  | .turnEnded threadId =>
    some { world with activeTurns := KeyedMap.delete threadId world.activeTurns }

inductive ServiceError where
  | validation (operation issue : String)
  | unsupported (provider : String)
  | adapter (message : String)
  | die (message : String)

abbrev ServiceM (α : Type) := Process ProviderOp ProviderOp.Res ServiceError α

def perform (op : ProviderOp) : ServiceM op.Res := Process.perform op

def orFail {α : Type} : Except String α → ServiceM α
  | .ok value => .done value
  | .error message => .fail (.adapter message)

/-! ## Bindings -/

def bindingInstanceId (row : ProviderSessionRuntime) : ProviderInstanceId :=
  row.providerInstanceId.getD row.providerName

def getBinding (threadId : ThreadId) : ServiceM (Option ProviderSessionRuntime) :=
  perform (.getByThreadId threadId)

def directoryUpsert (binding : ProviderRuntimeBinding) : ServiceM Unit := do
  let existing ← perform (.getByThreadId binding.threadId)
  match ← perform (.write existing binding) with
  | .ok _ => return ()
  | .error error => .fail (.validation error.operation error.issue)

def toRuntimeStatus (session : ProviderSession) : ProviderSessionRuntimeStatus :=
  match session.status with
  | .connecting => .starting
  | .error => .error
  | .closed => .stopped
  | .ready => .running
  | .running => .running

structure PayloadExtra where
  modelSelection : Option Json
  lastRuntimeEvent : Option String
  lastRuntimeEventAt : Option String

def PayloadExtra.none : PayloadExtra :=
  { modelSelection := .none, lastRuntimeEvent := .none, lastRuntimeEventAt := .none }

def nullable (value : Option String) : Json := (value.map Json.str).getD .null

def toRuntimePayloadFromSession (session : ProviderSession) (extra : PayloadExtra) : Json :=
  .obj
    ([("cwd", nullable session.cwd),
      ("pid", (session.pid.map fun pid => Json.num (toString pid)).getD .null),
      ("model", nullable session.model),
      ("activeTurnId", nullable session.activeTurnId),
      ("lastError", nullable session.lastError)] ++
      (extra.modelSelection.map fun value => ("modelSelection", value)).toList ++
      (extra.lastRuntimeEvent.map fun value => ("lastRuntimeEvent", Json.str value)).toList ++
      (extra.lastRuntimeEventAt.map fun value => ("lastRuntimeEventAt", Json.str value)).toList)

def sessionBinding (session : ProviderSession) (instanceId : ProviderInstanceId)
    (threadId : ThreadId) (extra : PayloadExtra) : ProviderRuntimeBinding :=
  { threadId := threadId
    provider := session.provider
    providerInstanceId := some instanceId
    adapterKey := none
    status := some (toRuntimeStatus session)
    resumeCursor := session.resumeCursor
    runtimePayload := some (toRuntimePayloadFromSession session extra)
    runtimeMode := some session.runtimeMode }

def upsertSessionBinding (session : ProviderSession) (threadId : ThreadId) (extra : PayloadExtra) :
    ServiceM Unit :=
  match session.providerInstanceId with
  | some instanceId => directoryUpsert (sessionBinding session instanceId threadId extra)
  | none =>
    .fail (.validation "ProviderService.upsertSessionBinding"
      ("Provider instance id is required for provider '" ++ session.provider ++ "'."))

variable (runtime : ServiceRuntime)

def readPersistedModelSelection (runtimePayload : Json) : Option Json :=
  (runtimePayload.field? "modelSelection").filter runtime.isModelSelection

def readPersistedCwd (runtimePayload : Json) : Option String :=
  ((runtimePayload.field? "cwd").bind Json.string?).bind fun rawCwd =>
    let trimmed := runtime.trim rawCwd
    if trimmed = "" then none else some trimmed

def isNull : Json → Bool
  | .null => true
  | _ => false

def findInstance (instanceId : ProviderInstanceId) : Option ProviderInstance :=
  runtime.instances.find? fun entry => entry.instanceId = instanceId

/-- `registry.getByInstance` and `registry.getInstanceInfo`. -/
def getByInstance (instanceId : ProviderInstanceId) : ServiceM ProviderInstance :=
  match findInstance runtime instanceId with
  | some entry => .done entry
  | none => .fail (.unsupported instanceId)

def resumeSession (row : ProviderSessionRuntime) (adapter : ProviderInstance) (operation : String) :
    ServiceM Unit := do
  let resumed ← orFail (← perform (.startSession adapter.instanceId
    { input :=
        { threadId := row.threadId
          provider := some row.providerName
          providerInstanceId := some adapter.instanceId
          cwd := readPersistedCwd runtime row.runtimePayload
          modelSelection := readPersistedModelSelection runtime row.runtimePayload
          resumeCursor := some row.resumeCursor
          runtimeMode := row.runtimeMode }
      cursorPersisted := true
      cwdPersisted := true }))
  if resumed.provider ≠ adapter.driverKind then
    .fail (.validation operation
      ("Adapter/provider mismatch while recovering thread '" ++ row.threadId ++ "'. Expected '" ++
        adapter.driverKind ++ "', received '" ++ resumed.provider ++ "'."))
  else
    upsertSessionBinding { resumed with providerInstanceId := some adapter.instanceId }
      row.threadId .none

def sessionsIfActive (instanceId : ProviderInstanceId) (hasActiveSession : Bool) :
    ServiceM (List ProviderSession) :=
  if hasActiveSession then perform (.listSessions instanceId) else .done []

/-- A session the adapter has after all is adopted, else one is resumed. -/
def recoverSessionForThread (row : ProviderSessionRuntime) (operation : String) : ServiceM Unit := do
  let adapter ← getByInstance runtime (bindingInstanceId row)
  let hasActiveSession ← perform (.hasSession adapter.instanceId row.threadId)
  let activeSessions ← sessionsIfActive adapter.instanceId hasActiveSession
  match activeSessions.find? fun session => session.threadId = row.threadId with
  | some existing =>
    upsertSessionBinding { existing with providerInstanceId := some adapter.instanceId }
      row.threadId .none
  | none =>
    if isNull row.resumeCursor then
      .fail (.validation operation ("Cannot recover thread '" ++ row.threadId ++
        "' because no provider resume state is persisted."))
    else resumeSession runtime row adapter operation

structure Routed where
  adapter : ProviderInstance
  isActive : Bool

def resolveRoutableSession (threadId : ThreadId) (operation : String) (allowRecovery : Bool) :
    ServiceM Routed := do
  match ← getBinding threadId with
  | none =>
    .fail (.validation operation ("Cannot route thread '" ++ threadId ++
      "' because no persisted provider binding exists."))
  | some row => do
      let adapter ← getByInstance runtime (bindingInstanceId row)
      let hasRequestedSession ← perform (.hasSession adapter.instanceId threadId)
      if hasRequestedSession then return { adapter := adapter, isActive := true }
      else if !allowRecovery then return { adapter := adapter, isActive := false }
      else do
        recoverSessionForThread runtime row operation
        return { adapter := adapter, isActive := true }

def stopStaleSession (threadId : ThreadId) (currentInstanceId : ProviderInstanceId)
    (entry : ProviderInstance) : ServiceM Unit :=
  if entry.instanceId = currentInstanceId then .done ()
  else do
    let hasSession ← perform (.hasSession entry.instanceId threadId)
    if !hasSession then return ()
    else do
      let _ ← perform (.stopSession entry.instanceId threadId)
      return ()

def stopStaleSessionsForThread (threadId : ThreadId) (currentInstanceId : ProviderInstanceId) :
    ServiceM Unit :=
  Process.forEach runtime.instances (stopStaleSession threadId currentInstanceId)

/-- What the adapter is started with: a cursor or a directory the request leaves out is the
persisted one, where the binding is of the same instance. -/
def effectiveStart (input : ProviderSessionStartInput) (adapter : ProviderInstance)
    (persistedBinding : Option ProviderSessionRuntime) : AdapterStart :=
  let samePersisted := persistedBinding.filter fun row =>
    bindingInstanceId row = adapter.instanceId
  let requestedCursor := input.resumeCursor.filter fun cursor => !isNull cursor
  let effectiveResumeCursor := requestedCursor.or
    (samePersisted.map ProviderSessionRuntime.resumeCursor)
  let effectiveCwd := input.cwd.or
    (samePersisted.bind fun row => readPersistedCwd runtime row.runtimePayload)
  { input :=
      { input with
        provider := some adapter.driverKind
        providerInstanceId := some adapter.instanceId
        cwd := effectiveCwd
        resumeCursor := effectiveResumeCursor.or input.resumeCursor }
    cursorPersisted := requestedCursor.isNone
    cwdPersisted := input.cwd.isNone }

def startSession (input : ProviderSessionStartInput) : ServiceM Unit :=
  match input.providerInstanceId with
  | none =>
    .fail (.validation "ProviderService.startSession"
      (match input.provider with
        | some provider =>
          "Provider instance id is required for provider '" ++ provider ++ "'."
        | none => "Provider instance id is required."))
  | some resolvedInstanceId => do
      let adapter ← getByInstance runtime resolvedInstanceId
      match input.provider.filter fun provider => provider ≠ adapter.driverKind with
      | some provider =>
        .fail (.validation "ProviderService.startSession"
          ("Provider instance '" ++ resolvedInstanceId ++ "' belongs to driver '" ++
            adapter.driverKind ++ "', not '" ++ provider ++ "'."))
      | none =>
        if !adapter.enabled then
          .fail (.validation "ProviderService.startSession"
            ("Provider instance '" ++ resolvedInstanceId ++
              "' is disabled in T3 Code settings."))
        else do
          let persistedBinding ← getBinding input.threadId
          let session ← orFail (← perform (.startSession adapter.instanceId
            (effectiveStart runtime input adapter persistedBinding)))
          if session.provider ≠ adapter.driverKind then
            .fail (.validation "ProviderService.startSession"
              ("Adapter/provider mismatch: requested '" ++ adapter.driverKind ++
                "', received '" ++ session.provider ++ "'."))
          else do
            stopStaleSessionsForThread runtime input.threadId adapter.instanceId
            upsertSessionBinding { session with providerInstanceId := some adapter.instanceId }
              input.threadId { PayloadExtra.none with modelSelection := input.modelSelection }

def turnBinding (input : ProviderSendTurnInput) (adapter : ProviderInstance)
    (turn : ProviderTurnStartResult) (sentAt : Nat) : ProviderRuntimeBinding :=
  { threadId := input.threadId
    provider := adapter.driverKind
    providerInstanceId := some adapter.instanceId
    adapterKey := none
    status := some .running
    resumeCursor := turn.resumeCursor
    runtimePayload := some (.obj
      ((input.modelSelection.map fun value => ("modelSelection", value)).toList ++
        [("activeTurnId", .str turn.turnId),
         ("lastRuntimeEvent", .str "provider.sendTurn"),
         ("lastRuntimeEventAt", .str (runtime.toISOString sentAt))]))
    runtimeMode := none }

def sendTurnCall (input : ProviderSendTurnInput) : ServiceM Unit :=
  if (input.input.getD "") = "" ∧ input.attachments = [] then
    .fail (.validation "ProviderService.sendTurn"
      "Either input text or at least one attachment is required")
  else do
    let routed ← resolveRoutableSession runtime input.threadId "ProviderService.sendTurn" true
    let turn ← orFail (← perform (.sendTurn routed.adapter.instanceId input))
    let sentAt ← perform .now
    directoryUpsert (turnBinding runtime input routed.adapter turn sentAt)

def stoppedBinding (threadId : ThreadId) (adapter : ProviderInstance) : ProviderRuntimeBinding :=
  { threadId := threadId
    provider := adapter.driverKind
    providerInstanceId := some adapter.instanceId
    adapterKey := none
    status := some .stopped
    resumeCursor := none
    runtimePayload := some (.obj [("activeTurnId", .null)])
    runtimeMode := none }

def stopSession (threadId : ThreadId) : ServiceM Unit := do
  let routed ← resolveRoutableSession runtime threadId "ProviderService.stopSession" false
  if routed.isActive then
    let _ ← orFail (← perform (.stopSession routed.adapter.instanceId threadId))
    directoryUpsert (stoppedBinding threadId routed.adapter)
  else directoryUpsert (stoppedBinding threadId routed.adapter)

def activeSessions : List ProviderInstance → ServiceM (List ProviderSession)
  | [] => .done []
  | entry :: rest => do
      let sessions ← perform (.listSessions entry.instanceId)
      let others ← activeSessions rest
      return (sessions.map fun session =>
        { session with providerInstanceId := some entry.instanceId }) ++ others

def readBindings : List ThreadId → ServiceM (List ProviderSessionRuntime)
  | [] => .done []
  | threadId :: rest => do
      let row ← getBinding threadId
      let others ← readBindings rest
      return row.toList ++ others

def bindingMismatch (session : ProviderSession) (row : ProviderSessionRuntime) : Option String :=
  if row.providerName ≠ session.provider then
    some ("ProviderService.listSessions: thread '" ++ session.threadId ++
      "' is active on provider '" ++ session.provider ++
        "' but persisted binding names provider '" ++ row.providerName ++ "'.")
  else if some (bindingInstanceId row) ≠ session.providerInstanceId then
    some ("ProviderService.listSessions: thread '" ++ session.threadId ++
      "' is active on provider instance '" ++ session.providerInstanceId.getD "undefined" ++
        "' but persisted binding names '" ++ bindingInstanceId row ++ "'.")
  else none

def firstMismatch (sessions : List ProviderSession) (rows : List ProviderSessionRuntime) :
    Option String :=
  sessions.findSome? fun session =>
    (rows.reverse.find? fun row => row.threadId = session.threadId).bind (bindingMismatch session)

def listSessions : ServiceM Unit := do
  let sessions ← activeSessions runtime.instances
  let listedAt ← perform .now
  Process.forEach sessions fun session =>
    (upsertSessionBinding session session.threadId
      { PayloadExtra.none with
        lastRuntimeEvent := some "provider.listSessions"
        lastRuntimeEventAt := some (runtime.toISOString listedAt) }).orElse fun _ => .done ()
  let rows ← perform .listRows
  let bindings ← readBindings (rows.map ProviderSessionRuntime.threadId)
  match firstMismatch sessions bindings with
  | some message => .fail (.die message)
  | none => return ()

inductive ServiceCall where
  | startSession (input : ProviderSessionStartInput)
  | sendTurn (input : ProviderSendTurnInput)
  | stopSession (threadId : ThreadId)
  | listSessions

/-- A call whose input is no valid one is refused before it does anything. -/
def callThread : ServiceCall → Option ThreadId
  | .startSession input => some input.threadId
  | .sendTurn input => some input.threadId
  | .stopSession threadId => some threadId
  | .listSessions => none

def runCall (call : ServiceCall) : ServiceM Unit :=
  if callThread call = some "" then .fail (.validation "ProviderService" "Expected a non empty string")
  else
    match call with
    | .startSession input => startSession runtime input
    | .sendTurn input => sendTurnCall runtime input
    | .stopSession threadId => stopSession runtime threadId
    | .listSessions => listSessions runtime

def service : System ServiceWorld ProviderOp ProviderOp.Res ServiceError AdapterAnswer ServiceCall
    OutsideEvent where
  answer := answerOp
  program := runCall runtime
  forks _ := none
  external := outside

end GT3Code.Provider
