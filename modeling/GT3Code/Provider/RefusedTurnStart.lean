import GT3Code.Provider.CommandReactor

/-! # Refused turn starts

A turn start that fails before a session is restarted or a turn is sent. What comes before
the failure leaves the turn the thread is running; the handler of the failure does not.
-/

namespace GT3Code.Provider

open GT3Code.Base GT3Code.Contracts

variable {runtime : ReactorRuntime}

def Untouched (state next : ReactorState) : Prop :=
  next.adapterCalls = state.adapterCalls ∧ next.runningTurn = state.runningTurn

def TurnKept (state next : ReactorState) : Prop :=
  state.adapterCalls < next.adapterCalls ∨ Untouched state next

def AdapterCalled (state next : ReactorState) : Prop := state.adapterCalls < next.adapterCalls

def CallsGrow (state next : ReactorState) : Prop := state.adapterCalls ≤ next.adapterCalls

theorem Untouched.refl (state : ReactorState) : Untouched state state := ⟨rfl, rfl⟩

theorem Untouched.trans (first second third : ReactorState) (h : Untouched first second)
    (hnext : Untouched second third) : Untouched first third :=
  ⟨hnext.1.trans h.1, hnext.2.trans h.2⟩

theorem Untouched.kept (state next : ReactorState) (h : Untouched state next) :
    TurnKept state next := .inr h

theorem TurnKept.refl (state : ReactorState) : TurnKept state state := .inr ⟨rfl, rfl⟩

variable {state : ReactorState} {change : OrchestrationThread → OrchestrationThread}

theorem TurnKept.grow {next : ReactorState} (h : TurnKept state next) : CallsGrow state next := by
  unfold CallsGrow
  rcases h with hcalled | ⟨hsame, -⟩
  · omega
  · omega

theorem TurnKept.trans (first second third : ReactorState) (h : TurnKept first second)
    (hnext : TurnKept second third) : TurnKept first third := by
  rcases h with hcalled | ⟨hcalls, hturn⟩
  · have hgrow := hnext.grow
    unfold CallsGrow at hgrow
    exact .inl (by omega)
  · rcases hnext with hcalled | hsame
    · exact .inl (by omega)
    · exact .inr (Untouched.trans first second third ⟨hcalls, hturn⟩ hsame)

theorem AdapterCalled.grow (first second third : ReactorState)
    (h : AdapterCalled first second) (hnext : CallsGrow second third) :
    TurnKept first third := by
  unfold AdapterCalled at h
  unfold CallsGrow at hnext
  exact .inl (by omega)

theorem CallsGrow.refl (state : ReactorState) : CallsGrow state state :=
  Nat.le_refl state.adapterCalls

theorem CallsGrow.trans (first second third : ReactorState) (h : CallsGrow first second)
    (hnext : CallsGrow second third) : CallsGrow first third := by
  unfold CallsGrow at h hnext ⊢
  omega

theorem runningTurn_afterCall (state : ReactorState) :
    (state.afterCall runtime).runningTurn = state.runningTurn := by
  unfold ReactorState.runningTurn ReactorState.afterCall
  cases state.thread with
  | none => rfl
  | some thread => exact runtime.runningTurn_meanwhile state.steps thread

theorem untouched_call {α : Type} (result : Nat → Except Cause α) :
    Moves Untouched (call runtime result) := by
  intro state
  unfold call
  cases result state.steps with
  | ok | error => exact ⟨rfl, runningTurn_afterCall state⟩

theorem moves_call {α : Type} (result : Nat → Except Cause α) :
    Moves TurnKept (call runtime result) :=
  (untouched_call result).imp Untouched.kept

theorem leads_callAdapter {α : Type} (result : Nat → ProviderOutcome α) :
    Leads TurnKept AdapterCalled (callAdapter runtime result) := by
  intro state
  unfold callAdapter
  cases result state.steps with
  | refused cause => exact .inr ⟨rfl, runningTurn_afterCall state⟩
  | failed cause => exact .inl (Nat.lt_succ_self _)
  | done value => exact Nat.lt_succ_self _

theorem untouched_resolveThread : Moves Untouched (resolveThread runtime) := by
  unfold resolveThread
  apply Moves.bind Untouched.trans
  · exact untouched_call _
  · intro _
    apply Moves.bind Untouched.trans
    · exact moves_get Untouched.refl
    · exact fun state => moves_pure Untouched.refl _

theorem moves_resolveThread : Moves TurnKept (resolveThread runtime) :=
  untouched_resolveThread.imp Untouched.kept

theorem untouched_dispatch (hchange : ∀ thread, (change thread).session = thread.session) :
    Moves Untouched (dispatch runtime change) := by
  unfold dispatch
  apply Moves.bind Untouched.trans
  · exact untouched_call _
  · intro _
    apply moves_modify
    intro state
    refine ⟨rfl, ?_⟩
    unfold ReactorState.runningTurn
    cases state.thread with
    | none => rfl
    | some thread => exact congrArg runningTurn (hchange thread)

theorem grows_dispatch (change : OrchestrationThread → OrchestrationThread) :
    Moves CallsGrow (dispatch runtime change) := by
  unfold dispatch
  apply Moves.bind CallsGrow.trans
  · exact (moves_call _).imp fun _ _ => TurnKept.grow
  · intro _
    apply moves_modify
    exact fun state => CallsGrow.refl state

theorem untouched_appendProviderFailureActivity (detail : String) (createdAt : IsoDateTime) :
    Moves Untouched (appendProviderFailureActivity runtime detail createdAt) := by
  unfold appendProviderFailureActivity
  apply Moves.bind Untouched.trans
  · exact moves_get Untouched.refl
  · exact fun _ => untouched_dispatch fun _ => rfl

theorem moves_failIf (condition : Bool) (cause : Cause) : Moves TurnKept (failIf condition cause) := by
  unfold failIf
  split
  · exact moves_throw TurnKept.refl cause
  · exact moves_pure TurnKept.refl _

theorem moves_getInstanceInfo (instanceId : ProviderInstanceId) (detail : String) :
    Moves TurnKept (getInstanceInfo runtime instanceId detail) := by
  intro state
  have hcall := @moves_call runtime _ (fun n => runtime.getInstanceInfo n instanceId) state
  unfold getInstanceInfo
  cases hrun : call runtime (fun n => runtime.getInstanceInfo n instanceId) state with
  | ok value next =>
    rw [hrun] at hcall
    rw [tryCatch_ok hrun]
    exact hcall
  | error cause next =>
    rw [hrun] at hcall
    rw [tryCatch_error hrun]
    exact hcall

theorem moves_checkSwitch (thread : OrchestrationThread) (currentId : ProviderInstanceId)
    (requested : Option ModelSelection) (currentInfo desiredInfo : ProviderInstanceInfo) :
    Moves TurnKept (checkSwitch thread currentId requested currentInfo desiredInfo) := by
  unfold checkSwitch
  apply Moves.bind TurnKept.trans
  · exact moves_failIf _ _
  · exact fun _ => moves_failIf _ _

theorem moves_checkInstances (thread : OrchestrationThread)
    (activeSession : Option ProviderSession) (requested : Option ModelSelection) :
    Moves TurnKept (checkInstances runtime thread activeSession requested) := by
  unfold checkInstances
  apply Moves.bind TurnKept.trans
  · exact moves_failIf _ _
  · intro _
    apply Moves.bind TurnKept.trans
    · exact moves_getInstanceInfo _ _
    · intro currentInfo
      apply Moves.bind TurnKept.trans
      · exact moves_getInstanceInfo _ _
      · intro desiredInfo
        apply Moves.bind TurnKept.trans
        · exact moves_failIf _ _
        · intro _
          apply Moves.bind TurnKept.trans
          · exact moves_checkSwitch _ _ _ _ _
          · exact fun _ => moves_pure TurnKept.refl _

theorem moves_resolveActiveSession (threadId : ThreadId) :
    Moves TurnKept (resolveActiveSession runtime threadId) := by
  unfold resolveActiveSession
  apply Moves.bind TurnKept.trans
  · exact moves_call _
  · exact fun _ => moves_pure TurnKept.refl _

theorem leads_startProviderSession (input : StartSessionInput) (signature : Option String) :
    Leads TurnKept AdapterCalled (startProviderSession runtime input signature) := by
  intro state
  have hlead := @leads_callAdapter runtime _ (fun n => runtime.startSession n input) state
  unfold startProviderSession
  cases hrun : callAdapter runtime (fun n => runtime.startSession n input) state with
  | ok session next =>
    rw [hrun] at hlead
    rw [bind_ok hrun]
    exact hlead
  | error cause next =>
    rw [hrun] at hlead
    rw [bind_error hrun]
    exact hlead

theorem moves_restartSession (thread : OrchestrationThread) (desiredInfo : ProviderInstanceInfo)
    (requested : Option ModelSelection) (cwd signature : Option String)
    (resumeCursor : Option Json) :
    Moves TurnKept
      (restartSession runtime thread desiredInfo requested cwd signature resumeCursor) := by
  unfold restartSession
  apply Leads.bind AdapterCalled.grow
  · exact leads_startProviderSession _ _
  · intro session
    unfold bindSessionToThread
    split
    · exact moves_throw CallsGrow.refl _
    · exact grows_dispatch _

theorem moves_keepOrRestart (thread : OrchestrationThread) (session : ProviderSession)
    (desiredInfo : ProviderInstanceInfo) (requested : Option ModelSelection)
    (cwd signature : Option String) :
    Moves TurnKept
      (keepOrRestart runtime thread session desiredInfo requested cwd signature) := by
  unfold keepOrRestart
  apply Moves.bind TurnKept.trans
  · exact moves_call _
  · intro modelSwitch
    apply Moves.bind TurnKept.trans
    · exact moves_get TurnKept.refl
    · intro state
      simp only
      split
      · exact moves_restartSession _ _ _ _ _ _
      · exact moves_pure TurnKept.refl _

theorem moves_ensureSessionForThread (threadId : ThreadId) (requested : Option ModelSelection) :
    Moves TurnKept (ensureSessionForThread runtime threadId requested) := by
  unfold ensureSessionForThread
  apply Moves.bind TurnKept.trans
  · exact moves_resolveThread
  · intro found
    cases found with
    | none => exact moves_throw TurnKept.refl _
    | some thread =>
      apply Moves.bind TurnKept.trans
      · exact moves_resolveActiveSession _
      · intro activeSession
        apply Moves.bind TurnKept.trans
        · exact moves_checkInstances _ _ _
        · intro desiredInfo
          apply Moves.bind TurnKept.trans
          · exact moves_call _
          · intro project
            simp only
            split
            · exact moves_keepOrRestart _ _ _ _ _ _
            · exact moves_restartSession _ _ _ _ _ _

theorem moves_activeModelSwitch (activeSession : Option ProviderSession) :
    Moves TurnKept (activeModelSwitch runtime activeSession) := by
  unfold activeModelSwitch
  split
  · exact moves_pure TurnKept.refl _
  · split
    · exact moves_throw TurnKept.refl _
    · exact moves_call _

theorem moves_buildSendTurnRequestForThread (event : TurnStartRequested)
    (message : OrchestrationMessage) :
    Moves TurnKept (buildSendTurnRequestForThread runtime event message) := by
  unfold buildSendTurnRequestForThread
  apply Moves.bind TurnKept.trans
  · exact moves_resolveThread
  · intro found
    cases found with
    | none => exact moves_throw TurnKept.refl _
    | some thread =>
      apply Moves.bind TurnKept.trans
      · exact moves_ensureSessionForThread _ _
      · intro _
        apply Moves.bind TurnKept.trans
        · exact moves_modify fun _ => .inr ⟨rfl, rfl⟩
        · intro _
          apply Moves.bind TurnKept.trans
          · exact moves_resolveActiveSession _
          · intro activeSession
            apply Moves.bind TurnKept.trans
            · exact moves_activeModelSwitch _
            · intro modelSwitch
              apply Moves.bind TurnKept.trans
              · exact moves_get TurnKept.refl
              · exact fun _ => moves_pure TurnKept.refl _

theorem moves_findTurnMessage (event : TurnStartRequested) :
    Moves TurnKept (findTurnMessage runtime event) := by
  unfold findTurnMessage
  apply Moves.bind TurnKept.trans
  · intro state
    exact .inr ⟨rfl, rfl⟩
  · intro handled
    split
    · exact moves_pure TurnKept.refl _
    · apply Moves.bind TurnKept.trans
      · exact moves_resolveThread
      · intro found
        cases found with
        | none => exact moves_pure TurnKept.refl _
        | some thread =>
          simp only
          split
          · apply Moves.bind TurnKept.trans
            · exact (untouched_appendProviderFailureActivity _ _).imp Untouched.kept
            · exact fun _ => moves_pure TurnKept.refl _
          · apply Moves.bind TurnKept.trans
            · unfold prepareFirstTurn
              split
              · apply Moves.bind TurnKept.trans
                · exact moves_call _
                · exact fun _ => moves_pure TurnKept.refl _
              · exact moves_pure TurnKept.refl _
            · exact fun _ => moves_pure TurnKept.refl _

theorem moves_sendTurn (request : SendTurnInput) :
    Leads TurnKept AdapterCalled (sendTurn runtime request) := by
  unfold sendTurn
  exact leads_callAdapter _

/-! ## The handler of the failure -/

/-- The failure the handler gets, and the state it finds: there is a user message, but the
request is not built or not accepted. -/
def refusal (runtime : ReactorRuntime) (event : TurnStartRequested) (state : ReactorState) :
    Option (Cause × ReactorState) :=
  match findTurnMessage runtime event state with
  | .ok (some message) found =>
    match buildSendTurnRequestForThread runtime event message found with
    | .ok request built =>
      match sendTurn runtime request built with
      | .ok _ _ => none
      | .error cause last => some (cause, last)
    | .error cause last => some (cause, last)
  | _ => none

theorem resolveThread_ok (h : runtime.resolveThreadFailure state.steps = none) :
    resolveThread runtime state =
      .ok (state.afterCall runtime).thread (state.afterCall runtime) := by
  unfold resolveThread
  apply bind_ok
  simp only [call, h]
  rfl

variable {cause : Cause} {turnId : TurnId}

theorem resolveThread_error (h : runtime.resolveThreadFailure state.steps = some cause) :
    resolveThread runtime state = .error cause (state.afterCall runtime) := by
  unfold resolveThread
  apply bind_error
  simp only [call, h]

theorem dispatch_ok (h : runtime.dispatchFailure state.steps = none) :
    dispatch runtime change state = .ok ()
      { state.afterCall runtime with
        thread := (state.afterCall runtime).thread.map change } := by
  unfold dispatch
  apply bind_ok
  simp only [call, h]
  rfl

theorem dispatch_error (h : runtime.dispatchFailure state.steps = some cause) :
    dispatch runtime change state = .error cause (state.afterCall runtime) := by
  unfold dispatch
  apply bind_error
  simp only [call, h]

theorem thread_of_runningTurn (h : state.runningTurn = some turnId) :
    ∃ thread session, state.thread = some thread ∧ thread.session = some session := by
  unfold ReactorState.runningTurn at h
  cases hthread : state.thread with
  | none =>
    rw [hthread] at h
    cases h
  | some thread =>
    cases hsession : thread.session with
    | none =>
      rw [hthread, Option.bind_some, hsession] at h
      cases h
    | some session => exact ⟨thread, session, rfl, hsession⟩

theorem runningTurn_withSession {session : OrchestrationSession}
    (h : runningTurn (some session) = none) (state : ReactorState) :
    ReactorState.runningTurn
      { state with
        thread := state.thread.map fun thread => { thread with session := some session } } =
      none := by
  unfold ReactorState.runningTurn
  cases state.thread with
  | none => rfl
  | some thread => exact h

theorem setThreadSessionError_cases {state : ReactorState} {turnId : TurnId}
    (detail : String) (createdAt : IsoDateTime) (hturn : state.runningTurn = some turnId) :
    (((runtime.resolveThreadFailure state.steps).isSome ∨
        (runtime.dispatchFailure (state.steps + 1)).isSome) ∧
      ∃ cause next,
        setThreadSessionErrorOnTurnStartFailure runtime detail createdAt state =
          .error cause next ∧ Untouched state next) ∨
    (runtime.resolveThreadFailure state.steps = none ∧
      runtime.dispatchFailure (state.steps + 1) = none ∧
      ∃ next,
        setThreadSessionErrorOnTurnStartFailure runtime detail createdAt state = .ok () next ∧
          next.runningTurn = none) := by
  have hafter : Untouched state (state.afterCall runtime) :=
    ⟨rfl, @runningTurn_afterCall runtime state⟩
  unfold setThreadSessionErrorOnTurnStartFailure
  cases hread : runtime.resolveThreadFailure state.steps with
  | some cause =>
    exact .inl ⟨.inl rfl, cause, _, bind_error (resolveThread_error hread), hafter⟩
  | none =>
    obtain ⟨thread, session, hthread, hsession⟩ :=
      thread_of_runningTurn (hafter.2.trans hturn)
    rw [bind_ok (resolveThread_ok hread), hthread, Option.bind_some, hsession]
    unfold setThreadSession
    have hsteps : (state.afterCall runtime).steps = state.steps + 1 := rfl
    cases hwrite : runtime.dispatchFailure (state.steps + 1) with
    | some cause =>
      refine .inl ⟨.inr rfl, cause, _, dispatch_error (by rw [hsteps, hwrite]), ?_⟩
      exact Untouched.trans _ _ _ hafter ⟨rfl, runningTurn_afterCall _⟩
    | none =>
      refine .inr ⟨rfl, rfl, _, dispatch_ok (by rw [hsteps, hwrite]), ?_⟩
      apply runningTurn_withSession
      exact ite_self none

theorem grows_handleTurnStartFailure (event : TurnStartRequested) (cause : Cause) :
    Moves CallsGrow (handleTurnStartFailure runtime event cause) := by
  have hgrow : ∀ state next, Untouched state next → CallsGrow state next :=
    fun state next h => (Untouched.kept state next h).grow
  unfold handleTurnStartFailure
  split
  · exact moves_pure CallsGrow.refl _
  · apply Moves.bind CallsGrow.trans
    · unfold setThreadSessionErrorOnTurnStartFailure
      apply Moves.bind CallsGrow.trans
      · exact untouched_resolveThread.imp hgrow
      · intro found
        split
        · exact moves_pure CallsGrow.refl _
        · exact grows_dispatch _
    · intro _
      exact (untouched_appendProviderFailureActivity _ _).imp hgrow

theorem runningTurn_handleTurnStartFailure (event : TurnStartRequested) (cause : Cause)
    (hturn : state.runningTurn = some turnId) :
    (finalState (handleTurnStartFailure runtime event cause state)).runningTurn = some turnId ↔
      cause.hasInterruptsOnly = true ∨ (runtime.resolveThreadFailure state.steps).isSome ∨
        (runtime.dispatchFailure (state.steps + 1)).isSome := by
  unfold handleTurnStartFailure
  split
  · rename_i honly
    exact ⟨fun _ => .inl honly, fun _ => hturn⟩
  · rename_i honly
    rcases @setThreadSessionError_cases runtime state turnId
      (formatFailureDetail runtime cause) event.createdAt hturn with ⟨hfails, failure, next, hrun, hsame⟩ |
        ⟨hread, hwrite, next, hrun, hnone⟩
    · simp only
      rw [bind_error hrun]
      exact ⟨fun _ => .inr hfails, fun _ => hsame.2.trans hturn⟩
    · simp only
      rw [bind_ok hrun]
      have hlast := @untouched_appendProviderFailureActivity runtime
        (formatFailureDetail runtime cause) event.createdAt next
      refine ⟨fun hkept => ?_, fun hcondition => ?_⟩
      · rw [hlast.2.trans hnone] at hkept
        cases hkept
      · rw [hread, hwrite] at hcondition
        rcases hcondition with honlyTrue | hsome | hsome
        · exact absurd honlyTrue honly
        · cases hsome
        · cases hsome

/-- Either no failure gets to the handler, and the turn is kept unless an adapter is called, or
the handler of the failure has the last word. -/
theorem processTurnStartRequested_cases (event : TurnStartRequested) (state : ReactorState) :
    (refusal runtime event state = none ∧
      TurnKept state (finalState (processTurnStartRequested runtime event state))) ∨
    ∃ cause last,
      refusal runtime event state = some (cause, last) ∧ TurnKept state last ∧
        finalState (processTurnStartRequested runtime event state) =
          finalState (handleTurnStartFailure runtime event cause last) := by
  unfold processTurnStartRequested refusal
  have hfind := @moves_findTurnMessage runtime event state
  cases hfound : findTurnMessage runtime event state with
  | error cause next =>
    rw [hfound] at hfind
    rw [bind_error hfound]
    exact .inl ⟨rfl, hfind⟩
  | ok message found =>
    rw [hfound] at hfind
    rw [bind_ok hfound]
    cases message with
    | none => exact .inl ⟨rfl, hfind⟩
    | some message =>
      have hbuild := @moves_buildSendTurnRequestForThread runtime event message found
      simp only
      cases hbuilt : buildSendTurnRequestForThread runtime event message found with
      | error cause last =>
        rw [hbuilt] at hbuild
        exact .inr ⟨cause, last, rfl, TurnKept.trans _ _ _ hfind hbuild,
          finalState_handled hbuilt rfl⟩
      | ok request built =>
        rw [hbuilt] at hbuild
        have hsend := @moves_sendTurn runtime request built
        rw [bind_ok (tryCatch_ok (map_ok hbuilt))]
        simp only
        cases hsent : sendTurn runtime request built with
        | ok _ last =>
          rw [hsent] at hsend
          rw [tryCatch_ok hsent]
          have hgrow := (TurnKept.trans _ _ _ hfind hbuild).grow
          unfold CallsGrow at hgrow
          unfold AdapterCalled at hsend
          simp only [finalState] at hgrow
          exact .inl ⟨rfl, .inl (by simp only [finalState]; omega)⟩
        | error cause last =>
          rw [hsent] at hsend
          rw [tryCatch_error hsent, finalState_dropFailure]
          refine .inr ⟨cause, last, rfl, ?_, rfl⟩
          exact TurnKept.trans _ _ _ (TurnKept.trans _ _ _ hfind hbuild) hsend

def runningSession : OrchestrationSession :=
  { threadId := "thread-1", status := .running, providerName := some "codex"
    providerInstanceId := some "codex", runtimeMode := .fullAccess
    activeTurnId := some "turn-1", lastError := none, updatedAt := "2026-01-01T00:00:01Z" }

def runningThread : OrchestrationThread :=
  { id := "thread-1", projectId := "project-1", title := "Thread"
    modelSelection := { instanceId := "codex", model := "gpt-5", options := none }
    runtimeMode := .fullAccess, interactionMode := .default, branch := none
    worktreePath := none, latestTurn := none, createdAt := "2026-01-01T00:00:00Z"
    updatedAt := "2026-01-01T00:00:02Z", archivedAt := none, deletedAt := none
    messages :=
      [{ id := "message-2", role := .user, text := "and then", attachments := none
         turnId := none, streaming := false, createdAt := "2026-01-01T00:00:02Z"
         updatedAt := "2026-01-01T00:00:02Z" }]
    proposedPlans := [], activities := [], checkpoints := []
    session := some runningSession, customMetadata := KeyedTable.empty _ }

def runningState : ReactorState :=
  { thread := some runningThread, handledTurnStartKeys := [], threadModelSelection := none
    gcSessionEnvSignature := none, adapterCalls := 0, steps := 0 }

def codexOnly : ReactorRuntime :=
  { meanwhile := fun _ thread => thread
    runningTurn_meanwhile := fun _ _ => rfl
    resolveThreadFailure := fun _ => none
    dispatchFailure := fun _ => none
    getProjectShellById := fun _ _ => .ok none
    listSessions := fun _ => .ok
      [{ provider := "codex", providerInstanceId := some "codex", status := .running
         runtimeMode := .fullAccess, pid := none, cwd := none, model := some "gpt-5"
         threadId := "thread-1", resumeCursor := none, activeTurnId := some "turn-1"
         createdAt := "2026-01-01T00:00:00Z", updatedAt := "2026-01-01T00:00:01Z"
         lastError := none }]
    getInstanceInfo := fun _ instanceId =>
      if instanceId = "codex" then
        .ok { driverKind := "codex", continuationKey := "codex" }
      else .error (.other false "unknown provider instance")
    getCapabilities := fun _ _ => .ok .inSession
    startSession := fun _ _ => .refused (.other false "no session")
    sendTurn := fun _ _ => .done ()
    isProviderDriverKind := fun _ => true
    gcSessionEnvSignature := fun _ => none
    trim := fun text => text
    pretty := fun _ => "failure"
    randomUUID := fun n => toString n }

def startOn (instanceId : ProviderInstanceId) (messageId : MessageId) : TurnStartRequested :=
  { eventId := "event-2", commandId := some "command-2", threadId := "thread-1"
    messageId := messageId
    modelSelection := some { instanceId := instanceId, model := "gpt-5", options := none }
    interactionMode := .default, createdAt := "2026-01-01T00:00:03Z" }

end GT3Code.Provider
