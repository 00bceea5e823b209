import GT3Code.Codex.SessionRuntime

/-! # The fibers of the session runtime

What each fiber may do next: a caller waits for responses to requests it has registered only, and
the read loop owes every message its effect, a response to the caller, a notification to the queue
and a request to the user.
-/

namespace GT3Code.Codex

open GT3Code.Base GT3Code.Contracts

/-- `close` has the runtime's scope closed behind it in the end. -/
inductive CallKind where
  | starting
  | calling
  | closing
  | closed

inductive Owed where
  | nothing
  | take
  | complete (id : Nat)
  | offer (notification : ServerNotification)
  | present (request : ServerRequest)

inductive TerminationStep where
  | classifying
  | failing (ids : List Nat)
  | cleared

inductive Fiber where
  | idle
  | caller (kind : CallKind) (registered : List Nat)
  | routing (number : Nat) (message : ServerMessage) (owed : Owed)
  | terminating (step : TerminationStep)
  | watching

def SessionUpdate.madeBy : CallKind → SessionUpdate → Prop
  | .calling, .turnSent _ _ | .calling, .rolledBack | .closing, .closed => True
  | _, _ => False

def ServerMessage.asksUser : ServerMessage → Bool
  | .request _ serverRequest => serverRequest.asksUser
  | _ => false

def ServerMessage.changes (message : ServerMessage) (change : SessionUpdate) : Prop :=
  ∃ notification threadId, message = .notification notification ∧
    notification.change = some (threadId, change)

def Owed.ofMessage : ServerMessage → Owed
  | .response _ => .take
  | .notification notification => .offer notification
  | .request _ serverRequest =>
    if serverRequest.asksUser then .present serverRequest else .nothing

namespace Fiber

def allowed : Fiber → CodexOp → Prop
  | .caller kind registered, op =>
    match op with
    | .awaitResponse id => id ∈ registered
    | .updateSession change => change.madeBy kind
    | .emit event => ∀ requestId request, event ≠ .request requestId request
    | .setSession _ => kind = .starting
    | .getAndSetClosed | .closeScope | .awaitScope => kind = .closing
    | .shutdownNotifications | .shutdownEvents => kind = .closed
    | .getSession | .allocateRequestId | .registerPending _ | .offerOutgoing _
    | .deletePending _ _ | .getPending _ | .succeed _ _ => True
    | _ => False
  | .routing number message owed, op =>
    match op with
    | .updateSession change => message.changes change
    | .awaitAnswer _ _ deferred =>
      deferred = number ∧ message.asksUser = true ∧ owed = .nothing
    | .emit event => ∃ requestId request, event = .request requestId request ∧
        owed = .present request
    | .offerNotification notification => owed = .offer notification
    | .takePending key => owed = .take ∧ ∃ response, message = .response response ∧ key = response.id
    | .completeResponse id _ => owed = .complete id
    | .nextUUID | .getSession | .setPending _ _ | .setCorrelation _ _ | .deletePending _ _
    | .offerOutgoing _ => True
    | _ => False
  | .terminating step, op =>
    match step, op with
    | .classifying, .handleTermination | .classifying, .awaitExitCode
    | .classifying, .getPendingResponses | .cleared, .endOutgoing => True
    | .failing ids, .completeResponse id _ => ids.head? = some id
    | .failing ids, .clearPending => ids = []
    | _, _ => False
  | .watching, op =>
    match op with
    | .awaitExitCode | .getClosed | .updateSession (.exited _) | .emit (.session _ _) => True
    | _ => False
  | .idle, _ => False

def next : Fiber → (op : CodexOp) → op.Result → Fiber
  | .caller kind registered, .registerPending id, _ => .caller kind (id :: registered)
  | .caller .closing registered, .awaitScope, _ => .caller .closed registered
  | .routing number message _, .emit _, _ => .routing number message .nothing
  | .routing number message _, .offerNotification _, _ => .routing number message .nothing
  | .routing number message _, .takePending _, some id => .routing number message (.complete id)
  | .routing number message _, .takePending _, none => .routing number message .nothing
  | .routing number message _, .completeResponse _ _, _ => .routing number message .nothing
  | .terminating _, .getPendingResponses, ids => .terminating (.failing ids)
  | .terminating (.failing ids), .completeResponse _ _, _ => .terminating (.failing ids.tail)
  | .terminating _, .clearPending, _ => .terminating .cleared
  | fiber, _, _ => fiber

def ended : Fiber → Prop
  | .routing _ _ owed => owed = .nothing
  | .terminating (.failing _) => False
  | _ => True

end Fiber

variable {fiber : Fiber} {change : SessionUpdate} {op : CodexOp} {number : Nat}

theorem Fiber.of_allowed_update (h : fiber.allowed (.updateSession change)) :
    (∃ kind registered, fiber = .caller kind registered ∧ change.madeBy kind) ∨
    (∃ number message owed, fiber = .routing number message owed ∧ message.changes change) ∨
    (fiber = .watching ∧ ∃ exitCode, change = .exited exitCode) := by
  cases fiber with
  | idle => cases h
  | caller kind registered => exact Or.inl ⟨kind, registered, rfl, h⟩
  | routing number message owed => exact Or.inr (Or.inl ⟨number, message, owed, rfl, h⟩)
  | terminating step => cases step <;> cases h
  | watching =>
    cases change with
    | exited exitCode => exact Or.inr (Or.inr ⟨rfl, exitCode, rfl⟩)
    | _ => cases h

variable {res : op.Result} {message : ServerMessage} {owed : Owed} {kind : CallKind}
  {registered : List Nat} {process : CodexEffect PUnit} {serverRequest : ServerRequest}

theorem Fiber.of_next_routing (h : fiber.next op res = .routing number message owed) :
    ∃ before, fiber = .routing number message before := by
  unfold Fiber.next at h
  split at h
  all_goals first
    | (cases h; exact ⟨_, rfl⟩)
    | cases h

theorem Fiber.of_next_caller (h : fiber.next op res = .caller kind registered) :
    (∃ before, fiber = .caller kind before) ∨
      (kind = .closed ∧ op = .awaitScope ∧ fiber = .caller .closing registered) := by
  unfold Fiber.next at h
  split at h
  case h_2 =>
    cases h
    exact Or.inr ⟨rfl, rfl, rfl⟩
  all_goals first
    | (cases h; exact Or.inl ⟨_, rfl⟩)
    | cases h

theorem Fiber.registered_of_next {id : Nat} (h : fiber.next op res = .caller kind registered)
    (hid : id ∈ registered) :
    (∃ kind' before, fiber = .caller kind' before ∧ id ∈ before) ∨
      op = .registerPending id := by
  unfold Fiber.next at h
  split at h
  case h_1 =>
    cases h
    rcases List.mem_cons.mp hid with rfl | hid
    · exact Or.inr rfl
    · exact Or.inl ⟨_, _, rfl, hid⟩
  all_goals first
    | (cases h; exact Or.inl ⟨_, _, rfl, hid⟩)
    | cases h

def fibers : Typestate CodexOp CodexOp.Result Fiber where
  allowed := Fiber.allowed
  next := Fiber.next
  idle := .idle
  ended := Fiber.ended
  ended_idle := trivial

/-! ## Callers -/

def Fiber.calls (kind : CallKind) (fiber : Fiber) : Prop :=
  ∃ registered, fiber = .caller kind registered

def CallerSafe {α : Type} (kind : CallKind) (process : CodexEffect α) : Prop :=
  ∀ fiber : Fiber, fiber.calls kind →
    fibers.Follows (fun _ => Fiber.calls kind) (fun _ => Fiber.calls kind) process fiber

variable {kind : CallKind} {α β : Type}

theorem CallerSafe.bind {process : CodexEffect α} {next : α → CodexEffect β}
    (h : CallerSafe kind process) (hnext : ∀ value, CallerSafe kind (next value)) :
    CallerSafe kind (process.bind next) := by
  intro fiber hfiber
  exact (h fiber hfiber).bind fun value fiber hfiber => hnext value fiber hfiber

theorem CallerSafe.done (value : α) : CallerSafe kind (.done value : CodexEffect α) :=
  fun _ hfiber => hfiber

theorem CallerSafe.fail (error : CodexSessionRuntimeError) :
    CallerSafe kind (.fail error : CodexEffect α) :=
  fun _ hfiber => hfiber

theorem CallerSafe.perform (hallowed : ∀ registered, Fiber.allowed (.caller kind registered) op)
    (hnext : ∀ registered res, Fiber.calls kind (Fiber.next (.caller kind registered) op res)) :
    CallerSafe kind (perform op) := by
  rintro _ ⟨registered, rfl⟩
  exact Typestate.Follows.perform (hallowed registered) (hnext registered)

theorem callerSafe_getSession : CallerSafe kind (perform .getSession) :=
  .perform (fun _ => trivial) fun registered _ => ⟨registered, rfl⟩

theorem callerSafe_emit {event : CodexEvent}
    (h : ∀ requestId request, event ≠ .request requestId request) :
    CallerSafe kind (perform (.emit event)) :=
  .perform (fun _ => h) fun registered _ => ⟨registered, rfl⟩

theorem callerSafe_updateSession (h : change.madeBy kind) :
    CallerSafe kind (perform (.updateSession change)) :=
  .perform (fun _ => h) fun registered _ => ⟨registered, rfl⟩

theorem rawRequest_callerSafe (payload : ClientRequest) : CallerSafe kind (rawRequest payload) := by
  rintro _ ⟨registered, rfl⟩
  refine ⟨trivial, fun requestId => ⟨trivial, fun _ => ⟨trivial, fun _ =>
    ⟨List.mem_cons_self, fun exit => ?_⟩⟩⟩⟩
  cases exit <;> exact ⟨_, rfl⟩

theorem request_callerSafe (method : String) (decode : Option Json → Except String α)
    (payload : ClientRequest) : CallerSafe kind (request method decode payload) := by
  apply CallerSafe.bind (rawRequest_callerSafe payload)
  intro result
  cases decode result with
  | ok value => exact .done value
  | error issue => exact .fail _

theorem readProviderThreadId_callerSafe : CallerSafe kind readProviderThreadId := by
  apply CallerSafe.bind callerSafe_getSession
  intro session
  cases truthy (currentProviderThreadId session) with
  | some providerThreadId => exact .done providerThreadId
  | none => exact .fail _

variable (library : CodexLibrary) (options : CodexSessionRuntimeOptions)

theorem openCodexThread_callerSafe (requestedModel : Option String) :
    CallerSafe kind (openCodexThread library options requestedModel) := by
  unfold openCodexThread
  cases options.resumeCursor with
  | none => exact request_callerSafe _ _ _
  | some cursor =>
    intro fiber hfiber
    apply Typestate.Follows.orElse (request_callerSafe _ _ _ fiber hfiber)
    intro error fiber hfiber
    cases error with
    | appServer appServerError =>
      show fibers.Follows _ _ (ite _ _ _) fiber
      split
      · exact request_callerSafe _ _ _ fiber hfiber
      · exact hfiber
    | _ => exact hfiber

theorem start_callerSafe : CallerSafe .starting (start library options) := by
  apply CallerSafe.bind (callerSafe_emit fun _ _ h => by cases h)
  intro _
  apply CallerSafe.bind (request_callerSafe _ _ _)
  intro _
  apply CallerSafe.bind
  · exact .perform (fun _ => trivial) fun registered _ => ⟨registered, rfl⟩
  intro _
  apply CallerSafe.bind (openCodexThread_callerSafe library options _)
  intro opened
  apply CallerSafe.bind callerSafe_getSession
  intro session
  apply CallerSafe.bind
  · exact .perform (fun _ => rfl) fun registered _ => ⟨registered, rfl⟩
  intro _
  exact callerSafe_emit fun _ _ h => by cases h

theorem turnModel_callerSafe (input : CodexSessionRuntimeSendTurnInput) :
    CallerSafe kind (turnModel input) := by
  unfold turnModel
  cases input.model with
  | some model => exact .done _
  | none => exact callerSafe_getSession.bind fun session => .done session.model

theorem sendTurn_callerSafe (input : CodexSessionRuntimeSendTurnInput) :
    CallerSafe .calling (sendTurn library options input) := by
  apply CallerSafe.bind readProviderThreadId_callerSafe
  intro providerThreadId
  apply CallerSafe.bind (turnModel_callerSafe input)
  intro model
  apply CallerSafe.bind (rawRequest_callerSafe _)
  intro rawResponse
  cases library.decodeTurnStart rawResponse with
  | error issue => exact .fail _
  | ok turnId =>
    apply CallerSafe.bind
    · exact callerSafe_updateSession trivial
    intro _
    exact callerSafe_getSession.bind fun _ => .done _

theorem interruptTurn_callerSafe (turnId : Option TurnId) :
    CallerSafe .calling (interruptTurn library turnId) := by
  apply CallerSafe.bind readProviderThreadId_callerSafe
  intro providerThreadId
  apply CallerSafe.bind callerSafe_getSession
  intro session
  cases effectiveTurnId turnId session with
  | none => exact .done _
  | some target => exact request_callerSafe _ _ _

theorem readThread_callerSafe : CallerSafe .calling (readThread library) := by
  apply CallerSafe.bind readProviderThreadId_callerSafe
  intro providerThreadId
  exact request_callerSafe _ _ _

theorem rollbackThread_callerSafe (numTurns : Nat) :
    CallerSafe .calling (rollbackThread library numTurns) := by
  apply CallerSafe.bind readProviderThreadId_callerSafe
  intro providerThreadId
  apply CallerSafe.bind (request_callerSafe _ _ _)
  intro _
  exact callerSafe_updateSession trivial

theorem settle_callerSafe (pendingKind : PendingKind) (requestId : ApprovalRequestId)
    (pending : PendingRequest) (answer : UserAnswer) :
    CallerSafe kind ((perform (.deletePending pendingKind requestId)).bind fun _ =>
      (perform (.succeed pending.deferred answer)).bind fun _ =>
        perform (.emit (.answered pending answer))) := by
  apply CallerSafe.bind
  · exact .perform (fun _ => trivial) fun registered _ => ⟨registered, rfl⟩
  intro _
  apply CallerSafe.bind
  · exact .perform (fun _ => trivial) fun registered _ => ⟨registered, rfl⟩
  intro _
  exact callerSafe_emit fun _ _ h => by cases h

theorem callerSafe_getPending {pendingKind : PendingKind} :
    CallerSafe kind (perform (.getPending pendingKind)) :=
  .perform (fun _ => trivial) fun registered _ => ⟨registered, rfl⟩

theorem respondToRequest_callerSafe (requestId : ApprovalRequestId)
    (decision : ProviderApprovalDecision) :
    CallerSafe .calling (respondToRequest requestId decision) := by
  apply CallerSafe.bind callerSafe_getPending
  intro pendingApprovals
  cases List.find? (fun pending => decide (pending.requestId = requestId)) pendingApprovals with
  | none => exact .fail _
  | some pending => exact settle_callerSafe _ _ _ _

theorem respondToUserInput_callerSafe (requestId : ApprovalRequestId)
    (answers : List (String × Json)) :
    CallerSafe .calling (respondToUserInput requestId answers) := by
  apply CallerSafe.bind callerSafe_getPending
  intro pendingUserInputs
  cases List.find? (fun pending => decide (pending.requestId = requestId)) pendingUserInputs with
  | none => exact .fail _
  | some pending =>
    cases invalidAnswer answers with
    | some questionId => exact .fail _
    | none => exact settle_callerSafe _ _ _ _

theorem settlePending_callerSafe (pendingKind : PendingKind) (answer : UserAnswer) :
    CallerSafe kind (settlePending pendingKind answer) := by
  apply CallerSafe.bind callerSafe_getPending
  intro pending fiber hfiber
  refine Typestate.Follows.forEach (fun _ => Fiber.calls kind) ?_ pending hfiber
  intro pendingRequest rest fiber hfiber
  obtain ⟨registered, rfl⟩ := hfiber
  exact Typestate.Follows.perform trivial fun _ => ⟨registered, rfl⟩

theorem Fiber.calls.ended (h : fiber.calls kind) : fiber.ended := by
  obtain ⟨registered, rfl⟩ := h
  trivial

theorem close_runs : fibers.Runs close (.caller .closing []) := by
  have hsettle : ∀ pendingKind answer (fiber : Fiber), fiber.calls .closing →
      fibers.Follows (fun _ => Fiber.calls .closing) (fun _ => fibers.ended)
        (settlePending pendingKind answer) fiber :=
    fun pendingKind answer fiber hfiber =>
      (settlePending_callerSafe pendingKind answer fiber hfiber).imp (fun _ _ h => h)
        fun _ _ h => h.ended
  refine ⟨rfl, fun alreadyClosed => ?_⟩
  cases alreadyClosed with
  | true => trivial
  | false =>
    apply Typestate.Follows.bind (hsettle .approval _ _ ⟨[], rfl⟩)
    intro _ fiber hfiber
    apply Typestate.Follows.bind (hsettle .userInput _ fiber hfiber)
    rintro _ _ ⟨registered, rfl⟩
    exact ⟨trivial, fun _ => ⟨fun _ _ h => (by cases h), fun _ => ⟨rfl, fun _ => ⟨rfl, fun _ =>
      ⟨rfl, fun _ => ⟨rfl, fun _ => trivial⟩⟩⟩⟩⟩⟩

def CodexCall.callKind : CodexCall → CallKind
  | .start => .starting
  | .close => .closing
  | _ => .calling

theorem CallerSafe.runs (h : CallerSafe kind process) : fibers.Runs process (.caller kind []) :=
  (h _ ⟨[], rfl⟩).imp (fun _ _ h => h.ended) fun _ _ h => h.ended

theorem codexProgram_runs (call : CodexCall) :
    fibers.Runs (codexProgram library options call) (.caller call.callKind []) := by
  cases call with
  | start => exact (start_callerSafe library options).runs
  | sendTurn input => exact (sendTurn_callerSafe library options input).runs
  | interruptTurn turnId => exact (interruptTurn_callerSafe library turnId).runs
  | readThread => exact (readThread_callerSafe library).runs
  | rollbackThread numTurns => exact (rollbackThread_callerSafe library numTurns).runs
  | respondToRequest requestId decision =>
    exact (respondToRequest_callerSafe requestId decision).runs
  | respondToUserInput requestId answers =>
    exact (respondToUserInput_callerSafe requestId answers).runs
  | close => exact close_runs

theorem requestApproval_follows {id : JsonRpcId} (hasks : serverRequest.asksUser = true)
    (requestKind : ProviderRequestKind) (jsonRpcId turnId itemId : String)
    {Q : UserAnswer → Fiber → Prop} {E : RequestError → Fiber → Prop}
    (hQ : ∀ answer, Q answer (.routing number (.request id serverRequest) .nothing)) :
    fibers.Follows Q E (requestApproval number serverRequest requestKind jsonRpcId turnId itemId)
      (.routing number (.request id serverRequest) (.present serverRequest)) :=
  ⟨trivial, fun requestId => ⟨trivial, fun _ => ⟨trivial, fun _ =>
    ⟨⟨requestId, serverRequest, rfl, rfl⟩, fun _ => ⟨⟨rfl, hasks, rfl⟩, fun answer =>
      ⟨trivial, fun _ => hQ answer⟩⟩⟩⟩⟩⟩

theorem requestUserInput_follows {id : JsonRpcId} (hasks : serverRequest.asksUser = true)
    (turnId itemId : String) {Q : UserAnswer → Fiber → Prop} {E : RequestError → Fiber → Prop}
    (hQ : ∀ answer, Q answer (.routing number (.request id serverRequest) .nothing))
    (hE : ∀ error, E error (.routing number (.request id serverRequest) .nothing)) :
    fibers.Follows Q E (requestUserInput number serverRequest turnId itemId)
      (.routing number (.request id serverRequest) (.present serverRequest)) := by
  refine ⟨trivial, fun requestId => ⟨trivial, fun _ => ⟨⟨requestId, serverRequest, rfl, rfl⟩,
    fun _ => ⟨⟨rfl, hasks, rfl⟩, fun answer => ⟨trivial, fun _ => ?_⟩⟩⟩⟩⟩
  show fibers.Follows Q E (checkAnswers answer) (.routing number (.request id serverRequest) .nothing)
  cases answer with
  | decision decision => exact hQ _
  | answers answers =>
    cases hinvalid : invalidAnswer answers with
    | some questionId =>
      simp only [checkAnswers, hinvalid]
      exact hE _
    | none =>
      simp only [checkAnswers, hinvalid]
      exact hQ _

theorem dispatchRequest_follows (number : Nat) (id : JsonRpcId) (serverRequest : ServerRequest) :
    fibers.Follows (fun _ fiber => fiber = .routing number (.request id serverRequest) .nothing)
      (fun _ fiber => fiber = .routing number (.request id serverRequest) .nothing)
      (dispatchRequest number serverRequest)
      (.routing number (.request id serverRequest) (.ofMessage (.request id serverRequest))) := by
  cases serverRequest with
  | commandApproval turnId itemId approvalId =>
    exact requestApproval_follows rfl _ _ _ _ fun _ => rfl
  | fileChangeApproval turnId itemId => exact requestApproval_follows rfl _ _ _ _ fun _ => rfl
  | userInput turnId itemId => exact requestUserInput_follows rfl _ _ (fun _ => rfl) fun _ => rfl
  | other method => exact rfl

theorem updateOwn_follows {threadId : Option String} (h : message.changes change)
    {E : CodexSessionRuntimeError → Fiber → Prop} :
    fibers.Follows (fun _ fiber => fiber = .routing number message owed) E
      (updateOwn threadId change) (.routing number message owed) := by
  refine ⟨trivial, fun session => ?_⟩
  dsimp only [Process.bind]
  cases session.isOwn threadId with
  | true => exact ⟨h, fun _ => rfl⟩
  | false => exact rfl

theorem handleNotification_runs (number : Nat) (notification : ServerNotification) :
    fibers.Runs (handleNotification notification)
      (.routing number (.notification notification) (.offer notification)) := by
  unfold handleNotification
  cases hchange : notification.change with
  | none => exact ⟨rfl, fun _ => rfl⟩
  | some entry =>
    obtain ⟨threadId, change⟩ := entry
    apply Typestate.Follows.bind (updateOwn_follows ⟨notification, threadId, rfl, hchange⟩)
    rintro _ _ rfl
    exact ⟨rfl, fun _ => rfl⟩

theorem routeMessage_runs (number : Nat) (message : ServerMessage) :
    fibers.Runs (routeMessage number message) (.routing number message (.ofMessage message)) := by
  cases message with
  | response response =>
    refine ⟨⟨rfl, response, rfl, rfl⟩, fun deferred => ?_⟩
    cases deferred with
    | some deferred => exact ⟨rfl, fun _ => rfl⟩
    | none => exact rfl
  | notification notification => exact handleNotification_runs number notification
  | request id serverRequest =>
    apply Typestate.Follows.bind (Typestate.Follows.attempt
      (R := fun _ fiber => fiber = .routing number (.request id serverRequest) .nothing)
      (dispatchRequest_follows number id serverRequest) (fun _ _ h => h) fun _ _ h => h)
    rintro result _ rfl
    cases result with
    | ok | error => exact ⟨trivial, fun _ => rfl⟩

theorem failAllPending_follows (error : CodexAppServerError Json)
    {E : CodexSessionRuntimeError → Fiber → Prop} :
    fibers.Follows (fun _ fiber => fiber = .terminating .cleared) E (failAllPending error)
      (.terminating .classifying) := by
  refine ⟨trivial, fun deferreds => ?_⟩
  apply Typestate.Follows.bind (Typestate.Follows.forEach
    (fun ids fiber => fiber = .terminating (.failing ids)) ?_ deferreds rfl)
  · rintro _ _ rfl
    exact ⟨rfl, fun _ => rfl⟩
  · rintro id rest _ rfl
    exact Typestate.Follows.perform rfl fun _ => rfl

theorem handleTermination_runs (inputEnd : InputEnd) :
    fibers.Runs (handleTermination inputEnd) (.terminating .classifying) := by
  refine ⟨trivial, fun handled => ?_⟩
  cases handled with
  | true => trivial
  | false =>
    have hclassify : fibers.Follows (fun _ fiber => fiber = .terminating .classifying)
        (fun _ => fibers.ended) (classify inputEnd) (.terminating .classifying) := by
      cases inputEnd with
      | failed detail => exact rfl
      | ended => exact ⟨trivial, fun _ => rfl⟩
    apply Typestate.Follows.bind hclassify
    rintro error _ rfl
    apply Typestate.Follows.bind (failAllPending_follows error)
    rintro _ _ rfl
    exact ⟨trivial, fun _ => trivial⟩

theorem watchExit_runs : fibers.Runs watchExit .watching := by
  refine ⟨trivial, fun exitCode => ⟨trivial, fun closed => ?_⟩⟩
  cases closed with
  | true => trivial
  | false => exact ⟨trivial, fun _ => ⟨trivial, fun _ => trivial⟩⟩

theorem codexTake_cases {loop : Nat} {world next : CodexWorld}
    (h : codexTake loop world = some (process, next)) :
    (∃ message, loop = 0 ∧ 0 ∉ world.interrupted ∧ world.received[world.taken]? = some message ∧
      process = routeMessage world.taken message ∧
      next = { world with taken := world.taken + 1 }) ∨
    (∃ inputEnd, loop = 0 ∧ 0 ∉ world.interrupted ∧ world.received[world.taken]? = none ∧
      world.inputEnd = some inputEnd ∧ world.inputHandled = false ∧
      process = handleTermination inputEnd ∧ next = { world with inputHandled := true }) ∨
    (loop ≠ 0 ∧ 1 ∉ world.interrupted ∧ process = watchExit ∧
      next = { world with watching := true }) := by
  unfold codexTake at h
  split at h
  · split at h
    · cases h
    · rename_i hinterrupted
      split at h
      · rename_i message hmessage
        cases h
        exact Or.inl ⟨message, rfl, hinterrupted, hmessage, rfl, rfl⟩
      · rename_i hnone
        split at h
        · rename_i inputEnd hend hhandled
          cases h
          exact Or.inr (Or.inl ⟨inputEnd, rfl, hinterrupted, hnone, hend, hhandled, rfl, rfl⟩)
        · cases h
  · rename_i hloop
    split at h
    · cases h
    · rename_i hinterrupted
      cases h
      exact Or.inr (Or.inr ⟨fun heq => hloop heq, fun hmem => hinterrupted (Or.inl hmem), rfl, rfl⟩)

end GT3Code.Codex
