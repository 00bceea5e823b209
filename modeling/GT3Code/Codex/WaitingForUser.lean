import GT3Code.Base.FreshNames
import GT3Code.Codex.FinishedTurns

/-! # Waiting for the user

The read loop runs the handler of a request to its end before it takes the next message, and the
handlers of approvals and user inputs wait for the user. What stands behind such a request in the
input waits with it.
-/

namespace GT3Code.Codex

open GT3Code.Base GT3Code.Contracts

variable (library : CodexLibrary) (options : CodexSessionRuntimeOptions)

/-- Steps of the fibers and loops, not those of the app server and the callers. -/
def Internal : SessionAction → Prop
  | .advance _ _ | .take _ | .interrupt _ => True
  | .call _ | .external _ => False

def Stuck (pool : SessionPool) : Prop :=
  ∀ action : SessionAction, Internal action → (codex library options).step pool action = none

def ServerMessage.notification? : ServerMessage → Option ServerNotification
  | .notification queued => some queued
  | _ => none

def ServerMessage.userRequest? : ServerMessage → Option ServerRequest
  | .request _ serverRequest => if serverRequest.asksUser then some serverRequest else none
  | _ => none

def CodexEvent.request? : CodexEvent → Option ServerRequest
  | .request _ serverRequest => some serverRequest
  | _ => none

/-- Every message was read, a response for a registered request has completed it and no caller
waits for one that was taken in, every notification was queued and every request shown. -/
structure Routed (pool : SessionPool) : Prop where
  read : pool.view.world.taken = pool.view.world.received.length
  completed : ∀ id ∈ pool.view.world.responded, pool.view.world.responses id ≠ none
  responses : ∀ (n id : Nat) rest, pool.processes[n]? = some (.ask (.awaitResponse id) rest) →
    id ∈ pool.view.world.pending
  notifications : pool.view.world.notifications =
    pool.view.world.received.filterMap ServerMessage.notification?
  requests : pool.view.world.events.filterMap CodexEvent.request? =
    pool.view.world.received.filterMap ServerMessage.userRequest?

def NeverBlocked (pool : SessionPool) : Prop := Stuck library options pool → Routed pool

def AllAnswered (world : CodexWorld) : Prop :=
  ∀ (number : Nat) message, world.received[number]? = some message → message.asksUser = true →
    world.answers number ≠ none

/-- A message is received only when the requests to the user before it were answered; the session
is open. -/
def answeredFirst : StepConditions CodexWorld CodexOp String CodexCall CodexExternal where
  call _ call := call ≠ .close
  advance _ _ _ := True
  external world event :=
    match event with
    | .receive _ => AllAnswered world
    | .endInput _ => False
    | .exit _ => True
  interrupt _ _ := True

instance (world : CodexWorld) : Decidable (AllAnswered world) :=
  decidable_of_iff (∀ number : Fin world.received.length,
      world.received[number].asksUser = true → (world.answers number).isSome = true) <| by
    constructor
    · intro h number message hmessage hasks
      obtain ⟨hlt, rfl⟩ := List.getElem?_eq_some_iff.mp hmessage
      exact Option.isSome_iff_ne_none.mp (h ⟨number, hlt⟩ hasks)
    · intro h number hasks
      exact Option.isSome_iff_ne_none.mpr (h number _ (List.getElem?_eq_getElem number.2) hasks)

instance : ∀ pool action, Decidable (LoopSystem.Meets answeredFirst (pool : SessionPool) action)
  | _, .call call =>
    match call with
    | .close => isFalse fun h => h rfl
    | .start | .sendTurn _ | .interruptTurn _ | .readThread | .rollbackThread _
    | .respondToRequest _ _ | .respondToUserInput _ _ => isTrue fun h => by cases h
  | _, .advance _ _ => isTrue fun _ _ _ => trivial
  | pool, .external event =>
    match event with
    | .receive _ => inferInstanceAs (Decidable (AllAnswered pool.view.world))
    | .endInput _ => isFalse fun h => h
    | .exit _ => isTrue trivial
  | _, .take _ => isTrue trivial
  | _, .interrupt _ => isTrue trivial

/-! ## What the read loop owes -/

namespace Fiber

def owedNotifications : Fiber → List ServerNotification
  | .routing _ _ (.offer notification) => [notification]
  | _ => []

def owedRequests : Fiber → List ServerRequest
  | .routing _ _ (.present serverRequest) => [serverRequest]
  | _ => []

def Outside : Fiber → Prop
  | .routing _ _ _ | .terminating _ | .caller .closing _ | .caller .closed _ => False
  | _ => True

end Fiber

structure OpenWorld (world : CodexWorld) : Prop where
  input : world.inputEnd = none
  scope : world.scopeClosing = false
  interrupted : world.interrupted = []
  notifications : world.notificationsShutdown = false
  events : world.eventsShutdown = false

/-- The request is completed, or about to be by the read loop. -/
def Settling (world : CodexWorld) (states : Nat → Fiber) (id : Nat) : Prop :=
  world.responses id ≠ none ∨
    ∃ number message, states 0 = .routing number message (.complete id)

/-- A response to the request is still to be read, or to be looked up. -/
def Coming (world : CodexWorld) (states : Nat → Fiber) (id : Nat) : Prop :=
  ∃ (number : Nat) (message : ServerMessage), world.received[number]? = some message ∧
    message.answers id = true ∧
    (world.taken ≤ number ∨ states 0 = .routing number message .take)

/-- The read loop is between two messages or routes the last one taken; what was shown and queued
with what it owes is all of what was taken; a registered request is pending or settles, and a
pending one that was responded to has its response coming; and at most the last message is an
unanswered request. -/
structure Served (world : CodexWorld) (states : Nat → Fiber) : Prop where
  open' : OpenWorld world
  loop : states 0 = .idle ∨ ∃ number message owed, states 0 = .routing number message owed ∧
    world.taken = number + 1 ∧ world.received[number]? = some message
  outside : ∀ n, n ≠ 0 → (states n).Outside
  taken : world.taken ≤ world.received.length
  notifications : world.notifications ++ (states 0).owedNotifications =
    (world.received.take world.taken).filterMap ServerMessage.notification?
  requests : world.events.filterMap CodexEvent.request? ++ (states 0).owedRequests =
    (world.received.take world.taken).filterMap ServerMessage.userRequest?
  callers : ∀ n kind registered id, states n = .caller kind registered → id ∈ registered →
    id ∈ world.registered
  waiting : ∀ id ∈ world.registered, id ∈ world.pending ∨ Settling world states id
  responded : ∀ id ∈ world.responded,
    id ∈ world.pending ∧ Coming world states id ∨ Settling world states id
  answered : ∀ (number : Nat) message, world.received[number]? = some message →
    message.asksUser = true → number + 1 < world.received.length → world.answers number ≠ none

namespace Served

variable {world : CodexWorld} {states : Nat → Fiber}

/-- The input stays as it is, and what was pending, completed or answered is so still. -/
structure Grows (world next : CodexWorld) : Prop where
  open' : OpenWorld world → OpenWorld next
  received : next.received = world.received
  taken : next.taken = world.taken
  pending : ∀ id ∈ world.pending, id ∈ next.pending
  registered : ∀ id ∈ world.registered, id ∈ next.registered
  added : ∀ id ∈ next.registered, id ∈ world.registered ∨ id ∈ next.pending
  responded : next.responded = world.responded
  responses : ∀ id, world.responses id ≠ none → next.responses id ≠ none
  answers : ∀ number, world.answers number ≠ none → next.answers number ≠ none

def Adds : CodexOp → Prop
  | .takePending _ | .clearPending | .closeScope | .shutdownNotifications | .shutdownEvents => False
  | _ => True

variable {op : CodexOp} {next : CodexWorld} {fiber : Fiber} {message : ServerMessage}

theorem after_grows (h : Adds op) : Grows world (world.after op) := by
  cases op with
  | takePending | clearPending | closeScope | shutdownNotifications | shutdownEvents => cases h
  | registerPending id =>
    refine ⟨fun h => ⟨h.1, h.2, h.3, h.4, h.5⟩, rfl, rfl, fun _ hid => List.mem_append_left _ hid,
      fun _ hid => List.mem_append_left _ hid, ?_, rfl, fun _ h => h, fun _ h => h⟩
    intro other hother
    exact (List.mem_append.mp hother).imp_right fun hid => List.mem_append_right _ hid
  | completeResponse id exit =>
    exact ⟨fun h => ⟨h.1, h.2, h.3, h.4, h.5⟩, rfl, rfl, fun _ h => h, fun _ h => h,
      fun _ => Or.inl, rfl, fun _ h => CodexWorld.complete_ne_none h _ _, fun _ h => h⟩
  | succeed deferred answer =>
    exact ⟨fun h => ⟨h.1, h.2, h.3, h.4, h.5⟩, rfl, rfl, fun _ h => h, fun _ h => h,
      fun _ => Or.inl, rfl, fun _ h => h, fun _ h => CodexWorld.complete_ne_none h _ _⟩
  | _ =>
    exact ⟨fun h => ⟨h.1, h.2, h.3, h.4, h.5⟩, rfl, rfl, fun _ h => h, fun _ h => h,
      fun _ => Or.inl, rfl, fun _ h => h, fun _ h => h⟩

theorem Grows.settling {states' : Nat → Fiber} (h : Grows world next) (hzero : states' 0 = states 0)
    {id : Nat} (hid : Settling world states id) : Settling next states' id := by
  rcases hid with hresponse | hcompleting
  · exact Or.inl (h.responses id hresponse)
  · exact Or.inr (hzero ▸ hcompleting)

theorem notifications_of_after (h : ∀ queued, op ≠ .offerNotification queued) :
    (world.after op).notifications = world.notifications := by
  cases op with
  | offerNotification queued => exact absurd rfl (h queued)
  | _ => rfl

theorem events_of_after
    (h : ∀ requestId serverRequest, op ≠ .emit (.request requestId serverRequest)) :
    (world.after op).events.filterMap CodexEvent.request? =
      world.events.filterMap CodexEvent.request? := by
  cases op with
  | emit event =>
    show (if world.eventsShutdown then world.events else world.events ++ [event]).filterMap _ = _
    split
    · rfl
    · cases event with
      | request requestId serverRequest => exact absurd rfl (h requestId serverRequest)
      | _ => simp [List.filterMap_append, CodexEvent.request?]
  | _ => rfl

variable {n : Nat} {res : op.Result}

theorem outside_update (h : Served world states) (hgrows : Grows world next)
    (hnotifications : next.notifications = world.notifications)
    (hevents : next.events.filterMap CodexEvent.request? =
      world.events.filterMap CodexEvent.request?)
    (hn : n ≠ 0) (hfiber : fiber.Outside)
    (hcallers : ∀ kind registered id, fiber = .caller kind registered → id ∈ registered →
      id ∈ next.registered) :
    Served next (Function.update states n fiber) := by
  have hzero : Function.update states n fiber 0 = states 0 :=
    Function.update_of_ne (Ne.symm hn) _ _
  refine ⟨hgrows.open' h.open', ?_, ?_, ?_, ?_, ?_, ?_, ?_, ?_, ?_⟩
  · rw [hzero, hgrows.received, hgrows.taken]
    exact h.loop
  · intro m hm
    by_cases hmn : m = n
    · subst hmn
      rwa [Function.update_self]
    · rw [Function.update_of_ne hmn]
      exact h.outside m hm
  · rw [hgrows.received, hgrows.taken]
    exact h.taken
  · rw [hzero, hgrows.received, hgrows.taken, hnotifications]
    exact h.notifications
  · rw [hzero, hgrows.received, hgrows.taken, hevents]
    exact h.requests
  · intro m kind registered id hm hid
    by_cases hmn : m = n
    · subst hmn
      rw [Function.update_self] at hm
      exact hcallers kind registered id hm hid
    · rw [Function.update_of_ne hmn] at hm
      exact hgrows.registered id (h.callers m kind registered id hm hid)
  · intro id hid
    rcases hgrows.added id hid with hold | hpending
    · exact (h.waiting id hold).imp (hgrows.pending id) (hgrows.settling hzero)
    · exact Or.inl hpending
  · intro id hid
    rw [hgrows.responded] at hid
    refine (h.responded id hid).imp (fun hcoming => ?_) (hgrows.settling hzero)
    refine ⟨hgrows.pending id hcoming.1, ?_⟩
    rw [Coming, hzero, hgrows.received, hgrows.taken]
    exact hcoming.2
  · rw [hgrows.received]
    exact fun number message hmessage hasks hlast =>
      hgrows.answers number (h.answered number message hmessage hasks hlast)

theorem outside_allowed (hfiber : fiber.Outside) (hallowed : fiber.allowed op) :
    Adds op ∧ (∀ queued, op ≠ .offerNotification queued) ∧
      ∀ requestId serverRequest, op ≠ .emit (.request requestId serverRequest) := by
  cases fiber with
  | idle => cases hallowed
  | routing number message owed => cases hfiber
  | terminating step => cases hfiber
  | caller kind registered =>
    cases kind with
    | closing => cases hfiber
    | closed => cases hfiber
    | _ =>
      cases op with
      | emit event =>
        exact ⟨trivial, fun _ h => (by cases h), fun requestId serverRequest h =>
          hallowed requestId serverRequest (CodexOp.emit.inj h)⟩
      | offerNotification queued => cases hallowed
      | _ => first
        | exact ⟨trivial, fun _ h => (by cases h), fun _ _ h => (by cases h)⟩
        | cases hallowed
  | watching =>
    cases op with
    | emit event =>
      cases event with
      | session method message =>
        exact ⟨trivial, fun _ h => (by cases h), fun _ _ h => (by cases h)⟩
      | _ => cases hallowed
    | offerNotification queued => cases hallowed
    | _ => first
      | exact ⟨trivial, fun _ h => (by cases h), fun _ _ h => (by cases h)⟩
      | cases hallowed

theorem outside_next (hfiber : fiber.Outside) (hallowed : fiber.allowed op) :
    (fiber.next op res).Outside := by
  cases hnext : fiber.next op res with
  | idle => trivial
  | watching => trivial
  | routing number message owed =>
    obtain ⟨before, rfl⟩ := Fiber.of_next_routing hnext
    cases hfiber
  | caller kind registered =>
    rcases Fiber.of_next_caller hnext with ⟨before, rfl⟩ | ⟨-, -, rfl⟩
    · cases kind with
      | closing => cases hfiber
      | closed => cases hfiber
      | starting => trivial
      | calling => trivial
    · cases hfiber
  | terminating step =>
    cases fiber with
    | routing number message owed => cases hfiber
    | terminating step => cases hfiber
    | idle => cases hallowed
    | caller kind registered => cases kind <;> cases op <;> cases hnext
    | watching => cases op <;> cases hnext

theorem advance_outside (h : Served world states) (hn : n ≠ 0) (hallowed : (states n).allowed op) :
    Served (world.after op) (Function.update states n ((states n).next op res)) := by
  obtain ⟨hadds, hoffer, hemit⟩ := outside_allowed (h.outside n hn) hallowed
  have hgrows : Grows world (world.after op) := after_grows hadds
  apply h.outside_update hgrows (notifications_of_after hoffer) (events_of_after hemit) hn
  · exact outside_next (h.outside n hn) hallowed
  · intro kind registered id hnext hid
    rcases Fiber.registered_of_next hnext hid with ⟨kind', before, hbefore, hid⟩ | rfl
    · exact hgrows.registered id (h.callers n kind' before id hbefore hid)
    · exact List.mem_append_right _ (List.mem_singleton_self id)

theorem loop_update {number : Nat} {owed owed' : Owed} (h : Served world states)
    (hstate : states 0 = .routing number message owed) (hopen : OpenWorld next)
    (hreceived : next.received = world.received) (htaken : next.taken = world.taken)
    (hnotifications : next.notifications ++ (Fiber.routing number message owed').owedNotifications =
      world.notifications ++ (Fiber.routing number message owed).owedNotifications)
    (hrequests : next.events.filterMap CodexEvent.request? ++
        (Fiber.routing number message owed').owedRequests =
      world.events.filterMap CodexEvent.request? ++
        (Fiber.routing number message owed).owedRequests)
    (hregistered : next.registered = world.registered)
    (hresponded : next.responded = world.responded)
    (hpending : ∀ id ∈ world.pending, id ∈ next.pending ∧
        (owed = .take → message.answers id = true → owed' = .take) ∨
      owed' = .complete id)
    (hresponses : ∀ id, world.responses id ≠ none → next.responses id ≠ none)
    (hcomplete : ∀ id, owed = .complete id → next.responses id ≠ none ∨ owed' = .complete id)
    (hanswers : ∀ k, world.answers k ≠ none → next.answers k ≠ none) :
    Served next (Function.update states 0 (.routing number message owed')) := by
  have hloop : world.taken = number + 1 ∧ world.received[number]? = some message := by
    rcases h.loop with hidle | ⟨other, otherMessage, otherOwed, hrouting, hrest⟩
    · cases hstate.symm.trans hidle
    · cases hstate.symm.trans hrouting
      exact hrest
  have hsettling : ∀ id, Settling world states id →
      Settling next (Function.update states 0 (.routing number message owed')) id := by
    intro id hid
    have hnow : next.responses id ≠ none ∨ owed' = .complete id := by
      rcases hid with hresponse | ⟨other, otherMessage, hcompleting⟩
      · exact Or.inl (hresponses id hresponse)
      · rw [hstate] at hcompleting
        cases hcompleting
        exact hcomplete id rfl
    refine hnow.imp_right ?_
    rintro rfl
    exact ⟨number, message, Function.update_self ..⟩
  refine ⟨hopen, Or.inr ⟨number, message, owed', Function.update_self .., ?_⟩,
    ?_, ?_, ?_, ?_, ?_, ?_, ?_, ?_⟩
  · rw [hreceived, htaken]
    exact hloop
  · intro n hn
    rw [Function.update_of_ne hn]
    exact h.outside n hn
  · rw [hreceived, htaken]
    exact h.taken
  · rw [Function.update_self, hreceived, htaken, hnotifications, ← hstate]
    exact h.notifications
  · rw [Function.update_self, hreceived, htaken, hrequests, ← hstate]
    exact h.requests
  · intro n kind registered id hn hid
    have hne : n ≠ 0 := by
      rintro rfl
      rw [Function.update_self] at hn
      cases hn
    rw [Function.update_of_ne hne] at hn
    exact hregistered ▸ h.callers n kind registered id hn hid
  · intro id hid
    rw [hregistered] at hid
    rcases h.waiting id hid with hold | hold
    · rcases hpending id hold with ⟨hkept, -⟩ | rfl
      · exact Or.inl hkept
      · exact Or.inr (Or.inr ⟨number, message, Function.update_self ..⟩)
    · exact Or.inr (hsettling id hold)
  · intro id hid
    rw [hresponded] at hid
    rcases h.responded id hid with ⟨hold, other, response, hother, hanswers, hwhen⟩ | hold
    · rcases hpending id hold with ⟨hkept, htake⟩ | rfl
      · refine Or.inl ⟨hkept, other, response, hreceived ▸ hother, hanswers, ?_⟩
        rw [htaken]
        refine hwhen.imp_right fun hrouting => ?_
        rw [hstate] at hrouting
        cases hrouting
        rw [htake rfl hanswers, Function.update_self]
      · exact Or.inr (Or.inr ⟨number, message, Function.update_self ..⟩)
    · exact Or.inr (hsettling id hold)
  · rw [hreceived]
    exact fun k other hother hasks hlast => hanswers k (h.answered k other hother hasks hlast)

theorem mem_pending_or_found {pending : List Nat} {id : Nat} (key : String) (hid : id ∈ pending) :
    id ∈ pending.filter (fun request => toString request ≠ key) ∨
      pending.find? (fun request => toString request = key) = some id := by
  by_cases hkey : toString id = key
  · right
    cases hfound : pending.find? fun request => decide (toString request = key) with
    | none =>
      have hnot := List.find?_eq_none.mp hfound id hid
      simp [hkey] at hnot
    | some other =>
      have hother := List.find?_some hfound
      have hother := of_decide_eq_true hother
      rw [toString_injective (hother.trans hkey.symm)]
  · exact Or.inl (List.mem_filter.mpr ⟨hid, by simpa using hkey⟩)

section LoopOperations

variable {number : Nat} {owed : Owed}

/-- Operations that neither show, queue nor complete leave what is owed. -/
theorem loop_same (h : Served world states) (hstate : states 0 = .routing number message owed)
    (hadds : Adds op) (hregistered : (world.after op).registered = world.registered)
    (hoffer : ∀ queued, op ≠ .offerNotification queued)
    (hemit : ∀ requestId serverRequest, op ≠ .emit (.request requestId serverRequest)) :
    Served (world.after op) (Function.update states 0 (.routing number message owed)) := by
  have hgrows : Grows world (world.after op) := after_grows hadds
  apply h.loop_update hstate (hgrows.open' h.open') hgrows.received hgrows.taken
  · rw [notifications_of_after hoffer]
  · rw [events_of_after hemit]
  · exact hregistered
  · exact hgrows.responded
  · exact fun id hid => Or.inl ⟨hgrows.pending id hid, fun htake _ => htake⟩
  · exact hgrows.responses
  · exact fun _ hcompleting => Or.inr hcompleting
  · exact hgrows.answers

theorem loop_emit {requestId : ApprovalRequestId} {serverRequest : ServerRequest}
    (h : Served world states)
    (hstate : states 0 = .routing number message (.present serverRequest)) :
    Served (world.after (.emit (.request requestId serverRequest)))
      (Function.update states 0 (.routing number message .nothing)) := by
  have hopen := h.open'
  have hevents : (world.after (.emit (.request requestId serverRequest))).events =
      world.events ++ [.request requestId serverRequest] := by
    simp [CodexWorld.after, hopen.events]
  apply h.loop_update hstate
  · exact ⟨hopen.1, hopen.2, hopen.3, hopen.4, hopen.5⟩
  · rfl
  · rfl
  · rfl
  · rw [hevents, List.filterMap_append]
    exact List.append_nil _
  · rfl
  · rfl
  · exact fun _ hid => Or.inl ⟨hid, fun htake _ => by cases htake⟩
  · exact fun _ h => h
  · exact fun _ hcompleting => by cases hcompleting
  · exact fun _ h => h

theorem loop_offer {queued : ServerNotification} (h : Served world states)
    (hstate : states 0 = .routing number message (.offer queued)) :
    Served (world.after (.offerNotification queued))
      (Function.update states 0 (.routing number message .nothing)) := by
  have hopen := h.open'
  have hnotifications : (world.after (.offerNotification queued)).notifications =
      world.notifications ++ [queued] := by
    simp [CodexWorld.after, hopen.notifications]
  apply h.loop_update hstate
  · exact ⟨hopen.1, hopen.2, hopen.3, hopen.4, hopen.5⟩
  · rfl
  · rfl
  · rw [hnotifications]
    exact List.append_nil _
  · rfl
  · rfl
  · rfl
  · exact fun _ hid => Or.inl ⟨hid, fun htake _ => by cases htake⟩
  · exact fun _ h => h
  · exact fun _ hcompleting => by cases hcompleting
  · exact fun _ h => h

/-- The request that is taken out is the one completed next. -/
theorem loop_take {response : JsonRpcResponse Json} {owed' : Owed} (h : Served world states)
    (hstate : states 0 = .routing number (.response response) .take)
    (hfound : (owed' = .nothing ∧
        (world.pending.find? fun request => decide (toString request = response.id)) = none) ∨
      ∃ deferred, owed' = .complete deferred ∧
        (world.pending.find? fun request => decide (toString request = response.id)) =
          some deferred) :
    Served (world.after (.takePending response.id))
      (Function.update states 0 (.routing number (.response response) owed')) := by
  have hopen := h.open'
  have hother : ∀ id ∈ world.pending.filter (fun request => toString request ≠ response.id),
      ¬(ServerMessage.response response).answers id = true := by
    intro id hid
    simpa [ServerMessage.answers] using (List.mem_filter.mp hid).2
  apply h.loop_update hstate
  · exact ⟨hopen.1, hopen.2, hopen.3, hopen.4, hopen.5⟩
  · rfl
  · rfl
  · rcases hfound with ⟨rfl, -⟩ | ⟨deferred, rfl, -⟩ <;> rfl
  · rcases hfound with ⟨rfl, -⟩ | ⟨deferred, rfl, -⟩ <;> rfl
  · rfl
  · rfl
  · intro id hid
    rcases mem_pending_or_found response.id hid with hkept | hid
    · exact Or.inl ⟨hkept, fun _ hanswers => absurd hanswers (hother id hkept)⟩
    · rcases hfound with ⟨-, hnone⟩ | ⟨deferred, rfl, hsome⟩
      · cases hnone.symm.trans hid
      · cases hsome.symm.trans hid
        exact Or.inr rfl
  · exact fun _ h => h
  · exact fun _ hcompleting => by cases hcompleting
  · exact fun _ h => h

theorem loop_complete {deferred : Nat} {exit : Except (CodexAppServerError Json) (Option Json)}
    (h : Served world states)
    (hstate : states 0 = .routing number message (.complete deferred)) :
    Served (world.after (.completeResponse deferred exit))
      (Function.update states 0 (.routing number message .nothing)) := by
  have hopen := h.open'
  apply h.loop_update hstate
  · exact ⟨hopen.1, hopen.2, hopen.3, hopen.4, hopen.5⟩
  · rfl
  · rfl
  · rfl
  · rfl
  · rfl
  · rfl
  · exact fun _ hid => Or.inl ⟨hid, fun htake _ => by cases htake⟩
  · exact fun _ hresponse => CodexWorld.complete_ne_none hresponse _ _
  · intro id hcompleting
    cases hcompleting
    exact Or.inl (CodexWorld.complete_self _ _ _)
  · exact fun _ h => h

end LoopOperations

theorem advance_loop {uuid : String} (h : Served world states) (hallowed : (states 0).allowed op)
    (hres : world.result op uuid = some res) :
    Served (world.after op) (Function.update states 0 ((states 0).next op res)) := by
  rcases h.loop with hidle | ⟨number, message, owed, hstate, -, -⟩
  · rw [hidle] at hallowed
    cases hallowed
  · rw [hstate] at hallowed ⊢
    cases op with
    | emit event =>
      obtain ⟨requestId, serverRequest, rfl, rfl⟩ := hallowed
      exact h.loop_emit hstate
    | offerNotification queued =>
      cases hallowed
      exact h.loop_offer hstate
    | takePending key =>
      obtain ⟨rfl, response, rfl, rfl⟩ := hallowed
      obtain rfl := Option.some.inj hres
      cases hfound : world.pending.find? fun request => decide (toString request = response.id) with
      | some deferred => exact h.loop_take hstate (Or.inr ⟨deferred, rfl, hfound⟩)
      | none => exact h.loop_take hstate (Or.inl ⟨rfl, hfound⟩)
    | completeResponse deferred exit =>
      cases hallowed
      exact h.loop_complete hstate
    | _ => first
      | exact h.loop_same hstate trivial rfl (fun _ h => by cases h) (fun _ _ h => by cases h)
      | cases hallowed

theorem owed_ofMessage (number : Nat) (message : ServerMessage) :
    (Fiber.routing number message (.ofMessage message)).owedNotifications =
        [message].filterMap ServerMessage.notification? ∧
      (Fiber.routing number message (.ofMessage message)).owedRequests =
        [message].filterMap ServerMessage.userRequest? := by
  cases message with
  | response response => exact ⟨rfl, rfl⟩
  | notification notification => exact ⟨rfl, rfl⟩
  | request id serverRequest => cases serverRequest <;> exact ⟨rfl, rfl⟩

theorem ofMessage_of_answers {id : Nat} (h : message.answers id = true) :
    Owed.ofMessage message = .take := by
  cases message with
  | response response => rfl
  | _ => cases h

theorem owed_of_ended (h : fiber.ended) :
    fiber.owedNotifications = [] ∧ fiber.owedRequests = [] ∧
      (∀ number message id, fiber ≠ .routing number message (.complete id)) ∧
      ∀ number message, fiber ≠ .routing number message .take := by
  cases fiber with
  | routing number message owed =>
    obtain rfl : owed = .nothing := h
    exact ⟨rfl, rfl, fun _ _ _ h => (by cases h), fun _ _ h => by cases h⟩
  | _ => exact ⟨rfl, rfl, fun _ _ _ h => (by cases h), fun _ _ h => by cases h⟩

theorem take_message (h : Served world states) (hended : (states 0).ended)
    (hmessage : world.received[world.taken]? = some message) :
    Served { world with taken := world.taken + 1 }
      (Function.update states 0 (.routing world.taken message (.ofMessage message))) := by
  obtain ⟨hnotifications, hrequests, hcomplete, htaking⟩ := owed_of_ended hended
  have hlt : world.taken < world.received.length := (List.getElem?_eq_some_iff.mp hmessage).1
  have htake : world.received.take (world.taken + 1) =
      world.received.take world.taken ++ [message] := by
    rw [List.take_add_one, hmessage]
    rfl
  obtain ⟨howedNotifications, howedRequests⟩ := owed_ofMessage world.taken message
  have hsettling : ∀ id, Settling world states id →
      Settling { world with taken := world.taken + 1 }
        (Function.update states 0 (.routing world.taken message (.ofMessage message))) id := by
    rintro id (hresponse | ⟨number, other, hrouting⟩)
    · exact Or.inl hresponse
    · exact absurd hrouting (hcomplete number other id)
  refine ⟨⟨h.open'.1, h.open'.2, h.open'.3, h.open'.4, h.open'.5⟩,
    Or.inr ⟨world.taken, message, .ofMessage message, Function.update_self .., rfl, hmessage⟩,
    ?_, hlt, ?_, ?_, ?_, ?_, ?_, h.answered⟩
  · intro n hn
    rw [Function.update_of_ne hn]
    exact h.outside n hn
  · show world.notifications ++ _ = (world.received.take (world.taken + 1)).filterMap _
    rw [Function.update_self, htake, List.filterMap_append, howedNotifications, ← h.notifications,
      hnotifications, List.append_nil]
  · show world.events.filterMap _ ++ _ = (world.received.take (world.taken + 1)).filterMap _
    rw [Function.update_self, htake, List.filterMap_append, howedRequests, ← h.requests, hrequests,
      List.append_nil]
  · intro n kind registered id hn hid
    by_cases hzero : n = 0
    · subst hzero
      rw [Function.update_self] at hn
      cases hn
    · rw [Function.update_of_ne hzero] at hn
      exact h.callers n kind registered id hn hid
  · exact fun id hid => (h.waiting id hid).imp_right (hsettling id)
  · intro id hid
    refine (h.responded id hid).imp (fun hcoming => ⟨hcoming.1, ?_⟩) (hsettling id)
    obtain ⟨-, number, other, hother, hanswers, hwhen⟩ := hcoming
    refine ⟨number, other, hother, hanswers, ?_⟩
    rcases hwhen with hlater | hrouting
    · by_cases hnow : number = world.taken
      · subst hnow
        cases hmessage.symm.trans hother
        rw [Function.update_self, ofMessage_of_answers hanswers]
        exact Or.inr rfl
      · exact Or.inl (show world.taken + 1 ≤ number by omega)
    · exact absurd hrouting (htaking number other)

theorem receive (h : Served world states) (hall : AllAnswered world)
    (hreceive : codexExternal world (.receive message) = some next) : Served next states := by
  simp only [codexExternal, h.open'.input] at hreceive
  cases hreceive
  have htake : (world.received ++ [message]).take world.taken = world.received.take world.taken :=
    List.take_append_of_le_length h.taken
  refine ⟨⟨rfl, h.open'.2, h.open'.3, h.open'.4, h.open'.5⟩, ?_, h.outside, ?_, ?_, ?_,
    h.callers, h.waiting, ?_, ?_⟩
  · rcases h.loop with hidle | ⟨number, routed, owed, hrouting, htaken, hrouted⟩
    · exact Or.inl hidle
    · refine Or.inr ⟨number, routed, owed, hrouting, htaken, ?_⟩
      rw [List.getElem?_append_left (List.getElem?_eq_some_iff.mp hrouted).1]
      exact hrouted
  · have htaken := h.taken
    simp only [List.length_append, List.length_singleton]
    omega
  · rw [htake]
    exact h.notifications
  · rw [htake]
    exact h.requests
  · intro id hid
    rcases List.mem_append.mp hid with hold | hnew
    · refine (h.responded id hold).imp_left fun hcoming => ⟨hcoming.1, ?_⟩
      obtain ⟨-, number, other, hother, hrest⟩ := hcoming
      refine ⟨number, other, ?_, hrest⟩
      rw [List.getElem?_append_left (List.getElem?_eq_some_iff.mp hother).1]
      exact hother
    · obtain ⟨hregistered, hanswers⟩ := List.mem_filter.mp hnew
      refine (h.waiting id hregistered).imp_left fun hpending => ⟨hpending, ?_⟩
      exact ⟨world.received.length, message, List.getElem?_concat_length, hanswers,
        Or.inl h.taken⟩
  · intro number other hother hasks hlast
    have hlt : number < world.received.length := by
      simp only [List.length_append, List.length_singleton] at hlast
      omega
    rw [List.getElem?_append_left hlt] at hother
    exact hall number other hother hasks

end Served

theorem served_keeps : LoopSystem.Keeps (codex library options) fibers Served answeredFirst where
  start world states n call hcall hn h hidle := by
    rcases hcall with hcall | ⟨op, hforks⟩
    · refine ⟨_, codexProgram_runs library options call, ?_⟩
      have hne : n ≠ 0 := by
        rintro rfl
        cases hn
      have hgrows : Served.Grows world (world.after .getSession) := Served.after_grows trivial
      apply h.outside_update hgrows rfl rfl hne
      · cases call with
        | close => exact absurd rfl hcall
        | _ => trivial
      · intro kind registered id heq hid
        cases heq
        cases hid
    · cases hforks
  advance world states n op uuid res next h hallowed _ hanswer := by
    obtain ⟨hres, rfl⟩ := CodexWorld.of_answer hanswer
    by_cases hn : n = 0
    · subst hn
      exact h.advance_loop hallowed hres
    · exact h.advance_outside hn hallowed
  external world states event next h hmeets hexternal := by
    cases event with
    | receive message => exact h.receive hmeets hexternal
    | endInput inputEnd => cases hmeets
    | exit exitCode =>
      simp only [codex, codexExternal] at hexternal
      split at hexternal
      · cases hexternal
      · cases hexternal
        exact ⟨⟨h.open'.1, h.open'.2, h.open'.3, h.open'.4, h.open'.5⟩, h.loop, h.outside, h.taken,
          h.notifications, h.requests, h.callers, h.waiting, h.responded, h.answered⟩
  take world states n process next hn h hended htake := by
    rcases codexTake_cases htake with ⟨message, rfl, -, hmessage, rfl, rfl⟩ |
      ⟨inputEnd, -, -, -, hend, -⟩ | ⟨hne, -, rfl, rfl⟩
    · exact ⟨_, routeMessage_runs world.taken message, h.take_message hended hmessage⟩
    · rw [h.open'.input] at hend
      cases hend
    · have hgrows : Served.Grows world { world with watching := true } :=
        ⟨fun h => ⟨h.1, h.2, h.3, h.4, h.5⟩, rfl, rfl, fun _ h => h, fun _ h => h, fun _ => Or.inl,
          rfl, fun _ h => h, fun _ h => h⟩
      refine ⟨_, watchExit_runs, h.outside_update hgrows rfl rfl hne trivial ?_⟩
      intro kind registered id heq
      cases heq
  interrupt world states n op hn h _ hinterrupts hop := by
    simp only [codex, h.open'.scope, Bool.false_and] at hinterrupts
    cases hinterrupts

theorem routing_blocked {world : CodexWorld} {number : Nat} {message : ServerMessage} {owed : Owed}
    {op : CodexOp} (hallowed : (Fiber.routing number message owed).allowed op)
    (hblocked : ∀ uuid, world.result op uuid = none) :
    message.asksUser = true ∧ owed = .nothing ∧ world.answers number = none := by
  cases op with
  | awaitAnswer kind requestId deferred =>
    obtain ⟨rfl, hasks, howed⟩ := hallowed
    exact ⟨hasks, howed, hblocked ""⟩
  | nextUUID | getSession | takePending | updateSession | offerOutgoing | completeResponse
  | setPending | deletePending | setCorrelation | emit | offerNotification => cases hblocked ""
  | _ => cases hallowed

theorem awaitResponse_allowed {fiber : Fiber} {id : Nat} (h : fiber.allowed (.awaitResponse id)) :
    ∃ kind registered, fiber = .caller kind registered ∧ id ∈ registered := by
  cases fiber with
  | idle => cases h
  | caller kind registered => exact ⟨kind, registered, rfl, h⟩
  | routing number message owed => cases h
  | terminating step => cases step <;> cases h
  | watching => cases h

section Stuck

variable {library options}

variable {pool : SessionPool} {states : Nat → Fiber}

theorem Stuck.result_eq_none (h : Stuck library options pool) {n : Nat} {op : CodexOp}
    {rest : op.Result → CodexEffect PUnit} (hprocess : pool.processes[n]? = some (.ask op rest))
    (uuid : String) : pool.view.world.result op uuid = none := by
  have hanswer : pool.view.world.answer op uuid = none :=
    LoopSystem.answer_eq_none_of_step (h (.advance n uuid) trivial) hprocess
  exact Option.map_eq_none_iff.mp hanswer

theorem Stuck.read (h : Stuck library options pool)
    (htyped : LoopSystem.Typed (codex library options) fibers Served pool states) :
    pool.view.world.received.length ≤ pool.view.world.taken ∧ (states 0).ended := by
  have hserved : Served pool.view.world states := htyped.inv
  have hloops : 2 ≤ pool.processes.length := htyped.loops
  obtain ⟨process, hprocess⟩ : ∃ process, pool.processes[0]? = some process :=
    ⟨_, List.getElem?_eq_getElem (by omega)⟩
  have hruns : fibers.Runs process (states 0) := htyped.runs 0 process hprocess
  have hidle : (∀ op rest, process ≠ .ask op rest) →
      pool.view.world.received.length ≤ pool.view.world.taken ∧ (states 0).ended := by
    intro hdone
    have htake : codexTake 0 pool.view.world = none :=
      LoopSystem.take_eq_none_of_step (h (.take 0) trivial) (Nat.zero_lt_two) hprocess hdone
    refine ⟨?_, hruns.ended_of_done hdone⟩
    by_contra hlt
    have hmessage := List.getElem?_eq_getElem (Nat.lt_of_not_le hlt)
    simp only [codexTake, hserved.open'.interrupted, List.not_mem_nil, if_false, hmessage] at htake
    cases htake
  cases process with
  | done | fail => exact hidle fun _ _ h => by cases h
  | ask op rest =>
    have hallowed : (states 0).allowed op := hruns.1
    rcases hserved.loop with hnone | ⟨number, message, owed, hrouting, htaken, hmessage⟩
    · rw [hnone] at hallowed
      cases hallowed
    · rw [hrouting] at hallowed ⊢
      obtain ⟨hasks, howed, hanswer⟩ := routing_blocked hallowed (h.result_eq_none hprocess)
      refine ⟨?_, howed⟩
      by_contra hlt
      exact hserved.answered number message hmessage hasks (by omega) hanswer

theorem Stuck.routed (h : Stuck library options pool)
    (htyped : LoopSystem.Typed (codex library options) fibers Served pool states) :
    Routed pool := by
  have hserved : Served pool.view.world states := htyped.inv
  obtain ⟨hread, hended⟩ := h.read htyped
  obtain ⟨hnotifications, hrequests, hcomplete, htaking⟩ := Served.owed_of_ended hended
  have htake : pool.view.world.received.take pool.view.world.taken = pool.view.world.received :=
    List.take_of_length_le hread
  have hsettled : ∀ id, Settling pool.view.world states id →
      pool.view.world.responses id ≠ none := by
    rintro id (hresponse | ⟨number, message, hrouting⟩)
    · exact hresponse
    · exact absurd hrouting (hcomplete number message id)
  refine ⟨Nat.le_antisymm hserved.taken hread, ?_, ?_, ?_, ?_⟩
  · intro id hid
    rcases hserved.responded id hid with ⟨-, number, message, hmessage, -, hwhen⟩ | hsettling
    · rcases hwhen with hlater | hrouting
      · have hlt := (List.getElem?_eq_some_iff.mp hmessage).1
        omega
      · exact absurd hrouting (htaking number message)
    · exact hsettled id hsettling
  · intro n id rest hprocess
    have hallowed : (states n).allowed (.awaitResponse id) := (htyped.runs n _ hprocess).1
    obtain ⟨kind, registered, hcaller, hid⟩ := awaitResponse_allowed hallowed
    have hregistered := hserved.callers n kind registered id hcaller hid
    refine (hserved.waiting id hregistered).resolve_right fun hsettling => ?_
    exact hsettled id hsettling (h.result_eq_none hprocess "")
  · rw [← htake, ← hserved.notifications, hnotifications, List.append_nil]
  · rw [← htake, ← hserved.requests, hrequests, List.append_nil]

end Stuck

/-- The app server asks for an approval and ends the turn before the user has answered. -/
def approvalThenTurnEnd : List SessionAction :=
  [.external (.receive (.request (.number 7) (.commandApproval "turn" "item" none))),
    .take 0, .advance 0 "approval", .advance 0 "", .advance 0 "", .advance 0 "", .take 1,
    .external (.receive (.notification (.turnCompleted "thread" "turn" false none)))]

theorem approvalThenTurnEnd_stuck (session : CodexSession) {pool : SessionPool}
    (h : exec (codex sampleLibrary sampleOptions).step
      ((codex sampleLibrary sampleOptions).initial (.initial session)) approvalThenTurnEnd =
      some pool) : Stuck sampleLibrary sampleOptions pool := by
  obtain rfl := Option.some.inj h
  intro action hinternal
  cases action with
  | call | external => cases hinternal
  | advance n uuid =>
    match n with
    | 0 => rfl
    | 1 => rfl
    | n + 2 => rfl
  | take loop | interrupt loop =>
    match loop with
    | 0 => rfl
    | 1 => rfl
    | loop + 2 => rfl

/-- A thread is read while the user answers an approval, and the turn ends after the response. -/
def answerThenTurnEnd : List SessionAction :=
  [.call .readThread, .advance 2 "", .advance 2 "", .advance 2 "", .advance 2 "",
    .external (.receive (.request (.number 7) (.commandApproval "turn" "item" none))),
    .take 0, .advance 0 "approval", .advance 0 "", .advance 0 "", .advance 0 "", .take 1,
    .call (.respondToRequest "approval" .accept), .advance 3 "", .advance 3 "", .advance 3 "",
    .external (.receive (.response ⟨"1", none, none⟩)), .advance 0 "", .advance 0 "", .advance 0 "",
    .take 0, .advance 0 "", .advance 0 "", .advance 2 "",
    .external (.receive (.notification (.turnCompleted "thread" "turn" false none)))]

end GT3Code.Codex
