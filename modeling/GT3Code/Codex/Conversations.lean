import GT3Code.Base.Record
import Mathlib.Data.List.Induction

/-! # Conversations of a Codex session

The app server reports on a main conversation and on the child conversations its agents
open. The runtime remembers, for each conversation a collab item names, the turn the item
ran in, and passes a child's notifications on under that turn. Ids are non-empty texts of
the server.
-/

namespace GT3Code.Codex.Conversations

open GT3Code.Base

variable {Id : Type}

/-! ## Messages -/

inductive ItemMethod where
  | agentMessageDelta
  | planDelta
  | commandExecutionOutputDelta
  | commandExecutionTerminalInteraction
  | fileChangeOutputDelta
  | fileChangePatchUpdated
  | reasoningSummaryTextDelta
  | reasoningSummaryPartAdded
  | reasoningTextDelta

inductive ThreadMethod where
  | statusChanged
  | archived
  | unarchived
  | closed
  | nameUpdated
  | tokenUsageUpdated
  | compacted
  | hookStarted
  | hookCompleted
  | autoApprovalReviewStarted
  | autoApprovalReviewCompleted
  | rawResponseItemCompleted
  | mcpToolCallProgress
  | realtimeStarted
  | realtimeItemAdded
  | realtimeTranscriptDelta
  | realtimeTranscriptDone
  | realtimeOutputAudioDelta
  | realtimeSdp
  | realtimeError
  | realtimeClosed
  deriving DecidableEq

inductive ThreadItem (Id : Type) where
  | collabAgentToolCall (id : Id) (receiverThreadIds : List Id)
  | other (id : Id)

def ThreadItem.id : ThreadItem Id → Id
  | .collabAgentToolCall id _ | .other id => id

inductive CodexServerNotification (Id : Type) where
  | threadStarted (threadId : Id)
  | turnStarted (threadId turnId : Id)
  | turnCompleted (threadId turnId : Id)
  | error (threadId turnId : Id)
  | turnDiffUpdated (threadId turnId : Id)
  | turnPlanUpdated (threadId turnId : Id)
  | itemStarted (threadId turnId : Id) (item : ThreadItem Id)
  | itemCompleted (threadId turnId : Id) (item : ThreadItem Id)
  | item (method : ItemMethod) (threadId turnId itemId : Id)
  | serverRequestResolved (threadId requestId : Id)
  | thread (method : ThreadMethod) (threadId : Id)
  /-- A method that is about no conversation. -/
  | other

inductive ProviderRequestKind where
  | command
  | fileChange

inductive CodexServerRequest (Id : Type) where
  | commandExecutionApproval (threadId turnId itemId : Id) (approvalId : Option Id)
  | fileChangeApproval (threadId turnId itemId : Id)
  | toolUserInput (threadId turnId itemId : Id)

inductive CodexMessage (Id : Type) where
  | notification (notification : CodexServerNotification Id)
  | request (requestId : Id) (request : CodexServerRequest Id)

def Always (P : List (CodexMessage Id) → CodexMessage Id → Prop) (past : List (CodexMessage Id)) :
    List (CodexMessage Id) → Prop
  | [] => True
  | message :: rest => P past message ∧ Always P (past ++ [message]) rest

theorem Always.congr {A P Q : List (CodexMessage Id) → CodexMessage Id → Prop}
    (hiff : ∀ {past message}, A past message → (P past message ↔ Q past message))
    {past messages : List (CodexMessage Id)} (h : Always A past messages) :
    Always P past messages ↔ Always Q past messages := by
  induction messages generalizing past with
  | nil => rfl
  | cons message rest ih => exact and_congr (hiff h.1) (ih h.2)

structure RouteFields (Id : Type) where
  turnId : Option Id
  itemId : Option Id

structure ApprovalCorrelation (Id : Type) where
  requestId : Id
  requestKind : ProviderRequestKind
  turnId : Id
  itemId : Id

structure ProviderEvent (Id : Type) where
  message : CodexMessage Id
  turnId : Option Id
  itemId : Option Id
  requestId : Option Id
  requestKind : Option ProviderRequestKind

/-! ## The runtime -/

def readNotificationThreadId : CodexServerNotification Id → Option Id
  | .threadStarted threadId | .turnStarted threadId _ | .turnCompleted threadId _
  | .error threadId _ | .turnDiffUpdated threadId _ | .turnPlanUpdated threadId _
  | .itemStarted threadId _ _ | .itemCompleted threadId _ _ | .item _ threadId _ _
  | .serverRequestResolved threadId _ | .thread _ threadId => some threadId
  | .other => none

def readRouteFields : CodexServerNotification Id → RouteFields Id
  | .turnStarted _ turnId | .turnCompleted _ turnId | .error _ turnId
  | .turnDiffUpdated _ turnId | .turnPlanUpdated _ turnId => ⟨some turnId, none⟩
  | .itemStarted _ turnId item | .itemCompleted _ turnId item => ⟨some turnId, some item.id⟩
  | .item _ _ turnId itemId => ⟨some turnId, some itemId⟩
  | .threadStarted _ | .serverRequestResolved _ _ | .thread _ _ | .other => ⟨none, none⟩

/-- `receiverThreadIds` of a collab item that starts or completes. -/
def receiverThreadIds : CodexServerNotification Id → List Id
  | .itemStarted _ _ (.collabAgentToolCall _ ids)
  | .itemCompleted _ _ (.collabAgentToolCall _ ids) => ids
  | _ => []

def shouldSuppressChildConversationNotification : CodexServerNotification Id → Bool
  | .threadStarted _ | .turnStarted _ _ | .turnCompleted _ _ | .turnPlanUpdated _ _
  | .item .planDelta _ _ _ => true
  | .thread method _ =>
    method ∈ [.statusChanged, .archived, .unarchived, .closed, .compacted, .nameUpdated,
      .tokenUsageUpdated]
  | _ => false

structure RuntimeState (Id : Type) where
  collabReceiverTurns : Record Id Id
  approvalCorrelations : Record Id (ApprovalCorrelation Id)

def initial (Id : Type) : RuntimeState Id := ⟨.empty _ _, .empty _ _⟩

variable [DecidableEq Id]

def rememberCollabReceiverTurns (collabReceiverTurns : Record Id Id)
    (notification : CodexServerNotification Id) (parentTurnId : Option Id) : Record Id Id :=
  match parentTurnId with
  | none => collabReceiverTurns
  | some parentTurnId =>
    (receiverThreadIds notification).foldl
      (fun turns receiverThreadId => turns.set receiverThreadId parentTurnId) collabReceiverTurns

/-- What is known of the request that a notification resolves, and its raw id. -/
def correlationOf (state : RuntimeState Id) :
    CodexServerNotification Id → Option (Id × ApprovalCorrelation Id)
  | .serverRequestResolved _ rawRequestId =>
    (state.approvalCorrelations rawRequestId).map (fun found => (rawRequestId, found))
  | _ => none

def handleRawNotification (state : RuntimeState Id) (notification : CodexServerNotification Id) :
    RuntimeState Id × Option (ProviderEvent Id) :=
  let route := readRouteFields notification
  let childParentTurnId :=
    (readNotificationThreadId notification).bind state.collabReceiverTurns
  let collabReceiverTurns :=
    rememberCollabReceiverTurns state.collabReceiverTurns notification route.turnId
  if childParentTurnId.isSome && shouldSuppressChildConversationNotification notification then
    ({ state with collabReceiverTurns }, none)
  else
    match correlationOf state notification with
    | some (rawRequestId, found) =>
      (⟨collabReceiverTurns, state.approvalCorrelations.remove rawRequestId⟩,
        some ⟨.notification notification, some found.turnId, some found.itemId,
          some found.requestId, some found.requestKind⟩)
    | none =>
      ({ state with collabReceiverTurns },
        some ⟨.notification notification, childParentTurnId.orElse (fun _ => route.turnId),
          route.itemId, none, none⟩)

/-- The event of a request, and what a later `serverRequest/resolved` finds of it. -/
def handleServerRequest (state : RuntimeState Id) (requestId : Id)
    (request : CodexServerRequest Id) : RuntimeState Id × Option (ProviderEvent Id) :=
  let message := CodexMessage.request requestId request
  match request with
  | .commandExecutionApproval _ turnId itemId approvalId =>
    ({ state with
        approvalCorrelations := state.approvalCorrelations.set (approvalId.getD itemId)
          ⟨requestId, .command, turnId, itemId⟩ },
      some ⟨message, some turnId, some itemId, some requestId, some .command⟩)
  | .fileChangeApproval _ turnId itemId =>
    ({ state with
        approvalCorrelations := state.approvalCorrelations.set itemId
          ⟨requestId, .fileChange, turnId, itemId⟩ },
      some ⟨message, some turnId, some itemId, some requestId, some .fileChange⟩)
  | .toolUserInput _ turnId itemId =>
    (state, some ⟨message, some turnId, some itemId, some requestId, none⟩)

def handle (state : RuntimeState Id) : CodexMessage Id →
    RuntimeState Id × Option (ProviderEvent Id)
  | .notification received => handleRawNotification state received
  | .request requestId asked => handleServerRequest state requestId asked

def after (messages : List (CodexMessage Id)) : RuntimeState Id :=
  messages.foldl (fun state message => (handle state message).1) (initial Id)

/-! ## Attribution -/

namespace CodexMessage

def conversation : CodexMessage Id → Option Id
  | .notification received => readNotificationThreadId received
  | .request _ (.commandExecutionApproval threadId _ _ _)
  | .request _ (.fileChangeApproval threadId _ _)
  | .request _ (.toolUserInput threadId _ _) => some threadId

def ownTurn : CodexMessage Id → Option Id
  | .notification received => (readRouteFields received).turnId
  | .request _ (.commandExecutionApproval _ turnId _ _)
  | .request _ (.fileChangeApproval _ turnId _)
  | .request _ (.toolUserInput _ turnId _) => some turnId

def addresses (conversationId : Id) : CodexMessage Id → Option Id
  | .notification received =>
    if conversationId ∈ receiverThreadIds received then (readRouteFields received).turnId else none
  | .request _ _ => none

end CodexMessage

/-- What the message makes of the approval asked under the raw id. -/
def CodexMessage.settles (rawRequestId : Id) :
    CodexMessage Id → Option (Option (ApprovalCorrelation Id))
  | .request requestId (.commandExecutionApproval _ turnId itemId approvalId) =>
    if approvalId.getD itemId = rawRequestId then
      some (some ⟨requestId, .command, turnId, itemId⟩)
    else none
  | .request requestId (.fileChangeApproval _ turnId itemId) =>
    if itemId = rawRequestId then some (some ⟨requestId, .fileChange, turnId, itemId⟩) else none
  | .notification (.serverRequestResolved _ resolvedId) =>
    if resolvedId = rawRequestId then some none else none
  | _ => none

/-- The approval last asked under the raw id, if it was not resolved since. -/
def openApproval (past : List (CodexMessage Id)) (rawRequestId : Id) :
    Option (ApprovalCorrelation Id) :=
  (past.filterMap (CodexMessage.settles rawRequestId)).getLast?.getD none

def lastAddressed (past : List (CodexMessage Id)) (conversationId : Id) : Option Id :=
  (past.filterMap (CodexMessage.addresses conversationId)).getLast?

structure Forest (Id : Type) [DecidableEq Id] where
  main : Id
  parent : Id → Id
  topmost : Id → Id
  topmost_eq : ∀ child, child ≠ main →
    topmost child = if parent child = main then child else topmost (parent child)

namespace Forest

variable (forest : Forest Id) (past : List (CodexMessage Id)) (message : CodexMessage Id)

def ofMain : List (CodexMessage Id) :=
  past.filter (fun message => message.conversation = some forest.main)

/-- The turn of the main conversation in which the topmost ancestor was last addressed. -/
def turnOf (child : Id) : Option Id :=
  lastAddressed (forest.ofMain past) (forest.topmost child)

def IsTurn (turnId : Id) : Prop :=
  ∃ message ∈ forest.ofMain past, message.ownTurn = some turnId

def Announced : Prop :=
  ∀ child ∈ message.conversation, child ≠ forest.main →
    ∃ item ∈ past, item.conversation = some (forest.parent child) ∧ item.addresses child ≠ none

/-- The turns in which an event of the conversation may be emitted for the message. -/
def Follows (conversationId turnId : Id) : Prop :=
  forest.IsTurn (past ++ [message]) turnId ∧
    (conversationId ≠ forest.main → forest.turnOf past conversationId = some turnId)

/-- What is emitted for a message is attributed to the user's turn. -/
structure Attributed : Prop where
  turn : ∀ conversationId ∈ message.conversation,
    ∀ event ∈ (handle (after past) message).2, ∀ turnId ∈ event.turnId,
      forest.Follows past message conversationId turnId
  suppressed : ∀ child ∈ message.conversation, child ≠ forest.main →
    ∀ received, message = .notification received →
      shouldSuppressChildConversationNotification received = true →
      (handle (after past) message).2 = none
  emitted : message.conversation = some forest.main →
    ∃ event, (handle (after past) message).2 = some event ∧ event.message = message ∧
      ∀ turnId ∈ message.ownTurn, event.turnId = some turnId

/-- A child's request is about the turn its topmost ancestor was last addressed in, a resolved
request was asked in such a turn, a child that is heard was itself last named in that turn, and
an item that named the main conversation did so in the turn that is still going on. -/
def Attributable : CodexMessage Id → Prop
  | .request requestId asked =>
    ∀ child ∈ (CodexMessage.request requestId asked).conversation, child ≠ forest.main →
      forest.turnOf past child = (CodexMessage.request requestId asked).ownTurn
  | .notification received =>
    match correlationOf (after past) received with
    | some (_, found) => ∀ conversationId ∈ readNotificationThreadId received,
        forest.Follows past (.notification received) conversationId found.turnId
    | none => ∀ conversationId ∈ readNotificationThreadId received,
        if conversationId = forest.main then
          ∀ turnId ∈ lastAddressed past conversationId,
            shouldSuppressChildConversationNotification received = false ∧
              (readRouteFields received).turnId.getD turnId = turnId ∧
              forest.IsTurn (past ++ [.notification received]) turnId
        else
          shouldSuppressChildConversationNotification received = false →
            lastAddressed past conversationId = forest.turnOf past conversationId

end Forest

/-! ## What is remembered -/

theorem foldl_set_turn (ids : List Id) (turnId : Id) (turns : Record Id Id) (conversationId : Id) :
    ids.foldl (fun turns id => turns.set id turnId) turns conversationId =
      if conversationId ∈ ids then some turnId else turns conversationId := by
  induction ids generalizing turns with
  | nil => rfl
  | cons id ids ih =>
    rw [List.foldl_cons, ih]
    by_cases hsame : conversationId = id
    · subst hsame
      simp
    · simp [hsame, Record.set_of_ne hsame]

theorem collabReceiverTurns_handle (state : RuntimeState Id) (message : CodexMessage Id)
    (conversationId : Id) :
    (handle state message).1.collabReceiverTurns conversationId =
      (message.addresses conversationId).orElse
        (fun _ => state.collabReceiverTurns conversationId) := by
  cases message with
  | request requestId request => cases request <;> rfl
  | notification received =>
    have hremembered : (handleRawNotification state received).1.collabReceiverTurns =
        rememberCollabReceiverTurns state.collabReceiverTurns received
          (readRouteFields received).turnId := by
      simp only [handleRawNotification]
      split
      · rfl
      · split <;> rfl
    rw [handle, hremembered, CodexMessage.addresses]
    cases (readRouteFields received).turnId with
    | none =>
      rw [ite_self]
      rfl
    | some turnId =>
      simp only [rememberCollabReceiverTurns]
      rw [foldl_set_turn]
      split <;> rfl

theorem after_concat (past : List (CodexMessage Id)) (message : CodexMessage Id) :
    after (past ++ [message]) = (handle (after past) message).1 := by
  rw [after, List.foldl_append]
  rfl

theorem collabReceiverTurns_after (past : List (CodexMessage Id)) (conversationId : Id) :
    (after past).collabReceiverTurns conversationId = lastAddressed past conversationId := by
  induction past using List.reverseRecOn with
  | nil => rfl
  | append_singleton past message ih =>
    rw [after_concat, collabReceiverTurns_handle, ih, lastAddressed, lastAddressed,
      List.filterMap_append]
    cases haddresses : message.addresses conversationId with
    | none => simp [haddresses]
    | some turnId => simp [haddresses]

theorem approvalCorrelations_handle (state : RuntimeState Id) (message : CodexMessage Id)
    (rawRequestId : Id) :
    (handle state message).1.approvalCorrelations rawRequestId =
      (message.settles rawRequestId).getD (state.approvalCorrelations rawRequestId) := by
  have hset : ∀ (key : Id) (value : ApprovalCorrelation Id),
      state.approvalCorrelations.set key value rawRequestId =
        (if key = rawRequestId then some (some value) else none).getD
          (state.approvalCorrelations rawRequestId) := by
    intro key value
    split
    · rename_i hsame
      rw [hsame, Record.set_self]
      rfl
    · rename_i hne
      exact Record.set_of_ne (Ne.symm hne) _ _
  cases message with
  | request requestId asked =>
    cases asked with
    | commandExecutionApproval | fileChangeApproval => exact hset _ _
    | toolUserInput => rfl
  | notification received =>
    cases received with
    | serverRequestResolved threadId resolvedId =>
      simp only [handle, handleRawNotification, shouldSuppressChildConversationNotification,
        Bool.and_false, Bool.false_eq_true, if_false, correlationOf, CodexMessage.settles]
      cases hfound : state.approvalCorrelations resolvedId with
      | none =>
        by_cases hsame : resolvedId = rawRequestId
        · simp [← hsame, hfound]
        · simp [hsame]
      | some found =>
        by_cases hsame : resolvedId = rawRequestId
        · simp [hsame]
        · simp [hsame, Record.remove_of_ne (Ne.symm hsame)]
    | _ =>
      simp only [handle, handleRawNotification, correlationOf, CodexMessage.settles]
      split <;> rfl

theorem approvalCorrelations_after (past : List (CodexMessage Id)) (rawRequestId : Id) :
    (after past).approvalCorrelations rawRequestId = openApproval past rawRequestId := by
  induction past using List.reverseRecOn with
  | nil => rfl
  | append_singleton past message ih =>
    rw [after_concat, approvalCorrelations_handle, ih, openApproval, openApproval,
      List.filterMap_append]
    cases hsettles : message.settles rawRequestId with
    | none => simp [hsettles]
    | some settled => simp [hsettles]

/-- After any messages, what is emitted when a request is resolved names the approval last asked
under its raw id, its turn and its item, and once only. -/
theorem resolved_names_open_approval (past : List (CodexMessage Id)) (threadId rawRequestId : Id) :
    let resolved := CodexMessage.notification (.serverRequestResolved threadId rawRequestId)
    (∃ event, (handle (after past) resolved).2 = some event ∧ event.message = resolved ∧
      event.requestId = (openApproval past rawRequestId).map ApprovalCorrelation.requestId ∧
      event.requestKind = (openApproval past rawRequestId).map ApprovalCorrelation.requestKind ∧
      event.itemId = (openApproval past rawRequestId).map ApprovalCorrelation.itemId ∧
      ∀ found ∈ openApproval past rawRequestId, event.turnId = some found.turnId) ∧
      openApproval (past ++ [resolved]) rawRequestId = none := by
  refine ⟨?_, by simp [openApproval, CodexMessage.settles]⟩
  rw [← approvalCorrelations_after]
  simp only [handle, handleRawNotification, shouldSuppressChildConversationNotification,
    Bool.and_false, Bool.false_eq_true, if_false, correlationOf]
  cases (after past).approvalCorrelations rawRequestId with
  | none => exact ⟨_, rfl, rfl, rfl, rfl, rfl, nofun⟩
  | some found =>
    refine ⟨_, rfl, rfl, rfl, rfl, rfl, ?_⟩
    rintro _ ⟨⟩
    rfl

/-! ## Attribution of one message -/

section

variable {forest : Forest Id} {past : List (CodexMessage Id)} {message : CodexMessage Id}
  {received : CodexServerNotification Id} {child turnId : Id}

theorem mem_of_lastAddressed (h : lastAddressed past child = some turnId) :
    ∃ item ∈ past, item.addresses child = some turnId :=
  List.mem_filterMap.mp (List.mem_of_getLast? h)

theorem ownTurn_of_addresses (h : message.addresses child = some turnId) :
    message.ownTurn = some turnId := by
  cases message with
  | request requestId asked => cases h
  | notification received =>
    rw [CodexMessage.addresses] at h
    split at h
    · exact h
    · cases h

theorem isTurn_of_turnOf (h : forest.turnOf past child = some turnId) :
    forest.IsTurn (past ++ [message]) turnId := by
  obtain ⟨item, hitem, haddresses⟩ := mem_of_lastAddressed h
  refine ⟨item, ?_, ownTurn_of_addresses haddresses⟩
  rw [Forest.ofMain, List.filter_append]
  exact List.mem_append_left _ hitem

theorem isTurn_of_ownTurn (hmain : message.conversation = some forest.main)
    (h : message.ownTurn = some turnId) : forest.IsTurn (past ++ [message]) turnId :=
  ⟨message, List.mem_filter.mpr ⟨by simp, by simpa using hmain⟩, h⟩

theorem exists_lastAddressed (h : forest.Announced past message)
    (hchild : message.conversation = some child) (hne : child ≠ forest.main) :
    ∃ turnId, lastAddressed past child = some turnId := by
  obtain ⟨item, hitem, -, haddresses⟩ := h child hchild hne
  obtain ⟨turnId, hturn⟩ := Option.ne_none_iff_exists'.mp haddresses
  refine Option.ne_none_iff_exists'.mp fun hnone => ?_
  rw [lastAddressed, List.getLast?_eq_none_iff] at hnone
  exact List.not_mem_nil (hnone ▸ List.mem_filterMap.mpr ⟨item, hitem, hturn⟩)

theorem handle_resolved {rawRequestId : Id} {found : ApprovalCorrelation Id}
    (h : correlationOf (after past) received = some (rawRequestId, found)) :
    ∃ event, (handle (after past) (.notification received)).2 = some event ∧
      event.message = .notification received ∧ event.turnId = some found.turnId ∧
      shouldSuppressChildConversationNotification received = false ∧
      (readRouteFields received).turnId = none := by
  cases received with
  | serverRequestResolved threadId requestId =>
    simp only [handle, handleRawNotification, h, shouldSuppressChildConversationNotification,
      Bool.and_false, Bool.false_eq_true, if_false]
    exact ⟨_, rfl, rfl, rfl, trivial, rfl⟩
  | _ => cases h

theorem handle_of_suppressed
    (h : shouldSuppressChildConversationNotification received = true)
    (hturn : ((readNotificationThreadId received).bind (lastAddressed past)).isSome) :
    (handle (after past) (.notification received)).2 = none := by
  rw [← funext (collabReceiverTurns_after past)] at hturn
  simp [handle, handleRawNotification, h, hturn]

theorem handle_of_not_suppressed (hnone : correlationOf (after past) received = none)
    (h : shouldSuppressChildConversationNotification received = false ∨
      (readNotificationThreadId received).bind (lastAddressed past) = none) :
    ∃ event, (handle (after past) (.notification received)).2 = some event ∧
      event.message = .notification received ∧
      event.turnId = ((readNotificationThreadId received).bind (lastAddressed past)).orElse
        (fun _ => (readRouteFields received).turnId) := by
  rw [← funext (collabReceiverTurns_after past)] at h ⊢
  have hemits : (((readNotificationThreadId received).bind
      (after past).collabReceiverTurns).isSome &&
      shouldSuppressChildConversationNotification received) = false := by
    rcases h with h | h
    · rw [h, Bool.and_false]
    · rw [h]
      rfl
  simp only [handle, handleRawNotification, hemits, hnone, Bool.false_eq_true, if_false]
  exact ⟨_, rfl, rfl, rfl⟩

theorem attributed_iff_of_emitted {event : ProviderEvent Id}
    (hevent : (handle (after past) message).2 = some event) (hmessage : event.message = message) :
    forest.Attributed past message ↔
      (∀ conversationId ∈ message.conversation, ∀ turnId ∈ event.turnId,
        forest.Follows past message conversationId turnId) ∧
      (∀ child ∈ message.conversation, child ≠ forest.main → ∀ received,
        message = .notification received →
          shouldSuppressChildConversationNotification received = false) ∧
      (message.conversation = some forest.main →
        ∀ turnId ∈ message.ownTurn, event.turnId = some turnId) := by
  constructor
  · refine fun h => ⟨fun conversationId hconversation =>
      h.turn conversationId hconversation event hevent, ?_, fun hmain => ?_⟩
    · intro child hchild hne received hreceived
      by_contra hsuppressed
      cases hevent.symm.trans
        (h.suppressed child hchild hne received hreceived (by simpa using hsuppressed))
    · obtain ⟨other, hother, -, hown⟩ := h.emitted hmain
      cases hevent.symm.trans hother
      exact hown
  · refine fun ⟨hturn, hkept, hown⟩ => ⟨fun conversationId hconversation other hother => ?_,
      fun child hchild hne received hreceived hsuppressed => ?_,
      fun hmain => ⟨event, hevent, hmessage, hown hmain⟩⟩
    · cases hevent.symm.trans hother
      exact hturn conversationId hconversation
    · cases (hkept child hchild hne received hreceived).symm.trans hsuppressed

theorem request_attributed_iff (requestId : Id) (asked : CodexServerRequest Id) :
    forest.Attributed past (.request requestId asked) ↔
      forest.Attributable past (.request requestId asked) := by
  have hevent : ∃ event turnId, (handle (after past) (.request requestId asked)).2 = some event ∧
      event.message = .request requestId asked ∧ event.turnId = some turnId ∧
      (CodexMessage.request requestId asked).ownTurn = some turnId := by
    cases asked <;> exact ⟨_, _, rfl, rfl, rfl, rfl⟩
  obtain ⟨event, turnId, hevent, hmessage, hturn, hown⟩ := hevent
  rw [attributed_iff_of_emitted hevent hmessage, hturn, Forest.Attributable, hown]
  constructor
  · intro h child hchild hne
    exact (h.1 child hchild turnId rfl).2 hne
  · refine fun h => ⟨?_, nofun, fun _ _ hsame => hsame⟩
    rintro conversationId hconversation _ ⟨⟩
    refine ⟨?_, h conversationId hconversation⟩
    by_cases hmain : conversationId = forest.main
    · exact isTurn_of_ownTurn (hmain ▸ hconversation) hown
    · exact isTurn_of_turnOf (h conversationId hconversation hmain)

theorem resolved_attributed_iff {rawRequestId : Id} {found : ApprovalCorrelation Id}
    (hfound : correlationOf (after past) received = some (rawRequestId, found)) :
    forest.Attributed past (.notification received) ↔
      ∀ conversationId ∈ readNotificationThreadId received,
        forest.Follows past (.notification received) conversationId found.turnId := by
  obtain ⟨event, hevent, hmessage, hturn, hkept, hown⟩ := handle_resolved hfound
  rw [attributed_iff_of_emitted hevent hmessage, hturn]
  constructor
  · intro h conversationId hconversation
    exact h.1 conversationId hconversation found.turnId rfl
  · refine fun h => ⟨?_, ?_, fun _ turnId hturnId => ?_⟩
    · rintro conversationId hconversation _ ⟨⟩
      exact h conversationId hconversation
    · rintro child hchild hne _ ⟨⟩
      exact hkept
    · cases hown.symm.trans hturnId

theorem main_attributed_iff (hmain : readNotificationThreadId received = some forest.main)
    (hnone : correlationOf (after past) received = none) :
    forest.Attributed past (.notification received) ↔
      ∀ turnId ∈ lastAddressed past forest.main,
        shouldSuppressChildConversationNotification received = false ∧
          (readRouteFields received).turnId.getD turnId = turnId ∧
          forest.IsTurn (past ++ [.notification received]) turnId := by
  have hbind : (readNotificationThreadId received).bind (lastAddressed past) =
      lastAddressed past forest.main := by rw [hmain, Option.bind_some]
  cases hlast : lastAddressed past forest.main with
  | none =>
    obtain ⟨event, hevent, hmessage, hturn⟩ :=
      handle_of_not_suppressed hnone (.inr (hbind.trans hlast))
    rw [hbind, hlast] at hturn
    refine iff_of_true ((attributed_iff_of_emitted hevent hmessage).mpr ⟨?_, ?_, ?_⟩) nofun
    · rintro conversationId hconversation turnId hturnId
      cases hmain.symm.trans hconversation
      exact ⟨isTurn_of_ownTurn hmain (hturn.symm.trans hturnId), fun hne => absurd rfl hne⟩
    · intro child hchild hne
      exact absurd (Option.some.inj (hmain.symm.trans hchild)).symm hne
    · exact fun _ turnId hown => hturn.trans hown
  | some last =>
    simp only [Option.mem_some_iff, forall_eq']
    cases hkept : shouldSuppressChildConversationNotification received with
    | true =>
      refine iff_of_false (fun h => ?_) (fun h => nomatch h.1)
      obtain ⟨event, hevent, -⟩ := h.emitted hmain
      cases (handle_of_suppressed hkept (by rw [hbind, hlast]; rfl)).symm.trans hevent
    | false =>
      obtain ⟨event, hevent, hmessage, hturn⟩ := handle_of_not_suppressed hnone (.inl hkept)
      rw [hbind, hlast, Option.orElse_some] at hturn
      rw [attributed_iff_of_emitted hevent hmessage, hturn]
      constructor
      · intro h
        refine ⟨rfl, ?_, (h.1 _ hmain last rfl).1⟩
        cases hroute : (readRouteFields received).turnId with
        | none => rfl
        | some routeTurn => exact Option.some.inj (h.2.2 hmain routeTurn hroute).symm
      · refine fun ⟨_, hsame, hopen⟩ => ⟨?_, ?_, fun _ turnId hown => ?_⟩
        · rintro conversationId hconversation _ ⟨⟩
          cases hmain.symm.trans hconversation
          exact ⟨hopen, fun hne => absurd rfl hne⟩
        · rintro child hchild hne _ ⟨⟩
          exact hkept
        · rw [show (readRouteFields received).turnId = some turnId from hown] at hsame
          exact congrArg some hsame.symm

theorem child_attributed_iff (h : forest.Announced past (.notification received))
    (hchild : readNotificationThreadId received = some child) (hne : child ≠ forest.main)
    (hnone : correlationOf (after past) received = none) :
    forest.Attributed past (.notification received) ↔
      (shouldSuppressChildConversationNotification received = false →
        lastAddressed past child = forest.turnOf past child) := by
  obtain ⟨last, hlast⟩ := exists_lastAddressed h hchild hne
  have hbind : (readNotificationThreadId received).bind (lastAddressed past) = some last := by
    rw [hchild, Option.bind_some, hlast]
  have hother : readNotificationThreadId received ≠ some forest.main :=
    fun hmain => hne (Option.some.inj (hchild.symm.trans hmain))
  cases hkept : shouldSuppressChildConversationNotification received with
  | true =>
    have hevent := handle_of_suppressed hkept (by rw [hbind]; rfl)
    refine iff_of_true ⟨fun _ _ _ hemitted => ?_, ?_, fun hmain => absurd hmain hother⟩ nofun
    · cases hevent.symm.trans hemitted
    · exact fun _ _ _ _ _ _ => hevent
  | false =>
    obtain ⟨event, hevent, hmessage, hturn⟩ := handle_of_not_suppressed hnone (.inl hkept)
    rw [hbind, Option.orElse_some] at hturn
    rw [attributed_iff_of_emitted hevent hmessage, hturn, hlast]
    constructor
    · intro hattributed _
      exact ((hattributed.1 child hchild last rfl).2 hne).symm
    · refine fun hsame => ⟨?_, ?_, fun hmain => absurd hmain hother⟩
      · rintro conversationId hconversation _ ⟨⟩
        cases hchild.symm.trans hconversation
        exact ⟨isTurn_of_turnOf (hsame rfl).symm, fun _ => (hsame rfl).symm⟩
      · rintro _ _ _ _ ⟨⟩
        exact hkept

theorem attributed_iff (h : forest.Announced past message) :
    forest.Attributed past message ↔ forest.Attributable past message := by
  cases message with
  | request requestId asked => exact request_attributed_iff requestId asked
  | notification received =>
    rw [Forest.Attributable]
    split
    · rename_i rawRequestId found hfound
      exact resolved_attributed_iff hfound
    · rename_i hnone
      cases hread : readNotificationThreadId received with
      | none =>
        refine ⟨fun _ => nofun, fun _ => ⟨?_, ?_, ?_⟩⟩
        · exact fun _ hconversation => nomatch hread.symm.trans hconversation
        · exact fun _ hconversation => nomatch hread.symm.trans hconversation
        · exact fun hconversation => nomatch hread.symm.trans hconversation
      | some conversationId =>
        simp only [Option.mem_some_iff, forall_eq']
        split
        · rename_i hmain
          rw [hmain] at hread ⊢
          exact main_attributed_iff hread hnone
        · rename_i hne
          exact child_attributed_iff h hread hne hnone

end

/-! ## Attribution in a run -/

/-- Where children speak after they are announced, every event is attributed to the user's turn
exactly when every message is attributable after those before it. -/
theorem attributed_always_iff (forest : Forest Id) (messages : List (CodexMessage Id))
    (h : Always forest.Announced [] messages) :
    Always forest.Attributed [] messages ↔ Always forest.Attributable [] messages :=
  h.congr attributed_iff

def nestedForest : Forest Nat where
  main := 0
  parent child := if child = 1 then 0 else 1
  topmost _ := 1
  topmost_eq child _ := by split <;> simp_all

/-- An agent of the main turn 10 calls one of its own, in its turn 11. -/
def nestedCall : List (CodexMessage Nat) :=
  [.notification (.itemStarted 0 10 (.collabAgentToolCall 20 [1])),
    .notification (.itemStarted 1 11 (.collabAgentToolCall 21 [2])),
    .notification (.item .agentMessageDelta 2 12 22)]

theorem announced_nestedCall : Always nestedForest.Announced [] nestedCall := by
  refine ⟨?_, ?_, ?_, trivial⟩
  · rintro _ ⟨⟩ hne
    exact absurd rfl hne
  · rintro _ ⟨⟩ -
    exact ⟨_, List.mem_cons_self, rfl, by decide⟩
  · rintro _ ⟨⟩ -
    exact ⟨_, List.mem_cons_of_mem _ List.mem_cons_self, rfl, by decide⟩

/-- The first agent speaks in its own turn 11. -/
def heardAgent : List (CodexMessage Nat) :=
  [.notification (.itemStarted 0 10 (.collabAgentToolCall 20 [1])),
    .notification (.item .agentMessageDelta 1 11 22)]

theorem attributed_heardAgent :
    Always nestedForest.Attributed [] heardAgent ∧
      (handle (after (heardAgent.take 1)) (.notification (.item .agentMessageDelta 1 11 22))).2.map
        (fun event => event.turnId) = some (some 10) := by
  have hannounced : Always nestedForest.Announced [] heardAgent := by
    refine ⟨?_, ?_, trivial⟩
    · rintro _ ⟨⟩ hne
      exact absurd rfl hne
    · rintro _ ⟨⟩ -
      exact ⟨_, List.mem_cons_self, rfl, by decide⟩
  refine ⟨(attributed_always_iff nestedForest heardAgent hannounced).mpr ⟨?_, ?_, trivial⟩, rfl⟩
  · rintro _ ⟨⟩ turnId hturn
    cases hturn
  · rintro _ ⟨⟩ -
    rfl

theorem not_attributed_nestedCall :
    ¬∀ messages, Always nestedForest.Announced [] messages →
      Always nestedForest.Attributed [] messages := by
  intro h
  obtain ⟨-, -, hlast, -⟩ := h nestedCall announced_nestedCall
  have hturn := (hlast.turn 2 rfl _ rfl 11 rfl).2 (by decide)
  exact absurd hturn (by decide)

end GT3Code.Codex.Conversations
