import GT3Code.Contracts.ReadModel

/-! # Provider runtime events

What a provider reports while it works on a thread, with the payload fields the server
reads to keep the thread's session, messages and checkpoints.
-/

namespace GT3Code.Contracts

abbrev RuntimeItemId := String

inductive RuntimeSessionState where
  | starting
  | ready
  | running
  | waiting
  | stopped
  | error
  deriving DecidableEq

inductive RuntimeTurnState where
  | completed
  | failed
  | interrupted
  | cancelled
  deriving DecidableEq

inductive RuntimeContentStreamKind where
  | assistantText
  | reasoningText
  | reasoningSummaryText
  | planText
  | commandOutput
  | fileChangeOutput
  | unknown
  deriving DecidableEq

inductive CanonicalItemType where
  | userMessage
  | assistantMessage
  | reasoning
  | plan
  | commandExecution
  | fileChange
  | mcpToolCall
  | dynamicToolCall
  | collabAgentToolCall
  | webSearch
  | imageView
  | reviewEntered
  | reviewExited
  | contextCompaction
  | error
  | unknown
  deriving DecidableEq

/-- The payload under its event type. `other` stands for the types that only become
activities of the thread, plans or metadata. -/
inductive ProviderRuntimePayload where
  | sessionStarted
  | sessionStateChanged (state : RuntimeSessionState) (reason : Option String)
  | sessionExited
  | threadStarted
  | turnStarted
  | turnCompleted (state : RuntimeTurnState) (errorMessage : Option String)
  | turnDiffUpdated
  | itemCompleted (itemType : CanonicalItemType) (detail : Option String)
  | contentDelta (streamKind : RuntimeContentStreamKind) (delta : String)
  | requestOpened
  | userInputRequested
  | runtimeError (message : String)
  | other (type : String)
  deriving DecidableEq

structure ProviderRuntimeEvent where
  eventId : EventId
  provider : String
  providerInstanceId : Option ProviderInstanceId
  threadId : ThreadId
  createdAt : IsoDateTime
  turnId : Option TurnId
  itemId : Option RuntimeItemId
  payload : ProviderRuntimePayload

end GT3Code.Contracts
