import GT3Code.Contracts.ReadModel

/-! # Provider sessions

What the adapters of the provider instances give of their sessions and turns.
-/

namespace GT3Code.Contracts

abbrev ProviderDriverKind := String

inductive ProviderSessionStatus where
  | connecting
  | ready
  | running
  | error
  | closed

structure ProviderSession where
  provider : ProviderDriverKind
  providerInstanceId : Option ProviderInstanceId
  status : ProviderSessionStatus
  runtimeMode : RuntimeMode
  pid : Option Nat
  cwd : Option String
  model : Option String
  threadId : ThreadId
  resumeCursor : Option Json
  activeTurnId : Option TurnId
  createdAt : IsoDateTime
  updatedAt : IsoDateTime
  lastError : Option String

structure ProviderTurnStartResult where
  threadId : ThreadId
  turnId : TurnId
  resumeCursor : Option Json

end GT3Code.Contracts
