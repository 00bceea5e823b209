import GT3Code.Base.KeyedTable
import GT3Code.Base.StoredText

/-! # Orchestration entities

The entities the server keeps in memory and sends to its clients. Branded
strings are plain strings under the source's names, a nullable field is an
`Option`, and a field both optional and nullable is an `Option` of an `Option`.
-/

namespace GT3Code.Contracts

open GT3Code.Base

abbrev IsoDateTime := String
abbrev ProjectId := String
abbrev ThreadId := String
abbrev TurnId := String
abbrev MessageId := String
abbrev EventId := String
abbrev CommandId := String
abbrev CheckpointRef := String
abbrev ApprovalRequestId := String
abbrev ProviderInstanceId := String
abbrev OrchestrationProposedPlanId := String

/-- An `unknown` payload. A number is kept as its literal text: no modelled
function computes with one. -/
inductive Json where
  | null
  | bool (value : Bool)
  | num (literal : String)
  | str (value : String)
  | arr (items : List Json)
  | obj (entries : List (String × Json))

namespace Json

/-- `typeof value === "string" ? value : undefined`. -/
def string? : Json → Option String
  | str value => some value
  | _ => none

/-- Own property of an object; nothing for a value that is no object. -/
def field? (key : String) : Json → Option Json
  | obj entries => (entries.find? (fun entry => entry.1 = key)).map Prod.snd
  | _ => none

end Json

/-- Functions of the runtime on text: `JSON.parse`, undefined where it throws, and
the case mappings. -/
class TextRuntime where
  parseJson : String → Option Json
  toUpperCase : String → String
  toLowerCase : String → String

@[reducible] def asciiTextRuntime : TextRuntime where
  parseJson _ := none
  toUpperCase value := value.map Char.toUpper
  toLowerCase value := value.map Char.toLower

/-- `Record<string, string>`. -/
abbrev CustomMetadata := KeyedTable (fun entry : String × String => some entry.1)

namespace CustomMetadata

/-- `metadata[key]`. -/
def get (key : String) (metadata : CustomMetadata) : Option String :=
  (KeyedTable.lookup key metadata).map Prod.snd

/-- `{ ...existing, ...incoming }`. -/
def merge (existing incoming : CustomMetadata) : CustomMetadata :=
  KeyedTable.putAll incoming.rows existing

end CustomMetadata

inductive RuntimeMode where
  | approvalRequired
  | autoAcceptEdits
  | fullAccess
  deriving DecidableEq

inductive ProviderInteractionMode where
  | default
  | plan
  deriving DecidableEq

inductive ProviderApprovalDecision where
  | accept
  | acceptForSession
  | decline
  | cancel

inductive OrchestrationMessageRole where
  | user
  | assistant
  | system
  deriving DecidableEq

inductive OrchestrationSessionStatus where
  | idle
  | starting
  | running
  | ready
  | interrupted
  | stopped
  | error
  deriving DecidableEq

inductive OrchestrationCheckpointStatus where
  | ready
  | missing
  | error
  deriving DecidableEq

inductive OrchestrationThreadActivityTone where
  | info
  | tool
  | approval
  | error

inductive OrchestrationLatestTurnState where
  | running
  | interrupted
  | completed
  | error
  deriving DecidableEq

inductive ProjectScriptIcon where
  | play
  | test
  | lint
  | configure
  | build
  | debug

/-! ## Records -/

inductive ProviderOptionSelectionValue where
  | text (value : String)
  | flag (value : Bool)
  deriving DecidableEq

structure ProviderOptionSelection where
  id : String
  value : ProviderOptionSelectionValue
  deriving DecidableEq

structure ModelSelection where
  instanceId : ProviderInstanceId
  model : String
  options : Option (List ProviderOptionSelection)
  deriving DecidableEq

structure ProjectScript where
  id : String
  name : String
  command : String
  icon : ProjectScriptIcon
  runOnWorktreeCreate : Bool

structure ChatAttachment where
  id : String
  name : String
  mimeType : String
  sizeBytes : Nat
  deriving DecidableEq

structure SourceProposedPlanReference where
  threadId : ThreadId
  planId : OrchestrationProposedPlanId
  deriving DecidableEq

structure OrchestrationProject where
  id : ProjectId
  title : String
  workspaceRoot : String
  defaultModelSelection : Option ModelSelection
  scripts : List ProjectScript
  createdAt : IsoDateTime
  updatedAt : IsoDateTime
  deletedAt : Option IsoDateTime

structure OrchestrationMessage where
  id : MessageId
  role : OrchestrationMessageRole
  text : Text16
  attachments : Option (List ChatAttachment)
  turnId : Option TurnId
  streaming : Bool
  createdAt : IsoDateTime
  updatedAt : IsoDateTime

structure OrchestrationProposedPlan where
  id : OrchestrationProposedPlanId
  turnId : Option TurnId
  planMarkdown : String
  implementedAt : Option IsoDateTime
  implementationThreadId : Option ThreadId
  createdAt : IsoDateTime
  updatedAt : IsoDateTime

structure OrchestrationSession where
  threadId : ThreadId
  status : OrchestrationSessionStatus
  providerName : Option String
  providerInstanceId : Option ProviderInstanceId
  runtimeMode : RuntimeMode
  activeTurnId : Option TurnId
  lastError : Option String
  updatedAt : IsoDateTime

structure OrchestrationCheckpointFile where
  path : String
  kind : String
  additions : Nat
  deletions : Nat
  deriving DecidableEq

structure OrchestrationCheckpointSummary where
  turnId : TurnId
  checkpointTurnCount : Nat
  checkpointRef : CheckpointRef
  status : OrchestrationCheckpointStatus
  files : List OrchestrationCheckpointFile
  assistantMessageId : Option MessageId
  completedAt : IsoDateTime
  deriving DecidableEq

structure OrchestrationThreadActivity where
  id : EventId
  tone : OrchestrationThreadActivityTone
  kind : String
  summary : String
  payload : Json
  turnId : Option TurnId
  sequence : Option Nat
  createdAt : IsoDateTime

structure OrchestrationLatestTurn where
  turnId : TurnId
  state : OrchestrationLatestTurnState
  requestedAt : IsoDateTime
  startedAt : Option IsoDateTime
  completedAt : Option IsoDateTime
  assistantMessageId : Option MessageId
  sourceProposedPlan : Option SourceProposedPlanReference
  deriving DecidableEq

structure OrchestrationThread where
  id : ThreadId
  projectId : ProjectId
  title : String
  modelSelection : ModelSelection
  runtimeMode : RuntimeMode
  interactionMode : ProviderInteractionMode
  branch : Option String
  worktreePath : Option String
  latestTurn : Option OrchestrationLatestTurn
  createdAt : IsoDateTime
  updatedAt : IsoDateTime
  archivedAt : Option IsoDateTime
  deletedAt : Option IsoDateTime
  messages : List OrchestrationMessage
  proposedPlans : List OrchestrationProposedPlan
  activities : List OrchestrationThreadActivity
  checkpoints : List OrchestrationCheckpointSummary
  session : Option OrchestrationSession
  customMetadata : CustomMetadata

structure OrchestrationReadModel where
  snapshotSequence : Nat
  projects : List OrchestrationProject
  threads : List OrchestrationThread
  updatedAt : IsoDateTime

structure OrchestrationProjectShell where
  id : ProjectId
  title : String
  workspaceRoot : String
  defaultModelSelection : Option ModelSelection
  scripts : List ProjectScript
  createdAt : IsoDateTime
  updatedAt : IsoDateTime

structure OrchestrationThreadShell where
  id : ThreadId
  projectId : ProjectId
  title : String
  modelSelection : ModelSelection
  runtimeMode : RuntimeMode
  interactionMode : ProviderInteractionMode
  branch : Option String
  worktreePath : Option String
  latestTurn : Option OrchestrationLatestTurn
  createdAt : IsoDateTime
  updatedAt : IsoDateTime
  archivedAt : Option IsoDateTime
  session : Option OrchestrationSession
  latestUserMessageAt : Option IsoDateTime
  hasPendingApprovals : Bool
  hasPendingUserInput : Bool
  hasActionableProposedPlan : Bool
  customMetadata : CustomMetadata

structure OrchestrationShellSnapshot where
  snapshotSequence : Nat
  projects : List OrchestrationProjectShell
  threads : List OrchestrationThreadShell
  updatedAt : IsoDateTime

end GT3Code.Contracts
