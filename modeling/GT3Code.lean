import GT3Code.Orchestration.StampedMetadata
import GT3Code.Orchestration.PublishedStream
import GT3Code.Orchestration.LastingIdentities
import GT3Code.Orchestration.CheckpointRevert
import GT3Code.Orchestration.CheckpointNumbers
import GT3Code.Orchestration.DeliveryModes
import GT3Code.Orchestration.ThreadIsolation
import GT3Code.Server.SubscribeThread
import GT3Code.Server.VcsStatusConvergence
import GT3Code.Orchestration.AttachmentsInUse
import GT3Code.Terminal.Delivery
import GT3Code.Terminal.HistoryFile
import GT3Code.Terminal.HistoryNames
import GT3Code.Terminal.HistoryChunks
import GT3Code.Auth.Revocation
import GT3Code.Auth.PairingOnce
import GT3Code.Codex.RequestsSettle
import GT3Code.Acp.ResponseRouting
import GT3Code.Acp.SessionUpdates
import GT3Code.Acp.AssistantSegments
import GT3Code.Provider.RefusedTurnStart
import GT3Code.Provider.BindingUpdates
import GT3Code.Provider.ResumeProvenance
import GT3Code.Codex.WaitingForUser
import GT3Code.Codex.ClosingSessions
import GT3Code.Codex.Conversations
import GT3Code.Provider.RegistryMirrorsSettings
import GT3Code.Web.LatestTurnAgreement
import GT3Code.Web.OrchestrationRecovery
import GT3Code.Web.CoalescedEvents
import GT3Code.Contracts.FaithfulGrouping
import GT3Code.Persistence.MessageIndex
import GT3Code.Server.KeybindingEdits
import GT3Code.Web.MessageAgreement
import GT3Code.Codex.MessageFraming
import GT3Code.Gc.ResourceCache
import GT3Code.Server.CapturedOutput
import GT3Code.Server.CommandOrder
import GT3Code.Server.SettingsSecrecy
import GT3Code.Server.WorkspacePaths
import GT3Code.Server.WorkspaceSearch
import GT3Code.Shared.BranchNames
import GT3Code.Web.ComposerCursor
import GT3Code.Web.ContextRoundTrip
import GT3Code.Web.EffectiveShortcuts
import GT3Code.Web.DraftOwnership
import GT3Code.Web.HistoryBootstrap
import GT3Code.Web.LastSyncWins
import GT3Code.Web.PaneRuns
import GT3Code.Web.TerminalLinkRanges
import GT3Code.Web.ProjectRestart
import GT3Code.Web.TurnDiffFaithful
import GT3Code.Server.CollectUint8StreamText
import GT3Code.Web.StoreIndexes
