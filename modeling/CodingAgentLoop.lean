import CodingAgentLoop.LegacyEffects
import CodingAgentLoop.OwnerFencing
import CodingAgentLoop.SettlementFrame
import CodingAgentLoop.Permanence
import CodingAgentLoop.TapeReload
import CodingAgentLoop.TopicAgreement
import CodingAgentLoop.CompensationHistory
import CodingAgentLoop.MessageOrder
import CodingAgentLoop.FirstDecision
import CodingAgentLoop.SignalRuns
import CodingAgentLoop.ScheduleRuns
import CodingAgentLoop.CommandLaunch
import CodingAgentLoop.BatchOrder
import CodingAgentLoop.PatchPlanAgreement
import CodingAgentLoop.PatchApplication
import CodingAgentLoop.StreamDelivery
import CodingAgentLoop.ChildGrants
import CodingAgentLoop.ChildConversation
import CodingAgentLoop.BeeNodeRuns
import CodingAgentLoop.SchemaMeaning
import CodingAgentLoop.ModelRequests
import CodingAgentLoop.SettlementReplay
import CodingAgentLoop.FingerprintCover
import CodingAgentLoop.SegmentDelivery
import CodingAgentLoop.ContextWindow
import CodingAgentLoop.CheckpointRestore
import CodingAgentLoop.ArchiveRoundTrip
import CodingAgentLoop.CommandPolicyViews
import CodingAgentLoop.CodexDelivery
import CodingAgentLoop.CallFragments
import CodingAgentLoop.MemoryReview
import CodingAgentLoop.CheckpointFiles
import CodingAgentLoop.ShellSession
import CodingAgentLoop.FileChunks
import CodingAgentLoop.OAuthFlows
