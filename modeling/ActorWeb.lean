import ActorWeb.ActorExclusion
import ActorWeb.ActorMessages
import ActorWeb.ActorRestarts
import ActorWeb.AgentLoopDurability
import ActorWeb.CheckpointRefinement
import ActorWeb.DirectoryLookup
import ActorWeb.GatewayAuthority
import ActorWeb.GatewayBuffers
import ActorWeb.GatewayLifecycle
import ActorWeb.GatewayTeardown
import ActorWeb.GatewayReplay
import ActorWeb.RestartBudget
import ActorWeb.SessionHistory
import ActorWeb.DirectorySync
import ActorWeb.DirectoryOwnership
import ActorWeb.MeshDirectory
import ActorWeb.LatticeOnce
import ActorWeb.LatticeReplay
import ActorWeb.MeshPaths
import ActorWeb.ProjectionConvergence
import ActorWeb.ProjectionOrder
import ActorWeb.ProviderEffects
import ActorWeb.ProviderSequence
import ActorWeb.Transition
import ActorWeb.StreamDiscipline
import ActorWeb.StreamPair
import ActorWeb.TopologyForwarding
import ActorWeb.TransportOwnership
import ActorWeb.TransportAcks
import ActorWeb.TransportInbound
import ActorWeb.TransportSession
import ActorWeb.TransportStats
import ActorWeb.AgentLoopState
import ActorWeb.AgentLoop
import ActorWeb.AgentLoopNames
import ActorWeb.AgentLoopSafety
import ActorWeb.ToolDeliveryLaws
import ActorWeb.RequestAccounting
import ActorWeb.CapabilityRegistry
import ActorWeb.SingleActivation
import ActorWeb.SystemEvents
import ActorWeb.WebNodeRuns
import ActorWeb.SupervisorGroups
import ActorWeb.AddressCodec
import ActorWeb.FrameAcceptance
import ActorWeb.IdempotencyKeys
import ActorWeb.RestartWindow
import ActorWeb.AskReplies
import ActorWeb.MessagePortSessions
import ActorWeb.FallbackContext
import ActorWeb.SourceRequests
import ActorWeb.TransportRetries
import ActorWeb.SequenceNumbers
import ActorWeb.TransportWire
import ActorWeb.TransportInbox
import ActorWeb.TransportGaps
import ActorWeb.CheckpointResume
import ActorWeb.CodeUnits
import ActorWeb.Keywords
import ActorWeb.EffectKeys
import ActorWeb.TraceKeys
import ActorWeb.CheckpointCodec
import ActorWeb.LocalSubscriptions
import ActorWeb.StableSort
import ActorWeb.InterceptorChain
import ActorWeb.JsonObjects
import ActorWeb.AgentTraces
import ActorWeb.AgentTraceNormalForm
import ActorWeb.Redaction
import ActorWeb.AgentTraceSanitizing
import ActorWeb.CommandAdmission
import ActorWeb.AdmissionSecrecy
import ActorWeb.ActorFlush
import ActorWeb.ActorInterceptors
import ActorWeb.FlushBarrier
import ActorWeb.LatticeActivations
import ActorWeb.LatticeStore
import ActorWeb.LatticeVersions
import ActorWeb.CorrelationTimers
import ActorWeb.HtnPlanner
import ActorWeb.HtnExecution
import ActorWeb.PlanInterpreter
import ActorWeb.PeerDiscovery
import ActorWeb.RetryInterceptor
import ActorWeb.HybridMemory
import ActorWeb.Pipeline
import ActorWeb.TimerActor
import ActorWeb.TransportSerializer
import ActorWeb.RuntimeHostCommands
import ActorWeb.RuntimeHostExposure
import ActorWeb.StateMachineAnalysis
import ActorWeb.BrowserLink
import ActorWeb.DiscoveryService
import ActorWeb.FrontCacheWindow
import ActorWeb.ParkingMailbox
import ActorWeb.TelemetryExporter
import ActorWeb.ValidationInterceptor
import ActorWeb.ActorInstances
import ActorWeb.DeadLetterQueue
import ActorWeb.FsmDispatcher
import ActorWeb.HttpRouter
