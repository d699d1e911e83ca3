import AdkGateway.CodingAgent.Cancellation
import AdkGateway.CodingAgent.CancelledRun
import AdkGateway.Foundation.Interleaving
import AdkGateway.KnowledgeGraph.Isolation
import AdkGateway.KnowledgeGraph.Restart
import AdkGateway.Foundation.SlidingWindow
import AdkGateway.Pairing.Service
import AdkGateway.RateLimiter.Soundness
import AdkGateway.RateLimiter.PerRequest
import AdkGateway.Shutdown.Drain
import AdkGateway.Pairing.SingleUse
import AdkGateway.Pairing.Lockout
import AdkGateway.Foundation.Json
import AdkGateway.ToolApproval.Service
import AdkGateway.ToolApproval.ExactlyOnce
import AdkGateway.Channel
import AdkGateway.MultiUser.Isolation
import AdkGateway.AccessControl.Decisions
import AdkGateway.Foundation.JsonPath
import AdkGateway.Encryption.ConfigEncryption
import AdkGateway.Encryption.RoundTrip
import AdkGateway.ConfigWatcher.Validation
import AdkGateway.ConfigWatcher.LastEdit
import AdkGateway.SessionBridge.Store
import AdkGateway.SessionBridge.Append
import AdkGateway.SessionBridge.Backends
import AdkGateway.Foundation.Separator
import AdkGateway.SessionBridge.Key
import AdkGateway.SessionBridge.OneSession
import AdkGateway.AgentRegistry.Registry
import AdkGateway.Rbac.Bridge
import AdkGateway.Cron.Loops
import AdkGateway.Foundation.Tiers
import AdkGateway.Router.MostSpecific
import AdkGateway.Delivery.Strategy
import AdkGateway.Delivery.Lossless
import AdkGateway.CodingAgent.Streaming
import AdkGateway.Delivery.Convergence
import AdkGateway.Workflow.Graph
import AdkGateway.CategoryConfig.Codec
import AdkGateway.Workflow.Execution
import AdkGateway.CategoryConfig.RoundTrip
import AdkGateway.ProcessManager.Children
import AdkGateway.Gateway.PairedUsers
import AdkGateway.CodingAgent.PermissionPool
import AdkGateway.HotReload.Channels
import AdkGateway.HotReload.Dispatch
import AdkGateway.HotReload.AccessPolicy
import AdkGateway.HotReload.LiveChannels
import AdkGateway.HotReload.Unnoticed
import AdkGateway.Cron.Paused
import AdkGateway.Cron.Trigger
import AdkGateway.Cron.OnTarget
import AdkGateway.Foundation.Replace
import AdkGateway.Startup.Load
import AdkGateway.Startup.Decryption
import AdkGateway.Startup.ReloadedConfig
import AdkGateway.Startup.EncryptedFile
import AdkGateway.ConfigEdits.Writers
import AdkGateway.ConfigEdits.NoLostUpdate
import AdkGateway.ConfigEdits.SecretsAtRest
import AdkGateway.ControlPanel.Delegation
import AdkGateway.AgentRegistry.Lifecycle
import AdkGateway.AgentRegistry.SystemAgent
import AdkGateway.AgentRegistry.Persistence
import AdkGateway.AgentRegistry.OnDisk
import AdkGateway.AgentTools.Effects
import AdkGateway.AgentTools.Sequence
import AdkGateway.AgentTools.RunningAgents
import AdkGateway.AgentTools.RolesFollow
import AdkGateway.Foundation.Machine
import AdkGateway.Mcp.Connections
import AdkGateway.AgentTools.Concurrent
import AdkGateway.AgentTools.Hands
import AdkGateway.AgentTools.RouterFollows
import AdkGateway.Foundation.Value
import AdkGateway.SchemaSanitizer.Depth
import AdkGateway.Foundation.Interval
import AdkGateway.SchemaSanitizer.Bounds
import AdkGateway.SchemaSanitizer.Declared
import AdkGateway.SchemaSanitizer.FunctionSchema
import AdkGateway.AcpClient.Cancellation
import AdkGateway.ControlPanel.Auth
import AdkGateway.ControlPanel.SessionGuard
import AdkGateway.Foundation.Routing
import AdkGateway.GatewayRoutes.Enforcement
import AdkGateway.ControlPanel.ConfigPage
import AdkGateway.ControlPanel.Sections
import AdkGateway.ControlPanel.SectionCare
import AdkGateway.ProcessMessage.Handler
import AdkGateway.ProcessMessage.Restrictions
import AdkGateway.Foundation.Splitting
import AdkGateway.KnowledgeGraph.Cascade
import AdkGateway.Workflow.Conditions
import AdkGateway.Workflow.Reducers
import AdkGateway.CodingAgent.Confinement
import AdkGateway.CodingAgent.CostCap
import AdkGateway.CodingAgent.Formatting
import AdkGateway.CodingAgent.Presented
import AdkGateway.FallbackChain.Attempts
import AdkGateway.Foundation.Custody
import AdkGateway.ProcessMessage.Cleanup
import AdkGateway.ProcessMessage.Stop
import AdkGateway.EventStream.Collector
import AdkGateway.EventStream.TextLaw
import AdkGateway.Foundation.Glob
import AdkGateway.Foundation.Marked
import AdkGateway.Foundation.Removal
import AdkGateway.HealthMonitor.Alternation
import AdkGateway.Heartbeat.Stripping
import AdkGateway.Metrics.Agreement
import AdkGateway.ProcessManager.Ports
import AdkGateway.Reconnect.Backoff
import AdkGateway.Startup.Substitution
import AdkGateway.SkillLoader.Selection
import AdkGateway.EventStream.ErrorText
import AdkGateway.ProcessMessage.FallbackRun
import AdkGateway.CodingAgent.Command
import AdkGateway.CodingAgent.History
import AdkGateway.CodingAgent.StatusEvents
import AdkGateway.Delivery.Suppression
import AdkGateway.AgentCodegen.Faithful
import AdkGateway.AgentTools.ChildEnvironment
import AdkGateway.Cron.ScheduleInterval
import AdkGateway.Mcp.ReconnectWaits
import AdkGateway.CodingAgent.QueueCalls
import AdkGateway.CodingAgent.TaskStatus
import AdkGateway.CodingAgent.TelegramStop
import AdkGateway.GatewayRoutes.RateLimit
import AdkGateway.GatewayRoutes.Webhook
import AdkGateway.Jwt.KeyRotation
import AdkGateway.KnowledgeGraph.Summary
import AdkGateway.Telemetry.LogRetention
import AdkGateway.Telemetry.Redaction
import AdkGateway.Channel.Discord
import AdkGateway.Channel.Matrix
import AdkGateway.Channel.Slack
import AdkGateway.CodingAgent.HitlPermissions
import AdkGateway.CodingAgent.Probes
import AdkGateway.SessionBridge.Firestore
import AdkGateway.SessionBridge.Redis
import AdkGateway.CodingAgent.Registration
import AdkGateway.SessionBridge.RedisCommands
