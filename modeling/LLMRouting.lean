import LLMRouting.Interaction.RelyGuarantee
import LLMRouting.Registry.ModelRegistry
import LLMRouting.ControlPlane.DefaultChain
import LLMRouting.Interaction.Transition
import LLMRouting.Providers.CircuitBreaker
import LLMRouting.Providers.CircuitLifecycle
import LLMRouting.Providers.ProbeGuarantees
import LLMRouting.Routing.Diagnostics
import LLMRouting.Routing.Engine
import LLMRouting.Routing.Trace
import LLMRouting.Routing.Rules
import LLMRouting.Routing.Outcomes
import LLMRouting.Routing.Loop
import LLMRouting.Routing.Call
import LLMRouting.Routing.Dispatch
import LLMRouting.Routing.Commit
import LLMRouting.Routing.Turns
import LLMRouting.Interaction.Interleaving
import LLMRouting.Interaction.Histories
import LLMRouting.Interaction.Shadow
import LLMRouting.Routing.Overlap
import LLMRouting.Interaction.Inline
import LLMRouting.Upstream.Http
import LLMRouting.Upstream.Postings
import LLMRouting.Upstream.Refusals
import LLMRouting.ControlPlane.Regions
import LLMRouting.ControlPlane.Tenants
import LLMRouting.Providers.CircuitInvariant
import LLMRouting.Api.DeveloperGate
import LLMRouting.Config.Settings
import LLMRouting.Routing.Exposure
import LLMRouting.Routing.NewTurn
import LLMRouting.Routing.Answers
import LLMRouting.Interaction.Pledge
import LLMRouting.Routing.PolicyAudit
import LLMRouting.Routing.Crew
import LLMRouting.Interaction.Noninterference
import LLMRouting.Routing.AuditRuns
import LLMRouting.Routing.Isolation
import LLMRouting.Api.TenantBoundary
import LLMRouting.Text.Characters
import LLMRouting.Text.Regex
import LLMRouting.Gateway.ResponseGateway
import LLMRouting.Gateway.Layout
import LLMRouting.Gateway.SelfIntroduction
import LLMRouting.ControlPlane.PolicyHistory
import LLMRouting.Api.ControlPlaneRequests
import LLMRouting.Api.GovernanceUpdates
import LLMRouting.Interaction.Raising
import LLMRouting.Routing.Rejections
import LLMRouting.ControlPlane.Chains
import LLMRouting.Routing.Denials
import LLMRouting.Upstream.Ladder
import LLMRouting.Routing.FallbackPath
import LLMRouting.Routing.ImageRetries
import LLMRouting.Upstream.SharedCircuit
import LLMRouting.Routing.CallLedger
import LLMRouting.Routing.FallbackFlags
import LLMRouting.Routing.FailureClasses
import LLMRouting.Interaction.Invariant
import LLMRouting.Routing.Circuits
import LLMRouting.Upstream.Withdrawals
import LLMRouting.Data.Grouping
import LLMRouting.Upstream.ModelCatalog
import LLMRouting.Gateway.Fences
import LLMRouting.Config.ProviderConfigs
import LLMRouting.Config.Topologies
import LLMRouting.Data.Base64
import LLMRouting.Providers.CircuitHealth
import LLMRouting.Registry.History
import LLMRouting.Schemas.Images
import LLMRouting.Text.Locality
import LLMRouting.Text.Weight
import LLMRouting.Gateway.InlineCode
import LLMRouting.Upstream.HeldCalls
import LLMRouting.Interaction.Upkeep
import LLMRouting.Upstream.Traffic
import LLMRouting.Routing.Records
import LLMRouting.Config.BuildEngine
import LLMRouting.Upstream.Startup
import LLMRouting.Upstream.Health
import LLMRouting.Upstream.Effort
import LLMRouting.Interaction.Protocol
import LLMRouting.Routing.Protocol
import LLMRouting.Routing.Deadline
import LLMRouting.Routing.Narration
import LLMRouting.Routing.Availability
