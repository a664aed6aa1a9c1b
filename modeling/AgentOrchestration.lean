import AgentOrchestration.Agents.EndedRuns
import AgentOrchestration.Agents.GrantConfinement
import AgentOrchestration.Agents.Transcript
import AgentOrchestration.Conversation.IdempotentTurns
import AgentOrchestration.Conversation.SessionIsolation
import AgentOrchestration.EdgeEvaluator.Denotation
import AgentOrchestration.EdgeEvaluator.Serialization
import AgentOrchestration.EventLog.EventBatching
import AgentOrchestration.Execution.CheckpointCache
import AgentOrchestration.Execution.FailedRequests
import AgentOrchestration.Execution.PinnedPolicy
import AgentOrchestration.Execution.ReportedFailures
import AgentOrchestration.Flows.AcceptedDrafts
import AgentOrchestration.Flows.ComposedSnapshots
import AgentOrchestration.Flows.ServiceDatabase
import AgentOrchestration.Governance.RateLimit
import AgentOrchestration.GraphRuntime.LoopLimit
import AgentOrchestration.GraphRuntime.NameIndependence
import AgentOrchestration.Guardrails.CallBudget
import AgentOrchestration.Guardrails.SpendBudget
import AgentOrchestration.Llm.LayeredInference
import AgentOrchestration.Mcp.AppCache
import AgentOrchestration.Memory.MemoryWrites
import AgentOrchestration.Rag.TokenWindow
import AgentOrchestration.Temporal.Finalization
import AgentOrchestration.Tools.ClosedToolRuns
import AgentOrchestration.Tools.ToolRunQuota
import AgentOrchestration.Flows.TenantCompilation
import AgentOrchestration.Memory.ProfileMerge
import AgentOrchestration.HumanSla.HumanSlaService
