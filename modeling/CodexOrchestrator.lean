import CodexOrchestrator.ApiProvenance
import CodexOrchestrator.ApprovalGate
import CodexOrchestrator.Approvers
import CodexOrchestrator.Atomicity
import CodexOrchestrator.Audit
import CodexOrchestrator.Authentication
import CodexOrchestrator.Authorization
import CodexOrchestrator.Backends
import CodexOrchestrator.BindingRecovery
import CodexOrchestrator.Concurrency
import CodexOrchestrator.Cooldowns
import CodexOrchestrator.Deliverables
import CodexOrchestrator.DeliveryFrame
import CodexOrchestrator.ExternalSend
import CodexOrchestrator.FieldProvenance
import CodexOrchestrator.Freshness
import CodexOrchestrator.Governance
import CodexOrchestrator.Identifiers
import CodexOrchestrator.IntakeForms
import CodexOrchestrator.Lifecycle
import CodexOrchestrator.MonitorEvents
import CodexOrchestrator.Notifications
import CodexOrchestrator.OpenEvents
import CodexOrchestrator.Piecewise
import CodexOrchestrator.PolicyLaws
import CodexOrchestrator.Reapproval
import CodexOrchestrator.Recovery
import CodexOrchestrator.ReleaseChain
import CodexOrchestrator.Releases
import CodexOrchestrator.Retries
import CodexOrchestrator.Snapshots
import CodexOrchestrator.State.RoundTrip
import CodexOrchestrator.TriageLaws
