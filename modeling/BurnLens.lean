import BurnLens.Agents.Confinement
import BurnLens.Agents.Isolation
import BurnLens.Agents.LinkedRequests
import BurnLens.Agents.Rollup
import BurnLens.Alerts.BudgetReaders
import BurnLens.Alerts.DailyWindows
import BurnLens.Alerts.DiscoveryCoverage
import BurnLens.Alerts.OncePerPeriod
import BurnLens.Analysis.CachedTraffic
import BurnLens.Analysis.PromptSegments
import BurnLens.Analysis.Runs
import BurnLens.Analysis.WasteBounds
import BurnLens.Autonomy.Settlement
import BurnLens.Autonomy.TrustUpdate
import BurnLens.Backend.AlertIsolation
import BurnLens.Backend.AuthTokens
import BurnLens.Backend.CostConfidence
import BurnLens.Backend.DeliveryOrder
import BurnLens.Backend.KeyRevocation
import BurnLens.Backend.PlanChanges
import BurnLens.Backend.RateLimit
import BurnLens.Backend.Retention
import BurnLens.Backend.Reversal
import BurnLens.Backend.TeamCaps
import BurnLens.Backend.ThresholdEmails
import BurnLens.Backend.TotpLockout
import BurnLens.Backend.TotpReplay
import BurnLens.Backend.WebhookSettlement
import BurnLens.Budget.Lifecycle
import BurnLens.Budget.ReservationSafety
import BurnLens.Budget.SpendCache
import BurnLens.Cache.SignedRows
import BurnLens.Cache.StreamRoundTrip
import BurnLens.Cloud.HeadOfLine
import BurnLens.Cloud.OutcomeHistory
import BurnLens.Cloud.OutcomeSync
import BurnLens.Cloud.SyncPrivacy
import BurnLens.Cost.Charges
import BurnLens.Cost.Resolution
import BurnLens.Detection.Anomaly
import BurnLens.Detection.OneEntry
import BurnLens.Detection.Retries
import BurnLens.Economics.Agreement
import BurnLens.Economics.Concentration
import BurnLens.Execution.Scope
import BurnLens.Findings.Decisions
import BurnLens.Findings.Savings
import BurnLens.Findings.Verification
import BurnLens.Governance.Decisions
import BurnLens.Guardrails.LateWrites
import BurnLens.Guardrails.Resumption
import BurnLens.Guardrails.TaskAccounting
import BurnLens.Providers.BedrockStream
import BurnLens.Providers.ToolCallAgreement
import BurnLens.Proxy.Correlation
import BurnLens.Proxy.CounterSeeding
import BurnLens.Proxy.KeyLabels
import BurnLens.Proxy.PolicyEnforcement
import BurnLens.Proxy.StreamFallback
import BurnLens.Proxy.VirtualKeySecrecy
import BurnLens.Proxy.VirtualKeys
import BurnLens.Scan.CorruptBubbles
import BurnLens.Scan.CursorCache
import BurnLens.Scan.GeminiAgreement
import BurnLens.Scan.PriceMemo
import BurnLens.Storage.EventIds
import BurnLens.Storage.ExactlyOnce
import BurnLens.Storage.Maintenance
import BurnLens.Storage.WalConservation
import BurnLens.Storage.WalRecord
import BurnLens.Verification.Verdicts
