import TrpcService.Storage.Mailbox.Wakeup
import TrpcService.Storage.Mailbox.Fencing
import TrpcService.Storage.Mailbox.Fifo
import TrpcService.Storage.Postgres.Leases
import TrpcService.Storage.Postgres.Wakeup
import TrpcService.Storage.Memory.FencingTokens
import TrpcService.Storage.ClaimAuthentication
import TrpcService.Storage.Memory.Atomicity
import TrpcService.Storage.Reconciliation
import TrpcService.Storage.Takeover
import TrpcService.Channels.DeliveryFencing
import TrpcService.Channels.Ambiguity
import TrpcService.Channels.FeishuAuthentication
import TrpcService.Web.FeishuGateway
import TrpcService.Channels.ConnectionEvidence
import TrpcService.Agent.ConnectionManager
import TrpcService.Agent.Registry
import TrpcService.Agent.Summaries
import TrpcService.Tool.Retry
import TrpcService.Tool.Finality
import TrpcService.Tool.AtMostOnce
import TrpcService.Queue.OutboxDispatcher
import TrpcService.Queue.EmergencyDurability
import TrpcService.Queue.EmergencyOutages
import TrpcService.Migration.TenantIsolation
import TrpcService.Migration.Rollback
import TrpcService.Tenant.Idempotency
import TrpcService.Tenant.SessionId
import TrpcService.Tenant.AuditPage
import TrpcService.Channels.WeComDownload
import TrpcService.Channels.MediaLocator
import TrpcService.Faults.Controller
import TrpcService.Log.Redaction
import TrpcService.Queue.WakeUps
import TrpcService.Config.Secrets
import TrpcService.Agent.Media
