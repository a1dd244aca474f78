import TrpcService.Data.ClockedObject
import TrpcService.Storage.Memory.Dispatch

namespace TrpcService.Storage.Memory

open Data

/-! Runs of the repository: any number of workers make any of its calls. -/

inductive Call where
  | acceptInbound (context : TenantContext) (envelope : InboundEnvelope)
      (traceHeaders : List (String × String))
  | acceptInboundV2 (context : TenantContext) (envelope : InboundEnvelope)
      (priority : Priority) (retryAt : Option Time)
  | acceptMailbox (key : SessionKey) (inboundId : String) (priority : Priority)
      (retryAt : Option Time) (traceId : Option String)
  | claimMailbox (key : SessionKey) (ownerId : String) (leaseFor : Time)
      (expectedGeneration expectedEpoch : Option Int)
      (acceptance : Option Acceptance)
  | renewMailbox (lease : MailboxLease) (leaseFor : Time)
  | renewMailboxes (leases : List MailboxLease) (leaseFor : Time)
  | commitMailbox (lease : MailboxLease)
  | rescheduleMailbox (lease : MailboxLease) (retryAt : Option Time) (priority : Option Priority)
  | retryMailbox (lease : MailboxLease) (retryAt : Option Time) (priority : Option Priority)
  | recoverMailbox (key : SessionKey)
  | reconcileMailbox (key : SessionKey)
  | sweepExpiredLeases (limit : Int)
  | scheduleRetries (limit : Int)
  | reconcileSessions (limit : Int)
  | claimSessionReady (key : SessionKey) (ownerId : String) (leaseFor : Time)
      (expectedGeneration : Option Int) (expectedEventId : Option String)
      (acceptance : Option Acceptance)
  | renewSessionReady (lease : SessionLease) (leaseFor : Time)
  | commitSessionReady (commit : TurnCommit)
  | retrySessionReady (lease : SessionLease) (delay : Time)
  | failSessionReady (lease : SessionLease)
  | acquire (acceptance : Acceptance) (workerId : String) (leaseFor : Time)
  | renew (lease : SessionLease) (leaseFor : Time)
  | commit (commit : TurnCommit)
  | fail (lease : SessionLease)
  | claimOutbox (eventType : EventType) (ownerId : String) (limit : Int) (leaseFor : Time)
  | markOutboxPublished (outboxId ownerId : String)
  | releaseOutbox (outboxId ownerId : String) (delay : Time)
  | deadLetterOutbox (record : OutboxRecord) (ownerId reason : String)
  | recordDelivery (receipt : DeliveryReceipt)
  | beginDelivery (record : OutboxRecord) (ownerId : String)
  | finishDelivery (record : OutboxRecord) (ownerId : String)
      (attemptNumber : Nat) (receipt : DeliveryReceipt) (retryDelay : Time)

/-- A call with the identifiers that are generated while it runs. -/
structure Request where
  call : Call
  uuids : Nat → String

inductive Answer where
  | accepted (acceptance : Acceptance)
  | mailbox (mailbox : SessionMailbox)
  | recovered (mailbox : Option SessionMailbox)
  | claim (claim : SessionClaim)
  | mailboxLease (lease : MailboxLease)
  | mailboxLeases (leases : List MailboxLease)
  | acquired (lease : Option SessionLease)
  | renewed (lease : SessionLease)
  | committed (result : CommitResult)
  | changed (count : Nat)
  | records (records : List OutboxRecord)
  | attempt (attempt : DeliveryAttempt)
  | done

abbrev Reply := Except StorageError Answer

def answering {α : Type} (answer : α → Answer) (outcome : Outcome α) :
    Reply × Repository := (outcome.1.map answer, outcome.2)

def Request.apply (request : Request) (clk : Nat → Time)
    (repository : Repository) : Reply × Repository :=
  let uuids := request.uuids
  match request.call with
  | .acceptInbound context envelope traceHeaders =>
      answering .accepted (repository.acceptInbound context envelope traceHeaders uuids clk)
  | .acceptInboundV2 context envelope priority retryAt =>
      answering .accepted (repository.acceptInboundV2 context envelope priority retryAt uuids clk)
  | .acceptMailbox key inboundId priority retryAt traceId =>
      answering .mailbox (repository.acceptMailbox key inboundId priority retryAt traceId uuids clk)
  | .claimMailbox key ownerId leaseFor expectedGeneration expectedEpoch acceptance =>
      answering .claim (repository.claimMailbox key ownerId leaseFor
        expectedGeneration expectedEpoch acceptance clk)
  | .renewMailbox lease leaseFor =>
      answering .mailboxLease (repository.renewMailbox lease leaseFor clk)
  | .renewMailboxes leases leaseFor =>
      answering .mailboxLeases (repository.renewMailboxes leases leaseFor clk)
  | .commitMailbox lease => answering .mailbox (repository.commitMailbox lease uuids clk)
  | .rescheduleMailbox lease retryAt priority =>
      answering .mailbox (repository.rescheduleMailbox lease retryAt priority uuids clk)
  | .retryMailbox lease retryAt priority =>
      answering .mailbox (repository.retryMailbox lease retryAt priority uuids clk)
  | .recoverMailbox key => answering .recovered (repository.recoverMailbox key uuids clk)
  | .reconcileMailbox key => answering .recovered (repository.reconcileMailbox key uuids clk)
  | .sweepExpiredLeases limit => answering .changed (repository.sweepExpiredLeases limit uuids clk)
  | .scheduleRetries limit => answering .changed (repository.scheduleRetries limit uuids clk)
  | .reconcileSessions limit => answering .changed (repository.reconcileSessions limit uuids clk)
  | .claimSessionReady key ownerId leaseFor expectedGeneration expectedEventId acceptance =>
      answering .claim (repository.claimSessionReady key ownerId leaseFor
        expectedGeneration expectedEventId acceptance uuids clk)
  | .renewSessionReady lease leaseFor =>
      answering .renewed (repository.renewSessionReady lease leaseFor clk)
  | .commitSessionReady commit =>
      answering .committed (repository.commitSessionReady commit uuids clk)
  | .retrySessionReady lease delay =>
      answering (fun _ => .done) (repository.retrySessionReady lease delay uuids clk)
  | .failSessionReady lease =>
      answering (fun _ => .done) (repository.failSessionReady lease uuids clk)
  | .acquire acceptance workerId leaseFor =>
      answering .acquired (repository.acquire acceptance workerId leaseFor uuids clk)
  | .renew lease leaseFor => answering .renewed (repository.renew lease leaseFor clk)
  | .commit commit => answering .committed (repository.commit commit uuids clk)
  | .fail lease => answering (fun _ => .done) (repository.fail lease)
  | .claimOutbox eventType ownerId limit leaseFor =>
      answering .records (repository.claimOutbox eventType ownerId limit leaseFor clk)
  | .markOutboxPublished outboxId ownerId =>
      answering (fun _ => .done) (repository.markOutboxPublished outboxId ownerId)
  | .releaseOutbox outboxId ownerId delay =>
      answering (fun _ => .done) (repository.releaseOutbox outboxId ownerId delay clk)
  | .deadLetterOutbox record ownerId reason =>
      answering (fun _ => .done) (repository.deadLetterOutbox record ownerId reason)
  | .recordDelivery receipt => answering (fun _ => .done) (repository.recordDelivery receipt)
  | .beginDelivery record ownerId => answering .attempt (repository.beginDelivery record ownerId)
  | .finishDelivery record ownerId attemptNumber receipt retryDelay =>
      answering (fun _ => .done) (repository.finishDelivery record ownerId
        attemptNumber receipt retryDelay clk)

def memoryRepository : ClockedObject Repository Request Reply Time where
  initial := .initial
  apply := Request.apply

abbrev RepositoryConfig := Config Repository Request Reply Time

end TrpcService.Storage.Memory
