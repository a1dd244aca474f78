import TrpcService.Storage.Mailbox.Recovery
import Mathlib.Data.Finset.Insert

namespace TrpcService.Storage.Memory

open Data

/-! The in-memory runtime repository.  No call waits for anything but locks
that are free, so each runs to its end undisturbed.  A call receives the
instants it reads from the clock and the identifiers `uuid4` gives it, in
order, and returns the repository it leaves behind, also when it raises. -/

def staleCommitMessage : String := "stale worker cannot commit this session"
def staleRetryMessage : String := "stale worker cannot retry this session"
def staleFailMessage : String := "stale worker cannot fail this session"
def sessionConflictMessage : String := "session lease is no longer current"
def mailboxLeaseConflictMessage : String := "session mailbox lease is no longer current"
def retryDelayMessage : String := "retry delay must be non-negative"

inductive AttemptState where
  | sending
  | received (status : DeliveryStatus)
  deriving DecidableEq, Repr

/-- Tenant, channel, account and message id of the provider. -/
abbrev MessageKey := String × Channel × String × String

structure Repository where
  acceptances : Dict MessageKey Acceptance
  acceptancesById : Dict String Acceptance
  acceptanceSequence : Dict String Nat
  nextAcceptanceSequence : Nat
  sessions : Dict SessionKey SessionSnapshot
  leases : Dict SessionKey SessionLease
  committedInbound : Finset (String × String)
  inboundStatus : Dict (String × String) InboundStatus
  v2TurnStatus : Dict (String × String) TurnStatus
  outbox : Dict String OutboxRecord
  outboxClaims : Dict String (String × Time)
  deadLetters : List (OutboxRecord × String)
  deliveryReceipts : List DeliveryReceipt
  deliveryAttempts : Dict (String × String) (String × Nat × AttemptState)
  mailboxStore : MailboxStore

abbrev Outcome (α : Type) := Except StorageError α × Repository

def owns (current : Option SessionLease) (expected : SessionLease) : Bool :=
  current.any fun current => current.workerId = expected.workerId
      && current.fencingToken = expected.fencingToken
      && current.turnId = expected.turnId

def isLive (lease : Option SessionLease) (now : Time) : Bool :=
  lease.any fun lease => decide (now < lease.expiresAt)

def mailboxLease (mailbox : SessionMailbox) (lease : SessionLease) :
    Except StorageError MailboxLease :=
  match mailbox.processingSequence with
  | none => .error (.fencingConflict mailboxLeaseConflictMessage)
  | some sequence =>
      if mailbox.status ≠ .running ∨ mailbox.processingInboundId ≠ some lease.inboundId
          ∨ mailbox.leaseOwner ≠ some lease.workerId
          ∨ mailbox.leaseEpoch ≠ lease.fencingToken then
        .error (.fencingConflict mailboxLeaseConflictMessage)
      else
        .ok { tenantId := lease.tenantId, sessionId := lease.sessionId,
              inboundId := lease.inboundId, sequence,
              ownerId := lease.workerId, epoch := lease.fencingToken,
              expiresAt := mailbox.leaseExpiresAt.getD lease.expiresAt,
              attempt := lease.attempt, retryCount := mailbox.retryCount,
              priority := mailbox.priority }

def sequenced (first : Nat) : List StoredEvent → List SequencedEvent
  | [] => []
  | event :: rest => { event with sequence := first } :: sequenced (first + 1) rest

def commitSnapshot (snapshot : SessionSnapshot) (commit : TurnCommit) : SessionSnapshot :=
  let events := sequenced snapshot.nextSequence commit.events
  { snapshot with
    version := snapshot.version + 1,
    nextSequence := snapshot.nextSequence + events.length,
    state := commit.state, events := snapshot.events ++ events }

def commitResult (snapshot : SessionSnapshot) (commit : TurnCommit) :
    CommitResult where
  turnId := commit.lease.turnId
  firstSequence := if commit.events = [] then none else some snapshot.nextSequence
  lastSequence := if commit.events = [] then none
    else some ((commitSnapshot snapshot commit).nextSequence - 1)
  outboundId := commit.outbound.map OutboundEnvelope.outboundId

def outboundRecord (commit : TurnCommit) (envelope : OutboundEnvelope)
    (uuid : String) : OutboxRecord where
  outboxId := uuid
  tenantId := commit.lease.tenantId
  eventType := .outboundReady envelope.channel
  aggregateId := envelope.outboundId
  payload := .outbound envelope
  traceHeaders := envelope.traceHeaders

namespace Repository

def initial : Repository where
  acceptances := .empty
  acceptancesById := .empty
  acceptanceSequence := .empty
  nextAcceptanceSequence := 1
  sessions := .empty
  leases := .empty
  committedInbound := ∅
  inboundStatus := .empty
  v2TurnStatus := .empty
  outbox := .empty
  outboxClaims := .empty
  deadLetters := []
  deliveryReceipts := []
  deliveryAttempts := .empty
  mailboxStore := .initial

/-- Expose the wake-ups that the mailbox store appended. -/
def syncNewMailboxOutbox (repository : Repository) (start : Nat) : Repository :=
  { repository with
    outbox := (repository.mailboxStore.outbox.drop start).foldl
      (fun outbox record =>
        match outbox.get? record.outboxId with
        | some _ => outbox
        | none => outbox.set record.outboxId record) repository.outbox }

def mailboxWasRescheduled (before : Option SessionMailbox) (after : SessionMailbox) : Bool :=
  after.status = .queued && before.all fun before => before.status ≠ after.status
        || before.queueGeneration ≠ after.queueGeneration
        || before.updatedAt ≠ after.updatedAt

/-- Re-open the current generation after a suspected loss. -/
def rearmMailboxOutbox (repository : Repository) (mailbox : SessionMailbox) : Repository :=
  match repository.mailboxStore.outbox.reverse.find? fun record =>
      MailboxStore.isReadyFor (mailbox.tenantId, mailbox.sessionId) record
        && record.payload.generation? = some mailbox.queueGeneration with
  | none => repository
  | some record =>
      match repository.outbox.get? record.outboxId with
      | some _ => repository
      | none =>
          { repository with
            outboxClaims := repository.outboxClaims.erase record.outboxId,
            outbox := repository.outbox.set record.outboxId record }

/-- Run a transition of the mailbox store; its new wake-ups are exposed when
it does not raise. -/
def throughMailbox {α : Type} (repository : Repository) :
    Except StorageError α × MailboxStore → Outcome α
  | (.error error, store) => (.error error, { repository with mailboxStore := store })
  | (.ok answer, store) =>
      let start := repository.mailboxStore.outbox.length
      (.ok answer, { repository with mailboxStore := store }.syncNewMailboxOutbox start)

def withMailbox {α : Type} (repository : Repository)
    (answer : Except StorageError α × MailboxStore) : Outcome α :=
  (answer.1, { repository with mailboxStore := answer.2 })

variable (repository : Repository)

def acceptMailbox (key : SessionKey) (inboundId : String) (priority : Priority)
    (retryAt : Option Time) (traceId : Option String) (uuids : Nat → String) (clk : Nat → Time) :
    Outcome SessionMailbox :=
  repository.throughMailbox (repository.mailboxStore.accept key inboundId
    priority retryAt traceId (uuids 0) (clk 0))

def claimMailbox (key : SessionKey) (ownerId : String) (leaseFor : Time)
    (expectedGeneration expectedEpoch : Option Int) (acceptance : Option Acceptance)
    (clk : Nat → Time) : Outcome SessionClaim :=
  repository.withMailbox (repository.mailboxStore.claimSession key ownerId
    leaseFor expectedGeneration expectedEpoch acceptance (clk 0))

def renewMailbox (lease : MailboxLease)
    (leaseFor : Time) (clk : Nat → Time) : Outcome MailboxLease :=
  repository.withMailbox (repository.mailboxStore.renew lease leaseFor (clk 0))

def renewMailboxes (leases : List MailboxLease)
    (leaseFor : Time) (clk : Nat → Time) : Outcome (List MailboxLease) :=
  repository.withMailbox (repository.mailboxStore.renewMany leaseFor leases clk)

variable (lease : MailboxLease)

def commitMailbox (uuids : Nat → String) (clk : Nat → Time) : Outcome SessionMailbox :=
  repository.throughMailbox (repository.mailboxStore.commit lease (uuids 0) (clk 0))

def rescheduleMailbox (retryAt : Option Time) (priority : Option Priority) (uuids : Nat → String)
    (clk : Nat → Time) : Outcome SessionMailbox :=
  repository.throughMailbox (repository.mailboxStore.reschedule lease retryAt
    priority (uuids 0) (clk 0))

def retryMailbox (retryAt : Option Time) (priority : Option Priority) (uuids : Nat → String)
    (clk : Nat → Time) : Outcome SessionMailbox :=
  repository.throughMailbox (repository.mailboxStore.retry lease retryAt priority (uuids 0) (clk 0))

def recoverMailbox (key : SessionKey) (uuids : Nat → String) (clk : Nat → Time) :
    Outcome (Option SessionMailbox) :=
  let (mailbox, store) := repository.mailboxStore.recover key (uuids 0) (clk 0)
  repository.throughMailbox (.ok mailbox, store)

def reconcileMailbox (key : SessionKey) (uuids : Nat → String) (clk : Nat → Time) :
    Outcome (Option SessionMailbox) :=
  let before := repository.mailboxStore.mailboxes.get? key
  let (mailbox, store) := repository.mailboxStore.reconcile key (uuids 0) (clk 0)
  let (answer, repository) := repository.throughMailbox (.ok mailbox, store)
  match mailbox with
  | none => (answer, repository)
  | some mailbox =>
      if mailboxWasRescheduled before mailbox then (answer, repository.rearmMailboxOutbox mailbox)
      else (answer, repository)

def sweepExpiredLeases (limit : Int) (uuids : Nat → String) (clk : Nat → Time) : Outcome Nat :=
  repository.throughMailbox (repository.mailboxStore.sweepExpiredLeases limit uuids (clk 0))

def scheduleRetries (limit : Int) (uuids : Nat → String) (clk : Nat → Time) : Outcome Nat :=
  repository.throughMailbox (repository.mailboxStore.scheduleRetries limit uuids (clk 0))

def reconcileSessions (limit : Int) (uuids : Nat → String) (clk : Nat → Time) : Outcome Nat :=
  let before := repository.mailboxStore.mailboxes
  match repository.throughMailbox
    (repository.mailboxStore.reconcileSessions limit uuids (clk 0)) with
  | (.error error, repository) => (.error error, repository)
  | (.ok count, repository) =>
      (.ok count, repository.mailboxStore.mailboxes.entries.foldl (fun repository entry =>
          if mailboxWasRescheduled (before.get? entry.1) entry.2 then
            repository.rearmMailboxOutbox entry.2
          else repository) repository)

def messageKey (context : TenantContext) (envelope : InboundEnvelope) : MessageKey :=
  (context.tenantId, envelope.channel, envelope.accountId, envelope.externalMessageId)

variable (repository : Repository)

def putAcceptance (acceptance : Acceptance) : Repository :=
  { repository with
    acceptances := repository.acceptances.set
      (messageKey acceptance.context acceptance.envelope) acceptance,
    acceptancesById :=
      repository.acceptancesById.set acceptance.inboundId acceptance,
    acceptanceSequence := repository.acceptanceSequence.set
      acceptance.inboundId repository.nextAcceptanceSequence,
    nextAcceptanceSequence := repository.nextAcceptanceSequence + 1 }

def putOutbox (record : OutboxRecord) : Repository :=
  { repository with
    outbox := repository.outbox.set record.outboxId record }

def acceptInbound (context : TenantContext)
    (envelope : InboundEnvelope) (traceHeaders : List (String × String))
    (uuids : Nat → String) (clk : Nat → Time) : Outcome Acceptance :=
  match repository.acceptances.get? (messageKey context envelope) with
  | some existing => (.ok { existing with duplicate := true }, repository)
  | none =>
      let acceptance : Acceptance :=
        { inboundId := uuids 0, context, envelope, acceptedAt := clk 0 }
      let repository := repository.putAcceptance acceptance
      (.ok acceptance, repository.putOutbox
        { outboxId := uuids 1, tenantId := context.tenantId,
          eventType := .inboundAccepted, aggregateId := uuids 0,
          payload := .inbound (uuids 0), traceHeaders })

/-- A message that arrives while the head waits waits at least as long. -/
def effectiveRetryAt (mailbox : Option SessionMailbox) (retryAt : Option Time)
    (now : Time) : Option Time :=
  match mailbox with
  | none => retryAt
  | some mailbox =>
      match mailbox.retryAt with
      | none => retryAt
      | some waiting =>
          if mailbox.status = .retryWait ∧ now < waiting then
            some (match retryAt with
              | some retryAt => max waiting retryAt
              | none => waiting)
          else retryAt

def acceptInboundV2 (repository : Repository) (context : TenantContext)
    (envelope : InboundEnvelope) (priority : Priority) (retryAt : Option Time)
    (uuids : Nat → String) (clk : Nat → Time) : Outcome Acceptance :=
  match repository.acceptances.get? (messageKey context envelope) with
  | some existing => (.ok { existing with duplicate := true }, repository)
  | none =>
      let acceptance : Acceptance :=
        { inboundId := uuids 0, context, envelope, acceptedAt := clk 0 }
      let repository := repository.putAcceptance acceptance
      let start := repository.mailboxStore.outbox.length
      let mailbox := repository.mailboxStore.mailboxes.get? context.key
      match repository.mailboxStore.accept context.key (uuids 0) priority
        (effectiveRetryAt mailbox retryAt (clk 1)) (some context.traceId)
        (uuids 1) (clk 2) with
      | (.error error, store) => (.error error, { repository with mailboxStore := store })
      | (.ok _, store) =>
          let repository := { repository with mailboxStore := store }
          (.ok acceptance, (store.outbox.drop start).foldl putOutbox repository)

end Repository

end TrpcService.Storage.Memory
