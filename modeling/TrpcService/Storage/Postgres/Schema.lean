import TrpcService.Storage.Mailbox.Store

namespace TrpcService.Storage.Postgres

open Data

/-! The tables of the PostgreSQL repository, reduced to the columns that its
transactions read.  A `uuid` column holds the canonical text of the value. -/

inductive AggregateType where
  | session
  | inbound
  | outbound
  | turn
  deriving DecidableEq, Repr

structure InboundRow where
  context : TenantContext
  envelope : InboundEnvelope
  status : InboundStatus := .accepted
  acceptedAt : Time
  deliveryCount : Nat := 1
  providerEventHash : Option String
  deriving DecidableEq

/-- `sessions`: the committed history's counters and the execution lease. -/
structure SessionRow where
  appId : String
  principalId : String
  state : Json := "{}"
  version : Nat := 0
  nextSequence : Nat := 1
  leaseEpoch : Nat := 0
  leaseOwner : Option String := none
  leaseExpiresAt : Option Time := none
  deriving DecidableEq

structure TurnRow where
  sessionId : String
  inboundId : String
  configVersion : Nat
  status : TurnStatus
  fencingToken : Nat
  attempt : Nat
  deriving DecidableEq

structure EventRow extends StoredEvent where
  turnId : String
  deriving DecidableEq

structure ItemRow extends MailboxItem where
  resolvedAt : Option Time := none
  deriving DecidableEq

structure OutboundRow where
  sessionId : String
  envelope : OutboundEnvelope
  deriving DecidableEq

structure OutboxRow extends OutboxRecord where
  aggregateType : AggregateType
  availableAt : Time
  createdAt : Time
  claimedBy : Option String := none
  claimExpiresAt : Option Time := none
  publishedAt : Option Time := none
  readyReplayedAt : Option Time := none
  deriving DecidableEq

/-- The entry of a row in `uq_outbox_session_ready_v2_generation`. -/
def OutboxRow.readyIndex (row : OutboxRow) : Option (SessionKey × Nat) :=
  if row.eventType = .sessionReadyV2 then row.payload.generation?.map fun generation =>
      ((row.tenantId, row.aggregateId), generation)
  else none

/-- The entry of a row in `uq_outbox_active_outbound`. -/
def OutboxRow.outboundIndex (row : OutboxRow) : Option (String × String × EventType) :=
  if row.aggregateType = .outbound ∧ row.publishedAt = none then
    some (row.tenantId, row.aggregateId, row.eventType)
  else none

/-- The constraint `outbox_session_ready_v2_payload_check`. -/
def OutboxRow.payloadCheck (row : OutboxRow) : Bool :=
  match row.eventType, row.payload with
  | .sessionReadyV2, .sessionReady generation priority traceId _ =>
      row.aggregateType = .session && 1 ≤ row.aggregateId.length && row.aggregateId.length ≤ 256
        && 1 ≤ generation && 0 ≤ priority
        && 1 ≤ traceId.length && traceId.length ≤ 512
  | .sessionReadyV2, _ => false
  | _, _ => true

structure Tables where
  inboundMessages : Dict (String × String) InboundRow
  outboundMessages : Dict (String × String) OutboundRow
  sessions : Dict SessionKey SessionRow
  sessionTurns : Dict (String × String) TurnRow
  sessionEvents : Dict (SessionKey × Nat) EventRow
  sessionMailboxes : Dict SessionKey SessionMailbox
  sessionMailboxItems : Dict (SessionKey × Nat) ItemRow
  outboxEvents : Dict (String × String) OutboxRow

def Tables.empty : Tables := ⟨.empty, .empty, .empty, .empty, .empty, .empty, .empty, .empty⟩

/-- The CHECK constraints of `session_mailboxes`. -/
structure MailboxChecks (mailbox : SessionMailbox) : Prop where
  session : 1 ≤ mailbox.sessionId.length ∧ mailbox.sessionId.length ≤ 256
  resolved : mailbox.resolvedSequence ≤ mailbox.acceptedSequence
  processing : ∀ sequence ∈ mailbox.processingSequence,
    mailbox.resolvedSequence < sequence ∧ sequence ≤ mailbox.acceptedSequence
  owner : ∀ owner ∈ mailbox.leaseOwner, 1 ≤ owner.length ∧ owner.length ≤ 256
  priority : 0 ≤ mailbox.priority
  running : mailbox.status = .running →
    mailbox.processingSequence.isSome ∧ mailbox.processingInboundId.isSome ∧
      mailbox.leaseOwner.isSome ∧ mailbox.leaseExpiresAt.isSome
  unleased : mailbox.status ≠ .running →
    mailbox.processingSequence = none ∧ mailbox.processingInboundId = none ∧
      mailbox.leaseOwner = none ∧ mailbox.leaseExpiresAt = none

instance (mailbox : SessionMailbox) : Decidable (MailboxChecks mailbox) := decidable_of_iff
    ((1 ≤ mailbox.sessionId.length ∧ mailbox.sessionId.length ≤ 256) ∧
      mailbox.resolvedSequence ≤ mailbox.acceptedSequence ∧
      (∀ sequence ∈ mailbox.processingSequence, mailbox.resolvedSequence < sequence ∧
          sequence ≤ mailbox.acceptedSequence) ∧
      (∀ owner ∈ mailbox.leaseOwner, 1 ≤ owner.length ∧ owner.length ≤ 256) ∧
      0 ≤ mailbox.priority ∧
      (mailbox.status = .running → mailbox.processingSequence.isSome ∧
          mailbox.processingInboundId.isSome ∧
          mailbox.leaseOwner.isSome ∧ mailbox.leaseExpiresAt.isSome) ∧
      (mailbox.status ≠ .running → mailbox.processingSequence = none ∧
          mailbox.processingInboundId = none ∧
          mailbox.leaseOwner = none ∧ mailbox.leaseExpiresAt = none))
    ⟨fun ⟨session, resolved, processing, owner, priority, running, unleased⟩ =>
      ⟨session, resolved, processing, owner, priority, running, unleased⟩,
    fun checks => ⟨checks.session, checks.resolved, checks.processing,
      checks.owner, checks.priority, checks.running, checks.unleased⟩⟩

/-- The CHECK constraints of `session_mailbox_items`. -/
def ItemRow.checks (item : ItemRow) : Bool :=
  1 ≤ item.sequence && 1 ≤ item.traceId.length && item.traceId.length ≤ 512 && 0 ≤ item.priority

structure PrimaryKeys (tables : Tables) : Prop where
  mailboxes : ∀ entry ∈ tables.sessionMailboxes.entries,
    (entry.2.tenantId, entry.2.sessionId) = entry.1
  items : ∀ entry ∈ tables.sessionMailboxItems.entries,
    ((entry.2.tenantId, entry.2.sessionId), entry.2.sequence) = entry.1
  inbound : ∀ entry ∈ tables.inboundMessages.entries, entry.2.context.tenantId = entry.1.1
  outbox : ∀ entry ∈ tables.outboxEvents.entries, (entry.2.tenantId, entry.2.outboxId) = entry.1

structure ForeignKeys (tables : Tables) : Prop where
  itemMailbox : ∀ entry ∈ tables.sessionMailboxItems.entries,
    (tables.sessionMailboxes.get? entry.1.1).isSome
  itemInbound : ∀ entry ∈ tables.sessionMailboxItems.entries,
    (tables.inboundMessages.get? (entry.1.1.1, entry.2.inboundId)).isSome
  turnSession : ∀ entry ∈ tables.sessionTurns.entries,
    (tables.sessions.get? (entry.1.1, entry.2.sessionId)).isSome
  turnInbound : ∀ entry ∈ tables.sessionTurns.entries,
    (tables.inboundMessages.get? (entry.1.1, entry.2.inboundId)).isSome
  eventTurn : ∀ entry ∈ tables.sessionEvents.entries,
    (tables.sessionTurns.get? (entry.1.1.1, entry.2.turnId)).isSome

structure UniqueKeys (tables : Tables) : Prop where
  inbound : (tables.inboundMessages.values.map fun row =>
    (row.context.tenantId, row.envelope.channel, row.envelope.accountId,
      row.envelope.externalMessageId)).Nodup
  items : (tables.sessionMailboxItems.entries.map fun entry => (entry.1.1, entry.2.inboundId)).Nodup
  turns : (tables.sessionTurns.entries.map fun entry => (entry.1.1, entry.2.inboundId)).Nodup
  events : (tables.sessionEvents.entries.map fun entry => (entry.1.1, entry.2.eventId)).Nodup
  ready : (tables.outboxEvents.values.filterMap OutboxRow.readyIndex).Nodup
  outbound : (tables.outboxEvents.values.filterMap OutboxRow.outboundIndex).Nodup

structure Constraints (tables : Tables) : Prop where
  mailboxes : ∀ mailbox ∈ tables.sessionMailboxes.values, MailboxChecks mailbox
  items : ∀ item ∈ tables.sessionMailboxItems.values, item.checks = true
  outbox : ∀ row ∈ tables.outboxEvents.values, row.payloadCheck = true
  primaryKeys : PrimaryKeys tables
  foreignKeys : ForeignKeys tables
  uniqueKeys : UniqueKeys tables

instance (tables : Tables) : Decidable (PrimaryKeys tables) := decidable_of_iff (_ ∧ _ ∧ _ ∧ _)
    ⟨fun ⟨mailboxes, items, inbound, outbox⟩ => ⟨mailboxes, items, inbound, outbox⟩,
    fun keys => ⟨keys.mailboxes, keys.items, keys.inbound, keys.outbox⟩⟩

instance (tables : Tables) : Decidable (ForeignKeys tables) := decidable_of_iff (_ ∧ _ ∧ _ ∧ _ ∧ _)
    ⟨fun ⟨itemMailbox, itemInbound, turnSession, turnInbound, eventTurn⟩ =>
      ⟨itemMailbox, itemInbound, turnSession, turnInbound, eventTurn⟩,
    fun keys => ⟨keys.itemMailbox, keys.itemInbound, keys.turnSession,
      keys.turnInbound, keys.eventTurn⟩⟩

instance (tables : Tables) : Decidable (UniqueKeys tables) :=
  decidable_of_iff (_ ∧ _ ∧ _ ∧ _ ∧ _ ∧ _) ⟨fun ⟨inbound, items, turns, events, ready, outbound⟩ =>
      ⟨inbound, items, turns, events, ready, outbound⟩,
    fun keys => ⟨keys.inbound, keys.items, keys.turns, keys.events, keys.ready, keys.outbound⟩⟩

instance (tables : Tables) : Decidable (Constraints tables) :=
  decidable_of_iff (_ ∧ _ ∧ _ ∧ _ ∧ _ ∧ _)
    ⟨fun ⟨mailboxes, items, outbox, primaryKeys, foreignKeys, uniqueKeys⟩ =>
      ⟨mailboxes, items, outbox, primaryKeys, foreignKeys, uniqueKeys⟩,
    fun constraints => ⟨constraints.mailboxes, constraints.items,
      constraints.outbox, constraints.primaryKeys, constraints.foreignKeys,
      constraints.uniqueKeys⟩⟩

/-- A committed database state: no committed state breaks a constraint. -/
structure Database where
  tables : Tables
  valid : Constraints tables

def integrityMessage : String := "integrity constraint violation"

/-- A transaction body's answer and the tables it would commit. -/
abbrev Outcome (α : Type) := Except StorageError (α × Tables)

/-- Run one transaction: an exception or a broken constraint rolls it back.
No statement of a body mends a constraint that an earlier one broke, so
checking at the end rejects the same transactions. -/
def Database.transact {α : Type} (database : Database) (body : Tables → Outcome α) :
    Except StorageError α × Database :=
  match body database.tables with
  | .error error => (.error error, database)
  | .ok (answer, tables) =>
      if valid : Constraints tables then (.ok answer, ⟨tables, valid⟩)
      else (.error (.databaseError integrityMessage), database)

def Database.initial : Database where
  tables := .empty
  valid := by decide

/-- Functions of the standard library the repository relies on: the digest of
a provider event, and the canonical text of a UUID argument. -/
structure Library where
  sha256 : String → String
  parseUuid : String → Option String

end TrpcService.Storage.Postgres
