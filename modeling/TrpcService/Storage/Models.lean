import Mathlib.Data.Int.ConditionallyCompleteOrder
import Mathlib.Order.ConditionallyCompleteLattice.Basic
import TrpcService.Data.Dict

namespace TrpcService.Storage

open Data

/-! Persistence-neutral runtime records.  Instants and durations count
microseconds; an instant is a timezone-aware datetime. -/

abbrev Time := Int

def seconds (count : Int) : Time := count * 1000000

abbrev SessionKey := String × String

/-- JSON values are stored and returned, never inspected. -/
abbrev Json := String

inductive Channel where
  | wecomAiBot
  | feishu
  deriving DecidableEq, Repr

inductive MailboxStatus where
  | idle
  | queued
  | running
  | retryWait
  deriving DecidableEq, Repr

inductive MailboxClaimStatus where
  | claimed
  | stale
  | running
  | empty
  deriving DecidableEq, Repr

inductive InboundStatus where
  | accepted
  | processing
  | committed
  | failed
  deriving DecidableEq, Repr

inductive TurnStatus where
  | processing
  | committed
  | failed
  | needsConfirmation
  deriving DecidableEq, Repr

inductive DeliveryStatus where
  | delivered
  | failed
  | ambiguous
  deriving DecidableEq, Repr

inductive StorageError where
  | valueError (message : String)
  | validationError (field : String)
  | fencingConflict (message : String)
  | keyError (key : String)
  | assertionError
  | deliveryInProgress (message : String) (attemptNumber : Nat)
  | databaseError (message : String)
  deriving DecidableEq, Repr

/-- Monotonic per-session mailbox counters and its fenced processing lease. -/
structure SessionMailbox where
  tenantId : String
  sessionId : String
  status : MailboxStatus := .idle
  acceptedSequence : Nat := 0
  resolvedSequence : Nat := 0
  processingSequence : Option Nat := none
  processingInboundId : Option String := none
  queueGeneration : Nat := 0
  leaseOwner : Option String := none
  leaseEpoch : Nat := 0
  leaseExpiresAt : Option Time := none
  retryCount : Nat := 0
  attempt : Nat := 0
  priority : Int := 0
  retryAt : Option Time := none
  updatedAt : Time
  deriving DecidableEq, Repr

/-- The inbound message assigned a monotonic sequence in a mailbox. -/
structure MailboxItem where
  tenantId : String
  sessionId : String
  inboundId : String
  sequence : Nat
  traceId : String
  priority : Int
  retryCount : Nat
  attempt : Nat
  retryAt : Option Time
  acceptedAt : Time
  deriving DecidableEq, Repr

/-- Fenced claim for one mailbox sequence. -/
structure MailboxLease where
  tenantId : String
  sessionId : String
  inboundId : String
  sequence : Nat
  ownerId : String
  epoch : Nat
  expiresAt : Time
  attempt : Nat
  retryCount : Nat
  priority : Int
  deriving DecidableEq, Repr

def MailboxLease.key (lease : MailboxLease) : SessionKey := (lease.tenantId, lease.sessionId)

structure TenantContext where
  tenantId : String
  appId : String
  configVersion : Nat
  channelBindingId : String
  principalId : String
  sessionId : String
  requestId : String
  traceId : String
  deriving DecidableEq, Repr

def TenantContext.key (context : TenantContext) : SessionKey :=
  (context.tenantId, context.sessionId)

/-- Untrusted provider input, reduced to the fields that storage reads. -/
structure InboundEnvelope where
  channel : Channel
  accountId : String
  externalMessageId : String
  body : Json
  deriving DecidableEq, Repr

structure OutboundEnvelope where
  outboundId : String
  tenantId : String
  bindingId : String
  channel : Channel
  traceHeaders : List (String × String)
  body : Json
  deriving DecidableEq, Repr

structure Acceptance where
  inboundId : String
  context : TenantContext
  envelope : InboundEnvelope
  acceptedAt : Time
  duplicate : Bool := false
  deriving DecidableEq, Repr

structure StoredEvent where
  eventId : String
  author : String
  timestamp : Rat
  event : Json
  stateDelta : Json
  deriving DecidableEq, Repr

structure SequencedEvent extends StoredEvent where
  sequence : Nat
  deriving DecidableEq, Repr

structure SessionSnapshot where
  tenantId : String
  appId : String
  sessionId : String
  principalId : String
  version : Nat := 0
  nextSequence : Nat := 1
  state : Json := "{}"
  events : List SequencedEvent := []
  deriving DecidableEq, Repr

structure SessionLease where
  tenantId : String
  sessionId : String
  turnId : String
  inboundId : String
  workerId : String
  fencingToken : Nat
  expiresAt : Time
  attempt : Nat
  snapshot : SessionSnapshot
  snapshotHydrated : Bool := true
  deriving DecidableEq, Repr

def SessionLease.key (lease : SessionLease) : SessionKey := (lease.tenantId, lease.sessionId)

def SessionLease.pair (lease : SessionLease) : String × Nat := (lease.workerId, lease.fencingToken)

/-- Result of a mailbox claim, including non-claim outcomes. -/
structure SessionClaim where
  status : MailboxClaimStatus
  mailbox : SessionMailbox
  lease : Option MailboxLease := none
  acceptance : Option Acceptance := none
  executionLease : Option SessionLease := none
  deriving DecidableEq, Repr

def SessionClaim.isClaimed (claim : SessionClaim) : Bool := claim.status = .claimed

structure TurnCommit where
  lease : SessionLease
  state : Json
  events : List StoredEvent
  outbound : Option OutboundEnvelope := none
  deriving DecidableEq, Repr

structure CommitResult where
  turnId : String
  firstSequence : Option Nat
  lastSequence : Option Nat
  outboundId : Option String
  deriving DecidableEq, Repr

inductive EventType where
  | sessionReadyV2
  | inboundAccepted
  | outboundReady (channel : Channel)
  | postTurnReady
  deriving DecidableEq, Repr

inductive OutboxPayload where
  | sessionReady (generation : Nat) (priority : Int) (traceId : String) (createdAt : Time)
  | inbound (inboundId : String)
  | outbound (envelope : OutboundEnvelope)
  | postTurn (sessionId turnId : String) (upToSequence : Nat)
  deriving DecidableEq, Repr

/-- `payload.get("generation")`; only wake-ups carry the key. -/
def OutboxPayload.generation? : OutboxPayload → Option Nat
  | .sessionReady generation _ _ _ => some generation
  | .inbound _ => none
  | .outbound _ => none
  | .postTurn _ _ _ => none

structure OutboxRecord where
  outboxId : String
  tenantId : String
  eventType : EventType
  aggregateId : String
  payload : OutboxPayload
  traceHeaders : List (String × String) := []
  attempts : Nat := 0
  deriving DecidableEq, Repr

/-- The provider's answer, reduced to the fields that are read. -/
structure DeliveryReceipt where
  outboundId : String
  status : DeliveryStatus
  providerCode : Option String := none
  retryable : Bool := false
  retryAfter : Option Time := none
  deriving DecidableEq, Repr

/-- Durable ownership token for one provider delivery attempt. -/
structure DeliveryAttempt where
  tenantId : String
  outboundId : String
  attemptNumber : Nat
  ownerId : String
  deriving DecidableEq, Repr

end TrpcService.Storage
