import TrpcService.Storage.Memory.Execution

namespace TrpcService.Storage.Memory

open Data

/-! Dispatching outbox records and delivering outbound messages. -/

def outboxClaimMessage : String := "outbox claim is no longer current"
def deliveryPendingMessage : String := "provider delivery is still unresolved"
def deliveredMessage : String := "outbound message is already delivered"
def ambiguousMessage : String := "ambiguous delivery requires manual replay"
def receiptMessage : String := "delivery receipt does not match outbox record"
def attemptMessage : String := "delivery attempt is no longer current"

def statusText : DeliveryStatus → String
  | .delivered => "delivered"
  | .failed => "failed"
  | .ambiguous => "ambiguous"

namespace Repository

/-- Claim the records of one type in order, until `limit` are claimed. -/
def claimRecords (eventType : EventType) (ownerId : String) (limit : Int) (leaseFor now : Time) :
    List OutboxRecord → List OutboxRecord → Repository → List OutboxRecord × Repository
  | [], claimed, repository => (claimed, repository)
  | record :: rest, claimed, repository =>
      if record.eventType ≠ eventType ∨ (repository.outboxClaims.get? record.outboxId).any
            fun current => decide (now < current.2) then
        claimRecords eventType ownerId limit leaseFor now rest claimed repository
      else
        let attempted := { record with attempts := record.attempts + 1 }
        let claimed := claimed ++ [attempted]
        let repository := { repository with
          outboxClaims := repository.outboxClaims.set record.outboxId
            (ownerId, now + leaseFor),
          outbox := repository.outbox.set record.outboxId attempted }
        if limit ≤ claimed.length then (claimed, repository)
        else claimRecords eventType ownerId limit leaseFor now rest claimed repository

variable (repository : Repository)

def claimOutbox (eventType : EventType) (ownerId : String) (limit : Int) (leaseFor : Time)
    (clk : Nat → Time) : Outcome (List OutboxRecord) :=
  let (claimed, repository) := claimRecords eventType ownerId limit leaseFor
    (clk 0) repository.outbox.values [] repository
  (.ok claimed, repository)

def claims (outboxId ownerId : String) : Bool :=
  (repository.outboxClaims.get? outboxId).any fun claim => claim.1 = ownerId

def dropOutbox (outboxId : String) : Repository :=
  { repository with
    outbox := repository.outbox.erase outboxId,
    outboxClaims := repository.outboxClaims.erase outboxId }

def releaseClaim (outboxId : String) (availableAt : Time) : Repository :=
  { repository with
    outboxClaims := repository.outboxClaims.set outboxId ("", availableAt) }

def markOutboxPublished (outboxId ownerId : String) : Outcome Unit :=
  if repository.claims outboxId ownerId then (.ok (), repository.dropOutbox outboxId)
  else (.error (.fencingConflict outboxClaimMessage), repository)

def releaseOutbox (outboxId ownerId : String) (delay : Time) (clk : Nat → Time) : Outcome Unit :=
  if repository.claims outboxId ownerId then
    (.ok (), repository.releaseClaim outboxId (clk 0 + delay))
  else (.error (.fencingConflict outboxClaimMessage), repository)

def deadLetterOutbox (record : OutboxRecord) (ownerId reason : String) : Outcome Unit :=
  if repository.claims record.outboxId ownerId then
    let repository := { repository with
      deadLetters := repository.deadLetters ++ [(record, reason)] }
    (.ok (), repository.dropOutbox record.outboxId)
  else (.error (.fencingConflict outboxClaimMessage), repository)

def recordDelivery (receipt : DeliveryReceipt) : Outcome Unit :=
  (.ok (), { repository with
    deliveryReceipts := repository.deliveryReceipts ++ [receipt] })

variable (record : OutboxRecord)

def putAttempt (ownerId : String) (attemptNumber : Nat) (state : AttemptState) : Repository :=
  { repository with
    deliveryAttempts := repository.deliveryAttempts.set
      (record.tenantId, record.aggregateId) (ownerId, attemptNumber, state) }

def beginDelivery (ownerId : String) : Outcome DeliveryAttempt :=
  let start := fun attemptNumber : Nat =>
    ((Except.ok { tenantId := record.tenantId,
                  outboundId := record.aggregateId, attemptNumber, ownerId },
      repository.putAttempt record ownerId attemptNumber .sending) :
      Outcome DeliveryAttempt)
  if repository.claims record.outboxId ownerId then
    match repository.deliveryAttempts.get?
      (record.tenantId, record.aggregateId) with
    | none => start 1
    | some (_, attemptNumber, state) =>
        match state with
        | .sending =>
            (.error (.deliveryInProgress deliveryPendingMessage attemptNumber), repository)
        | .received .delivered => (.error (.fencingConflict deliveredMessage), repository)
        | .received .ambiguous => (.error (.fencingConflict ambiguousMessage), repository)
        | .received .failed => start (attemptNumber + 1)
  else (.error (.fencingConflict outboxClaimMessage), repository)

def finishDelivery (ownerId : String) (attemptNumber : Nat) (receipt : DeliveryReceipt)
    (retryDelay : Time) (clk : Nat → Time) : Outcome Unit :=
  let current := repository.deliveryAttempts.get? (record.tenantId, record.aggregateId)
  if receipt.outboundId ≠ record.aggregateId then (.error (.valueError receiptMessage), repository)
  else if repository.claims record.outboxId ownerId ∧ (current.any fun attempt =>
        attempt.2.1 = attemptNumber && attempt.2.2 = .sending) then
    let repository := { repository with
      deliveryReceipts := repository.deliveryReceipts ++ [receipt] }
    let repository := repository.putAttempt record ownerId attemptNumber (.received receipt.status)
    match receipt.status, receipt.retryable with
    | .delivered, _ => (.ok (), repository.dropOutbox record.outboxId)
    | .failed, true => (.ok (), repository.releaseClaim record.outboxId (clk 0 + retryDelay))
    | status, _ =>
        let repository := { repository with
          deadLetters := repository.deadLetters ++
            [(record, statusText status)] }
        (.ok (), repository.dropOutbox record.outboxId)
  else (.error (.fencingConflict attemptMessage), repository)

end Repository

end TrpcService.Storage.Memory
