import TrpcService.Storage.Postgres.Schema

namespace TrpcService.Storage.Postgres

open Data

/-! Outbound delivery: the transactions of the repository that claim, send and
retire outbound messages, and the manual replay of the control plane. -/

inductive OutboundStatus where
  | pending
  | sending
  | delivered
  | failed
  | ambiguous
  deriving DecidableEq, Repr

def OutboundStatus.ofReceipt : DeliveryStatus → OutboundStatus
  | .delivered => .delivered
  | .failed => .failed
  | .ambiguous => .ambiguous

structure OutboundMessage where
  channel : Channel
  payload : OutboxPayload
  traceHeaders : List (String × String)
  status : OutboundStatus := .pending
  deriving DecidableEq, Repr

/-- An answer of the control plane, kept for retries of the same request. -/
structure IdempotencyRow where
  requestHash : String
  response : Nat
  expiresAt : Time
  deriving DecidableEq, Repr

/-- Messages are indexed by tenant and identifier, attempts by message and
attempt number.  Of the outbox these are the rows of outbound messages. -/
structure DeliveryTables where
  outboundMessages : Dict (String × String) OutboundMessage
  deliveryAttempts : Dict ((String × String) × Nat) OutboundStatus
  outboxEvents : Dict (String × String) OutboxRow
  controlVersions : Dict String Nat
  idempotency : Dict (String × String) IdempotencyRow

def DeliveryTables.empty : DeliveryTables := ⟨.empty, .empty, .empty, .empty, .empty⟩

inductive Failure where
  | cancelled
  | fencingConflict (message : String)
  | deliveryInProgress (message : String) (attemptNumber : Option Nat)
  | lookupError (message : String)
  | valueError (message : String)
  | typeError (message : String)
  | controlVersionConflict (message : String)
  | idempotencyConflict (message : String)
  | databaseError (message : String)
  | other (name : String)
  deriving DecidableEq, Repr

def outboxClaimMessage : String := "outbox claim is no longer current"
def outboundMissingMessage : String := "outbound message does not exist"
def deliveryPendingMessage : String := "provider delivery is still unresolved"
def alreadyDeliveredMessage : String := "outbound message is already delivered"
def manualReplayMessage : String := "ambiguous delivery requires manual replay"
def terminalMessage : String := "outbound delivery state is already terminal"
def receiptMismatchMessage : String :=
  "delivery receipt does not match outbox record"
def negativeDelayMessage : String := "retry delay must be non-negative"
def staleAttemptMessage : String := "delivery attempt is no longer current"
def notSendingMessage : String := "outbound delivery state is no longer sending"
def malformedUuidMessage : String := "badly formed hexadecimal UUID string"
def confirmationMessage : String := "ambiguous delivery requires explicit confirmation"
def replayableMessage : String :=
  "only failed or explicitly confirmed ambiguous deliveries can be replayed"

namespace OutboxRow

def claimable (row : OutboxRow) (eventType : EventType) (now : Time) : Bool :=
  row.eventType = eventType && row.publishedAt.isNone && decide (row.availableAt ≤ now)
    && row.claimExpiresAt.all fun expiresAt => decide (expiresAt ≤ now)

def claim (ownerId : String) (expiresAt : Time) (row : OutboxRow) : OutboxRow :=
  { row with
    claimedBy := some ownerId, claimExpiresAt := some expiresAt,
    attempts := row.attempts + 1 }

def publish (now : Time) (row : OutboxRow) : OutboxRow :=
  { row with
    publishedAt := some now, claimedBy := none, claimExpiresAt := none }

def release (availableAt : Time) (row : OutboxRow) : OutboxRow :=
  { row with claimedBy := none, claimExpiresAt := none, availableAt }

end OutboxRow

namespace DeliveryTables

variable (tables : DeliveryTables)

def putOutbox (row : OutboxRow) : DeliveryTables :=
  { tables with
    outboxEvents := tables.outboxEvents.set (row.tenantId, row.outboxId) row }

/-- `claim_outbox_events` on the rows that `SKIP LOCKED` leaves to it; `batch`
lists them in the order of the query. -/
def claimOutbox (eventType : EventType) (ownerId : String) (limit leaseSeconds : Int)
    (batch : List (String × String)) (now : Time) : List OutboxRecord × DeliveryTables :=
  let candidates := (batch.filterMap tables.outboxEvents.get?).filter
    fun row => row.claimable eventType now
  let rows := (candidates.take (max 1 (min limit 1000)).toNat).map
    (OutboxRow.claim ownerId (now + seconds leaseSeconds))
  (rows.map OutboxRow.toOutboxRecord, rows.foldl putOutbox tables)

variable (tenantId outboxId ownerId : String)

def heldRow : Option OutboxRow :=
  (tables.outboxEvents.get? (tenantId, outboxId)).filter fun row => row.claimedBy = some ownerId

def claimedRow : Option OutboxRow :=
  (tables.heldRow tenantId outboxId ownerId).filter fun row => row.publishedAt.isNone

def markOutboxPublished (now : Time) : Except Failure (Unit × DeliveryTables) :=
  match tables.claimedRow tenantId outboxId ownerId with
  | none => .error (.fencingConflict outboxClaimMessage)
  | some row => .ok ((), tables.putOutbox (row.publish now))

def releaseOutbox (delay now : Time) : Except Failure (Unit × DeliveryTables) :=
  match tables.heldRow tenantId outboxId ownerId with
  | none => .error (.fencingConflict outboxClaimMessage)
  | some row => .ok ((), tables.putOutbox (row.release (now + delay)))

/-- Retire a claimed event; its copy among the dead letters is for review. -/
def deadLetterOutbox (record : OutboxRecord) (ownerId : String) (now : Time) :
    Except Failure (Unit × DeliveryTables) :=
  match tables.claimedRow record.tenantId record.outboxId ownerId with
  | none => .error (.fencingConflict outboxClaimMessage)
  | some row => .ok ((), tables.putOutbox (row.publish now))

/-- `coalesce(max(attempt_number),0)` over the attempts of a message. -/
def latestAttempt (message : String × String) : Nat :=
  ((tables.deliveryAttempts.keys.filter fun attempt =>
    attempt.1 = message).map Prod.snd).foldl max 0

def putAttempt (message : String × String)
    (attemptNumber : Nat) (status : OutboundStatus) : DeliveryTables :=
  { tables with
    deliveryAttempts :=
      tables.deliveryAttempts.set (message, attemptNumber) status }

def putStatus (key : String × String)
    (message : OutboundMessage) (status : OutboundStatus) : DeliveryTables :=
  { tables with
    outboundMessages :=
      tables.outboundMessages.set key { message with status } }

/-- An attempt may be recorded by anyone: neither a claim nor an attempt
number is asked for. -/
def recordDelivery (library : Library) (tenantId : String) (receipt : DeliveryReceipt)
    (retrying : Bool) : Except Failure (Unit × DeliveryTables) :=
  match library.parseUuid receipt.outboundId with
  | none => .error (.valueError malformedUuidMessage)
  | some outboundId =>
      let key := (tenantId, outboundId)
      -- The aggregate counts from zero where no message exists, so a missing
      -- message shows only in the foreign key of the new attempt.
      match tables.outboundMessages.get? key with
      | none => .error (.databaseError integrityMessage)
      | some message =>
          if message.status = .delivered then .error (.fencingConflict terminalMessage)
          else
            let status := OutboundStatus.ofReceipt receipt.status
            let tables := tables.putAttempt key (tables.latestAttempt key + 1) status
            .ok ((), tables.putStatus key message (if retrying then .pending else status))

def beginDelivery (library : Library) (record : OutboxRecord) (ownerId : String) :
    Except Failure (DeliveryAttempt × DeliveryTables) :=
  match library.parseUuid record.aggregateId with
  | none => .error (.valueError malformedUuidMessage)
  | some outboundId =>
      let key := (record.tenantId, outboundId)
      match tables.claimedRow record.tenantId record.outboxId ownerId with
      | none => .error (.fencingConflict outboxClaimMessage)
      | some _ =>
          match tables.outboundMessages.get? key with
          | none => .error (.lookupError outboundMissingMessage)
          | some message =>
              let latest := tables.latestAttempt key
              let start : Except Failure (DeliveryAttempt × DeliveryTables) := .ok
                  ({ tenantId := record.tenantId,
                     outboundId := record.aggregateId,
                     attemptNumber := latest + 1, ownerId },
                    (tables.putAttempt key (latest + 1) .sending).putStatus key message .sending)
              match message.status with
              | .sending =>
                  .error (.deliveryInProgress deliveryPendingMessage
                    (if latest = 0 then none else some latest))
              | .delivered => .error (.fencingConflict alreadyDeliveredMessage)
              | .ambiguous => .error (.fencingConflict manualReplayMessage)
              | .pending => start
              | .failed => start

def settledRow (receipt : DeliveryReceipt) (retryDelay now : Time) (row : OutboxRow) : OutboxRow :=
  match receipt.status, receipt.retryable with
  | .failed, true => row.release (now + retryDelay)
  | _, _ => row.publish now

def finishDelivery (tables : DeliveryTables) (library : Library) (record : OutboxRecord)
    (ownerId : String) (attemptNumber : Nat) (receipt : DeliveryReceipt) (retryDelay now : Time) :
    Except Failure (Unit × DeliveryTables) :=
  match library.parseUuid record.aggregateId with
  | none => .error (.valueError malformedUuidMessage)
  | some outboundId =>
      let key := (record.tenantId, outboundId)
      if receipt.outboundId ≠ record.aggregateId then .error (.valueError receiptMismatchMessage)
      else if retryDelay < 0 then .error (.valueError negativeDelayMessage)
      else
        match tables.claimedRow record.tenantId record.outboxId ownerId with
        | none => .error (.fencingConflict outboxClaimMessage)
        | some row =>
            if tables.deliveryAttempts.get? (key, attemptNumber) ≠ some .sending then
              .error (.fencingConflict staleAttemptMessage)
            else
              match tables.outboundMessages.get? key with
              | none => .error (.fencingConflict notSendingMessage)
              | some message =>
                  if message.status ≠ .sending then .error (.fencingConflict notSendingMessage)
                  else
                    let status := OutboundStatus.ofReceipt receipt.status
                    let tables := (tables.putAttempt key attemptNumber
                      status).putStatus key message status
                    .ok ((), tables.putOutbox (settledRow receipt retryDelay now row))

/-- Does a row collide with a unique index of the outbox? -/
def collides (tables : DeliveryTables) (row : OutboxRow) : Bool :=
  (tables.outboxEvents.get? (row.tenantId, row.outboxId)).isSome
    || tables.outboxEvents.values.any fun other =>
      other.outboundIndex.isSome && decide (other.outboundIndex = row.outboundIndex)

def outboundRow (tenantId aggregateId uuid : String)
    (message : OutboundMessage) (now : Time) : OutboxRow where
  outboxId := uuid
  tenantId := tenantId
  eventType := .outboundReady message.channel
  aggregateId := aggregateId
  payload := message.payload
  traceHeaders := message.traceHeaders
  aggregateType := .outbound
  availableAt := now
  createdAt := now

/-- The reply of a committed turn, inserted in the transaction of the turn. -/
def insertOutbound (tables : DeliveryTables) (library : Library)
    (tenantId : String) (envelope : OutboundEnvelope) (uuid : String)
    (now : Time) : Except Failure (Unit × DeliveryTables) :=
  match library.parseUuid envelope.outboundId with
  | none => .error (.valueError malformedUuidMessage)
  | some outboundId =>
      let key := (tenantId, outboundId)
      let message : OutboundMessage :=
        { channel := envelope.channel, payload := .outbound envelope,
          traceHeaders := envelope.traceHeaders }
      let row := outboundRow tenantId envelope.outboundId uuid message now
      if (tables.outboundMessages.get? key).isSome ∨ tables.collides row then
        .error (.databaseError integrityMessage)
      else
        .ok ((), { tables with
          outboundMessages := tables.outboundMessages.set key message
        }.putOutbox row)

structure ReplayRequest where
  tenantId : String
  outboundId : String
  confirmAmbiguous : Bool
  expectedVersion : Nat
  idempotencyKey : String
  requestHash : String
  deriving DecidableEq, Repr

def replayable (status : OutboundStatus) (confirmAmbiguous : Bool) : Except Failure Unit :=
  match status with
  | .ambiguous =>
      if confirmAmbiguous then .ok ()
      else .error (.valueError confirmationMessage)
  | .failed => .ok ()
  | _ => .error (.valueError replayableMessage)

variable (tables : DeliveryTables)

/-- `_cached`: the answer that an earlier, still remembered request was
given. -/
def cachedReplay (request : ReplayRequest) (now : Time) : Except Failure (Option Nat) :=
  match tables.idempotency.get? (request.tenantId, request.idempotencyKey) with
  | none => .ok none
  | some row =>
      if row.expiresAt ≤ now then .ok none
      else if row.requestHash ≠ request.requestHash then .error (.idempotencyConflict
          "idempotency key was used for another request")
      else .ok (some row.response)

/-- Put a message back and let it be claimed again, unless it can be anyway. -/
def reopen (tenantId aggregateId uuid : String) (key : String × String) (message : OutboundMessage)
    (now : Time) : DeliveryTables :=
  let row := outboundRow tenantId aggregateId uuid message now
  let tables := tables.putStatus key message .pending
  if tables.collides row then tables else tables.putOutbox row

def performReplay (library : Library) (request : ReplayRequest) (uuid : String) (now : Time) :
    Except Failure (Nat × DeliveryTables) :=
  match tables.controlVersions.get? request.tenantId with
  | none => .error (.lookupError "tenant does not exist")
  | some version =>
      if version ≠ request.expectedVersion then
        .error (.controlVersionConflict "tenant control version changed")
      else
        match library.parseUuid request.outboundId with
        | none => .error (.valueError malformedUuidMessage)
        | some outboundId =>
            let key := (request.tenantId, outboundId)
            match tables.outboundMessages.get? key with
            | none => .error (.lookupError outboundMissingMessage)
            | some message =>
                match replayable message.status request.confirmAmbiguous with
                | .error error => .error error
                | .ok () =>
                    let remembered := (request.tenantId, request.idempotencyKey)
                    let tables := tables.reopen request.tenantId
                      request.outboundId uuid key message now
                    if (tables.idempotency.get? remembered).isSome then
                      .error (.databaseError integrityMessage)
                    else
                      .ok (version + 1, { tables with
                        controlVersions := tables.controlVersions.set
                          request.tenantId (version + 1),
                        idempotency := tables.idempotency.set remembered
                          { requestHash := request.requestHash,
                            response := version + 1,
                            expiresAt := now + seconds (24 * 3600) } })

def replayOutbound (library : Library) (request : ReplayRequest) (uuid : String) (now : Time) :
    Except Failure (Nat × DeliveryTables) :=
  match tables.cachedReplay request now with
  | .error error => .error error
  | .ok (some response) => .ok (response, tables)
  | .ok none => tables.performReplay library request uuid now

end DeliveryTables

end TrpcService.Storage.Postgres
