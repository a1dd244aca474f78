import Mathlib.Algebra.Group.Nat.Defs
import TrpcService.Data.Coroutine
import TrpcService.Storage.Postgres.Delivery

namespace TrpcService.Channels

open Data Storage Storage.Postgres

/-! The channel dispatcher: it claims outbox records, sends each outbound
message through the adapter of its channel and settles the record. -/

/-- A channel binding, reduced to the fields that the dispatcher compares. -/
structure ChannelBinding where
  bindingId : String
  tenantId : String
  channel : Channel
  deriving DecidableEq, Repr

inductive DispatchEffect where
  | claimOutbox (eventType : EventType) (ownerId : String) (limit leaseSeconds : Int)
  | stopRequested
  | releaseOutbox (tenantId outboxId ownerId : String) (delay : Time) (errorType : String)
  | deadLetterOutbox (record : OutboxRecord) (ownerId reason : String)
  | markOutboxPublished (tenantId outboxId ownerId : String)
  | recordDelivery (tenantId : String) (receipt : DeliveryReceipt) (retrying : Bool)
  | beginDelivery (record : OutboxRecord) (ownerId : String)
  | finishDelivery (record : OutboxRecord) (ownerId : String)
      (attemptNumber : Nat) (receipt : DeliveryReceipt) (retryDelay : Time)
  | startSpan (envelope : OutboundEnvelope)
  | resolveBinding (bindingId : String)
  | bindingReady (binding : ChannelBinding)
  | send (envelope : OutboundEnvelope) (binding : ChannelBinding)
  | retryJitter (baseSeconds : Nat)
  deriving DecidableEq

open DispatchEffect

/-- An adapter may answer with something that is no receipt, and a jitter with
a delay that is not finite. -/
@[reducible] def DispatchEffect.Answer : DispatchEffect → Type
  | .claimOutbox _ _ _ _ => List OutboxRecord
  | .stopRequested => Bool
  | .releaseOutbox _ _ _ _ _ => Unit
  | .deadLetterOutbox _ _ _ => Unit
  | .markOutboxPublished _ _ _ => Unit
  | .recordDelivery _ _ _ => Unit
  | .beginDelivery _ _ => DeliveryAttempt
  | .finishDelivery _ _ _ _ _ => Unit
  | .startSpan _ => Unit
  | .resolveBinding _ => Option ChannelBinding
  | .bindingReady _ => Bool
  | .send _ _ => Option DeliveryReceipt
  | .retryJitter _ => Option Time

abbrev Dispatch (α : Type) := Coroutine DispatchEffect Answer Failure α

def DispatchEffect.await (effect : DispatchEffect) : Dispatch effect.Answer :=
  Coroutine.perform effect

/-- `except Exception`: a cancellation is no exception of that kind. -/
def exceptException {α : Type} (program : Dispatch α)
    (handler : Failure → Dispatch α) : Dispatch α :=
  tryCatch program fun error => if error = .cancelled then throw error else handler error

/-- `OutboundEnvelope.model_validate` of a stored payload: it may refuse one,
but it makes nothing up. -/
structure EnvelopeSchema where
  validate : OutboxPayload → Option OutboundEnvelope
  sound : ∀ payload envelope, validate payload = some envelope → payload = .outbound envelope

structure Dispatcher where
  ownerId : String
  eventType : EventType
  maxAttempts : Int := 5
  batchLimit : Int := 25
  leaseSeconds : Int := 30
  adapters : List Channel
  checksReadiness : Bool := false
  /-- Does the repository offer `begin_delivery` and `finish_delivery`? -/
  atomicDelivery : Bool := true

def ambiguousReceipt (envelope : OutboundEnvelope) (providerCode : String) :
    DeliveryReceipt where
  outboundId := envelope.outboundId
  status := .ambiguous
  providerCode := some providerCode

def normalizeReceipt (receipt : DeliveryReceipt) (envelope : OutboundEnvelope) : DeliveryReceipt :=
  if receipt.outboundId = envelope.outboundId then receipt
  else
    { receipt with
      outboundId := envelope.outboundId, status := .ambiguous,
      providerCode := some "receipt_mismatch", retryable := false }

def statusText : DeliveryStatus → String
  | .delivered => "delivered"
  | .failed => "failed"
  | .ambiguous => "ambiguous"

def retryDelay (receipt : DeliveryReceipt) (attempts : Nat) : Dispatch Time :=
  match receipt.retryAfter with
  | some delay => pure delay
  | none => do
      match ← (retryJitter (min (2 ^ attempts) 60)).await with
      | some delay =>
          if delay < 0 then
            throw (.valueError
              "retry jitter must return a finite non-negative delay")
          else pure (min delay (seconds 60))
      | none =>
          throw (.valueError
            "retry jitter must return a finite non-negative delay")

namespace Dispatcher

variable (dispatcher : Dispatcher)

def retryOrDeadLetter (record : OutboxRecord) (reason : String) (delay : Time) : Dispatch Unit :=
  if dispatcher.maxAttempts ≤ record.attempts then
    (deadLetterOutbox record dispatcher.ownerId reason).await
  else (releaseOutbox record.tenantId record.outboxId dispatcher.ownerId delay reason).await

def deadLetterRecord (record : OutboxRecord) (reason : String) : Dispatch Bool :=
  exceptException
    (do
      (deadLetterOutbox record dispatcher.ownerId reason).await
      pure true)
    fun _ => pure false

def sendOnce (envelope : OutboundEnvelope) (binding : ChannelBinding) : Dispatch DeliveryReceipt :=
  exceptException
    (do
      match ← (send envelope binding).await with
      | some receipt => pure (normalizeReceipt receipt envelope)
      | none =>
          throw (.typeError "adapter returned an invalid delivery receipt"))
    -- Once the provider call has started, an exception does not prove that the
    -- provider rejected the message.
    fun _ => pure (ambiguousReceipt envelope "transport_unknown")

def finishOnce (record : OutboxRecord) (attemptNumber : Nat)
    (receipt : DeliveryReceipt) (delay : Time) : Dispatch Bool :=
  exceptException
    (do
      (finishDelivery record dispatcher.ownerId
        attemptNumber receipt delay).await
      pure true)
    fun _ => pure false

def retrying (receipt : DeliveryReceipt) (attempts : Nat) : Bool :=
  receipt.status = .failed && receipt.retryable
    && decide ((attempts : Int) < dispatcher.maxAttempts)

/-- The receipt as it is stored: an attempt that is not made again is not
retryable any more. -/
def storedReceipt (receipt : DeliveryReceipt) (attempts : Nat) : DeliveryReceipt :=
  if receipt.status = .failed ∧ receipt.retryable = true
      ∧ dispatcher.retrying receipt attempts = false then
    { receipt with retryable := false }
  else receipt

variable (record : OutboxRecord) (envelope : OutboundEnvelope)

/-- Answers whether the attempt is to be made again and whether its outcome
was stored. -/
def dispatchAtomic (binding : ChannelBinding) : Dispatch (Bool × Bool) := do
  let attempt ←
    (beginDelivery record dispatcher.ownerId).await
  if attempt.tenantId ≠ record.tenantId
      ∨ attempt.ownerId ≠ dispatcher.ownerId
      ∨ attempt.outboundId ≠ envelope.outboundId then
    throw (.valueError "repository returned a mismatched delivery attempt")
  else do
    let receipt ← sendOnce envelope binding
    let retrying := dispatcher.retrying receipt attempt.attemptNumber
    let stored := dispatcher.storedReceipt receipt attempt.attemptNumber
    let delay ← retryDelay stored attempt.attemptNumber
    let persisted ←
      dispatcher.finishOnce record attempt.attemptNumber stored delay
    pure (retrying, persisted)

def resolveInProgress (attemptNumber : Option Nat) : Dispatch Bool :=
  let receipt := ambiguousReceipt envelope "delivery_in_progress"
  match attemptNumber.filter fun number => decide (0 < number) with
  | some number => do
      (finishDelivery record dispatcher.ownerId number receipt
        0).await
      pure true
  | none =>
      exceptException
        (do
          (recordDelivery record.tenantId receipt false).await
          (deadLetterOutbox record dispatcher.ownerId
            "delivery_in_progress").await
          pure true)
        fun _ => pure false

variable (binding : ChannelBinding)

def deliverAtomic : Dispatch Bool :=
  tryCatch
    (do
      let (retrying, persisted) ←
        dispatcher.dispatchAtomic record envelope binding
      pure (persisted && !retrying))
    fun error =>
      match error with
      | .deliveryInProgress _ attemptNumber =>
          dispatcher.resolveInProgress record envelope attemptNumber
      | .cancelled => throw .cancelled
      | _ => pure false

/-- Delivery through a repository without attempts: send first, then record. -/
def deliverLegacy : Dispatch Bool := do
  match ← (send envelope binding).await with
  | none => throw (.other "AttributeError")
  | some raw => do
      let receipt := normalizeReceipt raw envelope
      let retrying := dispatcher.retrying receipt record.attempts
      (recordDelivery record.tenantId receipt retrying).await
      if retrying then do
        let delay ← retryDelay receipt record.attempts
        (releaseOutbox record.tenantId record.outboxId
          dispatcher.ownerId delay
          (receipt.providerCode.getD "delivery_failed")).await
      else if receipt.status = .failed ∨ receipt.status = .ambiguous then
        (deadLetterOutbox record dispatcher.ownerId
          (receipt.providerCode.getD (statusText receipt.status))).await
      else
        (markOutboxPublished record.tenantId
          record.outboxId dispatcher.ownerId).await
      pure (!retrying)

def routes : Bool := binding.bindingId = envelope.bindingId && binding.tenantId = record.tenantId
    && binding.tenantId = envelope.tenantId
    && binding.channel = envelope.channel

/-- A replica that does not hold the connection of a binding stands by. -/
def isReady : Dispatch Bool := if dispatcher.checksReadiness then (bindingReady binding).await
  else pure true

def deliver (record : OutboxRecord) (envelope : OutboundEnvelope) :
    Dispatch Bool := do
  let route ← (resolveBinding envelope.bindingId).await
  match route.filter (routes record envelope) with
  | none => do
      dispatcher.retryOrDeadLetter record "binding_unavailable" (seconds 300)
      pure false
  | some binding =>
      if envelope.channel ∉ dispatcher.adapters then do
        dispatcher.retryOrDeadLetter record "adapter_unavailable" (seconds 300)
        pure false
      else do
        let ready ← dispatcher.isReady binding
        if ready then
          if dispatcher.atomicDelivery then
            dispatcher.deliverAtomic record envelope binding
          else dispatcher.deliverLegacy record envelope binding
        else do
          (releaseOutbox record.tenantId record.outboxId
            dispatcher.ownerId 100000 "adapter_standby").await
          pure false

def recordUnknown (record : OutboxRecord) (envelope : OutboundEnvelope) : Dispatch Bool :=
  exceptException
    (do
      (recordDelivery record.tenantId
        (ambiguousReceipt envelope "dispatcher_unknown") false).await
      (deadLetterOutbox record dispatcher.ownerId
        "dispatcher_unknown").await
      pure false)
    fun _ => pure false

def dispatchRecord (schema : EnvelopeSchema) (record : OutboxRecord) : Dispatch Bool :=
  match schema.validate record.payload with
  | none => dispatcher.deadLetterRecord record "invalid_outbound_payload"
  | some envelope => do
      (startSpan envelope).await
      exceptException (dispatcher.deliver record envelope) fun _ =>
        dispatcher.recordUnknown record envelope

def releasePending : List OutboxRecord → Dispatch Unit
  | [] => pure ()
  | record :: rest => do
      exceptException
        (releaseOutbox record.tenantId record.outboxId
          dispatcher.ownerId 0 "dispatcher_draining").await
        fun _ => pure ()
      releasePending rest

def dispatchIsolated (schema : EnvelopeSchema) (record : OutboxRecord) : Dispatch Bool :=
  exceptException (dispatcher.dispatchRecord schema record) fun _ =>
    dispatcher.deadLetterRecord record "dispatcher_item_failed"

def dispatchAll (schema : EnvelopeSchema) :
    List OutboxRecord → Nat → Dispatch Nat
  | [], completed => pure completed
  | record :: rest, completed => do
      let stopping : Bool ← stopRequested.await
      if stopping then do
        dispatcher.releasePending (record :: rest)
        pure completed
      else do
        let processed ← dispatcher.dispatchIsolated schema record
        dispatchAll schema rest (if processed then completed + 1 else completed)

def dispatchOnce (schema : EnvelopeSchema) : Dispatch Nat := do
  let records ← (claimOutbox dispatcher.eventType
    dispatcher.ownerId dispatcher.batchLimit dispatcher.leaseSeconds).await
  dispatcher.dispatchAll schema records 0

end Dispatcher

end TrpcService.Channels
