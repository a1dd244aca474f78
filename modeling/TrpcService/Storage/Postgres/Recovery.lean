import TrpcService.Storage.Postgres.Repository

namespace TrpcService.Storage.Postgres

open Data

/-! The recovery functions of the database.  Each loops over the mailboxes its
query returned.  `ORDER BY`, `LIMIT` and `SKIP LOCKED` only select and order
those, so a call names any list of sessions; the query's condition is tested
when a session's turn comes. -/

def cooldownMessage : String := "ready replay cooldown must be between 5 and 86400 seconds"

/-- `instant <= now`, false when the instant is null. -/
def elapsed (instant : Option Time) (now : Time) : Bool :=
  instant.any fun value => decide (value ≤ now)

/-- `coalesce(processing_sequence, resolved_sequence + 1)`. -/
def headSequence (mailbox : SessionMailbox) : Nat :=
  mailbox.processingSequence.getD (mailbox.resolvedSequence + 1)

namespace Tables

def sessionActive (tables : Tables) (key : SessionKey) (now : Time) : Bool :=
  (tables.sessions.get? key).any fun session => session.leased now

/-- Run the loop body once for each session, with its own identifier and its
own clock readings; the answer counts the mailboxes that were changed. -/
def forEachMailbox (body : Tables → SessionKey → String → (Nat → Time) → Nat × Tables)
    (uuids : Nat → String) (clk : Nat → Time) :
    List SessionKey → Tables → Nat × Tables
  | [], tables => (0, tables)
  | key :: rest, tables =>
      let (changed, tables) := body tables key (uuids 0) clk
      let (others, tables) := forEachMailbox body (fun index => uuids (index + 1))
        (fun index => clk (index + 16)) rest tables
      (changed + others, tables)

/-- The session lease that the mailbox row stands for, expiry included. -/
def sameLease (mailbox : SessionMailbox) (session : SessionRow) : Bool :=
  session.leaseOwner = mailbox.leaseOwner && session.leaseEpoch = mailbox.leaseEpoch
    && session.leaseExpiresAt = mailbox.leaseExpiresAt

def requeuedStatus (mailbox : SessionMailbox) (item : Option ItemRow)
    (now : Time) : MailboxStatus × Option Time :=
  if mailbox.acceptedSequence ≤ mailbox.resolvedSequence then (.idle, none)
  else
    match item with
    | some item =>
        if laterThan item.retryAt now then (.retryWait, item.retryAt)
        else (.queued, none)
    | none => (.queued, none)

def sweepMailbox (now : Time) (tables : Tables) (key : SessionKey)
    (uuid : String) (clk : Nat → Time) : Nat × Tables :=
  match tables.sessionMailboxes.get? key with
  | none => (0, tables)
  | some mailbox =>
      if mailbox.status = .running ∧ elapsed mailbox.leaseExpiresAt (clk 1)
          ∧ ¬ tables.sessionActive key (clk 2) then
        -- The session row is locked now and its lease is read again.
        if tables.sessionActive key (clk 3) then (0, tables)
        else
          let item := mailbox.processingSequence.bind (tables.item? key)
          let (status, retryAt) := requeuedStatus mailbox item (clk 4)
          let updated := settled mailbox status retryAt (if status = .queued then 1 else 0) (clk 5)
          let tables := tables.putMailbox key updated
          let tables := tables.clearSession key (sameLease mailbox)
          if status = .queued then
            let traceId := match item, mailbox.processingInboundId with
              | some item, _ => item.traceId
              | none, some inboundId => inboundId
              | none, none => key.2
            (1, tables.insertReady key updated.queueGeneration
              ((item.map fun item => item.priority).getD 0) traceId [] uuid now
              (clk 6))
          else (1, tables)
      else (0, tables)

def sweepExpiredSessionLeases (tables : Tables) (limit : Int) (batch : List SessionKey)
    (uuids : Nat → String) (clk : Nat → Time) : Outcome Nat :=
  if limit < 1 ∨ limit > 1000 then .error (.valueError recoveryLimitMessage)
  else .ok (forEachMailbox (sweepMailbox (clk 0)) uuids clk (batch.take limit.toNat) tables)

def scheduleMailbox (now : Time) (tables : Tables) (key : SessionKey)
    (uuid : String) (clk : Nat → Time) : Nat × Tables :=
  match tables.sessionMailboxes.get? key with
  | none => (0, tables)
  | some mailbox =>
      match tables.item? key (mailbox.resolvedSequence + 1) with
      | none => (0, tables)
      | some item =>
          if mailbox.status = .retryWait ∧ elapsed mailbox.retryAt (clk 1) then
            let updated := { mailbox with
              status := .queued, retryAt := none,
              queueGeneration := mailbox.queueGeneration + 1,
              updatedAt := clk 2 }
            (1, (tables.putMailbox key updated).insertReady key
              updated.queueGeneration item.priority item.traceId [] uuid now
              (clk 3))
          else (0, tables)

def scheduleSessionMailboxRetries (tables : Tables) (limit : Int) (batch : List SessionKey)
    (uuids : Nat → String) (clk : Nat → Time) : Outcome Nat :=
  if limit < 1 ∨ limit > 1000 then .error (.valueError recoveryLimitMessage)
  else .ok (forEachMailbox (scheduleMailbox (clk 0)) uuids clk (batch.take limit.toNat) tables)

/-! Reconciliation joins a mailbox with its head item and that item's message.
The join is a value of its own, because the row lock may re-read the mailbox
while the other two rows stay those of the statement's snapshot. -/

structure ReconcileRecord where
  mailbox : SessionMailbox
  item : Option ItemRow
  inboundStatus : Option InboundStatus

def reconcileRecord (tables : Tables) (key : SessionKey)
    (mailbox : SessionMailbox) : ReconcileRecord :=
  let item := tables.item? key (headSequence mailbox)
  { mailbox, item,
    inboundStatus := item.bind fun item =>
      (tables.inboundMessages.get? (key.1, item.inboundId)).map
        InboundRow.status }

namespace ReconcileRecord

/-- The head was committed although its item is not resolved. -/
def headCommitted (record : ReconcileRecord) : Bool := record.inboundStatus = some .committed
    && (record.item.bind ItemRow.resolvedAt).isNone

/-- The disjunction of the candidate query. -/
def candidate (record : ReconcileRecord) (leaseNow queuedNow : Time) : Bool :=
  let mailbox := record.mailbox
  (mailbox.status ≠ .running && (mailbox.processingSequence.isSome
        || mailbox.processingInboundId.isSome
        || mailbox.leaseOwner.isSome || mailbox.leaseExpiresAt.isSome))
    || (mailbox.status = .running && elapsed mailbox.leaseExpiresAt leaseNow)
    || (mailbox.acceptedSequence ≤ mailbox.resolvedSequence && mailbox.status ≠ .idle)
    || (mailbox.acceptedSequence > mailbox.resolvedSequence && mailbox.status = .idle)
    || (mailbox.status = .retryWait && mailbox.retryAt.isNone)
    || (mailbox.status = .queued && record.item.isNone)
    || (mailbox.status = .queued && decide (mailbox.updatedAt ≤ queuedNow - seconds 5))
    || record.headCommitted

end ReconcileRecord

/-- The branch that resolves a head whose message is already committed. -/
def reconcileCommitted (tables : Tables) (key : SessionKey) (mailbox : SessionMailbox)
    (uuid : String) (now : Time) (clk : Nat → Time) : Tables :=
  let sequence := headSequence mailbox
  let tables := tables.resolveItem key sequence fun item => item.resolvedAt.getD (clk 5)
  let nextItem := tables.item? key (sequence + 1)
  let (status, retryAt) := if sequence ≥ mailbox.acceptedSequence then (.idle, none)
    else nextStatus nextItem (clk 6)
  let updated := { settled mailbox status retryAt
      (if status = .queued then 1 else 0) (clk 7) with
    resolvedSequence := sequence }
  let tables := tables.putMailbox key updated
  let tables := tables.clearSession key (sameLease mailbox)
  match status, nextItem with
  | .queued, some item => tables.insertReady key updated.queueGeneration
      item.priority item.traceId [] uuid now (clk 8)
  | _, _ => tables

/-- The branch that derives the mailbox from the joined head item. -/
def reconcileHead (tables : Tables) (key : SessionKey) (record : ReconcileRecord) (uuid : String)
    (now : Time) (clk : Nat → Time) : Tables :=
  let mailbox := record.mailbox
  let (status, retryAt) := if mailbox.acceptedSequence ≤ mailbox.resolvedSequence then (.idle, none)
    else nextStatus record.item (clk 5)
  let renumbered := decide (mailbox.status ≠ .queued ∨ mailbox.queueGeneration < 1)
  let updated := settled mailbox status retryAt
    (if status = .queued ∧ renumbered then 1 else 0) (clk 6)
  let tables := tables.putMailbox key updated
  let tables := tables.clearSession key (sameLease mailbox)
  match status, record.item with
  | .queued, some item =>
      let insert := fun tables : Tables =>
        tables.insertReady key updated.queueGeneration item.priority
          item.traceId [] uuid now (clk 10)
      if renumbered then insert tables
      else
        -- The same generation is opened again unless a dispatcher holds it.
        match tables.reopenReady key updated.queueGeneration
            (fun row => !laterThan row.claimExpiresAt (clk 7))
            (clk 8) (clk 9) with
        | some tables => tables
        | none => insert tables
  | _, _ => tables

def reconcileLocked (tables : Tables) (key : SessionKey) (record : ReconcileRecord) (uuid : String)
    (now : Time) (clk : Nat → Time) : Nat × Tables :=
  if tables.sessionActive key (clk 4) then (0, tables)
  else if record.headCommitted then (1, tables.reconcileCommitted key record.mailbox uuid now clk)
  else (1, tables.reconcileHead key record uuid now clk)

def reconcileSessionMailbox (now : Time) (tables : Tables) (key : SessionKey)
    (uuid : String) (clk : Nat → Time) : Nat × Tables :=
  match tables.sessionMailboxes.get? key with
  | none => (0, tables)
  | some mailbox =>
      let record := tables.reconcileRecord key mailbox
      if record.candidate (clk 1) (clk 2) ∧ ¬ tables.sessionActive key (clk 3) then
        tables.reconcileLocked key record uuid now clk
      else (0, tables)

def reconcileSessionMailboxes (tables : Tables) (limit cooldown : Int) (batch : List SessionKey)
    (uuids : Nat → String) (clk : Nat → Time) : Outcome Nat :=
  if limit < 1 ∨ limit > 1000 then .error (.valueError recoveryLimitMessage)
  else if cooldown < 5 ∨ cooldown > 86400 then .error (.databaseError cooldownMessage)
  else .ok (forEachMailbox (reconcileSessionMailbox (clk 0)) uuids clk
      (batch.take limit.toNat) tables)

end Tables

end TrpcService.Storage.Postgres
