import TrpcService.Storage.Postgres.Schema

namespace TrpcService.Storage.Postgres

open Data

/-! Statements that several transactions share, and the mailbox store built on
them.  A transaction reads its `index`-th `clock_timestamp()` as `clk index`;
`clk 0` is `now()`, the start of the transaction.  Generated identifiers come
from `uuids`. -/

/-- The readings after `used` of them; `now()` stays the first. -/
def readsAfter (clk : Nat → Time) (used : Nat) : Nat → Time :=
  fun index => if index = 0 then clk 0 else clk (index + used)

/-- The text form of a wake-up's creation time keeps whole milliseconds. -/
def milliseconds (instant : Time) : Time := instant / 1000 * 1000

def readyRow (key : SessionKey) (generation : Nat) (priority : Int)
    (traceId : String) (traceHeaders : List (String × String)) (uuid : String)
    (now createdAt : Time) : OutboxRow where
  outboxId := uuid
  tenantId := key.1
  eventType := .sessionReadyV2
  aggregateId := key.2
  payload := .sessionReady generation priority traceId (milliseconds createdAt)
  traceHeaders := traceHeaders
  aggregateType := .session
  availableAt := now
  createdAt := now

/-- The mailbox columns that every end of a lease writes. -/
def settled (mailbox : SessionMailbox) (status : MailboxStatus) (retryAt : Option Time)
    (increment : Nat) (updatedAt : Time) : SessionMailbox :=
  { mailbox with
    status, processingSequence := none, processingInboundId := none,
    leaseOwner := none, leaseExpiresAt := none, retryAt,
    queueGeneration := mailbox.queueGeneration + increment, updatedAt }

def nextStatus (item : Option ItemRow) (now : Time) : MailboxStatus × Option Time :=
  match item with
  | none => (.idle, none)
  | some item =>
      if laterThan item.retryAt now then (.retryWait, item.retryAt)
      else (.queued, none)

/-- `lease_owner IS NOT NULL AND lease_expires_at > now`. -/
def SessionRow.leased (session : SessionRow) (now : Time) : Bool :=
  session.leaseOwner.isSome && laterThan session.leaseExpiresAt now

/-- `SET lease_owner=NULL, lease_expires_at=NULL`. -/
def SessionRow.unleased (session : SessionRow) : SessionRow :=
  { session with leaseOwner := none, leaseExpiresAt := none }

/-- `greatest(now + lease_for, lease_expires_at + interval '1 microsecond')`. -/
def extendedExpiry (current : Option Time) (leaseFor now : Time) : Time :=
  match current with
  | some expiresAt => max (now + leaseFor) (expiresAt + 1)
  | none => now + leaseFor

namespace Tables

variable (tables : Tables) (key : SessionKey)

def putMailbox (mailbox : SessionMailbox) : Tables :=
  { tables with sessionMailboxes := tables.sessionMailboxes.set key mailbox }

def putItem (sequence : Nat) (item : ItemRow) : Tables :=
  { tables with
    sessionMailboxItems :=
      tables.sessionMailboxItems.set (key, sequence) item }

def putSession (session : SessionRow) : Tables :=
  { tables with sessions := tables.sessions.set key session }

def item? (sequence : Nat) : Option ItemRow := tables.sessionMailboxItems.get? (key, sequence)

/-- A row of the unique index over the generations of ready events. -/
def announced (generation : Nat) : Bool :=
  tables.outboxEvents.values.any fun row => decide (row.readyIndex = some (key, generation))

/-- `INSERT INTO outbox_events ... ON CONFLICT DO NOTHING` of a wake-up. -/
def insertReady (generation : Nat) (priority : Int) (traceId : String)
    (traceHeaders : List (String × String)) (uuid : String) (now createdAt : Time) : Tables :=
  if (tables.outboxEvents.get? (key.1, uuid)).isSome ∨ tables.announced key generation then tables
  else
    { tables with
      outboxEvents := tables.outboxEvents.set (key.1, uuid)
        (readyRow key generation priority traceId traceHeaders uuid now
          createdAt) }

def emitReadyOutbox (mailbox : SessionMailbox) (item : ItemRow) (uuid : String)
    (now createdAt : Time) : Tables :=
  let traceId := if item.traceId ≠ "" then item.traceId
    else if item.inboundId ≠ "" then item.inboundId else mailbox.sessionId
  tables.insertReady key mailbox.queueGeneration item.priority traceId [] uuid now createdAt

def reopened (row : OutboxRow) (availableAt replayedAt : Time) : OutboxRow :=
  { row with
    publishedAt := none, claimedBy := none, claimExpiresAt := none,
    availableAt, readyReplayedAt := some replayedAt }

variable (tables : Tables) (key : SessionKey)

/-- `UPDATE outbox_events` of the eligible events of one generation, or `none`
when no row qualifies. -/
def reopenReady (generation : Nat) (eligible : OutboxRow → Bool) (availableAt replayedAt : Time) :
    Option Tables :=
  let selected := fun row : OutboxRow => row.aggregateType = .session
      && row.readyIndex = some (key, generation) && eligible row
  if tables.outboxEvents.values.any selected then
    some { tables with
      outboxEvents := tables.outboxEvents.mapValues fun row =>
        if selected row then reopened row availableAt replayedAt else row }
  else none

def requeueReadyOutbox (mailbox : SessionMailbox) (item : ItemRow) (replayCooldown : Time)
    (uuid : String) (clk : Nat → Time) : Tables :=
  let published := fun row : OutboxRow => row.publishedAt.any fun instant =>
    decide (max instant (row.readyReplayedAt.getD instant) ≤ clk 1 - replayCooldown)
  match tables.reopenReady key mailbox.queueGeneration
      (fun row => published row && !laterThan row.claimExpiresAt (clk 2))
      (clk 3) (clk 4) with
  | some tables => tables
  | none => tables.emitReadyOutbox key mailbox item uuid (clk 0) (clk 5)

/-- `INSERT INTO session_mailboxes ... ON CONFLICT DO NOTHING`, then lock. -/
def ensureMailbox (createdAt : Time) : SessionMailbox × Tables :=
  match tables.sessionMailboxes.get? key with
  | some mailbox => (mailbox, tables)
  | none => (.fresh key createdAt, tables.putMailbox key (.fresh key createdAt))

/-- Insert an item after the mailbox's last one and announce it when the head
of the queue became ready. -/
def appendItem (mailbox : SessionMailbox) (item : ItemRow) (traceHeaders : List (String × String))
    (uuid : String) (now serverNow updatedAt createdAt : Time) : Outcome SessionMailbox :=
  if (tables.item? key item.sequence).isSome then .error (.databaseError integrityMessage)
  else
    let (status, retryAt) := MailboxStore.acceptStatus mailbox item.retryAt serverNow
    let ready := decide (status = .queued ∧ (mailbox.status = .idle ∨ mailbox.status = .retryWait))
    let updated := { mailbox with
      acceptedSequence := mailbox.acceptedSequence + 1, status, retryAt,
      queueGeneration := mailbox.queueGeneration + if ready then 1 else 0,
      priority := max mailbox.priority item.priority, updatedAt }
    let tables := (tables.putItem key item.sequence item).putMailbox key updated
    if ready then .ok (updated, tables.insertReady key updated.queueGeneration
        item.priority item.traceId traceHeaders uuid now createdAt)
    else .ok (updated, tables)

def advance (mailbox : SessionMailbox) (sequence : Nat) (uuid : String)
    (now serverNow updatedAt createdAt : Time) : SessionMailbox × Tables :=
  let nextItem := tables.item? key (sequence + 1)
  let (status, retryAt) := nextStatus nextItem serverNow
  let updated := { settled mailbox status retryAt
      (if status = .queued then 1 else 0) updatedAt with
    resolvedSequence := sequence }
  let tables := tables.putMailbox key updated
  match status, nextItem with
  | .queued, some item => (updated, tables.emitReadyOutbox key updated item uuid now createdAt)
  | _, _ => (updated, tables)

/-- `UPDATE session_mailbox_items SET resolved_at=resolvedAt`. -/
def resolveItem (sequence : Nat) (resolvedAt : ItemRow → Time) : Tables :=
  match tables.item? key sequence with
  | some item => tables.putItem key sequence { item with resolvedAt := some (resolvedAt item) }
  | none => tables

def inboundUuidMessage : String := "PostgreSQL mailbox inbound_id must be a UUID"
def uuidMessage : String := "badly formed hexadecimal UUID string"
def batchTenantMessage : String := "mailbox renew batch must use one tenant"
def recoveryLimitMessage : String := "recovery limit must be between 1 and 1000"
def parameterTypeMessage : String := "could not determine data type of parameter $3"

def acceptMailbox (library : Library) (tables : Tables) (key : SessionKey) (inboundId : String)
    (priority : Priority) (retryAt : Option Time) (traceId : Option String) (uuids : Nat → String)
    (clk : Nat → Time) : Outcome SessionMailbox :=
  if priority.refused then .error (.valueError priorityMessage)
  else
    match library.parseUuid inboundId with
    | none => .error (.valueError inboundUuidMessage)
    | some inboundUuid =>
        let (mailbox, tables) := tables.ensureMailbox key (clk 1)
        let existing := tables.sessionMailboxItems.entries.any fun entry =>
          entry.1.1 = key && entry.2.inboundId = inboundUuid
        if existing then .ok (mailbox, tables)
        else
          let trace := match traceId with
            | some text => if text = "" then inboundId else text
            | none => inboundId
          tables.appendItem key mailbox
            { tenantId := key.1, sessionId := key.2, inboundId := inboundUuid,
              sequence := mailbox.acceptedSequence + 1, traceId := trace,
              priority := priority.value, retryCount := 0, attempt := 0,
              retryAt, acceptedAt := clk 2 }
            [] (uuids 0) (clk 0) (clk 3) (clk 4) (clk 5)

def claimLocked (tables : Tables) (key : SessionKey) (ownerId : String)
    (leaseFor : Time) (clk : Nat → Time) : Outcome (Option MailboxLease) :=
  match tables.sessionMailboxes.get? key with
  | none => .ok (none, tables)
  | some mailbox =>
      if laterThan mailbox.leaseExpiresAt (clk 1) then .ok (none, tables)
      else
        let sequence := mailbox.processingSequence.getD (mailbox.resolvedSequence + 1)
        if mailbox.processingSequence = none ∧ sequence > mailbox.acceptedSequence then
          .ok (none, tables.putMailbox key { mailbox with status := .idle, updatedAt := clk 2 })
        else
          match tables.item? key sequence with
          | none => .ok (none, tables)
          | some item =>
              if laterThan item.retryAt (clk 2) then
                -- The update of a waiting mailbox never names its third
                -- parameter, so the server cannot type it.
                if laterThan item.retryAt (clk 3) then .error (.databaseError parameterTypeMessage)
                else .ok (none, tables)
              else
                let epoch := mailbox.leaseEpoch + 1
                let attempt := item.attempt + 1
                let expiresAt := clk 3 + leaseFor
                let tables := tables.putItem key sequence { item with attempt }
                let tables := tables.putMailbox key { mailbox with
                  status := .running, processingSequence := some sequence,
                  processingInboundId := some item.inboundId,
                  leaseOwner := some ownerId, leaseEpoch := epoch,
                  leaseExpiresAt := some expiresAt, attempt,
                  retryCount := item.retryCount, priority := item.priority,
                  retryAt := item.retryAt, updatedAt := clk 4 }
                .ok (some
                  { tenantId := key.1, sessionId := key.2,
                    inboundId := item.inboundId, sequence, ownerId, epoch,
                    expiresAt, attempt, retryCount := item.retryCount,
                    priority := item.priority }, tables)

def claimMailbox (tables : Tables) (key : SessionKey) (ownerId : String) (leaseFor : Time)
    (expectedGeneration expectedEpoch : Option Int) (acceptance : Option Acceptance)
    (clk : Nat → Time) : Outcome SessionClaim :=
  let expected := expectedGeneration.or expectedEpoch
  if leaseFor ≤ 0 then .error (.valueError leaseForMessage)
  else
    let before := (tables.sessionMailboxes.get? key).getD (.fresh key (clk 0))
    if expected.any fun generation => decide ((before.queueGeneration : Int) ≠ generation) then
      .ok ({ status := .stale, mailbox := before, acceptance }, tables)
    else
      match tables.claimLocked key ownerId leaseFor fun index =>
        clk (index + 1) with
      | .error error => .error error
      | .ok (lease, tables) =>
          let mailbox := (tables.sessionMailboxes.get? key).getD before
          match lease with
          | some lease =>
              .ok ({ status := .claimed, mailbox, lease := some lease,
                     acceptance }, tables)
          | none =>
              if laterThan mailbox.leaseExpiresAt (clk 1) then
                .ok ({ status := .running, mailbox, acceptance }, tables)
              else if expected.any fun generation =>
                  decide ((mailbox.queueGeneration : Int) ≠ generation) then
                .ok ({ status := .stale, mailbox, acceptance }, tables)
              else .ok ({ status := .empty, mailbox, acceptance }, tables)

def renewMailbox (library : Library) (tables : Tables) (lease : MailboxLease)
    (leaseFor : Time) (clk : Nat → Time) : Outcome MailboxLease :=
  if leaseFor ≤ 0 then .error (.valueError leaseForMessage)
  else
    match library.parseUuid lease.inboundId with
    | none => .error (.valueError uuidMessage)
    | some inboundUuid =>
        match tables.sessionMailboxes.get? lease.key with
        | none => .error (.fencingConflict leaseConflictMessage)
        | some mailbox =>
            if owns (some mailbox) { lease with inboundId := inboundUuid } (clk 1) then
              let expiresAt := extendedExpiry mailbox.leaseExpiresAt leaseFor (clk 2)
              .ok ({ lease with expiresAt }, tables.putMailbox lease.key
                { mailbox with
                  leaseExpiresAt := some expiresAt, updatedAt := clk 3 })
            else .error (.fencingConflict leaseConflictMessage)

/-- `renew_many`: one transaction over leases of one tenant. -/
def renewMailboxes (library : Library) (tables : Tables) (tenantId : String)
    (leases : List MailboxLease) (leaseFor : Time) (clk : Nat → Time) :
    Outcome (List MailboxLease) :=
  match leases with
  | [] =>
      if leaseFor ≤ 0 then .error (.valueError leaseForMessage)
      else .ok ([], tables)
  | lease :: rest =>
      if lease.tenantId ≠ tenantId then .error (.valueError batchTenantMessage)
      else
        match renewMailbox library tables lease leaseFor clk with
        | .error error => .error error
        | .ok (renewed, tables) =>
            match renewMailboxes library tables tenantId rest leaseFor
              fun index => clk (index + 3) with
            | .error error => .error error
            | .ok (others, tables) => .ok (renewed :: others, tables)

variable (tables : Tables) (lease : MailboxLease)

def commitMailbox (uuids : Nat → String) (clk : Nat → Time) : Outcome SessionMailbox :=
  match tables.sessionMailboxes.get? lease.key with
  | none => .error (.fencingConflict leaseConflictMessage)
  | some mailbox =>
      if owns (some mailbox) lease (clk 1) then
        let tables := tables.resolveItem lease.key lease.sequence fun _ => clk 2
        .ok (tables.advance lease.key mailbox lease.sequence (uuids 0) (clk 0)
          (clk 3) (clk 4) (clk 5))
      else .error (.fencingConflict leaseConflictMessage)

variable (retryAt : Option Time) (priority : Option Priority)

/-- `_release` with `emit_ready`, the only form the repository uses. -/
def releaseMailbox (incrementRetry : Bool)
    (uuids : Nat → String) (clk : Nat → Time) : Outcome SessionMailbox :=
  if priority.any Priority.refused then .error (.valueError priorityMessage)
  else
    match tables.sessionMailboxes.get? lease.key with
    | none => .error (.fencingConflict leaseConflictMessage)
    | some mailbox =>
        if owns (some mailbox) lease (clk 1) then
          match tables.item? lease.key lease.sequence with
          | none => .error .assertionError
          | some item =>
              let item := { item with
                retryCount := item.retryCount + if incrementRetry then 1 else 0,
                priority := (priority.map Priority.value).getD item.priority,
                retryAt }
              let tables := tables.putItem lease.key lease.sequence item
              let (status, nextRetryAt) := nextStatus (some item) (clk 2)
              let updated := { settled mailbox status nextRetryAt
                  (if status = .queued then 1 else 0) (clk 3) with
                retryCount := item.retryCount, priority := item.priority }
              let tables := tables.putMailbox lease.key updated
              if status = .queued then .ok (updated, tables.emitReadyOutbox lease.key updated item
                  (uuids 0) (clk 0) (clk 4))
              else .ok (updated, tables)
        else .error (.fencingConflict leaseConflictMessage)

def rescheduleMailbox (uuids : Nat → String) (clk : Nat → Time) : Outcome SessionMailbox :=
  tables.releaseMailbox lease retryAt priority false uuids clk

def retryMailbox (uuids : Nat → String) (clk : Nat → Time) : Outcome SessionMailbox :=
  tables.releaseMailbox lease retryAt priority true uuids clk

/-- The end of `recover` and `reconcile`: derive the mailbox from its head. -/
def settleHead (key : SessionKey) (mailbox : SessionMailbox) (increment : Nat)
    (serverNow updatedAt : Time) : MailboxStatus × SessionMailbox × Tables :=
  let item := tables.item? key mailbox.activeSequence
  let (status, retryAt) :=
    MailboxStore.headStatus mailbox (item.map ItemRow.toMailboxItem) serverNow
  let updated := settled mailbox status retryAt
    (if status = .queued then increment else 0) updatedAt
  (status, updated, tables.putMailbox key updated)

def recoverMailbox (key : SessionKey) (uuids : Nat → String)
    (clk : Nat → Time) : Outcome (Option SessionMailbox) :=
  match tables.sessionMailboxes.get? key with
  | none => .ok (none, tables)
  | some mailbox =>
      match mailbox.leaseExpiresAt with
      | none => .ok (none, tables)
      | some expiresAt =>
          if expiresAt > clk 1 then .ok (none, tables)
          else if (tables.sessions.get? key).any fun session => session.leased (clk 2) then
            .ok (none, tables)
          else
            let item := tables.item? key mailbox.activeSequence
            let (status, updated, tables) := tables.settleHead key mailbox 1 (clk 2) (clk 3)
            match status, item with
            | .queued, some item =>
                .ok (some updated, tables.emitReadyOutbox key updated item
                  (uuids 0) (clk 0) (clk 4))
            | _, _ => .ok (some updated, tables)

def reconcileMailbox (key : SessionKey) (replayCooldown : Time) (uuids : Nat → String)
    (clk : Nat → Time) : Outcome (Option SessionMailbox) :=
  match tables.sessionMailboxes.get? key with
  | none => .ok (none, tables)
  | some mailbox =>
      if (tables.sessions.get? key).any fun session => session.leased (clk 1) then
        .ok (some mailbox, tables)
      else
        let item := tables.item? key mailbox.activeSequence
        let increment := if mailbox.status = .queued ∧ 1 ≤ mailbox.queueGeneration then 0 else 1
        let (status, updated, settledTables) :=
          tables.settleHead key mailbox increment (clk 1) (clk 2)
        match status, item with
        | .queued, some item =>
            if mailbox.status = .queued ∧ mailbox.updatedAt > clk 1 - reconcileReadyGrace then
              .ok (some mailbox, tables)
            else if increment = 0 then
              -- A queued generation is replayed, never renumbered.
              .ok (some updated, settledTables.requeueReadyOutbox key updated
                item replayCooldown (uuids 0) (readsAfter clk 2))
            else .ok (some updated, settledTables.emitReadyOutbox key updated item
                (uuids 0) (clk 0) (clk 3))
        | _, _ => .ok (some updated, settledTables)

end Tables

end TrpcService.Storage.Postgres
