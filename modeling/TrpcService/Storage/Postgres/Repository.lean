import TrpcService.Storage.Postgres.Mailbox

namespace TrpcService.Storage.Postgres

open Data

/-! The repository's transactions on inbound messages, sessions and turns. -/

def sessionLeaseForMessage : String := "session lease must be positive"
def retryDelayMessage : String := "retry delay must be non-negative"
def sessionConflictMessage : String := "session lease is no longer current"
def mailboxLeaseConflictMessage : String := "session mailbox lease is no longer current"
def staleCommitMessage : String := "stale worker cannot commit this session"
def staleRetryMessage : String := "stale worker cannot retry this session"
def staleFailMessage : String := "stale worker cannot fail this session"
def sessionExpiredMessage : String := "session lease expired before commit"
def mailboxExpiredMessage : String := "mailbox lease expired before commit"
def leaseChangedMessage : String := "session lease expired or changed before commit"

def Library.providerEventHash (library : Library) (tenantId bindingId : String)
    (channel : Channel) (externalMessageId : String) : String :=
  match channel with
  | .feishu => library.sha256 ("trpc.feishu.callback.message-id.v1\x00" ++ externalMessageId)
  | .wecomAiBot =>
      library.sha256 ("\x00".intercalate
        ["trpc-wecom-evidence-v1", "provider-event", tenantId, bindingId, externalMessageId])

def InboundRow.acceptance (row : InboundRow) (inboundId : String) :
    Acceptance where
  inboundId := inboundId
  context := row.context
  envelope := row.envelope
  acceptedAt := row.acceptedAt

namespace Tables

variable (tables : Tables)

/-- The row that `ON CONFLICT` finds for a message delivered again. -/
def findMessage (tenantId : String)
    (envelope : InboundEnvelope) : Option ((String × String) × InboundRow) :=
  tables.inboundMessages.entries.find? fun entry =>
    entry.1.1 = tenantId && entry.2.envelope.channel = envelope.channel
      && entry.2.envelope.accountId = envelope.accountId
      && entry.2.envelope.externalMessageId = envelope.externalMessageId

def putInbound (key : String × String) (row : InboundRow) : Tables :=
  { tables with inboundMessages := tables.inboundMessages.set key row }

def redeliver (key : String × String) (row : InboundRow)
    (context : TenantContext) (hash : String) : Outcome Acceptance :=
  if row.context.channelBindingId = context.channelBindingId
      ∧ (row.providerEventHash.all fun stored => decide (stored = hash)) then
    let row := { row with
      deliveryCount := row.deliveryCount + 1,
      providerEventHash := some (row.providerEventHash.getD hash) }
    .ok ({ row.acceptance key.2 with duplicate := true }, tables.putInbound key row)
  else .error .assertionError

def insertInbound (inboundId : String) (row : InboundRow) : Except StorageError Tables :=
  let key := (row.context.tenantId, inboundId)
  if (tables.inboundMessages.get? key).isSome then .error (.databaseError integrityMessage)
  else .ok (tables.putInbound key row)

def insertOutbox (row : OutboxRow) : Except StorageError Tables :=
  let key := (row.tenantId, row.outboxId)
  if (tables.outboxEvents.get? key).isSome then .error (.databaseError integrityMessage)
  else .ok { tables with outboxEvents := tables.outboxEvents.set key row }

def acceptInbound (library : Library) (tables : Tables) (context : TenantContext)
    (envelope : InboundEnvelope) (traceHeaders : List (String × String)) (uuids : Nat → String)
    (clk : Nat → Time) : Outcome Acceptance :=
  let hash := library.providerEventHash context.tenantId
    context.channelBindingId envelope.channel envelope.externalMessageId
  match tables.findMessage context.tenantId envelope with
  | some (key, row) => tables.redeliver key row context hash
  | none =>
      let row : InboundRow :=
        { context, envelope, acceptedAt := clk 0,
          providerEventHash := some hash }
      match tables.insertInbound (uuids 0) row with
      | .error error => .error error
      | .ok tables =>
          match tables.insertOutbox
            { outboxId := uuids 1, tenantId := context.tenantId,
              eventType := .inboundAccepted, aggregateId := uuids 0,
              payload := .inbound (uuids 0), traceHeaders,
              aggregateType := .inbound, availableAt := clk 0,
              createdAt := clk 0 } with
          | .error error => .error error
          | .ok tables => .ok (row.acceptance (uuids 0), tables)

def acceptInboundV2 (library : Library) (tables : Tables) (context : TenantContext)
    (envelope : InboundEnvelope) (traceHeaders : List (String × String)) (priority : Priority)
    (retryAt : Option Time) (uuids : Nat → String) (clk : Nat → Time) : Outcome Acceptance :=
  if priority.refused then .error (.valueError priorityMessage)
  else
    let hash := library.providerEventHash context.tenantId
      context.channelBindingId envelope.channel envelope.externalMessageId
    match tables.findMessage context.tenantId envelope with
    | some (key, row) => tables.redeliver key row context hash
    | none =>
        let row : InboundRow :=
          { context, envelope, acceptedAt := clk 0,
            providerEventHash := some hash }
        match tables.insertInbound (uuids 0) row with
        | .error error => .error error
        | .ok tables =>
            let (mailbox, tables) := tables.ensureMailbox context.key (clk 1)
            let trace := if context.traceId = "" then uuids 0 else context.traceId
            match tables.appendItem context.key mailbox
              { tenantId := context.tenantId, sessionId := context.sessionId,
                inboundId := uuids 0,
                sequence := mailbox.acceptedSequence + 1, traceId := trace,
                priority := priority.value, retryCount := 0, attempt := 0,
                retryAt, acceptedAt := clk 3 }
              traceHeaders (uuids 1) (clk 0) (clk 2) (clk 4) (clk 5) with
            | .error error => .error error
            | .ok (_, tables) => .ok (row.acceptance (uuids 0), tables)

variable (tables : Tables)

/-- The generation of the ready event that a wake-up names, if it names one of
this session that also matches the expected generation. -/
def readyGeneration? (key : SessionKey) (eventId : String)
    (expectedGeneration : Option Int) : Option Nat :=
  match tables.outboxEvents.get? (key.1, eventId) with
  | none => none
  | some row =>
      if row.eventType = .sessionReadyV2 ∧ row.aggregateType = .session
          ∧ row.aggregateId = key.2 then
        match row.payload.generation? with
        | none => none
        | some generation =>
            if generation < 1 ∨ expectedGeneration.any fun expected =>
                decide ((generation : Int) ≠ expected) then none
            else some generation
      else none

def turnFor (tenantId inboundId : String) : Option ((String × String) × TurnRow) :=
  tables.sessionTurns.entries.find? fun entry =>
    entry.1.1 = tenantId && entry.2.inboundId = inboundId

def putTurn (key : String × String) (turn : TurnRow) : Tables :=
  { tables with sessionTurns := tables.sessionTurns.set key turn }

variable (key : SessionKey)

/-- `INSERT INTO sessions ... ON CONFLICT DO NOTHING`, then lock the row. -/
def ensureSession (appId principalId : String) : SessionRow × Tables :=
  match tables.sessions.get? key with
  | some session => (session, tables)
  | none => ({ appId, principalId }, tables.putSession key { appId, principalId })

/-- Clear the session lease that one mailbox lease stands for. -/
def clearSession (represented : SessionRow → Bool) : Tables :=
  match tables.sessions.get? key with
  | some session =>
      if represented session then tables.putSession key session.unleased
      else tables
  | none => tables

def resolveMailboxItem (mailbox : SessionMailbox) (sequence : Nat) (serverNow : Time)
    (uuid : String) (clk : Nat → Time) : SessionMailbox × Tables :=
  let tables := tables.resolveItem key sequence fun item => item.resolvedAt.getD (clk 1)
  let tables := tables.clearSession key fun session => session.leaseOwner = mailbox.leaseOwner
      && session.leaseEpoch = mailbox.leaseEpoch
  tables.advance key mailbox sequence uuid (clk 0) serverNow (clk 2) (clk 3)

def startTurn (turn : Option ((String × String) × TurnRow)) (inboundId uuid : String)
    (configVersion token attempt : Nat) : Outcome String :=
  match turn with
  | some (turnKey, turn) =>
      .ok (turnKey.2, tables.putTurn turnKey
        { turn with status := .processing, fencingToken := token, attempt })
  | none =>
      if (tables.sessionTurns.get? (key.1, uuid)).isSome then
        .error (.databaseError integrityMessage)
      else .ok (uuid, tables.putTurn (key.1, uuid)
          { sessionId := key.2, inboundId, configVersion,
            status := .processing, fencingToken := token, attempt })

/-- The last part of the claim: lease the head item on both rows. -/
def leaseHead (mailbox : SessionMailbox) (sequence : Nat) (item : ItemRow) (inbound : InboundRow)
    (session : SessionRow) (turn : Option ((String × String) × TurnRow)) (ownerId : String)
    (leaseFor : Time) (acceptance : Option Acceptance) (uuids : Nat → String) (clk : Nat → Time) :
    Outcome SessionClaim :=
  let epoch := max mailbox.leaseEpoch session.leaseEpoch + 1
  let attempt := item.attempt + 1
  match tables.startTurn key turn item.inboundId (uuids 0)
    inbound.context.configVersion epoch attempt with
  | .error error => .error error
  | .ok (turnId, tables) =>
      let tables := tables.putSession key { session with
        leaseEpoch := epoch, leaseOwner := some ownerId,
        leaseExpiresAt := some (clk 0 + leaseFor) }
      let tables := tables.putItem key sequence { item with attempt }
      let expiresAt := clk 1 + leaseFor
      let claimed := { mailbox with
        status := .running, processingSequence := some sequence,
        processingInboundId := some item.inboundId,
        leaseOwner := some ownerId, leaseEpoch := epoch,
        leaseExpiresAt := some expiresAt, attempt,
        retryCount := item.retryCount, priority := item.priority,
        retryAt := none, updatedAt := clk 2 }
      let tables := tables.putMailbox key claimed
      let tables := tables.putInbound (key.1, item.inboundId) { inbound with status := .processing }
      let lease : MailboxLease :=
        { tenantId := key.1, sessionId := key.2, inboundId := item.inboundId,
          sequence, ownerId, epoch, expiresAt, attempt,
          retryCount := item.retryCount, priority := item.priority }
      let executionLease : SessionLease :=
        { tenantId := key.1, sessionId := key.2, turnId,
          inboundId := item.inboundId, workerId := ownerId,
          fencingToken := epoch, expiresAt, attempt,
          -- History and state are read after the claim commits.
          snapshot :=
            { tenantId := key.1, appId := session.appId, sessionId := key.2,
              principalId := session.principalId, version := session.version,
              nextSequence := session.nextSequence },
          snapshotHydrated := false }
      .ok ({ status := .claimed, mailbox := claimed, lease := some lease,
             acceptance, executionLease := some executionLease }, tables)

def claimHead (mailbox : SessionMailbox)
    (ownerId : String) (leaseFor : Time) (acceptance : Option Acceptance)
    (uuids : Nat → String) (clk : Nat → Time) : Outcome SessionClaim :=
  let serverNow := clk 1
  if laterThan mailbox.leaseExpiresAt serverNow then
    .ok ({ status := .running, mailbox, acceptance }, tables)
  else
    let sequence := mailbox.activeSequence
    if sequence > mailbox.acceptedSequence then
      .ok ({ status := .empty, mailbox, acceptance }, tables)
    else
      match tables.item? key sequence with
      | none => .ok ({ status := .empty, mailbox, acceptance }, tables)
      | some item =>
          if laterThan item.retryAt serverNow then
            let waiting := { mailbox with
              status := .retryWait, retryAt := item.retryAt,
              updatedAt := clk 2 }
            .ok ({ status := .empty, mailbox := waiting, acceptance },
              tables.putMailbox key waiting)
          else
            match tables.inboundMessages.get? (key.1, item.inboundId) with
            | none => .ok ({ status := .empty, mailbox, acceptance }, tables)
            | some inbound =>
                if inbound.status = .committed then
                  let (mailbox, tables) := tables.resolveMailboxItem key mailbox
                    sequence serverNow (uuids 0) (readsAfter clk 1)
                  .ok ({ status := .empty, mailbox, acceptance }, tables)
                else
                  let turn := tables.turnFor key.1 item.inboundId
                  let (session, tables) := tables.ensureSession key
                    inbound.context.appId inbound.context.principalId
                  if session.leased serverNow then
                    .ok ({ status := .running, mailbox, acceptance }, tables)
                  else if turn.any fun entry => decide (entry.2.status = .committed) then
                    let (mailbox, tables) := tables.resolveMailboxItem key
                      mailbox sequence serverNow (uuids 0) (readsAfter clk 1)
                    .ok ({ status := .empty, mailbox, acceptance }, tables)
                  else tables.leaseHead key mailbox sequence item inbound session
                      turn ownerId leaseFor acceptance uuids fun index => clk (index + 2)

def claimSessionReady (library : Library) (tables : Tables) (key : SessionKey)
    (ownerId : String) (leaseFor : Time) (expectedGeneration : Option Int)
    (expectedEventId : Option String) (acceptance : Option Acceptance)
    (uuids : Nat → String) (clk : Nat → Time) : Outcome SessionClaim :=
  let stale := fun mailbox : SessionMailbox =>
    Except.ok (({ status := .stale, mailbox, acceptance } : SessionClaim), tables)
  if leaseFor ≤ 0 then .error (.valueError sessionLeaseForMessage)
  else
    -- A wake-up without its durable event cannot be authenticated.
    match expectedEventId.bind library.parseUuid with
    | none => stale (.fresh key (clk 0))
    | some eventId =>
        match tables.readyGeneration? key eventId expectedGeneration with
        | none => stale (.fresh key (clk 0))
        | some generation =>
            match tables.sessionMailboxes.get? key with
            | none => stale (.fresh key (clk 0))
            | some mailbox =>
                if mailbox.queueGeneration ≠ generation then stale mailbox
                else tables.claimHead key mailbox ownerId leaseFor acceptance uuids clk

def renewSessionReady (library : Library) (tables : Tables) (lease : SessionLease) (leaseFor : Time)
    (clk : Nat → Time) : Outcome SessionLease :=
  if leaseFor ≤ 0 then .error (.valueError sessionLeaseForMessage)
  else
    match library.parseUuid lease.inboundId with
    | none => .error (.databaseError uuidMessage)
    | some inboundUuid =>
        match tables.sessionMailboxes.get? lease.key with
        | none => .error (.fencingConflict mailboxLeaseConflictMessage)
        | some mailbox =>
            if mailbox.status = .running ∧ mailbox.processingInboundId = some inboundUuid
                ∧ mailbox.leaseOwner = some lease.workerId
                ∧ mailbox.leaseEpoch = lease.fencingToken
                ∧ laterThan mailbox.leaseExpiresAt (clk 1) then
              let expiresAt := extendedExpiry mailbox.leaseExpiresAt leaseFor (clk 2)
              let tables := tables.putMailbox lease.key { mailbox with
                leaseExpiresAt := some expiresAt, updatedAt := clk 3 }
              match tables.sessions.get? lease.key with
              | none => .error (.fencingConflict sessionConflictMessage)
              | some session =>
                  if session.leaseOwner = some lease.workerId
                      ∧ session.leaseEpoch = lease.fencingToken
                      ∧ laterThan session.leaseExpiresAt (clk 4) then
                    .ok ({ lease with expiresAt },
                      tables.putSession lease.key { session with
                        leaseExpiresAt := some (extendedExpiry
                          session.leaseExpiresAt leaseFor (clk 5)) })
                  else .error (.fencingConflict sessionConflictMessage)
            else .error (.fencingConflict mailboxLeaseConflictMessage)

def validV2Mailbox (mailbox : SessionMailbox) (lease : SessionLease) (now : Time) : Bool :=
  mailbox.status = .running && mailbox.processingSequence.isSome
    && mailbox.processingInboundId = some lease.inboundId
    && mailbox.leaseOwner = some lease.workerId
    && mailbox.leaseEpoch = lease.fencingToken
    && laterThan mailbox.leaseExpiresAt now

def ownsSession (session : SessionRow) (lease : SessionLease) (now : Time) : Bool :=
  session.leaseOwner = some lease.workerId && session.leaseEpoch = lease.fencingToken
    && laterThan session.leaseExpiresAt now

/-- The rows a v2 terminal transition holds once its fence has passed. -/
structure FencedRows where
  mailbox : SessionMailbox
  sequence : Nat
  session : SessionRow
  turnId : String
  turn : TurnRow
  item : ItemRow
  inboundId : String
  inbound : InboundRow

def fencedRows (library : Library) (tables : Tables) (lease : SessionLease) (message : String)
    (mailboxNow sessionNow : Time) : Except StorageError FencedRows :=
  match tables.sessionMailboxes.get? lease.key with
  | none => .error (.fencingConflict message)
  | some mailbox =>
      if !validV2Mailbox mailbox lease mailboxNow then .error (.fencingConflict message)
      else
        match library.parseUuid lease.turnId, library.parseUuid lease.inboundId with
        | some turnId, some inboundId =>
            let sequence := mailbox.processingSequence.getD 0
            match tables.sessions.get? lease.key, tables.sessionTurns.get? (lease.tenantId, turnId),
              tables.item? lease.key sequence,
              tables.inboundMessages.get? (lease.tenantId, inboundId) with
            | some session, some turn, some item, some inbound =>
                if ownsSession session lease sessionNow && inbound.status = .processing
                    && turn.status = .processing
                    && turn.fencingToken = lease.fencingToken then
                  .ok { mailbox, sequence, session, turnId, turn, item,
                        inboundId, inbound }
                else .error (.fencingConflict message)
            | _, _, _, _ => .error (.fencingConflict message)
        | _, _ => .error (.databaseError uuidMessage)

/-- The fence of `commit_session_ready` also names the message. -/
def commitReadyFence (library : Library) (tables : Tables) (lease : SessionLease)
    (clk : Nat → Time) : Except StorageError FencedRows :=
  match fencedRows library tables lease staleCommitMessage (clk 1) (clk 2) with
  | .error error => .error error
  | .ok rows =>
      if rows.item.inboundId = lease.inboundId ∧ rows.turn.inboundId = lease.inboundId then .ok rows
      else .error (.fencingConflict staleCommitMessage)

def insertEvents (tables : Tables) (key : SessionKey) (turnId : String)
    (sequence : Nat) : List StoredEvent → Except StorageError (Nat × Tables)
  | [] => .ok (sequence, tables)
  | event :: rest =>
      if (tables.sessionEvents.get? (key, sequence)).isSome then
        .error (.databaseError integrityMessage)
      else insertEvents
          { tables with
            sessionEvents := tables.sessionEvents.set (key, sequence)
              { event with turnId } }
          key turnId (sequence + 1) rest

def insertOutbound (tables : Tables) (key : SessionKey) (uuid : String)
    (now : Time) : Option OutboundEnvelope → Except StorageError Tables
  | none => .ok tables
  | some envelope =>
      if (tables.outboundMessages.get? (key.1, envelope.outboundId)).isSome then
        .error (.databaseError integrityMessage)
      else insertOutbox
          { tables with
            outboundMessages := tables.outboundMessages.set
              (key.1, envelope.outboundId) { sessionId := key.2, envelope } }
          { outboxId := uuid, tenantId := key.1,
            eventType := .outboundReady envelope.channel,
            aggregateId := envelope.outboundId, payload := .outbound envelope,
            traceHeaders := envelope.traceHeaders, aggregateType := .outbound,
            availableAt := now, createdAt := now }

/-- Append a turn's events and reply, then write the session under its lease;
the answer is the session's next sequence. -/
def recordTurn (tables : Tables) (commit : TurnCommit) (session : SessionRow)
    (turnId uuid message : String) (now leaseNow : Time) : Outcome Nat :=
  let key := commit.lease.key
  match tables.insertEvents key turnId session.nextSequence commit.events with
  | .error error => .error error
  | .ok (sequence, tables) =>
      match tables.insertOutbound key uuid now commit.outbound with
      | .error error => .error error
      | .ok tables =>
          if ownsSession session commit.lease leaseNow then
            .ok (sequence, tables.putSession key { session.unleased with
              state := commit.state, version := session.version + 1,
              nextSequence := sequence })
          else .error (.fencingConflict message)

def commitResult (commit : TurnCommit) (session : SessionRow)
    (sequence : Nat) : CommitResult where
  turnId := commit.lease.turnId
  firstSequence := if commit.events.isEmpty then none else some session.nextSequence
  lastSequence := if commit.events.isEmpty then none else some (sequence - 1)
  outboundId := commit.outbound.map OutboundEnvelope.outboundId

def postTurnRow (lease : SessionLease) (uuid : String) (sequence : Nat)
    (now : Time) : OutboxRow where
  outboxId := uuid
  tenantId := lease.tenantId
  eventType := .postTurnReady
  aggregateId := lease.turnId
  payload := .postTurn lease.sessionId lease.turnId (sequence - 1)
  aggregateType := .turn
  availableAt := now
  createdAt := now

def commitSessionReady (library : Library) (tables : Tables) (commit : TurnCommit)
    (uuids : Nat → String) (clk : Nat → Time) : Outcome CommitResult :=
  let lease := commit.lease
  match commitReadyFence library tables lease clk with
  | .error error => .error error
  | .ok rows =>
      match tables.recordTurn commit rows.session rows.turnId (uuids 0)
        sessionExpiredMessage (clk 0) (clk 3) with
      | .error error => .error error
      | .ok (sequence, tables) =>
          let tables := tables.putTurn (lease.tenantId, rows.turnId)
            { rows.turn with status := .committed }
          let tables := tables.putInbound (lease.tenantId, rows.inboundId)
            { rows.inbound with status := .committed }
          let tables := tables.resolveItem lease.key rows.sequence fun _ => clk 4
          -- The mailbox write is fenced again at its own clock reading.
          if rows.mailbox.leaseOwner = some lease.workerId
              ∧ rows.mailbox.leaseEpoch = lease.fencingToken
              ∧ laterThan rows.mailbox.leaseExpiresAt (clk 6) then
            let (_, tables) := tables.advance lease.key rows.mailbox
              rows.sequence (uuids 1) (clk 0) (clk 5) (clk 7) (clk 8)
            match tables.insertOutbox
              (postTurnRow lease (uuids 2) sequence (clk 0)) with
            | .error error => .error error
            | .ok tables => .ok (commitResult commit rows.session sequence, tables)
          else .error (.fencingConflict mailboxExpiredMessage)

def heldBy (lease : SessionLease) (session : SessionRow) : Bool :=
  session.leaseOwner = some lease.workerId && session.leaseEpoch = lease.fencingToken

def retrySessionReady (library : Library) (tables : Tables)
    (lease : SessionLease) (delay : Time) (clk : Nat → Time) : Outcome Unit :=
  if delay < 0 then .error (.valueError retryDelayMessage)
  else
    match fencedRows library tables lease staleRetryMessage (clk 1) (clk 1) with
    | .error error => .error error
    | .ok rows =>
        let tables := tables.putTurn (lease.tenantId, rows.turnId)
          { rows.turn with status := .failed }
        let tables := tables.putInbound (lease.tenantId, rows.inboundId)
          { rows.inbound with status := .accepted }
        let tables := tables.putItem lease.key rows.sequence { rows.item with
          retryCount := rows.item.retryCount + 1,
          retryAt := some (clk 2 + delay) }
        let tables := tables.putMailbox lease.key
          { settled rows.mailbox .retryWait (some (clk 3 + delay)) 0 (clk 4) with
            retryCount := rows.mailbox.retryCount + 1 }
        .ok ((), tables.clearSession lease.key (heldBy lease))

def failSessionReady (library : Library) (tables : Tables) (lease : SessionLease)
    (uuids : Nat → String) (clk : Nat → Time) : Outcome Unit :=
  match fencedRows library tables lease staleFailMessage (clk 1) (clk 1) with
  | .error error => .error error
  | .ok rows =>
      let tables := tables.putTurn (lease.tenantId, rows.turnId)
        { rows.turn with status := .failed }
      let tables := tables.putInbound (lease.tenantId, rows.inboundId)
        { rows.inbound with status := .failed }
      let tables := tables.resolveItem lease.key rows.sequence fun _ => clk 2
      let (_, tables) := tables.advance lease.key rows.mailbox rows.sequence
        (uuids 0) (clk 0) (clk 1) (clk 3) (clk 4)
      .ok ((), tables.clearSession lease.key (heldBy lease))

def earlierPending (tables : Tables) (key : SessionKey) (acceptedAt : Time)
    (inboundId : String) : Bool :=
  tables.inboundMessages.entries.any fun entry =>
    entry.1.1 = key.1 && entry.2.context.sessionId = key.2
      && (decide (entry.2.acceptedAt < acceptedAt)
        || entry.2.acceptedAt = acceptedAt && decide (entry.1.2 < inboundId))
      && !(tables.turnFor key.1 entry.1.2).any fun turn => decide (turn.2.status = .committed)

def eventsOf (tables : Tables) (key : SessionKey) : List SequencedEvent :=
  (tables.sessionEvents.entries.filterMap fun entry => if entry.1.1 = key then
      some { entry.2.toStoredEvent with sequence := entry.1.2 }
    else none).mergeSort fun left right => left.sequence ≤ right.sequence

def acquire (library : Library) (tables : Tables) (acceptance : Acceptance) (workerId : String)
    (leaseFor : Time) (uuids : Nat → String) (clk : Nat → Time) : Outcome (Option SessionLease) :=
  let context := acceptance.context
  let key := context.key
  match library.parseUuid acceptance.inboundId with
  | none => .error (.valueError uuidMessage)
  | some inboundUuid =>
      if (tables.sessionMailboxes.get? key).any fun mailbox =>
          mailbox.acceptedSequence > mailbox.resolvedSequence
            || mailbox.status = .running && laterThan mailbox.leaseExpiresAt (clk 1) then
        .ok (none, tables)
      else
        let (session, tables) := tables.ensureSession key context.appId context.principalId
        let turn := tables.turnFor key.1 inboundUuid
        if turn.any fun entry => decide (entry.2.status = .committed) then .ok (none, tables)
        else if (session.leaseOwner.any fun owner => decide (owner ≠ ""))
            ∧ laterThan session.leaseExpiresAt (clk 2) then
          .ok (none, tables)
        else
          match tables.inboundMessages.get? (key.1, inboundUuid) with
          | none => .error .assertionError
          | some inbound =>
              if tables.earlierPending key inbound.acceptedAt inboundUuid then .ok (none, tables)
              else
                let epoch := session.leaseEpoch + 1
                let attempt := match turn with
                  | some entry => entry.2.attempt + 1
                  | none => 1
                let tables := tables.putSession key { session with
                  leaseEpoch := epoch, leaseOwner := some workerId,
                  leaseExpiresAt := some (clk 3 + leaseFor) }
                match tables.startTurn key turn inboundUuid (uuids 0)
                  context.configVersion epoch attempt with
                | .error error => .error error
                | .ok (turnId, tables) =>
                    let tables := tables.putInbound (key.1, inboundUuid)
                      { inbound with status := .processing }
                    .ok (some
                      { tenantId := key.1, sessionId := key.2, turnId,
                        inboundId := acceptance.inboundId, workerId,
                        fencingToken := epoch, expiresAt := clk 2 + leaseFor,
                        attempt,
                        snapshot :=
                          { tenantId := key.1, appId := session.appId,
                            sessionId := key.2,
                            principalId := session.principalId,
                            version := session.version,
                            nextSequence := session.nextSequence,
                            state := session.state,
                            events := tables.eventsOf key } }, tables)

def renew (tables : Tables) (lease : SessionLease) (leaseFor : Time)
    (clk : Nat → Time) : Outcome SessionLease :=
  match tables.sessions.get? lease.key with
  | none => .error (.fencingConflict sessionConflictMessage)
  | some session =>
      if ownsSession session lease (clk 1) then
        let expiresAt := extendedExpiry session.leaseExpiresAt leaseFor (clk 2)
        .ok ({ lease with expiresAt }, tables.putSession lease.key
          { session with leaseExpiresAt := some expiresAt })
      else .error (.fencingConflict sessionConflictMessage)

/-- The fence of the v1 `commit`: it reads no mailbox column. -/
def commitFence (library : Library) (tables : Tables) (lease : SessionLease)
    (clk : Nat → Time) : Except StorageError (SessionRow × String × TurnRow) :=
  match library.parseUuid lease.turnId with
  | none => .error (.valueError uuidMessage)
  | some turnId =>
      match tables.sessions.get? lease.key, tables.sessionTurns.get? (lease.tenantId, turnId) with
      | some session, some turn =>
          if ownsSession session lease (clk 1) && turn.fencingToken = lease.fencingToken
              && turn.status = .processing then
            .ok (session, turnId, turn)
          else .error (.fencingConflict staleCommitMessage)
      | _, _ => .error (.fencingConflict staleCommitMessage)

def commit (library : Library) (tables : Tables) (commit : TurnCommit)
    (uuids : Nat → String) (clk : Nat → Time) : Outcome CommitResult :=
  let lease := commit.lease
  match commitFence library tables lease clk with
  | .error error => .error error
  | .ok (session, turnId, turn) =>
      match tables.recordTurn commit session turnId (uuids 0)
        leaseChangedMessage (clk 0) (clk 2) with
      | .error error => .error error
      | .ok (sequence, tables) =>
          match library.parseUuid lease.inboundId with
          | none => .error (.valueError uuidMessage)
          | some inboundId =>
              let tables := tables.putTurn (lease.tenantId, turnId)
                { turn with status := .committed }
              let tables : Tables :=
                match tables.inboundMessages.get?
                  (lease.tenantId, inboundId) with
                | some inbound => tables.putInbound (lease.tenantId, inboundId)
                    { inbound with status := .committed }
                | none => tables
              match tables.insertOutbox
                (postTurnRow lease (uuids 1) sequence (clk 0)) with
              | .error error => .error error
              | .ok tables => .ok (commitResult commit session sequence, tables)

def fail (library : Library) (tables : Tables) (lease : SessionLease) : Outcome Unit :=
  match library.parseUuid lease.turnId, library.parseUuid lease.inboundId with
  | some turnId, some inboundId =>
      let tables : Tables :=
        match tables.sessionTurns.get? (lease.tenantId, turnId) with
        | some turn =>
            if turn.fencingToken = lease.fencingToken ∧ turn.status = .processing then
              tables.putTurn (lease.tenantId, turnId) { turn with status := .failed }
            else tables
        | none => tables
      let tables : Tables :=
        match tables.inboundMessages.get? (lease.tenantId, inboundId) with
        | some inbound =>
            if (tables.sessions.get? lease.key).any (heldBy lease) then
              tables.putInbound (lease.tenantId, inboundId) { inbound with status := .accepted }
            else tables
        | none => tables
      .ok ((), tables.clearSession lease.key (heldBy lease))
  | _, _ => .error (.valueError uuidMessage)

/-- The columns of an outbox row that dispatchers claim, publish and retry. -/
structure DispatchColumns where
  attempts : Nat
  availableAt : Time
  claimedBy : Option String
  claimExpiresAt : Option Time
  publishedAt : Option Time

/-- What a dispatcher's transaction may do to these tables: rewrite the
dispatch columns of one row. -/
def rewriteDispatch (tables : Tables) (key : String × String)
    (columns : DispatchColumns) : Outcome Unit :=
  match tables.outboxEvents.get? key with
  | none => .error (.fencingConflict "outbox claim is no longer current")
  | some row =>
      .ok ((), { tables with
        outboxEvents := tables.outboxEvents.set key { row with
          attempts := columns.attempts, availableAt := columns.availableAt,
          claimedBy := columns.claimedBy,
          claimExpiresAt := columns.claimExpiresAt,
          publishedAt := columns.publishedAt } })

end Tables

end TrpcService.Storage.Postgres
