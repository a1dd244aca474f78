import TrpcService.Storage.Models

namespace TrpcService.Storage

open Data

/-! The in-memory session mailbox store.  A transition receives the instant it
reads from the clock and the identifier `uuid4` would give a new record; it
returns its answer with the store it leaves behind, also when it raises. -/

def reconcileReadyGrace : Time := seconds 5

def leaseForMessage : String := "mailbox lease must be positive"
def priorityMessage : String := "mailbox priority must be non-negative"
def identifiersMessage : String := "mailbox identifiers must be non-empty"
def leaseConflictMessage : String := "mailbox lease is no longer current"
def sequenceConflictMessage : String := "mailbox sequence is no longer current"
def limitMessage : String := "recovery limit must be positive"

/-- The argument of a call that sets a priority: to Python a `bool` is an `int`
too. -/
inductive Priority where
  | int (value : Int)
  | bool (value : Bool)
  deriving DecidableEq, Repr

namespace Priority

instance {value : Nat} : OfNat Priority value := ⟨.int value⟩

def value : Priority → Int
  | .int value => value
  | .bool value => value.toInt

/-- What `_validate_priority` raises for. -/
def refused : Priority → Bool
  | .int value => value < 0
  | .bool _ => true

theorem not_refused_iff {priority : Priority} :
    ¬ priority.refused ↔ ∃ value, priority = .int value ∧ 0 ≤ value := by
  cases priority with
  | int value => simp [refused]
  | bool value => simp [refused]

end Priority

/-- `instant is not None and instant > now`. -/
def laterThan (instant : Option Time) (now : Time) : Bool :=
  instant.any fun value => decide (now < value)

structure MailboxStore where
  mailboxes : Dict SessionKey SessionMailbox
  items : Dict SessionKey (Dict Nat MailboxItem)
  outbox : List OutboxRecord
  deriving DecidableEq

/-- `SessionMailbox(tenant_id=..., session_id=..., updated_at=now)`. -/
def SessionMailbox.fresh (key : SessionKey) (now : Time) : SessionMailbox where
  tenantId := key.1
  sessionId := key.2
  updatedAt := now

/-- The sequence a mailbox works on: the one in flight, else the head. -/
def SessionMailbox.activeSequence (mailbox : SessionMailbox) : Nat :=
  match mailbox.processingSequence with
  | some (previous + 1) => previous + 1
  | _ => mailbox.resolvedSequence + 1

def owns (mailbox : Option SessionMailbox) (lease : MailboxLease) (now : Time) : Bool :=
  match mailbox with
  | none => false
  | some mailbox =>
      mailbox.status = .running && mailbox.processingSequence = some lease.sequence
        && mailbox.processingInboundId = some lease.inboundId
        && mailbox.leaseOwner = some lease.ownerId
        && mailbox.leaseEpoch = lease.epoch
        && laterThan mailbox.leaseExpiresAt now

def readyStatus (mailbox : SessionMailbox) (resolvedSequence : Nat) (now : Time) : MailboxStatus :=
  if resolvedSequence ≥ mailbox.acceptedSequence then .idle
  else if laterThan mailbox.retryAt now then .retryWait
  else .queued

namespace MailboxStore

def initial : MailboxStore := ⟨.empty, .empty, []⟩

variable (store : MailboxStore)

def itemsOf (key : SessionKey) : Dict Nat MailboxItem := (store.items.get? key).getD .empty

def putMailbox (key : SessionKey) (mailbox : SessionMailbox) : MailboxStore :=
  { store with mailboxes := store.mailboxes.set key mailbox }

def putItem (key : SessionKey) (sequence : Nat) (item : MailboxItem) : MailboxStore :=
  { store with
    items := store.items.set key ((store.itemsOf key).set sequence item) }

def readyRecord (mailbox : SessionMailbox) (item : MailboxItem) (now : Time)
    (generation : Nat) (uuid : String) : OutboxRecord where
  outboxId := uuid
  tenantId := mailbox.tenantId
  eventType := .sessionReadyV2
  aggregateId := mailbox.sessionId
  payload := .sessionReady generation item.priority
    (if item.traceId = "" then item.inboundId else item.traceId) now

def appendReady (store : MailboxStore) (mailbox : SessionMailbox) (item : MailboxItem) (now : Time)
    (generation : Nat) (uuid : String) : MailboxStore :=
  { store with
    outbox := store.outbox ++ [readyRecord mailbox item now generation uuid] }

def emitReady (store : MailboxStore) (mailbox : SessionMailbox) (item : MailboxItem) (now : Time)
    (uuid : String) : SessionMailbox × MailboxStore :=
  let generation := mailbox.queueGeneration + 1
  let updated := { mailbox with queueGeneration := generation }
  (updated, store.appendReady updated item now generation uuid)

/-- A ready record of one session, as `_requeue_ready` selects it. -/
def isReadyFor (key : SessionKey) (record : OutboxRecord) : Bool :=
  record.eventType = .sessionReadyV2 && record.tenantId = key.1 && record.aggregateId = key.2

def requeueReady (store : MailboxStore) (mailbox : SessionMailbox) (item : MailboxItem) (now : Time)
    (uuid : String) : SessionMailbox × MailboxStore :=
  let generation := max 1 mailbox.queueGeneration
  let updated := { mailbox with queueGeneration := generation }
  let hasRecord := store.outbox.any fun record =>
    isReadyFor (mailbox.tenantId, mailbox.sessionId) record
      && record.payload.generation? = some generation
  if hasRecord then (updated, store)
  else (updated, store.appendReady updated item now generation uuid)

def ensureMailbox (store : MailboxStore) (key : SessionKey) (now : Time) :
    SessionMailbox × MailboxStore :=
  match store.mailboxes.get? key with
  | some mailbox => (mailbox, store)
  | none => (.fresh key now, store.putMailbox key (.fresh key now))

def acceptStatus (mailbox : SessionMailbox) (retryAt : Option Time)
    (now : Time) : MailboxStatus × Option Time :=
  match mailbox.status with
  | .retryWait =>
      -- A due head is woken now; the new item's own retry time waits for it.
      if laterThan mailbox.retryAt now then (.retryWait, mailbox.retryAt)
      else (.queued, none)
  | .idle => if laterThan retryAt now then (.retryWait, retryAt) else (.queued, none)
  | .queued => (.queued, mailbox.retryAt)
  | .running => (.running, mailbox.retryAt)

variable (store : MailboxStore) (key : SessionKey)

/-- The last half of `accept`: append one item to its mailbox. -/
def appendItem (mailbox : SessionMailbox) (item : MailboxItem) (uuid : String) (now : Time) :
    SessionMailbox × MailboxStore :=
  let store := store.putItem key item.sequence item
  let (status, effectiveRetryAt) := acceptStatus mailbox item.retryAt now
  let updated := { mailbox with
    status, acceptedSequence := item.sequence,
    priority := max mailbox.priority item.priority,
    retryAt := effectiveRetryAt, updatedAt := now }
  if (mailbox.status = .idle ∨ mailbox.status = .retryWait) ∧ status = .queued then
    let (updated, store) := store.emitReady updated item now uuid
    (updated, store.putMailbox key updated)
  else (updated, store.putMailbox key updated)

def accept (inboundId : String) (priority : Priority) (retryAt : Option Time)
    (traceId : Option String) (uuid : String) (now : Time) :
    Except StorageError SessionMailbox × MailboxStore :=
  if key.1 = "" ∨ key.2 = "" ∨ inboundId = "" then (.error (.valueError identifiersMessage), store)
  else if priority.refused then (.error (.valueError priorityMessage), store)
  else if (store.itemsOf key).values.any fun item => decide (item.inboundId = inboundId) then
    let (mailbox, store) := store.ensureMailbox key now
    (.ok mailbox, store)
  else
    let (mailbox, store) := store.ensureMailbox key now
    let sequence := mailbox.acceptedSequence + 1
    let trace := match traceId with
      | some text => if text = "" then inboundId else text
      | none => inboundId
    -- The item model bounds the trace id; the empty mailbox stays behind.
    if trace.length > 512 then (.error (.validationError "trace_id"), store)
    else
      let item : MailboxItem :=
        { tenantId := key.1, sessionId := key.2, inboundId, sequence,
          traceId := trace, priority := priority.value, retryCount := 0,
          attempt := 0, retryAt, acceptedAt := now }
      let (updated, store) := store.appendItem key mailbox item uuid now
      (.ok updated, store)

/-- The last half of `claim`: take the lease on one stored item. -/
def takeLease (mailbox : SessionMailbox) (sequence : Nat) (item : MailboxItem) (ownerId : String)
    (leaseFor : Time) (now : Time) : MailboxLease × MailboxStore :=
  let epoch := mailbox.leaseEpoch + 1
  let expiresAt := now + leaseFor
  let attempt := item.attempt + 1
  let store := store.putItem key sequence { item with attempt }
  let store := store.putMailbox key { mailbox with
    status := .running, processingSequence := some sequence,
    processingInboundId := some item.inboundId, leaseOwner := some ownerId,
    leaseEpoch := epoch, leaseExpiresAt := some expiresAt, attempt,
    retryCount := item.retryCount, priority := item.priority,
    retryAt := item.retryAt, updatedAt := now }
  ({ tenantId := key.1, sessionId := key.2, inboundId := item.inboundId,
     sequence, ownerId, epoch, expiresAt, attempt,
     retryCount := item.retryCount, priority := item.priority }, store)

def claim (ownerId : String) (leaseFor : Time) (now : Time) :
    Except StorageError (Option MailboxLease) × MailboxStore :=
  if key.1 = "" ∨ key.2 = "" ∨ ownerId = "" then (.error (.valueError identifiersMessage), store)
  else if leaseFor ≤ 0 then (.error (.valueError leaseForMessage), store)
  else
    match store.mailboxes.get? key with
    | none => (.ok none, store)
    | some mailbox =>
        if laterThan mailbox.leaseExpiresAt now then (.ok none, store)
        else
          match mailbox.processingSequence with
          | some sequence =>
              -- An expired lease is taken over with its sequence in flight.
              match (store.itemsOf key).get? sequence with
              | none => (.ok none, store)
              | some item =>
                  let (lease, store) := store.takeLease key mailbox sequence
                    item ownerId leaseFor now
                  (.ok (some lease), store)
          | none =>
              if mailbox.resolvedSequence ≥ mailbox.acceptedSequence then
                (.ok none, store.putMailbox key { mailbox with status := .idle, updatedAt := now })
              else
                let sequence := mailbox.resolvedSequence + 1
                match (store.itemsOf key).get? sequence with
                | none => (.ok none, store)
                | some item =>
                    if laterThan item.retryAt now then
                      (.ok none, store.putMailbox key { mailbox with
                        status := .retryWait, retryAt := item.retryAt,
                        updatedAt := now })
                    else
                      let (lease, store) := store.takeLease key mailbox
                        sequence item ownerId leaseFor now
                      (.ok (some lease), store)

def claimSession (ownerId : String) (leaseFor : Time)
    (expectedGeneration expectedEpoch : Option Int) (acceptance : Option Acceptance) (now : Time) :
    Except StorageError SessionClaim × MailboxStore :=
  let expected := expectedGeneration.or expectedEpoch
  let before := (store.mailboxes.get? key).getD (.fresh key now)
  if expected.any fun generation => decide ((before.queueGeneration : Int) ≠ generation) then
    (.ok { status := .stale, mailbox := before, acceptance }, store)
  else
    match store.claim key ownerId leaseFor now with
    | (.error error, store) => (.error error, store)
    | (.ok lease, store) =>
        let mailbox := (store.mailboxes.get? key).getD before
        match lease with
        | some lease =>
            (.ok { status := .claimed, mailbox, lease := some lease,
                   acceptance }, store)
        | none =>
            if laterThan mailbox.leaseExpiresAt now then
              (.ok { status := .running, mailbox, acceptance }, store)
            else if expected.any fun generation =>
                decide ((mailbox.queueGeneration : Int) ≠ generation) then
              (.ok { status := .stale, mailbox, acceptance }, store)
            else (.ok { status := .empty, mailbox, acceptance }, store)

variable (lease : MailboxLease)

def renew (leaseFor : Time) (now : Time) : Except StorageError MailboxLease × MailboxStore :=
  if leaseFor ≤ 0 then (.error (.valueError leaseForMessage), store)
  else
    match store.mailboxes.get? lease.key with
    | none => (.error (.fencingConflict leaseConflictMessage), store)
    | some mailbox =>
        if owns (some mailbox) lease now then
          let expiresAt := max (now + leaseFor) (mailbox.leaseExpiresAt.getD now + 1)
          (.ok { lease with expiresAt }, store.putMailbox lease.key
            { mailbox with leaseExpiresAt := some expiresAt, updatedAt := now })
        else (.error (.fencingConflict leaseConflictMessage), store)

def commit (uuid : String) (now : Time) : Except StorageError SessionMailbox × MailboxStore :=
  match store.mailboxes.get? lease.key with
  | none => (.error (.fencingConflict leaseConflictMessage), store)
  | some mailbox =>
      if owns (some mailbox) lease now then if mailbox.processingSequence ≠ some lease.sequence then
          (.error (.fencingConflict sequenceConflictMessage), store)
        else
          let resolved := { mailbox with
            resolvedSequence := lease.sequence, processingSequence := none,
            processingInboundId := none, leaseOwner := none,
            leaseExpiresAt := none,
            status := readyStatus mailbox lease.sequence now,
            retryAt := none, updatedAt := now }
          match (store.itemsOf lease.key).get? (lease.sequence + 1) with
          | none => (.ok resolved, store.putMailbox lease.key resolved)
          | some nextItem =>
              if laterThan nextItem.retryAt now then
                let resolved := { resolved with
                  status := .retryWait, retryAt := nextItem.retryAt }
                (.ok resolved, store.putMailbox lease.key resolved)
              else
                let (resolved, store) := store.emitReady
                  { resolved with status := .queued } nextItem now uuid
                (.ok resolved, store.putMailbox lease.key resolved)
      else (.error (.fencingConflict leaseConflictMessage), store)

variable (retryAt : Option Time) (priority : Option Priority)

def release (incrementRetry : Bool) (emitReady : Bool) (uuid : String) (now : Time) :
    Except StorageError SessionMailbox × MailboxStore :=
  if priority.any Priority.refused then (.error (.valueError priorityMessage), store)
  else
    match store.mailboxes.get? lease.key with
    | none => (.error (.fencingConflict leaseConflictMessage), store)
    | some mailbox =>
        if owns (some mailbox) lease now then
          if mailbox.processingSequence ≠ some lease.sequence then
            (.error (.fencingConflict sequenceConflictMessage), store)
          else
            match (store.itemsOf lease.key).get? lease.sequence with
            | none => (.error (.keyError "sequence"), store)
            | some item =>
                let retries := item.retryCount + if incrementRetry then 1 else 0
                let updatedItem := { item with
                  retryCount := retries, retryAt,
                  priority := (priority.map Priority.value).getD item.priority }
                let store := store.putItem lease.key lease.sequence updatedItem
                let status := if emitReady then readyStatus { mailbox with retryAt }
                      mailbox.resolvedSequence now
                  else .retryWait
                let updated := { mailbox with
                  status, processingSequence := none,
                  processingInboundId := none, leaseOwner := none,
                  leaseExpiresAt := none, retryCount := retries,
                  attempt := item.attempt, priority := updatedItem.priority,
                  retryAt, updatedAt := now }
                if status = .queued ∧ emitReady then
                  let (updated, store) := store.emitReady updated updatedItem now uuid
                  (.ok updated, store.putMailbox lease.key updated)
                else (.ok updated, store.putMailbox lease.key updated)
        else (.error (.fencingConflict leaseConflictMessage), store)

def reschedule (uuid : String) (now : Time) : Except StorageError SessionMailbox × MailboxStore :=
  store.release lease retryAt priority false true uuid now

def retry (uuid : String) (now : Time) : Except StorageError SessionMailbox × MailboxStore :=
  store.release lease retryAt priority true true uuid now

def retryWithoutWakeup (uuid : String) (now : Time) :
    Except StorageError SessionMailbox × MailboxStore :=
  store.release lease retryAt none true false uuid now

def headStatus (mailbox : SessionMailbox) (item : Option MailboxItem)
    (now : Time) : MailboxStatus × Option Time :=
  match item with
  | none => (.idle, none)
  | some item =>
      if mailbox.activeSequence > mailbox.acceptedSequence then (.idle, none)
      else if laterThan item.retryAt now then (.retryWait, item.retryAt)
      else (.queued, none)

def recover (store : MailboxStore) (key : SessionKey) (uuid : String)
    (now : Time) : Option SessionMailbox × MailboxStore :=
  match store.mailboxes.get? key with
  | none => (none, store)
  | some mailbox =>
      match mailbox.leaseExpiresAt with
      | none => (none, store)
      | some expiresAt =>
          if expiresAt > now then (none, store)
          else
            let item := (store.itemsOf key).get? mailbox.activeSequence
            let (status, retryAt) := headStatus mailbox item now
            let updated := { mailbox with
              status, processingSequence := none, processingInboundId := none,
              leaseOwner := none, leaseExpiresAt := none, retryAt,
              updatedAt := now }
            match status, item with
            | .queued, some item =>
                let (updated, store) := store.emitReady updated item now uuid
                (some updated, store.putMailbox key updated)
            | _, _ => (some updated, store.putMailbox key updated)

def leaseActive (mailbox : SessionMailbox) (now : Time) : Bool :=
  mailbox.processingSequence.isSome && mailbox.processingInboundId.isSome
    && mailbox.leaseOwner.isSome && laterThan mailbox.leaseExpiresAt now

def reconcile (store : MailboxStore) (key : SessionKey) (uuid : String)
    (now : Time) : Option SessionMailbox × MailboxStore :=
  match store.mailboxes.get? key with
  | none => (none, store)
  | some mailbox =>
      if leaseActive mailbox now then
        let updated := { mailbox with status := .running, updatedAt := now }
        (some updated, store.putMailbox key updated)
      else
        let item := (store.itemsOf key).get? mailbox.activeSequence
        let (status, retryAt) := headStatus mailbox item now
        let updated := { mailbox with
          status, processingSequence := none, processingInboundId := none,
          leaseOwner := none, leaseExpiresAt := none, retryAt,
          updatedAt := now }
        match status, item with
        | .queued, some item =>
            if mailbox.status = .queued ∧ now - mailbox.updatedAt < reconcileReadyGrace then
              (some mailbox, store)
            else if mailbox.status = .queued ∧ mailbox.queueGeneration ≥ 1 then
              -- The same queued generation is replayed, never renumbered.
              let (updated, store) := store.requeueReady updated item now uuid
              (some updated, store.putMailbox key updated)
            else
              let (updated, store) := store.emitReady updated item now uuid
              (some updated, store.putMailbox key updated)
        | _, _ => (some updated, store.putMailbox key updated)

end MailboxStore

end TrpcService.Storage
