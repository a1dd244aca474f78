import TrpcService.Storage.Memory.Repository

namespace TrpcService.Storage.Memory

open Data

/-! Executing turns: the v2 scheduler claims through the mailbox, v1 acquires
an accepted message, and both keep their lease in one table. -/

namespace Repository

variable (repository : Repository) (key : SessionKey)

def putLease (lease : SessionLease) : Repository :=
  { repository with leases := repository.leases.set key lease }

def popLease : Repository := { repository with leases := repository.leases.erase key }

/-- The stored snapshot, created for the first turn of a session. -/
def ensureSession (context : TenantContext) : SessionSnapshot × Repository :=
  match repository.sessions.get? key with
  | some snapshot => (snapshot, repository)
  | none =>
      let snapshot : SessionSnapshot :=
        { tenantId := key.1, appId := context.appId, sessionId := key.2,
          principalId := context.principalId }
      (snapshot, { repository with
        sessions := repository.sessions.set key snapshot })

/-- A turn goes on when its message is leased again. -/
def turnFor (inboundId : String) (uuid : String) : String :=
  match repository.leases.get? key with
  | some previous => if previous.inboundId = inboundId then previous.turnId else uuid
  | none => uuid

/-- The generation a claim must find: the one of the wake-up it names, if it
names one of this session that also matches the expected generation. -/
def expectedReady (expectedGeneration : Option Int) : Option String → Option (Option Int)
  | none => some expectedGeneration
  | some eventId =>
      match repository.mailboxStore.outbox.find? fun record => record.outboxId = eventId with
      | none => none
      | some record =>
          if record.tenantId ≠ key.1 ∨ record.eventType ≠ .sessionReadyV2
              ∨ record.aggregateId ≠ key.2 then none
          else
            match record.payload.generation? with
            | none => none
            | some generation =>
                if generation < 1 ∨ expectedGeneration.any fun expected =>
                    decide ((generation : Int) ≠ expected) then none
                else some (some generation)

def startTurn (ownerId : String) (claim : SessionClaim) (lease : MailboxLease)
    (uuids : Nat → String) (clk : Nat → Time) : Outcome SessionClaim :=
  match repository.acceptancesById.get? lease.inboundId with
  | none =>
      -- The fenced mailbox claim is left for recovery.
      (.ok { claim with status := .empty, lease := none }, repository)
  | some accepted =>
      if (key.1, lease.inboundId) ∈ repository.committedInbound
          ∨ repository.inboundStatus.get? (key.1, lease.inboundId) = some .committed then
        match repository.mailboxStore.commit lease (uuids 0) (clk 0) with
        | (.error error, store) => (.error error, { repository with mailboxStore := store })
        | (.ok mailbox, store) =>
            let repository := { repository with mailboxStore := store }
            (.ok { status := .empty, mailbox,
                   acceptance := some { accepted with duplicate := true } },
              repository.popLease key)
      else
        let (snapshot, repository) := repository.ensureSession key accepted.context
        let turnId := repository.turnFor key lease.inboundId (uuids 0)
        let execution : SessionLease :=
          { tenantId := key.1, sessionId := key.2, turnId,
            inboundId := lease.inboundId, workerId := ownerId,
            fencingToken := lease.epoch, expiresAt := lease.expiresAt,
            attempt := lease.attempt, snapshot }
        let repository := repository.putLease key execution
        (.ok { claim with
               acceptance := some accepted, executionLease := some execution },
          { repository with
            v2TurnStatus :=
              repository.v2TurnStatus.set (key.1, turnId) .processing,
            inboundStatus := repository.inboundStatus.set
              (key.1, lease.inboundId) .processing })

def claimSessionReady (ownerId : String) (leaseFor : Time) (expectedGeneration : Option Int)
    (expectedEventId : Option String) (acceptance : Option Acceptance) (uuids : Nat → String)
    (clk : Nat → Time) : Outcome SessionClaim :=
  let before := (repository.mailboxStore.mailboxes.get? key).getD (.fresh key (clk 0))
  match repository.expectedReady key expectedGeneration expectedEventId with
  | none => (.ok { status := .stale, mailbox := before, acceptance }, repository)
  | some expectedGeneration =>
      -- One table holds both schedulers' leases, so it is checked first.
      if isLive (repository.leases.get? key) (clk 1) then
        (.ok { status := .running, mailbox := before, acceptance }, repository)
      else
        match repository.claimMailbox key ownerId leaseFor expectedGeneration
          none acceptance (fun _ => clk 2) with
        | (.error error, repository) => (.error error, repository)
        | (.ok claim, repository) =>
            match claim.lease with
            | none => (.ok claim, repository)
            | some lease =>
                if claim.isClaimed then repository.startTurn key ownerId claim lease uuids
                    fun index => clk (index + 3)
                else (.ok claim, repository)

def renewSessionReady (lease : SessionLease)
    (leaseFor : Time) (clk : Nat → Time) : Outcome SessionLease :=
  let conflict : StorageError := .fencingConflict mailboxLeaseConflictMessage
  match repository.leases.get? lease.key with
  | none => (.error conflict, repository)
  | some current =>
      if owns (some current) lease then
        match repository.mailboxStore.mailboxes.get? lease.key with
        | none => (.error conflict, repository)
        | some mailbox =>
            match mailbox.processingSequence with
            | none => (.error conflict, repository)
            | some sequence =>
                match repository.renewMailbox
                  { tenantId := lease.tenantId, sessionId := lease.sessionId,
                    inboundId := lease.inboundId, sequence,
                    ownerId := lease.workerId, epoch := lease.fencingToken,
                    expiresAt := mailbox.leaseExpiresAt.getD lease.expiresAt,
                    attempt := lease.attempt, retryCount := mailbox.retryCount,
                    priority := mailbox.priority } leaseFor clk with
                | (.error error, repository) => (.error error, repository)
                | (.ok renewed, repository) =>
                    let updated := { current with expiresAt := renewed.expiresAt }
                    (.ok updated, repository.putLease lease.key updated)
      else (.error conflict, repository)

def recordCommit (commit : TurnCommit) (snapshot : SessionSnapshot) : Repository :=
  let lease := commit.lease
  let repository := { repository with
    sessions :=
      repository.sessions.set lease.key (commitSnapshot snapshot commit),
    committedInbound := insert (lease.tenantId, lease.inboundId)
      repository.committedInbound }
  repository.popLease lease.key

def putOutbound (commit : TurnCommit) (uuid : String) : Repository :=
  match commit.outbound with
  | none => repository
  | some envelope => repository.putOutbox (outboundRecord commit envelope uuid)

def commitSessionReady (commit : TurnCommit)
    (uuids : Nat → String) (clk : Nat → Time) : Outcome CommitResult :=
  let lease := commit.lease
  let stale : StorageError := .fencingConflict staleCommitMessage
  if owns (repository.leases.get? lease.key) lease then
    match repository.mailboxStore.mailboxes.get? lease.key with
    | none => (.error stale, repository)
    | some mailbox =>
        if mailbox.processingInboundId ≠ some lease.inboundId then (.error stale, repository)
        else
          match mailboxLease mailbox lease with
          | .error error => (.error error, repository)
          | .ok held =>
              match repository.sessions.get? lease.key with
              | none => (.error (.keyError "session"), repository)
              | some snapshot =>
                  let size := repository.mailboxStore.outbox.length
                  match repository.commitMailbox held
                    (fun index => uuids (index + 1)) clk with
                  | (.error error, repository) =>
                      -- The mailbox is put back as it was read.
                      let store := repository.mailboxStore.putMailbox lease.key mailbox
                      (.error error, { repository with
                        mailboxStore :=
                          { store with outbox := store.outbox.take size } })
                  | (.ok _, repository) =>
                      let repository := repository.putOutbound commit (uuids 0)
                      let repository := repository.recordCommit commit snapshot
                      (.ok (commitResult snapshot commit), { repository with
                        inboundStatus := repository.inboundStatus.set
                          (lease.tenantId, lease.inboundId) .committed,
                        v2TurnStatus := repository.v2TurnStatus.set
                          (lease.tenantId, lease.turnId) .committed })
  else (.error stale, repository)

variable (lease : SessionLease)

def endTurn (status : InboundStatus) : Repository :=
  let repository := { repository with
    v2TurnStatus :=
      repository.v2TurnStatus.set (lease.tenantId, lease.turnId) .failed,
    inboundStatus :=
      repository.inboundStatus.set (lease.tenantId, lease.inboundId) status }
  repository.popLease lease.key

def retrySessionReady (delay : Time) (uuids : Nat → String) (clk : Nat → Time) : Outcome Unit :=
  if delay < 0 then (.error (.valueError retryDelayMessage), repository)
  else if owns (repository.leases.get? lease.key) lease then
    match repository.mailboxStore.mailboxes.get? lease.key with
    | none => (.error (.fencingConflict mailboxLeaseConflictMessage), repository)
    | some mailbox =>
        match mailboxLease mailbox lease with
        | .error error => (.error error, repository)
        | .ok held =>
            match repository.withMailbox
              (repository.mailboxStore.retryWithoutWakeup held
                (some (clk 0 + delay)) (uuids 0) (clk 1)) with
            | (.error error, repository) => (.error error, repository)
            | (.ok _, repository) => (.ok (), repository.endTurn lease .accepted)
  else (.error (.fencingConflict staleRetryMessage), repository)

def failSessionReady (uuids : Nat → String) (clk : Nat → Time) : Outcome Unit :=
  if owns (repository.leases.get? lease.key) lease then
    match repository.mailboxStore.mailboxes.get? lease.key with
    | none => (.error (.fencingConflict mailboxLeaseConflictMessage), repository)
    | some mailbox =>
        match mailboxLease mailbox lease with
        | .error error => (.error error, repository)
        | .ok held =>
            match repository.commitMailbox held uuids clk with
            | (.error error, repository) => (.error error, repository)
            | (.ok _, repository) => (.ok (), repository.endTurn lease .failed)
  else (.error (.fencingConflict staleFailMessage), repository)

def earlierPending (key : SessionKey) (order : Nat) : Bool :=
  repository.acceptancesById.values.any fun item => item.context.key = key
      && ((repository.acceptanceSequence.get? item.inboundId).any
        fun earlier => decide (earlier < order))
      && decide ((item.context.tenantId, item.inboundId) ∉ repository.committedInbound)

def acquire (acceptance : Acceptance) (workerId : String) (leaseFor : Time) (uuids : Nat → String)
    (clk : Nat → Time) : Outcome (Option SessionLease) :=
  let context := acceptance.context
  let key := context.key
  let mailbox := repository.mailboxStore.mailboxes.get? key
  if (context.tenantId, acceptance.inboundId) ∈ repository.committedInbound then
    (.ok none, repository)
  else if mailbox.any fun mailbox =>
      decide (mailbox.resolvedSequence < mailbox.acceptedSequence) then
    (.ok none, repository)
  else if mailbox.any fun mailbox =>
      mailbox.status = .running && laterThan mailbox.leaseExpiresAt (clk 0) then
    (.ok none, repository)
  else
    match repository.acceptanceSequence.get? acceptance.inboundId with
    | none => (.error (.keyError acceptance.inboundId), repository)
    | some order =>
        if repository.earlierPending key order then (.ok none, repository)
        else
          let current := repository.leases.get? key
          if isLive current (clk 1) then (.ok none, repository)
          else
            let (snapshot, repository) := repository.ensureSession key context
            let again := current.filter fun current =>
              decide (current.inboundId = acceptance.inboundId)
            let lease : SessionLease :=
              { tenantId := context.tenantId, sessionId := context.sessionId,
                turnId := repository.turnFor key acceptance.inboundId (uuids 0),
                inboundId := acceptance.inboundId, workerId,
                fencingToken := (current.map SessionLease.fencingToken).getD 0 + 1,
                expiresAt := clk 1 + leaseFor,
                attempt := (again.map SessionLease.attempt).getD 0 + 1,
                snapshot }
            (.ok (some lease), repository.putLease key lease)

def renew (lease : SessionLease) (leaseFor : Time) (clk : Nat → Time) : Outcome SessionLease :=
  let conflict : StorageError := .fencingConflict sessionConflictMessage
  match repository.leases.get? lease.key with
  | none => (.error conflict, repository)
  | some current =>
      if owns (some current) lease ∧ clk 0 < current.expiresAt then
        let renewed := { current with
          expiresAt := max (clk 0 + leaseFor) (current.expiresAt + 1) }
        (.ok renewed, repository.putLease lease.key renewed)
      else (.error conflict, repository)

def commit (repository : Repository) (commit : TurnCommit)
    (uuids : Nat → String) (clk : Nat → Time) : Outcome CommitResult :=
  let lease := commit.lease
  let current := repository.leases.get? lease.key
  if owns current lease ∧ isLive current (clk 0) then
    match repository.sessions.get? lease.key with
    | none => (.error (.keyError "session"), repository)
    | some snapshot =>
        (.ok (commitResult snapshot commit),
          (repository.putOutbound commit (uuids 0)).recordCommit commit snapshot)
  else (.error (.fencingConflict staleCommitMessage), repository)

def fail (repository : Repository) (lease : SessionLease) : Outcome Unit :=
  if owns (repository.leases.get? lease.key) lease then (.ok (), repository.popLease lease.key)
  else (.ok (), repository)

end Repository

end TrpcService.Storage.Memory
