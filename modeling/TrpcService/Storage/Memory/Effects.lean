import TrpcService.Storage.Memory.Runs

namespace TrpcService.Storage.Memory

open Data MailboxStore.Evolves MailboxStore Repository

/-! What a call of the repository can do: to the turns of its sessions, said
by an `Act`, and to the mailboxes, said by the transitions of their store. -/

/-- The part of the repository that executing turns depends on. -/
structure SameTurns (before after : Repository) : Prop where
  acceptancesById : after.acceptancesById = before.acceptancesById
  sessions : after.sessions = before.sessions
  leases : after.leases = before.leases
  committedInbound : after.committedInbound = before.committedInbound

/-- Nothing changes but the records waiting for dispatch. -/
structure Dispatches (before after : Repository) : Prop extends SameTurns before after where
  mailboxStore : after.mailboxStore = before.mailboxStore

namespace SameTurns

variable {first second third : Repository}

theorem refl (repository : Repository) : SameTurns repository repository := ⟨rfl, rfl, rfl, rfl⟩

theorem trans (before : SameTurns first second)
    (after : SameTurns second third) : SameTurns first third :=
  ⟨after.acceptancesById.trans before.acceptancesById, after.sessions.trans before.sessions,
    after.leases.trans before.leases, after.committedInbound.trans before.committedInbound⟩

end SameTurns

variable {α : Type}

namespace Dispatches

variable {first second third : Repository}

theorem refl (repository : Repository) : Dispatches repository repository := ⟨.refl repository, rfl⟩

theorem trans (before : Dispatches first second)
    (after : Dispatches second third) : Dispatches first third :=
  ⟨before.toSameTurns.trans after.toSameTurns, after.mailboxStore.trans before.mailboxStore⟩

theorem foldl {step : Repository → α → Repository}
    (each : ∀ repository value, Dispatches repository (step repository value)) (values : List α)
    (repository : Repository) : Dispatches repository (values.foldl step repository) := by
  induction values generalizing repository with
  | nil => exact .refl repository
  | cons value rest induction => exact (each repository value).trans (induction _)

end Dispatches

section Dispatch

variable (repository : Repository)

theorem dispatches_putOutbox (record : OutboxRecord) :
    Dispatches repository (repository.putOutbox record) :=
  ⟨⟨rfl, rfl, rfl, rfl⟩, rfl⟩

theorem dispatches_rearmMailboxOutbox (mailbox : SessionMailbox) :
    Dispatches repository (repository.rearmMailboxOutbox mailbox) := by
  unfold rearmMailboxOutbox
  split
  · exact .refl repository
  · split
    · exact .refl repository
    · exact ⟨⟨rfl, rfl, rfl, rfl⟩, rfl⟩

theorem dispatches_claimRecords (eventType : EventType) (ownerId : String)
    (limit : Int) (leaseFor now : Time) (records claimed : List OutboxRecord) :
    Dispatches repository (claimRecords eventType ownerId limit
      leaseFor now records claimed repository).2 := by
  induction records generalizing claimed repository with
  | nil => exact .refl repository
  | cons record rest induction =>
    unfold claimRecords
    split
    · exact induction repository claimed
    · dsimp only
      split
      · exact ⟨⟨rfl, rfl, rfl, rfl⟩, rfl⟩
      · refine Dispatches.trans ?_ (induction _ _)
        exact ⟨⟨rfl, rfl, rfl, rfl⟩, rfl⟩

theorem dispatches_markOutboxPublished (outboxId ownerId : String) :
    Dispatches repository (repository.markOutboxPublished outboxId ownerId).2 := by
  unfold markOutboxPublished
  split
  · exact ⟨⟨rfl, rfl, rfl, rfl⟩, rfl⟩
  · exact .refl repository

theorem dispatches_releaseOutbox (outboxId ownerId : String) (delay : Time) (clk : Nat → Time) :
    Dispatches repository (repository.releaseOutbox outboxId ownerId delay clk).2 := by
  unfold releaseOutbox
  split
  · exact ⟨⟨rfl, rfl, rfl, rfl⟩, rfl⟩
  · exact .refl repository

variable (record : OutboxRecord)

theorem dispatches_deadLetterOutbox (ownerId reason : String) :
    Dispatches repository (repository.deadLetterOutbox record ownerId reason).2 := by
  unfold deadLetterOutbox
  split
  · exact ⟨⟨rfl, rfl, rfl, rfl⟩, rfl⟩
  · exact .refl repository

theorem dispatches_beginDelivery (ownerId : String) :
    Dispatches repository (repository.beginDelivery record ownerId).2 := by
  fun_cases beginDelivery repository record ownerId
  all_goals exact ⟨⟨rfl, rfl, rfl, rfl⟩, rfl⟩

theorem dispatches_finishDelivery (ownerId : String) (attemptNumber : Nat)
    (receipt : DeliveryReceipt) (retryDelay : Time) (clk : Nat → Time) :
    Dispatches repository (repository.finishDelivery record ownerId
      attemptNumber receipt retryDelay clk).2 := by
  fun_cases finishDelivery repository record ownerId attemptNumber receipt retryDelay clk
  all_goals exact ⟨⟨rfl, rfl, rfl, rfl⟩, rfl⟩

end Dispatch

inductive Deed where
  | quiet
  | grant (lease : SessionLease)
  | extend (lease : SessionLease)
  | commit (commit : TurnCommit)

def Deed.ofGrant : Option SessionLease → Deed
  | some lease => .grant lease
  | none => .quiet

def Deed.ofRenewal : Except StorageError SessionLease → Deed
  | .ok lease => .extend lease
  | .error _ => .quiet

def Deed.ofCommit {α : Type} (commit : TurnCommit) : Except StorageError α → Deed
  | .ok _ => .commit commit
  | .error _ => .quiet

/-- A lease is granted for a message that was accepted for the session, or
that stands in its mailbox. -/
def Originates (repository : Repository) (key : SessionKey) (inboundId : String) : Prop :=
  ∃ accepted, repository.acceptancesById.get? inboundId = some accepted ∧
    (accepted.context.key = key ∨ inboundId ∈ (repository.mailboxStore.slot key).inboundIds)

/-- The sessions after the first turn of one of them may have begun. -/
inductive Begins (key : SessionKey) (before after : Repository) : Prop
  | same (sessions : after.sessions = before.sessions)
  | first (snapshot : SessionSnapshot) (absent : before.sessions.get? key = none)
      (version : snapshot.version = 0) (next : snapshot.nextSequence = 1)
      (events : snapshot.events = [])
      (sessions : after.sessions = before.sessions.set key snapshot)

variable (request : Request)

def Request.context? : Option TenantContext :=
  match request.call with
  | .acceptInbound context _ _ => some context
  | .acceptInboundV2 context _ _ _ => some context
  | _ => none

/-- An acceptance that is to be acquired is one that the repository stores. -/
def Request.Presents (repository : Repository) : Prop :=
  match request.call with
  | .acquire acceptance _ _ =>
      (repository.acceptancesById.get? acceptance.inboundId).map
        Acceptance.context = some acceptance.context
  | _ => True

inductive Act (request : Request) (before after : Repository) : Deed → Prop
  | still (same : SameTurns before after) : Act request before after .quiet
  | accept (acceptance : Acceptance) (named : acceptance.inboundId = request.uuids 0)
      (context : request.context? = some acceptance.context)
      (acceptancesById : after.acceptancesById =
        before.acceptancesById.set acceptance.inboundId acceptance)
      (sessions : after.sessions = before.sessions)
      (leases : after.leases = before.leases)
      (committedInbound : after.committedInbound = before.committedInbound) :
      Act request before after .quiet
  | release (key : SessionKey) (acceptancesById : after.acceptancesById = before.acceptancesById)
      (sessions : after.sessions = before.sessions)
      (leases : after.leases = before.leases.erase key)
      (committedInbound : after.committedInbound = before.committedInbound) :
      Act request before after .quiet
  | extend (key : SessionKey) (current : SessionLease) (expiresAt : Time)
      (held : before.leases.get? key = some current)
      (acceptancesById : after.acceptancesById = before.acceptancesById)
      (sessions : after.sessions = before.sessions)
      (leases : after.leases = before.leases.set key { current with expiresAt })
      (committedInbound : after.committedInbound = before.committedInbound) :
      Act request before after (.extend { current with expiresAt })
  | grant (lease : SessionLease) (uncommitted : (lease.tenantId, lease.inboundId) ∉
        before.committedInbound)
      (originates : request.Presents before → Originates before lease.key lease.inboundId)
      (turn : lease.turnId = before.turnFor lease.key lease.inboundId (request.uuids 0))
      (acceptancesById : after.acceptancesById = before.acceptancesById)
      (sessions : Begins lease.key before after)
      (leases : after.leases = before.leases.set lease.key lease)
      (committedInbound : after.committedInbound = before.committedInbound) :
      Act request before after (.grant lease)
  | commit (commit : TurnCommit) (snapshot : SessionSnapshot)
      (owned : owns (before.leases.get? commit.lease.key) commit.lease = true)
      (stored : before.sessions.get? commit.lease.key = some snapshot)
      (acceptancesById : after.acceptancesById = before.acceptancesById)
      (sessions : after.sessions = before.sessions.set commit.lease.key
        (commitSnapshot snapshot commit))
      (leases : after.leases = before.leases.erase commit.lease.key)
      (committedInbound : after.committedInbound =
        insert (commit.lease.tenantId, commit.lease.inboundId) before.committedInbound) :
      Act request before after (.commit commit)

def Request.Arrives (key : SessionKey) (inboundId : String) : Prop :=
  match request.call with
  | .acceptInboundV2 context _ _ _ => key = context.key ∧ inboundId = request.uuids 0
  | .acceptMailbox session accepted _ _ _ => key = session ∧ inboundId = accepted
  | _ => False

def Request.Allows (key : SessionKey) (label : Label) :
    Prop := ∀ inboundId ∈ label.arrivals, request.Arrives key inboundId

structure Effect (request : Request) (clock finish : Time)
    (before after : Repository) (deed : Deed) : Prop where
  act : Act request before after deed
  mailbox : Evolves True request.Allows (clock, before.mailboxStore) (finish, after.mailboxStore)

variable {key : SessionKey}

section Quiet

variable {request : Request} {clock finish : Time} {repository : Repository}

theorem Request.Allows.of_nil {label : Label} (none : label.arrivals = []) :
    request.Allows key label := by
  intro inboundId member
  rw [none] at member
  exact nomatch member

variable {after : Repository}

theorem Effect.dispatches (later : clock ≤ finish) (dispatches : Dispatches repository after) :
    Effect request clock finish repository after .quiet where
  act := .still dispatches.toSameTurns
  mailbox := by
    rw [dispatches.mailboxStore]
    exact wait (fun _ => .of_nil rfl) _ _ later

theorem sameTurns_throughMailbox (answer : Except StorageError α × MailboxStore) :
    SameTurns repository (repository.throughMailbox answer).2 := by
  obtain ⟨_ | _, store⟩ := answer <;> exact ⟨rfl, rfl, rfl, rfl⟩

@[simp] theorem mailboxStore_throughMailbox (answer : Except StorageError α × MailboxStore) :
    (repository.throughMailbox answer).2.mailboxStore = answer.2 := by
  obtain ⟨_ | _, store⟩ := answer <;> rfl

structure Moved (request : Request) (clock finish : Time)
    (before after : Repository) : Prop extends SameTurns before after where
  mailbox : Evolves True request.Allows (clock, before.mailboxStore) (finish, after.mailboxStore)

theorem Moved.effect (moved : Moved request clock finish repository after) :
    Effect request clock finish repository after .quiet :=
  ⟨.still moved.toSameTurns, moved.mailbox⟩

variable {answer : Except StorageError α × MailboxStore}

section Evolves

variable (evolves : Evolves True request.Allows (clock, repository.mailboxStore) (finish, answer.2))

include evolves

theorem Moved.throughMailbox : Moved request clock finish repository
      (repository.throughMailbox answer).2 where
  toSameTurns := sameTurns_throughMailbox answer
  mailbox := by
    rw [mailboxStore_throughMailbox]
    exact evolves

theorem Moved.withMailbox :
    Moved request clock finish repository (repository.withMailbox answer).2 :=
  ⟨⟨rfl, rfl, rfl, rfl⟩, evolves⟩

theorem Effect.throughMailbox :
    Effect request clock finish repository (repository.throughMailbox answer).2 .quiet :=
  (Moved.throughMailbox evolves).effect

theorem Effect.withMailbox :
    Effect request clock finish repository (repository.withMailbox answer).2 .quiet :=
  (Moved.withMailbox evolves).effect

end Evolves

theorem Act.andSame {before middle : Repository} {deed : Deed}
    (act : Act request before middle deed) (same : SameTurns middle after) :
    Act request before after deed := by
  cases act with
  | still first => exact .still (first.trans same)
  | accept acceptance named context byId sessions leases committed =>
    exact .accept acceptance named context (same.acceptancesById.trans byId)
      (same.sessions.trans sessions) (same.leases.trans leases)
      (same.committedInbound.trans committed)
  | release key byId sessions leases committed =>
    exact .release key (same.acceptancesById.trans byId)
      (same.sessions.trans sessions) (same.leases.trans leases)
      (same.committedInbound.trans committed)
  | extend key current expiresAt held byId sessions leases committed =>
    exact .extend key current expiresAt held
      (same.acceptancesById.trans byId) (same.sessions.trans sessions)
      (same.leases.trans leases) (same.committedInbound.trans committed)
  | grant lease uncommitted originates turn byId sessions leases committed =>
    refine .grant lease uncommitted originates turn (same.acceptancesById.trans byId) ?_
      (same.leases.trans leases) (same.committedInbound.trans committed)
    cases sessions with
    | same sessions => exact .same (same.sessions.trans sessions)
    | first snapshot absent version next events sessions =>
      exact .first snapshot absent version next events
        (same.sessions.trans sessions)
  | commit commit snapshot owned stored byId sessions leases committed =>
    exact .commit commit snapshot owned stored
      (same.acceptancesById.trans byId) (same.sessions.trans sessions)
      (same.leases.trans leases) (same.committedInbound.trans committed)

theorem Effect.andDispatches {middle : Repository} {deed : Deed}
    (effect : Effect request clock finish repository middle deed)
    (dispatches : Dispatches middle after) :
    Effect request clock finish repository after deed where
  act := effect.act.andSame dispatches.toSameTurns
  mailbox := by
    rw [dispatches.mailboxStore]
    exact effect.mailbox

end Quiet

section Interface

variable {request : Request} {clock finish : Time} {repository : Repository} {clk : Nat → Time}

variable {now : Time}

theorem evolves_once {store after : MailboxStore} {label : Label} (started : clock ≤ now)
    (ended : now ≤ finish) (allowed : request.Allows key label)
    (transition : Transition True key now store after label) :
    Evolves True request.Allows (clock, store) (finish, after) :=
  (transition.evolves started allowed).trans (wait (fun _ => .of_nil rfl) _ _ ended)

theorem arrivals_arrival (slot : Slot) (inboundId : String)
    (reply : Except StorageError SessionMailbox) :
    ∀ arrived ∈ (arrival slot inboundId reply).arrivals, arrived = inboundId := by
  intro arrived member
  unfold arrival at member
  split at member
  · exact nomatch member
  · split at member
    · exact nomatch member
    · exact List.mem_singleton.mp member

theorem arrivals_resolution (lease : MailboxLease) (reply : Except StorageError SessionMailbox) :
    (resolution lease reply).arrivals = [] := by
  cases reply <;> rfl

section Mailbox

variable (inv : repository.mailboxStore.Inv True clock)

include inv

theorem effect_acceptMailbox {inboundId : String} {priority : Priority} {retryAt : Option Time}
    {traceId : Option String} (started : clock ≤ clk 0) (ended : clk 0 ≤ finish)
    (call : request.call = .acceptMailbox key inboundId priority retryAt traceId) :
    Effect request clock finish repository (repository.acceptMailbox key
      inboundId priority retryAt traceId request.uuids clk).2 .quiet := by
  refine .throughMailbox (evolves_once started ended ?_ (accept_transition (inv key) _ _ _ _ _ _))
  intro arrived member
  unfold Request.Arrives
  rw [call]
  exact ⟨rfl, arrivals_arrival _ _ _ arrived member⟩

variable (started : clock ≤ now) (ended : now ≤ finish)

include started ended

theorem evolves_claimMailbox (key : SessionKey) (ownerId : String) (leaseFor : Time)
    (expectedGeneration expectedEpoch : Option Int) (acceptance : Option Acceptance) :
    Evolves True request.Allows (clock, repository.mailboxStore)
      (finish, (repository.claimMailbox key ownerId leaseFor
        expectedGeneration expectedEpoch acceptance fun _ => now).2.mailboxStore) :=
  evolves_once started ended (.of_nil (by simp))
    (claimSession_transition (inv key) started _ _ _ _ _)

theorem evolves_commitMailbox (lease : MailboxLease) (uuid : String) :
    Evolves True request.Allows (clock, repository.mailboxStore)
      (finish, (repository.mailboxStore.commit lease uuid now).2) :=
  evolves_once started ended (.of_nil (arrivals_resolution lease _))
    (commit_transition (inv lease.key) uuid now)

theorem evolves_release (lease : MailboxLease)
    {retryAt : Option Time} {emitReady : Bool} (scheduled : emitReady = false → retryAt.isSome)
    (priority : Option Priority) (incrementRetry : Bool) (uuid : String) :
    Evolves True request.Allows (clock, repository.mailboxStore)
      (finish, (repository.mailboxStore.release lease retryAt priority
        incrementRetry emitReady uuid now).2) :=
  evolves_once started ended (.of_nil rfl) (release_transition
    (inv lease.key) (fun quiet _ => scheduled quiet) priority incrementRetry
    uuid now)

end Mailbox

theorem evolves_renew (started : clock ≤ clk 0) (ended : clk 0 ≤ finish)
    (lease : MailboxLease) (leaseFor : Time) :
    Evolves True request.Allows (clock, repository.mailboxStore)
      (finish, (repository.mailboxStore.renew lease leaseFor (clk 0)).2) :=
  evolves_once started ended (.of_nil rfl) (renew_transition True _ lease leaseFor _)

theorem evolves_pass {store after : MailboxStore} (inv : store.Inv True clock)
    (started : clock ≤ now) (ended : now ≤ finish)
    (pass : store.Inv True now → Evolves True request.Allows (now, store) (now, after)) :
    Evolves True request.Allows (clock, store) (finish, after) := by
  have silent : ∀ key, request.Allows key .silent := fun _ => .of_nil rfl
  have waited := wait silent True store started
  exact (waited.trans (pass (waited.inv inv))).trans (wait silent _ _ ended)

variable (inv : repository.mailboxStore.Inv True clock) (started : clock ≤ clk 0)

include inv started

variable (ended : clk 0 ≤ finish)

include ended

theorem effect_recoverMailbox (key : SessionKey) (uuids : Nat → String) :
    Effect request clock finish repository (repository.recoverMailbox key uuids clk).2 .quiet :=
  .throughMailbox (evolves_once started ended (.of_nil rfl) (recover_transition (inv key) _ _))

theorem effect_reconcileMailbox (key : SessionKey) (uuids : Nat → String) :
    Effect request clock finish repository
      (repository.reconcileMailbox key uuids clk).2 .quiet := by
  have passed : Effect request clock finish repository (repository.throughMailbox
    (Except.ok (repository.mailboxStore.reconcile key (uuids 0) (clk 0)).1,
    (repository.mailboxStore.reconcile key (uuids 0) (clk 0)).2)).2 .quiet := .throughMailbox
    (evolves_once started ended (.of_nil rfl) (reconcile_transition (inv key) _ _))
  unfold reconcileMailbox
  dsimp only
  split
  · exact passed
  · split
    · exact passed.andDispatches (dispatches_rearmMailboxOutbox _ _)
    · exact passed

theorem effect_reconcileSessions (limit : Int) (uuids : Nat → String) :
    Effect request clock finish repository
      (repository.reconcileSessions limit uuids clk).2 .quiet := by
  have passed : Effect request clock finish repository (repository.throughMailbox
      (repository.mailboxStore.reconcileSessions limit uuids (clk 0))).2 .quiet := .throughMailbox
    (evolves_pass inv started ended (reconcileSessions_evolves (fun _ => .of_nil rfl)
    limit uuids))
  unfold Repository.reconcileSessions
  dsimp only
  split
  case h_1 error after same =>
    rw [same] at passed
    exact passed
  case h_2 count after same =>
    rw [same] at passed
    refine passed.andDispatches (.foldl (fun repository entry => ?_) _ _)
    split
    · exact dispatches_rearmMailboxOutbox repository _
    · exact .refl repository

end Interface

end TrpcService.Storage.Memory
