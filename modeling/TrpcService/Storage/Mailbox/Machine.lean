import TrpcService.Storage.Mailbox.Store

namespace TrpcService.Storage

open Data

/-! One session's mailbox as a machine of its own.  The store's transitions are
moves of this machine, and every invariant is proved from the moves. -/

structure Slot where
  mailbox : SessionMailbox
  items : Dict Nat MailboxItem
  ready : List OutboxRecord

def MailboxStore.slot (store : MailboxStore) (key : SessionKey) : Slot where
  mailbox := (store.mailboxes.get? key).getD (.fresh key 0)
  items := store.itemsOf key
  ready := store.outbox.filter (MailboxStore.isReadyFor key)

def MailboxItem.DueAt (item : MailboxItem) (now : Time) : Prop := laterThan item.retryAt now = false

theorem laterThan_mono {instant : Option Time} {early late : Time} (ordered : early ≤ late)
    (past : laterThan instant early = false) : laterThan instant late = false := by
  cases instant with
  | none => rfl
  | some value =>
    simp only [laterThan, Option.any_some, decide_eq_false_iff_not] at past ⊢
    exact fun later => past (Int.lt_of_le_of_lt ordered later)

theorem laterThan_isSome {instant : Option Time} {now : Time}
    (later : laterThan instant now = true) : instant.isSome := by
  cases instant with
  | none => simp [laterThan] at later
  | some value => rfl

theorem MailboxItem.DueAt.mono {item : MailboxItem} {early late : Time}
    (due : item.DueAt early) (ordered : early ≤ late) : item.DueAt late :=
  laterThan_mono ordered due

structure SessionMailbox.Unleased (mailbox : SessionMailbox) : Prop where
  sequence : mailbox.processingSequence = none
  inbound : mailbox.processingInboundId = none
  owner : mailbox.leaseOwner = none
  expiry : mailbox.leaseExpiresAt = none

/-- A mailbox that records exactly this lease, expired or not. -/
structure SessionMailbox.HeldBy (mailbox : SessionMailbox) (lease : MailboxLease) : Prop where
  running : mailbox.status = .running
  sequence : mailbox.processingSequence = some lease.sequence
  inbound : mailbox.processingInboundId = some lease.inboundId
  owner : mailbox.leaseOwner = some lease.ownerId
  epoch : mailbox.leaseEpoch = lease.epoch

theorem owns_some_iff {mailbox : SessionMailbox} {lease : MailboxLease} {now : Time} :
    owns (some mailbox) lease now = true ↔
      mailbox.HeldBy lease ∧ laterThan mailbox.leaseExpiresAt now = true := by
  simp only [owns, Bool.and_eq_true, decide_eq_true_eq]
  constructor
  · rintro ⟨⟨⟨⟨⟨running, sequence⟩, inbound⟩, owner⟩, epoch⟩, live⟩
    exact ⟨⟨running, sequence, inbound, owner, epoch⟩, live⟩
  · rintro ⟨held, live⟩
    exact ⟨⟨⟨⟨⟨held.running, held.sequence⟩, held.inbound⟩, held.owner⟩, held.epoch⟩, live⟩

def Slot.inboundIds (slot : Slot) : List String := slot.items.values.map MailboxItem.inboundId

def Slot.generations (slot : Slot) : List (Option Nat) :=
  slot.ready.map fun record => record.payload.generation?

/-- Item tables that differ at most in the delivery data of one item. -/
inductive Amends (sequence : Nat) (items : Dict Nat MailboxItem) : Dict Nat MailboxItem → Prop
  | same : Amends sequence items items
  | item (old updated : MailboxItem) (present : items.get? sequence = some old)
      (inbound : updated.inboundId = old.inboundId)
      (numbered : updated.sequence = old.sequence) :
      Amends sequence items (items.set sequence updated)

namespace Amends

variable {sequence : Nat} {items amended : Dict Nat MailboxItem}

variable (amends : Amends sequence items amended)

include amends

theorem keys : amended.keys = items.keys := by
  cases amends with
  | same => rfl
  | item old updated present => exact items.keys_set_of_get? updated present

theorem inboundIds :
    amended.values.map MailboxItem.inboundId = items.values.map MailboxItem.inboundId := by
  cases amends with
  | same => rfl
  | item old updated present inbound => exact items.map_values_set_of_get? _ present inbound

theorem origin {position : Nat} {item : MailboxItem} (stored : amended.get? position = some item) :
    ∃ old, items.get? position = some old ∧ item.inboundId = old.inboundId ∧
      item.sequence = old.sequence := by
  cases amends with
  | same => exact ⟨item, stored, rfl, rfl⟩
  | item old updated present inbound numbered =>
    by_cases here : sequence = position
    · subst here
      rw [Dict.get?_set_self] at stored
      cases stored
      exact ⟨old, present, inbound, numbered⟩
    · rw [Dict.get?_set_of_ne _ _ here] at stored
      exact ⟨item, stored, rfl, rfl⟩

end Amends

/-- How a mailbox without a lease announces the head of its queue. -/
inductive Announces (timed : Prop) (now : Time) (before after : Slot) : Prop
  | idle (status : after.mailbox.status = .idle)
      (drained : after.mailbox.acceptedSequence = after.mailbox.resolvedSequence)
      (generation : after.mailbox.queueGeneration = before.mailbox.queueGeneration)
      (ready : after.ready = before.ready)
  | waiting (head : MailboxItem)
      (stored : after.items.get? (after.mailbox.resolvedSequence + 1) = some head)
      (status : after.mailbox.status = .retryWait)
      (retry : after.mailbox.retryAt = head.retryAt)
      (scheduled : timed → head.retryAt.isSome)
      (generation : after.mailbox.queueGeneration = before.mailbox.queueGeneration)
      (ready : after.ready = before.ready)
  | woken (head : MailboxItem) (record : OutboxRecord)
      (stored : after.items.get? (after.mailbox.resolvedSequence + 1) = some head)
      (due : head.DueAt now)
      (status : after.mailbox.status = .queued)
      (generation : after.mailbox.queueGeneration = before.mailbox.queueGeneration + 1)
      (ready : after.ready = before.ready ++ [record])
      (numbered : record.payload.generation? = some after.mailbox.queueGeneration)
  | queued (head : MailboxItem)
      (stored : after.items.get? (after.mailbox.resolvedSequence + 1) = some head)
      (due : head.DueAt now)
      (was : before.mailbox.status = .queued)
      (status : after.mailbox.status = .queued)
      (generation : after.mailbox.queueGeneration = before.mailbox.queueGeneration)
      (ready : after.ready = before.ready)

structure SameSession (before after : SessionMailbox) : Prop where
  tenant : after.tenantId = before.tenantId
  session : after.sessionId = before.sessionId

structure SameLease (before after : SessionMailbox) : Prop where
  sequence : after.processingSequence = before.processingSequence
  inbound : after.processingInboundId = before.processingInboundId
  owner : after.leaseOwner = before.leaseOwner
  expiry : after.leaseExpiresAt = before.leaseExpiresAt
  epoch : after.leaseEpoch = before.leaseEpoch

/-- What a move does that the rest of the system can observe. -/
inductive Label where
  | silent
  | arrive (inboundId : String)
  | grant (epoch : Nat)
  | resolve (inboundId : String)
  deriving DecidableEq

def Label.ofLease : Option MailboxLease → Label
  | some lease => .grant lease.epoch
  | none => .silent

def Label.arrivals : Label → List String
  | .arrive inboundId => [inboundId]
  | _ => []

def Label.resolutions : Label → List String
  | .resolve inboundId => [inboundId]
  | _ => []

@[simp] theorem Label.arrivals_silent : silent.arrivals = [] := rfl

@[simp] theorem Label.arrivals_arrive (inboundId : String) :
    (arrive inboundId).arrivals = [inboundId] := rfl

@[simp] theorem Label.resolutions_silent : silent.resolutions = [] := rfl

@[simp] theorem Label.resolutions_arrive (inboundId : String) :
    (arrive inboundId).resolutions = [] := rfl

@[simp] theorem Label.arrivals_ofLease (lease : Option MailboxLease) :
    (ofLease lease).arrivals = [] := by
  cases lease <;> rfl

@[simp] theorem Label.resolutions_ofLease (lease : Option MailboxLease) :
    (ofLease lease).resolutions = [] := by
  cases lease <;> rfl

inductive Move (timed : Prop) (now : Time) (before after : Slot) : Label → Prop
  | skip (updatedAt : Time) (mailbox : after.mailbox = { before.mailbox with updatedAt })
      (items : after.items = before.items)
      (ready : after.ready = before.ready) :
      Move timed now before after .silent
  /-- A message arrives while the head is queued or running. -/
  | appendBusy (item : MailboxItem) (fresh : item.inboundId ∉ before.inboundIds)
      (numbered : item.sequence = before.mailbox.acceptedSequence + 1)
      (items : after.items = before.items.set item.sequence item)
      (accepted : after.mailbox.acceptedSequence = item.sequence)
      (resolved : after.mailbox.resolvedSequence = before.mailbox.resolvedSequence)
      (session : SameSession before.mailbox after.mailbox)
      (lease : SameLease before.mailbox after.mailbox)
      (busy : before.mailbox.status = .queued ∨ before.mailbox.status = .running)
      (status : after.mailbox.status = before.mailbox.status)
      (generation : after.mailbox.queueGeneration = before.mailbox.queueGeneration)
      (ready : after.ready = before.ready) :
      Move timed now before after (.arrive item.inboundId)
  /-- A message arrives at a mailbox that is empty or waits for a retry. -/
  | appendSettled (item : MailboxItem) (fresh : item.inboundId ∉ before.inboundIds)
      (numbered : item.sequence = before.mailbox.acceptedSequence + 1)
      (items : after.items = before.items.set item.sequence item)
      (accepted : after.mailbox.acceptedSequence = item.sequence)
      (resolved : after.mailbox.resolvedSequence = before.mailbox.resolvedSequence)
      (session : SameSession before.mailbox after.mailbox)
      (epoch : after.mailbox.leaseEpoch = before.mailbox.leaseEpoch)
      (unleased : after.mailbox.Unleased)
      (announces : Announces timed now before after) :
      Move timed now before after (.arrive item.inboundId)
  | lease (sequence : Nat) (item : MailboxItem) (owner : String) (expiry : Time)
      (stored : before.items.get? sequence = some item)
      (head : sequence = before.mailbox.resolvedSequence + 1)
      (due : item.DueAt now)
      (free : laterThan before.mailbox.leaseExpiresAt now = false)
      (unexpired : now < expiry)
      (items : Amends sequence before.items after.items)
      (retry : ∀ current, after.items.get? sequence = some current → current.retryAt = item.retryAt)
      (accepted : after.mailbox.acceptedSequence = before.mailbox.acceptedSequence)
      (resolved : after.mailbox.resolvedSequence = before.mailbox.resolvedSequence)
      (session : SameSession before.mailbox after.mailbox)
      (status : after.mailbox.status = .running)
      (processing : after.mailbox.processingSequence = some sequence)
      (inbound : after.mailbox.processingInboundId = some item.inboundId)
      (owned : after.mailbox.leaseOwner = some owner)
      (expires : after.mailbox.leaseExpiresAt = some expiry)
      (epoch : after.mailbox.leaseEpoch = before.mailbox.leaseEpoch + 1)
      (generation : after.mailbox.queueGeneration = before.mailbox.queueGeneration)
      (ready : after.ready = before.ready) :
      Move timed now before after (.grant after.mailbox.leaseEpoch)
  | extend (expiry updatedAt : Time) (running : before.mailbox.status = .running)
      (live : laterThan before.mailbox.leaseExpiresAt now = true)
      (mailbox : after.mailbox = { before.mailbox with leaseExpiresAt := some expiry, updatedAt })
      (items : after.items = before.items)
      (ready : after.ready = before.ready) :
      Move timed now before after .silent
  /-- The lease ends, or a mailbox without one looks at its head again. -/
  | settle (items : Amends (before.mailbox.resolvedSequence + 1) before.items after.items)
      (accepted : after.mailbox.acceptedSequence = before.mailbox.acceptedSequence)
      (resolved : after.mailbox.resolvedSequence = before.mailbox.resolvedSequence)
      (session : SameSession before.mailbox after.mailbox)
      (epoch : after.mailbox.leaseEpoch = before.mailbox.leaseEpoch)
      (unleased : after.mailbox.Unleased)
      (announces : Announces timed now before after) :
      Move timed now before after .silent
  | resolve (head : MailboxItem) (stored :
        before.items.get? (before.mailbox.resolvedSequence + 1) = some head)
      (items : after.items = before.items)
      (running : before.mailbox.status = .running)
      (accepted : after.mailbox.acceptedSequence = before.mailbox.acceptedSequence)
      (resolved : after.mailbox.resolvedSequence = before.mailbox.resolvedSequence + 1)
      (session : SameSession before.mailbox after.mailbox)
      (epoch : after.mailbox.leaseEpoch = before.mailbox.leaseEpoch)
      (unleased : after.mailbox.Unleased)
      (announces : Announces timed now before after) :
      Move timed now before after (.resolve head.inboundId)

end TrpcService.Storage
