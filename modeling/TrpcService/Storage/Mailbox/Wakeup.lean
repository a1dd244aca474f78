import TrpcService.Storage.Mailbox.Runs

namespace TrpcService.Storage

open Data MailboxStore

/-! No wake-up is lost: pending work is leased, scheduled or announced, and the
newest announcement can be claimed. -/

namespace MailboxStore

variable {timed : Prop} {store : MailboxStore} {key : SessionKey}
variable {clock now : Time}

theorem claim_of_queued (inv : (store.slot key).Inv timed key clock) (later : clock ≤ now)
    {mailbox : SessionMailbox} (stored : store.mailboxes.get? key = some mailbox)
    (named : key.1 ≠ "" ∧ key.2 ≠ "") (queued : mailbox.status = .queued) {ownerId : String}
    (owner : ownerId ≠ "") {leaseFor : Time} (positive : 0 < leaseFor) :
    ∃ head lease after, (store.itemsOf key).get? (mailbox.resolvedSequence + 1) = some head ∧
      store.claim key ownerId leaseFor now = (.ok (some lease), after) ∧
      lease.sequence = mailbox.resolvedSequence + 1 ∧
      lease.inboundId = head.inboundId := by
  obtain rfl := slot_mailbox_of_get? stored
  obtain ⟨head, found, due⟩ := inv.queued queued
  have pending := inv.numbered.head_lt found
  have free := inv.unleased (by simp [queued])
  have waiting : laterThan head.retryAt now = false := due.mono later
  have expired : laterThan (store.slot key).mailbox.leaseExpiresAt now = false := by
    rw [free.expiry]
    rfl
  have taken : store.claim key ownerId leaseFor now =
      let taken := store.takeLease key (store.slot key).mailbox
        ((store.slot key).mailbox.resolvedSequence + 1) head ownerId leaseFor now
      (.ok (some taken.1), taken.2) := by
    rw [claim, if_neg (by simp [named, owner]), if_neg (Int.not_le.mpr positive)]
    simp only [stored, expired, free.sequence]
    rw [if_neg (by simp), if_neg (by omega)]
    simp only [show (store.itemsOf key).get? _ = some head from found, waiting]
    rfl
  exact ⟨head, _, _, found, taken, rfl, rfl⟩

end MailboxStore

theorem MailboxCall.named_of_accepted {call : MailboxCall} {now : Time} {store : MailboxStore}
    {inboundId : String}
    (accepted : MailboxEvent.accepted ⟨call, (call.apply now store).1⟩ = some inboundId) :
    call.key.1 ≠ "" ∧ call.key.2 ≠ "" := by
  cases call with
  | accept key inboundId priority retryAt traceId uuid =>
    by_contra unnamed
    have invalid : key.1 = "" ∨ key.2 = "" ∨ inboundId = "" := by
      simp only [MailboxCall.key, not_and_or, not_not] at unnamed
      exact unnamed.imp_right .inl
    simp [MailboxEvent.accepted, MailboxCall.apply, MailboxStore.accept, invalid] at accepted
  | _ => cases accepted

theorem mailbox_named {allowed : MailboxConfig → MailboxCall → Prop} {config : MailboxConfig}
    (reachable : mailboxObject.Reachable allowed config) {key : SessionKey}
    (pending : 0 < (config.state.slot key).mailbox.acceptedSequence) : key.1 ≠ "" ∧ key.2 ≠ "" := by
  revert pending
  refine mailbox_session_invariant MailboxCall.unscheduled (fun _ slot _ =>
    0 < slot.mailbox.acceptedSequence → key.1 ≠ "" ∧ key.2 ≠ "") ?_ ?_ ?_ reachable
  · intro clock pending
    exact absurd pending (Nat.lt_irrefl 0)
  · intro _ _ _ _ named _
    exact named
  · intro history store call clock now inv later same named transition pending
    obtain ⟨_, accepted⟩ := Slot.arrivals_of_move transition.move (inv key).numbered
    rw [MailboxEvent.arrivals_label] at accepted
    cases arrival : MailboxEvent.accepted ⟨call, (call.apply now store).1⟩ with
    | none =>
      simp only [arrival, Option.filter_none, Option.toList_none,
        List.length_nil, Nat.add_zero] at accepted
      exact named (accepted ▸ pending)
    | some inboundId => exact same ▸ MailboxCall.named_of_accepted arrival

def MailboxStore.readyRecords (store : MailboxStore) (key : SessionKey) : List OutboxRecord :=
  store.outbox.filter (isReadyFor key)

namespace MailboxStore

variable {timed : Prop} {store : MailboxStore} {key : SessionKey}
variable {clock now : Time} (inv : (store.slot key).Inv timed key clock)

include inv

theorem newest_record (queued : (store.slot key).mailbox.status = .queued) :
    ∃ record, (store.readyRecords key).getLast? = some record ∧ record.payload.generation? =
        some (store.slot key).mailbox.queueGeneration := by
  have announced := inv.announced queued
  have last : ((store.readyRecords key).map fun record => record.payload.generation?).getLast? =
      some (some (store.slot key).mailbox.queueGeneration) := by
    have listed : (store.readyRecords key).map _ = _ := inv.generations
    rw [listed, List.getLast?_map, List.getLast?_range', if_neg (by omega), Option.map_some]
    congr 2
    omega
  rw [List.getLast?_map, Option.map_eq_some_iff] at last
  exact last

theorem claimSession_of_queued (later : clock ≤ now) {mailbox : SessionMailbox}
    (stored : store.mailboxes.get? key = some mailbox) (named : key.1 ≠ "" ∧ key.2 ≠ "")
    (queued : mailbox.status = .queued) {ownerId : String} (owner : ownerId ≠ "") {leaseFor : Time}
    (positive : 0 < leaseFor) (expectedEpoch : Option Int) (acceptance : Option Acceptance) :
    ∃ claim lease head, (store.claimSession key ownerId leaseFor
        (some (mailbox.queueGeneration : Int)) expectedEpoch acceptance now).1 =
        .ok claim ∧
      claim.status = .claimed ∧ claim.lease = some lease ∧
      (store.itemsOf key).get? (mailbox.resolvedSequence + 1) = some head ∧
      lease.sequence = mailbox.resolvedSequence + 1 ∧
      lease.inboundId = head.inboundId := by
  obtain ⟨head, lease, after, found, claimed, sequence, inbound⟩ :=
    claim_of_queued inv later stored named queued owner positive
  have answered : store.claimSession key ownerId leaseFor
      (some (mailbox.queueGeneration : Int)) expectedEpoch acceptance now =
      (.ok { status := .claimed, mailbox := (after.mailboxes.get? key).getD mailbox,
             lease := some lease, acceptance }, after) := by
    simp [claimSession, stored, claimed]
  exact ⟨_, lease, head, by rw [answered], rfl, rfl, found, sequence, inbound⟩

end MailboxStore

/-- In every run whose silent releases name a retry time: the wake-ups of a
session are numbered by its generations, pending work is leased, scheduled or
queued, and a queued session is claimed by its newest wake-up. -/
theorem mailbox_no_lost_wakeup {config : MailboxConfig}
    (reachable : mailboxObject.Reachable scheduledCall config) {key : SessionKey}
    {mailbox : SessionMailbox} (stored : config.state.mailboxes.get? key = some mailbox) :
    ((config.state.readyRecords key).map fun record => record.payload.generation?) =
        (List.range' 1 mailbox.queueGeneration).map some ∧
      (mailbox.resolvedSequence < mailbox.acceptedSequence →
        (mailbox.status = .running ∧ mailbox.leaseOwner.isSome ∧ mailbox.leaseExpiresAt.isSome) ∨
          (mailbox.status = .retryWait ∧ mailbox.retryAt.isSome) ∨
          mailbox.status = .queued) ∧
      (mailbox.status = .queued → ∃ record generation,
          (config.state.readyRecords key).getLast? = some record ∧
          record.payload.generation? = some generation ∧
          ∀ now ownerId leaseFor expectedEpoch acceptance,
            config.clock ≤ now → ownerId ≠ "" → 0 < leaseFor →
            ∃ claim lease head, (config.state.claimSession key ownerId leaseFor
                (some (generation : Int)) expectedEpoch acceptance now).1 =
                .ok claim ∧
              claim.status = .claimed ∧ claim.lease = some lease ∧
              (config.state.itemsOf key).get? (mailbox.resolvedSequence + 1) = some head ∧
              lease.sequence = mailbox.resolvedSequence + 1 ∧
              lease.inboundId = head.inboundId) := by
  have inv : (config.state.slot key).Inv True key config.clock :=
    mailbox_reachable_inv (fun _ _ scheduled _ => scheduled) reachable key
  have named : _ → key.1 ≠ "" ∧ key.2 ≠ "" := mailbox_named reachable
  obtain rfl := slot_mailbox_of_get? stored
  refine ⟨inv.generations, ?_, ?_⟩
  · intro pending
    cases status : (config.state.slot key).mailbox.status with
    | idle =>
        have drained := inv.idle.mp status
        omega
    | queued => exact .inr (.inr rfl)
    | running =>
        obtain ⟨_, _, _, _, owner, expiry, _⟩ := inv.running status
        exact .inl ⟨rfl, owner, expiry⟩
    | retryWait =>
        obtain ⟨head, _, retry, scheduled⟩ := inv.waiting status
        exact .inr (.inl ⟨rfl, retry ▸ scheduled trivial⟩)
  · intro queued
    obtain ⟨record, newest, numbered⟩ := newest_record inv queued
    obtain ⟨head, found, _⟩ := inv.queued queued
    have pending := inv.numbered.head_lt found
    refine ⟨record, _, newest, numbered, ?_⟩
    intro now ownerId leaseFor expectedEpoch acceptance later owner positive
    exact claimSession_of_queued inv later stored
      (named (by omega)) queued owner positive expectedEpoch acceptance

theorem acceptedOnce_no_lost_wakeup :
    let config := mailboxObject.after (mailboxObject.start 0)
      (.accept ("tenant", "session") "inbound" 0 none none "ready-1")
      (fun _ => 1) 1
    ∃ mailbox, config.state.mailboxes.get? ("tenant", "session") = some mailbox ∧
      mailbox.status = .queued ∧
      ∃ claim lease, (config.state.claimSession ("tenant", "session") "worker" 10
          (some 1) none none 1).1 = .ok claim ∧
        claim.status = .claimed ∧ claim.lease = some lease ∧
        lease.sequence = 1 := by
  intro config
  have reachable : mailboxObject.Reachable scheduledCall config :=
    (ClockedObject.reachable_start 0).call trivial (by decide)
  have stored : config.state.mailboxes.get? ("tenant", "session") = some _ := rfl
  refine ⟨_, stored, rfl, ?_⟩
  obtain ⟨_, _, wakes⟩ := mailbox_no_lost_wakeup reachable stored
  obtain ⟨record, generation, newest, numbered, claims⟩ := wakes rfl
  cases newest
  cases numbered
  obtain ⟨claim, lease, _, answered, claimed, leased, _, sequence, _⟩ :=
    claims 1 "worker" 10 none none (by decide) (by decide) (by decide)
  exact ⟨claim, lease, answered, claimed, leased, sequence⟩

end TrpcService.Storage
