import TrpcService.Storage.Mailbox.Refinement
import Mathlib.Logic.Relation
import Mathlib.Order.Monotone.Basic

namespace TrpcService.Storage

open Data

/-! Batches over the store: renewals of many leases, and the recovery loops
that visit the mailboxes in the order in which they were created. -/

namespace MailboxStore

/-- Renew one after the other; the renewals before a failure stay. -/
def renewMany (store : MailboxStore) (leaseFor : Time) : List MailboxLease → (Nat → Time) →
      Except StorageError (List MailboxLease) × MailboxStore
  | [], _ => (.ok [], store)
  | lease :: rest, clk =>
      match store.renew lease leaseFor (clk 0) with
      | (.error error, store) => (.error error, store)
      | (.ok renewed, store) =>
          match store.renewMany leaseFor rest fun index => clk (index + 1) with
          | (.error error, store) => (.error error, store)
          | (.ok others, store) => (.ok (renewed :: others), store)

/-- Visit mailboxes until `limit` of them were handled. -/
def visit (body : SessionKey → String → MailboxStore → Bool × MailboxStore)
    (limit : Int) : List SessionKey → (Nat → String) → Nat → MailboxStore → Nat × MailboxStore
  | [], _, handled, store => (handled, store)
  | key :: rest, uuids, handled, store =>
      if limit ≤ handled then (handled, store)
      else
        let (counted, store) := body key (uuids 0) store
        visit body limit rest (fun index => uuids (index + 1))
          (if counted then handled + 1 else handled) store

def visitAll (store : MailboxStore)
    (body : SessionKey → String → MailboxStore → Bool × MailboxStore) (limit : Int)
    (uuids : Nat → String) : Except StorageError Nat × MailboxStore :=
  if limit < 1 then (.error (.valueError limitMessage), store)
  else
    let (handled, store) := visit body limit store.mailboxes.keys uuids 0 store
    (.ok handled, store)

def visitWhen (needed : SessionMailbox → Bool)
    (step : MailboxStore → SessionKey → String → Time → Option SessionMailbox × MailboxStore)
    (now : Time) (key : SessionKey) (uuid : String) (store : MailboxStore) : Bool × MailboxStore :=
  match store.mailboxes.get? key with
  | none => (false, store)
  | some mailbox =>
      if needed mailbox then
        let (mailbox, store) := step store key uuid now
        (mailbox.isSome, store)
      else (false, store)

variable (store : MailboxStore)

def sweepExpiredLeases (limit : Int) (uuids : Nat → String) (now : Time) :
    Except StorageError Nat × MailboxStore :=
  store.visitAll (visitWhen (fun mailbox =>
    mailbox.leaseExpiresAt.any fun expiresAt => decide (expiresAt ≤ now))
    recover now) limit uuids

def scheduleRetries (limit : Int) (uuids : Nat → String) (now : Time) :
    Except StorageError Nat × MailboxStore :=
  store.visitAll (visitWhen (fun mailbox => mailbox.status = .retryWait
      && mailbox.retryAt.any fun retryAt => decide (retryAt ≤ now))
    reconcile now) limit uuids

/-- Leases, also expired ones, belong to the sweep. -/
def reconcileSessions (limit : Int) (uuids : Nat → String) (now : Time) :
    Except StorageError Nat × MailboxStore :=
  store.visitAll (visitWhen (fun mailbox => mailbox.status ≠ .running) reconcile now) limit uuids

/-- One transition of some session, no earlier than the clock, with a label
that is allowed there. -/
def Advances (timed : Prop) (allowed : SessionKey → Label → Prop)
    (before after : Time × MailboxStore) : Prop :=
  before.1 ≤ after.1 ∧ ∃ key label, allowed key label ∧
    Transition timed key after.1 before.2 after.2 label

/-- The store after a while, with the clock at its last transition. -/
def Evolves (timed : Prop) (allowed : SessionKey → Label → Prop) :
    Time × MailboxStore → Time × MailboxStore → Prop :=
  Relation.ReflTransGen (Advances timed allowed)

variable {timed : Prop} {allowed : SessionKey → Label → Prop}
variable {store after : MailboxStore} {clock now finish : Time}

theorem Evolves.inv {before after : Time × MailboxStore}
    (evolves : Evolves timed allowed before after)
    (inv : before.2.Inv timed before.1) : after.2.Inv timed after.1 := by
  induction evolves with
  | refl => exact inv
  | tail _ advances inv =>
    obtain ⟨later, _, _, _, transition⟩ := advances
    exact transition.inv inv later

theorem Evolves.traced {before after : Time × MailboxStore}
    {held : Slot → List String} (evolves : Evolves timed allowed before after)
    (inv : before.2.Inv timed before.1)
    (moved : ∀ {now before after label}, Move timed now before after label →
      before.Numbered → ∀ {inboundId}, inboundId ∈ held after →
      inboundId ∈ held before ∨ inboundId ∈ label.arrivals)
    {key : SessionKey} {inboundId : String}
    (member : inboundId ∈ held (after.2.slot key)) :
    inboundId ∈ held (before.2.slot key) ∨
      ∃ label, allowed key label ∧ inboundId ∈ label.arrivals := by
  induction evolves with
  | refl => exact .inl member
  | tail path advances induction =>
    obtain ⟨later, here, label, permitted, transition⟩ := advances
    by_cases same : here = key
    · subst same
      have numbered := (Evolves.inv path inv here).numbered
      rcases moved transition.move numbered member with old | new
      · exact induction old
      · exact .inr ⟨label, permitted, new⟩
    · rw [transition.frame key same] at member
      exact induction member

theorem Evolves.epoch_le {before after : Time × MailboxStore}
    (evolves : Evolves timed allowed before after) (key : SessionKey) :
    (before.2.slot key).mailbox.leaseEpoch ≤ (after.2.slot key).mailbox.leaseEpoch := by
  induction evolves with
  | refl => exact Nat.le_refl _
  | tail _ advances induction =>
    obtain ⟨_, here, label, _, transition⟩ := advances
    by_cases same : here = key
    · subst same
      exact Nat.le_trans induction (Slot.epoch_le_of_move transition.move)
    · rw [transition.frame key same]
      exact induction

theorem Transition.evolves {key : SessionKey} {label : Label} (later : clock ≤ now)
    (permitted : allowed key label) (transition : Transition timed key now store after label) :
    Evolves timed allowed (clock, store) (now, after) :=
  .single ⟨later, key, label, permitted, transition⟩

section Silent

variable (silent : ∀ key, allowed key .silent)

include silent

theorem Evolves.wait (timed : Prop) (store : MailboxStore) (later : clock ≤ now) :
    Evolves timed allowed (clock, store) (now, store) :=
  Transition.evolves later (silent _) (.refl timed ("", "") now store)

theorem renewMany_evolves {clk : Nat → Time} (leaseFor : Time) (leases : List MailboxLease)
    (store : MailboxStore) (monotone : Monotone clk) (started : clock ≤ clk 0)
    (bounded : ∀ index, clk index ≤ finish) :
    Evolves timed allowed (clock, store) (finish, (store.renewMany leaseFor leases clk).2) := by
  induction leases generalizing clock clk store with
  | nil => exact Evolves.wait silent timed store (Int.le_trans started (bounded 0))
  | cons lease rest induction =>
    have first := renew_transition timed store lease leaseFor (clk 0)
    unfold renewMany
    rcases renewed : store.renew lease leaseFor (clk 0) with ⟨_ | _, next⟩
    · rw [renewed] at first
      exact (first.evolves started (silent _)).trans (Evolves.wait silent timed next (bounded 0))
    · rw [renewed] at first
      have others := induction next
        (fun _ _ ordered => monotone (Nat.succ_le_succ ordered))
        (monotone (Nat.zero_le 1)) fun index => bounded (index + 1)
      have all : Evolves timed allowed (clock, store) _ :=
        (first.evolves started (silent _)).trans others
      dsimp only
      split
      all_goals
        rename_i same
        rw [same] at all
        exact all

end Silent

section Visits

variable {body : SessionKey → String → MailboxStore → Bool × MailboxStore}
  (each : ∀ key uuid store, store.Inv timed now →
    Evolves timed allowed (now, store) (now, (body key uuid store).2))

include each

theorem visit_evolves (limit : Int) (keys : List SessionKey) (uuids : Nat → String) (handled : Nat)
    (store : MailboxStore) (inv : store.Inv timed now) :
    Evolves timed allowed (now, store) (now, (visit body limit keys uuids handled store).2) := by
  induction keys generalizing uuids handled store with
  | nil => exact .refl
  | cons key rest induction =>
    unfold visit
    split
    · exact .refl
    · have first := each key (uuids 0) store inv
      exact first.trans (induction _ _ _ (first.inv inv))

theorem visitAll_evolves (limit : Int) (uuids : Nat → String)
    (store : MailboxStore) (inv : store.Inv timed now) :
    Evolves timed allowed (now, store) (now, (store.visitAll body limit uuids).2) := by
  unfold visitAll
  split
  · exact .refl
  · exact visit_evolves each limit _ uuids 0 store inv

end Visits

theorem visitWhen_evolves {needed : SessionMailbox → Bool}
    {step : MailboxStore → SessionKey → String → Time →
      Option SessionMailbox × MailboxStore}
    (silent : ∀ key, allowed key .silent)
    (moves : ∀ store key uuid, store.Inv timed now →
      Transition timed key now store (step store key uuid now).2 .silent)
    (key : SessionKey) (uuid : String) (store : MailboxStore)
    (inv : store.Inv timed now) :
    Evolves timed allowed (now, store) (now, (visitWhen needed step now key uuid store).2) := by
  unfold visitWhen
  split
  · exact .refl
  · split
    · exact (moves store key uuid inv).evolves (Int.le_refl now) (silent key)
    · exact .refl

section Sweeps

variable (silent : ∀ key, allowed key .silent) (limit : Int) (uuids : Nat → String)
  (inv : store.Inv timed now)

include silent inv

theorem sweepExpiredLeases_evolves : Evolves timed allowed (now, store)
    (now, (store.sweepExpiredLeases limit uuids now).2) :=
  visitAll_evolves (visitWhen_evolves silent fun _ key uuid inv =>
    recover_transition (inv key) uuid now) limit uuids store inv

theorem scheduleRetries_evolves : Evolves timed allowed (now, store)
    (now, (store.scheduleRetries limit uuids now).2) :=
  visitAll_evolves (visitWhen_evolves silent fun _ key uuid inv =>
    reconcile_transition (inv key) uuid now) limit uuids store inv

theorem reconcileSessions_evolves : Evolves timed allowed (now, store)
    (now, (store.reconcileSessions limit uuids now).2) :=
  visitAll_evolves (visitWhen_evolves silent fun _ key uuid inv =>
    reconcile_transition (inv key) uuid now) limit uuids store inv

end Sweeps

end MailboxStore

end TrpcService.Storage
