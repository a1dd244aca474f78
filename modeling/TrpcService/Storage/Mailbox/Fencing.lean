import TrpcService.Storage.Mailbox.Runs

namespace TrpcService.Storage

open Data MailboxStore MailboxEvent

/-! Fencing.  The epoch of a mailbox numbers its leases; a lease that stopped
owning its session never owns it again. -/

def issuedLeases (key : SessionKey) (history : List MailboxEvent) : List MailboxLease :=
  (sessionHistory key history).filterMap issued

namespace MailboxStore

variable {timed : Prop} {store : MailboxStore} {lease : MailboxLease}
variable {now : Time}

theorem owns_slot (store : MailboxStore) (key : SessionKey) (lease : MailboxLease) (now : Time) :
    owns (store.mailboxes.get? key) lease now = owns (some (store.slot key).mailbox) lease now := by
  cases stored : store.mailboxes.get? key with
  | none => simp [owns, slot, stored, SessionMailbox.fresh]
  | some mailbox => rw [slot_mailbox_of_get? stored]

section Lost

variable (lost : owns (store.mailboxes.get? lease.key) lease now = false)

include lost

theorem renew_fenced {leaseFor : Time} (positive : 0 < leaseFor) :
    store.renew lease leaseFor now = (.error (.fencingConflict leaseConflictMessage), store) := by
  rw [renew, if_neg (Int.not_le.mpr positive)]
  cases stored : store.mailboxes.get? lease.key with
  | none => rfl
  | some mailbox => simp [stored ▸ lost]

theorem commit_fenced (uuid : String) :
    store.commit lease uuid now = (.error (.fencingConflict leaseConflictMessage), store) := by
  rw [commit]
  cases stored : store.mailboxes.get? lease.key with
  | none => rfl
  | some mailbox => simp [stored ▸ lost]

theorem release_fenced {priority : Option Priority}
    (valid : ∀ value ∈ priority, value.refused = false) (retryAt : Option Time)
    (incrementRetry emitReady : Bool) (uuid : String) :
    store.release lease retryAt priority incrementRetry emitReady uuid now =
      (.error (.fencingConflict leaseConflictMessage), store) := by
  have accepted : priority.any Priority.refused = false := by
    cases priority with
    | none => rfl
    | some value => simpa using valid value rfl
  rw [release, accepted, if_neg (by simp)]
  cases stored : store.mailboxes.get? lease.key with
  | none => rfl
  | some mailbox => simp [stored ▸ lost]

end Lost

end MailboxStore

namespace Slot

variable {timed : Prop} {before after : Slot} {lease : MailboxLease}
variable {clock now : Time} {label : Label}

/-- An issued lease that does not own its session at `clock`. -/
structure Lost (lease : MailboxLease) (slot : Slot) (clock : Time) : Prop where
  issued : lease.epoch ≤ slot.mailbox.leaseEpoch
  expired : slot.mailbox.HeldBy lease → laterThan slot.mailbox.leaseExpiresAt clock = false

theorem Lost.mono (lost : before.Lost lease clock) (later : clock ≤ now) : before.Lost lease now :=
  ⟨lost.issued, fun held => laterThan_mono later (lost.expired held)⟩

theorem Lost.of_unleased (issued : lease.epoch ≤ after.mailbox.leaseEpoch)
    (unleased : after.mailbox.Unleased) : after.Lost lease now :=
  ⟨issued, fun held => by
    have sequence := held.sequence
    rw [unleased.sequence] at sequence
    cases sequence⟩

theorem Lost.move (lost : before.Lost lease clock) (later : clock ≤ now)
    (move : Move timed now before after label) : after.Lost lease now := by
  cases move with
  | skip updatedAt mailbox =>
    refine ⟨by rw [mailbox]; exact lost.issued, fun held => ?_⟩
    rw [mailbox] at held ⊢
    exact (lost.mono later).expired
      ⟨held.running, held.sequence, held.inbound, held.owner, held.epoch⟩
  | appendBusy item fresh numbered items accepted resolved session same busy status =>
    refine ⟨by rw [same.epoch]; exact lost.issued, fun held => ?_⟩
    rw [same.expiry]
    exact (lost.mono later).expired ⟨status ▸ held.running, same.sequence ▸ held.sequence,
      same.inbound ▸ held.inbound, same.owner ▸ held.owner, same.epoch ▸ held.epoch⟩
  | appendSettled item fresh numbered items accepted resolved session epoch unleased =>
    exact .of_unleased (epoch ▸ lost.issued) unleased
  | lease sequence item owner expiry stored head due free unexpired items retry
      accepted resolved session status processing inbound owned expires epoch =>
      have issued := lost.issued
      refine ⟨by omega, fun held => ?_⟩
      -- The new lease carries an epoch of its own.
      have current := held.epoch
      omega
  | extend expiry updatedAt running live mailbox =>
    refine ⟨by rw [mailbox]; exact lost.issued, fun held => ?_⟩
    rw [mailbox] at held
    -- Only the holder of a live lease renews it.
    have past := (lost.mono later).expired
      ⟨held.running, held.sequence, held.inbound, held.owner, held.epoch⟩
    rw [live] at past
    cases past
  | settle items accepted resolved session epoch unleased =>
    exact .of_unleased (epoch ▸ lost.issued) unleased
  | resolve head stored items running accepted resolved session epoch unleased =>
    exact .of_unleased (epoch ▸ lost.issued) unleased

end Slot

variable {allowed : MailboxConfig → MailboxCall → Prop}

theorem mailbox_issued_epochs {config : MailboxConfig}
    (reachable : mailboxObject.Reachable allowed config) (key : SessionKey) :
    ((issuedLeases key config.history).map MailboxLease.epoch).Pairwise (· < ·) ∧
      ∀ lease ∈ issuedLeases key config.history,
        lease.epoch ≤ (config.state.slot key).mailbox.leaseEpoch := by
  refine mailbox_session_invariant MailboxCall.unscheduled (fun history slot _ =>
    ((history.filterMap issued).map MailboxLease.epoch).Pairwise (· < ·) ∧ ∀ lease ∈
    history.filterMap issued, lease.epoch ≤ slot.mailbox.leaseEpoch) ?_ ?_ ?_ reachable
  · intro clock
    simp
  · intro _ _ _ _ holds _
    exact holds
  · rintro history store call clock now inv later same ⟨increasing, bounded⟩ transition
    have epochs := Slot.epoch_of_move transition.move
    cases issued : issued ⟨call, (call.apply now store).1⟩ with
    | none =>
      rcases epochs with ⟨epoch, grants, _⟩ | ⟨_, unchanged⟩
      · exact absurd grants (label_ne_grant issued _ _)
      · simp only [List.filterMap_append, List.filterMap_cons, issued,
          List.filterMap_nil, List.append_nil, unchanged]
        exact ⟨increasing, bounded⟩
    | some lease =>
      rcases epochs with ⟨epoch, grants, current, next⟩ | ⟨silent, _⟩
      · rw [label_of_issued issued, Label.grant.injEq] at grants
        simp only [List.filterMap_append, List.filterMap_cons, issued,
          List.filterMap_nil, List.map_append, List.map_cons, List.map_nil]
        constructor
        · refine List.pairwise_append.mpr ⟨increasing, by simp, ?_⟩
          intro left leftMember right rightMember
          obtain ⟨earlier, earlierMember, rfl⟩ := List.mem_map.mp leftMember
          have older := bounded earlier earlierMember
          rw [List.mem_singleton] at rightMember
          omega
        · intro earlier member
          rcases List.mem_append.mp member with older | newest
          · have before := bounded earlier older
            omega
          · rw [List.mem_singleton] at newest
            subst newest
            omega
      · exact absurd (label_of_issued issued _) (silent _)

variable {key : SessionKey} {lease : MailboxLease}

theorem Slot.Lost.owns_eq_false {store : MailboxStore} {now : Time}
    (lost : (store.slot key).Lost lease now) :
    owns (store.mailboxes.get? key) lease now = false := by
  rw [owns_slot]
  by_contra owned
  obtain ⟨held, live⟩ := owns_some_iff.mp (Bool.of_not_eq_false owned)
  rw [lost.expired held] at live
  cases live

theorem mailbox_lost_steps {first last : MailboxConfig}
    (steps : mailboxObject.Steps allowed first last) (inv : first.state.Inv False first.clock)
    (lost : (first.state.slot key).Lost lease first.clock) :
    (last.state.slot key).Lost lease last.clock := by
  refine (steps.preserves (fun config : MailboxConfig => config.state.Inv False config.clock ∧
      (config.state.slot key).Lost lease config.clock) ?_ ⟨inv, lost⟩).2
  rintro config call reads finish ⟨inv, lost⟩ permitted _ started bounded
  have transition := call.apply_transition inv started fun never => never.elim
  refine ⟨fun key => (transition.inv inv started key).mono (bounded 0), ?_⟩
  refine Slot.Lost.mono ?_ (bounded 0)
  by_cases same : call.key = key
  · subst same
    exact lost.move started transition.move
  · have unchanged := transition.frame key same
    exact unchanged ▸ lost.mono started

/-- Fencing, in every run: the epochs of a session's leases increase, at most
one of its leases owns it, a lease that fails the ownership test fails it ever
after, and a call with such a lease is refused without any effect. -/
theorem mailbox_fencing {config : MailboxConfig}
    (reachable : mailboxObject.Reachable anyCall config) (key : SessionKey) :
    ((issuedLeases key config.history).map MailboxLease.epoch).Pairwise (· < ·) ∧
      (∀ now, config.clock ≤ now → ∀ left ∈ issuedLeases key config.history,
        ∀ right ∈ issuedLeases key config.history,
          owns (config.state.mailboxes.get? key) left now = true →
          owns (config.state.mailboxes.get? key) right now = true →
          left = right) ∧
      (∀ lease ∈ issuedLeases key config.history, ∀ now, config.clock ≤ now →
          owns (config.state.mailboxes.get? key) lease now = false →
          ∀ later, mailboxObject.Steps anyCall { config with clock := now } later →
            ∀ instant, later.clock ≤ instant →
              owns (later.state.mailboxes.get? key) lease instant = false) ∧
      (∀ lease now, owns (config.state.mailboxes.get? lease.key) lease now = false →
        ∀ (leaseFor : Time) (retryAt : Option Time) (priority : Option Priority) (uuid : String),
          0 < leaseFor → (∀ value ∈ priority, value.refused = false) →
          config.state.renew lease leaseFor now =
              (.error (.fencingConflict leaseConflictMessage), config.state) ∧
            config.state.commit lease uuid now =
              (.error (.fencingConflict leaseConflictMessage), config.state) ∧
            config.state.retry lease retryAt priority uuid now =
              (.error (.fencingConflict leaseConflictMessage), config.state) ∧
            config.state.retryWithoutWakeup lease retryAt uuid now =
              (.error (.fencingConflict leaseConflictMessage), config.state) ∧
            config.state.reschedule lease retryAt priority uuid now =
              (.error (.fencingConflict leaseConflictMessage), config.state)) := by
  obtain ⟨increasing, bounded⟩ := mailbox_issued_epochs reachable key
  have inv : config.state.Inv False config.clock :=
    mailbox_reachable_inv MailboxCall.unscheduled reachable
  refine ⟨increasing, ?_, ?_, ?_⟩
  · intro now _ left leftIssued right rightIssued leftOwns rightOwns
    rw [owns_slot] at leftOwns rightOwns
    have leftHeld := (owns_some_iff.mp leftOwns).1
    have rightHeld := (owns_some_iff.mp rightOwns).1
    have distinct : ((issuedLeases key config.history).map
        MailboxLease.epoch).Nodup := increasing.imp Nat.ne_of_lt
    exact List.inj_on_of_nodup_map distinct leftIssued rightIssued
      (leftHeld.epoch.symm.trans rightHeld.epoch)
  · intro lease issued now started fails later steps instant waited
    have lost : (config.state.slot key).Lost lease now := by
      refine ⟨bounded lease issued, fun held => ?_⟩
      by_contra live
      rw [owns_slot, Bool.eq_false_iff] at fails
      exact fails (owns_some_iff.mpr ⟨held, Bool.of_not_eq_false live⟩)
    have still := mailbox_lost_steps steps (fun key => (inv key).mono started) lost
    exact (still.mono waited).owns_eq_false
  · intro lease now fails leaseFor retryAt priority uuid positive valid
    exact ⟨renew_fenced fails positive, commit_fenced fails uuid,
      release_fenced fails valid retryAt true true uuid,
      release_fenced fails (by simp) retryAt true false uuid,
      release_fenced fails valid retryAt false true uuid⟩

theorem claimedOnce_fencing : ∃ lease,
      issuedLeases ("tenant", "session") claimedOnce.history = [lease] ∧
      owns (claimedOnce.state.mailboxes.get? ("tenant", "session")) lease 2 = true ∧
      ∀ later, mailboxObject.Steps anyCall { claimedOnce with clock := 12 } later →
        ∀ instant, later.clock ≤ instant →
          owns (later.state.mailboxes.get? ("tenant", "session")) lease instant = false := by
  have issued : issuedLeases ("tenant", "session") claimedOnce.history = [_] := rfl
  have fencing := mailbox_fencing (claimedOnce_reachable fun _ _ _ => trivial) ("tenant", "session")
  refine ⟨_, issued, rfl, ?_⟩
  exact fencing.2.2.1 _ (by rw [issued]; exact List.mem_singleton.mpr rfl) 12 (by decide) rfl

end TrpcService.Storage
