import TrpcService.Data.ClockedObject
import TrpcService.Storage.Mailbox.Refinement

namespace TrpcService.Storage

open Data ClockedObject MailboxStore

/-! Runs of the mailbox store: any number of workers call its transitions in
any order, with any arguments, against one clock. -/

inductive MailboxCall where
  | accept (key : SessionKey) (inboundId : String) (priority : Priority)
      (retryAt : Option Time) (traceId : Option String) (uuid : String)
  | claim (key : SessionKey) (ownerId : String) (leaseFor : Time)
  | claimSession (key : SessionKey) (ownerId : String) (leaseFor : Time)
      (expectedGeneration expectedEpoch : Option Int)
      (acceptance : Option Acceptance)
  | renew (lease : MailboxLease) (leaseFor : Time)
  | commit (lease : MailboxLease) (uuid : String)
  | reschedule (lease : MailboxLease) (retryAt : Option Time)
      (priority : Option Priority) (uuid : String)
  | retry (lease : MailboxLease) (retryAt : Option Time)
      (priority : Option Priority) (uuid : String)
  | retryWithoutWakeup (lease : MailboxLease) (retryAt : Option Time) (uuid : String)
  | recover (key : SessionKey) (uuid : String)
  | reconcile (key : SessionKey) (uuid : String)

inductive MailboxReply where
  | mailbox (reply : Except StorageError SessionMailbox)
  | lease (reply : Except StorageError (Option MailboxLease))
  | claim (reply : Except StorageError SessionClaim)
  | renewed (reply : Except StorageError MailboxLease)
  | recovered (reply : Option SessionMailbox)

namespace MailboxCall

def key : MailboxCall → SessionKey
  | accept key _ _ _ _ _ => key
  | claim key _ _ => key
  | claimSession key _ _ _ _ _ => key
  | renew lease _ => lease.key
  | commit lease _ => lease.key
  | reschedule lease _ _ _ => lease.key
  | retry lease _ _ _ => lease.key
  | retryWithoutWakeup lease _ _ => lease.key
  | recover key _ => key
  | reconcile key _ => key

/-- A release without a wake-up names the time that ends the wait. -/
def Scheduled : MailboxCall → Prop
  | retryWithoutWakeup _ retryAt _ => retryAt.isSome
  | _ => True

def apply (call : MailboxCall) (now : Time) (store : MailboxStore) : MailboxReply × MailboxStore :=
  match call with
  | accept key inboundId priority retryAt traceId uuid =>
      let (reply, store) := store.accept key inboundId priority retryAt traceId uuid now
      (.mailbox reply, store)
  | claim key ownerId leaseFor =>
      let (reply, store) := store.claim key ownerId leaseFor now
      (.lease reply, store)
  | claimSession key ownerId leaseFor expectedGeneration expectedEpoch acceptance =>
      let (reply, store) := store.claimSession key ownerId leaseFor
        expectedGeneration expectedEpoch acceptance now
      (.claim reply, store)
  | renew lease leaseFor =>
      let (reply, store) := store.renew lease leaseFor now
      (.renewed reply, store)
  | commit lease uuid =>
      let (reply, store) := store.commit lease uuid now
      (.mailbox reply, store)
  | reschedule lease retryAt priority uuid =>
      let (reply, store) := store.reschedule lease retryAt priority uuid now
      (.mailbox reply, store)
  | retry lease retryAt priority uuid =>
      let (reply, store) := store.retry lease retryAt priority uuid now
      (.mailbox reply, store)
  | retryWithoutWakeup lease retryAt uuid =>
      let (reply, store) := store.retryWithoutWakeup lease retryAt uuid now
      (.mailbox reply, store)
  | recover key uuid =>
      let (reply, store) := store.recover key uuid now
      (.recovered reply, store)
  | reconcile key uuid =>
      let (reply, store) := store.reconcile key uuid now
      (.recovered reply, store)

end MailboxCall

/-- The store as an object of atomic calls; each call reads the clock once. -/
def mailboxObject : ClockedObject MailboxStore MailboxCall MailboxReply Time where
  initial := .initial
  apply := fun call reads store => call.apply (reads 0) store

abbrev MailboxConfig := Config MailboxStore MailboxCall MailboxReply Time

abbrev MailboxEvent := Event MailboxCall MailboxReply

def anyCall (_ : MailboxConfig) (_ : MailboxCall) : Prop := True

/-- Runs in which a release without a wake-up names its retry time. -/
def scheduledCall (_ : MailboxConfig) (call : MailboxCall) : Prop := call.Scheduled

namespace MailboxEvent

variable (event : MailboxEvent)

def issued : Option MailboxLease :=
  match event.call, event.reply with
  | .claim _ _ _, .lease reply => claimedLease reply
  | .claimSession _ _ _ _ _ _, .claim reply => sessionLease reply
  | _, _ => none

def accepted : Option String :=
  match event.call, event.reply with
  | .accept _ inboundId _ _ _ _, .mailbox (.ok _) => some inboundId
  | _, _ => none

def committed : Option String :=
  match event.call, event.reply with
  | .commit lease _, .mailbox (.ok _) => some lease.inboundId
  | _, _ => none

def label (slot : Slot) (event : MailboxEvent) : Label :=
  match event.call, event.reply with
  | .accept _ inboundId _ _ _ _, .mailbox reply => arrival slot inboundId reply
  | .claim _ _ _, .lease reply => .ofLease (claimedLease reply)
  | .claimSession _ _ _ _ _ _, .claim reply => .ofLease (sessionLease reply)
  | .commit lease _, .mailbox reply => resolution lease reply
  | _, _ => .silent

theorem arrivals_label (slot : Slot) (event : MailboxEvent) :
    (event.label slot).arrivals = (event.accepted.filter fun inboundId =>
      inboundId ∉ slot.inboundIds).toList := by
  obtain ⟨call, reply⟩ := event
  cases call with
  | accept key inboundId =>
    rcases reply with (_ | _) | _ | _ | _ | _
    all_goals first | rfl | skip
    by_cases known : inboundId ∈ slot.inboundIds <;>
      simp [label, accepted, arrival, known, Option.filter]
  | commit => rcases reply with (_ | _) | _ | _ | _ | _ <;> rfl
  | _ => cases reply <;> simp [label, accepted]

theorem resolutions_label (slot : Slot) (event : MailboxEvent) :
    (event.label slot).resolutions = event.committed.toList := by
  obtain ⟨call, reply⟩ := event
  cases call with
  | accept key inboundId =>
    rcases reply with (_ | _) | _ | _ | _ | _
    all_goals first | rfl | skip
    by_cases known : inboundId ∈ slot.inboundIds <;> simp [label, committed, arrival, known]
  | commit => rcases reply with (_ | _) | _ | _ | _ | _ <;> rfl
  | _ => cases reply <;> simp [label, committed]

theorem label_of_issued {event : MailboxEvent} {lease : MailboxLease}
    (issued : event.issued = some lease) (slot : Slot) : event.label slot = .grant lease.epoch := by
  obtain ⟨call, reply⟩ := event
  cases call with
  | claim =>
    cases reply with
    | lease reply =>
      simp only [MailboxEvent.issued] at issued
      simp [label, issued, Label.ofLease]
    | _ => cases issued
  | claimSession =>
    cases reply with
    | claim reply =>
      simp only [MailboxEvent.issued] at issued
      simp [label, issued, Label.ofLease]
    | _ => cases issued
  | _ => cases reply <;> cases issued

theorem label_ne_grant {event : MailboxEvent} (issued : event.issued = none)
    (slot : Slot) (epoch : Nat) : event.label slot ≠ .grant epoch := by
  obtain ⟨call, reply⟩ := event
  cases call with
  | accept key inboundId =>
    rcases reply with (_ | _) | _ | _ | _ | _
    all_goals first | simp [label, arrival]; done | skip
    by_cases known : inboundId ∈ slot.inboundIds <;> simp [label, arrival, known]
  | claim =>
    cases reply with
    | lease reply =>
      simp only [MailboxEvent.issued] at issued
      simp [label, issued, Label.ofLease]
    | _ => simp [label]
  | claimSession =>
    cases reply with
    | claim reply =>
      simp only [MailboxEvent.issued] at issued
      simp [label, issued, Label.ofLease]
    | _ => simp [label]
  | commit => rcases reply with (_ | _) | _ | _ | _ | _ <;> simp [label, resolution]
  | _ => cases reply <;> simp [label]

end MailboxEvent

namespace MailboxCall

variable {timed : Prop} {store : MailboxStore} {clock now : Time}

theorem apply_transition (inv : store.Inv timed clock) (later : clock ≤ now)
    (call : MailboxCall) (scheduled : timed → call.Scheduled) :
    Transition timed call.key now store (call.apply now store).2
      (MailboxEvent.label (store.slot call.key) ⟨call, (call.apply now store).1⟩) := by
  cases call with
  | accept key inboundId priority retryAt traceId uuid =>
    exact accept_transition (inv key) inboundId priority retryAt traceId uuid now
  | claim key ownerId leaseFor => exact claim_transition (inv key) later ownerId leaseFor
  | claimSession key ownerId leaseFor expectedGeneration expectedEpoch acceptance =>
    exact claimSession_transition (inv key) later ownerId leaseFor
      expectedGeneration expectedEpoch acceptance
  | renew lease leaseFor => exact renew_transition timed store lease leaseFor now
  | commit lease uuid => exact commit_transition (inv lease.key) uuid now
  | reschedule lease retryAt priority uuid =>
    exact release_transition (inv lease.key) (by simp) priority false uuid now
  | retry lease retryAt priority uuid =>
    exact release_transition (inv lease.key) (by simp) priority true uuid now
  | retryWithoutWakeup lease retryAt uuid =>
    exact release_transition (inv lease.key) (fun _ => scheduled) none true uuid now
  | recover key uuid => exact recover_transition (inv key) uuid now
  | reconcile key uuid => exact reconcile_transition (inv key) uuid now

end MailboxCall

variable {allowed : MailboxConfig → MailboxCall → Prop}

theorem MailboxCall.unscheduled (config : MailboxConfig) (call : MailboxCall)
    (_ : allowed config call) (never : False) : call.Scheduled :=
  never.elim

theorem mailbox_reachable_inv {timed : Prop}
    (scheduled : ∀ config call, allowed config call → timed → call.Scheduled)
    {config : MailboxConfig} (reachable : mailboxObject.Reachable allowed config) :
    config.state.Inv timed config.clock := by
  refine reachable.invariant (fun config => config.state.Inv timed config.clock)
    (fun clock => inv_initial timed clock) ?_
  intro config call reads finish inv permitted _ started bounded
  have transition := call.apply_transition inv started (scheduled config call permitted)
  exact fun key => (transition.inv inv started key).mono (bounded 0)

def sessionHistory (key : SessionKey) (history : List MailboxEvent) : List MailboxEvent :=
  history.filter fun event => event.call.key = key

theorem mailbox_session_invariant {timed : Prop}
    (scheduled : ∀ config call, allowed config call → timed → call.Scheduled)
    {key : SessionKey} (invariant : List MailboxEvent → Slot → Time → Prop)
    (initially : ∀ clock, invariant [] (initial.slot key) clock)
    (waits : ∀ history slot clock now, invariant history slot clock →
      clock ≤ now → invariant history slot now)
    (preserved : ∀ history store call clock now, store.Inv timed clock →
      clock ≤ now → call.key = key →
      invariant history (store.slot key) clock →
      Transition timed key now store (call.apply now store).2
        (MailboxEvent.label (store.slot key) ⟨call, (call.apply now store).1⟩) →
      invariant (history ++ [⟨call, (call.apply now store).1⟩])
        ((call.apply now store).2.slot key) now)
    {config : MailboxConfig}
    (reachable : mailboxObject.Reachable allowed config) :
    invariant (sessionHistory key config.history) (config.state.slot key) config.clock := by
  refine (reachable.invariant (fun config : MailboxConfig => config.state.Inv timed config.clock ∧
      invariant (sessionHistory key config.history) (config.state.slot key)
        config.clock) (fun clock => ?_) ?_).2
  · exact ⟨inv_initial timed clock, initially clock⟩
  · rintro config call reads finish ⟨inv, holds⟩ permitted _ started bounded
    have transition := call.apply_transition inv started (scheduled config call permitted)
    refine ⟨fun key => (transition.inv inv started key).mono (bounded 0), ?_⟩
    refine waits _ _ _ _ ?_ (bounded 0)
    by_cases same : call.key = key
    · subst same
      simp only [after, sessionHistory, List.filter_append,
        List.filter_cons, decide_true, if_true, List.filter_nil]
      exact preserved _ config.state call config.clock (reads 0) inv started rfl holds transition
    · simp only [after, sessionHistory, List.filter_append, List.filter_cons, same,
        decide_false, Bool.false_eq_true, if_false, List.filter_nil, List.append_nil]
      have unchanged := transition.frame key same
      exact unchanged ▸ waits _ _ _ _ holds started

structure SessionMailbox.WellFormed (mailbox : SessionMailbox)
    (items : Dict Nat MailboxItem) : Prop where
  ordered : mailbox.resolvedSequence ≤ mailbox.acceptedSequence
  keys : items.keys = List.range' 1 mailbox.acceptedSequence
  sequences : ∀ sequence item, items.get? sequence = some item → item.sequence = sequence
  distinct : (items.values.map MailboxItem.inboundId).Nodup
  running : mailbox.status = .running ↔
    ∃ head, items.get? (mailbox.resolvedSequence + 1) = some head ∧
      mailbox.processingSequence = some (mailbox.resolvedSequence + 1) ∧
      mailbox.processingInboundId = some head.inboundId ∧
      mailbox.leaseOwner.isSome ∧ mailbox.leaseExpiresAt.isSome
  unleased : mailbox.status ≠ .running →
    mailbox.processingSequence = none ∧ mailbox.processingInboundId = none ∧
      mailbox.leaseOwner = none ∧ mailbox.leaseExpiresAt = none
  idle : mailbox.status = .idle ↔ mailbox.acceptedSequence = mailbox.resolvedSequence
  waiting : mailbox.status = .retryWait →
    ∃ head, items.get? (mailbox.resolvedSequence + 1) = some head ∧ mailbox.retryAt = head.retryAt

/-- After any run, every stored mailbox is well formed; the clock may stand
still but does not run backwards, and every call may carry any arguments. -/
theorem mailbox_wellFormed {config : MailboxConfig}
    (reachable : mailboxObject.Reachable anyCall config) {key : SessionKey}
    {mailbox : SessionMailbox} (stored : config.state.mailboxes.get? key = some mailbox) :
    mailbox.WellFormed (config.state.itemsOf key) := by
  have inv : (config.state.slot key).Inv False key config.clock :=
    mailbox_reachable_inv MailboxCall.unscheduled reachable key
  obtain rfl := slot_mailbox_of_get? stored
  exact {
    ordered := inv.numbered.ordered
    keys := inv.numbered.keys
    sequences := inv.numbered.sequences
    distinct := inv.numbered.distinct
    running := by
      constructor
      · intro running
        obtain ⟨head, headStored, sequence, inbound, owner, expiry, _⟩ :=
          inv.running running
        exact ⟨head, headStored, sequence, inbound, owner, expiry⟩
      · rintro ⟨head, _, sequence, _⟩
        exact running_of_processing inv sequence
    unleased := fun idle =>
      let free := inv.unleased idle
      ⟨free.sequence, free.inbound, free.owner, free.expiry⟩
    idle := inv.idle
    waiting := fun waits => by
      obtain ⟨head, headStored, retry, _⟩ := inv.waiting waits
      exact ⟨head, headStored, retry⟩ }

def claimedOnce : MailboxConfig := mailboxObject.after (mailboxObject.after (mailboxObject.start 0)
      (.accept ("tenant", "session") "inbound" 0 none none "ready-1")
      (fun _ => 1) 1)
    (.claim ("tenant", "session") "worker" 10) (fun _ => 2) 2

theorem claimedOnce_reachable (permitted : ∀ config call, call.Scheduled → allowed config call) :
    mailboxObject.Reachable allowed claimedOnce := by
  apply Reachable.call
  · apply Reachable.call (reachable_start 0)
    · exact permitted _ _ trivial
    · decide
  · exact permitted _ _ trivial
  · decide

theorem claimedOnce_wellFormed : ∃ mailbox,
      claimedOnce.state.mailboxes.get? ("tenant", "session") = some mailbox ∧
        mailbox.WellFormed (claimedOnce.state.itemsOf ("tenant", "session")) :=
  ⟨_, rfl, mailbox_wellFormed (claimedOnce_reachable fun _ _ _ => trivial) rfl⟩

end TrpcService.Storage
