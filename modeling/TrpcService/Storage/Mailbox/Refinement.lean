import TrpcService.Storage.Mailbox.Invariant

namespace TrpcService.Storage

open Data SessionMailbox

/-! Every transition of the store is a move of the session it addresses and
leaves the slots of all other sessions alone. -/

namespace MailboxStore

variable {timed : Prop} {store : MailboxStore} {key other : SessionKey}
variable {clock now : Time}

@[simp] theorem slot_putMailbox (store : MailboxStore) (key : SessionKey)
    (mailbox : SessionMailbox) :
    (store.putMailbox key mailbox).slot key = { store.slot key with mailbox } := by
  simp [slot, putMailbox, itemsOf]

theorem slot_putMailbox_of_ne (store : MailboxStore) (mailbox : SessionMailbox)
    (different : key ≠ other) : (store.putMailbox key mailbox).slot other = store.slot other := by
  simp [slot, putMailbox, itemsOf, different]

@[simp] theorem slot_putItem (store : MailboxStore) (key : SessionKey)
    (sequence : Nat) (item : MailboxItem) :
    (store.putItem key sequence item).slot key =
      { store.slot key with
        items := (store.slot key).items.set sequence item } := by
  simp [slot, putItem, itemsOf]

theorem slot_putItem_of_ne (store : MailboxStore) (sequence : Nat)
    (item : MailboxItem) (different : key ≠ other) :
    (store.putItem key sequence item).slot other = store.slot other := by
  simp [slot, putItem, itemsOf, different]

variable {mailbox : SessionMailbox}

section Addressed

variable (tenant : mailbox.tenantId = key.1) (session : mailbox.sessionId = key.2)

include tenant session

theorem isReadyFor_readyRecord (item : MailboxItem) (now : Time)
    (generation : Nat) (uuid : String) :
    isReadyFor other (readyRecord mailbox item now generation uuid) = decide (key = other) := by
  rw [Bool.eq_iff_iff]
  simp [isReadyFor, readyRecord, tenant, session, Prod.ext_iff]

theorem slot_appendReady (store : MailboxStore) (item : MailboxItem)
    (now : Time) (generation : Nat) (uuid : String) :
    (store.appendReady mailbox item now generation uuid).slot key =
      { store.slot key with
        ready := (store.slot key).ready ++
          [readyRecord mailbox item now generation uuid] } := by
  simp [slot, appendReady, itemsOf, isReadyFor_readyRecord tenant session]

theorem slot_appendReady_of_ne (store : MailboxStore) (item : MailboxItem)
    (now : Time) (generation : Nat) (uuid : String) (different : key ≠ other) :
    (store.appendReady mailbox item now generation uuid).slot other = store.slot other := by
  simp [slot, appendReady, itemsOf, isReadyFor_readyRecord tenant session, different]

end Addressed

theorem slot_mailbox_of_get? (stored : store.mailboxes.get? key = some mailbox) :
    (store.slot key).mailbox = mailbox := by
  simp [slot, stored]

def Inv (timed : Prop) (clock : Time) (store : MailboxStore) : Prop :=
  ∀ key, (store.slot key).Inv timed key clock

theorem inv_initial (timed : Prop) (clock : Time) : initial.Inv timed clock := by
  intro key
  exact {
    tenant := rfl, session := rfl
    numbered := ⟨Nat.le_refl 0, rfl, by
      intro sequence item stored
      simp [slot, initial, itemsOf] at stored, by
      simp [Slot.inboundIds, slot, initial, itemsOf]⟩
    idle := by simp [slot, initial, fresh]
    running := by simp [slot, initial, fresh]
    unleased := fun _ => ⟨rfl, rfl, rfl, rfl⟩
    waiting := by simp [slot, initial, fresh]
    queued := by simp [slot, initial, fresh]
    announced := by simp [slot, initial, fresh]
    generations := rfl }

def SameElsewhere (key : SessionKey) (before after : MailboxStore) : Prop :=
  ∀ other, key ≠ other → after.slot other = before.slot other

theorem SameElsewhere.refl (key : SessionKey) (store : MailboxStore) :
    SameElsewhere key store store := fun _ _ => rfl

theorem SameElsewhere.putItem (key : SessionKey) (store : MailboxStore) (sequence : Nat)
    (item : MailboxItem) : SameElsewhere key store (store.putItem key sequence item) :=
  fun _ different => slot_putItem_of_ne store sequence item different

/-- One transition on `key`: a move there, nothing anywhere else. -/
structure Transition (timed : Prop) (key : SessionKey) (now : Time)
    (before after : MailboxStore) (label : Label) : Prop where
  move : Move timed now (before.slot key) (after.slot key) label
  frame : SameElsewhere key before after

theorem Transition.refl (timed : Prop) (key : SessionKey) (now : Time)
    (store : MailboxStore) : Transition timed key now store store .silent where
  move := .skip (store.slot key).mailbox.updatedAt rfl rfl rfl
  frame := fun _ _ => rfl

variable {label : Label}

theorem Transition.inv {after : MailboxStore} (inv : store.Inv timed clock) (later : clock ≤ now)
    (transition : Transition timed key now store after label) : after.Inv timed now := by
  intro other
  by_cases same : key = other
  · subst same
    exact (inv key).move later transition.move
  · rw [transition.frame other same]
    exact (inv other).mono later

theorem Transition.putMailbox {start : MailboxStore} (elsewhere : SameElsewhere key start store)
    (move : Move timed now (start.slot key) { store.slot key with mailbox } label) :
    Transition timed key now start (store.putMailbox key mailbox) label where
  move := by
    rw [slot_putMailbox]
    exact move
  frame := fun other different => (slot_putMailbox_of_ne store mailbox different).trans
      (elsewhere other different)

theorem emitReady_eq (store : MailboxStore) (mailbox : SessionMailbox)
    (item : MailboxItem) (now : Time) (uuid : String) :
    store.emitReady mailbox item now uuid =
      ({ mailbox with queueGeneration := mailbox.queueGeneration + 1 },
        store.appendReady mailbox item now (mailbox.queueGeneration + 1) uuid) :=
  rfl

theorem slot_emitReady (tenant : mailbox.tenantId = key.1)
    (session : mailbox.sessionId = key.2) (store : MailboxStore)
    (item : MailboxItem) (now : Time) (uuid : String) :
    ((store.emitReady mailbox item now uuid).2.putMailbox key
        (store.emitReady mailbox item now uuid).1).slot key =
      { mailbox := { mailbox with queueGeneration := mailbox.queueGeneration + 1 }
        items := (store.slot key).items
        ready := (store.slot key).ready ++
          [readyRecord mailbox item now (mailbox.queueGeneration + 1) uuid] } := by
  rw [slot_putMailbox, emitReady_eq, slot_appendReady tenant session]

theorem slot_emitReady_of_ne (tenant : mailbox.tenantId = key.1)
    (session : mailbox.sessionId = key.2) (store : MailboxStore) (item : MailboxItem) (now : Time)
    (uuid : String) (different : key ≠ other) :
    ((store.emitReady mailbox item now uuid).2.putMailbox key
        (store.emitReady mailbox item now uuid).1).slot other =
      store.slot other := by
  rw [slot_putMailbox_of_ne _ _ different, emitReady_eq,
    slot_appendReady_of_ne tenant session _ _ _ _ _ different]

variable {item : MailboxItem}

theorem Transition.emitReady {start : MailboxStore} {uuid : String}
    (elsewhere : SameElsewhere key start store)
    (tenant : mailbox.tenantId = key.1) (session : mailbox.sessionId = key.2)
    (move : Move timed now (start.slot key)
      { mailbox := { mailbox with
          queueGeneration := mailbox.queueGeneration + 1 }
        items := (store.slot key).items
        ready := (store.slot key).ready ++
          [readyRecord mailbox item now (mailbox.queueGeneration + 1) uuid] }
      label) :
    Transition timed key now start ((store.emitReady mailbox item now uuid).2.putMailbox key
        (store.emitReady mailbox item now uuid).1) label where
  move := by
    rw [slot_emitReady tenant session]
    exact move
  frame := fun other different => (slot_emitReady_of_ne tenant session store item now uuid
    different).trans (elsewhere other different)

theorem ensureMailbox_transition (timed : Prop) (store : MailboxStore)
    (key : SessionKey) (now : Time) :
    ∃ updatedAt, (store.ensureMailbox key now).1 = { (store.slot key).mailbox with updatedAt } ∧
      (store.ensureMailbox key now).2.slot key =
        { store.slot key with mailbox := (store.ensureMailbox key now).1 } ∧
      Transition timed key now store (store.ensureMailbox key now).2 .silent := by
  cases stored : store.mailboxes.get? key with
  | some mailbox =>
    refine ⟨mailbox.updatedAt, ?_, ?_, ?_⟩ <;>
      simp only [ensureMailbox, stored, slot_mailbox_of_get? stored]
    · rw [← slot_mailbox_of_get? stored]
    · exact .refl timed key now store
  | none =>
    have fresh : (store.slot key).mailbox = .fresh key 0 := by
      simp [slot, stored]
    refine ⟨now, ?_, ?_, ?_, ?_⟩ <;> simp only [ensureMailbox, stored, fresh]
    · rfl
    · exact slot_putMailbox store key _
    · rw [slot_putMailbox]
      exact .skip now (by rw [fresh]; rfl) rfl rfl
    · exact fun other different =>
        slot_putMailbox_of_ne store _ different

/-! Appending an item.  The mailbox may have been created a moment ago, so the
move starts from the slot before that. -/

theorem appendItem_frame (tenant : mailbox.tenantId = key.1) (session : mailbox.sessionId = key.2)
    (store : MailboxStore) (item : MailboxItem) (uuid : String) (now : Time)
    (different : key ≠ other) :
    (store.appendItem key mailbox item uuid now).2.slot other = store.slot other := by
  simp only [appendItem]
  split
  · rw [slot_emitReady_of_ne, slot_putItem_of_ne _ _ _ different]
    exacts [tenant, session, different]
  · rw [slot_putMailbox_of_ne _ _ different, slot_putItem_of_ne _ _ _ different]

variable {retryAt : Option Time}

theorem slot_appendItem_of_woken (tenant : mailbox.tenantId = key.1)
    (session : mailbox.sessionId = key.2)
    (settled : mailbox.status = .idle ∨ mailbox.status = .retryWait)
    (outcome : acceptStatus mailbox item.retryAt now = (.queued, retryAt))
    (store : MailboxStore) (uuid : String) :
    (store.appendItem key mailbox item uuid now).2.slot key =
      { mailbox := { mailbox with
          status := .queued, acceptedSequence := item.sequence,
          queueGeneration := mailbox.queueGeneration + 1,
          priority := max mailbox.priority item.priority, retryAt,
          updatedAt := now }
        items := (store.slot key).items.set item.sequence item
        ready := (store.slot key).ready ++
          [readyRecord mailbox item now (mailbox.queueGeneration + 1) uuid] } := by
  simp only [appendItem, outcome, settled, and_self, if_true]
  rw [slot_emitReady, slot_putItem]
  · rfl
  · exact tenant
  · exact session

theorem slot_appendItem_of_quiet {status : MailboxStatus}
    (outcome : acceptStatus mailbox item.retryAt now = (status, retryAt))
    (quiet : ¬((mailbox.status = .idle ∨ mailbox.status = .retryWait) ∧ status = .queued))
    (store : MailboxStore) (uuid : String) :
    (store.appendItem key mailbox item uuid now).2.slot key =
      { mailbox := { mailbox with
          status, acceptedSequence := item.sequence,
          priority := max mailbox.priority item.priority, retryAt,
          updatedAt := now }
        items := (store.slot key).items.set item.sequence item
        ready := (store.slot key).ready } := by
  simp only [appendItem, outcome, quiet, if_false]
  rw [slot_putMailbox, slot_putItem]

theorem appendItem_move {before : Slot} {updatedAt : Time} (inv : before.Inv timed key clock)
    (touched : store.slot key = { before with mailbox })
    (same : mailbox = { before.mailbox with updatedAt })
    (fresh : item.inboundId ∉ before.inboundIds)
    (numbered : item.sequence = before.mailbox.acceptedSequence + 1) (uuid : String) :
    Move timed now before ((store.appendItem key mailbox item uuid now).2.slot key)
      (.arrive item.inboundId) := by
  have tenant : mailbox.tenantId = key.1 := same ▸ inv.tenant
  have session : mailbox.sessionId = key.2 := same ▸ inv.session
  cases status : before.mailbox.status with
  | idle =>
    have was : mailbox.status = .idle := same ▸ status
    have free := inv.unleased (by simp [status])
    -- The new item is the head.
    have stored : (before.items.set item.sequence item).get?
        (before.mailbox.resolvedSequence + 1) = some item := by
      rw [numbered, inv.idle.mp status, Dict.get?_set_self]
    cases waits : laterThan item.retryAt now with
    | true =>
      have outcome : acceptStatus mailbox item.retryAt now =
          (.retryWait, item.retryAt) := by simp [acceptStatus, was, waits]
      rw [slot_appendItem_of_quiet outcome (by simp), touched, same]
      exact .appendSettled item fresh numbered rfl rfl rfl ⟨rfl, rfl⟩ rfl
        ⟨free.sequence, free.inbound, free.owner, free.expiry⟩
        (.waiting item stored rfl rfl (fun _ => laterThan_isSome waits) rfl rfl)
    | false =>
      have outcome : acceptStatus mailbox item.retryAt now =
          (.queued, none) := by simp [acceptStatus, was, waits]
      rw [slot_appendItem_of_woken tenant session (.inl was) outcome, touched, same]
      exact .appendSettled item fresh numbered rfl rfl rfl ⟨rfl, rfl⟩ rfl
        ⟨free.sequence, free.inbound, free.owner, free.expiry⟩
        (.woken item _ stored waits rfl rfl rfl rfl)
  | retryWait =>
    have was : mailbox.status = .retryWait := same ▸ status
    have free := inv.unleased (by simp [status])
    obtain ⟨head, headStored, retry, scheduled⟩ := inv.waiting status
    have timer : mailbox.retryAt = head.retryAt := same ▸ retry
    cases waits : laterThan mailbox.retryAt now with
    | true =>
      have outcome : acceptStatus mailbox item.retryAt now = (.retryWait, mailbox.retryAt) := by
        simp [acceptStatus, was, waits]
      rw [slot_appendItem_of_quiet outcome (by simp), touched]
      refine .appendSettled item fresh numbered rfl rfl (by rw [same])
        ⟨by rw [same], by rw [same]⟩ (by rw [same]) ?_ ?_
      · subst same
        exact ⟨free.sequence, free.inbound, free.owner, free.expiry⟩
      · refine .waiting head ?_ rfl timer scheduled (by rw [same]) rfl
        subst same
        exact inv.numbered.append_head numbered rfl rfl headStored
    | false =>
      have outcome : acceptStatus mailbox item.retryAt now =
          (.queued, none) := by simp [acceptStatus, was, waits]
      rw [slot_appendItem_of_woken tenant session (.inr was) outcome, touched]
      refine .appendSettled item fresh numbered rfl rfl (by rw [same])
        ⟨by rw [same], by rw [same]⟩ (by rw [same]) ?_ ?_
      · subst same
        exact ⟨free.sequence, free.inbound, free.owner, free.expiry⟩
      · refine .woken head _ ?_ ?_ rfl (by rw [same]) rfl rfl
        · subst same
          exact inv.numbered.append_head numbered rfl rfl headStored
        · rw [MailboxItem.DueAt, ← timer]
          exact waits
  | queued =>
    have was : mailbox.status = .queued := same ▸ status
    have outcome : acceptStatus mailbox item.retryAt now =
        (.queued, mailbox.retryAt) := by simp [acceptStatus, was]
    rw [slot_appendItem_of_quiet outcome (by simp [was]), touched, same]
    exact .appendBusy item fresh numbered rfl rfl rfl ⟨rfl, rfl⟩
      ⟨rfl, rfl, rfl, rfl, rfl⟩ (.inl status) status.symm rfl rfl
  | running =>
    have was : mailbox.status = .running := same ▸ status
    have outcome : acceptStatus mailbox item.retryAt now =
        (.running, mailbox.retryAt) := by simp [acceptStatus, was]
    rw [slot_appendItem_of_quiet outcome (by simp [was]), touched, same]
    exact .appendBusy item fresh numbered rfl rfl rfl ⟨rfl, rfl⟩
      ⟨rfl, rfl, rfl, rfl, rfl⟩ (.inr status) status.symm rfl rfl

/-- What an accepted message adds to the machine: nothing when it was known. -/
def arrival (slot : Slot) (inboundId : String)
    (reply : Except StorageError SessionMailbox) : Label :=
  match reply with
  | .error _ => .silent
  | .ok _ => if inboundId ∈ slot.inboundIds then .silent else .arrive inboundId

theorem accept_transition (inv : (store.slot key).Inv timed key clock)
    (inboundId : String) (priority : Priority) (retryAt : Option Time)
    (traceId : Option String) (uuid : String) (now : Time) :
    Transition timed key now store (store.accept key inboundId priority retryAt traceId uuid now).2
      (arrival (store.slot key) inboundId
        (store.accept key inboundId priority retryAt traceId uuid now).1) := by
  obtain ⟨updatedAt, same, touched, ensured⟩ := ensureMailbox_transition timed store key now
  have known : ((store.itemsOf key).values.any fun item => decide (item.inboundId = inboundId)) =
    true ↔ inboundId ∈ (store.slot key).inboundIds := by
    simp [Slot.inboundIds, slot]
  fun_cases accept store key inboundId priority retryAt traceId uuid now with
  | case1 => exact .refl timed key now store
  | case2 => exact .refl timed key now store
  | case3 _ _ duplicate mailbox ensuredStore ensuredEq =>
    rw [ensuredEq] at ensured
    simp only [arrival, known.mp duplicate, if_true]
    exact ensured
  | case4 _ _ _ mailbox ensuredStore ensuredEq =>
    rw [ensuredEq] at ensured
    exact ensured
  | case5 _ _ new mailbox ensuredStore ensuredEq sequence trace _ item updated
      appended appendedEq =>
      simp only [ensuredEq] at same touched ensured
      have fresh : inboundId ∉ (store.slot key).inboundIds := fun member => new (known.mpr member)
      have numbered : item.sequence = (store.slot key).mailbox.acceptedSequence + 1 := by
        simp only [item, sequence, same]
      have tenant : mailbox.tenantId = key.1 := same ▸ inv.tenant
      have session : mailbox.sessionId = key.2 := same ▸ inv.session
      simp only [arrival, fresh, if_false]
      refine ⟨?_, fun other different => ?_⟩
      · have move : Move timed now (store.slot key) _ (.arrive inboundId) :=
          appendItem_move inv touched same fresh numbered uuid
        rw [appendedEq] at move
        exact move
      · have frame := appendItem_frame tenant session ensuredStore item uuid now different
        rw [appendedEq] at frame
        exact frame.trans (ensured.frame other different)

def claimedLease : Except StorageError (Option MailboxLease) → Option MailboxLease
  | .ok lease => lease
  | .error _ => none

def sessionLease : Except StorageError SessionClaim → Option MailboxLease
  | .ok claim => claim.lease
  | .error _ => none

variable {leaseFor : Time}

theorem takeLease_transition (timed : Prop) (stored : store.mailboxes.get? key = some mailbox)
    {sequence : Nat} (found : (store.itemsOf key).get? sequence = some item)
    (head : sequence = mailbox.resolvedSequence + 1) (due : item.DueAt now)
    (free : laterThan mailbox.leaseExpiresAt now = false) (positive : 0 < leaseFor)
    (ownerId : String) :
    Transition timed key now store
      (store.takeLease key mailbox sequence item ownerId leaseFor now).2
      (.grant (store.takeLease key mailbox sequence item ownerId leaseFor now).1.epoch) := by
  obtain rfl := slot_mailbox_of_get? stored
  refine ⟨?_, fun other different => ?_⟩
  · simp only [takeLease, slot_putMailbox, slot_putItem]
    refine .lease sequence item ownerId (now + leaseFor) found head due free
      (Int.lt_add_of_pos_right now positive) (.item item _ found rfl rfl) ?_ rfl
      rfl ⟨rfl, rfl⟩ rfl rfl rfl rfl rfl rfl rfl rfl
    intro current amended
    rw [Dict.get?_set_self, Option.some.injEq] at amended
    rw [← amended]
  · simp only [takeLease]
    rw [slot_putMailbox_of_ne _ _ different, slot_putItem_of_ne _ _ _ different]

theorem running_of_processing (inv : (store.slot key).Inv timed key clock) {sequence : Nat}
    (processing : (store.slot key).mailbox.processingSequence = some sequence) :
    (store.slot key).mailbox.status = .running := by
  by_contra idle
  rw [(inv.unleased idle).sequence] at processing
  cases processing

theorem claim_transition (inv : (store.slot key).Inv timed key clock)
    (later : clock ≤ now) (ownerId : String) (leaseFor : Time) :
    Transition timed key now store (store.claim key ownerId leaseFor now).2
      (.ofLease (claimedLease (store.claim key ownerId leaseFor now).1)) := by
  fun_cases claim store key ownerId leaseFor now with
  | case6 _ positive mailbox stored free sequence processing item found lease taken takenEq =>
    obtain rfl := slot_mailbox_of_get? stored
    obtain ⟨head, headStored, headProcessing, _, _, _, due⟩ :=
      inv.running (running_of_processing inv processing)
    rw [processing, Option.some.injEq] at headProcessing
    have current : head = item := by
      rw [Slot.Head, ← headProcessing] at headStored
      exact Option.some.inj (headStored.symm.trans found)
    have transition := takeLease_transition timed stored found headProcessing
      (current ▸ due.mono later) (Bool.of_not_eq_true free) (Int.not_le.mp positive) ownerId
    rw [takenEq] at transition
    exact transition
  | case7 _ _ mailbox stored _ _ drained =>
    obtain rfl := slot_mailbox_of_get? stored
    have ordered := inv.numbered.ordered
    have idle := inv.idle.mpr (by omega)
    exact .putMailbox (.refl _ _) (.skip now (by rw [← idle]) rfl rfl)
  | case9 _ _ mailbox stored _ processing _ sequence item found waits =>
    obtain rfl := slot_mailbox_of_get? stored
    have free := inv.unleased fun running => by
      obtain ⟨_, _, inFlight, _⟩ := inv.running running
      rw [processing] at inFlight
      cases inFlight
    exact .putMailbox (.refl _ _) (.settle .same rfl rfl ⟨rfl, rfl⟩ rfl
      ⟨free.sequence, free.inbound, free.owner, free.expiry⟩
      (.waiting item found rfl rfl (fun _ => laterThan_isSome waits) rfl rfl))
  | case10 _ positive mailbox stored free _ _ sequence item found due lease taken takenEq =>
    have transition := takeLease_transition timed stored found rfl (Bool.of_not_eq_true due)
      (Bool.of_not_eq_true free) (Int.not_le.mp positive) ownerId
    rw [takenEq] at transition
    exact transition
  | _ => exact .refl timed key now store

variable {lease : MailboxLease}

theorem claim_held {ownerId : String}
    (claimed : claimedLease (store.claim key ownerId leaseFor now).1 = some lease) :
    lease.key = key ∧ ((store.claim key ownerId leaseFor now).2.slot key).mailbox.HeldBy lease ∧
      ((store.claim key ownerId leaseFor now).2.slot key).mailbox.leaseExpiresAt =
        some lease.expiresAt := by
  revert claimed
  fun_cases claim store key ownerId leaseFor now with
  | case6 _ _ mailbox _ _ sequence _ item _ taken after takenEq =>
    intro claimed
    cases claimed
    cases takenEq
    rw [slot_putMailbox]
    exact ⟨rfl, ⟨rfl, rfl, rfl, rfl, rfl⟩, rfl⟩
  | case10 _ _ mailbox _ _ _ _ sequence item _ _ taken after takenEq =>
    intro claimed
    cases claimed
    cases takenEq
    rw [slot_putMailbox]
    exact ⟨rfl, ⟨rfl, rfl, rfl, rfl, rfl⟩, rfl⟩
  | _ =>
    intro claimed
    cases claimed

theorem claimSession_cases (store : MailboxStore) (key : SessionKey)
    (ownerId : String) (leaseFor : Time)
    (expectedGeneration expectedEpoch : Option Int)
    (acceptance : Option Acceptance) (now : Time) :
    let result := store.claimSession key ownerId leaseFor expectedGeneration
      expectedEpoch acceptance now
    (sessionLease result.1 = none ∧ result.2 = store) ∨ (sessionLease result.1 =
          claimedLease (store.claim key ownerId leaseFor now).1 ∧
        result.2 = (store.claim key ownerId leaseFor now).2) := by
  simp only
  fun_cases claimSession store key ownerId leaseFor expectedGeneration
    expectedEpoch acceptance now with
  | case1 => exact .inl ⟨rfl, rfl⟩
  | _ =>
    rename_i claimedEq
    rw [claimedEq]
    exact .inr ⟨rfl, rfl⟩

theorem claimSession_transition (inv : (store.slot key).Inv timed key clock) (later : clock ≤ now)
    (ownerId : String) (leaseFor : Time) (expectedGeneration expectedEpoch : Option Int)
    (acceptance : Option Acceptance) :
    Transition timed key now store
      (store.claimSession key ownerId leaseFor expectedGeneration expectedEpoch acceptance now).2
      (.ofLease (sessionLease (store.claimSession key ownerId leaseFor
        expectedGeneration expectedEpoch acceptance now).1)) := by
  rcases claimSession_cases store key ownerId leaseFor expectedGeneration
    expectedEpoch acceptance now with ⟨refused, same⟩ | ⟨claimed, same⟩
  · rw [refused, same]
    exact .refl timed key now store
  · rw [claimed, same]
    exact claim_transition inv later ownerId leaseFor

structure Grants (slot : Slot) (now : Time) (lease : MailboxLease) : Prop where
  head : ∃ head, slot.Head head ∧ head.inboundId = lease.inboundId ∧ head.DueAt now
  sequence : lease.sequence = slot.mailbox.resolvedSequence + 1
  free : laterThan slot.mailbox.leaseExpiresAt now = false

theorem grants_of_move {before after : Slot} (move : Move timed now before after label)
    (granted : label = .grant lease.epoch) (held : after.mailbox.HeldBy lease) :
    Grants before now lease := by
  cases move with
  | lease sequence item owner expiry stored head due free _ _ _ _ _ _ _ processing inbound =>
    have same := Option.some.inj (processing.symm.trans held.sequence)
    subst head
    exact ⟨⟨item, stored, Option.some.inj (inbound.symm.trans held.inbound), due⟩, same.symm, free⟩
  | _ => cases granted

theorem claimSession_grants (inv : (store.slot key).Inv timed key clock)
    (later : clock ≤ now) {ownerId : String}
    {expectedGeneration expectedEpoch : Option Int}
    {acceptance : Option Acceptance}
    (claimed : sessionLease (store.claimSession key ownerId leaseFor
      expectedGeneration expectedEpoch acceptance now).1 = some lease) :
    lease.key = key ∧ Grants (store.slot key) now lease := by
  rcases claimSession_cases store key ownerId leaseFor expectedGeneration
    expectedEpoch acceptance now with ⟨refused, _⟩ | ⟨answered, _⟩
  · rw [refused] at claimed
    exact nomatch claimed
  · rw [answered] at claimed
    obtain ⟨keyed, held, _⟩ := claim_held claimed
    have transition := claim_transition inv later ownerId leaseFor
    rw [claimed] at transition
    exact ⟨keyed, grants_of_move transition.move rfl held⟩

theorem renew_transition (timed : Prop) (store : MailboxStore)
    (lease : MailboxLease) (leaseFor now : Time) :
    Transition timed lease.key now store (store.renew lease leaseFor now).2 .silent := by
  fun_cases renew store lease leaseFor now with
  | case3 _ mailbox stored owned expiresAt =>
    obtain rfl := slot_mailbox_of_get? stored
    obtain ⟨held, live⟩ := owns_some_iff.mp owned
    exact .putMailbox (.refl _ _) (.extend expiresAt now held.running live rfl rfl rfl)
  | _ => exact .refl timed lease.key now store

def resolution (lease : MailboxLease) : Except StorageError SessionMailbox → Label
  | .ok _ => .resolve lease.inboundId
  | .error _ => .silent

theorem held_head (inv : (store.slot key).Inv timed key clock)
    (held : (store.slot key).mailbox.HeldBy lease) :
    ∃ head, (store.slot key).Head head ∧
      lease.sequence = (store.slot key).mailbox.resolvedSequence + 1 ∧
      head.inboundId = lease.inboundId := by
  obtain ⟨head, stored, sequence, inbound, _⟩ := inv.running held.running
  rw [held.sequence, Option.some.injEq] at sequence
  rw [held.inbound, Option.some.injEq] at inbound
  exact ⟨head, stored, sequence, inbound.symm⟩

theorem resolve_of_held (inv : (store.slot key).Inv timed key clock)
    (held : (store.slot key).mailbox.HeldBy lease) {after : Slot}
    (items : after.items = (store.slot key).items)
    (accepted : after.mailbox.acceptedSequence = (store.slot key).mailbox.acceptedSequence)
    (resolved : after.mailbox.resolvedSequence = lease.sequence)
    (session : SameSession (store.slot key).mailbox after.mailbox)
    (epoch : after.mailbox.leaseEpoch = (store.slot key).mailbox.leaseEpoch)
    (unleased : after.mailbox.Unleased) (announces : Announces timed now (store.slot key) after) :
    Move timed now (store.slot key) after (.resolve lease.inboundId) := by
  obtain ⟨head, stored, sequence, inbound⟩ := held_head inv held
  rw [← inbound]
  exact .resolve head stored items held.running accepted
    (resolved.trans sequence) session epoch unleased announces

theorem commit_transition (inv : (store.slot lease.key).Inv timed lease.key clock) (uuid : String)
    (now : Time) :
    Transition timed lease.key now store (store.commit lease uuid now).2
      (resolution lease (store.commit lease uuid now).1) := by
  fun_cases commit store lease uuid now with
  | case3 mailbox stored owned _ resolved last =>
    obtain rfl := slot_mailbox_of_get? stored
    obtain ⟨held, _⟩ := owns_some_iff.mp owned
    obtain ⟨head, headStored, sequence, _⟩ := held_head inv held
    -- Without a next item the lease was on the last one.
    have drained : (store.slot lease.key).mailbox.acceptedSequence = lease.sequence := by
      have pending := inv.numbered.head_lt headStored
      by_contra more
      obtain ⟨next, found⟩ := (inv.numbered.get?_isSome_iff
        (lease.sequence + 1)).mpr ⟨by omega, by omega⟩
      exact absurd (last.symm.trans found) (by simp)
    refine .putMailbox (.refl _ _) (resolve_of_held inv held rfl rfl rfl ⟨rfl, rfl⟩ rfl
      ⟨rfl, rfl, rfl, rfl⟩ (.idle ?_ drained rfl rfl))
    simp only [resolved, readyStatus, drained, ge_iff_le, Nat.le_refl, if_true]
  | case4 mailbox stored owned _ ready next found waits resolved =>
    obtain rfl := slot_mailbox_of_get? stored
    obtain ⟨held, _⟩ := owns_some_iff.mp owned
    exact .putMailbox (.refl _ _) (resolve_of_held inv held rfl rfl rfl ⟨rfl, rfl⟩ rfl
      ⟨rfl, rfl, rfl, rfl⟩ (.waiting next found rfl rfl (fun _ => laterThan_isSome waits) rfl rfl))
  | case5 mailbox stored owned _ resolved next found due updated after emitted =>
    obtain rfl := slot_mailbox_of_get? stored
    obtain ⟨held, _⟩ := owns_some_iff.mp owned
    cases emitted
    exact .emitReady (.refl _ _) inv.tenant inv.session (resolve_of_held inv held rfl rfl
      rfl ⟨rfl, rfl⟩ rfl ⟨rfl, rfl, rfl, rfl⟩
      (.woken next _ found (Bool.of_not_eq_true due) rfl rfl rfl rfl))
  | _ => exact .refl timed lease.key now store

theorem readyStatus_of_pending (pending : mailbox.resolvedSequence < mailbox.acceptedSequence)
    (retryAt : Option Time) (now : Time) :
    readyStatus { mailbox with retryAt } mailbox.resolvedSequence now =
      if laterThan retryAt now then .retryWait else .queued := by
  simp only [readyStatus]
  rw [if_neg (by omega)]

/-- Giving up a lease reschedules the head; with `timed`, a release that emits
no wake-up must name the time that ends the wait. -/
theorem release_transition {emitReady : Bool}
    (inv : (store.slot lease.key).Inv timed lease.key clock)
    (scheduled : emitReady = false → timed → retryAt.isSome)
    (priority : Option Priority) (incrementRetry : Bool) (uuid : String)
    (now : Time) : Transition timed lease.key now store
      (store.release lease retryAt priority incrementRetry emitReady uuid now).2
      .silent := by
  fun_cases release store lease retryAt priority incrementRetry emitReady uuid now with
  | case5 _ mailbox stored owned _ item found retries updatedItem putStore status
      updated woken emitted after emittedEq =>
      obtain rfl := slot_mailbox_of_get? stored
      obtain ⟨held, _⟩ := owns_some_iff.mp owned
      obtain ⟨head, headStored, sequence, _⟩ := held_head inv held
      have pending := inv.numbered.head_lt headStored
      have due : updatedItem.DueAt now := by
        obtain ⟨queued, wakes⟩ := woken
        simp only [status, wakes, if_true, readyStatus_of_pending pending] at queued
        simpa [MailboxItem.DueAt, updatedItem] using queued
      cases emittedEq
      refine .emitReady (.putItem _ _ _ _) inv.tenant inv.session ?_
      rw [slot_putItem, sequence]
      exact .settle (.item item updatedItem (sequence ▸ found) rfl rfl) rfl rfl
        ⟨rfl, rfl⟩ rfl ⟨rfl, rfl, rfl, rfl⟩ (.woken updatedItem _
          (Dict.get?_set_self _ _ _) due woken.1 rfl rfl rfl)
  | case6 _ mailbox stored owned _ item found retries updatedItem putStore status updated quiet =>
    obtain rfl := slot_mailbox_of_get? stored
    obtain ⟨held, _⟩ := owns_some_iff.mp owned
    obtain ⟨head, headStored, sequence, _⟩ := held_head inv held
    have pending := inv.numbered.head_lt headStored
    have waits : status = .retryWait ∧ (timed → retryAt.isSome) := by
      cases wakes : emitReady with
      | false => exact ⟨by simp [status, wakes], scheduled wakes⟩
      | true =>
        simp only [status, wakes, if_true, and_true, readyStatus_of_pending pending] at quiet ⊢
        cases later : laterThan retryAt now with
        | true => simp [laterThan_isSome later]
        | false => simp [later] at quiet
    refine .putMailbox (.putItem _ _ _ _) ?_
    rw [slot_putItem, sequence]
    exact .settle (.item item updatedItem (sequence ▸ found) rfl rfl) rfl rfl
      ⟨rfl, rfl⟩ rfl ⟨rfl, rfl, rfl, rfl⟩ (.waiting updatedItem
        (Dict.get?_set_self _ _ _) waits.1 rfl waits.2 rfl rfl)
  | _ => exact .refl timed lease.key now store

theorem activeSequence_eq (inv : (store.slot key).Inv timed key clock) :
    (store.slot key).mailbox.activeSequence = (store.slot key).mailbox.resolvedSequence + 1 := by
  by_cases running : (store.slot key).mailbox.status = .running
  · obtain ⟨_, _, processing, _⟩ := inv.running running
    simp [activeSequence, processing]
  · simp [activeSequence, (inv.unleased running).sequence]

/-- The status recovery gives a mailbox, with the head it was read from. -/
inductive HeadOutcome (slot : Slot) (now : Time) :
    Option MailboxItem → MailboxStatus × Option Time → Prop
  | idle (drained : slot.mailbox.acceptedSequence = slot.mailbox.resolvedSequence) :
      HeadOutcome slot now none (.idle, none)
  | waiting (head : MailboxItem) (stored : slot.Head head)
      (waits : laterThan head.retryAt now = true) :
      HeadOutcome slot now (some head) (.retryWait, head.retryAt)
  | due (head : MailboxItem) (stored : slot.Head head) (due : head.DueAt now) :
      HeadOutcome slot now (some head) (.queued, none)

theorem headStatus_outcome (inv : (store.slot key).Inv timed key clock) (now : Time) :
    HeadOutcome (store.slot key) now
      ((store.itemsOf key).get? (store.slot key).mailbox.activeSequence)
      (headStatus (store.slot key).mailbox
        ((store.itemsOf key).get? (store.slot key).mailbox.activeSequence)
        now) := by
  have active := activeSequence_eq inv
  cases found : (store.itemsOf key).get? (store.slot key).mailbox.activeSequence with
  | none =>
    have ordered := inv.numbered.ordered
    refine .idle ?_
    by_contra more
    obtain ⟨head, stored⟩ := inv.numbered.exists_head (by omega)
    rw [Slot.Head, ← active] at stored
    exact absurd (found.symm.trans stored) (by simp)
  | some head =>
    have stored : (store.slot key).Head head := by
      rw [Slot.Head, ← active]
      exact found
    have pending := inv.numbered.head_lt stored
    simp only [headStatus]
    rw [if_neg (by omega)]
    split
    · exact .waiting head stored ‹_›
    · exact .due head stored (Bool.of_not_eq_true ‹_›)

theorem settle_of_headOutcome {item : Option MailboxItem} {status : MailboxStatus}
    (outcome : HeadOutcome (store.slot key) now item (status, retryAt))
    (quiet : ∀ head, status = .queued → item = some head → False) :
    Move timed now (store.slot key)
      { store.slot key with mailbox := { (store.slot key).mailbox with
        status, processingSequence := none, processingInboundId := none,
        leaseOwner := none, leaseExpiresAt := none, retryAt,
        updatedAt := now } } .silent := by
  cases outcome with
  | idle drained =>
    exact .settle .same rfl rfl ⟨rfl, rfl⟩ rfl ⟨rfl, rfl, rfl, rfl⟩ (.idle rfl drained rfl rfl)
  | waiting head stored waits =>
    exact .settle .same rfl rfl ⟨rfl, rfl⟩ rfl ⟨rfl, rfl, rfl, rfl⟩
      (.waiting head stored rfl rfl (fun _ => laterThan_isSome waits) rfl rfl)
  | due head => exact (quiet head rfl rfl).elim

theorem wake_of_headOutcome {head : MailboxItem}
    (outcome : HeadOutcome (store.slot key) now (some head) (.queued, retryAt))
    {record : OutboxRecord}
    (numbered : record.payload.generation? = some ((store.slot key).mailbox.queueGeneration + 1)) :
    Move timed now (store.slot key)
      { store.slot key with
        mailbox := { (store.slot key).mailbox with
          status := .queued, processingSequence := none,
          processingInboundId := none,
          queueGeneration := (store.slot key).mailbox.queueGeneration + 1,
          leaseOwner := none, leaseExpiresAt := none, retryAt,
          updatedAt := now }
        ready := (store.slot key).ready ++ [record] } .silent := by
  cases outcome with
  | due _ stored due =>
    exact .settle .same rfl rfl ⟨rfl, rfl⟩ rfl ⟨rfl, rfl, rfl, rfl⟩
      (.woken head record stored due rfl rfl rfl numbered)

section Reconciled

variable (inv : (store.slot key).Inv timed key clock)

include inv

theorem recover_transition (uuid : String) (now : Time) :
    Transition timed key now store (store.recover key uuid now).2 .silent := by
  have outcome := headStatus_outcome inv now
  fun_cases recover store key uuid now with
  | case4 mailbox stored expiresAt _ _ item retryAt head found emitted after
      derived updated emittedEq =>
      obtain rfl := slot_mailbox_of_get? stored
      simp only [item] at found derived
      rw [derived, found] at outcome
      cases emittedEq
      exact .emitReady (.refl _ _) inv.tenant inv.session (wake_of_headOutcome outcome rfl)
  | case5 mailbox stored expiresAt _ _ item status retryAt derived updated quiet =>
    obtain rfl := slot_mailbox_of_get? stored
    rw [derived] at outcome
    exact .putMailbox (.refl _ _) (settle_of_headOutcome outcome quiet)
  | _ => exact .refl timed key now store

theorem exists_record (queued : 1 ≤ (store.slot key).mailbox.queueGeneration) :
    ∃ record ∈ store.outbox, isReadyFor key record = true ∧ record.payload.generation? =
        some (store.slot key).mailbox.queueGeneration := by
  have member : some (store.slot key).mailbox.queueGeneration ∈ (store.slot key).generations := by
    rw [inv.generations]
    refine List.mem_map_of_mem (List.mem_range'_1.mpr ?_)
    omega
  obtain ⟨record, ready, numbered⟩ := List.mem_map.mp member
  obtain ⟨listed, addressed⟩ := List.mem_filter.mp ready
  exact ⟨record, listed, addressed, numbered⟩

theorem requeueReady_eq (mailbox : SessionMailbox) (tenant : mailbox.tenantId = key.1)
    (session : mailbox.sessionId = key.2)
    (generation : mailbox.queueGeneration = (store.slot key).mailbox.queueGeneration)
    (queued : 1 ≤ mailbox.queueGeneration) (item : MailboxItem) (now : Time) (uuid : String) :
    store.requeueReady mailbox item now uuid = (mailbox, store) := by
  obtain ⟨record, listed, addressed, numbered⟩ := exists_record inv (generation ▸ queued)
  have current : max 1 mailbox.queueGeneration = mailbox.queueGeneration := Nat.max_eq_right queued
  have present : (store.outbox.any fun record => isReadyFor (mailbox.tenantId, mailbox.sessionId)
    record && record.payload.generation? = some mailbox.queueGeneration) = true := by
    refine List.any_eq_true.mpr ⟨record, listed, ?_⟩
    rw [tenant, session, generation]
    simp [addressed, numbered]
  simp only [requeueReady, current, present, if_true]

theorem reconcile_transition (uuid : String) (now : Time) :
    Transition timed key now store (store.reconcile key uuid now).2 .silent := by
  have outcome := headStatus_outcome inv now
  fun_cases reconcile store key uuid now with
  | case2 mailbox stored active updated =>
    obtain rfl := slot_mailbox_of_get? stored
    have running : (store.slot key).mailbox.status = .running := by
      simp only [leaseActive, Bool.and_eq_true] at active
      obtain ⟨sequence, processing⟩ := Option.isSome_iff_exists.mp active.1.1.1
      exact running_of_processing inv processing
    exact .putMailbox (.refl _ _) (.skip now (by simp only [updated, running]) rfl rfl)
  | case4 mailbox stored _ item retryAt head found _ replayed requeued after
      derived updated requeuedEq =>
      obtain rfl := slot_mailbox_of_get? stored
      simp only [item] at found derived
      rw [derived, found] at outcome
      rw [requeueReady_eq inv updated inv.tenant inv.session rfl replayed.2] at requeuedEq
      obtain ⟨rfl, rfl⟩ := Prod.mk.inj requeuedEq
      cases outcome with
      | due _ headStored due =>
        exact .putMailbox (.refl _ _) (.settle .same rfl rfl ⟨rfl, rfl⟩ rfl ⟨rfl, rfl, rfl, rfl⟩
          (.queued head headStored due replayed.1 rfl rfl rfl))
  | case5 mailbox stored _ item retryAt head found _ _ emitted after derived updated emittedEq =>
    obtain rfl := slot_mailbox_of_get? stored
    simp only [item] at found derived
    rw [derived, found] at outcome
    cases emittedEq
    exact .emitReady (.refl _ _) inv.tenant inv.session (wake_of_headOutcome outcome rfl)
  | case6 mailbox stored _ item status retryAt derived updated quiet =>
    obtain rfl := slot_mailbox_of_get? stored
    rw [derived] at outcome
    exact .putMailbox (.refl _ _) (settle_of_headOutcome outcome quiet)
  | _ => exact .refl timed key now store

end Reconciled

end MailboxStore

end TrpcService.Storage
