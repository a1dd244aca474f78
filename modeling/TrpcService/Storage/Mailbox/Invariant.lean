import TrpcService.Storage.Mailbox.Machine

namespace TrpcService.Storage

open Data Label

/-! The representation invariant of one session's mailbox, and that every move
of the machine keeps it. -/

def Slot.Head (slot : Slot) (item : MailboxItem) : Prop :=
  slot.items.get? (slot.mailbox.resolvedSequence + 1) = some item

structure Slot.Numbered (slot : Slot) : Prop where
  ordered : slot.mailbox.resolvedSequence ≤ slot.mailbox.acceptedSequence
  keys : slot.items.keys = List.range' 1 slot.mailbox.acceptedSequence
  sequences : ∀ sequence item, slot.items.get? sequence = some item → item.sequence = sequence
  distinct : slot.inboundIds.Nodup

structure Slot.Inv (timed : Prop) (key : SessionKey) (clock : Time) (slot : Slot) : Prop where
  tenant : slot.mailbox.tenantId = key.1
  session : slot.mailbox.sessionId = key.2
  numbered : slot.Numbered
  idle : slot.mailbox.status = .idle ↔ slot.mailbox.acceptedSequence = slot.mailbox.resolvedSequence
  running : slot.mailbox.status = .running → ∃ head, slot.Head head ∧
    slot.mailbox.processingSequence = some (slot.mailbox.resolvedSequence + 1) ∧
    slot.mailbox.processingInboundId = some head.inboundId ∧
    slot.mailbox.leaseOwner.isSome ∧ slot.mailbox.leaseExpiresAt.isSome ∧
    head.DueAt clock
  unleased : slot.mailbox.status ≠ .running → slot.mailbox.Unleased
  waiting : slot.mailbox.status = .retryWait → ∃ head, slot.Head head ∧
    slot.mailbox.retryAt = head.retryAt ∧ (timed → head.retryAt.isSome)
  queued : slot.mailbox.status = .queued → ∃ head, slot.Head head ∧ head.DueAt clock
  announced : slot.mailbox.status = .queued → 1 ≤ slot.mailbox.queueGeneration
  generations : slot.generations = (List.range' 1 slot.mailbox.queueGeneration).map some

namespace Slot

variable {timed : Prop} {key : SessionKey} {clock now : Time}
variable {slot before after : Slot}

theorem Numbered.get?_isSome_iff (numbered : slot.Numbered) (sequence : Nat) :
    (∃ item, slot.items.get? sequence = some item) ↔
      1 ≤ sequence ∧ sequence ≤ slot.mailbox.acceptedSequence := by
  rw [← Dict.mem_keys_iff, numbered.keys, List.mem_range'_1]
  omega

variable {head : MailboxItem}

theorem Numbered.head_lt (numbered : slot.Numbered) (stored : slot.Head head) :
    slot.mailbox.resolvedSequence < slot.mailbox.acceptedSequence := by
  have bounds := (numbered.get?_isSome_iff _).mp ⟨head, stored⟩
  omega

theorem Numbered.exists_head (numbered : slot.Numbered)
    (pending : slot.mailbox.resolvedSequence < slot.mailbox.acceptedSequence) :
    ∃ head, slot.Head head :=
  (numbered.get?_isSome_iff _).mpr ⟨by omega, by omega⟩

variable {item : MailboxItem}

theorem Numbered.append (numbered : before.Numbered) (fresh : item.inboundId ∉ before.inboundIds)
    (sequence : item.sequence = before.mailbox.acceptedSequence + 1)
    (items : after.items = before.items.set item.sequence item)
    (accepted : after.mailbox.acceptedSequence = item.sequence)
    (resolved : after.mailbox.resolvedSequence = before.mailbox.resolvedSequence) :
    after.Numbered := by
  have absent : item.sequence ∉ before.items.keys := by
    rw [numbered.keys, List.mem_range'_1]
    omega
  have ordered := numbered.ordered
  refine ⟨by omega, ?_, ?_, ?_⟩
  · rw [items, Dict.keys_set_of_not_mem _ _ absent, numbered.keys, accepted,
      sequence, List.range'_concat]
    congr 2
    omega
  · intro position stored found
    rw [items, Dict.get?_set] at found
    split at found
    · rename_i same
      cases found
      exact same
    · exact numbered.sequences position stored found
  · rw [inboundIds, items, Dict.values_set_of_not_mem _ _ absent, List.map_append]
    refine List.nodup_append.mpr ⟨numbered.distinct, by simp, ?_⟩
    intro left leftMember right rightMember equal
    simp only [List.map_cons, List.map_nil, List.mem_singleton] at rightMember
    exact fresh (rightMember ▸ equal ▸ leftMember)

theorem Numbered.append_head (numbered : before.Numbered)
    (sequence : item.sequence = before.mailbox.acceptedSequence + 1)
    (items : after.items = before.items.set item.sequence item)
    (resolved : after.mailbox.resolvedSequence = before.mailbox.resolvedSequence)
    (stored : before.Head head) : after.Head head := by
  have pending := numbered.head_lt stored
  have elsewhere : item.sequence ≠ before.mailbox.resolvedSequence + 1 := by
    omega
  rw [Head, items, resolved, Dict.get?_set_of_ne _ _ elsewhere]
  exact stored

theorem Numbered.amend (numbered : before.Numbered) {sequence : Nat}
    (items : Amends sequence before.items after.items)
    (accepted : after.mailbox.acceptedSequence = before.mailbox.acceptedSequence)
    (ordered : after.mailbox.resolvedSequence ≤ before.mailbox.acceptedSequence) :
    after.Numbered := by
  refine ⟨by omega, ?_, ?_, ?_⟩
  · rw [items.keys, numbered.keys, accepted]
  · intro position item stored
    obtain ⟨old, found, -, same⟩ := items.origin stored
    rw [same]
    exact numbered.sequences position old found
  · rw [inboundIds, items.inboundIds]
    exact numbered.distinct

theorem Inv.generations_unchanged (inv : before.Inv timed key clock)
    (generation : after.mailbox.queueGeneration = before.mailbox.queueGeneration)
    (ready : after.ready = before.ready) :
    after.generations = (List.range' 1 after.mailbox.queueGeneration).map some := by
  rw [Slot.generations, ready, generation]
  exact inv.generations

theorem Inv.of_announces (inv : before.Inv timed key clock) (numbered : after.Numbered)
    (session : SameSession before.mailbox after.mailbox) (unleased : after.mailbox.Unleased)
    (announces : Announces timed now before after) : after.Inv timed key now := by
  have tenant : after.mailbox.tenantId = key.1 := session.tenant.trans inv.tenant
  have sessionId : after.mailbox.sessionId = key.2 := session.session.trans inv.session
  cases announces with
  | idle status drained generation ready =>
    exact {
      tenant, session := sessionId, numbered
      idle := by simp [status, drained]
      running := by simp [status]
      unleased := fun _ => unleased
      waiting := by simp [status]
      queued := by simp [status]
      announced := by simp [status]
      generations := inv.generations_unchanged generation ready }
  | waiting head stored status retry scheduled generation ready =>
    have pending := numbered.head_lt stored
    exact {
      tenant, session := sessionId, numbered
      idle := by simp [status]; omega
      running := by simp [status]
      unleased := fun _ => unleased
      waiting := fun _ => ⟨head, stored, retry, scheduled⟩
      queued := by simp [status]
      announced := by simp [status]
      generations := inv.generations_unchanged generation ready }
  | woken head record stored due status generation ready recorded =>
    have pending := numbered.head_lt stored
    exact {
      tenant, session := sessionId, numbered
      idle := by simp [status]; omega
      running := by simp [status]
      unleased := fun _ => unleased
      waiting := by simp [status]
      queued := fun _ => ⟨head, stored, due⟩
      announced := fun _ => by omega
      generations := by
        have earlier := inv.generations
        rw [Slot.generations] at earlier
        rw [Slot.generations, ready, List.map_append, earlier, generation,
          List.range'_concat, List.map_append]
        simp [recorded, generation, Nat.add_comm] }
  | queued head stored due was status generation ready =>
    have pending := numbered.head_lt stored
    exact {
      tenant, session := sessionId, numbered
      idle := by simp [status]; omega
      running := by simp [status]
      unleased := fun _ => unleased
      waiting := by simp [status]
      queued := fun _ => ⟨head, stored, due⟩
      announced := fun _ => by
        have earlier := inv.announced was
        omega
      generations := inv.generations_unchanged generation ready }

theorem Inv.mono (inv : slot.Inv timed key clock) (later : clock ≤ now) :
    slot.Inv timed key now where
  tenant := inv.tenant
  session := inv.session
  numbered := inv.numbered
  idle := inv.idle
  running := fun status => by
    obtain ⟨head, stored, sequence, inbound, owner, expiry, due⟩ := inv.running status
    exact ⟨head, stored, sequence, inbound, owner, expiry, due.mono later⟩
  unleased := inv.unleased
  waiting := inv.waiting
  queued := fun status => by
    obtain ⟨head, stored, due⟩ := inv.queued status
    exact ⟨head, stored, due.mono later⟩
  announced := inv.announced
  generations := inv.generations

theorem Inv.stamp (inv : before.Inv timed key clock) {expiry : Option Time} {updatedAt : Time}
    (leased : before.mailbox.status = .running → expiry.isSome)
    (free : before.mailbox.status ≠ .running → expiry = none)
    (mailbox : after.mailbox = { before.mailbox with leaseExpiresAt := expiry, updatedAt })
    (items : after.items = before.items) (ready : after.ready = before.ready) :
    after.Inv timed key clock := by
  obtain ⟨afterMailbox, afterItems, afterReady⟩ := after
  simp only at mailbox items ready
  subst mailbox items ready
  exact {
    tenant := inv.tenant, session := inv.session
    numbered := ⟨inv.numbered.ordered, inv.numbered.keys,
      inv.numbered.sequences, inv.numbered.distinct⟩
    idle := inv.idle
    running := fun status => by
      obtain ⟨head, stored, sequence, inbound, owner, _, due⟩ :=
        inv.running status
      exact ⟨head, stored, sequence, inbound, owner, leased status, due⟩
    unleased := fun status =>
      let ended := inv.unleased status
      ⟨ended.sequence, ended.inbound, ended.owner, free status⟩
    waiting := inv.waiting, queued := inv.queued
    announced := inv.announced, generations := inv.generations }

theorem Inv.appendBusy (inv : before.Inv timed key clock)
    (fresh : item.inboundId ∉ before.inboundIds)
    (numbered : item.sequence = before.mailbox.acceptedSequence + 1)
    (items : after.items = before.items.set item.sequence item)
    (accepted : after.mailbox.acceptedSequence = item.sequence)
    (resolved : after.mailbox.resolvedSequence = before.mailbox.resolvedSequence)
    (session : SameSession before.mailbox after.mailbox)
    (lease : SameLease before.mailbox after.mailbox)
    (busy : before.mailbox.status = .queued ∨ before.mailbox.status = .running)
    (status : after.mailbox.status = before.mailbox.status)
    (generation : after.mailbox.queueGeneration = before.mailbox.queueGeneration)
    (ready : after.ready = before.ready) : after.Inv timed key clock := by
  have keep : ∀ head, before.Head head → after.Head head := fun _ =>
    inv.numbered.append_head numbered items resolved
  have ordered := inv.numbered.ordered
  exact {
    tenant := session.tenant.trans inv.tenant
    session := session.session.trans inv.session
    numbered := inv.numbered.append fresh numbered items accepted resolved
    idle := by
      rcases busy with busy | busy <;> simp [status, busy] <;> omega
    running := fun running => by
      obtain ⟨head, stored, sequence, inbound, owner, expiry, due⟩ :=
        inv.running (status ▸ running)
      refine ⟨head, keep head stored, ?_, ?_, ?_, ?_, due⟩
      · rw [lease.sequence, resolved, sequence]
      · rw [lease.inbound, inbound]
      · rw [lease.owner]; exact owner
      · rw [lease.expiry]; exact expiry
    unleased := fun idle =>
      let free := inv.unleased (status ▸ idle)
      ⟨lease.sequence.trans free.sequence, lease.inbound.trans free.inbound,
        lease.owner.trans free.owner, lease.expiry.trans free.expiry⟩
    waiting := by
      rcases busy with busy | busy <;> simp [status, busy]
    queued := fun queued => by
      obtain ⟨head, stored, due⟩ := inv.queued (status ▸ queued)
      exact ⟨head, keep head stored, due⟩
    announced := fun queued => by
      rw [generation]
      exact inv.announced (status ▸ queued)
    generations := inv.generations_unchanged generation ready }

theorem Inv.lease (inv : before.Inv timed key clock) {sequence : Nat} {owner : String}
    {expiry : Time} (stored : before.items.get? sequence = some item)
    (head : sequence = before.mailbox.resolvedSequence + 1) (due : item.DueAt now)
    (items : Amends sequence before.items after.items)
    (retry : ∀ current, after.items.get? sequence = some current → current.retryAt = item.retryAt)
    (accepted : after.mailbox.acceptedSequence = before.mailbox.acceptedSequence)
    (resolved : after.mailbox.resolvedSequence = before.mailbox.resolvedSequence)
    (session : SameSession before.mailbox after.mailbox) (status : after.mailbox.status = .running)
    (processing : after.mailbox.processingSequence = some sequence)
    (inbound : after.mailbox.processingInboundId = some item.inboundId)
    (owned : after.mailbox.leaseOwner = some owner)
    (expires : after.mailbox.leaseExpiresAt = some expiry)
    (generation : after.mailbox.queueGeneration = before.mailbox.queueGeneration)
    (ready : after.ready = before.ready) : after.Inv timed key now := by
  subst head
  have pending := inv.numbered.head_lt stored
  have numbered : after.Numbered := inv.numbered.amend items accepted (by omega)
  obtain ⟨current, found⟩ := numbered.exists_head (by omega)
  have here : after.items.get? (before.mailbox.resolvedSequence + 1) = some current := by
    rw [Head, resolved] at found
    exact found
  obtain ⟨old, original, sameInbound, _⟩ := items.origin here
  rw [stored, Option.some.injEq] at original
  subst original
  exact {
    tenant := session.tenant.trans inv.tenant
    session := session.session.trans inv.session
    numbered
    idle := by simp [status]; omega
    running := fun _ => by
      refine ⟨current, found, ?_, ?_, ?_, ?_, ?_⟩
      · rw [processing, resolved]
      · rw [inbound, sameInbound]
      · simp [owned]
      · simp [expires]
      · rw [MailboxItem.DueAt, retry current here]
        exact due
    unleased := fun other => absurd status other
    waiting := by simp [status]
    queued := by simp [status]
    announced := by simp [status]
    generations := inv.generations_unchanged generation ready }

variable {label : Label}

theorem Inv.move (inv : before.Inv timed key clock) (later : clock ≤ now)
    (move : Move timed now before after label) : after.Inv timed key now := by
  cases move with
  | skip updatedAt mailbox items ready =>
    refine (inv.stamp ?_ (fun idle => (inv.unleased idle).expiry) mailbox items ready).mono later
    intro running
    obtain ⟨_, _, _, _, _, leased, _⟩ := inv.running running
    exact leased
  | appendBusy item fresh numbered items accepted resolved session lease busy
      status generation ready =>
      exact (inv.appendBusy fresh numbered items accepted resolved session lease
        busy status generation ready).mono later
  | appendSettled item fresh numbered items accepted resolved session epoch unleased announces =>
    exact inv.of_announces (inv.numbered.append fresh numbered items accepted resolved) session
      unleased announces
  | lease sequence item owner expiry stored head due free unexpired items retry
      accepted resolved session status processing inbound owned expires epoch
      generation ready =>
      exact inv.lease stored head due items retry accepted resolved session
        status processing inbound owned expires generation ready
  | extend expiry updatedAt running live mailbox items ready =>
    exact (inv.stamp (fun _ => rfl) (absurd running) mailbox items ready).mono later
  | settle items accepted resolved session epoch unleased announces =>
    have ordered := inv.numbered.ordered
    exact inv.of_announces (inv.numbered.amend items accepted (by omega)) session unleased announces
  | resolve head stored items running accepted resolved session epoch unleased announces =>
    have pending := inv.numbered.head_lt stored
    have unchanged : Amends 0 before.items after.items := items ▸ .same
    exact inv.of_announces (inv.numbered.amend unchanged accepted (by omega))
      session unleased announces

theorem arrivals_of_move (move : Move timed now before after label) (numbered : before.Numbered) :
    after.inboundIds = before.inboundIds ++ label.arrivals ∧ after.mailbox.acceptedSequence =
        before.mailbox.acceptedSequence + label.arrivals.length := by
  have appended : ∀ item : MailboxItem, item.sequence = before.mailbox.acceptedSequence + 1 →
      after.items = before.items.set item.sequence item →
      after.inboundIds = before.inboundIds ++ [item.inboundId] := by
    intro item sequence items
    have absent : item.sequence ∉ before.items.keys := by
      rw [numbered.keys, List.mem_range'_1]
      omega
    rw [inboundIds, items, Dict.values_set_of_not_mem _ _ absent, List.map_append]
    rfl
  cases move with
  | skip updatedAt mailbox items ready => simp [arrivals, inboundIds, mailbox, items]
  | appendBusy item fresh sequence items accepted =>
    exact ⟨appended item sequence items, accepted.trans sequence⟩
  | appendSettled item fresh sequence items accepted =>
    exact ⟨appended item sequence items, accepted.trans sequence⟩
  | lease sequence item owner expiry stored head due free unexpired items retry accepted =>
    simp [arrivals, inboundIds, items.inboundIds, accepted]
  | extend expiry updatedAt running live mailbox items ready =>
    simp [arrivals, inboundIds, mailbox, items]
  | settle items accepted => simp [arrivals, inboundIds, items.inboundIds, accepted]
  | resolve head stored items running accepted => simp [arrivals, inboundIds, items, accepted]

theorem Numbered.inboundIds_head (numbered : slot.Numbered) (stored : slot.Head head) :
    slot.inboundIds[slot.mailbox.resolvedSequence]? = some head.inboundId := by
  have found := Dict.get?_of_keys_range numbered.keys slot.mailbox.resolvedSequence
  rw [Head] at stored
  rw [Nat.add_comm, stored] at found
  rw [inboundIds, List.getElem?_map, ← found]
  rfl

theorem resolutions_of_move (move : Move timed now before after label)
    (numbered : before.Numbered) :
    after.mailbox.resolvedSequence = before.mailbox.resolvedSequence + label.resolutions.length ∧
      ∀ inboundId, label = .resolve inboundId →
        before.inboundIds[before.mailbox.resolvedSequence]? = some inboundId := by
  cases move with
  | resolve head stored items running accepted resolved =>
    refine ⟨resolved, ?_⟩
    rintro inboundId ⟨⟩
    exact numbered.inboundIds_head stored
  | skip updatedAt mailbox items ready => simp [resolutions, mailbox]
  | extend expiry updatedAt running live mailbox items ready => simp [resolutions, mailbox]
  | _ => simp_all [resolutions]

theorem epoch_of_move (move : Move timed now before after label) :
    (∃ epoch, label = .grant epoch ∧ after.mailbox.leaseEpoch = epoch ∧
        epoch = before.mailbox.leaseEpoch + 1) ∨
      ((∀ epoch, label ≠ .grant epoch) ∧ after.mailbox.leaseEpoch = before.mailbox.leaseEpoch) := by
  cases move with
  | lease sequence item owner expiry stored head due free unexpired items retry
      accepted resolved session status processing inbound owned expires epoch =>
      exact .inl ⟨_, rfl, rfl, epoch⟩
  | skip updatedAt mailbox items ready => exact .inr ⟨by simp, by rw [mailbox]⟩
  | extend expiry updatedAt running live mailbox items ready =>
    exact .inr ⟨by simp, by rw [mailbox]⟩
  | appendBusy item fresh sequence items accepted resolved session lease =>
    exact .inr ⟨by simp, lease.epoch⟩
  | appendSettled item fresh sequence items accepted resolved session epoch =>
    exact .inr ⟨by simp, epoch⟩
  | settle items accepted resolved session epoch => exact .inr ⟨by simp, epoch⟩
  | resolve head stored items running accepted resolved session epoch => exact .inr ⟨by simp, epoch⟩

def pending (slot : Slot) : List String := slot.inboundIds.drop slot.mailbox.resolvedSequence

theorem Numbered.pending_of_drained (numbered : slot.Numbered)
    (drained : slot.mailbox.acceptedSequence ≤ slot.mailbox.resolvedSequence) :
    slot.pending = [] := by
  have counted : slot.inboundIds.length = slot.mailbox.acceptedSequence := by
    have keys := congrArg List.length numbered.keys
    simpa [inboundIds, Dict.values, Dict.keys] using keys
  rw [pending, List.drop_eq_nil_of_le]
  omega

theorem Numbered.head_pending (numbered : slot.Numbered)
    (stored : slot.Head head) : head.inboundId ∈ slot.pending := by
  have found := numbered.inboundIds_head stored
  rw [pending, List.mem_iff_getElem?]
  refine ⟨0, ?_⟩
  rw [List.getElem?_drop]
  exact found

variable (move : Move timed now before after label)

include move

theorem mem_inboundIds_of_move (numbered : before.Numbered) {inboundId : String}
    (member : inboundId ∈ after.inboundIds) :
    inboundId ∈ before.inboundIds ∨ inboundId ∈ label.arrivals := by
  rw [(arrivals_of_move move numbered).1] at member
  exact List.mem_append.mp member

theorem mem_pending_of_move (numbered : before.Numbered)
    {inboundId : String} (member : inboundId ∈ after.pending) :
    inboundId ∈ before.pending ∨ inboundId ∈ label.arrivals := by
  rw [pending, (arrivals_of_move move numbered).1,
    (resolutions_of_move move numbered).1, List.drop_append] at member
  rcases List.mem_append.mp member with old | new
  · rw [← List.drop_drop] at old
    exact .inl (List.mem_of_mem_drop old)
  · exact .inr (List.mem_of_mem_drop new)

theorem epoch_le_of_move : before.mailbox.leaseEpoch ≤ after.mailbox.leaseEpoch := by
  rcases epoch_of_move move with ⟨epoch, _, same, next⟩ | ⟨_, same⟩
  · omega
  · exact Nat.le_of_eq same.symm

end Slot

end TrpcService.Storage
