import TrpcService.Storage.Mailbox.Machine
import TrpcService.Storage.Postgres.Invariant

namespace TrpcService.Storage.Postgres

open Data MailboxStore

/-! The effect of the mailbox writes, and of the mailbox store's transactions,
on the session they work on. -/

theorem Constraints.checks {tables : Tables} (valid : Constraints tables) {key : SessionKey}
    {mailbox : SessionMailbox} (stored : tables.sessionMailboxes.get? key = some mailbox) :
    MailboxChecks mailbox :=
  valid.mailboxes mailbox ((tables.sessionMailboxes.mem_values_iff mailbox).mpr ⟨key, stored⟩)

inductive Settles (before updated : SessionMailbox) : Prop
  | idle (status : updated.status = .idle)
      (drained : updated.acceptedSequence = updated.resolvedSequence)
  | waiting (status : updated.status = .retryWait) (timed : updated.retryAt.isSome)
      (pending : updated.resolvedSequence < updated.acceptedSequence)
  | running (status : updated.status = .running) (processing : updated.processingSequence =
        some (updated.resolvedSequence + 1))
      (pending : updated.resolvedSequence < updated.acceptedSequence)
  | queued (status : updated.status = .queued) (was : before.status = .queued)
      (pending : updated.resolvedSequence < updated.acceptedSequence)

theorem Settles.posted {key : SessionKey} {before after : Tables}
    (settles : Settles (before.mailbox key) (after.mailbox key))
    (unannounced : Unannounced key before after) : Posted key before after := by
  cases settles with
  | idle status drained => exact .idle status drained unannounced
  | waiting status timed pending => exact .waiting status timed pending unannounced
  | running status processing pending => exact .running status processing pending unannounced
  | queued status was pending => exact .queued status was pending unannounced

namespace Tables

variable {tables after : Tables} {key : SessionKey}
variable {mailbox updated : SessionMailbox}

structure ItemsOnly (key : SessionKey) (tables base : Tables) : Prop where
  mailboxes : base.sessionMailboxes = tables.sessionMailboxes
  outbox : base.outboxEvents = tables.outboxEvents
  sessions : base.sessions = tables.sessions
  items : ∀ other, other ≠ key → ∀ sequence, base.item? other sequence = tables.item? other sequence

theorem ItemsOnly.refl : ItemsOnly key tables tables := ⟨rfl, rfl, rfl, fun _ _ _ => rfl⟩

theorem itemsOnly_putItem (sequence : Nat) (item : ItemRow) :
    ItemsOnly key tables (tables.putItem key sequence item) :=
  ⟨rfl, rfl, rfl, fun _ different position =>
    (tables.untouched_putItem sequence item different).items position⟩

variable {base : Tables}

theorem ItemsOnly.untouched (only : ItemsOnly key tables base)
    {other : SessionKey} (different : other ≠ key) :
    Untouched other tables base where
  mailbox := by rw [Tables.mailbox, only.mailboxes, Tables.mailbox]
  items := only.items other different
  announced _ := by rw [announced, only.outbox, announced]
  session := by rw [only.sessions]

theorem effect_post (only : ItemsOnly key tables base)
    (counted : Counted key tables (base.putMailbox key updated))
    (generation : updated.queueGeneration = (tables.mailbox key).queueGeneration)
    (unleased : updated.status ≠ .running → updated.processingSequence = none)
    (settles : Settles (tables.mailbox key) updated) :
    Effect key tables (base.putMailbox key updated) none where
  mailbox := by
    refine .single (.write counted ?_ (Settles.posted ?_ ⟨?_, fun number => ?_⟩))
    · rwa [mailbox_putMailbox]
    · rwa [mailbox_putMailbox]
    · rw [mailbox_putMailbox, generation]
    · rw [announced_putMailbox, announced, only.outbox, announced]
  lease := by
    refine .keep ?_ (.inl ?_)
    · rw [leaseEpoch, sessions_putMailbox, only.sessions, leaseEpoch]
    · rw [leaseOwner, sessions_putMailbox, only.sessions, leaseOwner]
  frame _ different := (only.untouched different).trans
    (base.untouched_putMailbox updated different)

variable {uuid : String}

theorem effect_wake (inv : MailboxInv key tables) (only : ItemsOnly key tables base)
    (unused : tables.outboxEvents.get? (key.1, uuid) = none) (priority : Int)
    (traceId : String) (traceHeaders : List (String × String))
    (now createdAt : Time)
    (counted : Counted key tables (base.putMailbox key updated))
    (generation : updated.queueGeneration = (tables.mailbox key).queueGeneration + 1)
    (status : updated.status = .queued)
    (unleased : updated.processingSequence = none)
    (pending : updated.resolvedSequence < updated.acceptedSequence) :
    Effect key tables ((base.putMailbox key updated).insertReady key
      updated.queueGeneration priority traceId traceHeaders uuid now
      createdAt) none where
  mailbox := by
    have same : ∀ number, (base.putMailbox key updated).announced key number =
        tables.announced key number := fun number => by
      rw [announced_putMailbox, announced, only.outbox, announced]
    refine .single (.write ?_ ?_ (.woken ?_ ?_ ?_ fun number => ?_))
    · cases counted with
      | same accepted items => exact .same (by simpa using accepted) (by simpa using items)
      | appended accepted items => exact .appended (by simpa using accepted) (by simpa using items)
    · simp [unleased]
    · simp [status]
    · simpa using pending
    · simp [generation]
    · rw [announced_insertReady _ _ _ _ _ _ _ _ _ _ (by rw [outboxEvents_putMailbox, only.outbox,
        unused]) (by rw [same, generation, inv.next_unannounced]), same]
      simp [generation]
  lease := by
    refine .keep ?_ (.inl ?_)
    · rw [leaseEpoch, sessions_insertReady, sessions_putMailbox, only.sessions, leaseEpoch]
    · rw [leaseOwner, sessions_insertReady, sessions_putMailbox, only.sessions, leaseOwner]
  frame _ different := ((only.untouched different).trans (base.untouched_putMailbox updated
    different)).trans (untouched_insertReady _ _ _ _ _ _ _ _ different)

section Accepted

variable (accepted : updated.acceptedSequence = (tables.mailbox key).acceptedSequence)

include accepted

theorem counted_same : Counted key tables (tables.putMailbox key updated) :=
  .same (by rw [mailbox_putMailbox, accepted]) fun _ => rfl

theorem effect_putMailbox
    (generation : updated.queueGeneration = (tables.mailbox key).queueGeneration)
    (unleased : updated.status ≠ .running → updated.processingSequence = none)
    (settles : Settles (tables.mailbox key) updated) :
    Effect key tables (tables.putMailbox key updated) none :=
  effect_post .refl (counted_same accepted) generation unleased settles

end Accepted

theorem insertReady_clearSession (represented : SessionRow → Bool) (generation : Nat)
    (priority : Int) (traceId : String) (traceHeaders : List (String × String)) (uuid : String)
    (now createdAt : Time) :
    (tables.clearSession key represented).insertReady key generation priority
        traceId traceHeaders uuid now createdAt =
      (tables.insertReady key generation priority traceId traceHeaders uuid now
        createdAt).clearSession key represented := by
  rw [insertReady, outboxEvents_clearSession, announced_clearSession, insertReady]
  split
  · rfl
  · simp only [clearSession]
    split
    · split <;> rfl
    · rfl

variable {item : ItemRow}

theorem counted_append (numbered : item.sequence = (tables.mailbox key).acceptedSequence + 1)
    (accepted : updated.acceptedSequence = (tables.mailbox key).acceptedSequence + 1) :
    Counted key tables ((tables.putItem key item.sequence item).putMailbox key updated) := by
  refine .appended (by rw [mailbox_putMailbox, accepted]) fun sequence => ?_
  rw [item?_putMailbox, item?_putItem, numbered]
  split
  · rename_i here
    simp [here]
  · rename_i elsewhere
    simp [Ne.symm elsewhere]

variable {now serverNow updatedAt : Time} {answer : SessionMailbox × Tables}

theorem effect_appendItem (inv : MailboxInv key tables)
    (unused : tables.outboxEvents.get? (key.1, uuid) = none)
    {traceHeaders : List (String × String)} {createdAt : Time}
    (numbered : item.sequence = (tables.mailbox key).acceptedSequence + 1)
    (done : tables.appendItem key (tables.mailbox key) item traceHeaders uuid
      now serverNow updatedAt createdAt = .ok answer) :
    Effect key tables answer.2 none := by
  have ordered := inv.ordered
  rw [appendItem] at done
  split at done
  · cases done
  · cases status : (tables.mailbox key).status with
    | idle | retryWait =>
      have unleased := inv.unleased (by simp [status])
      simp only [acceptStatus, status] at done
      split at done
      all_goals simp at done
      all_goals cases done
      · rename_i later
        refine effect_post (itemsOnly_putItem _ _) (counted_append numbered rfl) rfl
          (fun _ => unleased) (.waiting rfl (laterThan_isSome later) ?_)
        exact Nat.lt_succ_of_le ordered
      · exact effect_wake inv (itemsOnly_putItem _ _) unused _ _ _ _ _ (counted_append numbered rfl)
          rfl rfl unleased (Nat.lt_succ_of_le ordered)
    | queued =>
      have unleased := inv.unleased (by simp [status])
      simp [acceptStatus, status] at done
      cases done
      exact effect_post (itemsOnly_putItem _ _) (counted_append numbered rfl) rfl
        (fun _ => unleased) (.queued rfl status (Nat.lt_succ_of_le ordered))
    | running =>
      simp [acceptStatus, status] at done
      cases done
      exact effect_post (itemsOnly_putItem _ _) (counted_append numbered rfl)
        rfl (fun other => absurd rfl other)
        (.running rfl (inv.running status) (Nat.lt_succ_of_le ordered))

theorem laterThan_cases (instant : Option Time) (now : Time) :
    laterThan instant now = true ∧ instant.isSome ∨ laterThan instant now = false := by
  cases later : laterThan instant now with
  | true => exact .inl ⟨rfl, laterThan_isSome later⟩
  | false => exact .inr rfl

theorem effect_advance (inv : MailboxInv key tables)
    (unused : tables.outboxEvents.get? (key.1, uuid) = none)
    (pending : (tables.mailbox key).resolvedSequence < (tables.mailbox key).acceptedSequence)
    (now serverNow updatedAt createdAt : Time) :
    Effect key tables (tables.advance key (tables.mailbox key)
      ((tables.mailbox key).resolvedSequence + 1) uuid now serverNow updatedAt
      createdAt).2 none := by
  have behind := inv.items ((tables.mailbox key).resolvedSequence + 1 + 1)
  cases next : tables.item? key ((tables.mailbox key).resolvedSequence + 1 + 1)
    with
  | none =>
    simp only [next, Option.isSome_none, Bool.false_eq_true, false_iff,
      not_and, Nat.not_le] at behind
    simp only [advance, next, nextStatus]
    refine effect_putMailbox rfl rfl (fun _ => rfl) (.idle rfl ?_)
    have beyond := behind (by omega)
    simp only [settled]
    omega
  | some item =>
    simp only [next, Option.isSome_some, true_iff] at behind
    rcases laterThan_cases item.retryAt serverNow with ⟨later, timed⟩ | due
    · simp only [advance, next, nextStatus, later, if_true]
      exact effect_putMailbox rfl rfl (fun _ => rfl) (.waiting rfl timed behind.2)
    · simp only [advance, next, nextStatus, due, if_true, Bool.false_eq_true, if_false]
      exact effect_wake inv .refl unused _ _ _ _ _ (counted_same rfl) rfl rfl rfl behind.2

theorem effect_advanceFrom (inv : MailboxInv key tables) (prepared : Effect key tables base none)
    (located : base.mailbox key = tables.mailbox key)
    (unused : base.outboxEvents.get? (key.1, uuid) = none) {sequence : Nat}
    (head : sequence = (tables.mailbox key).resolvedSequence + 1)
    (pending : (tables.mailbox key).resolvedSequence < (tables.mailbox key).acceptedSequence)
    (now serverNow updatedAt createdAt : Time) :
    Effect key tables (base.advance key (tables.mailbox key) sequence uuid now
      serverNow updatedAt createdAt).2 none := by
  subst head
  rw [← located] at pending ⊢
  exact prepared.comp (effect_advance (inv.effect prepared) unused pending now
    serverNow updatedAt createdAt)

theorem effect_resolve (inv : MailboxInv key tables)
    (unused : tables.outboxEvents.get? (key.1, uuid) = none) {sequence : Nat}
    (head : sequence = (tables.mailbox key).resolvedSequence + 1)
    (pending : (tables.mailbox key).resolvedSequence < (tables.mailbox key).acceptedSequence)
    (resolvedAt : ItemRow → Time) (now serverNow updatedAt createdAt : Time) :
    Effect key tables ((tables.resolveItem key sequence resolvedAt).advance key
      (tables.mailbox key) sequence uuid now serverNow updatedAt
      createdAt).2 none :=
  effect_advanceFrom inv (tables.effect_resolveItem key sequence resolvedAt)
    (mailbox_resolveItem ..) (by rw [outboxEvents_resolveItem, unused]) head
    pending now serverNow updatedAt createdAt

theorem insertReady_of_announced {generation : Nat}
    (announced : tables.announced key generation = true) (priority : Int) (traceId : String)
    (traceHeaders : List (String × String)) (uuid : String) (now createdAt : Time) :
    tables.insertReady key generation priority traceId traceHeaders uuid now
      createdAt = tables := by
  rw [insertReady, if_pos (.inr announced)]

variable {increment : Nat} {status : MailboxStatus}

theorem settleHead_cases (inv : MailboxInv key tables)
    (settledEq : tables.settleHead key (tables.mailbox key) increment serverNow
      updatedAt = (status, updated, after)) :
    after = tables.putMailbox key updated ∧
      updated.acceptedSequence = (tables.mailbox key).acceptedSequence ∧
      updated.processingSequence = none ∧
      (status = .queued ∧ updated.status = .queued ∧ updated.queueGeneration =
            (tables.mailbox key).queueGeneration + increment ∧
          updated.resolvedSequence < updated.acceptedSequence ∧
          (tables.item? key (tables.mailbox key).activeSequence).isSome ∨
        status ≠ .queued ∧ updated.queueGeneration = (tables.mailbox key).queueGeneration ∧
          Settles (tables.mailbox key) updated) := by
  have head := inv.activeSequence_eq
  have ordered := inv.ordered
  rw [settleHead] at settledEq
  cases found : tables.item? key (tables.mailbox key).activeSequence with
  | none =>
    simp only [found, Option.map_none, headStatus] at settledEq
    cases settledEq
    refine ⟨rfl, rfl, rfl, .inr ⟨by decide, rfl, .idle rfl ?_⟩⟩
    exact inv.drained_of_no_item (head ▸ found)
  | some item =>
    have pending := inv.pending_of_item (head ▸ found)
    have inside : ¬ (tables.mailbox key).activeSequence >
        (tables.mailbox key).acceptedSequence := by omega
    simp only [found, Option.map_some, headStatus, inside, if_false] at settledEq
    rcases laterThan_cases item.retryAt serverNow with ⟨later, timed⟩ | due
    · simp only [later, if_true] at settledEq
      cases settledEq
      exact ⟨rfl, rfl, rfl, .inr ⟨by decide, rfl, .waiting rfl timed pending⟩⟩
    · simp only [due, Bool.false_eq_true, if_false] at settledEq
      cases settledEq
      exact ⟨rfl, rfl, rfl, .inl ⟨rfl, rfl, rfl, pending, rfl⟩⟩

variable {retryAt : Option Time} {uuids : Nat → String} {clk : Nat → Time}

theorem effect_acceptMailbox {library : Library} {inboundId : String}
    {priority : Priority} {traceId : Option String} (inv : MailboxInv key tables)
    (fresh : FreshIds tables uuids)
    (done : acceptMailbox library tables key inboundId priority retryAt traceId
      uuids clk = .ok answer) :
    Effect key tables answer.2 none := by
  obtain ⟨ensured, row, outbox⟩ := tables.effect_ensureMailbox key (clk 1)
  have unused := fresh.unused key.1 0
  rw [← outbox] at unused
  have located := inv.effect ensured
  unfold acceptMailbox at done
  split at done
  · cases done
  · split at done
    · cases done
    · dsimp only at done
      rw [← row] at done
      split at done
      · cases done
        exact ensured
      · exact ensured.comp (effect_appendItem located unused rfl done)

variable {leaseFor : Time}

theorem effect_claimLocked {ownerId : String}
    {answer : Option MailboxLease × Tables} (inv : MailboxInv key tables)
    (done : tables.claimLocked key ownerId leaseFor clk = .ok answer) :
    Effect key tables answer.2 none := by
  revert done
  fun_cases claimLocked tables key ownerId leaseFor clk with
  | case3 mailbox stored _ sequence drained =>
    intro done
    cases done
    obtain rfl := mailbox_of_get? stored
    obtain ⟨free, beyond⟩ := drained
    have ordered := inv.ordered
    simp only [sequence, free, Option.getD_none] at beyond
    exact effect_putMailbox rfl rfl (fun _ => free) (.idle rfl (by dsimp only; omega))
  | case5 => exact fun done => nomatch done
  | case7 mailbox stored _ sequence _ item present _ _ _ _ _ _ =>
    intro done
    cases done
    obtain rfl := mailbox_of_get? stored
    have head : sequence = (tables.mailbox key).resolvedSequence + 1 := inv.headSequence_eq
    have pending := inv.pending_of_item (head ▸ present)
    refine (tables.effect_putItem key present _).comp
      (effect_putMailbox rfl rfl (fun other => absurd rfl other) (.running rfl ?_ pending))
    rw [head]
  | _ =>
    intro done
    cases done
    exact .refl

theorem effect_claimMailbox {ownerId : String} {expectedGeneration expectedEpoch : Option Int}
    {acceptance : Option Acceptance} {answer : SessionClaim × Tables}
    (inv : MailboxInv key tables)
    (done : tables.claimMailbox key ownerId leaseFor expectedGeneration
      expectedEpoch acceptance clk = .ok answer) :
    Effect key tables answer.2 none := by
  revert done
  fun_cases claimMailbox tables key ownerId leaseFor expectedGeneration
    expectedEpoch acceptance clk with
  | case2 =>
    intro done
    cases done
    exact .refl
  | case4 _ _ _ _ _ _ _ claimed | case5 _ _ _ _ _ _ _ claimed
  | case6 _ _ _ _ _ _ _ _ claimed | case7 _ _ _ _ _ _ _ _ claimed =>
    intro done
    cases done
    exact effect_claimLocked inv claimed
  | _ => exact fun done => nomatch done

theorem effect_extend {expiresAt : Time} (inv : MailboxInv key tables)
    (running : (tables.mailbox key).status = .running) :
    Effect key tables (tables.putMailbox key { tables.mailbox key with
      leaseExpiresAt := some expiresAt, updatedAt }) none :=
  effect_putMailbox rfl rfl (fun other => absurd running other)
    (.running running (inv.running running) (inv.pending_of_busy (by simp [running])))

variable {lease : MailboxLease}

theorem effect_renewMailbox {library : Library} {answer : MailboxLease × Tables}
    (inv : MailboxInv lease.key tables)
    (done : renewMailbox library tables lease leaseFor clk = .ok answer) :
    Effect lease.key tables answer.2 none := by
  revert done
  fun_cases renewMailbox library tables lease leaseFor clk with
  | case4 _ _ _ mailbox stored owned =>
    intro done
    cases done
    obtain rfl := mailbox_of_get? stored
    exact effect_extend inv (owns_some_iff.mp owned).1.running
  | _ => exact fun done => nomatch done

theorem owned_head (inv : MailboxInv key tables)
    (owned : owns (some (tables.mailbox key)) lease now = true) :
    lease.sequence = (tables.mailbox key).resolvedSequence + 1 ∧
      (tables.mailbox key).resolvedSequence < (tables.mailbox key).acceptedSequence := by
  have held := (owns_some_iff.mp owned).1
  refine ⟨?_, inv.pending_of_busy (by simp [held.running])⟩
  have processing := inv.running held.running
  rw [held.sequence, Option.some.injEq] at processing
  exact processing

theorem effect_commitMailbox (inv : MailboxInv lease.key tables) (fresh : FreshIds tables uuids)
    (done : tables.commitMailbox lease uuids clk = .ok answer) :
    Effect lease.key tables answer.2 none := by
  revert done
  fun_cases commitMailbox tables lease uuids clk with
  | case2 mailbox stored owned resolved =>
    intro done
    cases done
    obtain rfl := mailbox_of_get? stored
    obtain ⟨head, pending⟩ := owned_head inv owned
    exact effect_resolve inv (fresh.unused _ 0) head pending _ _ _ _ _
  | _ => exact fun done => nomatch done

theorem nextStatus_cases (derived : nextStatus (some item) now = (status, retryAt)) :
    status = .queued ∨ status = .retryWait ∧ retryAt.isSome := by
  rw [nextStatus] at derived
  split at derived
  · rename_i later
    cases derived
    exact .inr ⟨rfl, laterThan_isSome later⟩
  · cases derived
    exact .inl rfl

theorem effect_releaseMailbox {priority : Option Priority} {incrementRetry : Bool}
    (inv : MailboxInv lease.key tables) (fresh : FreshIds tables uuids)
    (done : tables.releaseMailbox lease retryAt priority incrementRetry uuids clk = .ok answer) :
    Effect lease.key tables answer.2 none := by
  revert done
  fun_cases releaseMailbox tables lease retryAt priority incrementRetry uuids clk with
  | case4 _ mailbox stored owned item present released =>
    intro done
    cases done
    obtain rfl := mailbox_of_get? stored
    have pending := (owned_head inv owned).2
    have changed := tables.effect_putItem lease.key present released
    exact changed.comp (effect_wake (inv.effect changed) .refl
      (fresh.unused _ 0) _ _ _ _ _ (counted_same rfl) rfl rfl rfl pending)
  | case5 _ mailbox stored owned item present released _ status retryAt derived
      _ _ other =>
      intro done
      cases done
      obtain rfl := mailbox_of_get? stored
      have pending := (owned_head inv owned).2
      refine (tables.effect_putItem lease.key present released).comp ?_
      rcases nextStatus_cases derived with rfl | ⟨rfl, timed⟩
      · exact absurd rfl other
      · exact effect_putMailbox rfl rfl (fun _ => rfl) (.waiting rfl timed pending)
  | _ => exact fun done => nomatch done

theorem effect_settleHead_wake (inv : MailboxInv key tables) (next : increment = 1)
    (unused : tables.outboxEvents.get? (key.1, uuid) = none)
    (settledEq : tables.settleHead key (tables.mailbox key) increment serverNow
      updatedAt = (.queued, updated, after))
    (item : ItemRow) (now createdAt : Time) :
    Effect key tables (after.emitReadyOutbox key updated item uuid now createdAt) none := by
  obtain ⟨rfl, accepted, unleased, ⟨_, status, generation, pending, _⟩ |
    ⟨other, _⟩⟩ := settleHead_cases inv settledEq
  · exact effect_wake inv .refl unused _ _ _ _ _ (counted_same accepted)
      (next ▸ generation) status unleased pending
  · exact absurd rfl other

theorem effect_settleHead_rest (inv : MailboxInv key tables)
    (settledEq : tables.settleHead key (tables.mailbox key) increment serverNow
      updatedAt = (status, updated, after))
    (rest : ∀ item, status = .queued →
      tables.item? key (tables.mailbox key).activeSequence = some item → False) :
    Effect key tables after none := by
  obtain ⟨rfl, accepted, unleased, ⟨queued, _, _, _, present⟩ |
    ⟨_, generation, settles⟩⟩ := settleHead_cases inv settledEq
  · obtain ⟨item, present⟩ := Option.isSome_iff_exists.mp present
    exact (rest item queued present).elim
  · exact effect_putMailbox accepted generation (fun _ => unleased) settles

theorem effect_recoverMailbox {answer : Option SessionMailbox × Tables}
    (inv : MailboxInv key tables) (fresh : FreshIds tables uuids)
    (done : tables.recoverMailbox key uuids clk = .ok answer) :
    Effect key tables answer.2 none := by
  revert done
  fun_cases recoverMailbox tables key uuids clk with
  | case5 mailbox stored _ _ _ _ _ _ _ item _ settledEq =>
    intro done
    cases done
    obtain rfl := mailbox_of_get? stored
    exact effect_settleHead_wake inv rfl (fresh.unused _ 0) settledEq item _ _
  | case6 mailbox stored _ _ _ _ _ _ _ _ settledEq rest =>
    intro done
    cases done
    obtain rfl := mailbox_of_get? stored
    exact effect_settleHead_rest inv settledEq rest
  | _ =>
    intro done
    cases done
    exact .refl

theorem quiet_requeueReadyOutbox (announced : tables.announced key mailbox.queueGeneration = true)
    (item : ItemRow) (replayCooldown : Time) (uuid : String) (clk : Nat → Time) :
    Quiet tables (tables.requeueReadyOutbox key mailbox item replayCooldown uuid clk) := by
  rw [requeueReadyOutbox]
  split
  · rename_i opened
    exact quiet_reopenReady _ _ opened
  · rw [emitReadyOutbox, insertReady_of_announced announced]
    exact fun _ => .refl

theorem effect_reconcileMailbox {replayCooldown : Time} {answer : Option SessionMailbox × Tables}
    (inv : MailboxInv key tables) (fresh : FreshIds tables uuids)
    (done : tables.reconcileMailbox key replayCooldown uuids clk = .ok answer) :
    Effect key tables answer.2 none := by
  revert done
  fun_cases reconcileMailbox tables key replayCooldown uuids clk with
  | case4 mailbox stored _ _ increment updated _ item _ _ same settledEq =>
    intro done
    cases done
    obtain rfl := mailbox_of_get? stored
    have was : (tables.mailbox key).status = .queued := by
      by_contra other
      simp [increment, other] at same
    obtain ⟨rfl, accepted, unleased, ⟨_, status, generation, pending, _⟩ |
      ⟨other, _⟩⟩ := settleHead_cases inv settledEq
    · rw [same, Nat.add_zero] at generation
      have posted : Effect key tables (tables.putMailbox key updated) none :=
        effect_putMailbox accepted generation (fun _ => unleased) (.queued status was pending)
      have announced : (tables.putMailbox key updated).announced key
          updated.queueGeneration = true := by
        rw [announced_putMailbox, generation]
        exact inv.queued was
      exact posted.quietly (quiet_requeueReadyOutbox announced item replayCooldown (uuids 0)
          (readsAfter clk 2))
    · exact absurd rfl other
  | case5 mailbox stored _ _ increment _ _ item _ _ renumbered settledEq =>
    intro done
    cases done
    obtain rfl := mailbox_of_get? stored
    have next : increment = 1 := by
      simp only [increment] at renumbered ⊢
      split at renumbered <;> simp_all
    exact effect_settleHead_wake inv next (fresh.unused _ 0) settledEq item _ _
  | case6 mailbox stored _ _ _ _ _ _ settledEq rest =>
    intro done
    cases done
    obtain rfl := mailbox_of_get? stored
    exact effect_settleHead_rest inv settledEq rest
  | _ =>
    intro done
    cases done
    exact .refl

end Tables

end TrpcService.Storage.Postgres
