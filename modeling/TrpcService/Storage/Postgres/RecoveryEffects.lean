import TrpcService.Storage.Postgres.RepositoryEffects

namespace TrpcService.Storage.Postgres

open Data

/-! The effect of transactions that work on several sessions. -/

structure Effects (before after : Tables)
    (granted : SessionKey → Option (String × Nat)) : Prop where
  mailbox : ∀ key, Relation.ReflTransGen (MailboxStep key) before after
  lease : ∀ key, LeaseStep key before after (granted key)

namespace Effects

variable {first second third : Tables}
variable {granted : SessionKey → Option (String × Nat)}

protected theorem refl : Effects first first fun _ => none where
  mailbox _ := .refl
  lease _ := .of_untouched .refl

theorem comp (left : Effects first second fun _ => none)
    (right : Effects second third granted) : Effects first third granted where
  mailbox key := (left.mailbox key).trans (right.mailbox key)
  lease key := (left.lease key).comp (right.lease key)

theorem invariant (effects : Effects first second granted) (inv : ∀ key, MailboxInv key first)
    (key : SessionKey) : MailboxInv key second :=
  (inv key).steps (effects.mailbox key)

end Effects

variable {before : Tables} {key : SessionKey} {after : Tables}

theorem Untouched.steps (same : Untouched key before after) :
    Relation.ReflTransGen (MailboxStep key) before after :=
  .single (.stay (before.mailbox key).updatedAt same.mailbox
    (fun sequence => by rw [same.items]) same.announced)

theorem Quiet.effects (quiet : Quiet before after) :
    Effects before after fun _ => none where
  mailbox key := (quiet key).steps
  lease key := .of_untouched (quiet key)

theorem Effect.effects {granted : Option (String × Nat)}
    (effect : Effect key before after granted) :
    Effects before after fun other =>
      if other = key then granted else none where
  mailbox other := by
    by_cases same : other = key
    · exact same ▸ effect.mailbox
    · exact (effect.frame other same).steps
  lease other := by
    by_cases same : other = key
    · rw [if_pos same]
      exact same ▸ effect.lease
    · rw [if_neg same]
      exact .of_untouched (effect.frame other same)

theorem Effect.ungranted (effect : Effect key before after none) :
    Effects before after fun _ => none := by
  simpa only [ite_self] using effect.effects

namespace Tables

variable {tables after : Tables} {key : SessionKey} {clk : Nat → Time}

theorem effects_renewMailboxes {library : Library} {tenantId : String} {leases : List MailboxLease}
    {leaseFor : Time} {answer : List MailboxLease × Tables} (inv : ∀ key, MailboxInv key tables)
    (done : renewMailboxes library tables tenantId leases leaseFor clk = .ok answer) :
    Effects tables answer.2 fun _ => none := by
  induction leases generalizing tables clk answer with
  | nil =>
    rw [renewMailboxes] at done
    split at done
    · cases done
    · cases done
      exact .refl
  | cons lease rest induction =>
    rw [renewMailboxes] at done
    split at done
    · cases done
    · split at done
      · cases done
      · rename_i renewed
        have first := (effect_renewMailbox (inv _) renewed).ungranted
        split at done
        · cases done
        · rename_i others
          cases done
          have later := induction (first.invariant inv) others
          exact first.comp later

def AddsOnly (id : String × String) (before after : Tables) : Prop :=
  ∀ other, other ≠ id → before.outboxEvents.get? other = none → after.outboxEvents.get? other = none

/-- What the body of a recovery loop owes to the loop. -/
structure LoopBody (body : Tables → SessionKey → String → (Nat → Time) → Nat × Tables) : Prop where
  effect : ∀ {tables key uuid} clk, MailboxInv key tables →
    tables.outboxEvents.get? (key.1, uuid) = none →
    Effect key tables (body tables key uuid clk).2 none
  adds : ∀ tables key uuid clk, AddsOnly (key.1, uuid) tables (body tables key uuid clk).2

theorem effects_forEachMailbox {body : Tables → SessionKey → String → (Nat → Time) → Nat × Tables}
    (loop : LoopBody body) {uuids : Nat → String} (clk : Nat → Time) (keys : List SessionKey)
    (inv : ∀ key, MailboxInv key tables) (fresh : FreshIds tables uuids) :
    Effects tables (forEachMailbox body uuids clk keys tables).2 fun _ => none := by
  induction keys generalizing tables uuids clk with
  | nil => exact .refl
  | cons key rest induction =>
    have first := (loop.effect clk (inv key) (fresh.unused key.1 0)).ungranted
    refine first.comp (induction _ (first.invariant inv)
      ⟨fun tenantId index => ?_, fun left right same => ?_⟩)
    · refine loop.adds _ _ _ _ _ (fun same => ?_) (fresh.unused tenantId _)
      exact absurd (fresh.distinct (congrArg Prod.snd same)) (by omega)
    · exact Nat.add_right_cancel (fresh.distinct same)

theorem AddsOnly.of_same {id : String × String} (same : after.outboxEvents = tables.outboxEvents) :
    AddsOnly id tables after :=
  fun _ _ absent => by rw [same, absent]

variable {uuid : String} {now : Time}

theorem addsOnly_insertReady {base : Tables} (same : base.outboxEvents = tables.outboxEvents)
    {generation : Nat} {priority : Int} {traceId : String} {createdAt : Time} :
    AddsOnly (key.1, uuid) tables (base.insertReady key generation priority
      traceId [] uuid now createdAt) :=
  fun _ apart absent => by
    rw [outboxEvents_insertReady _ _ _ _ _ _ _ _ _ apart, same, absent]

theorem effect_wakeCleared {updated : SessionMailbox} (inv : MailboxInv key tables)
    (unused : tables.outboxEvents.get? (key.1, uuid) = none) (represented : SessionRow → Bool)
    (priority : Int) (traceId : String) (now createdAt : Time)
    (accepted : updated.acceptedSequence = (tables.mailbox key).acceptedSequence)
    (generation : updated.queueGeneration = (tables.mailbox key).queueGeneration + 1)
    (status : updated.status = .queued) (unleased : updated.processingSequence = none)
    (pending : updated.resolvedSequence < updated.acceptedSequence) :
    Effect key tables (((tables.putMailbox key updated).clearSession key
      represented).insertReady key updated.queueGeneration priority traceId []
      uuid now createdAt) none := by
  rw [insertReady_clearSession]
  exact (effect_wake inv .refl unused priority traceId [] now createdAt (counted_same accepted)
    generation status unleased pending).comp (effect_clearSession ..)

theorem requeuedStatus_cases {mailbox : SessionMailbox} {item : Option ItemRow}
    {status : MailboxStatus} {retryAt : Option Time}
    (pending : mailbox.resolvedSequence < mailbox.acceptedSequence)
    (derived : requeuedStatus mailbox item now = (status, retryAt)) :
    status = .queued ∨ status = .retryWait ∧ retryAt.isSome := by
  unfold requeuedStatus at derived
  rw [if_neg (Nat.not_le.mpr pending)] at derived
  split at derived
  · split at derived
    · rename_i later
      cases derived
      exact .inr ⟨rfl, laterThan_isSome later⟩
    · cases derived
      exact .inl rfl
  · cases derived
    exact .inl rfl

theorem effect_sweepMailbox (clk : Nat → Time) (inv : MailboxInv key tables)
    (unused : tables.outboxEvents.get? (key.1, uuid) = none) :
    Effect key tables (sweepMailbox now tables key uuid clk).2 none := by
  fun_cases sweepMailbox now tables key uuid clk with
  | case3 mailbox stored expired _ item _ _ derived =>
    obtain rfl := mailbox_of_get? stored
    have pending := inv.pending_of_busy (by simp [expired.1])
    exact effect_wakeCleared inv unused _ _ _ _ _ rfl rfl rfl rfl pending
  | case4 mailbox stored expired _ item status retryAt derived _ waiting _ other =>
    obtain rfl := mailbox_of_get? stored
    have pending := inv.pending_of_busy (by simp [expired.1])
    obtain ⟨rfl, timed⟩ := (requeuedStatus_cases pending derived).resolve_left other
    have posted : Effect key tables waiting none :=
      effect_putMailbox rfl rfl (fun _ => rfl) (.waiting rfl timed pending)
    exact posted.comp (waiting.effect_clearSession ..)
  | _ => exact .refl

theorem effect_scheduleMailbox (clk : Nat → Time) (inv : MailboxInv key tables)
    (unused : tables.outboxEvents.get? (key.1, uuid) = none) :
    Effect key tables (scheduleMailbox now tables key uuid clk).2 none := by
  fun_cases scheduleMailbox now tables key uuid clk with
  | case3 mailbox stored item present due _ =>
    obtain rfl := mailbox_of_get? stored
    exact effect_wake inv .refl unused _ _ _ _ _ (counted_same rfl) rfl rfl
      (inv.unleased (by simp [due.1])) (inv.pending_of_item present)
  | _ => exact .refl

theorem effect_reconcileCommitted (inv : MailboxInv key tables)
    (unused : tables.outboxEvents.get? (key.1, uuid) = none)
    (pending : (tables.mailbox key).resolvedSequence < (tables.mailbox key).acceptedSequence) :
    Effect key tables (tables.reconcileCommitted key (tables.mailbox key) uuid now clk) none := by
  have active := inv.headSequence_eq
  have marked := tables.effect_resolveItem key
    (headSequence (tables.mailbox key)) fun item => item.resolvedAt.getD (clk 5)
  have located := tables.mailbox_resolveItem key key
    (headSequence (tables.mailbox key)) fun item => item.resolvedAt.getD (clk 5)
  have outbox := tables.outboxEvents_resolveItem key
    (headSequence (tables.mailbox key)) fun item => item.resolvedAt.getD (clk 5)
  fun_cases reconcileCommitted tables key (tables.mailbox key) uuid now clk with
  | case1 sequence resolved nextItem retryAt item present derived =>
    have behind : ¬ sequence ≥ (tables.mailbox key).acceptedSequence := by
      intro last
      simp [last] at derived
    refine marked.comp (effect_wakeCleared (inv.effect marked) ?_ _ _ _ _ _ ?_
      ?_ rfl rfl (Nat.lt_of_not_le behind))
    · rw [outbox, unused]
    · rw [located]; rfl
    · rw [located]; rfl
  | case2 sequence resolved nextItem status retryAt derived updated posted _ rest =>
    have head : sequence = _ := active
    have settles : status ≠ .queued ∧ Settles (resolved.mailbox key) updated := by
      split at derived
      · rename_i last
        cases derived
        exact ⟨by decide, .idle rfl (by simp only [updated, settled]; omega)⟩
      · rename_i behind
        have present := ((inv.effect marked).items (sequence + 1)).mpr (by rw [located]; omega)
        obtain ⟨item, present⟩ := Option.isSome_iff_exists.mp present
        have next : nextItem = some item := present
        rw [next] at derived rest
        rcases nextStatus_cases derived with rfl | ⟨rfl, timed⟩
        · exact (rest item rfl rfl).elim
        · exact ⟨by decide, .waiting rfl timed (Nat.lt_of_not_le behind)⟩
    have posted : Effect key resolved posted none := by
      refine effect_putMailbox ?_ ?_ (fun _ => rfl) settles.2
      · rw [located]; rfl
      · rw [located]
        simp only [updated, settled, settles.1, if_false, Nat.add_zero]
    exact (marked.comp posted).comp (effect_clearSession ..)

theorem effect_requeue {updated : SessionMailbox} (inv : MailboxInv key tables)
    (represented : SessionRow → Bool) (was : (tables.mailbox key).status = .queued)
    (accepted : updated.acceptedSequence = (tables.mailbox key).acceptedSequence)
    (generation : updated.queueGeneration = (tables.mailbox key).queueGeneration)
    (status : updated.status = .queued) (unleased : updated.processingSequence = none)
    (pending : updated.resolvedSequence < updated.acceptedSequence) :
    Effect key tables ((tables.putMailbox key updated).clearSession key represented) none ∧
      ((tables.putMailbox key updated).clearSession key
        represented).announced key updated.queueGeneration = true := by
  refine ⟨(effect_putMailbox accepted generation (fun _ => unleased)
    (.queued status was pending)).comp (effect_clearSession ..), ?_⟩
  rw [announced_clearSession, announced_putMailbox, generation]
  exact inv.queued was

theorem effect_reconcileHead {record : ReconcileRecord} (inv : MailboxInv key tables)
    (unused : tables.outboxEvents.get? (key.1, uuid) = none)
    (located : record.mailbox = tables.mailbox key)
    (joined : record.item = tables.item? key ((tables.mailbox key).resolvedSequence + 1)) :
    Effect key tables (tables.reconcileHead key record uuid now clk) none := by
  obtain ⟨_, joinedItem, _⟩ := record
  dsimp only at located joined
  subst located
  fun_cases reconcileHead tables key _ uuid now clk with
  | case1 mailbox _ renumbered item present fresh _ updated =>
    have pending := inv.pending_of_item (joined.symm.trans present)
    refine effect_wakeCleared inv unused _ _ _ _ _ rfl ?_ rfl rfl pending
    simp [updated, fresh, settled, mailbox]
  | case2 mailbox _ renumbered item present replayed _ _ updated _ _ opened =>
    have pending := inv.pending_of_item (joined.symm.trans present)
    have was : (tables.mailbox key).status = .queued := by
      simp only [renumbered, decide_eq_true_eq, not_or, not_not] at replayed
      exact replayed.1
    obtain ⟨effect, _⟩ := effect_requeue inv (sameLease mailbox) was
      (show updated.acceptedSequence = _ from rfl)
      (by simp [updated, replayed, settled, mailbox]) rfl rfl pending
    exact effect.quietly (quiet_reopenReady _ _ opened)
  | case3 mailbox _ renumbered item present replayed _ updated _ _ insert =>
    have pending := inv.pending_of_item (joined.symm.trans present)
    have was : (tables.mailbox key).status = .queued := by
      simp only [renumbered, decide_eq_true_eq, not_or, not_not] at replayed
      exact replayed.1
    obtain ⟨effect, announced⟩ := effect_requeue inv (sameLease mailbox) was
      (show updated.acceptedSequence = _ from rfl)
      (by simp [updated, replayed, settled, mailbox]) rfl rfl pending
    dsimp only [insert]
    rw [insertReady_of_announced announced]
    exact effect
  | case4 mailbox status retryAt derived renumbered updated posted _ rest =>
    have settles : status ≠ .queued ∧ Settles (tables.mailbox key) updated := by
      split at derived
      · rename_i drained
        cases derived
        exact ⟨by decide, .idle rfl (Nat.le_antisymm drained inv.ordered)⟩
      · rename_i behind
        have present := (inv.items ((tables.mailbox key).resolvedSequence + 1)).mpr
          (by dsimp only [mailbox] at behind; omega)
        obtain ⟨item, present⟩ := Option.isSome_iff_exists.mp present
        dsimp only at derived rest
        rw [joined, present] at derived rest
        rcases nextStatus_cases derived with rfl | ⟨rfl, timed⟩
        · exact (rest item rfl rfl).elim
        · exact ⟨by decide, .waiting rfl timed (Nat.lt_of_not_le behind)⟩
    have posted : Effect key tables posted none := by
      refine effect_putMailbox rfl ?_ (fun _ => rfl) settles.2
      simp [updated, settled, settles.1, mailbox]
    exact posted.comp (effect_clearSession ..)

theorem item_of_headCommitted {mailbox : SessionMailbox}
    (committed : (tables.reconcileRecord key mailbox).headCommitted = true) :
    ∃ item, tables.item? key (headSequence mailbox) = some item := by
  rw [ReconcileRecord.headCommitted, Bool.and_eq_true, decide_eq_true_eq] at committed
  obtain ⟨item, present, _⟩ := Option.bind_eq_some_iff.mp committed.1
  exact ⟨item, present⟩

theorem effect_reconcileSessionMailbox (clk : Nat → Time) (inv : MailboxInv key tables)
    (unused : tables.outboxEvents.get? (key.1, uuid) = none) :
    Effect key tables (reconcileSessionMailbox now tables key uuid clk).2 none := by
  have head := inv.headSequence_eq
  fun_cases reconcileSessionMailbox now tables key uuid clk with
  | case2 mailbox stored record _ =>
    obtain rfl := mailbox_of_get? stored
    fun_cases reconcileLocked tables key record uuid now clk with
    | case1 => exact .refl
    | case2 _ committed =>
      obtain ⟨item, present⟩ := item_of_headCommitted committed
      exact effect_reconcileCommitted inv unused (inv.pending_of_item (head ▸ present))
    | case3 => exact effect_reconcileHead inv unused rfl (by rw [← head]; rfl)
  | _ => exact .refl

theorem outboxEvents_clearedPut (mailbox : SessionMailbox) (represented : SessionRow → Bool) :
    ((tables.putMailbox key mailbox).clearSession key represented).outboxEvents =
      tables.outboxEvents := by
  rw [outboxEvents_clearSession, outboxEvents_putMailbox]

theorem loopBody_sweepMailbox (now : Time) : LoopBody (sweepMailbox now) where
  effect clk inv unused := effect_sweepMailbox clk inv unused
  adds tables key uuid clk := by
    fun_cases sweepMailbox now tables key uuid clk with
    | case3 => exact addsOnly_insertReady (outboxEvents_clearedPut _ _)
    | case4 => exact .of_same (outboxEvents_clearedPut _ _)
    | _ => exact .of_same rfl

theorem loopBody_scheduleMailbox (now : Time) :
    LoopBody (scheduleMailbox now) where
  effect clk inv unused := effect_scheduleMailbox clk inv unused
  adds tables key uuid clk := by
    fun_cases scheduleMailbox now tables key uuid clk with
    | case3 => exact addsOnly_insertReady (outboxEvents_putMailbox ..)
    | _ => exact .of_same rfl

theorem addsOnly_reconcileCommitted (mailbox : SessionMailbox) (uuid : String)
    (now : Time) (clk : Nat → Time) :
    AddsOnly (key.1, uuid) tables (tables.reconcileCommitted key mailbox uuid now clk) := by
  fun_cases reconcileCommitted tables key mailbox uuid now clk with
  | case1 =>
    exact addsOnly_insertReady ((outboxEvents_clearedPut _ _).trans (outboxEvents_resolveItem ..))
  | case2 => exact .of_same ((outboxEvents_clearedPut _ _).trans (outboxEvents_resolveItem ..))

theorem addsOnly_reopenReady {base : Tables} {id : String × String}
    (same : base.outboxEvents = tables.outboxEvents) {generation : Nat}
    {eligible : OutboxRow → Bool} {availableAt replayedAt : Time}
    (opened : base.reopenReady key generation eligible availableAt replayedAt = some after) :
    AddsOnly id tables after := by
  rw [reopenReady] at opened
  split at opened
  · cases opened
    intro other _ absent
    rw [Dict.get?_mapValues, same, absent, Option.map_none]
  · cases opened

theorem addsOnly_reconcileHead (record : ReconcileRecord) (uuid : String)
    (now : Time) (clk : Nat → Time) :
    AddsOnly (key.1, uuid) tables (tables.reconcileHead key record uuid now clk) := by
  fun_cases reconcileHead tables key record uuid now clk with
  | case1 | case3 => exact addsOnly_insertReady (outboxEvents_clearedPut _ _)
  | case2 _ _ _ _ _ _ _ _ _ _ _ opened =>
    exact addsOnly_reopenReady (outboxEvents_clearedPut _ _) opened
  | case4 => exact .of_same (outboxEvents_clearedPut _ _)

theorem loopBody_reconcileSessionMailbox (now : Time) :
    LoopBody (reconcileSessionMailbox now) where
  effect clk inv unused := effect_reconcileSessionMailbox clk inv unused
  adds tables key uuid clk := by
    fun_cases reconcileSessionMailbox now tables key uuid clk with
    | case2 _ _ record _ =>
      fun_cases reconcileLocked tables key record uuid now clk with
      | case1 => exact .of_same rfl
      | case2 => exact addsOnly_reconcileCommitted _ uuid now clk
      | case3 => exact addsOnly_reconcileHead record uuid now clk
    | _ => exact .of_same rfl

section Recovery

variable {limit cooldown : Int} {batch : List SessionKey}
variable {uuids : Nat → String} {clk : Nat → Time} {answer : Nat × Tables}

variable (inv : ∀ key, MailboxInv key tables) (fresh : FreshIds tables uuids)

include inv fresh

theorem effects_sweepExpiredSessionLeases
    (done : tables.sweepExpiredSessionLeases limit batch uuids clk = .ok answer) :
    Effects tables answer.2 fun _ => none := by
  rw [sweepExpiredSessionLeases] at done
  split at done
  · cases done
  · cases done
    exact effects_forEachMailbox (loopBody_sweepMailbox _) clk _ inv fresh

theorem effects_scheduleSessionMailboxRetries
    (done : tables.scheduleSessionMailboxRetries limit batch uuids clk = .ok answer) :
    Effects tables answer.2 fun _ => none := by
  rw [scheduleSessionMailboxRetries] at done
  split at done
  · cases done
  · cases done
    exact effects_forEachMailbox (loopBody_scheduleMailbox _) clk _ inv fresh

theorem effects_reconcileSessionMailboxes
    (done : tables.reconcileSessionMailboxes limit cooldown batch uuids clk = .ok answer) :
    Effects tables answer.2 fun _ => none := by
  rw [reconcileSessionMailboxes] at done
  split at done
  · cases done
  · split at done
    · cases done
    · cases done
      exact effects_forEachMailbox (loopBody_reconcileSessionMailbox _) clk _ inv fresh

end Recovery

end Tables

end TrpcService.Storage.Postgres
