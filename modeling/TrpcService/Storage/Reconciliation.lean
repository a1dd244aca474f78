import TrpcService.Storage.Mailbox.Recovery
import TrpcService.Storage.Postgres.Recheck

namespace TrpcService.Storage

open Data

/-! What a reconcile pass leaves alone, in the store that lives in memory and
in the database function. -/

namespace MailboxStore

variable {key other : SessionKey}

theorem mailboxes_putMailbox_of_ne (store : MailboxStore)
    (mailbox : SessionMailbox) (different : other ≠ key) :
    (store.putMailbox other mailbox).mailboxes.get? key = store.mailboxes.get? key :=
  Dict.get?_set_of_ne _ _ different

structure SameMailbox (key : SessionKey) (before after : MailboxStore) : Prop where
  mailbox : after.mailboxes.get? key = before.mailboxes.get? key
  items : after.itemsOf key = before.itemsOf key

theorem SameMailbox.trans {first second third : MailboxStore} (left : SameMailbox key first second)
    (right : SameMailbox key second third) : SameMailbox key first third where
  mailbox := right.mailbox.trans left.mailbox
  items := right.items.trans left.items

theorem sameMailbox_requeueReady (store : MailboxStore) (mailbox : SessionMailbox)
    (item : MailboxItem) (now : Time) (uuid : String) :
    SameMailbox key store (store.requeueReady mailbox item now uuid).2 := by
  unfold requeueReady
  dsimp only
  split <;> exact ⟨rfl, rfl⟩

theorem sameMailbox_reconcile (store : MailboxStore) (uuid : String) (now : Time)
    (different : other ≠ key) : SameMailbox key store (store.reconcile other uuid now).2 := by
  have posted (start : MailboxStore) (mailbox : SessionMailbox) (same : SameMailbox key store start)
      : SameMailbox key store (start.putMailbox other mailbox) := same.trans
    ⟨start.mailboxes_putMailbox_of_ne mailbox different, rfl⟩
  fun_cases reconcile store other uuid now with
  | case1 | case3 => exact ⟨rfl, rfl⟩
  | case2 | case6 => exact posted store _ ⟨rfl, rfl⟩
  | case4 _ _ _ _ _ item _ _ _ _ next _ updated requeued =>
    have same : SameMailbox key store _ := store.sameMailbox_requeueReady updated item now uuid
    rw [requeued] at same
    exact posted next _ same
  | case5 _ _ _ _ _ item _ _ _ _ next _ updated emitted =>
    have same : SameMailbox key store (store.emitReady updated item now uuid).2 := ⟨rfl, rfl⟩
    rw [emitted] at same
    exact posted next _ same

theorem sameMailbox_visit {body : SessionKey → String → MailboxStore → Bool × MailboxStore}
    {start : MailboxStore}
    (each : ∀ visited uuid store, SameMailbox key start store →
      SameMailbox key store (body visited uuid store).2)
    (limit : Int) (keys : List SessionKey) (uuids : Nat → String)
    (handled : Nat) (store : MailboxStore)
    (same : SameMailbox key start store) :
    SameMailbox key start (visit body limit keys uuids handled store).2 := by
  induction keys generalizing uuids handled store with
  | nil => exact same
  | cons visited rest induction =>
    rw [visit]
    split
    · exact same
    · exact induction _ _ _ (same.trans (each visited (uuids 0) store same))

theorem sameMailbox_reconcileSessions {store : MailboxStore} {mailbox : SessionMailbox}
    (limit : Int) (uuids : Nat → String) (now : Time)
    (stored : store.mailboxes.get? key = some mailbox) (running : mailbox.status = .running) :
    SameMailbox key store (store.reconcileSessions limit uuids now).2 := by
  rw [reconcileSessions, visitAll]
  split
  · exact ⟨rfl, rfl⟩
  · refine sameMailbox_visit ?_ limit _ uuids 0 store ⟨rfl, rfl⟩
    intro visited uuid current same
    rw [visitWhen]
    split
    · exact ⟨rfl, rfl⟩
    · rename_i found present
      split
      · rename_i needed
        refine sameMailbox_reconcile current uuid now ?_
        rintro rfl
        rw [same.mailbox, stored, Option.some.injEq] at present
        rw [← present, running] at needed
        simp at needed
      · exact ⟨rfl, rfl⟩

end MailboxStore

namespace Postgres.Tables

variable {tables : Tables} {key other : SessionKey}

section Untouched

variable (tables : Tables)

theorem untouched_clearSession (represented : SessionRow → Bool) (different : key ≠ other) :
    Untouched key tables (tables.clearSession other represented) :=
  (tables.effect_clearSession other represented).frame key different

theorem untouched_reconcileCommitted (mailbox : SessionMailbox) (uuid : String)
    (now : Time) (clk : Nat → Time) (different : key ≠ other) :
    Untouched key tables (tables.reconcileCommitted other mailbox uuid now clk) := by
  have marked (sequence : Nat) (resolvedAt : ItemRow → Time) :
      Untouched key tables (tables.resolveItem other sequence resolvedAt) :=
    (tables.effect_resolveItem other sequence resolvedAt).frame key different
  have cleared (start : Tables) (updated : SessionMailbox) : Untouched key start
    ((start.putMailbox other updated).clearSession other (sameLease mailbox)) :=
    (start.untouched_putMailbox updated different).trans (untouched_clearSession _ _ different)
  fun_cases reconcileCommitted tables other mailbox uuid now clk with
  | case1 =>
    exact ((marked _ _).trans (cleared _ _)).trans (untouched_insertReady _ _ _ _ _ _ _ _ different)
  | case2 => exact (marked _ _).trans (cleared _ _)

theorem untouched_reconcileHead (record : ReconcileRecord) (uuid : String)
    (now : Time) (clk : Nat → Time) (different : key ≠ other) :
    Untouched key tables (tables.reconcileHead other record uuid now clk) := by
  have cleared (updated : SessionMailbox) : Untouched key tables
    ((tables.putMailbox other updated).clearSession other (sameLease record.mailbox)) :=
    (tables.untouched_putMailbox updated different).trans (untouched_clearSession _ _ different)
  fun_cases reconcileHead tables other record uuid now clk with
  | case1 | case3 => exact (cleared _).trans (untouched_insertReady _ _ _ _ _ _ _ _ different)
  | case2 _ _ _ _ _ _ _ _ _ _ _ opened => exact (cleared _).trans (quiet_reopenReady _ _ opened key)
  | case4 => exact cleared _

theorem untouched_reconcileSessionMailbox (uuid : String) (now : Time) (clk : Nat → Time)
    (different : key ≠ other) :
    Untouched key tables (reconcileSessionMailbox now tables other uuid clk).2 := by
  fun_cases reconcileSessionMailbox now tables other uuid clk with
  | case2 mailbox _ record _ =>
    fun_cases reconcileLocked tables other record uuid now clk with
    | case1 => exact .refl
    | case2 => exact untouched_reconcileCommitted _ _ _ _ _ different
    | case3 => exact untouched_reconcileHead _ _ _ _ _ different
  | _ => exact .refl

@[simp] theorem inboundMessages_insertReady (generation : Nat) (priority : Int) (traceId : String)
    (traceHeaders : List (String × String)) (uuid : String) (now createdAt : Time) :
    (tables.insertReady key generation priority traceId traceHeaders uuid now
      createdAt).inboundMessages = tables.inboundMessages := by
  rw [insertReady]
  split <;> rfl

@[simp] theorem inboundMessages_clearSession (represented : SessionRow → Bool) :
    (tables.clearSession key represented).inboundMessages = tables.inboundMessages := by
  rw [clearSession]
  split
  · split <;> rfl
  · rfl

@[simp] theorem inboundMessages_resolveItem (sequence : Nat) (resolvedAt : ItemRow → Time) :
    (tables.resolveItem key sequence resolvedAt).inboundMessages = tables.inboundMessages := by
  rw [resolveItem]
  split <;> rfl

end Untouched

variable {after : Tables}

variable {generation : Nat} {eligible : OutboxRow → Bool} {availableAt replayedAt : Time}

theorem inboundMessages_reopenReady
    (opened : tables.reopenReady key generation eligible availableAt replayedAt = some after) :
    after.inboundMessages = tables.inboundMessages := by
  rw [reopenReady] at opened
  split at opened
  · cases opened
    rfl
  · cases opened

theorem inboundMessages_posted (tables : Tables) (updated : SessionMailbox)
    (represented : SessionRow → Bool) :
    ((tables.putMailbox key updated).clearSession key
      represented).inboundMessages = tables.inboundMessages :=
  inboundMessages_clearSession _ _

theorem inboundMessages_reconcileCommitted (tables : Tables) (mailbox : SessionMailbox)
    (uuid : String) (now : Time) (clk : Nat → Time) :
    (tables.reconcileCommitted key mailbox uuid now clk).inboundMessages =
      tables.inboundMessages := by
  fun_cases reconcileCommitted tables key mailbox uuid now clk with
  | case1 =>
    exact (inboundMessages_insertReady ..).trans
      ((inboundMessages_posted ..).trans (inboundMessages_resolveItem ..))
  | case2 => exact (inboundMessages_posted ..).trans (inboundMessages_resolveItem ..)

theorem inboundMessages_reconcileHead (tables : Tables) (record : ReconcileRecord) (uuid : String)
    (now : Time) (clk : Nat → Time) :
    (tables.reconcileHead key record uuid now clk).inboundMessages = tables.inboundMessages := by
  fun_cases reconcileHead tables key record uuid now clk with
  | case1 | case3 => exact (inboundMessages_insertReady ..).trans (inboundMessages_posted ..)
  | case2 _ _ _ _ _ _ _ _ _ _ _ opened =>
    exact (inboundMessages_reopenReady opened).trans (inboundMessages_posted ..)
  | case4 => exact inboundMessages_posted ..

theorem inboundMessages_reconcileSessionMailbox (tables : Tables)
    (uuid : String) (now : Time) (clk : Nat → Time) :
    (reconcileSessionMailbox now tables key uuid clk).2.inboundMessages =
      tables.inboundMessages := by
  fun_cases reconcileSessionMailbox now tables key uuid clk with
  | case2 mailbox _ record _ =>
    fun_cases reconcileLocked tables key record uuid now clk with
    | case1 => rfl
    | case2 => exact inboundMessages_reconcileCommitted ..
    | case3 => exact inboundMessages_reconcileHead ..
  | _ => rfl

theorem reconcileRecord_congr (mailbox : SessionMailbox) (same : Untouched key tables after)
    (messages : after.inboundMessages = tables.inboundMessages) :
    after.reconcileRecord key mailbox = tables.reconcileRecord key mailbox := by
  simp only [reconcileRecord, same.items, messages]

variable {record : ReconcileRecord} {leaseNow queuedNow : Time}

theorem candidate_of_running (checks : MailboxChecks record.mailbox)
    (running : record.mailbox.status = .running)
    (uncommitted : record.inboundStatus ≠ some .committed) :
    record.candidate leaseNow queuedNow = elapsed record.mailbox.leaseExpiresAt leaseNow := by
  obtain ⟨sequence, processing⟩ := Option.isSome_iff_exists.mp (checks.running running).1
  have pending := checks.processing sequence processing
  have unresolved : record.headCommitted = false := by
    simp [ReconcileRecord.headCommitted, uncommitted]
  simp [ReconcileRecord.candidate, running, unresolved,
    Nat.not_le.mpr (pending.1.trans_le pending.2)]

/-- When the turn of a mailbox comes, its lease is over and its session has no
other one. -/
def Resets (tables : Tables) (key : SessionKey) (mailbox : SessionMailbox)
    (clk : Nat → Time) : Prop :=
  elapsed mailbox.leaseExpiresAt (clk 1) = true ∧ tables.sessionActive key (clk 3) = false ∧
    tables.sessionActive key (clk 4) = false

theorem resets_congr {mailbox : SessionMailbox} {clk : Nat → Time}
    (same : Untouched key tables after) :
    after.Resets key mailbox clk ↔ tables.Resets key mailbox clk := by
  unfold Resets sessionActive
  rw [same.session]

variable {now : Time}

theorem not_running_reconcileHead (tables : Tables) (record : ReconcileRecord) (uuid : String)
    (now : Time) (clk : Nat → Time) :
    ((tables.reconcileHead key record uuid now clk).mailbox key).status ≠ .running := by
  obtain ⟨status, retryAt, _, derived, reached, _⟩ :
      ∃ _ _ _, _ ∧ (tables.reconcileHead key record uuid now clk).mailbox key = _ ∧ _ :=
    mailbox_reconcileHead record uuid now clk
  have settles : ∀ item now, (nextStatus item now).1 ≠ .running := by
    intro item now
    unfold nextStatus
    split
    · simp
    · split
      · simp
      · simp
  rw [reached]
  change status ≠ .running
  split at derived
  · cases derived
    simp
  · have same : (nextStatus record.item (clk 5)).1 = status := congrArg Prod.fst derived
    rw [← same]
    exact settles _ _

section Running

variable {mailbox : SessionMailbox} (checks : MailboxChecks mailbox)
  (stored : tables.mailbox key = mailbox) (running : mailbox.status = .running)
  (uncommitted : (tables.reconcileRecord key mailbox).inboundStatus ≠ some .committed)

include checks stored running uncommitted

variable (now) in
theorem reconcileSessionMailbox_of_running (uuid : String) (clk : Nat → Time) :
    (tables.Resets key mailbox clk → ((reconcileSessionMailbox now tables key uuid
        clk).2.mailbox key).status ≠ .running) ∧
      (¬ tables.Resets key mailbox clk →
        reconcileSessionMailbox now tables key uuid clk = (0, tables)) := by
  have present : tables.sessionMailboxes.get? key = some mailbox := by
    cases found : tables.sessionMailboxes.get? key with
    | none =>
      rw [Tables.mailbox, found] at stored
      rw [← stored] at running
      cases running
    | some other => rw [← stored, mailbox_of_get? found]
  have candidate : (tables.reconcileRecord key mailbox).candidate (clk 1) (clk 2) =
      elapsed mailbox.leaseExpiresAt (clk 1) := candidate_of_running checks running uncommitted
  have unresolved : (tables.reconcileRecord key mailbox).headCommitted = false := by
    simp [ReconcileRecord.headCommitted, uncommitted]
  rw [reconcileSessionMailbox, present]
  simp only [candidate, reconcileLocked, unresolved, Bool.not_eq_true]
  constructor
  · rintro ⟨expired, first, second⟩
    rw [if_pos ⟨expired, first⟩, second, if_neg Bool.false_ne_true, if_neg Bool.false_ne_true]
    exact not_running_reconcileHead tables _ uuid now clk
  · intro spared
    split
    case isTrue reached =>
      split
      case isTrue => rfl
      case isFalse free =>
        exact absurd ⟨reached.1, reached.2, Bool.eq_false_iff.mpr free⟩ spared
    case isFalse => rfl

variable (now) in
omit checks stored running uncommitted in
theorem untouched_forEachMailbox {keys : List SessionKey} (other : key ∉ keys)
    (uuids : Nat → String) (clk : Nat → Time) (current : Tables) :
    Untouched key current
      (forEachMailbox (reconcileSessionMailbox now) uuids clk keys current).2 := by
  induction keys generalizing uuids clk current with
  | nil => exact .refl
  | cons visited rest induction =>
    obtain ⟨different, other⟩ := not_or.mp (List.mem_cons.not.mp other)
    exact (untouched_reconcileSessionMailbox _ _ _ _ different).trans (induction other _ _ _)

theorem forEachMailbox_of_running {keys : List SessionKey} (once : keys.Nodup)
    (uuids : Nat → String) (clk : Nat → Time) {current : Tables}
    (same : Untouched key tables current)
    (messages : current.inboundMessages = tables.inboundMessages) :
    let reached := (forEachMailbox (reconcileSessionMailbox now) uuids clk keys current).2
    let reset := ∃ index, keys[index]? = some key ∧
      tables.Resets key mailbox fun reading => clk (16 * index + reading)
    (reset → (reached.mailbox key).status ≠ .running) ∧
      (¬ reset → Untouched key tables reached) := by
  induction keys generalizing uuids clk current with
  | nil => simp [forEachMailbox, same]
  | cons visited rest induction =>
    obtain ⟨apart, once⟩ := List.nodup_cons.mp once
    by_cases here : key = visited
    · subst here
      obtain ⟨resets, spares⟩ := reconcileSessionMailbox_of_running now checks
        (same.mailbox.trans stored) running
        (by rw [reconcileRecord_congr mailbox same messages]; exact uncommitted) (uuids 0) clk
      rw [resets_congr same] at resets spares
      constructor
      · rintro ⟨_ | index, member, reset⟩
        · simp only [Nat.mul_zero, Nat.zero_add] at reset
          have later := untouched_forEachMailbox now apart
            (fun index => uuids (index + 1)) (fun index => clk (index + 16))
            (reconcileSessionMailbox now current key (uuids 0) clk).2
          rw [forEachMailbox, later.mailbox]
          exact resets reset
        · have later : rest[index]? = some key := member
          exact absurd (List.mem_of_getElem? later) apart
      · intro spared
        have first := spares fun reset => spared ⟨0, rfl, by simpa using reset⟩
        rw [forEachMailbox, first]
        exact same.trans (untouched_forEachMailbox now apart _ _ _)
    · have first := same.trans
        (untouched_reconcileSessionMailbox current (uuids 0) now clk here)
      have next := induction once (fun index => uuids (index + 1)) (fun index => clk (index + 16))
        first ((inboundMessages_reconcileSessionMailbox ..).trans messages)
      have shifted : (∃ index, (visited :: rest)[index]? = some key ∧
            tables.Resets key mailbox fun reading => clk (16 * index + reading)) ↔
          ∃ index, rest[index]? = some key ∧
            tables.Resets key mailbox fun reading => clk (16 * index + reading + 16) := by
        constructor
        · rintro ⟨_ | index, member, reset⟩
          · cases member
            exact absurd rfl here
          · refine ⟨index, member, ?_⟩
            simpa only [Nat.mul_succ, Nat.add_right_comm] using reset
        · rintro ⟨index, member, reset⟩
          refine ⟨index + 1, member, ?_⟩
          simpa only [Nat.mul_succ, Nat.add_right_comm] using reset
      simp only [shifted]
      exact next

end Running

variable {uuids : Nat → String} {clk : Nat → Time}

theorem reconcileSessionMailboxes_of_ok {limit cooldown : Int} {batch : List SessionKey}
    {answer : Nat × Tables}
    (done : tables.reconcileSessionMailboxes limit cooldown batch uuids clk = .ok answer) :
    answer = forEachMailbox (reconcileSessionMailbox (clk 0)) uuids clk
      (batch.take limit.toNat) tables := by
  rw [reconcileSessionMailboxes] at done
  split at done
  · cases done
  · split at done
    · cases done
    · cases done
      rfl

variable {id : String × String} {row : OutboxRow}

section Stored

variable (stored : tables.outboxEvents.get? id = some row)

include stored

theorem outboxEvents_insertReady_of_some (generation : Nat) (priority : Int) (traceId : String)
    (traceHeaders : List (String × String)) (uuid : String) (now createdAt : Time) :
    (tables.insertReady key generation priority traceId traceHeaders uuid now
      createdAt).outboxEvents.get? id = some row := by
  rw [insertReady]
  split
  · exact stored
  · rename_i absent
    have apart : (key.1, uuid) ≠ id := by
      rintro rfl
      exact absent (.inl (by rw [stored]; rfl))
    exact (Dict.get?_set_of_ne _ _ apart).trans stored

theorem outboxEvents_reopenReady
    (spared : row.readyIndex = some (key, generation) → eligible row = false)
    (opened : tables.reopenReady key generation eligible availableAt replayedAt = some after) :
    after.outboxEvents.get? id = some row := by
  rw [reopenReady] at opened
  split at opened
  · cases opened
    rw [Dict.get?_mapValues, stored, Option.map_some, Option.some.injEq]
    refine if_neg fun selected => ?_
    simp only [Bool.and_eq_true, decide_eq_true_eq] at selected
    rw [spared selected.1.2] at selected
    exact absurd selected.2 Bool.false_ne_true
  · cases opened

variable {instant cooldown : Time}

section Marked

variable (marked : row.publishedAt = some instant ∨ row.readyReplayedAt = some instant)

include marked

theorem outboxEvents_requeueReadyOutbox (mailbox : SessionMailbox) (item : ItemRow) (uuid : String)
    (recent : clk 1 < instant + cooldown) :
    (tables.requeueReadyOutbox key mailbox item cooldown uuid
      clk).outboxEvents.get? id = some row := by
  unfold requeueReadyOutbox
  dsimp only
  split
  · rename_i opened
    refine outboxEvents_reopenReady stored (fun _ => ?_) opened
    rw [Bool.and_eq_false_iff]
    left
    cases published : row.publishedAt with
    | none => rfl
    | some publishedAt =>
      have late : clk 1 - cooldown < max publishedAt (row.readyReplayedAt.getD publishedAt) := by
        have late := Int.sub_right_lt_of_lt_add recent
        rcases marked with marked | marked
        · rw [published, Option.some.injEq] at marked
          exact Int.lt_of_lt_of_le (marked ▸ late) (Int.le_max_left _ _)
        · rw [marked, Option.getD_some]
          exact Int.lt_of_lt_of_le late (Int.le_max_right _ _)
      exact decide_eq_false (Int.not_le.mpr late)
  · exact outboxEvents_insertReady_of_some stored ..

theorem outboxEvents_reconcileMailbox {answer : Option SessionMailbox × Tables}
    (recent : ∀ index, clk index < instant + cooldown)
    (done : tables.reconcileMailbox key cooldown uuids clk = .ok answer) :
    answer.2.outboxEvents.get? id = some row := by
  have settled {mailbox updated : SessionMailbox} {increment : Nat} {status : MailboxStatus}
    {after : Tables} (same : tables.settleHead key mailbox increment (clk 1) (clk 2) =
    (status, updated, after)) : after.outboxEvents.get? id = some row := by
    cases same
    exact stored
  revert done
  fun_cases reconcileMailbox tables key cooldown uuids clk with
  | case4 _ _ _ _ _ _ _ _ _ _ _ same =>
    intro done
    cases done
    exact outboxEvents_requeueReadyOutbox (settled same) marked _ _ _ (recent 3)
  | case5 _ _ _ _ _ _ _ _ _ _ _ same =>
    intro done
    cases done
    exact outboxEvents_insertReady_of_some (settled same) ..
  | case6 _ _ _ _ _ _ _ _ same =>
    intro done
    cases done
    exact settled same
  | _ =>
    intro done
    cases done
    exact stored

end Marked

theorem outboxEvents_reconcileCommitted (mailbox : SessionMailbox)
    (uuid : String) (now : Time) (clk : Nat → Time) :
    (tables.reconcileCommitted key mailbox uuid now clk).outboxEvents.get? id = some row := by
  have posted (sequence : Nat) (resolvedAt : ItemRow → Time) (updated : SessionMailbox) :
    (((tables.resolveItem key sequence resolvedAt).putMailbox key updated).clearSession key
    (sameLease mailbox)).outboxEvents.get? id = some row := by
    rw [outboxEvents_clearedPut, outboxEvents_resolveItem, stored]
  fun_cases reconcileCommitted tables key mailbox uuid now clk with
  | case1 => exact outboxEvents_insertReady_of_some (posted _ _ _) ..
  | case2 => exact posted _ _ _

theorem outboxEvents_reconcileHead (record : ReconcileRecord) (uuid : String)
    (now : Time) (clk : Nat → Time) :
    (tables.reconcileHead key record uuid now clk).outboxEvents.get? id = some row ∨
      record.mailbox.status = .queued ∧ record.item.isSome ∧
        record.mailbox.resolvedSequence < record.mailbox.acceptedSequence ∧
        row.readyIndex = some (key, record.mailbox.queueGeneration) := by
  have posted (updated : SessionMailbox) : ((tables.putMailbox key updated).clearSession key
        (sameLease record.mailbox)).outboxEvents.get? id = some row := by
    rw [outboxEvents_clearedPut, stored]
  fun_cases reconcileHead tables key record uuid now clk with
  | case1 | case3 => exact .inl (outboxEvents_insertReady_of_some (posted _) ..)
  | case2 mailbox _ renumbered item present replayed _ derived updated _ _ opened =>
    have was : mailbox.status = .queued ∧ ¬ mailbox.queueGeneration < 1 := by
      simpa [renumbered, not_or] using replayed
    have behind : mailbox.resolvedSequence < mailbox.acceptedSequence := by
      by_contra drained
      rw [if_pos (Nat.not_lt.mp drained)] at derived
      cases derived
    have generation : updated.queueGeneration = mailbox.queueGeneration := by
      simp [updated, settled, replayed]
    by_cases index : row.readyIndex = some (key, mailbox.queueGeneration)
    · exact .inr ⟨was.1, by rw [present]; rfl, behind, index⟩
    · refine .inl (outboxEvents_reopenReady (posted _) (fun selected => ?_) opened)
      exact absurd (generation ▸ selected) index
  | case4 => exact .inl (posted _)

end Stored

theorem aged_of_candidate (unleased : record.mailbox.processingSequence = none ∧
      record.mailbox.processingInboundId = none ∧
      record.mailbox.leaseOwner = none ∧ record.mailbox.leaseExpiresAt = none)
    (queued : record.mailbox.status = .queued) (present : record.item.isSome)
    (pending : record.mailbox.resolvedSequence < record.mailbox.acceptedSequence)
    (uncommitted : ¬ record.headCommitted = true)
    (candidate : record.candidate leaseNow queuedNow = true) :
    record.mailbox.updatedAt ≤ queuedNow - seconds 5 := by
  obtain ⟨item, present⟩ := Option.isSome_iff_exists.mp present
  simpa [ReconcileRecord.candidate, queued, unleased, present, uncommitted,
    Nat.not_le.mpr pending] using candidate

theorem outboxEvents_reconcileSessionMailbox (stored : tables.outboxEvents.get? id = some row)
    (unleased : (tables.mailbox key).status = .queued →
      (tables.mailbox key).processingSequence = none ∧
        (tables.mailbox key).processingInboundId = none ∧
        (tables.mailbox key).leaseOwner = none ∧
        (tables.mailbox key).leaseExpiresAt = none)
    (now : Time) (uuid : String) (clk : Nat → Time) :
    (reconcileSessionMailbox now tables key uuid clk).2.outboxEvents.get? id = some row ∨
      (tables.mailbox key).status = .queued ∧
        row.readyIndex = some (key, (tables.mailbox key).queueGeneration) ∧
        (tables.mailbox key).updatedAt ≤ clk 2 - seconds 5 := by
  fun_cases reconcileSessionMailbox now tables key uuid clk with
  | case2 mailbox present record needed =>
    obtain rfl := mailbox_of_get? present
    fun_cases reconcileLocked tables key record uuid now clk with
    | case1 => exact .inl stored
    | case2 => exact .inl (outboxEvents_reconcileCommitted stored ..)
    | case3 _ uncommitted =>
      apply (outboxEvents_reconcileHead stored record uuid now clk).imp_right
      rintro ⟨queued, head, pending, index⟩
      refine ⟨queued, index, ?_⟩
      exact aged_of_candidate (unleased queued) queued head pending uncommitted needed.1
  | _ => exact .inl stored

/-- The condition on the mailbox of a row under which a pass spares the row. -/
structure Spares (row : OutboxRow) (clk : Nat → Time)
    (key : SessionKey) (mailbox : SessionMailbox) : Prop where
  unleased : mailbox.status = .queued →
    mailbox.processingSequence = none ∧ mailbox.processingInboundId = none ∧
      mailbox.leaseOwner = none ∧ mailbox.leaseExpiresAt = none
  fresh : mailbox.status = .queued → row.readyIndex = some (key, mailbox.queueGeneration) →
    ∀ index, clk index < mailbox.updatedAt + seconds 5

theorem outboxEvents_forEachMailbox {keys : List SessionKey}
    (stored : tables.outboxEvents.get? id = some row) (once : keys.Nodup)
    (spares : ∀ key ∈ keys, Spares row clk key (tables.mailbox key)) :
    (forEachMailbox (reconcileSessionMailbox now) uuids clk keys
      tables).2.outboxEvents.get? id = some row := by
  induction keys generalizing tables uuids clk with
  | nil => exact stored
  | cons visited rest induction =>
    obtain ⟨apart, once⟩ := List.nodup_cons.mp once
    have first : (reconcileSessionMailbox now tables visited (uuids 0)
        clk).2.outboxEvents.get? id = some row := by
      have here := spares visited List.mem_cons_self
      refine (outboxEvents_reconcileSessionMailbox stored here.unleased now
        (uuids 0) clk).resolve_right fun ⟨queued, index, aged⟩ => ?_
      have grace := here.fresh queued index 2
      have := Int.add_le_of_le_sub_right aged
      exact absurd grace (Int.not_lt.mpr this)
    have later (key : SessionKey) (member : key ∈ rest) : Spares row (fun index => clk (index + 16))
      key ((reconcileSessionMailbox now tables visited (uuids 0) clk).2.mailbox key) := by
      have different : key ≠ visited := fun same => apart (same ▸ member)
      have spared := spares key (List.mem_cons_of_mem _ member)
      rw [(untouched_reconcileSessionMailbox tables (uuids 0) now clk different).mailbox]
      exact ⟨spared.unleased, fun queued index position =>
        spared.fresh queued index (position + 16)⟩
    exact induction first once later

end Postgres.Tables

open Postgres

theorem Postgres.Database.mailboxChecks (database : Database) {key : SessionKey}
    {mailbox : SessionMailbox} (stored : database.tables.sessionMailboxes.get? key = some mailbox) :
    MailboxChecks mailbox :=
  database.valid.mailboxes mailbox ((Dict.mem_values_iff _ _).mpr ⟨key, stored⟩)

/-- A running mailbox is out of reach for the reconciler in memory.  That of the
database leaves it unchanged exactly if it does not find its lease and that of
the session over, at the turn of the mailbox. -/
theorem reconcilers_leave_running_work_iff (store : MailboxStore) (database : Database)
    (key : SessionKey) (mailbox row : SessionMailbox) (limit cooldown : Int)
    (batch : List SessionKey) (uuids : Nat → String) (now : Time) (clk : Nat → Time) :
    (store.mailboxes.get? key = some mailbox → mailbox.status = .running →
      (store.reconcileSessions limit uuids now).2.mailboxes.get? key = some mailbox ∧
        (store.reconcileSessions limit uuids now).2.itemsOf key = store.itemsOf key) ∧
      (database.tables.sessionMailboxes.get? key = some row → row.status = .running →
        (database.tables.reconcileRecord key row).inboundStatus ≠ some .committed →
        batch.Nodup →
        ∀ answer, database.tables.reconcileSessionMailboxes limit cooldown
            batch uuids clk = .ok answer →
          ((answer.2.mailbox key = row ∧ (∀ sequence, answer.2.item? key sequence =
                database.tables.item? key sequence) ∧
              answer.2.sessions.get? key = database.tables.sessions.get? key ∧
              ∀ generation, answer.2.announced key generation =
                database.tables.announced key generation) ↔
            ¬ ∃ index, (batch.take limit.toNat)[index]? = some key ∧
              database.tables.Resets key row fun reading =>
                clk (16 * index + reading))) := by
  constructor
  · intro stored running
    have same := MailboxStore.sameMailbox_reconcileSessions limit uuids now stored running
    exact ⟨same.mailbox.trans stored, same.items⟩
  · intro stored running uncommitted once answer done
    have located := Tables.mailbox_of_get? stored
    have passed := Tables.reconcileSessionMailboxes_of_ok done
    obtain ⟨resets, spares⟩ := Tables.forEachMailbox_of_running
      (database.mailboxChecks stored) located running uncommitted
      (once.sublist (List.take_sublist limit.toNat _)) uuids clk .refl rfl
    rw [← passed] at resets spares
    constructor
    · rintro ⟨unchanged, _⟩ reset
      exact resets reset (unchanged ▸ running)
    · intro spared
      have same := spares spared
      exact ⟨same.mailbox.trans located, same.items, same.session, same.announced⟩

/-- The database function resets the expired lease and numbers a wake-up, which
the store in memory leaves to the sweep. -/
theorem expired_work_reset_by_reconciler :
    (repository plainLibrary).Reachable freshRequest leasedOnce ∧
      (leasedOnce.state.tables.mailbox firstKey).status = .running ∧
      (leasedOnce.state.tables.reconcileRecord firstKey
        (leasedOnce.state.tables.mailbox firstKey)).inboundStatus =
        some .processing ∧
      (overrunConfig.state.tables.mailbox firstKey).status = .queued ∧
      (overrunConfig.state.tables.mailbox firstKey).queueGeneration = 2 :=
  ⟨leasedOnce_reachable, by decide +kernel, by decide +kernel,
    by decide +kernel, by decide +kernel⟩

/-- The batch has no place for the mailbox, or its lease is not over. -/
theorem running_work_left_alone : (∃ answer, leasedOnce.state.tables.reconcileSessionMailboxes 1 30
        [("tenant", "other"), firstKey] (dashes 5)
        (fun _ => 20) = .ok answer ∧
      answer.2.mailbox firstKey = leasedOnce.state.tables.mailbox firstKey) ∧
    ∃ answer, leasedOnce.state.tables.reconcileSessionMailboxes 100 30
        [firstKey] (dashes 5) (fun _ => 11) = .ok answer ∧
      answer.2.mailbox firstKey = leasedOnce.state.tables.mailbox firstKey := by
  constructor
  · refine ⟨_, rfl, (((reconcilers_leave_running_work_iff .initial
      leasedOnce.state firstKey (.fresh firstKey 0) _
      1 30 [("tenant", "other"), firstKey] (dashes 5) 0
      fun _ => 20).2 (by rfl) (by decide +kernel) (by decide +kernel)
      (by decide) _ rfl).mpr ?_).1⟩
    rintro ⟨_ | index, member, _⟩
    · exact absurd member (by decide)
    · cases member
  · refine ⟨_, rfl, (((reconcilers_leave_running_work_iff .initial
      leasedOnce.state firstKey (.fresh firstKey 0) _
      100 30 [firstKey] (dashes 5) 0 fun _ => 11).2 (by rfl)
      (by decide +kernel) (by decide +kernel) (by decide) _ rfl).mpr ?_).1⟩
    rintro ⟨index, _, expired, _⟩
    exact absurd expired (by decide +kernel)

/-- A wake-up that was published or replayed less than the cooldown ago is not
reopened: by the store's pass always, by the database function where the five
seconds it gives a queued mailbox cover the cooldown. -/
theorem recent_wakeup_not_reopened (database : Database) {id : String × String} {row : OutboxRow}
    {instant : Time} (stored : database.tables.outboxEvents.get? id = some row)
    (marked : row.publishedAt = some instant ∨ row.readyReplayedAt = some instant) (cooldown : Int)
    (uuids : Nat → String) (clk : Nat → Time)
    (recent : ∀ index, clk index < instant + seconds cooldown) :
    (∀ key answer, database.tables.reconcileMailbox key (seconds cooldown) uuids clk = .ok answer →
      answer.2.outboxEvents.get? id = some row) ∧
      ∀ limit batch answer, batch.Nodup →
        (∀ key mailbox, database.tables.sessionMailboxes.get? key =
            some mailbox → mailbox.status = .queued →
          row.readyIndex = some (key, mailbox.queueGeneration) →
          instant + seconds cooldown ≤ mailbox.updatedAt + seconds 5) →
        database.tables.reconcileSessionMailboxes limit cooldown batch uuids clk = .ok answer →
        answer.2.outboxEvents.get? id = some row := by
  refine ⟨fun key answer done => ?_, fun limit batch answer once covered done => ?_⟩
  · exact Tables.outboxEvents_reconcileMailbox stored marked recent done
  · have spares (key : SessionKey) : Tables.Spares row clk key (database.tables.mailbox key) := by
      cases found : database.tables.sessionMailboxes.get? key with
      | none =>
          have idle : (database.tables.mailbox key).status = .idle := by
            rw [Tables.mailbox, found]
            rfl
          exact ⟨fun queued => absurd (idle.symm.trans queued) (by decide),
            fun queued => absurd (idle.symm.trans queued) (by decide)⟩
      | some mailbox =>
          rw [Tables.mailbox_of_get? found]
          refine ⟨fun queued => (database.mailboxChecks found).unleased ?_,
            fun queued index position => ?_⟩
          · rw [queued]
            decide
          · exact Int.lt_of_lt_of_le (recent position) (covered key mailbox found queued index)
    rw [Tables.reconcileSessionMailboxes_of_ok done]
    exact Tables.outboxEvents_forEachMailbox stored
      (once.sublist (List.take_sublist _ _)) fun key _ => spares key

def publishedOnce : DatabaseConfig := (repository plainLibrary).after receivedOnce
    ⟨.rewriteDispatch ("tenant", dashes 0 1) ⟨1, 1, none, none, some (seconds 2)⟩, dashes 2⟩
    (fun _ => seconds 2) (seconds 2)

theorem publishedOnce_reachable : (repository plainLibrary).Reachable freshRequest publishedOnce :=
  receivedOnce_reachable.call (freshIds_dashes (by decide +kernel)) (by decide)

def replayedEarly : DatabaseConfig := (repository plainLibrary).after publishedOnce
    ⟨.reconcileSessionMailboxes 100 30 [firstKey], dashes 5⟩
    (fun _ => seconds 10) (seconds 10)

/-- The database function with a cooldown of thirty seconds reopens it eight
seconds after it was published. -/
theorem published_wakeup_reopened_early :
    (repository plainLibrary).Reachable freshRequest publishedOnce ∧
      (publishedOnce.state.tables.outboxEvents.get?
        ("tenant", dashes 0 1)).map OutboxRow.publishedAt =
        some (some (seconds 2)) ∧
      seconds 10 < seconds 2 + seconds 30 ∧
      (replayedEarly.state.tables.outboxEvents.get?
        ("tenant", dashes 0 1)).map OutboxRow.publishedAt = some none ∧
      (replayedEarly.state.tables.outboxEvents.get?
        ("tenant", dashes 0 1)).map OutboxRow.readyReplayedAt =
        some (some (seconds 10)) :=
  ⟨publishedOnce_reachable, by decide +kernel, by decide, by decide +kernel,
    by decide +kernel⟩

def acceptedLate : DatabaseConfig := (repository plainLibrary).after publishedOnce
    ⟨.acceptInboundV2 firstContext ⟨.feishu, "account", "late", "body"⟩ [] 0 none, dashes 5⟩
    (fun _ => seconds 28) (seconds 28)

/-- The store keeps it within the cooldown, and the database function when the
mailbox was touched again five seconds before its end. -/
theorem published_wakeup_kept : (∃ row answer, publishedOnce.state.tables.outboxEvents.get?
        ("tenant", dashes 0 1) = some row ∧
      publishedOnce.state.tables.reconcileMailbox firstKey
        (seconds 30) (dashes 5) (fun _ => seconds 10) = .ok answer ∧
      answer.2.outboxEvents.get? ("tenant", dashes 0 1) = some row) ∧
    ∃ row answer, acceptedLate.state.tables.outboxEvents.get? ("tenant", dashes 0 1) = some row ∧
      acceptedLate.state.tables.reconcileSessionMailboxes 100 30 [firstKey] (dashes 9)
        (fun _ => seconds 31) = .ok answer ∧
      answer.2.outboxEvents.get? ("tenant", dashes 0 1) = some row := by
  refine ⟨⟨_, _, rfl, rfl, (recent_wakeup_not_reopened publishedOnce.state rfl
    (.inl rfl) 30 (dashes 5) (fun _ => seconds 10) fun _ => by decide).1
    firstKey _ rfl⟩, _, _, rfl, rfl,
    (recent_wakeup_not_reopened acceptedLate.state rfl (.inl rfl) 30 (dashes 9)
      (fun _ => seconds 31) fun _ => by decide).2 100 [firstKey] _ (by decide) ?_ rfl⟩
  have touched : ∀ pair ∈ acceptedLate.state.tables.sessionMailboxes.entries,
      seconds 2 + seconds 30 ≤ pair.2.updatedAt + seconds 5 := by decide +kernel
  intro key mailbox found _ _
  exact touched (key, mailbox) ((Dict.mem_entries_iff _ _ _).mpr found)

end TrpcService.Storage
