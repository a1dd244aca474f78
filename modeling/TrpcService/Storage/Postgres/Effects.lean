import TrpcService.Storage.Postgres.Recovery
import Mathlib.Logic.Relation

namespace TrpcService.Storage.Postgres

open Data Tables

/-! What the theorems observe of one session: its mailbox row, which items it
has, the generations announced for it, and its lease. -/

variable {session : SessionRow}

namespace Tables

def mailbox (tables : Tables) (key : SessionKey) : SessionMailbox :=
  (tables.sessionMailboxes.get? key).getD (.fresh key 0)

def leaseOwner (tables : Tables) (key : SessionKey) : Option String :=
  (tables.sessions.get? key).bind SessionRow.leaseOwner

def leaseEpoch (tables : Tables) (key : SessionKey) : Nat :=
  ((tables.sessions.get? key).map SessionRow.leaseEpoch).getD 0

variable {tables : Tables}

theorem mailbox_of_get? {key : SessionKey} {mailbox : SessionMailbox}
    (stored : tables.sessionMailboxes.get? key = some mailbox) : tables.mailbox key = mailbox := by
  rw [Tables.mailbox, stored, Option.getD_some]

theorem leaseOwner_of_get? {key : SessionKey} (stored : tables.sessions.get? key = some session) :
    tables.leaseOwner key = session.leaseOwner := by
  rw [leaseOwner, stored, Option.bind_some]

theorem leaseEpoch_of_get? {key : SessionKey} (stored : tables.sessions.get? key = some session) :
    tables.leaseEpoch key = session.leaseEpoch := by
  rw [leaseEpoch, stored, Option.map_some, Option.getD_some]

theorem announced_iff (tables : Tables) (key : SessionKey) (generation : Nat) :
    tables.announced key generation = true ↔ ∃ id row, tables.outboxEvents.get? id = some row ∧
        row.readyIndex = some (key, generation) := by
  simp only [announced, List.any_eq_true, decide_eq_true_eq, Dict.mem_values_iff]
  constructor
  · rintro ⟨row, ⟨id, stored⟩, index⟩
    exact ⟨id, row, stored, index⟩
  · rintro ⟨id, row, stored, index⟩
    exact ⟨row, ⟨id, stored⟩, index⟩

end Tables

structure Untouched (key : SessionKey) (before after : Tables) : Prop where
  mailbox : after.mailbox key = before.mailbox key
  items : ∀ sequence, after.item? key sequence = before.item? key sequence
  announced : ∀ generation, after.announced key generation = before.announced key generation
  session : after.sessions.get? key = before.sessions.get? key

namespace Untouched

variable {key : SessionKey} {first second third : Tables}

protected theorem refl : Untouched key first first :=
  ⟨rfl, fun _ => rfl, fun _ => rfl, rfl⟩

theorem trans (left : Untouched key first second)
    (right : Untouched key second third) : Untouched key first third where
  mailbox := right.mailbox.trans left.mailbox
  items sequence := (right.items sequence).trans (left.items sequence)
  announced generation := (right.announced generation).trans (left.announced generation)
  session := right.session.trans left.session

theorem owner (same : Untouched key first second) :
    second.leaseOwner key = first.leaseOwner key := by
  rw [leaseOwner, same.session, leaseOwner]

theorem epoch (same : Untouched key first second) :
    second.leaseEpoch key = first.leaseEpoch key := by
  rw [leaseEpoch, same.session, leaseEpoch]

end Untouched

/-- A part of a transaction that no session can observe. -/
def Quiet (before after : Tables) : Prop := ∀ key, Untouched key before after

theorem Quiet.trans {first second third : Tables} (left : Quiet first second)
    (right : Quiet second third) : Quiet first third :=
  fun key => (left key).trans (right key)

inductive Counted (key : SessionKey) (before after : Tables) : Prop
  | same (accepted : (after.mailbox key).acceptedSequence = (before.mailbox key).acceptedSequence)
      (items : ∀ sequence, (after.item? key sequence).isSome = (before.item? key sequence).isSome)
  | appended (accepted : (after.mailbox key).acceptedSequence =
        (before.mailbox key).acceptedSequence + 1)
      (items : ∀ sequence, (after.item? key sequence).isSome ↔ (before.item? key sequence).isSome ∨
          sequence = (before.mailbox key).acceptedSequence + 1)

structure Unannounced (key : SessionKey) (before after : Tables) : Prop where
  generation : (after.mailbox key).queueGeneration = (before.mailbox key).queueGeneration
  announced : ∀ generation, after.announced key generation = before.announced key generation

/-- The state in which a transaction leaves the mailbox it wrote. -/
inductive Posted (key : SessionKey) (before after : Tables) : Prop
  | idle (status : (after.mailbox key).status = .idle)
      (drained : (after.mailbox key).acceptedSequence = (after.mailbox key).resolvedSequence)
      (unannounced : Unannounced key before after)
  | waiting (status : (after.mailbox key).status = .retryWait)
      (timed : (after.mailbox key).retryAt.isSome)
      (pending : (after.mailbox key).resolvedSequence < (after.mailbox key).acceptedSequence)
      (unannounced : Unannounced key before after)
  | running (status : (after.mailbox key).status = .running)
      (processing : (after.mailbox key).processingSequence =
        some ((after.mailbox key).resolvedSequence + 1))
      (pending : (after.mailbox key).resolvedSequence < (after.mailbox key).acceptedSequence)
      (unannounced : Unannounced key before after)
  | queued (status : (after.mailbox key).status = .queued)
      (was : (before.mailbox key).status = .queued)
      (pending : (after.mailbox key).resolvedSequence < (after.mailbox key).acceptedSequence)
      (unannounced : Unannounced key before after)
  /-- A new generation was numbered and its wake-up inserted. -/
  | woken (status : (after.mailbox key).status = .queued)
      (pending : (after.mailbox key).resolvedSequence < (after.mailbox key).acceptedSequence)
      (generation : (after.mailbox key).queueGeneration = (before.mailbox key).queueGeneration + 1)
      (announced : ∀ generation, after.announced key generation = true ↔
        before.announced key generation = true ∨
          generation = (before.mailbox key).queueGeneration + 1)

inductive MailboxStep (key : SessionKey) (before after : Tables) : Prop
  | stay (updatedAt : Time) (mailbox : after.mailbox key = { before.mailbox key with updatedAt })
      (items : ∀ sequence, (after.item? key sequence).isSome = (before.item? key sequence).isSome)
      (announced : ∀ generation, after.announced key generation = before.announced key generation)
  | write (counted : Counted key before after) (unleased : (after.mailbox key).status ≠ .running →
        (after.mailbox key).processingSequence = none)
      (posted : Posted key before after)

inductive LeaseStep (key : SessionKey) (before after : Tables) : Option (String × Nat) → Prop
  | keep (epoch : after.leaseEpoch key = before.leaseEpoch key)
      (owner : after.leaseOwner key = before.leaseOwner key ∨ after.leaseOwner key = none) :
      LeaseStep key before after none
  | grant (worker : String) (token : Nat) (newer : before.leaseEpoch key < token)
      (epoch : after.leaseEpoch key = token)
      (owner : after.leaseOwner key = some worker) :
      LeaseStep key before after (some (worker, token))

namespace LeaseStep

variable {key : SessionKey} {first second third : Tables}
variable {granted : Option (String × Nat)}

theorem of_untouched (same : Untouched key first second) : LeaseStep key first second none :=
  .keep same.epoch (.inl same.owner)

theorem comp (kept : LeaseStep key first second none) (step : LeaseStep key second third granted) :
    LeaseStep key first third granted := by
  cases kept with
  | keep epoch owner =>
    cases step with
    | keep epochAfter ownerAfter =>
      refine .keep (epochAfter.trans epoch) ?_
      rcases ownerAfter with same | cleared
      · exact owner.imp same.trans same.trans
      · exact .inr cleared
    | grant worker token newer epochAfter ownerAfter =>
      exact .grant worker token (epoch ▸ newer) epochAfter ownerAfter

end LeaseStep

/-- The effect of a transaction that works on one session. -/
structure Effect (key : SessionKey) (before after : Tables)
    (granted : Option (String × Nat)) : Prop where
  mailbox : Relation.ReflTransGen (MailboxStep key) before after
  lease : LeaseStep key before after granted
  frame : ∀ other, other ≠ key → Untouched other before after

namespace Effect

variable {key : SessionKey} {first second third : Tables}
variable {granted : Option (String × Nat)}

theorem of_untouched (same : Untouched key first second)
    (frame : ∀ other, other ≠ key → Untouched other first second) :
    Effect key first second none where
  mailbox := .single (.stay (first.mailbox key).updatedAt same.mailbox
    (fun sequence => by rw [same.items]) same.announced)
  lease := .of_untouched same
  frame := frame

theorem of_quiet (quiet : Quiet first second) : Effect key first second none :=
  of_untouched (quiet key) fun other _ => quiet other

protected theorem refl : Effect key first first none :=
  of_quiet fun _ => .refl

theorem comp (left : Effect key first second none) (right : Effect key second third granted) :
    Effect key first third granted where
  mailbox := left.mailbox.trans right.mailbox
  lease := left.lease.comp right.lease
  frame other different := (left.frame other different).trans (right.frame other different)

theorem followed (left : Effect key first second granted) (right : Effect key second third none)
    (session : third.sessions.get? key = second.sessions.get? key) :
    Effect key first third granted where
  mailbox := left.mailbox.trans right.mailbox
  lease := by
    have owner : third.leaseOwner key = second.leaseOwner key := by
      rw [leaseOwner, session, leaseOwner]
    have epoch : third.leaseEpoch key = second.leaseEpoch key := by
      rw [leaseEpoch, session, leaseEpoch]
    cases left.lease with
    | keep sameEpoch sameOwner =>
      exact .keep (epoch.trans sameEpoch) (sameOwner.imp owner.trans owner.trans)
    | grant worker token newer granted owned =>
      exact .grant worker token newer (epoch.trans granted) (owner.trans owned)
  frame other different := (left.frame other different).trans (right.frame other different)

theorem quietly (left : Effect key first second granted)
    (quiet : Quiet second third) : Effect key first third granted :=
  left.followed (.of_quiet quiet) (quiet key).session

end Effect

namespace Tables

variable (tables : Tables) (key other : SessionKey)

theorem quiet_putTurn (turnKey : String × String) (turn : TurnRow) :
    Quiet tables (tables.putTurn turnKey turn) :=
  fun _ => ⟨rfl, fun _ => rfl, fun _ => rfl, rfl⟩

theorem quiet_putInbound (inboundKey : String × String) (row : InboundRow) :
    Quiet tables (tables.putInbound inboundKey row) :=
  fun _ => ⟨rfl, fun _ => rfl, fun _ => rfl, rfl⟩

section PutMailbox

variable (mailbox : SessionMailbox)

@[simp] theorem mailbox_putMailbox : (tables.putMailbox key mailbox).mailbox key = mailbox := by
  simp [Tables.mailbox, putMailbox]

theorem mailbox_putMailbox_of_ne {key other : SessionKey} (different : key ≠ other) :
    (tables.putMailbox key mailbox).mailbox other = tables.mailbox other := by
  simp [Tables.mailbox, putMailbox, different]

@[simp] theorem item?_putMailbox (sequence : Nat) :
    (tables.putMailbox key mailbox).item? other sequence = tables.item? other sequence := rfl

@[simp] theorem announced_putMailbox (generation : Nat) :
    (tables.putMailbox key mailbox).announced other generation =
      tables.announced other generation := rfl

@[simp] theorem sessions_putMailbox :
    (tables.putMailbox key mailbox).sessions = tables.sessions := rfl

@[simp] theorem outboxEvents_putMailbox :
    (tables.putMailbox key mailbox).outboxEvents = tables.outboxEvents := rfl

theorem untouched_putMailbox {key other : SessionKey} (different : other ≠ key) :
    Untouched other tables (tables.putMailbox key mailbox) where
  mailbox := tables.mailbox_putMailbox_of_ne mailbox different.symm
  items _ := rfl
  announced _ := rfl
  session := rfl

end PutMailbox

theorem item?_putItem (sequence position : Nat) (item : ItemRow) :
    (tables.putItem key sequence item).item? key position =
      if sequence = position then some item else tables.item? key position := by
  simp [item?, putItem, Dict.get?_set]

variable {sequence : Nat}

theorem isSome_item?_putItem {old : ItemRow}
    (present : tables.item? key sequence = some old) (item : ItemRow) (position : Nat) :
    ((tables.putItem key sequence item).item? key position).isSome =
      (tables.item? key position).isSome := by
  rw [item?_putItem]
  split
  · rename_i same
    rw [← same, present]
    rfl
  · rfl

theorem untouched_putItem {key other : SessionKey} (sequence : Nat)
    (item : ItemRow) (different : other ≠ key) :
    Untouched other tables (tables.putItem key sequence item) where
  mailbox := rfl
  items position := by
    have apart : (key, sequence) ≠ (other, position) := fun same =>
      different (congrArg Prod.fst same).symm
    rw [item?, putItem, Dict.get?_set_of_ne _ _ apart, item?]
  announced _ := rfl
  session := rfl

theorem effect_putItem {old : ItemRow}
    (present : tables.item? key sequence = some old) (item : ItemRow) :
    Effect key tables (tables.putItem key sequence item) none where
  mailbox := .single (.stay (tables.mailbox key).updatedAt rfl
    (tables.isSome_item?_putItem key present item) fun _ => rfl)
  lease := .keep rfl (.inl rfl)
  frame _ different := tables.untouched_putItem sequence item different

theorem effect_resolveItem (sequence : Nat) (resolvedAt : ItemRow → Time) :
    Effect key tables (tables.resolveItem key sequence resolvedAt) none := by
  rw [resolveItem]
  split
  · rename_i item present
    exact tables.effect_putItem key present _
  · exact .refl

@[simp] theorem mailbox_resolveItem (sequence : Nat) (resolvedAt : ItemRow → Time) :
    (tables.resolveItem key sequence resolvedAt).mailbox other = tables.mailbox other := by
  rw [resolveItem]
  split <;> rfl

@[simp] theorem outboxEvents_resolveItem (sequence : Nat) (resolvedAt : ItemRow → Time) :
    (tables.resolveItem key sequence resolvedAt).outboxEvents = tables.outboxEvents := by
  rw [resolveItem]
  split <;> rfl

@[simp] theorem isSome_item?_resolveItem (sequence position : Nat) (resolvedAt : ItemRow → Time) :
    ((tables.resolveItem key sequence resolvedAt).item? key position).isSome =
      (tables.item? key position).isSome := by
  rw [resolveItem]
  split
  · rename_i item present
    exact tables.isSome_item?_putItem key present _ position
  · rfl

theorem untouched_putSession {key other : SessionKey} (session : SessionRow)
    (different : other ≠ key) :
    Untouched other tables (tables.putSession key session) where
  mailbox := rfl
  items _ := rfl
  announced _ := rfl
  session := by simp [putSession, Dict.get?_set_of_ne _ _ different.symm]

theorem effect_putSession (session : SessionRow) {granted : Option (String × Nat)}
    (lease : LeaseStep key tables (tables.putSession key session) granted) :
    Effect key tables (tables.putSession key session) granted where
  mailbox := .single (.stay (tables.mailbox key).updatedAt rfl (fun _ => rfl) fun _ => rfl)
  lease := lease
  frame _ different := tables.untouched_putSession session different

@[simp] theorem leaseOwner_putSession (session : SessionRow) :
    (tables.putSession key session).leaseOwner key = session.leaseOwner := by
  simp [leaseOwner, putSession]

@[simp] theorem leaseEpoch_putSession (session : SessionRow) :
    (tables.putSession key session).leaseEpoch key = session.leaseEpoch := by
  simp [leaseEpoch, putSession]

theorem effect_rewriteSession {updated : SessionRow}
    (stored : tables.sessions.get? key = some session)
    (epoch : updated.leaseEpoch = session.leaseEpoch)
    (owner : updated.leaseOwner = session.leaseOwner ∨ updated.leaseOwner = none) :
    Effect key tables (tables.putSession key updated) none := by
  refine tables.effect_putSession key _ (.keep ?_ ?_)
  · rw [leaseEpoch_putSession, leaseEpoch_of_get? stored, epoch]
  · rwa [leaseOwner_putSession, leaseOwner_of_get? stored]

section ClearSession

variable (represented : SessionRow → Bool)

theorem effect_clearSession : Effect key tables (tables.clearSession key represented) none := by
  rw [clearSession]
  split
  · rename_i session stored
    split
    · exact tables.effect_rewriteSession key stored rfl (.inr rfl)
    · exact .refl
  · exact .refl

@[simp] theorem mailbox_clearSession :
    (tables.clearSession key represented).mailbox other = tables.mailbox other := by
  rw [clearSession]
  split
  · split <;> rfl
  · rfl

@[simp] theorem item?_clearSession (sequence : Nat) :
    (tables.clearSession key represented).item? other sequence = tables.item? other sequence := by
  rw [clearSession]
  split
  · split <;> rfl
  · rfl

@[simp] theorem outboxEvents_clearSession :
    (tables.clearSession key represented).outboxEvents = tables.outboxEvents := by
  rw [clearSession]
  split
  · split <;> rfl
  · rfl

@[simp] theorem announced_clearSession (generation : Nat) :
    (tables.clearSession key represented).announced other generation =
      tables.announced other generation := by
  rw [announced, outboxEvents_clearSession, announced]

end ClearSession

theorem readyIndex_readyRow (generation : Nat) (priority : Int)
    (traceId : String) (traceHeaders : List (String × String)) (uuid : String)
    (now createdAt : Time) :
    (readyRow key generation priority traceId traceHeaders uuid now
      createdAt).readyIndex = some (key, generation) := rfl

variable {id : String × String}

section InsertReady

variable (generation : Nat) (priority : Int) (traceId : String)
variable (traceHeaders : List (String × String)) (uuid : String)
variable (now createdAt : Time)

@[simp] theorem mailbox_insertReady :
    (tables.insertReady key generation priority traceId traceHeaders uuid now
      createdAt).mailbox other = tables.mailbox other := by
  rw [insertReady]
  split <;> rfl

@[simp] theorem item?_insertReady (sequence : Nat) :
    (tables.insertReady key generation priority traceId traceHeaders uuid now
      createdAt).item? other sequence = tables.item? other sequence := by
  rw [insertReady]
  split <;> rfl

@[simp] theorem sessions_insertReady :
    (tables.insertReady key generation priority traceId traceHeaders uuid now
      createdAt).sessions = tables.sessions := by
  rw [insertReady]
  split <;> rfl

theorem outboxEvents_insertReady (apart : id ≠ (key.1, uuid)) :
    (tables.insertReady key generation priority traceId traceHeaders uuid now
      createdAt).outboxEvents.get? id = tables.outboxEvents.get? id := by
  rw [insertReady]
  split
  · rfl
  · exact Dict.get?_set_of_ne _ _ apart.symm

theorem announced_set (row : OutboxRow)
    (absent : tables.outboxEvents.get? id = none) (number : Nat) :
    announced { tables with outboxEvents := tables.outboxEvents.set id row } other number = true ↔
      tables.announced other number = true ∨ row.readyIndex = some (other, number) := by
  simp only [announced_iff, Dict.get?_set]
  constructor
  · rintro ⟨position, stored, found, index⟩
    split at found
    · cases found
      exact .inr index
    · exact .inl ⟨position, stored, found, index⟩
  · rintro (⟨position, stored, found, index⟩ | index)
    · have apart : id ≠ position := by
        rintro rfl
        simp [absent] at found
      exact ⟨position, stored, by simp [apart, found], index⟩
    · exact ⟨id, row, by simp, index⟩

theorem announced_insertReady (absent : tables.outboxEvents.get? (key.1, uuid) = none)
    (unannounced : tables.announced key generation = false) (number : Nat) :
    (tables.insertReady key generation priority traceId traceHeaders uuid now
        createdAt).announced other number = true ↔
      tables.announced other number = true ∨ other = key ∧ number = generation := by
  have inserted : ¬ ((tables.outboxEvents.get? (key.1, uuid)).isSome ∨
      tables.announced key generation) := by
    simp [absent, unannounced]
  rw [insertReady, if_neg inserted, announced_set tables other _ absent,
    readyIndex_readyRow, Option.some.injEq, Prod.mk.injEq]
  exact or_congr_right (and_congr eq_comm eq_comm)

theorem untouched_insertReady {key other : SessionKey} (different : other ≠ key) :
    Untouched other tables (tables.insertReady key generation priority traceId
      traceHeaders uuid now createdAt) where
  mailbox := tables.mailbox_insertReady key other ..
  items sequence := tables.item?_insertReady key other ..
  announced number := by
    by_cases conflict : (tables.outboxEvents.get? (key.1, uuid)).isSome ∨
        tables.announced key generation
    · rw [insertReady, if_pos conflict]
    · simp only [not_or, Bool.not_eq_true, Option.isSome_eq_false_iff,
        Option.isNone_iff_eq_none] at conflict
      rw [Bool.eq_iff_iff, announced_insertReady tables key other generation
        priority traceId traceHeaders uuid now createdAt conflict.1 conflict.2]
      simp [different]
  session := by rw [sessions_insertReady]

end InsertReady

variable {after : Tables}

theorem quiet_reopenReady {generation : Nat} {eligible : OutboxRow → Bool}
    {availableAt replayedAt : Time}
    (opened : tables.reopenReady key generation eligible availableAt replayedAt = some after) :
    Quiet tables after := by
  rw [reopenReady] at opened
  split at opened
  · cases opened
    intro position
    refine ⟨rfl, fun _ => rfl, fun number => ?_, rfl⟩
    simp only [announced, Dict.values, Dict.mapValues, List.map_map, List.any_map]
    refine congrArg (List.any tables.outboxEvents.entries) ?_
    funext entry
    simp only [Function.comp]
    split <;> rfl
  · cases opened

theorem quiet_insertOutbox {row : OutboxRow} (silent : row.readyIndex = none)
    (inserted : tables.insertOutbox row = .ok after) : Quiet tables after := by
  rw [insertOutbox] at inserted
  split at inserted
  · cases inserted
  · rename_i absent
    cases inserted
    intro position
    refine ⟨rfl, fun _ => rfl, fun number => ?_, rfl⟩
    rw [Bool.eq_iff_iff, announced_set tables position row (by simpa using absent), silent]
    simp

theorem outboxEvents_insertOutbox {row : OutboxRow} (inserted : tables.insertOutbox row = .ok after)
    (apart : id ≠ (row.tenantId, row.outboxId)) :
    after.outboxEvents.get? id = tables.outboxEvents.get? id := by
  rw [insertOutbox] at inserted
  split at inserted
  · cases inserted
  · cases inserted
    exact Dict.get?_set_of_ne _ _ apart.symm

variable {inboundId : String}

theorem quiet_insertInbound {row : InboundRow}
    (inserted : tables.insertInbound inboundId row = .ok after) : Quiet tables after := by
  rw [insertInbound] at inserted
  split at inserted
  · cases inserted
  · cases inserted
    exact tables.quiet_putInbound _ row

theorem outboxEvents_insertInbound {row : InboundRow}
    (inserted : tables.insertInbound inboundId row = .ok after) :
    after.outboxEvents = tables.outboxEvents := by
  rw [insertInbound] at inserted
  split at inserted
  · cases inserted
  · cases inserted
    rfl

theorem quiet_insertEvents {turnId : String} {events : List StoredEvent} {answer : Nat × Tables}
    (inserted : tables.insertEvents key turnId sequence events = .ok answer) :
    Quiet tables answer.2 ∧ answer.2.outboxEvents = tables.outboxEvents := by
  induction events generalizing tables sequence with
  | nil =>
    cases inserted
    exact ⟨fun _ => .refl, rfl⟩
  | cons event rest induction =>
    rw [insertEvents] at inserted
    split at inserted
    · cases inserted
    · obtain ⟨quiet, same⟩ := induction _ inserted
      exact ⟨fun position => ⟨(quiet position).mailbox, (quiet position).items,
        (quiet position).announced, (quiet position).session⟩, same⟩

theorem quiet_insertOutbound {uuid : String} {now : Time} {outbound : Option OutboundEnvelope}
    (inserted : tables.insertOutbound key uuid now outbound = .ok after) :
    Quiet tables after ∧ ∀ id, id ≠ (key.1, uuid) →
      after.outboxEvents.get? id = tables.outboxEvents.get? id := by
  cases outbound with
  | none =>
    cases inserted
    exact ⟨fun _ => .refl, fun _ _ => rfl⟩
  | some envelope =>
    rw [insertOutbound] at inserted
    split at inserted
    · cases inserted
    · refine ⟨fun position => ?_, fun id apart => ?_⟩
      · have quiet := quiet_insertOutbox _ rfl inserted position
        exact ⟨quiet.mailbox, quiet.items, quiet.announced, quiet.session⟩
      · have same := outboxEvents_insertOutbox _ inserted apart
        exact same

theorem quiet_startTurn {turn : Option ((String × String) × TurnRow)} {uuid : String}
    {configVersion token attempt : Nat} {answer : String × Tables}
    (started : tables.startTurn key turn inboundId uuid configVersion token attempt = .ok answer) :
    Quiet tables answer.2 ∧ answer.2.outboxEvents = tables.outboxEvents := by
  unfold startTurn at started
  split at started
  · cases started
    exact ⟨tables.quiet_putTurn _ _, rfl⟩
  · split at started
    · cases started
    · cases started
      exact ⟨tables.quiet_putTurn _ _, rfl⟩

theorem quiet_rewriteDispatch {columns : DispatchColumns} {answer : Unit × Tables}
    (rewritten : tables.rewriteDispatch id columns = .ok answer) : Quiet tables answer.2 := by
  rw [rewriteDispatch] at rewritten
  split at rewritten
  · cases rewritten
  · rename_i row stored
    cases rewritten
    intro position
    refine ⟨rfl, fun _ => rfl, fun number => ?_, rfl⟩
    rw [Bool.eq_iff_iff, announced_iff, announced_iff]
    constructor
    · rintro ⟨found, other, present, index⟩
      rw [Dict.get?_set] at present
      split at present
      · rename_i same
        cases present
        exact ⟨id, row, stored, index⟩
      · exact ⟨found, other, present, index⟩
    · rintro ⟨found, other, present, index⟩
      by_cases same : id = found
      · subst same
        rw [stored, Option.some.injEq] at present
        subst present
        exact ⟨id, _, Dict.get?_set_self _ _ _, index⟩
      · exact ⟨found, other, by rw [Dict.get?_set_of_ne _ _ same, present], index⟩

theorem effect_ensureMailbox (createdAt : Time) :
    Effect key tables (tables.ensureMailbox key createdAt).2 none ∧
      (tables.ensureMailbox key createdAt).2.mailbox key = (tables.ensureMailbox key createdAt).1 ∧
      (tables.ensureMailbox key createdAt).2.outboxEvents = tables.outboxEvents := by
  rw [ensureMailbox]
  split
  · rename_i mailbox stored
    exact ⟨.refl, mailbox_of_get? stored, rfl⟩
  · rename_i absent
    refine ⟨⟨.single (.stay createdAt ?_ (fun _ => rfl) fun _ => rfl), .keep rfl (.inl rfl),
      fun other different => tables.untouched_putMailbox _ different⟩,
      mailbox_putMailbox _ _ _, rfl⟩
    rw [mailbox_putMailbox, Tables.mailbox, absent]
    rfl

variable (appId principalId : String)

theorem effect_ensureSession :
    Effect key tables (tables.ensureSession key appId principalId).2 none ∧
      (tables.ensureSession key appId principalId).2.sessions.get? key =
        some (tables.ensureSession key appId principalId).1 ∧
      (tables.ensureSession key appId principalId).2.outboxEvents = tables.outboxEvents := by
  rw [ensureSession]
  split
  · rename_i session stored
    exact ⟨.refl, stored, rfl⟩
  · rename_i absent
    refine ⟨tables.effect_putSession key _ (.keep ?_ (.inr ?_)), Dict.get?_set_self _ _ _, rfl⟩
    · rw [leaseEpoch_putSession, leaseEpoch, absent]
      rfl
    · rw [leaseOwner_putSession]

theorem mailbox_ensureSession :
    (tables.ensureSession key appId principalId).2.mailbox other = tables.mailbox other := by
  rw [ensureSession]
  split <;> rfl

theorem item?_ensureSession (sequence : Nat) :
    (tables.ensureSession key appId principalId).2.item? other sequence =
      tables.item? other sequence := by
  rw [ensureSession]
  split <;> rfl

end Tables

end TrpcService.Storage.Postgres
