import TrpcService.Storage.Postgres.Effects
import Mathlib.Logic.Function.Basic

namespace TrpcService.Storage.Postgres

open Data SessionMailbox

/-! The invariant that ties one session's mailbox row to its items and to the
generations of its wake-ups. -/

structure MailboxInv (key : SessionKey) (tables : Tables) : Prop where
  ordered : (tables.mailbox key).resolvedSequence ≤ (tables.mailbox key).acceptedSequence
  items : ∀ sequence, (tables.item? key sequence).isSome ↔
    1 ≤ sequence ∧ sequence ≤ (tables.mailbox key).acceptedSequence
  idle : (tables.mailbox key).status = .idle ↔ (tables.mailbox key).acceptedSequence =
      (tables.mailbox key).resolvedSequence
  running : (tables.mailbox key).status = .running → (tables.mailbox key).processingSequence =
      some ((tables.mailbox key).resolvedSequence + 1)
  unleased : (tables.mailbox key).status ≠ .running → (tables.mailbox key).processingSequence = none
  waiting : (tables.mailbox key).status = .retryWait → (tables.mailbox key).retryAt.isSome
  queued : (tables.mailbox key).status = .queued →
    tables.announced key (tables.mailbox key).queueGeneration = true
  generations : ∀ generation, tables.announced key generation = true ↔
    1 ≤ generation ∧ generation ≤ (tables.mailbox key).queueGeneration

namespace MailboxInv

variable {key : SessionKey} {tables before after : Tables}

theorem empty : MailboxInv key .empty where
  ordered := Nat.le_refl 0
  items sequence := by
    simp [Tables.item?, Tables.empty, Tables.mailbox, fresh]
    omega
  idle := by simp [Tables.mailbox, Tables.empty, fresh]
  running := by simp [Tables.mailbox, Tables.empty, fresh]
  unleased _ := rfl
  waiting := by simp [Tables.mailbox, Tables.empty, fresh]
  queued := by simp [Tables.mailbox, Tables.empty, fresh]
  generations generation := by
    simp [Tables.announced, Tables.empty, Tables.mailbox, fresh]
    omega

section Held

variable (inv : MailboxInv key tables)

include inv

theorem next_unannounced :
    tables.announced key ((tables.mailbox key).queueGeneration + 1) = false := by
  refine Bool.of_not_eq_true fun announced => ?_
  have bounds := (inv.generations _).mp announced
  omega

theorem processing_eq : (tables.mailbox key).processingSequence = none ∨
      (tables.mailbox key).processingSequence =
        some ((tables.mailbox key).resolvedSequence + 1) := by
  by_cases running : (tables.mailbox key).status = .running
  · exact .inr (inv.running running)
  · exact .inl (inv.unleased running)

theorem activeSequence_eq :
    (tables.mailbox key).activeSequence = (tables.mailbox key).resolvedSequence + 1 := by
  rcases inv.processing_eq with none | some <;> simp [activeSequence, *]

theorem headSequence_eq :
    headSequence (tables.mailbox key) = (tables.mailbox key).resolvedSequence + 1 := by
  rcases inv.processing_eq with none | some <;> simp [headSequence, *]

theorem pending_of_item {item : ItemRow}
    (stored : tables.item? key ((tables.mailbox key).resolvedSequence + 1) = some item) :
    (tables.mailbox key).resolvedSequence < (tables.mailbox key).acceptedSequence := by
  have bounds := (inv.items _).mp (by rw [stored]; rfl)
  omega

theorem pending_of_busy (busy : (tables.mailbox key).status ≠ .idle) :
    (tables.mailbox key).resolvedSequence < (tables.mailbox key).acceptedSequence := by
  have ordered := inv.ordered
  have pending := mt inv.idle.mpr busy
  omega

theorem drained_of_no_item
    (absent : tables.item? key ((tables.mailbox key).resolvedSequence + 1) = none) :
    (tables.mailbox key).acceptedSequence = (tables.mailbox key).resolvedSequence := by
  have missing : ¬ _ := fun bounds =>
    absurd ((inv.items ((tables.mailbox key).resolvedSequence + 1)).mpr bounds) (by simp [absent])
  have ordered := inv.ordered
  omega

end Held

variable (inv : MailboxInv key before)

include inv

theorem items_counted (counted : Counted key before after) (sequence : Nat) :
    (after.item? key sequence).isSome ↔
      1 ≤ sequence ∧ sequence ≤ (after.mailbox key).acceptedSequence := by
  cases counted with
  | same accepted items => rw [items, accepted, inv.items]
  | appended accepted items =>
    rw [items, accepted, inv.items]
    omega

theorem generations_unannounced (unannounced : Unannounced key before after) (generation : Nat) :
    after.announced key generation = true ↔ 1 ≤ generation ∧
        generation ≤ (after.mailbox key).queueGeneration := by
  rw [unannounced.announced, unannounced.generation, inv.generations]

theorem write (counted : Counted key before after)
    (unleased : (after.mailbox key).status ≠ .running →
      (after.mailbox key).processingSequence = none)
    (posted : Posted key before after) : MailboxInv key after := by
  have items := inv.items_counted counted
  cases posted with
  | idle status drained unannounced =>
    exact {
      ordered := Nat.le_of_eq drained.symm, items, unleased
      idle := by simp [status, drained]
      running := by simp [status]
      waiting := by simp [status]
      queued := by simp [status]
      generations := inv.generations_unannounced unannounced }
  | waiting status timed pending unannounced =>
    exact {
      ordered := Nat.le_of_lt pending, items, unleased
      idle := by simp [status]; omega
      running := by simp [status]
      waiting := fun _ => timed
      queued := by simp [status]
      generations := inv.generations_unannounced unannounced }
  | running status processing pending unannounced =>
    exact {
      ordered := Nat.le_of_lt pending, items, unleased
      idle := by simp [status]; omega
      running := fun _ => processing
      waiting := by simp [status]
      queued := by simp [status]
      generations := inv.generations_unannounced unannounced }
  | queued status was pending unannounced =>
    exact {
      ordered := Nat.le_of_lt pending, items, unleased
      idle := by simp [status]; omega
      running := by simp [status]
      waiting := by simp [status]
      queued := fun _ => by
        rw [unannounced.generation, unannounced.announced]
        exact inv.queued was
      generations := inv.generations_unannounced unannounced }
  | woken status pending generation announced =>
    exact {
      ordered := Nat.le_of_lt pending, items, unleased
      idle := by simp [status]; omega
      running := by simp [status]
      waiting := by simp [status]
      queued := fun _ => (announced _).mpr (.inr generation)
      generations := fun number => by
        rw [announced, inv.generations, generation]
        omega }

theorem step (step : MailboxStep key before after) : MailboxInv key after := by
  cases step with
  | stay updatedAt mailbox items announced =>
    constructor
    all_goals simp only [mailbox, items, announced]
    exacts [inv.ordered, inv.items, inv.idle, inv.running, inv.unleased,
      inv.waiting, inv.queued, inv.generations]
  | write counted unleased posted => exact inv.write counted unleased posted

theorem steps (steps : Relation.ReflTransGen (MailboxStep key) before after) :
    MailboxInv key after := by
  induction steps with
  | refl => exact inv
  | tail _ step induction => exact induction.step step

theorem effect {granted : Option (String × Nat)} (effect : Effect key before after granted) :
    MailboxInv key after :=
  inv.steps effect.mailbox

end MailboxInv

/-- Generated identifiers: unused in the table and distinct in one call. -/
structure FreshIds (tables : Tables) (uuids : Nat → String) : Prop where
  unused : ∀ tenantId index, tables.outboxEvents.get? (tenantId, uuids index) = none
  distinct : Function.Injective uuids

end TrpcService.Storage.Postgres
