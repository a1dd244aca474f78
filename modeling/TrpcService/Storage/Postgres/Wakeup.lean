import TrpcService.Storage.Postgres.Runs

namespace TrpcService.Storage.Postgres

open Data

/-! No wake-up is lost: every session with pending messages is being worked on,
waits for a known time, or has its current generation in the outbox. -/

namespace MailboxInv

variable {key : SessionKey} {tables before after : Tables}

theorem scheduled (inv : MailboxInv key tables)
    (pending : (tables.mailbox key).resolvedSequence < (tables.mailbox key).acceptedSequence) :
    (tables.mailbox key).status = .running ∨ ((tables.mailbox key).status = .retryWait ∧
        (tables.mailbox key).retryAt.isSome) ∨
      ((tables.mailbox key).status = .queued ∧
        tables.announced key (tables.mailbox key).queueGeneration = true) := by
  cases status : (tables.mailbox key).status with
  | idle =>
    have drained := inv.idle.mp status
    omega
  | running => exact .inl rfl
  | retryWait => exact .inr (.inl ⟨rfl, inv.waiting status⟩)
  | queued => exact .inr (.inr ⟨rfl, inv.queued status⟩)

theorem announced_between (inv : MailboxInv key before) (later : MailboxInv key after)
    {generation : Nat} (newer : (before.mailbox key).queueGeneration < generation)
    (numbered : generation ≤ (after.mailbox key).queueGeneration) :
    before.announced key generation = false ∧ after.announced key generation = true := by
  refine ⟨Bool.of_not_eq_true fun announced => ?_,
    (later.generations generation).mpr ⟨by omega, numbered⟩⟩
  have bounds := (inv.generations generation).mp announced
  omega

end MailboxInv

/-- In every state of a run a session with pending messages is running, waits
for a time, or is queued with its generation in the outbox; the generations in
the outbox are exactly those numbered so far, and a transaction inserts a row
for each generation it numbers, none of which was there before.  A session
without a mailbox row counts as one at generation 0. -/
theorem repository_no_lost_wakeup {library : Library} {config : DatabaseConfig}
    (reachable : (repository library).Reachable freshRequest config) (key : SessionKey) :
    (∀ mailbox, config.state.tables.sessionMailboxes.get? key = some mailbox →
      mailbox.resolvedSequence < mailbox.acceptedSequence →
      mailbox.status = .running ∨ (mailbox.status = .retryWait ∧ mailbox.retryAt.isSome) ∨
        (mailbox.status = .queued ∧ ∃ id row, config.state.tables.outboxEvents.get? id = some row ∧
            row.readyIndex = some (key, mailbox.queueGeneration))) ∧
      (∀ generation, config.state.tables.announced key generation = true ↔ 1 ≤ generation ∧
          generation ≤ (config.state.tables.mailbox key).queueGeneration) ∧
      ∀ next, (repository library).Step freshRequest config next →
        ∀ generation, (config.state.tables.mailbox key).queueGeneration < generation →
          generation ≤ (next.state.tables.mailbox key).queueGeneration →
          config.state.tables.announced key generation = false ∧
            next.state.tables.announced key generation = true := by
  have inv := mailboxInv_reachable reachable key
  refine ⟨fun mailbox stored pending => ?_, inv.generations, ?_⟩
  · obtain rfl := Tables.mailbox_of_get? stored
    have scheduled := inv.scheduled pending
    rwa [Tables.announced_iff] at scheduled
  · intro next step generation newer numbered
    have later := mailboxInv_reachable (reachable.steps (.single step)) key
    exact inv.announced_between later newer numbered

theorem receivedOnce_no_lost_wakeup :
    (receivedOnce.state.tables.mailbox firstKey).status = .queued ∧
      ∀ generation, receivedOnce.state.tables.announced firstKey
        generation = true ↔ 1 ≤ generation ∧ generation ≤ 1 := by
  have queued : (receivedOnce.state.tables.mailbox
      firstKey).status = .queued := by decide +kernel
  have numbered : (receivedOnce.state.tables.mailbox
      firstKey).queueGeneration = 1 := by decide +kernel
  have announced := (repository_no_lost_wakeup receivedOnce_reachable firstKey).2.1
  rw [numbered] at announced
  exact ⟨queued, announced⟩

end TrpcService.Storage.Postgres
