import TrpcService.Channels.Protocol
import TrpcService.Storage.Postgres.DeliveryEffects

namespace TrpcService.Channels

open Data Storage Storage.Postgres DeliveryTables

/-! Dispatchers at work on one database, next to turns that commit replies and
operators that replay them.  Every call of the repository is one transaction. -/

inductive DeliveryDeed where
  | sent
  | failedRetryably
  | replayed
  deriving DecidableEq, Repr

structure DeliveryEvent where
  deed : DeliveryDeed
  tenantId : String
  outboundId : String
  deriving DecidableEq, Repr

structure DeliveryWorld where
  tables : DeliveryTables
  log : List DeliveryEvent

structure Choice where
  fate : Fate Failure := .answered
  now : Time := 0
  /-- The rows that a claim finds unlocked. -/
  batch : List (String × String) := []
  stopping : Bool := false
  binding : Option ChannelBinding := none
  ready : Bool := true
  receipt : Option DeliveryReceipt := none
  jitter : Option Time := none

namespace DeliveryWorld

def transact {α : Type} (world : DeliveryWorld) (fate : Fate Failure)
    (attempt : Except Failure (α × DeliveryTables))
    (events : List DeliveryEvent) : Except Failure α × DeliveryWorld :=
  fate.transact (attempt.map fun (value, tables) => (value, ⟨tables, events ++ world.log⟩)) world

def settled (record : OutboxRecord) (receipt : DeliveryReceipt) : List DeliveryEvent :=
  if receipt.status = .failed ∧ receipt.retryable = true then
    [⟨.failedRetryably, record.tenantId, record.aggregateId⟩]
  else []

def respond (library : Library) (effect : DispatchEffect) (choice : Choice)
    (world : DeliveryWorld) : Except Failure effect.Answer × DeliveryWorld :=
  match effect with
  | .claimOutbox eventType ownerId limit leaseSeconds =>
      world.transact choice.fate (.ok (world.tables.claimOutbox eventType
        ownerId limit leaseSeconds choice.batch choice.now)) []
  | .stopRequested => (.ok choice.stopping, world)
  | .releaseOutbox tenantId outboxId ownerId delay _ =>
      world.transact choice.fate (world.tables.releaseOutbox tenantId outboxId
        ownerId delay choice.now) []
  | .deadLetterOutbox record ownerId _ =>
      world.transact choice.fate (world.tables.deadLetterOutbox record ownerId choice.now) []
  | .markOutboxPublished tenantId outboxId ownerId =>
      world.transact choice.fate (world.tables.markOutboxPublished tenantId
        outboxId ownerId choice.now) []
  | .recordDelivery tenantId receipt retrying =>
      world.transact choice.fate (world.tables.recordDelivery library tenantId receipt retrying) []
  | .beginDelivery record ownerId =>
      world.transact choice.fate (world.tables.beginDelivery library record ownerId) []
  | .finishDelivery record ownerId attemptNumber receipt retryDelay =>
      world.transact choice.fate (world.tables.finishDelivery library record
        ownerId attemptNumber receipt retryDelay choice.now)
        (settled record receipt)
  | .startSpan _ => (choice.fate.answer (), world)
  | .resolveBinding _ => (choice.fate.answer choice.binding, world)
  | .bindingReady _ => (choice.fate.answer choice.ready, world)
  -- Whether it answers or not, the adapter has been called.
  | .send envelope _ =>
      (choice.fate.answer choice.receipt,
        { world with log :=
          ⟨.sent, envelope.tenantId, envelope.outboundId⟩ :: world.log })
  | .retryJitter _ => (choice.fate.answer choice.jitter, world)

end DeliveryWorld

/-- What others do: a turn commits its reply, an operator replays a message,
and other requests to the control plane move versions on and remember their
answers. -/
inductive DeliveryMove where
  | commit (tenantId : String) (envelope : OutboundEnvelope) (uuid : String) (now : Time)
  | replay (request : ReplayRequest) (uuid : String) (now : Time)
  | administer (controlVersions : Dict String Nat)
      (idempotency : Dict (String × String) IdempotencyRow)

namespace DeliveryWorld

def replay (library : Library) (request : ReplayRequest)
    (uuid : String) (now : Time) (world : DeliveryWorld) : DeliveryWorld :=
  match world.tables.replayOutbound library request uuid now with
  | .error _ => world
  | .ok (_, tables) =>
      match world.tables.cachedReplay request now with
      -- A request that is answered from memory replays nothing.
      | .ok (some _) => ⟨tables, world.log⟩
      | _ => ⟨tables, ⟨.replayed, request.tenantId, request.outboundId⟩ :: world.log⟩

def move (library : Library) (move : DeliveryMove) (world : DeliveryWorld) : DeliveryWorld :=
  match move with
  | .commit tenantId envelope uuid now =>
      match world.tables.insertOutbound library tenantId envelope uuid now with
      | .error _ => world
      | .ok (_, tables) => { world with tables }
  | .replay request uuid now => world.replay library request uuid now
  | .administer controlVersions idempotency =>
      { world with
        tables := { world.tables with controlVersions, idempotency } }

end DeliveryWorld

/-- Dispatchers run under their owner ids, one cycle after the other; the
repository offers them `begin_delivery` and `finish_delivery`. -/
def delivering (library : Library) (schema : EnvelopeSchema) :
    Behaviour DeliveryWorld String DispatchEffect DispatchEffect.Answer Failure
      Nat Dispatcher Choice DeliveryMove where
  launch dispatcher := (dispatcher.ownerId,
      { dispatcher with atomicDelivery := true }.dispatchOnce schema)
  respond _ := DeliveryWorld.respond library
  move := DeliveryWorld.move library

abbrev DeliveryFleet := Fleet DeliveryWorld String DispatchEffect DispatchEffect.Answer Failure Nat

abbrev DeliveryAction := Action String Dispatcher Choice DeliveryMove

def undelivered (controlVersions : Dict String Nat) : DeliveryFleet where
  state := ⟨{ empty with controlVersions }, []⟩
  tasks _ := .done (.ok 0)

namespace DeliveryWorld

variable {library : Library} {world : DeliveryWorld} {α : Type}

theorem transact_cases (world : DeliveryWorld) (fate : Fate Failure)
    (attempt : Except Failure (α × DeliveryTables)) (events : List DeliveryEvent) :
    ((∃ error, (world.transact fate attempt events).1 = .error error) ∧
        (world.transact fate attempt events).2 = world) ∨
      ∃ value tables, attempt = .ok (value, tables) ∧ (world.transact fate attempt events).2 =
          ⟨tables, events ++ world.log⟩ ∧
        ((world.transact fate attempt events).1 = .ok value ∨
          ∃ error, (world.transact fate attempt events).1 = .error error) := by
  unfold transact
  rcases fate.transact_cases (attempt.map _) world with
    nothing | ⟨value, after, took, reached, told⟩
  · exact .inl nothing
  · cases attempt with
    | error error => exact nomatch took
    | ok answer =>
      cases took
      exact .inr ⟨answer.1, answer.2, rfl, reached, told⟩

variable {attempt : Except Failure (α × DeliveryTables)}

theorem transact_eq_ok {fate : Fate Failure} {events : List DeliveryEvent} {value : α}
    (answered : (world.transact fate attempt events).1 = .ok value) :
    ∃ tables, attempt = .ok (value, tables) ∧
      (world.transact fate attempt events).2.tables = tables := by
  have took := Fate.transact_eq_ok answered
  cases attempt with
  | error error => exact nomatch took
  | ok answer =>
    obtain ⟨rfl, reached⟩ := Prod.mk.inj (Except.ok.inj took)
    exact ⟨answer.2, rfl, congrArg DeliveryWorld.tables reached.symm⟩

@[simp] theorem log_transact_nil (fate : Fate Failure)
    (attempt : Except Failure (α × DeliveryTables)) :
    (world.transact fate attempt []).2.log = world.log := by
  rcases transact_cases world fate attempt [] with ⟨_, same⟩ | ⟨value, tables, _, after, _⟩
  · rw [same]
  · rw [after]
    rfl

theorem transact_tables (relates : DeliveryTables → Prop) (fate : Fate Failure)
    (events : List DeliveryEvent) (nothing : relates world.tables)
    (succeeds : ∀ answer, attempt = .ok answer → relates answer.2) :
    relates (world.transact fate attempt events).2.tables := by
  rcases transact_cases world fate attempt events with ⟨_, same⟩ | ⟨value, tables, took, after, _⟩
  · rw [same]
    exact nothing
  · rw [after]
    exact succeeds _ took

theorem continues_respond (sound : Sound library world.tables) (effect : DispatchEffect)
    (choice : Choice) : Continues world.tables (world.respond library effect choice).2.tables := by
  cases effect with
  | claimOutbox eventType ownerId limit leaseSeconds =>
    refine transact_tables _ _ _ (.refl _) ?_
    intro answer claimed
    cases claimed
    exact (claimOutbox_spec sound eventType ownerId limit leaseSeconds choice.batch choice.now).1
  | releaseOutbox tenantId outboxId ownerId delay =>
    refine transact_tables _ _ _ (.refl _) fun answer released => ?_
    obtain ⟨row, held, after⟩ := releaseOutbox_eq_ok released
    rw [after]
    exact continues_putOutbox sound (heldRow_eq_some.mp held).1 (.release _ row)
  | deadLetterOutbox record ownerId =>
    refine transact_tables _ _ _ (.refl _) fun answer retired => ?_
    obtain ⟨row, claimed, after⟩ := deadLetterOutbox_eq_ok retired
    rw [after]
    exact continues_putOutbox sound (claimedRow_eq_some.mp claimed).1 (.publish _ row)
  | markOutboxPublished tenantId outboxId ownerId =>
    refine transact_tables _ _ _ (.refl _) fun answer published => ?_
    obtain ⟨row, claimed, after⟩ := markOutboxPublished_eq_ok published
    rw [after]
    exact continues_putOutbox sound (claimedRow_eq_some.mp claimed).1 (.publish _ row)
  | recordDelivery tenantId receipt retrying =>
    refine transact_tables _ _ _ (.refl _) fun answer recorded => ?_
    obtain ⟨_, _, _, stored, _, after⟩ := recordDelivery_eq_ok recorded
    rw [after]
    exact continues_putStatus stored _ _ _
  | beginDelivery record ownerId =>
    refine transact_tables _ _ _ (.refl _) fun answer begun => ?_
    obtain ⟨_, _, _, _, _, stored, _, _, after⟩ := beginDelivery_eq_ok begun
    rw [after]
    exact continues_putStatus stored _ _ _
  | finishDelivery record ownerId attemptNumber receipt retryDelay =>
    refine transact_tables _ _ _ (.refl _) fun answer finished => ?_
    obtain ⟨_, row, _, _, _, claimed, stored, _, after⟩ := finishDelivery_eq_ok finished
    rw [after]
    have status := continues_putStatus stored attemptNumber
      (.ofReceipt receipt.status) (.ofReceipt receipt.status)
    exact status.trans (continues_putOutbox (sound.kept status.outbox status.content)
      (claimedRow_eq_some.mp claimed).1 (.settled receipt retryDelay choice.now row))
  | _ => exact .refl _

def writesMessages : DispatchEffect → Bool
  | .recordDelivery _ _ _ => true
  | .beginDelivery _ _ => true
  | .finishDelivery _ _ _ _ _ => true
  | _ => false

theorem messages_transact (fate : Fate Failure) (events : List DeliveryEvent)
    (writes : ∀ answer, attempt = .ok answer → ∃ rows : List OutboxRow,
        answer.2 = rows.foldl putOutbox world.tables) :
    (world.transact fate attempt events).2.tables.outboundMessages = world.tables.outboundMessages ∧
      (world.transact fate attempt events).2.tables.deliveryAttempts =
        world.tables.deliveryAttempts := by
  refine transact_tables (fun tables => tables.outboundMessages = world.tables.outboundMessages ∧
    tables.deliveryAttempts = world.tables.deliveryAttempts) fate events ⟨rfl, rfl⟩ ?_
  intro answer succeeded
  obtain ⟨rows, written⟩ := writes answer succeeded
  rw [written]
  exact foldl_putOutbox rows world.tables

theorem messages_respond (effect : DispatchEffect) (choice : Choice)
    (reads : writesMessages effect = false) :
    (world.respond library effect choice).2.tables.outboundMessages =
        world.tables.outboundMessages ∧
      (world.respond library effect choice).2.tables.deliveryAttempts =
        world.tables.deliveryAttempts := by
  cases effect with
  | claimOutbox =>
    refine messages_transact _ _ fun answer claimed => ?_
    cases claimed
    exact ⟨_, rfl⟩
  | releaseOutbox =>
    refine messages_transact _ _ fun answer released => ?_
    obtain ⟨row, _, after⟩ := releaseOutbox_eq_ok released
    exact ⟨[row.release _], after⟩
  | deadLetterOutbox =>
    refine messages_transact _ _ fun answer retired => ?_
    obtain ⟨row, _, after⟩ := deadLetterOutbox_eq_ok retired
    exact ⟨[row.publish _], after⟩
  | markOutboxPublished =>
    refine messages_transact _ _ fun answer published => ?_
    obtain ⟨row, _, after⟩ := markOutboxPublished_eq_ok published
    exact ⟨[row.publish _], after⟩
  | recordDelivery => exact nomatch reads
  | beginDelivery => exact nomatch reads
  | finishDelivery => exact nomatch reads
  | _ => exact ⟨rfl, rfl⟩

end DeliveryWorld

def plainLibrary : Library where
  sha256 := id
  parseUuid := some

def plainSchema : EnvelopeSchema where
  validate
    | .outbound envelope => some envelope
    | _ => none
  sound
    | .outbound _, _, rfl => rfl

def reply : OutboundEnvelope where
  outboundId := "reply"
  tenantId := "tenant"
  bindingId := "binding"
  channel := .feishu
  traceHeaders := []
  body := ""

def feishuDispatcher (ownerId : String) : Dispatcher where
  ownerId := ownerId
  eventType := .outboundReady .feishu
  adapters := [.feishu]

/-- Whatever its calls answer, a cycle works only on what it has claimed, sends
only the attempt it has just begun, and retires a record when it has just
recorded its outcome, and only then. -/
theorem cycle_order_of_effects (dispatcher : Dispatcher) (schema : EnvelopeSchema)
    (atomic : dispatcher.atomicDelivery = true) :
    Obeys dispatcher.ownerId (fun _ after => after.recorded = none) .idle
      (dispatcher.dispatchOnce schema) :=
  obeys_dispatchOnce dispatcher schema atomic rfl

theorem feishu_cycle_order_of_effects : Obeys "owner" (fun _ after => after.recorded = none) .idle
      ((feishuDispatcher "owner").dispatchOnce plainSchema) :=
  cycle_order_of_effects (feishuDispatcher "owner") plainSchema rfl

end TrpcService.Channels
