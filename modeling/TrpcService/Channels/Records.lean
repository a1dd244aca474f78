import TrpcService.Channels.Delivery

namespace TrpcService.Channels

open Data Storage Storage.Postgres DeliveryTables DeliveryWorld

/-! The records that dispatchers work on are those of stored rows, in every
run. -/

/-- The row of a record is there and says what the record says. -/
def Genuine (tables : DeliveryTables) (record : OutboxRecord) : Prop :=
  ∃ row, tables.outboxEvents.get? (record.tenantId, record.outboxId) = some row ∧
    row.aggregateId = record.aggregateId ∧ row.payload = record.payload

theorem Genuine.lasting {before after : DeliveryTables} {record : OutboxRecord}
    (genuine : Genuine before record) (lasting : Lasting before after) : Genuine after record := by
  obtain ⟨row, stored, aggregate, payload⟩ := genuine
  obtain ⟨row', stored', same⟩ := lasting _ row stored
  exact ⟨row', stored', same.aggregateId.trans aggregate, same.payload.trans payload⟩

/-- What dispatchers have learnt is true of the tables. -/
structure Grounded (library : Library) (tables : DeliveryTables)
    (ghosts : String → Progress) : Prop where
  sound : Sound library tables
  claimed : ∀ owner, ∀ record ∈ (ghosts owner).claimed, Genuine tables record
  begun : ∀ owner record attempt, (ghosts owner).begun = some (record, attempt) →
      Genuine tables record ∧ attempt.outboundId = record.aggregateId

namespace Grounded

variable {library : Library} {before after tables : DeliveryTables} {ghosts : String → Progress}
  {owner : String} {ghost : Progress}

theorem later (grounded : Grounded library before ghosts)
    (sound : Sound library after) (lasting : Lasting before after) :
    Grounded library after ghosts where
  sound := sound
  claimed owner record member := (grounded.claimed owner record member).lasting lasting
  begun owner record attempt begun := by
    obtain ⟨genuine, same⟩ := grounded.begun owner record attempt begun
    exact ⟨genuine.lasting lasting, same⟩

theorem continues (grounded : Grounded library before ghosts)
    (continues : Continues before after) : Grounded library after ghosts :=
  grounded.later (grounded.sound.kept continues.outbox continues.content) continues.outbox.later

theorem learn (grounded : Grounded library tables ghosts)
    (claimed : ∀ record ∈ ghost.claimed, Genuine tables record)
    (begun : ∀ record attempt, ghost.begun = some (record, attempt) →
      Genuine tables record ∧ attempt.outboundId = record.aggregateId) :
    Grounded library tables (Function.update ghosts owner ghost) where
  sound := grounded.sound
  claimed other record member := by
    by_cases same : other = owner
    · subst same
      rw [Function.update_self] at member
      exact claimed record member
    · rw [Function.update_of_ne same] at member
      exact grounded.claimed other record member
  begun other record attempt started := by
    by_cases same : other = owner
    · subst same
      rw [Function.update_self] at started
      exact begun record attempt started
    · rw [Function.update_of_ne same] at started
      exact grounded.begun other record attempt started

theorem idle (grounded : Grounded library tables ghosts) :
    Grounded library tables (Function.update ghosts owner .idle) := by
  apply grounded.learn
  · exact fun _ member => absurd member List.not_mem_nil
  · exact fun _ _ started => nomatch started

theorem initial (controlVersions : Dict String Nat) :
    Grounded library { empty with controlVersions }
      fun _ => .idle where
  sound := .initial controlVersions
  claimed _ _ member := absurd member List.not_mem_nil
  begun _ _ _ started := nomatch started

theorem respond {world : DeliveryWorld} {effect : DispatchEffect}
    (grounded : Grounded library world.tables ghosts)
    (serves : Serves owner (ghosts owner) effect) (choice : Choice) :
    Grounded library (world.respond library effect choice).2.tables
      (Function.update ghosts owner ((dispatching owner).next (ghosts owner)
        effect (world.respond library effect choice).1)) := by
  have continues := continues_respond grounded.sound effect choice
  have kept := grounded.continues continues
  have forget : ∀ {recorded}, Grounded library (world.respond library effect choice).2.tables
      (Function.update ghosts owner ⟨(ghosts owner).claimed, none, recorded⟩) := kept.learn
    (kept.claimed owner) nofun
  cases effect with
  | claimOutbox eventType ownerId limit leaseSeconds =>
    cases answer : (world.respond library (.claimOutbox eventType ownerId
        limit leaseSeconds) choice).1 with
    | error error => exact forget
    | ok records =>
      refine kept.learn (fun record member => ?_) nofun
      obtain ⟨_, claimed, _⟩ := transact_eq_ok answer
      have listed := congrArg Prod.fst (Except.ok.inj claimed)
      exact Genuine.lasting ((claimOutbox_spec grounded.sound eventType ownerId limit
        leaseSeconds choice.batch choice.now).2 record (listed ▸ member)) continues.outbox.later
  | beginDelivery record ownerId =>
    cases answer : (world.respond library (.beginDelivery record ownerId) choice).1 with
    | error error => exact forget
    | ok attempt =>
      refine kept.learn (kept.claimed owner) fun record' attempt' same => ?_
      cases same
      obtain ⟨_, begun, _⟩ := transact_eq_ok answer
      obtain ⟨_, _, _, _, _, _, _, rfl, _⟩ := beginDelivery_eq_ok begun
      exact ⟨kept.claimed owner record serves.2, rfl⟩
  | recordDelivery tenantId receipt retrying =>
    cases (world.respond library (.recordDelivery tenantId receipt retrying) choice).1 with
    | error error => exact forget
    | ok _ => exact forget
  | _ => exact forget

end Grounded

namespace DeliveryWorld

variable {library : Library} {world : DeliveryWorld}

theorem commit_cases (world : DeliveryWorld) (tenantId : String)
    (envelope : OutboundEnvelope) (uuid : String) (now : Time) :
    world.move library (.commit tenantId envelope uuid now) = world ∨
      ∃ tables, world.tables.insertOutbound library tenantId envelope uuid now = .ok ((), tables) ∧
        world.move library (.commit tenantId envelope uuid now) = { world with tables } := by
  unfold move
  dsimp only
  split
  case h_1 => exact .inl rfl
  case h_2 tables inserted => exact .inr ⟨tables, inserted, rfl⟩

theorem replay_cases (world : DeliveryWorld)
    (request : ReplayRequest) (uuid : String) (now : Time) :
    world.move library (.replay request uuid now) = world ∨
      ∃ version tables, world.tables.performReplay library request uuid now =
          .ok (version, tables) ∧
        world.move library (.replay request uuid now) = ⟨tables,
          ⟨.replayed, request.tenantId, request.outboundId⟩ :: world.log⟩ := by
  unfold move replay replayOutbound
  dsimp only
  split
  case h_1 => exact .inl rfl
  case h_2 version tables replayed =>
    split at replayed
    case h_1 => exact nomatch replayed
    case h_2 response cached =>
      cases replayed
      rw [cached]
      exact .inl rfl
    case h_3 uncached =>
      rw [uncached]
      exact .inr ⟨version, tables, replayed, rfl⟩

end DeliveryWorld

theorem Grounded.move {library : Library} {world : DeliveryWorld} {ghosts : String → Progress}
    (grounded : Grounded library world.tables ghosts) (move : DeliveryMove) :
    Grounded library (world.move library move).tables ghosts := by
  cases move with
  | commit tenantId envelope uuid now =>
    rcases commit_cases world tenantId envelope uuid now with same | ⟨tables, inserted, moved⟩
    · rw [same]
      exact grounded
    · rw [moved]
      obtain ⟨sound, lasting⟩ := grounded.sound.insertOutbound inserted
      exact grounded.later sound lasting
  | replay request uuid now =>
    rcases replay_cases world request uuid now with same | ⟨version, tables, replayed, moved⟩
    · rw [same]
      exact grounded
    · rw [moved]
      obtain ⟨sound, lasting⟩ := grounded.sound.performReplay replayed
      exact grounded.later sound lasting
  | administer controlVersions idempotency => exact grounded.continues ⟨.of_eq rfl, .of_eq rfl⟩

theorem grounded_reachable {library : Library} {schema : EnvelopeSchema}
    {controlVersions : Dict String Nat} {fleet : DeliveryFleet}
    {allowed : DeliveryFleet → DeliveryAction → Prop}
    (reached : (delivering library schema).Steps allowed (undelivered controlVersions) fleet) :
    ∃ ghosts, Behaviour.Follows dispatching (fun _ _ after => after.recorded = none)
      (fun world ghosts => Grounded library world.tables ghosts) fleet
      ghosts := by
  refine Behaviour.Steps.follows ?_ ?_ ?_ reached ?_
  · intro fleet ghosts dispatcher follows _
    exact ⟨.idle, obeys_dispatchOnce { dispatcher with atomicDelivery := true }
      schema rfl rfl, follows.fits.idle⟩
  · intro fleet ghosts owner effect resume choice follows _ _ permitted
    exact follows.fits.respond permitted.1 choice
  · intro fleet ghosts move follows _
    exact follows.fits.move move
  · exact ⟨fun _ => .idle, .initial controlVersions, fun _ => rfl⟩

end TrpcService.Channels
