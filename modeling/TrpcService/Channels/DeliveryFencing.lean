import TrpcService.Channels.Records

namespace TrpcService.Channels

open Data Storage Storage.Postgres DeliveryWorld DeliveryTables

/-! Who may write the status and the attempts of a message: the dispatcher whose
claim on one of its rows is current.  `begin_delivery` and `finish_delivery`
check that claim, `record_delivery` does not. -/

def holds (library : Library) (tables : DeliveryTables) (owner : String)
    (key : String × String) : Bool :=
  tables.outboxEvents.values.any fun row => row.publishedAt.isNone && row.claimedBy = some owner
      && row.tenantId = key.1
      && library.parseUuid row.aggregateId = some key.2

theorem holds_of_claimedRow {library : Library} {tables : DeliveryTables}
    {record : OutboxRecord} {owner outboundId : String} {row : OutboxRow}
    (sound : Sound library tables) (genuine : Genuine tables record)
    (claimed : tables.claimedRow record.tenantId record.outboxId owner = some row)
    (parsed : library.parseUuid record.aggregateId = some outboundId) :
    holds library tables owner (record.tenantId, outboundId) = true := by
  obtain ⟨found, owned, unpublished⟩ := claimedRow_eq_some.mp claimed
  obtain ⟨row', found', aggregate, _⟩ := genuine
  cases found.symm.trans found'
  have tenant : row.tenantId = record.tenantId := congrArg Prod.fst (sound.keyed _ row found)
  refine List.any_eq_true.mpr ⟨row, (Dict.mem_values_iff _ _).mpr ⟨_, found⟩, ?_⟩
  simp [unpublished, owned, tenant, aggregate, parsed]

def recordsUnderClaim (library : Library) (fleet : DeliveryFleet) : DeliveryAction → Bool
  | .resume owner _ =>
      match (fleet.tasks owner).awaited with
      | some (.recordDelivery tenantId receipt _) =>
          (library.parseUuid receipt.outboundId).all fun outboundId =>
            holds library fleet.state.tables owner (tenantId, outboundId)
      | _ => true
  | _ => true

def Untouched (key : String × String) (before after : DeliveryTables) : Prop :=
  after.status key = before.status key ∧
    ∀ number, after.attempts key number = before.attempts key number

theorem Untouched.refl (key : String × String) (tables : DeliveryTables) :
    Untouched key tables tables :=
  ⟨rfl, fun _ => rfl⟩

theorem untouched_write {tables : DeliveryTables} {place key : String × String}
    {message : OutboundMessage} (different : place ≠ key) (number : Nat)
    (attempt status : OutboundStatus) :
    Untouched key tables ((tables.putAttempt place number attempt).putStatus
      place message status) := by
  constructor
  · rw [status_putStatus, if_neg different, status_putAttempt]
  · intro other
    refine Dict.get?_set_of_ne _ _ fun same => ?_
    exact different (congrArg Prod.fst same)

section Respond

variable {library : Library} {world : DeliveryWorld} {ghosts : String → Progress} {owner : String}
  {key : String × String}

theorem untouched_respond {effect : DispatchEffect} (choice : Choice)
    (grounded : Grounded library world.tables ghosts)
    (serves : Serves owner (ghosts owner) effect)
    (lost : holds library world.tables owner key = false)
    (records : ∀ tenantId receipt retrying, effect = .recordDelivery tenantId receipt retrying →
      ∀ outboundId, library.parseUuid receipt.outboundId = some outboundId →
        holds library world.tables owner (tenantId, outboundId) = true) :
    Untouched key world.tables (world.respond library effect choice).2.tables := by
  have different : ∀ {place}, holds library world.tables owner place = true → place ≠ key := by
    rintro place held rfl
    cases lost.symm.trans held
  cases writes : writesMessages effect with
  | false =>
    obtain ⟨messages, attempts⟩ := @messages_respond library world effect choice writes
    unfold Untouched DeliveryTables.status DeliveryTables.attempts
    rw [messages, attempts]
    exact ⟨rfl, fun _ => rfl⟩
  | true =>
    cases effect with
    | recordDelivery tenantId receipt retrying =>
      refine transact_tables (Untouched key world.tables) _ _ (.refl key _) ?_
      intro answer recorded
      obtain ⟨outboundId, message, parsed, _, _, written⟩ := recordDelivery_eq_ok recorded
      rw [written]
      exact untouched_write (different (records _ _ _ rfl outboundId parsed)) _ _ _
    | beginDelivery record ownerId =>
      obtain ⟨rfl, member⟩ := serves
      refine transact_tables (Untouched key world.tables) _ _ (.refl key _) ?_
      intro answer begun
      obtain ⟨outboundId, row, message, parsed, claimed, _, _, _,
        written⟩ := beginDelivery_eq_ok begun
      rw [written]
      exact untouched_write (different (holds_of_claimedRow grounded.sound
        (grounded.claimed ownerId record member) claimed parsed)) _ _ _
    | finishDelivery record ownerId attemptNumber receipt retryDelay =>
      obtain ⟨rfl, member, _⟩ := serves
      refine transact_tables (Untouched key world.tables) _ _ (.refl key _) ?_
      intro answer finished
      obtain ⟨outboundId, row, message, parsed, _, claimed, _, _,
        written⟩ := finishDelivery_eq_ok finished
      rw [written]
      exact untouched_write (different (holds_of_claimedRow grounded.sound
        (grounded.claimed ownerId record member) claimed parsed)) _ _ _
    | _ => cases writes

end Respond

/-- As long as outcomes are recorded under current claims only, a dispatcher
without a current claim on a message changes neither the status of the message
nor any of its attempts. -/
theorem writes_under_claim (library : Library) (schema : EnvelopeSchema)
    (controlVersions : Dict String Nat) (fleet : DeliveryFleet)
    (reached : (delivering library schema).Steps
      (fun fleet action => recordsUnderClaim library fleet action = true)
      (undelivered controlVersions) fleet)
    (owner : String) (choice : Choice)
    (allowed : recordsUnderClaim library fleet (.resume owner choice) = true)
    (key : String × String)
    (lost : holds library fleet.state.tables owner key = false) :
    ((delivering library schema).act fleet (.resume owner choice)).state.tables.status key =
      fleet.state.tables.status key ∧
    ∀ number, ((delivering library schema).act fleet
        (.resume owner choice)).state.tables.attempts key number =
      fleet.state.tables.attempts key number := by
  obtain ⟨ghosts, follows⟩ := grounded_reachable reached
  simp only [Behaviour.act]
  split
  case h_1 => exact ⟨rfl, fun _ => rfl⟩
  case h_2 effect resume awaits =>
    have obeys := follows.obeys owner
    rw [awaits] at obeys
    refine untouched_respond choice follows.fits obeys.1.1 lost ?_
    rintro tenantId receipt retrying rfl outboundId parsed
    simpa only [recordsUnderClaim, awaits, Coroutine.awaited, parsed, Option.all_some] using allowed

/-- A dispatcher claims the reply, sends it and is about to finish; then its
claim expires, and another dispatcher settles the delivery as ambiguous. -/
def takeOver : List DeliveryAction := [ .move (.commit "tenant" reply "row" 0),
    .start (feishuDispatcher "stale"),
    .resume "stale" { batch := [("tenant", "row")] },
    .resume "stale" {},
    .resume "stale" {},
    .resume "stale" { binding := some ⟨"binding", "tenant", .feishu⟩ },
    .resume "stale" {},
    .resume "stale" { receipt := some { outboundId := "reply",
                                        status := .delivered } },
    .resume "stale" { jitter := some 0 },
    .start (feishuDispatcher "fresh"),
    .resume "fresh" { batch := [("tenant", "row")], now := seconds 31 },
    .resume "fresh" {},
    .resume "fresh" {},
    .resume "fresh" { binding := some ⟨"binding", "tenant", .feishu⟩ },
    .resume "fresh" {},
    .resume "fresh" {} ]

def takenOver : DeliveryFleet :=
  (delivering plainLibrary plainSchema).play takeOver (undelivered .empty)

theorem late_finish_refused : takenOver.state.tables.status ("tenant", "reply") = some .ambiguous ∧
      ((delivering plainLibrary plainSchema).act takenOver
          (.resume "stale" {})).state.tables.status ("tenant", "reply") =
        takenOver.state.tables.status ("tenant", "reply") ∧
      ∀ number, ((delivering plainLibrary plainSchema).act takenOver
          (.resume "stale" {})).state.tables.attempts ("tenant", "reply")
          number =
        takenOver.state.tables.attempts ("tenant", "reply") number :=
  ⟨by decide +kernel, writes_under_claim plainLibrary plainSchema .empty
    takenOver (.play takeOver (by decide +kernel)) "stale" {}
    (by decide +kernel) ("tenant", "reply") (by decide +kernel)⟩

/-- Here the first dispatcher is still looking up the binding when its claim
expires; the other one has begun to deliver when the lookup fails. -/
def interfere : List DeliveryAction := [ .move (.commit "tenant" reply "row" 0),
    .start (feishuDispatcher "stale"),
    .resume "stale" { batch := [("tenant", "row")] },
    .resume "stale" {},
    .resume "stale" {},
    .start (feishuDispatcher "fresh"),
    .resume "fresh" { batch := [("tenant", "row")], now := seconds 31 },
    .resume "fresh" {},
    .resume "fresh" {},
    .resume "fresh" { binding := some ⟨"binding", "tenant", .feishu⟩ },
    .resume "fresh" {},
    .resume "stale" { fate := .failed (.other "ConnectionError") } ]

def interfering : DeliveryFleet :=
  (delivering plainLibrary plainSchema).play interfere (undelivered .empty)

/-- The dispatcher that has lost its claim turns the delivery of the other one
into an ambiguous one and adds an attempt that was never made. -/
theorem stale_dispatcher_records :
    (interfering.state.tables.outboxEvents.get? ("tenant", "row")).map
        OutboxRow.claimedBy = some (some "fresh") ∧
      holds plainLibrary interfering.state.tables "stale" ("tenant", "reply") = false ∧
      interfering.state.tables.status ("tenant", "reply") = some .sending ∧
      interfering.state.tables.attempts ("tenant", "reply") 2 = none ∧
      ((delivering plainLibrary plainSchema).act interfering
          (.resume "stale" {})).state.tables.status ("tenant", "reply") =
        some .ambiguous ∧
      ((delivering plainLibrary plainSchema).act interfering
          (.resume "stale" {})).state.tables.attempts ("tenant", "reply") 2 =
        some .ambiguous := by
  decide +kernel

end TrpcService.Channels
