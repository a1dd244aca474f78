import TrpcService.Channels.Records

namespace TrpcService.Channels

open Data Storage Storage.Postgres DeliveryTables DeliveryWorld

/-! Whether a message that is not delivered can still be: by a dispatcher that
claims one of its rows, or by an operator who replays it. -/

def announced (library : Library) (tables : DeliveryTables) (key : String × String) : Bool :=
  tables.outboxEvents.values.any fun row => row.publishedAt.isNone && row.tenantId = key.1
      && library.parseUuid row.aggregateId = some key.2

variable {record : OutboxRecord} {place : String × String} {tables : DeliveryTables}

section Announced

variable {library : Library} {tables after : DeliveryTables} {key : String × String}

theorem announced_iff : announced library tables key = true ↔
      ∃ place row, tables.outboxEvents.get? place = some row ∧
        row.publishedAt = none ∧ row.tenantId = key.1 ∧
        library.parseUuid row.aggregateId = some key.2 := by
  unfold announced
  rw [List.any_eq_true]
  constructor
  · rintro ⟨row, member, holds⟩
    obtain ⟨place, stored⟩ := (Dict.mem_values_iff _ _).mp member
    simp only [Bool.and_eq_true, Option.isNone_iff_eq_none, decide_eq_true_eq] at holds
    exact ⟨place, row, stored, holds.1.1, holds.1.2, holds.2⟩
  · rintro ⟨place, row, stored, unpublished, tenant, parsed⟩
    refine ⟨row, (Dict.mem_values_iff _ _).mpr ⟨place, stored⟩, ?_⟩
    simp [unpublished, tenant, parsed]

theorem announced_of_same (same : after.outboxEvents = tables.outboxEvents)
    (before : announced library tables key = true) : announced library after key = true := by
  rw [announced, same]
  exact before

variable {row : OutboxRow}

theorem announced_of_claimedRow {owner : String} {outboundId : String}
    (sound : Sound library tables) (genuine : Genuine tables record)
    (claimed : tables.claimedRow record.tenantId record.outboxId owner = some row)
    (parsed : library.parseUuid record.aggregateId = some outboundId) :
    announced library tables (record.tenantId, outboundId) = true := by
  obtain ⟨found, _, unpublished⟩ := claimedRow_eq_some.mp claimed
  obtain ⟨row', found', aggregate, _⟩ := genuine
  cases found.symm.trans found'
  exact announced_iff.mpr ⟨_, row, found, unpublished,
    congrArg Prod.fst (sound.keyed _ row found), aggregate.symm ▸ parsed⟩

theorem announced_putOutbox {later : OutboxRow} (sound : Sound library tables)
    (stored : tables.outboxEvents.get? place = some row)
    (same : SameRow row later)
    (kept : row.tenantId = key.1 → library.parseUuid row.aggregateId = some key.2 →
      row.publishedAt = none → later.publishedAt = none)
    (before : announced library tables key = true) :
    announced library (tables.putOutbox later) key = true := by
  obtain ⟨other, row', found, unpublished, tenant, parsed⟩ := announced_iff.mp before
  have keyed : (later.tenantId, later.outboxId) = place := by
    rw [same.tenantId, same.outboxId]
    exact sound.keyed place row stored
  refine announced_iff.mpr ?_
  by_cases here : place = other
  · subst here
    cases stored.symm.trans found
    refine ⟨place, later, ?_, kept tenant parsed unpublished,
      same.tenantId.trans tenant, same.aggregateId.symm ▸ parsed⟩
    rw [← keyed]
    exact Dict.get?_set_self _ _ _
  · refine ⟨other, row', ?_, unpublished, tenant, parsed⟩
    rw [← keyed] at here
    exact (Dict.get?_set_of_ne _ _ here).trans found

theorem announced_addRow (absent : tables.outboxEvents.get? (row.tenantId, row.outboxId) = none)
    (before : announced library tables key = true) :
    announced library (tables.putOutbox row) key = true := by
  obtain ⟨place, other, stored, unpublished, tenant, parsed⟩ := announced_iff.mp before
  obtain ⟨later, stored', same⟩ := lasting_putOutbox absent place other stored
  rcases putOutbox_cases stored' with ⟨here, _⟩ | old
  · rw [here, stored] at absent
    exact nomatch absent
  · cases stored.symm.trans old
    exact announced_iff.mpr ⟨place, other, stored', unpublished, tenant, parsed⟩

theorem unpublished_putAll (rows : List OutboxRow) (fresh : ∀ row ∈ rows, row.publishedAt = none)
    (stored : tables.outboxEvents.get? place = some row) (unpublished : row.publishedAt = none) :
    ∃ later, (rows.foldl putOutbox tables).outboxEvents.get?
        place = some later ∧ later.publishedAt = none := by
  induction rows generalizing tables row with
  | nil => exact ⟨row, stored, unpublished⟩
  | cons first rest induction =>
    have fresh' := fun row member => fresh row (List.mem_cons_of_mem first member)
    by_cases here : (first.tenantId, first.outboxId) = place
    · subst here
      exact induction fresh' (Dict.get?_set_self _ _ _) (fresh first List.mem_cons_self)
    · exact induction fresh' ((Dict.get?_set_of_ne _ _ here).trans stored) unpublished

theorem announced_claimOutbox (sound : Sound library tables) (eventType : EventType)
    (ownerId : String) (limit leaseSeconds : Int) (batch : List (String × String)) (now : Time)
    (before : announced library tables key = true) :
    announced library (tables.claimOutbox eventType ownerId limit leaseSeconds
      batch now).2 key = true := by
  obtain ⟨place, row, stored, unpublished, tenant, parsed⟩ := announced_iff.mp before
  obtain ⟨later, found, same⟩ := (claimOutbox_spec sound
    eventType ownerId limit leaseSeconds batch now).1.outbox.later place row stored
  refine announced_iff.mpr ⟨place, later, found, ?_,
    same.tenantId.trans tenant, same.aggregateId.symm ▸ parsed⟩
  obtain ⟨later', found', unpublished'⟩ := unpublished_putAll
    (((((batch.filterMap tables.outboxEvents.get?).filter fun row =>
      row.claimable eventType now).take (max 1 (min limit 1000)).toNat).map
      (OutboxRow.claim ownerId (now + seconds leaseSeconds)))) (by
        intro claimed member
        obtain ⟨origin, candidate, rfl⟩ := List.mem_map.mp member
        have claimable := (List.mem_filter.mp (List.mem_of_mem_take candidate)).2
        simp only [OutboxRow.claimable, Bool.and_eq_true, Option.isNone_iff_eq_none] at claimable
        exact claimable.1.1.2) stored unpublished
  cases found.symm.trans found'
  exact unpublished'

end Announced

/-- A message that waits to be sent can be claimed, and one whose outcome has
just been recorded does not wait any more. -/
structure Recoverable (library : Library) (tables : DeliveryTables)
    (ghosts : String → Progress) : Prop where
  waiting : ∀ key, tables.status key = some .pending ∨
    tables.status key = some .sending → announced library tables key = true
  recorded : ∀ owner tenantId text outboundId, (ghosts owner).recorded = some (tenantId, text) →
    library.parseUuid text = some outboundId →
    tables.status (tenantId, outboundId) = some .ambiguous

variable {tenantId : String} {message : OutboundMessage}

section Respond

variable {library : Library} {world : DeliveryWorld} {ghosts : String → Progress} {owner : String}
  {key : String × String} {effect : DispatchEffect}

theorem ambiguous_respond (serves : Serves owner (ghosts owner) effect) (choice : Choice)
    (ambiguous : world.tables.status key = some .ambiguous) :
    (world.respond library effect choice).2.tables.status key = some .ambiguous := by
  have elsewhere : ∀ {place message number attempt status}, world.tables.outboundMessages.get?
    place = some message → message.status ≠ .ambiguous →
    ((world.tables.putAttempt place number attempt).putStatus place message status).status key =
    some .ambiguous := by
    intro place message number attempt status stored other
    rw [status_putStatus, if_neg]
    · exact ambiguous
    · rintro rfl
      rw [status_of_get? stored] at ambiguous
      exact other (Option.some.inj ambiguous)
  cases writes : writesMessages effect with
  | false =>
    rw [status, (messages_respond effect choice writes).1]
    exact ambiguous
  | true =>
    cases effect with
    | recordDelivery tenantId receipt retrying =>
      obtain ⟨rfl, status, _⟩ := serves
      refine transact_tables (fun tables => tables.status key = some .ambiguous) _ _ ambiguous ?_
      intro answer recorded
      obtain ⟨_, _, _, _, _, written⟩ := recordDelivery_eq_ok recorded
      rw [written, status_putStatus, status]
      split
      · rfl
      · exact ambiguous
    | beginDelivery record ownerId =>
      refine transact_tables (fun tables => tables.status key = some .ambiguous) _ _ ambiguous ?_
      intro answer begun
      obtain ⟨_, _, _, _, _, stored, startable, _, written⟩ := beginDelivery_eq_ok begun
      rw [written]
      refine elsewhere stored fun same => ?_
      rw [same] at startable
      simp at startable
    | finishDelivery record ownerId attemptNumber receipt retryDelay =>
      refine transact_tables (fun tables => tables.status key = some .ambiguous) _ _ ambiguous ?_
      intro answer finished
      obtain ⟨_, _, _, _, _, _, stored, sending, written⟩ := finishDelivery_eq_ok finished
      rw [written, status_putOutbox]
      refine elsewhere stored fun same => ?_
      cases sending.symm.trans same
    | _ => cases writes

theorem Genuine.parsed {text : String} (genuine : Genuine tables record)
    (sound : Sound library tables) (named : namedMessage record = some (tenantId, text)) :
    tenantId = record.tenantId ∧ library.parseUuid text = library.parseUuid record.aggregateId := by
  obtain ⟨row, stored, aggregate, payload⟩ := genuine
  obtain ⟨_, outboundId, message, parsed, found, _, carried⟩ := sound.names _ row stored
  obtain ⟨envelope, content, parsed'⟩ := sound.payloads _ message found
  rw [namedMessage_eq (payload.symm.trans (carried.trans content))] at named
  cases named
  exact ⟨rfl, parsed'.trans (aggregate ▸ parsed).symm⟩

def Waits (library : Library) (key : String × String) (tables : DeliveryTables) : Prop :=
  tables.status key = some .pending ∨ tables.status key = some .sending →
    announced library tables key = true

theorem waits_write {number : Nat} {attempt status : OutboundStatus}
    (before : Waits library key world.tables)
    (settled : place = key → status ≠ .pending ∧ status ≠ .sending) :
    Waits library key ((world.tables.putAttempt place number attempt).putStatus
      place message status) := by
  unfold Waits
  rw [status_putStatus]
  split
  case isTrue here =>
    obtain ⟨pending, sending⟩ := settled here
    rintro (same | same)
    · exact absurd (Option.some.inj same) pending
    · exact absurd (Option.some.inj same) sending
  case isFalse => exact fun waits => announced_of_same rfl (before waits)

theorem recorded_record (grounded : Grounded library world.tables ghosts)
    (recoverable : Recoverable library world.tables ghosts) (genuine : Genuine world.tables record)
    (recorded : (ghosts owner).recorded = namedMessage record) (tenant : record.tenantId = key.1)
    (parsed : library.parseUuid record.aggregateId = some key.2) :
    world.tables.status key = some .ambiguous := by
  obtain ⟨row, stored, aggregate, payload⟩ := id genuine
  obtain ⟨_, outboundId, message, _, found, _, carried⟩ := grounded.sound.names _ row stored
  obtain ⟨envelope, content, _⟩ := grounded.sound.payloads _ message found
  have named := namedMessage_eq (payload.symm.trans (carried.trans content))
  obtain ⟨_, text⟩ := genuine.parsed grounded.sound named
  have status := recoverable.recorded owner _ _ key.2 (recorded.trans named) (text.trans parsed)
  rwa [tenant] at status

theorem waits_respond (choice : Choice) (grounded : Grounded library world.tables ghosts)
    (recoverable : Recoverable library world.tables ghosts)
    (serves : Serves owner (ghosts owner) effect)
    (retiring : retires effect = (ghosts owner).recorded)
    (orderly : ∀ record ownerId reason, effect = .deadLetterOutbox record ownerId reason →
        reason ∈ outcomeReasons) :
    Waits library key (world.respond library effect choice).2.tables := by
  have before : Waits library key world.tables := recoverable.waiting key
  cases effect with
  | claimOutbox eventType ownerId limit leaseSeconds =>
    refine transact_tables (Waits library key) _ _ before ?_
    intro answer claimed
    cases claimed
    intro waits
    rw [status_claimOutbox] at waits
    exact announced_claimOutbox grounded.sound _ _ _ _ _ _ (before waits)
  | releaseOutbox tenantId outboxId ownerId delay =>
    refine transact_tables (Waits library key) _ _ before ?_
    intro answer released
    obtain ⟨row, held, written⟩ := releaseOutbox_eq_ok released
    rw [written]
    exact fun waits => announced_putOutbox grounded.sound (heldRow_eq_some.mp held).1
      (.release _ row) (fun _ _ unpublished => unpublished) (before waits)
  | deadLetterOutbox record ownerId reason =>
    obtain ⟨rfl, member⟩ := serves
    have genuine := grounded.claimed _ record member
    refine transact_tables (Waits library key) _ _ before ?_
    intro answer retired
    obtain ⟨row, claimed, written⟩ := deadLetterOutbox_eq_ok retired
    obtain ⟨found, _⟩ := claimedRow_eq_some.mp claimed
    rw [written]
    intro waits
    refine announced_putOutbox grounded.sound found (.publish _ row) ?_ (before waits)
    intro tenant parsed _
    obtain ⟨row', found', aggregate, _⟩ := id genuine
    cases found.symm.trans found'
    rw [retires, if_pos (orderly _ _ _ rfl)] at retiring
    have keyed := congrArg Prod.fst (grounded.sound.keyed _ row found)
    have ambiguous := recorded_record grounded recoverable genuine
      retiring.symm (keyed.symm.trans tenant) (aggregate ▸ parsed)
    rcases waits with pending | sending
    · exact nomatch ambiguous.symm.trans pending
    · exact nomatch ambiguous.symm.trans sending
  | markOutboxPublished => exact serves.elim
  | recordDelivery tenantId receipt retrying =>
    obtain ⟨rfl, ambiguous, _⟩ := serves
    refine transact_tables (Waits library key) _ _ before ?_
    intro answer recorded
    obtain ⟨_, _, _, _, _, written⟩ := recordDelivery_eq_ok recorded
    rw [written]
    exact waits_write before fun _ => ofReceipt_settled receipt.status
  | beginDelivery record ownerId =>
    obtain ⟨rfl, member⟩ := serves
    refine transact_tables (Waits library key) _ _ before ?_
    intro answer begun
    obtain ⟨outboundId, row, message, parsed, claimed, _, _, _, written⟩ :=
      beginDelivery_eq_ok begun
    rw [written]
    by_cases here : (record.tenantId, outboundId) = key
    · subst here
      have claimable := announced_of_claimedRow grounded.sound
        (grounded.claimed _ record member) claimed parsed
      refine fun _ => announced_of_same ?_ claimable
      rfl
    · exact waits_write before fun same => absurd same here
  | finishDelivery record ownerId attemptNumber receipt retryDelay =>
    obtain ⟨rfl, member, _⟩ := serves
    refine transact_tables (Waits library key) _ _ before ?_
    intro answer finished
    obtain ⟨outboundId, row, message, parsed, _, claimed, stored, _,
      written⟩ := finishDelivery_eq_ok finished
    obtain ⟨found, _⟩ := claimedRow_eq_some.mp claimed
    rw [written]
    have continues := continues_putStatus stored attemptNumber
      (.ofReceipt receipt.status) (.ofReceipt receipt.status)
    intro waits
    refine announced_putOutbox (grounded.sound.kept continues.outbox continues.content) found
      (.settled receipt retryDelay choice.now row) ?_
      (waits_write before (fun _ => ofReceipt_settled receipt.status) waits)
    -- The row that is settled announces the message that is settled.
    intro tenant names _
    obtain ⟨row', found', aggregate, _⟩ := grounded.claimed _ record member
    cases found.symm.trans found'
    rw [aggregate, parsed] at names
    cases names
    have keyed := congrArg Prod.fst (grounded.sound.keyed _ row found)
    have here : (record.tenantId, key.2) = key := Prod.ext (keyed.symm.trans tenant) rfl
    rw [status_putOutbox, status_putStatus, if_pos here] at waits
    obtain ⟨pending, sending⟩ := ofReceipt_settled receipt.status
    rcases waits with same | same
    · exact absurd (Option.some.inj same) pending
    · exact absurd (Option.some.inj same) sending
  | _ => exact before

end Respond

namespace Recoverable

variable {library : Library} {world : DeliveryWorld} {ghosts : String → Progress} {owner : String}

theorem respond {effect : DispatchEffect} (choice : Choice)
    (grounded : Grounded library world.tables ghosts)
    (recoverable : Recoverable library world.tables ghosts)
    (serves : Serves owner (ghosts owner) effect)
    (retiring : retires effect = (ghosts owner).recorded)
    (orderly : ∀ record ownerId reason, effect = .deadLetterOutbox record ownerId reason →
        reason ∈ outcomeReasons) :
    Recoverable library (world.respond library effect choice).2.tables
      (Function.update ghosts owner ((dispatching owner).next (ghosts owner)
        effect (world.respond library effect choice).1)) where
  waiting key := waits_respond choice grounded recoverable serves retiring orderly
  recorded other tenantId text outboundId recorded parsed := by
    by_cases same : other = owner
    · subst same
      rw [Function.update_self] at recorded
      revert recorded
      cases effect with
      | claimOutbox eventType ownerId limit leaseSeconds =>
        cases (world.respond library (.claimOutbox eventType ownerId limit
          leaseSeconds) choice).1 <;> exact nofun
      | beginDelivery record ownerId =>
        cases (world.respond library (.beginDelivery record ownerId) choice).1 <;> exact nofun
      | recordDelivery tenantId' receipt retrying =>
        cases answer : (world.respond library (.recordDelivery tenantId'
            receipt retrying) choice).1 with
        | error error => exact nofun
        | ok _ =>
          intro recorded
          cases recorded
          obtain ⟨rfl, ambiguous, _⟩ := serves
          obtain ⟨tables, took, after⟩ := transact_eq_ok answer
          obtain ⟨outboundId', _, parsed', _, _, written⟩ := recordDelivery_eq_ok took
          cases parsed.symm.trans parsed'
          refine (congrArg (status · _) (after.trans written)).trans ?_
          rw [status_putStatus, if_pos rfl, ambiguous]
          rfl
      | _ => exact nofun
    · rw [Function.update_of_ne same] at recorded
      exact ambiguous_respond serves choice (recoverable.recorded other _ _ _ recorded parsed)

theorem idle (recoverable : Recoverable library world.tables ghosts) (owner : String) :
    Recoverable library world.tables
      (Function.update ghosts owner .idle) where
  waiting := recoverable.waiting
  recorded other tenantId text outboundId recorded parsed := by
    by_cases same : other = owner
    · subst same
      rw [Function.update_self] at recorded
      exact nomatch recorded
    · rw [Function.update_of_ne same] at recorded
      exact recoverable.recorded other _ _ _ recorded parsed

theorem commit (recoverable : Recoverable library world.tables ghosts) (tenantId : String)
    (envelope : OutboundEnvelope) (uuid : String) (now : Time) :
    Recoverable library (world.move library (.commit tenantId envelope uuid now)).tables
      ghosts := by
  rcases commit_cases world tenantId envelope uuid now with same | ⟨tables, inserted, moved⟩
  · rw [same]
    exact recoverable
  rw [moved]
  obtain ⟨outboundId, message, parsed, absent, _, free, written⟩ := insertOutbound_eq_ok inserted
  rw [show tables = _ from written]
  have elsewhere : ∀ {key}, (tenantId, outboundId) ≠ key →
      status ({ world.tables with
        outboundMessages := world.tables.outboundMessages.set
          (tenantId, outboundId) message }.putOutbox
        (outboundRow tenantId envelope.outboundId uuid message
          now)) key = world.tables.status key := fun different =>
    congrArg (Option.map OutboundMessage.status) (Dict.get?_set_of_ne _ _ different)
  constructor
  · intro key waits
    by_cases here : (tenantId, outboundId) = key
    · subst here
      exact announced_iff.mpr ⟨_, _, Dict.get?_set_self _ _ _, rfl, rfl, parsed⟩
    · rw [elsewhere here] at waits
      exact announced_addRow (collides_eq_false free).1 (recoverable.waiting key waits)
  · intro owner tenantId' text outboundId' recorded parsed'
    have ambiguous := recoverable.recorded owner _ _ _ recorded parsed'
    rw [elsewhere]
    · exact ambiguous
    · intro same
      rw [← same, status, absent] at ambiguous
      cases ambiguous

variable {uuid : String}

theorem announced_reopen {aggregateId outboundId : String} {now : Time}
    (fresh : tables.outboxEvents.get? (tenantId, uuid) = none)
    (parsed : library.parseUuid aggregateId = some outboundId) :
    announced library (tables.reopen tenantId aggregateId uuid
      (tenantId, outboundId) message now) (tenantId, outboundId) = true := by
  fun_cases reopen tables tenantId aggregateId uuid (tenantId, outboundId) message now with
  | case1 _ _ collides =>
    rcases collides_outboundRow collides with
      taken | ⟨key, row, stored, unpublished, tenant, aggregate⟩
    · rw [Option.isSome_iff_exists] at taken
      obtain ⟨_, taken⟩ := taken
      cases fresh.symm.trans taken
    · exact announced_iff.mpr ⟨key, row, stored, unpublished, tenant, aggregate.symm ▸ parsed⟩
  | case2 => exact announced_iff.mpr ⟨_, _, Dict.get?_set_self _ _ _, rfl, rfl, parsed⟩

theorem announced_reopen_of {aggregateId : String} {key : String × String}
    {now : Time} (before : announced library tables key = true) :
    announced library (tables.reopen tenantId aggregateId uuid place message now) key = true := by
  fun_cases reopen tables tenantId aggregateId uuid place message now with
  | case1 => exact before
  | case2 _ _ free =>
    rw [Bool.not_eq_true] at free
    exact announced_addRow (collides_eq_false free).1 before

theorem replay {request : ReplayRequest}
    (recoverable : Recoverable library world.tables ghosts) (now : Time)
    (fresh : world.tables.outboxEvents.get? (request.tenantId, uuid) = none)
    (unrecorded : ∀ owner tenantId text, (ghosts owner).recorded = some (tenantId, text) →
      tenantId = request.tenantId →
      library.parseUuid text ≠ library.parseUuid request.outboundId) :
    Recoverable library (world.move library (.replay request uuid now)).tables ghosts := by
  rcases replay_cases world request uuid now with same | ⟨version, tables, replayed, moved⟩
  · rw [same]
    exact recoverable
  rw [moved]
  obtain ⟨outboundId, message, parsed, stored, _, messages, _, rows⟩ := performReplay_eq_ok replayed
  have status : ∀ key, tables.status key = if (request.tenantId, outboundId) = key then some
    .pending else world.tables.status key := by
    intro key
    rw [status, messages]
    exact status_reopen key
  constructor
  · intro key waits
    refine announced_of_same rows ?_
    by_cases here : (request.tenantId, outboundId) = key
    · subst here
      exact announced_reopen fresh parsed
    · rw [status, if_neg here] at waits
      exact announced_reopen_of (recoverable.waiting key waits)
  · intro owner tenantId text outboundId' recorded parsed'
    rw [status, if_neg]
    · exact recoverable.recorded owner _ _ _ recorded parsed'
    · intro same
      obtain ⟨tenant, outbound⟩ := Prod.mk.inj same
      refine unrecorded owner tenantId text recorded tenant.symm ?_
      rw [parsed', parsed, outbound]

end Recoverable

/-- Records are retired only after their outcome has been recorded, and nobody
replays a message whose record is about to be retired. -/
def Orderly (library : Library) (fleet : DeliveryFleet) : DeliveryAction → Prop
  | .resume owner _ => ∀ record ownerId reason, (fleet.tasks owner).awaited =
        some (.deadLetterOutbox record ownerId reason) →
      reason ∈ outcomeReasons
  | .move (.replay request uuid _) =>
      fleet.state.tables.outboxEvents.get? (request.tenantId, uuid) = none ∧
        ∀ owner record ownerId reason, (fleet.tasks owner).awaited =
            some (.deadLetterOutbox record ownerId reason) →
          record.tenantId = request.tenantId →
          library.parseUuid record.aggregateId ≠ library.parseUuid request.outboundId
  | _ => True

theorem retires_recorded {fleet : DeliveryFleet} {ghosts : String → Progress}
    {invariant : DeliveryWorld → (String → Progress) → Prop}
    {owner text : String}
    (follows : Behaviour.Follows dispatching
      (fun _ _ after => after.recorded = none) invariant fleet ghosts)
    (recorded : (ghosts owner).recorded = some (tenantId, text)) :
    ∃ record ownerId reason, record ∈ (ghosts owner).claimed ∧
      namedMessage record = some (tenantId, text) ∧
      (fleet.tasks owner).awaited = some (.deadLetterOutbox record ownerId reason) := by
  have obeys := follows.obeys owner
  cases awaits : fleet.tasks owner with
  | done result =>
    rw [awaits] at obeys
    exact nomatch recorded.symm.trans obeys
  | await effect resume =>
    rw [awaits] at obeys
    obtain ⟨⟨serves, retiring⟩, _⟩ := obeys
    rw [recorded] at retiring
    revert serves retiring
    fun_cases retires effect with
    | case1 record ownerId reason settled =>
      intro serves named
      exact ⟨record, ownerId, reason, serves.2, named, rfl⟩
    | case2 => exact nofun
    | case3 => exact nofun

theorem recoverable_reachable {library : Library} {schema : EnvelopeSchema}
    {controlVersions : Dict String Nat} {fleet : DeliveryFleet}
    (reached : (delivering library schema).Steps (Orderly library)
      (undelivered controlVersions) fleet) :
    ∃ ghosts, Behaviour.Follows dispatching (fun _ _ after => after.recorded = none)
      (fun world ghosts => Grounded library world.tables ghosts ∧
        Recoverable library world.tables ghosts) fleet ghosts := by
  refine Behaviour.Steps.follows ?_ ?_ ?_ reached ?_
  · intro fleet ghosts dispatcher follows _
    obtain ⟨grounded, recoverable⟩ := follows.fits
    exact ⟨.idle, obeys_dispatchOnce { dispatcher with atomicDelivery := true }
      schema rfl rfl, grounded.idle, recoverable.idle _⟩
  · intro fleet ghosts owner effect resume choice follows awaits orderly permitted
    obtain ⟨grounded, recoverable⟩ := follows.fits
    refine ⟨grounded.respond permitted.1 choice, recoverable.respond choice
      grounded permitted.1 permitted.2 ?_⟩
    rintro record ownerId reason rfl
    refine orderly record ownerId reason ?_
    rw [awaits]
    rfl
  · intro fleet ghosts move follows orderly
    obtain ⟨grounded, recoverable⟩ := follows.fits
    refine ⟨grounded.move move, ?_⟩
    cases move with
    | commit tenantId envelope uuid now => exact recoverable.commit tenantId envelope uuid now
    | replay request uuid now =>
      refine recoverable.replay now orderly.1 ?_
      intro owner tenantId text recorded tenant
      obtain ⟨record, ownerId, reason, member, named, awaits⟩ := retires_recorded follows recorded
      obtain ⟨owns, parsed⟩ := (grounded.claimed owner record member).parsed grounded.sound named
      rw [parsed]
      exact orderly.2 owner record ownerId reason awaits (owns.symm.trans tenant)
    | administer controlVersions idempotency => exact ⟨recoverable.waiting, recoverable.recorded⟩
  · refine ⟨fun _ => .idle, ⟨.initial controlVersions, ?_, nofun⟩, fun _ => rfl⟩
    rintro key (pending | sending)
    · exact nomatch pending
    · exact nomatch sending

/-- In an orderly run every message is delivered, or a dispatcher can claim it,
or an operator can replay it. -/
theorem no_stranded_message (library : Library) (schema : EnvelopeSchema)
    (controlVersions : Dict String Nat) (fleet : DeliveryFleet)
    (reached : (delivering library schema).Steps (Orderly library)
      (undelivered controlVersions) fleet)
    (key : String × String) (message : OutboundMessage)
    (stored : fleet.state.tables.outboundMessages.get? key = some message) :
    message.status = .delivered ∨ announced library fleet.state.tables key = true ∨
      replayable message.status true = .ok () := by
  obtain ⟨ghosts, follows⟩ := recoverable_reachable reached
  have status := status_of_get? stored
  have waiting := follows.fits.2.waiting key
  cases known : message.status with
  | pending => exact .inr (.inl (waiting (.inl (known ▸ status))))
  | sending => exact .inr (.inl (waiting (.inr (known ▸ status))))
  | delivered => exact .inl rfl
  | failed => exact .inr (.inr rfl)
  | ambiguous => exact .inr (.inr rfl)

def orderlyCall (fleet : DeliveryFleet) : DeliveryAction → Bool
  | .resume owner _ =>
      match (fleet.tasks owner).awaited with
      | some (.deadLetterOutbox _ _ reason) => reason ∈ outcomeReasons
      | _ => true
  | .move (.replay _ _ _) => false
  | _ => true

theorem orderly_of_orderlyCall (library : Library) (fleet : DeliveryFleet) (action : DeliveryAction)
    (call : orderlyCall fleet action = true) : Orderly library fleet action := by
  cases action with
  | start dispatcher => trivial
  | resume owner choice =>
    intro record ownerId reason awaits
    simpa [orderlyCall, awaits] using call
  | move move =>
    cases move with
    | replay => exact nomatch call
    | _ => trivial

def recordThenRetire : List DeliveryAction := [ .move (.commit "tenant" reply "row" 0),
    .start (feishuDispatcher "dispatcher"),
    .resume "dispatcher" { batch := [("tenant", "row")] },
    .resume "dispatcher" {},
    .resume "dispatcher" {},
    .resume "dispatcher" { fate := .failed (.other "ConnectionError") },
    .resume "dispatcher" {},
    .resume "dispatcher" {} ]

def retired : DeliveryFleet := (delivering plainLibrary plainSchema).play recordThenRetire
    (undelivered .empty)

theorem retired_not_stranded :
    announced plainLibrary retired.state.tables ("tenant", "reply") = false ∧
      ∃ message, retired.state.tables.outboundMessages.get? ("tenant", "reply") = some message ∧
        (message.status = .delivered ∨
          announced plainLibrary retired.state.tables ("tenant", "reply") = true ∨
          replayable message.status true = .ok ()) := by
  refine ⟨by decide +kernel, ⟨.feishu, .outbound reply, [], .ambiguous⟩,
    by decide +kernel, ?_⟩
  exact no_stranded_message plainLibrary plainSchema .empty retired
    (.play recordThenRetire (.mono (orderly_of_orderlyCall plainLibrary) _
      (by decide +kernel))) ("tenant", "reply") _ (by decide +kernel)

def unbound (now : Time) : List DeliveryAction := [ .start (feishuDispatcher "dispatcher"),
    .resume "dispatcher" { batch := [("tenant", "row")], now },
    .resume "dispatcher" {},
    .resume "dispatcher" {},
    .resume "dispatcher" {},
    .resume "dispatcher" { now } ]

def exhaust : List DeliveryAction := .move (.commit "tenant" reply "row" 0) ::
    [0, 301, 602, 903, 1204].flatMap fun now => unbound (seconds now)

def exhausted : DeliveryFleet := (delivering plainLibrary plainSchema).play exhaust
    (undelivered (Dict.empty.set "tenant" 0))

/-- The record is retired while the message is still pending: nobody claims it
any more, and a replay is refused. -/
theorem pending_message_stranded :
    exhausted.state.tables.status ("tenant", "reply") = some .pending ∧
      announced plainLibrary exhausted.state.tables ("tenant", "reply") = false ∧
      (exhausted.state.tables.replayOutbound plainLibrary
        { tenantId := "tenant", outboundId := "reply",
          confirmAmbiguous := true, expectedVersion := 0,
          idempotencyKey := "key", requestHash := "hash" } "new" 0).isOk =
        false := by
  decide +kernel

end TrpcService.Channels
