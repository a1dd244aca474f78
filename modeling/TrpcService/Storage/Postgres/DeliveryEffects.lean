import TrpcService.Storage.Postgres.Delivery

namespace TrpcService.Storage.Postgres

open Data DeliveryTables OutboundMessage

/-! What the delivery transactions leave alone, and what the tables look like
after any number of them. -/

structure SameRow (row later : OutboxRow) : Prop where
  tenantId : later.tenantId = row.tenantId
  outboxId : later.outboxId = row.outboxId
  aggregateId : later.aggregateId = row.aggregateId
  aggregateType : later.aggregateType = row.aggregateType
  eventType : later.eventType = row.eventType
  payload : later.payload = row.payload
  unpublished : later.publishedAt = none → row.publishedAt = none

namespace SameRow

variable {row middle later : OutboxRow}

theorem refl (row : OutboxRow) : SameRow row row := ⟨rfl, rfl, rfl, rfl, rfl, rfl, id⟩

theorem trans (first : SameRow row middle) (second : SameRow middle later) :
    SameRow row later where
  tenantId := second.tenantId.trans first.tenantId
  outboxId := second.outboxId.trans first.outboxId
  aggregateId := second.aggregateId.trans first.aggregateId
  aggregateType := second.aggregateType.trans first.aggregateType
  eventType := second.eventType.trans first.eventType
  payload := second.payload.trans first.payload
  unpublished := first.unpublished ∘ second.unpublished

theorem claim (ownerId : String) (expiresAt : Time) (row : OutboxRow) :
    SameRow row (row.claim ownerId expiresAt) :=
  ⟨rfl, rfl, rfl, rfl, rfl, rfl, id⟩

theorem publish (now : Time) (row : OutboxRow) : SameRow row (row.publish now) :=
  ⟨rfl, rfl, rfl, rfl, rfl, rfl, nofun⟩

theorem release (availableAt : Time) (row : OutboxRow) : SameRow row (row.release availableAt) :=
  ⟨rfl, rfl, rfl, rfl, rfl, rfl, id⟩

theorem settled (receipt : DeliveryReceipt) (retryDelay now : Time) (row : OutboxRow) :
    SameRow row (settledRow receipt retryDelay now row) := by
  unfold settledRow
  split
  · exact .release _ row
  · exact .publish now row

end SameRow

/-- The outbox has the same rows, some of them in a later version. -/
structure SameOutbox (before after : DeliveryTables) : Prop where
  later : ∀ key row, before.outboxEvents.get? key = some row →
    ∃ row', after.outboxEvents.get? key = some row' ∧ SameRow row row'
  earlier : ∀ key row', after.outboxEvents.get? key = some row' →
    ∃ row, before.outboxEvents.get? key = some row ∧ SameRow row row'

variable {row : OutboxRow}

namespace SameOutbox

variable {first second third tables : DeliveryTables}

theorem of_eq (same : second.outboxEvents = first.outboxEvents) :
    SameOutbox first second where
  later _ row stored := ⟨row, same ▸ stored, .refl row⟩
  earlier _ row stored := ⟨row, same ▸ stored, .refl row⟩

theorem trans (before : SameOutbox first second)
    (after : SameOutbox second third) : SameOutbox first third where
  later key row stored := by
    obtain ⟨middle, found, same⟩ := before.later key row stored
    obtain ⟨last, found', same'⟩ := after.later key middle found
    exact ⟨last, found', same.trans same'⟩
  earlier key row stored := by
    obtain ⟨middle, found, same⟩ := after.earlier key row stored
    obtain ⟨origin, found', same'⟩ := before.earlier key middle found
    exact ⟨origin, found', same'.trans same⟩

theorem put (kept : SameOutbox first second) {later : OutboxRow}
    (stored : first.outboxEvents.get? (later.tenantId, later.outboxId) = some row)
    (same : SameRow row later) :
    SameOutbox first (second.putOutbox later) where
  later key other found := by
    by_cases here : (later.tenantId, later.outboxId) = key
    · subst here
      cases stored.symm.trans found
      exact ⟨later, Dict.get?_set_self _ _ _, same⟩
    · obtain ⟨row', found', same'⟩ := kept.later key other found
      exact ⟨row', (Dict.get?_set_of_ne _ _ here).trans found', same'⟩
  earlier key other found := by
    by_cases here : (later.tenantId, later.outboxId) = key
    · subst here
      cases (Dict.get?_set_self _ _ _).symm.trans found
      exact ⟨row, stored, same⟩
    · exact kept.earlier key other ((Dict.get?_set_of_ne _ _ here).symm.trans found)

end SameOutbox

def OutboundMessage.content (message : OutboundMessage) : Channel × OutboxPayload :=
  (message.channel, message.payload)

def SameContent (before after : DeliveryTables) : Prop :=
  ∀ key, (after.outboundMessages.get? key).map content =
    (before.outboundMessages.get? key).map content

theorem SameContent.of_eq {before after : DeliveryTables}
    (same : after.outboundMessages = before.outboundMessages) :
    SameContent before after := fun key => by rw [same]

variable {message : OutboundMessage} {key : String × String}

theorem sameContent_putStatus {tables : DeliveryTables} (status : OutboundStatus)
    (stored : tables.outboundMessages.get? key = some message) :
    SameContent tables (tables.putStatus key message status) := by
  intro other
  by_cases here : key = other
  · subst here
    rw [stored, DeliveryTables.putStatus, Dict.get?_set_self]
    rfl
  · rw [DeliveryTables.putStatus, Dict.get?_set_of_ne _ _ here]

variable {tenantId outboxId ownerId aggregateId uuid : String} {record : OutboxRecord} {now : Time}
  {envelope : OutboundEnvelope}

variable {answer : Unit × DeliveryTables}

namespace DeliveryTables

variable {tables after : DeliveryTables} {library : Library}

def status (tables : DeliveryTables) (key : String × String) : Option OutboundStatus :=
  (tables.outboundMessages.get? key).map OutboundMessage.status

def attempts (tables : DeliveryTables) (key : String × String) (number : Nat) :
    Option OutboundStatus :=
  tables.deliveryAttempts.get? (key, number)

@[simp] theorem status_putOutbox (row : OutboxRow) (key : String × String) :
    (tables.putOutbox row).status key = tables.status key := rfl

@[simp] theorem status_putAttempt (message : String × String) (number : Nat)
    (status : OutboundStatus) (key : String × String) :
    (tables.putAttempt message number status).status key = tables.status key := rfl

theorem status_putStatus (place : String × String) (message : OutboundMessage)
    (status : OutboundStatus) (key : String × String) :
    (tables.putStatus place message status).status key =
      if place = key then some status else tables.status key := by
  unfold DeliveryTables.status putStatus
  rw [Dict.get?_set]
  split
  · rfl
  · rfl

theorem status_of_get? (stored : tables.outboundMessages.get? key = some message) :
    tables.status key = some message.status := by
  rw [status, stored, Option.map_some]

theorem putOutbox_cases {other : OutboxRow}
    (stored : (tables.putOutbox row).outboxEvents.get? key = some other) :
    ((row.tenantId, row.outboxId) = key ∧ other = row) ∨
      tables.outboxEvents.get? key = some other := by
  rw [putOutbox, Dict.get?_set] at stored
  split at stored
  case isTrue here =>
    cases stored
    exact .inl ⟨here, rfl⟩
  case isFalse => exact .inr stored

theorem heldRow_eq_some : tables.heldRow tenantId outboxId ownerId = some row ↔
      tables.outboxEvents.get? (tenantId, outboxId) = some row ∧ row.claimedBy = some ownerId := by
  simp [heldRow, Option.filter_eq_some_iff]

theorem claimedRow_eq_some : tables.claimedRow tenantId outboxId ownerId = some row ↔
      tables.outboxEvents.get? (tenantId, outboxId) = some row ∧
        row.claimedBy = some ownerId ∧ row.publishedAt = none := by
  simp [claimedRow, Option.filter_eq_some_iff, heldRow_eq_some, and_assoc]

variable {receipt : DeliveryReceipt}

theorem recordDelivery_eq_ok {retrying : Bool}
    (recorded : tables.recordDelivery library tenantId receipt retrying = .ok answer) :
    ∃ outboundId message, library.parseUuid receipt.outboundId = some outboundId ∧
      tables.outboundMessages.get? (tenantId, outboundId) = some message ∧
      message.status ≠ .delivered ∧
      answer.2 = (tables.putAttempt (tenantId, outboundId)
        (tables.latestAttempt (tenantId, outboundId) + 1)
        (.ofReceipt receipt.status)).putStatus (tenantId, outboundId) message
          (if retrying then .pending else .ofReceipt receipt.status) := by
  revert recorded
  fun_cases recordDelivery tables library tenantId receipt retrying with
  | case4 outboundId parsed key message stored undelivered =>
    intro recorded
    cases recorded
    exact ⟨outboundId, message, parsed, stored, undelivered, rfl⟩
  | _ => exact nofun

theorem beginDelivery_eq_ok {attempt : DeliveryAttempt}
    (begun : tables.beginDelivery library record ownerId = .ok (attempt, after)) :
    ∃ outboundId row message, library.parseUuid record.aggregateId = some outboundId ∧
      tables.claimedRow record.tenantId record.outboxId ownerId = some row ∧
      tables.outboundMessages.get? (record.tenantId, outboundId) = some message ∧
      (message.status = .pending ∨ message.status = .failed) ∧
      attempt = { tenantId := record.tenantId,
                  outboundId := record.aggregateId,
                  attemptNumber :=
                    tables.latestAttempt (record.tenantId, outboundId) + 1,
                  ownerId } ∧
      after = (tables.putAttempt (record.tenantId, outboundId)
        (tables.latestAttempt (record.tenantId, outboundId) + 1)
        .sending).putStatus (record.tenantId, outboundId) message .sending := by
  revert begun
  fun_cases beginDelivery tables library record ownerId with
  | case7 outboundId parsed key row claimed message stored latest start pending =>
    intro begun
    obtain ⟨rfl, rfl⟩ := Prod.mk.inj (Except.ok.inj begun)
    exact ⟨outboundId, row, message, parsed, claimed, stored, .inl pending, rfl, rfl⟩
  | case8 outboundId parsed key row claimed message stored latest start failed =>
    intro begun
    obtain ⟨rfl, rfl⟩ := Prod.mk.inj (Except.ok.inj begun)
    exact ⟨outboundId, row, message, parsed, claimed, stored, .inr failed, rfl, rfl⟩
  | _ => exact nofun

theorem finishDelivery_eq_ok {attemptNumber : Nat} {retryDelay : Time}
    (finished : tables.finishDelivery library record ownerId attemptNumber
      receipt retryDelay now = .ok answer) :
    ∃ outboundId row message, library.parseUuid record.aggregateId = some outboundId ∧
      receipt.outboundId = record.aggregateId ∧
      tables.claimedRow record.tenantId record.outboxId ownerId = some row ∧
      tables.outboundMessages.get? (record.tenantId, outboundId) = some message ∧
      message.status = .sending ∧
      answer.2 = ((tables.putAttempt (record.tenantId, outboundId)
        attemptNumber (.ofReceipt receipt.status)).putStatus (record.tenantId, outboundId) message
          (.ofReceipt receipt.status)).putOutbox (settledRow receipt retryDelay now row) := by
  revert finished
  fun_cases finishDelivery tables library record ownerId attemptNumber receipt retryDelay now with
  | case8 outboundId parsed key matched nonnegative row claimed sending message stored status =>
    intro finished
    cases finished
    exact ⟨outboundId, row, message, parsed, Decidable.not_not.mp matched,
      claimed, stored, Decidable.not_not.mp status, rfl⟩
  | _ => exact nofun

theorem ofReceipt_settled (status : DeliveryStatus) :
    OutboundStatus.ofReceipt status ≠ .pending ∧ OutboundStatus.ofReceipt status ≠ .sending := by
  cases status with
  | delivered => exact ⟨nofun, nofun⟩
  | failed => exact ⟨nofun, nofun⟩
  | ambiguous => exact ⟨nofun, nofun⟩

theorem settledRow_of_not (final : ¬ (receipt.status = .failed ∧ receipt.retryable = true))
    (retryDelay now : Time) (row : OutboxRow) :
    settledRow receipt retryDelay now row = row.publish now := by
  unfold settledRow
  split
  case h_1 failed retryable => exact absurd ⟨failed, retryable⟩ final
  case h_2 => rfl

theorem collides_eq_false (free : tables.collides row = false) :
    tables.outboxEvents.get? (row.tenantId, row.outboxId) = none ∧
      ∀ key other, tables.outboxEvents.get? key = some other → other.outboundIndex.isSome →
        other.outboundIndex ≠ row.outboundIndex := by
  simp only [collides, Bool.or_eq_false_iff, Option.isSome_eq_false_iff, Option.isNone_iff_eq_none,
    List.any_eq_false, Bool.and_eq_true, decide_eq_true_eq, not_and] at free
  exact ⟨free.1, fun key other stored indexed =>
    free.2 other ((Dict.mem_values_iff _ _).mpr ⟨key, stored⟩) indexed⟩

/-- A new row that cannot be added has a taken identifier, or another row
announces the same message. -/
theorem collides_outboundRow
    (collides : tables.collides (outboundRow tenantId aggregateId uuid message now) = true) :
    (tables.outboxEvents.get? (tenantId, uuid)).isSome = true ∨
      ∃ key row, tables.outboxEvents.get? key = some row ∧
        row.publishedAt = none ∧ row.tenantId = tenantId ∧
        row.aggregateId = aggregateId := by
  simp only [DeliveryTables.collides, Bool.or_eq_true, List.any_eq_true,
    Bool.and_eq_true, decide_eq_true_eq] at collides
  rcases collides with taken | ⟨row, member, _, index⟩
  · exact .inl taken
  · obtain ⟨key, stored⟩ := (Dict.mem_values_iff _ _).mp member
    have same : row.outboundIndex = some (tenantId, aggregateId, .outboundReady message.channel) :=
      index
    unfold OutboxRow.outboundIndex at same
    split at same
    case isTrue active =>
      obtain ⟨tenant, rest⟩ := Prod.mk.inj (Option.some.inj same)
      exact .inr ⟨key, row, stored, active.2, tenant, (Prod.mk.inj rest).1⟩
    case isFalse => cases same

theorem insertOutbound_eq_ok
    (inserted : tables.insertOutbound library tenantId envelope uuid now = .ok answer) :
    ∃ outboundId message, library.parseUuid envelope.outboundId = some outboundId ∧
      tables.outboundMessages.get? (tenantId, outboundId) = none ∧
      message = { channel := envelope.channel, payload := .outbound envelope,
                  traceHeaders := envelope.traceHeaders } ∧
      tables.collides (outboundRow tenantId envelope.outboundId uuid message now) = false ∧
      answer.2 = { tables with
        outboundMessages := tables.outboundMessages.set
          (tenantId, outboundId) message }.putOutbox
            (outboundRow tenantId envelope.outboundId uuid message now) := by
  revert inserted
  fun_cases insertOutbound tables library tenantId envelope uuid now with
  | case3 outboundId parsed key message row free =>
    intro inserted
    cases inserted
    rw [not_or, Option.not_isSome_iff_eq_none, Bool.not_eq_true] at free
    exact ⟨outboundId, message, parsed, free.1, rfl, free.2, rfl⟩
  | _ => exact nofun

theorem replayable_eq_ok {status : OutboundStatus} {confirmAmbiguous : Bool}
    (allowed : replayable status confirmAmbiguous = .ok ()) :
    status = .failed ∨ status = .ambiguous := by
  revert allowed
  fun_cases replayable status confirmAmbiguous with
  | case1 => exact fun _ => .inr rfl
  | case3 => exact fun _ => .inl rfl
  | _ => exact nofun

theorem reopen_deliveryAttempts :
    (tables.reopen tenantId aggregateId uuid key message now).deliveryAttempts =
      tables.deliveryAttempts := by
  fun_cases reopen tables tenantId aggregateId uuid key message now with
  | case1 => rfl
  | case2 => rfl

variable {place : String × String}

theorem status_reopen (key : String × String) :
    (tables.reopen tenantId aggregateId uuid place message now).status key =
      if place = key then some .pending else tables.status key := by
  fun_cases reopen tables tenantId aggregateId uuid place message now with
  | case1 => exact status_putStatus place message .pending key
  | case2 => exact status_putStatus place message .pending key

theorem sameContent_reopen (stored : tables.outboundMessages.get? place = some message) :
    SameContent tables (tables.reopen tenantId aggregateId uuid place message now) := by
  fun_cases reopen tables tenantId aggregateId uuid place message now with
  | case1 => exact sameContent_putStatus .pending stored
  | case2 => exact sameContent_putStatus .pending stored

theorem reopen_cases (stored : (tables.reopen tenantId aggregateId uuid place message
      now).outboxEvents.get? key = some row) :
    tables.outboxEvents.get? key = some row ∨
      row = outboundRow tenantId aggregateId uuid message now := by
  revert stored
  fun_cases reopen tables tenantId aggregateId uuid place message now with
  | case1 => exact .inl
  | case2 =>
    intro stored
    rcases putOutbox_cases stored with ⟨_, added⟩ | old
    · exact .inr added
    · exact .inl old

theorem performReplay_eq_ok {request : ReplayRequest} {version : Nat}
    (replayed : tables.performReplay library request uuid now = .ok (version, after)) :
    ∃ outboundId message, library.parseUuid request.outboundId = some outboundId ∧
      tables.outboundMessages.get? (request.tenantId, outboundId) = some message ∧
      (message.status = .failed ∨ message.status = .ambiguous) ∧
      after.outboundMessages = (tables.reopen request.tenantId
        request.outboundId uuid (request.tenantId, outboundId) message
        now).outboundMessages ∧
      after.deliveryAttempts = tables.deliveryAttempts ∧
      after.outboxEvents = (tables.reopen request.tenantId request.outboundId
        uuid (request.tenantId, outboundId) message now).outboxEvents := by
  revert replayed
  fun_cases performReplay tables library request uuid now with
  | case7 _ _ _ outboundId parsed key message found allowed remembered reopened =>
    intro replayed
    obtain ⟨rfl, rfl⟩ := Prod.mk.inj (Except.ok.inj replayed)
    exact ⟨outboundId, message, parsed, found, replayable_eq_ok allowed, rfl,
      reopen_deliveryAttempts, rfl⟩
  | _ => exact nofun

end DeliveryTables

/-- Every outbox row announces a stored message with the message's own
payload, and at most one unpublished row announces it under the same text. -/
structure Sound (library : Library) (tables : DeliveryTables) : Prop where
  keyed : ∀ key row, tables.outboxEvents.get? key = some row → (row.tenantId, row.outboxId) = key
  names : ∀ key row, tables.outboxEvents.get? key = some row →
    row.aggregateType = .outbound ∧ ∃ outboundId message,
      library.parseUuid row.aggregateId = some outboundId ∧
      tables.outboundMessages.get? (row.tenantId, outboundId) = some message ∧
      row.eventType = .outboundReady message.channel ∧
      row.payload = message.payload
  payloads : ∀ key message, tables.outboundMessages.get? key = some message →
    ∃ envelope, message.payload = .outbound envelope ∧
      library.parseUuid envelope.outboundId = some key.2
  active : ∀ first second row other, tables.outboxEvents.get? first = some row →
    tables.outboxEvents.get? second = some other →
    row.publishedAt = none → other.publishedAt = none →
    row.tenantId = other.tenantId → row.aggregateId = other.aggregateId →
    first = second

namespace Sound

variable {library : Library} {before after tables : DeliveryTables}

theorem initial (controlVersions : Dict String Nat) :
    Sound library { empty with controlVersions } :=
  have outbox : ∀ key, empty.outboxEvents.get? key = none := fun _ => rfl
  have messages : ∀ key, empty.outboundMessages.get? key = none := fun _ => rfl
  { keyed := fun key _ stored => nomatch (outbox key).symm.trans stored
    names := fun key _ stored => nomatch (outbox key).symm.trans stored
    payloads := fun key _ stored => nomatch (messages key).symm.trans stored
    active := fun key _ _ _ stored => nomatch (outbox key).symm.trans stored }

theorem kept (sound : Sound library before) (outbox : SameOutbox before after)
    (content : SameContent before after) : Sound library after where
  keyed key row stored := by
    obtain ⟨origin, found, same⟩ := outbox.earlier key row stored
    rw [same.tenantId, same.outboxId]
    exact sound.keyed key origin found
  names key row stored := by
    obtain ⟨origin, found, same⟩ := outbox.earlier key row stored
    obtain ⟨outbound, outboundId, message, parsed, announced, event, payload⟩ :=
      sound.names key origin found
    have kept := content (origin.tenantId, outboundId)
    rw [announced, Option.map_some, Option.map_eq_some_iff] at kept
    obtain ⟨message', announced', content⟩ := kept
    refine ⟨same.aggregateType.trans outbound, outboundId, message', ?_, ?_, ?_, ?_⟩
    · rw [same.aggregateId]
      exact parsed
    · rw [same.tenantId]
      exact announced'
    · rw [same.eventType, event]
      exact congrArg EventType.outboundReady (congrArg Prod.fst content).symm
    · rw [same.payload, payload]
      exact (congrArg Prod.snd content).symm
  payloads key message stored := by
    have kept := content key
    rw [stored, Option.map_some, eq_comm, Option.map_eq_some_iff] at kept
    obtain ⟨origin, found, content⟩ := kept
    obtain ⟨envelope, payload, parsed⟩ := sound.payloads key origin found
    exact ⟨envelope, (congrArg Prod.snd content).symm.trans payload, parsed⟩
  active first second row other stored stored' unpublished unpublished' tenant
      aggregate := by
    obtain ⟨origin, found, same⟩ := outbox.earlier first row stored
    obtain ⟨origin', found', same'⟩ := outbox.earlier second other stored'
    refine sound.active first second origin origin' found found'
      (same.unpublished unpublished) (same'.unpublished unpublished') ?_ ?_
    · rw [← same.tenantId, ← same'.tenantId, tenant]
    · rw [← same.aggregateId, ← same'.aggregateId, aggregate]

theorem addMessage (sound : Sound library tables) (absent : tables.outboundMessages.get? key = none)
    (payload : message.payload = .outbound envelope)
    (parsed : library.parseUuid envelope.outboundId = some key.2) :
    Sound library { tables with
      outboundMessages := tables.outboundMessages.set key message } where
  keyed := sound.keyed
  names place row stored := by
    obtain ⟨outbound, outboundId, other, named, announced, event, same⟩ :=
      sound.names place row stored
    have different : key ≠ (row.tenantId, outboundId) := by
      rintro rfl
      exact nomatch absent.symm.trans announced
    exact ⟨outbound, outboundId, other, named,
      (Dict.get?_set_of_ne _ _ different).trans announced, event, same⟩
  payloads place other stored := by
    by_cases here : key = place
    · subst here
      cases (Dict.get?_set_self _ _ _).symm.trans stored
      exact ⟨envelope, payload, parsed⟩
    · exact sound.payloads place other ((Dict.get?_set_of_ne _ _ here).symm.trans stored)
  active := sound.active

theorem addRow (sound : Sound library tables) {outboundId : String}
    (free : tables.collides (outboundRow tenantId aggregateId uuid message now) = false)
    (parsed : library.parseUuid aggregateId = some outboundId)
    (stored : (tables.outboundMessages.get? (tenantId, outboundId)).map
      content = some message.content) :
    Sound library (tables.putOutbox (outboundRow tenantId aggregateId uuid message now)) := by
  obtain ⟨absent, distinct⟩ := collides_eq_false free
  obtain ⟨announced, found, content⟩ := Option.map_eq_some_iff.mp stored
  have event : EventType.outboundReady message.channel = .outboundReady announced.channel := by
    exact congrArg EventType.outboundReady (congrArg Prod.fst content).symm
  -- Another unpublished row of the same text would have had the same entry in
  -- the unique index.
  have unlike : ∀ {key row}, tables.outboxEvents.get? key = some row → row.publishedAt = none →
    row.tenantId = tenantId → row.aggregateId = aggregateId → False := by
    intro key row old unpublished tenant aggregate
    obtain ⟨outbound, outboundId', message', parsed', found', event', _⟩ := sound.names key row old
    rw [aggregate, parsed] at parsed'
    cases parsed'
    rw [tenant, found] at found'
    cases found'
    have index : row.outboundIndex =
        some (tenantId, aggregateId, .outboundReady announced.channel) := by
      rw [OutboxRow.outboundIndex, if_pos ⟨outbound, unpublished⟩, tenant, aggregate, event']
    refine distinct key row old (by rw [index]; rfl) (index.trans ?_)
    rw [← event]
    rfl
  refine ⟨?_, ?_, sound.payloads, ?_⟩
  · intro key row stored
    rcases putOutbox_cases stored with ⟨rfl, rfl⟩ | old
    · rfl
    · exact sound.keyed key row old
  · intro key row stored
    rcases putOutbox_cases stored with ⟨rfl, rfl⟩ | old
    · exact ⟨rfl, outboundId, announced, parsed, found, event, (congrArg Prod.snd content).symm⟩
    · exact sound.names key row old
  · intro first second row other stored stored' unpublished unpublished'
      tenant aggregate
    rcases putOutbox_cases stored with ⟨rfl, rfl⟩ | old
    · rcases putOutbox_cases stored' with ⟨rfl, rfl⟩ | old'
      · rfl
      · exact (unlike old' unpublished' tenant.symm aggregate.symm).elim
    · rcases putOutbox_cases stored' with ⟨rfl, rfl⟩ | old'
      · exact (unlike old unpublished tenant aggregate).elim
      · exact sound.active first second row other old old' unpublished
          unpublished' tenant aggregate

end Sound

/-- The same messages and rows, further in their delivery. -/
structure Continues (before after : DeliveryTables) : Prop where
  outbox : SameOutbox before after
  content : SameContent before after

theorem Continues.trans {first second third : DeliveryTables}
    (before : Continues first second) (after : Continues second third) :
    Continues first third where
  outbox := before.outbox.trans after.outbox
  content key := (after.content key).trans (before.content key)

theorem Continues.refl (tables : DeliveryTables) : Continues tables tables where
  outbox := .of_eq rfl
  content := .of_eq rfl

theorem SameOutbox.putAll {first : DeliveryTables} (rows : List OutboxRow)
    (stored : ∀ later ∈ rows, ∃ row,
      first.outboxEvents.get? (later.tenantId, later.outboxId) = some row ∧
        SameRow row later) {second : DeliveryTables}
    (kept : SameOutbox first second) :
    SameOutbox first (rows.foldl putOutbox second) := by
  induction rows generalizing second with
  | nil => exact kept
  | cons later rest induction =>
    obtain ⟨row, found, same⟩ := stored later List.mem_cons_self
    exact induction (fun other member => stored other (List.mem_cons_of_mem later member))
      (kept.put found same)

namespace DeliveryTables

variable {tables : DeliveryTables} {library : Library}

theorem foldl_putOutbox (rows : List OutboxRow) (tables : DeliveryTables) :
    (rows.foldl putOutbox tables).outboundMessages = tables.outboundMessages ∧
      (rows.foldl putOutbox tables).deliveryAttempts = tables.deliveryAttempts := by
  induction rows generalizing tables with
  | nil => exact ⟨rfl, rfl⟩
  | cons row rest induction => exact induction (tables.putOutbox row)

theorem status_claimOutbox (eventType : EventType) (ownerId : String) (limit leaseSeconds : Int)
    (batch : List (String × String)) (now : Time) (key : String × String) :
    (tables.claimOutbox eventType ownerId limit leaseSeconds batch
      now).2.status key = tables.status key := by
  unfold status claimOutbox
  dsimp only
  rw [(foldl_putOutbox _ tables).1]

theorem claimOutbox_spec (sound : Sound library tables) (eventType : EventType) (ownerId : String)
    (limit leaseSeconds : Int) (batch : List (String × String)) (now : Time) :
    Continues tables (tables.claimOutbox eventType ownerId limit leaseSeconds batch now).2 ∧
      ∀ record ∈ (tables.claimOutbox eventType ownerId limit leaseSeconds batch now).1, ∃ row,
          tables.outboxEvents.get? (record.tenantId, record.outboxId) = some row ∧
          row.aggregateId = record.aggregateId ∧
          row.payload = record.payload := by
  unfold claimOutbox
  dsimp only
  generalize taken : List.map (OutboxRow.claim ownerId (now + seconds leaseSeconds)) _ = rows
  have stored : ∀ later ∈ rows, ∃ row,
      tables.outboxEvents.get? (later.tenantId, later.outboxId) = some row ∧ SameRow row later := by
    intro later member
    rw [← taken] at member
    obtain ⟨row, candidate, rfl⟩ := List.mem_map.mp member
    obtain ⟨key, _, found⟩ := List.mem_filterMap.mp
      (List.mem_filter.mp (List.mem_of_mem_take candidate)).1
    refine ⟨row, ?_, .claim ownerId _ row⟩
    exact (congrArg tables.outboxEvents.get? (sound.keyed key row found)).trans found
  refine ⟨⟨SameOutbox.putAll rows stored (.of_eq rfl), .of_eq (foldl_putOutbox rows tables).1⟩, ?_⟩
  intro record member
  obtain ⟨later, among, rfl⟩ := List.mem_map.mp member
  obtain ⟨row, found, same⟩ := stored later among
  exact ⟨row, found, same.aggregateId.symm, same.payload.symm⟩

theorem continues_putOutbox (sound : Sound library tables) {later : OutboxRow}
    (stored : tables.outboxEvents.get? (tenantId, outboxId) = some row)
    (same : SameRow row later) :
    Continues tables (tables.putOutbox later) where
  outbox := by
    have keyed := sound.keyed _ row stored
    rw [← same.tenantId, ← same.outboxId] at keyed
    exact (SameOutbox.of_eq rfl).put (keyed ▸ stored) same
  content := .of_eq rfl

theorem continues_putStatus (stored : tables.outboundMessages.get? key = some message)
    (number : Nat) (attempt status : OutboundStatus) :
    Continues tables ((tables.putAttempt key number attempt).putStatus key message status)
    where
  outbox := .of_eq rfl
  content := @sameContent_putStatus message key (tables.putAttempt key number attempt) status stored

theorem releaseOutbox_eq_ok {delay : Time}
    (released : tables.releaseOutbox tenantId outboxId ownerId delay now = .ok answer) :
    ∃ row, tables.heldRow tenantId outboxId ownerId = some row ∧
      answer.2 = tables.putOutbox (row.release (now + delay)) := by
  revert released
  fun_cases releaseOutbox tables tenantId outboxId ownerId delay now with
  | case1 => exact nofun
  | case2 row held =>
    intro released
    cases released
    exact ⟨row, held, rfl⟩

theorem deadLetterOutbox_eq_ok (retired : tables.deadLetterOutbox record ownerId now = .ok answer) :
    ∃ row, tables.claimedRow record.tenantId record.outboxId ownerId =
        some row ∧ answer.2 = tables.putOutbox (row.publish now) := by
  revert retired
  fun_cases deadLetterOutbox tables record ownerId now with
  | case1 => exact nofun
  | case2 row claimed =>
    intro retired
    cases retired
    exact ⟨row, claimed, rfl⟩

theorem markOutboxPublished_eq_ok
    (published : tables.markOutboxPublished tenantId outboxId ownerId now = .ok answer) :
    ∃ row, tables.claimedRow tenantId outboxId ownerId = some row ∧
      answer.2 = tables.putOutbox (row.publish now) := by
  revert published
  fun_cases markOutboxPublished tables tenantId outboxId ownerId now with
  | case1 => exact nofun
  | case2 row claimed =>
    intro published
    cases published
    exact ⟨row, claimed, rfl⟩

end DeliveryTables

def Lasting (before after : DeliveryTables) : Prop :=
  ∀ key row, before.outboxEvents.get? key = some row →
    ∃ row', after.outboxEvents.get? key = some row' ∧ SameRow row row'

theorem lasting_putOutbox {tables : DeliveryTables}
    (absent : tables.outboxEvents.get? (row.tenantId, row.outboxId) = none) :
    Lasting tables (tables.putOutbox row) := by
  intro key other stored
  have different : (row.tenantId, row.outboxId) ≠ key := by
    rintro rfl
    exact nomatch absent.symm.trans stored
  exact ⟨other, (Dict.get?_set_of_ne _ _ different).trans stored, .refl other⟩

namespace Sound

variable {library : Library} {tables after : DeliveryTables} (sound : Sound library tables)

include sound

theorem insertOutbound
    (inserted : tables.insertOutbound library tenantId envelope uuid now = .ok answer) :
    Sound library answer.2 ∧ Lasting tables answer.2 := by
  obtain ⟨outboundId, message, parsed, absent, rfl, free, after⟩ := insertOutbound_eq_ok inserted
  rw [after]
  constructor
  · refine (sound.addMessage absent ?_ parsed).addRow free parsed ?_
    · rfl
    · rw [Dict.get?_set_self]
      rfl
  · exact lasting_putOutbox (collides_eq_false free).1

theorem reopen {outboundId : String} (parsed : library.parseUuid aggregateId = some outboundId)
    (stored : tables.outboundMessages.get? (tenantId, outboundId) = some message)
    (uuid : String) (now : Time) :
    Sound library (tables.reopen tenantId aggregateId uuid (tenantId, outboundId) message now) ∧
      Lasting tables (tables.reopen tenantId aggregateId uuid
        (tenantId, outboundId) message now) := by
  have pending : Sound library (tables.putStatus (tenantId, outboundId) message .pending) :=
    sound.kept (.of_eq rfl) (sameContent_putStatus .pending stored)
  fun_cases DeliveryTables.reopen tables tenantId aggregateId uuid
    (tenantId, outboundId) message now with
  | case1 => exact ⟨pending, fun _ row found => ⟨row, found, .refl row⟩⟩
  | case2 _ _ free =>
    rw [Bool.not_eq_true] at free
    constructor
    · refine pending.addRow free parsed ?_
      rw [DeliveryTables.putStatus, Dict.get?_set_self]
      rfl
    · exact lasting_putOutbox (collides_eq_false free).1

theorem performReplay {request : ReplayRequest} {version : Nat}
    (replayed : tables.performReplay library request uuid now = .ok (version, after)) :
    Sound library after ∧ Lasting tables after := by
  obtain ⟨outboundId, message, parsed, stored, _, messages, _, rows⟩ := performReplay_eq_ok replayed
  have reopened := sound.reopen parsed stored uuid now
  constructor
  · exact reopened.1.kept (.of_eq rows) (.of_eq messages)
  · intro key row found
    rw [rows]
    exact reopened.2 key row found

end Sound

end TrpcService.Storage.Postgres
