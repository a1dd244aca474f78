import TrpcService.Channels.NoResend
import TrpcService.Channels.Stranding

namespace TrpcService.Channels

open Data Storage Storage.Postgres DeliveryTables DeliveryWorld

/-! A message whose outcome is unknown is one that a delivery was begun for,
unless a dispatcher gives that verdict on its own. -/

def tried (tables : DeliveryTables) (key : String × String) : Prop :=
  tables.status key = some .sending ∨ tables.status key = some .ambiguous

def Begins (library : Library) (key : String × String) (before after : DeliveryFleet) : Prop :=
  ∃ owner record ownerId attempt,
    (before.tasks owner).awaited = some (.beginDelivery record ownerId) ∧
    record.tenantId = key.1 ∧
    library.parseUuid record.aggregateId = some key.2 ∧
    before.state.tables.beginDelivery library record ownerId = .ok (attempt, after.state.tables)

section Step

variable {library : Library} {world : DeliveryWorld} {key : String × String}

theorem tried_of_status {before after : DeliveryTables}
    (same : after.status key = before.status key) (later : tried after key) : tried before key := by
  unfold tried at later ⊢
  rw [← same]
  exact later

theorem not_tried_of_pending {tables : DeliveryTables}
    (pending : tables.status key = some .pending) : ¬ tried tables key := by
  rintro (sending | ambiguous)
  · exact nomatch pending.symm.trans sending
  · exact nomatch pending.symm.trans ambiguous

theorem tried_respond {effect : DispatchEffect} {choice : Choice}
    (attested : ∀ tenantId receipt retrying outboundId,
      effect = .recordDelivery tenantId receipt retrying →
      library.parseUuid receipt.outboundId = some outboundId →
      tried world.tables (tenantId, outboundId))
    (later : tried (world.respond library effect choice).2.tables key) :
    tried world.tables key ∨ ∃ record ownerId attempt,
      effect = .beginDelivery record ownerId ∧ record.tenantId = key.1 ∧
        library.parseUuid record.aggregateId = some key.2 ∧
        world.tables.beginDelivery library record ownerId =
          .ok (attempt, (world.respond library effect choice).2.tables) := by
  cases writes : writesMessages effect with
  | false =>
    refine .inl (tried_of_status ?_ later)
    rw [status, (messages_respond effect choice writes).1]
    rfl
  | true =>
    cases effect with
    | recordDelivery tenantId receipt retrying =>
      left
      rcases transact_cases world choice.fate (world.tables.recordDelivery library
        tenantId receipt retrying) [] with ⟨_, same⟩ | ⟨answer, tables, recorded, after, _⟩
      · exact same ▸ later
      · obtain ⟨outboundId, message, parsed, _, _, written⟩ := recordDelivery_eq_ok recorded
        by_cases here : (tenantId, outboundId) = key
        · subst here
          exact attested tenantId receipt retrying outboundId rfl parsed
        · refine tried_of_status ?_ later
          refine (congrArg (fun world => world.tables.status key) after).trans ?_
          rw [show tables = _ from written, status_putStatus, if_neg here, status_putAttempt]
    | beginDelivery record ownerId =>
      rcases transact_cases world choice.fate (world.tables.beginDelivery library
        record ownerId) [] with ⟨_, same⟩ | ⟨attempt, tables, begun, after, _⟩
      · exact .inl (same ▸ later)
      · obtain ⟨outboundId, _, message, parsed, _, stored, _, _, written⟩ :=
          beginDelivery_eq_ok begun
        by_cases here : (record.tenantId, outboundId) = key
        · subst here
          refine .inr ⟨record, ownerId, attempt, rfl, rfl, parsed, ?_⟩
          have reached : (world.respond library (.beginDelivery record ownerId) choice).2.tables =
              tables := congrArg DeliveryWorld.tables after
          rw [begun, reached]
        · refine .inl (tried_of_status ?_ later)
          refine (congrArg (fun world => world.tables.status key) after).trans ?_
          rw [written, status_putStatus, if_neg here, status_putAttempt]
    | finishDelivery record ownerId attemptNumber receipt retryDelay =>
      left
      rcases transact_cases world choice.fate (world.tables.finishDelivery library
        record ownerId attemptNumber receipt retryDelay choice.now) (settled record
        receipt) with ⟨_, same⟩ | ⟨answer, tables, finished, after, _⟩
      · exact same ▸ later
      · obtain ⟨outboundId, _, message, _, _, _, stored, sending,
          written⟩ := finishDelivery_eq_ok finished
        by_cases here : (record.tenantId, outboundId) = key
        · subst here
          left
          rw [status_of_get? stored, sending]
        · refine tried_of_status ?_ later
          refine (congrArg (fun world => world.tables.status key) after).trans ?_
          rw [show tables = _ from written, status_putOutbox,
            status_putStatus, if_neg here, status_putAttempt]
    | _ => cases writes

theorem replayed_respond (effect : DispatchEffect) (choice : Choice) :
    (world.respond library effect choice).2.count library .replayed key =
      world.count library .replayed key := by
  cases effect with
  | finishDelivery record ownerId attemptNumber receipt retryDelay =>
    rcases transact_cases world choice.fate (world.tables.finishDelivery library
      record ownerId attemptNumber receipt retryDelay choice.now) (settled record
      receipt) with ⟨_, same⟩ | ⟨_, tables, _, after, _⟩
    · exact congrArg (count library .replayed key) same
    · refine (congrArg (count library .replayed key) after).trans ?_
      rw [count_of_log rfl]
      unfold settled
      split
      · exact Nat.zero_add _
      · exact Nat.zero_add _
  | send envelope binding => exact List.countP_cons_of_neg nofun
  | _ => exact count_of_same (by simp [respond])

theorem tried_move {move : DeliveryMove} (later : tried (world.move library move).tables key) :
    tried world.tables key ∧ (world.move library move).count library .replayed
      key = world.count library .replayed key := by
  cases move with
  | commit tenantId envelope uuid now =>
    rcases commit_cases world tenantId envelope uuid now with same | ⟨tables, inserted, moved⟩
    · rw [same] at later ⊢
      exact ⟨later, rfl⟩
    · rw [moved] at later ⊢
      refine ⟨?_, rfl⟩
      obtain ⟨outboundId, message, _, _, pending, _, written⟩ := insertOutbound_eq_ok inserted
      rw [show tables = _ from written] at later
      by_cases here : (tenantId, outboundId) = key
      · subst here
        have status : some message.status = some .pending := by rw [pending]
        have stored := (congrArg (Option.map OutboundMessage.status)
          (Dict.get?_set_self world.tables.outboundMessages
            (tenantId, outboundId) message)).trans status
        exact absurd later (not_tried_of_pending stored)
      · refine tried_of_status ?_ later
        exact congrArg (Option.map OutboundMessage.status) (Dict.get?_set_of_ne _ _ here)
  | replay request uuid now =>
    rcases replay_cases world request uuid now with same | ⟨version, tables, replayed, moved⟩
    · rw [same] at later ⊢
      exact ⟨later, rfl⟩
    · rw [moved] at later ⊢
      obtain ⟨outboundId, message, parsed, stored, _, messages, _⟩ := performReplay_eq_ok replayed
      have status : tables.status key = if (request.tenantId, outboundId) = key then some .pending
          else world.tables.status key := by
        rw [status, messages]
        exact status_reopen key
      by_cases here : (request.tenantId, outboundId) = key
      · rw [if_pos here] at status
        exact absurd later (not_tried_of_pending status)
      · rw [if_neg here] at status
        refine ⟨tried_of_status status later, List.countP_cons_of_neg ?_⟩
        intro concerns
        simp only [DeliveryEvent.concerns, Bool.and_eq_true, decide_eq_true_eq] at concerns
        rw [parsed] at concerns
        exact here (Prod.ext concerns.1.2 (Option.some.inj concerns.2))
  | administer controlVersions idempotency => exact ⟨later, rfl⟩

end Step

/-- Verdicts of `record_delivery` are about messages that are being delivered
or were. -/
def Attested (library : Library) (fleet : DeliveryFleet) : DeliveryAction → Prop
  | .resume owner _ => ∀ tenantId receipt retrying outboundId, (fleet.tasks owner).awaited =
        some (.recordDelivery tenantId receipt retrying) →
      library.parseUuid receipt.outboundId = some outboundId →
      tried fleet.state.tables (tenantId, outboundId)
  | _ => True

/-- A delivery of the message was begun in the run, and the message was not
replayed since. -/
def Begun (library : Library) (schema : EnvelopeSchema) (start : DeliveryFleet)
    (key : String × String) (actions : List DeliveryAction) : Prop :=
  ∃ earlier action later, actions = earlier ++ action :: later ∧
    let before := (delivering library schema).play earlier start
    let after := (delivering library schema).act before action
    Begins library key before after ∧
      ((delivering library schema).play later after).state.count library .replayed key =
        after.state.count library .replayed key

theorem step_tried {library : Library} {schema : EnvelopeSchema} {fleet after : DeliveryFleet}
    {key : String × String} (step : (delivering library schema).Step (Attested library) fleet after)
    (later : tried after.state.tables key) :
    Begins library key fleet after ∨ tried fleet.state.tables key ∧
      after.state.count library .replayed key = fleet.state.count library .replayed key := by
  obtain ⟨action, attested, rfl⟩ := step
  cases action with
  | start dispatcher =>
    right
    revert later
    dsimp only [Behaviour.act]
    split
    · exact fun later => ⟨later, rfl⟩
    · exact fun later => ⟨later, rfl⟩
  | resume owner choice =>
    cases awaits : fleet.tasks owner with
    | done result =>
      right
      revert later
      simp only [Behaviour.act, awaits]
      exact fun later => ⟨later, trivial⟩
    | await effect resume =>
      rw [Behaviour.act_resume _ awaits] at later ⊢
      have awaited : (fleet.tasks owner).awaited = some effect := by
        rw [awaits]
        rfl
      have sound : ∀ tenantId receipt retrying outboundId, effect = .recordDelivery tenantId receipt
        retrying → library.parseUuid receipt.outboundId = some outboundId → tried fleet.state.tables
        (tenantId, outboundId) := by
        rintro tenantId receipt retrying outboundId rfl parsed
        exact attested tenantId receipt retrying outboundId awaited parsed
      rcases tried_respond sound later with
        earlier | ⟨record, ownerId, attempt, rfl, tenant, parsed, begun⟩
      · exact .inr ⟨earlier, replayed_respond effect choice⟩
      · exact .inl ⟨owner, record, ownerId, attempt, awaited, tenant, parsed, begun⟩
  | move move => exact .inr (tried_move later)

theorem begun_or_tried {library : Library} {schema : EnvelopeSchema} {key : String × String}
    {fleet : DeliveryFleet} {actions : List DeliveryAction}
    (permitted : (delivering library schema).Permits (Attested library) actions fleet)
    (later : tried ((delivering library schema).play actions fleet).state.tables key) :
    Begun library schema fleet key actions ∨ tried fleet.state.tables key ∧
      ((delivering library schema).play actions fleet).state.count library .replayed key =
        fleet.state.count library .replayed key := by
  induction actions generalizing fleet with
  | nil => exact .inr ⟨later, rfl⟩
  | cons action rest induction =>
    rcases induction permitted.2 later with ⟨earlier, begin, after, rfl, begins⟩ | ⟨tried, counted⟩
    · exact .inl ⟨action :: earlier, begin, after, rfl, begins⟩
    · rcases step_tried ⟨action, permitted.1, rfl⟩ tried with begins | ⟨tried, same⟩
      · exact .inl ⟨[], action, rest, rfl, begins, counted⟩
      · exact .inr ⟨tried, counted.trans same⟩

/-- When the verdicts of `record_delivery` are about messages that are being
delivered or were, a message is ambiguous only if a delivery of it was begun
after it was committed or last replayed. -/
theorem ambiguous_only_after_begin (library : Library)
    (schema : EnvelopeSchema) (controlVersions : Dict String Nat)
    (actions : List DeliveryAction)
    (permitted : (delivering library schema).Permits (Attested library) actions
      (undelivered controlVersions)) (key : String × String)
    (unknown : ((delivering library schema).play actions
      (undelivered controlVersions)).state.tables.status key = some .ambiguous) :
    Begun library schema (undelivered controlVersions) key actions := by
  -- A status that is sending may turn ambiguous later, so it is carried too.
  rcases begun_or_tried permitted (.inr unknown) with begun | ⟨sending | ambiguous, _⟩
  · exact begun
  · cases sending
  · cases ambiguous

def awaitsBegin (fleet : DeliveryFleet) : Bool :=
  match (fleet.tasks "dispatcher").awaited with
  | some (.beginDelivery _ _) => true
  | _ => false

/-- The lookup of the binding fails before any attempt, and the message is
marked ambiguous all the same. -/
theorem failed_lookup_marked_ambiguous :
    retired.state.tables.status ("tenant", "reply") = some .ambiguous ∧
      ∀ count ≤ recordThenRetire.length, ∀ record ownerId,
        (((delivering plainLibrary plainSchema).play
          (recordThenRetire.take count) (undelivered .empty)).tasks
            "dispatcher").awaited ≠ some (.beginDelivery record ownerId) := by
  refine ⟨by decide +kernel, ?_⟩
  have never : ∀ count ≤ recordThenRetire.length,
      awaitsBegin ((delivering plainLibrary plainSchema).play
        (recordThenRetire.take count) (undelivered .empty)) = false := by
    decide +kernel
  intro count within record ownerId awaits
  have none := never count within
  rw [awaitsBegin, awaits] at none
  exact nomatch none

def attestedCall (fleet : DeliveryFleet) : DeliveryAction → Bool
  | .resume owner _ =>
      match (fleet.tasks owner).awaited with
      | some (.recordDelivery _ _ _) => false
      | _ => true
  | _ => true

theorem attested_of_attestedCall (library : Library) (fleet : DeliveryFleet)
    (action : DeliveryAction) (call : attestedCall fleet action = true) :
    Attested library fleet action := by
  cases action with
  | start dispatcher => trivial
  | resume owner choice =>
    intro tenantId receipt retrying outboundId awaits
    simp [attestedCall, awaits] at call
  | move move => trivial

def loseTrack : List DeliveryAction := [ .move (.commit "tenant" reply "row" 0),
    .start (feishuDispatcher "dispatcher"),
    .resume "dispatcher" { batch := [("tenant", "row")] },
    .resume "dispatcher" {},
    .resume "dispatcher" {},
    .resume "dispatcher" { binding := some ⟨"binding", "tenant", .feishu⟩ },
    .resume "dispatcher" {},
    .resume "dispatcher" { receipt := some ⟨"reply", .ambiguous, none, false,
      none⟩ },
    .resume "dispatcher" { jitter := some 0 },
    .resume "dispatcher" {} ]

def trackLost : DeliveryFleet :=
  (delivering plainLibrary plainSchema).play loseTrack (undelivered .empty)

theorem lost_reply_was_begun : trackLost.state.tables.status ("tenant", "reply") = some .ambiguous ∧
      Begun plainLibrary plainSchema (undelivered .empty) ("tenant", "reply") loseTrack := by
  have unknown : trackLost.state.tables.status ("tenant", "reply") =
      some .ambiguous := by decide +kernel
  exact ⟨unknown, ambiguous_only_after_begin plainLibrary plainSchema .empty
    loseTrack (.mono (attested_of_attestedCall plainLibrary) _
      (by decide +kernel)) ("tenant", "reply") unknown⟩

end TrpcService.Channels
