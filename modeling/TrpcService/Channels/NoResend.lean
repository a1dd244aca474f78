import TrpcService.Channels.Records
import Mathlib.Data.Finset.Card

namespace TrpcService.Channels

open Data Storage Storage.Postgres DeliveryTables DeliveryWorld

/-! No message is sent blindly again.  Each send of a message is paid for by
the commit of the message, by a failure that was to be retried or by a
replay. -/

def DeliveryEvent.concerns (library : Library) (deed : DeliveryDeed)
    (key : String × String) (event : DeliveryEvent) : Bool :=
  event.deed = deed && event.tenantId = key.1 && library.parseUuid event.outboundId = some key.2

namespace DeliveryWorld

def count (library : Library) (deed : DeliveryDeed) (key : String × String)
    (world : DeliveryWorld) : Nat :=
  world.log.countP (DeliveryEvent.concerns library deed key)

def allowance (library : Library) (key : String × String) (world : DeliveryWorld) : Nat :=
  (if (world.tables.outboundMessages.get? key).isSome then 1 else 0)
    + world.count library .failedRetryably key
    + world.count library .replayed key

section

variable {library : Library} {world after : DeliveryWorld} {events : List DeliveryEvent}
  {deed : DeliveryDeed} {key : String × String}

theorem count_of_log (grows : after.log = events ++ world.log) : after.count library deed key =
      events.countP (DeliveryEvent.concerns library deed key) + world.count library deed key := by
  rw [count, grows, List.countP_append, count]

theorem allowance_of_log (content : SameContent world.tables after.tables)
    (grows : after.log = events ++ world.log) :
    after.allowance library key =
      events.countP (DeliveryEvent.concerns library .failedRetryably key) +
        events.countP (DeliveryEvent.concerns library .replayed key) +
        world.allowance library key := by
  have present : (after.tables.outboundMessages.get? key).isSome =
      (world.tables.outboundMessages.get? key).isSome := by
    have same := congrArg Option.isSome (content key)
    rwa [Option.isSome_map, Option.isSome_map] at same
  rw [allowance, allowance, present, count_of_log grows, count_of_log grows]
  omega

theorem count_of_same (logged : after.log = world.log) :
    after.count library deed key = world.count library deed key := by
  rw [count, logged, count]

theorem allowance_of_same (content : SameContent world.tables after.tables)
    (logged : after.log = world.log) :
    after.allowance library key = world.allowance library key := by
  have grows : after.log = [] ++ world.log := logged
  rw [allowance_of_log content grows, List.countP_nil, List.countP_nil, Nat.zero_add]

end

end DeliveryWorld

variable (library : Library)

/-- A record whose message can be sent: its own text for the message is the
one that the payload has. -/
def Sendable (key : String × String) (record : OutboxRecord) : Prop :=
  record.tenantId = key.1 ∧ library.parseUuid record.aggregateId = some key.2 ∧
    ∃ envelope, record.payload = .outbound envelope ∧ envelope.outboundId = record.aggregateId

/-- A delivery of the message can be begun that leads to a send. -/
def Open (tables : DeliveryTables) (key : String × String) : Prop :=
  (tables.status key = some .pending ∨ tables.status key = some .failed) ∧
    ∃ place row, tables.outboxEvents.get? place = some row ∧
      row.publishedAt = none ∧ Sendable library key row.toOutboxRecord

def Unsent (key : String × String) (progress : Progress) : Prop :=
  ∃ record attempt, progress.begun = some (record, attempt) ∧ Sendable library key record

/-- What was sent, what is about to be sent and what can still be begun do not
exceed the allowance. -/
def Balanced (world : DeliveryWorld) (ghosts : String → Progress) (key : String × String) : Prop :=
  ∃ unsent : Finset String, (∀ owner, Unsent library key (ghosts owner) → owner ∈ unsent) ∧
    world.count library .sent key + unsent.card ≤ world.allowance library key ∧
    (Open library world.tables key → world.count library .sent key + unsent.card <
        world.allowance library key)

namespace Balanced

variable {library : Library} {world after : DeliveryWorld} {ghosts later : String → Progress}
  {key : String × String} {owner : String}

variable (balanced : Balanced library world ghosts key)

include balanced

theorem mono (sent : after.count library .sent key = world.count library .sent key)
    (allowed : world.allowance library key ≤ after.allowance library key)
    (opens : Open library after.tables key → Open library world.tables key ∨
      world.allowance library key < after.allowance library key)
    (unsent : ∀ owner, Unsent library key (later owner) → Unsent library key (ghosts owner)) :
    Balanced library after later key := by
  obtain ⟨owners, cover, bound, room⟩ := balanced
  refine ⟨owners, fun owner about => cover owner (unsent owner about), ?_, ?_⟩
  · omega
  · intro opened
    rcases opens opened with before | paid
    · have := room before
      omega
    · omega

theorem begin (opened : Open library world.tables key) (closed : ¬ Open library after.tables key)
    (sent : after.count library .sent key = world.count library .sent key)
    (allowed : after.allowance library key = world.allowance library key)
    (others : ∀ other, other ≠ owner → later other = ghosts other) :
    Balanced library after later key := by
  obtain ⟨owners, cover, _, room⟩ := balanced
  refine ⟨insert owner owners, ?_, ?_, fun opens => absurd opens closed⟩
  · intro other about
    by_cases same : other = owner
    · exact same ▸ Finset.mem_insert_self other owners
    · exact Finset.mem_insert_of_mem (cover other (others other same ▸ about))
  · have grown := Finset.card_insert_le owner owners
    have space := room opened
    omega

theorem send (about : Unsent library key (ghosts owner))
    (settled : ¬ Unsent library key (later owner))
    (opens : Open library after.tables key → Open library world.tables key)
    (sent : after.count library .sent key = world.count library .sent key + 1)
    (allowed : after.allowance library key = world.allowance library key)
    (others : ∀ other, other ≠ owner → later other = ghosts other) :
    Balanced library after later key := by
  obtain ⟨owners, cover, bound, room⟩ := balanced
  have member := cover owner about
  have shrunk := Finset.card_erase_add_one member
  refine ⟨owners.erase owner, ?_, ?_, fun opened => ?_⟩
  · intro other about'
    have different : other ≠ owner := fun same => settled (same ▸ about')
    exact Finset.mem_erase.mpr ⟨different, cover other (others other different ▸ about')⟩
  · omega
  · have space := room (opens opened)
    omega

end Balanced

variable {record : OutboxRecord} {tables : DeliveryTables} {ownerId : String}

section Respond

variable {library : Library} {world after : DeliveryWorld} {ghosts : String → Progress}
  {key : String × String} {owner : String} {ghost : Progress}

theorem Open.earlier (outbox : SameOutbox world.tables after.tables)
    (status : after.tables.status key = world.tables.status key)
    (opened : Open library after.tables key) : Open library world.tables key := by
  obtain ⟨pending, place, row, stored, unpublished, tenant, parsed, envelope,
    payload, text⟩ := opened
  obtain ⟨origin, found, same⟩ := outbox.earlier place row stored
  refine ⟨status ▸ pending, place, origin, found, same.unpublished unpublished, same.tenantId ▸
    tenant, same.aggregateId ▸ parsed, envelope, same.payload ▸ payload, ?_⟩
  rw [text, same.aggregateId]

variable {row : OutboxRow}

theorem Genuine.sendable (genuine : Genuine tables record)
    (sound : Sound library tables) (sendable : Sendable library key record)
    (found : tables.outboxEvents.get? (record.tenantId, record.outboxId) = some row) :
    Sendable library key row.toOutboxRecord := by
  obtain ⟨row', found', aggregate, payload⟩ := genuine
  cases found.symm.trans found'
  obtain ⟨tenant, parsed, envelope, carried, text⟩ := sendable
  have keyed := congrArg Prod.fst (sound.keyed _ row found)
  exact ⟨keyed.trans tenant, aggregate ▸ parsed, envelope,
    payload.trans carried, text.trans aggregate.symm⟩

theorem sendable_of_named {outboundId : String}
    (named : namedMessage record = some (record.tenantId, record.aggregateId))
    (parsed : library.parseUuid record.aggregateId = some outboundId) :
    Sendable library (record.tenantId, outboundId) record := by
  refine ⟨rfl, parsed, ?_⟩
  revert named
  fun_cases namedMessage record with
  | case1 envelope payload =>
    intro named
    exact ⟨envelope, payload, congrArg Prod.snd (Option.some.inj named)⟩
  | case2 => exact nofun

/-- Records that can be sent have the text of the payload, so the unique index
leaves at most one of them unpublished. -/
theorem sendable_unique {other : OutboxRow} {first second : String × String}
    (sound : Sound library tables) (stored : tables.outboxEvents.get? first = some row)
    (stored' : tables.outboxEvents.get? second = some other) (unpublished : row.publishedAt = none)
    (unpublished' : other.publishedAt = none) (sendable : Sendable library key row.toOutboxRecord)
    (sendable' : Sendable library key other.toOutboxRecord) : first = second := by
  obtain ⟨tenant, parsed, envelope, payload, text⟩ := sendable
  obtain ⟨tenant', parsed', envelope', payload', text'⟩ := sendable'
  obtain ⟨_, outboundId, message, names, found, _, carries⟩ := sound.names first row stored
  obtain ⟨_, outboundId', message', names', found', _, carries'⟩ := sound.names second other stored'
  cases names.symm.trans parsed
  cases names'.symm.trans parsed'
  rw [tenant] at found
  rw [tenant'] at found'
  cases found.symm.trans found'
  have same : OutboxPayload.outbound envelope = .outbound envelope' :=
    payload.symm.trans (carries.trans (carries'.symm.trans payload'))
  cases same
  exact sound.active first second row other stored stored' unpublished
    unpublished' (tenant.trans tenant'.symm) (text.symm.trans text')

theorem not_unsent_of_begun (idle : ghost.begun = none) : ¬ Unsent library key ghost := by
  rintro ⟨record, attempt, begun, _⟩
  exact nomatch idle.symm.trans begun

theorem unsent_update (settled : ¬ Unsent library key ghost) (other : String)
    (about : Unsent library key (Function.update ghosts owner ghost other)) :
    Unsent library key (ghosts other) := by
  by_cases same : other = owner
  · subst same
    rw [Function.update_self] at about
    exact absurd about settled
  · rwa [Function.update_of_ne same] at about

theorem Balanced.quiet (balanced : Balanced library world ghosts key)
    (continues : Continues world.tables after.tables)
    (logged : after.log = world.log)
    (status : after.tables.status key = world.tables.status key ∨
      after.tables.status key = some .sending ∨
      after.tables.status key = some .ambiguous)
    (settled : ¬ Unsent library key ghost) :
    Balanced library after (Function.update ghosts owner ghost) key := by
  refine balanced.mono (count_of_same logged) (allowance_of_same
    continues.content logged).ge ?_ (unsent_update settled)
  intro opened
  rcases status with same | sending | ambiguous
  · exact .inl (opened.earlier continues.outbox same)
  · rcases opened.1 with pending | failed
    · exact nomatch sending.symm.trans pending
    · exact nomatch sending.symm.trans failed
  · rcases opened.1 with pending | failed
    · exact nomatch ambiguous.symm.trans pending
    · exact nomatch ambiguous.symm.trans failed

theorem Balanced.recordDelivery {tenantId : String} {receipt : DeliveryReceipt}
    (grounded : Grounded library world.tables ghosts) (balanced : Balanced library world ghosts key)
    (ambiguous : receipt.status = .ambiguous) (choice : Choice)
    (settled : ¬ Unsent library key ghost) :
    Balanced library (world.respond library (.recordDelivery tenantId receipt
      false) choice).2 (Function.update ghosts owner ghost) key := by
  refine balanced.quiet (continues_respond grounded.sound _ _) (log_transact_nil _ _) ?_ settled
  refine transact_tables (fun tables => tables.status key = world.tables.status key ∨
    tables.status key = some .sending ∨ tables.status key = some .ambiguous) _ _ (.inl rfl) ?_
  intro answer recorded
  obtain ⟨outboundId, message, _, _, _, written⟩ := recordDelivery_eq_ok recorded
  rw [written, status_putStatus]
  split
  · exact .inr (.inr (by rw [ambiguous]; rfl))
  · exact .inl rfl

theorem Balanced.beginDelivery (grounded : Grounded library world.tables ghosts)
    (balanced : Balanced library world ghosts key)
    (genuine : Genuine world.tables record) (choice : Choice)
    (learns : ghost.begun = none ∨ ∃ attempt,
      (world.respond library (.beginDelivery record ownerId) choice).1 =
        .ok attempt ∧ ghost.begun = some (record, attempt)) :
    Balanced library (world.respond library (.beginDelivery record ownerId)
      choice).2 (Function.update ghosts owner ghost) key := by
  have continues := continues_respond grounded.sound (.beginDelivery record ownerId) choice
  have logged : (world.respond library (.beginDelivery record ownerId)
      choice).2.log = world.log := log_transact_nil _ _
  by_cases about : Unsent library key ghost
  · obtain ⟨record', attempt', begun', sendable⟩ := about
    rcases learns with idle | ⟨attempt, answered, begun⟩
    · exact nomatch idle.symm.trans begun'
    cases begun.symm.trans begun'
    obtain ⟨tables, began, written⟩ := transact_eq_ok answered
    obtain ⟨outboundId, row, message, parsed, claimed, stored, startable, _,
      rfl⟩ := beginDelivery_eq_ok began
    obtain ⟨tenant, parsed', sends⟩ := sendable
    cases parsed.symm.trans parsed'
    have place : (record.tenantId, key.2) = key := Prod.ext tenant rfl
    rw [place] at stored written
    obtain ⟨found, _, unpublished⟩ := claimedRow_eq_some.mp claimed
    have opened : Open library world.tables key := by
      refine ⟨?_, _, row, found, unpublished, ?_⟩
      · rw [status_of_get? stored]
        exact startable.imp (congrArg some) (congrArg some)
      · exact genuine.sendable grounded.sound ⟨tenant, parsed', sends⟩ found
    have sending : (world.respond library (.beginDelivery record ownerId)
        choice).2.tables.status key = some .sending := by
      refine (congrArg (status · key) written).trans ?_
      rw [status_putStatus, if_pos rfl]
    refine balanced.begin opened ?_ (count_of_same logged)
      (allowance_of_same continues.content logged)
      fun _ different => Function.update_of_ne different _ _
    rintro ⟨pending | failed, _⟩
    · exact nomatch sending.symm.trans pending
    · exact nomatch sending.symm.trans failed
  · refine balanced.quiet continues logged ?_ about
    refine transact_tables (fun tables =>
      tables.status key = world.tables.status key ∨ tables.status key = some .sending ∨
        tables.status key = some .ambiguous) _ _ (.inl rfl) ?_
    intro answer began
    obtain ⟨_, _, _, _, _, _, _, _, written⟩ := beginDelivery_eq_ok began
    rw [written, status_putStatus]
    split
    · exact .inr (.inl rfl)
    · exact .inl rfl

theorem countP_settled_sent (record : OutboxRecord) (receipt : DeliveryReceipt) :
    (DeliveryWorld.settled record receipt).countP
      (DeliveryEvent.concerns library .sent key) = 0 := by
  unfold DeliveryWorld.settled
  split
  · simp [DeliveryEvent.concerns]
  · rfl

theorem not_open_of_publish {now : Time} {written : DeliveryTables} (sound : Sound library tables)
    (genuine : Genuine tables record) (sendable : Sendable library key record)
    (claimed : tables.claimedRow record.tenantId record.outboxId ownerId = some row)
    (continues : Continues tables (written.putOutbox (row.publish now))) :
    ¬ Open library (written.putOutbox (row.publish now)) key := by
  rintro ⟨_, place, later, stored, unpublished, tenant, parsed, envelope, payload, text⟩
  obtain ⟨found, _, active⟩ := claimedRow_eq_some.mp claimed
  obtain ⟨origin, stored', same⟩ := continues.outbox.earlier place later stored
  have sendable' : Sendable library key origin.toOutboxRecord :=
    ⟨same.tenantId ▸ tenant, same.aggregateId ▸ parsed, envelope,
      same.payload ▸ payload, same.aggregateId ▸ text⟩
  have here := sendable_unique sound found stored' active (same.unpublished unpublished)
    (genuine.sendable sound sendable found) sendable'
  have keyed := (sound.keyed _ row found).trans here
  have published : (written.putOutbox (row.publish now)).outboxEvents.get?
      place = some (row.publish now) := by
    rw [← keyed]
    exact Dict.get?_set_self _ _ _
  cases published.symm.trans stored
  exact nomatch unpublished

section Grounded

variable (grounded : Grounded library world.tables ghosts)

include grounded

variable (balanced : Balanced library world ghosts key)

include balanced

theorem Balanced.finishDelivery {attemptNumber : Nat} {receipt : DeliveryReceipt}
    {retryDelay : Time} (genuine : Genuine world.tables record)
    (named : namedMessage record = some (record.tenantId, receipt.outboundId)) (choice : Choice)
    (settled : ¬ Unsent library key ghost) :
    Balanced library (world.respond library (.finishDelivery record ownerId
      attemptNumber receipt retryDelay) choice).2
      (Function.update ghosts owner ghost) key := by
  have continues := continues_respond grounded.sound
    (.finishDelivery record ownerId attemptNumber receipt retryDelay) choice
  revert continues
  unfold respond
  dsimp only
  rcases DeliveryWorld.transact_cases world choice.fate (world.tables.finishDelivery library record
    ownerId attemptNumber receipt retryDelay choice.now) (DeliveryWorld.settled record receipt)
    with ⟨_, same⟩ | ⟨value, tables, finished, written, _⟩
  · rw [same]
    intro _
    exact balanced.mono rfl le_rfl .inl (unsent_update settled)
  rw [written]
  intro continues
  obtain ⟨outboundId, row, message, parsed, matching, claimed, stored, _, rfl⟩ :=
    finishDelivery_eq_ok finished
  have allowance := @allowance_of_log library world _ _ key continues.content rfl
  refine balanced.mono ?_ ?_ ?_ (unsent_update settled)
  · rw [count_of_log rfl, countP_settled_sent, Nat.zero_add]
  · rw [allowance]
    omega
  intro opened
  by_cases here : (record.tenantId, outboundId) = key
  · subst here
    by_cases retried : receipt.status = .failed ∧ receipt.retryable = true
    · right
      rw [allowance, DeliveryWorld.settled, if_pos retried]
      simp [DeliveryEvent.concerns, parsed]
    · rw [settledRow_of_not retried] at opened continues
      rw [matching] at named
      exact absurd opened (not_open_of_publish grounded.sound genuine
        (sendable_of_named named parsed) claimed continues)
  · refine .inl (opened.earlier continues.outbox ?_)
    rw [status_putOutbox, status_putStatus, if_neg here, status_putAttempt]

theorem Balanced.sendMessage {envelope : OutboundEnvelope}
    {binding : ChannelBinding} (serves : Serves owner (ghosts owner) (.send envelope binding))
    (choice : Choice) (settled : ¬ Unsent library key ghost) :
    Balanced library (world.respond library (.send envelope binding) choice).2
      (Function.update ghosts owner ghost) key := by
  let event : DeliveryEvent := ⟨.sent, envelope.tenantId, envelope.outboundId⟩
  have grows : (world.respond library (.send envelope binding) choice).2.log =
      [event] ++ world.log := rfl
  have allowance : (world.respond library (.send envelope binding)
      choice).2.allowance library key = world.allowance library key := by
    rw [allowance_of_log (continues_respond grounded.sound _ choice).content grows]
    simp [DeliveryEvent.concerns, event]
  by_cases concerns : event.concerns library .sent key = true
  · have about : Unsent library key (ghosts owner) := by
      obtain ⟨record, attempt, begun, payload, tenant, outbound⟩ := serves
      obtain ⟨_, same⟩ := grounded.begun owner record attempt begun
      have text := outbound.trans same
      simp only [DeliveryEvent.concerns, event, Bool.and_eq_true, decide_eq_true_eq] at concerns
      exact ⟨record, attempt, begun, tenant.symm.trans concerns.1.2,
        text ▸ concerns.2, envelope, payload, text⟩
    refine balanced.send about ?_ id ?_ allowance
      fun _ different => Function.update_of_ne different _ _
    · rwa [Function.update_self]
    · rw [count_of_log grows]
      simp [concerns, Nat.add_comm]
  · refine balanced.mono ?_ allowance.ge .inl (unsent_update settled)
    rw [count_of_log grows]
    simp [concerns]

theorem Balanced.respond {effect : DispatchEffect} (serves : Serves owner (ghosts owner) effect)
    (choice : Choice) :
    Balanced library (world.respond library effect choice).2
      (Function.update ghosts owner ((dispatching owner).next (ghosts owner)
        effect (world.respond library effect choice).1)) key := by
  have continues := continues_respond grounded.sound effect choice
  have idle : ∀ {claimed recorded}, ¬ Unsent library key ⟨claimed, none, recorded⟩ :=
    not_unsent_of_begun rfl
  have status : writesMessages effect = false →
      (world.respond library effect choice).2.tables.status key = world.tables.status key := by
    intro reads
    rw [status, (messages_respond effect choice reads).1]
    rfl
  cases effect with
  | claimOutbox eventType ownerId limit leaseSeconds =>
    refine balanced.quiet continues (log_transact_nil _ _) (.inl (status rfl)) ?_
    cases (world.respond library (.claimOutbox eventType ownerId limit
      leaseSeconds) choice).1 <;> exact idle
  | releaseOutbox => exact balanced.quiet continues (log_transact_nil _ _) (.inl (status rfl)) idle
  | deadLetterOutbox =>
    exact balanced.quiet continues (log_transact_nil _ _) (.inl (status rfl)) idle
  | markOutboxPublished => exact serves.elim
  | recordDelivery tenantId receipt retrying =>
    obtain ⟨rfl, ambiguous, _⟩ := serves
    refine balanced.recordDelivery grounded ambiguous choice ?_
    cases (world.respond library (.recordDelivery tenantId receipt false) choice).1 <;> exact idle
  | beginDelivery record ownerId =>
    refine balanced.beginDelivery grounded (grounded.claimed owner record serves.2) choice ?_
    cases answer : (world.respond library (.beginDelivery record ownerId) choice).1 with
    | error error => exact .inl rfl
    | ok attempt => exact .inr ⟨attempt, rfl, rfl⟩
  | finishDelivery record ownerId attemptNumber receipt retryDelay =>
    exact balanced.finishDelivery grounded
      (grounded.claimed owner record serves.2.1) serves.2.2 choice idle
  | send => exact balanced.sendMessage grounded serves choice idle
  | _ => exact balanced.quiet continues rfl (.inl (status rfl)) idle

end Grounded

end Respond

section Moves

variable {library : Library} {world : DeliveryWorld} {ghosts : String → Progress}
  {key place : String × String}

theorem Open.elsewhere {before after : DeliveryTables}
    (rows : ∀ position row, after.outboxEvents.get? position = some row →
      before.outboxEvents.get? position = some row ∨ row.tenantId = place.1 ∧
          library.parseUuid row.aggregateId = some place.2)
    (status : after.status key = before.status key) (different : place ≠ key)
    (opened : Open library after key) : Open library before key := by
  obtain ⟨pending, position, row, stored, unpublished, sendable⟩ := opened
  rcases rows position row stored with old | ⟨tenant, parsed⟩
  · exact ⟨status ▸ pending, position, row, old, unpublished, sendable⟩
  · refine absurd (Prod.ext ?_ ?_) different
    · exact tenant.symm.trans sendable.1
    · exact Option.some.inj (parsed.symm.trans sendable.2.1)

variable (balanced : Balanced library world ghosts key)

include balanced

theorem Balanced.opening {after : DeliveryWorld} (place : String × String)
    (sent : after.count library .sent key = world.count library .sent key)
    (allowed : world.allowance library key ≤ after.allowance library key)
    (paid : place = key → world.allowance library key < after.allowance library key)
    (rows : ∀ position row, after.tables.outboxEvents.get? position = some row →
        world.tables.outboxEvents.get? position = some row ∨ row.tenantId = place.1 ∧
            library.parseUuid row.aggregateId = some place.2)
    (status : place ≠ key → after.tables.status key = world.tables.status key) :
    Balanced library after ghosts key := by
  refine balanced.mono sent allowed ?_ fun _ about => about
  intro opened
  by_cases here : place = key
  · exact .inr (paid here)
  · exact .inl (opened.elsewhere rows (status here) here)

theorem Balanced.commit (tenantId : String)
    (envelope : OutboundEnvelope) (uuid : String) (now : Time) :
    Balanced library (world.move library (.commit tenantId envelope uuid now)) ghosts key := by
  rcases commit_cases world tenantId envelope uuid now with same | ⟨tables, inserted, moved⟩
  · rw [same]
    exact balanced
  rw [moved]
  obtain ⟨outboundId, message, parsed, absent, _, _, written⟩ := insertOutbound_eq_ok inserted
  have messages : tables.outboundMessages.get? key = if (tenantId, outboundId) = key then some
    message else world.tables.outboundMessages.get? key := by
    rw [show tables = _ from written]
    exact Dict.get?_set _ _ _ _
  have paid : (tenantId, outboundId) = key → world.allowance library key <
      allowance library key { world with tables } := by
    rintro rfl
    simp [allowance, count, absent, messages]
  refine balanced.opening (tenantId, outboundId) rfl ?_ paid ?_ ?_
  · by_cases here : (tenantId, outboundId) = key
    · exact (paid here).le
    · refine le_of_eq ?_
      simp only [allowance, count, messages, if_neg here]
  · intro position row stored
    rw [show tables = _ from written] at stored
    rcases putOutbox_cases stored with ⟨_, rfl⟩ | old
    · exact .inr ⟨rfl, parsed⟩
    · exact .inl old
  · intro different
    rw [if_neg different] at messages
    exact congrArg (Option.map OutboundMessage.status) messages

theorem Balanced.replay (request : ReplayRequest) (uuid : String) (now : Time) :
    Balanced library (world.move library (.replay request uuid now)) ghosts key := by
  rcases replay_cases world request uuid now with same | ⟨version, tables, replayed, moved⟩
  · rw [same]
    exact balanced
  rw [moved]
  obtain ⟨outboundId, message, parsed, stored, _, messages, _, rows⟩ := performReplay_eq_ok replayed
  let event : DeliveryEvent := ⟨.replayed, request.tenantId, request.outboundId⟩
  have grows : log ⟨tables, event :: world.log⟩ = [event] ++ world.log := rfl
  have content : SameContent world.tables tables := fun key => by
    rw [messages]
    exact sameContent_reopen stored key
  have allowance := @allowance_of_log library world ⟨tables, event :: world.log⟩ _ key content grows
  refine balanced.opening (request.tenantId, outboundId) ?_ ?_ ?_ (fun position row found => ?_) ?_
  · rw [count_of_log grows]
    simp [DeliveryEvent.concerns, event]
  · rw [allowance]
    omega
  · rintro rfl
    rw [allowance]
    simp [DeliveryEvent.concerns, event, parsed]
  · rw [rows] at found
    rcases reopen_cases found with old | rfl
    · exact .inl old
    · exact .inr ⟨rfl, parsed⟩
  · intro different
    rw [status, messages]
    exact (status_reopen key).trans (if_neg different)

theorem Balanced.move (move : DeliveryMove) :
    Balanced library (world.move library move) ghosts key := by
  cases move with
  | commit tenantId envelope uuid now => exact balanced.commit tenantId envelope uuid now
  | replay request uuid now => exact balanced.replay request uuid now
  | administer controlVersions idempotency => exact balanced

end Moves

theorem balanced_reachable {library : Library} {schema : EnvelopeSchema}
    {controlVersions : Dict String Nat} {fleet : DeliveryFleet}
    (reached : (delivering library schema).Steps (fun _ _ => True)
      (undelivered controlVersions) fleet) :
    ∃ ghosts, Behaviour.Follows dispatching (fun _ _ after => after.recorded = none)
      (fun world ghosts => Grounded library world.tables ghosts ∧
        ∀ key, Balanced library world ghosts key) fleet ghosts := by
  refine Behaviour.Steps.follows ?_ ?_ ?_ reached ?_
  · intro fleet ghosts dispatcher follows _
    obtain ⟨grounded, balanced⟩ := follows.fits
    refine ⟨.idle, obeys_dispatchOnce
      { dispatcher with atomicDelivery := true } schema rfl rfl, ?_, fun key => ?_⟩
    · exact grounded.idle
    · exact (balanced key).quiet (.refl _) rfl (.inl rfl) (not_unsent_of_begun rfl)
  · intro fleet ghosts owner effect resume choice follows _ _ permitted
    obtain ⟨grounded, balanced⟩ := follows.fits
    exact ⟨grounded.respond permitted.1 choice,
      fun key => (balanced key).respond grounded permitted.1 choice⟩
  · intro fleet ghosts move follows _
    obtain ⟨grounded, balanced⟩ := follows.fits
    exact ⟨grounded.move move, fun key => (balanced key).move move⟩
  · refine ⟨fun _ => .idle, ⟨.initial controlVersions, ?_⟩, fun _ => rfl⟩
    intro key
    refine ⟨∅, fun _ about => absurd about (not_unsent_of_begun rfl), Nat.zero_le _, ?_⟩
    rintro ⟨pending | failed, _⟩
    · exact nomatch pending
    · exact nomatch failed

section Delivered

variable {library : Library} {world : DeliveryWorld} {key : String × String}

theorem delivered_putStatus {place : String × String} {message : OutboundMessage}
    (delivered : tables.status key = some .delivered)
    (stored : tables.outboundMessages.get? place = some message)
    (undelivered : message.status ≠ .delivered) (number : Nat) (attempt status : OutboundStatus) :
    ((tables.putAttempt place number attempt).putStatus place message
      status).status key = some .delivered := by
  rw [status_putStatus, if_neg, status_putAttempt]
  · exact delivered
  · rintro rfl
    rw [status_of_get? stored] at delivered
    exact undelivered (Option.some.inj delivered)

theorem delivered_respond (effect : DispatchEffect) (choice : Choice)
    (delivered : world.tables.status key = some .delivered) :
    (world.respond library effect choice).2.tables.status key = some .delivered := by
  cases writes : writesMessages effect with
  | false =>
    rw [status, (messages_respond effect choice writes).1]
    exact delivered
  | true =>
    cases effect with
    | recordDelivery tenantId receipt retrying =>
      refine transact_tables (fun tables => tables.status key = some .delivered) _ _ delivered ?_
      intro answer recorded
      obtain ⟨_, _, _, stored, undelivered, after⟩ := recordDelivery_eq_ok recorded
      rw [after]
      exact delivered_putStatus delivered stored undelivered _ _ _
    | beginDelivery record ownerId =>
      refine transact_tables (fun tables => tables.status key = some .delivered) _ _ delivered ?_
      intro answer begun
      obtain ⟨_, _, _, _, _, stored, startable, _, after⟩ := beginDelivery_eq_ok begun
      rw [after]
      refine delivered_putStatus delivered stored ?_ _ _ _
      rcases startable with pending | failed
      · rw [pending]
        simp
      · rw [failed]
        simp
    | finishDelivery record ownerId attemptNumber receipt retryDelay =>
      refine transact_tables (fun tables => tables.status key = some .delivered) _ _ delivered ?_
      intro answer finished
      obtain ⟨_, _, _, _, _, _, stored, sending, after⟩ := finishDelivery_eq_ok finished
      rw [after, status_putOutbox]
      refine delivered_putStatus delivered stored ?_ _ _ _
      rw [sending]
      simp
    | _ => cases writes

theorem delivered_move (move : DeliveryMove)
    (delivered : world.tables.status key = some .delivered) :
    (world.move library move).tables.status key = some .delivered := by
  cases move with
  | commit tenantId envelope uuid now =>
    rcases commit_cases world tenantId envelope uuid now with same | ⟨tables, inserted, moved⟩
    · rw [same]
      exact delivered
    · rw [moved]
      obtain ⟨outboundId, message, _, absent, _, _, written⟩ := insertOutbound_eq_ok inserted
      have different : (tenantId, outboundId) ≠ key := by
        rintro rfl
        rw [status, absent] at delivered
        cases delivered
      rw [show tables = _ from written]
      exact (congrArg (Option.map OutboundMessage.status)
        (Dict.get?_set_of_ne _ _ different)).trans delivered
  | replay request uuid now =>
    rcases replay_cases world request uuid now with same | ⟨version, tables, replayed, moved⟩
    · rw [same]
      exact delivered
    · rw [moved]
      obtain ⟨outboundId, message, _, stored, failed, messages, _⟩ := performReplay_eq_ok replayed
      have different : (request.tenantId, outboundId) ≠ key := by
        rintro rfl
        rw [status_of_get? stored] at delivered
        rw [Option.some.inj delivered] at failed
        simp at failed
      rw [status, messages]
      exact (status_reopen key).trans ((if_neg different).trans delivered)
  | administer controlVersions idempotency => exact delivered

theorem begin_of_delivered {answer : DeliveryAttempt × DeliveryTables}
    (delivered : tables.status key = some .delivered) (tenant : record.tenantId = key.1)
    (parsed : library.parseUuid record.aggregateId = some key.2) :
    tables.beginDelivery library record ownerId ≠ .ok answer := by
  intro begun
  obtain ⟨outboundId, _, message, parsed', _, stored, startable, _⟩ := beginDelivery_eq_ok begun
  cases parsed.symm.trans parsed'
  rw [tenant] at stored
  rw [status_of_get? stored] at delivered
  rw [Option.some.inj delivered] at startable
  exact startable.elim nofun nofun

end Delivered

/-- However dispatchers, turns and operators interleave, a message is sent at
most once, and once more for every failure recorded as retryable and for every
replay.  A delivered message stays delivered and is not begun again.  A
dispatcher that crashes while it sends makes no move after the send. -/
theorem no_blind_resend (library : Library) (schema : EnvelopeSchema)
    (controlVersions : Dict String Nat) (fleet : DeliveryFleet)
    (reached : (delivering library schema).Steps (fun _ _ => True)
      (undelivered controlVersions) fleet) (key : String × String) :
    fleet.state.count library .sent key ≤ 1 + fleet.state.count library .failedRetryably key +
          fleet.state.count library .replayed key ∧
      (fleet.state.tables.status key = some .delivered →
        ∀ later, (delivering library schema).Steps (fun _ _ => True) fleet later →
          later.state.tables.status key = some .delivered ∧
          ∀ record ownerId answer, record.tenantId = key.1 →
            library.parseUuid record.aggregateId = some key.2 →
            later.state.tables.beginDelivery library record ownerId ≠ .ok answer) := by
  constructor
  · obtain ⟨ghosts, follows⟩ := balanced_reachable reached
    obtain ⟨unsent, _, bound, _⟩ := follows.fits.2 key
    have allowance : fleet.state.allowance library key ≤
        1 + fleet.state.count library .failedRetryably key +
          fleet.state.count library .replayed key := by
      unfold allowance
      split <;> omega
    omega
  · intro delivered later steps
    have final := steps.state (fun world => world.tables.status key = some .delivered)
      (fun _ effect choice _ => delivered_respond effect choice)
      (fun move _ => delivered_move move) delivered
    exact ⟨final, fun _ _ _ tenant parsed => begin_of_delivered final tenant parsed⟩

def deliverReply : List DeliveryAction := [ .move (.commit "tenant" reply "row" 0),
    .start (feishuDispatcher "dispatcher"),
    .resume "dispatcher" { batch := [("tenant", "row")] },
    .resume "dispatcher" {},
    .resume "dispatcher" {},
    .resume "dispatcher" { binding := some ⟨"binding", "tenant", .feishu⟩ },
    .resume "dispatcher" {},
    .resume "dispatcher" { receipt := some ⟨"reply", .delivered, none, false,
      none⟩ },
    .resume "dispatcher" { jitter := some 0 },
    .resume "dispatcher" {} ]

def replyDelivered : DeliveryFleet :=
  (delivering plainLibrary plainSchema).play deliverReply (undelivered .empty)

theorem replyDelivered_reached : (delivering plainLibrary plainSchema).Steps (fun _ _ => True)
      (undelivered .empty) replyDelivered :=
  .play deliverReply (by decide)

theorem reply_sent_once : replyDelivered.state.count plainLibrary .sent ("tenant", "reply") = 1 ∧
      replyDelivered.state.tables.status ("tenant", "reply") = some .delivered ∧
      ∀ record ownerId answer, record.tenantId = "tenant" →
        plainLibrary.parseUuid record.aggregateId = some "reply" →
        replyDelivered.state.tables.beginDelivery plainLibrary record ownerId ≠ .ok answer := by
  have delivered : replyDelivered.state.tables.status ("tenant", "reply") =
      some .delivered := by decide +kernel
  refine ⟨by decide +kernel, delivered, ?_⟩
  exact ((no_blind_resend plainLibrary plainSchema .empty replyDelivered
    replyDelivered_reached ("tenant", "reply")).2 delivered replyDelivered
    .refl).2

end TrpcService.Channels
