import TrpcService.Storage.Memory.History
import TrpcService.Storage.Postgres.Runs

namespace TrpcService.Storage

open Data

/-! A wake-up is untrusted.  What it claims is checked against the durable
record that it names, against the leases and against the head of the queue. -/

structure ClaimView where
  names : String → OutboxRecord → Prop
  mailbox : SessionMailbox
  item? : Nat → Option MailboxItem
  leased : Time → Prop

/-- The event is a wake-up of the session for the mailbox's generation, no
lease stands, and the claim is for the head of the queue, which is due. -/
structure Authentic (view : ClaimView) (key : SessionKey) (eventId : String)
    (expectedGeneration : Option Int) (now : Time) (claim : SessionClaim) :
    Prop where
  event : ∃ record, view.names eventId record ∧ record.tenantId = key.1 ∧
    record.eventType = .sessionReadyV2 ∧ record.aggregateId = key.2 ∧
    record.payload.generation? = some view.mailbox.queueGeneration
  expected : ∀ generation ∈ expectedGeneration, generation = view.mailbox.queueGeneration
  unleased : ¬ view.leased now
  head : ∃ lease item, claim.lease = some lease ∧ lease.key = key ∧
    lease.sequence = view.mailbox.resolvedSequence + 1 ∧
    view.item? lease.sequence = some item ∧
    item.inboundId = lease.inboundId ∧ laterThan item.retryAt now = false

variable {eventId : String} {claim : SessionClaim}

namespace Memory

def Repository.claimView (repository : Repository) (key : SessionKey) :
    ClaimView where
  names eventId record := record ∈ repository.mailboxStore.outbox ∧ record.outboxId = eventId
  mailbox := (repository.mailboxStore.slot key).mailbox
  item? sequence := (repository.mailboxStore.slot key).items.get? sequence
  leased now := isLive (repository.leases.get? key) now = true ∨
    laterThan (repository.mailboxStore.slot key).mailbox.leaseExpiresAt now = true

section Claim

variable {repository : Repository} {key : SessionKey} {ownerId : String} {leaseFor now : Time}
  {expectedGeneration : Option Int}

variable {store after : MailboxStore}

theorem claim_ungranted (claimed : store.claim key ownerId leaseFor now = (.ok none, after)) :
    after = store ∨ ∃ mailbox later, store.mailboxes.get? key = some mailbox ∧
        after.mailboxes.get? key = some later ∧
        later.queueGeneration = mailbox.queueGeneration ∧
        later.leaseExpiresAt = mailbox.leaseExpiresAt ∧
        laterThan mailbox.leaseExpiresAt now = false := by
  revert claimed
  fun_cases MailboxStore.claim store key ownerId leaseFor now with
  | case7 _ _ mailbox stored free =>
    intro claimed
    cases claimed
    exact .inr ⟨mailbox, _, stored, Dict.get?_set_self _ _ _, rfl, rfl, Bool.of_not_eq_true free⟩
  | case9 _ _ mailbox stored free =>
    intro claimed
    cases claimed
    exact .inr ⟨mailbox, _, stored, Dict.get?_set_self _ _ _, rfl, rfl, Bool.of_not_eq_true free⟩
  | _ =>
    intro claimed
    cases claimed
    try exact .inl rfl

variable {acceptance : Option Acceptance}

theorem claimSession_refused {expectedEpoch : Option Int}
    (claimed : store.claimSession key ownerId leaseFor expectedGeneration
      expectedEpoch acceptance now = (.ok claim, after))
    (refused : claim.status = .stale ∨ claim.status = .running) :
    after = store := by
  revert claimed
  fun_cases MailboxStore.claimSession store key ownerId leaseFor
    expectedGeneration expectedEpoch acceptance now with
  | case1 =>
    intro claimed
    cases claimed
    rfl
  | case2 => simp
  | case3 =>
    intro claimed
    cases claimed
    rcases refused with refused | refused <;> cases refused
  | case4 expected before _ next mailbox live ungranted =>
    intro claimed
    cases claimed
    rcases claim_ungranted ungranted with same | ⟨_, later, _, found, _, expiry, free⟩
    · exact same
    · have current : mailbox = later := by simp [mailbox, found]
      rw [current, expiry, free] at live
      cases live
  | case5 expected before unmatched next mailbox _ stale ungranted =>
    intro claimed
    cases claimed
    rcases claim_ungranted ungranted with same | ⟨old, later, stored, found, generation, _⟩
    · exact same
    · have current : mailbox = later := by simp [mailbox, found]
      have earlier : before = old := by simp [before, stored]
      rw [current, generation] at stale
      rw [earlier] at unmatched
      exact absurd stale unmatched
  | case6 =>
    intro claimed
    cases claimed
    rcases refused with refused | refused <;> cases refused

theorem claimSession_matches {generation : Int}
    (claimed : store.claimSession key ownerId leaseFor (some generation) none
      acceptance now = (.ok claim, after))
    (granted : claim.status = .claimed) :
    ((store.slot key).mailbox.queueGeneration : Int) = generation := by
  have fresh : ((store.mailboxes.get? key).getD (.fresh key now)).queueGeneration =
        (store.slot key).mailbox.queueGeneration := by
    unfold MailboxStore.slot
    cases store.mailboxes.get? key <;> rfl
  rw [← fresh]
  by_contra unmatched
  unfold MailboxStore.claimSession at claimed
  simp only [Option.or_none, Option.any_some, ne_eq, decide_eq_true_eq, if_pos unmatched] at claimed
  cases claimed
  cases granted

variable {expected : Option Int}

theorem expectedReady_names
    (ready : repository.expectedReady key expectedGeneration (some eventId) = some expected) :
    ∃ record generation, (repository.claimView key).names eventId record ∧
      record.tenantId = key.1 ∧ record.eventType = .sessionReadyV2 ∧
      record.aggregateId = key.2 ∧
      record.payload.generation? = some generation ∧
      expected = some (generation : Int) ∧
      ∀ wanted ∈ expectedGeneration, wanted = generation := by
  simp only [Repository.expectedReady] at ready
  split at ready
  case h_1 => exact nomatch ready
  case h_2 record found =>
    split at ready
    case isTrue => exact nomatch ready
    case isFalse own =>
      split at ready
      case h_1 => exact nomatch ready
      case h_2 generation carried =>
        split at ready
        case isTrue => exact nomatch ready
        case isFalse wanted =>
          cases ready
          simp only [not_or, not_not] at own wanted
          have named : record.outboxId = eventId := by
            simpa using List.find?_some found
          refine ⟨record, generation, ⟨List.mem_of_find?_eq_some found, named⟩,
            own.1, own.2.1, own.2.2, carried, rfl, ?_⟩
          rintro other ⟨⟩
          have same := wanted.2
          simp only [Option.any_some, decide_eq_true_eq, not_not] at same
          exact same.symm

variable {uuids : Nat → String} {clk : Nat → Time}

theorem startTurn_status {answer : SessionClaim} {lease : MailboxLease}
    (claimed : claim.status = .claimed)
    (started : (repository.startTurn key ownerId claim lease uuids clk).1 = .ok answer) :
    answer.status = .empty ∨ answer.status = .claimed ∧ answer.lease = claim.lease := by
  revert started
  fun_cases Repository.startTurn repository key ownerId claim lease uuids clk with
  | case2 => simp
  | case4 =>
    intro started
    cases started
    exact .inr ⟨claimed, rfl⟩
  | _ =>
    intro started
    cases started
    exact .inl rfl

theorem isLive_mono {lease : Option SessionLease} {early late : Time} (ordered : early ≤ late)
    (expired : isLive lease early = false) : isLive lease late = false := by
  cases lease with
  | none => rfl
  | some lease =>
    simp only [isLive, Option.any_some, decide_eq_false_iff_not] at expired ⊢
    exact fun later => expired (Int.lt_of_le_of_lt ordered later)

theorem claimSession_of_claimMailbox {taken : SessionClaim} {middle : Repository}
    (claimed : (repository.claimMailbox key ownerId leaseFor expected none
      acceptance fun _ => now) = (.ok taken, middle)) :
    repository.mailboxStore.claimSession key ownerId leaseFor expected none
      acceptance now = (.ok taken, middle.mailboxStore) := by
  have answer : (repository.mailboxStore.claimSession key ownerId leaseFor
      expected none acceptance now).1 = .ok taken := congrArg Prod.fst claimed
  have store : (repository.mailboxStore.claimSession key ownerId leaseFor expected none acceptance
      now).2 = middle.mailboxStore := congrArg (fun outcome => outcome.2.mailboxStore) claimed
  exact Prod.ext answer store

theorem authentic_of_claimMailbox {clock early : Time} {taken : SessionClaim}
    {lease : MailboxLease} {middle : Repository}
    (inv : repository.mailboxStore.Inv True clock) (later : clock ≤ now)
    (ready : repository.expectedReady key expectedGeneration (some eventId) = some expected)
    (unleased : isLive (repository.leases.get? key) early = false)
    (ordered : early ≤ now)
    (claimed : (repository.claimMailbox key ownerId leaseFor expected none
      acceptance fun _ => now) = (.ok taken, middle))
    (granted : taken.status = .claimed) (leased : taken.lease = some lease)
    (same : claim.lease = taken.lease) :
    Authentic (repository.claimView key) key eventId expectedGeneration now claim := by
  obtain ⟨record, generation, named, tenant, type, session, carried, rfl,
    wanted⟩ := expectedReady_names ready
  have answered := claimSession_of_claimMailbox claimed
  have current : (repository.claimView key).mailbox.queueGeneration = generation :=
    Int.ofNat.inj (claimSession_matches answered granted)
  obtain ⟨keyed, grants⟩ := MailboxStore.claimSession_grants (inv key) later
    (show MailboxStore.sessionLease (repository.mailboxStore.claimSession key
      ownerId leaseFor (some (generation : Int)) none acceptance now).1 =
        some lease by rw [answered]; exact leased)
  obtain ⟨head, stored, inbound, due⟩ := grants.head
  refine ⟨⟨record, named, tenant, type, session, ?_⟩, ?_, ?_, ?_⟩
  · rw [carried, current]
  · intro other member
    rw [wanted other member, current]
  · rintro (live | live)
    · exact nomatch live.symm.trans (isLive_mono ordered unleased)
    · exact nomatch live.symm.trans grants.free
  · refine ⟨lease, head, same.trans leased, keyed, grants.sequence, ?_, inbound, due⟩
    rw [grants.sequence]
    exact stored

theorem claimSession_lease {expectedEpoch : Option Int}
    (claimed : store.claimSession key ownerId leaseFor expectedGeneration
      expectedEpoch acceptance now = (.ok claim, after))
    (granted : claim.status = .claimed) : claim.lease ≠ none := by
  revert claimed
  fun_cases MailboxStore.claimSession store key ownerId leaseFor
    expectedGeneration expectedEpoch acceptance now with
  | case2 => simp
  | case3 =>
    intro claimed
    cases claimed
    simp
  | _ =>
    intro claimed
    cases claimed
    cases granted

theorem claimSessionReady_authentic {clock : Time}
    (inv : repository.mailboxStore.Inv True clock) (monotone : Monotone clk)
    (started : clock ≤ clk 0)
    (answered : (repository.claimSessionReady key ownerId leaseFor
      expectedGeneration (some eventId) acceptance uuids clk).1 = .ok claim)
    (claimed : claim.status = .claimed) :
    Authentic (repository.claimView key) key eventId expectedGeneration (clk 2) claim := by
  have reaches := Int.le_trans started (monotone (Nat.zero_le 2))
  have ordered : clk 1 ≤ clk 2 := monotone (Nat.le_succ 1)
  revert answered
  fun_cases Repository.claimSessionReady repository key ownerId leaseFor
    expectedGeneration (some eventId) acceptance uuids clk with
  | case3 => simp
  | case4 expected ready unleased taken middle stored unclaimed =>
    intro answered
    cases answered
    exact absurd unclaimed (claimSession_lease (claimSession_of_claimMailbox stored) claimed)
  | case5 expected ready unleased taken middle stored lease leased granted =>
    intro answered
    have status : taken.status = .claimed := of_decide_eq_true granted
    rcases startTurn_status status answered with empty | ⟨_, same⟩
    · cases empty.symm.trans claimed
    · exact authentic_of_claimMailbox inv reaches ready
        (Bool.of_not_eq_true unleased) ordered stored status leased same
  | case6 expected ready unleased taken middle stored lease leased refused =>
    intro answered
    cases answered
    exact absurd (decide_eq_true claimed) refused
  | _ =>
    intro answered
    cases answered
    cases claimed

theorem claimSessionReady_refused {eventId : Option String}
    (answered : (repository.claimSessionReady key ownerId leaseFor
      expectedGeneration eventId acceptance uuids clk).1 = .ok claim)
    (refused : claim.status = .stale ∨ claim.status = .running) :
    (repository.claimSessionReady key ownerId leaseFor expectedGeneration
      eventId acceptance uuids clk).2 = repository := by
  have kept : ∀ {expected middle}, (repository.claimMailbox key ownerId leaseFor expected none
    acceptance fun _ => clk 2) = (.ok claim, middle) → middle = repository := by
    intro expected middle claimed
    have store := claimSession_refused (claimSession_of_claimMailbox claimed) refused
    have moved : { repository with mailboxStore :=
        (repository.mailboxStore.claimSession key ownerId leaseFor expected
          none acceptance (clk 2)).2 } = middle := congrArg Prod.snd claimed
    rw [claimSession_of_claimMailbox claimed, store] at moved
    exact moved.symm
  revert answered
  fun_cases Repository.claimSessionReady repository key ownerId leaseFor
    expectedGeneration eventId acceptance uuids clk with
  | case1 => exact fun _ => rfl
  | case2 => exact fun _ => rfl
  | case3 => simp
  | case5 expected ready unleased taken middle stored lease leased granted =>
    intro answered
    have status : taken.status = .claimed := of_decide_eq_true granted
    rcases startTurn_status status answered with other | ⟨other, _⟩
    · simp [other] at refused
    · simp [other] at refused
  | case4 expected ready unleased taken middle stored =>
    intro answered
    cases answered
    exact kept stored
  | case6 expected ready unleased taken middle stored =>
    intro answered
    cases answered
    exact kept stored

theorem claim_of_answering {outcome : Outcome SessionClaim}
    (answered : (answering .claim outcome).1 = .ok (.claim claim)) : outcome.1 = .ok claim := by
  obtain ⟨_ | _, after⟩ := outcome
  · exact nomatch answered
  · cases answered
    rfl

end Claim

end Memory

namespace Postgres

def Tables.claimView (library : Library) (tables : Tables)
    (key : SessionKey) : ClaimView where
  names eventId record := ∃ tenantId uuid row, library.parseUuid eventId = some uuid ∧
      tables.outboxEvents.get? (tenantId, uuid) = some row ∧
      row.toOutboxRecord = record
  mailbox := tables.mailbox key
  item? sequence := (tables.item? key sequence).map ItemRow.toMailboxItem
  leased now := (tables.sessions.get? key).any (SessionRow.leased · now) = true ∨
    laterThan (tables.mailbox key).leaseExpiresAt now = true

section Claim

variable {library : Library} {tables : Tables} {key : SessionKey} {ownerId : String}
  {leaseFor : Time} {expectedGeneration : Option Int} {acceptance : Option Acceptance}
  {uuids : Nat → String} {clk : Nat → Time} {answer : SessionClaim × Tables}

theorem readyGeneration_names {uuid : String} {generation : Nat}
    (keys : PrimaryKeys tables) (parsed : library.parseUuid eventId = some uuid)
    (ready : tables.readyGeneration? key uuid expectedGeneration = some generation) :
    (∃ record, (tables.claimView library key).names eventId record ∧
      record.tenantId = key.1 ∧ record.eventType = .sessionReadyV2 ∧
      record.aggregateId = key.2 ∧
      record.payload.generation? = some generation) ∧
    ∀ wanted ∈ expectedGeneration, wanted = generation := by
  revert ready
  fun_cases Tables.readyGeneration? tables key uuid expectedGeneration with
  | case4 row stored own generation carried matched =>
    intro ready
    cases ready
    rw [not_or] at matched
    have tenant := congrArg Prod.fst (keys.outbox _ ((Dict.mem_entries_iff _ _ _).mpr stored))
    refine ⟨⟨_, ⟨key.1, uuid, row, parsed, stored, rfl⟩, tenant, own.1, own.2.2, carried⟩, ?_⟩
    rintro wanted ⟨⟩
    have same := matched.2
    simp only [Option.any_some, decide_eq_true_eq, not_not] at same
    exact same.symm
  | _ => exact nofun

theorem ensureSession_leased {appId principalId : String} {now : Time} {session : SessionRow}
    {base : Tables} (ensured : tables.ensureSession key appId principalId = (session, base)) :
    session.leased now = (tables.sessions.get? key).any (SessionRow.leased · now) ∧
      (session.leased now = true → base = tables) := by
  unfold Tables.ensureSession at ensured
  split at ensured
  case h_1 stored found =>
    cases ensured
    rw [found]
    exact ⟨rfl, fun _ => rfl⟩
  case h_2 absent =>
    cases ensured
    rw [absent]
    exact ⟨rfl, by intro held; cases held⟩

theorem leaseHead_claimed {mailbox : SessionMailbox} {sequence : Nat}
    {item : ItemRow} {inbound : InboundRow} {session : SessionRow}
    {turn : Option ((String × String) × TurnRow)}
    (done : tables.leaseHead key mailbox sequence item inbound session turn
      ownerId leaseFor acceptance uuids clk = .ok answer) :
    answer.1.status = .claimed ∧ ∃ lease, answer.1.lease = some lease ∧
      lease.key = key ∧ lease.sequence = sequence ∧
      lease.inboundId = item.inboundId := by
  revert done
  fun_cases Tables.leaseHead tables key mailbox sequence item inbound session
    turn ownerId leaseFor acceptance uuids clk with
  | case1 => simp
  | case2 =>
    intro done
    cases done
    exact ⟨rfl, _, rfl, rfl, rfl, rfl⟩

theorem claimHead_cases (inv : MailboxInv key tables)
    (done : tables.claimHead key (tables.mailbox key) ownerId leaseFor
      acceptance uuids clk = .ok answer) :
    answer.1.status = .empty ∨ answer.1.status = .running ∧ answer.2 = tables ∨
      answer.1.status = .claimed ∧ ¬ (tables.claimView library key).leased (clk 1) ∧
        ∃ lease item, answer.1.lease = some lease ∧ lease.key = key ∧
          lease.sequence = (tables.mailbox key).resolvedSequence + 1 ∧
          (tables.claimView library key).item? lease.sequence = some item ∧
          item.inboundId = lease.inboundId ∧
          laterThan item.retryAt (clk 1) = false := by
  have active := inv.activeSequence_eq
  revert done
  fun_cases Tables.claimHead tables key (tables.mailbox key) ownerId leaseFor
    acceptance uuids clk with
  | case1 =>
    intro done
    cases done
    exact .inr (.inl ⟨rfl, rfl⟩)
  | case7 _ _ _ _ _ _ _ _ _ _ session base ensured leased =>
    intro done
    cases done
    exact .inr (.inl ⟨rfl, (ensureSession_leased ensured).2 leased⟩)
  | case9 serverNow free sequence _ item present due inbound _ _ turn session
      base ensured unleased =>
      intro done
      obtain ⟨claimed, lease, stored, keyed, numbered, inbound⟩ := leaseHead_claimed done
      have head : sequence = _ := active
      refine .inr (.inr ⟨claimed, ?_, lease, item.toMailboxItem, stored, keyed,
        numbered.trans head, ?_, inbound.symm, Bool.of_not_eq_true due⟩)
      · rintro (live | live)
        · exact unleased ((ensureSession_leased ensured).1.trans live)
        · exact free live
      · rw [numbered]
        exact congrArg (Option.map ItemRow.toMailboxItem) present
  | _ =>
    intro done
    cases done
    exact .inl rfl

theorem claimSessionReady_cases (inv : MailboxInv key tables) (keys : PrimaryKeys tables)
    (done : tables.claimSessionReady library key ownerId leaseFor
      expectedGeneration (some eventId) acceptance uuids clk = .ok answer) :
    answer.1.status = .empty ∨ (answer.1.status = .stale ∨ answer.1.status = .running) ∧
        answer.2 = tables ∨
      answer.1.status = .claimed ∧ Authentic (tables.claimView library key) key eventId
          expectedGeneration (clk 1) answer.1 := by
  revert done
  fun_cases Tables.claimSessionReady library tables key ownerId leaseFor
    expectedGeneration (some eventId) acceptance uuids clk with
  | case1 => simp
  | case6 _ uuid parsed generation ready mailbox stored current =>
    intro done
    obtain rfl := Tables.mailbox_of_get? stored
    rcases claimHead_cases inv done with empty | running | ⟨claimed, unleased, head⟩
    · exact .inl empty
    · exact .inr (.inl ⟨.inr running.1, running.2⟩)
    · obtain ⟨event, wanted⟩ := readyGeneration_names keys parsed ready
      have same : (tables.mailbox key).queueGeneration = generation := not_not.mp current
      subst same
      exact .inr (.inr ⟨claimed, event, wanted, unleased, head⟩)
  | _ =>
    intro done
    cases done
    exact .inr (.inl ⟨.inl rfl, rfl⟩)

theorem Database.eq_of_tables {left right : Database}
    (same : left.tables = right.tables) : left = right := by
  cases left
  cases right
  cases same
  rfl

theorem claim_of_answering {outcome : Outcome SessionClaim} {after : Tables}
    (answered : answering .claim outcome = .ok (.claim claim, after)) :
    outcome = .ok (claim, after) := by
  obtain _ | ⟨result, tables⟩ := outcome
  · exact nomatch answered
  · cases answered
    rfl

end Claim

end Postgres

/-- A wake-up that names an event is claimed only when it is authentic, and a
claim that is refused as stale or running has changed nothing. -/
theorem claim_authentication : (∀ config : Memory.RepositoryConfig,
      Memory.memoryRepository.Reachable (fun _ _ => True) config →
      ∀ (key : SessionKey) (ownerId : String) (leaseFor : Time)
        (expectedGeneration : Option Int) (eventId : String)
        (acceptance : Option Acceptance) (uuids : Nat → String)
        (clk : Nat → Time), Monotone clk → config.clock ≤ clk 0 →
      let result := Memory.memoryRepository.apply
        ⟨.claimSessionReady key ownerId leaseFor expectedGeneration
          (some eventId) acceptance, uuids⟩ clk config.state
      ∀ claim, result.1 = .ok (.claim claim) →
        (claim.status = .claimed → Authentic (config.state.claimView key) key
          eventId expectedGeneration (clk 2) claim) ∧
        (claim.status = .stale ∨ claim.status = .running → result.2 = config.state)) ∧
    (∀ (library : Postgres.Library) (config : Postgres.DatabaseConfig),
      (Postgres.repository library).Reachable Postgres.freshRequest config →
      ∀ (key : SessionKey) (ownerId : String) (leaseFor : Time)
        (expectedGeneration : Option Int) (eventId : String)
        (acceptance : Option Acceptance) (uuids : Nat → String)
        (clk : Nat → Time),
      let result := (Postgres.repository library).apply
        ⟨.claimSessionReady key ownerId leaseFor expectedGeneration
          (some eventId) acceptance, uuids⟩ clk config.state
      ∀ claim, result.1 = .ok (.claim claim) → (claim.status = .claimed → Authentic
          (config.state.tables.claimView library key) key eventId
          expectedGeneration (clk 1) claim) ∧
        (claim.status = .stale ∨ claim.status = .running → result.2 = config.state)) := by
  refine ⟨?_, ?_⟩
  · intro config reachable key ownerId leaseFor expectedGeneration eventId
      acceptance uuids clk monotone started result claim answered
    have direct : (config.state.claimSessionReady key ownerId leaseFor
        expectedGeneration (some eventId) acceptance uuids clk).1 =
          .ok claim := Memory.claim_of_answering answered
    exact ⟨Memory.claimSessionReady_authentic
        (Memory.mailboxInv_reachable reachable) monotone started direct,
      Memory.claimSessionReady_refused direct⟩
  · intro library config reachable key ownerId leaseFor expectedGeneration
      eventId acceptance uuids clk result claim answered
    obtain ⟨error, rolledBack⟩ | ⟨value, after, done, committed⟩ :=
      Postgres.transact_cases config.state
        (Postgres.Request.body library ⟨.claimSessionReady key ownerId leaseFor
          expectedGeneration (some eventId) acceptance, uuids⟩ clk)
    · have failed := answered.symm.trans (congrArg Prod.fst rolledBack)
      exact nomatch failed
    · have same : .ok value = Except.ok (.claim claim) :=
        (congrArg Prod.fst committed).symm.trans answered
      cases same
      have kept : result.2 = after := congrArg Prod.snd committed
      rcases Postgres.claimSessionReady_cases (Postgres.mailboxInv_reachable reachable key)
        config.state.valid.primaryKeys (Postgres.claim_of_answering done) with
        empty | ⟨refused, unchanged⟩ | ⟨claimed, authentic⟩
      · have other : claim.status ≠ .claimed ∧ claim.status ≠ .stale ∧ claim.status ≠ .running := by
          rw [show claim.status = .empty from empty]
          exact ⟨nofun, nofun, nofun⟩
        exact ⟨fun claimed => absurd claimed other.1, fun refused =>
          (refused.elim other.2.1 other.2.2).elim⟩
      · refine ⟨fun claimed => ?_, fun _ => kept.trans (Postgres.Database.eq_of_tables unchanged)⟩
        rcases refused with refused | refused
        · exact nomatch refused.symm.trans claimed
        · exact nomatch refused.symm.trans claimed
      · refine ⟨fun _ => authentic, fun refused => ?_⟩
        rcases refused with refused | refused
        · exact nomatch refused.symm.trans claimed
        · exact nomatch refused.symm.trans claimed

open Postgres (firstContext firstKey dashes plainLibrary receivedOnce receivedOnce_reachable)

def announced : Memory.RepositoryConfig := Memory.memoryRepository.play
    [(⟨.acceptInboundV2 firstContext ⟨.feishu, "account", "message", "body"⟩ 0 none, dashes 1⟩, 1)]
    (Memory.memoryRepository.start 0)

theorem wakeup_claimed_and_forgery_refused : (∃ claim, (Memory.memoryRepository.apply
        ⟨.claimSessionReady firstKey "worker" 10 (some 1) (some (dashes 1 1)) none,
          dashes 3⟩ (fun _ => 2) announced.state).1 = .ok (.claim claim) ∧
      Authentic (announced.state.claimView firstKey) firstKey (dashes 1 1) (some 1) 2 claim) ∧
    (∃ claim, ((Postgres.repository plainLibrary).apply
        ⟨.claimSessionReady firstKey "worker" 10 (some 1) (some (dashes 0 1)) none,
          dashes 2⟩ (fun _ => 2) receivedOnce.state).1 = .ok (.claim claim) ∧
      Authentic (receivedOnce.state.tables.claimView plainLibrary firstKey)
        firstKey (dashes 0 1) (some 1) 2 claim) ∧
    ∃ claim, (Postgres.repository plainLibrary).apply
        ⟨.claimSessionReady firstKey "worker" 10 (some 1) (some "forged") none,
          dashes 2⟩ (fun _ => 2) receivedOnce.state = (.ok (.claim claim), receivedOnce.state) := by
  have reachable : Memory.memoryRepository.Reachable (fun _ _ => True) announced :=
    (ClockedObject.reachable_start 0).call trivial (by decide)
  refine ⟨⟨_, rfl, ?_⟩, ⟨_, rfl, ?_⟩, _, Prod.ext rfl ?_⟩
  · exact (claim_authentication.1 announced reachable firstKey "worker" 10 (some 1)
      (dashes 1 1) none (dashes 3) (fun _ => 2) monotone_const (by decide) _ rfl).1 rfl
  · exact (claim_authentication.2 plainLibrary receivedOnce receivedOnce_reachable
      firstKey "worker" 10 (some 1) (dashes 0 1) none (dashes 2) (fun _ => 2) _
      rfl).1 rfl
  · exact (claim_authentication.2 plainLibrary receivedOnce receivedOnce_reachable
      firstKey "worker" 10 (some 1) "forged" none (dashes 2) (fun _ => 2) _
      rfl).2 (.inl rfl)

end TrpcService.Storage
