import TrpcService.Storage.Memory.CommitOnce
import TrpcService.Storage.Postgres.Recheck

namespace TrpcService.Storage

open Data

/-! The first scheduler after the second has drained its mailboxes: whether it
leases the next message of a session depends on what it takes for finished. -/

variable {now : Time} {mailbox : SessionMailbox} {clk : Nat → Time}

namespace Memory

/-- The mailbox of a session is empty and no lease on the session stands. -/
structure Drained (repository : Repository) (key : SessionKey) (now : Time) : Prop where
  idle : (repository.mailboxStore.slot key).mailbox.status = .idle
  free : ∀ lease, repository.leases.get? key = some lease → lease.expiresAt ≤ now

variable (repository : Repository)

def Committed (tenantId inboundId : String) : Prop :=
  (tenantId, inboundId) ∈ repository.committedInbound

def Failed (tenantId inboundId : String) : Prop :=
  repository.inboundStatus.get? (tenantId, inboundId) = some .failed

/-- A message of a session was accepted before another one. -/
def Precedes (key : SessionKey) (item : Acceptance) (order : Nat) : Prop :=
  item ∈ repository.acceptancesById.values ∧ item.context.key = key ∧
    ∃ earlier, repository.acceptanceSequence.get? item.inboundId = some earlier ∧ earlier < order

/-- The earliest message of its session that is neither committed nor
failed. -/
structure Next (repository : Repository) (acceptance : Acceptance) (order : Nat) : Prop where
  accepted : repository.acceptanceSequence.get? acceptance.inboundId = some order
  uncommitted : ¬ Committed repository acceptance.context.tenantId acceptance.inboundId
  unfailed : ¬ Failed repository acceptance.context.tenantId acceptance.inboundId
  earlier : ∀ item, Precedes repository acceptance.context.key item order →
    Committed repository item.context.tenantId item.inboundId ∨
      Failed repository item.context.tenantId item.inboundId

section Acquire

variable {repository : Repository} {acceptance : Acceptance} {order : Nat} {clock : Time}
  {key : SessionKey}

theorem Drained.resolved (drained : Drained repository key clock)
    (inv : repository.mailboxStore.Inv True clock)
    (stored : repository.mailboxStore.mailboxes.get? key = some mailbox) :
    mailbox.status = .idle ∧ ¬ mailbox.resolvedSequence < mailbox.acceptedSequence := by
  have idle := drained.idle
  have equal := (inv key).idle.mp idle
  rw [MailboxStore.slot_mailbox_of_get? stored] at idle equal
  exact ⟨idle, Nat.not_lt.mpr equal.le⟩

theorem Drained.unleased (drained : Drained repository key clock) (later : clock ≤ now) :
    isLive (repository.leases.get? key) now = false := by
  cases stored : repository.leases.get? key with
  | none => rfl
  | some lease =>
    have expired := drained.free lease stored
    exact decide_eq_false (Int.not_lt.mpr (Int.le_trans expired later))

theorem earlierPending_eq_false_iff :
    repository.earlierPending key order = false ↔ ∀ item, Precedes repository key item order →
      Committed repository item.context.tenantId item.inboundId := by
  unfold Repository.earlierPending
  rw [List.any_eq_false]
  constructor
  · rintro settled item ⟨stored, own, earlier, sequenced, less⟩
    by_contra uncommitted
    refine settled item stored ?_
    simp only [own, sequenced, Option.any_some, less, decide_true, Bool.and_self, Bool.true_and,
      decide_eq_true_eq]
    exact uncommitted
  · intro settled item stored pending
    simp only [Bool.and_eq_true, decide_eq_true_eq] at pending
    obtain ⟨⟨own, before⟩, uncommitted⟩ := pending
    obtain ⟨earlier, sequenced, less⟩ := (Option.any_eq_true _ _).mp before
    exact uncommitted (settled item ⟨stored, own, earlier, sequenced, of_decide_eq_true less⟩)

theorem acquire_of_next (workerId : String) (leaseFor : Time) (uuids : Nat → String)
    (inv : repository.mailboxStore.Inv True clock)
    (drained : Drained repository acceptance.context.key clock)
    (next : Next repository acceptance order) (monotone : Monotone clk) (started : clock ≤ clk 0) :
    (∃ lease, (repository.acquire acceptance workerId leaseFor uuids clk).1 = .ok (some lease)) ↔
      repository.earlierPending acceptance.context.key order = false := by
  have later : clock ≤ clk 1 := Int.le_trans started (monotone (by decide))
  fun_cases Repository.acquire repository acceptance workerId leaseFor uuids clk with
  | case1 context committed => exact absurd committed next.uncommitted
  | case2 context key mailbox _ unresolved =>
    obtain ⟨stored, found, less⟩ := (Option.any_eq_true _ _).mp unresolved
    exact absurd (of_decide_eq_true less) (drained.resolved inv found).2
  | case3 context key mailbox _ _ running =>
    obtain ⟨stored, found, live⟩ := (Option.any_eq_true _ _).mp running
    have idle := (drained.resolved inv found).1
    simp [idle] at live
  | case4 context key mailbox _ _ _ absent => cases absent.symm.trans next.accepted
  | case5 context key mailbox _ _ _ place sequenced pending =>
    cases sequenced.symm.trans next.accepted
    have blocked : repository.earlierPending acceptance.context.key order = true := pending
    simp [blocked]
  | case6 context key mailbox _ _ _ place _ _ current live =>
    cases (drained.unleased later).symm.trans live
  | case7 context key mailbox _ _ _ place sequenced free =>
    cases sequenced.symm.trans next.accepted
    exact iff_of_true ⟨_, rfl⟩ (Bool.not_eq_true _ ▸ free)

end Acquire

end Memory

variable {inboundId : String} {key : SessionKey} {acceptance : Acceptance}

namespace Postgres

variable {after : Tables} {row : InboundRow}

section Writes

variable {tables : Tables}

theorem Constraints.putSession (valid : Constraints tables) (key : SessionKey)
    (row : SessionRow) : Constraints (tables.putSession key row) where
  mailboxes := valid.mailboxes
  items := valid.items
  outbox := valid.outbox
  primaryKeys := ⟨valid.primaryKeys.mailboxes, valid.primaryKeys.items,
    valid.primaryKeys.inbound, valid.primaryKeys.outbox⟩
  foreignKeys :=
    { itemMailbox := valid.foreignKeys.itemMailbox
      itemInbound := valid.foreignKeys.itemInbound
      turnSession := fun entry stored => Dict.isSome_get?_set _ _ _
        (valid.foreignKeys.turnSession entry stored)
      turnInbound := valid.foreignKeys.turnInbound
      eventTurn := valid.foreignKeys.eventTurn }
  uniqueKeys := ⟨valid.uniqueKeys.inbound, valid.uniqueKeys.items, valid.uniqueKeys.turns,
    valid.uniqueKeys.events, valid.uniqueKeys.ready, valid.uniqueKeys.outbound⟩

variable {id : String × String}

theorem Constraints.putInbound (valid : Constraints tables) {old : InboundRow}
    (present : tables.inboundMessages.get? id = some old) (context : row.context = old.context)
    (envelope : row.envelope = old.envelope) :
    Constraints (tables.putInbound id row) where
  mailboxes := valid.mailboxes
  items := valid.items
  outbox := valid.outbox
  primaryKeys :=
    { mailboxes := valid.primaryKeys.mailboxes
      items := valid.primaryKeys.items
      inbound := by
        intro entry stored
        rcases Dict.mem_entries_set _ stored with rfl | stored
        · have named := valid.primaryKeys.inbound (id, old)
            ((Dict.mem_entries_iff _ _ _).mpr present)
          rw [context]
          exact named
        · exact valid.primaryKeys.inbound entry stored
      outbox := valid.primaryKeys.outbox }
  foreignKeys :=
    { itemMailbox := valid.foreignKeys.itemMailbox
      itemInbound := fun entry stored => Dict.isSome_get?_set _ _ _
        (valid.foreignKeys.itemInbound entry stored)
      turnSession := valid.foreignKeys.turnSession
      turnInbound := fun entry stored => Dict.isSome_get?_set _ _ _
        (valid.foreignKeys.turnInbound entry stored)
      eventTurn := valid.foreignKeys.eventTurn }
  uniqueKeys :=
    { inbound := by
        unfold Tables.putInbound
        rw [Dict.map_values_set_of_get? _ _ present]
        · exact valid.uniqueKeys.inbound
        · rw [context, envelope]
      items := valid.uniqueKeys.items
      turns := valid.uniqueKeys.turns
      events := valid.uniqueKeys.events
      ready := valid.uniqueKeys.ready
      outbound := valid.uniqueKeys.outbound }

theorem Constraints.putTurn (valid : Constraints tables) {turn : TurnRow}
    (session : (tables.sessions.get? (id.1, turn.sessionId)).isSome)
    (inbound : (tables.inboundMessages.get? (id.1, turn.inboundId)).isSome)
    (unique : ((tables.sessionTurns.set id turn).entries.map fun entry =>
      (entry.1.1, entry.2.inboundId)).Nodup) :
    Constraints (tables.putTurn id turn) where
  mailboxes := valid.mailboxes
  items := valid.items
  outbox := valid.outbox
  primaryKeys := ⟨valid.primaryKeys.mailboxes, valid.primaryKeys.items,
    valid.primaryKeys.inbound, valid.primaryKeys.outbox⟩
  foreignKeys :=
    { itemMailbox := valid.foreignKeys.itemMailbox
      itemInbound := valid.foreignKeys.itemInbound
      turnSession := by
        intro entry stored
        rcases Dict.mem_entries_set _ stored with rfl | stored
        · exact session
        · exact valid.foreignKeys.turnSession entry stored
      turnInbound := by
        intro entry stored
        rcases Dict.mem_entries_set _ stored with rfl | stored
        · exact inbound
        · exact valid.foreignKeys.turnInbound entry stored
      eventTurn := fun entry stored => Dict.isSome_get?_set _ _ _
        (valid.foreignKeys.eventTurn entry stored) }
  uniqueKeys := ⟨valid.uniqueKeys.inbound, valid.uniqueKeys.items, unique, valid.uniqueKeys.events,
    valid.uniqueKeys.ready, valid.uniqueKeys.outbound⟩

theorem Tables.turnFor_mem {tenantId : String} {entry : (String × String) × TurnRow}
    (found : tables.turnFor tenantId inboundId = some entry) :
    entry ∈ tables.sessionTurns.entries ∧ entry.1.1 = tenantId ∧ entry.2.inboundId = inboundId := by
  have named := List.find?_some found
  simp only [Bool.and_eq_true, decide_eq_true_eq] at named
  exact ⟨List.mem_of_find?_eq_some found, named⟩

variable {uuid : String} {configVersion attempt : Nat} {token : Nat} {turnId : String}

theorem Constraints.startTurn (valid : Constraints tables)
    (session : (tables.sessions.get? key).isSome)
    (inbound : (tables.inboundMessages.get? (key.1, inboundId)).isSome)
    (started : tables.startTurn key (tables.turnFor key.1 inboundId) inboundId
      uuid configVersion token attempt = .ok (turnId, after)) :
    Constraints after := by
  revert started
  cases found : tables.turnFor key.1 inboundId with
  | none =>
    unfold Tables.startTurn
    dsimp only
    split
    · simp
    case isFalse free =>
      intro started
      cases started
      refine valid.putTurn session inbound ?_
      have absent : tables.sessionTurns.get? (key.1, uuid) = none :=
        Option.not_isSome_iff_eq_none.mp free
      rw [Dict.entries_set_of_get?_eq_none _ _ absent, List.map_append]
      refine List.Nodup.append valid.uniqueKeys.turns (List.nodup_singleton _) ?_
      intro index old new
      obtain ⟨entry, stored, rfl⟩ := List.mem_map.mp old
      have same := Prod.mk.inj (List.mem_singleton.mp new)
      have other := List.find?_eq_none.mp found entry stored
      simp [same.1, same.2] at other
  | some entry =>
    intro started
    cases started
    obtain ⟨stored, _, _⟩ := Tables.turnFor_mem found
    have present := (Dict.mem_entries_iff _ _ _).mp stored
    refine valid.putTurn (valid.foreignKeys.turnSession _ stored)
      (valid.foreignKeys.turnInbound _ stored) ?_
    have kept : ∀ turn : TurnRow, turn.inboundId = entry.2.inboundId →
      ((tables.sessionTurns.set entry.1 turn).entries.map fun entry =>
      (entry.1.1, entry.2.inboundId)) = tables.sessionTurns.entries.map fun entry =>
      (entry.1.1, entry.2.inboundId) := fun turn same => Dict.map_entries_set_of_get? _ _ present
      (congrArg (Prod.mk _) same)
    rw [kept]
    · exact valid.uniqueKeys.turns
    · rfl

variable {turn : Option ((String × String) × TurnRow)}

theorem Tables.startTurn_inboundMessages (begun : tables.startTurn key turn inboundId uuid
      configVersion token attempt = .ok (turnId, after)) :
    after.inboundMessages = tables.inboundMessages := by
  unfold Tables.startTurn at begun
  split at begun
  · cases begun
    rfl
  · split at begun
    · cases begun
    · cases begun
      rfl

theorem Tables.startTurn_ne_error (fresh : tables.sessionTurns.get? (key.1, uuid) = none)
    (error : StorageError) :
    tables.startTurn key turn inboundId uuid configVersion token attempt ≠ .error error := by
  unfold Tables.startTurn
  split
  · simp
  · rw [if_neg (by simp [fresh])]
    simp

end Writes

structure Drained (tables : Tables) (key : SessionKey) (now : Time) : Prop where
  idle : (tables.mailbox key).status = .idle
  free : ∀ session, tables.sessions.get? key = some session →
    laterThan session.leaseExpiresAt now = false

def Committed (tables : Tables) (tenantId inboundId : String) : Prop :=
  ∃ entry, tables.turnFor tenantId inboundId = some entry ∧ entry.2.status = .committed

def Failed (tables : Tables) (tenantId inboundId : String) : Prop :=
  ∃ row, tables.inboundMessages.get? (tenantId, inboundId) = some row ∧ row.status = .failed

def Precedes (tables : Tables) (key : SessionKey) (entry : (String × String) × InboundRow)
    (acceptedAt : Time) (inboundId : String) : Prop :=
  entry ∈ tables.inboundMessages.entries ∧ entry.1.1 = key.1 ∧ entry.2.context.sessionId = key.2 ∧
    (entry.2.acceptedAt < acceptedAt ∨ entry.2.acceptedAt = acceptedAt ∧ entry.1.2 < inboundId)

structure Next (tables : Tables) (key : SessionKey) (inboundId : String)
    (row : InboundRow) : Prop where
  accepted : tables.inboundMessages.get? (key.1, inboundId) = some row
  uncommitted : ¬ Committed tables key.1 inboundId
  unfailed : ¬ Failed tables key.1 inboundId
  earlier : ∀ entry, Precedes tables key entry row.acceptedAt inboundId →
    Committed tables key.1 entry.1.2 ∨ Failed tables key.1 entry.1.2

section Acquire

variable {tables : Tables} {key : SessionKey} {inboundId : String} {row : InboundRow} {clock : Time}

theorem earlierPending_eq_false_iff {acceptedAt : Time} :
    tables.earlierPending key acceptedAt inboundId = false ↔
      ∀ entry, Precedes tables key entry acceptedAt inboundId →
        Committed tables key.1 entry.1.2 := by
  unfold Tables.earlierPending
  rw [List.any_eq_false]
  constructor
  · rintro settled entry ⟨stored, tenant, session, before⟩
    by_contra uncommitted
    refine settled entry stored ?_
    simp only [Bool.and_eq_true, Bool.or_eq_true, decide_eq_true_eq, Bool.not_eq_true']
    refine ⟨⟨⟨tenant, session⟩, before⟩, Bool.eq_false_iff.mpr fun committed => uncommitted ?_⟩
    obtain ⟨turn, found, ended⟩ := (Option.any_eq_true _ _).mp committed
    exact ⟨turn, found, of_decide_eq_true ended⟩
  · intro settled entry stored pending
    simp only [Bool.and_eq_true, Bool.or_eq_true, decide_eq_true_eq, Bool.not_eq_true'] at pending
    obtain ⟨⟨⟨tenant, session⟩, before⟩, uncommitted⟩ := pending
    obtain ⟨turn, found, committed⟩ := settled entry ⟨stored, tenant, session, before⟩
    simp [found, committed] at uncommitted

theorem Drained.resolved (drained : Drained tables key clock) (inv : MailboxInv key tables)
    (stored : tables.sessionMailboxes.get? key = some mailbox) :
    mailbox.status = .idle ∧ ¬ mailbox.resolvedSequence < mailbox.acceptedSequence := by
  have idle := drained.idle
  have equal := inv.idle.mp idle
  simp only [Tables.mailbox, stored, Option.getD_some] at idle equal
  exact ⟨idle, Nat.not_lt.mpr equal.le⟩

variable {appId principalId : String} {session : SessionRow}

theorem Drained.unleased (drained : Drained tables key clock)
    (ensured : tables.ensureSession key appId principalId = (session, after))
    (later : clock ≤ now) : laterThan session.leaseExpiresAt now = false := by
  unfold Tables.ensureSession at ensured
  split at ensured
  case h_1 stored found =>
    cases ensured
    exact laterThan_mono later (drained.free _ found)
  case h_2 =>
    cases ensured
    rfl

theorem Constraints.ensureSession (valid : Constraints tables)
    (ensured : tables.ensureSession key appId principalId = (session, after)) :
    Constraints after ∧ ∃ sessions, after = { tables with sessions } := by
  unfold Tables.ensureSession at ensured
  split at ensured
  case h_1 =>
    cases ensured
    exact ⟨valid, _, rfl⟩
  case h_2 =>
    cases ensured
    exact ⟨valid.putSession _ _, _, rfl⟩

theorem acquire_of_next {library : Library} (workerId : String) (leaseFor : Time)
    {uuids : Nat → String} (valid : Constraints tables)
    (inv : MailboxInv acceptance.context.key tables)
    (parsed : library.parseUuid acceptance.inboundId = some inboundId)
    (drained : Drained tables acceptance.context.key clock)
    (next : Next tables acceptance.context.key inboundId row)
    (fresh : tables.sessionTurns.get? (acceptance.context.tenantId, uuids 0) = none)
    (monotone : Monotone clk) (started : clock ≤ clk 0) :
    (∃ lease after, tables.acquire library acceptance workerId leaseFor uuids clk =
        .ok (some lease, after) ∧ Constraints after ∧
        tables.earlierPending acceptance.context.key row.acceptedAt inboundId = false) ∨
      ∃ after, tables.acquire library acceptance workerId leaseFor uuids clk = .ok (none, after) ∧
        tables.earlierPending acceptance.context.key row.acceptedAt inboundId = true := by
  have later : ∀ index, clock ≤ clk index := fun index =>
    Int.le_trans started (monotone (Nat.zero_le index))
  fun_cases Tables.acquire library tables acceptance workerId leaseFor uuids clk with
  | case1 refused => cases refused.symm.trans parsed
  | case2 context key uuid _ occupied =>
    obtain ⟨mailbox, stored, busy⟩ := (Option.any_eq_true _ _).mp occupied
    obtain ⟨idle, resolved⟩ := drained.resolved inv stored
    simp [idle, resolved] at busy
  | case3 context key uuid named _ session middle ensured turn committed =>
    cases named.symm.trans parsed
    obtain ⟨_, sessions, rfl⟩ := valid.ensureSession ensured
    obtain ⟨entry, found, done⟩ := (Option.any_eq_true _ _).mp committed
    exact absurd ⟨entry, found, of_decide_eq_true done⟩ next.uncommitted
  | case4 context key uuid _ _ session middle ensured turn _ leased =>
    cases (drained.unleased ensured (later 2)).symm.trans leased.2
  | case5 context key uuid named _ session middle ensured turn _ _ absent =>
    cases named.symm.trans parsed
    obtain ⟨_, sessions, rfl⟩ := valid.ensureSession ensured
    cases absent.symm.trans next.accepted
  | case6 context key uuid named _ session middle ensured turn _ _ inbound stored pending =>
    cases named.symm.trans parsed
    obtain ⟨_, sessions, rfl⟩ := valid.ensureSession ensured
    cases stored.symm.trans next.accepted
    exact .inr ⟨_, rfl, pending⟩
  | case7 context key uuid named _ session middle ensured turn _ _ inbound
      stored _ epoch attempt leased error refused =>
      obtain ⟨_, sessions, rfl⟩ := valid.ensureSession ensured
      exact absurd refused (Tables.startTurn_ne_error fresh error)
  | case8 context key uuid named _ session middle ensured turn _ _ inbound
      stored free epoch attempt leased turnId last begun =>
      obtain ⟨validMiddle, sessions, rfl⟩ := valid.ensureSession ensured
      have validLeased : Constraints leased := validMiddle.putSession _ _
      have present : (leased.sessions.get? key).isSome := by
        unfold leased Tables.putSession
        rw [Dict.get?_set_self]
        rfl
      have accepted : leased.inboundMessages.get? (key.1, uuid) = some inbound := stored
      have validLast := validLeased.startTurn present (Option.isSome_of_eq_some accepted) begun
      have kept : last.inboundMessages.get? (key.1, uuid) = some inbound := by
        rw [Tables.startTurn_inboundMessages begun]
        exact accepted
      cases named.symm.trans parsed
      cases stored.symm.trans next.accepted
      exact .inl ⟨_, _, rfl, validLast.putInbound kept rfl rfl, Bool.not_eq_true _ ▸ free⟩

end Acquire

end Postgres

/-- After the second scheduler has drained a session, the first scheduler leases
the earliest message that is left exactly if every message before it was
committed, in either repository. -/
theorem drained_message_acquired_iff (library : Postgres.Library)
    (acceptance : Acceptance) (workerId : String) (leaseFor : Time)
    (uuids : Nat → String) (clk : Nat → Time) (monotone : Monotone clk) :
    (∀ (allowed : Memory.RepositoryConfig → Memory.Request → Prop)
        (config : Memory.RepositoryConfig) (order : Nat),
      Memory.memoryRepository.Reachable allowed config →
      Memory.Drained config.state acceptance.context.key config.clock →
      Memory.Next config.state acceptance order →
      config.clock ≤ clk 0 →
      ((∃ lease, (Memory.memoryRepository.apply
        ⟨.acquire acceptance workerId leaseFor, uuids⟩ clk config.state).1 =
          .ok (.acquired (some lease))) ↔
        ∀ item, Memory.Precedes config.state acceptance.context.key item order →
          Memory.Committed config.state item.context.tenantId item.inboundId)) ∧
    (∀ (config : Postgres.DatabaseConfig) (inboundId : String) (row : Postgres.InboundRow),
      (Postgres.repository library).Reachable Postgres.freshRequest config →
      library.parseUuid acceptance.inboundId = some inboundId →
      Postgres.Drained config.state.tables acceptance.context.key config.clock →
      Postgres.Next config.state.tables acceptance.context.key inboundId row →
      config.state.tables.sessionTurns.get? (acceptance.context.tenantId, uuids 0) = none →
      config.clock ≤ clk 0 →
      ((∃ lease, ((Postgres.repository library).apply
        ⟨.acquire acceptance workerId leaseFor, uuids⟩ clk config.state).1 =
          .ok (.acquired (some lease))) ↔
        ∀ entry, Postgres.Precedes config.state.tables acceptance.context.key
          entry row.acceptedAt inboundId →
          Postgres.Committed config.state.tables acceptance.context.tenantId entry.1.2)) := by
  refine ⟨fun allowed config order reachable drained next started => ?_,
    fun config inboundId row reachable parsed drained next fresh started => ?_⟩
  · rw [← Memory.earlierPending_eq_false_iff, ← Memory.acquire_of_next workerId leaseFor uuids
      (Memory.mailboxInv_reachable reachable) drained next monotone started]
    dsimp only [Memory.memoryRepository, Memory.Request.apply, Memory.answering]
    cases (config.state.acquire acceptance workerId leaseFor uuids clk).1 <;> simp [Except.map]
  · refine Iff.trans ?_ Postgres.earlierPending_eq_false_iff
    dsimp only [Postgres.repository, Postgres.Database.transact, Postgres.Request.body]
    obtain ⟨lease, after, acquired, valid, free⟩ | ⟨after, refused, pending⟩ :=
      Postgres.acquire_of_next workerId leaseFor config.state.valid
        (Postgres.mailboxInv_reachable reachable _) parsed drained next fresh monotone started
    · rw [acquired]
      dsimp only [Postgres.answering, Except.map]
      rw [dif_pos valid]
      exact iff_of_true ⟨lease, rfl⟩ free
    · rw [refused]
      dsimp only [Postgres.answering, Except.map]
      refine iff_of_false ?_ (by rw [pending]; decide)
      split <;> simp

namespace Memory

instance (repository : Repository) (tenantId inboundId : String) :
    Decidable (Failed repository tenantId inboundId) :=
  inferInstanceAs (Decidable (_ = _))

def laterEnvelope : InboundEnvelope := { homeEnvelope with externalMessageId := "second" }

def laterAcceptance : Acceptance :=
  { homeAcceptance with inboundId := "second", envelope := laterEnvelope }

def gaveUp : RepositoryConfig := memoryRepository.play
    [(Call.acceptInboundV2 homeContext homeEnvelope 0 none).naming "message",
      (Call.claimSessionReady ("tenant", "home") "worker" 60 none none none).naming "turn",
      (Call.failSessionReady (plainCommit "home" "turn").lease).naming "unused",
      (Call.acceptInbound homeContext laterEnvelope []).naming "second"]
    (memoryRepository.start 0)

theorem gaveUp_reachable : memoryRepository.Reachable Honest gaveUp :=
  (ClockedObject.reachable_start 0).play _ (by decide +kernel)

theorem Next.of_others {repository : Repository} {order : Nat}
    (accepted : repository.acceptanceSequence.get? acceptance.inboundId = some order)
    (uncommitted : (acceptance.context.tenantId, acceptance.inboundId) ∉
      repository.committedInbound)
    (unfailed : ¬ Failed repository acceptance.context.tenantId acceptance.inboundId)
    (others : ∀ item ∈ repository.acceptancesById.values, item.inboundId = acceptance.inboundId ∨
        (item.context.tenantId, item.inboundId) ∈ repository.committedInbound ∨
        Failed repository item.context.tenantId item.inboundId) :
    Next repository acceptance order where
  accepted := accepted
  uncommitted := uncommitted
  unfailed := unfailed
  earlier := by
    rintro item ⟨stored, _, earlier, sequenced, less⟩
    rcases others item stored with same | done
    · rw [same, accepted] at sequenced
      cases sequenced
      exact absurd less (Nat.lt_irrefl _)
    · exact done

theorem gaveUp_next : Next gaveUp.state laterAcceptance 2 :=
  .of_others (by decide +kernel) (by decide +kernel) (by decide +kernel) (by decide +kernel)

theorem Drained.of_free {repository : Repository}
    (idle : (repository.mailboxStore.slot key).mailbox.status = .idle)
    (free : repository.leases.get? key = none) : Drained repository key now :=
  ⟨idle, fun _ stored => nomatch free.symm.trans stored⟩

def vacant : Reply → Bool
  | .ok (.acquired none) => true
  | _ => false

theorem eq_of_vacant {reply : Reply} (answered : vacant reply = true) :
    reply = .ok (.acquired none) := by
  unfold vacant at answered
  split at answered
  · rfl
  · cases answered

theorem gaveUp_drained : Drained gaveUp.state laterAcceptance.context.key gaveUp.clock :=
  .of_free (by decide +kernel) (by decide +kernel)

def committedBefore : RepositoryConfig := memoryRepository.play
    [(Call.acceptInboundV2 homeContext homeEnvelope 0 none).naming "message",
      (Call.claimSessionReady ("tenant", "home") "worker" 60 none none none).naming "turn",
      (Call.commitSessionReady (plainCommit "home" "turn")).naming "outbox",
      (Call.acceptInbound homeContext laterEnvelope []).naming "second"]
    (memoryRepository.start 0)

theorem committedBefore_reachable : memoryRepository.Reachable Honest committedBefore :=
  (ClockedObject.reachable_start 0).play _ (by decide +kernel)

end Memory

namespace Postgres

instance (tables : Tables) (tenantId inboundId : String) :
    Decidable (Failed tables tenantId inboundId) :=
  decidable_of_iff (∃ row ∈ tables.inboundMessages.get? (tenantId, inboundId),
    row.status = .failed) Iff.rfl

instance (tables : Tables) (tenantId inboundId : String) :
    Decidable (Committed tables tenantId inboundId) :=
  decidable_of_iff (∃ entry ∈ tables.turnFor tenantId inboundId,
    entry.2.status = .committed) Iff.rfl

variable {tables : Tables} {row : InboundRow}

theorem Next.of_others (accepted : tables.inboundMessages.get? (key.1, inboundId) = some row)
    (uncommitted : ¬ Committed tables key.1 inboundId) (unfailed : ¬ Failed tables key.1 inboundId)
    (others : ∀ entry ∈ tables.inboundMessages.entries,
      entry.1.2 = inboundId ∨ Committed tables key.1 entry.1.2 ∨ Failed tables key.1 entry.1.2) :
    Next tables key inboundId row where
  accepted := accepted
  uncommitted := uncommitted
  unfailed := unfailed
  earlier := by
    rintro ⟨⟨tenantId, other⟩, stored⟩ ⟨listed, tenant, _, before⟩
    rcases others _ listed with same | done
    · cases same
      cases tenant
      have found := (Dict.mem_entries_iff _ _ _).mp listed
      cases found.symm.trans accepted
      rcases before with less | ⟨_, less⟩
      · exact absurd less (Int.lt_irrefl _)
      · exact absurd less (String.lt_irrefl _)
    · exact done

def onceLease : SessionLease := { firstLease with turnId := dashes 2 0 }

def nextEnvelope : InboundEnvelope := ⟨.feishu, "account", "next", "body"⟩

def gaveUp : DatabaseConfig := (repository plainLibrary).after
    ((repository plainLibrary).after leasedOnce
      ⟨.failSessionReady onceLease, dashes 3⟩ (fun _ => 3) 3)
    ⟨.acceptInbound firstContext nextEnvelope [], dashes 6⟩ (fun _ => 4) 4

theorem gaveUp_reachable : (repository plainLibrary).Reachable freshRequest gaveUp := by
  refine ClockedObject.Reachable.call ?_ (freshIds_dashes (by decide +kernel)) (by decide)
  exact leasedOnce_reachable.call (freshIds_dashes (by decide +kernel)) (by decide)

def nextAcceptance : Acceptance := ⟨dashes 6 0, firstContext, nextEnvelope, 4, false⟩

def nextRow : InboundRow where
  context := firstContext
  envelope := nextEnvelope
  acceptedAt := 4
  providerEventHash := some (plainLibrary.providerEventHash "tenant" "binding" .feishu "next")

def committedBefore : DatabaseConfig := (repository plainLibrary).after
    ((repository plainLibrary).after leasedOnce
      ⟨.commitSessionReady ⟨onceLease, "state", [], none⟩, dashes 3⟩
      (fun _ => 3) 3)
    ⟨.acceptInbound firstContext nextEnvelope [], dashes 6⟩ (fun _ => 4) 4

theorem committedBefore_reachable :
    (repository plainLibrary).Reachable freshRequest committedBefore := by
  refine ClockedObject.Reachable.call ?_ (freshIds_dashes (by decide +kernel)) (by decide)
  exact leasedOnce_reachable.call (freshIds_dashes (by decide +kernel)) (by decide)

theorem Drained.of_free (idle : (tables.mailbox key).status = .idle)
    (free : ((tables.sessions.get? key).bind SessionRow.leaseExpiresAt) = none) :
    Drained tables key now := by
  refine ⟨idle, fun session stored => ?_⟩
  rw [stored] at free
  rw [show session.leaseExpiresAt = none from free]
  rfl

def vacant : Reply → Bool
  | .ok (.acquired none) => true
  | _ => false

theorem eq_of_vacant {reply : Reply} (answered : vacant reply = true) :
    reply = .ok (.acquired none) := by
  unfold vacant at answered
  split at answered
  · rfl
  · cases answered

end Postgres

/-- A message that the second scheduler gave up keeps the next one from the
first scheduler. -/
theorem failed_message_blocks_takeover :
    (∃ config order, Memory.memoryRepository.Reachable Memory.Honest config ∧
      Memory.Drained config.state Memory.laterAcceptance.context.key config.clock ∧
      Memory.Next config.state Memory.laterAcceptance order ∧
      (Memory.memoryRepository.apply ⟨.acquire Memory.laterAcceptance "worker" 60, fun _ => "later"⟩
        (fun _ => config.clock) config.state).1 = .ok (.acquired none)) ∧
    (∃ config inboundId row, (Postgres.repository Postgres.plainLibrary).Reachable
        Postgres.freshRequest config ∧
      Postgres.plainLibrary.parseUuid Postgres.nextAcceptance.inboundId = some inboundId ∧
      Postgres.Drained config.state.tables Postgres.nextAcceptance.context.key config.clock ∧
      Postgres.Next config.state.tables Postgres.nextAcceptance.context.key inboundId row ∧
      ((Postgres.repository Postgres.plainLibrary).apply
        ⟨.acquire Postgres.nextAcceptance "worker" 60, Postgres.dashes 8⟩
        (fun _ => config.clock) config.state).1 = .ok (.acquired none)) := by
  refine ⟨⟨Memory.gaveUp, 2, Memory.gaveUp_reachable, Memory.gaveUp_drained,
    Memory.gaveUp_next, Memory.eq_of_vacant (by decide +kernel)⟩,
    Postgres.gaveUp, Postgres.dashes 6 0, Postgres.nextRow,
    Postgres.gaveUp_reachable, rfl, ?_, ?_, ?_⟩
  · exact .of_free (by decide +kernel) (by decide +kernel)
  · exact .of_others (by decide +kernel) (by decide +kernel) (by decide +kernel) (by decide +kernel)
  · exact Postgres.eq_of_vacant (by decide +kernel)

theorem committed_message_clears_takeover : (∃ lease, (Memory.memoryRepository.apply
      ⟨.acquire Memory.laterAcceptance "worker" 60, fun _ => "later"⟩
      (fun _ => 0) Memory.committedBefore.state).1 = .ok (.acquired (some lease))) ∧
    ∃ lease, ((Postgres.repository Postgres.plainLibrary).apply
      ⟨.acquire Postgres.nextAcceptance "worker" 60, Postgres.dashes 8⟩
      (fun _ => 4) Postgres.committedBefore.state).1 = .ok (.acquired (some lease)) := by
  constructor
  · refine ((drained_message_acquired_iff Postgres.plainLibrary
      Memory.laterAcceptance "worker" 60 (fun _ => "later") (fun _ => 0)
      fun _ _ _ => le_refl _).1 Memory.Honest _ 2
      Memory.committedBefore_reachable ?_ ?_ (by decide)).mpr ?_
    · exact .of_free (by decide +kernel) (by decide +kernel)
    · exact .of_others (by decide +kernel) (by decide +kernel)
        (by decide +kernel) (by decide +kernel)
    · exact Memory.earlierPending_eq_false_iff.mp (by decide +kernel)
  · refine ((drained_message_acquired_iff Postgres.plainLibrary
      Postgres.nextAcceptance "worker" 60 (Postgres.dashes 8) (fun _ => 4)
      fun _ _ _ => le_refl _).2 _ (Postgres.dashes 6 0) Postgres.nextRow
      Postgres.committedBefore_reachable rfl ?_ ?_ (by decide +kernel)
      (by decide)).mpr ?_
    · exact .of_free (by decide +kernel) (by decide +kernel)
    · exact .of_others (by decide +kernel) (by decide +kernel)
        (by decide +kernel) (by decide +kernel)
    · exact Postgres.earlierPending_eq_false_iff.mp (by decide +kernel)

end TrpcService.Storage
