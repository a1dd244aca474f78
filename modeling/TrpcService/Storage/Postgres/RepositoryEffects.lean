import TrpcService.Storage.Postgres.MailboxEffects

namespace TrpcService.Storage.Postgres

open Data

/-! The effect of the repository's transactions on the session they work on. -/

namespace Tables

variable {tables after : Tables} {key : SessionKey}
variable {mailbox : SessionMailbox} {context : TenantContext} {answer : Acceptance × Tables}

theorem quiet_redeliver {inboundKey : String × String} {row : InboundRow} {hash : String}
    (done : tables.redeliver inboundKey row context hash = .ok answer) : Quiet tables answer.2 := by
  rw [redeliver] at done
  split at done
  · cases done
    exact tables.quiet_putInbound _ _
  · cases done

variable {library : Library} {uuids : Nat → String} {clk : Nat → Time}

variable {envelope : InboundEnvelope} {traceHeaders : List (String × String)}

theorem quiet_acceptInbound
    (done : acceptInbound library tables context envelope traceHeaders uuids clk = .ok answer) :
    Quiet tables answer.2 := by
  revert done
  fun_cases acceptInbound library tables context envelope traceHeaders uuids clk with
  | case1 => exact quiet_redeliver
  | case4 _ _ _ _ inserted _ announced =>
    intro done
    cases done
    exact (tables.quiet_insertInbound inserted).trans (quiet_insertOutbox _ rfl announced)
  | _ => exact fun done => nomatch done

theorem effect_acceptInboundV2 {priority : Priority} {retryAt : Option Time}
    (inv : MailboxInv context.key tables) (fresh : FreshIds tables uuids)
    (done : acceptInboundV2 library tables context envelope traceHeaders
      priority retryAt uuids clk = .ok answer) :
    Effect context.key tables answer.2 none := by
  revert done
  fun_cases acceptInboundV2 library tables context envelope traceHeaders
    priority retryAt uuids clk with
  | case2 =>
    intro done
    exact .of_quiet (quiet_redeliver done)
  | case5 _ _ _ _ stored inserted mailbox ensured ensuredEq _ _ _ appended =>
    intro done
    cases done
    have received : Effect context.key tables stored none :=
      .of_quiet (tables.quiet_insertInbound inserted)
    obtain ⟨created, located, outbox⟩ := stored.effect_ensureMailbox context.key (clk 1)
    rw [ensuredEq] at created located outbox
    have prepared := received.comp created
    have unused : ensured.outboxEvents.get? (context.key.1, uuids 1) = none :=
      by rw [outbox, tables.outboxEvents_insertInbound inserted, fresh.unused]
    obtain rfl : mailbox = ensured.mailbox context.key := located.symm
    exact prepared.comp (effect_appendItem (inv.effect prepared) unused rfl appended)
  | _ => exact fun done => nomatch done

variable {uuid : String} {sequence : Nat}

theorem effect_resolveMailboxItem (inv : MailboxInv key tables)
    (unused : tables.outboxEvents.get? (key.1, uuid) = none)
    (head : sequence = (tables.mailbox key).resolvedSequence + 1)
    (pending : (tables.mailbox key).resolvedSequence < (tables.mailbox key).acceptedSequence)
    (serverNow : Time) (clk : Nat → Time) :
    Effect key tables (tables.resolveMailboxItem key (tables.mailbox key)
      sequence serverNow uuid clk).2 none := by
  have marked := tables.effect_resolveItem key sequence fun item => item.resolvedAt.getD (clk 1)
  refine effect_advanceFrom inv
    (marked.comp (effect_clearSession _ key _)) ?_ ?_ head pending _ _ _ _
  · rw [mailbox_clearSession, mailbox_resolveItem]
  · rw [outboxEvents_clearSession, outboxEvents_resolveItem, unused]

variable {session : SessionRow} {ownerId : String} {leaseFor : Time}

variable {acceptance : Option Acceptance}

variable {answer : SessionClaim × Tables}

theorem effect_leaseHead {item : ItemRow} {inbound : InboundRow}
    {turn : Option ((String × String) × TurnRow)}
    (inv : MailboxInv key tables) (stored : tables.sessions.get? key = some session)
    (head : sequence = (tables.mailbox key).resolvedSequence + 1)
    (present : tables.item? key sequence = some item)
    (done : tables.leaseHead key (tables.mailbox key) sequence item inbound
      session turn ownerId leaseFor acceptance uuids clk = .ok answer) :
    Effect key tables answer.2 (answer.1.executionLease.map SessionLease.pair) := by
  revert done
  fun_cases leaseHead tables key (tables.mailbox key) sequence item inbound
    session turn ownerId leaseFor acceptance uuids clk with
  | case1 => exact fun done => nomatch done
  | case2 epoch attempt turnId started startedEq granted counted _ claimed =>
    intro done
    cases done
    obtain ⟨quiet, _⟩ := tables.quiet_startTurn key startedEq
    have grant : LeaseStep key started granted (some (ownerId, epoch)) := by
      refine .grant ownerId epoch ?_ (leaseEpoch_putSession ..) (leaseOwner_putSession ..)
      rw [(quiet key).epoch, leaseEpoch_of_get? stored]
      exact Nat.lt_succ_of_le (Nat.le_max_right _ _)
    have leased : Effect key tables granted (some (ownerId, epoch)) :=
      (Effect.of_quiet quiet).comp (effect_putSession _ key _ grant)
    have attempted : Effect key granted counted none := granted.effect_putItem key
        (((quiet key).items sequence).trans present) _
    have located : counted.mailbox key = tables.mailbox key := (quiet key).mailbox
    have started : Effect key counted (counted.putMailbox key claimed) none := by
      refine effect_putMailbox ?_ ?_ (fun other => absurd rfl other)
        (.running rfl (congrArg some head) ?_)
      · rw [located]
      · rw [located]
      · exact inv.pending_of_item (head ▸ present)
    exact ((leased.followed attempted rfl).followed started rfl).quietly (quiet_putInbound _ _ _)

theorem effect_claimHead (inv : MailboxInv key tables) (fresh : FreshIds tables uuids)
    (valid : Constraints answer.2)
    (done : tables.claimHead key (tables.mailbox key) ownerId leaseFor
      acceptance uuids clk = .ok answer) :
    Effect key tables answer.2 (answer.1.executionLease.map SessionLease.pair) := by
  have active := inv.activeSequence_eq
  revert done
  fun_cases claimHead tables key (tables.mailbox key) ownerId leaseFor acceptance uuids clk with
  | case4 _ _ sequence _ item present later waiting =>
    intro done
    cases done
    have head : sequence = _ := active
    have checks := valid.checks (Dict.get?_set_self _ key waiting)
    exact effect_putMailbox rfl rfl (fun other => (checks.unleased other).1)
      (.waiting rfl (laterThan_isSome later) (inv.pending_of_item (head ▸ present)))
  | case6 _ _ sequence _ item present _ _ _ _ _ _ resolved =>
    intro done
    cases done
    have head : sequence = _ := active
    have effect := effect_resolveMailboxItem inv (fresh.unused key.1 0) head
      (inv.pending_of_item (head ▸ present)) (clk 1) (readsAfter clk 1)
    rw [resolved] at effect
    exact effect
  | case7 _ _ _ _ _ _ _ inbound _ _ _ _ ensuredEq _ =>
    intro done
    cases done
    have effect := (tables.effect_ensureSession key inbound.context.appId
      inbound.context.principalId).1
    rw [ensuredEq] at effect
    exact effect
  | case8 _ _ sequence _ item present _ inbound _ _ _ _ base ensuredEq _ _ _ _ resolved =>
    intro done
    cases done
    have head : sequence = _ := active
    obtain ⟨created, _, outbox⟩ := tables.effect_ensureSession key
      inbound.context.appId inbound.context.principalId
    have located := tables.mailbox_ensureSession key key
      inbound.context.appId inbound.context.principalId
    rw [ensuredEq] at created outbox located
    have pending := inv.pending_of_item (head ▸ present)
    rw [← located] at head pending resolved
    have unused : base.outboxEvents.get? (key.1, uuids 0) = none := by
      rw [outbox, fresh.unused]
    have effect := effect_resolveMailboxItem (inv.effect created) unused head
      pending (clk 1) (readsAfter clk 1)
    rw [resolved] at effect
    exact created.comp effect
  | case9 _ _ sequence _ item present _ inbound _ _ _ _ base ensuredEq =>
    intro done
    have head : sequence = _ := active
    obtain ⟨created, stored, _⟩ := tables.effect_ensureSession key
      inbound.context.appId inbound.context.principalId
    have located := tables.mailbox_ensureSession key key
      inbound.context.appId inbound.context.principalId
    have items := tables.item?_ensureSession key key
      inbound.context.appId inbound.context.principalId sequence
    rw [ensuredEq] at created stored located items
    rw [← located] at head done
    exact created.comp (effect_leaseHead (inv.effect created) stored head
      (items.trans present) done)
  | _ =>
    intro done
    cases done
    exact .refl

theorem effect_claimSessionReady {expectedGeneration : Option Int} {expectedEventId : Option String}
    (inv : MailboxInv key tables) (fresh : FreshIds tables uuids)
    (valid : Constraints answer.2)
    (done : claimSessionReady library tables key ownerId leaseFor
      expectedGeneration expectedEventId acceptance uuids clk = .ok answer) :
    Effect key tables answer.2 (answer.1.executionLease.map SessionLease.pair) := by
  revert done
  fun_cases claimSessionReady library tables key ownerId leaseFor
    expectedGeneration expectedEventId acceptance uuids clk with
  | case1 => exact fun done => nomatch done
  | case6 _ _ _ _ _ mailbox stored _ =>
    obtain rfl := mailbox_of_get? stored
    exact effect_claimHead inv fresh valid
  | _ =>
    intro done
    cases done
    exact .refl

variable {lease : SessionLease}

theorem effect_renewSessionReady {answer : SessionLease × Tables}
    (inv : MailboxInv lease.key tables)
    (done : renewSessionReady library tables lease leaseFor clk = .ok answer) :
    Effect lease.key tables answer.2 none := by
  revert done
  fun_cases renewSessionReady library tables lease leaseFor clk with
  | case5 _ _ _ mailbox stored owned _ extended session held =>
    intro done
    cases done
    obtain rfl := mailbox_of_get? stored
    exact (effect_extend inv owned.1).comp
      (extended.effect_rewriteSession lease.key held rfl (.inl rfl))
  | _ => exact fun done => nomatch done

variable {now : Time}

theorem validV2Mailbox_running (valid : validV2Mailbox mailbox lease now = true) :
    mailbox.status = .running ∧ mailbox.processingSequence.isSome := by
  simp only [validV2Mailbox, Bool.and_eq_true, decide_eq_true_eq] at valid
  exact valid.1.1.1.1

structure Fenced (tables : Tables) (lease : SessionLease)
    (rows : FencedRows) (mailboxNow sessionNow : Time) : Prop where
  mailbox : tables.sessionMailboxes.get? lease.key = some rows.mailbox
  running : validV2Mailbox rows.mailbox lease mailboxNow = true
  sequence : rows.mailbox.processingSequence = some rows.sequence
  session : tables.sessions.get? lease.key = some rows.session
  owned : ownsSession rows.session lease sessionNow = true
  item : tables.item? lease.key rows.sequence = some rows.item

variable {message : String} {rows : FencedRows} {mailboxNow sessionNow : Time}

theorem fencedRows_ok
    (passed : fencedRows library tables lease message mailboxNow sessionNow = .ok rows) :
    Fenced tables lease rows mailboxNow sessionNow := by
  revert passed
  fun_cases fencedRows library tables lease message mailboxNow sessionNow with
  | case3 mailbox stored valid _ _ _ _ sequence session _ _ _ _ item _ held fence =>
    intro passed
    cases passed
    simp only [Bool.not_eq_true, Bool.not_eq_false'] at valid
    simp only [Bool.and_eq_true] at fence
    refine ⟨stored, valid, ?_, held, fence.1.1.1, item⟩
    obtain ⟨position, processing⟩ := Option.isSome_iff_exists.mp (validV2Mailbox_running valid).2
    rw [processing]
    simp [sequence, processing]
  | _ => exact fun passed => nomatch passed

theorem Fenced.head (fenced : Fenced tables lease rows mailboxNow sessionNow)
    (inv : MailboxInv lease.key tables) :
    tables.mailbox lease.key = rows.mailbox ∧
      rows.sequence = (tables.mailbox lease.key).resolvedSequence + 1 ∧
      (tables.mailbox lease.key).resolvedSequence <
        (tables.mailbox lease.key).acceptedSequence := by
  have located := mailbox_of_get? fenced.mailbox
  have running : (tables.mailbox lease.key).status = .running :=
    located ▸ (validV2Mailbox_running fenced.running).1
  refine ⟨located, ?_, inv.pending_of_busy (by simp [running])⟩
  have processing := inv.running running
  rw [located, fenced.sequence, Option.some.injEq] at processing
  rw [located, processing]

variable {turnId : String} {leaseNow : Time} {commit : TurnCommit}

theorem recordTurn_ok {answer : Nat × Tables}
    (done : tables.recordTurn commit session turnId uuid message now leaseNow = .ok answer) :
    ∃ base, Quiet tables base ∧ (∀ id, id ≠ (commit.lease.tenantId, uuid) →
        base.outboxEvents.get? id = tables.outboxEvents.get? id) ∧
      answer.2 = base.putSession commit.lease.key { session.unleased with
        state := commit.state, version := session.version + 1,
        nextSequence := answer.1 } := by
  revert done
  fun_cases recordTurn tables commit session turnId uuid message now leaseNow with
  | case3 _ sequence logged loggedEq base sentEq _ =>
    intro done
    cases done
    obtain ⟨quietEvents, outbox⟩ := tables.quiet_insertEvents _ loggedEq
    obtain ⟨quietReply, others⟩ := logged.quiet_insertOutbound _ sentEq
    refine ⟨base, quietEvents.trans quietReply, fun id apart => ?_, rfl⟩
    rw [others id apart, outbox]
  | _ => exact fun done => nomatch done

theorem effect_recordTurn {answer : Nat × Tables}
    (stored : tables.sessions.get? commit.lease.key = some session)
    (done : tables.recordTurn commit session turnId uuid message now leaseNow = .ok answer) :
    Effect commit.lease.key tables answer.2 none ∧
      answer.2.mailbox commit.lease.key = tables.mailbox commit.lease.key ∧
      ∀ id, id ≠ (commit.lease.tenantId, uuid) →
        answer.2.outboxEvents.get? id = tables.outboxEvents.get? id := by
  obtain ⟨base, quiet, outbox, written⟩ := recordTurn_ok done
  rw [written]
  refine ⟨(Effect.of_quiet quiet).comp (base.effect_rewriteSession _
    ((quiet _).session.trans stored) rfl (.inr rfl)), (quiet _).mailbox, outbox⟩

theorem commitReadyFence_ok (passed : commitReadyFence library tables lease clk = .ok rows) :
    Fenced tables lease rows (clk 1) (clk 2) := by
  revert passed
  fun_cases commitReadyFence library tables lease clk with
  | case2 rows fenced _ =>
    intro passed
    cases passed
    exact fencedRows_ok fenced
  | _ => exact fun passed => nomatch passed

theorem effect_commitSessionReady {answer : CommitResult × Tables}
    (inv : MailboxInv commit.lease.key tables) (fresh : FreshIds tables uuids)
    (done : commitSessionReady library tables commit uuids clk = .ok answer) :
    Effect commit.lease.key tables answer.2 none := by
  revert done
  fun_cases commitSessionReady library tables commit uuids clk with
  | case4 _ rows passed _ recorded recordedEq _ written resolved _ _ advanced
      advancedEq _ announced =>
      intro done
      cases done
      have fenced := commitReadyFence_ok passed
      obtain ⟨located, head, pending⟩ := fenced.head inv
      obtain ⟨turn, mailbox, outbox⟩ := effect_recordTurn fenced.session recordedEq
      have quiet : Quiet recorded written := fun _ => ⟨rfl, fun _ => rfl, fun _ => rfl, rfl⟩
      have marked : Effect commit.lease.key tables resolved none :=
        (turn.quietly quiet).comp (written.effect_resolveItem ..)
      have unused : resolved.outboxEvents.get? (commit.lease.key.1, uuids 1) = none := by
        rw [outboxEvents_resolveItem]
        refine (outbox _ fun same => ?_).trans (fresh.unused _ 1)
        exact absurd (fresh.distinct (congrArg Prod.snd same)) (by decide)
      have effect := effect_advanceFrom inv marked ((mailbox_resolveItem ..).trans mailbox) unused
        head pending (clk 0) (clk 5) (clk 7) (clk 8)
      rw [located, advancedEq] at effect
      exact effect.quietly (quiet_insertOutbox _ rfl announced)
  | _ => exact fun done => nomatch done

variable {answer : Unit × Tables}

theorem effect_retrySessionReady {delay : Time} (inv : MailboxInv lease.key tables)
    (done : retrySessionReady library tables lease delay clk = .ok answer) :
    Effect lease.key tables answer.2 none := by
  revert done
  fun_cases retrySessionReady library tables lease delay clk with
  | case3 _ rows passed _ received counted waiting =>
    intro done
    cases done
    have fenced := fencedRows_ok passed
    obtain ⟨located, head, pending⟩ := fenced.head inv
    have quiet : Quiet tables received := fun _ => ⟨rfl, fun _ => rfl, fun _ => rfl, rfl⟩
    have delayed : Effect lease.key received counted none :=
      received.effect_putItem lease.key fenced.item _
    rw [located] at pending
    replace located : counted.mailbox lease.key = rows.mailbox := located
    have posted : Effect lease.key counted waiting none := effect_putMailbox (by rw [located]; rfl)
      (by rw [located]; rfl) (fun _ => rfl) (.waiting rfl rfl pending)
    exact (((Effect.of_quiet quiet).comp delayed).comp posted).comp (waiting.effect_clearSession ..)
  | _ => exact fun done => nomatch done

theorem effect_failSessionReady (inv : MailboxInv lease.key tables) (fresh : FreshIds tables uuids)
    (done : failSessionReady library tables lease uuids clk = .ok answer) :
    Effect lease.key tables answer.2 none := by
  revert done
  fun_cases failSessionReady library tables lease uuids clk with
  | case2 rows passed _ received resolved _ advanced advancedEq =>
    intro done
    cases done
    obtain ⟨located, head, pending⟩ := (fencedRows_ok passed).head inv
    have quiet : Quiet tables received := fun _ => ⟨rfl, fun _ => rfl, fun _ => rfl, rfl⟩
    have marked : Effect lease.key tables resolved none :=
      (Effect.of_quiet quiet).comp (received.effect_resolveItem ..)
    have unused : resolved.outboxEvents.get? (lease.key.1, uuids 0) = none :=
      by rw [outboxEvents_resolveItem]; exact fresh.unused _ 0
    have effect := effect_advanceFrom inv marked (mailbox_resolveItem ..)
      unused head pending (clk 0) (clk 1) (clk 3) (clk 4)
    rw [located, advancedEq] at effect
    exact effect.comp (effect_clearSession ..)
  | _ => exact fun done => nomatch done

theorem effect_acquire {acceptance : Acceptance} {workerId : String}
    {answer : Option SessionLease × Tables}
    (done : acquire library tables acceptance workerId leaseFor uuids clk = .ok answer) :
    Effect acceptance.context.key tables answer.2 (answer.1.map SessionLease.pair) := by
  revert done
  obtain ⟨created, stored, _⟩ := tables.effect_ensureSession acceptance.context.key
    acceptance.context.appId acceptance.context.principalId
  fun_cases acquire library tables acceptance workerId leaseFor uuids clk with
  | case2 =>
    intro done
    cases done
    exact .refl
  | case3 _ _ _ _ _ _ _ ensuredEq | case4 _ _ _ _ _ _ _ ensuredEq
  | case6 _ _ _ _ _ _ _ ensuredEq =>
    intro done
    cases done
    rw [ensuredEq] at created
    exact created
  | case8 context key _ _ _ session ensured ensuredEq _ _ _ _ _ _ epoch _
      granted _ started startedEq =>
      intro done
      cases done
      rw [ensuredEq] at created stored
      have grant : LeaseStep key ensured granted (some (workerId, epoch)) := by
        refine .grant workerId epoch ?_ (leaseEpoch_putSession ..) (leaseOwner_putSession ..)
        rw [leaseEpoch_of_get? stored]
        exact Nat.lt_succ_self _
      exact ((created.comp (ensured.effect_putSession key _ grant)).quietly
        (granted.quiet_startTurn key startedEq).1).quietly (quiet_putInbound _ _ _)
  | _ => exact fun done => nomatch done

theorem effect_renew {answer : SessionLease × Tables}
    (done : tables.renew lease leaseFor clk = .ok answer) :
    Effect lease.key tables answer.2 none := by
  revert done
  fun_cases renew tables lease leaseFor clk with
  | case2 session stored _ _ =>
    intro done
    cases done
    exact tables.effect_rewriteSession lease.key stored rfl (.inl rfl)
  | _ => exact fun done => nomatch done

theorem commitFence_ok {rows : SessionRow × String × TurnRow}
    (passed : commitFence library tables lease clk = .ok rows) :
    tables.sessions.get? lease.key = some rows.1 ∧ ownsSession rows.1 lease (clk 1) = true := by
  revert passed
  fun_cases commitFence library tables lease clk with
  | case2 _ _ session turn _ stored fence =>
    intro passed
    cases passed
    simp only [Bool.and_eq_true] at fence
    exact ⟨stored, fence.1.1⟩
  | _ => exact fun passed => nomatch passed

theorem effect_commit {answer : CommitResult × Tables}
    (done : Tables.commit library tables commit uuids clk = .ok answer) :
    Effect commit.lease.key tables answer.2 none := by
  revert done
  fun_cases Tables.commit library tables commit uuids clk with
  | case5 _ session _ _ passed _ recorded recordedEq _ _ _ received _ announced =>
    intro done
    cases done
    have turn := (effect_recordTurn (commitFence_ok passed).1 recordedEq).1
    have quiet : Quiet recorded received := by
      intro key
      dsimp only [received]
      split <;> exact ⟨rfl, fun _ => rfl, fun _ => rfl, rfl⟩
    exact (turn.quietly quiet).quietly (quiet_insertOutbox _ rfl announced)
  | _ => exact fun done => nomatch done

theorem effect_fail (done : Tables.fail library tables lease = .ok answer) :
    Effect lease.key tables answer.2 none := by
  revert done
  fun_cases Tables.fail library tables lease with
  | case1 _ _ _ _ failed received =>
    intro done
    cases done
    have quietTurn : Quiet tables failed := by
      intro key
      dsimp only [failed]
      split
      · split <;> exact ⟨rfl, fun _ => rfl, fun _ => rfl, rfl⟩
      · exact .refl
    have quietInbound : Quiet failed received := by
      intro key
      dsimp only [received]
      split
      · split <;> exact ⟨rfl, fun _ => rfl, fun _ => rfl, rfl⟩
      · exact .refl
    exact (Effect.of_quiet (quietTurn.trans quietInbound)).comp
      (received.effect_clearSession lease.key _)
  | case2 =>
        intro done
        cases done

end Tables

end TrpcService.Storage.Postgres
