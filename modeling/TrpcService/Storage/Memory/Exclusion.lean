import TrpcService.Storage.Memory.CommitOnce

namespace TrpcService.Storage.Memory

open Data ClockedObject Repository Request

/-! Both schedulers keep their leases in one table but number them from
counters of their own: v1 from the lease it replaces, v2 from the epoch of the
mailbox. -/

inductive Scheduler where
  | v1
  | v2
  deriving DecidableEq

def Call.scheduler : Call → Scheduler
  | .acquire _ _ _ => .v1
  | _ => .v2

/-- The session that the call asks for a lease on. -/
def Call.leaseKey : Call → Option SessionKey
  | .acquire acceptance _ _ => some acceptance.context.key
  | .claimSessionReady key _ _ _ _ _ => some key
  | _ => none

def Deed.granted : Deed → List SessionLease
  | .grant lease => [lease]
  | _ => []

def issued (history : RepositoryHistory) : List (Scheduler × SessionLease) :=
  history.flatMap fun event => (deedOf event.call.call event.reply).granted.map fun lease =>
      (event.call.call.scheduler, lease)

@[simp] theorem issued_append (history : RepositoryHistory) (event : Event Request Reply) :
    issued (history ++ [event]) = issued history ++
      (deedOf event.call.call event.reply).granted.map fun lease =>
        (event.call.call.scheduler, lease) := by
  simp [issued]

/-- How a scheduler numbers a new lease, and what it does to the mailbox. -/
inductive Issue (before after : Repository) (lease : SessionLease) : Scheduler → Prop
  | v1 (token : lease.fencingToken = ((before.leases.get? lease.key).map
        SessionLease.fencingToken).getD 0 + 1)
      (drained : (before.mailboxStore.slot lease.key).pending = [])
      (kept : after.mailboxStore = before.mailboxStore) :
      Issue before after lease .v1
  | v2 (token : lease.fencingToken = (before.mailboxStore.slot lease.key).mailbox.leaseEpoch + 1)
      (epoch : (after.mailboxStore.slot lease.key).mailbox.leaseEpoch = lease.fencingToken)
      (head : lease.inboundId ∈ (before.mailboxStore.slot lease.key).pending) :
      Issue before after lease .v2

variable {request : Request} {key : SessionKey}

section Issues

variable {clock : Time} {repository : Repository} {clk : Nat → Time} {lease : SessionLease}

variable {leaseFor : Time} {uuids : Nat → String}

theorem issue_acquire {acceptance : Acceptance} {workerId : String}
    (inv : repository.mailboxStore.Inv True clock)
    (granted : (repository.acquire acceptance workerId leaseFor uuids clk).1 = .ok (some lease)) :
    acceptance.context.key = lease.key ∧
      Issue repository (repository.acquire acceptance workerId leaseFor uuids clk).2 lease .v1 := by
  revert granted
  fun_cases acquire repository acceptance workerId leaseFor uuids clk with
  | case7 context key mailbox uncommitted idle _ order _ _ current _ snapshot
      middle ensured again fresh =>
      intro granted
      have same : fresh = lease := Option.some.inj (Except.ok.inj granted)
      subst same
      obtain ⟨sessions, rfl, begins⟩ := ensureSession_begins ensured
      refine ⟨rfl, .v1 rfl ((inv key).numbered.pending_of_drained ?_) rfl⟩
      unfold MailboxStore.slot
      dsimp only
      cases stored : repository.mailboxStore.mailboxes.get? key with
      | none => exact Nat.le_refl 0
      | some found =>
        have settled : ¬ Option.any (fun mailbox : SessionMailbox =>
          decide (mailbox.resolvedSequence < mailbox.acceptedSequence))
            (repository.mailboxStore.mailboxes.get? key) = true := idle
        rw [stored, Option.any_some, decide_eq_true_eq] at settled
        exact Nat.le_of_not_lt settled
  | _ =>
    intro granted
    cases granted

variable {ownerId : String} {store : MailboxStore} {claim : SessionClaim} {held : MailboxLease}

theorem issue_startTurn {answer : SessionClaim} (unstarted : claim.executionLease = none)
    (started : ({ repository with mailboxStore := store }.startTurn key ownerId
      claim held uuids clk).1 = .ok answer)
    (granted : answer.executionLease = some lease) :
    lease.key = key ∧ lease.inboundId = held.inboundId ∧ lease.fencingToken = held.epoch ∧
      ({ repository with mailboxStore := store }.startTurn key ownerId claim
        held uuids clk).2.mailboxStore = store := by
  revert started
  fun_cases startTurn { repository with mailboxStore := store } key
    ownerId claim held uuids clk with
  | case4 _ _ _ _ _ ensured turnId execution =>
    intro started
    cases started
    have same : execution = lease := Option.some.inj granted
    subst same
    obtain ⟨sessions, rfl, _⟩ := ensureSession_begins ensured
    exact ⟨rfl, rfl, rfl, rfl⟩
  | case2 => simp
  | case1 =>
    intro started
    cases started
    cases unstarted.symm.trans granted
  | case3 =>
    intro started
    cases started
    cases granted

variable {expectedGeneration : Option Int} {acceptance : Option Acceptance}

theorem claimSession_epoch (inv : store.Inv True clock) {now : Time} (later : clock ≤ now)
    {expectedEpoch : Option Int}
    (claimed : MailboxStore.sessionLease (store.claimSession key ownerId
      leaseFor expectedGeneration expectedEpoch acceptance now).1 = some held) :
    held.epoch = (store.slot key).mailbox.leaseEpoch + 1 ∧
      ((store.claimSession key ownerId leaseFor expectedGeneration
        expectedEpoch acceptance now).2.slot key).mailbox.leaseEpoch = held.epoch := by
  have transition := MailboxStore.claimSession_transition (inv key) later
    ownerId leaseFor expectedGeneration expectedEpoch acceptance
  rw [claimed] at transition
  rcases Slot.epoch_of_move transition.move with ⟨epoch, named, after, next⟩ | ⟨other, _⟩
  · cases named
    exact ⟨next, after⟩
  · exact absurd rfl (other held.epoch)

theorem issue_claimSessionReady {expectedEventId : Option String}
    (inv : repository.mailboxStore.Inv True clock) (later : clock ≤ clk 2)
    (answered : (repository.claimSessionReady key ownerId leaseFor
      expectedGeneration expectedEventId acceptance uuids clk).1 = .ok claim)
    (granted : claim.executionLease = some lease) :
    key = lease.key ∧ Issue repository (repository.claimSessionReady key ownerId leaseFor
      expectedGeneration expectedEventId acceptance uuids clk).2 lease .v2 := by
  have ungranted : ∀ {expected : Option Int} {middle : Repository},
      (repository.claimMailbox key ownerId leaseFor expected none acceptance
        fun _ => clk 2) = (.ok claim, middle) → False := by
    intro expected middle claimed
    cases (claimSession_executionLease (congrArg Prod.fst claimed)).symm.trans granted
  revert answered
  fun_cases claimSessionReady repository key ownerId leaseFor
    expectedGeneration expectedEventId acceptance uuids clk with
  | case3 => simp
  | case4 expected _ _ taken middle claimed =>
    intro answered
    cases answered
    exact (ungranted claimed).elim
  | case5 expected _ _ taken middle claimed held leased =>
    intro answered
    have unstarted := claimSession_executionLease (congrArg Prod.fst claimed)
    obtain ⟨answer, rfl, head, stored, named⟩ := claimMailbox_grants inv later claimed leased
    obtain ⟨next, epoch⟩ := claimSession_epoch inv later answer
    obtain ⟨rfl, inbound, token, kept⟩ := issue_startTurn unstarted answered granted
    refine ⟨rfl, .v2 (token.trans next) ?_ ?_⟩
    · rw [kept, epoch, token]
    · rw [inbound, ← named]
      exact (inv lease.key).numbered.head_pending stored
  | case6 expected _ _ taken middle claimed =>
    intro answered
    cases answered
    exact (ungranted claimed).elim
  | _ =>
    intro answered
    cases answered
    cases granted

theorem answering_eq_ok {α : Type} {answer : α → Answer} {outcome : Outcome α}
    {given : Answer} (answered : (answering answer outcome).1 = .ok given) :
    ∃ value, outcome.1 = .ok value ∧ answer value = given := by
  obtain ⟨_ | value, after⟩ := outcome
  · exact nomatch answered
  · exact ⟨value, rfl, Except.ok.inj answered⟩

theorem Deed.ofGrant_eq_grant {granted : Option SessionLease} :
    Deed.ofGrant granted = .grant lease → granted = some lease := by
  cases granted with
  | none => exact nofun
  | some other =>
    intro same
    cases same
    rfl

theorem Request.issue (inv : repository.mailboxStore.Inv True clock)
    (monotone : Monotone clk) (started : clock ≤ clk 0)
    (granted : deedOf request.call (request.apply clk repository).1 = .grant lease) :
    request.call.leaseKey = some lease.key ∧
      Issue repository (request.apply clk repository).2 lease request.call.scheduler := by
  have later : clock ≤ clk 2 := Int.le_trans started (monotone (by decide))
  obtain ⟨call, uuids⟩ := request
  revert granted
  generalize answered : (Request.apply ⟨call, uuids⟩ clk repository).1 = reply
  fun_cases deedOf call reply with
  | case1 key ownerId leaseFor expectedGeneration expectedEventId acceptance claim =>
    intro granted
    obtain ⟨_, claimed, same⟩ := answering_eq_ok answered
    cases same
    exact (issue_claimSessionReady inv later claimed (Deed.ofGrant_eq_grant granted)).imp_left
      (congrArg some)
  | case2 acceptance workerId leaseFor taken =>
    intro granted
    obtain ⟨_, acquired, same⟩ := answering_eq_ok answered
    cases same
    rw [Deed.ofGrant_eq_grant granted] at acquired
    exact (issue_acquire inv acquired).imp_left (congrArg some)
  | _ => simp

end Issues

/-- An entry of the lease table goes back to a lease that was issued, and no
lease of its turn was issued with a higher token. -/
def Backed (entries : List (Scheduler × SessionLease)) (key : SessionKey)
    (lease : SessionLease) : Prop :=
  (∃ entry ∈ entries, entry.2.key = key ∧ entry.2.inboundId = lease.inboundId ∧
    entry.2.fencingToken = lease.fencingToken) ∧
  ∀ entry ∈ entries, entry.2.key = key → entry.2.turnId = lease.turnId →
    entry.2.fencingToken ≤ lease.fencingToken

structure Fenced (repository : Repository) (entries : List (Scheduler × SessionLease)) : Prop where
  backed : ∀ key lease, repository.leases.get? key = some lease → Backed entries key lease
  ordered : entries.Pairwise fun entry later => entry.2.key = later.2.key →
    entry.2.turnId = later.2.turnId →
    entry.2.fencingToken < later.2.fencingToken
  epochs : ∀ lease, (.v2, lease) ∈ entries → lease.fencingToken ≤
    (repository.mailboxStore.slot lease.key).mailbox.leaseEpoch
  resolved : ∀ lease, (.v1, lease) ∈ entries → lease.inboundId ∉
    (repository.mailboxStore.slot lease.key).pending

namespace Fenced

variable {request : Request} {clock finish : Time} {before after : Repository} {deed : Deed}
  {entries : List (Scheduler × SessionLease)} {lease : SessionLease} {scheduler : Scheduler}

theorem initial : Fenced .initial [] := ⟨nofun, .nil, nofun, nofun⟩

variable (fenced : Fenced before entries)

include fenced

theorem token_lt (issue : Issue before after lease scheduler)
    {uuid : String} (turn : lease.turnId = before.turnFor lease.key lease.inboundId uuid)
    (fresh : ∀ entry ∈ entries, entry.2.turnId ≠ uuid) :
    ∀ entry ∈ entries, entry.2.key = lease.key → entry.2.turnId = lease.turnId →
      entry.2.fencingToken < lease.fencingToken := by
  intro entry member keyed same
  rw [turn] at same
  unfold turnFor at same
  split at same
  case h_2 => exact absurd same (fresh entry member)
  case h_1 previous stored =>
    split at same
    case isFalse => exact absurd same (fresh entry member)
    case isTrue continued =>
      obtain ⟨⟨source, issued, own, inbound, token⟩, highest⟩ :=
        fenced.backed lease.key previous stored
      have bound := highest entry member keyed same
      cases issue with
      | v1 next =>
        rw [stored] at next
        exact next ▸ Nat.lt_succ_of_le bound
      | v2 next _ head =>
        obtain ⟨origin, source⟩ := source
        -- The stored lease is of the same message, which still waits in the
        -- mailbox: so it cannot be a lease of the first scheduler.
        cases origin with
        | v1 =>
          have settled := fenced.resolved source issued
          rw [own, inbound, continued] at settled
          exact absurd head settled
        | v2 =>
          have epoch := fenced.epochs source issued
          rw [own, token] at epoch
          rw [next]
          exact Nat.lt_succ_of_le (bound.trans epoch)

theorem mono_mailbox (inv : before.mailboxStore.Inv True clock)
    (effect : Effect request clock finish before after deed)
    (unleased : ∀ key inboundId, request.Arrives key inboundId →
      ∀ lease, (.v1, lease) ∈ entries → lease.key = key → lease.inboundId ≠ inboundId) :
    (∀ lease, (.v2, lease) ∈ entries → lease.fencingToken ≤
      (after.mailboxStore.slot lease.key).mailbox.leaseEpoch) ∧
    (∀ lease, (.v1, lease) ∈ entries → lease.inboundId ∉
      (after.mailboxStore.slot lease.key).pending) := by
  refine ⟨fun lease member => ?_, fun lease member waits => ?_⟩
  · exact (fenced.epochs lease member).trans (effect.mailbox.epoch_le lease.key)
  · rcases effect.mailbox.traced inv Slot.mem_pending_of_move waits with old | ⟨label, allowed, new⟩
    · exact fenced.resolved lease member old
    · exact unleased _ _ (allowed _ new) lease member rfl rfl

theorem backed_quiet (act : Act request before after deed)
    (quiet : ∀ lease, deed ≠ .grant lease) (key : SessionKey) (lease : SessionLease)
    (stored : after.leases.get? key = some lease) : Backed entries key lease := by
  have erased : ∀ {other : SessionKey},
      after.leases = before.leases.erase other → Backed entries key lease := by
    intro other leases
    rw [leases, Dict.get?_erase] at stored
    split at stored
    · cases stored
    · exact fenced.backed key lease stored
  cases act with
  | still same =>
    rw [same.leases] at stored
    exact fenced.backed key lease stored
  | accept _ _ _ _ _ leases =>
    rw [leases] at stored
    exact fenced.backed key lease stored
  | release _ _ _ leases => exact erased leases
  | extend other current expiresAt held _ _ leases =>
    rw [leases, Dict.get?_set] at stored
    split at stored
    case isTrue same =>
      cases stored
      subst same
      exact fenced.backed _ current held
    case isFalse => exact fenced.backed key lease stored
  | grant granted => exact absurd rfl (quiet granted)
  | commit _ _ _ _ _ _ leases => exact erased leases

theorem grant (higher : ∀ entry ∈ entries, entry.2.key = lease.key → entry.2.turnId = lease.turnId →
      entry.2.fencingToken < lease.fencingToken)
    (issue : Issue before after lease scheduler)
    (leases : after.leases = before.leases.set lease.key lease)
    (epochs : ∀ lease, (.v2, lease) ∈ entries → lease.fencingToken ≤
      (after.mailboxStore.slot lease.key).mailbox.leaseEpoch)
    (resolved : ∀ lease, (.v1, lease) ∈ entries → lease.inboundId ∉
      (after.mailboxStore.slot lease.key).pending) :
    Fenced after (entries ++ [(scheduler, lease)]) where
  backed := by
    intro key stored found
    rw [leases, Dict.get?_set] at found
    split at found
    case isTrue same =>
      cases found
      subst same
      refine ⟨⟨(scheduler, lease), by simp, rfl, rfl, rfl⟩, ?_⟩
      intro entry member keyed turn
      rcases List.mem_append.mp member with old | new
      · exact (higher entry old keyed turn).le
      · rw [List.mem_singleton.mp new]
    case isFalse different =>
      obtain ⟨⟨source, issued, own⟩, highest⟩ := fenced.backed key stored found
      refine ⟨⟨source, List.mem_append_left _ issued, own⟩, ?_⟩
      intro entry member keyed turn
      rcases List.mem_append.mp member with old | new
      · exact highest entry old keyed turn
      · rw [List.mem_singleton.mp new] at keyed
        exact absurd keyed different
  ordered := by
    refine List.pairwise_append.mpr ⟨fenced.ordered, List.pairwise_singleton _ _, ?_⟩
    intro entry old later new
    rw [List.mem_singleton.mp new]
    exact higher entry old
  epochs := by
    intro other member
    rcases List.mem_append.mp member with old | new
    · exact epochs other old
    · cases List.mem_singleton.mp new
      cases issue with
      | v2 _ epoch => exact epoch.ge
  resolved := by
    intro other member
    rcases List.mem_append.mp member with old | new
    · exact resolved other old
    · cases List.mem_singleton.mp new
      cases issue with
      | v1 _ drained kept =>
        rw [kept, drained]
        exact List.not_mem_nil

theorem step (inv : before.mailboxStore.Inv True clock)
    (effect : Effect request clock finish before after deed)
    (issue : ∀ lease, deed = .grant lease → Issue before after lease scheduler)
    (fresh : ∀ entry ∈ entries, entry.2.turnId ≠ request.uuids 0)
    (unleased : ∀ key inboundId, request.Arrives key inboundId →
      ∀ lease, (.v1, lease) ∈ entries → lease.key = key → lease.inboundId ≠ inboundId) :
    Fenced after (entries ++ deed.granted.map fun lease => (scheduler, lease)) := by
  obtain ⟨epochs, resolved⟩ := fenced.mono_mailbox inv effect unleased
  have quiet : (∀ lease, deed ≠ .grant lease) → Fenced after entries :=
    fun quiet => ⟨fenced.backed_quiet effect.act quiet, fenced.ordered, epochs, resolved⟩
  cases deed with
  | grant lease =>
    obtain ⟨⟩ | ⟨⟩ | ⟨⟩ | ⟨⟩ | ⟨_, _, _, turn, _, _, leases⟩ := effect.act
    have issued := issue lease rfl
    exact fenced.grant (fenced.token_lt issued turn fresh) issued leases epochs resolved
  | _ => simpa [Deed.granted] using quiet nofun

theorem exclusive : entries.Pairwise fun entry later => entry.2.key = later.2.key →
      ¬ (owns (before.leases.get? entry.2.key) entry.2 = true ∧
        owns (before.leases.get? later.2.key) later.2 = true) := by
  refine fenced.ordered.imp ?_
  rintro entry later ordered keyed ⟨owned, ownedLater⟩
  rw [keyed] at owned
  obtain ⟨stored, found, _, token, turn⟩ := owns_iff.mp owned
  obtain ⟨again, foundAgain, _, token', turn'⟩ := owns_iff.mp ownedLater
  cases found.symm.trans foundAgain
  have less := ordered keyed (turn.symm.trans turn')
  rw [← token, ← token'] at less
  exact less.false

end Fenced

variable {history : RepositoryHistory} {entry : Scheduler × SessionLease}

theorem mem_handedOut (member : entry ∈ issued history) : entry.2 ∈ handedOut history := by
  obtain ⟨event, called, granted⟩ := List.mem_flatMap.mp member
  obtain ⟨lease, own, rfl⟩ := List.mem_map.mp granted
  refine List.mem_flatMap.mpr ⟨event, called, ?_⟩
  revert own
  cases deedOf event.call.call event.reply with
  | grant => exact id
  | _ => exact fun none => nomatch none

/-- A message that the first scheduler has leased is not handed over to the
second one. -/
def Request.Separates (request : Request) (history : RepositoryHistory) : Prop :=
  match request.call with
  | .acceptMailbox key inboundId _ _ _ =>
      ∀ entry ∈ issued history, entry.1 = .v1 → entry.2.key = key → entry.2.inboundId ≠ inboundId
  | _ => True

/-- Messages stay with the scheduler that leases them, and the identifier that
names a message or a turn is fresh. -/
structure Separate (config : RepositoryConfig) (request : Request) : Prop where
  separates : request.Separates config.history
  turns : ∀ lease ∈ handedOut config.history, lease.turnId ≠ request.uuids 0
  messages : ∀ lease ∈ handedOut config.history, lease.inboundId ≠ request.uuids 0

def Call.handsOver (call : Call) (lease : SessionLease) : Bool :=
  match call with
  | .acceptMailbox key inboundId _ _ _ => lease.key = key ∧ lease.inboundId = inboundId
  | _ => false

theorem Request.separates_iff : (∀ entry ∈ issued history, entry.1 = .v1 →
      request.call.handsOver entry.2 = false) ↔ request.Separates history := by
  unfold Separates Call.handsOver
  split <;> simp

instance (request : Request) (history : RepositoryHistory) :
    Decidable (request.Separates history) :=
  decidable_of_iff _ separates_iff

instance (config : RepositoryConfig) (request : Request) : Decidable (Separate config request) :=
  decidable_of_iff (request.Separates config.history ∧ (∀ lease ∈ handedOut config.history,
        lease.turnId ≠ request.uuids 0) ∧
      ∀ lease ∈ handedOut config.history, lease.inboundId ≠ request.uuids 0)
    ⟨fun ⟨separates, turns, messages⟩ => ⟨separates, turns, messages⟩,
      fun separate => ⟨separate.separates, separate.turns, separate.messages⟩⟩

variable {config : RepositoryConfig}

theorem Separate.unleased (separate : Separate config request) {inboundId : String}
    (arrives : request.Arrives key inboundId) (lease : SessionLease)
    (leased : (.v1, lease) ∈ issued config.history) (keyed : lease.key = key) :
    lease.inboundId ≠ inboundId := by
  unfold Arrives at arrives
  split at arrives
  case h_1 =>
    obtain ⟨_, rfl⟩ := arrives
    exact separate.messages lease (mem_handedOut leased)
  case h_2 called =>
    obtain ⟨rfl, rfl⟩ := arrives
    have separates := separate.separates
    rw [Separates, called] at separates
    exact separates (.v1, lease) leased rfl keyed
  case h_3 => exact arrives.elim

theorem fenced_reachable (reachable : memoryRepository.Reachable Separate config) :
    Fenced config.state (issued config.history) := by
  refine (Reachable.invariant (fun config => Fenced config.state
    (issued config.history) ∧ config.state.mailboxStore.Inv True config.clock) ?_ ?_ reachable).1
  · exact fun clock => ⟨.initial, MailboxStore.inv_initial True clock⟩
  rintro config request reads finish ⟨fenced, inv⟩ separate monotone started bounded
  have effect := request.effect inv monotone started bounded
  refine ⟨?_, effect.mailbox.inv inv⟩
  simp only [after, issued_append]
  exact fenced.step inv effect (fun _ granted => (issue inv monotone started granted).2)
    (fun _ member => separate.turns _ (mem_handedOut member)) fun _ _ => separate.unleased

def Scheduler.commit : Scheduler → TurnCommit → Call
  | .v1 => .commit
  | .v2 => .commitSessionReady

variable (repository : Repository)

def Accepts (clk : Nat → Time) (entry : Scheduler × SessionLease) : Prop :=
  ∃ (turn : TurnCommit) (uuids : Nat → String), turn.lease = entry.2 ∧
    (Request.apply ⟨entry.1.commit turn, uuids⟩ clk repository).1.isOk = true

def Live (now : Time) (lease : SessionLease) : Prop :=
  owns (repository.leases.get? lease.key) lease = true ∧
    isLive (repository.leases.get? lease.key) now = true

theorem Accepts.owns {repository : Repository} {clk : Nat → Time}
    (accepts : Accepts repository clk entry) :
    owns (repository.leases.get? entry.2.key) entry.2 = true := by
  obtain ⟨scheduler, lease⟩ := entry
  obtain ⟨turn, uuids, rfl, accepted⟩ := accepts
  by_contra stale
  cases scheduler with
  | v1 =>
    simp [Request.apply, Scheduler.commit, answering, commit,
      stale, Except.map, Except.isOk, Except.toBool] at accepted
  | v2 =>
    simp [Request.apply, Scheduler.commit, answering,
      commitSessionReady, stale, Except.map, Except.isOk,
      Except.toBool] at accepted

/-- At most one of two leases of a session can be committed, and none while
the other one is live. -/
def Excludes (clk : Nat → Time) (entry other : Scheduler × SessionLease) : Prop :=
  entry.2.key = other.2.key → ¬ (Accepts repository clk entry ∧ Accepts repository clk other) ∧
    (∀ now, ¬ (Accepts repository clk entry ∧ Live repository now other.2)) ∧
    ∀ now, ¬ (Live repository now entry.2 ∧ Accepts repository clk other)

/-- In a run in which messages stay with their scheduler, at most one of the
leases that both schedulers ever issued for a session can be committed. -/
theorem one_committable_lease {config : RepositoryConfig}
    (reachable : memoryRepository.Reachable Separate config) (clk : Nat → Time) :
    (issued config.history).Pairwise (Excludes config.state clk) := by
  refine (fenced_reachable reachable).exclusive.imp ?_
  intro entry other exclusive keyed
  exact ⟨fun ⟨accepts, accepts'⟩ => exclusive keyed ⟨accepts.owns, accepts'.owns⟩,
    fun _ ⟨accepts, live⟩ => exclusive keyed ⟨accepts.owns, live.1⟩,
    fun _ ⟨live, accepts⟩ => exclusive keyed ⟨live.1, accepts.owns⟩⟩

def separateSchedulers : List (Request × Time) :=
  [(Call.acceptInbound homeContext homeEnvelope []).naming "message",
    (Call.acquire homeAcceptance "worker" 60).naming "turn",
    (Call.acceptInboundV2 homeContext
      { homeEnvelope with externalMessageId := "second" } 0 none).naming
      "second",
    (⟨.claimSessionReady ("tenant", "home") "worker" 60 none none none, fun _ => "later"⟩, 60)]

theorem separate_leases_exclude :
    let config := memoryRepository.play separateSchedulers (memoryRepository.start 0)
    (issued config.history).map Prod.fst = [.v1, .v2] ∧ (issued config.history).Pairwise
        (Excludes config.state fun _ => 60) := by
  have reachable : memoryRepository.Reachable Separate
      (memoryRepository.play separateSchedulers (memoryRepository.start 0)) :=
    (reachable_start 0).play _ (by decide +kernel)
  exact ⟨by decide +kernel, one_committable_lease reachable _⟩

/-! A message that the first scheduler has leased in vain and that is then
enqueued is leased to the same turn, and both counters start at one. -/

def handedOver : List (Request × Time) :=
  [(Call.acceptInbound homeContext homeEnvelope []).naming "message",
    (Call.acquire homeAcceptance "worker" 60).naming "turn",
    (⟨.acceptMailbox ("tenant", "home") "message" 0 none none, fun _ => "wakeup"⟩, 60),
    (⟨.claimSessionReady ("tenant", "home") "worker" 60 none none none, fun _ => "unused"⟩, 60)]

theorem two_committable_leases : ∃ config, memoryRepository.Reachable Honest config ∧
      ∃ first second, issued config.history =
          [(.v1, first), (.v2, second)] ∧
        first.key = second.key ∧ first ≠ second ∧
        Accepts config.state (fun _ => 60) (.v1, first) ∧
        Accepts config.state (fun _ => 60) (.v2, second) ∧
        Live config.state 60 second := by
  let stale := (plainCommit "home" "turn").lease
  let taken := { stale with expiresAt := 120 }
  refine ⟨memoryRepository.play handedOver (memoryRepository.start 0),
    (reachable_start 0).play _ (by decide +kernel), stale, taken,
    by decide +kernel, rfl, by decide +kernel,
    ⟨{ plainCommit "home" "turn" with lease := stale }, fun _ => "outbox", rfl,
      by decide +kernel⟩,
    ⟨{ plainCommit "home" "turn" with lease := taken }, fun _ => "outbox", rfl,
      by decide +kernel⟩, by decide +kernel, by decide +kernel⟩

end TrpcService.Storage.Memory
