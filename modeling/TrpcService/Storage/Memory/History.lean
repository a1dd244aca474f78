import TrpcService.Storage.Memory.SchedulerEffects

namespace TrpcService.Storage.Memory

open Data MailboxStore

def deedOf (call : Call) (reply : Reply) : Deed :=
  match call, reply with
  | .claimSessionReady _ _ _ _ _ _, .ok (.claim claim) => .ofGrant claim.executionLease
  | .acquire _ _ _, .ok (.acquired lease) => .ofGrant lease
  | .renewSessionReady _ _, .ok (.renewed lease) => .extend lease
  | .renew _ _, .ok (.renewed lease) => .extend lease
  | .commitSessionReady commit, .ok _ => .commit commit
  | .commit commit, .ok _ => .commit commit
  | _, _ => .quiet

section Deeds

@[simp] theorem deedOf_claimSessionReady (key : SessionKey) (ownerId : String) (leaseFor : Time)
    (expectedGeneration : Option Int) (expectedEventId : Option String)
    (acceptance : Option Acceptance) (outcome : Outcome SessionClaim) :
    deedOf (.claimSessionReady key ownerId leaseFor expectedGeneration
      expectedEventId acceptance) (answering .claim outcome).1 =
      .ofGrant (executionLease outcome.1) := by
  obtain ⟨_ | _, _⟩ := outcome <;> rfl

@[simp] theorem deedOf_acquire (acceptance : Acceptance) (workerId : String)
    (leaseFor : Time) (outcome : Outcome (Option SessionLease)) :
    deedOf (.acquire acceptance workerId leaseFor) (answering .acquired outcome).1 =
      .ofGrant (outcome.1.toOption.getD none) := by
  obtain ⟨_ | _, _⟩ := outcome <;> rfl

@[simp] theorem deedOf_renewSessionReady (lease : SessionLease)
    (leaseFor : Time) (outcome : Outcome SessionLease) :
    deedOf (.renewSessionReady lease leaseFor) (answering .renewed outcome).1 =
      .ofRenewal outcome.1 := by
  obtain ⟨_ | _, _⟩ := outcome <;> rfl

@[simp] theorem deedOf_renew (lease : SessionLease) (leaseFor : Time)
    (outcome : Outcome SessionLease) :
    deedOf (.renew lease leaseFor) (answering .renewed outcome).1 = .ofRenewal outcome.1 := by
  obtain ⟨_ | _, _⟩ := outcome <;> rfl

@[simp] theorem deedOf_commitSessionReady (commit : TurnCommit) (outcome : Outcome CommitResult) :
    deedOf (.commitSessionReady commit) (answering .committed outcome).1 =
      .ofCommit commit outcome.1 := by
  obtain ⟨_ | _, _⟩ := outcome <;> rfl

@[simp] theorem deedOf_commit (commit : TurnCommit) (outcome : Outcome CommitResult) :
    deedOf (.commit commit) (answering .committed outcome).1 = .ofCommit commit outcome.1 := by
  obtain ⟨_ | _, _⟩ := outcome <;> rfl

end Deeds

section Effect

variable {clock finish : Time} {clk : Nat → Time} {repository : Repository}

theorem Request.effect (request : Request) (inv : repository.mailboxStore.Inv True clock)
    (monotone : Monotone clk) (started : clock ≤ clk 0) (bounded : ∀ index, clk index ≤ finish) :
    Effect request clock finish repository (request.apply clk repository).2
      (deedOf request.call (request.apply clk repository).1) := by
  have later := Int.le_trans started (bounded 0)
  have silent : ∀ key, request.Allows key .silent := fun _ => .of_nil rfl
  have woken : ∀ retryAt : Option Time, true = false → retryAt.isSome = true := nofun
  unfold Request.apply
  cases called : request.call with
  | acceptInbound context envelope traceHeaders => exact effect_acceptInbound later called
  | acceptInboundV2 context envelope priority retryAt =>
    exact effect_acceptInboundV2 inv monotone started bounded called
  | acceptMailbox key inboundId priority retryAt traceId =>
    exact effect_acceptMailbox inv started (bounded 0) called
  | claimMailbox key ownerId leaseFor expectedGeneration expectedEpoch acceptance =>
    exact .withMailbox (evolves_once started (bounded 0)
      (.of_nil (by simp)) (claimSession_transition (inv key) started _ _ _ _ _))
  | renewMailbox lease leaseFor =>
    exact .withMailbox (evolves_renew started (bounded 0) lease leaseFor)
  | renewMailboxes leases leaseFor =>
    exact .withMailbox (renewMany_evolves silent leaseFor leases
      _ monotone started bounded)
  | commitMailbox lease =>
    exact .throughMailbox (evolves_commitMailbox inv started (bounded 0) lease _)
  | rescheduleMailbox lease retryAt priority =>
    exact .throughMailbox (evolves_release inv started (bounded 0) lease
      (woken retryAt) priority _ _)
  | retryMailbox lease retryAt priority =>
    exact .throughMailbox (evolves_release inv started (bounded 0) lease
      (woken retryAt) priority _ _)
  | recoverMailbox key => exact effect_recoverMailbox inv started (bounded 0) key request.uuids
  | reconcileMailbox key => exact effect_reconcileMailbox inv started (bounded 0) key request.uuids
  | sweepExpiredLeases limit =>
    exact .throughMailbox (evolves_pass inv started (bounded 0)
      (sweepExpiredLeases_evolves silent limit request.uuids))
  | scheduleRetries limit =>
    exact .throughMailbox (evolves_pass inv started (bounded 0)
      (scheduleRetries_evolves silent limit request.uuids))
  | reconcileSessions limit =>
    exact effect_reconcileSessions inv started (bounded 0) limit request.uuids
  | claimSessionReady key ownerId leaseFor expectedGeneration expectedEventId acceptance =>
    rw [deedOf_claimSessionReady]
    exact effect_claimSessionReady inv monotone started bounded key ownerId
      leaseFor expectedGeneration expectedEventId acceptance
  | renewSessionReady lease leaseFor =>
    rw [deedOf_renewSessionReady]
    exact effect_renewSessionReady started (bounded 0) lease leaseFor
  | commitSessionReady commit =>
    rw [deedOf_commitSessionReady]
    exact effect_commitSessionReady inv started (bounded 0) commit request.uuids
  | retrySessionReady lease delay =>
    exact effect_retrySessionReady inv monotone started bounded lease delay request.uuids
  | failSessionReady lease =>
    exact effect_failSessionReady inv started (bounded 0) lease request.uuids
  | acquire acceptance workerId leaseFor =>
    rw [deedOf_acquire]
    exact effect_acquire later called
  | renew lease leaseFor =>
    rw [deedOf_renew]
    exact effect_renew later lease leaseFor
  | commit commit =>
    rw [deedOf_commit]
    exact effect_commit later commit request.uuids
  | fail lease => exact effect_fail later lease
  | claimOutbox eventType ownerId limit leaseFor =>
    exact .dispatches later (dispatches_claimRecords repository eventType
      ownerId limit leaseFor _ _ _)
  | markOutboxPublished outboxId ownerId =>
    exact .dispatches later (dispatches_markOutboxPublished repository outboxId ownerId)
  | releaseOutbox outboxId ownerId delay =>
    exact .dispatches later (dispatches_releaseOutbox repository outboxId ownerId delay clk)
  | deadLetterOutbox record ownerId reason =>
    exact .dispatches later (dispatches_deadLetterOutbox repository record ownerId reason)
  | recordDelivery receipt => exact .dispatches later ⟨⟨rfl, rfl, rfl, rfl⟩, rfl⟩
  | beginDelivery record ownerId =>
    exact .dispatches later (dispatches_beginDelivery repository record ownerId)
  | finishDelivery record ownerId attemptNumber receipt retryDelay =>
    exact .dispatches later (dispatches_finishDelivery repository record
      ownerId attemptNumber receipt retryDelay clk)

end Effect

section Runs

variable {allowed : RepositoryConfig → Request → Prop} {config first last : RepositoryConfig}

def Follows (config : RepositoryConfig) (request : Request) (after : RepositoryConfig) : Prop :=
  ∃ reply, after.history = config.history ++ [⟨request, reply⟩] ∧
    Effect request config.clock after.clock config.state after.state (deedOf request.call reply)

theorem steps_preserve (invariant : RepositoryConfig → Prop)
    (preserved : ∀ config request after, invariant config →
      config.state.mailboxStore.Inv True config.clock →
      allowed config request → Follows config request after → invariant after)
    (steps : memoryRepository.Steps allowed first last)
    (inv : first.state.mailboxStore.Inv True first.clock)
    (initially : invariant first) :
    invariant last ∧ last.state.mailboxStore.Inv True last.clock := by
  refine ClockedObject.Steps.preserves (fun config => invariant config ∧
    config.state.mailboxStore.Inv True config.clock) ?_ steps ⟨initially, inv⟩
  rintro config request reads finish ⟨holds, inv⟩ permitted monotone started bounded
  have effect := request.effect inv monotone started bounded
  exact ⟨preserved config request _ holds inv permitted ⟨_, rfl, effect⟩, effect.mailbox.inv inv⟩

theorem reachable_preserve (invariant : RepositoryConfig → Prop)
    (initially : ∀ clock, invariant (memoryRepository.start clock))
    (preserved : ∀ config request after, invariant config →
      config.state.mailboxStore.Inv True config.clock →
      allowed config request → Follows config request after → invariant after)
    (reachable : memoryRepository.Reachable allowed config) :
    invariant config := by
  obtain ⟨clock, steps⟩ := reachable
  exact (steps_preserve invariant preserved steps (inv_initial True clock) (initially clock)).1

theorem mailboxInv_reachable (reachable : memoryRepository.Reachable allowed config) :
    config.state.mailboxStore.Inv True config.clock := by
  obtain ⟨clock, steps⟩ := reachable
  exact (steps_preserve (fun _ => True) (fun _ _ _ _ _ _ _ => trivial) steps
    (inv_initial True clock) trivial).2

end Runs

def Deed.handed : Deed → List SessionLease
  | .grant lease => [lease]
  | .extend lease => [lease]
  | .quiet => []
  | .commit _ => []

def Deed.commits : Deed → List TurnCommit
  | .commit turn => [turn]
  | _ => []

abbrev RepositoryHistory := List (Event Request Reply)

def handedOut (history : RepositoryHistory) : List SessionLease :=
  history.flatMap fun event => (deedOf event.call.call event.reply).handed

def commits (history : RepositoryHistory) : List TurnCommit :=
  history.flatMap fun event => (deedOf event.call.call event.reply).commits

@[simp] theorem handedOut_append (history : RepositoryHistory) (event : Event Request Reply) :
    handedOut (history ++ [event]) =
      handedOut history ++ (deedOf event.call.call event.reply).handed := by
  simp [handedOut]

@[simp] theorem commits_append (history : RepositoryHistory) (event : Event Request Reply) :
    commits (history ++ [event]) =
      commits history ++ (deedOf event.call.call event.reply).commits := by
  simp [commits]

def Call.leases : Call → List SessionLease
  | .renewSessionReady lease _ => [lease]
  | .commitSessionReady turn => [turn.lease]
  | .retrySessionReady lease _ => [lease]
  | .failSessionReady lease => [lease]
  | .renew lease _ => [lease]
  | .commit turn => [turn.lease]
  | .fail lease => [lease]
  | _ => []

theorem Deed.ofGrant_ne_commit (lease : Option SessionLease)
    (commit : TurnCommit) : Deed.ofGrant lease ≠ .commit commit := by
  cases lease <;> exact nofun

theorem lease_mem_of_deedOf {call : Call} {reply : Reply} {commit : TurnCommit}
    (committed : deedOf call reply = .commit commit) : commit.lease ∈ call.leases := by
  revert committed
  fun_cases deedOf call reply with
  | case1 => exact fun committed => absurd committed (Deed.ofGrant_ne_commit _ _)
  | case2 => exact fun committed => absurd committed (Deed.ofGrant_ne_commit _ _)
  | case5 turn =>
    intro committed
    cases committed
    exact List.mem_singleton.mpr rfl
  | case6 turn =>
    intro committed
    cases committed
    exact List.mem_singleton.mpr rfl
  | _ => exact nofun

end TrpcService.Storage.Memory
