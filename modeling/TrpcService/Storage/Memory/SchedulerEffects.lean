import TrpcService.Storage.Memory.TurnEffects

namespace TrpcService.Storage.Memory

open Data MailboxStore Repository

/-! The calls of the v2 scheduler, which move a mailbox and a turn at once. -/

variable {lease : MailboxLease}

section Claim

variable {request : Request} {clock finish : Time} {before repository : Repository}
  {clk : Nat → Time}

variable {key : SessionKey} {claim : SessionClaim}

theorem claimSession_executionLease {store : MailboxStore} {ownerId : String}
    {leaseFor : Time} {expectedGeneration expectedEpoch : Option Int}
    {acceptance : Option Acceptance} {now : Time}
    (claimed : (store.claimSession key ownerId leaseFor expectedGeneration
      expectedEpoch acceptance now).1 = .ok claim) :
    claim.executionLease = none := by
  revert claimed
  fun_cases claimSession store key ownerId leaseFor expectedGeneration expectedEpoch acceptance now
  all_goals
    intro claimed
    cases claimed
    try rfl

def executionLease (answer : Except StorageError SessionClaim) : Option SessionLease :=
  answer.toOption.bind SessionClaim.executionLease

theorem act_startTurn (present : lease.inboundId ∈ (repository.mailboxStore.slot key).inboundIds)
    (unstarted : claim.executionLease = none) (store : MailboxStore)
    (ownerId : String) :
    Act request repository ({ repository with mailboxStore := store }.startTurn key ownerId claim
        lease request.uuids clk).2
      (.ofGrant (executionLease ({ repository with
        mailboxStore := store }.startTurn key ownerId claim lease request.uuids
          clk).1)) := by
  fun_cases startTurn { repository with mailboxStore := store } key
    ownerId claim lease request.uuids clk with
  | case1 =>
    rw [executionLease, Except.toOption, Option.bind_some, unstarted]
    exact .still ⟨rfl, rfl, rfl, rfl⟩
  | case2 => exact .still ⟨rfl, rfl, rfl, rfl⟩
  | case3 => exact .release key rfl rfl rfl rfl
  | case4 accepted stored fresh snapshot middle ensured turnId execution =>
    obtain ⟨sessions, rfl, begins⟩ := ensureSession_begins ensured
    refine .grant execution (fun committed => fresh (.inl committed))
      (fun _ => ⟨accepted, stored, .inr present⟩) rfl rfl ?_ rfl rfl
    cases begins with
    | same sessions => exact .same sessions
    | first snapshot absent version next events sessions =>
      exact .first snapshot absent version next events sessions

theorem evolves_startTurn (clk : Nat → Time) (inv : repository.mailboxStore.Inv True clock)
    (started : clock ≤ clk 0) (ended : clk 0 ≤ finish) (ownerId : String) (uuids : Nat → String) :
    Evolves True request.Allows (clock, repository.mailboxStore) (finish,
        (repository.startTurn key ownerId claim lease uuids clk).2.mailboxStore) := by
  have waited : Evolves True request.Allows
      (clock, repository.mailboxStore) (finish, repository.mailboxStore) :=
    Evolves.wait (fun _ => .of_nil rfl) True _ (Int.le_trans started ended)
  have resolved := @evolves_commitMailbox request clock finish repository
    (clk 0) inv started ended lease (uuids 0)
  fun_cases startTurn repository key ownerId claim lease uuids clk with
  | case1 => exact waited
  | case2 _ _ _ _ store committed =>
    rw [committed] at resolved
    exact resolved
  | case3 _ _ _ _ store committed =>
    rw [committed] at resolved
    exact resolved
  | case4 accepted _ _ snapshot middle ensured =>
    obtain ⟨sessions, rfl, _⟩ := ensureSession_begins ensured
    exact waited

variable (inv : repository.mailboxStore.Inv True clock)

include inv

theorem claimMailbox_grants {ownerId : String} {leaseFor : Time} {expected : Option Int}
    {acceptance : Option Acceptance} {middle : Repository} (later : clock ≤ clk 2)
    (claimed : (repository.claimMailbox key ownerId leaseFor expected none acceptance
      fun _ => clk 2) = (.ok claim, middle)) (leased : claim.lease = some lease) :
    let outcome := repository.mailboxStore.claimSession key ownerId leaseFor expected none
      acceptance (clk 2)
    sessionLease outcome.1 = some lease ∧ middle = { repository with mailboxStore := outcome.2 } ∧
      ∃ head, (repository.mailboxStore.slot key).Head head ∧ head.inboundId = lease.inboundId := by
  intro outcome
  have answer : sessionLease outcome.1 = some lease :=
    (congrArg (sessionLease ∘ Prod.fst) claimed).trans leased
  obtain ⟨_, grants⟩ := claimSession_grants (inv key) later answer
  obtain ⟨head, stored, named, _⟩ := grants.head
  exact ⟨answer, congrArg Prod.snd claimed.symm, head, stored, named⟩

theorem effect_claimSessionReady (monotone : Monotone clk) (started : clock ≤ clk 0)
    (bounded : ∀ index, clk index ≤ finish)
    (key : SessionKey) (ownerId : String) (leaseFor : Time) (expectedGeneration : Option Int)
    (expectedEventId : Option String) (acceptance : Option Acceptance) :
    Effect request clock finish repository
      (repository.claimSessionReady key ownerId leaseFor expectedGeneration
        expectedEventId acceptance request.uuids clk).2
      (.ofGrant (executionLease (repository.claimSessionReady key ownerId
        leaseFor expectedGeneration expectedEventId acceptance request.uuids
        clk).1)) := by
  have silent : ∀ key, request.Allows key .silent := fun _ => .of_nil rfl
  have reaches : clock ≤ clk 2 := Int.le_trans started (monotone (Nat.zero_le 2))
  have later : clock ≤ finish := Int.le_trans started (bounded 0)
  have claims : ∀ {expected answer middle}, (repository.claimMailbox key ownerId leaseFor expected
    none acceptance fun _ => clk 2) = (answer, middle) → Effect request clock finish repository
    middle (.ofGrant (executionLease answer)) := by
    intro expected answer middle claimed
    have ungranted : executionLease answer = none := by
      cases answer with
      | error => rfl
      | ok claim => exact claimSession_executionLease (congrArg Prod.fst claimed)
    have moved : (repository.claimMailbox key ownerId leaseFor expected none
        acceptance fun _ => clk 2).2 = middle := congrArg Prod.snd claimed
    subst moved
    rw [ungranted]
    exact .withMailbox (evolves_claimMailbox inv reaches (bounded 2) key
      ownerId leaseFor expected none acceptance)
  fun_cases claimSessionReady repository key ownerId leaseFor
    expectedGeneration expectedEventId acceptance request.uuids clk with
  | case1 => exact .dispatches later (.refl repository)
  | case2 => exact .dispatches later (.refl repository)
  | case3 _ _ _ _ _ claimed => exact claims claimed
  | case4 _ _ _ _ _ claimed => exact claims claimed
  | case5 expected _ _ claim middle claimed lease leased =>
    have unstarted := claimSession_executionLease (congrArg Prod.fst claimed)
    obtain ⟨_, rfl, head, stored, named⟩ := claimMailbox_grants inv reaches claimed leased
    have present : lease.inboundId ∈ (repository.mailboxStore.slot key).inboundIds := by
      rw [← named]
      exact List.mem_map_of_mem ((Dict.mem_values_iff _ head).mpr ⟨_, stored⟩)
    have first : Evolves True request.Allows
        (clock, repository.mailboxStore) (clk 2, _) :=
      evolves_claimMailbox inv reaches (Int.le_refl _) key ownerId leaseFor expected none acceptance
    exact ⟨act_startTurn present unstarted _ ownerId,
      first.trans (evolves_startTurn (fun index => clk (index + 3)) (first.inv inv)
        (monotone (Nat.le_succ 2)) (bounded 3) ownerId request.uuids)⟩
  | case6 _ _ _ _ _ claimed => exact claims claimed

end Claim

section Holder

variable {request : Request} {clock finish : Time} {repository : Repository} {clk : Nat → Time}

theorem effect_renewSessionReady (started : clock ≤ clk 0)
    (ended : clk 0 ≤ finish) (lease : SessionLease) (leaseFor : Time) :
    Effect request clock finish repository (repository.renewSessionReady lease leaseFor clk).2
      (.ofRenewal (repository.renewSessionReady lease leaseFor clk).1) := by
  fun_cases renewSessionReady repository lease leaseFor clk with
  | case4 _ _ _ _ _ _ _ error middle renewed =>
    have moved : _ = middle := congrArg Prod.snd renewed
    subst moved
    exact .withMailbox (evolves_renew started ended _ leaseFor)
  | case5 current held _ _ _ _ _ later middle renewed =>
    have moved : _ = middle := congrArg Prod.snd renewed
    subst moved
    exact ⟨.extend lease.key current later.expiresAt held rfl rfl rfl rfl,
      evolves_renew started ended _ leaseFor⟩
  | _ => exact .dispatches (Int.le_trans started ended) (.refl repository)

theorem commit_refused {store after : MailboxStore} {uuid : String} {now : Time}
    {error : StorageError} (refused : store.commit lease uuid now = (.error error, after)) :
    after = store := by
  revert refused
  fun_cases commit store lease uuid now
  all_goals
    intro refused
    cases refused
    try rfl

theorem commitMailbox_refused {uuids : Nat → String} {error : StorageError} {after : Repository}
    (refused : repository.commitMailbox lease uuids clk = (.error error, after)) :
    after = repository := by
  unfold commitMailbox at refused
  rcases answered : repository.mailboxStore.commit lease (uuids 0) (clk 0) with ⟨_ | _, store⟩
  · rw [answered] at refused
    obtain rfl := commit_refused answered
    cases refused
    rfl
  · rw [answered] at refused
    cases refused

theorem effect_commitSessionReady
    (inv : repository.mailboxStore.Inv True clock) (started : clock ≤ clk 0)
    (ended : clk 0 ≤ finish) (commit : TurnCommit) (uuids : Nat → String) :
    Effect request clock finish repository (repository.commitSessionReady commit uuids clk).2
      (.ofCommit commit (repository.commitSessionReady commit uuids clk).1) := by
  have later := Int.le_trans started ended
  fun_cases commitSessionReady repository commit uuids clk with
  | case5 lease owned mailbox stored _ held _ snapshot _ size error middle refused store =>
    obtain rfl := commitMailbox_refused refused
    refine .dispatches later ⟨⟨rfl, rfl, rfl, rfl⟩, ?_⟩
    simp [store, size, putMailbox, Dict.set_of_get? _ stored]
  | case6 lease owned mailbox stored _ held _ snapshot present _ middle committed =>
    have moved : Moved request clock finish repository
        (repository.commitMailbox held (fun index => uuids (index + 1)) clk).2 :=
      .throughMailbox (evolves_commitMailbox inv started ended held (uuids 1))
    rw [committed] at moved
    have dispatched := dispatches_putOutbound middle commit (uuids 0)
    have same := moved.toSameTurns.trans dispatched.toSameTurns
    refine ⟨.commit commit snapshot owned present same.acceptancesById (congrArg (Dict.set · _ _)
      same.sessions) (congrArg (Dict.erase · _) same.leases)
      (congrArg (insert _) same.committedInbound), ?_⟩
    have stays : ((middle.putOutbound commit (uuids 0)).recordCommit commit
        snapshot).mailboxStore = _ := dispatched.mailboxStore
    rw [stays]
    exact moved.mailbox
  | _ => exact .dispatches later (.refl repository)

theorem effect_endTurn {middle : Repository} (moved : Moved request clock finish repository middle)
    (lease : SessionLease) (status : InboundStatus) :
    Effect request clock finish repository (middle.endTurn lease status)
      .quiet where
  act := .release lease.key moved.acceptancesById moved.sessions
    (congrArg (Dict.erase · lease.key) moved.leases) moved.committedInbound
  mailbox := moved.mailbox

variable (inv : repository.mailboxStore.Inv True clock)

include inv

theorem effect_retrySessionReady (monotone : Monotone clk) (started : clock ≤ clk 0)
    (bounded : ∀ index, clk index ≤ finish)
    (lease : SessionLease) (delay : Time) (uuids : Nat → String) :
    Effect request clock finish repository
      (repository.retrySessionReady lease delay uuids clk).2 .quiet := by
  have reaches := Int.le_trans started (monotone (Nat.zero_le 1))
  have moved : ∀ held, Moved request clock finish repository
      (repository.withMailbox (repository.mailboxStore.retryWithoutWakeup held
        (some (clk 0 + delay)) (uuids 0) (clk 1))).2 := fun held =>
    .withMailbox (evolves_release inv reaches (bounded 1) held (fun _ => rfl) none true (uuids 0))
  fun_cases retrySessionReady repository lease delay uuids clk with
  | case4 _ _ _ _ held _ error middle retried =>
    have moved := moved held
    rw [retried] at moved
    exact moved.effect
  | case5 _ _ _ _ held _ _ middle retried =>
    have moved := moved held
    rw [retried] at moved
    exact effect_endTurn moved lease .accepted
  | _ => exact .dispatches (Int.le_trans started (bounded 0)) (.refl repository)

theorem effect_failSessionReady (started : clock ≤ clk 0) (ended : clk 0 ≤ finish)
    (lease : SessionLease) (uuids : Nat → String) :
    Effect request clock finish repository
      (repository.failSessionReady lease uuids clk).2 .quiet := by
  have moved : ∀ held, Moved request clock finish repository (repository.commitMailbox held uuids
      clk).2 := fun held => .throughMailbox (evolves_commitMailbox inv started ended held (uuids 0))
  fun_cases failSessionReady repository lease uuids clk with
  | case3 _ _ _ held _ error middle failed =>
    have moved := moved held
    rw [failed] at moved
    exact moved.effect
  | case4 _ _ _ held _ _ middle failed =>
    have moved := moved held
    rw [failed] at moved
    exact effect_endTurn moved lease .failed
  | _ => exact .dispatches (Int.le_trans started ended) (.refl repository)

end Holder

end TrpcService.Storage.Memory
