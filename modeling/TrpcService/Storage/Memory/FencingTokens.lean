import TrpcService.Storage.Memory.Exclusion

namespace TrpcService.Storage.Memory

open Data ClockedObject Call

/-! Fencing tokens over the whole life of a session.  The second scheduler
counts in the mailbox, which stays; the first one counts in the lease table,
where a commit leaves nothing to count on from. -/

def tokens (key : SessionKey) (entries : List (Scheduler × SessionLease)) : List Nat :=
  (entries.filter fun entry => decide (entry.2.key = key)).map fun entry => entry.2.fencingToken

/-- The leases of the second scheduler are numbered upwards, and the mailbox
has reached the number of each of them. -/
structure Counted (repository : Repository) (entries : List (Scheduler × SessionLease)) : Prop where
  epochs : ∀ entry ∈ entries, entry.1 = .v2 → entry.2.fencingToken ≤
    (repository.mailboxStore.slot entry.2.key).mailbox.leaseEpoch
  ordered : entries.Pairwise fun entry later => entry.1 = .v2 →
    later.1 = .v2 → entry.2.key = later.2.key →
    entry.2.fencingToken < later.2.fencingToken

namespace Counted

variable {request : Request} {clock finish : Time} {before after : Repository} {deed : Deed}
  {entries : List (Scheduler × SessionLease)} {lease : SessionLease} {scheduler : Scheduler}

theorem initial : Counted .initial [] := ⟨nofun, .nil⟩

variable (counted : Counted before entries)

include counted

theorem epochs_after (effect : Effect request clock finish before after deed) :
    ∀ entry ∈ entries, entry.1 = .v2 → entry.2.fencingToken ≤
      (after.mailboxStore.slot entry.2.key).mailbox.leaseEpoch := by
  intro entry member second
  exact (counted.epochs entry member second).trans (effect.mailbox.epoch_le entry.2.key)

theorem grant (epochs : ∀ entry ∈ entries, entry.1 = .v2 → entry.2.fencingToken ≤
      (after.mailboxStore.slot entry.2.key).mailbox.leaseEpoch)
    (issue : Issue before after lease scheduler) :
    Counted after (entries ++ [(scheduler, lease)]) where
  epochs := by
    intro entry member second
    rcases List.mem_append.mp member with old | new
    · exact epochs entry old second
    · cases List.mem_singleton.mp new
      cases issue with
      | v1 => exact nomatch second
      | v2 _ epoch => exact epoch.ge
  ordered := by
    refine List.pairwise_append.mpr ⟨counted.ordered, List.pairwise_singleton _ _, ?_⟩
    intro entry old later new second secondLater keyed
    cases List.mem_singleton.mp new
    cases issue with
    | v1 => exact nomatch secondLater
    | v2 next =>
      have bound := counted.epochs entry old second
      rw [keyed] at bound
      exact next ▸ Nat.lt_succ_of_le bound

theorem step (effect : Effect request clock finish before after deed)
    (issue : ∀ lease, deed = .grant lease → Issue before after lease scheduler) :
    Counted after (entries ++ deed.granted.map fun lease => (scheduler, lease)) := by
  have epochs := counted.epochs_after effect
  cases deed with
  | grant lease => exact counted.grant epochs (issue lease rfl)
  | _ => simpa [Deed.granted] using ⟨epochs, counted.ordered⟩

theorem increasing {key : SessionKey}
    (second : ∀ entry ∈ entries, entry.2.key = key → entry.1 = .v2) :
    (tokens key entries).Pairwise (· < ·) := by
  unfold tokens
  rw [List.pairwise_map]
  refine List.Pairwise.imp_of_mem ?_ (counted.ordered.filter _)
  intro entry later member memberLater less
  obtain ⟨issued, keyed⟩ := List.mem_filter.mp member
  obtain ⟨issuedLater, keyedLater⟩ := List.mem_filter.mp memberLater
  have keyed := of_decide_eq_true keyed
  have keyedLater := of_decide_eq_true keyedLater
  exact less (second entry issued keyed) (second later issuedLater keyedLater)
    (keyed.trans keyedLater.symm)

end Counted

theorem counted_reachable {allowed : RepositoryConfig → Request → Prop} {config : RepositoryConfig}
    (reachable : memoryRepository.Reachable allowed config) :
    Counted config.state (issued config.history) := by
  refine (Reachable.invariant (fun config => Counted config.state
    (issued config.history) ∧ config.state.mailboxStore.Inv True config.clock) ?_ ?_ reachable).1
  · exact fun clock => ⟨.initial, MailboxStore.inv_initial True clock⟩
  rintro config request reads finish ⟨counted, inv⟩ _ monotone started bounded
  have effect := request.effect inv monotone started bounded
  refine ⟨?_, effect.mailbox.inv inv⟩
  simp only [after, issued_append]
  exact counted.step effect fun _ granted => (Request.issue inv monotone started granted).2

def counter (repository : Repository) (key : SessionKey) : Scheduler → Nat
  | .v1 => ((repository.leases.get? key).map SessionLease.fencingToken).getD 0
  | .v2 => (repository.mailboxStore.slot key).mailbox.leaseEpoch

/-- A call that asks for a lease on the session counts on from every token that
was issued for it. -/
def CountsOn (key : SessionKey) (config : RepositoryConfig) (request : Request) : Prop :=
  request.call.leaseKey = some key → ∀ token ∈ tokens key (issued config.history),
    token ≤ counter config.state key request.call.scheduler

instance (key : SessionKey) (config : RepositoryConfig) (request : Request) :
    Decidable (CountsOn key config request) :=
  inferInstanceAs (Decidable (_ → _))

theorem Issue.token_eq {before after : Repository} {lease : SessionLease} {scheduler : Scheduler}
    (issue : Issue before after lease scheduler) :
    lease.fencingToken = counter before lease.key scheduler + 1 := by
  cases issue with
  | v1 token => exact token
  | v2 token => exact token

theorem increasing_reachable {key : SessionKey} {config : RepositoryConfig}
    (reachable : memoryRepository.Reachable (CountsOn key) config) :
    (tokens key (issued config.history)).Pairwise (· < ·) := by
  refine (Reachable.invariant (fun config => (tokens key (issued config.history)).Pairwise (· < ·) ∧
      config.state.mailboxStore.Inv True config.clock) ?_ ?_ reachable).1
  · exact fun clock => ⟨.nil, MailboxStore.inv_initial True clock⟩
  rintro config request reads finish ⟨increasing, inv⟩ counts monotone started bounded
  refine ⟨?_, (request.effect inv monotone started bounded).mailbox.inv inv⟩
  simp only [after, issued_append]
  cases deed : deedOf request.call (memoryRepository.apply request reads config.state).1 with
  | grant lease =>
    obtain ⟨asks, issue⟩ := Request.issue inv monotone started deed
    by_cases keyed : lease.key = key
    · subst keyed
      simp only [tokens, Deed.granted, List.filter_append, List.map_append, List.pairwise_append]
      refine ⟨increasing, by simp, fun token old last new => ?_⟩
      have same : last = lease.fencingToken := by simpa using new
      rw [same, issue.token_eq]
      exact Nat.lt_succ_of_le (counts asks token old)
    · simpa [tokens, Deed.granted, keyed] using increasing
  | _ => simpa [Deed.granted] using increasing

/-- The fencing tokens of a session are strictly increasing in the order of
issue, in every run whose leases of the session all come from
`claim_session_ready`, and in every run that counts on from what was issued. -/
theorem issued_tokens_increase (key : SessionKey) :
    (∀ (allowed : RepositoryConfig → Request → Prop) (config : RepositoryConfig),
      memoryRepository.Reachable allowed config →
      (∀ entry ∈ issued config.history, entry.2.key = key → entry.1 = .v2) →
      (tokens key (issued config.history)).Pairwise (· < ·)) ∧
    ∀ config, memoryRepository.Reachable (CountsOn key) config →
      (tokens key (issued config.history)).Pairwise (· < ·) :=
  ⟨fun _ _ reachable claimed => (counted_reachable reachable).increasing claimed,
    fun _ reachable => increasing_reachable reachable⟩

def twoClaimed : List (Request × Time) :=
  [(acceptInboundV2 homeContext homeEnvelope 0 none).naming "message",
    (claimSessionReady ("tenant", "home") "worker" 60 none none none).naming "turn",
    (commitSessionReady (plainCommit "home" "turn")).naming "outbox",
    (acceptInboundV2 homeContext { homeEnvelope with externalMessageId := "second" } 0 none).naming
      "second",
    (claimSessionReady ("tenant", "home") "worker" 60 none none none).naming "later"]

/-- The second worker acquires when the lease of the first has run out. -/
def acquiredAgain : List (Request × Time) :=
  [(acceptInbound homeContext homeEnvelope []).naming "message",
    (acquire homeAcceptance "worker" 60).naming "turn",
    (⟨.acquire homeAcceptance "other" 60, fun _ => "unused"⟩, 60)]

theorem tokens_of_two_runs :
    let config := memoryRepository.play twoClaimed (memoryRepository.start 0)
    let again := memoryRepository.play acquiredAgain (memoryRepository.start 0)
    tokens ("tenant", "home") (issued config.history) = [1, 2] ∧
      (tokens ("tenant", "home") (issued config.history)).Pairwise (· < ·) ∧
      tokens ("tenant", "home") (issued again.history) = [1, 2] ∧
      (tokens ("tenant", "home") (issued again.history)).Pairwise (· < ·) := by
  have reachable : memoryRepository.Reachable Honest
      (memoryRepository.play twoClaimed (memoryRepository.start 0)) :=
    (reachable_start 0).play _ (by decide +kernel)
  have counting : memoryRepository.Reachable (CountsOn ("tenant", "home"))
      (memoryRepository.play acquiredAgain (memoryRepository.start 0)) :=
    (reachable_start 0).play _ (by decide +kernel)
  exact ⟨by decide +kernel, (issued_tokens_increase ("tenant", "home")).1 _ _ reachable
    (by decide +kernel), by decide +kernel,
    (issued_tokens_increase ("tenant", "home")).2 _ counting⟩

/-! After a commit of the first scheduler the lease table is empty, and the
next lease of the session starts at one again. -/

def twoAcquired : List (Request × Time) :=
  [(acceptInbound homeContext homeEnvelope []).naming "message",
    (acquire homeAcceptance "worker" 60).naming "turn",
    (commit (plainCommit "home" "turn")).naming "outbox",
    (acceptInbound homeContext
      { homeEnvelope with externalMessageId := "second" } []).naming "second",
    (acquire { homeAcceptance with
      inboundId := "second",
      envelope := { homeEnvelope with externalMessageId := "second" } }
      "worker" 60).naming "later"]

theorem acquired_token_repeats : ∃ config, memoryRepository.Reachable Honest config ∧
      (commits config.history).length = 1 ∧
      tokens ("tenant", "home") (issued config.history) = [1, 1] := by
  refine ⟨memoryRepository.play twoAcquired (memoryRepository.start 0),
    (reachable_start 0).play _ ?_, ?_, ?_⟩
  · decide +kernel
  · decide +kernel
  · decide +kernel

end TrpcService.Storage.Memory
