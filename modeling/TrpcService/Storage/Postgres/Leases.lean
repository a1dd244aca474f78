import TrpcService.Storage.Postgres.Runs

namespace TrpcService.Storage.Postgres

open Data Tables

/-! Exclusion of the execution lease across both schedulers.  The lease is
stored on the session row and, for the v2 scheduler, on the mailbox row too;
every fence reads the session row, so that one copy decides. -/

def handedOut (key : SessionKey) (history : List (Event Request Reply)) : List (String × Nat) :=
  history.filterMap fun event => grantedTo (Reply.granted event.reply) key

/-- The lease passes the fence of one of the terminal transitions. -/
inductive PassesFence (library : Library) (tables : Tables)
    (lease : SessionLease) (clk : Nat → Time) : Prop
  | commit {rows : SessionRow × String × TurnRow}
      (passed : tables.commitFence library lease clk = .ok rows)
  | commitSessionReady {rows : FencedRows}
      (passed : tables.commitReadyFence library lease clk = .ok rows)
  | retrySessionReady {rows : FencedRows}
      (passed : tables.fencedRows library lease staleRetryMessage (clk 1) (clk 1) = .ok rows)
  | failSessionReady {rows : FencedRows}
      (passed : tables.fencedRows library lease staleFailMessage (clk 1) (clk 1) = .ok rows)

variable {library : Library}

theorem PassesFence.held {tables : Tables} {lease : SessionLease} {clk : Nat → Time}
    (passes : PassesFence library tables lease clk) :
    ∃ session now, tables.sessions.get? lease.key = some session ∧
      ownsSession session lease now = true := by
  cases passes with
  | commit passed =>
    have fence := commitFence_ok passed
    exact ⟨_, _, fence.1, fence.2⟩
  | commitSessionReady passed =>
    have fenced := commitReadyFence_ok passed
    exact ⟨_, _, fenced.session, fenced.owned⟩
  | retrySessionReady passed | failSessionReady passed =>
    have fenced := fencedRows_ok passed
    exact ⟨_, _, fenced.session, fenced.owned⟩

theorem PassesFence.current {tables : Tables} {lease : SessionLease} {clk : Nat → Time}
    (passes : PassesFence library tables lease clk) :
    tables.leaseOwner lease.key = some lease.workerId ∧
      tables.leaseEpoch lease.key = lease.fencingToken := by
  obtain ⟨session, now, stored, owned⟩ := passes.held
  simp only [ownsSession, Bool.and_eq_true, decide_eq_true_eq] at owned
  rw [leaseOwner_of_get? stored, leaseEpoch_of_get? stored]
  exact owned.1

/-- How the session row reflects the leases handed out so far. -/
structure LeaseInv (key : SessionKey) (tables : Tables) (granted : List (String × Nat)) : Prop where
  increasing : (granted.map Prod.snd).Pairwise (· < ·)
  bounded : ∀ pair ∈ granted, pair.2 ≤ tables.leaseEpoch key
  current : ∀ worker ∈ tables.leaseOwner key,
    granted.getLast? = some (worker, tables.leaseEpoch key)

namespace LeaseInv

variable {key : SessionKey} {before after : Tables}
variable {granted : List (String × Nat)}

theorem empty : LeaseInv key .empty [] where
  increasing := .nil
  bounded := fun _ absent => nomatch absent
  current := fun _ absent => nomatch absent

theorem step (inv : LeaseInv key before granted) {pair : Option (String × Nat)}
    (step : LeaseStep key before after pair) : LeaseInv key after (granted ++ pair.toList) := by
  cases step with
  | keep epoch owner =>
    simp only [Option.toList_none, List.append_nil]
    refine ⟨inv.increasing, ?_, fun worker held => ?_⟩
    · rw [epoch]
      exact inv.bounded
    · rcases owner with same | cleared
      · rw [epoch]
        exact inv.current worker (same ▸ held)
      · rw [cleared] at held
        cases held
  | grant worker token newer epoch owner =>
    refine ⟨?_, fun pair member => ?_, fun holder held => ?_⟩
    · simp only [Option.toList_some, List.map_append, List.map_cons,
        List.map_nil, List.pairwise_append]
      refine ⟨inv.increasing, List.pairwise_singleton _ _, ?_⟩
      simp only [List.mem_map, List.mem_singleton, forall_exists_index, and_imp]
      rintro _ pair member rfl _ rfl
      exact Nat.lt_of_le_of_lt (inv.bounded pair member) newer
    · rw [epoch]
      rcases List.mem_append.mp member with earlier | last
      · exact Nat.le_of_lt (Nat.lt_of_le_of_lt (inv.bounded pair earlier) newer)
      · rw [List.mem_singleton.mp last]
    · rw [owner] at held
      cases held
      simp [epoch]

end LeaseInv

theorem leaseInv_reachable {config : DatabaseConfig}
    (reachable : (repository library).Reachable freshRequest config) (key : SessionKey) :
    LeaseInv key config.state.tables (handedOut key config.history) := by
  refine (reachable.invariant (fun config : DatabaseConfig =>
    (∀ key, MailboxInv key config.state.tables) ∧ LeaseInv key config.state.tables
    (handedOut key config.history)) (fun _ => ⟨fun _ => .empty, .empty⟩) ?_).2
  intro config request clk finish inv fresh _ _ _
  have effects := repository_effects library clk finish inv.1 fresh
  refine ⟨effects.invariant inv.1, ?_⟩
  have granted := inv.2.step (effects.lease key)
  convert granted using 1
  simp only [handedOut, ClockedObject.after, List.filterMap_append,
    List.filterMap_cons, List.filterMap_nil]
  cases grantedTo _ key <;> rfl

/-- The fencing tokens of a session strictly increase, and only the pair handed
out last passes a fence, whenever the fences read the clock. -/
theorem lease_exclusion {library : Library} {config : DatabaseConfig}
    (reachable : (repository library).Reachable freshRequest config) (key : SessionKey) :
    ((handedOut key config.history).map Prod.snd).Pairwise (· < ·) ∧ (∀ lease clk, lease.key = key →
        PassesFence library config.state.tables lease clk →
        (handedOut key config.history).getLast? = some lease.pair) ∧
      ∀ first second firstClk secondClk, first.key = key → second.key = key →
        PassesFence library config.state.tables first firstClk →
        PassesFence library config.state.tables second secondClk →
        first.pair = second.pair := by
  have inv := leaseInv_reachable reachable key
  have latest : ∀ lease clk, lease.key = key → PassesFence library config.state.tables lease clk →
      (handedOut key config.history).getLast? = some lease.pair := by
    rintro lease clk rfl passes
    obtain ⟨owner, epoch⟩ := passes.current
    rw [inv.current lease.workerId owner, epoch]
    rfl
  refine ⟨inv.increasing, latest, ?_⟩
  intro first second firstClk secondClk here there passes passesToo
  have one := latest first firstClk here passes
  rw [latest second secondClk there passesToo, Option.some.injEq] at one
  exact one.symm

def takenOver : DatabaseConfig := (repository plainLibrary).after overrunConfig
    ⟨.claimSessionReady firstKey "other" 10 none (some (dashes 5 0)) none, dashes 6⟩
    (fun _ => 21) 21

/-- The reconcile pass takes the lease of a worker that stopped, and the next
claim hands it to another one. -/
theorem takenOver_lease_exclusion :
    handedOut firstKey takenOver.history = [("worker", 1), ("other", 2)] ∧
      (∃ lease clk, lease.key = firstKey ∧
        PassesFence plainLibrary takenOver.state.tables lease clk) ∧
      ∀ lease clk, lease.key = firstKey →
        PassesFence plainLibrary takenOver.state.tables lease clk →
        lease.pair = ("other", 2) := by
  have handed : handedOut firstKey takenOver.history =
      [("worker", 1), ("other", 2)] := by decide +kernel
  have reachable : (repository plainLibrary).Reachable freshRequest takenOver := by
    refine .call ?_ (freshIds_dashes (by decide +kernel)) (by decide)
    exact leasedOnce_reachable.call (freshIds_dashes (by decide +kernel)) (by decide)
  refine ⟨handed, ?_, fun lease clk here passes => ?_⟩
  · have leased : ((takenOver.history.getLast?.bind fun event =>
        Reply.granted event.reply).any fun lease => decide (lease.key = firstKey) &&
            (takenOver.state.tables.commitReadyFence plainLibrary lease
              fun _ => 22).toOption.isSome) = true := by decide +kernel
    rw [Option.any_eq_true] at leased
    obtain ⟨lease, _, passes⟩ := leased
    rw [Bool.and_eq_true, decide_eq_true_eq] at passes
    refine ⟨lease, fun _ => 22, passes.1, ?_⟩
    cases fence : takenOver.state.tables.commitReadyFence plainLibrary lease fun _ => 22 with
    | error error => simp [fence, Except.toOption] at passes
    | ok rows => exact .commitSessionReady fence
  · have latest := (lease_exclusion reachable firstKey).2.1 lease clk here passes
    rw [handed] at latest
    exact (Option.some.inj latest).symm

end TrpcService.Storage.Postgres
