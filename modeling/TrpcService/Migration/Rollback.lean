import TrpcService.Migration.Alone

namespace TrpcService.Migration

open Data MigrationCoordinator CoordinatorEffect

variable {Double Target : Type}

/-! A rollback of a migration whose source has not changed. -/

section Snapshots

variable {system : MigrationSystem Double Target} {progress : Progress Target}
  {coordinator : MigrationCoordinator}

structure SourceUnchanged (system : MigrationSystem Double Target)
    (tenantId : String) (manifest : MigrationScopeManifest) : Prop where
  snapshot : snapshot system.python system.redis tenantId
    (system.keysOf tenantId) = .ok ⟨manifest.sourceSnapshotId,
      manifest.sourceCount, manifest.sourceChecksum⟩
  within : manifest.sourceCount ≤ maxMigrationExpectedRecords

theorem validateSourceSnapshot_eq_ok {tenantId : String} {after : Progress Target} :
    execute system.alone (coordinator.validateSourceSnapshot tenantId) progress = (.ok (), after) ↔
      after = progress ∧
        ∀ manifest ∈ coordinator.manifest, SourceUnchanged system tenantId manifest := by
  unfold validateSourceSnapshot
  cases coordinator.manifest with
  | none =>
    constructor
    · rintro ⟨⟩
      exact ⟨rfl, by simp⟩
    · rintro ⟨rfl, _⟩
      rfl
  | some manifest =>
    have asked : execute system.alone (CoordinatorEffect.snapshot tenantId).await progress =
      (snapshot system.python system.redis tenantId (system.keysOf tenantId), progress) := rfl
    constructor
    · intro ran
      obtain ⟨observed, middle, answered, ran⟩ := execute_bind_eq_ok ran
      obtain ⟨_, last, counted, ran⟩ := execute_bind_eq_ok ran
      obtain ⟨found, rfl⟩ := Prod.mk.inj (asked.symm.trans answered)
      obtain ⟨within, rfl⟩ := Prod.mk.inj counted
      split at ran
      case isTrue => cases ran
      case isFalse same =>
        obtain ⟨name, rest⟩ := not_or.mp same
        obtain ⟨count, checksum⟩ := not_or.mp rest
        cases ran
        refine ⟨rfl, ?_⟩
        rintro _ ⟨⟩
        rw [not_not] at name count checksum
        refine ⟨?_, ?_⟩
        · rw [found, ← name, ← count, ← checksum]
          rfl
        · rw [← count]
          exact ensureRecordCount_le within
    · rintro ⟨rfl, unchanged⟩
      obtain ⟨observed, within⟩ := unchanged manifest rfl
      rw [observed] at asked
      refine (execute_bind_ok asked).trans ?_
      refine (execute_bind_ok (check_eq (ensureRecordCount_eq within))).trans ?_
      rw [if_neg]
      · rfl
      · rintro (changed | changed | changed)
        · exact changed rfl
        · exact changed rfl
        · exact changed rfl

theorem run_eq_ok {tenantId migrationId : String} {phase : MigrationPhase}
    {rounds : Nat} {result : MigrationResult} {after : Progress Target} :
    execute system.alone (coordinator.run system.python tenantId migrationId
        phase rounds) progress = (.ok result, after) ↔
      execute system.alone (coordinator.runOnce system.python tenantId
        migrationId phase rounds) progress = (.ok result, after) := by
  unfold run
  cases coordinator.guarded with
  | false => exact .rfl
  | true =>
    have started : execute system.alone startHeartbeat.await progress = (.ok (), progress) := rfl
    rw [if_pos rfl, leaseLiveness]
    refine (Eq.congr_left (execute_bind_ok started)).trans ?_
    rw [execute_bind, execute_tryCatch, execute_bind_ok (execute_assertLease coordinator),
      execute_bind]
    generalize execute system.alone (coordinator.runOnce system.python tenantId migrationId phase
      rounds) progress = ran
    obtain ⟨outcome, last⟩ := ran
    cases outcome with
    | ok value => exact .rfl
    | error error => exact .rfl

end Snapshots

section Rollback

variable {system : MigrationSystem Double Target} {progress : Progress Target}
  {coordinator : MigrationCoordinator} {tenantId migrationId : String}

/-- The checkpoint of a migration that counts as its state. -/
def Progress.latest (progress : Progress Target)
    (tenantId migrationId : String) : Option MigrationCheckpoint :=
  progress.saved.find? fun checkpoint =>
    checkpoint.tenantId = tenantId ∧ checkpoint.migrationId = migrationId

def Progress.Bounded (progress : Progress Target) : Prop := ∀ checkpoint ∈ progress.saved,
    checkpoint.sourceCount ≤ maxMigrationExpectedRecords ∧
      checkpoint.targetCount ≤ maxMigrationExpectedRecords

structure RollsBack (system : MigrationSystem Double Target)
    (tenantId : String) (before after : Target) : Prop where
  hooks : ∃ between, system.target.rollback before tenantId = .ok between ∧
    system.target.setDualWrite between tenantId false = .ok after

theorem execute_rollbackPhase {rounds : Nat} {checkpoint : MigrationCheckpoint}
    {after : Target} (works : RollsBack system tenantId progress.target after) :
    execute system.alone (coordinator.runPhase system.python tenantId rounds
      .rollback checkpoint) progress =
        (.ok (complete checkpoint), { progress with target := after }) := by
  obtain ⟨between, rolled, disabled⟩ := works.hooks
  have first : execute system.alone
      (rollback tenantId).await progress = (.ok (), { progress with target := between }) := by
    change MigrationSystem.changing progress _ = _
    rw [rolled]
    rfl
  have second : execute system.alone (setDualWrite tenantId false).await
        { progress with target := between } = (.ok (), { progress with target := after }) := by
    change MigrationSystem.changing _ _ = _
    rw [disabled]
    rfl
  rw [runPhase]
  refine (execute_bind_ok (execute_assertLease coordinator)).trans ?_
  refine (execute_bind_ok first).trans ?_
  refine (execute_bind_ok (execute_assertLease coordinator)).trans ?_
  exact (execute_bind_ok second).trans rfl

theorem opening_latest (bounded : progress.Bounded) (phase : MigrationPhase) :
    let checkpoint := opening tenantId migrationId phase (progress.latest tenantId migrationId)
    checkpoint.tenantId = tenantId ∧ checkpoint.migrationId = migrationId ∧ checkpoint.phase =
      phase ∧ checkpoint.sourceCount ≤ maxMigrationExpectedRecords ∧ checkpoint.targetCount ≤
      maxMigrationExpectedRecords := by
  cases found : progress.latest tenantId migrationId with
  | none => exact ⟨rfl, rfl, rfl, Nat.zero_le _, Nat.zero_le _⟩
  | some current =>
    have named := List.find?_some found
    rw [decide_eq_true_eq] at named
    obtain ⟨sourceCount, targetCount⟩ := bounded current (List.mem_of_find?_eq_some found)
    dsimp only [opening]
    split
    case isTrue same => exact ⟨named.1, named.2, same.1, sourceCount, targetCount⟩
    case isFalse => exact ⟨named.1, named.2, rfl, sourceCount, targetCount⟩

/-- The call returns, the target is as the hooks leave it, and the checkpoint
that counts is a completed rollback. -/
def RolledBack (system : MigrationSystem Double Target)
    (coordinator : MigrationCoordinator) (tenantId migrationId : String)
    (progress : Progress Target) (after : Target) (rounds : Nat) : Prop :=
  ∃ result checkpoint, execute system.alone (coordinator.run system.python tenantId migrationId
      .rollback rounds) progress = (.ok result, ⟨after, checkpoint :: progress.saved⟩) ∧
    result.phase = .rollback ∧
    (⟨after, checkpoint :: progress.saved⟩ : Progress Target).latest
      tenantId migrationId = some checkpoint ∧
    checkpoint.phase = .rollback ∧ checkpoint.completed = true

theorem execute_rollback (bounded : progress.Bounded)
    (scope : coordinator.validateScope tenantId migrationId = .ok ())
    (unchanged : ∀ manifest ∈ coordinator.manifest, SourceUnchanged system tenantId manifest)
    {after : Target} (works : RollsBack system tenantId progress.target after) (rounds : Nat) :
    let checkpoint := complete
      (opening tenantId migrationId .rollback (progress.latest tenantId migrationId))
    let done : Progress Target := ⟨after, checkpoint :: progress.saved⟩
    done.latest tenantId migrationId = some checkpoint ∧ checkpoint.phase = .rollback ∧
      execute system.alone (coordinator.runOnce system.python tenantId migrationId .rollback rounds)
        progress = execute system.alone (do
          let target ← coordinator.targetSnapshot system.python tenantId rounds coordinator.kinds []
          return result checkpoint .rollback target) done := by
  intro checkpoint done
  obtain ⟨tenant, migration, phase, sourceCount, targetCount⟩ :
      checkpoint.tenantId = tenantId ∧ checkpoint.migrationId = migrationId ∧
        checkpoint.phase = .rollback ∧ _ := opening_latest bounded .rollback
  have loaded : execute system.alone (load tenantId migrationId).await progress =
      (.ok (progress.latest tenantId migrationId), progress) := rfl
  have saves : execute system.alone (coordinator.saveCheckpoint checkpoint)
      { progress with target := after } = (.ok (), done) :=
    execute_saveCheckpoint coordinator sourceCount targetCount
  refine ⟨List.find?_cons_of_pos (by simp [tenant, migration]), phase, ?_⟩
  rw [runOnce]
  refine (execute_bind_ok (check_eq scope)).trans ?_
  refine (execute_bind_ok (validateSourceSnapshot_eq_ok.mpr ⟨rfl, unchanged⟩)).trans ?_
  refine (execute_bind_ok loaded).trans ?_
  refine (execute_bind_ok (check_eq (if_pos rfl))).trans ?_
  refine (execute_bind_ok (execute_rollbackPhase works)).trans ?_
  refine (execute_bind_ok saves).trans ?_
  exact execute_bind_ok (validateSourceSnapshot_eq_ok.mpr ⟨rfl, unchanged⟩)

end Rollback

def emptySource : MigrationSystem Unit Unit := { twoMemories with redis := .empty }

def emptyManifest : MigrationScopeManifest where
  tenantId := "tenant-a"
  migrationId := "m"
  kinds := canonicalRedisMigrationKinds
  sourceSnapshotId := emptySource.python.sha256 (encodeUtf8 ("0:" ++ hexDigest emptyChecksum))
  sourceCount := 0
  sourceChecksum := emptyChecksum
  appId := "app"
  appRevision := 1
  configVersion := 1
  bindingId := "b"
  bindingRevision := 1

def manifested : MigrationCoordinator where
  batchSize := 1
  positive := by decide
  bounded := by decide
  guarded := true
  manifest := some emptyManifest

def prepared : Progress Unit :=
  (execute emptySource.alone (manifested.run emptySource.python "tenant-a" "m"
    .prepare 3) ⟨(), []⟩).2

/-- A target that refuses to be listed does no harm. -/
def unlisted : MigrationSystem Unit Unit :=
  { emptySource with
    target := { emptySource.target with
      listRecordsPage := fun _ _ _ _ _ => .error (.valueError "unsupported") } }

end TrpcService.Migration
