import Mathlib.Algebra.GroupWithZero.Nat
import TrpcService.Migration.Source

namespace TrpcService.Migration

open Data

variable {Double : Type}

/-! The coordinator of a migration.  It runs one phase at a time, and what it
has to know after a crash is in a checkpoint. -/

abbrev Time := Int

inductive MigrationPhase where
  | prepare
  | backfill
  | shadowRead
  | dualWrite
  | cutover
  | verify
  | cleanup
  | rollback
  deriving DecidableEq, Repr

/-- `_ORDER`. -/
def MigrationPhase.order : List MigrationPhase :=
  [.prepare, .backfill, .shadowRead, .dualWrite, .cutover, .verify, .cleanup]

structure MigrationCheckpoint where
  tenantId : String
  migrationId : String
  phase : MigrationPhase
  cursor : Option String := none
  sourceCount : Nat := 0
  targetCount : Nat := 0
  checksum : Digest := emptyChecksum
  differences : List String := []
  completed : Bool := false
  deriving DecidableEq

structure MigrationScopeManifest where
  tenantId : String
  migrationId : String
  kinds : List RecordKind
  sourceSnapshotId : Digest
  sourceCount : Nat
  sourceChecksum : Digest
  appId : String
  appRevision : Int
  configVersion : Int
  bindingId : String
  bindingRevision : Int
  deriving DecidableEq

structure MigrationResult where
  phase : MigrationPhase
  sourceCount : Nat
  targetCount : Nat
  checksum : Digest
  targetChecksum : Digest
  rejectionReasons : List String
  deriving DecidableEq

inductive CoordinatorEffect (Double : Type) where
  | load (tenantId migrationId : String)
  | save (checkpoint : MigrationCheckpoint)
  | snapshot (tenantId : String)
  | fetch (tenantId : String) (cursor : Option String) (limit : Nat)
  | prepare (tenantId : String)
  | upsert (tenantId : String) (record : MigrationRecord Double)
  | read (tenantId : String) (kind : RecordKind) (resourceId : String)
  | listRecordsPage (tenantId : String) (kind : RecordKind) (cursor : Option String) (limit : Nat)
  | setDualWrite (tenantId : String) (enabled : Bool)
  | cutover (tenantId : String)
  | cleanup (tenantId : String)
  | rollback (tenantId : String)
  | startHeartbeat
  | stopHeartbeat
  | raiseHeartbeatError
  | renew
  | assertActive

open CoordinatorEffect

namespace CoordinatorEffect

def Answer : CoordinatorEffect Double → Type
  | .load _ _ => Option MigrationCheckpoint
  | .snapshot _ => MigrationSourceSnapshot
  | .fetch _ _ _ => List (MigrationRecord Double) × Option String
  | .read _ _ _ => Option (MigrationRecord Double)
  | .listRecordsPage _ _ _ _ => List (MigrationRecord Double) × Option String
  | _ => Unit

end CoordinatorEffect

abbrev CoordinatorProgram (Double : Type) :=
  Coroutine (CoordinatorEffect Double) Answer MigrationError

def CoordinatorEffect.await (effect : CoordinatorEffect Double) :
    CoordinatorProgram Double effect.Answer :=
  Coroutine.perform effect

def check {α : Type} (result : Except MigrationError α) : CoordinatorProgram Double α :=
  .done result

def ensureRecordCount (value : Nat) (label : String) : Except MigrationError Unit :=
  if maxMigrationExpectedRecords < value then
    .error (.guardError s!"{label} exceeds MAX_MIGRATION_EXPECTED_RECORDS")
  else .ok ()

structure MigrationCoordinator where
  batchSize : Nat
  positive : 1 ≤ batchSize
  bounded : batchSize ≤ maxMigrationBatchSize
  guarded : Bool := false
  manifest : Option MigrationScopeManifest := none

namespace MigrationCoordinator

variable (coordinator : MigrationCoordinator) (python : Python Double)

def renewLease : CoordinatorProgram Double Unit :=
  if coordinator.guarded then do
    raiseHeartbeatError.await
    renew.await
  else pure ()

def assertLease : CoordinatorProgram Double Unit := do
  raiseHeartbeatError.await
  if coordinator.guarded then
    assertActive.await
    raiseHeartbeatError.await
  else pure ()

def saveCheckpoint (checkpoint : MigrationCheckpoint) :
    CoordinatorProgram Double Unit := do
  coordinator.renewLease
  (save checkpoint).await

def validateScope (tenantId migrationId : String) : Except MigrationError Unit :=
  match coordinator.manifest with
  | none => .ok ()
  | some manifest =>
      if manifest.tenantId ≠ tenantId ∨ manifest.migrationId ≠ migrationId then
        .error (.manifestConflict "requested migration is outside the immutable manifest")
      else .ok ()

def validateSourceSnapshot (tenantId : String) : CoordinatorProgram Double Unit :=
  match coordinator.manifest with
  | none => pure ()
  | some manifest => do
      let observed ← (CoordinatorEffect.snapshot tenantId).await
      check (ensureRecordCount observed.sourceCount "source snapshot")
      if observed.sourceSnapshotId ≠ manifest.sourceSnapshotId ∨
          observed.sourceCount ≠ manifest.sourceCount ∨
          observed.sourceChecksum ≠ manifest.sourceChecksum then
        throw (.manifestConflict
          "migration source changed after the immutable manifest was created")
      else pure ()

def validateManifestTotals (checkpoint : MigrationCheckpoint) : Except MigrationError Unit :=
  match coordinator.manifest with
  | none => .ok ()
  | some manifest =>
      if ¬ checkpoint.completed then .ok ()
      else if checkpoint.sourceCount ≠ manifest.sourceCount then .error (.manifestConflict
          "migration source count does not match the immutable manifest")
      else if checkpoint.checksum ≠ manifest.sourceChecksum then .error (.manifestConflict
          "migration source checksum does not match the immutable manifest")
      else .ok ()

def validateTransition (current : Option MigrationCheckpoint)
    (requested : MigrationPhase) : Except MigrationError Unit :=
  if requested = .rollback then .ok ()
  else
    match current with
    | none =>
        if requested ≠ .prepare then .error (.valueError "migration must start with prepare")
        else .ok ()
    | some current =>
        if current.phase = requested ∧ ¬ current.completed then .ok ()
        else if ¬ current.completed then
          .error (.valueError "current migration phase has not completed")
        else
          match MigrationPhase.order.findIdx? (· = current.phase) with
          | none => .error (.valueError "tuple.index(x): x not in tuple")
          | some index =>
              if MigrationPhase.order[index + 1]? = some requested then .ok ()
              else .error (.valueError "migration phases must run in order")

def copyRecords (tenantId : String) :
    List (MigrationRecord Double) → Digest → CoordinatorProgram Double Digest
  | [], checksum => pure checksum
  | record :: rest, checksum => do
      coordinator.assertLease
      (upsert tenantId record).await
      copyRecords tenantId rest
        (rollingChecksum python checksum (record.checksum python))

def advanced (checkpoint : MigrationCheckpoint) (copied : Nat)
    (checksum : Digest) (next : Option String) : MigrationCheckpoint :=
  { checkpoint with
    cursor := next
    sourceCount := checkpoint.sourceCount + copied
    targetCount := checkpoint.sourceCount + copied
    checksum := checksum
    completed := next.isNone }

/-- For a number of pages; then the process stops. -/
def copyAll : Nat → MigrationCheckpoint →
    CoordinatorProgram Double MigrationCheckpoint
  | 0, _ => throw .stopped
  | rounds + 1, checkpoint => do
      let (records, next) ← (CoordinatorEffect.fetch checkpoint.tenantId
        checkpoint.cursor coordinator.batchSize).await
      if coordinator.batchSize < records.length then
        throw (.guardError "source page exceeded the migration batch bound")
      else
        check (ensureRecordCount (checkpoint.sourceCount + records.length)
          "migration backfill")
        let checksum ← coordinator.copyRecords python checkpoint.tenantId
          records checkpoint.checksum
        let after := advanced checkpoint records.length checksum next
        check (coordinator.validateManifestTotals after)
        coordinator.saveCheckpoint after
        if next = none then return after
        else if records = [] ∨ next = checkpoint.cursor then
          throw (.guardError "source pagination did not advance")
        else copyAll rounds after

/-- `_enumerate_target_kind`, from a cursor on. -/
def enumerateTargetKind (tenantId : String) (kind : RecordKind) :
    Nat → Option String → List (MigrationRecord Double) →
      CoordinatorProgram Double (List (MigrationRecord Double))
  | 0, _, _ => throw .stopped
  | rounds + 1, cursor, values => do
      let (page, next) ← (listRecordsPage tenantId kind
        cursor coordinator.batchSize).await
      if coordinator.batchSize < page.length then
        throw (.guardError "target page exceeded the migration batch bound")
      else
        check (ensureRecordCount (values ++ page).length "target enumeration")
        if next = none then return values ++ page
        else if page = [] ∨ next = cursor then
          throw (.guardError "target pagination did not advance")
        else enumerateTargetKind tenantId kind rounds next (values ++ page)

abbrev TargetView (Double : Type) := List (RecordKind × List (MigrationRecord Double))

def TargetView.count (view : TargetView Double) : Nat :=
  (view.map fun (_, records) => records.length).sum

/-- Of two records with one id the one read last is kept. -/
def TargetView.checksum? (view : TargetView Double) (kind : RecordKind)
    (resourceId : String) : Option Digest :=
  ((view.lookup kind).getD []).reverse.findSome? fun record =>
    if record.resourceId = resourceId then some (record.checksum python)
    else none

def isValueError : MigrationError → Bool
  | .valueError _ => true
  | _ => false

def kinds : List RecordKind :=
  match coordinator.manifest with
  | some manifest => manifest.kinds
  | none => canonicalRedisMigrationKinds

/-- All kinds, or nothing if one of them raises a `ValueError`. -/
def enumerateTarget (tenantId : String) (rounds : Nat) :
    List RecordKind → TargetView Double →
      CoordinatorProgram Double (Option (TargetView Double))
  | [], view => pure (some view)
  | kind :: rest, view => do
      let records ← tryCatch
        (some <$> coordinator.enumerateTargetKind tenantId kind rounds none [])
        fun error =>
          if isValueError error then pure none else throw error
      match records with
      | none => pure none
      | some records =>
          let view := view ++ [(kind, records)]
          check (ensureRecordCount view.count "target verification")
          enumerateTarget tenantId rounds rest view

structure Comparison where
  sourceCount : Nat := 0
  targetCount : Nat
  checksum : Digest := emptyChecksum
  differences : List String := []
  seen : List (RecordKind × String) := []
  deriving DecidableEq

def difference (kind : RecordKind) (resourceId : String) : String := kind.value ++ "/" ++ resourceId

def Comparison.add (comparison : Comparison) (record : MigrationRecord Double)
    (read : Nat) (target : Option Digest) : Comparison :=
  { sourceCount := comparison.sourceCount + 1
    targetCount := comparison.targetCount + read
    checksum :=
      rollingChecksum python comparison.checksum (record.checksum python)
    differences := comparison.differences ++
      if target = some (record.checksum python) then []
      else [difference record.kind record.resourceId]
    seen := comparison.seen ++ [(record.kind, record.resourceId)] }

def compareRecords (tenantId : String) (view : Option (TargetView Double)) :
    List (MigrationRecord Double) → Comparison →
      CoordinatorProgram Double Comparison
  | [], comparison => pure comparison
  | record :: rest, comparison =>
      match view with
      | some targets =>
          compareRecords tenantId view rest (comparison.add python record 0
            (TargetView.checksum? python targets record.kind
              record.resourceId))
      | none => do
          let target ← (read tenantId record.kind
            record.resourceId).await
          compareRecords tenantId view rest (comparison.add python record
            (if target.isSome then 1 else 0)
            (target.map (MigrationRecord.checksum python)))

def comparePages (tenantId : String) (view : Option (TargetView Double)) :
    Nat → Option String → Comparison → CoordinatorProgram Double Comparison
  | 0, _, _ => throw .stopped
  | rounds + 1, cursor, comparison => do
      coordinator.assertLease
      let (records, next) ← (CoordinatorEffect.fetch tenantId cursor
        coordinator.batchSize).await
      check (ensureRecordCount (comparison.sourceCount + records.length)
        "source verification")
      if next ≠ none ∧ (records = [] ∨ next = cursor) then
        throw (.guardError "source pagination did not advance")
      else
        let comparison ← compareRecords python tenantId view records comparison
        if next = none then return comparison
        else comparePages tenantId view rounds next comparison

def targetOnly (kind : RecordKind) (resourceId : String) : String :=
  "target-only:" ++ kind.value ++ "/" ++ resourceId

def onlyInTarget (seen : List (RecordKind × String)) (view : TargetView Double) : List String :=
  view.flatMap fun (kind, records) =>
    (((records.map MigrationRecord.resourceId).dedup.filter fun resourceId =>
      !seen.contains (kind, resourceId)).insertionSort (· ≤ ·)).map (targetOnly kind)

def compared (checkpoint : MigrationCheckpoint) (comparison : Comparison)
    (differences : List String) : MigrationCheckpoint :=
  { checkpoint with
    sourceCount := comparison.sourceCount
    targetCount := comparison.targetCount
    checksum := comparison.checksum
    differences := differences
    completed := differences.isEmpty }

def compareAll (rounds : Nat) (checkpoint : MigrationCheckpoint)
    (rejectDifferences : Bool) :
    CoordinatorProgram Double MigrationCheckpoint := do
  let view ← coordinator.enumerateTarget checkpoint.tenantId rounds
    coordinator.kinds []
  let comparison ← coordinator.comparePages python checkpoint.tenantId view
    rounds none { targetCount := (view.getD []).count }
  let differences := comparison.differences ++
    onlyInTarget comparison.seen (view.getD [])
  let result := compared checkpoint comparison differences
  check (coordinator.validateManifestTotals result)
  coordinator.saveCheckpoint result
  if rejectDifferences ∧ differences ≠ [] then
    throw (.valueError "migration verification found differences")
  else return result

/-- `_target_snapshot`: what the target holds, if it can be enumerated. -/
def targetSnapshot (tenantId : String) (rounds : Nat) :
    List RecordKind → List (MigrationRecord Double) →
      CoordinatorProgram Double (Option (Nat × Digest))
  | [], records =>
      pure (some (records.length, checksumAll python emptyChecksum records))
  | kind :: rest, records => do
      let values ← tryCatch
        (some <$> coordinator.enumerateTargetKind tenantId kind rounds none [])
        fun error =>
          if isValueError error then pure none else throw error
      match values with
      | none => pure none
      | some values =>
          targetSnapshot tenantId rounds rest (records ++
            values.insertionSort fun first second =>
              first.resourceId ≤ second.resourceId)

def opening (tenantId migrationId : String) (phase : MigrationPhase)
    (current : Option MigrationCheckpoint) : MigrationCheckpoint :=
  match current with
  | none => { tenantId, migrationId, phase }
  | some current =>
      if current.phase = phase ∧ ¬ current.completed then current
      else { current with phase, cursor := none, completed := false }

def complete (checkpoint : MigrationCheckpoint) : MigrationCheckpoint :=
  { checkpoint with completed := true }

def runPhase (tenantId : String) (rounds : Nat) (phase : MigrationPhase)
    (checkpoint : MigrationCheckpoint) : CoordinatorProgram Double MigrationCheckpoint :=
  match phase with
  | .prepare => do
      coordinator.assertLease
      (prepare tenantId).await
      return complete checkpoint
  | .backfill => coordinator.copyAll python rounds checkpoint
  | .shadowRead => coordinator.compareAll python rounds checkpoint false
  | .dualWrite => do
      coordinator.assertLease
      (setDualWrite tenantId true).await
      return complete checkpoint
  | .cutover => do
      coordinator.assertLease
      (cutover tenantId).await
      return complete checkpoint
  | .verify => coordinator.compareAll python rounds checkpoint true
  | .cleanup => do
      coordinator.assertLease
      (cleanup tenantId).await
      coordinator.assertLease
      (setDualWrite tenantId false).await
      return complete checkpoint
  | .rollback => do
      coordinator.assertLease
      (rollback tenantId).await
      coordinator.assertLease
      (setDualWrite tenantId false).await
      return complete checkpoint

def result (checkpoint : MigrationCheckpoint) (phase : MigrationPhase)
    (target : Option (Nat × Digest)) : MigrationResult where
  phase := phase
  sourceCount := checkpoint.sourceCount
  targetCount := (target.map Prod.fst).getD checkpoint.targetCount
  checksum := checkpoint.checksum
  targetChecksum := (target.map Prod.snd).getD checkpoint.checksum
  rejectionReasons := checkpoint.differences.map ("record differs: " ++ ·)

def runOnce (tenantId migrationId : String) (phase : MigrationPhase)
    (rounds : Nat) : CoordinatorProgram Double MigrationResult := do
  check (coordinator.validateScope tenantId migrationId)
  coordinator.validateSourceSnapshot tenantId
  let current ← (load tenantId migrationId).await
  check (validateTransition current phase)
  let checkpoint ← coordinator.runPhase python tenantId rounds phase
    (opening tenantId migrationId phase current)
  coordinator.saveCheckpoint checkpoint
  coordinator.validateSourceSnapshot tenantId
  let target ← coordinator.targetSnapshot python tenantId rounds
    coordinator.kinds []
  return result checkpoint phase target

/-- The heartbeat is stopped on every way out; its error is raised unless
there is another one. -/
def leaseLiveness {α : Type} (program : CoordinatorProgram Double α) :
    CoordinatorProgram Double α := do
  startHeartbeat.await
  let value ← tryCatch
    (do
      coordinator.assertLease
      let value ← program
      raiseHeartbeatError.await
      return value)
    fun error => do
      stopHeartbeat.await
      throw error
  stopHeartbeat.await
  raiseHeartbeatError.await
  return value

def run (tenantId migrationId : String) (phase : MigrationPhase)
    (rounds : Nat) : CoordinatorProgram Double MigrationResult :=
  if coordinator.guarded then coordinator.leaseLiveness
      (coordinator.runOnce python tenantId migrationId phase rounds)
  else coordinator.runOnce python tenantId migrationId phase rounds

end MigrationCoordinator

end TrpcService.Migration
