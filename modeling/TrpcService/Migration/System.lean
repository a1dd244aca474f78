import TrpcService.Migration.Coordinator
import TrpcService.Migration.SourceOrder

namespace TrpcService.Migration

open Data MigrationCoordinator

variable {Double Target : Type}

/-! What a coordinator works on: a source in Redis and a target. -/

structure MigrationTarget (Double Target : Type) where
  prepare : Target → String → Except MigrationError Unit
  upsert : Target → String → MigrationRecord Double → Except MigrationError Target
  read : Target → String → RecordKind → String →
    Except MigrationError (Option (MigrationRecord Double))
  listRecordsPage : Target → String → RecordKind → Option String → Nat →
    Except MigrationError (List (MigrationRecord Double) × Option String)
  setDualWrite : Target → String → Bool → Except MigrationError Target
  cutover : Target → String → Except MigrationError Target
  cleanup : Target → String → Except MigrationError Target
  rollback : Target → String → Except MigrationError Target

structure MigrationSystem (Double Target : Type) where
  python : Python Double
  source : RedisMigrationSource
  redis : Redis
  target : MigrationTarget Double Target

namespace MigrationWorld

/-- The keys of the tenant, as a scan finds them or as they were found before;
that is the same as long as nobody writes to the source. -/
def fetch (system : MigrationSystem Double Target)
    (scan : String → List String) (tenantId : String)
    (cursor : Option String) (limit : Nat) :
    Except MigrationError
      (List (MigrationRecord Double) × Option String) := do
  let keys ← system.source.tenantKeys tenantId scan
  Migration.fetch system.python system.redis tenantId keys cursor limit

end MigrationWorld

namespace MigrationSystem

variable (system : MigrationSystem Double Target)

def keysOf (tenantId : String) : List SourceKey := system.source.keys system.redis tenantId

def read (tenantId : String) (keys : List SourceKey) :
    Except MigrationError (List (MigrationRecord Double)) :=
  readRecords system.python system.redis tenantId keys

end MigrationSystem

def twoMemories : MigrationSystem Unit Unit where
  python := tablePython [("{}", .dict [("user_id", .str "u")])] fun _ => ""
  source :=
    { kinds := canonicalRedisMigrationKinds
      nodup := by decide
      supported := List.Subset.refl _ }
  redis := (Dict.empty.set "trpc:memory:tenant-a:1" (.string "{}")).set
    "trpc:memory:tenant-a:2" (.string "{}")
  target :=
    { prepare := fun _ _ => .ok ()
      upsert := fun _ _ _ => .ok ()
      read := fun _ _ _ _ => .ok none
      listRecordsPage := fun _ _ _ _ _ => .ok ([], none)
      setDualWrite := fun _ _ _ => .ok ()
      cutover := fun _ _ => .ok ()
      cleanup := fun _ _ => .ok ()
      rollback := fun _ _ => .ok () }

end TrpcService.Migration
