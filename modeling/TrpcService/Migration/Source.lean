import Mathlib.Data.List.Dedup
import Mathlib.Data.Prod.Lex
import TrpcService.Data.Dict
import TrpcService.Data.Glob
import TrpcService.Migration.Records

namespace TrpcService.Migration

open Data

variable {Double : Type}

/-! The Redis side of a migration: which keys belong to a tenant, in which
order they are read, and how a cursor stands for a position among them. -/

def maxMigrationBatchSize : Nat := 10000

def maxMigrationExpectedRecords : Nat := 1000000

def startsWith (text start : String) : Bool := start.toList.isPrefixOf text.toList

/-- `text[len(start):]`. -/
def after (start text : String) : String := String.ofList (text.toList.drop start.toList.length)

def projectionPrefix : String := "trpc:projection:session:"

def memoryPrefix : String := "trpc:memory:"

def projectionV2Prefix : String := "trpc:projection:session:v2:"

/-- `RedisProjectionStore.key`. -/
def projectionKey (tenantId sessionId : String) : String :=
  projectionV2Prefix ++ encodePart tenantId ++ "." ++ encodePart sessionId

def decodeProjectionV2Key (key tenantId : String) : Option String :=
  if startsWith key projectionV2Prefix then
    match partitionDot (after projectionV2Prefix key).toList with
    | (tenantPart, '.' :: sessionPart) =>
        if tenantPart = [] ∨ sessionPart = [] then none
        else
          match decodePart tenantPart, decodePart sessionPart with
          | some decodedTenant, some decodedSession =>
              if decodedTenant = tenantId then some decodedSession else none
          | _, _ => none
    | _ => none
  else none

inductive RedisValue where
  | string (text : String)
  | hash (fields : List (String × String))
  | other (type : String)
  deriving DecidableEq, Repr

abbrev Redis := Dict String RedisValue

/-- What one `SCAN` per pattern returns while nothing is written: every key
that matches, in any order and any number of times. -/
def Redis.Scans (redis : Redis) (scan : String → List String) : Prop :=
  ∀ pattern key, key ∈ scan pattern ↔
    key ∈ redis.keys ∧ Glob.isMatch pattern.toList key.toList = true

def Redis.scan (redis : Redis) (pattern : String) : List String :=
  redis.keys.filter fun key => Glob.isMatch pattern.toList key.toList

theorem Redis.scans_scan (redis : Redis) : redis.Scans redis.scan := fun _ _ => List.mem_filter

structure SourceKey where
  kind : RecordKind
  resourceId : String
  key : String
  deriving DecidableEq, Repr

structure RedisMigrationSource where
  sessionPrefix : String := projectionPrefix
  memoryPrefix : String := Migration.memoryPrefix
  kinds : List RecordKind
  nodup : kinds.Nodup
  supported : kinds ⊆ canonicalRedisMigrationKinds

namespace RedisMigrationSource

variable (source : RedisMigrationSource)

def prefixOf : RecordKind → String
  | .session => source.sessionPrefix
  | _ => source.memoryPrefix

def redisPatternLiteral (text : String) : String := String.ofList (Glob.escape text.toList)

variable (tenantId : String)

def patterns (kind : RecordKind) : List String :=
  (source.prefixOf kind ++ redisPatternLiteral tenantId ++ ":*") ::
    if kind = .session ∧ source.prefixOf kind = projectionPrefix then [projectionV2Prefix ++ "*"]
    else []

def resourceOf (kind : RecordKind) (key : String) : Option String :=
  let resource :=
    match decodeProjectionV2Key key tenantId with
    | some decoded => some decoded
    | none =>
        let tenantPrefix := source.prefixOf kind ++ tenantId ++ ":"
        if startsWith key tenantPrefix then some (after tenantPrefix key)
        else none
  resource.filter (· ≠ "")

def discovered (scan : String → List String) : List SourceKey :=
  source.kinds.flatMap fun kind => (source.patterns tenantId kind).flatMap fun pattern =>
      (scan pattern).filterMap fun key =>
        (source.resourceOf tenantId kind key).map fun resourceId => ⟨kind, resourceId, key⟩

def rank (kind : RecordKind) : Nat := source.kinds.idxOf kind

variable (tenantId : String)

/-- The v2 key of a session comes before a legacy one. -/
def preference (item : SourceKey) : Nat := if item.kind = .session ∧
      (decodeProjectionV2Key item.key tenantId).isSome then 0
  else 1

def sortKey (item : SourceKey) : Nat ×ₗ String ×ₗ Nat ×ₗ String :=
  toLex (source.rank item.kind, toLex (item.resourceId, toLex (preference tenantId item, item.key)))

def Before (first second : SourceKey) : Prop :=
  source.sortKey tenantId first ≤ source.sortKey tenantId second

instance (tenantId : String) : DecidableRel (source.Before tenantId) :=
  fun first second => inferInstanceAs (Decidable
    (source.sortKey tenantId first ≤ source.sortKey tenantId second))

/-- Keep the first key of every resource that has not been seen. -/
def firstOfEach : List (RecordKind × String) → List SourceKey → List SourceKey
  | _, [] => []
  | seen, item :: rest =>
      if (item.kind, item.resourceId) ∈ seen then firstOfEach seen rest
      else item :: firstOfEach ((item.kind, item.resourceId) :: seen) rest

def arrange (tenantId : String) (found : List SourceKey) : List SourceKey :=
  firstOfEach [] (found.dedup.insertionSort (source.Before tenantId))

/-- `_tenant_keys`, given what the scans return. -/
def tenantKeys (tenantId : String) (scan : String → List String) :
    Except MigrationError (List SourceKey) :=
  let found := source.discovered tenantId scan
  if maxMigrationExpectedRecords < found.length then .error (.guardError
      "migration source exceeds MAX_MIGRATION_EXPECTED_RECORDS")
  else .ok (source.arrange tenantId found)

def keys (redis : Redis) (tenantId : String) : List SourceKey :=
  source.arrange tenantId (source.discovered tenantId redis.scan)

end RedisMigrationSource

section Reading

variable (python : Python Double) (redis : Redis) (tenantId : String)

def readValue (key : String) : Except MigrationError (JsonValue Double) :=
  match redis.get? key with
  | none => .ok .none
  | some (.string text) => .ok (python.jsonValue (.str text))
  | some (.hash fields) =>
      match fields.lookup "payload" with
      | some payload => .ok (python.jsonValue (.str payload))
      | none => .ok (.dict (fields.map fun (field, value) =>
          (field, python.jsonValue (.str value))))
  | some (.other type) => .error (.valueError s!"unsupported Redis migration key type: {type}")

def canonicalPayload (kind : RecordKind) (resourceId : String)
    (value : JsonValue Double) : Except MigrationError (Fields Double) :=
  match value, kind with
  | .dict fields, .session =>
      (·.fields) <$> canonicalSessionPayload python tenantId resourceId fields
  | .dict fields, _ => (·.fields) <$> canonicalMemoryPayload python fields
  | _, kind =>
      let kind := kind.value
      let name := python.quote resourceId
      .error (.valueError s!"Redis {kind} record {name} must contain a JSON object")

def canonicalRecord (item : SourceKey × JsonValue Double) :
    Except MigrationError (MigrationRecord Double) :=
  (⟨item.1.kind, item.1.resourceId, ·⟩) <$>
    canonicalPayload python tenantId item.1.kind item.1.resourceId item.2

/-- All values are read before the first one is looked at. -/
def readRecords (keys : List SourceKey) :
    Except MigrationError (List (MigrationRecord Double)) := do
  let values ← keys.mapM fun item => readValue python redis item.key
  (keys.zip values).mapM (canonicalRecord python tenantId)

def readRecord (item : SourceKey) :
    Except MigrationError (MigrationRecord Double) := do
  let value ← readValue python redis item.key
  canonicalRecord python tenantId (item, value)

end Reading

def encodeSourceCursor (python : Python Double) (item : SourceKey) : String :=
  encodePart (python.dumps (.list [.str item.kind.value, .str item.resourceId, .str item.key]))

def kindOrder (keys : List SourceKey) : List RecordKind := keys.foldl (fun order item =>
      if item.kind ∈ order then order else order ++ [item.kind]) []

def cursorSortKey (order : List RecordKind) (item : SourceKey) : Nat ×ₗ String ×ₗ String :=
  toLex (order.idxOf item.kind, toLex (item.resourceId, item.key))

def invalidCursor {α : Type} : Except MigrationError α :=
  .error (.valueError "migration cursor is invalid")

def cursorOutside {α : Type} : Except MigrationError α :=
  .error (.valueError "migration cursor is outside the source snapshot")

def parseCursor (python : Python Double) (cursor : String)
    (upperBound : Nat) : Except MigrationError Nat :=
  match python.intOfStr cursor with
  | none => .error (.valueError "migration cursor must be a non-negative integer")
  | some value =>
      if value < 0 ∨ (upperBound : Int) < value then cursorOutside
      else .ok value.toNat

def bisect (below : Nat → Bool) : Nat → Nat → Nat → Nat
  | 0, left, _ => left
  | rounds + 1, left, right =>
      if left < right then if below ((left + right) / 2) then
          bisect below rounds ((left + right) / 2 + 1) right
        else bisect below rounds left ((left + right) / 2)
      else left

def reaches (keys : List SourceKey) (cursor : SourceKey) (index : Nat) : Bool :=
  match keys[index]? with
  | some item => cursorSortKey (kindOrder keys) item ≤ cursorSortKey (kindOrder keys) cursor
  | none => false

variable (python : Python Double)

def cursorPosition (cursor : Option String) (keys : List SourceKey) : Except MigrationError Nat :=
  match cursor with
  | none => .ok 0
  | some cursor =>
      if python.isDecimal cursor then parseCursor python cursor keys.length
      else
        match (decodePart cursor.toList).bind python.loads with
        | some (.list [.str kind, .str resourceId, .str key]) =>
            match (kindOrder keys).find? (·.value = kind) with
            | none => cursorOutside
            | some kind =>
                let cursorKey := ⟨kind, resourceId, key⟩
                let left := bisect (reaches keys cursorKey) keys.length 0 keys.length
                if left = 0 ∨ keys[left - 1]? ≠ some cursorKey then cursorOutside
                else .ok left
        | _ => invalidCursor

def selectPage (keys : List SourceKey)
    (cursor : Option String) (limit : Nat) :
    Except MigrationError (List SourceKey × Option String) := do
  let start ← cursorPosition python cursor keys
  let selected := (keys.drop start).take limit
  let next :=
    if start + selected.length < keys.length then
      selected.getLast?.map (encodeSourceCursor python)
    else none
  return (selected, next)

/-- `fetch`, with the keys that were discovered. -/
def fetch (redis : Redis) (tenantId : String)
    (keys : List SourceKey) (cursor : Option String) (limit : Nat) :
    Except MigrationError (List (MigrationRecord Double) × Option String) := do
  if limit < 1 then
    throw (.valueError "migration source limit must be positive")
  let (selected, next) ← selectPage python keys cursor limit
  let records ← readRecords python redis tenantId selected
  return (records, next)

structure MigrationSourceSnapshot where
  sourceSnapshotId : Digest
  sourceCount : Nat
  sourceChecksum : Digest
  deriving DecidableEq

/-- `snapshot`, with the keys that were discovered anew. -/
def snapshot (redis : Redis) (tenantId : String)
    (keys : List SourceKey) :
    Except MigrationError MigrationSourceSnapshot := do
  let records ← readRecords python redis tenantId keys
  let checksum := checksumAll python emptyChecksum records
  let count := records.length
  let shown := hexDigest checksum
  return ⟨python.sha256 (encodeUtf8 s!"{count}:{shown}"), count, checksum⟩

end TrpcService.Migration
