import Mathlib.Data.List.Sort
import Mathlib.Data.String.Basic
import TrpcService.Data.Coroutine
import TrpcService.Data.EncodedText

namespace TrpcService.Migration

open Data

/-! The records a migration moves: how they are read from what Redis holds, and
the canonical form in which source and target are compared. -/

abbrev Digest := List UInt8

inductive MigrationError where
  | valueError (message : String)
  | typeError
  | overflowError
  | runtimeError (message : String)
  | guardError (message : String)
  | manifestConflict (message : String)
  | leaseConflict (message : String)
  | leaseLost (message : String)
  | targetNotEmpty (message : String)
  /-- The connection is gone, or the database refuses a value or a row. -/
  | database
  /-- The process has come to its end. -/
  | stopped
  deriving DecidableEq, Repr

/-- The standard library, as far as records depend on it. -/
structure Python (Double : Type) where
  /-- Without an exception. -/
  loads : String → Option (JsonValue Double)
  dumps : JsonValue Double → String
  /-- With `sort_keys`. -/
  dumpsSorted : JsonValue Double → String
  /-- `str` of what is not a string. -/
  repr : JsonValue Double → String
  intOfStr : String → Option Int
  intOfFloat : Double → Except MigrationError Int
  floatOfStr : String → Option Double
  floatOfInt : Int → Except MigrationError Double
  zero : Double
  isZero : Double → Bool
  isDecimal : String → Bool
  sha256 : List UInt8 → Digest

variable {Double : Type}

/-- `dict.get`. -/
def dictGet (fields : Fields Double) (name : String)
    (default : JsonValue Double) : JsonValue Double :=
  (fields.lookup name).getD default

namespace Python

variable (python : Python Double)

def truth : JsonValue Double → Bool
  | .none => false
  | .bool value => value
  | .int value => value ≠ 0
  | .float value => !python.isZero value
  | .str value => value ≠ ""
  | .list items => !items.isEmpty
  | .dict fields => !fields.isEmpty

/-- `first or second`. -/
def either (first second : JsonValue Double) : JsonValue Double :=
  if python.truth first then first else second

def int : JsonValue Double → Except MigrationError Int
  | .bool value => .ok (if value then 1 else 0)
  | .int value => .ok value
  | .float value => python.intOfFloat value
  | .str value =>
      match python.intOfStr value with
      | some value => .ok value
      | none => .error (.valueError "invalid literal for int() with base 10")
  | _ => .error .typeError

def float : JsonValue Double → Except MigrationError Double
  | .bool value => python.floatOfInt (if value then 1 else 0)
  | .int value => python.floatOfInt value
  | .float value => .ok value
  | .str value =>
      match python.floatOfStr value with
      | some value => .ok value
      | none => .error (.valueError "could not convert string to float")
  | _ => .error .typeError

def str : JsonValue Double → String
  | .str value => value
  | value => python.repr value

/-- `repr`, within the text of an exception. -/
def quote (text : String) : String := python.repr (.list [.str text])

/-- `_json_value`: text is parsed, if it can be. -/
def jsonValue : JsonValue Double → JsonValue Double
  | .str text => (python.loads text).getD (.str text)
  | value => value

/-- `_json_object`, of a column that holds this value. -/
def jsonObject : JsonValue Double → Except MigrationError (Fields Double)
  | .dict fields => .ok fields
  | _ => .error (.valueError "PostgreSQL migration JSON column is not an object")

end Python

inductive RecordKind where
  | session
  | memory
  | summary
  | artifact
  | knowledge
  deriving DecidableEq, Repr

def RecordKind.value : RecordKind → String
  | .session => "session"
  | .memory => "memory"
  | .summary => "summary"
  | .artifact => "artifact"
  | .knowledge => "knowledge"

def canonicalRedisMigrationKinds : List RecordKind := [.session, .memory]

structure MigrationRecord (Double : Type) where
  kind : RecordKind
  resourceId : String
  payload : Fields Double

namespace MigrationRecord

variable (python : Python Double)

def checksum (record : MigrationRecord Double) : Digest :=
  let canonical := python.dumpsSorted (.dict
    [("kind", .str record.kind.value), ("resource_id", .str record.resourceId),
      ("payload", .dict record.payload)])
  python.sha256 (encodeUtf8 canonical)

end MigrationRecord

/-- `"0" * 64`. -/
def emptyChecksum : Digest := List.replicate 32 0

def rollingChecksum (python : Python Double) (before record : Digest) : Digest :=
  python.sha256 (before ++ record)

def checksumAll (python : Python Double) (start : Digest)
    (records : List (MigrationRecord Double)) : Digest :=
  records.foldl (fun checksum record =>
      rollingChecksum python checksum (record.checksum python)) start

structure SessionEvent (Double : Type) where
  sequence : Int
  eventId : String
  author : String
  timestamp : Double
  event : Fields Double
  stateDelta : Fields Double

def SessionEvent.fields (event : SessionEvent Double) : Fields Double :=
  [("sequence", .int event.sequence), ("event_id", .str event.eventId),
    ("author", .str event.author), ("timestamp", .float event.timestamp),
    ("event", .dict event.event), ("state_delta", .dict event.stateDelta)]

structure SessionPayload (Double : Type) where
  tenantId : String
  appId : String
  sessionId : String
  principalId : String
  version : Int
  nextSequence : Int
  state : Fields Double
  events : List (SessionEvent Double)

def SessionPayload.fields (payload : SessionPayload Double) : Fields Double :=
  [("tenant_id", .str payload.tenantId), ("app_id", .str payload.appId),
    ("session_id", .str payload.sessionId),
    ("principal_id", .str payload.principalId),
    ("version", .int payload.version),
    ("next_sequence", .int payload.nextSequence),
    ("state", .dict payload.state),
    ("events", .list (payload.events.map fun event => .dict event.fields))]

def maxSequence (events : List (SessionEvent Double)) : Int :=
  events.foldl (fun largest event => max largest event.sequence) 0

section Canonical

variable (python : Python Double)

def requireText (value : JsonValue Double) (message : String) : Except MigrationError String :=
  match value with
  | .str text => if text = "" then .error (.valueError message) else .ok text
  | _ => .error (.valueError message)

def requireDict (value : JsonValue Double) (message : String) :
    Except MigrationError (Fields Double) :=
  match value with
  | .dict fields => .ok fields
  | _ => .error (.valueError message)

def ensure (condition : Prop) [Decidable condition] (message : String) :
    Except MigrationError Unit :=
  if condition then .ok () else .error (.valueError message)

def eventTimestamp (rawEvent : Fields Double) : Except MigrationError Double :=
  match dictGet rawEvent "timestamp"
      (dictGet rawEvent "event_timestamp" (.float python.zero)) with
  | .none => .ok python.zero
  | timestamp => python.float timestamp

def canonicalEvent (resourceId : String) :
    JsonValue Double × Nat → Except MigrationError (SessionEvent Double)
  | (.dict rawEvent, index) => do
      let name := python.quote resourceId
      let sequence ← python.int (dictGet rawEvent "sequence" (.int index))
      ensure (1 ≤ sequence)
        s!"session {name} contains an invalid event sequence"
      let event ← requireDict
        (python.jsonValue
          (dictGet rawEvent "event" (dictGet rawEvent "event_json" (.dict []))))
        s!"session {name} event {sequence} must be an object"
      let stateDelta ← requireDict
        (python.jsonValue (dictGet rawEvent "state_delta" (.dict [])))
        s!"session {name} event {sequence} state_delta must be object"
      let timestamp ← eventTimestamp python rawEvent
      let eventId := python.str
        (dictGet rawEvent "event_id" (dictGet rawEvent "id"
          (.str s!"migration-event:{resourceId}:{sequence}")))
      let author := python.str (dictGet rawEvent "author" (.str "migration"))
      return ⟨sequence, eventId, author, timestamp, event, stateDelta⟩
  | (_, _) =>
      let name := python.quote resourceId
      .error (.valueError s!"session {name} contains a non-object event")

def bySequence (first second : SessionEvent Double) : Prop := first.sequence ≤ second.sequence

instance : DecidableRel (@bySequence Double) := fun first second =>
  inferInstanceAs (Decidable (first.sequence ≤ second.sequence))

def rawEvents (resourceId : String) (value : Fields Double) :
    Except MigrationError (List (JsonValue Double)) :=
  match python.jsonValue (dictGet value "events" (dictGet value "session_events" (.list []))) with
  | .none => .ok []
  | .list events => .ok events
  | _ =>
      let name := python.quote resourceId
      .error (.valueError s!"session {name} events must be a JSON array")

def canonicalSessionPayload (tenantId resourceId : String)
    (value : Fields Double) :
    Except MigrationError (SessionPayload Double) := do
  let name := python.quote resourceId
  let appId ← requireText
    (python.either (dictGet value "app_id" .none)
      (dictGet value "app_name" .none))
    s!"session {name} has no app_id/app_name"
  let principalId ← requireText
    (python.either (dictGet value "principal_id" .none)
      (dictGet value "user_id" .none))
    s!"session {name} has no principal_id/user_id"
  let state ← requireDict
    (python.jsonValue
      (dictGet value "state" (dictGet value "state_json" (.dict []))))
    s!"session {name} state must be a JSON object"
  let raw ← rawEvents python resourceId value
  let events ← (raw.zipIdx 1).mapM (canonicalEvent python resourceId)
  let events := events.insertionSort bySequence
  let nextSequence ← python.int
    (dictGet value "next_sequence" (.int (maxSequence events + 1)))
  ensure (maxSequence events + 1 ≤ nextSequence)
    s!"session {name} next_sequence precedes its events"
  let version ← python.int (dictGet value "version" (.int 0))
  return ⟨tenantId, appId, resourceId, principalId, version, nextSequence,
    state, events⟩

end Canonical

structure MemoryPayload (Double : Type) where
  principalId : String
  sessionId : JsonValue Double
  sourceSequence : Option Int
  memory : JsonValue Double
  projectionStatus : String

def optionalInt : Option Int → JsonValue Double
  | some value => .int value
  | none => .none

def MemoryPayload.fields (payload : MemoryPayload Double) : Fields Double :=
  [("principal_id", .str payload.principalId), ("session_id", payload.sessionId),
    ("source_sequence", optionalInt payload.sourceSequence),
    ("memory", payload.memory),
    ("projection_status", .str payload.projectionStatus)]

def sourceSequence (python : Python Double) (value : Fields Double) :
    Except MigrationError (Option Int) :=
  match dictGet value "source_sequence" .none with
  | .none => .ok none
  | sequence => some <$> python.int sequence

def canonicalMemoryPayload (python : Python Double) (value : Fields Double) :
    Except MigrationError (MemoryPayload Double) := do
  let principalId ← requireText
    (python.either (dictGet value "principal_id" .none)
      (dictGet value "user_id" .none))
    "memory record has no principal_id/user_id"
  let memory := python.jsonValue (dictGet value "memory"
    (dictGet value "memory_json" (dictGet value "value" (.dict value))))
  let sequence ← sourceSequence python value
  let projectionStatus := python.str
    (dictGet value "projection_status" (.str "pending"))
  return ⟨principalId, dictGet value "session_id" .none, sequence, memory,
    projectionStatus⟩

end TrpcService.Migration
