import TrpcService.Data.Aead
import TrpcService.Data.Coroutine
import TrpcService.Storage.Models

namespace TrpcService.Queue.Emergency

open Data Storage

/-! The encrypted Redis buffer for callbacks that arrive while PostgreSQL is
unavailable, and the drainers that replay them. -/

abbrev Bytes := List UInt8

/-- Verified inbound data with routing and configuration frozen. -/
structure PreparedInbound where
  context : TenantContext
  envelope : InboundEnvelope
  traceHeaders : List (String × String) := []
  deriving DecidableEq, Repr

structure EmergencyFormats (Plain : Type) where
  b64encode : Bytes → String
  b64decode : String → Option Bytes
  b64decode_encode : ∀ bytes, b64decode (b64encode bytes) = some bytes
  modelDumpJson : PreparedInbound → Plain
  modelValidateJson : Plain → Option PreparedInbound
  validate_dump : ∀ prepared, modelValidateJson (modelDumpJson prepared) = some prepared

inductive EmergencyError where
  | invalidTag
  | valueError (message : String)
  | typeError (message : String)
  | lookupError (message : String)
  | postgresError
  | redisError
  | cancelled
  | other (name : String)
  deriving DecidableEq, Repr

/-- What `_decode_rows` takes for a poison record. -/
def EmergencyError.isPoison : EmergencyError → Bool
  | .invalidTag => true
  | .valueError _ => true
  | .typeError _ => true
  | .lookupError _ => true
  | _ => false

/-- What `drain_once` takes for a rejection. -/
def EmergencyError.isRejection : EmergencyError → Bool
  | .valueError _ => true
  | .typeError _ => true
  | .lookupError _ => true
  | _ => false

structure StreamRow where
  messageId : String
  fields : List (String × String)
  deriving DecidableEq, Repr

structure EmergencyMessage where
  messageId : String
  prepared : PreparedInbound
  deriving DecidableEq, Repr

structure EmergencyQueue where
  keyVersion : String
  key : Bytes
  /-- The key ring, by version. -/
  keys : Dict String Bytes
  deriving DecidableEq

abbrev EmergencyVault (Plain : Type) := Vault Bytes Plain Bytes String

variable {Plain : Type}

namespace EmergencyQueue

def fields (queue : EmergencyQueue) (formats : EmergencyFormats Plain) (prepared : PreparedInbound)
    (nonce cipher : Bytes) : List (String × String) :=
  [("binding_id", prepared.context.channelBindingId), ("key_version", queue.keyVersion),
    ("nonce", formats.b64encode nonce),
    ("payload", formats.b64encode cipher)]

def field (fields : List (String × String)) (name : String) : Except EmergencyError String :=
  match fields.lookup name with
  | some value => .ok value
  | none => .error (.valueError ("emergency record is missing " ++ name))

def b64decode (formats : EmergencyFormats Plain) (text : String) : Except EmergencyError Bytes :=
  match formats.b64decode text with
  | some bytes => .ok bytes
  | none => .error (.valueError "Invalid base64-encoded string")

def decrypt (queue : EmergencyQueue) (formats : EmergencyFormats Plain)
    (vault : EmergencyVault Plain) (bindingId nonce payload : String) :
    Except EmergencyError PreparedInbound := do
  let rawNonce ← b64decode formats nonce
  let rawPayload ← b64decode formats payload
  match vault.decryptAny queue.keys.values rawNonce rawPayload bindingId with
  | none => .error .invalidTag
  | some plain =>
      match formats.modelValidateJson plain with
      | none => .error (.valueError "PreparedInbound")
      | some prepared =>
          if prepared.context.channelBindingId ≠ bindingId then
            .error (.valueError
              "emergency record binding does not match authenticated payload")
          else .ok prepared

def decode (queue : EmergencyQueue) (formats : EmergencyFormats Plain)
    (vault : EmergencyVault Plain) (row : StreamRow) :
    Except EmergencyError EmergencyMessage := do
  let bindingId ← field row.fields "binding_id"
  let nonce ← field row.fields "nonce"
  let payload ← field row.fields "payload"
  let prepared ← queue.decrypt formats vault bindingId nonce payload
  pure ⟨row.messageId, prepared⟩

end EmergencyQueue

inductive SchedulerVersion where
  | v1
  | v2
  deriving DecidableEq, Repr

inductive EmergencyEffect where
  | encrypt (key : Bytes) (prepared : PreparedInbound) (bindingId : String)
  | xadd (fields : List (String × String))
  | ensureGroup
  | xautoclaim (consumer : String) (count : Nat)
  | xreadgroup (consumer : String) (count : Nat)
  | decode (row : StreamRow)
  | xack (messageId : String)
  | xdel (messageId : String)
  | isStopping
  | getConfig (message : EmergencyMessage)
  | acceptInbound (message : EmergencyMessage)
  | acceptInboundV2 (message : EmergencyMessage)
  deriving DecidableEq

open EmergencyEffect

@[reducible] def EmergencyEffect.Answer : EmergencyEffect → Type
  | .encrypt _ _ _ => Bytes × Bytes
  | .xadd _ => String
  | .xautoclaim _ _ => List StreamRow
  | .xreadgroup _ _ => List StreamRow
  | .decode _ => EmergencyMessage
  | .isStopping => Bool
  | _ => Unit

abbrev EmergencyProgram (α : Type) := Coroutine EmergencyEffect Answer EmergencyError α

def EmergencyEffect.await (effect : EmergencyEffect) : EmergencyProgram effect.Answer :=
  Coroutine.perform effect

/-- `except Exception`: a cancellation is no exception of that kind. -/
def deferring (program : EmergencyProgram Unit) : EmergencyProgram Unit :=
  tryCatch program fun error => if error = .cancelled then throw error else pure ()

variable (messageId : String)

def exactDelete : EmergencyProgram Unit := deferring (xdel messageId).await

/-- `ack`, and `quarantine` after its log line. -/
def ackAndDelete : EmergencyProgram Unit := do
  (xack messageId).await
  exactDelete messageId

def quarantineRaw : EmergencyProgram Unit := if messageId = "" then pure ()
  else deferring (ackAndDelete messageId)

/-- The message of one row, or `none` after a poison record. -/
def decodeRow (row : StreamRow) : EmergencyProgram (Option EmergencyMessage) :=
  tryCatch (do
    let message ← (EmergencyEffect.decode row).await
    pure (some message))
    fun error =>
      if error.isPoison then do
        quarantineRaw row.messageId
        pure none
      else throw error

def decodeRows : List StreamRow → EmergencyProgram (List EmergencyMessage)
  | [] => pure []
  | row :: rest => do
      let decoded ← decodeRow row
      let messages ← decodeRows rest
      pure (decoded.toList ++ messages)

def consume (consumer : String) (count : Nat) :
    EmergencyProgram (List EmergencyMessage) := do
  ensureGroup.await
  let claimed ← (xautoclaim consumer count).await
  if claimed ≠ [] then decodeRows claimed
  else do
    let rows ← (xreadgroup consumer count).await
    decodeRows rows

def EmergencyQueue.enqueue (queue : EmergencyQueue)
    (formats : EmergencyFormats Plain) (prepared : PreparedInbound) :
    EmergencyProgram String := do
  let (nonce, cipher) ← (encrypt queue.key prepared
    prepared.context.channelBindingId).await
  (xadd (queue.fields formats prepared nonce cipher)).await

structure EmergencyQueueDrainer where
  queue : EmergencyQueue
  consumerId : String
  schedulerVersion : SchedulerVersion := .v1
  deriving DecidableEq

namespace EmergencyQueueDrainer

variable (drainer : EmergencyQueueDrainer)

def accept (message : EmergencyMessage) : EmergencyProgram Unit :=
  match drainer.schedulerVersion with
  | .v2 => (acceptInboundV2 message).await
  | .v1 => (acceptInbound message).await

def replay (message : EmergencyMessage) : EmergencyProgram Bool :=
  tryCatch (do
    (getConfig message).await
    drainer.accept message
    pure true)
    fun error => if error.isRejection then pure false else throw error

/-- Replay the messages until the stop event is set; how many were accepted? -/
def replayAll : List EmergencyMessage → EmergencyProgram Nat
  | [] => pure 0
  | message :: rest => do
      if ← isStopping.await then pure 0
      else do
        let accepted ← drainer.replay message
        -- `ack` after an acceptance, `quarantine` after a rejection.
        ackAndDelete message.messageId
        let processed ← replayAll rest
        pure (accepted.toNat + processed)

def drainOnce : EmergencyProgram Nat := do
  let messages ← consume drainer.consumerId 10
  drainer.replayAll messages

end EmergencyQueueDrainer

inductive EmergencyTask where
  | enqueue (queue : EmergencyQueue) (prepared : PreparedInbound) (call : Nat)
  | consume (queue : EmergencyQueue) (consumer : String) (count call : Nat)
  | drainOnce (drainer : EmergencyQueueDrainer) (call : Nat)
  deriving DecidableEq

def EmergencyTask.queue : EmergencyTask → EmergencyQueue
  | .enqueue queue _ _ => queue
  | .consume queue _ _ _ => queue
  | .drainOnce drainer _ => drainer.queue

def EmergencyTask.program (formats : EmergencyFormats Plain) :
    EmergencyTask → EmergencyProgram Unit
  | .enqueue queue prepared _ => do
      let _ ← queue.enqueue formats prepared
      pure ()
  | .consume _ consumer count _ => do
      let _ ← Emergency.consume consumer count
      pure ()
  | .drainOnce drainer _ => do
      let _ ← drainer.drainOnce
      pure ()

structure StreamEntry where
  row : StreamRow
  origin : Option (EmergencyQueue × PreparedInbound)

structure Removal where
  queue : EmergencyQueue
  messageId : String

structure EmergencyWorld (Plain : Type) where
  vault : EmergencyVault Plain := []
  entries : List StreamEntry := []
  removed : List Removal := []
  accepted : List EmergencyMessage := []
  rejected : List EmergencyMessage := []

structure EmergencyChoice where
  fate : Fate EmergencyError := .answered
  nonce : Bytes := []
  cipher : Bytes := []
  messageId : String := ""
  /-- Which entries a consumer is given. -/
  rows : List Nat := []
  stopping : Bool := false

inductive EmergencyMove where
  /-- Somebody else writes to the stream. -/
  | write (row : StreamRow)

namespace EmergencyWorld

variable (world : EmergencyWorld Plain)

def handOut (rows : List Nat) : List StreamRow :=
  rows.filterMap fun index => (world.entries[index]?).map StreamEntry.row

def encrypt (sealing : Sealing Bytes Plain Bytes String) : EmergencyWorld Plain :=
  { world with vault := sealing :: world.vault }

def write (entry : StreamEntry) : EmergencyWorld Plain :=
  { world with entries := world.entries ++ [entry] }

def remove (queue : EmergencyQueue) (messageId : String) : EmergencyWorld Plain :=
  { world with removed := ⟨queue, messageId⟩ :: world.removed }

def reject (error : EmergencyError) (message : EmergencyMessage) : EmergencyWorld Plain :=
  if error.isRejection then { world with rejected := message :: world.rejected }
  else world

/-- The repository may accept a message although its caller never learns of
it. -/
def accept (fate : Fate EmergencyError) (message : EmergencyMessage) :
    Except EmergencyError Unit × EmergencyWorld Plain :=
  match fate with
  | .answered => (.ok (), { world with accepted := message :: world.accepted })
  | .lost error => (.error error, { world with accepted := message :: world.accepted })
  | .failed error => (.error error, world.reject error message)

def getConfig (fate : Fate EmergencyError) (message : EmergencyMessage) :
    Except EmergencyError Unit × EmergencyWorld Plain :=
  match fate with
  | .answered => (.ok (), world)
  | .lost error => (.error error, world.reject error message)
  | .failed error => (.error error, world.reject error message)

def originOf : EmergencyTask → Option (EmergencyQueue × PreparedInbound)
  | .enqueue queue prepared _ => some (queue, prepared)
  | _ => none

def respond (formats : EmergencyFormats Plain) (name : EmergencyTask) (effect : EmergencyEffect)
    (choice : EmergencyChoice) (world : EmergencyWorld Plain) :
    Except EmergencyError effect.Answer × EmergencyWorld Plain :=
  match effect with
  | .encrypt key prepared bindingId =>
      (.ok (choice.nonce, choice.cipher), world.encrypt ⟨key, choice.nonce, bindingId,
          formats.modelDumpJson prepared, choice.cipher⟩)
  | .xadd fields =>
      choice.fate.transact (.ok (choice.messageId,
        world.write ⟨⟨choice.messageId, fields⟩, originOf name⟩)) world
  | .ensureGroup => (choice.fate.answer (), world)
  | .xautoclaim _ _ => (choice.fate.answer (world.handOut choice.rows), world)
  | .xreadgroup _ _ => (choice.fate.answer (world.handOut choice.rows), world)
  | .decode row => (name.queue.decode formats world.vault row, world)
  | .xack messageId => choice.fate.transact (.ok ((), world.remove name.queue messageId)) world
  | .xdel messageId => choice.fate.transact (.ok ((), world.remove name.queue messageId)) world
  | .isStopping => (.ok choice.stopping, world)
  | .getConfig message => world.getConfig choice.fate message
  | .acceptInbound message => world.accept choice.fate message
  | .acceptInboundV2 message => world.accept choice.fate message

def move (move : EmergencyMove) (world : EmergencyWorld Plain) : EmergencyWorld Plain :=
  match move with
  | .write row => world.write ⟨row, none⟩

end EmergencyWorld

def draining (formats : EmergencyFormats Plain) :
    Behaviour (EmergencyWorld Plain) EmergencyTask EmergencyEffect
      Answer EmergencyError Unit EmergencyTask EmergencyChoice
      EmergencyMove where
  launch task := (task, task.program formats)
  respond := EmergencyWorld.respond formats
  move := EmergencyWorld.move

abbrev EmergencyFleet (Plain : Type) :=
  Fleet (EmergencyWorld Plain) EmergencyTask EmergencyEffect Answer EmergencyError Unit

abbrev EmergencyAction := Action EmergencyTask EmergencyTask EmergencyChoice EmergencyMove

def EmergencyWorld.unused (world : EmergencyWorld Plain) (messageId : String) : Bool :=
  world.entries.all fun entry => entry.row.messageId ≠ messageId

/-- The ideal cipher is new, and Redis gives every entry an id of its own. -/
def ideal (fleet : EmergencyFleet Plain) : EmergencyAction → Bool
  | .start _ => true
  | .resume name choice =>
      match (fleet.tasks name).awaited with
      | some (.encrypt _ _ _) => fleet.state.vault.all fun sealing => sealing.cipher ≠ choice.cipher
      | some (.xadd _) => fleet.state.unused choice.messageId
      | _ => true
  | .move (.write row) => fleet.state.unused row.messageId

def emptyStream : EmergencyFleet Plain := ⟨{}, fun _ => .done (.ok ())⟩

end TrpcService.Queue.Emergency
