import Mathlib.Logic.Function.Basic
import TrpcService.Data.ClockedObject
import TrpcService.Storage.Models

namespace TrpcService.Channels.BindingLease

open Data Storage

/-! The fenced leases of WeCom connections, and the evidence that their holders
leave behind.  Every replica remembers which leases it holds; whether it still
does is up to the row of the connection. -/

abbrev BindingKey := String × String

structure WeComBindingLeaseGrant where
  tenantId : String
  bindingId : String
  ownerHash : String
  epoch : Nat
  acquiredAt : Time
  deriving DecidableEq, Repr

abbrev WeComBindingLeaseGrant.key (grant : WeComBindingLeaseGrant) : BindingKey :=
  (grant.tenantId, grant.bindingId)

inductive Phase where
  | acquired
  | authenticated
  | disconnected
  | released
  deriving DecidableEq, Repr

inductive EventType where
  | acquired
  | takeover
  | authenticated
  | providerEvent
  | disconnected
  | released
  deriving DecidableEq, Repr

/-- A row of `wecom_connection_state`. -/
structure ConnectionState where
  ownerHash : String
  epoch : Nat
  phase : Phase
  acquiredAt : Time
  authenticatedAt : Option Time := none
  disconnectedAt : Option Time := none
  releasedAt : Option Time := none
  lastProviderEventHash : Option String := none
  lastProviderEventAt : Option Time := none
  updatedAt : Time
  deriving DecidableEq, Repr

/-- A row of `im_acceptance_evidence_events`. -/
structure EvidenceEvent where
  tenantId : String
  bindingId : String
  connectionEpoch : Nat
  eventType : EventType
  ownerHash : String
  providerEventHash : Option String := none
  deriving DecidableEq, Repr

abbrev EvidenceEvent.key (event : EvidenceEvent) : BindingKey := (event.tenantId, event.bindingId)

/-- Both tables; the events are in the order of their commits. -/
structure Database where
  states : Dict BindingKey ConnectionState
  events : List EvidenceEvent

inductive LeaseError where
  | runtimeError (message : String)
  | connectionLost
  deriving DecidableEq, Repr

abbrev IdentifierHash := (domain tenantId bindingId value : String) → String

def epochChangedMessage : String := "WeCom connection epoch changed during acquisition"

def eventTypeAfter : Option ConnectionState → EventType
  | some previous => if previous.releasedAt.isNone then .takeover else .acquired
  | none => .acquired

def acquireRow (key : BindingKey) (ownerHash : String) (now : Time) (database : Database) :
    Except LeaseError (WeComBindingLeaseGrant × Database) :=
  let previous := database.states.get? key
  let previousEpoch := (previous.map ConnectionState.epoch).getD 0
  -- On conflict only a row with the epoch that was read is updated.
  if previous.any fun state => state.epoch ≠ previousEpoch then
    .error (.runtimeError epochChangedMessage)
  else
    let grant : WeComBindingLeaseGrant := ⟨key.1, key.2, ownerHash, previousEpoch + 1, now⟩
    .ok (grant, {
      states := database.states.set key
        { ownerHash, epoch := grant.epoch, phase := .acquired,
          acquiredAt := now, updatedAt := now }
      events := database.events ++ [{
        tenantId := key.1, bindingId := key.2, connectionEpoch := grant.epoch,
        eventType := eventTypeAfter previous, ownerHash }] })

inductive FencedEvent where
  | authenticated
  | providerEvent (hash : String)
  | disconnected
  | released
  deriving DecidableEq, Repr

def FencedEvent.eventType : FencedEvent → EventType
  | .authenticated => .authenticated
  | .providerEvent _ => .providerEvent
  | .disconnected => .disconnected
  | .released => .released

def FencedEvent.hash : FencedEvent → Option String
  | .providerEvent hash => some hash
  | _ => none

def FencedEvent.fits : FencedEvent → Phase → Bool
  | .authenticated, phase => phase = .acquired
  | .providerEvent _, phase => phase = .acquired || phase = .authenticated
  | .disconnected, phase => phase = .acquired || phase = .authenticated
  | .released, _ => true

def FencedEvent.update (event : FencedEvent) (now : Time)
    (state : ConnectionState) : ConnectionState :=
  match event with
  | .authenticated =>
      { state with
        phase := .authenticated
        authenticatedAt := some (state.authenticatedAt.getD now)
        updatedAt := now }
  | .providerEvent hash =>
      { state with
        lastProviderEventHash := some hash
        lastProviderEventAt := some now
        updatedAt := now }
  | .disconnected =>
      { state with
        phase := .disconnected
        disconnectedAt := some (state.disconnectedAt.getD now)
        updatedAt := now }
  | .released =>
      { state with
        phase := .released
        releasedAt := some (state.releasedAt.getD now)
        updatedAt := now }

/-- `_record_fenced_event_on_connection`: returns whether it was recorded. -/
def recordOnConnection (grant : WeComBindingLeaseGrant) (event : FencedEvent)
    (now : Time) (database : Database) : Bool × Database :=
  match database.states.get? grant.key with
  | none => (false, database)
  | some state =>
      if state.epoch = grant.epoch ∧ state.ownerHash = grant.ownerHash ∧
          state.releasedAt = none ∧ event.fits state.phase = true then
        (true, {
          states := database.states.set grant.key (event.update now state)
          events := database.events ++ [{
            tenantId := grant.tenantId, bindingId := grant.bindingId,
            connectionEpoch := state.epoch, eventType := event.eventType,
            ownerHash := state.ownerHash, providerEventHash := event.hash }] })
      else (false, database)

/-- What becomes of a transaction whose connection may be lost. -/
inductive Fate where
  | committed
  | rolledBack
  /-- It is committed, and its client does not learn so. -/
  | unacknowledged
  deriving DecidableEq, Repr

structure World where
  database : Database
  held : String → Dict BindingKey WeComBindingLeaseGrant

inductive Call where
  /-- Is the advisory lock free?  It may have been lost with a connection. -/
  | acquireBinding (replica : String) (key : BindingKey) (ownerId : String)
      (lockFree : Bool) (fate : Fate)
  | markAuthenticated (replica : String) (grant : WeComBindingLeaseGrant) (fate : Fate)
  | recordProviderEvent (replica : String) (grant : WeComBindingLeaseGrant)
      (providerEventId : String) (fate : Fate)
  | markDisconnected (replica : String) (grant : WeComBindingLeaseGrant) (fate : Fate)
  | releaseBinding (replica : String) (grant : WeComBindingLeaseGrant) (fate : Fate)
  /-- A replica starts anew, and holds nothing. -/
  | restart (replica : String)

inductive Reply where
  | acquired (result : Except LeaseError (Option WeComBindingLeaseGrant))
  | recorded (result : Except LeaseError Bool)
  | released (result : Except LeaseError Unit)
  | restarted

def recordWith (grant : WeComBindingLeaseGrant) (event : FencedEvent) (fate : Fate) (now : Time)
    (database : Database) : Except LeaseError Bool × Database :=
  let recorded := recordOnConnection grant event now database
  match fate with
  | .committed => (.ok recorded.1, recorded.2)
  | .unacknowledged => (.error .connectionLost, recorded.2)
  | .rolledBack => (.error .connectionLost, database)

namespace World

def acquireBinding (hash : IdentifierHash) (replica : String) (key : BindingKey) (ownerId : String)
    (lockFree : Bool) (fate : Fate) (now : Time) (world : World) :
    Except LeaseError (Option WeComBindingLeaseGrant) × World :=
  let ownerHash := hash "owner" key.1 key.2 ownerId
  match (world.held replica).get? key with
  | some held => (.ok (if held.ownerHash = ownerHash then some held else none), world)
  | none =>
      if lockFree = false then (.ok none, world)
      else
        match acquireRow key ownerHash now world.database, fate with
        | .ok (grant, database), .committed =>
            (.ok (some grant),
              { database
                held := Function.update world.held replica
                  ((world.held replica).set key grant) })
        | .ok (_, database), .unacknowledged => (.error .connectionLost, { world with database })
        | .ok _, .rolledBack => (.error .connectionLost, world)
        | .error error, _ => (.error error, world)

def recordFencedEvent (replica : String) (grant : WeComBindingLeaseGrant) (event : FencedEvent)
    (fate : Fate) (now : Time) (world : World) : Except LeaseError Bool × World :=
  if (world.held replica).get? grant.key ≠ some grant then (.ok false, world)
  else
    let recorded := recordWith grant event fate now world.database
    (recorded.1, { world with database := recorded.2 })

def releaseBinding (replica : String) (grant : WeComBindingLeaseGrant) (fate : Fate) (now : Time)
    (world : World) : Except LeaseError Unit × World :=
  if (world.held replica).get? grant.key ≠ some grant then (.ok (), world)
  else
    let recorded := recordWith grant .released fate now world.database
    (recorded.1.map fun _ => (),
      { database := recorded.2
        held := Function.update world.held replica
          ((world.held replica).erase grant.key) })

def restart (world : World) (replica : String) : World :=
  { world with held := Function.update world.held replica .empty }

end World

def Call.apply (hash : IdentifierHash) (call : Call) (clk : Nat → Time)
    (world : World) : Reply × World :=
  match call with
  | .acquireBinding replica key ownerId lockFree fate =>
      let result := World.acquireBinding hash replica key ownerId lockFree fate (clk 0) world
      (.acquired result.1, result.2)
  | .markAuthenticated replica grant fate =>
      let result := World.recordFencedEvent replica grant .authenticated fate (clk 0) world
      (.recorded result.1, result.2)
  | .recordProviderEvent replica grant providerEventId fate =>
      let event := .providerEvent (hash "provider-event" grant.tenantId
        grant.bindingId providerEventId)
      let result := World.recordFencedEvent replica grant event fate (clk 0) world
      (.recorded result.1, result.2)
  | .markDisconnected replica grant fate =>
      let result := World.recordFencedEvent replica grant .disconnected fate (clk 0) world
      (.recorded result.1, result.2)
  | .releaseBinding replica grant fate =>
      let result := World.releaseBinding replica grant fate (clk 0) world
      (.released result.1, result.2)
  | .restart replica => (.restarted, world.restart replica)

def connections (hash : IdentifierHash) :
    ClockedObject World Call Reply Time where
  initial := ⟨⟨.empty, []⟩, fun _ => .empty⟩
  apply := Call.apply hash

end TrpcService.Channels.BindingLease
