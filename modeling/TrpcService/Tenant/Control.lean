import TrpcService.Data.ReadCommitted
import TrpcService.Storage.Models

namespace TrpcService.Tenant

open Data Storage

/-! The control plane of tenants: its tables, the statements of its
transactions and the mutations made of them. -/

inductive ControlError where
  | valueError (message : String)
  | lookupError (message : String)
  | typeError (message : String)
  | runtimeError (message : String)
  | idempotencyConflict (message : String)
  | controlVersionConflict (message : String)
  | databaseError (message : String)
  deriving DecidableEq, Repr

inductive TenantStatus where
  | active
  | suspended
  deriving DecidableEq, Repr

structure TenantRow where
  displayName : String
  status : TenantStatus := .active
  controlVersion : Int := 1
  createdAt : Time
  deriving DecidableEq, Repr

structure AgentApp where
  activeConfigVersion : Int
  candidateConfigVersion : Option Int := none
  candidatePercent : Rat := 0
  controlVersion : Int := 1
  deriving DecidableEq, Repr

structure ConfigRevision where
  configJson : Json
  checksum : String
  createdBy : String
  deriving DecidableEq, Repr

structure ChannelBinding where
  bindingId : String
  tenantId : String
  appId : String
  channel : Channel
  accountId : String
  enabled : Bool := true
  deriving DecidableEq, Repr

structure BindingRow where
  appId : String
  channel : Channel
  accountId : String
  enabled : Bool
  controlVersion : Int := 1
  deriving DecidableEq, Repr

inductive OutboundStatus where
  | pending
  | sending
  | delivered
  | failed
  | ambiguous
  deriving DecidableEq, Repr

structure OutboundRow where
  channel : Channel
  payloadJson : Json
  traceHeaders : Json
  status : OutboundStatus
  manualReplayApproved : Bool := false
  deriving DecidableEq, Repr

/-- An event of the type `outbound.<channel>.ready`. -/
structure OutboundEvent where
  tenantId : String
  aggregateId : String
  channel : Channel
  payloadJson : Json
  traceHeaders : Json
  published : Bool := false
  deriving DecidableEq, Repr

def OutboundRow.event (row : OutboundRow) (tenantId outboundId : String) :
    OutboundEvent where
  tenantId := tenantId
  aggregateId := outboundId
  channel := row.channel
  payloadJson := row.payloadJson
  traceHeaders := row.traceHeaders

inductive DeadLetterStatus where
  | pending
  | replayed
  | discarded
  deriving DecidableEq, Repr

structure DeadLetter where
  tenantId : String
  sourceId : String
  /-- `open` is called pending here. -/
  status : DeadLetterStatus
  deriving DecidableEq, Repr

inductive Operation where
  | createTenant
  | putBinding
  | createConfigRevision
  | activateConfig
  | rollbackConfig
  | replayOutbound
  deriving DecidableEq, Repr

structure IdempotencyRow (Stored : Type) where
  operation : Operation
  requestHash : String
  responseStatus : Nat
  responseJson : Stored
  expiresAt : Time
  deriving DecidableEq, Repr

inductive ControlResponse where
  | tenant (tenantId displayName : String) (status : TenantStatus)
      (controlVersion : Int) (createdAt : Time)
  | binding (bindingId : String) (row : BindingRow) (tenantControlVersion : Int)
  | revision (tenantId appId : String) (version : Int) (checksum : String)
      (tenantControlVersion : Int)
  | activation (tenantId appId : String) (version : Int) (percentage : Rat)
      (tenantControlVersion : Int)
  | replay (outboundId : String) (status : OutboundStatus) (tenantControlVersion : Int)
  deriving DecidableEq, Repr

structure ControlTables (Stored : Type) where
  tenants : Dict String TenantRow := .empty
  agentApps : Dict (String × String) AgentApp := .empty
  configRevisions : Dict (String × String × Int) ConfigRevision := .empty
  channelBindings : Dict (String × String) BindingRow := .empty
  outboundMessages : Dict (String × String) OutboundRow := .empty
  outboxEvents : List OutboundEvent := []
  deadLetters : List DeadLetter := []
  adminIdempotency : Dict (String × String) (IdempotencyRow Stored) := .empty
  /-- The column `active` of `migration_write_barriers`. -/
  writeBarriers : Dict String Bool := .empty

structure ControlLibrary (Stored : Type) where
  /-- `TenantConfig.model_validate` and `model_dump_json`. -/
  validate : Json → (tenantId appId : String) → (version : Int) → Except ControlError Json
  checksum : Json → String
  uuid : String → Option String
  dumps : ControlResponse → Stored
  /-- What `_cached` reads back, if it is an object. -/
  loads : Stored → Option ControlResponse
  loads_dumps : ∀ response, loads (dumps response) = some response

/-- How an activation changes an application. -/
inductive AppChange where
  | activate (version : Int)
  | withdraw
  | candidate (version : Int) (percent : Rat)
  /-- Only the control version changes. -/
  | touch
  deriving DecidableEq, Repr

inductive Statement (Stored : Type) where
  | selectIdempotency (tenantId key : String)
  | insertTenant (tenantId displayName : String)
  | selectVersionForUpdate (tenantId : String)
  | updateVersion (tenantId : String) (current : Int)
  | upsertBinding (tenantId bindingId : String) (binding : ChannelBinding)
  | selectApp (tenantId appId : String)
  | insertApp (tenantId appId : String)
  | nextVersion (tenantId appId : String)
  | insertRevision (tenantId appId : String) (version : Int) (revision : ConfigRevision)
  | updateApp (tenantId appId : String) (change : AppChange)
  | selectRevision (tenantId appId : String) (version : Int)
  | selectOutboundForUpdate (tenantId outboundId : String)
  | updateOutbound (tenantId outboundId : String) (approved : Bool)
  | insertOutbox (event : OutboundEvent)
  | resolveDeadLetters (tenantId sourceId : String)
  | insertIdempotency (tenantId key : String) (row : IdempotencyRow Stored)
  | insertAudit (tenantId actor decision key : String)

open Statement

@[reducible] def Statement.Answer {Stored : Type} : Statement Stored → Type
  | .selectIdempotency _ _ => Option (String × Stored)
  | .insertTenant _ _ => Option TenantRow
  | .selectVersionForUpdate _ => Option Int
  | .updateVersion _ _ => Option Int
  | .upsertBinding _ _ _ => BindingRow
  | .selectApp _ _ => Bool
  | .nextVersion _ _ => Int
  | .selectRevision _ _ _ => Bool
  | .selectOutboundForUpdate _ _ => Option OutboundRow
  | _ => Unit

inductive Change (Stored : Type) where
  | tenant (tenantId : String) (row : TenantRow)
  | app (key : String × String) (row : AgentApp)
  | revision (key : String × String × Int) (row : ConfigRevision)
  | binding (key : String × String) (row : BindingRow)
  | outbound (key : String × String) (row : OutboundRow)
  | event (event : OutboundEvent)
  | resolved (tenantId sourceId : String)
  | idempotency (key : String × String) (row : IdempotencyRow Stored)

inductive RowLock where
  | tenant (tenantId : String)
  | app (key : String × String)
  | binding (key : String × String)
  | outbound (key : String × String)
  | idempotency (key : String × String)
  deriving DecidableEq, Repr

def DeadLetter.resolve (tenantId sourceId : String) (letter : DeadLetter) : DeadLetter :=
  if letter.tenantId = tenantId ∧ letter.sourceId = sourceId ∧ letter.status = .pending then
    { letter with status := .replayed }
  else letter

variable {Stored : Type}

def Change.apply (change : Change Stored) (tables : ControlTables Stored) : ControlTables Stored :=
  match change with
  | .tenant tenantId row => { tables with tenants := tables.tenants.set tenantId row }
  | .app key row => { tables with agentApps := tables.agentApps.set key row }
  | .revision key row => { tables with configRevisions := tables.configRevisions.set key row }
  | .binding key row => { tables with channelBindings := tables.channelBindings.set key row }
  | .outbound key row => { tables with outboundMessages := tables.outboundMessages.set key row }
  | .event added => { tables with outboxEvents := tables.outboxEvents ++ [added] }
  | .resolved tenantId sourceId =>
      { tables with
        deadLetters := tables.deadLetters.map (.resolve tenantId sourceId) }
  | .idempotency key row => { tables with adminIdempotency := tables.adminIdempotency.set key row }

def duplicateKey (constraint : String) : ControlError :=
  .databaseError s!"duplicate key value violates unique constraint {constraint}"

def missingKey (constraint : String) : ControlError :=
  .databaseError s!"insert or update violates foreign key constraint {constraint}"

def barred (tenantId : String) : ControlError := .databaseError
    s!"tenant {tenantId} is protected by an active migration write barrier"

/-- `coalesce(max(version),0)`; versions are positive. -/
def latest : List Int → Int
  | [] => 0
  | version :: rest => max version (latest rest)

/-- What two decimals of the percentage say. -/
def numeric (percentage : Rat) : Rat := ((percentage * 100 + 1 / 2).floor : Rat) / 100

def AgentApp.update (app : AgentApp) (change : AppChange) : AgentApp :=
  match change with
  | .activate version => ⟨version, none, 0, app.controlVersion + 1⟩
  | .withdraw => ⟨app.activeConfigVersion, none, 0, app.controlVersion + 1⟩
  | .candidate version percent =>
      ⟨app.activeConfigVersion, some version, numeric percent, app.controlVersion + 1⟩
  | .touch => { app with controlVersion := app.controlVersion + 1 }

namespace ControlTables

variable (tables : ControlTables Stored)

def versions (tenantId appId : String) : List Int := (tables.configRevisions.keys.filter fun key =>
    key.1 = tenantId ∧ key.2.1 = appId).map (·.2.2)

/-- The trigger of the protected tables; whoever uses the control plane is no
migration. -/
def guarding {α : Type} (tenantId : String) (value : α) : Except ControlError α :=
  if tables.writeBarriers.get? tenantId = some true then .error (barred tenantId)
  else .ok value

def bindingConflict (tenantId bindingId : String) (binding : ChannelBinding) :
    Option ControlError :=
  if tables.channelBindings.keys.any fun key => key.2 = bindingId ∧ key.1 ≠ tenantId then
    some (duplicateKey "channel_bindings_binding_id_key")
  else if tables.channelBindings.entries.any fun entry =>
      entry.1.1 = tenantId ∧ entry.1.2 ≠ bindingId ∧ entry.2.channel = binding.channel ∧
        entry.2.accountId = binding.accountId then
    some (duplicateKey "channel_bindings_tenant_id_channel_account_id_key")
  else if tables.agentApps.get? (tenantId, binding.appId) = none then
    some (missingKey "channel_bindings_tenant_id_app_id_fkey")
  else none

def bindingRow (tenantId bindingId : String) (binding : ChannelBinding) :
    BindingRow where
  appId := binding.appId
  channel := binding.channel
  accountId := binding.accountId
  enabled := binding.enabled
  controlVersion :=
    match tables.channelBindings.get? (tenantId, bindingId) with
    | none => 1
    | some row => row.controlVersion + 1

def run (statement : Statement Stored) (now : Time) :
    Except ControlError (statement.Answer × List (Change Stored)) :=
  match statement with
  | .selectIdempotency tenantId key =>
      .ok (((tables.adminIdempotency.get? (tenantId, key)).filter fun row =>
        now < row.expiresAt).map fun row => (row.requestHash, row.responseJson), [])
  | .insertTenant tenantId displayName =>
      match tables.tenants.get? tenantId with
      | some _ => .ok (none, [])
      | none =>
          let row : TenantRow := { displayName, createdAt := now }
          .ok (some row, [.tenant tenantId row])
  | .selectVersionForUpdate tenantId =>
      .ok ((tables.tenants.get? tenantId).map (·.controlVersion), [])
  | .updateVersion tenantId current =>
      match tables.tenants.get? tenantId with
      | none => .ok (none, [])
      | some row =>
          if row.controlVersion = current then .ok (some (current + 1),
              [.tenant tenantId { row with controlVersion := current + 1 }])
          else .ok (none, [])
  | .upsertBinding tenantId bindingId binding =>
      match tables.bindingConflict tenantId bindingId binding with
      | some error => .error error
      | none =>
          let row := tables.bindingRow tenantId bindingId binding
          .ok (row, [.binding (tenantId, bindingId) row])
  | .selectApp tenantId appId => .ok ((tables.agentApps.get? (tenantId, appId)).isSome, [])
  | .insertApp tenantId appId =>
      if (tables.agentApps.get? (tenantId, appId)).isSome then
        .error (duplicateKey "agent_apps_pkey")
      else .ok ((), [.app (tenantId, appId) { activeConfigVersion := 1 }])
  | .nextVersion tenantId appId => .ok (latest (tables.versions tenantId appId) + 1, [])
  | .insertRevision tenantId appId version revision =>
      if (tables.configRevisions.get? (tenantId, appId, version)).isSome then
        .error (duplicateKey "config_revisions_pkey")
      else .ok ((), [.revision (tenantId, appId, version) revision])
  | .updateApp tenantId appId change =>
      match tables.agentApps.get? (tenantId, appId) with
      | none => .ok ((), [])
      | some app => .ok ((), [.app (tenantId, appId) (app.update change)])
  | .selectRevision tenantId appId version =>
      .ok ((tables.configRevisions.get? (tenantId, appId, version)).isSome, [])
  | .selectOutboundForUpdate tenantId outboundId =>
      .ok (tables.outboundMessages.get? (tenantId, outboundId), [])
  | .updateOutbound tenantId outboundId approved =>
      match tables.outboundMessages.get? (tenantId, outboundId) with
      | none => .ok ((), [])
      | some row =>
          tables.guarding tenantId ((), [.outbound (tenantId, outboundId)
            { row with status := .pending, manualReplayApproved := approved }])
  | .insertOutbox event =>
      if tables.outboxEvents.any fun other => other.tenantId = event.tenantId ∧
            other.aggregateId = event.aggregateId ∧
            other.channel = event.channel ∧ other.published = false then
        tables.guarding event.tenantId ((), [])
      else tables.guarding event.tenantId ((), [.event event])
  | .resolveDeadLetters tenantId sourceId =>
      if tables.deadLetters.all fun letter => letter.resolve tenantId sourceId = letter then
        .ok ((), [])
      else tables.guarding tenantId ((), [.resolved tenantId sourceId])
  | .insertIdempotency tenantId key row =>
      if (tables.adminIdempotency.get? (tenantId, key)).isSome then
        .error (duplicateKey "admin_idempotency_pkey")
      else .ok ((), [.idempotency (tenantId, key) row])
  | .insertAudit tenantId _ _ _ => tables.guarding tenantId ((), [])

/-- What is only read is not locked, nor is a row that is not there; a key that
is inserted is locked. -/
def locks : Statement Stored → List RowLock
  | .insertTenant tenantId _ => [.tenant tenantId]
  | .selectVersionForUpdate tenantId =>
      (tables.tenants.get? tenantId).toList.map fun _ => .tenant tenantId
  | .updateVersion tenantId _ => (tables.tenants.get? tenantId).toList.map fun _ => .tenant tenantId
  | .upsertBinding tenantId bindingId _ => [.binding (tenantId, bindingId)]
  | .insertApp tenantId appId => [.app (tenantId, appId)]
  | .updateApp tenantId appId _ =>
      (tables.agentApps.get? (tenantId, appId)).toList.map fun _ => .app (tenantId, appId)
  | .selectOutboundForUpdate tenantId outboundId =>
      (tables.outboundMessages.get? (tenantId, outboundId)).toList.map
        fun _ => .outbound (tenantId, outboundId)
  | .updateOutbound tenantId outboundId _ =>
      (tables.outboundMessages.get? (tenantId, outboundId)).toList.map
        fun _ => .outbound (tenantId, outboundId)
  | .insertIdempotency tenantId key _ => [.idempotency (tenantId, key)]
  | _ => []

end ControlTables

def controlSchema (Stored : Type) : Schema (ControlTables Stored) (Change Stored) RowLock Time
      (Statement Stored) Answer ControlError where
  apply := Change.apply
  locks statement tables := tables.locks statement
  run statement now _ tables := tables.run statement now

abbrev ControlProgram (Stored α : Type) := Coroutine (Statement Stored) Answer ControlError α

def Statement.await (statement : Statement Stored) : ControlProgram Stored statement.Answer :=
  Coroutine.perform statement

structure ControlRequest where
  tenantId : String
  actor : String
  expectedVersion : Int
  idempotencyKey : String
  requestHash : String
  deriving DecidableEq, Repr

namespace ControlPlane

variable (library : ControlLibrary Stored)

def cached (tenantId key requestHash : String) :
    ControlProgram Stored (Option ControlResponse) := do
  match ← (selectIdempotency tenantId key).await with
  | none => pure none
  | some (storedHash, stored) =>
      if storedHash ≠ requestHash then
        throw (.idempotencyConflict
          "idempotency key was used for another request")
      else
        match library.loads stored with
        | none => throw (.runtimeError "invalid idempotency response")
        | some response => pure (some response)

/-- `storedAt` is what the clock of the process shows. -/
def storeIdempotency (tenantId key : String) (operation : Operation) (requestHash : String)
    (response : ControlResponse) (status : Nat) (storedAt : Time) : ControlProgram Stored Unit :=
  (insertIdempotency tenantId key ⟨operation, requestHash, status, library.dumps response,
      storedAt + seconds (24 * 3600)⟩).await

def lockVersion (tenantId : String) (expected : Int) :
    ControlProgram Stored Int := do
  match ← (selectVersionForUpdate tenantId).await with
  | none => throw (.lookupError "tenant does not exist")
  | some current =>
      if current ≠ expected then
        throw (.controlVersionConflict "tenant control version changed")
      else pure current

def bumpVersion (tenantId : String) (current : Int) :
    ControlProgram Stored Int := do
  match ← (updateVersion tenantId current).await with
  | none => throw (.typeError "int() argument must not be None")
  | some version => pure version

variable (request : ControlRequest)

def conclude (operation : Operation)
    (status : Nat) (decision : String) (storedAt : Time)
    (response : ControlResponse) : ControlProgram Stored ControlResponse := do
  storeIdempotency library request.tenantId request.idempotencyKey operation
    request.requestHash response status storedAt
  (insertAudit request.tenantId request.actor decision
    request.idempotencyKey).await
  pure response

/-- What the mutations have in common: `change` returns the response but for
the new version of the tenant. -/
def applyOnce (operation : Operation)
    (status : Nat) (decision : String) (storedAt : Time)
    (change : ControlProgram Stored (Int → ControlResponse)) :
    ControlProgram Stored ControlResponse := do
  match ← cached library request.tenantId request.idempotencyKey
      request.requestHash with
  | some response => pure response
  | none =>
      let current ← lockVersion request.tenantId request.expectedVersion
      let response ← change
      let version ← bumpVersion request.tenantId current
      conclude library request operation status decision storedAt
        (response version)

def createTenant (displayName : String)
    (storedAt : Time) : ControlProgram Stored ControlResponse := do
  match ← cached library request.tenantId request.idempotencyKey
      request.requestHash with
  | some response => pure response
  | none =>
      match ← (insertTenant request.tenantId displayName).await with
      | none => throw (.controlVersionConflict "tenant already exists")
      | some row =>
          conclude library request .createTenant 201 "tenant_created" storedAt
            (.tenant request.tenantId row.displayName row.status
              row.controlVersion row.createdAt)

def changeBinding (tenantId bindingId : String) (binding : ChannelBinding) :
    ControlProgram Stored (Int → ControlResponse) := do
  let row ← (upsertBinding tenantId bindingId binding).await
  pure (.binding bindingId row)

def putBinding (request : ControlRequest) (bindingId : String) (binding : ChannelBinding)
    (storedAt : Time) : ControlProgram Stored ControlResponse :=
  applyOnce library request .putBinding 200 "binding_updated" storedAt
    (changeBinding request.tenantId bindingId binding)

/-- A new application points at the revision that is inserted next. -/
def ensureApp (tenantId appId : String) : ControlProgram Stored Unit := do
  if ← (selectApp tenantId appId).await then pure ()
  else (insertApp tenantId appId).await

def addRevision (tenantId appId actor : String) (config : Json) :
    ControlProgram Stored (Int → ControlResponse) := do
  ensureApp tenantId appId
  let version ← (nextVersion tenantId appId).await
  let canonical ← .done (library.validate config tenantId appId version)
  let checksum := library.checksum canonical
  (insertRevision tenantId appId version
    ⟨canonical, checksum, actor⟩).await
  (updateApp tenantId appId .touch).await
  pure (.revision tenantId appId version checksum)

def createConfigRevision (request : ControlRequest) (appId : String) (config : Json)
    (storedAt : Time) : ControlProgram Stored ControlResponse :=
  applyOnce library request .createConfigRevision 201 "config_created" storedAt
    (addRevision library request.tenantId appId request.actor config)

def appChange (version : Int) (percentage : Rat) : AppChange :=
  if percentage = 100 then .activate version
  else if percentage = 0 then .withdraw
  else .candidate version percentage

def route (tenantId appId : String) (version : Int) (percentage : Rat) :
    ControlProgram Stored (Int → ControlResponse) := do
  if ← (selectRevision tenantId appId version).await then
    (updateApp tenantId appId (appChange version percentage)).await
    pure (.activation tenantId appId version percentage)
  else throw (.lookupError "configuration revision does not exist")

/-- Activating and rolling back differ in what is recorded. -/
inductive Activation where
  | activateConfig
  | rollbackConfig
  deriving DecidableEq, Repr

def Activation.operation : Activation → Operation
  | .activateConfig => .activateConfig
  | .rollbackConfig => .rollbackConfig

def Activation.decision : Activation → String
  | .activateConfig => "activate_config"
  | .rollbackConfig => "rollback_config"

def activateConfig (request : ControlRequest) (appId : String) (version : Int) (percentage : Rat)
    (activation : Activation) (storedAt : Time) : ControlProgram Stored ControlResponse :=
  applyOnce library request activation.operation 200 activation.decision
    storedAt (route request.tenantId appId version percentage)

/-- May a message be replayed?  If so, was it ambiguous? -/
def replayable (row : OutboundRow) (confirmAmbiguous : Bool) : Except ControlError Bool :=
  if row.status = .ambiguous then if confirmAmbiguous then .ok true else .error (.valueError
      "ambiguous delivery requires explicit confirmation")
  else if row.status ≠ .failed then
    .error (.valueError ("only failed or explicitly confirmed ambiguous " ++
      "deliveries can be replayed"))
  else .ok false

def requeue (tenantId outboundId : String) (confirmAmbiguous : Bool) :
    ControlProgram Stored (Int → ControlResponse) := do
  match library.uuid outboundId with
  | none => throw (.valueError "badly formed hexadecimal UUID string")
  | some uuid =>
      match ← (selectOutboundForUpdate tenantId uuid).await with
      | none => throw (.lookupError "outbound message does not exist")
      | some row =>
          let approved ← .done (replayable row confirmAmbiguous)
          (updateOutbound tenantId uuid approved).await
          (insertOutbox (row.event tenantId outboundId)).await
          (resolveDeadLetters tenantId outboundId).await
          pure (.replay outboundId .pending)

def replayOutbound (request : ControlRequest) (outboundId : String) (confirmAmbiguous : Bool)
    (storedAt : Time) : ControlProgram Stored ControlResponse :=
  applyOnce library request .replayOutbound 202 "outbound_replayed" storedAt
    (requeue library request.tenantId outboundId confirmAmbiguous)

end ControlPlane

inductive Mutation where
  | putBinding (bindingId : String) (binding : ChannelBinding)
  | createConfigRevision (appId : String) (config : Json)
  | activateConfig (appId : String) (version : Int) (percentage : Rat)
      (activation : ControlPlane.Activation)
  | replayOutbound (outboundId : String) (confirmAmbiguous : Bool)
  deriving DecidableEq, Repr

namespace Mutation

def check (mutation : Mutation) (request : ControlRequest) : Except ControlError Unit :=
  match mutation with
  | .putBinding bindingId binding =>
      if binding.tenantId ≠ request.tenantId ∨ binding.bindingId ≠ bindingId then
        .error (.valueError
          "binding identity does not match the request path")
      else .ok ()
  | .activateConfig _ _ percentage _ =>
      if 0 ≤ percentage ∧ percentage ≤ 100 then .ok ()
      else .error (.valueError "rollout percentage must be between 0 and 100")
  | _ => .ok ()

def body (library : ControlLibrary Stored) (request : ControlRequest) (mutation : Mutation)
    (storedAt : Time) : ControlProgram Stored ControlResponse :=
  match mutation with
  | .putBinding bindingId binding =>
      ControlPlane.putBinding library request bindingId binding storedAt
  | .createConfigRevision appId config =>
      ControlPlane.createConfigRevision library request appId config storedAt
  | .activateConfig appId version percentage activation =>
      ControlPlane.activateConfig library request appId version percentage activation storedAt
  | .replayOutbound outboundId confirmAmbiguous =>
      ControlPlane.replayOutbound library request outboundId confirmAmbiguous storedAt

/-- A mutation whose transaction runs alone. -/
def perform (library : ControlLibrary Stored) (request : ControlRequest) (mutation : Mutation)
    (now storedAt : Time) (tables : ControlTables Stored) :
    Except ControlError ControlResponse × ControlTables Stored :=
  match mutation.check request with
  | .error error => (.error error, tables)
  | .ok _ => (controlSchema Stored).transact now now (mutation.body library request storedAt) tables

end Mutation

end TrpcService.Tenant
