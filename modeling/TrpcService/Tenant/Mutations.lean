import TrpcService.Tenant.Control

namespace TrpcService.Tenant

open Data Storage ControlPlane ControlTables

/-! What the programs of the control plane do in a transaction that runs
alone. -/

variable {Stored α β : Type}

def Runs (now : Time) (program : ControlProgram Stored α) (tables : ControlTables Stored)
    (value : α) (after : ControlTables Stored) : Prop :=
  execute ((controlSchema Stored).alone now now) program tables = (.ok value, after)

variable {value result : α} {error : ControlError}

namespace Runs

variable {now : Time} {tables after : ControlTables Stored}

theorem bind_iff {program : ControlProgram Stored α}
    {next : α → ControlProgram Stored β} {result : β} :
    Runs now (program >>= next) tables result after ↔
      ∃ value middle, Runs now program tables value middle ∧
        Runs now (next value) middle result after := by
  constructor
  · exact execute_bind_eq_ok
  · rintro ⟨value, middle, first, rest⟩
    exact (execute_bind_ok first).trans rest

theorem pure_iff : Runs now (pure value : ControlProgram Stored α) tables result after ↔
      result = value ∧ after = tables := by
  constructor
  · rintro ⟨⟩
    exact ⟨rfl, rfl⟩
  · rintro ⟨rfl, rfl⟩
    rfl

theorem not_throw : ¬ Runs now (throw error : ControlProgram Stored α) tables result after := nofun

theorem done_iff {outcome : Except ControlError α} :
    Runs now (.done outcome : ControlProgram Stored α) tables result after ↔
      outcome = .ok result ∧ after = tables := by
  constructor
  · rintro ⟨⟩
    exact ⟨rfl, rfl⟩
  · rintro ⟨rfl, rfl⟩
    rfl

variable {statement : Statement Stored} {answer : statement.Answer}

theorem await_iff : Runs now statement.await tables answer after ↔
      ∃ changes, tables.run statement now = .ok (answer, changes) ∧
        after = (controlSchema Stored).applyAll changes tables :=
  Schema.alone_eq_ok

theorem of_reads {value : statement.Answer} (ran : Runs now statement.await tables answer after)
    (reads : tables.run statement now = .ok (value, [])) : answer = value ∧ after = tables := by
  obtain ⟨changes, done, rfl⟩ := await_iff.mp ran
  cases reads.symm.trans done
  exact ⟨rfl, rfl⟩

end Runs

/-- The entry that `_cached` finds. -/
def ControlTables.unexpired (tables : ControlTables Stored) (now : Time)
    (tenantId key : String) : Option (IdempotencyRow Stored) :=
  (tables.adminIdempotency.get? (tenantId, key)).filter fun row => now < row.expiresAt

def ControlTables.version? (tables : ControlTables Stored) (tenantId : String) : Option Int :=
  (tables.tenants.get? tenantId).map (·.controlVersion)

variable {request : ControlRequest} {response : ControlResponse}

section Steps

variable {library : ControlLibrary Stored} {now storedAt : Time}
  {tables after : ControlTables Stored} {tenantId key : String}

structure Answers (library : ControlLibrary Stored) (requestHash : String)
    (row : IdempotencyRow Stored) (response : ControlResponse) : Prop where
  hash : row.requestHash = requestHash
  loads : library.loads row.responseJson = some response

theorem runs_cached {requestHash : String} {found : Option ControlResponse} :
    Runs now (cached library tenantId key requestHash) tables found after ↔ after = tables ∧
        ((tables.unexpired now tenantId key = none ∧ found = none) ∨
          ∃ row response, tables.unexpired now tenantId key = some row ∧
            Answers library requestHash row response ∧
            found = some response) := by
  have reads : tables.run (.selectIdempotency tenantId key) now =
      .ok ((tables.unexpired now tenantId key).map fun row =>
        (row.requestHash, row.responseJson), []) := rfl
  rw [cached, Runs.bind_iff]
  constructor
  · rintro ⟨value, middle, asked, rest⟩
    obtain ⟨rfl, rfl⟩ := Runs.of_reads asked reads
    cases entry : middle.unexpired now tenantId key with
    | none =>
      rw [entry] at rest
      obtain ⟨rfl, rfl⟩ := Runs.pure_iff.mp rest
      exact ⟨rfl, .inl ⟨rfl, rfl⟩⟩
    | some row =>
      rw [entry] at rest
      dsimp only [Option.map_some] at rest
      split at rest
      · exact absurd rest Runs.not_throw
      · rename_i same
        split at rest
        · exact absurd rest Runs.not_throw
        · rename_i response loads
          obtain ⟨rfl, rfl⟩ := Runs.pure_iff.mp rest
          exact ⟨rfl, .inr ⟨row, response, rfl, ⟨not_not.mp same, loads⟩, rfl⟩⟩
  · rintro ⟨rfl, cases⟩
    refine ⟨_, after, Runs.await_iff.mpr ⟨[], reads, rfl⟩, ?_⟩
    rcases cases with ⟨entry, rfl⟩ | ⟨row, response, entry, answers, rfl⟩
    · rw [entry]
      exact Runs.pure_iff.mpr ⟨rfl, rfl⟩
    · rw [entry]
      dsimp only [Option.map_some]
      rw [if_neg (not_not.mpr answers.hash), answers.loads]
      exact Runs.pure_iff.mpr ⟨rfl, rfl⟩

variable {current : Int}

theorem runs_lockVersion {expected : Int} :
    Runs now (lockVersion tenantId expected) tables current after ↔
      after = tables ∧ current = expected ∧ tables.version? tenantId = some expected := by
  have reads : tables.run (.selectVersionForUpdate tenantId) now =
      .ok (tables.version? tenantId, []) := rfl
  rw [lockVersion, Runs.bind_iff]
  constructor
  · rintro ⟨value, middle, asked, rest⟩
    obtain ⟨rfl, rfl⟩ := Runs.of_reads asked reads
    split at rest
    · exact absurd rest Runs.not_throw
    · rename_i version stored
      split at rest
      · exact absurd rest Runs.not_throw
      · rename_i same
        obtain ⟨rfl, rfl⟩ := Runs.pure_iff.mp rest
        cases not_not.mp same
        exact ⟨rfl, rfl, stored⟩
  · rintro ⟨rfl, rfl, stored⟩
    refine ⟨_, after, Runs.await_iff.mpr ⟨[], reads, rfl⟩, ?_⟩
    rw [stored]
    dsimp only
    rw [if_neg (not_not.mpr rfl)]
    exact Runs.pure_iff.mpr ⟨rfl, rfl⟩

def ControlTables.withVersion (tables : ControlTables Stored) (tenantId : String) (row : TenantRow)
    (version : Int) : ControlTables Stored :=
  { tables with
    tenants := tables.tenants.set tenantId
      { row with controlVersion := version } }

theorem runs_bumpVersion {version : Int} :
    Runs now (bumpVersion tenantId current) tables version after ↔ version = current + 1 ∧
        ∃ row, tables.tenants.get? tenantId = some row ∧ row.controlVersion = current ∧
          after = tables.withVersion tenantId row (current + 1) := by
  rw [bumpVersion, Runs.bind_iff]
  constructor
  · rintro ⟨value, middle, asked, rest⟩
    obtain ⟨changes, ran, rfl⟩ := Runs.await_iff.mp asked
    simp only [run] at ran
    split at ran
    · cases ran
      exact absurd rest Runs.not_throw
    · rename_i row stored
      split at ran
      · rename_i same
        cases ran
        obtain ⟨rfl, rfl⟩ := Runs.pure_iff.mp rest
        exact ⟨rfl, row, stored, same, rfl⟩
      · cases ran
        exact absurd rest Runs.not_throw
  · rintro ⟨rfl, row, stored, same, rfl⟩
    refine ⟨some (current + 1), _, Runs.await_iff.mpr
      ⟨[.tenant tenantId { row with controlVersion := current + 1 }], ?_,
        rfl⟩, Runs.pure_iff.mpr ⟨rfl, rfl⟩⟩
    simp only [run, stored, if_pos same]

def ControlTables.Unbarred (tables : ControlTables Stored) (tenantId : String) : Prop :=
  tables.writeBarriers.get? tenantId ≠ some true

theorem guarding_eq_ok :
    tables.guarding tenantId value = .ok result ↔ tables.Unbarred tenantId ∧ result = value := by
  rw [guarding, Unbarred]
  split
  · rename_i stands
    simp [stands]
  · rename_i absent
    simp [absent, eq_comm]

def entry (library : ControlLibrary Stored) (request : ControlRequest) (operation : Operation)
    (status : Nat) (storedAt : Time) (response : ControlResponse) : IdempotencyRow Stored :=
  ⟨operation, request.requestHash, status, library.dumps response, storedAt + seconds (24 * 3600)⟩

def ControlTables.remember (tables : ControlTables Stored) (request : ControlRequest)
    (row : IdempotencyRow Stored) : ControlTables Stored :=
  { tables with
    adminIdempotency := tables.adminIdempotency.set
      (request.tenantId, request.idempotencyKey) row }

theorem runs_conclude {operation : Operation} {status : Nat} {decision : String}
    {result : ControlResponse} :
    Runs now (conclude library request operation status decision storedAt
        response) tables result after ↔
      result = response ∧ tables.adminIdempotency.get?
          (request.tenantId, request.idempotencyKey) = none ∧
        tables.Unbarred request.tenantId ∧
        after = tables.remember request
          (entry library request operation status storedAt response) := by
  rw [conclude, Runs.bind_iff]
  constructor
  · rintro ⟨_, middle, stored, rest⟩
    obtain ⟨changes, inserted, rfl⟩ := Runs.await_iff.mp stored
    simp only [run] at inserted
    split at inserted
    · cases inserted
    · rename_i absent
      cases inserted
      obtain ⟨_, last, audited, finished⟩ := Runs.bind_iff.mp rest
      obtain ⟨changes, audits, rfl⟩ := Runs.await_iff.mp audited
      obtain ⟨unbarred, same⟩ := guarding_eq_ok.mp audits
      cases same
      obtain ⟨rfl, rfl⟩ := Runs.pure_iff.mp finished
      exact ⟨rfl, by simpa using absent, unbarred, rfl⟩
  · rintro ⟨rfl, absent, unbarred, rfl⟩
    refine ⟨(), tables.remember request
      (entry library request operation status storedAt result), ?_, ?_⟩
    · refine Runs.await_iff.mpr ⟨[.idempotency (request.tenantId, request.idempotencyKey)
        (entry library request operation status storedAt result)], ?_, rfl⟩
      simp only [run, absent]
      rfl
    · refine Runs.bind_iff.mpr ⟨(), _, Runs.await_iff.mpr ⟨[], ?_, rfl⟩,
        Runs.pure_iff.mpr ⟨rfl, rfl⟩⟩
      exact guarding_eq_ok.mpr ⟨unbarred, rfl⟩

structure Repeated (library : ControlLibrary Stored)
    (request : ControlRequest) (now : Time) (tables : ControlTables Stored)
    (response : ControlResponse) : Prop where
  known : ∃ row, tables.unexpired now request.tenantId request.idempotencyKey = some row ∧
      Answers library request.requestHash row response

structure Applied (library : ControlLibrary Stored) (request : ControlRequest)
    (operation : Operation) (status : Nat) (now storedAt : Time)
    (change : ControlProgram Stored (Int → ControlResponse))
    (tables : ControlTables Stored) (response : ControlResponse)
    (middle after : ControlTables Stored) (row : TenantRow) : Prop where
  unknown : tables.unexpired now request.tenantId request.idempotencyKey = none
  current : tables.version? request.tenantId = some request.expectedVersion
  changed : ∃ make, Runs now change tables make middle ∧
    response = make (request.expectedVersion + 1)
  tenant : middle.tenants.get? request.tenantId = some row
  version : row.controlVersion = request.expectedVersion
  vacant : middle.adminIdempotency.get? (request.tenantId, request.idempotencyKey) = none
  unbarred : middle.Unbarred request.tenantId
  leaves : after = (middle.withVersion request.tenantId row
    (request.expectedVersion + 1)).remember request
      (entry library request operation status storedAt response)

theorem runs_applyOnce {operation : Operation} {status : Nat} {decision : String}
    {change : ControlProgram Stored (Int → ControlResponse)} :
    Runs now (applyOnce library request operation status decision storedAt
        change) tables response after ↔
      (Repeated library request now tables response ∧ after = tables) ∨
        ∃ middle row, Applied library request operation status now storedAt
          change tables response middle after row := by
  rw [applyOnce, Runs.bind_iff]
  constructor
  · rintro ⟨found, first, looked, rest⟩
    obtain ⟨rfl, ⟨unknown, rfl⟩ | ⟨row, known, stored, answers, rfl⟩⟩ := runs_cached.mp looked
    · obtain ⟨current, second, locked, rest⟩ := Runs.bind_iff.mp rest
      obtain ⟨rfl, rfl, current⟩ := runs_lockVersion.mp locked
      obtain ⟨make, middle, changed, rest⟩ := Runs.bind_iff.mp rest
      obtain ⟨version, third, bumped, rest⟩ := Runs.bind_iff.mp rest
      obtain ⟨rfl, row, tenant, same, rfl⟩ := runs_bumpVersion.mp bumped
      obtain ⟨rfl, vacant, unbarred, rfl⟩ := runs_conclude.mp rest
      exact .inr ⟨middle, row, unknown, current, ⟨make, changed, rfl⟩, tenant,
        same, vacant, unbarred, rfl⟩
    · obtain ⟨rfl, rfl⟩ := Runs.pure_iff.mp rest
      exact .inl ⟨⟨row, stored, answers⟩, rfl⟩
  · rintro (⟨⟨row, stored, answers⟩, rfl⟩ | ⟨middle, row, applied⟩)
    · exact ⟨some response, after, runs_cached.mpr ⟨rfl, .inr ⟨row, response, stored, answers,
        rfl⟩⟩, Runs.pure_iff.mpr ⟨rfl, rfl⟩⟩
    · obtain ⟨make, changed, rfl⟩ := applied.changed
      refine ⟨none, tables, runs_cached.mpr ⟨rfl, .inl ⟨applied.unknown, rfl⟩⟩, ?_⟩
      refine Runs.bind_iff.mpr ⟨_, tables, runs_lockVersion.mpr ⟨rfl, rfl, applied.current⟩, ?_⟩
      refine Runs.bind_iff.mpr ⟨make, middle, changed, ?_⟩
      refine Runs.bind_iff.mpr ⟨_, _, runs_bumpVersion.mpr
        ⟨rfl, row, applied.tenant, applied.version, rfl⟩, ?_⟩
      exact runs_conclude.mpr ⟨rfl, applied.vacant, applied.unbarred, applied.leaves⟩

theorem runs_createTenant {displayName : String}
    (ran : Runs now (createTenant library request displayName storedAt) tables response after) :
    after = tables ∨ ∃ row : TenantRow, row.controlVersion = 1 ∧
        tables.tenants.get? request.tenantId = none ∧
        after = ({ tables with
          tenants := tables.tenants.set request.tenantId row }).remember
            request (entry library request .createTenant 201 storedAt response) := by
  rw [createTenant, Runs.bind_iff] at ran
  obtain ⟨found, first, looked, rest⟩ := ran
  obtain ⟨rfl, ⟨unknown, rfl⟩ | ⟨row, known, stored, answers, rfl⟩⟩ := runs_cached.mp looked
  · obtain ⟨inserted, second, wrote, ends⟩ := Runs.bind_iff.mp rest
    obtain ⟨changes, writes, rfl⟩ := Runs.await_iff.mp wrote
    simp only [run] at writes
    split at writes
    · cases writes
      exact absurd ends Runs.not_throw
    · rename_i absent
      cases writes
      obtain ⟨rfl, _, _, rfl⟩ := runs_conclude.mp ends
      exact .inr ⟨_, rfl, absent, rfl⟩
  · exact .inl (Runs.pure_iff.mp rest).2

end Steps

namespace Mutation

def operation : Mutation → Operation
  | .putBinding _ _ => .putBinding
  | .createConfigRevision _ _ => .createConfigRevision
  | .activateConfig _ _ _ activation => activation.operation
  | .replayOutbound _ _ => .replayOutbound

def status : Mutation → Nat
  | .putBinding _ _ => 200
  | .createConfigRevision _ _ => 201
  | .activateConfig _ _ _ _ => 200
  | .replayOutbound _ _ => 202

def decision : Mutation → String
  | .putBinding _ _ => "binding_updated"
  | .createConfigRevision _ _ => "config_created"
  | .activateConfig _ _ _ activation => activation.decision
  | .replayOutbound _ _ => "outbound_replayed"

def change (library : ControlLibrary Stored) (request : ControlRequest) :
    Mutation → ControlProgram Stored (Int → ControlResponse)
  | .putBinding bindingId binding => changeBinding request.tenantId bindingId binding
  | .createConfigRevision appId config =>
      addRevision library request.tenantId appId request.actor config
  | .activateConfig appId version percentage _ => route request.tenantId appId version percentage
  | .replayOutbound outboundId confirmAmbiguous =>
      requeue library request.tenantId outboundId confirmAmbiguous

theorem body_eq (library : ControlLibrary Stored) (request : ControlRequest)
    (mutation : Mutation) (storedAt : Time) :
    mutation.body library request storedAt =
      applyOnce library request mutation.operation mutation.status
        mutation.decision storedAt (mutation.change library request) := by
  cases mutation <;> rfl

variable {library : ControlLibrary Stored} {mutation : Mutation} {now storedAt : Time}
  {tables : ControlTables Stored}

theorem perform_eq_ok {after : ControlTables Stored} :
    mutation.perform library request now storedAt tables = (.ok response, after) ↔
      mutation.check request = .ok () ∧
        ((Repeated library request now tables response ∧ after = tables) ∨
          ∃ middle row, Applied library request mutation.operation
            mutation.status now storedAt (mutation.change library request)
            tables response middle after row) := by
  rw [perform]
  cases mutation.check request with
  | error error => exact ⟨nofun, nofun⟩
  | ok _ =>
    dsimp only
    rw [Schema.transact_eq_ok, body_eq]
    exact runs_applyOnce.trans ⟨fun ran => ⟨rfl, ran⟩, fun ran => ran.2⟩

theorem perform_error
    (raises : (mutation.perform library request now storedAt tables).1 = .error error) :
    (mutation.perform library request now storedAt tables).2 = tables := by
  revert raises
  rw [perform]
  cases mutation.check request with
  | error error => exact fun _ => rfl
  | ok _ => exact Schema.transact_error

end Mutation

end TrpcService.Tenant
