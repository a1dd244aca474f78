import TrpcService.Tenant.Routing

namespace TrpcService.Tenant

open Data Storage ControlPlane Statement Mutation Runs ControlTables

/-! What an idempotency key is good for: while its entry lasts the response is
given again, and what a request does depends on its key in no other way. -/

variable {Stored : Type}

/-- All but the bookkeeping of a mutation. -/
def prepare (request : ControlRequest)
    (change : ControlProgram Stored (Int → ControlResponse)) :
    ControlProgram Stored ControlResponse := do
  let current ← lockVersion request.tenantId request.expectedVersion
  let response ← change
  let version ← bumpVersion request.tenantId current
  pure (response version)

variable {response : ControlResponse}

section Keys

variable {library : ControlLibrary Stored} {now storedAt : Time} {tables : ControlTables Stored}
  {request : ControlRequest} {operation : Operation} {status : Nat} {decision : String}
  {change : ControlProgram Stored (Int → ControlResponse)}

theorem execute_applyOnce
    (unknown : tables.unexpired now request.tenantId request.idempotencyKey = none) :
    execute ((controlSchema Stored).alone now now) (applyOnce library request
        operation status decision storedAt change) tables =
      execute ((controlSchema Stored).alone now now) (prepare request change >>=
        conclude library request operation status decision storedAt) tables := by
  have looked : Runs now (cached library request.tenantId request.idempotencyKey
      request.requestHash) tables none tables := runs_cached.mpr ⟨rfl, .inl ⟨unknown, rfl⟩⟩
  rw [applyOnce, execute_bind_ok looked, prepare]
  simp only [Coroutine.bind_assoc]
  rfl

theorem runs_prepare {middle : ControlTables Stored}
    (ran : Runs now (prepare request change) tables response middle) :
    ∃ changed make row, Runs now change tables make changed ∧
      middle = changed.withVersion request.tenantId row (request.expectedVersion + 1) := by
  obtain ⟨current, first, locked, rest⟩ := bind_iff.mp ran
  obtain ⟨rfl, rfl, _⟩ := runs_lockVersion.mp locked
  obtain ⟨make, changed, made, rest⟩ := bind_iff.mp rest
  obtain ⟨version, last, bumped, ends⟩ := bind_iff.mp rest
  obtain ⟨_, rfl⟩ := pure_iff.mp ends
  obtain ⟨_, row, _, _, rfl⟩ := runs_bumpVersion.mp bumped
  exact ⟨changed, make, row, made, rfl⟩

theorem execute_conclude
    (vacant : tables.adminIdempotency.get? (request.tenantId, request.idempotencyKey) = none) :
    execute ((controlSchema Stored).alone now now) (conclude library request
        operation status decision storedAt response) tables =
      (tables.guarding request.tenantId response, tables.remember request
        (entry library request operation status storedAt response)) := by
  have stored : Runs now (storeIdempotency library request.tenantId request.idempotencyKey operation
    request.requestHash response status storedAt) tables ()
    (tables.remember request (entry library request operation status storedAt response)) := by
    refine await_iff.mpr ⟨[.idempotency (request.tenantId, request.idempotencyKey)
      (entry library request operation status storedAt response)], ?_, rfl⟩
    simp only [run, vacant]
    rfl
  rw [conclude, execute_bind_ok stored]
  by_cases stands : tables.writeBarriers.get? request.tenantId = some true
  · have raises : tables.guarding request.tenantId response =
        .error (barred request.tenantId) := if_pos stands
    rw [raises]
    have audited : (tables.remember request (entry library request operation status storedAt
      response)).run (.insertAudit request.tenantId request.actor decision request.idempotencyKey)
      now = .error (barred request.tenantId) := if_pos stands
    rw [execute_bind]
    simp only [await, Coroutine.perform, execute, Schema.alone, controlSchema, audited]
  · have passes : tables.guarding request.tenantId response = .ok response := if_neg stands
    rw [passes]
    have audited : Runs now (insertAudit request.tenantId request.actor decision
      request.idempotencyKey).await (tables.remember request (entry library request operation status
      storedAt response)) () (tables.remember request (entry library request operation status
      storedAt response)) := await_iff.mpr ⟨[], if_neg stands, rfl⟩
    rw [execute_bind_ok audited]
    rfl

theorem exists_prepare (current : tables.version? request.tenantId = some request.expectedVersion)
    {make : Int → ControlResponse} {changed : ControlTables Stored}
    (made : Runs now change tables make changed) (framed : Framed tables changed) :
    ∃ response middle, Runs now (prepare request change) tables response middle := by
  obtain ⟨row, stored, version⟩ := Option.map_eq_some_iff.mp current
  rw [← framed.tenants] at stored
  refine ⟨make (request.expectedVersion + 1),
    changed.withVersion request.tenantId row (request.expectedVersion + 1),
    bind_iff.mpr ⟨_, _, runs_lockVersion.mpr ⟨rfl, rfl, current⟩, ?_⟩⟩
  exact bind_iff.mpr ⟨make, changed, made, bind_iff.mpr ⟨_, _,
    runs_bumpVersion.mpr ⟨rfl, row, stored, version, rfl⟩, pure_iff.mpr ⟨rfl, rfl⟩⟩⟩

theorem execute_conclude_stale {row : IdempotencyRow Stored}
    (left : tables.adminIdempotency.get? (request.tenantId, request.idempotencyKey) = some row) :
    execute ((controlSchema Stored).alone now now) (conclude library request
        operation status decision storedAt response) tables =
      (.error (duplicateKey "admin_idempotency_pkey"), tables) := by
  have taken : tables.run (.insertIdempotency request.tenantId request.idempotencyKey
      (entry library request operation status storedAt response)) now =
        .error (duplicateKey "admin_idempotency_pkey") := by
    rw [run, left]
    rfl
  have raised : execute ((controlSchema Stored).alone now now) (storeIdempotency library
      request.tenantId request.idempotencyKey operation request.requestHash response status
      storedAt) tables = (.error (duplicateKey "admin_idempotency_pkey"), tables) := by
    simp only [entry] at taken
    simp only [storeIdempotency, await, Coroutine.perform, execute, Schema.alone,
      controlSchema, taken]
  rw [conclude, execute_bind, raised]

def ControlRequest.withKey (request : ControlRequest) (key : String) : ControlRequest :=
  { request with idempotencyKey := key }

end Keys

structure SameOutcome (first second : Except ControlError ControlResponse × ControlTables Stored)
    (tenantId key other : String) : Prop where
  result : first.1 = second.1
  tables : first.2 = { second.2 with adminIdempotency := first.2.adminIdempotency }
  stored : ∀ response, first.1 = .ok response → first.2.adminIdempotency.get? (tenantId, key) =
      second.2.adminIdempotency.get? (tenantId, other)
  others : ∀ kept, kept ≠ (tenantId, key) → kept ≠ (tenantId, other) →
    first.2.adminIdempotency.get? kept = second.2.adminIdempotency.get? kept

namespace Mutation

variable {library : ControlLibrary Stored} {request : ControlRequest} {mutation : Mutation}
  {now storedAt : Time} {tables : ControlTables Stored}

theorem unexpired_of_vacant {tenantId key : String}
    (vacant : tables.adminIdempotency.get? (tenantId, key) = none) :
    tables.unexpired now tenantId key = none := by
  rw [ControlTables.unexpired, vacant]
  rfl

theorem perform_of_unknown (unknown : tables.unexpired now
      request.tenantId request.idempotencyKey = none)
    (checked : mutation.check request = .ok ()) :
    mutation.perform library request now storedAt tables =
      match (controlSchema Stored).transact now now
        (prepare request (mutation.change library request)) tables with
      | (.error error, _) => (.error error, tables)
      | (.ok response, middle) =>
        match tables.adminIdempotency.get? (request.tenantId, request.idempotencyKey) with
        | some _ => (.error (duplicateKey "admin_idempotency_pkey"), tables)
        | none =>
          match middle.guarding request.tenantId response with
          | .error error => (.error error, tables)
          | .ok answer => (.ok answer, middle.remember request
              (entry library request mutation.operation mutation.status storedAt response)) := by
  rw [perform, checked]
  dsimp only
  rw [Schema.transact, body_eq, execute_applyOnce unknown, execute_bind, Schema.transact]
  generalize ran : execute ((controlSchema Stored).alone now now)
    (prepare request (mutation.change library request)) tables = prepared
  obtain ⟨result, middle⟩ := prepared
  cases result with
  | error error => rfl
  | ok response =>
    obtain ⟨changed, make, row, made, reached⟩ := runs_prepare ran
    have same : middle.adminIdempotency = tables.adminIdempotency := by
      rw [reached, withVersion]
      exact (effect made).1.adminIdempotency
    dsimp only
    cases left : tables.adminIdempotency.get? (request.tenantId, request.idempotencyKey) with
    | none =>
      rw [execute_conclude (same ▸ left)]
      cases middle.guarding request.tenantId response <;> rfl
    | some row => rw [execute_conclude_stale (same ▸ left)]

theorem change_withKey (key : String) :
    mutation.change library (request.withKey key) = mutation.change library request := by
  cases mutation <;> rfl

theorem check_withKey (key : String) :
    mutation.check (request.withKey key) = mutation.check request := by
  cases mutation <;> rfl

theorem sameOutcome_of_error {first second : Except ControlError ControlResponse ×
      ControlTables Stored} {error : ControlError} {other : String}
    (raises : first = (.error error, tables)) (also : second = (.error error, tables)) :
    SameOutcome first second request.tenantId request.idempotencyKey other := by
  rw [raises, also]
  refine ⟨rfl, rfl, fun response succeeds => ?_, fun _ _ _ => rfl⟩
  cases succeeds

theorem sameOutcome_of_vacant {other : String}
    (vacant : tables.adminIdempotency.get? (request.tenantId, request.idempotencyKey) = none)
    (unused : tables.adminIdempotency.get? (request.tenantId, other) = none) :
    SameOutcome (mutation.perform library request now storedAt tables)
      (mutation.perform library (request.withKey other) now storedAt tables)
      request.tenantId request.idempotencyKey other := by
  cases checked : mutation.check request with
  | error error =>
    have same : mutation.check (request.withKey other) = .error error :=
      (check_withKey other).trans checked
    simp only [perform, checked, same]
    exact sameOutcome_of_error rfl rfl
  | ok _ =>
    have tenant : (request.withKey other).tenantId = request.tenantId := rfl
    have key : (request.withKey other).idempotencyKey = other := rfl
    have same : prepare (request.withKey other) (mutation.change library request) =
      prepare request (mutation.change library request) := rfl
    rw [perform_of_unknown (unexpired_of_vacant vacant) checked, perform_of_unknown
      (unexpired_of_vacant unused) ((check_withKey other).trans checked), change_withKey, same,
      tenant, key, vacant, unused]
    generalize (controlSchema Stored).transact now now
      (prepare request (mutation.change library request)) tables = ran
    obtain ⟨result, middle⟩ := ran
    cases result with
    | error error => exact sameOutcome_of_error rfl rfl
    | ok response =>
      dsimp only
      cases middle.guarding request.tenantId response with
      | error error => exact sameOutcome_of_error rfl rfl
      | ok answer =>
        refine ⟨rfl, rfl, fun _ _ => (Dict.get?_set_self _ _ _).trans
          (Dict.get?_set_self _ _ _).symm, fun kept first second => ?_⟩
        exact (Dict.get?_set_of_ne _ _ first.symm).trans (Dict.get?_set_of_ne _ _ second.symm).symm

/-- The request is refused before the entry of its key is stored, though its
version is current. -/
def Refused (library : ControlLibrary Stored) (request : ControlRequest)
    (tables : ControlTables Stored) : Mutation → Prop
  | .putBinding bindingId binding =>
      binding.tenantId ≠ request.tenantId ∨ binding.bindingId ≠ bindingId ∨
        tables.bindingConflict request.tenantId bindingId binding ≠ none
  | .createConfigRevision appId config =>
      ∃ error, library.validate config request.tenantId appId
        (latest (tables.versions request.tenantId appId) + 1) = .error error
  | .activateConfig appId version percentage _ =>
      ¬ (0 ≤ percentage ∧ percentage ≤ 100) ∨
        tables.configRevisions.get? (request.tenantId, appId, version) = none
  | .replayOutbound outboundId confirmAmbiguous =>
      ¬ tables.Unbarred request.tenantId ∨ ∀ uuid row, library.uuid outboundId = some uuid →
          tables.outboundMessages.get? (request.tenantId, uuid) = some row →
          ∃ error, replayable row confirmAmbiguous = .error error

section Accepted

variable {tenantId appId : String}

theorem exists_changeBinding {bindingId : String} {binding : ChannelBinding} :
    (∃ make after, Runs now (changeBinding tenantId bindingId binding) tables make after) ↔
      tables.bindingConflict tenantId bindingId binding = none := by
  constructor
  · rintro ⟨make, after, ran⟩
    obtain ⟨row, middle, upserted, _⟩ := bind_iff.mp ran
    obtain ⟨changes, wrote, _⟩ := await_iff.mp upserted
    simp only [run] at wrote
    split at wrote
    · cases wrote
    · assumption
  · intro free
    let row := tables.bindingRow tenantId bindingId binding
    refine ⟨_, _, bind_iff.mpr ⟨row, _, await_iff.mpr
      ⟨[.binding (tenantId, bindingId) row], ?_, rfl⟩, pure_iff.mpr ⟨rfl, rfl⟩⟩⟩
    simp only [run, free]
    rfl

variable (now tables tenantId appId) in
theorem exists_updateApp (change : AppChange) :
    ∃ after, Runs now (updateApp tenantId appId change).await tables () after := by
  cases found : tables.agentApps.get? (tenantId, appId) with
  | none => exact ⟨_, await_iff.mpr ⟨[], by simp only [run, found], rfl⟩⟩
  | some app => exact ⟨_, await_iff.mpr ⟨[.app (tenantId, appId) (app.update change)],
      by simp only [run, found], rfl⟩⟩

variable (now tables tenantId appId) in
theorem exists_ensureApp : ∃ after, Runs now (ensureApp tenantId appId) tables () after := by
  have reads : Runs now (selectApp tenantId appId).await tables
      (tables.agentApps.get? (tenantId, appId)).isSome tables :=
    await_iff.mpr ⟨[], rfl, rfl⟩
  cases present : (tables.agentApps.get? (tenantId, appId)).isSome with
  | true =>
    rw [present] at reads
    exact ⟨tables, bind_iff.mpr ⟨true, tables, reads, pure_iff.mpr ⟨rfl, rfl⟩⟩⟩
  | false =>
    rw [present] at reads
    refine ⟨_, bind_iff.mpr ⟨false, tables, reads, await_iff.mpr
      ⟨[.app (tenantId, appId) { activeConfigVersion := 1 }], ?_, rfl⟩⟩⟩
    simp only [run, present]
    rfl

theorem exists_addRevision {actor : String} {config : Json} :
    (∃ make after, Runs now (addRevision library tenantId appId actor config) tables make after) ↔
      ∃ canonical, library.validate config tenantId appId
        (latest (tables.versions tenantId appId) + 1) = .ok canonical := by
  constructor
  · rintro ⟨make, after, ran⟩
    obtain ⟨_, ensured, first, rest⟩ := bind_iff.mp ran
    obtain ⟨_, _, _, _, same⟩ := runs_ensureApp first
    obtain ⟨version, second, asked, rest⟩ := bind_iff.mp rest
    obtain ⟨rfl, rfl⟩ := of_reads asked rfl
    obtain ⟨canonical, third, validated, _⟩ := bind_iff.mp rest
    rw [same] at validated
    exact ⟨canonical, (done_iff.mp validated).1⟩
  · rintro ⟨canonical, valid⟩
    obtain ⟨ensured, first⟩ := exists_ensureApp now tables tenantId appId
    obtain ⟨_, _, _, _, same⟩ := runs_ensureApp first
    let version := latest (tables.versions tenantId appId) + 1
    let revision : ConfigRevision := ⟨canonical, library.checksum canonical, actor⟩
    have asked : Runs now (nextVersion tenantId appId).await ensured version ensured := by
      rw [same]
      exact await_iff.mpr ⟨[], rfl, rfl⟩
    have free : (ensured.configRevisions.get? (tenantId, appId, version)).isSome = false := by
      rw [same, Bool.eq_false_iff]
      intro taken
      have most := le_latest ((mem_versions tables version).mpr taken)
      omega
    let inserted := (controlSchema Stored).applyAll [.revision (tenantId, appId, version) revision]
      ensured
    have wrote : Runs now (insertRevision tenantId appId version revision).await ensured
        () inserted := await_iff.mpr ⟨_, by simp only [run, free]; rfl, rfl⟩
    obtain ⟨after, touched⟩ := exists_updateApp now inserted tenantId appId .touch
    refine ⟨.revision tenantId appId version revision.checksum, after, ?_⟩
    refine bind_iff.mpr ⟨(), ensured, first, bind_iff.mpr ⟨version, ensured, asked, ?_⟩⟩
    refine bind_iff.mpr ⟨canonical, ensured, done_iff.mpr ⟨valid, rfl⟩, ?_⟩
    refine bind_iff.mpr ⟨(), inserted, wrote, bind_iff.mpr ⟨(), after, touched, ?_⟩⟩
    exact pure_iff.mpr ⟨rfl, rfl⟩

theorem exists_route {version : Int} {percentage : Rat} :
    (∃ make after, Runs now (route tenantId appId version percentage) tables make after) ↔
      tables.configRevisions.get? (tenantId, appId, version) ≠ none := by
  rw [← Option.isSome_iff_ne_none]
  constructor
  · rintro ⟨make, after, ran⟩
    obtain ⟨revised, middle, asked, rest⟩ := bind_iff.mp ran
    obtain ⟨rfl, rfl⟩ := of_reads asked rfl
    split at rest
    · assumption
    · exact absurd rest not_throw
  · intro revised
    obtain ⟨after, updated⟩ := exists_updateApp now tables tenantId appId
      (appChange version percentage)
    refine ⟨.activation tenantId appId version percentage, after,
      bind_iff.mpr ⟨_, tables, await_iff.mpr ⟨[], rfl, rfl⟩, ?_⟩⟩
    rw [if_pos revised]
    exact bind_iff.mpr ⟨(), after, updated, pure_iff.mpr ⟨rfl, rfl⟩⟩

/-- The trigger of the protected tables lets a statement through. -/
theorem exists_guarded {statement : Statement Stored} {answer : statement.Answer}
    (unbarred : tables.Unbarred tenantId) {changes : List (Change Stored)}
    (guarded : tables.run statement now = tables.guarding tenantId (answer, changes)) :
    ∃ after, Runs now statement.await tables answer after :=
  ⟨_, await_iff.mpr ⟨changes, guarded.trans (guarding_eq_ok.mpr ⟨unbarred, rfl⟩), rfl⟩⟩

variable (now) in
theorem exists_insertOutbox (event : OutboundEvent) (unbarred : tables.Unbarred event.tenantId) :
    ∃ after, Runs now (insertOutbox event).await tables () after := by
  by_cases present : tables.outboxEvents.any fun other =>
      other.tenantId = event.tenantId ∧ other.aggregateId = event.aggregateId ∧
        other.channel = event.channel ∧ other.published = false
  · exact exists_guarded unbarred (if_pos present)
  · exact exists_guarded unbarred (if_neg present)

variable (now) in
theorem exists_resolveDeadLetters (sourceId : String) (unbarred : tables.Unbarred tenantId) :
    ∃ after, Runs now (resolveDeadLetters tenantId sourceId).await tables () after := by
  by_cases none : tables.deadLetters.all fun letter => letter.resolve tenantId sourceId = letter
  · exact ⟨_, await_iff.mpr ⟨[], if_pos none, rfl⟩⟩
  · exact exists_guarded unbarred (if_neg none)

theorem unbarred_of_requeued {after : ControlTables Stored} (requeued : Requeued tables after)
    (unbarred : tables.Unbarred tenantId) : after.Unbarred tenantId := by
  rw [Unbarred, requeued.framed.writeBarriers]
  exact unbarred

theorem exists_requeue {outboundId : String} {confirmAmbiguous : Bool} :
    (∃ make after, Runs now (requeue library tenantId outboundId confirmAmbiguous) tables
        make after) ↔
      tables.Unbarred tenantId ∧ ∃ uuid row approved, library.uuid outboundId = some uuid ∧
        tables.outboundMessages.get? (tenantId, uuid) = some row ∧
        replayable row confirmAmbiguous = .ok approved := by
  constructor
  · rintro ⟨make, after, ran⟩
    rw [requeue] at ran
    split at ran
    · exact absurd ran not_throw
    · rename_i uuid parsed
      obtain ⟨found, first, asked, rest⟩ := bind_iff.mp ran
      obtain ⟨rfl, rfl⟩ := of_reads asked rfl
      split at rest
      · exact absurd rest not_throw
      · rename_i row stored
        obtain ⟨approved, second, decided, writes⟩ := bind_iff.mp rest
        obtain ⟨replays, rfl⟩ := done_iff.mp decided
        obtain ⟨_, third, updated, _⟩ := bind_iff.mp writes
        obtain ⟨changes, wrote, _⟩ := await_iff.mp updated
        simp only [run, stored] at wrote
        exact ⟨(guarding_eq_ok.mp wrote).1, uuid, row, approved, parsed, stored, replays⟩
  · rintro ⟨unbarred, uuid, row, approved, parsed, stored, replays⟩
    have updates : tables.run (.updateOutbound tenantId uuid approved) now =
        tables.guarding tenantId ((), [.outbound (tenantId, uuid)
          { row with status := .pending, manualReplayApproved := approved }]) := by
      simp only [run, stored]
    obtain ⟨first, updated⟩ := exists_guarded unbarred updates
    have unbarred := unbarred_of_requeued (.of_update updated) unbarred
    obtain ⟨second, inserted⟩ := exists_insertOutbox now (row.event tenantId outboundId) unbarred
    have unbarred := unbarred_of_requeued (.of_event inserted) unbarred
    obtain ⟨after, resolved⟩ := exists_resolveDeadLetters now outboundId unbarred
    refine ⟨.replay outboundId .pending, after, ?_⟩
    rw [requeue, parsed]
    refine bind_iff.mpr ⟨some row, tables, await_iff.mpr ⟨[], ?_, rfl⟩, ?_⟩
    · simp only [run, stored]
    refine bind_iff.mpr ⟨approved, tables, done_iff.mpr ⟨replays, rfl⟩, ?_⟩
    refine bind_iff.mpr ⟨(), first, updated, bind_iff.mpr ⟨(), second, inserted, ?_⟩⟩
    exact bind_iff.mpr ⟨(), after, resolved, pure_iff.mpr ⟨rfl, rfl⟩⟩

variable (now) in
theorem accepted_iff : (mutation.check request = .ok () ∧
      ∃ make after, Runs now (mutation.change library request) tables make after) ↔
    ¬ mutation.Refused library request tables := by
  cases mutation with
  | putBinding bindingId binding =>
    rw [change, exists_changeBinding, check, Refused]
    by_cases same : binding.tenantId ≠ request.tenantId ∨ binding.bindingId ≠ bindingId
    · rw [if_pos same]
      simp only [reduceCtorEq, false_and, false_iff, not_not]
      rcases same with tenant | binding
      · exact .inl tenant
      · exact .inr (.inl binding)
    · rw [if_neg same]
      rw [not_or] at same
      simp only [true_and, same.1, same.2, false_or, not_not]
  | createConfigRevision appId config =>
    have checked : (createConfigRevision appId config).check request = .ok () := rfl
    rw [change, exists_addRevision, checked, Refused]
    cases library.validate config request.tenantId appId
        (latest (tables.versions request.tenantId appId) + 1) with
    | error error => simp
    | ok canonical => simp
  | activateConfig appId version percentage activation =>
    rw [change, exists_route, check, Refused]
    by_cases between : 0 ≤ percentage ∧ percentage ≤ 100
    · rw [if_pos between]
      simp [between]
    · rw [if_neg between]
      simp [between]
  | replayOutbound outboundId confirmAmbiguous =>
    have checked : (replayOutbound outboundId confirmAmbiguous).check request = .ok () := rfl
    rw [change, exists_requeue, checked, Refused, not_or, not_not]
    refine (and_iff_right rfl).trans (and_congr_right fun _ => ?_)
    constructor
    · rintro ⟨uuid, row, approved, parsed, stored, replays⟩ refused
      obtain ⟨error, raises⟩ := refused uuid row parsed stored
      cases raises.symm.trans replays
    · intro accepted
      push Not at accepted
      obtain ⟨uuid, row, parsed, stored, fine⟩ := accepted
      cases replays : replayable row confirmAmbiguous with
      | error error => exact absurd replays (fine error)
      | ok approved => exact ⟨uuid, row, approved, parsed, stored, replays⟩

end Accepted

theorem perform_again {row : IdempotencyRow Stored} (checked : mutation.check request = .ok ())
    (stored : tables.adminIdempotency.get? (request.tenantId, request.idempotencyKey) = some row)
    (unexpired : now < row.expiresAt) (answers : Answers library request.requestHash row response) :
    mutation.perform library request now storedAt tables = (.ok response, tables) := by
  refine perform_eq_ok.mpr ⟨checked, .inl ⟨⟨row, ?_, answers⟩, rfl⟩⟩
  rw [ControlTables.unexpired, stored]
  exact Option.filter_eq_some_iff.mpr ⟨rfl, decide_eq_true unexpired⟩

theorem sameOutcome_of_refused {unused : String}
    (expired : tables.unexpired now request.tenantId request.idempotencyKey = none)
    (never : tables.adminIdempotency.get? (request.tenantId, unused) = none)
    (refused : mutation.Refused library request tables) :
    SameOutcome (mutation.perform library request now storedAt tables)
      (mutation.perform library (request.withKey unused) now storedAt tables)
      request.tenantId request.idempotencyKey unused := by
  cases checked : mutation.check request with
  | error error =>
    have same : mutation.check (request.withKey unused) = .error error :=
      (check_withKey unused).trans checked
    simp only [perform, checked, same]
    exact sameOutcome_of_error rfl rfl
  | ok _ =>
    have same : prepare (request.withKey unused) (mutation.change library request) =
      prepare request (mutation.change library request) := rfl
    rw [perform_of_unknown expired checked, perform_of_unknown
      (unexpired_of_vacant never) ((check_withKey unused).trans checked), change_withKey, same]
    generalize ran : (controlSchema Stored).transact now now
      (prepare request (mutation.change library request)) tables = prepared
    obtain ⟨result, middle⟩ := prepared
    cases result with
    | error error => exact sameOutcome_of_error rfl rfl
    | ok response =>
      obtain ⟨changed, make, _, made, _⟩ := runs_prepare (Schema.transact_eq_ok.mp ran)
      exact absurd refused ((accepted_iff now).mp ⟨checked, make, changed, made⟩)

theorem duplicateKey_ne_barred {constraint tenantId : String} :
    duplicateKey constraint ≠ barred tenantId := by
  intro same
  have heads := congrArg (fun text => text.toList.head?) (ControlError.databaseError.inj same)
  have duplicate : (toString "duplicate key value violates unique constraint ").toList.head? =
      some 'd' := by decide +kernel
  have tenant : (toString "tenant ").toList.head? = some 't' := by decide +kernel
  simp [duplicate, tenant] at heads

theorem stale_key_differs {unused : String}
    (expired : tables.unexpired now request.tenantId request.idempotencyKey = none)
    (never : tables.adminIdempotency.get? (request.tenantId, unused) = none)
    (current : tables.version? request.tenantId = some request.expectedVersion)
    (left : tables.adminIdempotency.get? (request.tenantId, request.idempotencyKey) ≠ none)
    (accepted : ¬ mutation.Refused library request tables) :
    (mutation.perform library request now storedAt tables).1 ≠
      (mutation.perform library (request.withKey unused) now storedAt tables).1 := by
  obtain ⟨checked, make, changed, made⟩ := (accepted_iff now).mpr accepted
  obtain ⟨response, middle, ran⟩ := exists_prepare current made (effect made).1
  have done : (controlSchema Stored).transact now now
      (prepare request (mutation.change library request)) tables = (.ok response, middle) :=
    Schema.transact_eq_ok.mpr ran
  have same : prepare (request.withKey unused) (mutation.change library request) =
    prepare request (mutation.change library request) := rfl
  have tenant : (request.withKey unused).tenantId = request.tenantId := rfl
  have key : (request.withKey unused).idempotencyKey = unused := rfl
  obtain ⟨row, left⟩ := Option.ne_none_iff_exists'.mp left
  rw [perform_of_unknown expired checked, perform_of_unknown (unexpired_of_vacant never)
    ((check_withKey unused).trans checked), change_withKey, same, tenant, key, done, left, never]
  dsimp only
  by_cases stands : middle.writeBarriers.get? request.tenantId = some true
  · have raises : middle.guarding request.tenantId response =
        .error (barred request.tenantId) := if_pos stands
    rw [raises]
    intro same
    exact duplicateKey_ne_barred (Except.error.inj same)
  · have passes : middle.guarding request.tenantId response = .ok response := if_neg stands
    rw [passes]
    rintro ⟨⟩

theorem stored_of_perform {after : ControlTables Stored}
    (performed : mutation.perform library request now storedAt tables = (.ok response, after)) :
    mutation.check request = .ok () ∧ ∃ row, after.adminIdempotency.get?
          (request.tenantId, request.idempotencyKey) = some row ∧
        Answers library request.requestHash row response ∧
        (row.expiresAt = storedAt + seconds (24 * 3600) ∨
          (after = tables ∧ now < row.expiresAt)) := by
  obtain ⟨checked, ⟨repeated, rfl⟩ | ⟨middle, tenant, applied⟩⟩ := perform_eq_ok.mp performed
  · obtain ⟨row, known, answers⟩ := repeated.known
    obtain ⟨stored, unexpired⟩ := Option.filter_eq_some_iff.mp known
    exact ⟨checked, row, stored, answers, .inr ⟨rfl, of_decide_eq_true unexpired⟩⟩
  · refine ⟨checked, entry library request mutation.operation mutation.status
      storedAt response, ?_, ⟨rfl, library.loads_dumps response⟩, .inl rfl⟩
    rw [applied.leaves]
    exact Dict.get?_set_self _ _ _

end Mutation

/-- The request does what it does with a key that was never used, and later
identical requests get its response. -/
def Reusable (library : ControlLibrary Stored) (mutation : Mutation) (request : ControlRequest)
    (unused : String) (now storedAt : Time) (tables : ControlTables Stored) : Prop :=
  let outcome := mutation.perform library request now storedAt tables
  SameOutcome outcome (mutation.perform library (request.withKey unused) now
      storedAt tables) request.tenantId request.idempotencyKey unused ∧
    ∀ response, outcome.1 = .ok response → ∀ later again, later < storedAt + seconds (24 * 3600) →
        mutation.perform library request later again outcome.2 = (.ok response, outcome.2)

/-- A key whose entry is over can be used again exactly if the entry is not
there any more, or if the request is refused anyway. -/
theorem expired_key_reusable_iff (library : ControlLibrary Stored)
    (mutation : Mutation) (request : ControlRequest) (unused : String)
    (now storedAt : Time) (tables : ControlTables Stored)
    (expired : tables.unexpired now request.tenantId request.idempotencyKey = none)
    (never : tables.adminIdempotency.get? (request.tenantId, unused) = none)
    (current : tables.version? request.tenantId = some request.expectedVersion) :
    Reusable library mutation request unused now storedAt tables ↔ tables.adminIdempotency.get?
          (request.tenantId, request.idempotencyKey) = none ∨
        mutation.Refused library request tables := by
  constructor
  · intro reusable
    by_contra! stale
    exact stale_key_differs expired never current stale.1 stale.2 reusable.1.result
  · intro usable
    refine ⟨?_, fun response succeeds later again soon => ?_⟩
    · rcases usable with vacant | refused
      · exact sameOutcome_of_vacant vacant never
      · exact sameOutcome_of_refused expired never refused
    · have performed : mutation.perform library request now storedAt tables =
          (.ok response, _) := Prod.ext succeeds rfl
      obtain ⟨checked, row, stored, answers, lasts | ⟨same, still⟩⟩ := stored_of_perform performed
      · exact perform_again checked stored (lasts ▸ soon) answers
      · rw [same] at stored
        rw [ControlTables.unexpired, stored] at expired
        simp at expired
        exact absurd still (Int.not_lt.mpr expired)

def reviseOnce : List ControlAction := [.createTenant (operatorRequest 0 "first") "Tenant" 0 0,
    .mutate (operatorRequest 1 "second") (.createConfigRevision "app" "old") 1 1]

def daysLater : Time := seconds (48 * 3600)

/-- The lookup does not see the entry that the insertion stumbles over. -/
theorem expired_key_is_refused :
    let tables := (ControlHistory.run plainControl reviseOnce).tables
    let revise (key : String) := (createConfigRevision "app" "new").perform
      plainControl (operatorRequest 2 key) daysLater daysLater tables
    tables.unexpired daysLater "tenant" "second" = none ∧
      (revise "second").1 = .error (duplicateKey "admin_idempotency_pkey") ∧
      (revise "third").1 = .ok (.revision "tenant" "app" 2 "new" 3) := by
  decide +kernel

/-- With the same key, a request for a revision that is not there. -/
theorem refused_key_is_reusable :
    let tables := (ControlHistory.run plainControl reviseOnce).tables
    let activate (key : String) := (activateConfig "app" 7 100 .activateConfig).perform plainControl
        (operatorRequest 2 key) daysLater daysLater tables
    (activate "second").1 = .error (.lookupError "configuration revision does not exist") ∧
      (activate "second").1 = (activate "third").1 := by
  intro tables activate
  refine ⟨by decide +kernel, ?_⟩
  exact ((expired_key_reusable_iff plainControl
    (.activateConfig "app" 7 100 .activateConfig) (operatorRequest 2 "second")
    "third" daysLater daysLater tables (by decide +kernel) (by decide +kernel)
    (by decide +kernel)).mpr (.inr (.inr (by decide +kernel)))).1.result

end TrpcService.Tenant
