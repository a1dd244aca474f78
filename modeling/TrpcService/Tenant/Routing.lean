import TrpcService.Tenant.Mutations

namespace TrpcService.Tenant

open Data Storage ControlPlane ControlTables Runs

/-! The configuration of applications over whole runs of the control plane. -/

variable {Stored : Type}

structure Framed (before after : ControlTables Stored) : Prop where
  tenants : after.tenants = before.tenants
  adminIdempotency : after.adminIdempotency = before.adminIdempotency
  writeBarriers : after.writeBarriers = before.writeBarriers

/-- What a change does to the applications of a tenant. -/
inductive Rerouting (tenantId : String) (before after : ControlTables Stored) : Prop
  | same (apps : after.agentApps = before.agentApps)
      (revisions : after.configRevisions = before.configRevisions)
  | added (appId : String) (app : AgentApp) (revision : ConfigRevision)
      (found : before.agentApps.get? (tenantId, appId) = some app ∨
        before.agentApps.get? (tenantId, appId) = none ∧ app = { activeConfigVersion := 1 })
      (apps : ∀ key, after.agentApps.get? key =
        if (tenantId, appId) = key then some (app.update .touch)
        else before.agentApps.get? key)
      (revisions : after.configRevisions = before.configRevisions.set
        (tenantId, appId, latest (before.versions tenantId appId) + 1)
        revision)
  | routed (appId : String) (app : AgentApp) (version : Int) (percentage : Rat)
      (found : before.agentApps.get? (tenantId, appId) = some app)
      (revised : (before.configRevisions.get? (tenantId, appId, version)).isSome)
      (apps : after.agentApps = before.agentApps.set (tenantId, appId)
        (app.update (appChange version percentage)))
      (revisions : after.configRevisions = before.configRevisions)

variable {version : Int} {percentage : Rat} {middle : ControlTables Stored}
  {request : ControlRequest} {mutation : Mutation} {storedAt : Time} {response : ControlResponse}

section Changes

variable {library : ControlLibrary Stored} {now : Time} {tables after : ControlTables Stored}
  {tenantId : String} {make : Int → ControlResponse}

theorem effect_changeBinding {bindingId : String} {binding : ChannelBinding}
    (ran : Runs now (changeBinding tenantId bindingId binding) tables make after) :
    Framed tables after ∧ Rerouting tenantId tables after := by
  obtain ⟨row, middle, upserted, rest⟩ := bind_iff.mp ran
  obtain ⟨rfl, rfl⟩ := pure_iff.mp rest
  obtain ⟨changes, wrote, rfl⟩ := await_iff.mp upserted
  simp only [run] at wrote
  split at wrote
  · cases wrote
  · cases wrote
    exact ⟨⟨rfl, rfl, rfl⟩, .same rfl rfl⟩

variable {appId : String}

theorem runs_updateApp {change : AppChange}
    (ran : Runs now (Statement.updateApp tenantId appId change).await tables () after) :
    after = match tables.agentApps.get? (tenantId, appId) with
      | none => tables
      | some app => { tables with
          agentApps := tables.agentApps.set (tenantId, appId)
            (app.update change) } := by
  obtain ⟨changes, wrote, rfl⟩ := await_iff.mp ran
  simp only [run] at wrote
  cases found : tables.agentApps.get? (tenantId, appId) with
  | none =>
    rw [found] at wrote
    cases wrote
    rfl
  | some app =>
    rw [found] at wrote
    cases wrote
    rfl

theorem runs_ensureApp (ran : Runs now (ensureApp tenantId appId) tables () after) :
    ∃ app, after.agentApps.get? (tenantId, appId) = some app ∧
      (tables.agentApps.get? (tenantId, appId) = some app ∨
        tables.agentApps.get? (tenantId, appId) = none ∧ app = { activeConfigVersion := 1 }) ∧
      (∀ key, (tenantId, appId) ≠ key → after.agentApps.get? key = tables.agentApps.get? key) ∧
      after = { tables with agentApps := after.agentApps } := by
  obtain ⟨found, middle, asked, rest⟩ := bind_iff.mp ran
  obtain ⟨rfl, rfl⟩ := of_reads asked rfl
  split at rest
  · rename_i present
    obtain ⟨app, stored⟩ := Option.isSome_iff_exists.mp present
    obtain ⟨_, rfl⟩ := pure_iff.mp rest
    exact ⟨app, stored, .inl stored, fun _ _ => rfl, rfl⟩
  · rename_i absent
    obtain ⟨changes, wrote, rfl⟩ := await_iff.mp rest
    simp only [run, if_neg absent] at wrote
    cases wrote
    refine ⟨_, Dict.get?_set_self _ _ _, .inr ⟨by simpa using absent, rfl⟩, ?_, rfl⟩
    intro key different
    exact Dict.get?_set_of_ne _ _ different

theorem effect_addRevision {actor : String} {config : Json}
    (ran : Runs now (addRevision library tenantId appId actor config) tables make after) :
    Framed tables after ∧ Rerouting tenantId tables after := by
  obtain ⟨_, ensured, first, rest⟩ := bind_iff.mp ran
  obtain ⟨app, stored, found, others, same⟩ := runs_ensureApp first
  obtain ⟨version, second, asked, rest⟩ := bind_iff.mp rest
  obtain ⟨rfl, rfl⟩ := of_reads asked rfl
  obtain ⟨canonical, third, validated, rest⟩ := bind_iff.mp rest
  obtain ⟨_, rfl⟩ := done_iff.mp validated
  obtain ⟨_, fourth, inserted, rest⟩ := bind_iff.mp rest
  obtain ⟨changes, wrote, rfl⟩ := await_iff.mp inserted
  simp only [run] at wrote
  split at wrote
  · cases wrote
  · cases wrote
    obtain ⟨_, fifth, touched, rest⟩ := bind_iff.mp rest
    obtain ⟨rfl, rfl⟩ := pure_iff.mp rest
    have reached := runs_updateApp touched
    have here : ((controlSchema Stored).applyAll [.revision (tenantId, appId,
        latest (third.versions tenantId appId) + 1) ⟨canonical,
          library.checksum canonical, actor⟩] third).agentApps.get?
        (tenantId, appId) = some app := stored
    rw [here] at reached
    subst reached
    rw [same]
    refine ⟨⟨rfl, rfl, rfl⟩, .added appId app ⟨canonical,
      library.checksum canonical, actor⟩ found ?_ rfl⟩
    intro key
    show (Dict.set _ _ _).get? key = _
    rw [Dict.get?_set]
    split
    · rfl
    · rename_i different
      exact others key different

theorem effect_route (ran : Runs now (route tenantId appId version percentage) tables make after) :
    Framed tables after ∧ Rerouting tenantId tables after := by
  obtain ⟨revised, middle, asked, rest⟩ := bind_iff.mp ran
  obtain ⟨rfl, rfl⟩ := of_reads asked rfl
  split at rest
  · rename_i revised
    obtain ⟨_, last, updated, rest⟩ := bind_iff.mp rest
    obtain ⟨rfl, rfl⟩ := pure_iff.mp rest
    have reached := runs_updateApp updated
    cases stored : middle.agentApps.get? (tenantId, appId) with
    | none =>
      rw [stored] at reached
      subst reached
      exact ⟨⟨rfl, rfl, rfl⟩, .same rfl rfl⟩
    | some app =>
      rw [stored] at reached
      subst reached
      exact ⟨⟨rfl, rfl, rfl⟩, .routed appId app version percentage stored revised rfl rfl⟩
  · exact absurd rest not_throw

structure Requeued (before after : ControlTables Stored) : Prop where
  framed : Framed before after
  apps : after.agentApps = before.agentApps
  revisions : after.configRevisions = before.configRevisions

theorem Requeued.trans (first : Requeued tables middle) (second : Requeued middle after) :
    Requeued tables after where
  framed :=
    { tenants := second.framed.tenants.trans first.framed.tenants
      adminIdempotency := second.framed.adminIdempotency.trans
        first.framed.adminIdempotency
      writeBarriers := second.framed.writeBarriers.trans
        first.framed.writeBarriers }
  apps := second.apps.trans first.apps
  revisions := second.revisions.trans first.revisions

theorem Requeued.of_event {event : OutboundEvent}
    (ran : Runs now (Statement.insertOutbox event).await tables () after) :
    Requeued tables after := by
  obtain ⟨changes, wrote, rfl⟩ := await_iff.mp ran
  simp only [run] at wrote
  split at wrote
  · cases (guarding_eq_ok.mp wrote).2
    exact ⟨⟨rfl, rfl, rfl⟩, rfl, rfl⟩
  · cases (guarding_eq_ok.mp wrote).2
    exact ⟨⟨rfl, rfl, rfl⟩, rfl, rfl⟩

theorem Requeued.of_update {outboundId : String} {approved : Bool}
    (ran : Runs now (Statement.updateOutbound tenantId outboundId approved).await tables () after) :
    Requeued tables after := by
  obtain ⟨changes, wrote, rfl⟩ := await_iff.mp ran
  simp only [run] at wrote
  split at wrote
  · cases wrote
    exact ⟨⟨rfl, rfl, rfl⟩, rfl, rfl⟩
  · cases (guarding_eq_ok.mp wrote).2
    exact ⟨⟨rfl, rfl, rfl⟩, rfl, rfl⟩

theorem Requeued.of_resolution {sourceId : String}
    (ran : Runs now (Statement.resolveDeadLetters tenantId sourceId).await tables () after) :
    Requeued tables after := by
  obtain ⟨changes, wrote, rfl⟩ := await_iff.mp ran
  simp only [run] at wrote
  split at wrote
  · cases wrote
    exact ⟨⟨rfl, rfl, rfl⟩, rfl, rfl⟩
  · cases (guarding_eq_ok.mp wrote).2
    exact ⟨⟨rfl, rfl, rfl⟩, rfl, rfl⟩

theorem effect_requeue {outboundId : String} {confirmAmbiguous : Bool}
    (ran : Runs now (requeue library tenantId outboundId confirmAmbiguous) tables make after) :
    Framed tables after ∧ Rerouting tenantId tables after := by
  suffices touches : Requeued tables after from
    ⟨touches.framed, .same touches.apps touches.revisions⟩
  rw [requeue] at ran
  split at ran
  · exact absurd ran not_throw
  · rename_i uuid parsed
    obtain ⟨found, first, asked, rest⟩ := bind_iff.mp ran
    obtain ⟨rfl, rfl⟩ := of_reads asked rfl
    split at rest
    · exact absurd rest not_throw
    · rename_i row stored
      obtain ⟨approved, second, decided, writes⟩ := bind_iff.mp rest
      obtain ⟨_, rfl⟩ := done_iff.mp decided
      obtain ⟨_, third, updated, writes⟩ := bind_iff.mp writes
      obtain ⟨_, fourth, inserted, writes⟩ := bind_iff.mp writes
      obtain ⟨_, fifth, resolved, ends⟩ := bind_iff.mp writes
      obtain ⟨rfl, rfl⟩ := pure_iff.mp ends
      exact ((Requeued.of_update updated).trans (.of_event inserted)).trans
        (.of_resolution resolved)

theorem Mutation.effect (ran : Runs now (mutation.change library request) tables make after) :
    Framed tables after ∧ Rerouting request.tenantId tables after := by
  cases mutation with
  | putBinding => exact effect_changeBinding ran
  | createConfigRevision => exact effect_addRevision ran
  | activateConfig => exact effect_route ran
  | replayOutbound => exact effect_requeue ran

theorem Applied.get?_tenants {row : TenantRow}
    (applied : Applied library request mutation.operation mutation.status now
      storedAt (mutation.change library request) tables response middle after
      row)
    (other : String) :
    after.tenants.get? other = if request.tenantId = other then
        some { row with controlVersion := request.expectedVersion + 1 }
      else tables.tenants.get? other := by
  obtain ⟨make, changed, _⟩ := applied.changed
  rw [applied.leaves, ← (Mutation.effect changed).1.tenants]
  exact Dict.get?_set _ _ _ _

end Changes

/-- The revisions of the application are numbered from one on. -/
def ControlTables.Numbered (tables : ControlTables Stored)
    (tenantId appId : String) (count : Nat) : Prop :=
  ∀ version, (tables.configRevisions.get? (tenantId, appId, version)).isSome ↔
    1 ≤ version ∧ version ≤ count

structure AgentApp.Routed (app : AgentApp) (tables : ControlTables Stored)
    (tenantId appId : String) : Prop where
  active : (tables.configRevisions.get? (tenantId, appId, app.activeConfigVersion)).isSome
  candidate : ∀ version, app.candidateConfigVersion = some version →
    (tables.configRevisions.get? (tenantId, appId, version)).isSome
  percent : app.candidateConfigVersion = none → app.candidatePercent = 0

structure ControlTables.Routed (tables : ControlTables Stored) : Prop where
  numbered : ∀ tenantId appId, ∃ count, tables.Numbered tenantId appId count
  unrouted : ∀ tenantId appId, tables.agentApps.get? (tenantId, appId) = none →
    tables.Numbered tenantId appId 0
  apps : ∀ tenantId appId app, tables.agentApps.get? (tenantId, appId) = some app →
      app.Routed tables tenantId appId

section Invariant

variable {before after : ControlTables Stored} {tenantId appId : String}

theorem mem_versions (tables : ControlTables Stored) (version : Int) :
    version ∈ tables.versions tenantId appId ↔
      (tables.configRevisions.get? (tenantId, appId, version)).isSome := by
  rw [versions, List.mem_map]
  constructor
  · rintro ⟨⟨tenant, app, found⟩, member, rfl⟩
    obtain ⟨stored, same⟩ := List.mem_filter.mp member
    obtain ⟨rfl, rfl⟩ : tenant = tenantId ∧ app = appId := by simpa using same
    exact Option.isSome_iff_exists.mpr ((Dict.mem_keys_iff _ _).mp stored)
  · intro stored
    refine ⟨(tenantId, appId, version), List.mem_filter.mpr ⟨(Dict.mem_keys_iff _ _).mpr
      (Option.isSome_iff_exists.mp stored), ?_⟩, rfl⟩
    simp

theorem le_latest {versions : List Int} (member : version ∈ versions) :
    version ≤ latest versions := by
  induction versions with
  | nil => exact nomatch member
  | cons first rest induction =>
    rcases List.mem_cons.mp member with rfl | later
    · exact le_max_left _ _
    · exact (induction later).trans (le_max_right _ _)

theorem latest_le {versions : List Int} {bound : Int} (least : 0 ≤ bound)
    (bounded : ∀ version ∈ versions, version ≤ bound) : latest versions ≤ bound := by
  induction versions with
  | nil => exact least
  | cons first rest induction =>
    exact max_le (bounded first List.mem_cons_self) (induction fun version member =>
        bounded version (List.mem_cons_of_mem _ member))

theorem ControlTables.Numbered.latest_eq {tables : ControlTables Stored}
    {count : Nat} (numbered : tables.Numbered tenantId appId count) :
    latest (tables.versions tenantId appId) = count := by
  apply le_antisymm
  · refine latest_le (Int.natCast_nonneg count) fun version member => ?_
    exact ((numbered version).mp ((mem_versions tables version).mp member)).2
  · cases count with
    | zero =>
      have empty : tables.versions tenantId appId = [] := by
        refine List.eq_nil_iff_forall_not_mem.mpr fun version member => ?_
        have bounds := (numbered version).mp ((mem_versions tables version).mp member)
        omega
      rw [empty]
      exact le_refl _
    | succ count =>
      refine le_latest ((mem_versions tables _).mpr ((numbered _).mpr ?_))
      omega

theorem ControlTables.Numbered.add {count : Nat} {revision : ConfigRevision}
    (numbered : before.Numbered tenantId appId count)
    (revisions : after.configRevisions = before.configRevisions.set
      (tenantId, appId, (count : Int) + 1) revision) :
    after.Numbered tenantId appId (count + 1) := by
  intro version
  rw [revisions, Dict.get?_set]
  split
  · rename_i same
    obtain rfl : (count : Int) + 1 = version := by simpa using same
    constructor
    · intro _
      omega
    · exact fun _ => rfl
  · rename_i different
    have other : (count : Int) + 1 ≠ version := by simpa using different
    rw [numbered version]
    omega

variable {app : AgentApp}

theorem AgentApp.Routed.mono (routed : app.Routed before tenantId appId)
    (kept : ∀ key, (before.configRevisions.get? key).isSome →
      (after.configRevisions.get? key).isSome) :
    app.Routed after tenantId appId where
  active := kept _ routed.active
  candidate version points := kept _ (routed.candidate version points)
  percent := routed.percent

theorem AgentApp.Routed.change (routed : app.Routed before tenantId appId)
    (revised : (before.configRevisions.get? (tenantId, appId, version)).isSome) :
    (app.update (appChange version percentage)).Routed before tenantId appId := by
  rw [appChange]
  split
  · exact ⟨revised, nofun, fun _ => rfl⟩
  · split
    · exact ⟨routed.active, nofun, fun _ => rfl⟩
    · refine ⟨routed.active, ?_, nofun⟩
      rintro _ ⟨⟩
      exact revised

variable (routed : before.Routed)

include routed

theorem ControlTables.Routed.of_same (apps : after.agentApps = before.agentApps)
    (revisions : after.configRevisions = before.configRevisions) :
    after.Routed where
  numbered tenantId appId := by
    obtain ⟨count, numbered⟩ := routed.numbered tenantId appId
    refine ⟨count, fun version => ?_⟩
    rw [revisions]
    exact numbered version
  unrouted tenantId appId absent := by
    rw [apps] at absent
    intro version
    rw [revisions]
    exact routed.unrouted tenantId appId absent version
  apps tenantId appId app found := by
    rw [apps] at found
    refine (routed.apps tenantId appId app found).mono fun key stored => ?_
    rw [revisions]
    exact stored

theorem ControlTables.Routed.of_added {revision : ConfigRevision}
    (found : before.agentApps.get? (tenantId, appId) = some app ∨
      before.agentApps.get? (tenantId, appId) = none ∧ app = { activeConfigVersion := 1 })
    (apps : ∀ key, after.agentApps.get? key =
      if (tenantId, appId) = key then some (app.update .touch)
      else before.agentApps.get? key)
    (revisions : after.configRevisions = before.configRevisions.set
      (tenantId, appId, latest (before.versions tenantId appId) + 1)
      revision) :
    after.Routed := by
  obtain ⟨count, numbered⟩ := routed.numbered tenantId appId
  rw [numbered.latest_eq] at revisions
  have kept : ∀ key, (before.configRevisions.get? key).isSome →
      (after.configRevisions.get? key).isSome := by
    intro key stored
    rw [revisions]
    exact Dict.isSome_get?_set _ _ _ stored
  have others (tenant other : String) (different : (tenantId, appId) ≠ (tenant, other))
    (version : Int) : after.configRevisions.get? (tenant, other, version) =
    before.configRevisions.get? (tenant, other, version) := by
    rw [revisions]
    apply Dict.get?_set_of_ne
    intro same
    cases same
    exact different rfl
  refine ⟨fun tenant other => ?_, fun tenant other absent => ?_,
    fun tenant other stored present => ?_⟩
  · by_cases same : (tenantId, appId) = (tenant, other)
    · cases same
      exact ⟨count + 1, numbered.add revisions⟩
    · obtain ⟨total, apart⟩ := routed.numbered tenant other
      refine ⟨total, fun version => ?_⟩
      rw [others tenant other same]
      exact apart version
  · rw [apps] at absent
    split at absent
    · cases absent
    · rename_i different
      intro version
      rw [others tenant other different]
      exact routed.unrouted tenant other absent version
  · rw [apps] at present
    split at present
    · rename_i same
      cases same
      cases present
      rcases found with known | ⟨absent, rfl⟩
      · have before := (routed.apps _ _ _ known).mono kept
        exact ⟨before.active, before.candidate, before.percent⟩
      · -- The first revision is the one the new application points at.
        have fresh : count = 0 := by
          have first := (numbered 1).symm.trans
            (routed.unrouted _ _ absent 1)
          omega
        subst fresh
        refine ⟨?_, ?_, fun _ => rfl⟩
        · refine ((numbered.add revisions) 1).mpr ?_
          omega
        · intro version staged
          cases staged
    · exact (routed.apps tenant other stored present).mono kept

theorem ControlTables.Routed.of_routed (found : before.agentApps.get? (tenantId, appId) = some app)
    (revised : (before.configRevisions.get? (tenantId, appId, version)).isSome)
    (apps : after.agentApps = before.agentApps.set (tenantId, appId)
      (app.update (appChange version percentage)))
    (revisions : after.configRevisions = before.configRevisions) :
    after.Routed where
  numbered tenant other := by
    obtain ⟨count, numbered⟩ := routed.numbered tenant other
    refine ⟨count, fun version => ?_⟩
    rw [revisions]
    exact numbered version
  unrouted tenant other absent := by
    rw [apps, Dict.get?_set] at absent
    split at absent
    · cases absent
    · intro version
      rw [revisions]
      exact routed.unrouted tenant other absent version
  apps tenant other stored present := by
    have kept : ∀ key, (before.configRevisions.get? key).isSome →
        (after.configRevisions.get? key).isSome := by
      intro key there
      rw [revisions]
      exact there
    rw [apps, Dict.get?_set] at present
    split at present
    · rename_i same
      cases same
      cases present
      exact ((routed.apps _ _ _ found).change revised).mono kept
    · exact (routed.apps tenant other stored present).mono kept

theorem ControlTables.Routed.rerouting (rerouted : Rerouting tenantId before after) :
    after.Routed := by
  cases rerouted with
  | same apps revisions => exact routed.of_same apps revisions
  | added appId app revision found apps revisions => exact routed.of_added found apps revisions
  | routed appId app version percentage found revised apps revisions =>
    exact routed.of_routed found revised apps revisions

end Invariant

inductive ControlAction where
  | createTenant (request : ControlRequest) (displayName : String) (now storedAt : Time)
  | mutate (request : ControlRequest) (mutation : Mutation) (now storedAt : Time)
  /-- Messages, events and migrations are the business of others. -/
  | runtime (outboundMessages : Dict (String × String) OutboundRow)
      (outboxEvents : List OutboundEvent) (deadLetters : List DeadLetter)
      (writeBarriers : Dict String Bool)

open ControlAction

def ControlAction.perform (library : ControlLibrary Stored)
    (tables : ControlTables Stored) : ControlAction →
      Option (Except ControlError ControlResponse) × ControlTables Stored
  | .createTenant request displayName now storedAt =>
      let outcome := (controlSchema Stored).transact now now
        (ControlPlane.createTenant library request displayName storedAt) tables
      (some outcome.1, outcome.2)
  | .mutate request mutation now storedAt =>
      let outcome := mutation.perform library request now storedAt tables
      (some outcome.1, outcome.2)
  | .runtime outboundMessages outboxEvents deadLetters writeBarriers =>
      (none, { tables with
        outboundMessages, outboxEvents, deadLetters, writeBarriers })

structure ControlHistory (Stored : Type) where
  tables : ControlTables Stored := {}
  applied : String → Nat := fun _ => 0

open ControlHistory

/-- A mutation counts if it succeeds and is not a repetition. -/
def ControlHistory.count (history : ControlHistory Stored) (succeeds : Bool) :
    ControlAction → String → Nat
  | .mutate request _ now _ =>
      if succeeds = true ∧ history.tables.unexpired now request.tenantId
          request.idempotencyKey = none then
        Function.update history.applied request.tenantId (history.applied request.tenantId + 1)
      else history.applied
  | _ => history.applied

def ControlHistory.step (library : ControlLibrary Stored) (history : ControlHistory Stored)
    (action : ControlAction) : ControlHistory Stored :=
  let outcome := action.perform library history.tables
  ⟨outcome.2, history.count (outcome.1.any (·.isOk)) action⟩

def ControlHistory.run (library : ControlLibrary Stored)
    (actions : List ControlAction) : ControlHistory Stored :=
  actions.foldl (·.step library) {}

structure ControlHistory.Sound (history : ControlHistory Stored) : Prop where
  routed : history.tables.Routed
  counted : ∀ tenantId row, history.tables.tenants.get? tenantId = some row →
    row.controlVersion = 1 + history.applied tenantId
  uncounted : ∀ tenantId, history.tables.tenants.get? tenantId = none → history.applied tenantId = 0

namespace ControlHistory

variable {library : ControlLibrary Stored} {history : ControlHistory Stored}

theorem step_of_raises {action : ControlAction} {error : ControlError}
    (raises : (action.perform library history.tables).1 = some (.error error)) :
    history.step library action = history := by
  have same : (action.perform library history.tables).2 = history.tables := by
    cases action with
    | createTenant request displayName now storedAt =>
      exact Schema.transact_error (Option.some.inj raises)
    | mutate request mutation now storedAt => exact Mutation.perform_error (Option.some.inj raises)
    | runtime => exact nomatch raises
  have uncounted : history.count false action = history.applied := by
    cases action with
    | mutate => simp [count]
    | createTenant | runtime => rfl
  rw [step, raises, same]
  exact congrArg _ uncounted

variable {now : Time}

theorem Sound.createTenant (sound : history.Sound) {displayName : String}
    {after : ControlTables Stored}
    (ran : Runs now (ControlPlane.createTenant library request displayName
      storedAt) history.tables response after) :
    Sound ⟨after, history.applied⟩ := by
  rcases runs_createTenant ran with rfl | ⟨row, first, absent, rfl⟩
  · exact sound
  · refine ⟨sound.routed.of_same rfl rfl, fun tenantId found stored => ?_,
      fun tenantId missing => ?_⟩
    · rw [remember, Dict.get?_set] at stored
      split at stored
      · rename_i same
        subst same
        cases stored
        rw [first, sound.uncounted _ absent]
        rfl
      · exact sound.counted tenantId found stored
    · rw [remember, Dict.get?_set] at missing
      split at missing
      · cases missing
      · exact sound.uncounted tenantId missing

theorem Sound.applied (sound : history.Sound) {after : ControlTables Stored} {row : TenantRow}
    (applied : Applied library request mutation.operation mutation.status now
      storedAt (mutation.change library request) history.tables response middle
      after row) :
    Sound ⟨after, Function.update history.applied request.tenantId
      (history.applied request.tenantId + 1)⟩ := by
  obtain ⟨make, changed, _⟩ := applied.changed
  obtain ⟨framed, rerouted⟩ := Mutation.effect changed
  have stored := applied.tenant
  have tenants := applied.get?_tenants
  rw [framed.tenants] at stored
  refine ⟨(sound.routed.rerouting rerouted).of_same ?_ ?_,
    fun tenantId found known => ?_, fun tenantId missing => ?_⟩
  · rw [applied.leaves]
    rfl
  · rw [applied.leaves]
    rfl
  · rw [tenants] at known
    split at known
    · rename_i same
      subst same
      cases known
      have counted := sound.counted _ row stored
      rw [applied.version] at counted
      simp only [Function.update_self]
      omega
    · rename_i different
      dsimp only
      rw [Function.update_of_ne (Ne.symm different)]
      exact sound.counted tenantId found known
  · rw [tenants] at missing
    split at missing
    · cases missing
    · rename_i different
      dsimp only
      rw [Function.update_of_ne (Ne.symm different)]
      exact sound.uncounted tenantId missing

theorem mutate_cases (history : ControlHistory Stored) (request : ControlRequest)
    (mutation : Mutation) (now storedAt : Time) :
    let reached := history.step library (.mutate request mutation now storedAt)
    reached = history ∨ ∃ response middle after row, Applied library request mutation.operation
      mutation.status now storedAt (mutation.change library request) history.tables response middle
      after row ∧ reached = ⟨after, Function.update history.applied request.tenantId
      (history.applied request.tenantId + 1)⟩ := by
  rcases outcome : mutation.perform library request now storedAt history.tables with
    ⟨error | response, after⟩
  · exact .inl (step_of_raises (by rw [perform, outcome]))
  · obtain ⟨_, ⟨repeated, rfl⟩ | ⟨middle, row, applied⟩⟩ := Mutation.perform_eq_ok.mp outcome
    · obtain ⟨row, known, _⟩ := repeated.known
      simp [step, perform, count, outcome, known]
    · refine .inr ⟨response, middle, after, row, applied, ?_⟩
      simp [step, perform, count, outcome, applied.unknown, Except.isOk, Except.toBool]

theorem Sound.step (sound : history.Sound) (action : ControlAction) :
    (history.step library action).Sound := by
  cases action with
  | createTenant request displayName now storedAt =>
    rcases outcome : (controlSchema Stored).transact now now (ControlPlane.createTenant library
      request displayName storedAt) history.tables with ⟨error | response, after⟩
    · rw [step_of_raises (by rw [perform, outcome])]
      exact sound
    · rw [ControlHistory.step, perform, outcome]
      exact sound.createTenant (Schema.transact_eq_ok.mp outcome)
  | mutate request mutation now storedAt =>
    rcases history.mutate_cases request mutation now storedAt with
      same | ⟨_, _, _, _, applied, same⟩
    · rw [same]
      exact sound
    · rw [same]
      exact sound.applied applied
  | runtime => exact ⟨sound.routed.of_same rfl rfl, sound.counted, sound.uncounted⟩

theorem Sound.of_changes (sound : history.Sound)
    (changes : history.step library (.mutate request mutation now storedAt) ≠ history) :
    request.expectedVersion = 1 + history.applied request.tenantId ∧
      (history.step library (.mutate request mutation now storedAt)).applied request.tenantId =
        history.applied request.tenantId + 1 := by
  obtain ⟨_, _, _, _, applied, same⟩ := (history.mutate_cases ..).resolve_left changes
  obtain ⟨tenant, stored, current⟩ := Option.map_eq_some_iff.mp applied.current
  refine ⟨current.symm.trans (sound.counted _ tenant stored), ?_⟩
  rw [same]
  exact Function.update_self ..

theorem applied_le_step (action : ControlAction) (tenantId : String) :
    history.applied tenantId ≤ (history.step library action).applied tenantId := by
  cases action with
  | mutate request mutation now storedAt =>
    simp only [step, count]
    split
    · rw [Function.update_apply]
      split <;> simp [*]
    · exact le_rfl
  | createTenant | runtime => exact le_rfl

theorem Sound.steps (sound : history.Sound) (actions : List ControlAction) :
    (actions.foldl (·.step library) history).Sound ∧ ∀ tenantId,
      history.applied tenantId ≤ (actions.foldl (·.step library) history).applied tenantId := by
  induction actions generalizing history with
  | nil => exact ⟨sound, fun _ => le_rfl⟩
  | cons action rest induction =>
    obtain ⟨reached, grown⟩ := induction (sound.step action)
    exact ⟨reached, fun tenantId => (applied_le_step action tenantId).trans (grown tenantId)⟩

theorem sound_run (library : ControlLibrary Stored)
    (actions : List ControlAction) : (run library actions).Sound := by
  have empty (tenantId appId : String) : Numbered ({} : ControlTables Stored) tenantId appId 0 := by
    intro version
    simp only [Dict.get?_empty, Option.isSome_none, Bool.false_eq_true, false_iff]
    omega
  refine (Sound.steps ⟨⟨fun tenantId appId => ⟨0, empty tenantId appId⟩,
    fun tenantId appId _ => empty tenantId appId, by simp⟩, by simp,
    fun _ _ => rfl⟩ actions).1

end ControlHistory

theorem configuration_routing (library : ControlLibrary Stored) (actions : List ControlAction) :
    let history := run library actions
    (∀ tenantId tenant, history.tables.tenants.get? tenantId = some tenant →
      tenant.controlVersion = 1 + history.applied tenantId) ∧
    (∀ tenantId appId app, history.tables.agentApps.get? (tenantId, appId) = some app →
        app.Routed history.tables tenantId appId ∧
          ∃ count, history.tables.Numbered tenantId appId count) ∧
    ∀ action error, (action.perform library history.tables).1 = some (.error error) →
        history.step library action = history := by
  have sound := sound_run library actions
  refine ⟨sound.counted, fun tenantId appId app found => ?_,
    fun action error raises => step_of_raises raises⟩
  exact ⟨sound.routed.apps tenantId appId app found, sound.routed.numbered tenantId appId⟩

/-- Of two mutations of a tenant that change anything, the later one was sent
with a greater version, so by somebody who knew of the earlier one. -/
theorem no_control_update_lost (library : ControlLibrary Stored)
    (before between : List ControlAction) (first second : ControlRequest)
    (mutation other : Mutation) (now storedAt later laterStored : Time)
    (tenant : first.tenantId = second.tenantId) :
    let start := run library before
    let changed := start.step library (.mutate first mutation now storedAt)
    let reached := between.foldl (·.step library) changed
    changed ≠ start →
    reached.step library (.mutate second other later laterStored) ≠ reached →
      first.expectedVersion < second.expectedVersion := by
  intro start changed reached changes rechanges
  have sound : start.Sound := sound_run library before
  obtain ⟨early, counted⟩ := sound.of_changes changes
  obtain ⟨sound, grown⟩ := (sound.step (.mutate first mutation now storedAt)).steps between
  obtain ⟨late, -⟩ := sound.of_changes rechanges
  have grown := grown first.tenantId
  rw [← tenant] at late
  omega

def plainControl : ControlLibrary ControlResponse where
  validate config _ _ _ := .ok config
  checksum := id
  uuid := some
  dumps := id
  loads := some
  loads_dumps _ := rfl

def operatorRequest (expectedVersion : Int) (key : String) :
    ControlRequest where
  tenantId := "tenant"
  actor := "operator"
  expectedVersion := expectedVersion
  idempotencyKey := key
  requestHash := key

def stageCandidate : List ControlAction := [.createTenant (operatorRequest 0 "first") "Tenant" 0 0,
    .mutate (operatorRequest 1 "second") (.createConfigRevision "app" "old") 1 1,
    .mutate (operatorRequest 2 "third") (.createConfigRevision "app" "new") 2 2,
    .mutate (operatorRequest 3 "fourth") (.activateConfig "app" 2 25 .activateConfig) 3 3]

theorem staged_candidate_routing :
    let history := run plainControl stageCandidate
    let app : AgentApp := ⟨1, some 2, 25, 4⟩
    history.tables.agentApps.get? ("tenant", "app") = some app ∧
      app.Routed history.tables "tenant" "app" ∧
      (∃ tenant, history.tables.tenants.get? "tenant" = some tenant ∧
        tenant.controlVersion = 1 + history.applied "tenant") ∧
      history.step plainControl (.mutate (operatorRequest 3 "fifth")
        (.activateConfig "app" 3 100 .activateConfig) 4 4) = history := by
  intro history app
  have found : history.tables.agentApps.get? ("tenant", "app") =
      some app := by decide +kernel
  have created : (history.tables.tenants.get? "tenant").isSome := by
    decide +kernel
  have routing := configuration_routing plainControl stageCandidate
  obtain ⟨tenant, stored⟩ := Option.isSome_iff_exists.mp created
  refine ⟨found, (routing.2.1 _ _ _ found).1, ⟨tenant, stored, routing.1 _ _ stored⟩, ?_⟩
  refine routing.2.2 _ (.controlVersionConflict "tenant control version changed") ?_
  decide +kernel

/-- The second update makes the old revision the active one, and the fourth the
new one a candidate: their versions are in this order. -/
theorem staged_revisions_in_order :
    let candidate := fun count : Nat =>
      ((run plainControl (stageCandidate.take count)).tables.agentApps.get?
        ("tenant", "app")).map fun app => (app.activeConfigVersion, app.candidateConfigVersion)
    candidate 1 = none ∧ candidate 2 = some (1, none) ∧
      candidate 3 = some (1, none) ∧ candidate 4 = some (1, some 2) ∧
      (operatorRequest 1 "second").expectedVersion <
        (operatorRequest 3 "fourth").expectedVersion := by
  refine ⟨by decide +kernel, by decide +kernel, by decide +kernel, by decide +kernel, ?_⟩
  exact no_control_update_lost plainControl (stageCandidate.take 1) ((stageCandidate.drop 2).take 1)
    _ _ (.createConfigRevision "app" "old") (.activateConfig "app" 2 25 .activateConfig) 1 1 3 3 rfl
    (fun same => absurd (congrArg (·.applied "tenant") same) (by decide +kernel))
    (fun same => absurd (congrArg (·.applied "tenant") same) (by decide +kernel))

end TrpcService.Tenant
