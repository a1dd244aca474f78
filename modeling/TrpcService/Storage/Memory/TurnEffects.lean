import TrpcService.Storage.Memory.Effects

namespace TrpcService.Storage.Memory

open Data MailboxStore.Evolves MailboxStore Repository

variable {request : Request} {clock finish : Time} {repository : Repository} {clk : Nat → Time}

variable {context : TenantContext}

theorem effect_acceptInbound (later : clock ≤ finish) {envelope : InboundEnvelope}
    {traceHeaders : List (String × String)}
    (call : request.call = .acceptInbound context envelope traceHeaders) :
    Effect request clock finish repository (repository.acceptInbound context
      envelope traceHeaders request.uuids clk).2 .quiet := by
  have silent : ∀ key, request.Allows key .silent := fun _ => .of_nil rfl
  have waited := wait silent True repository.mailboxStore later
  unfold acceptInbound
  split
  · exact ⟨.still (.refl repository), waited⟩
  · have named : request.context? = some context := by
      rw [Request.context?, call]
    exact ⟨.accept _ rfl named rfl rfl rfl rfl, waited⟩

theorem effect_acceptInboundV2 (inv : repository.mailboxStore.Inv True clock)
    (monotone : Monotone clk) (started : clock ≤ clk 0) (bounded : ∀ index, clk index ≤ finish)
    {envelope : InboundEnvelope} {priority : Priority} {retryAt : Option Time}
    (call : request.call = .acceptInboundV2 context envelope priority retryAt) :
    Effect request clock finish repository (repository.acceptInboundV2 context
      envelope priority retryAt request.uuids clk).2 .quiet := by
  have silent : ∀ key, request.Allows key .silent := fun _ => .of_nil rfl
  have reached : clock ≤ clk 2 := Int.le_trans started (monotone (Nat.zero_le 2))
  have named : request.context? = some context := by
    rw [Request.context?, call]
  unfold acceptInboundV2
  split
  · exact ⟨.still (.refl repository), wait silent True _ (Int.le_trans started (bounded 0))⟩
  dsimp only
  have transition := accept_transition (inv context.key) (request.uuids 0) priority
    (effectiveRetryAt (repository.mailboxStore.mailboxes.get? context.key) retryAt
    (clk 1)) (some context.traceId) (request.uuids 1) (clk 2)
  have evolves : Evolves True request.Allows (clock, repository.mailboxStore)
      (finish, _) := evolves_once reached (bounded 2) (by
      intro arrived member
      unfold Request.Arrives
      rw [call]
      exact ⟨rfl, arrivals_arrival _ _ _ arrived member⟩) transition
  split
  case h_1 error store same =>
    have last : _ = store := congrArg Prod.snd same
    subst last
    exact ⟨.accept _ rfl named rfl rfl rfl rfl, evolves⟩
  case h_2 answer store same =>
    have last : _ = store := congrArg Prod.snd same
    subst last
    refine Effect.andDispatches ?_ (.foldl dispatches_putOutbox _ _)
    exact ⟨.accept _ rfl named rfl rfl rfl rfl, evolves⟩

theorem ensureSession_begins {key : SessionKey} {snapshot : SessionSnapshot} {after : Repository}
    (ensured : repository.ensureSession key context = (snapshot, after)) :
    ∃ sessions, after = { repository with sessions } ∧ Begins key repository after := by
  unfold ensureSession at ensured
  split at ensured
  case h_1 =>
    cases ensured
    exact ⟨repository.sessions, rfl, .same rfl⟩
  case h_2 absent =>
    cases ensured
    exact ⟨_, rfl, .first _ absent rfl rfl rfl rfl⟩

theorem effect_acquire (later : clock ≤ finish) {acceptance : Acceptance} {workerId : String}
    {leaseFor : Time} (call : request.call = .acquire acceptance workerId leaseFor) :
    Effect request clock finish repository (repository.acquire acceptance
      workerId leaseFor request.uuids clk).2
      (.ofGrant ((repository.acquire acceptance workerId leaseFor
        request.uuids clk).1.toOption.getD none)) := by
  fun_cases acquire repository acceptance workerId leaseFor request.uuids clk with
  | case7 context key mailbox uncommitted _ _ order _ _ current _ snapshot
      middle ensured again lease =>
      obtain ⟨sessions, rfl, begins⟩ := ensureSession_begins ensured
      refine ⟨.grant lease uncommitted ?_ rfl rfl ?_ rfl rfl, ?_⟩
      · intro presented
        unfold Request.Presents at presented
        rw [call] at presented
        obtain ⟨accepted, stored, own⟩ := Option.map_eq_some_iff.mp presented
        exact ⟨accepted, stored, .inl (congrArg TenantContext.key own)⟩
      · cases begins with
        | same sessions => exact .same sessions
        | first snapshot absent version next events sessions =>
          exact .first snapshot absent version next events sessions
      · exact wait (fun _ => .of_nil rfl) True _ later
  | _ => exact .dispatches later (.refl repository)

theorem effect_renew (later : clock ≤ finish) (lease : SessionLease) (leaseFor : Time) :
    Effect request clock finish repository (repository.renew lease leaseFor clk).2
      (.ofRenewal (repository.renew lease leaseFor clk).1) := by
  fun_cases renew repository lease leaseFor clk with
  | case2 current held _ renewed =>
    exact ⟨.extend lease.key current _ held rfl rfl rfl rfl,
      wait (fun _ => .of_nil rfl) True _ later⟩
  | _ => exact .dispatches later (.refl repository)

theorem dispatches_putOutbound (repository : Repository) (commit : TurnCommit) (uuid : String) :
    Dispatches repository (repository.putOutbound commit uuid) := by
  unfold putOutbound
  split
  · exact .refl repository
  · exact dispatches_putOutbox repository _

theorem effect_commit (later : clock ≤ finish) (commit : TurnCommit) (uuids : Nat → String) :
    Effect request clock finish repository (repository.commit commit uuids clk).2
      (.ofCommit commit (repository.commit commit uuids clk).1) := by
  fun_cases Repository.commit repository commit uuids clk with
  | case2 lease current owned snapshot stored =>
    have same := dispatches_putOutbound repository commit (uuids 0)
    refine ⟨.commit commit snapshot owned.1 stored same.acceptancesById ?_ ?_ ?_, ?_⟩
    · exact congrArg (Dict.set · _ _) same.sessions
    · exact congrArg (Dict.erase · _) same.leases
    · exact congrArg (insert _) same.committedInbound
    · have stays : ((repository.putOutbound commit (uuids 0)).recordCommit
          commit snapshot).mailboxStore = _ := same.mailboxStore
      rw [stays]
      exact wait (fun _ => .of_nil rfl) True _ later
  | _ => exact .dispatches later (.refl repository)

theorem effect_fail (later : clock ≤ finish) (lease : SessionLease) :
    Effect request clock finish repository (repository.fail lease).2 .quiet := by
  fun_cases fail repository lease with
  | case1 => exact ⟨.release lease.key rfl rfl rfl rfl, wait (fun _ => .of_nil rfl) True _ later⟩
  | case2 => exact .dispatches later (.refl repository)

end TrpcService.Storage.Memory
