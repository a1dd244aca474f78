import TrpcService.Storage.Memory.EventLog

namespace TrpcService.Storage.Memory

open Data Request Call

/-! No message is committed twice.  Within one session the lease table sees to
it; across sessions it depends on where a message is enqueued. -/

def TurnCommit.marker (turn : TurnCommit) : SessionKey × String :=
  (turn.lease.key, turn.lease.inboundId)

/-- Leases of one turn work on one message of one session. -/
def Consistent (handed : List SessionLease) : Prop :=
  ∀ lease ∈ handed, ∀ other ∈ handed, lease.turnId = other.turnId →
    lease.key = other.key ∧ lease.inboundId = other.inboundId

variable {lease : SessionLease}

theorem Consistent.append {handed : List SessionLease} (consistent : Consistent handed)
    (continues : ∀ other ∈ handed, lease.turnId = other.turnId →
      lease.key = other.key ∧ lease.inboundId = other.inboundId) :
    Consistent (handed ++ [lease]) := by
  intro left leftMember right rightMember same
  rw [List.mem_append, List.mem_singleton] at leftMember rightMember
  rcases leftMember with old | rfl
  · rcases rightMember with old' | rfl
    · exact consistent left old right old' same
    · obtain ⟨key, inbound⟩ := continues left old same.symm
      exact ⟨key.symm, inbound.symm⟩
  · rcases rightMember with old' | rfl
    · exact continues right old' same
    · exact ⟨rfl, rfl⟩

theorem owns_iff {current : Option SessionLease} {expected : SessionLease} :
    owns current expected = true ↔ ∃ stored, current = some stored ∧
      stored.workerId = expected.workerId ∧
      stored.fencingToken = expected.fencingToken ∧
      stored.turnId = expected.turnId := by
  simp [owns, Option.any_eq_true, and_assoc]

structure OncePerSession (repository : Repository)
    (handed : List SessionLease) (turns : List TurnCommit) : Prop where
  held : ∀ key lease, repository.leases.get? key = some lease → lease.key = key ∧ lease ∈ handed ∧
      (key, lease.inboundId) ∉ turns.map TurnCommit.marker
  consistent : Consistent handed
  own : ∀ turn ∈ turns, turn.lease ∈ handed
  committed : ∀ turn ∈ turns, (turn.lease.tenantId, turn.lease.inboundId) ∈
    repository.committedInbound
  once : (turns.map TurnCommit.marker).Nodup

variable {key : SessionKey}

namespace OncePerSession

variable {request : Request} {before after : Repository} {deed : Deed} {handed : List SessionLease}
  {turns : List TurnCommit}

theorem initial : OncePerSession .initial [] [] := ⟨nofun, nofun, nofun, nofun, List.nodup_nil⟩

section Once

variable (once : OncePerSession before handed turns)

include once

theorem sameTurns (leases : after.leases = before.leases)
    (committedInbound : after.committedInbound = before.committedInbound) :
    OncePerSession after handed turns where
  held := by
    rw [leases]
    exact once.held
  consistent := once.consistent
  own := once.own
  committed := by
    rw [committedInbound]
    exact once.committed
  once := once.once

theorem continues_turn {uuid : String}
    (turn : lease.turnId = before.turnFor lease.key lease.inboundId uuid)
    (fresh : ∀ other ∈ handed, other.turnId ≠ uuid) :
    ∀ other ∈ handed, lease.turnId = other.turnId →
      lease.key = other.key ∧ lease.inboundId = other.inboundId := by
  intro other member same
  rw [turn] at same
  unfold Repository.turnFor at same
  split at same
  case h_1 previous stored =>
    obtain ⟨keyed, old, _⟩ := once.held lease.key previous stored
    split at same
    case isTrue continued =>
      obtain ⟨key, inbound⟩ := once.consistent previous old other member same
      exact ⟨keyed.symm.trans key, continued.symm.trans inbound⟩
    case isFalse => exact absurd same.symm (fresh other member)
  case h_2 => exact absurd same.symm (fresh other member)

theorem uncommitted_marker
    (uncommitted : (lease.tenantId, lease.inboundId) ∉ before.committedInbound) :
    (lease.key, lease.inboundId) ∉ turns.map TurnCommit.marker := by
  intro member
  obtain ⟨turn, done, same⟩ := List.mem_map.mp member
  have recorded := once.committed turn done
  have key : turn.lease.key = lease.key := congrArg Prod.fst same
  have inbound : turn.lease.inboundId = lease.inboundId := congrArg Prod.snd same
  have tenant : turn.lease.tenantId = lease.tenantId := congrArg Prod.fst key
  rw [tenant, inbound] at recorded
  exact uncommitted recorded

end Once

variable (once : OncePerSession before handed turns)

include once

theorem put (keyed : lease.key = key)
    (unmarked : (key, lease.inboundId) ∉ turns.map TurnCommit.marker)
    (continues : ∀ other ∈ handed, lease.turnId = other.turnId →
      lease.key = other.key ∧ lease.inboundId = other.inboundId)
    (leases : after.leases = before.leases.set key lease)
    (committedInbound : after.committedInbound = before.committedInbound) :
    OncePerSession after (handed ++ [lease]) turns where
  held := by
    intro session stored
    rw [leases, Dict.get?_set]
    split
    case isTrue same =>
      rintro ⟨⟩
      subst same
      exact ⟨keyed, List.mem_append_right _ (List.mem_singleton.mpr rfl), unmarked⟩
    case isFalse =>
      intro found
      obtain ⟨own, member, fresh⟩ := once.held session stored found
      exact ⟨own, List.mem_append_left _ member, fresh⟩
  consistent := once.consistent.append continues
  own turn done := List.mem_append_left _ (once.own turn done)
  committed := by
    rw [committedInbound]
    exact once.committed
  once := once.once

theorem release (leases : after.leases = before.leases.erase key)
    (committedInbound : after.committedInbound = before.committedInbound) :
    OncePerSession after handed turns where
  held := by
    intro session lease found
    rw [leases, Dict.get?_erase] at found
    split at found
    · cases found
    · exact once.held session lease found
  consistent := once.consistent
  own := once.own
  committed := by
    rw [committedInbound]
    exact once.committed
  once := once.once

theorem commit {turn : TurnCommit} (own : turn.lease ∈ handed)
    (owned : owns (before.leases.get? turn.lease.key) turn.lease = true)
    (leases : after.leases = before.leases.erase turn.lease.key)
    (committedInbound : after.committedInbound = insert (turn.lease.tenantId, turn.lease.inboundId)
        before.committedInbound) :
    OncePerSession after handed (turns ++ [turn]) := by
  obtain ⟨current, stored, _, _, turnId⟩ := owns_iff.mp owned
  obtain ⟨_, member, unmarked⟩ := once.held _ current stored
  obtain ⟨_, inbound⟩ := once.consistent current member _ own turnId
  rw [inbound] at unmarked
  refine ⟨?_, once.consistent, ?_, ?_, ?_⟩
  · intro key lease found
    have different : turn.lease.key ≠ key := by
      rintro rfl
      rw [leases, Dict.get?_erase_self] at found
      exact nomatch found
    rw [leases, Dict.get?_erase_of_ne _ different] at found
    obtain ⟨keyed, old, fresh⟩ := once.held key lease found
    refine ⟨keyed, old, ?_⟩
    rw [List.map_append, List.mem_append, List.map_singleton, List.mem_singleton, not_or]
    exact ⟨fresh, fun same => different (congrArg Prod.fst same).symm⟩
  · intro done member
    rcases List.mem_append.mp member with old | new
    · exact once.own done old
    · rw [List.mem_singleton.mp new]
      exact own
  · intro done member
    rw [committedInbound, Finset.mem_insert]
    rcases List.mem_append.mp member with old | new
    · exact .inr (once.committed done old)
    · rw [List.mem_singleton.mp new]
      exact .inl rfl
  · rw [List.map_append, List.map_singleton]
    exact List.nodup_append.mpr ⟨once.once, List.nodup_singleton _,
      fun marker old other new same => unmarked (by
        rw [List.mem_singleton] at new
        rw [← new.symm.trans same.symm] at old
        exact old)⟩

theorem step (act : Act request before after deed)
    (own : ∀ turn, deed = .commit turn → turn.lease ∈ handed)
    (fresh : ∀ lease ∈ handed, lease.turnId ≠ request.uuids 0) :
    OncePerSession after (handed ++ deed.handed) (turns ++ deed.commits) := by
  cases act with
  | still same =>
    simpa [Deed.handed, Deed.commits] using once.sameTurns same.leases same.committedInbound
  | accept _ _ _ _ _ leases committed =>
    simpa [Deed.handed, Deed.commits] using once.sameTurns leases committed
  | release key _ _ leases committed =>
    simp only [Deed.handed, Deed.commits, List.append_nil]
    exact once.release leases committed
  | extend key current expiresAt held _ _ leases committed =>
    simp only [Deed.handed, Deed.commits, List.append_nil]
    obtain ⟨keyed, member, unmarked⟩ := once.held key current held
    exact once.put keyed unmarked (once.consistent current member) leases committed
  | grant lease uncommitted _ turn _ _ leases committed =>
    simp only [Deed.handed, Deed.commits, List.append_nil]
    exact once.put rfl (once.uncommitted_marker uncommitted)
      (once.continues_turn turn fresh) leases committed
  | commit turn snapshot owned _ _ _ leases committed =>
    simp only [Deed.handed, Deed.commits, List.append_nil]
    exact once.commit (own turn rfl) owned leases committed

end OncePerSession

def enqueued (store : MailboxStore) : List String := store.items.values.flatMap fun items =>
    items.values.map MailboxItem.inboundId

variable {inboundId : String}

theorem mem_enqueued {store : MailboxStore} (stored : inboundId ∈ (store.slot key).inboundIds) :
    inboundId ∈ enqueued store := by
  refine List.mem_flatMap.mpr ⟨store.itemsOf key, ?_, stored⟩
  rw [Dict.mem_values_iff]
  refine ⟨key, ?_⟩
  unfold MailboxStore.itemsOf
  cases found : store.items.get? key with
  | some items => rfl
  | none =>
    have empty : (store.slot key).inboundIds = [] := by
      simp [Slot.inboundIds, MailboxStore.slot, MailboxStore.itemsOf, found]
    rw [empty] at stored
    cases stored

structure Fresh (config : RepositoryConfig) (uuid : String) : Prop where
  accepted : config.state.acceptancesById.get? uuid = none
  enqueued : uuid ∉ enqueued config.state.mailboxStore
  turns : ∀ lease ∈ handedOut config.history, lease.turnId ≠ uuid

/-- Callers present the leases and acceptances that they were handed out, and
the identifier that names a message or a turn is fresh. -/
structure Honest (config : RepositoryConfig) (request : Request) : Prop where
  leases : ∀ lease ∈ request.call.leases, lease ∈ handedOut config.history
  acceptance : request.Presents config.state
  fresh : Fresh config (request.uuids 0)

/-- A message is enqueued in no session but the one it was accepted for. -/
def Request.AtHome (request : Request) (repository : Repository) : Prop :=
  match request.call with
  | .acceptMailbox key inboundId _ _ _ =>
      ∀ accepted ∈ repository.acceptancesById.get? inboundId, accepted.context.key = key
  | _ => True

structure HonestAtHome (config : RepositoryConfig) (request : Request) : Prop
    extends Honest config request where
  home : request.AtHome config.state

instance (config : RepositoryConfig) (request : Request) :
    Decidable (request.Presents config.state) := by
  unfold Presents
  split <;> infer_instance

instance (request : Request) (repository : Repository) : Decidable (request.AtHome repository) := by
  unfold AtHome
  split <;> infer_instance

instance (config : RepositoryConfig) (uuid : String) : Decidable (Fresh config uuid) :=
  decidable_of_iff (config.state.acceptancesById.get? uuid = none ∧
      uuid ∉ enqueued config.state.mailboxStore ∧
      ∀ lease ∈ handedOut config.history, lease.turnId ≠ uuid)
    ⟨fun ⟨accepted, enqueued, turns⟩ => ⟨accepted, enqueued, turns⟩,
      fun fresh => ⟨fresh.accepted, fresh.enqueued, fresh.turns⟩⟩

instance (config : RepositoryConfig) (request : Request) : Decidable (Honest config request) :=
  decidable_of_iff ((∀ lease ∈ request.call.leases,
      lease ∈ handedOut config.history) ∧ request.Presents config.state ∧
      Fresh config (request.uuids 0))
    ⟨fun ⟨leases, acceptance, fresh⟩ => ⟨leases, acceptance, fresh⟩,
      fun honest => ⟨honest.leases, honest.acceptance, honest.fresh⟩⟩

instance (config : RepositoryConfig) (request : Request) :
    Decidable (HonestAtHome config request) :=
  decidable_of_iff (Honest config request ∧ request.AtHome config.state)
    ⟨fun ⟨honest, home⟩ => ⟨honest, home⟩, fun both => ⟨both.toHonest, both.home⟩⟩

structure Home (repository : Repository) (handed : List SessionLease) : Prop where
  mailboxes : ∀ key inboundId accepted, inboundId ∈ (repository.mailboxStore.slot key).inboundIds →
    repository.acceptancesById.get? inboundId = some accepted →
    accepted.context.key = key
  handed : ∀ lease ∈ handed, ∃ accepted,
    repository.acceptancesById.get? lease.inboundId = some accepted ∧
      accepted.context.key = lease.key

variable {accepted : Acceptance}

section Acceptances

variable {request : Request} {before after : Repository} {deed : Deed}

variable (act : Act request before after deed)

include act

theorem Act.acceptances : after.acceptancesById = before.acceptancesById ∨
      ∃ accepted : Acceptance, request.context? = some accepted.context ∧ after.acceptancesById =
          before.acceptancesById.set (request.uuids 0) accepted := by
  cases act with
  | still same => exact .inl same.acceptancesById
  | accept acceptance named context byId =>
    rw [named] at byId
    exact .inr ⟨acceptance, context, byId⟩
  | release _ byId => exact .inl byId
  | extend _ _ _ _ byId => exact .inl byId
  | grant _ _ _ _ byId => exact .inl byId
  | commit _ _ _ _ byId => exact .inl byId

theorem Act.acceptance_kept (fresh : before.acceptancesById.get? (request.uuids 0) = none)
    (stored : before.acceptancesById.get? inboundId = some accepted) :
    after.acceptancesById.get? inboundId = some accepted := by
  rcases act.acceptances with same | ⟨_, _, added⟩
  · rw [same]
    exact stored
  · have different : request.uuids 0 ≠ inboundId := by
      rintro rfl
      exact nomatch fresh.symm.trans stored
    rw [added, Dict.get?_set_of_ne _ _ different]
    exact stored

theorem Act.acceptance_cases (stored : after.acceptancesById.get? inboundId = some accepted) :
    before.acceptancesById.get? inboundId = some accepted ∨ (inboundId = request.uuids 0 ∧
        request.context? = some accepted.context) := by
  rcases act.acceptances with same | ⟨added, context, byId⟩
  · rw [same] at stored
    exact .inl stored
  · rw [byId, Dict.get?_set] at stored
    split at stored
    case isTrue same =>
      cases stored
      exact .inr ⟨same.symm, context⟩
    case isFalse => exact .inl stored

end Acceptances

namespace Home

variable {request : Request} {clock finish : Time} {before after : Repository} {deed : Deed}
  {handed : List SessionLease}

theorem initial : Home .initial [] := ⟨nofun, nofun⟩

theorem arrives (effect : Effect request clock finish before after deed)
    (home : request.AtHome before) (arrives : request.Arrives key inboundId)
    (stored : after.acceptancesById.get? inboundId = some accepted)
    (fresh : before.acceptancesById.get? (request.uuids 0) = none) :
    accepted.context.key = key := by
  have origin := effect.act.acceptance_cases stored
  unfold Arrives at arrives
  split at arrives
  case h_1 context _ _ _ called =>
    obtain ⟨rfl, rfl⟩ := arrives
    rcases origin with old | ⟨_, own⟩
    · cases fresh.symm.trans old
    · rw [context?, called] at own
      cases own
      rfl
  case h_2 session enqueued _ _ _ called =>
    obtain ⟨rfl, rfl⟩ := arrives
    rcases origin with old | ⟨_, own⟩
    · rw [AtHome, called] at home
      exact home accepted old
    · rw [context?, called] at own
      cases own
  case h_3 => exact arrives.elim

theorem mailboxes_step (home : Home before handed) (inv : before.mailboxStore.Inv True clock)
    (effect : Effect request clock finish before after deed) (atHome : request.AtHome before)
    (accepted : before.acceptancesById.get? (request.uuids 0) = none)
    (enqueued : request.uuids 0 ∉ enqueued before.mailboxStore) (key : SessionKey)
    (inboundId : String) (found : Acceptance)
    (member : inboundId ∈ (after.mailboxStore.slot key).inboundIds)
    (stored : after.acceptancesById.get? inboundId = some found) : found.context.key = key := by
  rcases effect.mailbox.traced inv Slot.mem_inboundIds_of_move member with
    old | ⟨label, allowed, new⟩
  · rcases effect.act.acceptance_cases stored with kept | ⟨rfl, _⟩
    · exact home.mailboxes key inboundId found old kept
    · exact absurd (mem_enqueued old) enqueued
  · exact arrives effect atHome (allowed inboundId new) stored accepted

theorem handed_step (home : Home before handed) {turns : List TurnCommit}
    (once : OncePerSession before handed turns)
    (act : Act request before after deed) (presents : request.Presents before)
    (fresh : before.acceptancesById.get? (request.uuids 0) = none) :
    ∀ lease ∈ handed ++ deed.handed, ∃ accepted,
      after.acceptancesById.get? lease.inboundId = some accepted ∧
        accepted.context.key = lease.key := by
  have old : ∀ lease ∈ handed, ∃ accepted, after.acceptancesById.get? lease.inboundId =
    some accepted ∧ accepted.context.key = lease.key := by
    intro lease member
    obtain ⟨accepted, stored, own⟩ := home.handed lease member
    exact ⟨accepted, act.acceptance_kept fresh stored, own⟩
  intro lease member
  rcases List.mem_append.mp member with earlier | new
  · exact old lease earlier
  cases act with
  | extend key current expiresAt held =>
    cases List.mem_singleton.mp new
    exact old current (once.held key current held).2.1
  | grant granted _ originates _ byId =>
    cases List.mem_singleton.mp new
    obtain ⟨accepted, stored, own⟩ := originates presents
    rw [byId]
    rcases own with own | enqueued
    · exact ⟨accepted, stored, own⟩
    · exact ⟨accepted, stored, home.mailboxes _ _ accepted enqueued stored⟩
  | _ => exact nomatch new

end Home

section Runs

variable {config : RepositoryConfig}

theorem oncePerSession_step {request : Request} {after : RepositoryConfig}
    (once : OncePerSession config.state (handedOut config.history) (commits config.history))
    (honest : Honest config request) (follows : Follows config request after) :
    OncePerSession after.state (handedOut after.history) (commits after.history) := by
  obtain ⟨reply, history, effect⟩ := follows
  rw [history, handedOut_append, commits_append]
  exact once.step effect.act (fun turn committed =>
    honest.leases _ (lease_mem_of_deedOf committed)) honest.fresh.turns

theorem oncePerSession_reachable (reachable : memoryRepository.Reachable Honest config) :
    OncePerSession config.state (handedOut config.history) (commits config.history) :=
  reachable_preserve (fun config => OncePerSession config.state
      (handedOut config.history) (commits config.history))
    (fun _ => .initial)
    (fun _ _ _ once _ honest follows => oncePerSession_step once honest follows)
    reachable

theorem home_reachable (reachable : memoryRepository.Reachable HonestAtHome config) :
    Home config.state (handedOut config.history) := by
  refine (reachable_preserve (fun config => OncePerSession config.state (handedOut config.history)
    (commits config.history) ∧ Home config.state (handedOut config.history))
    (fun _ => ⟨.initial, .initial⟩) ?_ reachable).2
  rintro config request after ⟨once, home⟩ inv honest follows
  refine ⟨oncePerSession_step once honest.toHonest follows, ?_⟩
  obtain ⟨reply, history, effect⟩ := follows
  rw [history, handedOut_append]
  exact ⟨home.mailboxes_step inv effect honest.home honest.fresh.accepted honest.fresh.enqueued,
    home.handed_step once effect.act honest.acceptance honest.fresh.accepted⟩

theorem markers_nodup_reachable (reachable : memoryRepository.Reachable Honest config) :
    ((commits config.history).map TurnCommit.marker).Nodup :=
  (oncePerSession_reachable reachable).once

theorem inboundIds_nodup_reachable (reachable : memoryRepository.Reachable HonestAtHome config) :
    ((commits config.history).map fun turn => turn.lease.inboundId).Nodup := by
  have once := oncePerSession_reachable (reachable.mono fun _ _ honest => honest.toHonest)
  have home := home_reachable reachable
  have distinct := once.once
  unfold List.Nodup at distinct ⊢
  rw [List.pairwise_map] at distinct ⊢
  refine List.Pairwise.imp_of_mem ?_ distinct
  intro turn other member others different same
  obtain ⟨accepted, stored, own⟩ := home.handed _ (once.own turn member)
  obtain ⟨accepted', stored', own'⟩ := home.handed _ (once.own other others)
  rw [same, stored'] at stored
  cases stored
  exact different (Prod.ext (own.symm.trans own') same)

end Runs

/-- In every run the log of every session is numbered without gaps, counts its
commits as versions and is only extended.  No session commits a message twice
when callers present what they were handed out, and no message is committed
twice at all when besides messages are enqueued at home. -/
theorem session_log_of_honest_runs {allowed : RepositoryConfig → Request → Prop}
    {config : RepositoryConfig} (reachable : memoryRepository.Reachable allowed config) :
    (∀ key, Logged key config.state (commits config.history)) ∧
    (∀ later, memoryRepository.Steps allowed config later → Extends config.state later.state) ∧
    ((∀ config request, allowed config request → Honest config request) →
      ((commits config.history).map TurnCommit.marker).Nodup) ∧
    ((∀ config request, allowed config request → HonestAtHome config request) →
      ((commits config.history).map fun turn => turn.lease.inboundId).Nodup) :=
  ⟨logged_reachable reachable, fun _ steps => extends_steps reachable steps,
    fun honest => markers_nodup_reachable (reachable.mono honest),
    fun atHome => inboundIds_nodup_reachable (reachable.mono atHome)⟩

/-! A message accepted in one session and enqueued in another is leased by
both, and committing does not ask whether it was committed already. -/

def homeContext : TenantContext where
  tenantId := "tenant"
  appId := "app"
  configVersion := 1
  channelBindingId := "binding"
  principalId := "user"
  sessionId := "home"
  requestId := "request"
  traceId := "trace"

def homeEnvelope : InboundEnvelope where
  channel := .feishu
  accountId := "account"
  externalMessageId := "external"
  body := "{}"

def homeAcceptance : Acceptance where
  inboundId := "message"
  context := homeContext
  envelope := homeEnvelope
  acceptedAt := 0

def plainCommit (sessionId turnId : String) : TurnCommit where
  lease :=
    { tenantId := "tenant", sessionId, turnId, inboundId := "message",
      workerId := "worker", fencingToken := 1, expiresAt := 60, attempt := 1,
      snapshot :=
        { tenantId := "tenant", appId := "app", sessionId,
          principalId := "user" } }
  state := "{}"
  events := []

def Call.naming (call : Call) (uuid : String) : Request × Time := (⟨call, fun _ => uuid⟩, 0)

def twiceEnqueued : List (Request × Time) :=
  [(acceptInbound homeContext homeEnvelope []).naming "message",
    (acceptMailbox ("tenant", "away") "message" 0 none none).naming "wakeup",
    (acquire homeAcceptance "worker" 60).naming "turn",
    (claimSessionReady ("tenant", "away") "worker" 60 none none none).naming "other",
    (commit (plainCommit "home" "turn")).naming "unused",
    (commitSessionReady (plainCommit "away" "other")).naming "outbox"]

theorem message_committed_twice : ∃ config, memoryRepository.Reachable Honest config ∧
      ¬ ((commits config.history).map fun turn =>
        turn.lease.inboundId).Nodup := by
  refine ⟨memoryRepository.play twiceEnqueued (memoryRepository.start 0),
    (ClockedObject.reachable_start 0).play _ ?_, ?_⟩
  · decide +kernel
  · decide +kernel

def onceEnqueued : List (Request × Time) :=
  [(acceptInbound homeContext homeEnvelope []).naming "message",
    (acceptMailbox ("tenant", "home") "message" 0 none none).naming "wakeup",
    (claimSessionReady ("tenant", "home") "worker" 60 none none none).naming "turn",
    (commitSessionReady (plainCommit "home" "turn")).naming "outbox",
    (acquire homeAcceptance "other" 60).naming "again",
    (commit (plainCommit "home" "turn")).naming "unused"]

/-- The first scheduler is refused the lease and the commit. -/
theorem message_committed_once :
    let config := memoryRepository.play onceEnqueued (memoryRepository.start 0)
    (commits config.history).length = 1 ∧ ((commits config.history).map fun turn =>
        turn.lease.inboundId).Nodup := by
  have reachable : memoryRepository.Reachable HonestAtHome
      (memoryRepository.play onceEnqueued (memoryRepository.start 0)) :=
    (ClockedObject.reachable_start 0).play _ (by decide +kernel)
  exact ⟨by decide +kernel, (session_log_of_honest_runs reachable).2.2.2
    fun _ _ atHome => atHome⟩

end TrpcService.Storage.Memory
