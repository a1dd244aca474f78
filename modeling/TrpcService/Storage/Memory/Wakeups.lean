import TrpcService.Storage.Memory.CommitOnce
import TrpcService.Storage.Postgres.Runs

namespace TrpcService.Storage

open Data

/-! Wake-ups are made by the mailbox store and dispatched from the outbox of
the repository: every call that makes one has to copy it there. -/

variable {α : Type} {outcome : Except StorageError α × MailboxStore}

namespace MailboxStore

/-- The records a transition appends are named from a list, each by a name of
its own. -/
def Emits (names : List String) (before after : MailboxStore) : Prop :=
  ∃ new, after.outbox = before.outbox ++ new ∧ (new.map OutboxRecord.outboxId).Sublist names

namespace Emits

variable {names others : List String} {first second third : MailboxStore}

theorem of_same (same : second.outbox = first.outbox) : Emits names first second :=
  ⟨[], by rw [same, List.append_nil], List.nil_sublist _⟩

theorem trans (before : Emits names first second) (after : Emits others second third) :
    Emits (names ++ others) first third := by
  obtain ⟨new, appended, named⟩ := before
  obtain ⟨later, appendedLater, namedLater⟩ := after
  refine ⟨new ++ later, ?_, ?_⟩
  · rw [appendedLater, appended, List.append_assoc]
  · rw [List.map_append]
    exact named.append namedLater

end Emits

structure Announces {α : Type} (names : List String) (before : MailboxStore)
    (outcome : Except StorageError α × MailboxStore) : Prop where
  emits : Emits names before outcome.2
  refused : ∀ error, outcome.1 = .error error → outcome.2.outbox = before.outbox

theorem Announces.of_same {names : List String} {before : MailboxStore}
    (same : outcome.2.outbox = before.outbox) : Announces names before outcome :=
  ⟨.of_same same, fun _ _ => same⟩

section Transitions

variable (store : MailboxStore)

theorem emits_emitReady (mailbox : SessionMailbox) (item : MailboxItem) (now : Time)
    (uuid : String) : Emits [uuid] store (store.emitReady mailbox item now uuid).2 :=
  ⟨[_], rfl, List.Sublist.refl _⟩

theorem emits_requeueReady (mailbox : SessionMailbox) (item : MailboxItem) (now : Time)
    (uuid : String) : Emits [uuid] store (store.requeueReady mailbox item now uuid).2 := by
  unfold requeueReady
  dsimp only
  split
  · exact .of_same rfl
  · exact ⟨[_], rfl, List.Sublist.refl _⟩

section Key

variable (key : SessionKey)

theorem outbox_ensureMailbox (now : Time) :
    (store.ensureMailbox key now).2.outbox = store.outbox := by
  unfold ensureMailbox
  split <;> rfl

theorem emits_appendItem (mailbox : SessionMailbox) (item : MailboxItem) (uuid : String)
    (now : Time) : Emits [uuid] store (store.appendItem key mailbox item uuid now).2 := by
  unfold appendItem
  dsimp only
  split
  · exact emits_emitReady (store.putItem key item.sequence item) _ item now uuid
  · exact .of_same rfl

theorem announces_accept (inboundId : String) (priority : Priority)
    (retryAt : Option Time) (traceId : Option String) (uuid : String) (now : Time) :
    Announces [uuid] store (store.accept key inboundId priority retryAt traceId uuid now) := by
  have ensured := store.outbox_ensureMailbox key now
  fun_cases accept store key inboundId priority retryAt traceId uuid now with
  | case1 => exact .of_same rfl
  | case2 => exact .of_same rfl
  | case3 _ _ _ mailbox after created =>
    rw [created] at ensured
    exact .of_same ensured
  | case4 _ _ _ mailbox after created =>
    rw [created] at ensured
    exact .of_same ensured
  | case5 _ _ _ mailbox middle created sequence trace _ item updated after appended =>
    rw [created] at ensured
    have emits := middle.emits_appendItem key mailbox item uuid now
    rw [appended] at emits
    obtain ⟨new, same, named⟩ := emits
    exact ⟨⟨new, by rw [same, ensured], named⟩, by simp⟩

theorem outbox_claim (ownerId : String) (leaseFor now : Time) :
    (store.claim key ownerId leaseFor now).2.outbox = store.outbox := by
  fun_cases claim store key ownerId leaseFor now with
  | case6 _ _ mailbox _ _ sequence _ item _ taken after takenEq =>
    cases takenEq
    rfl
  | case10 _ _ mailbox _ _ _ _ sequence item _ _ taken after takenEq =>
    cases takenEq
    rfl
  | _ => rfl

theorem outbox_claimSession (ownerId : String) (leaseFor : Time)
    (expectedGeneration expectedEpoch : Option Int) (acceptance : Option Acceptance) (now : Time) :
    (store.claimSession key ownerId leaseFor expectedGeneration expectedEpoch
      acceptance now).2.outbox = store.outbox := by
  rcases store.claimSession_cases key ownerId leaseFor expectedGeneration
    expectedEpoch acceptance now with ⟨_, same⟩ | ⟨_, same⟩
  · rw [same]
  · rw [same, outbox_claim]

end Key

theorem outbox_renew (lease : MailboxLease) (leaseFor now : Time) :
    (store.renew lease leaseFor now).2.outbox = store.outbox := by
  fun_cases renew store lease leaseFor now
  all_goals rfl

theorem outbox_renewMany (leaseFor : Time) (leases : List MailboxLease) (clk : Nat → Time) :
    (store.renewMany leaseFor leases clk).2.outbox = store.outbox := by
  induction leases generalizing store clk with
  | nil => rfl
  | cons lease rest induction =>
    have first := store.outbox_renew lease leaseFor (clk 0)
    unfold renewMany
    split
    case h_1 error after renewed =>
      rw [renewed] at first
      exact first
    case h_2 value middle renewed =>
      rw [renewed] at first
      have others := induction middle fun index => clk (index + 1)
      split
      all_goals
        rename_i after renewedRest
        rw [renewedRest] at others
        exact others.trans first

theorem announces_commit (lease : MailboxLease) (uuid : String) (now : Time) :
    Announces [uuid] store (store.commit lease uuid now) := by
  fun_cases commit store lease uuid now with
  | case5 mailbox stored owned _ resolved next found due updated after
      emitted =>
      have emits := store.emits_emitReady { resolved with status := .queued }
        next now uuid
      rw [emitted] at emits
      exact ⟨emits, by simp⟩
  | _ => exact .of_same rfl

theorem announces_release (lease : MailboxLease) (retryAt : Option Time)
    (priority : Option Priority) (incrementRetry wakes : Bool) (uuid : String) (now : Time) :
    Announces [uuid] store (store.release lease retryAt priority incrementRetry
      wakes uuid now) := by
  fun_cases release store lease retryAt priority incrementRetry wakes uuid now with
  | case5 _ mailbox stored owned _ item found retries updatedItem putStore
      status updated woken emitted after emittedEq =>
      have emits := putStore.emits_emitReady updated updatedItem now uuid
      rw [emittedEq] at emits
      exact ⟨emits, by simp⟩
  | _ => exact .of_same rfl

theorem outbox_retryWithoutWakeup (lease : MailboxLease) (retryAt : Option Time) (uuid : String)
    (now : Time) : (store.retryWithoutWakeup lease retryAt uuid now).2.outbox = store.outbox := by
  unfold retryWithoutWakeup
  fun_cases release store lease retryAt none true false uuid now with
  | case5 _ mailbox stored owned _ item found retries updatedItem putStore
      status updated woken => cases woken.2
  | _ => rfl

theorem emits_recover (key : SessionKey) (uuid : String) (now : Time) :
    Emits [uuid] store (store.recover key uuid now).2 := by
  fun_cases recover store key uuid now with
  | case4 mailbox stored expiresAt _ _ item retryAt head found emitted after
      derived updated emittedEq =>
      have emits := store.emits_emitReady updated head now uuid
      rw [emittedEq] at emits
      exact emits
  | _ => exact .of_same rfl

theorem emits_reconcile (key : SessionKey) (uuid : String) (now : Time) :
    Emits [uuid] store (store.reconcile key uuid now).2 := by
  fun_cases reconcile store key uuid now with
  | case4 mailbox stored _ item retryAt head found _ replayed requeued after
      derived updated requeuedEq =>
      have emits := store.emits_requeueReady updated head now uuid
      rw [requeuedEq] at emits
      exact emits
  | case5 mailbox stored _ item retryAt head found _ _ emitted after derived updated emittedEq =>
    have emits := store.emits_emitReady updated head now uuid
    rw [emittedEq] at emits
    exact emits
  | _ => exact .of_same rfl

theorem emits_visit {body : SessionKey → String → MailboxStore → Bool × MailboxStore}
    (each : ∀ key uuid store, Emits [uuid] store (body key uuid store).2) (limit : Int)
    (keys : List SessionKey) (uuids : Nat → String) (handled : Nat) :
    Emits ((List.range keys.length).map uuids) store
      (visit body limit keys uuids handled store).2 := by
  induction keys generalizing store uuids handled with
  | nil => exact .of_same rfl
  | cons key rest induction =>
    unfold visit
    split
    · exact .of_same rfl
    · have names : (List.range (key :: rest).length).map uuids = [uuids 0] ++
          (List.range rest.length).map fun index => uuids (index + 1) := by
        rw [List.length_cons, List.range_succ_eq_map, List.map_cons, List.map_map]
        rfl
      rw [names]
      exact (each key (uuids 0) store).trans (induction _ _ _)

theorem announces_visitAll {body : SessionKey → String → MailboxStore → Bool × MailboxStore}
    (each : ∀ key uuid store, Emits [uuid] store (body key uuid store).2)
    (limit : Int) (uuids : Nat → String) :
    Announces ((List.range store.mailboxes.keys.length).map uuids) store
      (store.visitAll body limit uuids) := by
  unfold visitAll
  split
  · exact .of_same rfl
  · exact ⟨store.emits_visit each limit _ uuids 0, nofun⟩

theorem emits_visitWhen {needed : SessionMailbox → Bool}
    {step : MailboxStore → SessionKey → String → Time →
      Option SessionMailbox × MailboxStore} {now : Time}
    (each : ∀ (store : MailboxStore) key uuid, Emits [uuid] store (step store key uuid now).2)
    (key : SessionKey) (uuid : String) (store : MailboxStore) :
    Emits [uuid] store (visitWhen needed step now key uuid store).2 := by
  unfold visitWhen
  split
  · exact .of_same rfl
  · split
    · exact each store key uuid
    · exact .of_same rfl

theorem announces_sweepExpiredLeases (limit : Int) (uuids : Nat → String) (now : Time) :
    Announces ((List.range store.mailboxes.keys.length).map uuids) store
      (store.sweepExpiredLeases limit uuids now) :=
  store.announces_visitAll (emits_visitWhen fun store key uuid =>
    store.emits_recover key uuid now) limit uuids

theorem announces_scheduleRetries (limit : Int) (uuids : Nat → String) (now : Time) :
    Announces ((List.range store.mailboxes.keys.length).map uuids) store
      (store.scheduleRetries limit uuids now) :=
  store.announces_visitAll (emits_visitWhen fun store key uuid =>
    store.emits_reconcile key uuid now) limit uuids

theorem announces_reconcileSessions (limit : Int) (uuids : Nat → String) (now : Time) :
    Announces ((List.range store.mailboxes.keys.length).map uuids) store
      (store.reconcileSessions limit uuids now) :=
  store.announces_visitAll (emits_visitWhen fun store key uuid =>
    store.emits_reconcile key uuid now) limit uuids

end Transitions

end MailboxStore

namespace Memory

/-- A wake-up stands in the outbox of the repository; dispatching it may have
been attempted. -/
def Held (repository : Repository) (record : OutboxRecord) : Prop :=
  ∃ attempts, repository.outbox.get? record.outboxId = some { record with attempts }

def Keyed (repository : Repository) : Prop :=
  ∀ outboxId record, repository.outbox.get? outboxId = some record → record.outboxId = outboxId

/-- Every new record of the mailbox store is held, and what was held still
is. -/
structure Exposes (before after : Repository) : Prop where
  keyed : Keyed before → Keyed after
  old : ∀ record, Held before record → Held after record
  new : ∀ record ∈ after.mailboxStore.outbox,
    record ∈ before.mailboxStore.outbox ∨ Held after record

namespace Exposes

variable {first second third before after : Repository}

theorem answered {outcome : Outcome α} {answer : Except StorageError α}
    (exposes : Exposes before outcome.2) (same : outcome = (answer, after)) :
    Exposes before after := by
  rw [same] at exposes
  exact exposes

theorem of_same (outbox : after.outbox = before.outbox)
    (records : after.mailboxStore.outbox = before.mailboxStore.outbox) :
    Exposes before after where
  keyed keyed outboxId record stored := keyed outboxId record (outbox ▸ stored)
  old record held := by
    unfold Held at held ⊢
    rw [outbox]
    exact held
  new record member := .inl (records ▸ member)

protected theorem refl (repository : Repository) :
    Exposes repository repository := of_same rfl rfl

theorem trans (earlier : Exposes first second) (later : Exposes second third) :
    Exposes first third where
  keyed := later.keyed ∘ earlier.keyed
  old record := later.old record ∘ earlier.old record
  new record member := by
    rcases later.new record member with made | held
    · exact (earlier.new record made).imp_right (later.old record)
    · exact .inr held

theorem of_added (kept : ∀ outboxId record, before.outbox.get? outboxId = some record →
      after.outbox.get? outboxId = some record)
    (filed : ∀ outboxId record, after.outbox.get? outboxId = some record →
      before.outbox.get? outboxId = some record ∨ record.outboxId = outboxId)
    (made : ∀ record ∈ after.mailboxStore.outbox, record ∈ before.mailboxStore.outbox ∨
        after.outbox.get? record.outboxId = some record) :
    Exposes before after where
  keyed keyed outboxId record stored :=
    (filed outboxId record stored).elim (keyed outboxId record) id
  old := by
    rintro record ⟨attempts, stored⟩
    exact ⟨attempts, kept _ _ stored⟩
  new record member := (made record member).imp_right fun stored => ⟨record.attempts, stored⟩

theorem foldl {step : Repository → α → Repository}
    (each : ∀ repository value, Exposes repository (step repository value)) (values : List α)
    (repository : Repository) : Exposes repository (values.foldl step repository) := by
  induction values generalizing repository with
  | nil => exact .refl repository
  | cons value rest induction => exact (each repository value).trans (induction _)

end Exposes

structure Added (records : List OutboxRecord) (before after : Dict String OutboxRecord) : Prop where
  kept : ∀ outboxId record, before.get? outboxId = some record → after.get? outboxId = some record
  filed : ∀ outboxId record, after.get? outboxId = some record →
    before.get? outboxId = some record ∨ record ∈ records ∧ record.outboxId = outboxId
  made : ∀ record ∈ records, after.get? record.outboxId = some record

theorem added_foldl
    {step : Dict String OutboxRecord → OutboxRecord →
      Dict String OutboxRecord}
    (sets : ∀ outbox record, outbox.get? record.outboxId = none →
      step outbox record = outbox.set record.outboxId record)
    {records : List OutboxRecord} {outbox : Dict String OutboxRecord}
    (distinct : (records.map OutboxRecord.outboxId).Nodup)
    (unused : ∀ record ∈ records, outbox.get? record.outboxId = none) :
    Added records outbox (records.foldl step outbox) := by
  induction records generalizing outbox with
  | nil => exact ⟨fun _ _ stored => stored, fun _ _ => .inl, nofun⟩
  | cons head rest induction =>
    rw [List.map_cons, List.nodup_cons] at distinct
    obtain ⟨apart, distinct⟩ := distinct
    have free := unused head List.mem_cons_self
    have different : ∀ record ∈ rest, head.outboxId ≠ record.outboxId := fun record member same =>
        apart (same ▸ List.mem_map_of_mem member)
    rw [List.foldl_cons, sets outbox head free]
    have others : Added rest (outbox.set head.outboxId head)
        (rest.foldl step (outbox.set head.outboxId head)) := by
      refine induction distinct fun record member => ?_
      rw [Dict.get?_set_of_ne _ _ (different record member)]
      exact unused record (List.mem_cons_of_mem _ member)
    refine ⟨fun outboxId record stored => ?_, fun outboxId record stored => ?_,
      fun record member => ?_⟩
    · refine others.kept outboxId record ?_
      rw [Dict.get?_set_of_ne]
      · exact stored
      · rintro rfl
        exact nomatch free.symm.trans stored
    · rcases others.filed outboxId record stored with old | ⟨new, named⟩
      · rw [Dict.get?_set] at old
        split at old
        case isTrue same =>
          cases old
          exact .inr ⟨List.mem_cons_self, same⟩
        case isFalse => exact .inl old
      · exact .inr ⟨List.mem_cons_of_mem _ new, named⟩
    · rcases List.mem_cons.mp member with rfl | member
      · exact others.kept _ _ (Dict.get?_set_self _ _ _)
      · exact others.made record member

theorem Exposes.of_emits {before after : Repository} {new : List OutboxRecord}
    (appended : after.mailboxStore.outbox = before.mailboxStore.outbox ++ new)
    (added : Added new before.outbox after.outbox) : Exposes before after := by
  refine .of_added added.kept (fun outboxId record stored => ?_) fun record member => ?_
  · exact (added.filed outboxId record stored).imp_right And.right
  · rw [appended] at member
    exact (List.mem_append.mp member).imp_right (added.made record)

section Mailbox

variable {repository : Repository} {names : List String} (distinct : names.Nodup)
  (unused : ∀ name ∈ names, repository.outbox.get? name = none)

include distinct unused in
theorem added_syncNewMailboxOutbox {store : MailboxStore}
    (emits : MailboxStore.Emits names repository.mailboxStore store) :
    ∃ new, store.outbox = repository.mailboxStore.outbox ++ new ∧
      (new.map OutboxRecord.outboxId).Sublist names ∧
      Added new repository.outbox ({ repository with mailboxStore := store }.syncNewMailboxOutbox
          repository.mailboxStore.outbox.length).outbox := by
  obtain ⟨new, appended, named⟩ := emits
  refine ⟨new, appended, named, ?_⟩
  unfold Repository.syncNewMailboxOutbox
  simp only [appended, List.drop_left]
  refine added_foldl (fun outbox record free => ?_) (named.nodup distinct) fun record member => ?_
  · rw [free]
  · exact unused _ (named.subset (List.mem_map_of_mem member))

include distinct unused in
theorem exposes_throughMailbox
    (announces : MailboxStore.Announces names repository.mailboxStore outcome) :
    Exposes repository (repository.throughMailbox outcome).2 := by
  obtain ⟨error | answer, store⟩ := outcome
  · exact .of_same rfl (announces.refused error rfl)
  · obtain ⟨new, appended, _, added⟩ := added_syncNewMailboxOutbox distinct unused announces.emits
    exact .of_emits appended added

include distinct unused in
theorem free_throughMailbox
    (announces : MailboxStore.Announces names repository.mailboxStore outcome) {name : String}
    (other : name ∉ names) (free : repository.outbox.get? name = none) :
    (repository.throughMailbox outcome).2.outbox.get? name = none := by
  obtain ⟨error | answer, store⟩ := outcome
  · exact free
  · obtain ⟨new, _, named, added⟩ := added_syncNewMailboxOutbox distinct unused announces.emits
    refine Option.eq_none_iff_forall_ne_some.mpr fun record stored => ?_
    rcases added.filed name record stored with old | ⟨member, same⟩
    · exact nomatch free.symm.trans old
    · exact other (named.subset (same ▸ List.mem_map_of_mem member))

omit distinct unused in
theorem exposes_withMailbox (silent : outcome.2.outbox = repository.mailboxStore.outbox) :
    Exposes repository (repository.withMailbox outcome).2 :=
  .of_same rfl silent

end Mailbox

variable {record : OutboxRecord}

section Outbox

variable (repository : Repository)

theorem exposes_putOutbox (free : repository.outbox.get? record.outboxId = none) :
    Exposes repository (repository.putOutbox record) := by
  refine .of_added (fun outboxId stored found => ?_) (fun outboxId stored found => ?_) fun _ => .inl
  · unfold Repository.putOutbox
    rw [Dict.get?_set_of_ne]
    · exact found
    · rintro rfl
      exact nomatch free.symm.trans found
  · unfold Repository.putOutbox at found
    rw [Dict.get?_set] at found
    split at found
    case isTrue same =>
      cases found
      exact .inr same
    case isFalse => exact .inl found

theorem exposes_rearmMailboxOutbox (mailbox : SessionMailbox) :
    Exposes repository (repository.rearmMailboxOutbox mailbox) := by
  unfold Repository.rearmMailboxOutbox
  split
  · exact .refl repository
  · split
    · exact .refl repository
    case h_2 record _ _ free => exact (exposes_putOutbox repository free).trans (.of_same rfl rfl)

theorem exposes_putOutbound (commit : TurnCommit) {uuid : String}
    (free : repository.outbox.get? uuid = none) :
    Exposes repository (repository.putOutbound commit uuid) := by
  unfold Repository.putOutbound
  split
  · exact .refl repository
  · exact exposes_putOutbox repository free

theorem exposes_attempt (held : Held repository record) (attempts : Nat)
    (claims : Dict String (String × Time)) :
    Exposes repository { repository with
      outboxClaims := claims,
      outbox := repository.outbox.set record.outboxId
        { record with attempts } } where
  keyed keyed outboxId stored found := by
    rw [Dict.get?_set] at found
    split at found
    case isTrue same =>
      cases found
      exact same
    case isFalse => exact keyed outboxId stored found
  old := by
    rintro other ⟨current, stored⟩
    by_cases same : record.outboxId = other.outboxId
    · obtain ⟨standing, found⟩ := held
      have one : { record with attempts := standing } = { other with attempts := current } :=
        Option.some.inj (found.symm.trans ((congrArg repository.outbox.get? same).trans stored))
      have changed : { record with attempts } = { other with attempts } :=
        congrArg (fun stored : OutboxRecord => { stored with attempts }) one
      exact ⟨attempts, (congrArg _ same.symm).trans
        ((Dict.get?_set_self _ _ _).trans (congrArg some changed))⟩
    · exact ⟨current, by rwa [Dict.get?_set_of_ne _ _ same]⟩
  new _ member := .inl member

theorem exposes_claimRecords (eventType : EventType) (ownerId : String)
    (limit : Int) (leaseFor now : Time) (records claimed : List OutboxRecord)
    (held : ∀ record ∈ records, Held repository record) :
    Exposes repository (Repository.claimRecords eventType ownerId limit
      leaseFor now records claimed repository).2 := by
  induction records generalizing claimed repository with
  | nil => exact .refl repository
  | cons record rest induction =>
    have others : ∀ record ∈ rest, Held repository record :=
      fun record member => held record (List.mem_cons_of_mem _ member)
    have attempt := exposes_attempt repository
      (held record List.mem_cons_self) (record.attempts + 1)
    unfold Repository.claimRecords
    split
    · exact induction repository claimed others
    · dsimp only
      split
      · exact attempt _
      · refine (attempt _).trans (induction _ _ fun record member => ?_)
        exact (attempt _).old record (others record member)

theorem exposes_claimOutbox (keyed : Keyed repository) (eventType : EventType)
    (ownerId : String) (limit : Int) (leaseFor : Time) (clk : Nat → Time) :
    Exposes repository (repository.claimOutbox eventType ownerId limit leaseFor clk).2 := by
  refine exposes_claimRecords repository eventType ownerId limit leaseFor _ _ _
    fun record member => ?_
  obtain ⟨outboxId, stored⟩ := (Dict.mem_values_iff _ _).mp member
  exact ⟨record.attempts, (congrArg repository.outbox.get?
    (keyed outboxId record stored)).trans stored⟩

end Outbox

variable {clk : Nat → Time}

section Calls

variable {repository : Repository} {uuids : Nat → String}

structure Unused (repository : Repository) (uuids : Nat → String) : Prop where
  distinct : Function.Injective uuids
  unused : ∀ index, repository.outbox.get? (uuids index) = none

theorem Unused.one (fresh : Unused repository uuids) (index : Nat)
    (announces : MailboxStore.Announces [uuids index] repository.mailboxStore outcome) :
    Exposes repository (repository.throughMailbox outcome).2 := by
  refine exposes_throughMailbox (List.nodup_singleton _) (fun name member => ?_) announces
  rw [List.mem_singleton.mp member]
  exact fresh.unused index

theorem Unused.many (fresh : Unused repository uuids) {count : Nat}
    (announces : MailboxStore.Announces ((List.range count).map uuids)
      repository.mailboxStore outcome) :
    Exposes repository (repository.throughMailbox outcome).2 := by
  refine exposes_throughMailbox (List.nodup_range.map fresh.distinct)
    (fun name member => ?_) announces
  obtain ⟨index, _, rfl⟩ := List.mem_map.mp member
  exact fresh.unused index

theorem exposes_acceptInbound (fresh : Unused repository uuids) (context : TenantContext)
    (envelope : InboundEnvelope) (traceHeaders : List (String × String)) (clk : Nat → Time) :
    Exposes repository (repository.acceptInbound context envelope traceHeaders uuids clk).2 := by
  fun_cases Repository.acceptInbound repository context envelope traceHeaders uuids clk with
  | case1 => exact .refl repository
  | case2 absent acceptance stored =>
    have filed : Exposes repository stored := .of_same rfl rfl
    exact filed.trans (exposes_putOutbox stored (fresh.unused 1))

theorem foldl_putOutbox (records : List OutboxRecord) (repository : Repository) :
    records.foldl Repository.putOutbox repository = { repository with
      outbox := records.foldl (fun outbox record =>
        outbox.set record.outboxId record) repository.outbox } := by
  induction records generalizing repository with
  | nil => rfl
  | cons record rest induction => exact induction _

section Fresh

variable (fresh : Unused repository uuids)

include fresh

theorem exposes_acceptInboundV2 (context : TenantContext) (envelope : InboundEnvelope)
    (priority : Priority) (retryAt : Option Time) (clk : Nat → Time) :
    Exposes repository (repository.acceptInboundV2 context envelope priority
      retryAt uuids clk).2 := by
  have announces := fun effectiveRetryAt => repository.mailboxStore.announces_accept context.key
    (uuids 0) priority effectiveRetryAt (some context.traceId) (uuids 1) (clk 2)
  fun_cases Repository.acceptInboundV2 repository context envelope priority retryAt uuids clk with
  | case1 => exact .refl repository
  | case2 absent acceptance stored mailbox error store accepted =>
    have refused := (announces _).refused error (congrArg Prod.fst accepted)
    exact .of_same rfl ((congrArg (MailboxStore.outbox ∘ Prod.snd) accepted).symm.trans refused)
  | case3 absent acceptance stored start mailbox answer store accepted after =>
    have emits := (announces (Repository.effectiveRetryAt mailbox retryAt (clk 1))).emits
    rw [show repository.mailboxStore.accept _ _ _ (Repository.effectiveRetryAt mailbox retryAt
      (clk 1)) _ _ _ = (.ok answer, store) from accepted] at emits
    obtain ⟨new, appended, named⟩ := emits
    have made : store.outbox.drop start = new := by
      rw [appended]
      exact List.drop_left
    rw [made, foldl_putOutbox]
    refine .of_emits appended (added_foldl (fun _ _ _ => rfl)
      (named.nodup (List.nodup_singleton _)) fun record member => ?_)
    have listed := named.subset (List.mem_map_of_mem member)
    rw [List.mem_singleton.mp listed]
    exact fresh.unused 1

theorem exposes_recoverMailbox (key : SessionKey) (clk : Nat → Time) :
    Exposes repository (repository.recoverMailbox key uuids clk).2 := by
  have emits := repository.mailboxStore.emits_recover key (uuids 0) (clk 0)
  show Exposes repository (repository.throughMailbox
    (.ok (repository.mailboxStore.recover key (uuids 0) (clk 0)).1,
      (repository.mailboxStore.recover key (uuids 0) (clk 0)).2)).2
  exact fresh.one 0 ⟨emits, nofun⟩

theorem exposes_reconcileMailbox (key : SessionKey) (clk : Nat → Time) :
    Exposes repository (repository.reconcileMailbox key uuids clk).2 := by
  have emits := repository.mailboxStore.emits_reconcile key (uuids 0) (clk 0)
  have through : Exposes repository (repository.throughMailbox
    (.ok (repository.mailboxStore.reconcile key (uuids 0) (clk 0)).1,
    (repository.mailboxStore.reconcile key (uuids 0) (clk 0)).2)).2 := fresh.one 0 ⟨emits, nofun⟩
  unfold Repository.reconcileMailbox
  dsimp only
  split
  · exact through
  · split
    · exact through.trans (exposes_rearmMailboxOutbox _ _)
    · exact through

theorem exposes_reconcileSessions (limit : Int) (clk : Nat → Time) :
    Exposes repository (repository.reconcileSessions limit uuids clk).2 := by
  have through := fresh.many
    (repository.mailboxStore.announces_reconcileSessions limit uuids (clk 0))
  unfold Repository.reconcileSessions
  dsimp only
  split
  case h_1 error after failed =>
    rw [failed] at through
    exact through
  case h_2 count after done =>
    rw [done] at through
    refine through.trans (Exposes.foldl (fun repository entry => ?_) _ _)
    split
    · exact exposes_rearmMailboxOutbox repository _
    · exact .refl repository

end Fresh

def HeadUncommitted (repository : Repository) (key : SessionKey) : Prop :=
  ∀ head, (repository.mailboxStore.slot key).Head head →
    ¬ ((key.1, head.inboundId) ∈ repository.committedInbound ∨
      repository.inboundStatus.get? (key.1, head.inboundId) = some .committed)

instance (repository : Repository) (key : SessionKey) :
    Decidable (HeadUncommitted repository key) :=
  inferInstanceAs (Decidable (∀ head ∈ (repository.mailboxStore.slot key).items.get?
      ((repository.mailboxStore.slot key).mailbox.resolvedSequence + 1),
    ¬ ((key.1, head.inboundId) ∈ repository.committedInbound ∨
      repository.inboundStatus.get? (key.1, head.inboundId) = some .committed)))

theorem exposes_startTurn {key : SessionKey} {ownerId : String}
    {claim : SessionClaim} {lease : MailboxLease}
    (uncommitted : ¬ ((key.1, lease.inboundId) ∈ repository.committedInbound ∨
      repository.inboundStatus.get? (key.1, lease.inboundId) = some .committed)) :
    Exposes repository (repository.startTurn key ownerId claim lease uuids clk).2 := by
  fun_cases Repository.startTurn repository key ownerId claim lease uuids clk with
  | case1 => exact .refl repository
  | case2 _ _ committed => exact absurd committed uncommitted
  | case3 _ _ committed => exact absurd committed uncommitted
  | case4 accepted _ _ snapshot middle ensured turnId execution =>
    obtain ⟨sessions, rfl, _⟩ := ensureSession_begins ensured
    exact .of_same rfl rfl

theorem exposes_claimSessionReady {clock : Time} (inv : repository.mailboxStore.Inv True clock)
    {key : SessionKey} (uncommitted : HeadUncommitted repository key) (ownerId : String)
    (leaseFor : Time) (expectedGeneration : Option Int) (expectedEventId : Option String)
    (acceptance : Option Acceptance) (later : clock ≤ clk 2) :
    Exposes repository (repository.claimSessionReady key ownerId leaseFor
      expectedGeneration expectedEventId acceptance uuids clk).2 := by
  have claims : ∀ expected, Exposes repository (repository.claimMailbox key ownerId leaseFor
      expected none acceptance fun _ => clk 2).2 := fun expected => exposes_withMailbox
    (repository.mailboxStore.outbox_claimSession key ownerId leaseFor expected none acceptance
    (clk 2))
  fun_cases Repository.claimSessionReady repository key ownerId leaseFor
    expectedGeneration expectedEventId acceptance uuids clk with
  | case5 expected _ _ taken middle claimed held leased =>
    obtain ⟨_, moved, head, stored, named⟩ := claimMailbox_grants inv later claimed leased
    refine ((claims expected).answered claimed).trans (exposes_startTurn ?_)
    rw [moved, ← named]
    exact uncommitted head stored
  | case3 expected _ _ _ _ claimed => exact (claims expected).answered claimed
  | case4 expected _ _ _ _ claimed => exact (claims expected).answered claimed
  | case6 expected _ _ _ _ claimed => exact (claims expected).answered claimed
  | _ => exact .refl repository

theorem exposes_renewMailbox (lease : MailboxLease) (leaseFor : Time) (clk : Nat → Time) :
    Exposes repository (repository.renewMailbox lease leaseFor clk).2 :=
  exposes_withMailbox (repository.mailboxStore.outbox_renew lease leaseFor (clk 0))

theorem exposes_renewSessionReady (lease : SessionLease) (leaseFor : Time) (clk : Nat → Time) :
    Exposes repository (repository.renewSessionReady lease leaseFor clk).2 := by
  fun_cases Repository.renewSessionReady repository lease leaseFor clk with
  | case4 _ _ _ _ _ _ _ error middle renewed =>
    have moved : _ = middle := congrArg Prod.snd renewed
    subst moved
    exact exposes_renewMailbox _ leaseFor clk
  | case5 current held _ _ _ _ _ later middle renewed =>
    have moved : _ = middle := congrArg Prod.snd renewed
    subst moved
    exact (exposes_renewMailbox _ leaseFor clk).trans (.of_same rfl rfl)
  | _ => exact .refl repository

theorem exposes_commitSessionReady (fresh : Unused repository uuids) (commit : TurnCommit)
    (clk : Nat → Time) : Exposes repository (repository.commitSessionReady commit uuids clk).2 := by
  fun_cases Repository.commitSessionReady repository commit uuids clk with
  | case5 lease owned mailbox stored _ held _ snapshot _ size error middle refused store =>
    obtain rfl := commitMailbox_refused refused
    exact .of_same rfl List.take_length
  | case6 lease owned mailbox stored _ held _ snapshot present _ middle committed =>
    have announces := repository.mailboxStore.announces_commit held (uuids 1) (clk 0)
    have exposes : Exposes repository (repository.commitMailbox held
        (fun index => uuids (index + 1)) clk).2 := fresh.one 1 announces
    have free : (repository.commitMailbox held
        (fun index => uuids (index + 1)) clk).2.outbox.get? (uuids 0) = none := by
      refine free_throughMailbox (List.nodup_singleton (uuids 1)) ?_ announces ?_ (fresh.unused 0)
      · intro name member
        rw [List.mem_singleton.mp member]
        exact fresh.unused 1
      · intro member
        cases fresh.distinct (List.mem_singleton.mp member)
    rw [committed] at exposes free
    exact exposes.trans ((exposes_putOutbound middle commit free).trans (.of_same rfl rfl))
  | _ => exact .refl repository

theorem exposes_retrySessionReady (lease : SessionLease) (delay : Time)
    (uuids : Nat → String) (clk : Nat → Time) :
    Exposes repository (repository.retrySessionReady lease delay uuids clk).2 := by
  have silent := fun held => exposes_withMailbox (repository.mailboxStore.outbox_retryWithoutWakeup
    held (some (clk 0 + delay)) (uuids 0) (clk 1))
  fun_cases Repository.retrySessionReady repository lease delay uuids clk with
  | case4 _ _ _ _ held _ error middle retried => exact (silent held).answered retried
  | case5 _ _ _ _ held _ _ middle retried =>
    exact ((silent held).answered retried).trans (.of_same rfl rfl)
  | _ => exact .refl repository

theorem exposes_commitMailbox (fresh : Unused repository uuids) (lease : MailboxLease)
    (clk : Nat → Time) : Exposes repository (repository.commitMailbox lease uuids clk).2 :=
  fresh.one 0 (repository.mailboxStore.announces_commit lease _ _)

theorem exposes_failSessionReady (fresh : Unused repository uuids) (lease : SessionLease)
    (clk : Nat → Time) : Exposes repository (repository.failSessionReady lease uuids clk).2 := by
  fun_cases Repository.failSessionReady repository lease uuids clk with
  | case3 _ _ _ held _ error middle failed =>
    exact (exposes_commitMailbox fresh held clk).answered failed
  | case4 _ _ _ held _ _ middle failed =>
    exact ((exposes_commitMailbox fresh held clk).answered failed).trans (.of_same rfl rfl)
  | _ => exact .refl repository

theorem exposes_acquire (acceptance : Acceptance) (workerId : String)
    (leaseFor : Time) (uuids : Nat → String) (clk : Nat → Time) :
    Exposes repository (repository.acquire acceptance workerId leaseFor uuids clk).2 := by
  fun_cases Repository.acquire repository acceptance workerId leaseFor uuids clk with
  | case7 context key mailbox _ _ _ order _ _ current _ snapshot middle ensured =>
    obtain ⟨sessions, rfl, _⟩ := ensureSession_begins ensured
    exact .of_same rfl rfl
  | _ => exact .refl repository

theorem exposes_commit (fresh : Unused repository uuids) (commit : TurnCommit) (clk : Nat → Time) :
    Exposes repository (repository.commit commit uuids clk).2 := by
  fun_cases Repository.commit repository commit uuids clk with
  | case2 lease current owned snapshot stored =>
    exact (exposes_putOutbound repository commit (fresh.unused 0)).trans (.of_same rfl rfl)
  | _ => exact .refl repository

end Calls

def droppedBy (call : Call) (reply : Reply) : Option String :=
  match call, reply with
  | .markOutboxPublished outboxId _, .ok _ => some outboxId
  | .deadLetterOutbox record _ _, .ok _ => some record.outboxId
  | _, _ => none

structure Passes (before after : Repository) (dropped : Option String) : Prop where
  keyed : Keyed before → Keyed after
  old : ∀ record, Held before record → Held after record ∨ dropped = some record.outboxId
  new : ∀ record ∈ after.mailboxStore.outbox,
    record ∈ before.mailboxStore.outbox ∨ Held after record

theorem Exposes.passes {before after : Repository} {dropped : Option String}
    (exposes : Exposes before after) : Passes before after dropped :=
  ⟨exposes.keyed, fun record held => .inl (exposes.old record held), exposes.new⟩

theorem passes_dropOutbox (repository : Repository) (outboxId : String) :
    Passes repository (repository.dropOutbox outboxId) (some outboxId) where
  keyed keyed other record stored := by
    unfold Repository.dropOutbox at stored
    rw [Dict.get?_erase] at stored
    split at stored
    · cases stored
    · exact keyed other record stored
  old := by
    rintro record ⟨attempts, stored⟩
    by_cases same : outboxId = record.outboxId
    · exact .inr (congrArg some same)
    · refine .inl ⟨attempts, ?_⟩
      unfold Repository.dropOutbox
      rw [Dict.get?_erase_of_ne _ same]
      exact stored
  new _ member := .inl member

theorem passes_markOutboxPublished (repository : Repository) (outboxId ownerId : String) :
    Passes repository (repository.markOutboxPublished outboxId ownerId).2
      (droppedBy (.markOutboxPublished outboxId ownerId) (answering (fun _ => .done)
          (repository.markOutboxPublished outboxId ownerId)).1) := by
  fun_cases Repository.markOutboxPublished repository outboxId ownerId
  · exact passes_dropOutbox repository outboxId
  · exact (Exposes.refl repository).passes

theorem passes_deadLetterOutbox (repository : Repository)
    (record : OutboxRecord) (ownerId reason : String) :
    Passes repository (repository.deadLetterOutbox record ownerId reason).2
      (droppedBy (.deadLetterOutbox record ownerId reason) (answering (fun _ => .done)
          (repository.deadLetterOutbox record ownerId reason)).1) := by
  fun_cases Repository.deadLetterOutbox repository record ownerId reason with
  | case1 _ marked =>
    have dropped := passes_dropOutbox marked record.outboxId
    exact ⟨dropped.keyed, dropped.old, dropped.new⟩
  | case2 => exact (Exposes.refl repository).passes

/-- No claim finds its message committed already, and the calls that deliver
messages are not made. -/
def Call.Settled (repository : Repository) : Call → Prop
  | .claimSessionReady key _ _ _ _ _ => HeadUncommitted repository key
  | .finishDelivery _ _ _ _ _ => False
  | _ => True

structure Orderly (repository : Repository) (request : Request) : Prop where
  unused : Unused repository request.uuids
  settled : request.call.Settled repository

theorem Request.passes {request : Request} {repository : Repository} {clock : Time}
    (inv : repository.mailboxStore.Inv True clock) (keyed : Keyed repository)
    (orderly : Orderly repository request) (monotone : Monotone clk) (started : clock ≤ clk 0) :
    Passes repository (request.apply clk repository).2
      (droppedBy request.call (request.apply clk repository).1) := by
  obtain ⟨fresh, settled⟩ := orderly
  have later : clock ≤ clk 2 := Int.le_trans started (monotone (by decide))
  unfold Request.apply
  cases called : request.call with
  | acceptInbound context envelope traceHeaders =>
    exact (exposes_acceptInbound fresh _ _ _ _).passes
  | acceptInboundV2 context envelope priority retryAt =>
    exact (exposes_acceptInboundV2 fresh _ _ _ _ _).passes
  | acceptMailbox key inboundId priority retryAt traceId =>
    exact (fresh.one 0 (repository.mailboxStore.announces_accept _ _ _ _ _ _ _)).passes
  | claimMailbox key ownerId leaseFor expectedGeneration expectedEpoch acceptance =>
    exact (exposes_withMailbox (repository.mailboxStore.outbox_claimSession _ _ _ _ _ _ _)).passes
  | renewMailbox lease leaseFor => exact (exposes_renewMailbox lease leaseFor clk).passes
  | renewMailboxes leases leaseFor =>
    exact (exposes_withMailbox
      (repository.mailboxStore.outbox_renewMany leaseFor leases clk)).passes
  | commitMailbox lease => exact (exposes_commitMailbox fresh lease clk).passes
  | rescheduleMailbox lease retryAt priority =>
    exact (fresh.one 0 (repository.mailboxStore.announces_release _ _ _ _ _ _ _)).passes
  | retryMailbox lease retryAt priority =>
    exact (fresh.one 0 (repository.mailboxStore.announces_release _ _ _ _ _ _ _)).passes
  | recoverMailbox key => exact (exposes_recoverMailbox fresh key clk).passes
  | reconcileMailbox key => exact (exposes_reconcileMailbox fresh key clk).passes
  | sweepExpiredLeases limit =>
    exact (fresh.many (repository.mailboxStore.announces_sweepExpiredLeases _ _ _)).passes
  | scheduleRetries limit =>
    exact (fresh.many (repository.mailboxStore.announces_scheduleRetries _ _ _)).passes
  | reconcileSessions limit => exact (exposes_reconcileSessions fresh limit clk).passes
  | claimSessionReady key ownerId leaseFor expectedGeneration expectedEventId acceptance =>
    rw [called] at settled
    exact (exposes_claimSessionReady inv settled _ _ _ _ _ later).passes
  | renewSessionReady lease leaseFor => exact (exposes_renewSessionReady lease leaseFor clk).passes
  | commitSessionReady commit => exact (exposes_commitSessionReady fresh commit clk).passes
  | retrySessionReady lease delay => exact (exposes_retrySessionReady lease delay _ clk).passes
  | failSessionReady lease => exact (exposes_failSessionReady fresh lease clk).passes
  | acquire acceptance workerId leaseFor => exact (exposes_acquire _ _ _ _ _).passes
  | renew lease leaseFor =>
    refine Exposes.passes ?_
    show Exposes repository (repository.renew lease leaseFor clk).2
    fun_cases Repository.renew repository lease leaseFor clk
    all_goals exact .of_same rfl rfl
  | commit commit => exact (exposes_commit fresh commit clk).passes
  | fail lease =>
    refine Exposes.passes ?_
    show Exposes repository (repository.fail lease).2
    fun_cases Repository.fail repository lease
    all_goals exact .of_same rfl rfl
  | claimOutbox eventType ownerId limit leaseFor =>
    exact (exposes_claimOutbox repository keyed _ _ _ _ _).passes
  | markOutboxPublished outboxId ownerId =>
    exact passes_markOutboxPublished repository outboxId ownerId
  | releaseOutbox outboxId ownerId delay =>
    refine Exposes.passes ?_
    show Exposes repository (repository.releaseOutbox outboxId ownerId delay clk).2
    fun_cases Repository.releaseOutbox repository outboxId ownerId delay clk
    all_goals exact .of_same rfl rfl
  | deadLetterOutbox record ownerId reason =>
    exact passes_deadLetterOutbox repository record ownerId reason
  | recordDelivery receipt =>
    refine Exposes.passes ?_
    exact .of_same rfl rfl
  | beginDelivery record ownerId =>
    refine Exposes.passes ?_
    show Exposes repository (repository.beginDelivery record ownerId).2
    fun_cases Repository.beginDelivery repository record ownerId
    all_goals exact .of_same rfl rfl
  | finishDelivery record ownerId attemptNumber receipt retryDelay =>
    rw [called] at settled
    exact settled.elim

/-- An earlier state of the run held the record, and a later call took it
out. -/
def Dispatched (allowed : RepositoryConfig → Request → Prop)
    (config : RepositoryConfig) (record : OutboxRecord) : Prop :=
  ∃ earlier, memoryRepository.Reachable allowed earlier ∧
    memoryRepository.Steps allowed earlier config ∧
    Held earlier.state record ∧
    ∃ event rest, config.history = earlier.history ++ event :: rest ∧
      droppedBy event.call.call event.reply = some record.outboxId

variable {config : RepositoryConfig}

theorem Dispatched.step {allowed : RepositoryConfig → Request → Prop} {after : RepositoryConfig}
    (dispatched : Dispatched allowed config record)
    (step : memoryRepository.Step allowed config after) : Dispatched allowed after record := by
  obtain ⟨earlier, reachable, steps, held, event, rest, history, dropped⟩ := dispatched
  refine ⟨earlier, reachable, steps.tail step, held, ?_⟩
  cases step with
  | call request reads finish =>
    rw [ClockedObject.after, history]
    exact ⟨event, rest ++ [_], List.append_assoc _ _ _, dropped⟩

abbrev orderly (config : RepositoryConfig) (request : Request) : Prop :=
  Orderly config.state request

structure Accounted (config : RepositoryConfig) : Prop where
  keyed : Keyed config.state
  wakeups : ∀ record ∈ config.state.mailboxStore.outbox,
    Held config.state record ∨ Dispatched orderly config record

theorem Accounted.step {after : RepositoryConfig} (accounted : Accounted config)
    (reachable : memoryRepository.Reachable orderly config)
    (step : memoryRepository.Step orderly config after) : Accounted after := by
  have inv := mailboxInv_reachable reachable
  have stepped := step
  cases step with
  | call request reads finish permitted monotone started =>
    have passes := Request.passes inv accounted.keyed permitted monotone started
    refine ⟨passes.keyed accounted.keyed, fun record made => ?_⟩
    rcases passes.new record made with old | held
    · rcases accounted.wakeups record old with held | dispatched
      · rcases passes.old record held with still | dropped
        · exact .inl still
        · exact .inr ⟨config, reachable, .single stepped, held, _, [], rfl, dropped⟩
      · exact .inr (dispatched.step stepped)
    · exact .inl held

theorem accounted_reachable (reachable : memoryRepository.Reachable orderly config) :
    Accounted config := by
  obtain ⟨clock, steps⟩ := reachable
  induction steps with
  | refl => exact ⟨nofun, nofun⟩
  | tail path step induction => exact induction.step ⟨clock, path⟩ step

/-- In every run in which no claim finds its message committed already, a
wake-up of the mailbox store stands in the outbox of the repository, or it
stood there and was marked as published or dead-lettered. -/
theorem wakeup_held_or_dispatched {config : RepositoryConfig}
    (reachable : memoryRepository.Reachable orderly config) (record : OutboxRecord)
    (made : record ∈ config.state.mailboxStore.outbox) :
    Held config.state record ∨ Dispatched orderly config record :=
  (accounted_reachable reachable).wakeups record made

open Postgres (dashes injective_dashes length_dashes)

theorem unused_dashes {repository : Repository} {offset : Nat}
    (shorter : ∀ outboxId ∈ repository.outbox.keys, outboxId.length < offset) :
    Unused repository (dashes offset) := by
  refine ⟨injective_dashes offset, fun index => ?_⟩
  refine Option.eq_none_iff_forall_ne_some.mpr fun record stored => ?_
  have less := shorter _ ((Dict.mem_keys_iff _ _).mpr ⟨record, stored⟩)
  rw [length_dashes] at less
  omega

def acceptedAndClaimed : List (Request × Time) :=
  [(⟨.acceptInboundV2 homeContext homeEnvelope 0 none, dashes 1⟩, 0),
    (⟨.claimSessionReady ("tenant", "home") "worker" 60 none none none, dashes 3⟩, 0)]

theorem claimed_wakeup_held :
    let config := memoryRepository.play acceptedAndClaimed (memoryRepository.start 0)
    config.state.mailboxStore.outbox.length = 1 ∧ ∀ record ∈ config.state.mailboxStore.outbox,
        Held config.state record ∨ Dispatched orderly config record := by
  have reachable : memoryRepository.Reachable orderly (memoryRepository.play acceptedAndClaimed
        (memoryRepository.start 0)) := by
    refine (ClockedObject.reachable_start 0).play _ ⟨⟨by decide, ?_⟩, ⟨by decide, ?_⟩, trivial⟩
    · exact ⟨unused_dashes (by decide +kernel), trivial⟩
    · refine ⟨unused_dashes (by decide +kernel), ?_⟩
      show HeadUncommitted _ _
      decide +kernel
  exact ⟨by decide +kernel, wakeup_held_or_dispatched reachable⟩

/-! A message that the first scheduler has committed is enqueued, and another
one after it: claiming the first resolves it and wakes up for the second in
the mailbox store alone. -/

def enqueuedCommitted : List (Request × Time) :=
  [(⟨.acceptInbound homeContext homeEnvelope [], dashes 1⟩, 0),
    (⟨.acquire { homeAcceptance with inboundId := dashes 1 0 } "worker" 60, dashes 3⟩, 0),
    (⟨.commit { plainCommit "home" (dashes 3 0) with
        lease := { (plainCommit "home" (dashes 3 0)).lease with
          inboundId := dashes 1 0 } }, dashes 4⟩, 0),
    (⟨.acceptMailbox ("tenant", "home") (dashes 1 0) 0 none none, dashes 5⟩, 0),
    (⟨.acceptInboundV2 homeContext { homeEnvelope with externalMessageId := "second" } 0 none,
      dashes 6⟩, 0),
    (⟨.claimSessionReady ("tenant", "home") "worker" 60 none none none, dashes 8⟩, 0)]

theorem claim_loses_wakeup :
    let fresh := fun (config : RepositoryConfig) (request : Request) =>
      Unused config.state request.uuids
    ∃ config, memoryRepository.Reachable fresh config ∧ ∃ record ∈ config.state.mailboxStore.outbox,
        ¬ Held config.state record ∧ ¬ Dispatched fresh config record := by
  intro fresh
  let config := memoryRepository.play enqueuedCommitted (memoryRepository.start 0)
  have reachable : memoryRepository.Reachable fresh config := by
    refine (ClockedObject.reachable_start 0).play _ ⟨⟨by decide, ?_⟩,
      ⟨by decide, ?_⟩, ⟨by decide, ?_⟩, ⟨by decide, ?_⟩, ⟨by decide, ?_⟩,
      ⟨by decide, ?_⟩, trivial⟩
    all_goals exact unused_dashes (by decide +kernel)
  have lost : (config.state.mailboxStore.outbox.any fun record =>
      (config.state.outbox.get? record.outboxId).isNone) = true := by
    decide +kernel
  have undropped : ∀ event ∈ config.history, droppedBy event.call.call event.reply = none := by
    decide +kernel
  obtain ⟨record, made, absent⟩ := List.any_eq_true.mp lost
  refine ⟨config, reachable, record, made, ?_, ?_⟩
  · rintro ⟨attempts, stored⟩
    rw [stored] at absent
    exact nomatch absent
  · rintro ⟨earlier, _, _, _, event, rest, history, dropped⟩
    have member : event ∈ config.history := by
      rw [history]
      exact List.mem_append_right _ List.mem_cons_self
    exact nomatch (undropped event member).symm.trans dropped

end Memory

end TrpcService.Storage
