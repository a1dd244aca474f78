import TrpcService.Storage.Memory.Wakeups

namespace TrpcService.Storage.Memory

open Data MailboxStore

/-! Calls of the in-memory stores that raise, and what they leave behind. -/

structure ValidContext (context : TenantContext) : Prop where
  tenantId : context.tenantId ≠ ""
  sessionId : context.sessionId ≠ ""
  traceId : context.traceId ≠ "" ∧ context.traceId.length ≤ 64

def InMailbox (store : MailboxStore) (key : SessionKey) (inboundId : String) : Prop :=
  ∃ sequence item, (store.itemsOf key).get? sequence = some item ∧ item.inboundId = inboundId

section Accept

variable {store : MailboxStore} {key : SessionKey} {inboundId : String} {retryAt : Option Time}
  {uuid : String} {now : Time}

variable (store key now) in
theorem itemsOf_ensureMailbox : (store.ensureMailbox key now).2.itemsOf = store.itemsOf := by
  unfold ensureMailbox
  split
  · rfl
  · rfl

theorem inMailbox_appendItem {mailbox : SessionMailbox} {item : MailboxItem} :
    InMailbox (store.appendItem key mailbox item uuid now).2 key item.inboundId := by
  have stored : ((store.putItem key item.sequence item).itemsOf key).get?
      item.sequence = some item := by
    rw [itemsOf, putItem, Dict.get?_set_self]
    exact Dict.get?_set_self ..
  unfold appendItem
  dsimp only
  split
  · exact ⟨item.sequence, item, stored, rfl⟩
  · exact ⟨item.sequence, item, stored, rfl⟩

theorem accept_cases (key : SessionKey) (priority : Priority) {traceId : String}
    (tenant : key.1 ≠ "") (session : key.2 ≠ "") (named : inboundId ≠ "")
    (traced : traceId ≠ "" ∧ traceId.length ≤ 64) :
    (priority.refused ∧ store.accept key inboundId priority retryAt (some traceId)
        uuid now = (.error (.valueError priorityMessage), store)) ∨
      ¬ priority.refused ∧ ∃ mailbox after, store.accept key inboundId priority
          retryAt (some traceId) uuid now = (.ok mailbox, after) ∧
        InMailbox after key inboundId := by
  have identified : ¬ (key.1 = "" ∨ key.2 = "" ∨ inboundId = "") := by
    rintro (empty | empty | empty)
    · exact tenant empty
    · exact session empty
    · exact named empty
  unfold accept
  rw [if_neg identified]
  split
  case isTrue refused => exact .inl ⟨refused, rfl⟩
  case isFalse accepted =>
    refine .inr ⟨accepted, ?_⟩
    split
    case isTrue known =>
      obtain ⟨item, member, same⟩ := List.any_eq_true.mp known
      obtain ⟨sequence, stored⟩ := (Dict.mem_values_iff _ _).mp member
      refine ⟨_, _, rfl, sequence, item, ?_, of_decide_eq_true same⟩
      have unchanged := congrFun (itemsOf_ensureMailbox store key now) key
      exact (congrArg (Dict.get? · sequence) unchanged).trans stored
    case isFalse =>
      dsimp only
      rw [if_neg traced.1, if_neg (by omega)]
      exact ⟨_, _, rfl, inMailbox_appendItem⟩

end Accept

/-- A call raises for a priority that is a `bool` or negative, and has stored
the message then: it leaves the state as it was exactly if the message was known
or the priority is right, and a right one gets a new message into its mailbox. -/
theorem accept_v2_atomic_iff (repository : Repository)
    (context : TenantContext) (valid : ValidContext context)
    (envelope : InboundEnvelope) (priority : Priority) (retryAt : Option Time)
    (uuids : Nat → String) (named : uuids 0 ≠ "") (clk : Nat → Time) :
    let outcome := repository.acceptInboundV2 context envelope priority retryAt uuids clk
    let known := repository.acceptances.get? (Repository.messageKey context envelope)
    ((∀ error, outcome.1 = .error error → outcome.2 = repository) ↔
        known.isSome ∨ ∃ value, priority = .int value ∧ 0 ≤ value) ∧
      (known = none → (∃ value, priority = .int value ∧ 0 ≤ value) →
        ∃ acceptance, outcome.1 = .ok acceptance ∧ acceptance.duplicate = false ∧
          InMailbox outcome.2.mailboxStore context.key acceptance.inboundId) := by
  intro outcome known
  obtain ⟨tenant, session, traced⟩ := valid
  rw [← Priority.not_refused_iff]
  have stored : outcome = repository.acceptInboundV2 context envelope priority
    retryAt uuids clk := rfl
  unfold Repository.acceptInboundV2 at stored
  cases found : repository.acceptances.get? (Repository.messageKey context envelope) with
  | some existing =>
      have accepted : known = some existing := found
      rw [found] at stored
      rw [stored, accepted]
      refine ⟨⟨fun _ => .inl rfl, fun _ error raised => nomatch raised⟩, ?_⟩
      exact fun new => nomatch new
  | none =>
      have new : known = none := found
      rw [found] at stored
      rcases accept_cases context.key priority tenant session named traced with
        ⟨wrong, refused⟩ | ⟨right, mailbox, after, accepted, inside⟩
      · dsimp only at stored
        rw [refused] at stored
        rw [stored, new]
        refine ⟨⟨fun atomic => ?_, ?_⟩, fun _ right => absurd wrong right⟩
        · have same := congrArg Repository.acceptances (atomic _ rfl)
          have kept := congrArg (Dict.get? · (Repository.messageKey context envelope)) same
          rw [found] at kept
          rw [Repository.putAcceptance, Dict.get?_set_self] at kept
          exact nomatch kept
        · rintro (old | right)
          · cases old
          · exact absurd wrong right
      · dsimp only at stored
        rw [accepted] at stored
        dsimp only at stored
        rw [foldl_putOutbox] at stored
        rw [stored]
        exact ⟨⟨fun _ => .inr right, fun _ error raised => nomatch raised⟩,
          fun _ _ => ⟨_, rfl, rfl, inside⟩⟩

/-- The first call raises and the second one, with a right priority, finds a
duplicate, but the mailbox has no message. -/
theorem refused_message_lost :
    let clk := fun _ => 0
    let refused := Repository.initial.acceptInboundV2 homeContext homeEnvelope
      (.int (-1)) none (fun _ => "first") clk
    let retried := refused.2.acceptInboundV2 homeContext homeEnvelope 0 none (fun _ => "second") clk
    refused.1 = .error (.valueError priorityMessage) ∧ (∃ acceptance, retried.1 = .ok acceptance ∧
        acceptance.duplicate = true) ∧
      retried.2.mailboxStore.items.get? homeContext.key = none :=
  ⟨rfl, ⟨_, rfl, rfl⟩, rfl⟩

theorem home_message_arrives :
    let outcome := Repository.initial.acceptInboundV2 homeContext homeEnvelope 0 none
      (fun _ => "first") fun _ => 0
    ∃ acceptance, outcome.1 = .ok acceptance ∧ acceptance.duplicate = false ∧
      InMailbox outcome.2.mailboxStore homeContext.key acceptance.inboundId :=
  (accept_v2_atomic_iff .initial homeContext
    ⟨by decide, by decide, by decide⟩ homeEnvelope 0 none (fun _ => "first")
    (by decide) fun _ => 0).2 rfl ⟨0, rfl, le_rfl⟩

def expiryOf (store : MailboxStore) (key : SessionKey) : Option Time :=
  (store.mailboxes.get? key).bind (·.leaseExpiresAt)

def Extended (before after : MailboxStore) (key : SessionKey) : Prop :=
  ∃ early late, expiryOf before key = some early ∧ expiryOf after key = some late ∧ early < late

def Prolongs (before after : MailboxStore) : Prop :=
  ∀ key, expiryOf after key = expiryOf before key ∨ Extended before after key

/-- The end of the lease of a mailbox after the renewals of a batch that are of
that mailbox. -/
def prolonged (leaseFor : Time) (key : SessionKey) : List MailboxLease → (Nat → Time) → Time → Time
  | [], _, expiry => expiry
  | lease :: rest, clk, expiry =>
      prolonged leaseFor key rest (fun index => clk (index + 1))
        (if lease.key = key then max (clk 0 + leaseFor) (expiry + 1) else expiry)

variable (store : MailboxStore) (leaseFor : Time)

def Renewable (lease : MailboxLease) (now : Time) : Prop :=
  0 < leaseFor ∧ Storage.owns (store.mailboxes.get? lease.key) lease now

/-- The mailbox records the lease, which is not over once the leases before it
in the batch were renewed. -/
def RenewableAfter (earlier : List MailboxLease) (clk : Nat → Time) (lease : MailboxLease)
    (now : Time) : Prop :=
  0 < leaseFor ∧ ∃ mailbox expiry,
    store.mailboxes.get? lease.key = some mailbox ∧ mailbox.HeldBy lease ∧
      mailbox.leaseExpiresAt = some expiry ∧
      now < prolonged leaseFor lease.key earlier clk expiry

def AllRenewable (leases : List MailboxLease) (clk : Nat → Time) : Prop :=
  ∀ index lease, leases[index]? = some lease →
    RenewableAfter store leaseFor (leases.take index) clk lease (clk index)

/-- Every lease of the batch is renewed, or the call raises and every mailbox
keeps the end of its lease. -/
def AllOrNothing (leases : List MailboxLease) (clk : Nat → Time) : Prop :=
  let outcome := store.renewMany leaseFor leases clk
  (outcome.1.isOk ∧ ∀ lease ∈ leases, Extended store outcome.2 lease.key) ∨
    ¬ outcome.1.isOk ∧ ∀ key, expiryOf outcome.2 key = expiryOf store key

section Renew

variable {store before middle after : MailboxStore} {leaseFor now : Time} {lease : MailboxLease}
  {key : SessionKey}

theorem Extended.andProlongs (extended : Extended before middle key)
    (rest : Prolongs middle after) : Extended before after key := by
  obtain ⟨early, late, first, second, ordered⟩ := extended
  rcases rest key with same | ⟨early', late', third, fourth, later⟩
  · exact ⟨early, late, first, same.trans second, ordered⟩
  · cases second.symm.trans third
    exact ⟨early, late', first, fourth, ordered.trans later⟩

theorem Prolongs.trans (first : Prolongs before middle)
    (rest : Prolongs middle after) : Prolongs before after := by
  intro key
  rcases first key with same | extended
  · rcases rest key with kept | ⟨early, late, second, third, ordered⟩
    · exact .inl (kept.trans same)
    · exact .inr ⟨early, late, same.symm.trans second, third, ordered⟩
  · exact .inr (extended.andProlongs rest)

theorem Prolongs.andExtended (first : Prolongs before middle)
    (extended : Extended middle after key) : Extended before after key := by
  obtain ⟨early, late, second, third, ordered⟩ := extended
  rcases first key with same | ⟨early', late', fourth, fifth, earlier⟩
  · exact ⟨early, late, same.symm.trans second, third, ordered⟩
  · cases fifth.symm.trans second
    exact ⟨early', late, fourth, third, earlier.trans ordered⟩

theorem renew_refused (stale : ¬ Renewable store leaseFor lease now) :
    ∃ error, store.renew lease leaseFor now = (.error error, store) := by
  unfold renew
  by_cases short : leaseFor ≤ 0
  · rw [if_pos short]
    exact ⟨_, rfl⟩
  · rw [if_neg short]
    cases found : store.mailboxes.get? lease.key with
    | none => exact ⟨_, rfl⟩
    | some mailbox =>
      have lost : ¬ Storage.owns (some mailbox) lease now := fun held =>
        stale ⟨Int.not_le.mp short, found ▸ held⟩
      dsimp only
      rw [if_neg lost]
      exact ⟨_, rfl⟩

variable {clk : Nat → Time}

theorem renewableAfter_nil :
    RenewableAfter store leaseFor [] clk lease now ↔ Renewable store leaseFor lease now := by
  unfold RenewableAfter Renewable
  refine and_congr_right fun _ => ?_
  constructor
  · rintro ⟨mailbox, expiry, found, held, ends, live⟩
    rw [found, owns_some_iff, ends]
    exact ⟨held, decide_eq_true live⟩
  · intro owned
    cases found : store.mailboxes.get? lease.key with
    | none =>
      rw [found] at owned
      cases owned
    | some mailbox =>
      rw [found] at owned
      obtain ⟨held, live⟩ := owns_some_iff.mp owned
      obtain ⟨expiry, ends⟩ := Option.isSome_iff_exists.mp (laterThan_isSome live)
      rw [ends] at live
      exact ⟨mailbox, expiry, rfl, held, ends, of_decide_eq_true live⟩

/-- A renewal moves the end of its own mailbox's lease and nothing else that a
later renewal reads. -/
theorem renewableAfter_putMailbox {mailbox : SessionMailbox} {expiry : Time}
    (found : store.mailboxes.get? key = some mailbox) (ends : mailbox.leaseExpiresAt = some expiry)
    (own : lease.key = key) (earlier : List MailboxLease) (other : MailboxLease) :
    RenewableAfter (store.putMailbox key { mailbox with
        leaseExpiresAt := some (max (clk 0 + leaseFor) (expiry + 1)), updatedAt := clk 0 })
        leaseFor earlier (fun index => clk (index + 1)) other now ↔
      RenewableAfter store leaseFor (lease :: earlier) clk other now := by
  unfold RenewableAfter
  refine and_congr_right fun _ => ?_
  simp only [prolonged, own]
  by_cases same : other.key = key
  · have stored : (store.putMailbox key { mailbox with
        leaseExpiresAt := some (max (clk 0 + leaseFor) (expiry + 1)),
        updatedAt := clk 0 }).mailboxes.get? key = some _ := Dict.get?_set_self ..
    simp only [same, stored, found, if_true]
    constructor
    · rintro ⟨_, _, ⟨⟩, held, ⟨⟩, live⟩
      exact ⟨mailbox, expiry, rfl,
        ⟨held.running, held.sequence, held.inbound, held.owner, held.epoch⟩, ends, live⟩
    · rintro ⟨_, _, ⟨⟩, held, ends', live⟩
      cases ends.symm.trans ends'
      exact ⟨_, _, rfl,
        ⟨held.running, held.sequence, held.inbound, held.owner, held.epoch⟩, rfl, live⟩
  · have frame : (store.putMailbox key { mailbox with
        leaseExpiresAt := some (max (clk 0 + leaseFor) (expiry + 1)),
        updatedAt := clk 0 }).mailboxes.get? other.key = store.mailboxes.get? other.key :=
      Dict.get?_set_of_ne _ _ (Ne.symm same)
    simp only [frame, if_neg (Ne.symm same)]

theorem renew_renewed (current : Renewable store leaseFor lease (clk 0)) :
    ∃ renewed after, store.renew lease leaseFor (clk 0) = (.ok renewed, after) ∧
      Extended store after lease.key ∧ Prolongs store after ∧
      ∀ earlier other now,
        (RenewableAfter after leaseFor earlier (fun index => clk (index + 1)) other now ↔
          RenewableAfter store leaseFor (lease :: earlier) clk other now) := by
  have next : RenewableAfter store leaseFor [] clk lease (clk 0) := renewableAfter_nil.mpr current
  obtain ⟨mailbox, early, found, held, ends, live⟩ := next.2
  let late := max (clk 0 + leaseFor) (early + 1)
  let renewed := { mailbox with leaseExpiresAt := some late, updatedAt := clk 0 }
  have done : store.renew lease leaseFor (clk 0) = (.ok { lease with expiresAt := late },
        store.putMailbox lease.key renewed) := by
    have owned := current.2
    rw [found] at owned
    rw [renew, if_neg (Int.not_le.mpr current.1), found]
    dsimp only
    rw [if_pos owned, ends]
    rfl
  have own : (store.putMailbox lease.key renewed).mailboxes.get? lease.key =
      some renewed := Dict.get?_set_self ..
  have extended : Extended store (store.putMailbox lease.key renewed) lease.key := by
    refine ⟨early, late, ?_, ?_, lt_max_of_lt_right (Int.lt_succ early)⟩
    · rw [expiryOf, found, Option.bind_some, ends]
    · rw [expiryOf, own, Option.bind_some]
  refine ⟨_, _, done, extended, fun other => ?_, fun earlier other now => ?_⟩
  · by_cases same : other = lease.key
    · exact .inr (same ▸ extended)
    · exact .inl (congrArg (Option.bind · SessionMailbox.leaseExpiresAt)
        (Dict.get?_set_of_ne _ _ (Ne.symm same)))
  · exact renewableAfter_putMailbox found ends rfl earlier other

theorem renewMany_refused {leases : List MailboxLease}
    (stale : ¬ Renewable store leaseFor lease (clk 0)) :
    ¬ (store.renewMany leaseFor (lease :: leases) clk).1.isOk ∧
      (store.renewMany leaseFor (lease :: leases) clk).2 = store := by
  obtain ⟨error, refused⟩ := renew_refused stale
  rw [renewMany, refused]
  exact ⟨nofun, rfl⟩

theorem renewMany_renewed (leases : List MailboxLease)
    (current : Renewable store leaseFor lease (clk 0)) :
    ∃ middle, Extended store middle lease.key ∧ Prolongs store middle ∧ (∀ earlier other now,
        (RenewableAfter middle leaseFor earlier (fun index => clk (index + 1)) other now ↔
          RenewableAfter store leaseFor (lease :: earlier) clk other now)) ∧
      let rest := middle.renewMany leaseFor leases fun index => clk (index + 1)
      (store.renewMany leaseFor (lease :: leases) clk).1.isOk = rest.1.isOk ∧
        (store.renewMany leaseFor (lease :: leases) clk).2 = rest.2 := by
  obtain ⟨renewed, middle, done, extended, prolongs, later⟩ := renew_renewed current
  refine ⟨middle, extended, prolongs, later, ?_⟩
  rw [renewMany, done]
  dsimp only
  split
  · next others => exact others ▸ ⟨rfl, rfl⟩
  · next others => exact others ▸ ⟨rfl, rfl⟩

variable (leases : List MailboxLease) (clk : Nat → Time)

theorem prolongs_renewMany : Prolongs store (store.renewMany leaseFor leases clk).2 := by
  induction leases generalizing store clk with
  | nil => exact fun _ => .inl rfl
  | cons lease rest induction =>
    by_cases current : Renewable store leaseFor lease (clk 0)
    · obtain ⟨middle, _, prolongs, _, _, same⟩ := renewMany_renewed rest current
      rw [same]
      exact prolongs.trans (induction _)
    · rw [(renewMany_refused current).2]
      exact fun _ => .inl rfl

theorem extended_renewMany (done : (store.renewMany leaseFor leases clk).1.isOk) :
    ∀ lease ∈ leases, Extended store (store.renewMany leaseFor leases clk).2 lease.key := by
  induction leases generalizing store clk with
  | nil => exact nofun
  | cons lease rest induction =>
    by_cases current : Renewable store leaseFor lease (clk 0)
    · obtain ⟨middle, extended, prolongs, _, succeeds, same⟩ := renewMany_renewed rest current
      rw [succeeds] at done
      rw [same]
      intro other member
      cases member with
      | head => exact extended.andProlongs (prolongs_renewMany _ _)
      | tail _ member => exact prolongs.andExtended (induction _ done _ member)
    · exact absurd done (renewMany_refused current).1

theorem allRenewable_cons {rest : List MailboxLease} :
    AllRenewable store leaseFor (lease :: rest) clk ↔
      Renewable store leaseFor lease (clk 0) ∧ ∀ index other, rest[index]? = some other →
        RenewableAfter store leaseFor (lease :: rest.take index) clk other (clk (index + 1)) := by
  constructor
  · intro all
    refine ⟨renewableAfter_nil.mp (all 0 lease rfl), fun index other member => ?_⟩
    exact all (index + 1) other member
  · rintro ⟨current, others⟩ index other member
    cases index with
    | zero =>
      cases member
      exact renewableAfter_nil.mpr current
    | succ index => exact others index other member

theorem renewMany_isOk_iff :
    (store.renewMany leaseFor leases clk).1.isOk ↔ AllRenewable store leaseFor leases clk := by
  induction leases generalizing store clk with
  | nil =>
    refine iff_of_true rfl fun index lease member => ?_
    rw [List.getElem?_nil] at member
    cases member
  | cons lease rest induction =>
    rw [allRenewable_cons]
    by_cases current : Renewable store leaseFor lease (clk 0)
    · obtain ⟨middle, _, _, later, succeeds, _⟩ := renewMany_renewed rest current
      rw [succeeds, induction, and_iff_right current]
      exact forall₃_congr fun index other _ => later _ other _
    · exact iff_of_false (renewMany_refused current).1 fun all => current all.1

end Renew

/-- A batch is renewed as a whole exactly if each lease is current when its
turn comes, and fails as a whole exactly if the first one is stale. -/
theorem renew_many_all_or_nothing_iff (store : MailboxStore) (leaseFor : Time)
    (leases : List MailboxLease) (clk : Nat → Time) :
    (AllOrNothing store leaseFor leases clk ↔ AllRenewable store leaseFor leases clk ∨
          ∀ lease, leases.head? = some lease → ¬ Renewable store leaseFor lease (clk 0)) ∧
      ((store.renewMany leaseFor leases clk).1.isOk ↔ AllRenewable store leaseFor leases clk) := by
  rw [← renewMany_isOk_iff]
  refine ⟨?_, Iff.rfl⟩
  by_cases done : (store.renewMany leaseFor leases clk).1.isOk
  · exact ⟨fun _ => .inl done, fun _ => .inl ⟨done, extended_renewMany leases clk done⟩⟩
  · cases leases with
    | nil => exact absurd rfl done
    | cons lease rest =>
        constructor
        · rintro (⟨succeeded, _⟩ | ⟨_, unchanged⟩)
          · exact absurd succeeded done
          · refine .inr fun first head current => ?_
            cases head
            obtain ⟨middle, extended, _, _, _, same⟩ := renewMany_renewed rest current
            obtain ⟨early, late, before, after, longer⟩ :=
              extended.andProlongs (prolongs_renewMany rest _)
            rw [← same, unchanged, before] at after
            cases after
            exact lt_irrefl _ longer
        · rintro (succeeded | stale)
          · exact absurd succeeded done
          · refine .inr ⟨done, fun key => ?_⟩
            rw [(renewMany_refused (stale lease rfl)).2]

def claimedStore : MailboxStore :=
  let accepted := initial.accept ("tenant", "home") "message" 0 none (some "trace") "wakeup" 0
  (accepted.2.claim ("tenant", "home") "worker" 60 0).2

def homeLease : MailboxLease where
  tenantId := "tenant"
  sessionId := "home"
  inboundId := "message"
  ownerId := "worker"
  epoch := 1
  sequence := 1
  expiresAt := 60
  attempt := 1
  retryCount := 0
  priority := 0

theorem stale_member_fails_late :
    let outcome := claimedStore.renewMany 60
      [homeLease, { homeLease with ownerId := "other" }] fun _ => 30
    outcome.1 = .error (.fencingConflict leaseConflictMessage) ∧
      expiryOf claimedStore homeLease.key = some 60 ∧
      expiryOf outcome.2 homeLease.key = some 90 := by
  decide

/-- The second renewal comes when the lease was over before the first. -/
theorem repeated_lease_renewed : AllOrNothing claimedStore 60 [homeLease, homeLease]
      fun index => if index = 0 then 30 else 80 := by
  apply (renew_many_all_or_nothing_iff claimedStore 60 [homeLease, homeLease] _).1.mpr
  left
  rintro (_ | _ | _) lease member
  · cases member
    exact ⟨by decide, _, 60, rfl, ⟨rfl, rfl, rfl, rfl, rfl⟩, rfl, by decide⟩
  · cases member
    exact ⟨by decide, _, 60, rfl, ⟨rfl, rfl, rfl, rfl, rfl⟩, rfl, by decide⟩
  · cases member

end TrpcService.Storage.Memory
