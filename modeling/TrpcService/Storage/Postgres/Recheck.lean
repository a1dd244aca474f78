import TrpcService.Storage.Postgres.Runs

namespace TrpcService.Storage.Postgres

open Data

/-! Reconciliation under READ COMMITTED.  The candidate query reads a snapshot
and locks the mailbox rows it returns; transactions may commit in between.  A
row changed by one of them is read again at its newest version, while the rows
joined to it stay those of the snapshot. -/

namespace Tables

/-- Evaluate the join again for the newest mailbox row: the snapshot's item is
kept when the join condition still selects it, and is null otherwise. -/
def ReconcileRecord.recheck (record : ReconcileRecord)
    (newest : SessionMailbox) : ReconcileRecord :=
  if headSequence newest = headSequence record.mailbox then { record with mailbox := newest }
  else ⟨newest, none, none⟩

/-- One candidate, read in `snapshot` at the clock readings `clk` and locked in
`current`; what follows the lock reads the clock as `late`. -/
def reconcileAcross (now : Time) (snapshot current : Tables) (key : SessionKey)
    (uuid : String) (clk late : Nat → Time) : Nat × Tables :=
  match snapshot.sessionMailboxes.get? key, current.sessionMailboxes.get? key with
  | some mailbox, some newest =>
      let record := snapshot.reconcileRecord key mailbox
      if record.candidate (clk 1) (clk 2) ∧ ¬ snapshot.sessionActive key (clk 3) then
        if newest = mailbox then current.reconcileLocked key record uuid now late
        else
          let record := record.recheck newest
          if record.candidate (late 1) (late 2) ∧ ¬ snapshot.sessionActive key (late 3) then
            current.reconcileLocked key record uuid now late
          else (0, current)
      else (0, current)
  | _, _ => (0, current)

end Tables

/-- The mailbox is idle although its next message is waiting. -/
def Stranded (key : SessionKey) (tables : Tables) : Prop := (tables.mailbox key).status = .idle ∧
    (tables.mailbox key).resolvedSequence < (tables.mailbox key).acceptedSequence ∧
    (tables.item? key ((tables.mailbox key).resolvedSequence + 1)).isSome

instance (key : SessionKey) (tables : Tables) : Decidable (Stranded key tables) :=
  inferInstanceAs (Decidable (_ ∧ _ ∧ _))

/-- A candidate whose head was resolved between the snapshot and the lock, and
whose next message is queued or under an expired lease by then. -/
structure Exposed (snapshot current : Tables) (key : SessionKey)
    (clk late : Nat → Time) : Prop where
  candidate : (snapshot.reconcileRecord key (snapshot.mailbox key)).candidate (clk 1) (clk 2) = true
  free : snapshot.sessionActive key (clk 3) = false
  resolved : (current.mailbox key).resolvedSequence ≠ (snapshot.mailbox key).resolvedSequence
  selected : (current.mailbox key).status = .queued ∨ (current.mailbox key).status = .running ∧
      elapsed (current.mailbox key).leaseExpiresAt (late 1) = true
  stillFree : snapshot.sessionActive key (late 3) = false
  unlocked : current.sessionActive key (late 4) = false

theorem Exposed.busy {snapshot current : Tables} {key : SessionKey} {clk late : Nat → Time}
    (exposed : Exposed snapshot current key clk late) : (current.mailbox key).status ≠ .idle := by
  rcases exposed.selected with queued | ⟨running, _⟩
  · simp [queued]
  · simp [running]

namespace MailboxInv

variable {key : SessionKey} {tables : Tables}

theorem not_stranded (inv : MailboxInv key tables) : ¬ Stranded key tables := by
  rintro ⟨idle, pending, _⟩
  have drained := inv.idle.mp idle
  omega

end MailboxInv

theorem Constraints.unleased_mailbox {tables : Tables} (valid : Constraints tables)
    {key : SessionKey} (free : (tables.mailbox key).status ≠ .running) :
    (tables.mailbox key).processingSequence = none ∧
      (tables.mailbox key).processingInboundId = none ∧
      (tables.mailbox key).leaseOwner = none ∧
      (tables.mailbox key).leaseExpiresAt = none := by
  cases stored : tables.sessionMailboxes.get? key with
  | none => simp [Tables.mailbox, stored, SessionMailbox.fresh]
  | some mailbox =>
    rw [Tables.mailbox_of_get? stored] at free ⊢
    exact (valid.checks stored).unleased free

namespace Tables

variable {tables : Tables} {key : SessionKey} {record : ReconcileRecord}

theorem candidate_cases (inv : MailboxInv key tables) (valid : Constraints tables)
    (located : record.mailbox = tables.mailbox key) {leaseNow queuedNow : Time}
    (candidate : record.candidate leaseNow queuedNow = true) :
    ((tables.mailbox key).status = .running ∧
        elapsed (tables.mailbox key).leaseExpiresAt leaseNow = true) ∨
      (tables.mailbox key).status = .queued ∨ record.headCommitted = true := by
  have ordered := inv.ordered
  simp only [ReconcileRecord.candidate, located, Bool.or_eq_true,
    Bool.and_eq_true, decide_eq_true_eq] at candidate
  rcases candidate with ((((((leased | expired) | drained) | missed) |
    untimed) | unjoined) | old) | committed
  · have free := valid.unleased_mailbox leased.1
    simp [free] at leased
  · exact .inl expired
  · exact absurd (inv.idle.mpr (Nat.le_antisymm drained.1 ordered)) drained.2
  · have idle := inv.idle.mp missed.2
    omega
  · have timed := inv.waiting untimed.1
    simp [Option.isNone_iff_eq_none.mp untimed.2] at timed
  · exact .inr (.inl unjoined.1)
  · exact .inr (.inl old.1)
  · exact .inr (.inr committed)

theorem candidate_item (inv : MailboxInv key tables)
    (valid : Constraints tables) {leaseNow queuedNow : Time}
    (candidate : (tables.reconcileRecord key (tables.mailbox key)).candidate
      leaseNow queuedNow = true) :
    ((tables.reconcileRecord key (tables.mailbox key)).item).isSome := by
  have head := inv.headSequence_eq
  have busy : (tables.mailbox key).status ≠ .idle →
      (tables.item? key (headSequence (tables.mailbox key))).isSome := by
    intro busy
    have pending := inv.pending_of_busy busy
    rw [head, inv.items]
    omega
  rcases candidate_cases inv valid rfl candidate with ⟨running, _⟩ | queued | committed
  · exact busy (by simp [running])
  · exact busy (by simp [queued])
  · obtain ⟨item, present⟩ := item_of_headCommitted committed
    exact Option.isSome_iff_exists.mpr ⟨item, present⟩

theorem mailbox_reconcileHead (record : ReconcileRecord) (uuid : String)
    (now : Time) (clk : Nat → Time) :
    ∃ status retryAt increment,
      (if record.mailbox.acceptedSequence ≤ record.mailbox.resolvedSequence then
        (.idle, none) else nextStatus record.item (clk 5)) = (status, retryAt) ∧
      (tables.reconcileHead key record uuid now clk).mailbox key =
        settled record.mailbox status retryAt increment (clk 6) ∧
      ∀ sequence, (tables.reconcileHead key record uuid now clk).item? key sequence =
          tables.item? key sequence := by
  fun_cases reconcileHead tables key record uuid now clk with
  | case1 _ _ _ _ _ _ derived _ _ written
  | case3 _ _ _ _ _ _ derived _ _ written =>
    have mailbox : written.mailbox key = _ :=
      (mailbox_clearSession ..).trans (mailbox_putMailbox ..)
    exact ⟨_, _, _, derived, (mailbox_insertReady ..).trans mailbox,
      fun _ => (item?_insertReady ..).trans (item?_clearSession ..)⟩
  | case2 _ _ _ _ _ _ _ derived _ _ written opened =>
    have quiet := quiet_reopenReady _ _ opened key
    have mailbox : written.mailbox key = _ :=
      (mailbox_clearSession ..).trans (mailbox_putMailbox ..)
    exact ⟨_, _, _, derived, quiet.mailbox.trans mailbox,
      fun sequence => (quiet.items sequence).trans (item?_clearSession ..)⟩
  | case4 _ _ _ derived =>
    exact ⟨_, _, _, derived, (mailbox_clearSession ..).trans (mailbox_putMailbox ..),
      fun _ => item?_clearSession ..⟩

section Rechecked

variable (inv : MailboxInv key tables)

include inv

theorem stranded_reconcileHead (located : record.mailbox = tables.mailbox key) (uuid : String)
    (now : Time) (clk : Nat → Time) :
    Stranded key (tables.reconcileHead key record uuid now clk) ↔
      record.item = none ∧ (tables.mailbox key).resolvedSequence <
        (tables.mailbox key).acceptedSequence := by
  obtain ⟨status, retryAt, increment, derived, mailbox, items⟩ :=
    mailbox_reconcileHead record uuid now clk
  rw [Stranded, items, mailbox, located]
  rw [located] at derived
  dsimp only [settled]
  constructor
  · rintro ⟨rfl, pending, _⟩
    rw [if_neg (Nat.not_le.mpr pending)] at derived
    refine ⟨?_, pending⟩
    cases joined : record.item with
    | none => rfl
    | some item =>
      rw [joined] at derived
      rcases nextStatus_cases derived with queued | ⟨waiting, _⟩
      · cases queued
      · cases waiting
  · rintro ⟨unjoined, pending⟩
    rw [if_neg (Nat.not_le.mpr pending), unjoined] at derived
    cases derived
    exact ⟨rfl, pending, (inv.items _).mpr (by omega)⟩

theorem not_stranded_reconcileCommitted (uuid : String) (now : Time) (clk : Nat → Time) :
    ¬ Stranded key (tables.reconcileCommitted key (tables.mailbox key) uuid now clk) := by
  fun_cases reconcileCommitted tables key (tables.mailbox key) uuid now clk with
  | case1 _ _ _ _ _ _ _ updated _ written =>
    have mailbox : written.mailbox key = updated :=
      (mailbox_clearSession ..).trans (mailbox_putMailbox ..)
    rintro ⟨idle, _⟩
    rw [mailbox_insertReady, mailbox] at idle
    cases idle
  | case2 sequence resolved nextItem status retryAt derived updated _ written =>
    have mailbox : written.mailbox key = updated :=
      (mailbox_clearSession ..).trans (mailbox_putMailbox ..)
    rintro ⟨idle, pending, _⟩
    rw [mailbox] at idle pending
    have behind : ¬ sequence ≥ (tables.mailbox key).acceptedSequence := Nat.not_le.mpr pending
    have present : nextItem.isSome := (isSome_item?_resolveItem ..).trans ((inv.items _).mpr
        ⟨Nat.le_add_left 1 sequence, Nat.lt_of_not_le behind⟩)
    obtain ⟨item, present⟩ := Option.isSome_iff_exists.mp present
    rw [if_neg behind, present] at derived
    obtain rfl : status = .idle := idle
    rcases nextStatus_cases derived with queued | ⟨waiting, _⟩
    · cases queued
    · cases waiting

theorem stranded_reconcileLocked (located : record.mailbox = tables.mailbox key) (uuid : String)
    (now : Time) (clk : Nat → Time) :
    Stranded key (tables.reconcileLocked key record uuid now clk).2 ↔
      tables.sessionActive key (clk 4) = false ∧ record.headCommitted = false ∧ record.item = none ∧
        (tables.mailbox key).resolvedSequence < (tables.mailbox key).acceptedSequence := by
  rw [reconcileLocked]
  split
  · rename_i active
    simp [active, inv.not_stranded]
  · rename_i free
    split
    · rename_i committed
      simp [committed, located, not_stranded_reconcileCommitted inv]
    · rename_i uncommitted
      rw [stranded_reconcileHead inv located]
      simp [free, uncommitted]

theorem candidate_unjoined (valid : Constraints tables) (leaseNow queuedNow : Time) :
    (⟨tables.mailbox key, none, none⟩ : ReconcileRecord).candidate leaseNow queuedNow = true ↔
      (tables.mailbox key).status = .queued ∨ (tables.mailbox key).status = .running ∧
          elapsed (tables.mailbox key).leaseExpiresAt leaseNow = true := by
  constructor
  · intro candidate
    rcases candidate_cases inv valid rfl candidate with expired | queued | committed
    · exact .inr expired
    · exact .inl queued
    · cases committed
  · rintro (queued | ⟨running, expired⟩)
    · simp [ReconcileRecord.candidate, queued]
    · simp [ReconcileRecord.candidate, running, expired]

end Rechecked

theorem stored_of_pending
    (pending : (tables.mailbox key).resolvedSequence < (tables.mailbox key).acceptedSequence) :
    ∃ mailbox, tables.sessionMailboxes.get? key = some mailbox := by
  cases stored : tables.sessionMailboxes.get? key with
  | none => simp [Tables.mailbox, stored, SessionMailbox.fresh] at pending
  | some mailbox => exact ⟨mailbox, rfl⟩

theorem stranded_reconcileAcross {snapshot current : Tables} (before : MailboxInv key snapshot)
    (valid : Constraints snapshot) (after : MailboxInv key current)
    (laterValid : Constraints current) (now : Time) (uuid : String) (clk late : Nat → Time) :
    Stranded key (reconcileAcross now snapshot current key uuid clk late).2 ↔
      Exposed snapshot current key clk late := by
  have head := before.headSequence_eq
  have laterHead := after.headSequence_eq
  fun_cases reconcileAcross now snapshot current key uuid clk late with
  | case1 mailbox stored unchanged record candidate =>
    -- The row did not change, so its item is still joined.
    obtain rfl := mailbox_of_get? unchanged
    have located := (mailbox_of_get? stored).symm
    have joined := candidate_item before valid candidate.1
    rw [stranded_reconcileLocked after located]
    constructor
    · rintro ⟨_, _, unjoined, _⟩
      rw [unjoined] at joined
      cases joined
    · intro exposed
      exact absurd (congrArg _ located.symm) exposed.resolved
  | case2 mailbox newest stored snapshotStored record candidate _ rechecked again =>
    obtain rfl := mailbox_of_get? snapshotStored
    obtain rfl := mailbox_of_get? stored
    by_cases moved : headSequence (current.mailbox key) = headSequence (snapshot.mailbox key)
    · have kept : rechecked = { record with mailbox := current.mailbox key } := if_pos moved
      have joined := candidate_item before valid candidate.1
      rw [kept, stranded_reconcileLocked after rfl]
      constructor
      · rintro ⟨_, _, unjoined, _⟩
        dsimp only [record] at unjoined
        rw [unjoined] at joined
        cases joined
      · intro exposed
        have resolved := exposed.resolved
        omega
    · have lost : rechecked = ⟨current.mailbox key, none, none⟩ := if_neg moved
      rw [lost] at again
      rw [lost, stranded_reconcileLocked after rfl]
      constructor
      · rintro ⟨unlocked, _⟩
        exact ⟨candidate.1, Bool.of_not_eq_true candidate.2, by omega,
          (candidate_unjoined after laterValid _ _).mp again.1,
          Bool.of_not_eq_true again.2, unlocked⟩
      · intro exposed
        exact ⟨exposed.unlocked, rfl, rfl, after.pending_of_busy exposed.busy⟩
  | case3 mailbox newest stored snapshotStored record candidate _ rechecked again =>
    obtain rfl := mailbox_of_get? snapshotStored
    obtain rfl := mailbox_of_get? stored
    refine iff_of_false after.not_stranded fun exposed => again ?_
    have moved : ¬ headSequence (current.mailbox key) = headSequence (snapshot.mailbox key) := by
      have resolved := exposed.resolved
      omega
    have lost : rechecked = ⟨current.mailbox key, none, none⟩ := if_neg moved
    rw [lost]
    exact ⟨(candidate_unjoined after laterValid _ _).mpr exposed.selected,
      by simp [exposed.stillFree]⟩
  | case4 mailbox newest stored snapshotStored record candidate =>
    obtain rfl := mailbox_of_get? snapshotStored
    refine iff_of_false after.not_stranded fun exposed => candidate ?_
    exact ⟨exposed.candidate, by simp [exposed.free]⟩
  | case5 missing =>
    refine iff_of_false after.not_stranded fun exposed => ?_
    have joined := candidate_item before valid exposed.candidate
    obtain ⟨item, joined⟩ := Option.isSome_iff_exists.mp joined
    have present : snapshot.item? key (headSequence (snapshot.mailbox key)) = some item := joined
    obtain ⟨mailbox, stored⟩ := stored_of_pending (before.pending_of_item (head ▸ present))
    obtain ⟨newest, laterStored⟩ := stored_of_pending (after.pending_of_busy exposed.busy)
    exact missing mailbox newest stored laterStored

end Tables

/-- Whatever commits between the snapshot and the lock, reconciliation leaves
no mailbox idle with a message waiting exactly when the head it selected was
not resolved in between with a message queued, or expired, behind it. -/
theorem reconcile_keeps_pending_iff {library : Library} {config next : DatabaseConfig}
    (reachable : (repository library).Reachable freshRequest config)
    (steps : (repository library).Steps freshRequest config next)
    (key : SessionKey) (now : Time) (uuid : String) (clk late : Nat → Time) :
    ¬ Stranded key (Tables.reconcileAcross now config.state.tables
        next.state.tables key uuid clk late).2 ↔
      ¬ Exposed config.state.tables next.state.tables key clk late :=
  not_congr (Tables.stranded_reconcileAcross (mailboxInv_reachable reachable key) config.state.valid
    (mailboxInv_reachable (reachable.steps steps) key) next.state.valid now uuid
    clk late)

/-! A worker commits the first of two messages just before its lease expires;
the snapshot is taken after the expiry and before the commit is visible. -/

def receivedTwice : DatabaseConfig := (repository plainLibrary).after receivedOnce
    ⟨.acceptInboundV2 firstContext ⟨.feishu, "account", "next", "body"⟩ [] 0
      none, dashes 2⟩ (fun _ => 1) 1

def leasedFirst : DatabaseConfig := (repository plainLibrary).after receivedTwice
    ⟨.claimSessionReady firstKey "worker" 10 none (some (dashes 0 1)) none, dashes 4⟩ (fun _ => 2) 2

def firstLease : SessionLease where
  tenantId := "tenant"
  sessionId := "session"
  turnId := dashes 4 0
  inboundId := dashes 0 0
  workerId := "worker"
  fencingToken := 1
  expiresAt := 12
  attempt := 1
  snapshot :=
    { tenantId := "tenant", appId := "app", sessionId := "session",
      principalId := "principal", version := 0, nextSequence := 1 }
  snapshotHydrated := false

def committedFirst : DatabaseConfig := (repository plainLibrary).after leasedFirst
    ⟨.commitSessionReady ⟨firstLease, "state", [], none⟩, dashes 5⟩
    (fun _ => 11) 13

theorem leasedFirst_reachable : (repository plainLibrary).Reachable freshRequest leasedFirst := by
  refine ClockedObject.Reachable.call ?_ (freshIds_dashes (by decide +kernel)) (by decide)
  exact receivedOnce_reachable.call (freshIds_dashes (by decide +kernel)) (by decide)

theorem committedFirst_step :
    (repository plainLibrary).Step freshRequest leasedFirst committedFirst :=
  .call _ _ _ _ (freshIds_dashes (by decide +kernel)) (fun _ _ _ => le_refl _)
    (by decide) fun _ => by decide

theorem committedFirst_stranded : leasedFirst.clock ≤ 12 ∧ committedFirst.clock ≤ 13 ∧
      (repository plainLibrary).Reachable freshRequest leasedFirst ∧
      (repository plainLibrary).Step freshRequest leasedFirst committedFirst ∧
      Stranded firstKey (Tables.reconcileAcross 12
        leasedFirst.state.tables committedFirst.state.tables
        firstKey (dashes 8 0) (fun _ => 12) fun _ => 13).2 :=
  ⟨by decide, by decide, leasedFirst_reachable, committedFirst_step,
    by decide +kernel⟩

theorem committedFirst_exposed : Exposed leasedFirst.state.tables committedFirst.state.tables
      firstKey (fun _ => 12) fun _ => 13 := by
  by_contra safe
  have kept := (reconcile_keeps_pending_iff leasedFirst_reachable
    (.single committedFirst_step) firstKey 12 (dashes 8 0)
    (fun _ => 12) fun _ => 13).mpr safe
  exact kept (by decide +kernel)

end TrpcService.Storage.Postgres
