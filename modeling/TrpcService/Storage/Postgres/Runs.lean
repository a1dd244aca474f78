import TrpcService.Data.ClockedObject
import TrpcService.Storage.Postgres.RecoveryEffects

namespace TrpcService.Storage.Postgres

open Data Tables

/-! Runs of the repository: any number of workers call its methods and the
recovery functions in any order, each an atomic transaction against one
database clock. -/

inductive Call where
  | acceptInbound (context : TenantContext) (envelope : InboundEnvelope)
      (traceHeaders : List (String × String))
  | acceptInboundV2 (context : TenantContext) (envelope : InboundEnvelope)
      (traceHeaders : List (String × String)) (priority : Priority)
      (retryAt : Option Time)
  | acceptMailbox (key : SessionKey) (inboundId : String) (priority : Priority)
      (retryAt : Option Time) (traceId : Option String)
  | claimMailbox (key : SessionKey) (ownerId : String) (leaseFor : Time)
      (expectedGeneration expectedEpoch : Option Int)
      (acceptance : Option Acceptance)
  | renewMailbox (lease : MailboxLease) (leaseFor : Time)
  | renewMailboxes (tenantId : String) (leases : List MailboxLease) (leaseFor : Time)
  | commitMailbox (lease : MailboxLease)
  | rescheduleMailbox (lease : MailboxLease) (retryAt : Option Time) (priority : Option Priority)
  | retryMailbox (lease : MailboxLease) (retryAt : Option Time) (priority : Option Priority)
  | recoverMailbox (key : SessionKey)
  | reconcileMailbox (key : SessionKey) (replayCooldown : Time)
  | claimSessionReady (key : SessionKey) (ownerId : String) (leaseFor : Time)
      (expectedGeneration : Option Int) (expectedEventId : Option String)
      (acceptance : Option Acceptance)
  | renewSessionReady (lease : SessionLease) (leaseFor : Time)
  | commitSessionReady (commit : TurnCommit)
  | retrySessionReady (lease : SessionLease) (delay : Time)
  | failSessionReady (lease : SessionLease)
  | acquire (acceptance : Acceptance) (workerId : String) (leaseFor : Time)
  | renew (lease : SessionLease) (leaseFor : Time)
  | commit (commit : TurnCommit)
  | fail (lease : SessionLease)
  | sweepExpiredSessionLeases (limit : Int) (batch : List SessionKey)
  | scheduleSessionMailboxRetries (limit : Int) (batch : List SessionKey)
  | reconcileSessionMailboxes (limit cooldown : Int) (batch : List SessionKey)
  | rewriteDispatch (id : String × String) (columns : DispatchColumns)

structure Request where
  call : Call
  uuids : Nat → String

inductive Answer where
  | accepted (acceptance : Acceptance)
  | mailbox (mailbox : SessionMailbox)
  | recovered (mailbox : Option SessionMailbox)
  | claim (claim : SessionClaim)
  | mailboxLeases (leases : List MailboxLease)
  | acquired (lease : Option SessionLease)
  | renewed (lease : SessionLease)
  | committed (result : CommitResult)
  | changed (count : Nat)
  | done

def Answer.granted : Answer → Option SessionLease
  | .claim outcome => outcome.executionLease
  | .acquired lease => lease
  | _ => none

def answering {α : Type} (answer : α → Answer) (outcome : Outcome α) : Outcome Answer :=
  outcome.map fun result => (answer result.1, result.2)

def Request.body (library : Library) (request : Request) (clk : Nat → Time)
    (tables : Tables) : Outcome Answer :=
  let uuids := request.uuids
  match request.call with
  | .acceptInbound context envelope traceHeaders =>
      answering .accepted (tables.acceptInbound library context envelope traceHeaders uuids clk)
  | .acceptInboundV2 context envelope traceHeaders priority retryAt =>
      answering .accepted (tables.acceptInboundV2 library context envelope
        traceHeaders priority retryAt uuids clk)
  | .acceptMailbox key inboundId priority retryAt traceId =>
      answering .mailbox (tables.acceptMailbox library key inboundId priority
        retryAt traceId uuids clk)
  | .claimMailbox key ownerId leaseFor expectedGeneration expectedEpoch acceptance =>
      answering .claim (tables.claimMailbox key ownerId leaseFor
        expectedGeneration expectedEpoch acceptance clk)
  | .renewMailbox lease leaseFor =>
      answering (fun lease => .mailboxLeases [lease])
        (tables.renewMailbox library lease leaseFor clk)
  | .renewMailboxes tenantId leases leaseFor =>
      answering .mailboxLeases (tables.renewMailboxes library tenantId leases leaseFor clk)
  | .commitMailbox lease => answering .mailbox (tables.commitMailbox lease uuids clk)
  | .rescheduleMailbox lease retryAt priority =>
      answering .mailbox (tables.rescheduleMailbox lease retryAt priority uuids clk)
  | .retryMailbox lease retryAt priority =>
      answering .mailbox (tables.retryMailbox lease retryAt priority uuids clk)
  | .recoverMailbox key => answering .recovered (tables.recoverMailbox key uuids clk)
  | .reconcileMailbox key replayCooldown =>
      answering .recovered (tables.reconcileMailbox key replayCooldown uuids clk)
  | .claimSessionReady key ownerId leaseFor expectedGeneration expectedEventId acceptance =>
      answering .claim (tables.claimSessionReady library key ownerId leaseFor
        expectedGeneration expectedEventId acceptance uuids clk)
  | .renewSessionReady lease leaseFor =>
      answering .renewed (tables.renewSessionReady library lease leaseFor clk)
  | .commitSessionReady commit =>
      answering .committed (tables.commitSessionReady library commit uuids clk)
  | .retrySessionReady lease delay =>
      answering (fun _ => .done) (tables.retrySessionReady library lease delay clk)
  | .failSessionReady lease =>
      answering (fun _ => .done) (tables.failSessionReady library lease uuids clk)
  | .acquire acceptance workerId leaseFor =>
      answering .acquired (tables.acquire library acceptance workerId leaseFor uuids clk)
  | .renew lease leaseFor => answering .renewed (tables.renew lease leaseFor clk)
  | .commit commit => answering .committed (tables.commit library commit uuids clk)
  | .fail lease => answering (fun _ => .done) (tables.fail library lease)
  | .sweepExpiredSessionLeases limit batch =>
      answering .changed (tables.sweepExpiredSessionLeases limit batch uuids clk)
  | .scheduleSessionMailboxRetries limit batch =>
      answering .changed (tables.scheduleSessionMailboxRetries limit batch uuids clk)
  | .reconcileSessionMailboxes limit cooldown batch =>
      answering .changed (tables.reconcileSessionMailboxes limit cooldown batch uuids clk)
  | .rewriteDispatch id columns => answering (fun _ => .done) (tables.rewriteDispatch id columns)

abbrev Reply := Except StorageError Answer

def repository (library : Library) :
    ClockedObject Database Request Reply Time where
  initial := .initial
  apply request clk database := database.transact (request.body library clk)

abbrev DatabaseConfig := Config Database Request Reply Time

/-- Generated identifiers are version 4 UUIDs; a run never draws one twice. -/
def freshRequest (config : DatabaseConfig) (request : Request) : Prop :=
  FreshIds config.state.tables request.uuids

def grantedTo (lease : Option SessionLease) (key : SessionKey) : Option (String × Nat) :=
  (lease.filter fun lease => decide (lease.key = key)).map SessionLease.pair

variable {α : Type} {result : Answer × Tables}

theorem answering_ok {answer : α → Answer} {outcome : Outcome α}
    (answered : answering answer outcome = .ok result) :
    ∃ value, outcome = .ok (value, result.2) ∧ result.1 = answer value := by
  cases outcome with
  | error error => cases answered
  | ok reply =>
    cases answered
    exact ⟨reply.1, rfl, rfl⟩

theorem Effect.granted {key : SessionKey} {before after : Tables} {lease : Option SessionLease}
    (effect : Effect key before after (lease.map SessionLease.pair))
    (named : ∀ granted ∈ lease, granted.key = key) : Effects before after (grantedTo lease) := by
  convert effect.effects using 1
  funext other
  cases lease with
  | none => simp [grantedTo]
  | some lease =>
    have same := named lease rfl
    by_cases here : other = key
    · simp [grantedTo, same, here]
    · simp [grantedTo, same, here, Ne.symm here]

variable {clk : Nat → Time} {library : Library}

namespace Tables

variable {tables : Tables} {key : SessionKey} {ownerId : String} {leaseFor : Time}

variable {acceptance : Option Acceptance} {answer : SessionClaim × Tables}

variable {expectedGeneration : Option Int}

theorem claimMailbox_ungranted {expectedEpoch : Option Int}
    (done : tables.claimMailbox key ownerId leaseFor expectedGeneration
      expectedEpoch acceptance clk = .ok answer) :
    answer.1.executionLease = none := by
  revert done
  fun_cases claimMailbox tables key ownerId leaseFor expectedGeneration
    expectedEpoch acceptance clk with
  | case1 | case3 =>
        intro done
        cases done
  | _ =>
    intro done
    cases done
    rfl

variable {uuids : Nat → String}

theorem leaseHead_named {mailbox : SessionMailbox} {sequence : Nat}
    {item : ItemRow} {inbound : InboundRow} {session : SessionRow}
    {turn : Option ((String × String) × TurnRow)}
    (done : tables.leaseHead key mailbox sequence item inbound session turn
      ownerId leaseFor acceptance uuids clk = .ok answer) :
    ∀ granted ∈ answer.1.executionLease, granted.key = key := by
  revert done
  fun_cases leaseHead tables key mailbox sequence item inbound session turn
    ownerId leaseFor acceptance uuids clk with
  | case1 =>
        intro done
        cases done
  | case2 =>
    intro done
    cases done
    rintro granted ⟨⟩
    rfl

theorem claimHead_named {mailbox : SessionMailbox}
    (done : tables.claimHead key mailbox ownerId leaseFor acceptance uuids clk = .ok answer) :
    ∀ granted ∈ answer.1.executionLease, granted.key = key := by
  revert done
  fun_cases claimHead tables key mailbox ownerId leaseFor acceptance uuids clk with
  | case9 => exact leaseHead_named
  | _ =>
    intro done
    cases done
    intro _ absent
    cases absent

theorem claimSessionReady_named {expectedEventId : Option String}
    (done : claimSessionReady library tables key ownerId leaseFor
      expectedGeneration expectedEventId acceptance uuids clk = .ok answer) :
    ∀ granted ∈ answer.1.executionLease, granted.key = key := by
  revert done
  fun_cases claimSessionReady library tables key ownerId leaseFor
    expectedGeneration expectedEventId acceptance uuids clk with
  | case1 =>
        intro done
        cases done
  | case6 => exact claimHead_named
  | _ =>
    intro done
    cases done
    intro _ absent
    cases absent

theorem acquire_named {acceptance : Acceptance} {workerId : String}
    {answer : Option SessionLease × Tables}
    (done : acquire library tables acceptance workerId leaseFor uuids clk = .ok answer) :
    ∀ granted ∈ answer.1, granted.key = acceptance.context.key := by
  revert done
  fun_cases acquire library tables acceptance workerId leaseFor uuids clk with
  | case1 | case5 | case7 =>
        intro done
        cases done
  | case8 =>
    intro done
    cases done
    rintro granted ⟨⟩
    rfl
  | _ =>
    intro done
    cases done
    intro _ absent
    cases absent

end Tables

variable {request : Request} {tables : Tables}

theorem Request.effects (inv : ∀ key, MailboxInv key tables) (fresh : FreshIds tables request.uuids)
    (valid : Constraints result.2) (done : request.body library clk tables = .ok result) :
    Effects tables result.2 (grantedTo result.1.granted) := by
  obtain ⟨call, uuids⟩ := request
  obtain ⟨answer, after⟩ := result
  cases call <;> dsimp only [Request.body] at done <;>
    obtain ⟨value, done, rfl⟩ := answering_ok done
  case acceptInbound => exact (quiet_acceptInbound done).effects
  case acceptInboundV2 => exact (effect_acceptInboundV2 (inv _) fresh done).ungranted
  case acceptMailbox => exact (effect_acceptMailbox (inv _) fresh done).ungranted
  case claimMailbox =>
      dsimp only [Answer.granted]
      rw [claimMailbox_ungranted done]
      exact (effect_claimMailbox (inv _) done).ungranted
  case renewMailbox => exact (effect_renewMailbox (inv _) done).ungranted
  case renewMailboxes => exact effects_renewMailboxes inv done
  case commitMailbox => exact (effect_commitMailbox (inv _) fresh done).ungranted
  case rescheduleMailbox | retryMailbox =>
      exact (effect_releaseMailbox (inv _) fresh done).ungranted
  case recoverMailbox => exact (effect_recoverMailbox (inv _) fresh done).ungranted
  case reconcileMailbox => exact (effect_reconcileMailbox (inv _) fresh done).ungranted
  case claimSessionReady =>
      exact (effect_claimSessionReady (inv _) fresh valid done).granted
        (claimSessionReady_named done)
  case renewSessionReady => exact (effect_renewSessionReady (inv _) done).ungranted
  case commitSessionReady => exact (effect_commitSessionReady (inv _) fresh done).ungranted
  case retrySessionReady => exact (effect_retrySessionReady (inv _) done).ungranted
  case failSessionReady => exact (effect_failSessionReady (inv _) fresh done).ungranted
  case acquire => exact (effect_acquire done).granted (acquire_named done)
  case renew => exact (effect_renew done).ungranted
  case commit => exact (effect_commit done).ungranted
  case fail => exact (effect_fail done).ungranted
  case sweepExpiredSessionLeases => exact effects_sweepExpiredSessionLeases inv fresh done
  case scheduleSessionMailboxRetries =>
      exact effects_scheduleSessionMailboxRetries inv fresh done
  case reconcileSessionMailboxes => exact effects_reconcileSessionMailboxes inv fresh done
  case rewriteDispatch => exact (quiet_rewriteDispatch _ done).effects

def Reply.granted : Reply → Option SessionLease
  | .ok answer => answer.granted
  | .error _ => none

theorem transact_cases (database : Database) (body : Tables → Outcome α) :
    (∃ error, database.transact body = (.error error, database)) ∨
      ∃ value after, body database.tables = .ok (value, after.tables) ∧
        database.transact body = (.ok value, after) := by
  rw [Database.transact]
  split
  · exact .inl ⟨_, rfl⟩
  · rename_i value tables done
    split
    · rename_i valid
      exact .inr ⟨value, ⟨tables, valid⟩, done, rfl⟩
    · exact .inl ⟨_, rfl⟩

variable {config : DatabaseConfig}

theorem repository_effects (library : Library) (clk : Nat → Time) (finish : Time)
    (inv : ∀ key, MailboxInv key config.state.tables) (fresh : freshRequest config request) :
    Effects config.state.tables ((repository library).after config request clk finish).state.tables
      (grantedTo (Reply.granted ((repository library).apply request clk config.state).1)) := by
  dsimp only [ClockedObject.after, repository]
  obtain ⟨error, rolledBack⟩ | ⟨value, after, done, committed⟩ :=
    transact_cases config.state (request.body library clk)
  · rw [rolledBack]
    exact .refl
  · rw [committed]
    exact Request.effects inv fresh after.valid done

theorem mailboxInv_reachable (reachable : (repository library).Reachable freshRequest config) :
    ∀ key, MailboxInv key config.state.tables := by
  refine reachable.invariant (fun config : DatabaseConfig => ∀ key, MailboxInv key
    config.state.tables) (fun _ _ => .empty) ?_
  intro config request clk finish inv fresh _ _ _
  exact (repository_effects library clk finish inv fresh).invariant inv

def plainLibrary : Library where
  sha256 text := text
  parseUuid text := some text

def dashes (offset index : Nat) : String := String.ofList (List.replicate (offset + index) '-')

theorem length_dashes (offset index : Nat) : (dashes offset index).length = offset + index := by
  simp [dashes]

theorem injective_dashes (offset : Nat) : Function.Injective (dashes offset) := by
  intro left right same
  have lengths := congrArg String.length same
  rw [length_dashes, length_dashes] at lengths
  omega

def firstContext : TenantContext where
  tenantId := "tenant"
  appId := "app"
  configVersion := 1
  channelBindingId := "binding"
  principalId := "principal"
  sessionId := "session"
  requestId := "request"
  traceId := "trace"

def firstKey : SessionKey := ("tenant", "session")

def receivedOnce : DatabaseConfig :=
  (repository plainLibrary).after ((repository plainLibrary).start 0)
    ⟨.acceptInboundV2 firstContext ⟨.feishu, "account", "message", "body"⟩ [] 0
      none, dashes 0⟩ (fun _ => 1) 1

def leasedOnce : DatabaseConfig := (repository plainLibrary).after receivedOnce
    ⟨.claimSessionReady firstKey "worker" 10 none (some (dashes 0 1)) none, dashes 2⟩ (fun _ => 2) 2

theorem receivedOnce_reachable : (repository plainLibrary).Reachable freshRequest receivedOnce := by
  refine (ClockedObject.reachable_start 0).call ?_ (by decide)
  exact ⟨fun _ _ => rfl, injective_dashes 0⟩

theorem freshIds_dashes {offset : Nat}
    (shorter : ∀ id ∈ tables.outboxEvents.entries.map Prod.fst, id.2.length < offset) :
    FreshIds tables (dashes offset) := by
  refine ⟨fun tenantId index => ?_, injective_dashes offset⟩
  refine (Dict.lookup_eq_none_iff _ _).mpr fun found => ?_
  have length := shorter _ found
  rw [length_dashes] at length
  omega

theorem leasedOnce_reachable : (repository plainLibrary).Reachable freshRequest leasedOnce :=
  receivedOnce_reachable.call (freshIds_dashes (by decide +kernel)) (by decide)

def overrunConfig : DatabaseConfig := (repository plainLibrary).after leasedOnce
    ⟨.reconcileSessionMailboxes 100 30 [firstKey], dashes 5⟩
    (fun _ => 20) 20

end TrpcService.Storage.Postgres
