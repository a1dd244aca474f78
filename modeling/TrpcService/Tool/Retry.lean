import TrpcService.Tool.Ledgers

namespace TrpcService.Tool

open Data Storage Storage.Postgres
open PostgresExecutionLedger

/-! An idempotent call that is tried again and again in one turn, under one
owner and fencing token. -/

structure Attempt where
  readings : ToolEffect → Reading
  outcome : Except ToolFailure (Option Json)
  faultStages : Bool := false
  faultStageDelay : Bool := false
  released : Bool := false

open Attempt

def Attempt.Live (attempt : Attempt) (owner : String) (token : Int) : Prop := ∀ effect,
    assertActiveTurn (attempt.readings effect).session owner token = .ok () ∧
      assertActiveTurn (attempt.readings effect).later owner token = .ok ()

section Attempts

variable (library : Library) (keys : KeyScheme) (call : ToolCall)

def Attempt.respond (attempt : Attempt) (effect : ToolEffect) :
    ToolWorld Executions → Except ToolFailure effect.Answer × ToolWorld Executions :=
  ToolWorld.respond (postgresLedger library) ⟨0, call⟩ effect
    { ledger := attempt.readings effect, outcome := attempt.outcome,
      released := attempt.released }

/-- The calls of one turn come one after the other. -/
def Attempt.run (attempt : Attempt) :
    ToolWorld Executions → Except ToolFailure (Option Json) × ToolWorld Executions :=
  execute (attempt.respond library call) (ToolExecutor.execute
    { keys, faultStages := attempt.faultStages,
      faultStageDelay := attempt.faultStageDelay } call)

def Attempt.runAll (attempts : List Attempt) (world : ToolWorld Executions) :
    ToolWorld Executions :=
  attempts.foldl (fun world attempt => (attempt.run library keys call world).2) world

end Attempts

section Steps

variable {library : Library} {keys : KeyScheme} {call : ToolCall} {attempt : Attempt}
  {world : ToolWorld Executions} {owner : String} {token : Int}

theorem execute_await (effect : ToolEffect) :
    execute (attempt.respond library call) effect.await world =
      attempt.respond library call effect world := rfl

theorem execute_reachStage (executor : ToolExecutor) (key : String) :
    execute (attempt.respond library call) (executor.reachStage key call)
      world = (.ok (), world) := by
  unfold ToolExecutor.reachStage ToolExecutor.delayStage
  split
  · split
    · rfl
    · rfl
  · rfl

theorem respond_finish_eq (key : String) (status : ExecutionStatus) (result : Option Json) :
    attempt.respond library call (.finish key call status result) world =
      match finish world.ledger key call status
          (attempt.readings (.finish key call status result)) with
      | .ok (_, after) => (.ok (), { world with ledger := after })
      | .error error => (.error error, world) := by
  unfold respond ToolWorld.respond postgresLedger
  dsimp only
  cases finish world.ledger key call status (attempt.readings (.finish key call status result)) with
  | ok after => rfl
  | error error => rfl

theorem respond_begin_eq (key : String) : attempt.respond library call (.begin key call) world =
      match begin library world.ledger key call (attempt.readings (.begin key call)) with
      | .ok (record, after) => (.ok record, { world with ledger := after })
      | .error error => (.error error, world) := by
  unfold respond ToolWorld.respond postgresLedger
  dsimp only
  cases begin library world.ledger key call (attempt.readings (.begin key call)) with
  | ok after => rfl
  | error error => rfl

def Holds (executions : Executions) (key : String) (call : ToolCall)
    (owner : String) (token : Int) (status : ExecutionStatus) : Prop :=
  ∃ row, executions.get? (call.scope.tenantId, key) = some row ∧
    row.status = status ∧ row.leaseOwner = owner ∧ row.leaseEpoch = token

variable {executions : Executions} {reading : Reading}

theorem finish_holds {key : String} {stored : ExecutionStatus} (status : ExecutionStatus)
    (fenced : requireFencing call.ownerId call.fencingToken = .ok (owner, token))
    (terminal : status ≠ .started)
    (live : assertActiveTurn reading.session owner token = .ok () ∧
      assertActiveTurn reading.later owner token = .ok ())
    (holds : Holds executions key call owner token stored) :
    (stored = .started → ∃ after, finish executions key call status reading = .ok ((), after) ∧
        Holds after key call owner token status) ∧
    (stored ≠ .started → finish executions key call status reading =
      .error (.runtimeError notOwnedMessage)) := by
  obtain ⟨row, found, rfl, rfl, rfl⟩ := holds
  have unfenced : ¬ (row.leaseOwner ≠ row.leaseOwner ∨ row.leaseEpoch ≠ row.leaseEpoch) := by
    rintro (different | different)
    · exact different rfl
    · exact different rfl
  simp only [finish, if_neg terminal, fenced, found]
  constructor
  · intro started
    refine ⟨executions.set (call.scope.tenantId, key) { row with status }, ?_,
      { row with status }, Dict.get?_set_self .., rfl, rfl, rfl⟩
    rw [if_neg (not_not_intro started), if_neg unfenced, live.1, live.2]
  · exact fun other => if_pos other

section Fenced

variable (fenced : requireFencing call.ownerId call.fencingToken = .ok (owner, token))

include fenced

theorem begin_absent {key turnId : String}
    (parsed : library.parseUuid call.scope.turnId = some turnId)
    (live : assertActiveTurn reading.session owner token = .ok ())
    (absent : executions.get? (call.scope.tenantId, key) = none) :
    ∃ record after, begin library executions key call reading =
        .ok (record, after) ∧ record.status = .started ∧
      Holds after key call owner token .started := by
  refine ⟨{ executionKey := key, status := .started, fresh := true }, executions.set
    (call.scope.tenantId, key) ⟨turnId, call.scope.toolName, call.risk, call.scope.argumentsHash,
    .started, owner, token⟩, ?_, rfl, _, Dict.get?_set_self .., rfl, rfl, rfl⟩
  simp only [begin, fenced, parsed, absent, live]
  cases reading.missed with
  | false => rfl
  | true => rfl

theorem begin_failed {key turnId : String}
    (parsed : library.parseUuid call.scope.turnId = some turnId)
    (live : assertActiveTurn reading.session owner token = .ok () ∧
      assertActiveTurn reading.later owner token = .ok ())
    (holds : Holds executions key call owner token .failed) :
    begin library executions key call reading =
      .ok ({ executionKey := key, status := .failed }, executions) := by
  obtain ⟨row, found, failed, rfl, rfl⟩ := holds
  have resolved (session : SessionReading) (conflict : String)
      (active : assertActiveTurn session row.leaseOwner row.leaseEpoch = .ok ()) :
      resolveExisting executions key call row.leaseOwner row.leaseEpoch session row conflict =
          .ok ({ executionKey := key, status := .failed }, executions) := by
    have unsucceeded : ¬ row.status = .succeeded := by
      rw [failed]
      exact nofun
    rw [resolveExisting, if_neg unsucceeded, active]
    dsimp only
    rw [if_pos ⟨rfl, rfl⟩, failed]
  cases missed : reading.missed with
  | false =>
    simp only [begin, fenced, parsed, found, missed]
    exact resolved _ _ live.1
  | true =>
    simp only [begin, fenced, parsed, found, missed, live.1]
    exact resolved _ _ live.2

end Fenced

theorem run_of_begin {record : ExecutionRecord} {after : Executions}
    (idempotent : call.risk = .idempotent)
    (begun : begin library world.ledger (keys.keyFor call.scope) call
      (attempt.readings (.begin (keys.keyFor call.scope) call)) = .ok (record, after))
    (unsucceeded : record.status ≠ .succeeded) :
    attempt.run library keys call world =
      let key := keys.keyFor call.scope
      let called : ToolWorld Executions := ⟨after, ⟨⟨0, call⟩, key, attempt.outcome⟩ :: world.log⟩
      match attempt.outcome with
      | .ok value =>
        match attempt.respond library call
            (.finish key call .succeeded value) called with
        | (.ok _, last) => (.ok value, last)
        | (.error error, last) => (.error error, last)
      | .error raised =>
        match attempt.respond library call (.finish key call .failed none)
            called with
        | (.ok _, last) => (.error raised, last)
        | (.error error, last) => (.error error, last) := by
  have first : execute (attempt.respond library call)
      (ToolEffect.begin (keys.keyFor call.scope) call).await world =
        (.ok record, { world with ledger := after }) :=
    respond_begin_eq _ |>.trans (by rw [begun])
  have status : ToolExecutor.failureStatus call.risk = .failed := if_pos idempotent
  unfold run ToolExecutor.execute
  rw [execute_bind_ok first, if_neg fun stored => unsucceeded stored.1, if_neg fun stored =>
    unsucceeded stored.1, if_neg fun unknown => unknown.2.2 idempotent, execute_bind_ok
    (execute_reachStage _ _)]
  have fresh : (decide (record.status = .succeeded) && record.replayTerminal) = false := by
    rw [decide_eq_false unsucceeded, Bool.false_and]
  have invoked : execute (attempt.respond library call) (ToolEffect.invoke (keys.keyFor call.scope)
      call).await { world with ledger := after } =
    (attempt.outcome, ⟨after, ⟨⟨0, call⟩, keys.keyFor call.scope, attempt.outcome⟩ :: world.log⟩) :=
    rfl
  rw [fresh, ToolExecutor.callTool, execute_bind, execute_tryCatch, invoked, status]
  cases attempt.outcome with
  | ok value =>
    dsimp only
    rw [if_neg Bool.false_ne_true, execute_bind]
    rw [execute_await]
    rcases attempt.respond library call (.finish (keys.keyFor call.scope)
      call .succeeded value) _ with ⟨_ | _, last⟩
    · rfl
    · rfl
  | error raised =>
    dsimp only
    rw [if_neg Bool.false_ne_true, execute_bind, execute_await]
    rcases attempt.respond library call (.finish (keys.keyFor call.scope)
      call .failed none) _ with ⟨_ | _, last⟩
    · rfl
    · rfl

section Live

variable (idempotent : call.risk = .idempotent)
  (fenced : requireFencing call.ownerId call.fencingToken = .ok (owner, token))
  (parsed : (library.parseUuid call.scope.turnId).isSome)

include idempotent fenced parsed

theorem run_absent (live : attempt.Live owner token)
    (absent : world.ledger.get? (call.scope.tenantId, keys.keyFor call.scope) = none) :
    (attempt.run library keys call world).1 = attempt.outcome ∧
      Holds (attempt.run library keys call world).2.ledger (keys.keyFor call.scope) call owner token
        (match attempt.outcome with
          | .ok _ => .succeeded
          | .error _ => .failed) := by
  obtain ⟨turnId, parsed⟩ := Option.isSome_iff_exists.mp parsed
  obtain ⟨record, after, begun, started, holds⟩ := begin_absent fenced parsed (live _).1 absent
  have unsucceeded : record.status ≠ .succeeded := by
    rw [started]
    exact nofun
  rw [run_of_begin idempotent begun unsucceeded]
  cases attempt.outcome with
  | ok value =>
    dsimp only
    obtain ⟨last, finished, succeeded⟩ := (finish_holds .succeeded fenced nofun
      (live (.finish _ call .succeeded value)) holds).1 rfl
    rw [respond_finish_eq, finished]
    exact ⟨rfl, succeeded⟩
  | error raised =>
    dsimp only
    obtain ⟨last, finished, failed⟩ := (finish_holds .failed fenced nofun
      (live (.finish _ call .failed none)) holds).1 rfl
    rw [respond_finish_eq, finished]
    exact ⟨rfl, failed⟩

theorem run_failed (live : attempt.Live owner token)
    (holds : Holds world.ledger (keys.keyFor call.scope) call owner token .failed) :
    (attempt.run library keys call world).1 = .error (.runtimeError notOwnedMessage) ∧
      (attempt.run library keys call world).2.ledger = world.ledger := by
  obtain ⟨turnId, parsed⟩ := Option.isSome_iff_exists.mp parsed
  have begun := begin_failed fenced parsed (live (.begin (keys.keyFor call.scope) call)) holds
  rw [run_of_begin idempotent begun nofun]
  cases attempt.outcome with
  | ok value =>
    dsimp only
    rw [respond_finish_eq, (finish_holds .succeeded fenced nofun
      (live (.finish _ call .succeeded value)) holds).2 nofun]
    exact ⟨rfl, rfl⟩
  | error raised =>
    dsimp only
    rw [respond_finish_eq, (finish_holds .failed fenced nofun
      (live (.finish _ call .failed none)) holds).2 nofun]
    exact ⟨rfl, rfl⟩

theorem runAll_failed {failures : List Attempt}
    (live : ∀ failure ∈ failures, failure.Live owner token)
    (holds : Holds world.ledger (keys.keyFor call.scope) call owner token .failed) :
    Holds (runAll library keys call failures world).ledger
      (keys.keyFor call.scope) call owner token .failed := by
  induction failures generalizing world with
  | nil => exact holds
  | cons failure failures induction =>
    refine induction (fun other among => live other (.tail failure among)) ?_
    have ran := run_failed idempotent fenced parsed (live failure (.head failures)) holds
    rw [ran.2]
    exact holds

end Live

end Steps

/-- A call of a live turn that is made for the first time returns what the tool
returns and is recorded as a success; once a call has failed, none of the turn
is. -/
theorem idempotent_retry_succeeds_iff (library : Library) (keys : KeyScheme)
    (call : ToolCall) (owner : String) (token : Int)
    (idempotent : call.risk = .idempotent)
    (fenced : requireFencing call.ownerId call.fencingToken = .ok (owner, token))
    (parsed : (library.parseUuid call.scope.turnId).isSome)
    (world : ToolWorld Executions)
    (absent : world.ledger.get? (call.scope.tenantId, keys.keyFor call.scope) = none)
    (failures : List Attempt)
    (failing : ∀ failure ∈ failures, failure.Live owner token ∧
      ∃ raised, failure.outcome = .error raised)
    (last : Attempt) (live : last.Live owner token) (value : Option Json)
    (succeeds : last.outcome = .ok value) :
    let ran := last.run library keys call (runAll library keys call failures world)
    (ran.1 = .ok value ∧ (ran.2.ledger.get?
      (call.scope.tenantId, keys.keyFor call.scope)).map (·.status) =
        some .succeeded) ↔ failures = [] := by
  intro ran
  cases failures with
  | nil =>
      obtain ⟨returned, row, found, status, _⟩ := run_absent idempotent fenced parsed live absent
      rw [succeeds] at returned status
      refine ⟨fun _ => rfl, fun _ => ⟨returned, ?_⟩⟩
      exact (congrArg (Option.map (·.status)) found).trans (congrArg some status)
  | cons failure failures =>
      obtain ⟨first, raised, fails⟩ := failing failure (.head failures)
      have recorded := (run_absent idempotent fenced parsed first absent).2
      rw [fails] at recorded
      have holds := runAll_failed idempotent fenced parsed
        (fun other among => (failing other (.tail failure among)).1) recorded
      refine ⟨fun returned => ?_, nofun⟩
      exact nomatch (run_failed idempotent fenced parsed live holds).1.symm.trans returned.1

def transferReading : SessionReading where
  turnRef := some "session"
  locked := true
  turn := some ⟨"session", true, 1⟩
  current := some ⟨some "worker", 1, true⟩

def transferAttempt (outcome : Except ToolFailure (Option Json)) : Attempt where
  readings _ := { session := transferReading, later := transferReading }
  outcome := outcome

def transferCall : ToolCall := ⟨transfer, .idempotent, some "worker", some 1⟩

theorem transferAttempt_live (outcome : Except ToolFailure (Option Json)) :
    (transferAttempt outcome).Live "worker" 1 :=
  fun _ => ⟨rfl, rfl⟩

def transferFailed : List Attempt := [transferAttempt (.error (.other "connection reset"))]

/-- The tool fails once, then it succeeds; its success is not recorded, and
nobody is told of it. -/
theorem recovered_tool_refused :
    let ran := (transferAttempt (.ok (some "done"))).run ⟨id, some⟩ plainKeys
      transferCall (runAll ⟨id, some⟩ plainKeys transferCall transferFailed ⟨.empty, []⟩)
    (match ran.1 with
      | .error error => some error
      | .ok _ => none) = some (.runtimeError notOwnedMessage) ∧
      (ran.2.ledger.get? ("tenant", plainKeys.keyFor transfer)).map (·.status) = some .failed := by
  decide +kernel

theorem first_transfer_recorded :
    let ran := (transferAttempt (.ok (some "done"))).run ⟨id, some⟩ plainKeys
      transferCall ⟨.empty, []⟩
    ran.1 = .ok (some "done") ∧ (ran.2.ledger.get? ("tenant", plainKeys.keyFor transfer)).map
        (·.status) = some .succeeded :=
  (idempotent_retry_succeeds_iff ⟨id, some⟩ plainKeys transferCall "worker" 1
    rfl (by decide) rfl ⟨.empty, []⟩ rfl [] nofun
    (transferAttempt (.ok (some "done"))) (transferAttempt_live _)
    (some "done") rfl).mpr rfl

end TrpcService.Tool
