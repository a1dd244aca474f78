import TrpcService.Data.Coroutine
import TrpcService.Storage.Postgres.Schema

namespace TrpcService.Tool

open Data Storage Storage.Postgres

/-! The execution of tools: a ledger decides who may call a tool, and remembers
how the call ended. -/

inductive ToolRisk where
  | idempotent
  | nonIdempotent
  | unknown
  deriving DecidableEq, Repr

inductive ExecutionStatus where
  | started
  | succeeded
  | failed
  | ambiguous
  deriving DecidableEq, Repr

structure ExecutionRecord where
  executionKey : String
  status : ExecutionStatus
  result : Option Json := none
  fresh : Bool := false
  /-- A success whose result was not stored may be computed again; the ledger
  is not written then. -/
  replayTerminal : Bool := false
  deriving DecidableEq, Repr

inductive ToolFailure where
  | cancelled
  | humanReviewRequired (message : String)
  | toolExecutionConflict (message : String)
  | runtimeError (message : String)
  | valueError (message : String)
  | other (name : String)
  deriving DecidableEq, Repr

/-- What an execution key is made of. -/
structure CallScope where
  tenantId : String
  sessionId : String
  turnId : String
  toolName : String
  argumentsHash : String
  deriving DecidableEq, Repr

structure ToolCall where
  scope : CallScope
  risk : ToolRisk
  ownerId : Option String
  fencingToken : Option Int
  deriving DecidableEq, Repr

/-- `key_for`: an HMAC over the scope, assumed to be free of collisions. -/
structure KeyScheme where
  keyFor : CallScope → String
  collisionFree : ∀ first second, keyFor first = keyFor second → first = second

def unavailableResultMessage : String := "tool succeeded previously; result is unavailable"
def unknownOutcomeMessage : String := "non-idempotent tool outcome is unknown"

inductive ToolEffect where
  | begin (key : String) (call : ToolCall)
  | sleep
  | checkpoint (key : String) (call : ToolCall)
  | invoke (key : String) (call : ToolCall)
  | finish (key : String) (call : ToolCall) (status : ExecutionStatus) (result : Option Json)
  deriving DecidableEq

open ToolEffect

@[reducible] def ToolEffect.Answer : ToolEffect → Type
  | .begin _ _ => ExecutionRecord
  | .sleep => Unit
  | .checkpoint _ _ => Bool
  | .invoke _ _ => Option Json
  | .finish _ _ _ _ => Unit

abbrev Execution (α : Type) := Coroutine ToolEffect Answer ToolFailure α

def ToolEffect.await (effect : ToolEffect) : Execution effect.Answer := Coroutine.perform effect

structure ToolExecutor where
  keys : KeyScheme
  faultStages : Bool := false
  faultStageDelay : Bool := false

namespace ToolExecutor

variable (executor : ToolExecutor)

def delayStage : Execution Unit := if executor.faultStageDelay then sleep.await else pure ()

/-- The checkpoint between the ledger and the tool. -/
def reachStage (key : String) (call : ToolCall) : Execution Unit :=
  if executor.faultStages then do
    executor.delayStage
    let _ ← (checkpoint key call).await
    pure ()
  else pure ()

def failureStatus (risk : ToolRisk) : ExecutionStatus :=
  if risk = .idempotent then .failed else .ambiguous

/-- Call the tool and store how it ended; `except BaseException` takes a
cancellation, too. -/
def callTool (key : String) (call : ToolCall) (replayTerminal : Bool) :
    Execution (Option Json) := do
  let result ← tryCatch (invoke key call).await fun error =>
    if replayTerminal then throw error
    else do
      (finish key call (failureStatus call.risk) none).await
      if failureStatus call.risk = .ambiguous then
        throw (.humanReviewRequired unknownOutcomeMessage)
      else throw error
  if replayTerminal then pure result
  else do
    (finish key call .succeeded result).await
    pure result

def execute (call : ToolCall) : Execution (Option Json) := do
  let key := executor.keys.keyFor call.scope
  let record ← (begin key call).await
  if record.status = .succeeded ∧ record.result.isSome then
    pure record.result
  else if record.status = .succeeded ∧ call.risk ≠ .idempotent then
    throw (.humanReviewRequired unavailableResultMessage)
  else if record.fresh = false ∧
      (record.status = .started ∨ record.status = .ambiguous) ∧
      call.risk ≠ .idempotent then
    throw (.humanReviewRequired unknownOutcomeMessage)
  else do
    executor.reachStage key call
    callTool key call
      (record.status = .succeeded && record.replayTerminal)

end ToolExecutor

structure Ledger (State Choice : Type) where
  begin : Choice → String → ToolCall → State → Except ToolFailure (ExecutionRecord × State)
  finish : Choice → String → ToolCall → ExecutionStatus → Option Json →
    State → Except ToolFailure (Unit × State)

structure ToolTask where
  number : Nat
  call : ToolCall
  deriving DecidableEq, Repr

structure Invocation where
  task : ToolTask
  key : String
  outcome : Except ToolFailure (Option Json)

structure ToolWorld (State : Type) where
  ledger : State
  log : List Invocation

structure ToolChoice (Choice : Type) where
  ledger : Choice
  fate : Fate ToolFailure := .answered
  outcome : Except ToolFailure (Option Json) := .ok none
  released : Bool := false

structure ToolLaunch where
  task : ToolTask
  faultStages : Bool := false
  faultStageDelay : Bool := false

section Executing

variable {State Choice : Type}

namespace ToolWorld

def respond (ledger : Ledger State Choice) (task : ToolTask) (effect : ToolEffect)
    (choice : ToolChoice Choice) (world : ToolWorld State) :
    Except ToolFailure effect.Answer × ToolWorld State :=
  match effect with
  | .begin key call =>
      choice.fate.transact ((ledger.begin choice.ledger key call
        world.ledger).map fun (record, state) => (record, { world with ledger := state })) world
  | .sleep => (choice.fate.answer (), world)
  | .checkpoint _ _ => (choice.fate.answer choice.released, world)
  -- A worker that crashes during the call is one that is not resumed after it.
  | .invoke key _ =>
      (choice.outcome, { world with log := ⟨task, key, choice.outcome⟩ :: world.log })
  | .finish key call status result =>
      choice.fate.transact ((ledger.finish choice.ledger key call status result
        world.ledger).map fun (_, state) => ((), { world with ledger := state })) world

end ToolWorld

/-- Workers share the signing key and the ledger. -/
def executing (keys : KeyScheme) (ledger : Ledger State Choice) :
    Behaviour (ToolWorld State) ToolTask ToolEffect Answer
      ToolFailure (Option Json) ToolLaunch (ToolChoice Choice) Empty where
  launch launch := (launch.task, ToolExecutor.execute
      { keys, faultStages := launch.faultStages,
        faultStageDelay := launch.faultStageDelay } launch.task.call)
  respond := ToolWorld.respond ledger
  move := nofun

abbrev ToolFleet (State : Type) :=
  Fleet (ToolWorld State) ToolTask ToolEffect Answer ToolFailure (Option Json)

def unexecuted (ledger : State) : ToolFleet State where
  state := ⟨ledger, []⟩
  tasks _ := .done (.error (.other "not called"))

end Executing

end TrpcService.Tool
