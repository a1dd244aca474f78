import TrpcService.Queue.EmergencyProtocol

namespace TrpcService.Queue.Emergency

open Data Coroutine

/-! How a drainer that keeps running gets through outages. -/

/-- What makes the gateway divert a callback, and the errors of Redis. -/
def EmergencyError.isOutage : EmergencyError → Bool
  | .postgresError => true
  | .redisError => true
  | .other name => name ∈ ["TimeoutError", "OSError", "ConnectionError"]
  | _ => false

namespace EmergencyQueueDrainer

/-- The loop for a number of rounds: has it seen the stop event set?  The pause
after a round that failed ends by itself. -/
def run (drainer : EmergencyQueueDrainer) : Nat → EmergencyProgram Bool
  | 0 => pure false
  | rounds + 1 => do
      if ← EmergencyEffect.isStopping.await then pure true
      else
        tryCatch (do
          let _ ← drainer.drainOnce
          pure ())
          fun error => if error.isDegraded then pure () else throw error
        drainer.run rounds

end EmergencyQueueDrainer

/-- With nothing but expected failures, a run ends only at the stop event. -/
def Survives (result : Except EmergencyError Bool) (watch : Watch) : Prop := watch.expected = true →
    ∃ stopped, result = .ok stopped ∧ (stopped = true → watch.stopped = true)

section Rounds

variable {expected : EmergencyError → Bool} {watch : Watch}
  (survived : ∀ error, expected error = true → error.isSurvived = true)
  (drainer : EmergencyQueueDrainer)

include survived

theorem obeys_round : Obeys (watching expected)
      (fun result after => after.expected = true → result = .ok ()) watch
      (tryCatch (do
        let _ ← drainer.drainOnce
        pure ())
        fun error => if error.isDegraded then pure () else throw error) := by
  have conducts : Conducts expected Nothing ({ launched := true }, watch) drainer.drainOnce :=
    conducts_drainOnce survived drainer
  have drains : Obeys (watching expected) (fun result after =>
      ∀ error, result = .error error → after.expected = true → error.isSurvived = true) watch
      drainer.drainOnce := by
    refine (conducts rfl).project Prod.snd (fun _ _ => And.right) (fun _ _ _ => rfl) ?_
    rintro _ after kept error rfl
    exact kept.2
  refine obeys_tryCatch.mpr (obeys_bind.mpr (drains.mono ?_))
  intro result after mild
  cases result with
  | ok _ => exact fun _ => rfl
  | error error =>
    dsimp only
    split
    case isTrue => exact fun _ => rfl
    case isFalse raised =>
      intro usual
      have survives := mild error rfl usual
      exact absurd (Bool.and_eq_true_iff.mp survives).1 raised

theorem obeys_run (rounds : Nat) :
    Obeys (watching expected) Survives watch (drainer.run rounds) := by
  induction rounds generalizing watch with
  | zero =>
    intro _
    exact ⟨false, rfl, fun stopped => absurd stopped Bool.false_ne_true⟩
  | succ rounds induction =>
    refine obeys_bind.mpr (obeys_perform.mpr ⟨trivial, fun answer => ?_⟩)
    cases answer with
    | error error => exact fun usual => absurd usual Bool.false_ne_true
    | ok stopping =>
      cases stopping with
      | true =>
        intro _
        exact ⟨true, rfl, fun _ => Bool.or_true _⟩
      | false =>
        refine obeys_bind.mpr ((obeys_round survived drainer).mono ?_)
        intro result after caught
        cases result with
        | ok _ => exact induction
        | error error =>
          intro usual
          exact absurd (caught usual) (by simp)

end Rounds

def divertedMessage : EmergencyMessage where
  messageId := "1-0"
  prepared :=
    { context := ⟨"acme", "support", 1, "binding", "principal", "session",
        "request", "trace"⟩
      envelope := ⟨.feishu, "account", "message", "body"⟩ }

section Outage

variable (drainer : EmergencyQueueDrainer)

theorem survived_of_obeys {expected : EmergencyError → Bool} {error : EmergencyError}
    (usual : expected error = true)
    (obeys : Obeys (watching expected) Survives {} (drainer.run 1)) : error.isSurvived = true := by
  have entered := (obeys.2 (.ok false)).2 (.ok ())
  have decoded := (entered.2 (.ok [⟨"1-0", []⟩])).2 (.ok divertedMessage)
  have failed := (decoded.2 (.ok false)).2 (.error error)
  have known : (({} : Watch).raised expected error).expected = true := usual
  have left := Function.update_self "1-0" true fun _ => false
  cases error with
  | postgresError | redisError | invalidTag => rfl
  | valueError _ | typeError _ | lookupError _ =>
    exact absurd ((failed.1 known).symm.trans left) Bool.false_ne_true
  | cancelled | other _ =>
    obtain ⟨stopped, same, _⟩ := failed known
    cases same

/-- A drainer gets through exactly those failures that `run` catches and that
`drain_once` does not take for a rejection: whatever its calls answer, with
nothing but such failures it goes on until it sees the stop event, and it does
not acknowledge or delete an entry whose acceptance failed. -/
theorem run_survives_iff (expected : EmergencyError → Bool) :
    (∀ rounds, Obeys (watching expected) Survives {} (drainer.run rounds)) ↔
      ∀ error, expected error = true → error.isSurvived = true := by
  constructor
  · intro obeys error usual
    exact survived_of_obeys drainer usual (obeys 1)
  · intro survived rounds
    exact obeys_run survived drainer rounds

end Outage

def gatewayDrainer : EmergencyQueueDrainer where
  queue := ⟨"v1", [1], Dict.empty.set "v1" [1]⟩
  consumerId := "drainer"

/-- PostgreSQL refuses a connection, as it does when it is down: the drainer
ends although it was not stopped. -/
theorem run_ends_of_osError : ¬ ∀ rounds, Obeys (watching EmergencyError.isOutage) Survives {}
      (gatewayDrainer.run rounds) := by
  intro obeys
  have usual : EmergencyError.isOutage (.other "OSError") = true := by decide
  have survived := survived_of_obeys gatewayDrainer usual (obeys 1)
  cases survived

end TrpcService.Queue.Emergency
