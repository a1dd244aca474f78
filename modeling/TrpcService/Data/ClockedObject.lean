import Mathlib.Logic.Relation
import Mathlib.Order.Monotone.Basic

namespace TrpcService.Data

universe u v w t

/-! Sequential objects driven by atomic calls against a clock that never runs
backwards.  One call may read the clock several times; its reads are monotone
and lie between the end of the previous call and its own end. -/

structure ClockedObject (State : Type u) (Call : Type v) (Reply : Type w) (Time : Type t) where
  initial : State
  apply : Call → (Nat → Time) → State → Reply × State

structure Event (Call : Type v) (Reply : Type w) where
  call : Call
  reply : Reply

structure Config (State : Type u) (Call : Type v) (Reply : Type w) (Time : Type t) where
  state : State
  clock : Time
  history : List (Event Call Reply)

namespace ClockedObject

variable {State : Type u} {Call : Type v} {Reply : Type w} {Time : Type t}
variable [Preorder Time] (object : ClockedObject State Call Reply Time)

def after (config : Config State Call Reply Time) (call : Call)
    (reads : Nat → Time) (finish : Time) : Config State Call Reply Time where
  state := (object.apply call reads config.state).2
  clock := finish
  history := config.history ++ [⟨call, (object.apply call reads config.state).1⟩]

inductive Step (object : ClockedObject State Call Reply Time)
    (allowed : Config State Call Reply Time → Call → Prop) :
    Config State Call Reply Time → Config State Call Reply Time → Prop
  | call (config : Config State Call Reply Time) (call : Call) (reads : Nat → Time) (finish : Time)
      (permitted : allowed config call)
      (monotone : Monotone reads)
      (started : config.clock ≤ reads 0)
      (bounded : ∀ index, reads index ≤ finish) :
      Step object allowed config (object.after config call reads finish)

def start (clock : Time) : Config State Call Reply Time := ⟨object.initial, clock, []⟩

variable (allowed : Config State Call Reply Time → Call → Prop)

def Steps : Config State Call Reply Time → Config State Call Reply Time → Prop :=
  Relation.ReflTransGen (Step object allowed)

def Reachable (config : Config State Call Reply Time) : Prop :=
  ∃ clock, Steps object allowed (object.start clock) config

variable {object : ClockedObject State Call Reply Time}
variable {allowed : Config State Call Reply Time → Call → Prop}

variable {weaker : Config State Call Reply Time → Call → Prop}
  {first last : Config State Call Reply Time}

theorem Step.mono (step : Step object allowed first last)
    (weaken : ∀ config call, allowed config call → weaker config call) :
    Step object weaker first last := by
  cases step with
  | call call reads finish permitted monotone started bounded =>
    exact .call first call reads finish (weaken first call permitted)
      monotone started bounded

theorem Steps.mono (weaken : ∀ config call, allowed config call → weaker config call)
    (steps : Steps object allowed first last) : Steps object weaker first last := by
  refine Relation.ReflTransGen.mono ?_ first last steps
  intro source target step
  exact step.mono weaken

variable {config : Config State Call Reply Time}

theorem Reachable.mono (weaken : ∀ config call, allowed config call → weaker config call)
    (reachable : Reachable object allowed config) : Reachable object weaker config := by
  obtain ⟨clock, steps⟩ := reachable
  exact ⟨clock, steps.mono weaken⟩

theorem Reachable.steps (reachable : Reachable object allowed first)
    (steps : Steps object allowed first last) : Reachable object allowed last := by
  obtain ⟨clock, before⟩ := reachable
  exact ⟨clock, before.trans steps⟩

theorem reachable_start (clock : Time) : Reachable object allowed (object.start clock) :=
  ⟨clock, .refl⟩

theorem Reachable.call (reachable : Reachable object allowed config) {call : Call} {now : Time}
    (permitted : allowed config call) (later : config.clock ≤ now) :
    Reachable object allowed (object.after config call (fun _ => now) now) :=
  reachable.steps (.single (.call config call _ now permitted
    (fun _ _ _ => le_refl now) later fun _ => le_refl now))

def play (object : ClockedObject State Call Reply Time) :
    List (Call × Time) → Config State Call Reply Time → Config State Call Reply Time
  | [], config => config
  | (call, now) :: rest, config => play object rest (object.after config call (fun _ => now) now)

def Permits (object : ClockedObject State Call Reply Time)
    (allowed : Config State Call Reply Time → Call → Prop) :
    List (Call × Time) → Config State Call Reply Time → Prop
  | [], _ => True
  | (call, now) :: rest, config =>
      (config.clock ≤ now ∧ allowed config call) ∧
        Permits object allowed rest (object.after config call (fun _ => now) now)

instance decidablePermits (object : ClockedObject State Call Reply Time)
    (allowed : Config State Call Reply Time → Call → Prop)
    [DecidableLE Time] [∀ config call, Decidable (allowed config call)] :
    ∀ (calls : List (Call × Time)) (config : Config State Call Reply Time),
      Decidable (object.Permits allowed calls config)
  | [], _ => .isTrue trivial
  | (call, now) :: rest, config =>
      have := decidablePermits object allowed rest (object.after config call (fun _ => now) now)
      inferInstanceAs (Decidable ((config.clock ≤ now ∧ allowed config call) ∧
        object.Permits allowed rest _))

theorem Reachable.play (reachable : Reachable object allowed config) (calls : List (Call × Time))
    (permitted : object.Permits allowed calls config) :
    Reachable object allowed (object.play calls config) := by
  induction calls generalizing config with
  | nil => exact reachable
  | cons first rest induction =>
    obtain ⟨call, now⟩ := first
    obtain ⟨⟨later, allows⟩, others⟩ := permitted
    exact induction (reachable.call allows later) others

theorem Steps.preserves (invariant : Config State Call Reply Time → Prop)
    (preserved : ∀ config call reads finish,
      invariant config → allowed config call → Monotone reads →
      config.clock ≤ reads 0 → (∀ index, reads index ≤ finish) →
      invariant (object.after config call reads finish))
    (steps : Steps object allowed first last) (initially : invariant first) :
    invariant last := by
  induction steps with
  | refl => exact initially
  | tail _ step holds =>
    cases step with
    | call call reads finish permitted monotone started bounded =>
      exact preserved _ call reads finish holds permitted monotone started bounded

theorem Reachable.invariant (invariant : Config State Call Reply Time → Prop)
    (initially : ∀ clock, invariant (object.start clock))
    (preserved : ∀ config call reads finish,
      invariant config → allowed config call → Monotone reads →
      config.clock ≤ reads 0 → (∀ index, reads index ≤ finish) →
      invariant (object.after config call reads finish))
    (reachable : Reachable object allowed config) :
    invariant config := by
  obtain ⟨clock, steps⟩ := reachable
  exact steps.preserves invariant preserved (initially clock)

end ClockedObject

end TrpcService.Data
