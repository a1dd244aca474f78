import Mathlib.Logic.Relation
import Mathlib.Logic.Function.Basic

namespace TrpcService.Data

/-! Coroutines.  Between two awaits a coroutine computes; at an await it asks
for an effect and is resumed with an answer or with an exception. -/

inductive Coroutine (Effect : Type) (Answer : Effect → Type) (Error : Type) (α : Type) where
  | done (result : Except Error α)
  | await (effect : Effect) (resume : Except Error (Answer effect) →
        Coroutine Effect Answer Error α)

open Coroutine

namespace Coroutine

variable {Effect : Type} {Answer : Effect → Type} {Error α β : Type}

def perform (effect : Effect) : Coroutine Effect Answer Error (Answer effect) := .await effect .done

def bind (program : Coroutine Effect Answer Error α) (next : α → Coroutine Effect Answer Error β) :
    Coroutine Effect Answer Error β :=
  match program with
  | .done (.ok value) => next value
  | .done (.error error) => .done (.error error)
  | .await effect resume => .await effect fun answer => (resume answer).bind next

def catching (program : Coroutine Effect Answer Error α)
    (handler : Error → Coroutine Effect Answer Error α) : Coroutine Effect Answer Error α :=
  match program with
  | .done (.ok value) => .done (.ok value)
  | .done (.error error) => handler error
  | .await effect resume => .await effect fun answer => (resume answer).catching handler

def awaited : Coroutine Effect Answer Error α → Option Effect
  | .done _ => none
  | .await effect _ => some effect

instance : Monad (Coroutine Effect Answer Error) where
  pure value := .done (.ok value)
  bind := bind

instance : MonadExceptOf Error (Coroutine Effect Answer Error) where
  throw error := .done (.error error)
  tryCatch := catching

theorem bind_assoc {γ : Type} (program : Coroutine Effect Answer Error α)
    (next : α → Coroutine Effect Answer Error β) (last : β → Coroutine Effect Answer Error γ) :
    program >>= next >>= last = program >>= fun value => next value >>= last := by
  induction program with
  | done result => cases result <;> rfl
  | await effect resume induction =>
    exact congrArg (await effect) (funext fun answer => induction answer)

/-- What may be awaited, in terms of a ghost state that follows the answers. -/
structure Protocol (Effect : Type) (Answer : Effect → Type) (Error : Type) (Ghost : Type) where
  permits : Ghost → Effect → Prop
  next : Ghost → (effect : Effect) → Except Error (Answer effect) → Ghost

variable {Ghost : Type}

/-- Whatever the answers are, a coroutine awaits only what is permitted and
ends as promised. -/
def Obeys (protocol : Protocol Effect Answer Error Ghost)
    (promise : Except Error α → Ghost → Prop) :
    Ghost → Coroutine Effect Answer Error α → Prop
  | ghost, .done result => promise result ghost
  | ghost, .await effect resume => protocol.permits ghost effect ∧
      ∀ answer, Obeys protocol promise (protocol.next ghost effect answer) (resume answer)

section Rules

variable {protocol : Protocol Effect Answer Error Ghost} {promise : Except Error α → Ghost → Prop}
  {ghost : Ghost} {program : Coroutine Effect Answer Error α}
  {handler : Error → Coroutine Effect Answer Error α} {next : α → Coroutine Effect Answer Error β}

theorem obeys_perform {effect : Effect} {promise : Except Error (Answer effect) → Ghost → Prop} :
    Obeys protocol promise ghost (perform effect) ↔ protocol.permits ghost effect ∧
        ∀ answer, promise answer (protocol.next ghost effect answer) := .rfl

theorem Obeys.mono {weaker : Except Error α → Ghost → Prop}
    (obeys : Obeys protocol promise ghost program)
    (weaken : ∀ result ghost, promise result ghost → weaker result ghost) :
    Obeys protocol weaker ghost program := by
  induction program generalizing ghost with
  | done result => exact weaken result ghost obeys
  | await effect resume induction =>
    exact ⟨obeys.1, fun answer => induction answer (obeys.2 answer)⟩

theorem obeys_bind {promise : Except Error β → Ghost → Prop} :
    Obeys protocol promise ghost (program >>= next) ↔ Obeys protocol (fun result ghost =>
        match result with
        | .ok value => Obeys protocol promise ghost (next value)
        | .error error => promise (.error error) ghost) ghost program := by
  induction program generalizing ghost with
  | done result => cases result <;> exact .rfl
  | await effect resume induction =>
    exact and_congr_right fun _ => forall_congr' fun answer => induction answer

theorem obeys_tryCatch :
    Obeys protocol promise ghost (tryCatch program handler) ↔ Obeys protocol (fun result ghost =>
        match result with
        | .ok value => promise (.ok value) ghost
        | .error error => Obeys protocol promise ghost (handler error))
        ghost program := by
  induction program generalizing ghost with
  | done result => cases result <;> exact .rfl
  | await effect resume induction =>
    exact and_congr_right fun _ => forall_congr' fun answer => induction answer

/-- Two protocols at once, each with its own ghost state. -/
def Protocol.both {Other : Type} (first : Protocol Effect Answer Error Ghost)
    (second : Protocol Effect Answer Error Other) :
    Protocol Effect Answer Error (Ghost × Other) where
  permits ghost effect := first.permits ghost.1 effect ∧ second.permits ghost.2 effect
  next ghost effect answer :=
    (first.next ghost.1 effect answer, second.next ghost.2 effect answer)

/-- What obeys one protocol obeys another that sees less of the ghost state. -/
theorem Obeys.project {Other : Type} {coarse : Protocol Effect Answer Error Other}
    {weaker : Except Error α → Other → Prop} (view : Ghost → Other)
    (permits : ∀ ghost effect, protocol.permits ghost effect → coarse.permits (view ghost) effect)
    (follows : ∀ ghost effect answer,
      view (protocol.next ghost effect answer) = coarse.next (view ghost) effect answer)
    (weaken : ∀ result ghost, promise result ghost → weaker result (view ghost))
    (obeys : Obeys protocol promise ghost program) :
    Obeys coarse weaker (view ghost) program := by
  induction program generalizing ghost with
  | done result => exact weaken result ghost obeys
  | await effect resume induction =>
    refine ⟨permits ghost effect obeys.1, fun answer => ?_⟩
    rw [← follows]
    exact induction answer (obeys.2 answer)

/-- What holds of a returned value and the ghost state, or of the ghost state
alone after an exception. -/
def Ends (returned : α → Ghost → Prop) (raised : Ghost → Prop) : Except Error α → Ghost → Prop
  | .ok value, ghost => returned value ghost
  | .error _, ghost => raised ghost

variable {returned : α → Ghost → Prop} {raised : Ghost → Prop}

theorem Obeys.andThen {later : β → Ghost → Prop}
    (first : Obeys protocol (Ends returned raised) ghost program)
    (rest : ∀ value after, returned value after →
      Obeys protocol (Ends later raised) after (next value)) :
    Obeys protocol (Ends later raised) ghost (program >>= next) := by
  refine obeys_bind.mpr (first.mono ?_)
  intro result after ends
  cases result with
  | ok value => exact rest value after ends
  | error error => exact ends

theorem Obeys.orElse {caught : Ghost → Prop}
    (first : Obeys protocol (Ends returned caught) ghost program)
    (rest : ∀ error after, caught after →
      Obeys protocol (Ends returned raised) after (handler error)) :
    Obeys protocol (Ends returned raised) ghost (tryCatch program handler) := by
  refine obeys_tryCatch.mpr (first.mono ?_)
  intro result after ends
  cases result with
  | ok value => exact ends
  | error error => exact rest error after ends

end Rules

end Coroutine

section Execution

variable {Effect : Type} {Answer : Effect → Type} {Error α β State : Type}
  (respond : (effect : Effect) → State → Except Error (Answer effect) × State)

def execute : Coroutine Effect Answer Error α → State → Except Error α × State
  | .done result, state => (result, state)
  | .await effect resume, state =>
      execute (resume (respond effect state).1) (respond effect state).2

variable {respond}

theorem execute_bind (program : Coroutine Effect Answer Error α)
    (next : α → Coroutine Effect Answer Error β) (state : State) :
    execute respond (program >>= next) state =
      match execute respond program state with
      | (.ok value, after) => execute respond (next value) after
      | (.error error, after) => (.error error, after) := by
  induction program generalizing state with
  | done result => cases result <;> rfl
  | await effect resume induction => exact induction _ _

variable {program : Coroutine Effect Answer Error α} {next : α → Coroutine Effect Answer Error β}
  {state after : State}

theorem execute_bind_ok {value : α} (first : execute respond program state = (.ok value, after)) :
    execute respond (program >>= next) state = execute respond (next value) after := by
  rw [execute_bind, first]

theorem execute_bind_eq_ok {result : β}
    (succeeds : execute respond (program >>= next) state = (.ok result, after)) :
    ∃ value middle, execute respond program state = (.ok value, middle) ∧
      execute respond (next value) middle = (.ok result, after) := by
  rw [execute_bind] at succeeds
  generalize first : execute respond program state = outcome at succeeds
  match outcome, succeeds with
  | (.ok value, middle), succeeds => exact ⟨value, middle, rfl, succeeds⟩
  | (.error _, _), succeeds => exact nomatch succeeds

theorem execute_tryCatch (program : Coroutine Effect Answer Error α)
    (handler : Error → Coroutine Effect Answer Error α) (state : State) :
    execute respond (tryCatch program handler) state =
      match execute respond program state with
      | (.ok value, after) => (.ok value, after)
      | (.error error, after) => execute respond (handler error) after := by
  induction program generalizing state with
  | done result => cases result <;> rfl
  | await effect resume induction => exact induction _ _

end Execution

theorem bind_eq_ok {Error α β : Type} {attempt : Except Error α} {next : α → Except Error β}
    {result : β} (succeeds : (attempt >>= next) = .ok result) :
    ∃ value, attempt = .ok value ∧ next value = .ok result := by
  cases attempt with
  | error error => exact nomatch succeeds
  | ok value => exact ⟨value, rfl, succeeds⟩

/-- How a call ends.  The effect of a call that is lost is there, but the
caller learns of an exception only. -/
inductive Fate (Error : Type) where
  | answered
  | lost (error : Error)
  | failed (error : Error)
  deriving DecidableEq, Repr

namespace Fate

variable {Error State α : Type}

def answer (fate : Fate Error) (value : α) : Except Error α :=
  match fate with
  | .answered => .ok value
  | .lost error => .error error
  | .failed error => .error error

def transact (fate : Fate Error) (attempt : Except Error (α × State))
    (before : State) : Except Error α × State :=
  match fate, attempt with
  | .failed error, _ => (.error error, before)
  | .lost error, .error _ => (.error error, before)
  | .lost error, .ok (_, after) => (.error error, after)
  | .answered, .error error => (.error error, before)
  | .answered, .ok (value, after) => (.ok value, after)

theorem transact_cases (fate : Fate Error) (attempt : Except Error (α × State)) (before : State) :
    ((∃ error, (fate.transact attempt before).1 = .error error) ∧
        (fate.transact attempt before).2 = before) ∨
      ∃ value after, attempt = .ok (value, after) ∧ (fate.transact attempt before).2 = after ∧
        ((fate.transact attempt before).1 = .ok value ∨
          ∃ error, (fate.transact attempt before).1 = .error error) := by
  fun_cases transact fate attempt before with
  | case1 => exact .inl ⟨⟨_, rfl⟩, rfl⟩
  | case2 => exact .inl ⟨⟨_, rfl⟩, rfl⟩
  | case3 error value after => exact .inr ⟨value, after, rfl, rfl, .inr ⟨error, rfl⟩⟩
  | case4 error => exact .inl ⟨⟨error, rfl⟩, rfl⟩
  | case5 value after => exact .inr ⟨value, after, rfl, rfl, .inl rfl⟩

theorem transact_eq_ok {fate : Fate Error} {attempt : Except Error (α × State)} {before : State}
    {value : α} (answered : (fate.transact attempt before).1 = .ok value) :
    attempt = .ok (value, (fate.transact attempt before).2) := by
  rcases transact_cases fate attempt before with
    ⟨⟨_, failed⟩, _⟩ | ⟨value', after, took, reached, same | ⟨_, failed⟩⟩
  · exact nomatch answered.symm.trans failed
  · cases answered.symm.trans same
    rw [reached]
    exact took
  · exact nomatch answered.symm.trans failed

end Fate

/-- Named coroutines over a shared state. -/
structure Fleet (State Name Effect : Type) (Answer : Effect → Type) (Error α : Type) where
  state : State
  tasks : Name → Coroutine Effect Answer Error α

/-- How a fleet runs: the coroutine that a launch starts and the name it is
started under, the answer to an effect and the state after it for every choice
that is not the fleet's own, and the moves of others. -/
structure Behaviour (State Name Effect : Type) (Answer : Effect → Type)
    (Error α Launch Choice Move : Type) where
  launch : Launch → Name × Coroutine Effect Answer Error α
  respond : Name → (effect : Effect) → Choice → State → Except Error (Answer effect) × State
  move : Move → State → State

/-- What happens next.  A coroutine that crashes is one that is never resumed
again. -/
inductive Action (Name Launch Choice Move : Type) where
  | start (launch : Launch)
  | resume (name : Name) (choice : Choice)
  | move (move : Move)

namespace Behaviour

variable {State Name Effect : Type} {Answer : Effect → Type} {Error α Launch Choice Move : Type}
  [DecidableEq Name]

/-- A name that is taken is not started again, and one that has finished is
not resumed. -/
def act (behaviour : Behaviour State Name Effect Answer Error α Launch Choice
      Move) (fleet : Fleet State Name Effect Answer Error α) :
    Action Name Launch Choice Move → Fleet State Name Effect Answer Error α
  | .start launch =>
      match fleet.tasks (behaviour.launch launch).1 with
      | .await _ _ => fleet
      | .done _ =>
          { fleet with
            tasks := Function.update fleet.tasks (behaviour.launch launch).1
              (behaviour.launch launch).2 }
  | .resume name choice =>
      match fleet.tasks name with
      | .done _ => fleet
      | .await effect resume =>
          let outcome := behaviour.respond name effect choice fleet.state
          ⟨outcome.2, Function.update fleet.tasks name (resume outcome.1)⟩
  | .move move => { fleet with state := behaviour.move move fleet.state }

variable {fleet : Fleet State Name Effect Answer Error α}

theorem act_resume (behaviour : Behaviour State Name Effect Answer Error α Launch Choice Move)
    {name : Name} {effect : Effect}
    {resume : Except Error (Answer effect) →
      Coroutine Effect Answer Error α}
    (awaits : fleet.tasks name = .await effect resume) (choice : Choice) :
    behaviour.act fleet (.resume name choice) =
      ⟨(behaviour.respond name effect choice fleet.state).2, Function.update fleet.tasks name
          (resume (behaviour.respond name effect choice fleet.state).1)⟩ := by
  simp only [act, awaits]

variable (behaviour : Behaviour State Name Effect Answer Error α Launch Choice Move)

variable (allowed : Fleet State Name Effect Answer Error α → Action Name Launch Choice Move → Prop)

def Step (fleet after : Fleet State Name Effect Answer Error α) : Prop :=
  ∃ action, allowed fleet action ∧ after = behaviour.act fleet action

def Steps :
    Fleet State Name Effect Answer Error α → Fleet State Name Effect Answer Error α → Prop :=
  Relation.ReflTransGen (Step behaviour allowed)

def play (behaviour : Behaviour State Name Effect Answer Error α Launch Choice Move) :
    List (Action Name Launch Choice Move) → Fleet State Name Effect Answer Error α →
        Fleet State Name Effect Answer Error α
  | [], fleet => fleet
  | action :: rest, fleet => play behaviour rest (behaviour.act fleet action)

variable {behaviour : Behaviour State Name Effect Answer Error α Launch Choice Move}
  {allowed : Fleet State Name Effect Answer Error α → Action Name Launch Choice Move → Prop}

def Permits (behaviour : Behaviour State Name Effect Answer Error α Launch Choice Move)
    (allowed : Fleet State Name Effect Answer Error α → Action Name Launch Choice Move → Prop) :
    List (Action Name Launch Choice Move) → Fleet State Name Effect Answer Error α → Prop
  | [], _ => True
  | action :: rest, fleet =>
      allowed fleet action ∧ Permits behaviour allowed rest (behaviour.act fleet action)

instance decidablePermits [∀ fleet action, Decidable (allowed fleet action)] :
    ∀ (actions : List (Action Name Launch Choice Move))
      (fleet : Fleet State Name Effect Answer Error α),
      Decidable (behaviour.Permits allowed actions fleet)
  | [], _ => .isTrue trivial
  | action :: rest, fleet =>
      have := decidablePermits rest (behaviour.act fleet action)
      inferInstanceAs (Decidable (allowed fleet action ∧
        behaviour.Permits allowed rest (behaviour.act fleet action)))

theorem Permits.mono
    {stronger : Fleet State Name Effect Answer Error α →
      Action Name Launch Choice Move → Prop}
    (weaken : ∀ fleet action, stronger fleet action → allowed fleet action)
    (actions : List (Action Name Launch Choice Move))
    (permitted : behaviour.Permits stronger actions fleet) :
    behaviour.Permits allowed actions fleet := by
  induction actions generalizing fleet with
  | nil => trivial
  | cons action rest induction => exact ⟨weaken fleet action permitted.1, induction permitted.2⟩

theorem Steps.play (actions : List (Action Name Launch Choice Move))
    (permitted : behaviour.Permits allowed actions fleet) :
    Steps behaviour allowed fleet (behaviour.play actions fleet) := by
  induction actions generalizing fleet with
  | nil => exact .refl
  | cons action rest induction => exact .head ⟨action, permitted.1, rfl⟩ (induction permitted.2)

theorem Steps.state (holds : State → Prop) (responded : ∀ name effect choice state, holds state →
      holds (behaviour.respond name effect choice state).2)
    (moved : ∀ move state, holds state → holds (behaviour.move move state))
    {first last : Fleet State Name Effect Answer Error α}
    (steps : Steps behaviour allowed first last)
    (initially : holds first.state) : holds last.state := by
  induction steps with
  | refl => exact initially
  | tail _ step induction =>
    obtain ⟨action, _, rfl⟩ := step
    cases action with
    | start launch =>
      simp only [act]
      split
      · exact induction
      · exact induction
    | resume name choice =>
      simp only [act]
      split
      · exact induction
      · exact responded _ _ _ _ induction
    | move move => exact moved move _ induction

variable {Ghost : Type} {protocol : Name → Protocol Effect Answer Error Ghost}
  {promise : Name → Except Error α → Ghost → Prop}

/-- The ghost states of a fleet: they fit its state, and every coroutine obeys
its protocol from its own one on. -/
structure Follows (protocol : Name → Protocol Effect Answer Error Ghost)
    (promise : Name → Except Error α → Ghost → Prop)
    (invariant : State → (Name → Ghost) → Prop)
    (fleet : Fleet State Name Effect Answer Error α) (ghosts : Name → Ghost) :
    Prop where
  fits : invariant fleet.state ghosts
  obeys : ∀ name, Obeys (protocol name) (promise name) (ghosts name) (fleet.tasks name)

theorem Follows.update {invariant : State → (Name → Ghost) → Prop} {ghosts : Name → Ghost}
    (follows : Follows protocol promise invariant fleet ghosts) {state : State}
    {name : Name} {ghost : Ghost} {program : Coroutine Effect Answer Error α}
    (fits : invariant state (Function.update ghosts name ghost))
    (obeys : Obeys (protocol name) (promise name) ghost program) :
    Follows protocol promise invariant ⟨state, Function.update fleet.tasks name program⟩
      (Function.update ghosts name ghost) where
  fits := fits
  obeys := by
    intro other
    by_cases same : other = name
    · subst same
      simpa using obeys
    · simpa [Function.update_of_ne same] using follows.obeys other

/-- An invariant of the state and the ghosts is one of every run: coroutines
matter only through the protocols they obey. -/
theorem Steps.follows {invariant : State → (Name → Ghost) → Prop}
    (started : ∀ (fleet : Fleet State Name Effect Answer Error α) ghosts launch,
      Follows protocol promise invariant fleet ghosts →
      allowed fleet (.start launch) →
      ∃ ghost, Obeys (protocol (behaviour.launch launch).1)
          (promise (behaviour.launch launch).1) ghost
          (behaviour.launch launch).2 ∧
        invariant fleet.state (Function.update ghosts (behaviour.launch launch).1 ghost))
    (responded : ∀ (fleet : Fleet State Name Effect Answer Error α) ghosts name
        effect resume choice,
      Follows protocol promise invariant fleet ghosts →
      fleet.tasks name = .await effect resume →
      allowed fleet (.resume name choice) →
      (protocol name).permits (ghosts name) effect →
      invariant (behaviour.respond name effect choice fleet.state).2
        (Function.update ghosts name ((protocol name).next (ghosts name) effect
          (behaviour.respond name effect choice fleet.state).1)))
    (moved : ∀ (fleet : Fleet State Name Effect Answer Error α) ghosts move,
      Follows protocol promise invariant fleet ghosts →
      allowed fleet (.move move) →
      invariant (behaviour.move move fleet.state) ghosts)
    {first last : Fleet State Name Effect Answer Error α}
    (steps : Steps behaviour allowed first last)
    (initially : ∃ ghosts, Follows protocol promise invariant first ghosts) :
    ∃ ghosts, Follows protocol promise invariant last ghosts := by
  induction steps with
  | refl => exact initially
  | @tail fleet _ _ step induction =>
    obtain ⟨ghosts, follows⟩ := induction
    obtain ⟨action, permitted, rfl⟩ := step
    cases action with
    | start launch =>
      simp only [act]
      split
      · exact ⟨ghosts, follows⟩
      · obtain ⟨ghost, obeys, fits⟩ := started fleet ghosts launch follows permitted
        exact ⟨_, follows.update fits obeys⟩
    | resume name choice =>
      simp only [act]
      split
      case h_1 => exact ⟨ghosts, follows⟩
      case h_2 effect resume awaits =>
        have awaiting := follows.obeys name
        rw [awaits] at awaiting
        exact ⟨_, follows.update (responded fleet ghosts name effect resume choice follows awaits
          permitted awaiting.1) (awaiting.2 _)⟩
    | move move => exact ⟨ghosts, moved fleet ghosts move follows permitted, follows.obeys⟩

end Behaviour

end TrpcService.Data
