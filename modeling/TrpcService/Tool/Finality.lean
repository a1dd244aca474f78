import TrpcService.Tool.Lawful

namespace TrpcService.Tool

open Data Storage Storage.Postgres InMemoryExecutionLedger Coroutine ToolWorld Behaviour
open ToolExecutor

/-! A recorded success is final: always in PostgreSQL, and in memory as long as
the executions of a key do not overlap. -/

namespace PostgresExecutionLedger

variable {library : Library} {executions after : Executions} {key tenantId place : String}
  {call : ToolCall} {result : Option Json}

theorem set_final {tenant : String} {row : ExecutionRow}
    (unsucceeded : ∀ old, executions.get? (tenant, key) = some old → old.status ≠ .succeeded)
    (succeeded : stored executions tenantId place = some (.succeeded, result)) :
    stored (executions.set (tenant, key) row) tenantId place = some (.succeeded, result) := by
  rw [stored_set, if_neg]
  · exact succeeded
  · intro same
    cases same
    obtain ⟨old, found, status⟩ := Option.map_eq_some_iff.mp succeeded
    exact unsucceeded old found (congrArg Prod.fst status)

theorem resolveExisting_final {owner conflict : String} {token : Int}
    {reading : SessionReading} {existing : ExecutionRow}
    {record : ExecutionRecord}
    (found : executions.get? (call.scope.tenantId, key) = some existing)
    (resolved : resolveExisting executions key call owner token reading
      existing conflict = .ok (record, after))
    (succeeded : stored executions tenantId place = some (.succeeded, result)) :
    stored after tenantId place = some (.succeeded, result) := by
  revert resolved
  fun_cases resolveExisting executions key call owner token reading existing conflict with
  | case2 =>
    intro resolved
    cases resolved
    exact succeeded
  | case3 =>
    intro resolved
    cases resolved
    exact succeeded
  | case5 =>
    intro resolved
    cases resolved
    exact succeeded
  | case7 unsucceeded =>
    intro resolved
    cases resolved
    refine set_final (fun old known => ?_) succeeded
    cases found.symm.trans known
    exact unsucceeded
  | _ => simp

theorem begin_final {reading : Reading} {record : ExecutionRecord}
    (begun : begin library executions key call reading = .ok (record, after))
    (succeeded : stored executions tenantId place = some (.succeeded, result)) :
    stored after tenantId place = some (.succeeded, result) := by
  rcases begin_eq_ok begun with ⟨row, absent, _, _, rfl⟩ | ⟨existing, _, _, _, _, found, resolved⟩
  · exact set_final (fun old known => nomatch absent.symm.trans known) succeeded
  · exact resolveExisting_final found resolved succeeded

theorem finish_final {status : ExecutionStatus} {reading : Reading}
    (finished : finish executions key call status reading = .ok ((), after))
    (succeeded : stored executions tenantId place = some (.succeeded, result)) :
    stored after tenantId place = some (.succeeded, result) := by
  revert finished
  fun_cases finish executions key call status reading with
  | case8 _ owner token _ row found started =>
    intro finished
    cases finished
    refine set_final (fun old known => ?_) succeeded
    cases found.symm.trans known
    rw [Classical.not_not.mp started]
    simp
  | _ => simp

end PostgresExecutionLedger

theorem ToolWorld.respond_ledger {State Choice : Type}
    {ledger : Ledger State Choice} (holds : State → Prop)
    (begun : ∀ {choice key call before record after},
      ledger.begin choice key call before = .ok (record, after) → holds before → holds after)
    (finished : ∀ {choice key call status result before after},
      ledger.finish choice key call status result before = .ok ((), after) →
        holds before → holds after)
    (task : ToolTask) (effect : ToolEffect) (choice : ToolChoice Choice)
    (world : ToolWorld State) (holding : holds world.ledger) :
    holds (world.respond ledger task effect choice).2.ledger := by
  cases effect with
  | begin key call =>
    rcases begin_cases ledger task key call choice world with
      ⟨_, same⟩ | ⟨record, state, began, reached, _⟩
    · rw [same]
      exact holding
    · rw [reached]
      exact begun began holding
  | finish key call status result =>
    rcases finish_cases ledger task key call status result choice
      world with same | ⟨state, ended, reached⟩
    · rw [same]
      exact holding
    · rw [reached]
      exact finished ended holding
  | _ => exact holding

/-- Whether an execution may still write the end of its call. -/
inductive Debt where
  | unbegun
  | owing
  | settled
  deriving DecidableEq

/-- Does `execute` call the tool and store how it ends? -/
structure ExecutionRecord.Owes (record : ExecutionRecord) (risk : ToolRisk) : Prop where
  unknown : ¬ (record.status = .succeeded ∧ record.result.isSome)
  recoverable : ¬ (record.status = .succeeded ∧ risk ≠ .idempotent)
  certain : ¬ (record.fresh = false ∧ (record.status = .started ∨ record.status = .ambiguous) ∧
    risk ≠ .idempotent)
  stored : (record.status = .succeeded && record.replayTerminal) = false

open scoped Classical in
/-- An execution begins once and finishes at most once, and only if the record
leaves it something to do. -/
noncomputable def settles (keys : KeyScheme) (task : ToolTask) :
    Protocol ToolEffect ToolEffect.Answer ToolFailure Debt where
  permits debt effect :=
    match effect with
    | .begin key call => call = task.call ∧ key = keys.keyFor call.scope ∧ debt = .unbegun
    | .finish key call _ _ => call = task.call ∧ key = keys.keyFor call.scope ∧ debt = .owing
    | _ => debt ≠ .unbegun
  next debt effect :=
    match effect with
    | .begin _ call => fun answer =>
        match answer with
        | .ok record => if record.Owes call.risk then .owing else .settled
        | .error _ => .settled
    | .finish _ _ _ _ => fun _ => .settled
    -- What is raised before the tool is called ends the execution.
    | .sleep => fun answer => if answer.isOk then debt else .settled
    | .checkpoint _ _ => fun answer => if answer.isOk then debt else .settled
    | .invoke _ _ => fun _ => debt

def Paid (_ : Except ToolFailure (Option Json)) (debt : Debt) : Prop := debt ≠ .owing

theorem paid_settled {result : Except ToolFailure (Option Json)} : Paid result .settled := by
  simp [Paid]

variable {debt : Debt}

section Obeys

variable {keys : KeyScheme} {task : ToolTask}

theorem settles_callTool {replayTerminal : Bool}
    (owing : debt = if replayTerminal then .settled else .owing) :
    Obeys (settles keys task) Paid debt
      (callTool (keys.keyFor task.call.scope) task.call replayTerminal) := by
  unfold callTool
  cases replayTerminal with
  | true =>
    change debt = .settled at owing
    subst owing
    refine obeys_bind.mpr (obeys_tryCatch.mpr (obeys_perform.mpr ⟨nofun, fun answer => ?_⟩))
    cases answer with
    | ok result => exact nofun
    | error error => exact nofun
  | false =>
    change debt = .owing at owing
    subst owing
    refine obeys_bind.mpr (obeys_tryCatch.mpr (obeys_perform.mpr ⟨nofun, fun answer => ?_⟩))
    cases answer with
    | ok result =>
      refine obeys_bind.mpr (obeys_perform.mpr ⟨⟨rfl, rfl, rfl⟩, fun stored => ?_⟩)
      cases stored with
      | ok _ => exact nofun
      | error _ => exact nofun
    | error error =>
      refine obeys_bind.mpr (obeys_perform.mpr ⟨⟨rfl, rfl, rfl⟩, fun stored => ?_⟩)
      cases stored with
      | error _ => exact nofun
      | ok _ =>
        dsimp only
        by_cases ambiguous : failureStatus task.call.risk = .ambiguous
        · rw [if_pos ambiguous]
          exact nofun
        · rw [if_neg ambiguous]
          exact nofun

def Reached (debt : Debt) (result : Except ToolFailure Unit) (after : Debt) : Prop :=
  after = if result.isOk then debt else .settled

variable (executor : ToolExecutor)

theorem settles_delayStage (begun : debt ≠ .unbegun) :
    Obeys (settles keys task) (Reached debt) debt executor.delayStage := by
  unfold delayStage
  split
  · exact obeys_perform.mpr ⟨begun, fun _ => rfl⟩
  · exact rfl

theorem settles_reachStage {key : String} {call : ToolCall} (begun : debt ≠ .unbegun) :
    Obeys (settles keys task) (Reached debt) debt (executor.reachStage key call) := by
  unfold reachStage
  split
  · refine obeys_bind.mpr ((settles_delayStage executor begun).mono fun delayed after same => ?_)
    cases same
    cases delayed with
    | error _ => exact rfl
    | ok _ =>
      refine obeys_bind.mpr (obeys_perform.mpr ⟨begun, fun released => ?_⟩)
      cases released with
      | error _ => exact rfl
      | ok _ => exact rfl
  · exact rfl

theorem settles_execute (same : executor.keys = keys) :
    Obeys (settles keys task) Paid .unbegun (executor.execute task.call) := by
  subst same
  unfold ToolExecutor.execute
  refine obeys_bind.mpr (obeys_perform.mpr ⟨⟨rfl, rfl, rfl⟩, fun answer => ?_⟩)
  cases answer with
  | error error => exact paid_settled
  | ok record =>
    generalize after : (settles executor.keys task).next .unbegun (.begin
      (executor.keys.keyFor task.call.scope) task.call) (.ok record) = debt
    have settled (quits : ¬ record.Owes task.call.risk) :
        debt = .settled := after.symm.trans (if_neg quits)
    dsimp only
    split
    case isTrue stored =>
      rw [settled fun owes => owes.unknown stored]
      exact paid_settled
    split
    case isTrue stored =>
      rw [settled fun owes => owes.recoverable stored]
      exact paid_settled
    split
    case isTrue unknown =>
      rw [settled fun owes => owes.certain unknown]
      exact paid_settled
    case isFalse.isFalse.isFalse unknown recoverable certain =>
      have owing : debt = if (record.status = .succeeded &&
          record.replayTerminal) then .settled else .owing := by
        split
        case isTrue replays =>
          refine settled fun owes => ?_
          cases owes.stored.symm.trans replays
        case isFalse runs =>
          refine after.symm.trans (if_pos ⟨unknown, recoverable, certain, ?_⟩)
          exact Bool.not_eq_true _ ▸ runs
      have begun : debt ≠ .unbegun := by
        rw [owing]
        split
        · simp
        · simp
      refine obeys_bind.mpr ((settles_reachStage executor begun).mono fun reached phase same => ?_)
      cases same
      cases reached with
      | error error => exact paid_settled
      | ok _ => exact settles_callTool owing

end Obeys

theorem InMemoryExecutionLedger.begin_final (ledger : Records)
    (key tenantId : String) (risk : ToolRisk) :
    (∀ result, stored ledger tenantId key = some (.succeeded, result) →
      (begin ledger key risk).2 = ledger ∧ ¬ (begin ledger key risk).1.Owes risk) ∧
    ∀ result, stored (begin ledger key risk).2 tenantId key = some (.succeeded, result) →
      stored ledger tenantId key = some (.succeeded, result) := by
  fun_cases begin ledger key risk with
  | case1 existing found recoverable =>
    refine ⟨fun result succeeded => ⟨rfl, fun owes => ?_⟩, fun _ same => same⟩
    have replays := owes.stored
    rw [recoverable.1] at replays
    cases replays
  | case2 existing found unrecoverable =>
    refine ⟨fun result succeeded => ⟨rfl, fun owes => ?_⟩, fun _ same => same⟩
    rw [stored, found] at succeeded
    have status : existing.status = .succeeded := congrArg Prod.fst (Option.some.inj succeeded)
    cases known : existing.result with
    | some value => exact owes.unknown ⟨status, by rw [known]; rfl⟩
    | none =>
      refine owes.recoverable ⟨status, fun idempotent => ?_⟩
      exact unrecoverable ⟨status, known, idempotent⟩
  | case3 absent =>
    constructor
    · intro result succeeded
      rw [stored, absent] at succeeded
      cases succeeded
    · intro result succeeded
      rw [stored_put, if_pos rfl] at succeeded
      cases succeeded

/-- When an execution of the scope begins, every other one has ended or has not
begun. -/
def Alone {State Choice : Type} (scope : CallScope) (fleet : ToolFleet State) :
    Action ToolTask ToolLaunch (ToolChoice Choice) Empty → Prop
  | .resume task _ => task.call.scope = scope →
      (∃ key call, (fleet.tasks task).awaited = some (.begin key call)) →
      ∀ other, other ≠ task → other.call.scope = scope → (fleet.tasks other).awaited = none ∨
          ∃ key call, (fleet.tasks other).awaited = some (.begin key call)
  | _ => True

section Single

open InMemoryExecutionLedger

/-- At most one execution of the scope may still write, and only where there is
no success. -/
structure Single (keys : KeyScheme) (scope : CallScope)
    (world : ToolWorld Records) (debts : ToolTask → Debt) : Prop where
  unique : ∀ first second, first.call.scope = scope →
    second.call.scope = scope → debts first = .owing → debts second = .owing → first = second
  unsettled : ∀ task, task.call.scope = scope → debts task = .owing →
    ∀ result, stored world.ledger scope.tenantId (keys.keyFor scope) ≠ some (.succeeded, result)

variable {keys : KeyScheme} {scope : CallScope} {fleet : ToolFleet Records}
  {debts : ToolTask → Debt}

theorem not_owing {name : ToolTask} {program : Execution (Option Json)}
    (obeys : Obeys (settles keys name) Paid debt program)
    (rests : program.awaited = none ∨ ∃ key call, program.awaited = some (.begin key call)) :
    debt ≠ .owing := by
  cases program with
  | done result => exact obeys
  | await effect resume =>
    rcases rests with ended | ⟨key, call, waits⟩
    · exact nomatch ended
    · cases waits
      obtain ⟨_, _, unbegun⟩ := obeys.1
      rw [unbegun]
      exact nofun

variable {world : ToolWorld Records} {task : ToolTask}

theorem Single.settle {after : ToolWorld Records} (single : Single keys scope world debts)
    (less : task.call.scope = scope → debt = .owing → debts task = .owing)
    (same : ∀ result, stored after.ledger scope.tenantId (keys.keyFor scope) =
        some (.succeeded, result) →
      stored world.ledger scope.tenantId (keys.keyFor scope) = some (.succeeded, result)) :
    Single keys scope after (Function.update debts task debt) := by
  have owed : ∀ other, other.call.scope = scope → Function.update debts task debt other = .owing →
        debts other = .owing := by
    intro other here
    by_cases own : other = task
    · subst own
      rw [Function.update_self]
      exact less here
    · rw [Function.update_of_ne own]
      exact id
  constructor
  · intro first second here there owes owes'
    exact single.unique first second here there (owed first here owes)
      (owed second there owes')
  · intro other here owes result succeeded
    exact single.unsettled other here (owed other here owes) result (same result succeeded)

theorem stored_respond_elsewhere {effect : ToolEffect} (other : task.call.scope ≠ scope)
    (permitted : (settles keys task).permits debt effect) (choice : ToolChoice Unit) :
    stored (world.respond inMemoryLedger task effect choice).2.ledger
        scope.tenantId (keys.keyFor scope) =
      stored world.ledger scope.tenantId (keys.keyFor scope) := by
  have different : keys.keyFor scope ≠ keys.keyFor task.call.scope :=
    fun same => other (keys.collisionFree _ _ same).symm
  cases effect with
  | begin key call =>
    obtain ⟨rfl, rfl, _⟩ := permitted
    rcases begin_cases inMemoryLedger task _ _ choice world with
      ⟨_, same⟩ | ⟨record, state, began, reached, _⟩
    · rw [same]
    · rw [reached]
      exact lawful.begin_frame began different
  | finish key call status result =>
    obtain ⟨rfl, rfl, _⟩ := permitted
    rcases finish_cases inMemoryLedger task _ _ status result choice
      world with same | ⟨state, finished, reached⟩
    · rw [same]
    · rw [reached]
      exact lawful.finish_frame finished different
  | _ => rfl

structure Keeps (keys : KeyScheme) (scope : CallScope)
    (world after : ToolWorld Records) (debts : ToolTask → Debt) : Prop where
  single : Single keys scope after debts
  final : ∀ result, stored world.ledger scope.tenantId (keys.keyFor scope) =
      some (.succeeded, result) →
    stored after.ledger scope.tenantId (keys.keyFor scope) = some (.succeeded, result)

theorem keeps_begin (single : Single keys task.call.scope world debts)
    (alone : ∀ other, other ≠ task → other.call.scope = task.call.scope → debts other ≠ .owing)
    (choice : ToolChoice Unit) :
    Keeps keys task.call.scope world
      (world.respond inMemoryLedger task (.begin (keys.keyFor task.call.scope) task.call) choice).2
      (Function.update debts task ((settles keys task).next .unbegun
        (.begin (keys.keyFor task.call.scope) task.call)
        (world.respond inMemoryLedger task (.begin
          (keys.keyFor task.call.scope) task.call) choice).1)) := by
  obtain ⟨final, unmade⟩ := begin_final world.ledger
    (keys.keyFor task.call.scope) task.call.scope.tenantId task.call.risk
  rcases begin_cases inMemoryLedger task _ _ choice world with
    ⟨⟨error, raised⟩, same⟩ | ⟨record, state, began, reached, told⟩
  · rw [raised, same]
    exact ⟨single.settle nofun fun _ succeeded => succeeded, fun _ succeeded => succeeded⟩
  · have ran : begin world.ledger (keys.keyFor task.call.scope)
        task.call.risk = (record, state) := Except.ok.inj began
    rw [ran] at final unmade
    rw [reached]
    constructor
    · rcases told with answered | ⟨error, raised⟩
      · rw [answered]
        have owing : ∀ other, Function.update debts task ((settles keys task).next .unbegun (.begin
              (keys.keyFor task.call.scope) task.call) (.ok record)) other =
                .owing → other.call.scope = task.call.scope → other = task := by
          intro other owes here
          by_cases own : other = task
          · exact own
          · rw [Function.update_of_ne own] at owes
            exact absurd owes (alone other own here)
        constructor
        · intro first second here there owes owes'
          rw [owing first owes here, owing second owes' there]
        · intro other here owes result succeeded
          cases owing other owes here
          rw [Function.update_self] at owes
          have quits := (final result (unmade result succeeded)).2
          exact nomatch (if_neg quits).symm.trans owes
      · rw [raised]
        exact single.settle nofun unmade
    · intro result succeeded
      rw [← succeeded]
      exact congrArg (stored · _ _) (final result succeeded).1

theorem keeps_respond {effect : ToolEffect} (single : Single keys scope world debts)
    (alone : task.call.scope = scope → (∃ key call, effect = .begin key call) →
      ∀ other, other ≠ task → other.call.scope = scope → debts other ≠ .owing)
    (permitted : (settles keys task).permits (debts task) effect)
    (choice : ToolChoice Unit) :
    Keeps keys scope world (world.respond inMemoryLedger task effect choice).2
      (Function.update debts task ((settles keys task).next (debts task) effect
        (world.respond inMemoryLedger task effect choice).1)) := by
  by_cases here : task.call.scope = scope
  · subst here
    cases effect with
    | begin key call =>
      obtain ⟨rfl, rfl, unbegun⟩ := permitted
      rw [unbegun]
      exact keeps_begin single (alone rfl ⟨_, _, rfl⟩) choice
    | finish key call status result =>
      obtain ⟨rfl, rfl, owing⟩ := permitted
      have nobody : ∀ other, other.call.scope = task.call.scope →
          Function.update debts task .settled other ≠ .owing := by
        intro other here
        by_cases own : other = task
        · subst own
          rw [Function.update_self]
          exact nofun
        · rw [Function.update_of_ne own]
          exact fun owes => own (single.unique other task here rfl owes owing)
      constructor
      · constructor
        · exact fun first _ here _ owes => absurd owes (nobody first here)
        · exact fun other here owes => absurd owes (nobody other here)
      · exact fun result succeeded =>
          absurd succeeded (single.unsettled task rfl owing result)
    | invoke key call =>
      exact ⟨single.settle (fun _ => id) fun _ succeeded => succeeded, fun _ succeeded => succeeded⟩
    | _ =>
      refine ⟨single.settle (fun _ owes => ?_) fun _ succeeded => succeeded,
        fun _ succeeded => succeeded⟩
      dsimp only [settles] at owes
      split at owes
      · exact owes
      · exact nomatch owes
  · have same : stored (world.respond inMemoryLedger task effect choice).2.ledger scope.tenantId
      (keys.keyFor scope) = stored world.ledger scope.tenantId (keys.keyFor scope) :=
      stored_respond_elsewhere here permitted choice
    refine ⟨single.settle (fun there => absurd there here) ?_, ?_⟩
    · rw [same]
      exact fun _ => id
    · rw [same]
      exact fun _ => id

theorem Single.of_settled (world : ToolWorld Records) :
    Single keys scope world fun _ => .settled where
  unique := by
    intro first second _ _ owes
    exact nomatch owes
  unsettled := by
    intro task _ owes
    exact nomatch owes

theorem follows_single (holds : ToolWorld Records → Prop)
    (kept : ∀ world after debts, Keeps keys scope world after debts → holds world → holds after)
    {first later : ToolFleet Records}
    (steps : (executing keys inMemoryLedger).Steps (Alone scope) first later)
    (initially : ∃ debts, Follows (settles keys) (fun _ => Paid)
      (fun world debts => Single keys scope world debts ∧ holds world) first
      debts) :
    ∃ debts, Follows (settles keys) (fun _ => Paid)
      (fun world debts => Single keys scope world debts ∧ holds world) later
      debts := by
  refine Steps.follows ?_ ?_ ?_ steps initially
  · intro fleet debts launch follows _
    refine ⟨.unbegun, settles_execute _ rfl, ?_, follows.fits.2⟩
    exact follows.fits.1.settle nofun fun _ succeeded => succeeded
  · intro fleet debts task effect resume choice follows awaits alone permitted
    have keeps := keeps_respond follows.fits.1 (fun here begins => ?_) permitted choice
    · exact ⟨keeps.single, kept _ _ _ keeps follows.fits.2⟩
    · intro other different there
      refine not_owing (follows.obeys other) (alone here ?_ other different there)
      obtain ⟨key, call, rfl⟩ := begins
      exact ⟨key, call, by rw [awaits]; rfl⟩
  · exact fun _ _ move => move.elim

end Single

/-- In PostgreSQL a success stays as it is recorded, whatever executions do; in
memory it does if no two executions of its scope overlap. -/
theorem recorded_success_is_final (keys : KeyScheme) (library : Library)
    (scope : CallScope) (result : Option Json) :
    (∀ first later : ToolFleet PostgresExecutionLedger.Executions,
      (executing keys (postgresLedger library)).Steps (fun _ _ => True) first
        later →
      PostgresExecutionLedger.stored first.state.ledger scope.tenantId
        (keys.keyFor scope) = some (.succeeded, result) →
      PostgresExecutionLedger.stored later.state.ledger scope.tenantId
        (keys.keyFor scope) = some (.succeeded, result)) ∧
    (∀ (initial : Records) (first later : ToolFleet _),
      (executing keys inMemoryLedger).Steps (Alone scope) (unexecuted initial) first →
      (executing keys inMemoryLedger).Steps (Alone scope) first later →
      stored first.state.ledger scope.tenantId
        (keys.keyFor scope) = some (.succeeded, result) →
      stored later.state.ledger scope.tenantId
        (keys.keyFor scope) = some (.succeeded, result)) := by
  constructor
  · intro first later steps succeeded
    let holds (executions : PostgresExecutionLedger.Executions) : Prop :=
      PostgresExecutionLedger.stored executions scope.tenantId
        (keys.keyFor scope) = some (.succeeded, result)
    refine Steps.state (holds ·.ledger) ?_ nofun steps succeeded
    exact respond_ledger holds (fun began => PostgresExecutionLedger.begin_final began)
      (fun ended => PostgresExecutionLedger.finish_final ended)
  · intro initial first later reached steps succeeded
    obtain ⟨debts, follows⟩ := follows_single (fun _ => True) (fun _ _ _ _ => id) reached
      ⟨fun _ => .settled, ⟨.of_settled _, trivial⟩, fun _ => nofun⟩
    obtain ⟨_, later⟩ := follows_single (fun world => stored world.ledger scope.tenantId
        (keys.keyFor scope) = some (.succeeded, result))
      (fun _ _ _ keeps => keeps.final result) steps
      ⟨debts, ⟨follows.fits.1, succeeded⟩, follows.obeys⟩
    exact later.fits.2

def repeatBy (number : Nat) : ToolTask where
  number := number
  call := ⟨transfer, .idempotent, some "worker", some 1⟩

def overlapping : List (Action ToolTask ToolLaunch (ToolChoice Unit) Empty) :=
  [ .start { task := repeatBy 0 }, .start { task := repeatBy 1 },
    .resume (repeatBy 0) { ledger := () },
    .resume (repeatBy 1) { ledger := () },
    .resume (repeatBy 0) { ledger := (), outcome := .ok (some "done") },
    .resume (repeatBy 0) { ledger := () } ]

def failing : List (Action ToolTask ToolLaunch (ToolChoice Unit) Empty) := [ .resume (repeatBy 1)
      { ledger := (), outcome := .error (.other "connection reset") },
    .resume (repeatBy 1) { ledger := () } ]

theorem late_failure_overwrites_success :
    let first := (executing plainKeys inMemoryLedger).play overlapping
      (unexecuted .empty)
    let later := (executing plainKeys inMemoryLedger).play failing first
    stored first.state.ledger "tenant"
        (plainKeys.keyFor transfer) = some (.succeeded, some "done") ∧
      stored later.state.ledger "tenant" (plainKeys.keyFor transfer) = some (.failed, none) := by
  decide +kernel

def succeeding (choice : ToolChoice Unit) :
    List (Action ToolTask ToolLaunch (ToolChoice Unit) Empty) :=
  [ .start { task := repeatBy 0 }, .resume (repeatBy 0) choice,
    .resume (repeatBy 0) { ledger := (), outcome := .ok (some "done") },
    .resume (repeatBy 0) choice ]

theorem tasks_resume_of_ne {State Choice : Type} {fleet : ToolFleet State}
    {ledger : Ledger State Choice} {task other : ToolTask} (different : other ≠ task)
    (choice : ToolChoice Choice) :
    ((executing plainKeys ledger).act fleet (.resume task choice)).tasks other =
      fleet.tasks other := by
  simp only [act]
  split
  · rfl
  · exact Function.update_of_ne different _ _

/-- The second call finds the recorded result and returns it. -/
theorem success_is_final_alone :
    let first := (executing plainKeys inMemoryLedger).play
      (succeeding { ledger := () }) (unexecuted .empty)
    let later := (executing plainKeys inMemoryLedger).play
      [.start { task := repeatBy 1 }, .resume (repeatBy 1) { ledger := () }] first
    (later.tasks (repeatBy 1)).awaited = none ∧ stored later.state.ledger "tenant"
        (plainKeys.keyFor transfer) = some (.succeeded, some "done") := by
  intro first later
  have idle (other : ToolTask) (different : other ≠ repeatBy 0) :
      ((executing plainKeys inMemoryLedger).act (unexecuted .empty)
        (.start { task := repeatBy 0 })).tasks other = .done (.error (.other "not called")) :=
    Function.update_of_ne different _ _
  refine ⟨by decide +kernel, (recorded_success_is_final plainKeys ⟨id, some⟩ transfer
    (some "done")).2 .empty first later ?_ ?_ ?_⟩
  · refine .play _ ⟨trivial, ?_, ?_, ?_, trivial⟩
    · intro _ _ other different _
      exact .inl (congrArg awaited (idle other different))
    · rintro _ ⟨key, call, begins⟩
      have invokes : (((executing plainKeys inMemoryLedger).play
          ((succeeding { ledger := () }).take 2)
          (unexecuted .empty)).tasks (repeatBy 0)).awaited =
            some (.invoke (plainKeys.keyFor transfer) (repeatBy 0).call) := by
        decide +kernel
      exact nomatch invokes.symm.trans begins
    · rintro _ ⟨key, call, begins⟩
      have finishes : (((executing plainKeys inMemoryLedger).play
          ((succeeding { ledger := () }).take 3)
          (unexecuted .empty)).tasks (repeatBy 0)).awaited =
            some (.finish (plainKeys.keyFor transfer) (repeatBy 0).call
              .succeeded (some "done")) := by
        decide +kernel
      exact nomatch finishes.symm.trans begins
  · refine .play _ ⟨trivial, ?_, trivial⟩
    intro _ _ other different _
    left
    rw [show ((executing plainKeys inMemoryLedger).act first (.start { task := repeatBy 1 })).tasks
      other = first.tasks other from Function.update_of_ne different _ _]
    by_cases ended : other = repeatBy 0
    · subst ended
      decide +kernel
    · simp only [first, succeeding, play, tasks_resume_of_ne ended]
      exact congrArg awaited (idle other ended)
  · decide +kernel

end TrpcService.Tool
