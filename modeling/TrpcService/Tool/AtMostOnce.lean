import TrpcService.Tool.Lawful

namespace TrpcService.Tool

open Data Storage Storage.Postgres InMemoryExecutionLedger Coroutine ToolWorld ToolExecutor

/-! A tool whose calls are not idempotent is called at most once for an
execution key. -/

inductive Phase where
  | waiting
  | begun (record : ExecutionRecord)
  | called (outcome : Except ToolFailure (Option Json))
  | refused

/-- Unless it is idempotent, an execution calls the tool only with a fresh
record or one of a failure, and stores what the tool has answered or that the
outcome is unknown. -/
def executes (keys : KeyScheme) (task : ToolTask) :
    Protocol ToolEffect ToolEffect.Answer ToolFailure Phase where
  permits phase effect :=
    match effect with
    | .begin key call => call = task.call ∧ key = keys.keyFor call.scope ∧ phase = .waiting
    | .invoke key call =>
        call = task.call ∧ key = keys.keyFor call.scope ∧ ∃ record, phase = .begun record ∧
            (call.risk ≠ .idempotent → record.fresh = true ∨ record.status = .failed)
    | .finish key call status result =>
        call = task.call ∧ key = keys.keyFor call.scope ∧ ∃ outcome, phase = .called outcome ∧
            (call.risk ≠ .idempotent → outcome = .ok result ∧ status = .succeeded ∨
                status = .ambiguous ∧ result = none)
    | _ => True
  next phase effect :=
    match effect with
    | .begin _ _ => fun answer =>
        match answer with
        | .ok record => .begun record
        | .error _ => .refused
    | .invoke _ _ => fun answer => .called answer
    | _ => fun _ => phase

/-- An execution that returns has called the tool or returns what is stored. -/
def Returns (result : Except ToolFailure (Option Json)) (phase : Phase) : Prop :=
  ∀ value, result = .ok value → (∃ outcome, phase = .called outcome) ∨
    ∃ record, phase = .begun record ∧ record.result = value ∧ value.isSome

variable {record : ExecutionRecord}

section Obeys

variable {keys : KeyScheme} {task : ToolTask}

theorem obeys_callTool {replayTerminal : Bool}
    (granted : task.call.risk ≠ .idempotent → record.fresh = true ∨ record.status = .failed) :
    Obeys (executes keys task) Returns (.begun record)
      (callTool (keys.keyFor task.call.scope) task.call replayTerminal) := by
  unfold callTool
  refine obeys_bind.mpr (obeys_tryCatch.mpr
    (obeys_perform.mpr ⟨⟨rfl, rfl, record, rfl, granted⟩, fun answer => ?_⟩))
  cases answer with
  | ok result =>
    dsimp only
    split
    · exact fun _ _ => .inl ⟨_, rfl⟩
    · refine obeys_bind.mpr (obeys_perform.mpr
        ⟨⟨rfl, rfl, _, rfl, fun _ => .inl ⟨rfl, rfl⟩⟩, fun stored => ?_⟩)
      cases stored with
      | ok _ => exact fun _ _ => .inl ⟨_, rfl⟩
      | error _ => exact nofun
  | error error =>
    dsimp only
    split
    · exact nofun
    · refine obeys_bind.mpr (obeys_perform.mpr
        ⟨⟨rfl, rfl, _, rfl, fun risky => .inr ⟨if_neg risky, rfl⟩⟩, fun stored => ?_⟩)
      cases stored with
      | ok _ =>
        dsimp only
        split
        · exact nofun
        · exact nofun
      | error _ => exact nofun

variable {phase : Phase}

theorem obeys_delayStage (executor : ToolExecutor) :
    Obeys (executes keys task) (fun _ after => after = phase) phase executor.delayStage := by
  unfold delayStage
  split
  · exact obeys_perform.mpr ⟨trivial, fun _ => rfl⟩
  · exact rfl

theorem obeys_reachStage (executor : ToolExecutor) {key : String} {call : ToolCall} :
    Obeys (executes keys task) (fun _ after => after = phase) phase
      (executor.reachStage key call) := by
  unfold reachStage
  split
  · refine obeys_bind.mpr ((obeys_delayStage executor).mono fun delayed after same => ?_)
    cases same
    cases delayed with
    | error _ => exact rfl
    | ok _ =>
      refine obeys_bind.mpr (obeys_perform.mpr ⟨trivial, fun released => ?_⟩)
      cases released with
      | error _ => exact rfl
      | ok _ => exact rfl
  · exact rfl

theorem obeys_execute (executor : ToolExecutor) (same : executor.keys = keys) :
    Obeys (executes keys task) Returns .waiting (executor.execute task.call) := by
  subst same
  unfold ToolExecutor.execute
  refine obeys_bind.mpr (obeys_perform.mpr ⟨⟨rfl, rfl, rfl⟩, fun answer => ?_⟩)
  cases answer with
  | error error => exact nofun
  | ok record =>
    dsimp only
    split
    case isTrue stored =>
      intro value same
      cases same
      exact .inr ⟨record, rfl, rfl, stored.2⟩
    split
    · exact nofun
    split
    · exact nofun
    case isFalse.isFalse.isFalse _ succeeded unknown =>
      refine obeys_bind.mpr ((obeys_reachStage executor).mono fun reached phase same => ?_)
      cases same
      cases reached with
      | error error => exact nofun
      | ok _ =>
        refine obeys_callTool fun risky => ?_
        cases fresh : record.fresh with
        | true => exact .inl rfl
        | false =>
          cases status : record.status with
          | started => exact absurd ⟨fresh, .inl status, risky⟩ unknown
          | succeeded => exact absurd ⟨status, risky⟩ succeeded
          | failed => exact .inr rfl
          | ambiguous => exact absurd ⟨fresh, .inr status, risky⟩ unknown

/-- With any ledger, whatever it answers. -/
theorem execution_order_of_effects (executor : ToolExecutor) (task : ToolTask) :
    Obeys (executes executor.keys task) Returns .waiting (executor.execute task.call) :=
  obeys_execute executor rfl

end Obeys

section Place

variable {State Choice : Type}

namespace ToolWorld

def calls (world : ToolWorld State) (key : String) : Nat :=
  world.log.countP fun invocation => invocation.key = key

def Answered (world : ToolWorld State) (key : String) (value : Option Json) : Prop :=
  ∃ invocation ∈ world.log, invocation.key = key ∧ invocation.outcome = .ok value

end ToolWorld

variable (keys : KeyScheme) (stored : Stored State) (scope : CallScope)

def Granted (phases : ToolTask → Phase) (task : ToolTask) : Prop := task.call.scope = scope ∧
    ∃ record, phases task = .begun record ∧ record.fresh = true

/-- A place of the ledger for calls that are not idempotent: as long as it is
empty nobody may call the tool, and once it is not, at most one execution may
or has done so. -/
structure Once (world : ToolWorld State) (phases : ToolTask → Phase) : Prop where
  risky : ∀ task, task.call.scope = scope → phases task ≠ .refused → task.call.risk ≠ .idempotent
  untouched : stored world.ledger scope.tenantId (keys.keyFor scope) = none →
    world.calls (keys.keyFor scope) = 0 ∧ ∀ task, ¬ Granted scope phases task
  unique : ∀ first second, Granted scope phases first → Granted scope phases second → first = second
  uncalled : ∀ task, Granted scope phases task → world.calls (keys.keyFor scope) = 0
  once : world.calls (keys.keyFor scope) ≤ 1
  unfailed : ∀ result, stored world.ledger scope.tenantId (keys.keyFor scope) ≠
      some (.failed, result)
  results : ∀ status value, stored world.ledger scope.tenantId (keys.keyFor scope) =
      some (status, some value) →
    world.Answered (keys.keyFor scope) (some value)
  record : ∀ task record, task.call.scope = scope → phases task = .begun record →
    (record.fresh = false → record.status ≠ .failed) ∧ ∀ value, record.result = some value →
        world.Answered (keys.keyFor scope) (some value)
  called : ∀ task outcome, task.call.scope = scope → phases task = .called outcome →
    ⟨task, keys.keyFor scope, outcome⟩ ∈ world.log

variable {keys stored scope} {world after : ToolWorld State} {phases : ToolTask → Phase}
  {task : ToolTask} {phase : Phase}

namespace Once

theorem elsewhere (once : Once keys stored scope world phases) (other : task.call.scope ≠ scope)
    (place : stored after.ledger scope.tenantId (keys.keyFor scope) =
      stored world.ledger scope.tenantId (keys.keyFor scope))
    (calls : after.calls (keys.keyFor scope) = world.calls (keys.keyFor scope))
    (grows : ∀ invocation ∈ world.log, invocation ∈ after.log) :
    Once keys stored scope after (Function.update phases task phase) := by
  have same : ∀ {task'}, task'.call.scope = scope →
      Function.update phases task phase task' = phases task' := by
    intro task' here
    refine Function.update_of_ne ?_ _ _
    rintro rfl
    exact other here
  have granted : ∀ {task'}, Granted scope (Function.update phases task phase)
      task' → Granted scope phases task' := by
    rintro task' ⟨here, record, begun, fresh⟩
    exact ⟨here, record, (same here).symm.trans begun, fresh⟩
  have answered : ∀ {value}, world.Answered (keys.keyFor scope) value →
      after.Answered (keys.keyFor scope) value := by
    rintro value ⟨invocation, member, holds⟩
    exact ⟨invocation, grows invocation member, holds⟩
  constructor
  · intro task' here
    rw [same here]
    exact once.risky task' here
  · rw [place, calls]
    intro empty
    exact ⟨(once.untouched empty).1,
      fun task' grant => (once.untouched empty).2 task' (granted grant)⟩
  · exact fun first second grant grant' =>
      once.unique first second (granted grant) (granted grant')
  · intro task' grant
    rw [calls]
    exact once.uncalled task' (granted grant)
  · rw [calls]
    exact once.once
  · rw [place]
    exact once.unfailed
  · rw [place]
    exact fun status value found => answered (once.results status value found)
  · intro task' record here begun
    obtain ⟨status, result⟩ := once.record task' record here ((same here).symm.trans begun)
    exact ⟨status, fun value found => answered (result value found)⟩
  · intro task' outcome here ended
    exact grows _ (once.called task' outcome here ((same here).symm.trans ended))

/-- What one call of an execution for the scope may do: fill the place with
what is known to have happened, be granted the tool while the place is empty,
and use up its grant. -/
theorem step (once : Once keys stored scope world phases)
    (here : task.call.scope = scope) (risky : task.call.risk ≠ .idempotent)
    (grows : ∀ invocation ∈ world.log, invocation ∈ after.log)
    (place : stored after.ledger scope.tenantId (keys.keyFor scope) =
        stored world.ledger scope.tenantId (keys.keyFor scope) ∨
      ∃ status kept, stored after.ledger scope.tenantId (keys.keyFor scope) =
          some (status, kept) ∧ status ≠ .failed ∧
        ∀ value, kept = some value → after.Answered (keys.keyFor scope) (some value))
    (calls : after.calls (keys.keyFor scope) = world.calls (keys.keyFor scope) ∨
      Granted scope phases task ∧ after.calls (keys.keyFor scope) =
        world.calls (keys.keyFor scope) + 1)
    (fresh : ∀ record, phase = .begun record → record.fresh = true →
      stored world.ledger scope.tenantId (keys.keyFor scope) = none ∧
        stored after.ledger scope.tenantId (keys.keyFor scope) ≠ none ∧
        after.calls (keys.keyFor scope) = world.calls (keys.keyFor scope))
    (record : ∀ record, phase = .begun record → (record.fresh = false → record.status ≠ .failed) ∧
        ∀ value, record.result = some value → after.Answered (keys.keyFor scope) (some value))
    (called : ∀ outcome, phase = .called outcome → ⟨task, keys.keyFor scope, outcome⟩ ∈ after.log) :
    Once keys stored scope after (Function.update phases task phase) := by
  have others : ∀ {task'}, task' ≠ task → Function.update phases task phase task' = phases task' :=
    fun different => Function.update_of_ne different _ _
  have granted : ∀ {task'}, task' ≠ task → Granted scope (Function.update phases task phase) task' →
      Granted scope phases task' := by
    rintro task' different ⟨same, record, begun, fresh⟩
    exact ⟨same, record, (others different).symm.trans begun, fresh⟩
  have grant : Granted scope (Function.update phases task phase) task →
      stored world.ledger scope.tenantId (keys.keyFor scope) = none ∧
        stored after.ledger scope.tenantId (keys.keyFor scope) ≠ none ∧
        after.calls (keys.keyFor scope) = world.calls (keys.keyFor scope) := by
    rintro ⟨_, record, begun, isFresh⟩
    rw [Function.update_self] at begun
    exact fresh record begun isFresh
  have answered : ∀ {value}, world.Answered (keys.keyFor scope) value →
      after.Answered (keys.keyFor scope) value := by
    rintro value ⟨invocation, member, holds⟩
    exact ⟨invocation, grows invocation member, holds⟩
  constructor
  · intro task' same unrefused
    by_cases this : task' = task
    · exact this ▸ risky
    · exact once.risky task' same (others this ▸ unrefused)
  · intro empty
    rcases place with same | ⟨_, _, full, _⟩
    · obtain ⟨none, nobody⟩ := once.untouched (same ▸ empty)
      refine ⟨?_, fun task' holds => ?_⟩
      · rcases calls with unchanged | ⟨spent, _⟩
        · exact unchanged.trans none
        · exact absurd spent (nobody task)
      · by_cases this : task' = task
        · subst this
          exact (grant holds).2.1 empty
        · exact nobody task' (granted this holds)
    · exact nomatch empty.symm.trans full
  · intro first second holds holds'
    by_cases this : first = task
    · by_cases this' : second = task
      · exact this.trans this'.symm
      · subst this
        exact absurd (granted this' holds') ((once.untouched (grant holds).1).2 second)
    · by_cases this' : second = task
      · subst this'
        exact absurd (granted this holds) ((once.untouched (grant holds').1).2 first)
      · exact once.unique first second (granted this holds)
          (granted this' holds')
  · intro task' holds
    by_cases this : task' = task
    · subst this
      obtain ⟨empty, _, unchanged⟩ := grant holds
      exact unchanged.trans (once.untouched empty).1
    · rcases calls with unchanged | ⟨spent, _⟩
      · exact unchanged.trans (once.uncalled task' (granted this holds))
      · exact absurd (once.unique task' task (granted this holds) spent) this
  · rcases calls with unchanged | ⟨spent, more⟩
    · rw [unchanged]
      exact once.once
    · have unspent := once.uncalled task spent
      omega
  · rcases place with same | ⟨status, kept, full, known, _⟩
    · rw [same]
      exact once.unfailed
    · intro result failed
      cases full.symm.trans failed
      exact known rfl
  · intro status value found
    rcases place with same | ⟨status', kept, full, _, known⟩
    · exact answered (once.results status value (same ▸ found))
    · cases full.symm.trans found
      exact known value rfl
  · intro task' record' same begun
    by_cases this : task' = task
    · subst this
      rw [Function.update_self] at begun
      exact record record' begun
    · obtain ⟨status, result⟩ := once.record task' record' same (others this ▸ begun)
      exact ⟨status, fun value found => answered (result value found)⟩
  · intro task' outcome same ended
    by_cases this : task' = task
    · subst this
      rw [Function.update_self] at ended
      exact called outcome ended
    · exact grows _ (once.called task' outcome same (others this ▸ ended))

variable {ledger : Ledger State Choice} {effect : ToolEffect}

theorem respond_elsewhere (lawful : ledger.Lawful stored)
    (once : Once keys stored scope world phases) (other : task.call.scope ≠ scope)
    (permitted : (executes keys task).permits (phases task) effect) (choice : ToolChoice Choice) :
    Once keys stored scope (world.respond ledger task effect choice).2
      (Function.update phases task phase) := by
  have different : keys.keyFor scope ≠ keys.keyFor task.call.scope :=
    fun same => other (keys.collisionFree _ _ same).symm
  cases effect with
  | begin key call =>
    obtain ⟨rfl, rfl, _⟩ := permitted
    rcases begin_cases ledger task _ _ choice world with
      ⟨_, same⟩ | ⟨record, state, began, reached, _⟩
    · rw [same]
      exact once.elsewhere other rfl rfl fun _ member => member
    · rw [reached]
      exact once.elsewhere other (lawful.begin_frame began different) rfl fun _ member => member
  | sleep => exact once.elsewhere other rfl rfl fun _ member => member
  | checkpoint => exact once.elsewhere other rfl rfl fun _ member => member
  | invoke key call =>
    obtain ⟨rfl, rfl, _⟩ := permitted
    refine once.elsewhere other rfl ?_ fun _ member => List.mem_cons_of_mem _ member
    refine List.countP_cons_of_neg ?_
    simpa using different.symm
  | finish key call status result =>
    obtain ⟨rfl, rfl, _⟩ := permitted
    rcases finish_cases ledger task _ _ status result choice world
      with same | ⟨state, finished, reached⟩
    · rw [same]
      exact once.elsewhere other rfl rfl fun _ member => member
    · rw [reached]
      exact once.elsewhere other (lawful.finish_frame finished different) rfl fun _ member => member

theorem respond_begin (lawful : ledger.Lawful stored)
    (once : Once keys stored task.call.scope world phases)
    (waiting : phases task = .waiting) (choice : ToolChoice Choice) :
    Once keys stored task.call.scope
      (world.respond ledger task (.begin (keys.keyFor task.call.scope) task.call) choice).2
      (Function.update phases task ((executes keys task).next (phases task)
        (.begin (keys.keyFor task.call.scope) task.call)
        (world.respond ledger task (.begin (keys.keyFor task.call.scope)
          task.call) choice).1)) := by
  have risky := once.risky task rfl (by rw [waiting]; exact nofun)
  rcases begin_cases ledger task _ _ choice world with
    ⟨⟨error, failed⟩, same⟩ | ⟨record, state, began, reached, told⟩
  · rw [same, failed]
    exact once.step rfl risky (fun _ member => member) (.inl rfl) (.inl rfl) nofun nofun nofun
  rw [reached]
  rcases lawful.begin_ok began risky with
    ⟨fresh, _, unanswered, empty, full⟩ | ⟨stale, rfl, result, found, agrees⟩
  -- The place was empty, and the tool is granted to this execution.
  · have place : ∃ status kept, stored state task.call.scope.tenantId
      (keys.keyFor task.call.scope) = some (status, kept) ∧ status ≠ .failed ∧ ∀ value, kept =
      some value → Answered { world with ledger := state } (keys.keyFor task.call.scope)
      (some value) := ⟨.started, none, full, nofun, nofun⟩
    rcases told with granted | ⟨error, failed⟩
    · rw [granted]
      refine once.step rfl risky (fun _ member => member) (.inr place) (.inl rfl) ?_ ?_ nofun
      · intro record' same _
        cases same
        refine ⟨empty, ?_, rfl⟩
        rw [full]
        simp
      · intro record' same
        cases same
        refine ⟨fun stale => ?_, fun value found => ?_⟩
        · cases fresh.symm.trans stale
        · cases unanswered.symm.trans found
    · rw [failed]
      exact once.step rfl risky (fun _ member => member) (.inr place) (.inl rfl) nofun nofun nofun
  · rcases told with answered | ⟨error, failed⟩
    · rw [answered]
      refine once.step rfl risky (fun _ member => member) (.inl rfl) (.inl rfl) ?_ ?_ nofun
      · intro record' same fresh
        cases same
        cases stale.symm.trans fresh
      · intro record' same
        cases same
        refine ⟨fun _ status => once.unfailed result (status ▸ found), fun value stored => ?_⟩
        rcases agrees with none | same
        · cases none.symm.trans stored
        · exact once.results _ value (stored ▸ same ▸ found)
    · rw [failed]
      exact once.step rfl risky (fun _ member => member) (.inl rfl) (.inl rfl) nofun nofun nofun

theorem respond_invoke (once : Once keys stored task.call.scope world phases)
    (begun : phases task = .begun record)
    (granted : task.call.risk ≠ .idempotent → record.fresh = true ∨ record.status = .failed)
    (choice : ToolChoice Choice) :
    Once keys stored task.call.scope
      (world.respond ledger task (.invoke (keys.keyFor task.call.scope) task.call) choice).2
      (Function.update phases task (.called choice.outcome)) := by
  have risky := once.risky task rfl (by rw [begun]; exact nofun)
  have fresh : record.fresh = true := by
    rcases granted risky with fresh | failed
    · exact fresh
    · cases stale : record.fresh with
      | true => rfl
      | false => exact absurd failed ((once.record task record rfl begun).1 stale)
  refine once.step rfl risky (fun _ member => List.mem_cons_of_mem _ member)
    (.inl rfl) (.inr ⟨⟨rfl, record, begun, fresh⟩, ?_⟩) nofun nofun ?_
  · exact List.countP_cons_of_pos (by simp)
  · intro outcome same
    cases same
    exact List.mem_cons_self

theorem respond_finish {outcome : Except ToolFailure (Option Json)}
    {status : ExecutionStatus} {result : Option Json}
    (lawful : ledger.Lawful stored)
    (once : Once keys stored task.call.scope world phases)
    (called : phases task = .called outcome)
    (stores : task.call.risk ≠ .idempotent → outcome = .ok result ∧ status = .succeeded ∨
        status = .ambiguous ∧ result = none)
    (choice : ToolChoice Choice) :
    Once keys stored task.call.scope
      (world.respond ledger task (.finish (keys.keyFor task.call.scope)
        task.call status result) choice).2
      (Function.update phases task (phases task)) := by
  have risky := once.risky task rfl (by rw [called]; exact nofun)
  rcases finish_cases ledger task _ _ status result choice world with
    same | ⟨state, finished, reached⟩
  · rw [same, Function.update_eq_self]
    exact once
  rw [reached, called]
  obtain ⟨kept, full, agrees⟩ := lawful.finish_ok finished
  refine once.step rfl risky (fun _ member => member)
    (.inr ⟨status, kept, full, ?_, fun value found => ?_⟩) (.inl rfl) nofun nofun ?_
  · rcases stores risky with ⟨_, succeeded⟩ | ⟨ambiguous, _⟩
    · rw [succeeded]
      exact nofun
    · rw [ambiguous]
      exact nofun
  · rcases agrees with none | same
    · exact nomatch none.symm.trans found
    · rcases stores risky with ⟨answered, _⟩ | ⟨_, none⟩
      · exact ⟨_, once.called task outcome rfl called, rfl,
          answered.trans (congrArg Except.ok (same.symm.trans found))⟩
      · exact nomatch none.symm.trans (same.symm.trans found)
  · intro outcome' same
    cases same
    exact once.called task outcome rfl called

theorem respond (lawful : ledger.Lawful stored) (once : Once keys stored scope world phases)
    (permitted : (executes keys task).permits (phases task) effect) (choice : ToolChoice Choice) :
    Once keys stored scope (world.respond ledger task effect choice).2
      (Function.update phases task ((executes keys task).next (phases task)
        effect (world.respond ledger task effect choice).1)) := by
  by_cases here : task.call.scope = scope
  · subst here
    cases effect with
    | begin key call =>
      obtain ⟨rfl, rfl, waiting⟩ := permitted
      exact once.respond_begin lawful waiting choice
    | sleep =>
      dsimp only [executes]
      rw [Function.update_eq_self]
      exact once
    | checkpoint key call =>
      dsimp only [executes]
      rw [Function.update_eq_self]
      exact once
    | invoke key call =>
      obtain ⟨rfl, rfl, record, begun, granted⟩ := permitted
      exact once.respond_invoke begun granted choice
    | finish key call status result =>
      obtain ⟨rfl, rfl, outcome, called, stores⟩ := permitted
      exact once.respond_finish lawful called stores choice
  · exact once.respond_elsewhere lawful here permitted choice

end Once

end Place

section Runs

variable {State Choice : Type} {ledger : Ledger State Choice} {stored : Stored State}

def CarriesRisk (scope : CallScope) (risk : ToolRisk) (_ : ToolFleet State) :
    Action ToolTask ToolLaunch (ToolChoice Choice) Empty → Prop
  | .start launch => launch.task.call.scope = scope → launch.task.call.risk = risk
  | _ => True

instance (scope : CallScope) (risk : ToolRisk) (fleet : ToolFleet State) :
    (action : Action ToolTask ToolLaunch (ToolChoice Choice) Empty) →
      Decidable (CarriesRisk scope risk fleet action)
  | .start launch => inferInstanceAs (Decidable
      (launch.task.call.scope = scope → launch.task.call.risk = risk))
  | .resume _ _ => .isTrue trivial
  | .move _ => .isTrue trivial

variable {keys : KeyScheme} {scope : CallScope} {fleet : ToolFleet State}

/-- For a lawful ledger without an entry for the key, the tool is called at most
once, and whoever returns without calling it returns what it has answered. -/
theorem once_reachable {risk : ToolRisk} {initial : State} (lawful : ledger.Lawful stored)
    (empty : stored initial scope.tenantId (keys.keyFor scope) = none) (risky : risk ≠ .idempotent)
    (reached : (executing keys ledger).Steps (CarriesRisk scope risk) (unexecuted initial) fleet) :
    ∃ phases, Behaviour.Follows (executes keys) (fun _ => Returns)
      (Once keys stored scope) fleet phases := by
  refine Behaviour.Steps.follows ?_ ?_ ?_ reached ?_
  · intro fleet phases launch follows carries
    refine ⟨.waiting, obeys_execute _ rfl, ?_⟩
    by_cases here : launch.task.call.scope = scope
    · exact follows.fits.step here (carries here ▸ risky)
        (fun _ member => member) (.inl rfl) (.inl rfl) nofun nofun nofun
    · exact follows.fits.elsewhere here rfl rfl fun _ member => member
  · intro fleet phases task effect resume choice follows _ _ permitted
    exact follows.fits.respond lawful permitted choice
  · exact fun _ _ move => move.elim
  · refine ⟨fun _ => .refused, ?_, fun _ => nofun⟩
    have nobody : ∀ task, ¬ Granted scope (fun _ => Phase.refused) task := by
      rintro task ⟨_, record, begun, _⟩
      exact nomatch begun
    constructor
    · exact fun _ _ unrefused => absurd rfl unrefused
    · exact fun _ => ⟨rfl, nobody⟩
    · exact fun first _ granted => absurd granted (nobody first)
    · exact fun task granted => absurd granted (nobody task)
    · exact Nat.zero_le 1
    · exact fun _ failed => nomatch empty.symm.trans failed
    · exact fun _ _ found => nomatch empty.symm.trans found
    · exact fun _ _ _ begun => nomatch begun
    · exact fun _ _ _ called => nomatch called

def CalledAtMostOnce (keys : KeyScheme) (scope : CallScope) (fleet : ToolFleet State) : Prop :=
  fleet.state.calls (keys.keyFor scope) ≤ 1 ∧ ∀ task value, task.call.scope = scope →
      fleet.tasks task = .done (.ok value) →
      (∃ outcome, ⟨task, keys.keyFor scope, outcome⟩ ∈ fleet.state.log) ∨
        value.isSome = true ∧ fleet.state.Answered (keys.keyFor scope) value

theorem calledAtMostOnce_of_once {phases : ToolTask → Phase}
    (follows : Behaviour.Follows (executes keys) (fun _ => Returns)
      (Once keys stored scope) fleet phases) :
    CalledAtMostOnce keys scope fleet := by
  refine ⟨follows.fits.once, fun task value here returned => ?_⟩
  have obeys := follows.obeys task
  rw [returned] at obeys
  rcases obeys value rfl with ⟨outcome, called⟩ | ⟨record, begun, result, present⟩
  · exact .inl ⟨outcome, follows.fits.called task outcome here called⟩
  · obtain ⟨answer, rfl⟩ := Option.isSome_iff_exists.mp present
    exact .inr ⟨rfl, (follows.fits.record task record here begun).2 answer result⟩

end Runs

/-- Whatever workers, leases, crashes and failures of the ledger do, a tool
whose calls are not idempotent is called at most once for an execution key,
with either ledger. -/
theorem tool_called_at_most_once (keys : KeyScheme) (library : Library)
    (scope : CallScope) (risk : ToolRisk) (risky : risk ≠ .idempotent) :
    (∀ (initial : Records) (fleet : ToolFleet _), initial.records.get? (keys.keyFor scope) = none →
      (executing keys inMemoryLedger).Steps (CarriesRisk scope risk) (unexecuted initial) fleet →
      CalledAtMostOnce keys scope fleet) ∧
    (∀ (initial : PostgresExecutionLedger.Executions) (fleet : ToolFleet _),
      initial.get? (scope.tenantId, keys.keyFor scope) = none →
      (executing keys (postgresLedger library)).Steps (CarriesRisk scope risk)
        (unexecuted initial) fleet →
      CalledAtMostOnce keys scope fleet) := by
  constructor
  · intro initial fleet absent reached
    have empty : stored initial scope.tenantId (keys.keyFor scope) = none := by
      rw [stored, absent, Option.map_none]
    obtain ⟨_, follows⟩ := once_reachable lawful empty risky reached
    exact calledAtMostOnce_of_once follows
  · intro initial fleet absent reached
    have empty : PostgresExecutionLedger.stored initial scope.tenantId
        (keys.keyFor scope) = none := by
      rw [PostgresExecutionLedger.stored, absent, Option.map_none]
    obtain ⟨_, follows⟩ := once_reachable
      (PostgresExecutionLedger.lawful library) empty risky reached
    exact calledAtMostOnce_of_once follows

def transferBy (number : Nat) : ToolTask where
  number := number
  call := { scope := transfer, risk := .nonIdempotent,
            ownerId := some "worker", fencingToken := some 1 }

def transferTwice : List (Action ToolTask ToolLaunch (ToolChoice Unit) Empty) :=
  [ .start { task := transferBy 0 }, .start { task := transferBy 1 },
    .resume (transferBy 0) { ledger := () },
    .resume (transferBy 0) { ledger := (), outcome := .ok (some "done") },
    .resume (transferBy 0) { ledger := () },
    .resume (transferBy 1) { ledger := () } ]

def transferred : ToolFleet Records :=
  (executing plainKeys inMemoryLedger).play transferTwice (unexecuted .empty)

theorem transferred_once : transferred.state.calls (plainKeys.keyFor transfer) = 1 ∧
      CalledAtMostOnce plainKeys transfer transferred :=
  ⟨by decide +kernel, (tool_called_at_most_once plainKeys ⟨id, some⟩ transfer .nonIdempotent
      nofun).1 .empty transferred rfl (.play transferTwice (by decide +kernel))⟩

end TrpcService.Tool
