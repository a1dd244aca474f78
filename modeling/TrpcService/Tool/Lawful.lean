import TrpcService.Tool.Ledgers

namespace TrpcService.Tool

open Data Storage Storage.Postgres

/-! What calls that are not idempotent ask of a ledger, and that both ledgers
do it. -/

abbrev Stored (State : Type) := State → String → String → Option (ExecutionStatus × Option Json)

/-- A call that is not idempotent gets a fresh record only for an empty place,
and otherwise one that tells what is stored. -/
structure Ledger.Lawful {State Choice : Type} (ledger : Ledger State Choice)
    (stored : Stored State) : Prop where
  begin_ok : ∀ {choice key call before record after},
    ledger.begin choice key call before = .ok (record, after) →
    call.risk ≠ .idempotent →
    (record.fresh = true ∧ record.status = .started ∧ record.result = none ∧
        stored before call.scope.tenantId key = none ∧
        stored after call.scope.tenantId key = some (.started, none)) ∨
      (record.fresh = false ∧ after = before ∧ ∃ result, stored before call.scope.tenantId key =
            some (record.status, result) ∧
          (record.result = none ∨ record.result = result))
  begin_frame : ∀ {choice key call before record after tenantId other},
    ledger.begin choice key call before = .ok (record, after) →
    other ≠ key → stored after tenantId other = stored before tenantId other
  finish_ok : ∀ {choice key call status result before after},
    ledger.finish choice key call status result before = .ok ((), after) →
    ∃ kept, stored after call.scope.tenantId key = some (status, kept) ∧
      (kept = none ∨ kept = result)
  finish_frame : ∀ {choice key call status result before after tenantId other},
    ledger.finish choice key call status result before = .ok ((), after) →
    other ≠ key → stored after tenantId other = stored before tenantId other

section Answers

variable {State Choice : Type}

namespace ToolWorld

theorem begin_cases (ledger : Ledger State Choice) (task : ToolTask) (key : String)
    (call : ToolCall) (choice : ToolChoice Choice) (world : ToolWorld State) :
    ((∃ error, (world.respond ledger task (.begin key call) choice).1 = .error error) ∧
        (world.respond ledger task (.begin key call) choice).2 = world) ∨
      ∃ record state, ledger.begin choice.ledger key call world.ledger = .ok (record, state) ∧
        (world.respond ledger task (.begin key call) choice).2 = { world with ledger := state } ∧
        ((world.respond ledger task (.begin key call) choice).1 = .ok record ∨
          ∃ error, (world.respond ledger task (.begin key call) choice).1 = .error error) := by
  rcases choice.fate.transact_cases ((ledger.begin choice.ledger key call
      world.ledger).map fun answer => (answer.1, { world with ledger := answer.2 })) world with
    nothing | ⟨record, after, took, reached, told⟩
  · exact .inl nothing
  · cases began : ledger.begin choice.ledger key call world.ledger with
    | error error =>
      rw [began] at took
      cases took
    | ok answer =>
      rw [began] at took
      cases took
      exact .inr ⟨answer.1, answer.2, rfl, reached, told⟩

theorem finish_cases (ledger : Ledger State Choice) (task : ToolTask) (key : String)
    (call : ToolCall) (status : ExecutionStatus) (result : Option Json) (choice : ToolChoice Choice)
    (world : ToolWorld State) :
    (world.respond ledger task (.finish key call status result) choice).2 = world ∨
      ∃ state, ledger.finish choice.ledger key call status result world.ledger = .ok ((), state) ∧
        (world.respond ledger task (.finish key call status result)
          choice).2 = { world with ledger := state } := by
  rcases choice.fate.transact_cases ((ledger.finish choice.ledger key call status result
    world.ledger).map fun answer => ((), { world with ledger := answer.2 })) world
    with ⟨_, same⟩ | ⟨_, after, took, reached, _⟩
  · exact .inl same
  · cases ended : ledger.finish choice.ledger key call status result world.ledger with
    | error error =>
      rw [ended] at took
      cases took
    | ok answer =>
      rw [ended] at took
      cases took
      exact .inr ⟨answer.2, rfl, reached⟩

end ToolWorld

end Answers

namespace InMemoryExecutionLedger

def stored : Stored Records := fun ledger _ key =>
    (ledger.records.get? key).map fun record => (record.status, record.result)

theorem stored_put (ledger : Records) (key other tenantId : String)
    (status : ExecutionStatus) (result : Option Json) :
    stored (ledger.put key status result) tenantId other = if key = other then some (status, result)
      else stored ledger tenantId other := by
  unfold stored Records.put
  rw [Dict.get?_set]
  split
  · rfl
  · rfl

theorem lawful : inMemoryLedger.Lawful stored where
  begin_ok {_ key call before record after} begun risky := by
    revert begun
    unfold inMemoryLedger
    dsimp only
    fun_cases begin before key call.risk with
    | case1 existing found recoverable => exact absurd recoverable.2.2 risky
    | case2 existing found =>
      intro begun
      cases begun
      refine .inr ⟨before.stale key record found, rfl, record.result, ?_, .inr rfl⟩
      rw [stored, found, Option.map_some]
    | case3 absent =>
      intro begun
      cases begun
      refine .inl ⟨rfl, rfl, rfl, ?_, ?_⟩
      · rw [stored, absent, Option.map_none]
      · rw [stored_put, if_pos rfl]
  begin_frame {_ key call before record after tenantId other} begun different := by
    revert begun
    unfold inMemoryLedger
    dsimp only
    fun_cases begin before key call.risk with
    | case1 =>
      intro begun
      cases begun
      rfl
    | case2 =>
      intro begun
      cases begun
      rfl
    | case3 =>
      intro begun
      cases begun
      rw [stored_put, if_neg (Ne.symm different)]
  finish_ok {_ key call status result before after} finished := by
    cases finished
    exact ⟨result, (stored_put before key key _ status result).trans (if_pos rfl), .inr rfl⟩
  finish_frame {_ key call status result before after tenantId other} finished different := by
    cases finished
    exact (stored_put before key other tenantId status result).trans (if_neg (Ne.symm different))

end InMemoryExecutionLedger

namespace PostgresExecutionLedger

def stored : Stored Executions := fun executions tenantId key =>
    (executions.get? (tenantId, key)).map fun row => (row.status, none)

theorem stored_set (executions : Executions) (tenantId key : String)
    (row : ExecutionRow) (tenantId' key' : String) :
    stored (executions.set (tenantId, key) row) tenantId' key' =
      if (tenantId, key) = (tenantId', key') then some (row.status, none)
      else stored executions tenantId' key' := by
  unfold stored
  rw [Dict.get?_set]
  split
  · rfl
  · rfl

variable {executions : Executions} {record : ExecutionRecord}

variable {after : Executions} {key : String} {call : ToolCall}

variable {owner conflict : String} {token : Int} {reading : SessionReading}
  {existing : ExecutionRow}

theorem resolveExisting_eq_ok (risky : call.risk ≠ .idempotent)
    (resolved : resolveExisting executions key call owner token reading
      existing conflict = .ok (record, after)) :
    record = { executionKey := key, status := existing.status } ∧ after = executions := by
  revert resolved
  fun_cases resolveExisting executions key call owner token reading existing conflict with
  | case2 _ idempotent => exact absurd idempotent risky
  | case3 =>
    intro resolved
    cases resolved
    exact ⟨rfl, rfl⟩
  | case5 =>
    intro resolved
    cases resolved
    exact ⟨rfl, rfl⟩
  | case7 _ _ _ idempotent => exact absurd risky idempotent
  | _ => exact nofun

theorem resolveExisting_frame {tenantId other : String}
    (resolved : resolveExisting executions key call owner token reading
      existing conflict = .ok (record, after))
    (different : other ≠ key) :
    stored after tenantId other = stored executions tenantId other := by
  revert resolved
  fun_cases resolveExisting executions key call owner token reading existing conflict with
  | case2 =>
    intro resolved
    cases resolved
    rfl
  | case3 =>
    intro resolved
    cases resolved
    rfl
  | case5 =>
    intro resolved
    cases resolved
    rfl
  | case7 =>
    intro resolved
    cases resolved
    rw [stored_set, if_neg]
    exact fun same => different (congrArg Prod.snd same).symm
  | _ => exact nofun

theorem begin_eq_ok {library : Library} {reading : Reading}
    (begun : begin library executions key call reading = .ok (record, after)) :
    (∃ row, executions.get? (call.scope.tenantId, key) = none ∧ row.status = .started ∧
        record = { executionKey := key, status := .started, fresh := true } ∧
        after = executions.set (call.scope.tenantId, key) row) ∨
      ∃ existing owner token session conflict,
        executions.get? (call.scope.tenantId, key) = some existing ∧
        resolveExisting executions key call owner token session existing
          conflict = .ok (record, after) := by
  revert begun
  fun_cases begin library executions key call reading with
  | case3 owner token _ turnId _ place existing found =>
    exact fun resolved => .inr ⟨existing, _, _, _, _, found, resolved⟩
  | case5 owner token _ turnId _ place _ absent =>
    intro begun
    obtain ⟨rfl, rfl⟩ := Prod.mk.inj (Except.ok.inj begun)
    exact .inl ⟨_, absent, rfl, rfl, rfl⟩
  | case6 owner token _ turnId _ place _ existing found =>
    exact fun resolved => .inr ⟨existing, _, _, _, _, found, resolved⟩
  | _ => exact nofun

theorem finish_eq_ok {status : ExecutionStatus} {reading : Reading}
    (finished : finish executions key call status reading = .ok ((), after)) :
    ∃ row, row.status = status ∧ after = executions.set (call.scope.tenantId, key) row := by
  revert finished
  fun_cases finish executions key call status reading with
  | case8 =>
    intro finished
    cases finished
    exact ⟨_, rfl, rfl⟩
  | _ => exact nofun

theorem lawful (library : Library) :
    (postgresLedger library).Lawful stored where
  begin_ok {reading key call before record after} begun risky := by
    rcases begin_eq_ok begun with ⟨row, absent, started, rfl, rfl⟩ |
      ⟨existing, _, _, _, _, found, resolved⟩
    · refine .inl ⟨rfl, rfl, rfl, ?_, ?_⟩
      · rw [stored, absent, Option.map_none]
      · rw [stored_set, if_pos rfl, started]
    · obtain ⟨rfl, rfl⟩ := resolveExisting_eq_ok risky resolved
      refine .inr ⟨rfl, rfl, none, ?_, .inl rfl⟩
      rw [stored, found, Option.map_some]
  begin_frame {reading key call before record after tenantId other} begun different := by
    rcases begin_eq_ok begun with ⟨row, _, _, _, rfl⟩ | ⟨_, _, _, _, _, _, resolved⟩
    · rw [stored_set, if_neg]
      exact fun same => different (congrArg Prod.snd same).symm
    · exact resolveExisting_frame resolved different
  finish_ok {reading key call status result before after} finished := by
    obtain ⟨row, same, rfl⟩ := finish_eq_ok finished
    exact ⟨none, by rw [stored_set, if_pos rfl, same], .inl rfl⟩
  finish_frame {reading key call status result before after tenantId other} finished different := by
    obtain ⟨row, _, rfl⟩ := finish_eq_ok finished
    rw [stored_set, if_neg]
    exact fun same => different (congrArg Prod.snd same).symm

end PostgresExecutionLedger

end TrpcService.Tool
