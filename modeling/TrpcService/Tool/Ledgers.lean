import TrpcService.Tool.Execution

namespace TrpcService.Tool

open Data Storage Storage.Postgres

namespace InMemoryExecutionLedger

/-- A record is fresh for the caller who is to call the tool, never in the
ledger. -/
structure Records where
  records : Dict String ExecutionRecord
  stale : ∀ key record, records.get? key = some record → record.fresh = false

def Records.empty : Records := ⟨.empty, fun _ _ stored => nomatch stored⟩

def Records.put (ledger : Records) (key : String) (status : ExecutionStatus)
    (result : Option Json) : Records where
  records := ledger.records.set key { executionKey := key, status, result }
  stale other record stored := by
    rw [Dict.get?_set] at stored
    split at stored
    · cases stored
      rfl
    · exact ledger.stale other record stored

def begin (ledger : Records) (key : String) (risk : ToolRisk) : ExecutionRecord × Records :=
  match ledger.records.get? key with
  | some existing =>
      if existing.status = .succeeded ∧ existing.result = none ∧ risk = .idempotent then
        ({ executionKey := key, status := existing.status,
           replayTerminal := true }, ledger)
      else (existing, ledger)
  | none =>
      ({ executionKey := key, status := .started, fresh := true }, ledger.put key .started none)

def finish (ledger : Records) (key : String) (status : ExecutionStatus)
    (result : Option Json) : Records :=
  ledger.put key status result

end InMemoryExecutionLedger

def inMemoryLedger : Ledger InMemoryExecutionLedger.Records Unit where
  begin _ key call ledger := .ok (InMemoryExecutionLedger.begin ledger key call.risk)
  finish _ key _ status result ledger :=
    .ok ((), InMemoryExecutionLedger.finish ledger key status result)

namespace PostgresExecutionLedger

def leaseConflictMessage : String := "tool execution session lease is no longer current"
def ownerRequiredMessage : String := "tool execution owner_id is required for fencing"
def tokenRequiredMessage : String := "tool execution fencing_token must be a positive integer"
def crossedFenceMessage : String := "non-idempotent tool execution crossed a session fence"
def staleTokenMessage : String := "tool execution fencing token is no longer current"
def changedFenceMessage : String := "tool execution was changed while taking its fence"
def terminalStatusMessage : String := "tool execution finish requires a terminal status"
def notOwnedMessage : String := "tool execution does not exist or is no longer owned"
def finishFenceMessage : String := "tool execution finish crossed a session fence"

structure ExecutionRow where
  turnId : String
  toolName : String
  classification : ToolRisk
  argumentsHash : String
  status : ExecutionStatus
  leaseOwner : String
  leaseEpoch : Int
  deriving DecidableEq, Repr

abbrev Executions := Dict (String × String) ExecutionRow

structure TurnReading where
  sessionId : String
  processing : Bool
  fencingToken : Int

structure LeaseReading where
  owner : Option String
  epoch : Int
  valid : Bool

/-- What `_assert_active_turn` finds in the tables of sessions and turns. -/
structure SessionReading where
  turnRef : Option String
  locked : Bool
  turn : Option TurnReading
  current : Option LeaseReading

def assertActiveTurn (reading : SessionReading) (ownerId : String)
    (fencingToken : Int) : Except ToolFailure Unit :=
  match reading.turnRef, reading.turn, reading.current with
  | some sessionId, some turn, some current =>
      if reading.locked = false ∨ turn.sessionId ≠ sessionId
          ∨ turn.processing = false ∨ turn.fencingToken ≠ fencingToken
          ∨ current.owner ≠ some ownerId ∨ current.epoch ≠ fencingToken
          ∨ current.valid = false then
        .error (.toolExecutionConflict leaseConflictMessage)
      else .ok ()
  | _, _, _ => .error (.toolExecutionConflict leaseConflictMessage)

/-- The code points that `str.strip` takes off. -/
def whitespace : List Nat :=
  [9, 10, 11, 12, 13, 28, 29, 30, 31, 32, 133, 160, 5760, 8192, 8193, 8194,
    8195, 8196, 8197, 8198, 8199, 8200, 8201, 8202, 8232, 8233, 8239, 8287,
    12288]

def requireFencing (ownerId : Option String) (fencingToken : Option Int) :
    Except ToolFailure (String × Int) :=
  match ownerId with
  | none => .error (.valueError ownerRequiredMessage)
  | some owner =>
      if owner.toList.all fun character => character.toNat ∈ whitespace then
        .error (.valueError ownerRequiredMessage)
      else
        match fencingToken with
        | none => .error (.valueError tokenRequiredMessage)
        | some token =>
            if token < 1 then .error (.valueError tokenRequiredMessage)
            else .ok (owner, token)

/-- What a transaction reads in other tables, and whether its first look at
`tool_executions` came before a concurrent insert. -/
structure Reading where
  missed : Bool := false
  session : SessionReading
  /-- The reading after a conflict, and the one of the final update. -/
  later : SessionReading

/-- The rules for a row that is there.  Where the fence is another one, only an
idempotent execution is taken over. -/
def resolveExisting (executions : Executions) (key : String) (call : ToolCall) (owner : String)
    (token : Int) (reading : SessionReading) (existing : ExecutionRow) (conflict : String) :
    Except ToolFailure (ExecutionRecord × Executions) :=
  if existing.status = .succeeded then if call.risk = .idempotent then
      match assertActiveTurn reading owner token with
      | .error error => .error error
      | .ok () =>
          .ok ({ executionKey := key, status := existing.status,
                 replayTerminal := true }, executions)
    else .ok ({ executionKey := key, status := existing.status }, executions)
  else
    match assertActiveTurn reading owner token with
    | .error error => .error error
    | .ok () =>
        if existing.leaseOwner = owner ∧ existing.leaseEpoch = token then
          .ok ({ executionKey := key, status := existing.status }, executions)
        else if call.risk ≠ .idempotent then .error (.toolExecutionConflict conflict)
        else if existing.status = .started ∨ existing.status = .failed
            ∨ existing.status = .ambiguous then
          .ok ({ executionKey := key, status := .started, fresh := true },
            executions.set (call.scope.tenantId, key)
              { existing with
                leaseOwner := owner, leaseEpoch := token, status := .started })
        else .error (.toolExecutionConflict changedFenceMessage)

def begin (library : Library) (executions : Executions) (key : String) (call : ToolCall)
    (reading : Reading) : Except ToolFailure (ExecutionRecord × Executions) :=
  match requireFencing call.ownerId call.fencingToken with
  | .error error => .error error
  | .ok (owner, token) =>
      match library.parseUuid call.scope.turnId with
      | none => .error (.valueError "badly formed hexadecimal UUID string")
      | some turnId =>
          let place := (call.scope.tenantId, key)
          match reading.missed, executions.get? place with
          | false, some existing =>
              resolveExisting executions key call owner token reading.session
                existing crossedFenceMessage
          | _, newest =>
              match assertActiveTurn reading.session owner token with
              | .error error => .error error
              | .ok () =>
                  match newest with
                  | none =>
                      .ok ({ executionKey := key, status := .started,
                             fresh := true },
                        executions.set place
                          { turnId, toolName := call.scope.toolName,
                            classification := call.risk,
                            argumentsHash := call.scope.argumentsHash,
                            status := .started, leaseOwner := owner,
                            leaseEpoch := token })
                  -- A concurrent insert has won after the first look.
                  | some existing =>
                      resolveExisting executions key call owner token
                        reading.later existing staleTokenMessage

/-- The result of a call is not stored. -/
def finish (executions : Executions) (key : String) (call : ToolCall) (status : ExecutionStatus)
    (reading : Reading) : Except ToolFailure (Unit × Executions) :=
  if status = .started then .error (.valueError terminalStatusMessage)
  else
    match requireFencing call.ownerId call.fencingToken with
    | .error error => .error error
    | .ok (owner, token) =>
        match executions.get? (call.scope.tenantId, key) with
        | none => .error (.runtimeError notOwnedMessage)
        | some existing =>
            if existing.status ≠ .started then .error (.runtimeError notOwnedMessage)
            else if existing.leaseOwner ≠ owner ∨ existing.leaseEpoch ≠ token then
              .error (.toolExecutionConflict finishFenceMessage)
            else
              match assertActiveTurn reading.session owner token,
                  assertActiveTurn reading.later owner token with
              | .error error, _ => .error error
              -- The update asks for the same lease at its own time.
              | .ok (), .error _ => .error (.runtimeError notOwnedMessage)
              | .ok (), .ok () =>
                  .ok ((), executions.set (call.scope.tenantId, key) { existing with status })

end PostgresExecutionLedger

def postgresLedger (library : Library) : Ledger PostgresExecutionLedger.Executions
      PostgresExecutionLedger.Reading where
  begin reading key call executions :=
    PostgresExecutionLedger.begin library executions key call reading
  finish reading key call status _ executions :=
    PostgresExecutionLedger.finish executions key call status reading

/-- Characters are marked one by one, so the end of a text can be told. -/
def marked : List Char → List Char
  | [] => ['.']
  | character :: rest => 'c' :: character :: marked rest

theorem marked_append_inj {first second rest rest' : List Char}
    (same : marked first ++ rest = marked second ++ rest') : first = second ∧ rest = rest' := by
  induction first generalizing second with
  | nil =>
    cases second with
    | nil => exact ⟨rfl, (List.cons.inj same).2⟩
    | cons => exact absurd (List.cons.inj same).1 (by decide)
  | cons character first induction =>
    cases second with
    | nil => exact absurd (List.cons.inj same).1 (by decide)
    | cons character' second =>
      obtain ⟨rfl, remaining⟩ := List.cons.inj (List.cons.inj same).2
      obtain ⟨rfl, rfl⟩ := induction remaining
      exact ⟨rfl, rfl⟩

def plainKeys : KeyScheme where
  keyFor scope := String.ofList (marked scope.tenantId.toList
    ++ (marked scope.sessionId.toList ++ (marked scope.turnId.toList
    ++ (marked scope.toolName.toList ++ (marked scope.argumentsHash.toList
    ++ [])))))
  collisionFree first second same := by
    obtain ⟨tenant, same⟩ := marked_append_inj (String.ofList_injective same)
    obtain ⟨session, same⟩ := marked_append_inj same
    obtain ⟨turn, same⟩ := marked_append_inj same
    obtain ⟨tool, same⟩ := marked_append_inj same
    obtain ⟨arguments, _⟩ := marked_append_inj same
    cases first
    cases second
    simp only [String.toList_inj] at tenant session turn tool arguments
    subst tenant session turn tool arguments
    rfl

def transfer : CallScope where
  tenantId := "tenant"
  sessionId := "session"
  turnId := "turn"
  toolName := "transfer"
  argumentsHash := "hash"

end TrpcService.Tool
