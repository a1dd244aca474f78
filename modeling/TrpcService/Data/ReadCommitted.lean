import TrpcService.Data.Coroutine
import TrpcService.Data.Dict

namespace TrpcService.Data

/-! Transactions at the isolation level READ COMMITTED.  A statement sees what
is committed when it runs, under the changes of its own transaction; the rows
it locks stay locked to the end of the transaction. -/

structure Schema (Tables Change Lock Time Statement : Type)
    (Answer : Statement → Type) (Error : Type) where
  apply : Change → Tables → Tables
  locks : Statement → Tables → List Lock
  /-- What a statement does, by the start of its transaction, the time and what
  it sees. -/
  run : (statement : Statement) → Time → Time → Tables →
    Except Error (Answer statement × List Change)

structure Session (Change Lock Time : Type) where
  startedAt : Time
  changes : List Change := []
  locks : List Lock := []

structure Database (Tables Change Lock Time Name : Type) [DecidableEq Name]
    where
  tables : Tables
  sessions : Dict Name (Session Change Lock Time)
  clock : Time

inductive Command (Statement : Type) where
  | begin
  | run (statement : Statement)
  | commit
  | rollback

@[reducible] def Command.Answer {Statement : Type}
    (Answer : Statement → Type) : Command Statement → Type
  | .begin => Unit
  | .run statement => Answer statement
  | .commit => Unit
  | .rollback => Unit

namespace Database

variable {Tables Change Lock Time Name : Type} [DecidableEq Name]

variable (database : Database Tables Change Lock Time Name)

def keep (name : Name) (session : Session Change Lock Time) :
    Database Tables Change Lock Time Name :=
  { database with sessions := database.sessions.set name session }

def close (name : Name) : Database Tables Change Lock Time Name :=
  { database with sessions := database.sessions.erase name }

end Database

namespace Schema

variable {Tables Change Lock Time Statement Name : Type} {Answer : Statement → Type}
  {Error α : Type} [DecidableEq Name]
  (schema : Schema Tables Change Lock Time Statement Answer Error)

def applyAll (changes : List Change) (tables : Tables) : Tables :=
  changes.foldl (fun tables change => schema.apply change tables) tables

def view (session : Session Change Lock Time) (tables : Tables) : Tables :=
  schema.applyAll session.changes tables

/-- What is asked of a connection without a transaction fails. -/
def respond (closed : Error) (name : Name) (command : Command Statement)
    (database : Database Tables Change Lock Time Name) :
    Except Error (command.Answer Answer) × Database Tables Change Lock Time Name :=
  match command with
  | .begin => (.ok (), database.keep name { startedAt := database.clock })
  | .run statement =>
      match database.sessions.get? name with
      | none => (.error closed, database)
      | some session =>
          let seen := schema.view session database.tables
          let locked := { session with
            locks := schema.locks statement seen ++ session.locks }
          match schema.run statement session.startedAt database.clock seen with
          | .error error => (.error error, database.keep name locked)
          | .ok (answer, changes) => (.ok answer, database.keep name
              { locked with changes := session.changes ++ changes })
  | .commit =>
      match database.sessions.get? name with
      | none => (.error closed, database)
      | some session =>
          (.ok (), { database.close name with
            tables := schema.view session database.tables })
  | .rollback => (.ok (), database.close name)

def alone (startedAt clock : Time) (statement : Statement) (tables : Tables) :
    Except Error (Answer statement) × Tables :=
  match schema.run statement startedAt clock tables with
  | .error error => (.error error, tables)
  | .ok (answer, changes) => (.ok answer, schema.applyAll changes tables)

def transact (startedAt clock : Time) (body : Coroutine Statement Answer Error α)
    (tables : Tables) : Except Error α × Tables :=
  match execute (schema.alone startedAt clock) body tables with
  | (.ok value, after) => (.ok value, after)
  | (.error error, _) => (.error error, tables)

variable {schema} {startedAt clock : Time} {body : Coroutine Statement Answer Error α}
  {tables after : Tables}

theorem transact_eq_ok {value : α} :
    schema.transact startedAt clock body tables = (.ok value, after) ↔
      execute (schema.alone startedAt clock) body tables = (.ok value, after) := by
  rw [transact]
  match execute (schema.alone startedAt clock) body tables with
  | (.ok _, _) => exact .rfl
  | (.error _, _) => exact ⟨nofun, nofun⟩

theorem transact_error {error : Error}
    (raises : (schema.transact startedAt clock body tables).1 = .error error) :
    (schema.transact startedAt clock body tables).2 = tables := by
  revert raises
  rw [transact]
  match execute (schema.alone startedAt clock) body tables with
  | (.ok _, _) => exact nofun
  | (.error _, _) => exact fun _ => rfl

theorem alone_eq_ok {statement : Statement} {answer : Answer statement} :
    schema.alone startedAt clock statement tables = (.ok answer, after) ↔
      ∃ changes, schema.run statement startedAt clock tables =
          .ok (answer, changes) ∧ after = schema.applyAll changes tables := by
  rw [alone]
  match schema.run statement startedAt clock tables with
  | .error _ => exact ⟨nofun, nofun⟩
  | .ok (other, changes) =>
    constructor
    · rintro ⟨⟩
      exact ⟨changes, rfl, rfl⟩
    · rintro ⟨_, ⟨⟩, rfl⟩
      rfl

end Schema

end TrpcService.Data
