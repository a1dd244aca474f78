import TrpcService.Data.Dict
import Mathlib.Logic.Relation

namespace TrpcService.Agent.Summaries

open Data

/-! The summaries of sessions, written after the commit of a turn by a step
that reads the stored summary first. -/

structure SummaryRow where
  upToSequence : Int
  summary : String
  version : Int := 1

abbrev SummaryTable := Dict (String × String) SummaryRow

def sequenceMessage : String := "summary sequence cannot be negative"

/-- The insertion with its conditional update, one statement. -/
def put (table : SummaryTable) (key : String × String) (upToSequence : Int) (summary : String)
    (expectedVersion : Option Int) : Except String Bool × SummaryTable :=
  if upToSequence < 0 then (.error sequenceMessage, table)
  else
    match table.get? key with
    | none => (.ok true, table.set key { upToSequence, summary })
    | some row =>
        if row.upToSequence ≤ upToSequence
            ∧ (row.upToSequence < upToSequence ∨ row.summary = summary)
            ∧ (expectedVersion.all fun version => row.version = version) then
          (.ok true, table.set key { upToSequence, summary, version := row.version + 1 })
        else (.ok false, table)

structure Turn where
  tenantId : String
  sessionId : String
  lastSequence : Option Int
  nextSequence : Int
  summary : String
  committed : ∀ sequence ∈ lastSequence, 0 ≤ sequence

namespace Turn

def key (turn : Turn) : String × String := (turn.tenantId, turn.sessionId)

def sequence (turn : Turn) : Int := turn.lastSequence.getD (max 0 (turn.nextSequence - 1))

theorem sequence_nonneg (turn : Turn) : 0 ≤ turn.sequence := by
  unfold sequence
  cases last : turn.lastSequence with
  | none => exact Int.le_max_left 0 _
  | some sequence => exact turn.committed sequence last

end Turn

/-- A step before its read, before its write, and at its end. -/
inductive Phase where
  | reading (turn : Turn)
  | writing (turn : Turn) (expectedVersion : Option Int)
  | over (turn : Turn)

def Phase.turn : Phase → Turn
  | .reading turn => turn
  | .writing turn _ => turn
  | .over turn => turn

def Phase.isOver : Phase → Bool
  | .over _ => true
  | _ => false

structure World where
  table : SummaryTable
  steps : List Phase

inductive Action where
  | commit (turn : Turn)
  | read (step : Nat)
  | write (step : Nat)

namespace World

def initial : World := ⟨.empty, []⟩

def turns (world : World) : List Turn := world.steps.map Phase.turn

def afterRead (turn : Turn) (previous : Option SummaryRow) : Phase :=
  if previous.any fun row => turn.sequence ≤ row.upToSequence then .over turn
  else .writing turn (previous.map (·.version))

def act (world : World) : Action → World
  | .commit turn => { world with steps := world.steps ++ [.reading turn] }
  | .read step =>
      match world.steps[step]? with
      | some (.reading turn) =>
          let phase := afterRead turn (world.table.get? turn.key)
          { world with steps := world.steps.set step phase }
      | _ => world
  | .write step =>
      match world.steps[step]? with
      | some (.writing turn expectedVersion) =>
          { table := (put world.table turn.key turn.sequence turn.summary
              expectedVersion).2,
            steps := world.steps.set step (.over turn) }
      | _ => world

/-- A step that read a summary and would advance it finds the version that it
read. -/
def Undisturbed (world : World) (action : Action) : Prop :=
  ∀ step turn version row, action = .write step →
    world.steps[step]? = some (.writing turn (some version)) →
    world.table.get? turn.key = some row → row.upToSequence < turn.sequence → row.version = version

def Step (world after : World) : Prop :=
  ∃ action, world.Undisturbed action ∧ after = world.act action

def Reachable (world : World) : Prop := Relation.ReflTransGen Step initial world

end World

section Put

variable {table : SummaryTable} {key other : String × String} {upToSequence : Int}
  {summary : String} {expectedVersion : Option Int} {row : SummaryRow}

variable (table key upToSequence summary expectedVersion) in
theorem put_cases : (∃ version, (put table key upToSequence summary expectedVersion).2 =
        table.set key { upToSequence, summary, version } ∧
      ∀ row, table.get? key = some row → row.upToSequence ≤ upToSequence) ∨
      (put table key upToSequence summary expectedVersion).2 = table ∧
        (0 ≤ upToSequence → ∃ row, table.get? key = some row ∧ (row.upToSequence < upToSequence →
            ∃ version, expectedVersion = some version ∧ row.version ≠ version)) := by
  unfold put
  split
  case isTrue negative => exact .inr ⟨rfl, fun positive => by omega⟩
  case isFalse =>
    split
    case h_1 absent => exact .inl ⟨1, rfl, by simp [absent]⟩
    case h_2 row found =>
      split
      case isTrue newer =>
        refine .inl ⟨_, rfl, fun other same => ?_⟩
        cases found.symm.trans same
        exact newer.1
      case isFalse refused =>
        refine .inr ⟨rfl, fun _ => ⟨row, found, fun older => ?_⟩⟩
        cases expectedVersion with
        | none => exact absurd ⟨Int.le_of_lt older, .inl older, rfl⟩ refused
        | some version =>
          refine ⟨version, rfl, fun same => refused ?_⟩
          exact ⟨Int.le_of_lt older, .inl older, decide_eq_true same⟩

theorem put_monotone (found : table.get? other = some row) :
    ∃ later, (put table key upToSequence summary expectedVersion).2.get? other =
      some later ∧ row.upToSequence ≤ later.upToSequence := by
  rcases put_cases table key upToSequence summary expectedVersion with
    ⟨version, written, newer⟩ | ⟨kept, _⟩
  · rw [written, Dict.get?_set]
    split
    case isTrue same =>
      subst same
      exact ⟨_, rfl, newer row found⟩
    case isFalse => exact ⟨row, found, Int.le_refl _⟩
  · rw [kept]
    exact ⟨row, found, Int.le_refl _⟩

end Put

namespace World

def Covers (table : SummaryTable) (turn : Turn) : Prop :=
  ∃ row, table.get? turn.key = some row ∧ turn.sequence ≤ row.upToSequence

structure Inv (world : World) : Prop where
  covered : ∀ phase ∈ world.steps, phase.isOver → Covers world.table phase.turn
  written : ∀ key row, world.table.get? key = some row →
    ∃ turn ∈ world.turns, turn.key = key ∧ turn.sequence = row.upToSequence

theorem act_monotone (world : World) (action : Action) {key : String × String} {row : SummaryRow}
    (found : world.table.get? key = some row) :
    ∃ later, (world.act action).table.get? key = some later ∧
      row.upToSequence ≤ later.upToSequence := by
  cases action with
  | commit turn => exact ⟨row, found, Int.le_refl _⟩
  | read step =>
    dsimp only [act]
    split
    · exact ⟨row, found, Int.le_refl _⟩
    · exact ⟨row, found, Int.le_refl _⟩
  | write step =>
    dsimp only [act]
    split
    · exact put_monotone found
    · exact ⟨row, found, Int.le_refl _⟩

theorem Covers.act {world : World} {turn : Turn} (covers : Covers world.table turn)
    (action : Action) : Covers (world.act action).table turn := by
  obtain ⟨row, found, covered⟩ := covers
  obtain ⟨later, stored, newer⟩ := world.act_monotone action found
  exact ⟨later, stored, Int.le_trans covered newer⟩

theorem inv_initial : initial.Inv := ⟨nofun, nofun⟩

variable {world : World} {step : Nat}

theorem turns_set {steps : List Phase} {before after : Phase}
    (here : steps[step]? = some before) (same : after.turn = before.turn) :
    (steps.set step after).map Phase.turn = steps.map Phase.turn := by
  induction steps generalizing step with
  | nil => rfl
  | cons head rest induction =>
    cases step with
    | zero =>
      cases here
      rw [List.set_cons_zero, List.map_cons, List.map_cons, same]
    | succ step => rw [List.set_cons_succ, List.map_cons, List.map_cons, induction here]

theorem Inv.move (inv : world.Inv) {before after : Phase}
    {table : SummaryTable} (here : world.steps[step]? = some before)
    (same : after.turn = before.turn)
    (kept : ∀ turn, Covers world.table turn → Covers table turn)
    (ended : after.isOver → Covers table after.turn)
    (written : ∀ key row, table.get? key = some row → world.table.get? key = some row ∨
        after.turn.key = key ∧ after.turn.sequence = row.upToSequence) :
    Inv ⟨table, world.steps.set step after⟩ where
  covered phase member closed := by
    rcases List.mem_or_eq_of_mem_set member with old | rfl
    · exact kept _ (inv.covered phase old closed)
    · exact ended closed
  written key row found := by
    rw [turns, turns_set here same]
    rcases written key row found with old | new
    · exact inv.written key row old
    · refine ⟨after.turn, ?_, new⟩
      rw [same]
      exact List.mem_map_of_mem (List.mem_of_getElem? here)

theorem inv_act (inv : world.Inv) {action : Action}
    (undisturbed : world.Undisturbed action) : (world.act action).Inv := by
  cases action with
  | commit turn =>
    refine ⟨fun phase member closed => ?_, fun key row found => ?_⟩
    · rcases List.mem_append.mp member with old | new
      · exact inv.covered phase old closed
      · cases List.mem_singleton.mp new
        cases closed
    · obtain ⟨earlier, member, written⟩ := inv.written key row found
      refine ⟨earlier, ?_, written⟩
      rw [turns, act, List.map_append]
      exact List.mem_append_left _ member
  | read step =>
    dsimp only [act]
    split
    case h_1 turn here =>
      have covered : (afterRead turn (world.table.get? turn.key)).turn = turn ∧
          ((afterRead turn (world.table.get? turn.key)).isOver → Covers world.table turn) := by
        unfold afterRead
        split
        case isTrue newer =>
          refine ⟨rfl, fun _ => ?_⟩
          cases found : world.table.get? turn.key with
          | none =>
            rw [found] at newer
            cases newer
          | some row =>
            rw [found, Option.any_some] at newer
            exact ⟨row, found, of_decide_eq_true newer⟩
        case isFalse => exact ⟨rfl, by simp [Phase.isOver]⟩
      exact inv.move here covered.1 (fun _ => id)
        (fun closed => covered.1.symm ▸ covered.2 closed) fun _ _ => .inl
    case h_2 => exact inv
  | write step =>
    have kept (turn : Turn) (covers : Covers world.table turn) := covers.act (.write step)
    dsimp only [act] at kept ⊢
    split
    case h_1 turn expectedVersion here =>
      rw [here] at kept
      rcases put_cases world.table turn.key turn.sequence turn.summary
        expectedVersion with ⟨version, written, _⟩ | ⟨refused, stale⟩
      · refine inv.move here rfl kept (fun _ => ?_) fun key row found => ?_
        · rw [written]
          exact ⟨_, Dict.get?_set_self .., Int.le_refl _⟩
        · rw [written, Dict.get?_set] at found
          split at found
          case isTrue same =>
            cases found
            exact .inr ⟨same, rfl⟩
          case isFalse => exact .inl found
      · refine inv.move here rfl kept (fun _ => ?_) fun key row found => ?_
        · obtain ⟨row, found, behind⟩ := stale turn.sequence_nonneg
          rw [refused]
          refine ⟨row, found, Int.not_lt.mp fun older => ?_⟩
          obtain ⟨version, rfl, different⟩ := behind older
          exact different (undisturbed step turn version row rfl here found older)
        · rw [refused] at found
          exact .inl found
    case h_2 => exact inv

theorem inv_reachable (reachable : world.Reachable) : world.Inv := by
  induction reachable with
  | refl => exact inv_initial
  | tail _ step inv =>
    obtain ⟨action, undisturbed, rfl⟩ := step
    exact inv_act inv undisturbed

/-- In every run in which no step that would advance the summary meets a
version that it did not read, the summary of a session is that of its latest
turn when all steps are over; it never goes back in any run. -/
theorem summary_covers_latest_turn {world : World} (reachable : world.Reachable) :
    ((∀ phase ∈ world.steps, phase.isOver) →
        ∀ turn ∈ world.turns, ∃ row, world.table.get? turn.key = some row ∧
          (∀ other ∈ world.turns, other.key = turn.key → other.sequence ≤ row.upToSequence) ∧
          ∃ other ∈ world.turns, other.key = turn.key ∧ other.sequence = row.upToSequence) ∧
      ∀ (earlier : World) action key row, earlier.table.get? key = some row →
        ∃ later, (earlier.act action).table.get? key = some later ∧
          row.upToSequence ≤ later.upToSequence := by
  refine ⟨fun closed turn member => ?_, fun earlier action key row => earlier.act_monotone action⟩
  have inv := inv_reachable reachable
  have covered : ∀ turn ∈ world.turns, Covers world.table turn := by
    intro turn member
    obtain ⟨phase, present, rfl⟩ := List.mem_map.mp member
    exact inv.covered phase present (closed phase present)
  obtain ⟨row, found, _⟩ := covered turn member
  refine ⟨row, found, fun other present same => ?_, inv.written _ row found⟩
  obtain ⟨stored, also, reached⟩ := covered other present
  rw [same] at also
  cases found.symm.trans also
  exact reached

def turnAt (sequence : Nat) : Turn where
  tenantId := "tenant"
  sessionId := "session"
  lastSequence := some sequence
  nextSequence := sequence + 1
  summary := "text"
  committed _ last := by
    cases last
    exact Int.natCast_nonneg sequence

def play (actions : List Action) : World := actions.foldl act initial

theorem Reachable.act (reachable : world.Reachable) (action : Action)
    (undisturbed : world.Undisturbed action) : (world.act action).Reachable :=
  reachable.tail ⟨action, undisturbed, rfl⟩

def inOrder : List Action :=
  [.commit (turnAt 3), .read 0, .write 0, .commit (turnAt 5), .read 1, .write 1,
    .commit (turnAt 8), .read 2, .write 2]

theorem Reachable.turn (reachable : world.Reachable) (sequence step : Nat)
    (undisturbed : ((world.act (.commit (turnAt sequence))).act (.read step)).Undisturbed
      (.write step)) :
    (((world.act (.commit (turnAt sequence))).act (.read step)).act (.write step)).Reachable := by
  refine ((reachable.act _ ?_).act _ ?_).act _ undisturbed
  · rintro _ _ _ _ ⟨⟩
  · rintro _ _ _ _ ⟨⟩

/-- The second and the third turn advance the version that they read. -/
theorem turns_in_order_covered :
    ∃ row, (play inOrder).table.get? ("tenant", "session") = some row ∧ row.version = 3 ∧
      ∀ other ∈ (play inOrder).turns, other.key = ("tenant", "session") →
        other.sequence ≤ row.upToSequence := by
  have reachable : (play inOrder).Reachable := by
    refine .turn (.turn (.turn .refl 3 0 ?_) 5 1 ?_) 8 2 ?_
    · rintro _ _ _ _ ⟨⟩ ⟨⟩
    all_goals
      rintro _ _ _ _ ⟨⟩ ⟨⟩ ⟨⟩ _
      rfl
  have first : turnAt 3 ∈ (play inOrder).turns :=
    show turnAt 3 ∈ [turnAt 3, turnAt 5, turnAt 8] from List.mem_cons_self
  obtain ⟨row, found, covers, _⟩ :=
    (summary_covers_latest_turn reachable).1 (by decide) (turnAt 3) first
  refine ⟨row, found, ?_, covers⟩
  cases found
  rfl

def overlapping : List Action := [.commit (turnAt 3), .read 0, .write 0, .commit (turnAt 5),
    .commit (turnAt 8), .read 1, .read 2, .write 1, .write 2]

theorem overlapping_turn_not_covered : (∀ phase ∈ (play overlapping).steps, phase.isOver) ∧
      (play overlapping).turns.map Turn.sequence = [3, 5, 8] ∧
      ((play overlapping).table.get? ("tenant", "session")).map (·.upToSequence) = some 5 := by
  decide

end World

end TrpcService.Agent.Summaries
