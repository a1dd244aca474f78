import Mathlib.Logic.Relation
import TrpcService.Storage.Models

namespace TrpcService.Faults

open Data Storage

/-! One-shot checkpoints for fault injection: controls that are armed, entered
by a checkpoint, and released or expired. -/

inductive FaultStage where
  | enqueue
  | tool
  | commitTxnOpen
  deriving DecidableEq, Repr

structure Target where
  workerId : String
  inboundId : Option String := none
  turnId : Option String := none
  executionKey : Option String := none
  streamId : Option String := none
  fencingToken : Option Int := none
  deriving DecidableEq, Repr

structure FaultStageEvent where
  stage : FaultStage
  tenantId : String
  target : Target
  deriving DecidableEq, Repr

structure PostgresFaultStageController where
  runId : String
  runToken : String
  waitTimeout : Time
  deriving DecidableEq, Repr

inductive Status where
  | armed
  | entered
  | released
  | expired
  deriving DecidableEq, Repr

/-- A row; times and markers that no statement reads are left out. -/
structure Control where
  tenantId : String
  runId : String
  stage : FaultStage
  targetFingerprint : String
  target : Target
  tokenHash : String
  status : Status
  expiresAt : Time
  deriving DecidableEq, Repr

abbrev ControlKey := String × String

abbrev ControlTable := Dict ControlKey Control

structure Clocks where
  database : Time
  wall : Time
  monotonic : Time
  deriving DecidableEq, Repr

/-- Where a call of `checkpoint` is: before its update, before a look at the
control it entered, before it marks that as expired, and at its end. -/
inductive Phase where
  | entering
  | polling (control : ControlKey) (deadline : Time)
  | expiring (control : ControlKey)
  | returned (control : Option ControlKey) (released : Bool)
  | raised (control : Option ControlKey)
  deriving DecidableEq, Repr

structure Call where
  controller : PostgresFaultStageController
  event : FaultStageEvent
  phase : Phase := .entering
  deriving DecidableEq, Repr

inductive Occurrence where
  | armed (control : ControlKey) (expiresAt : Time)
  | entered (control : ControlKey) (call : Nat)
  | released (control : ControlKey) (controller : PostgresFaultStageController) (time : Time)
  deriving DecidableEq, Repr

structure World where
  table : ControlTable := .empty
  calls : List Call := []
  log : List Occurrence := []

open World

inductive Action where
  | arm (controller : PostgresFaultStageController) (event : FaultStageEvent)
      (controlId : String) (expiresAt now : Time)
  | checkpoint (controller : PostgresFaultStageController) (event : FaultStageEvent)
  /-- A call goes on by one statement; it may never learn of its outcome. -/
  | resume (call : Nat) (clocks : Clocks) (lost : Bool)
  | release (controller : PostgresFaultStageController) (control : ControlKey) (now : Time)
  | cleanupExpired (tenantId : String) (controlIds : List String) (now : Time)

section Statements

variable (hashToken : String → String) (targetFingerprint : Target → String)

def arm (controller : PostgresFaultStageController) (event : FaultStageEvent) (controlId : String)
    (expiresAt now : Time) (table : ControlTable) : Option ControlTable :=
  let control : Control :=
    { tenantId := event.tenantId
      runId := controller.runId
      stage := event.stage
      targetFingerprint := targetFingerprint event.target
      target := event.target
      tokenHash := hashToken controller.runToken
      status := .armed
      expiresAt }
  if now < expiresAt ∧ expiresAt ≤ now + seconds 300 ∧
      table.get? (event.tenantId, controlId) = none ∧
      table.values.all fun other =>
        (other.tenantId, other.runId, other.stage, other.targetFingerprint) ≠
          (control.tenantId, control.runId, control.stage, control.targetFingerprint) then
    some (table.set (event.tenantId, controlId) control)
  else none

variable (call : Call)

def addressed (control : Control) : Bool := control.tenantId = call.event.tenantId ∧
    control.runId = call.controller.runId ∧
    control.tokenHash = hashToken call.controller.runToken ∧
    control.stage = call.event.stage ∧
    control.targetFingerprint = targetFingerprint call.event.target

def enters (now : Time) (control : Control) : Bool :=
  addressed hashToken targetFingerprint call control ∧
    control.status = .armed ∧ now < control.expiresAt ∧
    control.target = call.event.target

/-- `RETURNING control_id, expires_at`. -/
def entered (now : Time) (table : ControlTable) : List (ControlKey × Control) :=
  table.entries.filter fun entry => enters hashToken targetFingerprint call now entry.2

def enter (now : Time) (table : ControlTable) : ControlTable :=
  table.mapValues fun control => if enters hashToken targetFingerprint call now control then
      { control with status := .entered }
    else control

def look (control : ControlKey) (table : ControlTable) : Option Control :=
  (table.get? control).filter (addressed hashToken targetFingerprint call)

def updateStatus (control : ControlKey) (condition : Control → Bool)
    (status : Status) (table : ControlTable) : ControlTable :=
  match table.get? control with
  | none => table
  | some row => if condition row then table.set control { row with status } else table

def markExpired (call : Call) (control : ControlKey) (table : ControlTable) : ControlTable :=
  updateStatus control (fun row =>
    addressed hashToken targetFingerprint call row ∧ row.status = .entered)
    .expired table

def releases (controller : PostgresFaultStageController) (now : Time) (row : Control) : Bool :=
  row.runId = controller.runId ∧ row.tokenHash = hashToken controller.runToken ∧
    row.status = .entered ∧ now < row.expiresAt

/-- Which candidates there are depends on the limit and on locks of others. -/
def cleanupExpired (tenantId : String) (now : Time) : List String → ControlTable → ControlTable
  | [], table => table
  | controlId :: rest, table =>
      let cleaned :=
        if (table.get? (tenantId, controlId)).any fun row => row.expiresAt ≤ now then
          table.erase (tenantId, controlId)
        else table
      cleanupExpired tenantId now rest cleaned

def afterLook (control : ControlKey) (deadline : Time) (clocks : Clocks) : Option Control → Phase
  | none => .returned (some control) false
  | some row =>
      match row.status with
      | .released => .returned (some control) true
      | .expired => .returned (some control) false
      | .armed => .returned (some control) false
      | .entered =>
          if row.expiresAt ≤ clocks.wall ∨ deadline ≤ clocks.monotonic then .expiring control
          else .polling control deadline

def afterEnter (controller : PostgresFaultStageController) (clocks : Clocks) :
    List (ControlKey × Control) → Phase
  | [] => .returned none false
  | (control, row) :: _ =>
      .polling control (clocks.monotonic +
        min controller.waitTimeout (max 0 (row.expiresAt - clocks.wall)))

def Phase.control : Phase → Option ControlKey
  | .entering => none
  | .polling control _ => some control
  | .expiring control => some control
  | .returned control _ => control
  | .raised control => control

def Phase.isOver : Phase → Bool
  | .returned _ _ => true
  | .raised _ => true
  | _ => false

def advance (index : Nat) (call : Call) (clocks : Clocks)
    (table : ControlTable) : ControlTable × Phase × List Occurrence :=
  match call.phase with
  | .entering =>
      let rows := entered hashToken targetFingerprint call clocks.database table
      (enter hashToken targetFingerprint call clocks.database table,
        afterEnter call.controller clocks rows,
        rows.map fun row => .entered row.1 index)
  | .polling control deadline =>
      (table, afterLook control deadline clocks
        (look hashToken targetFingerprint call control table), [])
  | .expiring control =>
      (markExpired hashToken targetFingerprint call control table,
        .returned (some control) false, [])
  | phase => (table, phase, [])

namespace World

def resume (world : World) (index : Nat) (clocks : Clocks) (lost : Bool) : World :=
  match world.calls[index]? with
  | none => world
  | some call =>
      if call.phase.isOver then world
      else
        let (table, phase, occurrences) :=
          advance hashToken targetFingerprint index call clocks world.table
        let phase := if lost then .raised phase.control else phase
        { table
          calls := world.calls.set index { call with phase }
          log := world.log ++ occurrences }

def act (world : World) : Action → World
  | .arm controller event controlId expiresAt now =>
      match arm hashToken targetFingerprint controller event controlId
          expiresAt now world.table with
      | none => world
      | some table =>
          { world with
            table
            log := world.log ++ [.armed (event.tenantId, controlId) expiresAt] }
  | .checkpoint controller event => { world with calls := world.calls ++ [{ controller, event }] }
  | .resume index clocks lost => world.resume hashToken targetFingerprint index clocks lost
  | .release controller control now =>
      let matched := (world.table.get? control).any (releases hashToken controller now)
      { world with
        table := updateStatus control (releases hashToken controller now)
          .released world.table
        log :=
          if matched then
            world.log ++ [.released control controller now]
          else world.log }
  | .cleanupExpired tenantId controlIds now =>
      { world with
        table := Faults.cleanupExpired tenantId now controlIds world.table }

/-- `uuid4` does not repeat itself. -/
def Draws (world : World) : Action → Prop
  | .arm _ event controlId _ _ => ∀ expiresAt,
      .armed (event.tenantId, controlId) expiresAt ∉ world.log
  | _ => True

def Step (before after : World) : Prop := ∃ action, before.Draws action ∧
    after = before.act hashToken targetFingerprint action

def Reachable : World → Prop := Relation.ReflTransGen (Step hashToken targetFingerprint) {}

end World

end Statements

/-- How the status of a control may change; without a row there is none. -/
inductive Moves : Option Status → Option Status → Prop
  | stays (status : Option Status) : Moves status status
  | arms : Moves none (some .armed)
  | enters : Moves (some .armed) (some .entered)
  | releases : Moves (some .entered) (some .released)
  | expires : Moves (some .entered) (some .expired)
  | deleted (status : Status) : Moves (some status) none

def status? (table : ControlTable) (control : ControlKey) : Option Status :=
  (table.get? control).map Control.status

variable {now expiresAt : Time} {row : Control} {controller : PostgresFaultStageController}

variable {call : Call}

section Statuses

variable {hashToken : String → String} {targetFingerprint : Target → String} {table : ControlTable}
  {control other : ControlKey}

variable {condition : Control → Bool} {status : Status}

theorem updateStatus_cases (row : Control)
    (found : (updateStatus control condition status table).get? other = some row) :
    table.get? other = some row ∨
      ∃ before, table.get? other = some before ∧ condition before = true ∧
        other = control ∧ row = { before with status } := by
  revert found
  fun_cases updateStatus control condition status table with
  | case1 => exact .inl
  | case2 before present holds =>
    intro found
    rw [Dict.get?_set] at found
    split at found
    case isTrue same =>
      subst same
      cases found
      exact .inr ⟨before, present, holds, rfl, rfl⟩
    case isFalse => exact .inl found
  | case3 => exact .inl

theorem updateStatus_absent (absent : table.get? other = none) :
    (updateStatus control condition status table).get? other = none := by
  refine Option.eq_none_iff_forall_ne_some.mpr fun row found => ?_
  rcases updateStatus_cases row found with same | ⟨before, present, _⟩
  · cases absent.symm.trans same
  · cases absent.symm.trans present

theorem moves_updateStatus (entered : ∀ row, condition row = true → row.status = .entered)
    (ends : status = .released ∨ status = .expired) :
    Moves (status? table other) (status? (updateStatus control condition status table) other) := by
  fun_cases updateStatus control condition status table with
  | case1 => exact .stays _
  | case2 before present holds =>
    unfold status?
    rw [Dict.get?_set]
    split
    case isTrue same =>
      subst same
      rw [present, Option.map_some, entered before holds]
      rcases ends with rfl | rfl
      · exact .releases
      · exact .expires
    case isFalse => exact .stays _
  | case3 => exact .stays _

theorem get?_cleanupExpired {tenantId : String} {controlIds : List String} :
    (cleanupExpired tenantId now controlIds table).get? other = table.get? other ∨
      (cleanupExpired tenantId now controlIds table).get? other = none := by
  induction controlIds generalizing table with
  | nil => exact .inl rfl
  | cons controlId rest induction =>
    rw [cleanupExpired]
    split
    case isFalse => exact induction
    case isTrue =>
      rcases induction with same | gone
      · rw [same, Dict.get?_erase]
        split
        · exact .inr rfl
        · exact .inl rfl
      · exact .inr gone

theorem enters_armed (enters : enters hashToken targetFingerprint call now row = true) :
    row.status = .armed :=
  (of_decide_eq_true enters).2.1

theorem moves_advance (index : Nat) (call : Call) (clocks : Clocks)
    (table : ControlTable) (control : ControlKey) :
    Moves (status? table control) (status? (advance hashToken targetFingerprint index call clocks
        table).1 control) := by
  unfold advance
  split
  case h_1 =>
    unfold status? enter
    rw [Dict.get?_mapValues]
    cases table.get? control with
    | none => exact .stays _
    | some row =>
      rw [Option.map_some, Option.map_some, Option.map_some]
      split
      case isTrue matched =>
        rw [enters_armed matched]
        exact .enters
      case isFalse => exact .stays _
  case h_2 => exact .stays _
  case h_3 =>
    apply moves_updateStatus
    · intro row holds
      exact (of_decide_eq_true holds).2
    · exact .inr rfl
  case h_4 => exact .stays _

theorem arm_eq_some {event : FaultStageEvent} {controlId : String} {after : ControlTable}
    (inserted : arm hashToken targetFingerprint controller event controlId
      expiresAt now table = some after) :
    table.get? (event.tenantId, controlId) = none ∧
      ∃ row, after = table.set (event.tenantId, controlId) row ∧
        row.status = .armed ∧ row.expiresAt = expiresAt := by
  unfold arm at inserted
  dsimp only at inserted
  split at inserted
  case isTrue free =>
    cases inserted
    exact ⟨free.2.2.1, _, rfl, rfl, rfl⟩
  case isFalse => cases inserted

theorem moves_act (world : World) (action : Action) (control : ControlKey) :
    Moves (status? world.table control)
      (status? (world.act hashToken targetFingerprint action).table control) := by
  cases action with
  | checkpoint controller event => exact .stays _
  | arm controller event controlId expiresAt now =>
    dsimp only [act]
    split
    case h_1 => exact .stays _
    case h_2 after inserted =>
      obtain ⟨free, row, rfl, armed, _⟩ := arm_eq_some inserted
      dsimp only [status?]
      rw [Dict.get?_set]
      split
      case isTrue same =>
        rw [← same, free, Option.map_some, armed]
        exact .arms
      case isFalse => exact .stays _
  | resume index clocks lost =>
    dsimp only [act, resume]
    split
    case h_1 => exact .stays _
    case h_2 call _ =>
      split
      · exact .stays _
      · exact moves_advance index call clocks world.table control
  | release controller released now =>
    apply moves_updateStatus
    · intro row holds
      exact (of_decide_eq_true holds).2.2.1
    · exact .inl rfl
  | cleanupExpired tenantId controlIds now =>
    dsimp only [act, status?]
    rcases get?_cleanupExpired with same | gone
    · rw [same]
      exact .stays _
    · rw [gone]
      cases world.table.get? control with
      | none => exact .stays _
      | some row => exact .deleted _

end Statuses

section Invariant

variable (hashToken : String → String)

structure Released (log : List Occurrence) (control : ControlKey)
    (runId tokenHash : String) (controller : PostgresFaultStageController)
    (time : Time) : Prop where
  occurred : .released control controller time ∈ log
  run : controller.runId = runId
  token : hashToken controller.runToken = tokenHash
  timely : ∀ expiresAt, .armed control expiresAt ∈ log → time < expiresAt

structure Tells (log : List Occurrence) (table : ControlTable) : Prop where
  armed : ∀ control row, table.get? control = some row → .armed control row.expiresAt ∈ log
  once : ∀ control first second, .armed control first ∈ log →
    .armed control second ∈ log → first = second
  fresh : ∀ control row, table.get? control = some row →
    row.status = .armed → ∀ call, .entered control call ∉ log
  known : ∀ control call, .entered control call ∈ log → ∃ expiresAt, .armed control expiresAt ∈ log
  single : ∀ control first second, .entered control first ∈ log →
    .entered control second ∈ log → first = second
  released : ∀ control row, table.get? control = some row →
    row.status = .released → ∃ controller time,
      Released hashToken log control row.runId row.tokenHash controller time

structure Explains (log : List Occurrence) (index : Nat) (call : Call) : Prop where
  entered : ∀ control, call.phase.control = some control → .entered control index ∈ log
  released : ∀ control, call.phase = .returned control true →
    ∃ key controller time, control = some key ∧ Released hashToken log key call.controller.runId
        (hashToken call.controller.runToken) controller time

/-- More has happened, but no control was armed again. -/
structure Extends (log later : List Occurrence) : Prop where
  kept : ∀ occurrence ∈ log, occurrence ∈ later
  armed : ∀ control expiresAt known, .armed control expiresAt ∈ later →
    .armed control known ∈ log → .armed control expiresAt ∈ log

variable {hashToken} {log later : List Occurrence} {table : ControlTable} {control : ControlKey}

theorem Released.extend {runId tokenHash : String} {time known : Time}
    (released : Released hashToken log control runId tokenHash controller time)
    (grows : Extends log later) (armed : .armed control known ∈ log) :
    Released hashToken later control runId tokenHash controller time where
  occurred := grows.kept _ released.occurred
  run := released.run
  token := released.token
  timely expiresAt member := released.timely expiresAt
    (grows.armed control expiresAt known member armed)

variable {index : Nat}

theorem Explains.extend (tells : Tells hashToken log table)
    (grows : Extends log later) (explains : Explains hashToken log index call) :
    Explains hashToken later index call where
  entered control at_ := grows.kept _ (explains.entered control at_)
  released control over_ := by
    obtain ⟨key, controller, time, rfl, released⟩ := explains.released control over_
    have entered := explains.entered key (by rw [over_]; rfl)
    obtain ⟨expiresAt, armed⟩ := tells.known key index entered
    exact ⟨key, controller, time, rfl, released.extend grows armed⟩

theorem Tells.update {after : ControlTable} (tells : Tells hashToken log table)
    (rows : ∀ control row, after.get? control = some row → table.get? control = some row ∨ ∃ before,
        table.get? control = some before ∧ row.expiresAt = before.expiresAt ∧
        row.status ≠ .armed ∧ (row.status = .released → ∃ controller time,
          Released hashToken log control row.runId row.tokenHash controller
            time)) : Tells hashToken log after where
  armed control row found := by
    rcases rows control row found with same | ⟨before, present, expiry, _⟩
    · exact tells.armed control row same
    · rw [expiry]
      exact tells.armed control before present
  once := tells.once
  fresh control row found armed := by
    rcases rows control row found with same | ⟨before, _, _, left, _⟩
    · exact tells.fresh control row same armed
    · exact absurd armed left
  known := tells.known
  single := tells.single
  released control row found released := by
    rcases rows control row found with same | ⟨before, _, _, _, evidence⟩
    · exact tells.released control row same released
    · exact evidence released

theorem Tells.extend (tells : Tells hashToken log table) (grows : Extends log later)
    (armed : ∀ control expiresAt, .armed control expiresAt ∈ later → .armed control expiresAt ∈ log)
    (entered : ∀ control call, .entered control call ∈ later →
      .entered control call ∈ log) : Tells hashToken later table where
  armed control row found := grows.kept _ (tells.armed control row found)
  once control first second left right :=
    tells.once control first second (armed _ _ left) (armed _ _ right)
  fresh control row found status call member :=
    tells.fresh control row found status call (entered _ _ member)
  known control call member := by
    obtain ⟨expiresAt, known⟩ := tells.known control call (entered _ _ member)
    exact ⟨expiresAt, grows.kept _ known⟩
  single control first second left right :=
    tells.single control first second (entered _ _ left) (entered _ _ right)
  released control row found status := by
    obtain ⟨controller, time, released⟩ := tells.released control row found status
    exact ⟨controller, time, released.extend grows (tells.armed control row found)⟩

variable (hashToken) in
structure Inv (world : World) : Prop where
  tells : Tells hashToken world.log world.table
  explains : ∀ index call, world.calls[index]? = some call → Explains hashToken world.log index call

variable {targetFingerprint : Target → String} {world : World}

theorem extends_append (occurrences : List Occurrence)
    (unarmed : ∀ control expiresAt, .armed control expiresAt ∉ occurrences) :
    Extends log (log ++ occurrences) where
  kept _ := List.mem_append_left _
  armed control expiresAt _ member _ :=
    (List.mem_append.mp member).resolve_right (unarmed control expiresAt)

theorem extends_arm (drawn : ∀ expiresAt, .armed control expiresAt ∉ log) :
    Extends log (log ++ [.armed control expiresAt]) where
  kept _ := List.mem_append_left _
  armed other time known member before := by
    rcases List.mem_append.mp member with old | new
    · exact old
    · cases List.mem_singleton.mp new
      exact absurd before (drawn known)

theorem tells_arm (tells : Tells hashToken log table)
    (drawn : ∀ expiresAt, .armed control expiresAt ∉ log) (armed : row.status = .armed) :
    Tells hashToken (log ++ [.armed control row.expiresAt]) (table.set control row) := by
  have rows (other : ControlKey) (stored : Control) (found : (table.set control row).get? other =
    some stored) : control = other ∧ row = stored ∨ table.get? other = some stored := by
    rw [Dict.get?_set] at found
    split at found
    case isTrue same => exact .inl ⟨same, Option.some.inj found⟩
    case isFalse => exact .inr found
  have entered (other : ControlKey) (call : Nat)
      (member : .entered other call ∈ log ++ [.armed control row.expiresAt]) :
      .entered other call ∈ log := by simpa using member
  refine ⟨?_, ?_, ?_, ?_, ?_, ?_⟩
  · intro other stored found
    rcases rows other stored found with ⟨rfl, rfl⟩ | old
    · simp
    · exact List.mem_append_left _ (tells.armed other stored old)
  · intro other first second left right
    simp only [List.mem_append, List.mem_singleton, Occurrence.armed.injEq] at left right
    rcases left with left | ⟨rfl, rfl⟩
    · rcases right with right | ⟨rfl, rfl⟩
      · exact tells.once other first second left right
      · exact absurd left (drawn _)
    · rcases right with right | ⟨_, rfl⟩
      · exact absurd right (drawn _)
      · rfl
  · intro other stored found status call member
    have member := entered other call member
    rcases rows other stored found with ⟨rfl, rfl⟩ | old
    · obtain ⟨expiresAt, known⟩ := tells.known control call member
      exact drawn expiresAt known
    · exact tells.fresh other stored old status call member
  · intro other call member
    obtain ⟨expiresAt, known⟩ := tells.known other call (entered _ _ member)
    exact ⟨expiresAt, List.mem_append_left _ known⟩
  · intro other first second left right
    exact tells.single other first second (entered _ _ left)
      (entered _ _ right)
  · intro other stored found status
    rcases rows other stored found with ⟨rfl, rfl⟩ | old
    · cases armed.symm.trans status
    · obtain ⟨controller, time, released⟩ := tells.released other stored old status
      exact ⟨controller, time, released.extend (extends_arm drawn) (tells.armed other stored old)⟩

theorem mem_entered : (control, row) ∈ entered hashToken targetFingerprint call now table ↔
      table.get? control = some row ∧ enters hashToken targetFingerprint call now row = true := by
  rw [entered, List.mem_filter, Dict.mem_entries_iff]

theorem tells_enter (tells : Tells hashToken log table) : Tells hashToken
      (log ++ (entered hashToken targetFingerprint call now table).map
        fun row => .entered row.1 index)
      (enter hashToken targetFingerprint call now table) := by
  have enters (control : ControlKey) (other : Nat) (member : .entered control other ∈ log ++
    (entered hashToken targetFingerprint call now table).map fun row => .entered row.1 index) :
    .entered control other ∈ log ∨ other = index ∧ ∃ row, table.get? control = some row ∧
    enters hashToken targetFingerprint call now row = true := by
    rcases List.mem_append.mp member with old | new
    · exact .inl old
    · obtain ⟨⟨key, row⟩, among, same⟩ := List.mem_map.mp new
      cases same
      exact .inr ⟨rfl, row, mem_entered.mp among⟩
  have grows : Extends log (log ++ (entered hashToken targetFingerprint call now table).map
      fun row => .entered row.1 index) := extends_append _ (by simp)
  have rows (control : ControlKey) (row : Control)
      (found : (enter hashToken targetFingerprint call now table).get? control = some row) :
      ∃ before, table.get? control = some before ∧ row.expiresAt = before.expiresAt ∧
        (Faults.enters hashToken targetFingerprint call now before = false ∧
          row = before ∨ row.status = .entered) := by
    rw [enter, Dict.get?_mapValues] at found
    obtain ⟨before, present, rfl⟩ := Option.map_eq_some_iff.mp found
    refine ⟨before, present, ?_⟩
    split
    case isTrue => exact ⟨rfl, .inr rfl⟩
    case isFalse left => exact ⟨rfl, .inl ⟨Bool.eq_false_iff.mpr left, rfl⟩⟩
  refine ⟨?_, ?_, ?_, ?_, ?_, ?_⟩
  · intro control row found
    obtain ⟨before, present, expiry, _⟩ := rows control row found
    rw [expiry]
    exact grows.kept _ (tells.armed control before present)
  · intro control first second left right
    exact tells.once control first second (by simpa using left)
      (by simpa using right)
  · intro control row found armed other member
    obtain ⟨before, present, _, ⟨left, rfl⟩ | status⟩ := rows control row found
    · rcases enters control other member with old | ⟨_, matched, stored, held⟩
      · exact tells.fresh control row present armed other old
      · cases present.symm.trans stored
        exact absurd (left.symm.trans held) Bool.false_ne_true
    · cases armed.symm.trans status
  · intro control other member
    rcases enters control other member with old | ⟨_, row, stored, _⟩
    · obtain ⟨expiresAt, known⟩ := tells.known control other old
      exact ⟨expiresAt, grows.kept _ known⟩
    · exact ⟨row.expiresAt, grows.kept _ (tells.armed control row stored)⟩
  · intro control first second left right
    -- A control that was entered before is not armed any more.
    rcases enters control first left with old | ⟨same, row, stored, held⟩
    · rcases enters control second right with other | ⟨_, row, stored, held⟩
      · exact tells.single control first second old other
      · exact absurd old (tells.fresh control row stored (enters_armed held) first)
    · rcases enters control second right with other | ⟨also, _⟩
      · exact absurd other (tells.fresh control row stored (enters_armed held) second)
      · exact same.trans also.symm
  · intro control row found status
    obtain ⟨before, present, _, ⟨_, rfl⟩ | entered⟩ := rows control row found
    · obtain ⟨controller, time, released⟩ := tells.released control row present status
      exact ⟨controller, time, released.extend grows (tells.armed control row present)⟩
    · cases entered.symm.trans status

theorem tells_release (tells : Tells hashToken log table) (found : table.get? control = some row)
    (held : releases hashToken controller now row = true) :
    Tells hashToken (log ++ [.released control controller now])
      (table.set control { row with status := .released }) := by
  have grows : Extends log (log ++ [.released control controller now]) := extends_append _ (by simp)
  have extended : Tells hashToken (log ++ [.released control controller now])
      table := tells.extend grows (by simp) (by simp)
  obtain ⟨run, token, _, timely⟩ := of_decide_eq_true held
  refine extended.update fun other stored present => ?_
  rw [Dict.get?_set] at present
  split at present
  case isFalse => exact .inl present
  case isTrue same =>
    subst same
    cases present
    refine .inr ⟨row, found, rfl, by simp, fun _ => ⟨controller, now, ?_⟩⟩
    refine ⟨by simp, run.symm, token.symm, fun expiresAt armed => ?_⟩
    rw [extended.once control expiresAt row.expiresAt armed (extended.armed control row found)]
    exact timely

variable {clocks : Clocks}

theorem explains_look {deadline : Time} (tells : Tells hashToken log table)
    (mine : .entered control index ∈ log) :
    Explains hashToken log index { call with
      phase := afterLook control deadline clocks
        (look hashToken targetFingerprint call control table) } := by
  have controls : ∀ found, (afterLook control deadline clocks found).control = some control := by
    intro found
    fun_cases afterLook control deadline clocks found <;> rfl
  constructor
  · intro other phase
    cases (controls _).symm.trans phase
    exact mine
  · intro other over_
    have same := (controls _).symm.trans (congrArg Phase.control over_)
    cases found : look hashToken targetFingerprint call control table with
    | none =>
      rw [found] at over_
      cases over_
    | some row =>
      obtain ⟨present, addressed⟩ := Option.filter_eq_some_iff.mp found
      obtain ⟨_, run, token, _⟩ := of_decide_eq_true addressed
      have status : row.status = .released := by
        rw [found] at over_
        dsimp only [afterLook] at over_
        split at over_
        case h_1 status => exact status
        case h_2 => cases over_
        case h_3 => cases over_
        case h_4 => split at over_ <;> cases over_
      obtain ⟨controller, time, released⟩ := tells.released control row present status
      exact ⟨control, controller, time, same.symm, released.occurred, released.run.trans run,
        released.token.trans token, released.timely⟩

theorem explains_lost (explains : Explains hashToken log index call) (lost : Bool) :
    Explains hashToken log index { call with
      phase := if lost then .raised call.phase.control else call.phase } := by
  cases lost with
  | false => exact explains
  | true =>
    refine ⟨explains.entered, ?_⟩
    intro control over_
    cases over_

theorem explains_enter {rows : List (ControlKey × Control)} :
    Explains hashToken (log ++ rows.map fun row => .entered row.1 index) index
      { call with phase := afterEnter call.controller clocks rows } := by
  cases rows with
  | nil =>
    refine ⟨?_, ?_⟩
    · intro control phase
      cases phase
    · intro control over_
      cases over_
  | cons first rest =>
    refine ⟨?_, ?_⟩
    · intro control phase
      cases phase
      simp
    · intro control over_
      cases over_

theorem inv_advance (targetFingerprint : Target → String) (clocks : Clocks)
    (inv : Inv hashToken world) (here : world.calls[index]? = some call) :
    (let (table, phase, occurrences) := advance hashToken targetFingerprint
      index call clocks world.table
    Tells hashToken (world.log ++ occurrences) table ∧
      Explains hashToken (world.log ++ occurrences) index { call with phase } ∧
      Extends world.log (world.log ++ occurrences)) := by
  have explains := inv.explains index call here
  fun_cases advance hashToken targetFingerprint index call clocks world.table with
  | case1 => exact ⟨tells_enter inv.tells, explains_enter, extends_append _ (by simp)⟩
  | case2 control deadline polling =>
    have mine := explains.entered control (by rw [polling]; rfl)
    dsimp only
    rw [List.append_nil]
    exact ⟨inv.tells, explains_look inv.tells mine, ⟨fun _ => id, fun _ _ _ armed _ => armed⟩⟩
  | case3 control expiring =>
    have mine := explains.entered control (by rw [expiring]; rfl)
    dsimp only
    rw [List.append_nil]
    refine ⟨inv.tells.update fun other row found => ?_, ⟨?_, ?_⟩,
      ⟨fun _ => id, fun _ _ _ armed _ => armed⟩⟩
    · rcases updateStatus_cases row found with same | ⟨before, present, _, _, rfl⟩
      · exact .inl same
      · exact .inr ⟨before, present, rfl, by simp, by simp⟩
    · intro other phase
      cases phase
      exact mine
    · intro other over_
      cases over_
  | case4 =>
    dsimp only
    rw [List.append_nil]
    exact ⟨inv.tells, explains, ⟨fun _ => id, fun _ _ _ armed _ => armed⟩⟩

theorem inv_resume (inv : Inv hashToken world) {lost : Bool} :
    Inv hashToken (world.resume hashToken targetFingerprint index clocks lost) := by
  fun_cases resume hashToken targetFingerprint world index clocks lost with
  | case1 => exact inv
  | case2 => exact inv
  | case3 call here going table phase occurrences advanced next =>
    have advances := inv_advance targetFingerprint clocks inv here
    rw [advanced] at advances
    obtain ⟨tells, explains, grows⟩ := advances
    refine ⟨tells, fun other found present => ?_⟩
    rw [List.getElem?_set] at present
    split at present
    case isTrue same =>
      subst same
      split at present
      case isFalse => cases present
      case isTrue =>
        cases present
        exact explains_lost explains lost
    case isFalse => exact (inv.explains other found present).extend inv.tells grows

theorem inv_release (inv : Inv hashToken world) (controller : PostgresFaultStageController)
    (control : ControlKey) (now : Time) :
    Inv hashToken (world.act hashToken targetFingerprint (.release controller control now)) := by
  dsimp only [act]
  cases found : world.table.get? control with
  | none =>
    rw [updateStatus, found]
    exact inv
  | some row =>
    rw [updateStatus, found, Option.any_some]
    dsimp only
    split
    case isFalse => exact inv
    case isTrue held =>
      refine ⟨tells_release inv.tells found held, ?_⟩
      intro index call here
      exact (inv.explains index call here).extend inv.tells (extends_append _ (by simp))

theorem inv_act (inv : Inv hashToken world) {action : Action} (draws : world.Draws action) :
    Inv hashToken (world.act hashToken targetFingerprint action) := by
  cases action with
  | arm controller event controlId expiresAt now =>
    dsimp only [act]
    split
    case h_1 => exact inv
    case h_2 after inserted =>
      obtain ⟨_, row, rfl, armed, rfl⟩ := arm_eq_some inserted
      refine ⟨tells_arm inv.tells draws armed, ?_⟩
      intro index call here
      exact (inv.explains index call here).extend inv.tells (extends_arm draws)
  | checkpoint controller event =>
    refine ⟨inv.tells, fun index call here => ?_⟩
    dsimp only [act] at here
    rw [List.getElem?_append] at here
    split at here
    case isTrue => exact inv.explains index call here
    case isFalse =>
      cases List.mem_singleton.mp (List.mem_of_getElem? here)
      refine ⟨?_, ?_⟩
      · intro control phase
        cases phase
      · intro control over_
        cases over_
  | resume index clocks lost => exact inv_resume inv
  | release controller control now => exact inv_release inv controller control now
  | cleanupExpired tenantId controlIds now =>
    refine ⟨inv.tells.update fun control row found => .inl ?_, inv.explains⟩
    rcases get?_cleanupExpired with same | gone
    · exact same.symm.trans found
    · cases gone.symm.trans found

theorem inv_reachable (reachable : Reachable hashToken targetFingerprint world) :
    Inv hashToken world := by
  induction reachable with
  | refl => refine ⟨⟨?_, ?_, ?_, ?_, ?_, ?_⟩, ?_⟩ <;> simp
  | tail _ step inv =>
    obtain ⟨action, draws, rfl⟩ := step
    exact inv_act inv draws

theorem gone_of_step {after : World} (step : Step hashToken targetFingerprint world after)
    (armed : .armed control expiresAt ∈ world.log) (absent : world.table.get? control = none) :
    after.table.get? control = none := by
  obtain ⟨action, draws, rfl⟩ := step
  cases action with
  | checkpoint controller event => exact absent
  | release controller released now => exact updateStatus_absent absent
  | arm controller event controlId expires now =>
    dsimp only [act]
    split
    case h_1 => exact absent
    case h_2 after inserted =>
      obtain ⟨_, row, rfl, _⟩ := arm_eq_some inserted
      dsimp only
      rw [Dict.get?_set]
      split
      case isTrue same =>
        subst same
        exact absurd armed (draws expiresAt)
      case isFalse => exact absent
  | cleanupExpired tenantId controlIds now =>
    dsimp only [act]
    rcases get?_cleanupExpired with same | gone
    · exact same.trans absent
    · exact gone
  | resume index clocks lost =>
    dsimp only [act]
    fun_cases resume hashToken targetFingerprint world index clocks lost with
    | case1 | case2 => exact absent
    | case3 call _ _ table phase occurrences advanced =>
      have reached := congrArg Prod.fst advanced
      dsimp only at reached ⊢
      rw [← reached]
      fun_cases advance hashToken targetFingerprint index call clocks world.table with
      | case1 => rw [enter, Dict.get?_mapValues, absent, Option.map_none]
      | case2 | case4 => exact absent
      | case3 => exact updateStatus_absent absent

end Invariant

/-- Whatever controllers, calls and clocks do: a control is entered by one call
at most; a call that returns true has entered a control that was released in
time with its own run and token; and a status goes from armed to entered and
then to released or expired, until the row is deleted for good. -/
theorem fault_stages_fire_once (hashToken : String → String) (targetFingerprint : Target → String)
    (collisionFree : Function.Injective hashToken) (world : World)
    (reachable : Reachable hashToken targetFingerprint world) :
    (∀ control first second, .entered control first ∈ world.log →
      .entered control second ∈ world.log → first = second) ∧
    (∀ index call control, world.calls[index]? = some call → call.phase = .returned control true →
      ∃ key controller time expiresAt, control = some key ∧ .entered key index ∈ world.log ∧
        .released key controller time ∈ world.log ∧
        controller.runId = call.controller.runId ∧
        controller.runToken = call.controller.runToken ∧
        (∀ other, .armed key other ∈ world.log ↔ other = expiresAt) ∧
        time < expiresAt) ∧
    ∀ after, Step hashToken targetFingerprint world after →
      ∀ control, Moves (status? world.table control) (status? after.table control) ∧
        ∀ expiresAt, .armed control expiresAt ∈ world.log → world.table.get? control = none →
          after.table.get? control = none := by
  have inv := inv_reachable reachable
  refine ⟨inv.tells.single, ?_, ?_⟩
  · intro index call control here over_
    have explains := inv.explains index call here
    obtain ⟨key, controller, time, rfl, released⟩ := explains.released control over_
    have entered := explains.entered key (by rw [over_]; rfl)
    obtain ⟨expiresAt, armed⟩ := inv.tells.known key index entered
    refine ⟨key, controller, time, expiresAt, rfl, entered, released.occurred,
      released.run, collisionFree released.token, fun other => ⟨?_, ?_⟩,
      released.timely expiresAt armed⟩
    · intro member
      exact inv.tells.once key other expiresAt member armed
    · rintro rfl
      exact armed
  · intro after step control
    refine ⟨?_, fun expiresAt => gone_of_step step⟩
    obtain ⟨action, _, rfl⟩ := step
    exact moves_act world action control

def drill : PostgresFaultStageController := ⟨"run", "a token of thirty-two bytes or so", seconds 30⟩

def drillEvent : FaultStageEvent := ⟨.tool, "acme",
    { workerId := "worker", turnId := some "turn"
      executionKey := some "execution" }⟩

def drillActions : List Action := [.arm drill drillEvent "control" (seconds 30) 0,
    .checkpoint drill drillEvent,
    .resume 0 ⟨seconds 1, seconds 1, 0⟩ false,
    .release drill ("acme", "control") (seconds 2),
    .resume 0 ⟨seconds 3, seconds 3, seconds 2⟩ false]

def drillWorld : World := drillActions.foldl (act id Target.workerId) {}

theorem drillWorld_reachable : Reachable id Target.workerId drillWorld := by
  have step (world : World) (action : Action) (draws : world.Draws action) : Step id
      Target.workerId world (world.act id Target.workerId action) := ⟨action, draws, rfl⟩
  have armed := Relation.ReflTransGen.single (step {} drillActions[0] fun _ => List.not_mem_nil)
  have called := armed.tail (step _ drillActions[1] trivial)
  have entered := called.tail (step _ drillActions[2] trivial)
  have released := entered.tail (step _ drillActions[3] trivial)
  exact released.tail (step _ drillActions[4] trivial)

theorem drill_is_released : ∃ controller time,
    .released ("acme", "control") controller time ∈ drillWorld.log ∧
      controller.runToken = drill.runToken ∧ time < seconds 30 := by
  have fired := (fault_stages_fire_once id Target.workerId
    Function.injective_id drillWorld drillWorld_reachable).2.1 0
    ⟨drill, drillEvent, .returned (some ("acme", "control")) true⟩
    (some ("acme", "control")) (by decide +kernel) rfl
  obtain ⟨key, controller, time, expiresAt, same, _, released, _, token, armed, timely⟩ := fired
  cases same
  have expiry := (armed (seconds 30)).mp (by decide +kernel)
  exact ⟨controller, time, released, token, expiry ▸ timely⟩

end TrpcService.Faults
