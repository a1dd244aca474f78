import TrpcService.Data.Dict
import Mathlib.Logic.Relation

namespace TrpcService.Agent

open Data

/-! The reference-counted cache of configuration revisions, as tasks use it
that wait for its lock, for a loader and in their bodies. -/

abbrev RevisionKey := String × String × Int

structure Entry (Value : Type) where
  value : Value
  references : Int := 0
  retired : Bool := false

/-- Entries are objects that tasks keep: the dictionary holds the place of
each in the list of all objects made. -/
structure RevisionRegistry (Value : Type) where
  entries : Dict RevisionKey Nat
  objects : List (Entry Value)

open RevisionRegistry

/-- Where a call stands.  Between these points it does not wait. -/
inductive Phase where
  | entering (key : RevisionKey)
  | loading (key : RevisionKey)
  | inside (key : RevisionKey) (entry : Nat)
  | leaving (key : RevisionKey) (entry : Nat)
  | retiring (key : RevisionKey)
  | over
  deriving DecidableEq

variable {Value : Type}

namespace RevisionRegistry

variable (registry : RevisionRegistry Value)

def modify (entry : Nat) (change : Entry Value → Entry Value) : RevisionRegistry Value :=
  { registry with objects := registry.objects.modify entry change }

def isRetired (entry : Nat) : Bool := (registry.objects[entry]?).any (·.retired)

def isUnused (entry : Nat) : Bool := (registry.objects[entry]?).any (·.references = 0)

variable (key : RevisionKey)

def pop : RevisionRegistry Value := { registry with entries := registry.entries.erase key }

def take (entry : Nat) : Phase × RevisionRegistry Value :=
  if registry.isRetired entry then (.over, registry)
  else (.inside key entry, registry.modify entry fun entry =>
      { entry with references := entry.references + 1 })

/-- The first section of `use`, up to the loader. -/
def enter : Phase × RevisionRegistry Value :=
  match registry.entries.get? key with
  | none => (.loading key, registry)
  | some entry => registry.take key entry

def store (value : Value) : RevisionRegistry Value :=
  { entries := registry.entries.set key registry.objects.length,
    objects := registry.objects ++ [{ value }] }

/-- The first section of `use`, after the loader. -/
def loaded (value : Value) : Phase × RevisionRegistry Value :=
  (registry.store key value).take key registry.objects.length

/-- The second section of `use`. -/
def leave (entry : Nat) : RevisionRegistry Value :=
  let registry := registry.modify entry fun entry =>
    { entry with references := entry.references - 1 }
  if registry.isRetired entry && registry.isUnused entry then registry.pop key
  else registry

def retire : RevisionRegistry Value :=
  match registry.entries.get? key with
  | none => registry
  | some entry =>
      let registry := registry.modify entry fun entry => { entry with retired := true }
      if registry.isUnused entry then registry.pop key else registry

end RevisionRegistry

structure World (Value : Type) where
  registry : RevisionRegistry Value
  tasks : List Phase
  holder : Option Nat

inductive Action (Value : Type) where
  | use (key : RevisionKey)
  | retire (key : RevisionKey)
  | grant (task : Nat)
  | loaded (task : Nat) (value : Value)
  /-- The loader raises, or is cancelled. -/
  | failed (task : Nat)
  /-- The body returns, raises or is cancelled. -/
  | finished (task : Nat)
  /-- A cancellation reaches a task that waits for the lock. -/
  | cancelled (task : Nat)

namespace World

def initial : World Value := ⟨⟨.empty, []⟩, [], none⟩

variable (world : World Value)

def proceed (task : Nat)
    (outcome : Phase × RevisionRegistry Value) : World Value where
  registry := outcome.2
  tasks := world.tasks.set task outcome.1
  holder := match outcome.1 with
    | .loading _ => some task
    | _ => none

def move (task : Nat) (phase : Phase) : World Value :=
  { world with tasks := world.tasks.set task phase }

/-- A free lock goes to any of those that wait for it. -/
def grant (task : Nat) : World Value :=
  match world.holder, world.tasks[task]? with
  | none, some (.entering key) => world.proceed task (world.registry.enter key)
  | none, some (.leaving key entry) => world.proceed task (.over, world.registry.leave key entry)
  | none, some (.retiring key) => world.proceed task (.over, world.registry.retire key)
  | _, _ => world

def act : Action Value → World Value
  | .use key => { world with tasks := world.tasks ++ [.entering key] }
  | .retire key => { world with tasks := world.tasks ++ [.retiring key] }
  | .grant task => world.grant task
  | .loaded task value =>
      match world.tasks[task]? with
      | some (.loading key) => world.proceed task (world.registry.loaded key value)
      | _ => world
  | .failed task =>
      match world.tasks[task]? with
      | some (.loading _) => world.proceed task (.over, world.registry)
      | _ => world
  | .finished task =>
      match world.tasks[task]? with
      | some (.inside key entry) => world.move task (.leaving key entry)
      | _ => world
  | .cancelled task =>
      match world.tasks[task]? with
      | some (.entering _) => world.move task .over
      | some (.leaving _ _) => world.move task .over
      | some (.retiring _) => world.move task .over
      | _ => world

end World

/-- The entry that a task uses: from the end of its first section until the
end of its second one. -/
def Phase.held : Phase → Option (RevisionKey × Nat)
  | .inside key entry => some (key, entry)
  | .leaving key entry => some (key, entry)
  | _ => none

def Phase.uses (entry : Nat) (phase : Phase) : Bool := phase.held.any (·.2 = entry)

def users (tasks : List Phase) (entry : Nat) : Nat := tasks.countP (Phase.uses entry)

section Users

variable {tasks : List Phase} {task entry : Nat} {before after : Phase} {key : RevisionKey}

theorem uses_of_held (used : after.held = some (key, entry)) (other : Nat) :
    after.uses other = decide (entry = other) := by
  rw [Phase.uses, used, Option.any_some]

variable (after entry) in
theorem users_set (here : tasks[task]? = some before) :
    users (tasks.set task after) entry + (before.uses entry).toNat =
      users tasks entry + (after.uses entry).toNat := by
  induction tasks generalizing task with
  | nil => exact nomatch here
  | cons head rest induction =>
    cases task with
    | zero =>
      cases here
      simp only [users, List.set_cons_zero, List.countP_cons]
      cases before.uses entry <;> cases after.uses entry <;> simp
    | succ task =>
      have counted := induction here
      simp only [users, List.set_cons_succ, List.countP_cons] at counted ⊢
      omega

theorem users_eq_zero_iff : users tasks entry = 0 ↔ ∀ phase ∈ tasks, phase.uses entry = false := by
  rw [users, List.countP_eq_zero]
  simp only [Bool.not_eq_true]

end Users

/-- Users find their entry in the dictionary, and are counted. -/
structure Tracked (registry : RevisionRegistry Value) (tasks : List Phase) : Prop where
  made : ∀ key entry, registry.entries.get? key = some entry → entry < registry.objects.length
  distinct : ∀ key other entry, registry.entries.get? key = some entry →
    registry.entries.get? other = some entry → key = other
  used : ∀ phase ∈ tasks, ∀ key entry, phase.held = some (key, entry) →
    registry.entries.get? key = some entry
  count : ∀ entry object, registry.objects[entry]? = some object →
    object.references = Int.ofNat (users tasks entry)

structure Counted (registry : RevisionRegistry Value) (tasks : List Phase) :
    Prop extends Tracked registry tasks where
  retired : ∀ key entry object, registry.entries.get? key = some entry →
    registry.objects[entry]? = some object → object.retired → object.references ≠ 0

variable {other : Nat}

section Counted

variable {registry : RevisionRegistry Value} {tasks : List Phase} {task entry : Nat}
  {before after : Phase} {key : RevisionKey}

theorem Counted.move (counted : Counted registry tasks) (here : tasks[task]? = some before)
    (same : after.held = before.held) : Counted registry (tasks.set task after) :=
  { counted with
    used := fun phase member key entry held => by
      rcases List.mem_or_eq_of_mem_set member with old | rfl
      · exact counted.used phase old key entry held
      · exact counted.used before (List.mem_of_getElem? here) key entry
          (same ▸ held)
    count := fun entry object found => by
      have alike : after.uses entry = before.uses entry := by
        rw [Phase.uses, Phase.uses, same]
      have moved := users_set entry after here
      rw [counted.count entry object found]
      rw [alike] at moved
      exact congrArg Int.ofNat (by omega) }

theorem Counted.start (counted : Counted registry tasks)
    (idle : after.held = none) : Counted registry (tasks ++ [after]) :=
  { counted with
    used := fun phase member key entry held => by
      rcases List.mem_append.mp member with old | new
      · exact counted.used phase old key entry held
      · cases List.mem_singleton.mp new
        exact nomatch idle.symm.trans held
    count := fun entry object found => by
      have unused : after.uses entry = false := by rw [Phase.uses, idle]; rfl
      rw [counted.count entry object found, users, users, List.countP_append,
        List.countP_singleton, unused]
      rfl }

variable {change : Entry Value → Entry Value} {object : Entry Value}

theorem modify_cases (found : (registry.modify entry change).objects[other]? = some object) :
    ∃ old, registry.objects[other]? = some old ∧
      object = if entry = other then change old else old := by
  rw [RevisionRegistry.modify, List.getElem?_modify,
    Option.map_eq_map, Option.map_eq_some_iff] at found
  obtain ⟨old, stored, rfl⟩ := found
  exact ⟨old, stored, rfl⟩

theorem Counted.take (counted : Counted registry tasks) (here : tasks[task]? = some before)
    (idle : before.held = none) (stored : registry.entries.get? key = some entry) :
    Counted (registry.take key entry).2 (tasks.set task (registry.take key entry).1) := by
  unfold RevisionRegistry.take
  split
  · exact counted.move here idle.symm
  case isFalse current =>
    refine ⟨⟨?_, counted.distinct, ?_, ?_⟩, ?_⟩
    · intro other place found
      exact (List.length_modify _ _ _).symm ▸ counted.made other place found
    · intro phase member other place held
      rcases List.mem_or_eq_of_mem_set member with old | rfl
      · exact counted.used phase old other place held
      · cases held
        exact stored
    · intro place object found
      obtain ⟨old, known, rfl⟩ := modify_cases found
      have more := users_set place (.inside key entry) here
      rw [Phase.uses, idle, uses_of_held rfl] at more
      have referenced := counted.count place old known
      by_cases same : entry = place
      · rw [if_pos same, referenced]
        rw [decide_eq_true same] at more
        exact congrArg Int.ofNat more.symm
      · rw [if_neg same, referenced]
        rw [decide_eq_false same] at more
        exact congrArg Int.ofNat more.symm
    · intro other place object known found retired
      obtain ⟨old, former, rfl⟩ := modify_cases found
      by_cases same : entry = place
      · rw [if_pos same] at retired
        rw [isRetired, same, former] at current
        exact absurd retired current
      · rw [if_neg same] at retired ⊢
        exact counted.retired other place old known former retired

theorem Counted.store (counted : Counted registry tasks) (value : Value)
    (absent : registry.entries.get? key = none) : Counted (registry.store key value) tasks := by
  have placed : ∀ other place, (registry.store key value).entries.get? other = some place → other =
    key ∧ place = registry.objects.length ∨ registry.entries.get? other = some place := by
    intro other place found
    rw [RevisionRegistry.store, Dict.get?_set] at found
    split at found
    case isTrue same =>
      cases found
      exact .inl ⟨same.symm, rfl⟩
    case isFalse => exact .inr found
  have objects : ∀ place object, (registry.store key value).objects[place]? = some object →
        registry.objects[place]? = some object ∨
          place = registry.objects.length ∧ object = { value } := by
    intro place object found
    rw [RevisionRegistry.store, List.getElem?_append] at found
    split at found
    · exact .inl found
    · rw [List.getElem?_singleton] at found
      split at found
      case isTrue first =>
        cases found
        exact .inr ⟨by omega, rfl⟩
      case isFalse => cases found
  refine ⟨⟨?_, ?_, ?_, ?_⟩, ?_⟩
  · intro other place found
    have longer : (registry.store key value).objects.length =
        registry.objects.length + 1 := List.length_append
    rcases placed other place found with ⟨_, rfl⟩ | old
    · omega
    · have := counted.made other place old
      omega
  · intro other another place first second
    rcases placed other place first with ⟨rfl, rfl⟩ | old
    · rcases placed another _ second with ⟨same, _⟩ | old
      · exact same.symm
      · exact absurd (counted.made _ _ old) (Nat.lt_irrefl _)
    · rcases placed another place second with ⟨rfl, rfl⟩ | older
      · exact absurd (counted.made _ _ old) (Nat.lt_irrefl _)
      · exact counted.distinct other another place old older
  · intro phase member other place held
    have stored := counted.used phase member other place held
    rw [RevisionRegistry.store, Dict.get?_set_of_ne]
    · exact stored
    · rintro rfl
      cases absent.symm.trans stored
  · intro place object found
    rcases objects place object found with old | ⟨rfl, rfl⟩
    · exact counted.count place object old
    · have unused : users tasks registry.objects.length = 0 := by
        apply users_eq_zero_iff.mpr
        intro phase member
        cases held : phase.held with
        | none =>
          rw [Phase.uses, held]
          rfl
        | some pair =>
          have stored := counted.used phase member pair.1 pair.2 held
          have less := counted.made _ _ stored
          rw [uses_of_held held]
          exact decide_eq_false (Nat.ne_of_lt less)
      rw [unused]
      rfl
  · intro other place object stored found retired
    rcases objects place object found with old | ⟨rfl, rfl⟩
    · rcases placed other place stored with ⟨_, rfl⟩ | known
      · rw [List.getElem?_eq_none (Nat.le_refl _)] at old
        cases old
      · exact counted.retired other place object known old retired
    · cases retired

theorem Tracked.settle (tracked : Tracked registry tasks)
    (stored : registry.entries.get? key = some entry)
    (others : ∀ other place object, other ≠ key → registry.entries.get? other = some place →
      registry.objects[place]? = some object → object.retired → object.references ≠ 0) :
    Counted (if registry.isRetired entry && registry.isUnused entry then
      registry.pop key else registry) tasks := by
  by_cases done : registry.isRetired entry && registry.isUnused entry
  · rw [if_pos done]
    have free : users tasks entry = 0 := by
      have unused := (Bool.and_eq_true_iff.mp done).2
      cases found : registry.objects[entry]? with
      | none =>
        rw [isUnused, found] at unused
        cases unused
      | some object =>
        rw [isUnused, found, Option.any_some] at unused
        have referenced := tracked.count entry object found
        rw [of_decide_eq_true unused] at referenced
        exact (Int.ofNat.inj referenced).symm
    have kept : ∀ other place, (registry.pop key).entries.get? other =
        some place → other ≠ key ∧ registry.entries.get? other = some place := by
      intro other place found
      rw [pop, Dict.get?_erase] at found
      split at found
      · cases found
      case isFalse different => exact ⟨Ne.symm different, found⟩
    refine ⟨⟨fun other place found => tracked.made other place (kept other place found).2, fun other
      another place first second => tracked.distinct other another place (kept other place first).2
      (kept another place second).2, ?_, tracked.count⟩, ?_⟩
    · intro phase member other place held
      have known := tracked.used phase member other place held
      rw [pop, Dict.get?_erase_of_ne]
      · exact known
      · rintro rfl
        cases stored.symm.trans known
        have unused := users_eq_zero_iff.mp free phase member
        rw [uses_of_held held, decide_eq_false_iff_not] at unused
        exact unused rfl
    · intro other place object found
      exact others other place object (kept other place found).1 (kept other place found).2
  · rw [if_neg done]
    refine ⟨tracked, fun other place object known found retired unused => ?_⟩
    by_cases same : other = key
    · subst same
      cases stored.symm.trans known
      apply done
      rw [isRetired, isUnused, found]
      simp [retired, unused]
    · exact others other place object same known found retired unused

variable (counted : Counted registry tasks)

include counted

theorem Counted.retired_modify (stored : registry.entries.get? key = some entry)
    {other : RevisionKey} {place : Nat}
    (different : other ≠ key) (known : registry.entries.get? other = some place)
    (found : (registry.modify entry change).objects[place]? = some object)
    (retired : object.retired) : object.references ≠ 0 := by
  obtain ⟨old, former, rfl⟩ := modify_cases found
  have apart : entry ≠ place := by
    rintro rfl
    exact different (counted.distinct other key entry known stored)
  rw [if_neg apart] at retired ⊢
  exact counted.retired other place old known former retired

theorem Counted.leave (here : tasks[task]? = some before) (held : before.held = some (key, entry)) :
    Counted (registry.leave key entry) (tasks.set task .over) := by
  have stored := counted.used before (List.mem_of_getElem? here) key entry held
  refine Tracked.settle ⟨?_, counted.distinct, ?_, ?_⟩ stored ?_
  · intro other place found
    exact (List.length_modify _ _ _).symm ▸ counted.made other place found
  · intro phase member other place used
    rcases List.mem_or_eq_of_mem_set member with old | rfl
    · exact counted.used phase old other place used
    · exact nomatch used
  · intro place object found
    obtain ⟨old, known, rfl⟩ := modify_cases found
    have fewer := users_set place .over here
    rw [uses_of_held held] at fewer
    have referenced := counted.count place old known
    by_cases same : entry = place
    · rw [if_pos same, referenced]
      rw [decide_eq_true same] at fewer
      have one : users tasks place = users (tasks.set task .over) place + 1 := fewer.symm
      rw [one]
      exact Int.add_sub_cancel (Int.ofNat (users (tasks.set task .over) place)) 1
    · rw [if_neg same, referenced]
      rw [decide_eq_false same] at fewer
      exact congrArg Int.ofNat fewer.symm
  · intro other place object different known found retired
    exact counted.retired_modify stored different known found retired

theorem Counted.retire : Counted (registry.retire key) tasks := by
  unfold RevisionRegistry.retire
  split
  · exact counted
  case h_2 entry stored =>
    have tracked : Tracked (registry.modify entry fun entry =>
        { entry with retired := true }) tasks := by
      refine ⟨?_, counted.distinct, counted.used, ?_⟩
      · intro other place found
        exact (List.length_modify _ _ _).symm ▸ counted.made other place found
      · intro place object found
        obtain ⟨old, known, rfl⟩ := modify_cases found
        split
        · exact counted.count place old known
        · exact counted.count place old known
    have settled := tracked.settle stored ?_
    · have retired : (registry.modify entry fun entry =>
          { entry with retired := true }).isRetired entry = true := by
        rw [isRetired, RevisionRegistry.modify,
          List.getElem?_modify_eq, List.getElem?_eq_getElem (counted.made key entry stored)]
        rfl
      rw [retired, Bool.true_and] at settled
      exact settled
    · intro other place object different known found retired
      exact counted.retired_modify stored different known found retired

end Counted

namespace World

/-- A loader runs only under the lock, and for a key without an entry. -/
structure Inv (world : World Value) : Prop where
  counted : Counted world.registry world.tasks
  loading : ∀ task key, world.tasks[task]? = some (.loading key) →
    world.holder = some task ∧ world.registry.entries.get? key = none

/-- No cancellation reaches a task that waits to give its entry back. -/
def Uninterrupted (world : World Value) (action : Action Value) : Prop :=
  ∀ task key entry, action = .cancelled task → world.tasks[task]? ≠ some (.leaving key entry)

def Step (world after : World Value) : Prop :=
  ∃ action, world.Uninterrupted action ∧ after = world.act action

def Reachable (world : World Value) : Prop := Relation.ReflTransGen Step initial world

variable {world : World Value} {task : Nat} {before : Phase}

theorem inv_initial : (initial : World Value).Inv where
  counted := ⟨⟨nofun, nofun, nofun, nofun⟩, nofun⟩
  loading := nofun

variable {after : Phase}

theorem getElem?_set_cases {tasks : List Phase} {phase : Phase}
    (found : (tasks.set task after)[other]? = some phase) :
    (other = task ∧ phase = after) ∨ other ≠ task ∧ tasks[other]? = some phase := by
  rw [List.getElem?_set] at found
  split at found
  case isTrue same =>
    split at found
    · cases found
      exact .inl ⟨same.symm, rfl⟩
    · exact nomatch found
  case isFalse different => exact .inr ⟨Ne.symm different, found⟩

theorem Inv.start (inv : world.Inv) (idle : after.held = none)
    (waits : ∀ key, after ≠ .loading key) :
    Inv { world with tasks := world.tasks ++ [after] } where
  counted := inv.counted.start idle
  loading task key found := by
    rw [List.getElem?_append] at found
    split at found
    · exact inv.loading task key found
    · rw [List.getElem?_singleton] at found
      split at found
      · cases found
        exact absurd rfl (waits key)
      · exact nomatch found

theorem Inv.move (inv : world.Inv) (here : world.tasks[task]? = some before)
    (same : after.held = before.held) (waits : ∀ key, after ≠ .loading key) :
    (world.move task after).Inv where
  counted := inv.counted.move here same
  loading other key found := by
    rcases getElem?_set_cases found with ⟨_, own⟩ | ⟨_, old⟩
    · exact absurd own.symm (waits key)
    · exact inv.loading other key old

theorem Inv.proceed (inv : world.Inv) {registry : RevisionRegistry Value}
    (counted : Counted registry (world.tasks.set task after))
    (alone : ∀ other, world.holder = some other → other = task)
    (absent : ∀ key, after = .loading key → registry.entries.get? key = none) :
    (world.proceed task (after, registry)).Inv where
  counted := counted
  loading other key found := by
    rcases getElem?_set_cases found with ⟨rfl, own⟩ | ⟨different, old⟩
    · refine ⟨?_, absent key own.symm⟩
      rw [World.proceed, ← own]
    · exact absurd (alone other (inv.loading other key old).1) different

theorem take_ne_loading (registry : RevisionRegistry Value) (key other : RevisionKey)
    (entry : Nat) : (registry.take key entry).1 ≠ .loading other := by
  unfold RevisionRegistry.take
  split
  · exact nofun
  · exact nofun

theorem Inv.grant (inv : world.Inv) (task : Nat) : (world.grant task).Inv := by
  unfold World.grant
  split
  case h_1 key free here =>
    have alone : ∀ other, world.holder = some other → other = task :=
      fun other held => nomatch free.symm.trans held
    unfold enter
    split
    case h_1 absent =>
      refine inv.proceed (inv.counted.move here rfl) alone ?_
      rintro _ ⟨⟩
      exact absent
    case h_2 entry stored =>
      exact inv.proceed (inv.counted.take here rfl stored) alone
        fun other loading => absurd loading (take_ne_loading _ _ _ _)
  case h_2 key entry free here =>
    exact inv.proceed (inv.counted.leave here rfl)
      (fun other held => nomatch free.symm.trans held) nofun
  case h_3 key free here =>
    exact inv.proceed (inv.counted.retire.move here rfl)
      (fun other held => nomatch free.symm.trans held) nofun
  case h_4 => exact inv

theorem inv_act (inv : world.Inv) {action : Action Value}
    (uninterrupted : world.Uninterrupted action) : (world.act action).Inv := by
  cases action with
  | use key => exact inv.start rfl nofun
  | retire key => exact inv.start rfl nofun
  | grant task => exact inv.grant task
  | loaded task value =>
    dsimp only [World.act]
    split
    case h_1 key here =>
      obtain ⟨held, absent⟩ := inv.loading task key here
      have stored := inv.counted.store value absent
      exact inv.proceed (stored.take here rfl (Dict.get?_set_self ..))
        (fun other also => Option.some.inj (also.symm.trans held))
        fun other loading => absurd loading (take_ne_loading _ _ _ _)
    case h_2 => exact inv
  | failed task =>
    dsimp only [World.act]
    split
    case h_1 key here =>
      have held := (inv.loading task key here).1
      exact inv.proceed (inv.counted.move here rfl)
        (fun other also => Option.some.inj (also.symm.trans held)) nofun
    case h_2 => exact inv
  | finished task =>
    dsimp only [World.act]
    split
    case h_1 key entry here => exact inv.move here rfl nofun
    case h_2 => exact inv
  | cancelled task =>
    dsimp only [World.act]
    split
    case h_1 key here => exact inv.move here rfl nofun
    case h_2 key entry here => exact absurd here (uninterrupted task key entry rfl)
    case h_3 key here => exact inv.move here rfl nofun
    case h_4 => exact inv

theorem inv_reachable (reachable : world.Reachable) : world.Inv := by
  induction reachable with
  | refl => exact inv_initial
  | tail _ step inv =>
    obtain ⟨action, uninterrupted, rfl⟩ := step
    exact inv_act inv uninterrupted

/-- In every run in which no task is cancelled while it waits to give its
entry back, entries count their users, the users of a key share one value, and
an entry that is retired and not used is not in the registry. -/
theorem revision_references_counted {world : World Value} (reachable : world.Reachable) :
    (∀ entry object, world.registry.objects[entry]? = some object →
        object.references = Int.ofNat (users world.tasks entry)) ∧
      (∀ first ∈ world.tasks, ∀ second ∈ world.tasks, ∀ key entry other,
        first.held = some (key, entry) → second.held = some (key, other) →
          entry = other ∧ ∃ object, world.registry.objects[entry]? = some object) ∧
      ∀ key entry object, world.registry.entries.get? key = some entry →
        world.registry.objects[entry]? = some object → object.retired →
          users world.tasks entry ≠ 0 := by
  obtain ⟨counted, _⟩ := inv_reachable reachable
  refine ⟨counted.count, ?_, ?_⟩
  · intro first member second present key entry other held also
    have stored := counted.used first member key entry held
    have same := counted.used second present key other also
    exact ⟨Option.some.inj (stored.symm.trans same),
      _, List.getElem?_eq_getElem (counted.made key entry stored)⟩
  · intro key entry object stored found retired unused
    apply counted.retired key entry object stored found retired
    rw [counted.count entry object found, unused]
    rfl

def play (world : World Value) (actions : List (Action Value)) : World Value :=
  actions.foldl act world

theorem Reachable.play (reachable : world.Reachable) {actions : List (Action Value)}
    (calm : ∀ action ∈ actions, ∀ task, action ≠ .cancelled task) :
    (world.play actions).Reachable := by
  induction actions generalizing world with
  | nil => exact reachable
  | cons action rest induction =>
    apply induction
    · refine reachable.tail ⟨action, ?_, rfl⟩
      intro task _ _ cancelled
      exact absurd cancelled (calm action List.mem_cons_self task)
    · exact fun other member => calm other (List.mem_cons_of_mem _ member)

def retiredInUse : List (Action String) := [.use ("tenant", "app", 1), .grant 0, .loaded 0 "agent",
    .retire ("tenant", "app", 1), .grant 1]

theorem revision_in_use_stays : users (initial.play retiredInUse).tasks 0 ≠ 0 := by
  have reachable : (initial.play retiredInUse).Reachable :=
    Reachable.play .refl (by simp [retiredInUse])
  have counted := revision_references_counted reachable
  exact counted.2.2 ("tenant", "app", 1) 0 ⟨"agent", 1, true⟩ (by decide) rfl rfl

/-- The first task is cancelled while the loader of another revision keeps it
from giving its own back; that one is retired later. -/
def cancelledInRelease : List (Action String) :=
  [.use ("tenant", "app", 1), .grant 0, .loaded 0 "agent",
    .use ("tenant", "app", 2), .grant 1, .finished 0, .cancelled 0, .failed 1,
    .retire ("tenant", "app", 1), .grant 2]

theorem cancelled_release_leaks :
    let world := initial.play cancelledInRelease
    world.tasks = [.over, .over, .over] ∧ world.holder = none ∧ users world.tasks 0 = 0 ∧
      (world.registry.objects[0]?).map (fun entry =>
        (entry.references, entry.retired)) = some (1, true) ∧
      world.registry.entries.get? ("tenant", "app", 1) = some 0 := by
  decide

end World

end TrpcService.Agent
