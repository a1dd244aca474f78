import Mathlib.Logic.Relation
import TrpcService.Storage.Models

namespace TrpcService.Agent.ConnectionManager

open Data Storage

/-! The manager that keeps one connector task for each WeCom binding.  The
routes, which only the emergency sink reads, are left out. -/

structure ChannelBinding where
  bindingId : String
  tenantId : String
  appId : String
  channel : Channel
  accountId : String
  secretRefs : Dict String String
  enabled : Bool := true
  controlVersion : Int := 1
  capabilities : List String := []
  deriving DecidableEq

structure BindingRoute where
  binding : ChannelBinding
  tenantActive : Bool := true
  deriving DecidableEq

structure Projection where
  bindingId : String
  tenantId : String
  appId : String
  channel : Channel
  accountId : String
  secretRefs : List (String × String)
  enabled : Bool
  controlVersion : Int
  capabilities : List String

def bindingSignature (digest : Projection → String) (binding : ChannelBinding) : String :=
  digest {
    bindingId := binding.bindingId
    tenantId := binding.tenantId
    appId := binding.appId
    channel := binding.channel
    accountId := binding.accountId
    secretRefs := binding.secretRefs.entries.mergeSort fun first second =>
      first.1 ≤ second.1
    enabled := binding.enabled
    controlVersion := binding.controlVersion
    capabilities := binding.capabilities.mergeSort fun first second =>
      first ≤ second }

inductive TaskEnd where
  | returned
  | failed
  | cancelled
  deriving DecidableEq, Repr

structure ConnectorTask where
  bindingId : String
  binding : ChannelBinding
  ended : Option TaskEnd := none
  deriving DecidableEq

structure Pass where
  listed : List ChannelBinding
  answers : List (ChannelBinding × Option BindingRoute) := []

/-- What the latest pass is waiting for, if it is not over. -/
inductive Phase where
  | idle
  | listing
  | resolving (pass : Pass) (binding : ChannelBinding) (pending : List ChannelBinding)
  | waiting (pass : Pass) (bindingId : String) (task : Nat) (rest : List (String × Nat))
  | returned (pass : Pass)

structure World where
  started : List ConnectorTask := []
  tasks : Dict String Nat := .empty
  signatures : Dict String String := .empty
  phase : Phase := .idle

inductive Action where
  | reconcileOnce
  | listBindings (answer : Option (List ChannelBinding))
  | resolveBinding (answer : Option (Option BindingRoute))
  | awake (interrupted : Bool)
  /-- A task ends, at any time and in any way. -/
  | finish (task : Nat) (ended : TaskEnd)

def BindingRoute.isSelected (route : BindingRoute) : Bool :=
  route.tenantActive ∧ route.binding.enabled ∧ route.binding.channel = .wecomAiBot

def collect (items : List (String × ChannelBinding)) : Dict String ChannelBinding :=
  items.foldl (fun dict item => dict.set item.1 item.2) .empty

def Pass.resolved (pass : Pass) : List (String × ChannelBinding) :=
  pass.answers.filterMap fun answer => (answer.2.filter BindingRoute.isSelected).map fun route =>
      (answer.1.bindingId, route.binding)

def Pass.bindings (pass : Pass) (emergencySink : Bool) : Dict String ChannelBinding :=
  if emergencySink then collect pass.resolved
  else collect (pass.listed.map fun binding => (binding.bindingId, binding))

namespace World

def isDone (world : World) (task : Nat) : Bool :=
  (world.started[task]?).all fun task => task.ended.isSome

def forget (world : World) (bindingId : String) : World :=
  { world with
    tasks := world.tasks.erase bindingId
    signatures := world.signatures.erase bindingId }

section Passes

variable (emergencySink : Bool) (digest : Projection → String)

def create (world : World) (bindingId : String) (binding : ChannelBinding) : World :=
  match world.tasks.get? bindingId with
  | some _ => world
  | none =>
      { world with
        started := world.started ++ [{ bindingId, binding }]
        tasks := world.tasks.set bindingId world.started.length
        signatures := world.signatures.set bindingId
          (bindingSignature digest binding) }

def createAll : List (String × ChannelBinding) → World → World
  | [], world => world
  | (bindingId, binding) :: rest, world => createAll rest (world.create digest bindingId binding)

def isCurrent (world : World) (pass : Pass) (bindingId : String) : Bool :=
  ((pass.bindings emergencySink).get? bindingId).any fun binding =>
    world.signatures.get? bindingId = some (bindingSignature digest binding)

/-- The loop over the tasks until one has to be awaited, and what follows. -/
def sweep (pass : Pass) : List (String × Nat) → World → World
  | [], world =>
      { createAll digest (pass.bindings emergencySink).entries world with
        phase := .returned pass }
  | (bindingId, task) :: rest, world =>
      if world.isDone task then sweep pass rest (world.forget bindingId)
      else if world.isCurrent emergencySink digest pass bindingId then sweep pass rest world
      else { world with phase := .waiting pass bindingId task rest }

variable (world : World)

/-- With an emergency sink, every listed binding is resolved first. -/
def proceed (pass : Pass) (pending : List ChannelBinding) : World :=
  match emergencySink, pending with
  | true, binding :: pending => { world with phase := .resolving pass binding pending }
  | _, _ => sweep emergencySink digest pass world.tasks.entries world

def finish (task : Nat) (ended : TaskEnd) : World :=
  match world.started[task]? with
  | some ⟨bindingId, binding, none⟩ =>
      { world with
        started := world.started.set task ⟨bindingId, binding, some ended⟩ }
  | _ => world

/-- The pass resumes when the cancelled task has ended.  A failure of the task
ends the pass, unless a cancellation of the pass itself comes first. -/
def awake (interrupted : Bool) : World :=
  match world.phase with
  | .waiting pass bindingId task rest =>
      match (world.started[task]?).bind ConnectorTask.ended, interrupted with
      | none, _ => world
      | some .failed, false => { world with phase := .idle }
      | some _, _ => sweep emergencySink digest pass rest (world.forget bindingId)
  | _ => world

def act : Action → World
  | .reconcileOnce =>
      match world.phase with
      | .idle => { world with phase := .listing }
      | .returned _ => { world with phase := .listing }
      | _ => world
  | .listBindings answer =>
      match world.phase, answer with
      | .listing, some listed => proceed emergencySink digest world { listed } listed
      | .listing, none => { world with phase := .idle }
      | _, _ => world
  | .resolveBinding answer =>
      match world.phase, answer with
      | .resolving pass binding pending, some route =>
          proceed emergencySink digest world
            { pass with answers := pass.answers ++ [(binding, route)] } pending
      | .resolving _ _ _, none => { world with phase := .idle }
      | _, _ => world
  | .awake interrupted => world.awake emergencySink digest interrupted
  | .finish task ended => world.finish task ended

def Step (before after : World) : Prop := ∃ action, after = before.act emergencySink digest action

def Reachable : World → Prop := Relation.ReflTransGen (Step emergencySink digest) {}

end Passes

end World

/-- A binding id that was listed and, with an emergency sink, resolved to an
active and enabled binding of the channel. -/
def Pass.Selects (pass : Pass) (emergencySink : Bool) (bindingId : String) : Prop :=
  (∃ binding ∈ pass.listed, binding.bindingId = bindingId) ∧
    (emergencySink = true → ∃ binding route,
      (binding, some route) ∈ pass.answers ∧ binding.bindingId = bindingId ∧
        route.tenantActive = true ∧ route.binding.enabled = true ∧
        route.binding.channel = .wecomAiBot)

def Pass.Complete (pass : Pass) (emergencySink : Bool) : Prop :=
  emergencySink = true → pass.answers.map Prod.fst = pass.listed

theorem isSome_foldl_set (items : List (String × ChannelBinding))
    (dict : Dict String ChannelBinding) (bindingId : String) :
    ((items.foldl (fun dict item => dict.set item.1 item.2) dict).get? bindingId).isSome = true ↔
      (dict.get? bindingId).isSome = true ∨ ∃ item ∈ items, item.1 = bindingId := by
  induction items generalizing dict with
  | nil => simp
  | cons item items hypothesis =>
    rw [List.foldl_cons, hypothesis, Dict.get?_set]
    by_cases same : item.1 = bindingId
    · simp [same]
    · simp [same]

theorem isSome_collect (items : List (String × ChannelBinding)) (bindingId : String) :
    ((collect items).get? bindingId).isSome = true ↔ ∃ item ∈ items, item.1 = bindingId := by
  simp [collect, isSome_foldl_set]

theorem isSome_bindings {pass : Pass} {emergencySink : Bool}
    (complete : pass.Complete emergencySink) (bindingId : String) :
    ((pass.bindings emergencySink).get? bindingId).isSome = true ↔
      pass.Selects emergencySink bindingId := by
  cases emergencySink with
  | false => simp [Pass.bindings, Pass.Selects, isSome_collect]
  | true =>
    have asked := complete rfl
    simp only [Pass.bindings, if_true, isSome_collect, Pass.resolved, List.mem_filterMap,
      Option.map_eq_some_iff, Option.filter_eq_some_iff, BindingRoute.isSelected, decide_eq_true_eq,
      Pass.Selects, ← asked, List.mem_map, true_implies]
    constructor
    · rintro ⟨item, ⟨answer, member, route, ⟨found, selected⟩, rfl⟩, rfl⟩
      have member : (answer.1, some route) ∈ pass.answers := by
        rwa [← found]
      exact ⟨⟨answer.1, ⟨_, member, rfl⟩, rfl⟩, answer.1, route, member, rfl, selected⟩
    · rintro ⟨-, binding, route, member, rfl, selected⟩
      exact ⟨_, ⟨_, member, route, ⟨rfl, selected⟩, rfl⟩, rfl⟩

namespace World

section Invariant

variable (emergencySink : Bool) (digest : Projection → String)

/-- The two dictionaries against the tasks themselves. -/
structure Sound (world : World) : Prop where
  kept : ∀ bindingId task, world.tasks.get? bindingId = some task →
    ∃ connector, world.started[task]? = some connector ∧ connector.bindingId = bindingId ∧
      world.signatures.get? bindingId = some (bindingSignature digest connector.binding)
  alive : ∀ (task : Nat) (connector : ConnectorTask),
    world.started[task]? = some connector → connector.ended = none →
    world.tasks.get? connector.bindingId = some task

/-- An id that may stay: it is selected, and its task, if it still runs, was
started with the selected configuration. -/
def Settled (world : World) (pass : Pass) (bindingId : String) (task : Nat) : Prop :=
  ∃ binding, (pass.bindings emergencySink).get? bindingId = some binding ∧
    ∀ connector, world.started[task]? = some connector → connector.ended = none →
      bindingSignature digest connector.binding = bindingSignature digest binding

structure Sweeping (world : World) (pass : Pass) (rest : List (String × Nat)) : Prop where
  complete : pass.Complete emergencySink
  present : ∀ entry ∈ rest, world.tasks.get? entry.1 = some entry.2
  nodup : (rest.map Prod.fst).Nodup
  settled : ∀ bindingId task, world.tasks.get? bindingId = some task →
    bindingId ∉ rest.map Prod.fst →
    Settled emergencySink digest world pass bindingId task

def PhaseInvariant (world : World) : Phase → Prop
  | .idle => True
  | .listing => True
  | .resolving pass binding pending => pass.answers.map Prod.fst ++ binding :: pending = pass.listed
  | .waiting pass bindingId task rest =>
      Sweeping emergencySink digest world pass ((bindingId, task) :: rest)
  | .returned pass =>
      Sweeping emergencySink digest world pass [] ∧ ∀ bindingId,
          ((pass.bindings emergencySink).get? bindingId).isSome = true →
          (world.tasks.get? bindingId).isSome = true

structure Invariant (world : World) : Prop where
  sound : Sound digest world
  phase : PhaseInvariant emergencySink digest world world.phase

end Invariant

variable {emergencySink : Bool} {digest : Projection → String} {world : World} {pass : Pass}
  {rest : List (String × Nat)}

variable {task : Nat} {connector : ConnectorTask}

theorem ended_of_isDone (done : world.isDone task = true)
    (found : world.started[task]? = some connector) : connector.ended ≠ none := by
  simpa [isDone, found, Option.isSome_iff_ne_none] using done

variable {bindingId : String}

theorem Sound.forget (sound : Sound digest world) (present : world.tasks.get? bindingId = some task)
    (done : world.isDone task = true) :
    Sound digest (world.forget bindingId) where
  kept := by
    intro other handle found
    by_cases same : bindingId = other
    · simp [World.forget, same] at found
    · simp only [World.forget, Dict.get?_erase_of_ne _ same] at found ⊢
      exact sound.kept other handle found
  alive := by
    intro handle connector found running
    have listed := sound.alive handle connector found running
    have differs : bindingId ≠ connector.bindingId := by
      intro same
      rw [← same, present] at listed
      cases listed
      exact ended_of_isDone done found running
    simpa only [World.forget, Dict.get?_erase_of_ne _ differs] using listed

section Sweeping

variable (sweeping : Sweeping emergencySink digest world pass ((bindingId, task) :: rest))

include sweeping

theorem Sweeping.forget :
    Sweeping emergencySink digest (world.forget bindingId) pass rest where
  complete := sweeping.complete
  present := by
    intro entry member
    have differs : bindingId ≠ entry.1 := by
      intro same
      apply (List.nodup_cons.mp sweeping.nodup).1
      exact same ▸ List.mem_map.mpr ⟨entry, member, rfl⟩
    simpa only [World.forget, Dict.get?_erase_of_ne _ differs] using
      sweeping.present entry (List.mem_cons_of_mem _ member)
  nodup := (List.nodup_cons.mp sweeping.nodup).2
  settled := by
    intro other handle found absent
    by_cases same : bindingId = other
    · simp [World.forget, same] at found
    · simp only [World.forget, Dict.get?_erase_of_ne _ same] at found
      apply sweeping.settled other handle found
      simpa [Ne.symm same] using absent

theorem Sweeping.skip (settled : Settled emergencySink digest world pass bindingId task) :
    Sweeping emergencySink digest world pass rest where
  complete := sweeping.complete
  present entry member := sweeping.present entry (List.mem_cons_of_mem _ member)
  nodup := (List.nodup_cons.mp sweeping.nodup).2
  settled := by
    intro other handle found absent
    by_cases same : bindingId = other
    · subst same
      rw [sweeping.present _ List.mem_cons_self] at found
      cases found
      exact settled
    · apply sweeping.settled other handle found
      simpa [Ne.symm same] using absent

end Sweeping

theorem settled_of_isCurrent (sound : Sound digest world)
    (present : world.tasks.get? bindingId = some task)
    (current : world.isCurrent emergencySink digest pass bindingId = true) :
    Settled emergencySink digest world pass bindingId task := by
  simp only [isCurrent, Option.any_eq_true, decide_eq_true_eq] at current
  obtain ⟨binding, selected, same⟩ := current
  refine ⟨binding, selected, ?_⟩
  intro connector found running
  obtain ⟨kept, foundKept, -, stored⟩ := sound.kept bindingId task present
  rw [found] at foundKept
  cases foundKept
  rw [stored] at same
  exact Option.some.inj same

theorem Sound.create (sound : Sound digest world) (bindingId : String) (binding : ChannelBinding) :
    Sound digest (world.create digest bindingId binding) := by
  unfold World.create
  cases present : world.tasks.get? bindingId with
  | some task => exact sound
  | none =>
    constructor
    · intro other handle found
      by_cases same : bindingId = other
      · subst same
        simp only [Dict.get?_set_self, Option.some.injEq] at found
        subst found
        exact ⟨_, List.getElem?_concat_length, rfl, Dict.get?_set_self ..⟩
      · simp only [Dict.get?_set_of_ne _ _ same] at found ⊢
        obtain ⟨connector, started, kept⟩ := sound.kept other handle found
        exact ⟨connector, by
          rw [List.getElem?_append_left (List.getElem?_eq_some_iff.mp started).1, started], kept⟩
    · intro handle connector found running
      rw [List.getElem?_append] at found
      split at found
      · have listed := sound.alive handle connector found running
        have differs : bindingId ≠ connector.bindingId := by
          intro same
          rw [← same, present] at listed
          cases listed
        simpa only [Dict.get?_set_of_ne _ _ differs] using listed
      · rename_i outside
        obtain ⟨bound, rfl⟩ := List.getElem?_eq_some_iff.mp found
        have last : handle = world.started.length := by
          simp at bound
          omega
        simp [last]

theorem Sweeping.create (sweeping : Sweeping emergencySink digest world pass [])
    (sound : Sound digest world) {binding : ChannelBinding}
    (selected : (pass.bindings emergencySink).get? bindingId = some binding) :
    Sweeping emergencySink digest (world.create digest bindingId binding) pass [] := by
  unfold World.create
  cases present : world.tasks.get? bindingId with
  | some task => exact sweeping
  | none =>
    refine ⟨sweeping.complete, by simp, by simp, ?_⟩
    intro other handle found absent
    by_cases same : bindingId = other
    · subst same
      simp only [Dict.get?_set_self, Option.some.injEq] at found
      subst found
      refine ⟨binding, selected, ?_⟩
      intro connector started running
      simp only [List.getElem?_concat_length, Option.some.injEq] at started
      rw [← started]
    · simp only [Dict.get?_set_of_ne _ _ same] at found
      obtain ⟨chosen, selected, agrees⟩ := sweeping.settled other handle found absent
      refine ⟨chosen, selected, ?_⟩
      intro connector started running
      obtain ⟨kept, startedKept, -⟩ := sound.kept other handle found
      rw [List.getElem?_append_left (List.getElem?_eq_some_iff.mp startedKept).1] at started
      exact agrees connector started running

theorem isSome_create (bindingId other : String) (binding : ChannelBinding) :
    ((world.create digest bindingId binding).tasks.get? other).isSome = true ↔
      bindingId = other ∨ (world.tasks.get? other).isSome = true := by
  unfold World.create
  cases present : world.tasks.get? bindingId with
  | some task =>
    refine ⟨.inr, ?_⟩
    rintro (rfl | found)
    · simp [present]
    · exact found
  | none =>
    simp only [Dict.get?_set]
    by_cases same : bindingId = other
    · simp [same]
    · simp [same]

theorem createAll_spec (entries : List (String × ChannelBinding))
    (selected : ∀ entry ∈ entries, (pass.bindings emergencySink).get? entry.1 = some entry.2)
    (sound : Sound digest world) (sweeping : Sweeping emergencySink digest world pass []) :
    Sound digest (createAll digest entries world) ∧
      Sweeping emergencySink digest (createAll digest entries world) pass [] ∧
      ∀ bindingId, (bindingId ∈ entries.map Prod.fst ∨ (world.tasks.get? bindingId).isSome = true) →
        ((createAll digest entries world).tasks.get? bindingId).isSome = true := by
  induction entries generalizing world with
  | nil => exact ⟨sound, sweeping, by simp [createAll]⟩
  | cons entry entries hypothesis =>
    obtain ⟨bindingId, binding⟩ := entry
    obtain ⟨soundAfter, sweepingAfter, filled⟩ := hypothesis (fun entry member => selected entry
      (List.mem_cons_of_mem _ member)) (sound.create bindingId binding)
      (sweeping.create sound (selected _ List.mem_cons_self))
    refine ⟨soundAfter, sweepingAfter, ?_⟩
    intro other wanted
    apply filled
    rw [isSome_create]
    simp only [List.map_cons, List.mem_cons] at wanted
    grind

theorem sweep_invariant (sound : Sound digest world)
    (sweeping : Sweeping emergencySink digest world pass rest) :
    Invariant emergencySink digest (sweep emergencySink digest pass rest world) := by
  induction rest generalizing world with
  | nil =>
    obtain ⟨soundAfter, sweepingAfter, filled⟩ := createAll_spec
      (pass.bindings emergencySink).entries
      (fun entry member => (Dict.mem_entries_iff ..).mp member) sound sweeping
    refine ⟨⟨soundAfter.kept, soundAfter.alive⟩,
      ⟨sweepingAfter.complete, by simp, by simp, sweepingAfter.settled⟩, ?_⟩
    intro bindingId chosen
    apply filled
    exact .inl ((Dict.mem_keys_iff ..).mpr (Option.isSome_iff_exists.mp chosen))
  | cons entry rest hypothesis =>
    obtain ⟨bindingId, task⟩ := entry
    have present := sweeping.present _ List.mem_cons_self
    rw [sweep]
    split_ifs with done current
    · exact hypothesis (sound.forget present done) sweeping.forget
    · exact hypothesis sound (sweeping.skip (settled_of_isCurrent sound present current))
    · exact ⟨⟨sound.kept, sound.alive⟩, ⟨sweeping.complete, sweeping.present,
        sweeping.nodup, sweeping.settled⟩⟩

theorem sweeping_entries (complete : pass.Complete emergencySink) :
    Sweeping emergencySink digest world pass world.tasks.entries where
  complete := complete
  present entry member := (Dict.mem_entries_iff ..).mp member
  nodup := world.tasks.nodup
  settled := by
    intro bindingId task found absent
    exact absurd ((Dict.mem_keys_iff ..).mpr ⟨task, found⟩) absent

theorem proceed_invariant {pending : List ChannelBinding} (sound : Sound digest world)
    (asked : emergencySink = true → pass.answers.map Prod.fst ++ pending = pass.listed) :
    Invariant emergencySink digest (proceed emergencySink digest world pass pending) := by
  cases emergencySink with
  | false => exact sweep_invariant sound (sweeping_entries (by simp [Pass.Complete]))
  | true =>
    cases pending with
    | nil =>
      apply sweep_invariant sound (sweeping_entries ?_)
      intro _
      simpa using asked rfl
    | cons binding pending => exact ⟨⟨sound.kept, sound.alive⟩, asked rfl⟩

theorem started_of_finish {ended : TaskEnd} {handle : Nat}
    (found : (world.finish task ended).started[handle]? = some connector) :
    ∃ before, world.started[handle]? = some before ∧ before.bindingId = connector.bindingId ∧
      before.binding = connector.binding ∧
      (connector.ended = none → before.ended = none) := by
  unfold World.finish at found
  split at found
  · rename_i bindingId binding running
    rw [List.getElem?_set] at found
    split at found
    · rename_i same
      subst same
      split at found
      · cases found
        exact ⟨_, running, rfl, rfl, fun _ => rfl⟩
      · cases found
    · exact ⟨connector, found, rfl, rfl, id⟩
  · exact ⟨connector, found, rfl, rfl, id⟩

theorem finish_of_started {ended : TaskEnd} {handle : Nat}
    (found : world.started[handle]? = some connector) :
    ∃ after, (world.finish task ended).started[handle]? = some after := by
  have bound := (List.getElem?_eq_some_iff.mp found).1
  refine ⟨_, List.getElem?_eq_getElem ?_⟩
  unfold World.finish
  split
  · simpa using bound
  · exact bound

@[simp] theorem tasks_finish (task : Nat) (ended : TaskEnd) :
    (world.finish task ended).tasks = world.tasks := by
  unfold World.finish
  split <;> rfl

@[simp] theorem signatures_finish (task : Nat) (ended : TaskEnd) :
    (world.finish task ended).signatures = world.signatures := by
  unfold World.finish
  split <;> rfl

@[simp] theorem phase_finish (task : Nat) (ended : TaskEnd) :
    (world.finish task ended).phase = world.phase := by
  unfold World.finish
  split <;> rfl

theorem Sound.finish (sound : Sound digest world) (task : Nat)
    (ended : TaskEnd) : Sound digest (world.finish task ended) where
  kept := by
    intro bindingId handle found
    rw [tasks_finish] at found
    obtain ⟨connector, started, same, stored⟩ := sound.kept bindingId handle found
    obtain ⟨after, startedAfter⟩ := finish_of_started started
    obtain ⟨before, startedBefore, sameId, sameBinding, -⟩ := started_of_finish startedAfter
    rw [started] at startedBefore
    cases startedBefore
    exact ⟨after, startedAfter, sameId ▸ same, by
      rw [signatures_finish, stored, sameBinding]⟩
  alive := by
    intro handle connector found running
    obtain ⟨before, started, sameId, -, stillRunning⟩ := started_of_finish found
    rw [tasks_finish, ← sameId]
    exact sound.alive handle before started (stillRunning running)

theorem Sweeping.finish (sweeping : Sweeping emergencySink digest world pass rest) (task : Nat)
    (ended : TaskEnd) :
    Sweeping emergencySink digest (world.finish task ended) pass rest where
  complete := sweeping.complete
  present := by simpa using sweeping.present
  nodup := sweeping.nodup
  settled := by
    intro bindingId handle found absent
    rw [tasks_finish] at found
    obtain ⟨binding, selected, agrees⟩ := sweeping.settled bindingId handle found absent
    refine ⟨binding, selected, ?_⟩
    intro connector started running
    obtain ⟨before, startedBefore, -, sameBinding, stillRunning⟩ := started_of_finish started
    rw [← sameBinding]
    exact agrees before startedBefore (stillRunning running)

section Invariant

variable (invariant : Invariant emergencySink digest world)

include invariant

theorem Invariant.finish (task : Nat)
    (ended : TaskEnd) : Invariant emergencySink digest (world.finish task ended) := by
  refine ⟨invariant.sound.finish task ended, ?_⟩
  have kept := invariant.phase
  rw [phase_finish]
  cases phase : world.phase with
  | idle => trivial
  | listing => trivial
  | resolving pass binding pending =>
    rw [phase] at kept
    exact kept
  | waiting pass bindingId handle rest =>
    rw [phase] at kept
    exact Sweeping.finish kept task ended
  | returned pass =>
    rw [phase] at kept
    refine ⟨kept.1.finish task ended, ?_⟩
    rw [tasks_finish]
    exact kept.2

theorem Invariant.unset : Invariant emergencySink digest { world with phase := .idle } :=
  ⟨⟨invariant.sound.kept, invariant.sound.alive⟩, trivial⟩

theorem Invariant.awake (interrupted : Bool) :
    Invariant emergencySink digest (world.awake emergencySink digest interrupted) := by
  have kept := invariant.phase
  unfold World.awake
  split
  · rename_i pass bindingId task rest phase
    rw [phase] at kept
    have sweeping : Sweeping emergencySink digest world pass ((bindingId, task) :: rest) := kept
    split
    · exact invariant
    · exact invariant.unset
    · rename_i finished _
      have done : world.isDone task = true := by
        cases found : world.started[task]? with
        | none => simp [isDone, found]
        | some connector =>
          simp only [found, Option.bind_some] at finished
          simp [isDone, found, finished]
      exact sweep_invariant (invariant.sound.forget (sweeping.present _ List.mem_cons_self) done)
        sweeping.forget
  · exact invariant

theorem Invariant.act (action : Action) :
    Invariant emergencySink digest (world.act emergencySink digest action) := by
  have sound := invariant.sound
  have kept := invariant.phase
  cases action with
  | reconcileOnce =>
    have opened : Invariant emergencySink digest { world with phase := .listing } :=
      ⟨⟨sound.kept, sound.alive⟩, trivial⟩
    simp only [World.act]
    split
    · exact opened
    · exact opened
    · exact invariant
  | listBindings answer =>
    simp only [World.act]
    split
    · apply proceed_invariant sound
      simp
    · exact invariant.unset
    · exact invariant
  | resolveBinding answer =>
    simp only [World.act]
    split
    · rename_i pass binding pending route phase
      rw [phase] at kept
      apply proceed_invariant sound
      intro _
      simpa [PhaseInvariant] using kept
    · exact invariant.unset
    · exact invariant
  | awake interrupted => exact invariant.awake interrupted
  | finish task ended => exact invariant.finish task ended

end Invariant

theorem invariant_of_reachable (reached : Reachable emergencySink digest world) :
    Invariant emergencySink digest world := by
  induction reached with
  | refl =>
    refine ⟨⟨?_, ?_⟩, trivial⟩
    · simp
    · simp
  | tail _ step hypothesis =>
    obtain ⟨action, rfl⟩ := step
    exact hypothesis.act action

/-- Passes may end early, and tasks may end at any time: no binding ever has
two running tasks, and a pass that returns has aligned the tasks with what it
selected. -/
theorem one_connector_per_binding (emergencySink : Bool) (digest : Projection → String)
    (world : World) (reached : Reachable emergencySink digest world) :
    (∀ (first second : Nat) (connector other : ConnectorTask),
      world.started[first]? = some connector →
      world.started[second]? = some other →
      connector.ended = none → other.ended = none →
      connector.bindingId = other.bindingId → first = second) ∧
    ∀ pass, world.phase = .returned pass → (∀ bindingId, bindingId ∈ world.tasks.keys ↔
        pass.Selects emergencySink bindingId) ∧
      ∀ connector ∈ world.started, connector.ended = none → ∃ binding,
          (pass.bindings emergencySink).get? connector.bindingId = some binding ∧
          bindingSignature digest connector.binding = bindingSignature digest binding := by
  obtain ⟨sound, kept⟩ := invariant_of_reachable reached
  constructor
  · intro first second connector other found foundOther running otherRunning same
    have listed := sound.alive first connector found running
    rw [same, sound.alive second other foundOther otherRunning] at listed
    exact (Option.some.inj listed).symm
  · intro pass phase
    rw [phase] at kept
    obtain ⟨sweeping, filled⟩ := kept
    constructor
    · intro bindingId
      rw [← isSome_bindings sweeping.complete, Dict.mem_keys_iff]
      constructor
      · rintro ⟨task, found⟩
        obtain ⟨binding, selected, -⟩ := sweeping.settled bindingId task found (by simp)
        simp [selected]
      · intro selected
        exact Option.isSome_iff_exists.mp (filled bindingId selected)
    · intro connector member running
      obtain ⟨task, found⟩ := List.getElem?_of_mem member
      obtain ⟨binding, selected, agrees⟩ := sweeping.settled _ task
        (sound.alive task connector found running) (by simp)
      exact ⟨binding, selected, agrees connector found running⟩

def supportBot : ChannelBinding where
  bindingId := "support"
  tenantId := "tenant-a"
  appId := "app"
  channel := .wecomAiBot
  accountId := "bot"
  secretRefs := .empty

theorem Reachable.foldl (reached : Reachable emergencySink digest world) (actions : List Action) :
    Reachable emergencySink digest (actions.foldl (act emergencySink digest) world) := by
  induction actions generalizing world with
  | nil => exact reached
  | cons action rest hypothesis => exact hypothesis (reached.tail ⟨action, rfl⟩)

/-- The account changes between two passes; the second one waits for the old
task to end. -/
def rotation : List Action := [.reconcileOnce, .listBindings (some [supportBot]), .reconcileOnce,
    .listBindings (some [{ supportBot with accountId := "rotated" }]), .finish 0 .cancelled,
    .awake false]

theorem rotated_binding_has_one_connector :
    let world := rotation.foldl (act false Projection.accountId) {}
    world.started.map ConnectorTask.ended = [some .cancelled, none] ∧
      (∀ (first second : Nat) (connector other : ConnectorTask),
        world.started[first]? = some connector → world.started[second]? = some other →
        connector.ended = none → other.ended = none →
        connector.bindingId = other.bindingId → first = second) ∧
      ∃ pass, world.phase = .returned pass ∧ ∀ connector ∈ world.started, connector.ended = none →
        ∃ binding, (pass.bindings false).get? connector.bindingId = some binding ∧
          connector.binding.accountId = binding.accountId := by
  have connected := one_connector_per_binding false Projection.accountId _
    (Reachable.foldl .refl rotation)
  exact ⟨by decide, connected.1, _, rfl, (connected.2 _ rfl).2⟩

end World

end TrpcService.Agent.ConnectionManager
