import TrpcService.Data.Coroutine
import TrpcService.Queue.SessionReady

namespace TrpcService.Queue.WakeUps

open Data Behaviour
open Coroutine (Obeys Ends)

/-! The stream of wake-up notices: the jobs that publish to it, and those of
the workers that receive or reclaim a notice, claim its session in PostgreSQL
and acknowledge. -/

inductive Error where
  | noGroup
  | busyGroup
  | raised (error : CodecError)
  | cancelled
  /-- The cancellation by `wait_for`, which makes a `TimeoutError` of it. -/
  | deadline
  | other (name : String)
  deriving DecidableEq

/-- What `except Exception` lets through. -/
def Error.cancels (error : Error) : Bool := error = .cancelled ∨ error = .deadline

structure SessionReadyDelivery where
  streamId : String
  message : SessionReady

/-- An entry of the stream is known by its id. -/
inductive Effect where
  | xgroupCreate
  | xadd (message : SessionReady) (fields : Dict String String)
  | xreadgroup (consumer : String) (count : Nat)
  | xautoclaim (consumer cursor : String) (count : Nat)
  | xack (streamId : String)
  | xdel (streamId : String)
  | sleep
  | claim (delivery : SessionReadyDelivery)
  | execute (delivery : SessionReadyDelivery)

open Effect

@[reducible] def Effect.Answer : Effect → Type
  | .xadd _ _ => String
  | .xreadgroup _ _ => List String
  | .xautoclaim _ _ _ => String × List String
  | .xack _ => Bool
  -- Is the status of the claim `CLAIMED`?
  | .claim _ => Bool
  | _ => Unit

abbrev Program (α : Type) := Coroutine Effect Answer Error α

def Effect.await (effect : Effect) : Program effect.Answer := Coroutine.perform effect

def suppressing (program : Program Unit) : Program Unit :=
  tryCatch program fun error => if error.cancels then throw error else pure ()

def ensureGroup : Program Unit := tryCatch xgroupCreate.await fun error =>
    if error = .busyGroup then pure () else throw error

def publish (message : SessionReady) : Program String :=
  match encode message with
  | .error error => throw (.raised error)
  | .ok fields => (xadd message fields).await

structure SessionReadyQueue where
  xdelAttempts : {attempts : Nat // 1 ≤ attempts}
  /-- Is there a delay before the next attempt? -/
  delayed : Bool

structure SessionReadyReclaimer where
  consumer : String
  count : Nat
  cursor : String := "0-0"

structure SessionWorkerConsumer where
  queue : SessionReadyQueue
  consumerId : String

/-- What the fields of an entry decode to, by its id. -/
abbrev Reading := String → Except CodecError SessionReady

/-- A call of the dispatcher, or a pass of one of a worker's loops with the
delivery task that it starts. -/
inductive Job where
  | ensureGroup
  | publish (message : SessionReady)
  | receive (worker : SessionWorkerConsumer)
  | reclaim (worker : SessionWorkerConsumer) (reclaimer : SessionReadyReclaimer)

section Programs

variable (read : Reading) (queue : SessionReadyQueue) (reclaimer : SessionReadyReclaimer)
  (worker : SessionWorkerConsumer) (delivery : SessionReadyDelivery) (streamId : String)

def SessionReadyQueue.deleteAttempts : Nat → Program Unit
  | 0 => pure ()
  | attempts + 1 =>
      tryCatch (xdel streamId).await fun error =>
        if error.cancels then throw error
        else if attempts = 0 then pure ()
        else do
          if queue.delayed then sleep.await
          deleteAttempts attempts

def SessionReadyQueue.deleteAfterAck : Program Unit :=
  queue.deleteAttempts streamId queue.xdelAttempts

def SessionReadyQueue.ack : Program Bool := do
  let acknowledged ← (xack streamId).await
  if acknowledged then queue.deleteAfterAck streamId
  pure acknowledged

/-- `_decode_rows_safely` and `_decode_entries_safely`, by how they delete a
poison record. -/
def decodeSafely (delete : String → Program Unit) :
    List String → Program (List SessionReadyDelivery)
  | [] => pure []
  | streamId :: rest =>
      match read streamId with
      | .ok message => do
          let deliveries ← decodeSafely delete rest
          pure (⟨streamId, message⟩ :: deliveries)
      | .error _ => do
          suppressing do
            let _ ← (xack streamId).await
            delete streamId
          decodeSafely delete rest

def SessionReadyQueue.receiveNew (consumer : String) (count : Nat) :
    Program (List SessionReadyDelivery) :=
  if consumer = "" then throw (.raised (.valueError "consumer must not be empty"))
  else if count < 1 then throw (.raised (.valueError "count must be positive"))
  else do
    let rows ← tryCatch (xreadgroup consumer count).await fun error =>
      if error = .noGroup then do
        ensureGroup
        (xreadgroup consumer count).await
      else throw error
    decodeSafely read queue.deleteAfterAck rows

def deleteReclaimed : Program Unit := suppressing (xdel streamId).await

def SessionReadyReclaimer.page : Program (String × List String) :=
  tryCatch (do
    let (next, rows) ← (xautoclaim reclaimer.consumer reclaimer.cursor
      reclaimer.count).await
    pure (if next = "" then "0-0" else next, rows))
    fun error =>
      if error = .noGroup then do
        ensureGroup
        pure ("0-0", [])
      else throw error

/-- The reclaimer with its next cursor, and the deliveries. -/
def SessionReadyReclaimer.reclaim :
    Program (SessionReadyReclaimer × List SessionReadyDelivery) := do
  let (cursor, rows) ← reclaimer.page
  let deliveries ← decodeSafely read deleteReclaimed rows
  pure ({ reclaimer with cursor }, deliveries)

def SessionWorkerConsumer.ackSafely : Program Unit :=
  tryCatch (do
    let _ ← worker.queue.ack delivery.streamId
    pure ())
    fun error => if error = .cancelled then throw error else pure ()

def claim : Program (Option Bool) :=
  tryCatch (do
    let claimed ← (Effect.claim delivery).await
    pure (some claimed))
    fun error => if error.cancels then throw error else pure none

def SessionWorkerConsumer.claimAckExecute : Program Unit := do
  match ← claim delivery with
  | none => pure ()
  | some claimed => do
      worker.ackSafely delivery
      if claimed then suppressing (Effect.execute delivery).await

/-- Only the first delivery is processed, the others stay pending. -/
def SessionWorkerConsumer.startDelivery : List SessionReadyDelivery → Program Unit
  | [] => pure ()
  | delivery :: _ => suppressing (worker.claimAckExecute delivery)

def Job.program : Job → Program Unit
  | .ensureGroup => WakeUps.ensureGroup
  | .publish message => do
      let _ ← WakeUps.publish message
  | .receive worker => do
      let deliveries ← worker.queue.receiveNew read worker.consumerId 1
      worker.startDelivery deliveries
  | .reclaim worker reclaimer => do
      let (_, deliveries) ← reclaimer.reclaim read
      worker.startDelivery deliveries

end Programs

/-- What the group has still to be given, and what it was given without an
acknowledgement so far. -/
structure ConsumerGroup where
  fresh : List String
  pending : List String

structure World where
  entries : List String := []
  group : Option ConsumerGroup := none
  published : List (String × SessionReady) := []
  /-- The deliveries whose claim PostgreSQL has answered. -/
  answered : List SessionReadyDelivery := []

structure Choice where
  fate : Fate Error := .answered
  streamId : String := ""
  size : Nat := 0
  cursor : String := "0-0"
  scanned : List String := []
  claimed : Bool := false

inductive Move where
  /-- Redis loses the stream and the group. -/
  | lose
  /-- Somebody else writes to the stream. -/
  | write (streamId : String)

namespace World

variable (world : World)

def append (streamId : String) : World :=
  { world with
    entries := world.entries ++ [streamId]
    group := world.group.map fun group =>
      { group with fresh := group.fresh ++ [streamId] } }

def xadd (message : SessionReady) (streamId : String) : World :=
  { world.append streamId with
    published := (streamId, message) :: world.published }

def xgroupCreate : Except Error (Unit × World) :=
  match world.group with
  | some _ => .error .busyGroup
  | none => .ok ((), { world with group := some ⟨world.entries, []⟩ })

def xreadgroup (size : Nat) : Except Error (List String × World) :=
  match world.group with
  | none => .error .noGroup
  | some group =>
      .ok (world.entries.filter (· ∈ group.fresh.take size), { world with
        group := some ⟨group.fresh.drop size,
          group.pending ++ group.fresh.take size⟩ })

/-- Whose pending entries they are is not recorded. -/
def xautoclaim (cursor : String) (scanned : List String) :
    Except Error ((String × List String) × World) :=
  match world.group with
  | none => .error .noGroup
  | some group =>
      .ok ((cursor, world.entries.filter fun streamId =>
        streamId ∈ group.pending ∧ streamId ∈ scanned), world)

def xack (streamId : String) : Bool × World :=
  match world.group with
  | none => (false, world)
  | some group =>
      (streamId ∈ group.pending, { world with
        group := some ⟨group.fresh, group.pending.filter (· ≠ streamId)⟩ })

def xdel (streamId : String) : World :=
  { world with entries := world.entries.filter (· ≠ streamId) }

def answer (delivery : SessionReadyDelivery) : Fate Error → World
  | .answered => { world with answered := delivery :: world.answered }
  | _ => world

def respond (effect : Effect) (choice : Choice) (world : World) :
    Except Error effect.Answer × World :=
  match effect with
  | .xgroupCreate => choice.fate.transact world.xgroupCreate world
  | .xadd message _ =>
      choice.fate.transact (.ok (choice.streamId, world.xadd message choice.streamId)) world
  | .xreadgroup _ count => choice.fate.transact (world.xreadgroup (min choice.size count)) world
  | .xautoclaim _ _ _ => choice.fate.transact (world.xautoclaim choice.cursor choice.scanned) world
  | .xack streamId => choice.fate.transact (.ok (world.xack streamId)) world
  | .xdel streamId => choice.fate.transact (.ok ((), world.xdel streamId)) world
  | .sleep => (choice.fate.answer (), world)
  | .claim delivery => (choice.fate.answer choice.claimed, world.answer delivery choice.fate)
  | .execute _ => (choice.fate.answer (), world)

def move (move : Move) (world : World) : World :=
  match move with
  | .lose => { world with entries := [], group := none, published := [] }
  | .write streamId => world.append streamId

/-- Redis can still hand out the entry: the group has not been given it, or it
is pending. -/
def Holds (streamId : String) : Prop := streamId ∈ world.entries ∧ ∀ group ∈ world.group,
    streamId ∈ group.fresh ∨ streamId ∈ group.pending

end World

abbrev Transport := Fleet World Nat Effect Answer Error Unit

def transport (read : Reading) :
    Behaviour World Nat Effect Answer Error Unit (Nat × Job) Choice Move where
  launch := fun (name, job) => (name, job.program read)
  respond := fun _ => World.respond
  move := World.move

/-- An entry keeps the fields it was written with, as texts or as bytes. -/
def Faithful (library : Library) (read : Reading)
    (fleet : Transport) : Action Nat (Nat × Job) Choice Move → Prop
  | .resume name choice => ∀ message fields,
      (fleet.tasks name).awaited = some (.xadd message fields) →
      ∃ written, Written fields written ∧ read choice.streamId = decode library written
  | _ => True

def emptyTransport : Transport := ⟨{}, fun _ => .done (.ok ())⟩

variable {delivery : SessionReadyDelivery}

section Conduct

variable (read : Reading)

/-- The delivery whose claim a job has an answer to, and whether the answer is
`CLAIMED`. -/
abbrev Claimed := Option (SessionReadyDelivery × Bool)

/-- What a job may remove: an entry that does not decode, or the one whose claim
was answered. -/
def Clears (claimed : Claimed) (streamId : String) : Prop :=
  ∀ message, read streamId = .ok message → ∃ granted, claimed = some (⟨streamId, message⟩, granted)

def Decoded (deliveries : List SessionReadyDelivery) : Prop :=
  ∀ delivery ∈ deliveries, read delivery.streamId = .ok delivery.message

def learn (claimed : Claimed) (effect : Effect) (answer : Except Error effect.Answer) : Claimed :=
  match effect, answer with
  | .claim delivery, .ok granted => some (delivery, granted)
  | .execute _, _ => none
  | _, _ => claimed

def conduct : Coroutine.Protocol Effect Answer Error Claimed where
  permits claimed effect :=
    match effect with
    | .xadd message fields => encode message = .ok fields
    | .xack streamId => Clears read claimed streamId
    | .xdel streamId => Clears read claimed streamId
    | .claim delivery => read delivery.streamId = .ok delivery.message
    | .execute delivery => claimed = some (delivery, true)
    | _ => True
  next := learn

variable {α β : Type} (claimed : Claimed) (program : Program α)

/-- Nothing is claimed on the way. -/
abbrev Keeping : Prop :=
  Obeys (conduct read) (Ends (fun _ after => after = claimed) (· = claimed)) claimed program

abbrev Returning (returned : α → Claimed → Prop) : Prop :=
  Obeys (conduct read) (Ends returned fun _ => True) claimed program

variable {read claimed program}

theorem keeping_await (effect : Effect) (permitted : (conduct read).permits claimed effect)
    (same : ∀ answer, learn claimed effect answer = claimed) :
    Keeping read claimed effect.await := by
  refine ⟨permitted, fun answer => ?_⟩
  cases answer <;> exact same _

section Keeping

variable (keeping : Keeping read claimed program)

include keeping

theorem Keeping.andThen {next : α → Program β} (rest : ∀ value, Keeping read claimed (next value)) :
    Keeping read claimed (program >>= next) := by
  refine Obeys.andThen keeping ?_
  rintro value _ rfl
  exact rest value

theorem Keeping.orElse {handler : Error → Program α}
    (rest : ∀ error, Keeping read claimed (handler error)) :
    Keeping read claimed (tryCatch program handler) := by
  refine Obeys.orElse keeping ?_
  rintro error _ rfl
  exact rest error

theorem Keeping.returning : Returning read claimed program fun _ after => after = claimed := by
  refine Obeys.mono keeping ?_
  intro result after same
  cases result with
  | ok _ => exact same
  | error _ => trivial

end Keeping

theorem Returning.orElse {returned : α → Claimed → Prop}
    {handler : Error → Program α} (first : Returning read claimed program returned)
    (rest : ∀ error claimed, Returning read claimed (handler error) returned) :
    Returning read claimed (tryCatch program handler) returned :=
  Obeys.orElse first fun error after _ => rest error after

theorem Keeping.suppressing {program : Program Unit} (keeping : Keeping read claimed program) :
    Keeping read claimed (suppressing program) := by
  refine keeping.orElse ?_
  intro error
  split <;> exact rfl

theorem keeping_ensureGroup : Keeping read claimed ensureGroup := by
  refine (keeping_await .xgroupCreate trivial fun _ => rfl).orElse ?_
  intro error
  split <;> exact rfl

section Clears

variable {streamId : String} (clears : Clears read claimed streamId)

include clears

theorem keeping_xdel : Keeping read claimed (xdel streamId).await :=
  keeping_await (.xdel streamId) clears fun _ => rfl

theorem keeping_xack : Keeping read claimed (xack streamId).await :=
  keeping_await (.xack streamId) clears fun _ => rfl

theorem keeping_deleteAttempts (queue : SessionReadyQueue) (attempts : Nat) :
    Keeping read claimed (queue.deleteAttempts streamId attempts) := by
  induction attempts with
  | zero => exact rfl
  | succ attempts induction =>
    refine (keeping_xdel clears).orElse ?_
    intro error
    split
    · exact rfl
    · split
      · exact rfl
      · split
        · exact (keeping_await .sleep trivial fun _ => rfl).andThen fun _ => induction
        · exact induction

theorem keeping_ack (queue : SessionReadyQueue) : Keeping read claimed (queue.ack streamId) := by
  refine (keeping_xack clears).andThen ?_
  intro acknowledged
  cases acknowledged with
  | false => exact rfl
  | true => exact (keeping_deleteAttempts clears queue _).andThen fun _ => rfl

end Clears

theorem keeping_ackSafely (worker : SessionWorkerConsumer)
    (clears : Clears read claimed delivery.streamId) :
    Keeping read claimed (worker.ackSafely delivery) := by
  refine ((keeping_ack clears worker.queue).andThen ?_).orElse ?_
  · intro _
    exact rfl
  · intro error
    split <;> exact rfl

/-- A poison record may be removed at any time. -/
theorem returning_decodeSafely {delete : String → Program Unit}
    (deletes : ∀ claimed streamId, Clears read claimed streamId →
      Keeping read claimed (delete streamId)) (rows : List String) :
    Returning read claimed (decodeSafely read delete rows) fun deliveries _ =>
      Decoded read deliveries := by
  induction rows generalizing claimed with
  | nil => exact List.forall_mem_nil _
  | cons streamId rest induction =>
    simp only [decodeSafely]
    split
    case h_1 message decodes =>
      exact induction.andThen fun _ _ others => List.forall_mem_cons.mpr ⟨decodes, others⟩
    case h_2 refused =>
      have clears : Clears read claimed streamId := by
        intro message decodes
        cases refused.symm.trans decodes
      exact ((keeping_xack clears).andThen fun _ =>
        deletes claimed streamId clears).suppressing.returning.andThen fun _ _ _ => induction

theorem returning_claim (decodes : read delivery.streamId = .ok delivery.message) :
    Returning read claimed (claim delivery) fun claim after =>
      ∀ granted ∈ claim, after = some (delivery, granted) := by
  refine ⟨decodes, fun answer => ?_⟩
  cases answer with
  | ok granted =>
    rintro _ ⟨⟩
    rfl
  | error error =>
    change Obeys _ _ _ (if error.cancels then throw error else pure none)
    split
    · trivial
    · rintro _ ⟨⟩

theorem returning_startDelivery (worker : SessionWorkerConsumer)
    {deliveries : List SessionReadyDelivery} (decoded : Decoded read deliveries) :
    Returning read claimed (worker.startDelivery deliveries) fun _ _ => True := by
  cases deliveries with
  | nil => trivial
  | cons delivery rest =>
    have decodes := decoded delivery List.mem_cons_self
    have ends (error : Error) (claimed : Claimed) : Returning read claimed
      (if error.cancels then throw error else pure ()) fun _ _ => True := by
      split <;> trivial
    refine Returning.orElse ((returning_claim decodes).andThen ?_) ends
    intro claim after decided
    cases claim with
    | none => trivial
    | some granted =>
      obtain rfl := decided granted rfl
      have clears : Clears read (some (delivery, granted)) delivery.streamId := by
        intro message same
        cases decodes.symm.trans same
        exact ⟨granted, rfl⟩
      refine (keeping_ackSafely worker clears).returning.andThen ?_
      rintro _ _ rfl
      cases granted with
      | false => trivial
      | true =>
        refine Returning.orElse ⟨rfl, fun answer => ?_⟩ ends
        cases answer <;> trivial

theorem returning_receiveNew (queue : SessionReadyQueue) (consumer : String) (count : Nat) :
    Returning read claimed (queue.receiveNew read consumer count) fun deliveries _ =>
      Decoded read deliveries := by
  have reads (claimed : Claimed) :
      Returning read claimed (xreadgroup consumer count).await fun _ _ => True := by
    refine ⟨trivial, fun answer => ?_⟩
    cases answer <;> trivial
  unfold SessionReadyQueue.receiveNew
  split
  · trivial
  · split
    · trivial
    · refine ((reads claimed).orElse ?_).andThen ?_
      · intro error after
        split
        · exact keeping_ensureGroup.returning.andThen fun _ last _ => reads last
        · trivial
      · intro rows after _
        exact returning_decodeSafely (fun claimed streamId clears =>
          keeping_deleteAttempts clears queue _) rows

theorem returning_reclaim (reclaimer : SessionReadyReclaimer) :
    Returning read claimed (reclaimer.reclaim read) fun page _ => Decoded read page.2 := by
  have pages : Returning read claimed reclaimer.page fun _ _ => True := by
    refine Returning.orElse ⟨trivial, fun answer => ?_⟩ ?_
    · cases answer <;> trivial
    · intro error after
      split
      · exact keeping_ensureGroup.returning.andThen fun _ _ _ => trivial
      · trivial
  refine pages.andThen fun page last _ => ?_
  exact (returning_decodeSafely (fun claimed streamId clears =>
    (keeping_xdel clears).suppressing) page.2).andThen fun _ _ decoded => decoded

theorem returning_program (job : Job) :
    Returning read claimed (job.program read) fun _ _ => True := by
  cases job with
  | ensureGroup =>
    exact keeping_ensureGroup.returning.mono fun result _ _ => by cases result <;> trivial
  | publish message =>
    simp only [Job.program, publish]
    split
    case h_1 => trivial
    case h_2 fields encodes =>
      refine ⟨encodes, fun answer => ?_⟩
      cases answer <;> trivial
  | receive worker =>
    exact (returning_receiveNew worker.queue worker.consumerId 1).andThen
      fun _ _ decoded => returning_startDelivery worker decoded
  | reclaim worker reclaimer =>
    exact (returning_reclaim reclaimer).andThen
      fun _ _ decoded => returning_startDelivery worker decoded

/-- Whatever Redis and PostgreSQL answer, and wherever it is cancelled, a job
claims only what it could decode, acknowledges or deletes a notice it could
decode only after the claim was answered, and executes at most once, after the
answer `CLAIMED`. -/
theorem job_order_of_effects (read : Reading) (job : Job) :
    Obeys (conduct read) (Ends (fun _ _ => True) fun _ => True) none (job.program read) :=
  returning_program job

end Conduct

section Delivery

variable (read : Reading)

/-- The notice is still to be handed out, or PostgreSQL has answered the claim
of its message. -/
def Kept (world : World) (notice : String × SessionReady) : Prop :=
  ∃ normal, notice.2.normalise = some normal ∧ read notice.1 = .ok normal ∧
    (world.Holds notice.1 ∨ ⟨notice.1, normal⟩ ∈ world.answered)

structure Stands (world : World) (claims : Nat → Claimed) : Prop where
  claimed : ∀ name, ∀ claim ∈ claims name, claim.1 ∈ world.answered
  genuine : Decoded read world.answered
  kept : ∀ notice ∈ world.published, Kept read world notice

namespace Stands

variable {read} {world : World} {claims : Nat → Claimed} (stands : Stands read world claims)

include stands

/-- Nothing is given up but what was claimed. -/
theorem shift {entries : List String} {group : Option ConsumerGroup}
    (holds : ∀ streamId, world.Holds streamId →
      { world with entries, group : World }.Holds streamId ∨
        ∀ message, read streamId = .ok message → ⟨streamId, message⟩ ∈ world.answered) :
    Stands read { world with entries, group } claims := by
  refine { stands with kept := ?_ }
  intro notice member
  obtain ⟨normal, normalises, reads, held | answered⟩ := stands.kept notice member
  · exact ⟨normal, normalises, reads,
      (holds notice.1 held).imp_right fun answered => answered normal reads⟩
  · exact ⟨normal, normalises, reads, .inr answered⟩

theorem append (streamId : String) : Stands read (world.append streamId) claims := by
  refine stands.shift fun other held => .inl ⟨List.mem_append_left _ held.1, ?_⟩
  intro group grouped
  obtain ⟨before, found, rfl⟩ := Option.mem_map.mp grouped
  exact (held.2 before found).imp_left (List.mem_append_left _)

theorem xadd {message normal : SessionReady} {streamId : String}
    (normalises : message.normalise = some normal) (reads : read streamId = .ok normal) :
    Stands read (world.xadd message streamId) claims := by
  have grown := stands.append streamId
  refine { grown with kept := List.forall_mem_cons.mpr ⟨?_, grown.kept⟩ }
  refine ⟨normal, normalises, reads, .inl ⟨List.mem_append_right _ List.mem_cons_self, ?_⟩⟩
  intro group grouped
  obtain ⟨before, -, rfl⟩ := Option.mem_map.mp grouped
  exact .inl (List.mem_append_right _ List.mem_cons_self)

theorem xgroupCreate {answer : Unit × World} (took : world.xgroupCreate = .ok answer) :
    Stands read answer.2 claims := by
  unfold World.xgroupCreate at took
  split at took
  · cases took
  · cases took
    refine stands.shift fun streamId held => .inl ⟨held.1, ?_⟩
    rintro group ⟨⟩
    exact .inl held.1

theorem xreadgroup {size : Nat} {answer : List String × World}
    (took : world.xreadgroup size = .ok answer) : Stands read answer.2 claims := by
  unfold World.xreadgroup at took
  split at took
  · cases took
  case h_2 group grouped =>
    cases took
    refine stands.shift fun streamId held => .inl ⟨held.1, ?_⟩
    rintro _ ⟨⟩
    rcases held.2 group grouped with fresh | pending
    · rw [← List.take_append_drop size group.fresh, List.mem_append] at fresh
      exact fresh.symm.imp_right (List.mem_append_right _)
    · exact .inr (List.mem_append_left _ pending)

theorem xautoclaim {cursor : String} {scanned : List String}
    {answer : (String × List String) × World}
    (took : world.xautoclaim cursor scanned = .ok answer) : Stands read answer.2 claims := by
  unfold World.xautoclaim at took
  split at took
  · cases took
  · cases took
    exact stands

section Clears

variable {name : Nat} {streamId : String} (clears : Clears read (claims name) streamId)

include clears

theorem answered_of_clears (message : SessionReady) (reads : read streamId = .ok message) :
    ⟨streamId, message⟩ ∈ world.answered := by
  obtain ⟨granted, claimed⟩ := clears message reads
  exact stands.claimed name _ claimed

theorem xack : Stands read (world.xack streamId).2 claims := by
  unfold World.xack
  split
  · exact stands
  case h_2 group grouped =>
    refine stands.shift fun other held => ?_
    by_cases same : other = streamId
    · subst same
      exact .inr (stands.answered_of_clears clears)
    · refine .inl ⟨held.1, ?_⟩
      rintro _ ⟨⟩
      exact (held.2 group grouped).imp_right fun pending => by simp [pending, same]

theorem xdel : Stands read (world.xdel streamId) claims := by
  refine stands.shift fun other held => ?_
  by_cases same : other = streamId
  · subst same
    exact .inr (stands.answered_of_clears clears)
  · exact .inl ⟨by simp [held.1, same], held.2⟩

end Clears

theorem answer (decodes : read delivery.streamId = .ok delivery.message) (fate : Fate Error) :
    Stands read (world.answer delivery fate) claims := by
  cases fate with
  | answered =>
    refine ⟨fun name other member => List.mem_cons_of_mem _ (stands.claimed name other member),
      List.forall_mem_cons.mpr ⟨decodes, stands.genuine⟩, ?_⟩
    intro notice member
    obtain ⟨normal, normalises, reads, kept⟩ := stands.kept notice member
    exact ⟨normal, normalises, reads, kept.imp_right (List.mem_cons_of_mem _)⟩
  | lost _ | failed _ => exact stands

theorem transact {α : Type} (fate : Fate Error) {attempt : Except Error (α × World)}
    (took : ∀ answer, attempt = .ok answer → Stands read answer.2 claims) :
    Stands read (fate.transact attempt world).2 claims := by
  rcases fate.transact_cases attempt world with ⟨-, same⟩ | ⟨value, after, ok, same, -⟩
  · rw [same]
    exact stands
  · rw [same]
    exact took _ ok

theorem update {name : Nat} {after : Claimed}
    (answered : ∀ claim ∈ after, claim.1 ∈ world.answered) :
    Stands read world (Function.update claims name after) := by
  refine { stands with claimed := fun other => ?_ }
  by_cases same : other = name
  · subst same
    simpa using answered
  · simpa [same] using stands.claimed other

theorem respond {library : Library} {name : Nat} {effect : Effect} {choice : Choice}
    (permitted : (conduct read).permits (claims name) effect)
    (faithful : ∀ message fields, effect = .xadd message fields →
      ∃ written, Written fields written ∧ read choice.streamId = decode library written) :
    Stands read (world.respond effect choice).2 (Function.update claims name
      (learn (claims name) effect (world.respond effect choice).1)) := by
  have settled : Stands read (world.respond effect choice).2 claims := by
    cases effect with
    | xgroupCreate => exact stands.transact _ fun _ => stands.xgroupCreate
    | xadd message fields =>
      obtain ⟨written, spelled, reads⟩ := faithful message fields rfl
      obtain ⟨normal, trip⟩ := roundTrip_of_encode library permitted
      refine stands.transact _ ?_
      rintro _ ⟨⟩
      exact stands.xadd trip.normalises (reads.trans (trip.decodes written spelled))
    | xreadgroup _ _ => exact stands.transact _ fun _ => stands.xreadgroup
    | xautoclaim _ _ _ => exact stands.transact _ fun _ => stands.xautoclaim
    | xack streamId =>
      refine stands.transact _ ?_
      rintro _ ⟨⟩
      exact stands.xack permitted
    | xdel streamId =>
      refine stands.transact _ ?_
      rintro _ ⟨⟩
      exact stands.xdel permitted
    | claim delivery => exact stands.answer permitted choice.fate
    | sleep | execute _ => exact stands
  refine settled.update ?_
  cases effect with
  | claim delivery =>
    obtain ⟨fate, _, _, _, _, _⟩ := choice
    cases fate with
    | answered =>
      rintro _ ⟨⟩
      exact List.mem_cons_self
    | lost _ | failed _ => exact settled.claimed name
  | execute _ => rintro _ ⟨⟩
  | _ => exact settled.claimed name

theorem move (move : Move) : Stands read (World.move move world) claims := by
  cases move with
  | lose => exact ⟨stands.claimed, stands.genuine, List.forall_mem_nil _⟩
  | write streamId => exact stands.append streamId

end Stands

/-- Workers may crash, be cancelled or lose answers at any await, Redis may
lose everything, and anybody may write to the stream.  A notice published since
the last loss can still be handed out, or PostgreSQL has answered the claim of
its message in UTC; and nothing else is ever claimed under its id. -/
theorem no_wakeUp_lost (library : Library) (read : Reading) (fleet : Transport)
    (steps : (transport read).Steps (Faithful library read) emptyTransport fleet)
    (streamId : String) (message : SessionReady)
    (published : (streamId, message) ∈ fleet.state.published) :
    ∃ normal, message.normalise = some normal ∧
      (fleet.state.Holds streamId ∨ ⟨streamId, normal⟩ ∈ fleet.state.answered) ∧
      ∀ delivery ∈ fleet.state.answered, delivery.streamId = streamId →
        delivery.message = normal := by
  have start : ∃ claims, Follows (fun _ => conduct read)
      (fun _ => Ends (fun _ _ => True) fun _ => True) (Stands read) emptyTransport claims :=
    ⟨fun _ => none, ⟨by simp, List.forall_mem_nil _, List.forall_mem_nil _⟩, fun _ => trivial⟩
  obtain ⟨claims, follows⟩ := Steps.follows (fun fleet claims launch follows _ =>
      ⟨none, returning_program launch.2, follows.fits.update (by simp)⟩)
    (fun fleet claims name effect resume choice follows awaits faithful permitted =>
      follows.fits.respond permitted fun message fields same =>
        faithful message fields (by subst same; rw [awaits]; rfl))
    (fun fleet claims move follows _ => follows.fits.move move) steps start
  obtain ⟨normal, normalises, reads, kept⟩ := follows.fits.kept _ published
  refine ⟨normal, normalises, kept, ?_⟩
  rintro delivery answered rfl
  exact Except.ok.inj ((follows.fits.genuine delivery answered).symm.trans reads)

end Delivery

def plainText : Text := ⟨"x", by decide⟩

def plainWakeUp : SessionReady := ⟨plainText, plainText, plainText, ⟨1, le_rfl⟩, 0, plainText,
    ⟨⟨⟨2026, 1, 1, 0, 0, 0, 0⟩, by decide⟩, some .utc⟩⟩

def publishing : List (Action Nat (Nat × Job) Choice Move) :=
  [.start (0, .ensureGroup), .resume 0 {}, .start (1, .publish plainWakeUp)]

/-- A worker receives the notice, claims the session, acknowledges, deletes the
entry and executes. -/
def processing : List (Action Nat (Nat × Job) Choice Move) :=
  [.start (2, .receive ⟨⟨⟨1, le_rfl⟩, false⟩, "worker"⟩), .resume 2 { size := 1 },
    .resume 2 { claimed := true }, .resume 2 {}, .resume 2 {}, .resume 2 {}]

theorem processed_wakeUp_answered : ∃ fleet, (transport fun _ => .ok plainWakeUp).Steps
        (Faithful plainLibrary fun _ => .ok plainWakeUp) emptyTransport fleet ∧
      ("1-0", plainWakeUp) ∈ fleet.state.published ∧ fleet.state.entries = [] ∧
      ⟨"1-0", plainWakeUp⟩ ∈ fleet.state.answered := by
  obtain ⟨encoded, normal, trip⟩ : ∃ encoded normal,
      RoundTrip plainLibrary plainWakeUp encoded normal :=
    (exists_roundTrip_iff (exists_str (by decide)) (exists_str (by decide))).mpr trivial
  obtain ⟨written, spelled⟩ := exists_written encoded
  let read : Reading := fun _ => .ok plainWakeUp
  let launched := (transport read).play publishing emptyTransport
  have awaits : launched.tasks 1 = (xadd plainWakeUp encoded).await >>= fun _ => pure () := by
    change Job.program read (.publish plainWakeUp) = _
    simp [Job.program, publish, trip.encodes]
  have same : normal = plainWakeUp := (Option.some.inj trip.normalises).symm
  let sent := (transport read).act launched (.resume 1 { streamId := "1-0" })
  have holds : sent = ⟨⟨["1-0"], some ⟨["1-0"], []⟩, [("1-0", plainWakeUp)], []⟩,
      Function.update launched.tasks 1 (pure ())⟩ :=
    act_resume (transport read) awaits { streamId := "1-0" }
  have steps : (transport read).Steps (Faithful plainLibrary read) emptyTransport
      ((transport read).play processing sent) := by
    refine .trans (Steps.play publishing ⟨trivial, ?_, trivial, trivial⟩)
      (.head ⟨.resume 1 { streamId := "1-0" }, ?_, rfl⟩ (Steps.play processing ?_))
    · rintro _ _ ⟨⟩
    · intro message fields awaited
      rw [awaits] at awaited
      cases awaited
      exact ⟨written, spelled, (same ▸ trip.decodes written spelled).symm⟩
    · change (transport read).Permits _ processing sent
      rw [holds]
      refine ⟨trivial, ?_, ?_, ?_, ?_, ?_, trivial⟩
      all_goals rintro _ _ ⟨⟩
  have gone : ((transport read).play processing sent).state.entries = [] := by
    rw [holds]
    rfl
  have published : ("1-0", plainWakeUp) ∈
      ((transport read).play processing sent).state.published := by
    rw [holds]
    exact List.mem_cons_self
  obtain ⟨normal, normalises, kept, -⟩ :=
    no_wakeUp_lost plainLibrary _ _ steps "1-0" plainWakeUp published
  cases normalises
  refine ⟨_, steps, published, gone, kept.resolve_left fun held => ?_⟩
  rw [World.Holds, gone] at held
  cases held.1

end TrpcService.Queue.WakeUps
