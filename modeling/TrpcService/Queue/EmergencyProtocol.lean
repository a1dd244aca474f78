import TrpcService.Queue.Emergency

namespace TrpcService.Queue.Emergency

open Data Storage Coroutine

variable {Plain : Type}

/-! What a drainer can be relied on: it passes on what it has decoded, it
removes what it could not decode or what has been settled, and it raises only
what it was answered. -/

structure Handled where
  launched : Bool := false
  encrypted : Option (Bytes × Bytes) := none
  rows : List StreamRow := []
  known : List EmergencyMessage := []
  refused : List String := []
  settled : List EmergencyMessage := []

namespace Handled

variable (handled : Handled)

def settle (message : EmergencyMessage) : Handled :=
  { handled with settled := message :: handled.settled }

def raised (error : EmergencyError) (message : EmergencyMessage) : Handled :=
  if error.isRejection then handled.settle message else handled

def lookedUp (message : EmergencyMessage) : Except EmergencyError Unit → Handled
  | .ok _ => handled
  | .error error => handled.raised error message

def decided (message : EmergencyMessage) : Except EmergencyError Unit → Handled
  | .ok _ => handled.settle message
  | .error error => handled.raised error message

def decoded (row : StreamRow) : Except EmergencyError EmergencyMessage → Handled
  | .ok message => { handled with known := message :: handled.known }
  | .error _ => { handled with refused := row.messageId :: handled.refused }

def handedOut : Except EmergencyError (List StreamRow) → Handled
  | .ok rows => { handled with rows := rows ++ handled.rows }
  | .error _ => handled

def Removes (messageId : String) : Prop := messageId ∈ handled.refused ∨
    ∃ message ∈ handled.settled, message.messageId = messageId

structure Extends (before after : Handled) : Prop where
  launched : after.launched = before.launched
  rows : ∀ row ∈ before.rows, row ∈ after.rows
  known : ∀ message ∈ before.known, message ∈ after.known
  refused : ∀ messageId ∈ before.refused, messageId ∈ after.refused
  settled : ∀ message ∈ before.settled, message ∈ after.settled

namespace Extends

theorem refl (handled : Handled) : Extends handled handled :=
  ⟨rfl, fun _ => id, fun _ => id, fun _ => id, fun _ => id⟩

theorem trans {first second third : Handled} (left : Extends first second)
    (right : Extends second third) : Extends first third where
  launched := right.launched.trans left.launched
  rows := fun row member => right.rows row (left.rows row member)
  known := fun message member => right.known message (left.known message member)
  refused := fun messageId member => right.refused messageId (left.refused messageId member)
  settled := fun message member => right.settled message (left.settled message member)

end Extends

end Handled

def writes (formats : EmergencyFormats Plain) (queue : EmergencyQueue) (prepared : PreparedInbound)
    (handled : Handled) (effect : EmergencyEffect) : Prop :=
  effect = .encrypt queue.key prepared prepared.context.channelBindingId ∨
    ∃ nonce cipher, handled.encrypted = some (nonce, cipher) ∧
      effect = .xadd (queue.fields formats prepared nonce cipher)

def drains (handled : Handled) : EmergencyEffect → Prop
  | .encrypt _ _ _ => False
  | .xadd _ => False
  | .decode row => row ∈ handled.rows
  | .getConfig message => message ∈ handled.known
  | .acceptInbound message => message ∈ handled.known
  | .acceptInboundV2 message => message ∈ handled.known
  | .xack messageId => handled.Removes messageId
  | .xdel messageId => handled.Removes messageId
  | _ => True

def learn (handled : Handled) (effect : EmergencyEffect) :
    Except EmergencyError effect.Answer → Handled :=
  match effect with
  | .encrypt _ _ _ => fun answer =>
      match answer with
      | .ok pair => { handled with encrypted := some pair }
      | .error _ => handled
  | .xautoclaim _ _ => handled.handedOut
  | .xreadgroup _ _ => handled.handedOut
  | .decode row => handled.decoded row
  | .getConfig message => handled.lookedUp message
  | .acceptInbound message => handled.decided message
  | .acceptInboundV2 message => handled.decided message
  | _ => fun _ => handled

def handling (formats : EmergencyFormats Plain) (name : EmergencyTask) :
    Protocol EmergencyEffect EmergencyEffect.Answer EmergencyError
      Handled where
  permits handled effect := handled.launched = true ∧
    match name with
    | .enqueue queue prepared _ => writes formats queue prepared handled effect
    | _ => drains handled effect
  next := learn

theorem extends_learn (handled : Handled) (effect : EmergencyEffect)
    (answer : Except EmergencyError effect.Answer) :
    Handled.Extends handled (learn handled effect answer) := by
  have settles (message : EmergencyMessage) : handled.Extends (handled.settle message) :=
    ⟨rfl, fun _ => id, fun _ => id, fun _ => id, fun _ => List.mem_cons_of_mem _⟩
  have raises (error : EmergencyError) (message : EmergencyMessage) :
      handled.Extends (handled.raised error message) := by
    unfold Handled.raised
    split
    · exact settles message
    · exact .refl _
  cases effect with
  | encrypt _ _ _ =>
    cases answer with
    | ok pair => exact ⟨rfl, fun _ => id, fun _ => id, fun _ => id, fun _ => id⟩
    | error _ => exact .refl _
  | xautoclaim _ _ | xreadgroup _ _ =>
    cases answer with
    | ok rows =>
      exact ⟨rfl, fun _ => List.mem_append_right _, fun _ => id, fun _ => id, fun _ => id⟩
    | error _ => exact .refl _
  | decode _ =>
    cases answer with
    | ok message =>
      exact ⟨rfl, fun _ => id, fun _ => List.mem_cons_of_mem _, fun _ => id, fun _ => id⟩
    | error _ => exact ⟨rfl, fun _ => id, fun _ => id, fun _ => List.mem_cons_of_mem _, fun _ => id⟩
  | getConfig message =>
    cases answer with
    | ok _ => exact .refl _
    | error error => exact raises error message
  | acceptInbound message =>
    cases answer with
    | ok _ => exact settles message
    | error error => exact raises error message
  | acceptInboundV2 message =>
    cases answer with
    | ok _ => exact settles message
    | error error => exact raises error message
  | _ => exact .refl _

namespace EmergencyError

/-- What `run` catches. -/
def isDegraded : EmergencyError → Bool
  | .postgresError => true
  | .invalidTag => true
  | .lookupError _ => true
  | .redisError => true
  | .valueError _ => true
  | _ => false

/-- `run` goes on after it, and `drain_once` leaves the message alone. -/
def isSurvived (error : EmergencyError) : Bool := error.isDegraded && !error.isRejection

end EmergencyError

structure Watch where
  expected : Bool := true
  stopped : Bool := false
  /-- The entries whose last acceptance failed. -/
  failing : String → Bool := fun _ => false

namespace Watch

variable (expected : EmergencyError → Bool) (watch : Watch)

def raised (error : EmergencyError) : Watch :=
  { watch with expected := watch.expected && expected error }

def mark (messageId : String) (failing : Bool) : Watch :=
  { watch with failing := Function.update watch.failing messageId failing }

def heard {α : Type} : Except EmergencyError α → Watch
  | .ok _ => watch
  | .error error => watch.raised expected error

variable (messageId : String)

def lookedUp : Except EmergencyError Unit → Watch
  | .ok _ => watch
  | .error error => (watch.raised expected error).mark messageId true

def decided : Except EmergencyError Unit → Watch
  | .ok _ => watch.mark messageId false
  | .error error => (watch.raised expected error).mark messageId true

/-- A poison record is no failure, but an entry that could be decoded does not
become one. -/
def decoded : Except EmergencyError EmergencyMessage → Watch
  | .ok _ => watch
  | .error error =>
      if error.isPoison then { watch with expected := watch.expected && !watch.failing messageId }
      else watch.raised expected error

def asked : Except EmergencyError Bool → Watch
  | .ok stopping => { watch with stopped := watch.stopped || stopping }
  | .error _ => { watch with expected := false }

def Settled (messageId : String) : Prop := watch.expected = true → watch.failing messageId = false

end Watch

/-- No entry whose acceptance failed is acknowledged or deleted. -/
def watching (expected : EmergencyError → Bool) :
    Protocol EmergencyEffect EmergencyEffect.Answer EmergencyError
      Watch where
  permits watch effect :=
    match effect with
    | .xack messageId => watch.Settled messageId
    | .xdel messageId => watch.Settled messageId
    | _ => True
  next watch effect :=
    match effect with
    | .isStopping => watch.asked
    | .decode row => watch.decoded expected row.messageId
    | .getConfig message => watch.lookedUp expected message.messageId
    | .acceptInbound message => watch.decided expected message.messageId
    | .acceptInboundV2 message => watch.decided expected message.messageId
    | _ => watch.heard expected

def EmergencyTask.Drains : EmergencyTask → Prop
  | .enqueue _ _ _ => False
  | _ => True

section Drains

variable {expected : EmergencyError → Bool} {ghost : Handled × Watch} {α β : Type}

/-- A returned value is as known; with nothing but expected failures, `run`
goes on after what is raised. -/
def Learnt (known : α → Handled × Watch → Prop) : Except EmergencyError α → Handled × Watch → Prop
  | .ok value, after => known value after
  | .error error, after => after.2.expected = true → error.isSurvived = true

abbrev Nothing (_ : α) (_ : Handled × Watch) : Prop := True

/-- A drainer follows both protocols, and forgets nothing. -/
def Conducts (expected : EmergencyError → Bool) (known : α → Handled × Watch → Prop)
    (ghost : Handled × Watch) (program : EmergencyProgram α) : Prop :=
  ghost.1.launched = true → Obeys (Protocol.both
      ⟨fun handled effect => handled.launched = true ∧ drains handled effect, learn⟩
      (watching expected))
    (fun result after => ghost.1.Extends after.1 ∧ Learnt known result after)
    ghost program

variable {known : α → Handled × Watch → Prop}

theorem conducts_done {result : Except EmergencyError α} (kept : Learnt known result ghost) :
    Conducts expected known ghost (.done result) :=
  fun _ => ⟨.refl _, kept⟩

theorem conducts_await {effect : EmergencyEffect}
    {resume : Except EmergencyError effect.Answer → EmergencyProgram α}
    (permitted : drains ghost.1 effect) (settled : (watching expected).permits ghost.2 effect)
    (rest : ∀ answer, Conducts expected known (learn ghost.1 effect answer,
      (watching expected).next ghost.2 effect answer) (resume answer)) :
    Conducts expected known ghost (.await effect resume) := by
  refine fun launched => ⟨⟨⟨launched, permitted⟩, settled⟩, fun answer => ?_⟩
  have grown := extends_learn ghost.1 effect answer
  exact (rest answer (grown.launched.trans launched)).mono fun _ _ kept =>
    ⟨grown.trans kept.1, kept.2⟩

variable {program : EmergencyProgram α}

theorem Conducts.andThen {next : α → EmergencyProgram β} {later : β → Handled × Watch → Prop}
    (first : Conducts expected known ghost program)
    (rest : ∀ value after, ghost.1.Extends after.1 → known value after →
      Conducts expected later after (next value)) :
    Conducts expected later ghost (program >>= next) := by
  intro launched
  refine obeys_bind.mpr ((first launched).mono ?_)
  rintro result after ⟨grown, kept⟩
  cases result with
  | ok value =>
    exact (rest value after grown kept (grown.launched.trans launched)).mono fun _ _ kept =>
      ⟨grown.trans kept.1, kept.2⟩
  | error error => exact ⟨grown, kept⟩

theorem conducts_deferring {program : EmergencyProgram Unit}
    (conducts : Conducts expected Nothing ghost program) :
    Conducts expected Nothing ghost (deferring program) := by
  intro launched
  refine obeys_tryCatch.mpr ((conducts launched).mono ?_)
  rintro result after ⟨grown, kept⟩
  cases result with
  | ok _ => exact ⟨grown, trivial⟩
  | error error =>
    dsimp only
    split
    · exact ⟨grown, kept⟩
    · exact ⟨grown, trivial⟩

variable (survived : ∀ error, expected error = true → error.isSurvived = true)

include survived

theorem learnt_raised {error : EmergencyError} {handled : Handled} {watch : Watch} :
    Learnt known (.error error) (handled, watch.raised expected error) :=
  fun usual => survived error (Bool.and_eq_true_iff.mp usual).2

variable {messageId : String}

theorem conducts_ackAndDelete (removes : ghost.1.Removes messageId)
    (settled : ghost.2.Settled messageId) :
    Conducts expected Nothing ghost (ackAndDelete messageId) := by
  refine conducts_await removes settled fun answer => ?_
  cases answer with
  | error _ => exact conducts_done (learnt_raised survived)
  | ok _ =>
    refine conducts_deferring (conducts_await removes settled fun answer => ?_)
    cases answer with
    | error _ => exact conducts_done (learnt_raised survived)
    | ok _ => exact conducts_done trivial

theorem conducts_quarantineRaw (removes : ghost.1.Removes messageId)
    (settled : ghost.2.Settled messageId) :
    Conducts expected Nothing ghost (quarantineRaw messageId) := by
  unfold quarantineRaw
  split
  · exact conducts_done trivial
  · exact conducts_deferring (conducts_ackAndDelete survived removes settled)

theorem conducts_decodeRow {row : StreamRow} (given : row ∈ ghost.1.rows) :
    Conducts expected (fun decoded after => ∀ message ∈ decoded, message ∈ after.1.known) ghost
      (decodeRow row) := by
  refine conducts_await given trivial fun answer => ?_
  cases answer with
  | ok message =>
    refine conducts_done fun other same => ?_
    cases same
    exact List.mem_cons_self
  | error error =>
    change Conducts expected _ (_, ghost.2.decoded expected row.messageId (.error error))
      (if error.isPoison then _ else _)
    rw [Watch.decoded]
    split
    case isFalse => exact conducts_done (learnt_raised survived)
    case isTrue =>
      refine (conducts_quarantineRaw survived (.inl List.mem_cons_self) fun usual => ?_).andThen
        fun _ _ _ _ => conducts_done ?_
      · simpa using (Bool.and_eq_true_iff.mp usual).2
      · rintro _ ⟨⟩

theorem conducts_decodeRows (rows : List StreamRow) (given : ∀ row ∈ rows, row ∈ ghost.1.rows) :
    Conducts expected (fun messages after => ∀ message ∈ messages, message ∈ after.1.known) ghost
      (decodeRows rows) := by
  induction rows generalizing ghost with
  | nil =>
    refine conducts_done ?_
    rintro _ ⟨⟩
  | cons row rest induction =>
    obtain ⟨here, there⟩ := List.forall_mem_cons.mp given
    refine (conducts_decodeRow survived here).andThen fun decoded after grown first => ?_
    refine (induction fun row member => grown.rows row (there row member)).andThen
      fun messages last grown second => conducts_done fun message member => ?_
    rcases List.mem_append.mp member with member | member
    · exact grown.known message (first message (Option.mem_toList.mp member))
    · exact second message member

theorem conducts_consume (consumer : String) (count : Nat) :
    Conducts expected (fun messages after => ∀ message ∈ messages, message ∈ after.1.known) ghost
      (consume consumer count) := by
  refine conducts_await trivial trivial fun grouped => ?_
  cases grouped with
  | error _ => exact conducts_done (learnt_raised survived)
  | ok _ =>
    refine conducts_await trivial trivial fun claimed => ?_
    cases claimed with
    | error _ => exact conducts_done (learnt_raised survived)
    | ok claimed =>
      change Conducts expected _ _ (if claimed ≠ [] then _ else _)
      split
      · exact conducts_decodeRows survived claimed fun _ => List.mem_append_left _
      · refine conducts_await trivial trivial fun read => ?_
        cases read with
        | error _ => exact conducts_done (learnt_raised survived)
        | ok rows => exact conducts_decodeRows survived rows fun _ => List.mem_append_left _

variable {message : EmergencyMessage}

def Decided (message : EmergencyMessage) (_ : Bool) (after : Handled × Watch) : Prop :=
  message ∈ after.1.settled ∧ after.2.Settled message.messageId

/-- Only an unexpected failure is taken for a rejection. -/
theorem conducts_rejection (error : EmergencyError) {handled : Handled} {watch : Watch} :
    Conducts expected (Decided message)
      (handled.raised error message, (watch.raised expected error).mark message.messageId true)
      (if error.isRejection then pure false else throw error) := by
  split
  case isFalse =>
    exact conducts_done fun usual => survived error (Bool.and_eq_true_iff.mp usual).2
  case isTrue rejected =>
    refine conducts_done ⟨?_, fun usual => ?_⟩
    · rw [Handled.raised, if_pos rejected]
      exact List.mem_cons_self
    · have survives := survived error (Bool.and_eq_true_iff.mp usual).2
      simp [EmergencyError.isSurvived, rejected] at survives

section Drainer

variable (drainer : EmergencyQueueDrainer)

theorem conducts_replay (known : message ∈ ghost.1.known) :
    Conducts expected (Decided message) ghost (drainer.replay message) := by
  refine conducts_await known trivial fun answer => ?_
  cases answer with
  | error error => exact conducts_rejection survived error
  | ok _ =>
    unfold EmergencyQueueDrainer.accept
    cases drainer.schedulerVersion with
    | v1 | v2 =>
      refine conducts_await known trivial fun answer => ?_
      cases answer with
      | ok _ => exact conducts_done ⟨List.mem_cons_self, fun _ => Function.update_self ..⟩
      | error error => exact conducts_rejection survived error

theorem conducts_replayAll (messages : List EmergencyMessage)
    (known : ∀ message ∈ messages, message ∈ ghost.1.known) :
    Conducts expected Nothing ghost (drainer.replayAll messages) := by
  induction messages generalizing ghost with
  | nil => exact conducts_done trivial
  | cons message rest induction =>
    obtain ⟨here, there⟩ := List.forall_mem_cons.mp known
    refine conducts_await trivial trivial fun answer => ?_
    cases answer with
    | error error => exact conducts_done fun usual => absurd usual Bool.false_ne_true
    | ok stopping =>
      cases stopping with
      | true => exact conducts_done trivial
      | false =>
        change Conducts expected _ _ (drainer.replay message >>= _)
        refine Conducts.andThen (conducts_replay survived drainer ?_) fun _ _ grown decided => ?_
        · exact here
        refine (conducts_ackAndDelete survived (.inr ⟨message, decided.1, rfl⟩) decided.2).andThen
          fun _ last further _ => ?_
        exact (induction fun other member => further.known other (grown.known other
          (there other member))).andThen fun _ _ _ _ => conducts_done trivial

theorem conducts_drainOnce : Conducts expected Nothing ghost drainer.drainOnce :=
  (conducts_consume survived drainer.consumerId 10).andThen fun messages _ _ known =>
    conducts_replayAll survived drainer messages known

end Drainer

end Drains

theorem obeys_program (formats : EmergencyFormats Plain) (name : EmergencyTask) :
    Obeys (handling formats name) (fun _ _ => True)
      { launched := true } (name.program formats) := by
  have unexpected : ∀ error : EmergencyError, false = true → error.isSurvived = true := by simp
  have ignored {α : Type} {known : α → Handled × Watch → Prop} {program : EmergencyProgram α}
      (conducts : Conducts (fun _ => false) known ({ launched := true }, {}) program) :
      Conducts (fun _ => false) Nothing ({ launched := true }, {}) (do
        let _ ← program
        pure ()) :=
    conducts.andThen fun _ _ _ _ => conducts_done trivial
  cases name with
  | enqueue queue prepared call =>
    refine ⟨⟨rfl, .inl rfl⟩, fun answer => ?_⟩
    cases answer with
    | error _ => trivial
    | ok pair =>
      obtain ⟨nonce, cipher⟩ := pair
      refine ⟨⟨rfl, .inr ⟨nonce, cipher, rfl, rfl⟩⟩, fun answer => ?_⟩
      cases answer <;> trivial
  | consume queue consumer count call =>
    exact (ignored (conducts_consume unexpected consumer count) rfl).project Prod.fst
      (fun _ _ => And.left) (fun _ _ _ => rfl) fun _ _ _ => trivial
  | drainOnce drainer call =>
    exact (ignored (conducts_drainOnce unexpected drainer) rfl).project Prod.fst
      (fun _ _ => And.left) (fun _ _ _ => rfl) fun _ _ _ => trivial

end TrpcService.Queue.Emergency
