import Mathlib.Algebra.Group.Nat.Defs
import TrpcService.Data.Coroutine
import TrpcService.Storage.Models

namespace TrpcService.Queue

open Data Storage

/-! The relay from the outbox to the queue. -/

/-- What a call raises: an exception with the name of its type, or the
cancellation of the task, which is not one. -/
inductive DispatchError where
  | exception (typeName : String)
  | cancelled
  deriving DecidableEq

inductive OutboxCall where
  | claimOutbox (eventType : EventType) (ownerId : String) (limit : Int) (leaseFor : Time)
  | stopRequested
  | publish (record : OutboxRecord)
  | markOutboxPublished (tenantId outboxId ownerId : String)
  | releaseOutbox (tenantId outboxId ownerId : String) (delay : Time) (errorType : String)
  deriving DecidableEq

abbrev OutboxCall.Answer : OutboxCall → Type
  | .claimOutbox .. => List OutboxRecord
  | .stopRequested => Bool
  | _ => Unit

abbrev Dispatch := Coroutine OutboxCall OutboxCall.Answer DispatchError

structure OutboxDispatcher where
  ownerId : String
  eventType : EventType := .inboundAccepted
  batchSize : Int := 100
  injectTraceHeaders : List (String × String) → List (String × String)

namespace OutboxDispatcher

def queued (dispatcher : OutboxDispatcher) (record : OutboxRecord) : OutboxRecord :=
  { record with
    traceHeaders := dispatcher.injectTraceHeaders record.traceHeaders }

def retryDelay (record : OutboxRecord) : Time := seconds (min (2 ^ min record.attempts 6) 60 : Nat)

variable (dispatcher : OutboxDispatcher) (record : OutboxRecord)

def releaseCall (delay : Time) (errorType : String) : OutboxCall :=
  .releaseOutbox record.tenantId record.outboxId dispatcher.ownerId delay errorType

def releaseOutbox (delay : Time) (errorType : String) : Dispatch Unit :=
  .await (dispatcher.releaseCall record delay errorType) .done

def publish : Dispatch Unit := .await (.publish (dispatcher.queued record)) .done

def markOutboxPublished : Dispatch Unit :=
  .await (.markOutboxPublished record.tenantId record.outboxId dispatcher.ownerId) .done

def stopRequested : Dispatch Bool := .await .stopRequested .done

def claimOutbox (dispatcher : OutboxDispatcher) : Dispatch (List OutboxRecord) :=
  .await (.claimOutbox dispatcher.eventType dispatcher.ownerId
    dispatcher.batchSize (seconds 30)) .done

def drain (dispatcher : OutboxDispatcher) : List OutboxRecord → Dispatch Unit
  | [] => pure ()
  | pending :: rest => do
      dispatcher.releaseOutbox pending 0 "dispatcher_draining"
      drain dispatcher rest

/-- One turn of the loop; the answer says whether the record is published. -/
def dispatchRecord (dispatcher : OutboxDispatcher) (record : OutboxRecord) : Dispatch Bool :=
  tryCatch (do
    dispatcher.publish record
    dispatcher.markOutboxPublished record
    pure true)
    fun
    | .cancelled => throw .cancelled
    | .exception typeName => do
        dispatcher.releaseOutbox record (retryDelay record) typeName
        pure false

def dispatchRecords (dispatcher : OutboxDispatcher) :
    List OutboxRecord → Nat → Dispatch Nat
  | [], published => pure published
  | record :: rest, published => do
      if ← stopRequested then
        dispatcher.drain (record :: rest)
        pure published
      else
        let done ← dispatcher.dispatchRecord record
        dispatchRecords dispatcher rest
          (if done then published + 1 else published)

def dispatchOnce (dispatcher : OutboxDispatcher) : Dispatch Nat := do
  let records ← dispatcher.claimOutbox
  dispatcher.dispatchRecords records 0

end OutboxDispatcher

abbrev Journal := List OutboxCall

/-- The stop event by the number of times it was read before, and what the other
calls end with.  A dispatch makes each of these at most once, as the records of a
batch are different rows. -/
structure Backend where
  stop : Nat → Bool
  answer : (call : OutboxCall) → Except DispatchError call.Answer

def turns (journal : Journal) : Nat := journal.count .stopRequested

def Backend.respond (backend : Backend) (call : OutboxCall)
    (journal : Journal) : Except DispatchError call.Answer × Journal :=
  (match call with
    | .stopRequested => .ok (backend.stop (turns journal))
    | call => backend.answer call, journal ++ [call])

def published (journal : Journal) : List OutboxRecord := journal.filterMap fun
    | .publish record => some record
    | _ => none

/-- The releases without a delay; a deferred record waits for a second at
least. -/
def drained (journal : Journal) : Journal := journal.filter fun
    | .releaseOutbox _ _ _ delay _ => delay = 0
    | _ => false

@[simp] theorem published_append (first rest : Journal) :
    published (first ++ rest) = published first ++ published rest :=
  List.filterMap_append

@[simp] theorem drained_append (first rest : Journal) :
    drained (first ++ rest) = drained first ++ drained rest :=
  List.filter_append ..

@[simp] theorem turns_append (first rest : Journal) :
    turns (first ++ rest) = turns first + turns rest :=
  List.count_append

namespace OutboxDispatcher

variable (dispatcher : OutboxDispatcher)

def drainCall (record : OutboxRecord) : OutboxCall :=
  dispatcher.releaseCall record 0 "dispatcher_draining"

variable (backend : Backend)

/-- What the `try` block of a record ends with. -/
def attempt (record : OutboxRecord) : Except DispatchError Unit := do
  backend.answer (.publish (dispatcher.queued record))
  backend.answer (.markOutboxPublished record.tenantId record.outboxId
    dispatcher.ownerId)

/-- The record is published, or the release after the exception succeeds. -/
def Handles (record : OutboxRecord) : Prop :=
  match dispatcher.attempt backend record with
  | .ok _ => True
  | .error .cancelled => False
  | .error (.exception typeName) => backend.answer
      (dispatcher.releaseCall record (retryDelay record) typeName) = .ok ()

/-- The loop goes on after a record, where `stop` is the stop event by the
turns: it drains if the event was seen, and publishes if not. -/
def GoesOn (stop : Nat → Bool) (index : Nat) (record : OutboxRecord) : Prop :=
  ((∃ turn ≤ index, stop turn = true) → backend.answer (dispatcher.drainCall record) = .ok ()) ∧
    ((∀ turn ≤ index, stop turn = false) → dispatcher.Handles backend record)

/-- The journal of a batch: records up to `started` are published, and from
there on drained. -/
structure Relayed (dispatcher : OutboxDispatcher) (records : List OutboxRecord)
    (started released : Nat) (calls : Journal) : Prop where
  published : published calls = (records.take started).map dispatcher.queued
  drained : drained calls = ((records.drop started).take released).map dispatcher.drainCall

variable {dispatcher : OutboxDispatcher} {backend : Backend}

section Drain

theorem drained_drain (records : List OutboxRecord) :
    drained (records.map dispatcher.drainCall) = records.map dispatcher.drainCall := by
  induction records with
  | nil => rfl
  | cons record rest induction => exact congrArg (dispatcher.drainCall record :: ·) induction

theorem published_drain (records : List OutboxRecord) :
    published (records.map dispatcher.drainCall) = [] := by
  induction records with
  | nil => rfl
  | cons record rest induction => exact induction

variable (dispatcher backend) in
theorem execute_drain (records : List OutboxRecord) (journal : Journal) :
    ∃ result released, execute backend.respond (dispatcher.drain records) journal =
        (result, journal ++ (records.take released).map dispatcher.drainCall) ∧
      (records.length ≤ released ↔ ∀ index record, records[index]? = some record →
        index + 1 < records.length → backend.answer (dispatcher.drainCall record) = .ok ()) := by
  induction records generalizing journal with
  | nil =>
    refine ⟨.ok (), 0, ?_, by simp⟩
    rw [List.take_nil, List.map_nil, List.append_nil]
    rfl
  | cons pending rest induction =>
    have first : execute backend.respond (dispatcher.releaseOutbox pending 0 "dispatcher_draining")
        journal = (backend.answer (dispatcher.drainCall pending),
          journal ++ [dispatcher.drainCall pending]) := rfl
    rw [drain]
    cases answered : backend.answer (dispatcher.drainCall pending) with
    | ok _ =>
      rw [answered] at first
      obtain ⟨result, released, ran, whole⟩ := induction (journal ++ [dispatcher.drainCall pending])
      refine ⟨result, released + 1, ?_, ?_⟩
      · rw [execute_bind_ok first, ran, List.append_assoc]
        rfl
      · rw [List.length_cons, Nat.add_le_add_iff_right, whole]
        constructor
        · rintro others (_ | index) record member more
          · cases member
            exact answered
          · exact others index record member (by omega)
        · intro all index record member more
          exact all (index + 1) record member (by omega)
    | error error =>
      rw [answered] at first
      refine ⟨.error error, 1, ?_, ?_⟩
      · rw [execute_bind, first]
        rfl
      · rw [List.length_cons]
        constructor
        · intro short index record member more
          omega
        · intro all
          by_contra long
          have raised := all 0 pending rfl (by omega)
          cases answered.symm.trans raised

end Drain

section Turn

/-- The calls of one turn that read no stop event. -/
structure Attempts (dispatcher : OutboxDispatcher) (record : OutboxRecord)
    (calls : Journal) : Prop where
  published : published calls = [dispatcher.queued record]
  drained : drained calls = []
  turns : turns calls = 0

theorem retryDelay_ne_zero (record : OutboxRecord) : retryDelay record ≠ 0 := by
  have positive : 0 < min (2 ^ min record.attempts 6) 60 :=
    Nat.lt_min.mpr ⟨Nat.two_pow_pos _, by decide⟩
  intro zero
  have delay : ((min (2 ^ min record.attempts 6) 60 : Nat) : Int) * 1000000 = 0 := zero
  omega

variable {record : OutboxRecord}

theorem Attempts.release {calls : Journal}
    (attempts : Attempts dispatcher record calls) (typeName : String) :
    Attempts dispatcher record (calls ++
      [dispatcher.releaseCall record (retryDelay record) typeName]) where
  published := (published_append ..).trans (congrArg (· ++ []) attempts.published)
  drained := by
    rw [drained_append, attempts.drained]
    simp [Queue.drained, releaseCall, retryDelay_ne_zero]
  turns := (turns_append ..).trans (congrArg (· + 0) attempts.turns)

variable (dispatcher backend) in
theorem execute_attempt (record : OutboxRecord) (journal : Journal) :
    ∃ calls, execute backend.respond (do
        dispatcher.publish record
        dispatcher.markOutboxPublished record
        pure true) journal =
          ((dispatcher.attempt backend record).map fun _ => true, journal ++ calls) ∧
      Attempts dispatcher record calls := by
  let call := OutboxCall.publish (dispatcher.queued record)
  let mark := OutboxCall.markOutboxPublished record.tenantId record.outboxId dispatcher.ownerId
  have first : execute backend.respond (dispatcher.publish record) journal =
      (backend.answer call, journal ++ [call]) := rfl
  have second : execute backend.respond (dispatcher.markOutboxPublished record)
    (journal ++ [call]) = (backend.answer mark, journal ++ [call, mark]) :=
    Prod.ext rfl (List.append_assoc journal [call] [mark])
  have tried : dispatcher.attempt backend record =
    (backend.answer call).bind fun _ => backend.answer mark := rfl
  rw [tried]
  cases sent : backend.answer call with
  | error error =>
    rw [sent] at first
    refine ⟨[call], ?_, rfl, rfl, rfl⟩
    rw [execute_bind, first]
    rfl
  | ok _ =>
    rw [sent] at first
    refine ⟨[call, mark], ?_, rfl, rfl, rfl⟩
    rw [execute_bind_ok first, execute_bind, second]
    change _ = ((backend.answer mark).map _, _)
    cases backend.answer mark with
    | error error => rfl
    | ok _ => rfl

variable (dispatcher backend) in
theorem execute_dispatchRecord (record : OutboxRecord) (journal : Journal) :
    ∃ result calls, execute backend.respond (dispatcher.dispatchRecord record) journal =
        (result, journal ++ calls) ∧
      Attempts dispatcher record calls ∧
      ((∃ done, result = .ok done) ↔ dispatcher.Handles backend record) := by
  obtain ⟨calls, tried, attempts⟩ := execute_attempt dispatcher backend record journal
  unfold dispatchRecord Handles
  rw [execute_tryCatch, tried]
  cases dispatcher.attempt backend record with
  | ok _ => exact ⟨_, calls, rfl, attempts, iff_of_true ⟨true, rfl⟩ trivial⟩
  | error error =>
    cases error with
    | cancelled =>
      refine ⟨_, calls, rfl, attempts, iff_of_false ?_ id⟩
      rintro ⟨done, ⟨⟩⟩
    | exception typeName =>
      let release := dispatcher.releaseCall record (retryDelay record) typeName
      have released : execute backend.respond
          (dispatcher.releaseOutbox record (retryDelay record) typeName) (journal ++ calls) =
            (backend.answer release, journal ++ (calls ++ [release])) :=
        Prod.ext rfl (List.append_assoc ..)
      refine ⟨(backend.answer release).map fun _ => false, _, ?_, attempts.release typeName, ?_⟩
      · change execute backend.respond (dispatcher.releaseOutbox .. >>= fun _ => pure false)
          (journal ++ calls) = _
        rw [execute_bind, released]
        cases backend.answer release with
        | error error => rfl
        | ok _ => rfl
      · change _ ↔ backend.answer release = .ok ()
        cases backend.answer release with
        | error error =>
          refine iff_of_false ?_ ?_
          · rintro ⟨done, ⟨⟩⟩
          · rintro ⟨⟩
        | ok _ => exact iff_of_true ⟨false, rfl⟩ rfl

end Turn

section Batch

variable {stop : Nat → Bool}

theorem goesOn_zero (running : stop 0 = false) :
    dispatcher.GoesOn backend stop 0 record ↔ dispatcher.Handles backend record := by
  constructor
  · intro on
    apply on.2
    intro turn least
    cases Nat.le_zero.mp least
    exact running
  · intro handles
    refine ⟨?_, fun _ => handles⟩
    rintro ⟨turn, least, stopped⟩
    cases Nat.le_zero.mp least
    cases running.symm.trans stopped

theorem goesOn_succ {index : Nat}
    (running : stop 0 = false) : dispatcher.GoesOn backend stop (index + 1) record ↔
      dispatcher.GoesOn backend (fun turn => stop (turn + 1)) index record := by
  have seen : (∃ turn ≤ index + 1, stop turn = true) ↔ ∃ turn ≤ index, stop (turn + 1) = true := by
    constructor
    · rintro ⟨_ | turn, least, stopped⟩
      · cases running.symm.trans stopped
      · exact ⟨turn, Nat.le_of_succ_le_succ least, stopped⟩
    · rintro ⟨turn, least, stopped⟩
      exact ⟨turn + 1, Nat.succ_le_succ least, stopped⟩
  have unseen : (∀ turn ≤ index + 1, stop turn = false) ↔
      ∀ turn ≤ index, stop (turn + 1) = false := by
    constructor
    · intro all turn least
      exact all (turn + 1) (Nat.succ_le_succ least)
    · rintro all (_ | turn) least
      · exact running
      · exact all turn (Nat.le_of_succ_le_succ least)
  unfold GoesOn
  rw [seen, unseen]

theorem goesOn_stopped {index : Nat}
    (stopped : stop 0 = true) : dispatcher.GoesOn backend stop index record ↔
      backend.answer (dispatcher.drainCall record) = .ok () := by
  constructor
  · intro on
    exact on.1 ⟨0, Nat.zero_le _, stopped⟩
  · intro released
    refine ⟨fun _ => released, fun running => ?_⟩
    cases stopped.symm.trans (running 0 (Nat.zero_le _))

variable (dispatcher backend) in
/-- The loop over a batch, from any turn on: how far it gets with publishing and
with draining, and that it gets to the end exactly if it goes on each time. -/
theorem execute_dispatchRecords (records : List OutboxRecord) (count : Nat) (journal : Journal) :
    ∃ result calls started released, execute backend.respond
        (dispatcher.dispatchRecords records count) journal = (result, journal ++ calls) ∧
      Relayed dispatcher records started released calls ∧
      ((∀ turn, backend.stop turn = false) → released = 0) ∧
      (records.length ≤ started + released ↔ ∀ index record, records[index]? = some record →
        index + 1 < records.length → dispatcher.GoesOn backend
          (fun turn => backend.stop (turns journal + turn)) index record) := by
  induction records generalizing count journal with
  | nil =>
    refine ⟨.ok count, [], 0, 0, ?_, ⟨rfl, rfl⟩, fun _ => rfl, by simp⟩
    rw [List.append_nil]
    rfl
  | cons record rest induction =>
    have read : execute backend.respond stopRequested journal =
        (.ok (backend.stop (turns journal)), journal ++ [.stopRequested]) := rfl
    rw [dispatchRecords, execute_bind_ok read]
    cases stopped : backend.stop (turns journal) with
    | true =>
      obtain ⟨result, released, ran, whole⟩ := execute_drain dispatcher backend (record :: rest)
        (journal ++ [.stopRequested])
      let calls := ((record :: rest).take released).map dispatcher.drainCall
      refine ⟨result.map fun _ => count, .stopRequested :: calls, 0, released, ?_, ⟨?_, ?_⟩, ?_, ?_⟩
      · rw [if_pos rfl, execute_bind, ran, List.append_assoc]
        cases result with
        | error error => rfl
        | ok _ => rfl
      · exact published_drain ((record :: rest).take released)
      · exact drained_drain ((record :: rest).take released)
      · intro running
        cases (running _).symm.trans stopped
      · rw [Nat.zero_add, whole]
        exact forall₄_congr fun index other member more => (goesOn_stopped stopped).symm
    | false =>
      obtain ⟨result, calls, dispatched, attempts, handled⟩ := execute_dispatchRecord
        dispatcher backend record (journal ++ [.stopRequested])
      rw [if_neg (by simp)]
      cases result with
      | error error =>
        have unhandled : ¬ dispatcher.Handles backend record := by
          intro handles
          obtain ⟨done, ⟨⟩⟩ := handled.mpr handles
        refine ⟨.error error, .stopRequested :: calls, 1, 0, ?_, ⟨?_, ?_⟩, fun _ => rfl, ?_⟩
        · rw [execute_bind, dispatched, List.append_assoc]
          rfl
        · exact attempts.published
        · exact attempts.drained
        · rw [List.length_cons]
          constructor
          · intro short index other member more
            omega
          · intro all
            by_contra long
            exact unhandled ((goesOn_zero stopped).mp (all 0 record rfl (by omega)))
      | ok done =>
        have handles := handled.mp ⟨done, rfl⟩
        obtain ⟨result, others, started, released, ran, relayed, still, whole⟩ :=
          induction (if done then count + 1 else count) (journal ++ [.stopRequested] ++ calls)
        have next : turns (journal ++ [.stopRequested] ++ calls) = turns journal + 1 := by
          rw [turns_append, turns_append, attempts.turns]
          rfl
        refine ⟨result, .stopRequested :: (calls ++ others), started + 1, released, ?_, ⟨?_, ?_⟩,
          still, ?_⟩
        · rw [execute_bind_ok dispatched, ran]
          simp only [List.append_assoc, List.cons_append, List.nil_append]
        · change published (calls ++ others) = _
          rw [published_append, attempts.published, relayed.published]
          rfl
        · change drained (calls ++ others) = _
          rw [drained_append, attempts.drained, relayed.drained]
          rfl
        · rw [List.length_cons, Nat.add_right_comm, Nat.add_le_add_iff_right, whole, next]
          simp only [Nat.add_assoc, Nat.add_comm 1]
          constructor
          · rintro all (_ | index) other member more
            · cases member
              exact (goesOn_zero stopped).mpr handles
            · exact (goesOn_succ stopped).mpr (all index other member (by omega))
          · intro all index other member more
            exact (goesOn_succ stopped).mp (all (index + 1) other member (by omega))

end Batch

/-- Every record is published once and in order, up to those that were not
started when the stop event was seen, which are released, exactly if the loop
goes on after each record but the last: then the release after an exception, or
of a record that is drained, did not raise. -/
theorem outbox_batch_isolated_iff (dispatcher : OutboxDispatcher)
    (backend : Backend) (records : List OutboxRecord)
    (claimed : backend.answer (.claimOutbox dispatcher.eventType
      dispatcher.ownerId dispatcher.batchSize (seconds 30)) = .ok records) :
    let journal := (execute backend.respond dispatcher.dispatchOnce []).2
    (∃ started, published journal = (records.take started).map dispatcher.queued ∧
        drained journal = (records.drop started).map dispatcher.drainCall ∧
        ((∀ turn, backend.stop turn = false) → records.length ≤ started)) ↔
      ∀ index record, records[index]? = some record → index + 1 < records.length →
          dispatcher.GoesOn backend backend.stop index record := by
  intro journal
  let claim := OutboxCall.claimOutbox dispatcher.eventType dispatcher.ownerId
    dispatcher.batchSize (seconds 30)
  have first : execute backend.respond dispatcher.claimOutbox [] =
      (.ok records, [claim]) := Prod.ext claimed rfl
  obtain ⟨result, calls, started, released, ran, relayed, still, whole⟩ :=
    execute_dispatchRecords dispatcher backend records 0 [claim]
  have same : journal = claim :: calls := by
    change (execute backend.respond dispatcher.dispatchOnce []).2 = _
    rw [dispatchOnce, execute_bind_ok first, ran]
    rfl
  have published : published journal = (records.take started).map dispatcher.queued :=
    same ▸ relayed.published
  have drained : drained journal = ((records.drop started).take released).map
      dispatcher.drainCall := same ▸ relayed.drained
  have atStart : turns [claim] = 0 := rfl
  simp only [atStart, Nat.zero_add] at whole
  rw [← whole, published, drained]
  constructor
  · rintro ⟨other, taken, rest, _⟩
    have firsts := congrArg List.length taken
    have lasts := congrArg List.length rest
    simp only [List.length_map, List.length_take, List.length_drop] at firsts lasts
    omega
  · intro all
    refine ⟨started, rfl, ?_, fun running => ?_⟩
    · rw [List.take_of_length_le]
      rw [List.length_drop]
      omega
    · rw [still running] at all
      exact all

def relay : OutboxDispatcher where
  ownerId := "relay"
  injectTraceHeaders := id

def relayed (outboxId : String) : OutboxRecord where
  outboxId
  tenantId := "tenant"
  eventType := .inboundAccepted
  aggregateId := "session"
  payload := .inbound outboxId

def failing (release : Except DispatchError Unit) : Backend where
  stop _ := false
  answer
    | .claimOutbox .. => .ok [relayed "first", relayed "second"]
    | .stopRequested => .ok false
    | .publish _ => .error (.exception "ConnectionError")
    | .markOutboxPublished .. => .ok ()
    | .releaseOutbox .. => release

theorem failing_batch_published :
    published (execute (failing (.ok ())).respond relay.dispatchOnce []).2 =
      [relayed "first", relayed "second"] := by
  obtain ⟨started, once, _, all⟩ := (outbox_batch_isolated_iff relay
    (failing (.ok ())) [relayed "first", relayed "second"] rfl).mpr
      fun _ _ _ _ => ⟨fun _ => rfl, fun _ => rfl⟩
  rw [once, List.take_of_length_le (all fun _ => rfl)]
  rfl

/-- The claim of the first record is lost: the second one is not published. -/
theorem lost_claim_ends_batch :
    let outcome := execute (failing (.error (.exception
      "FencingConflict"))).respond relay.dispatchOnce []
    outcome.1 = .error (.exception "FencingConflict") ∧ published outcome.2 = [relayed "first"] :=
  ⟨rfl, rfl⟩

end OutboxDispatcher

end TrpcService.Queue
