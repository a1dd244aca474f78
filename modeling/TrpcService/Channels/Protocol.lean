import TrpcService.Channels.Dispatcher

namespace TrpcService.Channels

open Data Storage Storage.Postgres DispatchEffect Dispatcher

/-! What a dispatcher can be relied on, whatever its calls answer. -/

structure Progress where
  claimed : List OutboxRecord
  /-- The attempt that it has just begun, with the record it is for. -/
  begun : Option (OutboxRecord × DeliveryAttempt)
  /-- The message that it has just recorded as ambiguous. -/
  recorded : Option (String × String)

def Progress.idle : Progress := ⟨[], none, none⟩

/-- Reasons to retire a record whose outcome has been recorded before. -/
def outcomeReasons : List String := ["dispatcher_unknown", "delivery_in_progress"]

def namedMessage (record : OutboxRecord) : Option (String × String) :=
  match record.payload with
  | .outbound envelope => some (record.tenantId, envelope.outboundId)
  | _ => none

theorem namedMessage_eq {record : OutboxRecord} {envelope : OutboundEnvelope}
    (payload : record.payload = .outbound envelope) :
    namedMessage record = some (record.tenantId, envelope.outboundId) := by
  rw [namedMessage, payload]

/-- A dispatcher with a given owner id works under that id on records that it
has claimed, sends nothing but the attempt it has just begun, and records on
its own only that an outcome is unknown. -/
def Serves (ownerId : String) (progress : Progress) (effect : DispatchEffect) : Prop :=
  match effect with
  | .claimOutbox _ owner _ _ => owner = ownerId
  | .releaseOutbox _ _ owner _ _ => owner = ownerId
  | .deadLetterOutbox record owner _ => owner = ownerId ∧ record ∈ progress.claimed
  | .markOutboxPublished _ _ _ => False
  | .recordDelivery tenantId receipt retrying =>
      retrying = false ∧ receipt.status = .ambiguous ∧ ∃ record ∈ progress.claimed,
          namedMessage record = some (tenantId, receipt.outboundId)
  | .beginDelivery record owner => owner = ownerId ∧ record ∈ progress.claimed
  | .finishDelivery record owner _ receipt _ =>
      owner = ownerId ∧ record ∈ progress.claimed ∧
        namedMessage record = some (record.tenantId, receipt.outboundId)
  | .send envelope _ =>
      ∃ record attempt, progress.begun = some (record, attempt) ∧
        record.payload = .outbound envelope ∧
        envelope.tenantId = record.tenantId ∧
        envelope.outboundId = attempt.outboundId
  | _ => True

def retires (effect : DispatchEffect) : Option (String × String) :=
  match effect with
  | .deadLetterOutbox record _ reason =>
      if reason ∈ outcomeReasons then namedMessage record else none
  | _ => none

/-- When an outcome has been recorded, and only then, the next call retires the
record. -/
def dispatching (ownerId : String) : Coroutine.Protocol DispatchEffect Answer Failure
      Progress where
  permits progress effect := Serves ownerId progress effect ∧ retires effect = progress.recorded
  next progress effect :=
    match effect with
    | .claimOutbox _ _ _ _ => fun answer =>
        match answer with
        | .ok records => ⟨records, none, none⟩
        | .error _ => ⟨progress.claimed, none, none⟩
    | .beginDelivery record _ => fun answer =>
        match answer with
        | .ok attempt => ⟨progress.claimed, some (record, attempt), none⟩
        | .error _ => ⟨progress.claimed, none, none⟩
    | .recordDelivery tenantId receipt _ => fun answer =>
        match answer with
        | .ok _ => ⟨progress.claimed, none, some (tenantId, receipt.outboundId)⟩
        | .error _ => ⟨progress.claimed, none, none⟩
    | _ => fun _ => ⟨progress.claimed, none, none⟩

structure At (claimed : List OutboxRecord) (progress : Progress) : Prop where
  batch : progress.claimed = claimed
  unrecorded : progress.recorded = none

abbrev Obeys {α : Type} (ownerId : String) (promise : Except Failure α → Progress → Prop)
    (progress : Progress) (program : Dispatch α) : Prop :=
  Coroutine.Obeys (dispatching ownerId) promise progress program

/-- However it ends, the program has no record to retire then. -/
def Works {α : Type} (ownerId : String) (claimed : List OutboxRecord) (progress : Progress)
    (program : Dispatch α) : Prop :=
  Obeys ownerId (fun _ => At claimed) progress program

section Rules

variable {α β : Type} {ownerId : String} {progress : Progress} {claimed : List OutboxRecord}
  {program : Dispatch α}

theorem works_then {promise : Except Failure α → Progress → Prop} {next : α → Dispatch β}
    (obeys : Obeys ownerId promise progress program)
    (fails : ∀ error after, promise (.error error) after → At claimed after)
    (continues : ∀ value after, promise (.ok value) after →
      Works ownerId claimed after (next value)) :
    Works ownerId claimed progress (program >>= next) := by
  refine Coroutine.obeys_bind.mpr (obeys.mono fun result after holds => ?_)
  cases result with
  | ok value => exact continues value after holds
  | error error => exact fails error after holds

theorem Works.andThen {next : α → Dispatch β} (works : Works ownerId claimed progress program)
    (continues : ∀ value after, At claimed after → Works ownerId claimed after (next value)) :
    Works ownerId claimed progress (program >>= next) :=
  works_then works (fun _ _ here => here) continues

theorem Works.returning (works : Works ownerId claimed progress program) (answer : α → β) :
    Works ownerId claimed progress (program >>= fun value => pure (answer value)) :=
  works.andThen fun _ _ here => here

theorem Works.except {handler : Failure → Dispatch α}
    (works : Works ownerId claimed progress program)
    (handles : ∀ error after, At claimed after → Works ownerId claimed after (handler error)) :
    Works ownerId claimed progress (exceptException program handler) := by
  refine Coroutine.obeys_tryCatch.mpr (works.mono fun result after holds => ?_)
  cases result with
  | ok value => exact holds
  | error error =>
    dsimp only
    split
    · exact holds
    · exact handles error after holds

theorem At.idle (here : At claimed progress) : At claimed ⟨progress.claimed, none, none⟩ :=
  ⟨here.batch, rfl⟩

theorem works_call {effect : DispatchEffect} (here : At claimed progress)
    (serves : Serves ownerId progress effect) (quiet : retires effect = none)
    (stays : ∀ answer, At claimed ((dispatching ownerId).next progress effect answer)) :
    Works ownerId claimed progress effect.await :=
  ⟨⟨serves, quiet.trans here.unrecorded.symm⟩, stays⟩

end Rules

section Parts

variable {ownerId reason : String} {claimed : List OutboxRecord} {progress : Progress}
  {record : OutboxRecord} {envelope : OutboundEnvelope} {binding : ChannelBinding}
  (dispatcher : Dispatcher)

theorem obeys_sendOnce (here : At claimed progress)
    (begun : Serves ownerId progress (.send envelope binding)) :
    Obeys ownerId (fun result after => At claimed after ∧ ∀ receipt, result = .ok receipt →
      receipt.outboundId = envelope.outboundId) progress (sendOnce envelope binding) := by
  refine ⟨⟨begun, here.unrecorded.symm⟩, fun answer => ?_⟩
  have ambiguous : ∀ error : Failure, Obeys ownerId (fun result after => At claimed after ∧
    ∀ receipt, result = .ok receipt → receipt.outboundId = envelope.outboundId) ⟨progress.claimed,
    none, none⟩ (if error = .cancelled then throw error else pure (ambiguousReceipt envelope
    "transport_unknown")) := by
    intro error
    split
    · exact ⟨here.idle, nofun⟩
    · exact ⟨here.idle, fun _ same => Except.ok.inj same ▸ rfl⟩
  match answer with
  | .error error => exact ambiguous error
  | .ok none => exact ambiguous (.typeError "adapter returned an invalid delivery receipt")
  | .ok (some receipt) =>
    refine ⟨here.idle, fun _ same => Except.ok.inj same ▸ ?_⟩
    unfold normalizeReceipt
    split
    case isTrue matching => exact matching
    case isFalse => rfl

theorem storedReceipt_outboundId (receipt : DeliveryReceipt) (attempts : Nat) :
    (dispatcher.storedReceipt receipt attempts).outboundId = receipt.outboundId := by
  unfold storedReceipt
  split
  · rfl
  · rfl

section Here

variable (here : At claimed progress)

include here

theorem works_retryDelay (receipt : DeliveryReceipt) (attempts : Nat) :
    Works ownerId claimed progress (retryDelay receipt attempts) := by
  unfold retryDelay
  split
  · exact here
  · refine Works.andThen (works_call here trivial rfl fun _ => here.idle) fun delay after here => ?_
    cases delay with
    | none => exact here
    | some delay =>
      dsimp only
      split
      · exact here
      · exact here

variable (member : record ∈ claimed)

include member

theorem works_deadLetter (unsettled : reason ∉ outcomeReasons) :
    Works dispatcher.ownerId claimed progress
      (deadLetterOutbox record dispatcher.ownerId reason).await :=
  works_call here ⟨rfl, here.batch ▸ member⟩ (if_neg unsettled) fun _ => here.idle

theorem works_deadLetterRecord (unsettled : reason ∉ outcomeReasons) :
    Works dispatcher.ownerId claimed progress (dispatcher.deadLetterRecord record reason) :=
  ((works_deadLetter dispatcher here member unsettled).returning _).except fun _ _ here => here

theorem works_retryOrDeadLetter (delay : Time) (unsettled : reason ∉ outcomeReasons) :
    Works dispatcher.ownerId claimed progress (do
      dispatcher.retryOrDeadLetter record reason delay
      pure false) := by
  refine Works.returning ?_ _
  unfold retryOrDeadLetter
  split
  · exact works_deadLetter dispatcher here member unsettled
  · exact works_call here rfl rfl fun _ => here.idle

theorem works_finish {attemptNumber : Nat} {receipt : DeliveryReceipt} {delay : Time}
    (named : namedMessage record = some (record.tenantId, receipt.outboundId)) :
    Works dispatcher.ownerId claimed progress (do
      (finishDelivery record dispatcher.ownerId attemptNumber receipt delay).await
      pure true) :=
  Works.andThen (works_call here ⟨rfl, here.batch ▸ member, named⟩ rfl fun _ => here.idle)
    fun _ _ here => here

theorem works_finishOnce {attemptNumber : Nat} {receipt : DeliveryReceipt} {delay : Time}
    (named : namedMessage record = some (record.tenantId, receipt.outboundId)) :
    Works dispatcher.ownerId claimed progress
      (dispatcher.finishOnce record attemptNumber receipt delay) :=
  (works_finish dispatcher here member named).except fun _ _ here => here

variable (payload : record.payload = .outbound envelope)

include payload

theorem works_dispatchAtomic (tenant : envelope.tenantId = record.tenantId) :
    Works dispatcher.ownerId claimed progress
      (dispatcher.dispatchAtomic record envelope binding) := by
  refine ⟨⟨⟨rfl, here.batch ▸ member⟩, here.unrecorded.symm⟩, fun answer => ?_⟩
  cases answer with
  | error error => exact here.idle
  | ok attempt =>
    have begun : At claimed ⟨progress.claimed, some (record, attempt), none⟩ := ⟨here.batch, rfl⟩
    show Works _ _ _ (ite _ _ _)
    split
    case isTrue => exact begun
    case isFalse matched =>
      simp only [not_or, ne_eq, Decidable.not_not] at matched
      obtain ⟨_, _, outbound⟩ := matched
      refine works_then (obeys_sendOnce begun ⟨record, attempt, rfl, payload, tenant,
        outbound.symm⟩) (fun _ _ sent => sent.1) ?_
      rintro receipt after ⟨here, sent⟩
      refine (works_retryDelay here _ _).andThen fun delay later here => ?_
      refine (works_finishOnce dispatcher here member ?_).returning _
      rw [namedMessage_eq payload, storedReceipt_outboundId, sent _ rfl]

theorem works_recordOutcome {providerCode : String} {answer : Bool}
    (settled : reason ∈ outcomeReasons) :
    Works dispatcher.ownerId claimed progress (exceptException (do
      (recordDelivery record.tenantId (ambiguousReceipt envelope providerCode) false).await
      (deadLetterOutbox record dispatcher.ownerId reason).await
      pure answer) fun _ => pure false) := by
  have named := namedMessage_eq payload
  refine Works.except ⟨⟨⟨rfl, rfl, record, here.batch ▸ member, named⟩, here.unrecorded.symm⟩,
    fun recorded => ?_⟩ fun _ _ here => here
  cases recorded with
  | error error => exact here.idle
  | ok _ =>
    refine ⟨⟨⟨rfl, here.batch ▸ member⟩, (if_pos settled).trans named⟩, fun retired => ?_⟩
    cases retired with
    | error error => exact here.idle
    | ok _ => exact here.idle

theorem works_deliverAtomic (tenant : envelope.tenantId = record.tenantId) :
    Works dispatcher.ownerId claimed progress
      (dispatcher.deliverAtomic record envelope binding) := by
  refine Coroutine.obeys_tryCatch.mpr (Coroutine.Obeys.mono
    ((works_dispatchAtomic dispatcher here member payload tenant).returning _) ?_)
  intro result after here
  cases result with
  | ok _ => exact here
  | error error =>
    dsimp only
    split
    case h_1 attemptNumber =>
      unfold resolveInProgress
      split
      · exact works_finish dispatcher here member (namedMessage_eq payload)
      · exact works_recordOutcome dispatcher here member payload (by decide)
    case h_2 => exact here
    case h_3 => exact here

variable (atomic : dispatcher.atomicDelivery = true)

include atomic

theorem works_deliver :
    Works dispatcher.ownerId claimed progress (dispatcher.deliver record envelope) := by
  refine Works.andThen (works_call here trivial rfl fun _ => here.idle) fun route after here => ?_
  cases routed : Option.filter (Dispatcher.routes record envelope) route with
  | none => exact works_retryOrDeadLetter dispatcher here member _ (by decide)
  | some binding =>
    have tenant : envelope.tenantId = record.tenantId := by
      obtain ⟨_, routes⟩ := Option.filter_eq_some_iff.mp routed
      simp only [Dispatcher.routes, Bool.and_eq_true, decide_eq_true_eq] at routes
      exact routes.1.2.symm.trans routes.1.1.2
    dsimp only
    split
    · exact works_retryOrDeadLetter dispatcher here member _ (by decide)
    have readied : Works dispatcher.ownerId claimed after (dispatcher.isReady binding) := by
      unfold isReady
      split
      · exact works_call here trivial rfl fun _ => here.idle
      · exact here
    refine readied.andThen fun ready later here => ?_
    split
    · exact works_deliverAtomic dispatcher here member payload tenant
    · exact Works.andThen (works_call here rfl rfl fun _ => here.idle) fun _ _ here => here

end Here

variable (schema : EnvelopeSchema) (atomic : dispatcher.atomicDelivery = true)

theorem works_releasePending (here : At claimed progress) (records : List OutboxRecord) :
    Works dispatcher.ownerId claimed progress (dispatcher.releasePending records) := by
  induction records generalizing progress with
  | nil => exact here
  | cons record rest induction =>
    exact Works.andThen (Works.except (works_call here rfl rfl fun _ => here.idle)
      fun _ _ here => here) fun _ _ here => induction here

include atomic

theorem works_dispatchRecord (here : At claimed progress) (member : record ∈ claimed) :
    Works dispatcher.ownerId claimed progress (dispatcher.dispatchRecord schema record) := by
  unfold dispatchRecord
  split
  case h_1 => exact works_deadLetterRecord dispatcher here member (by decide)
  case h_2 envelope valid =>
    have payload := schema.sound _ _ valid
    refine Works.andThen (works_call here trivial rfl fun _ => here.idle) fun _ after here => ?_
    exact (works_deliver dispatcher here member payload atomic).except fun _ _ here =>
      works_recordOutcome dispatcher here member payload (by decide)

theorem works_dispatchAll (here : At claimed progress) (records : List OutboxRecord)
    (completed : Nat) (batch : ∀ record ∈ records, record ∈ claimed) :
    Works dispatcher.ownerId claimed progress
      (dispatcher.dispatchAll schema records completed) := by
  induction records generalizing progress completed with
  | nil => exact here
  | cons record rest induction =>
    refine Works.andThen (works_call here trivial rfl fun _ => here.idle) fun _ after here => ?_
    have member := batch record List.mem_cons_self
    split
    · exact (works_releasePending dispatcher here _).returning _
    · refine ((works_dispatchRecord dispatcher schema atomic here member).except fun _ _ here =>
        works_deadLetterRecord dispatcher here member (by decide)).andThen fun _ _ here => ?_
      exact induction here _ fun other later => batch other (List.mem_cons_of_mem record later)

/-- A cycle of the dispatcher starts with a claim, and ends with no record to
retire. -/
theorem obeys_dispatchOnce (unrecorded : progress.recorded = none) :
    Obeys dispatcher.ownerId (fun _ after => after.recorded = none) progress
      (dispatcher.dispatchOnce schema) := by
  refine ⟨⟨rfl, unrecorded.symm⟩, fun answer => ?_⟩
  cases answer with
  | error error => exact rfl
  | ok records =>
    exact (works_dispatchAll dispatcher schema atomic ⟨rfl, rfl⟩ records 0
      fun _ member => member).mono fun _ _ here => here.unrecorded

end Parts

end TrpcService.Channels
