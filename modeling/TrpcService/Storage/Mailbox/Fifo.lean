import TrpcService.Storage.Mailbox.Runs

namespace TrpcService.Storage

open Data ClockedObject MailboxEvent

/-! Messages of a session are resolved once each, in the order in which they
were first accepted. -/

def acceptedIds (key : SessionKey) (history : List MailboxEvent) : List String :=
  (sessionHistory key history).filterMap MailboxEvent.accepted

def committedIds (key : SessionKey) (history : List MailboxEvent) : List String :=
  (sessionHistory key history).filterMap committed

theorem eraseDups_concat (known : List String) (inboundId : String) :
    (known ++ [inboundId]).eraseDups = known.eraseDups ++
      ((some inboundId).filter fun candidate => candidate ∉ known).toList := by
  rw [List.eraseDups_append]
  by_cases member : inboundId ∈ known
  · simp [List.removeAll, member]
  · simp [List.removeAll, member, Option.filter, List.eraseDups_cons]

/-- The queue holds the distinct accepted messages, the commits its resolved
part. -/
structure Slot.Follows (slot : Slot) (history : List MailboxEvent) : Prop where
  queue : slot.inboundIds = (history.filterMap MailboxEvent.accepted).eraseDups
  resolved : history.filterMap committed = slot.inboundIds.take slot.mailbox.resolvedSequence

theorem Label.eq_resolve {label : Label} {inboundId : String}
    (resolves : label.resolutions = [inboundId]) : label = .resolve inboundId := by
  cases label with
  | resolve other =>
    cases resolves
    rfl
  | _ => cases resolves

theorem Slot.Numbered.resolved_le {slot : Slot} (numbered : slot.Numbered) :
    slot.mailbox.resolvedSequence ≤ slot.inboundIds.length := by
  have counted : slot.inboundIds.length = slot.items.keys.length := by
    simp [Slot.inboundIds, Dict.values, Dict.keys]
  rw [counted, numbered.keys, List.length_range']
  exact numbered.ordered

theorem Slot.Follows.move {timed : Prop} {before after : Slot} {now : Time}
    {history : List MailboxEvent} {event : MailboxEvent} (follows : before.Follows history)
    (numbered : before.Numbered) (move : Move timed now before after (event.label before)) :
    after.Follows (history ++ [event]) := by
  obtain ⟨queue, _⟩ := Slot.arrivals_of_move move numbered
  obtain ⟨resolved, head⟩ := Slot.resolutions_of_move move numbered
  have resolutions := event.resolutions_label before
  rw [arrivals_label] at queue
  rw [resolutions] at resolved
  constructor
  · rw [queue, List.filterMap_append, follows.queue]
    cases accepted : event.accepted with
    | none => simp [accepted]
    | some inboundId =>
      rw [show [event].filterMap MailboxEvent.accepted = [inboundId] by
        simp [accepted], eraseDups_concat]
      simp only [List.mem_eraseDups]
  · rw [List.filterMap_append, follows.resolved, queue, resolved]
    cases committed : event.committed with
    | none =>
      simp only [committed, List.filterMap_cons, List.filterMap_nil,
        List.append_nil, Option.toList_none, List.length_nil, Nat.add_zero]
      rw [List.take_append_of_le_length numbered.resolved_le]
    | some inboundId =>
      have next := head inboundId (Label.eq_resolve (by
        rw [resolutions, committed]
        rfl))
      have inside : before.mailbox.resolvedSequence < before.inboundIds.length :=
        (List.getElem?_eq_some_iff.mp next).1
      simp only [committed, List.filterMap_cons, List.filterMap_nil,
        Option.toList_some, List.length_singleton]
      rw [List.take_append_of_le_length inside, List.take_add_one, next]
      rfl

/-- In every run, whatever its priorities, retry times, crashes and repeated
deliveries, the commits of a session resolve a prefix of its distinct messages
in the order of their first acceptance. -/
theorem mailbox_fifo {config : MailboxConfig}
    (reachable : mailboxObject.Reachable anyCall config) (key : SessionKey) :
    committedIds key config.history <+: (acceptedIds key config.history).eraseDups := by
  have follows : (config.state.slot key).Follows (sessionHistory key config.history) := by
    refine mailbox_session_invariant MailboxCall.unscheduled
      (fun history slot _ => slot.Follows history) ?_ ?_ ?_ reachable
    · intro clock
      exact ⟨rfl, rfl⟩
    · intro _ _ _ _ follows _
      exact follows
    · intro history store call clock now inv later same follows transition
      exact follows.move (inv key).numbered transition.move
  rw [committedIds, acceptedIds, follows.resolved, ← follows.queue]
  exact List.take_prefix _ _

/-- The lease of the owner that stops is recovered, and its commit refused. -/
def takeover : List (MailboxCall × Time) :=
  let lease : MailboxLease :=
    { tenantId := "tenant", sessionId := "session", inboundId := "first",
      sequence := 1, ownerId := "stopped", epoch := 1, expiresAt := 13,
      attempt := 1, retryCount := 0, priority := 0 }
  let taken := { lease with ownerId := "worker", epoch := 2, expiresAt := 31, attempt := 2 }
  [(.accept ("tenant", "session") "first" 0 none none "ready-1", 1),
    (.accept ("tenant", "session") "second" 9 none none "ready-2", 2),
    (.claim ("tenant", "session") "stopped" 10, 3), (.recover ("tenant", "session") "ready-3", 20),
    (.claim ("tenant", "session") "worker" 10, 21), (.commit lease "ready-4", 22),
    (.commit taken "ready-5", 23), (.claim ("tenant", "session") "worker" 10, 24),
    (.commit { taken with
      inboundId := "second", sequence := 2, epoch := 3, expiresAt := 34, attempt := 1,
      priority := 9 } "ready-6", 25)]

theorem takeover_fifo :
    let config := mailboxObject.play takeover (mailboxObject.start 0)
    config.history.map committed =
        [none, none, none, none, none, none, some "first", none, some "second"] ∧
      committedIds ("tenant", "session") config.history <+:
        (acceptedIds ("tenant", "session") config.history).eraseDups :=
  ⟨by decide +kernel, mailbox_fifo ((reachable_start 0).play _ (by
    simp [takeover, Permits, after, start, anyCall])) _⟩

end TrpcService.Storage
