import TrpcService.Channels.BindingLease

namespace TrpcService.Channels.BindingLease

open Data Storage EvidenceEvent

/-! The evidence of a connection falls into one block per epoch.  All of it
follows from the conditions of one `UPDATE`, whatever replicas believe. -/

inductive Records : Phase → List EventType → Prop
  | acquired : Records .acquired [.acquired]
  | takeover : Records .acquired [.takeover]
  | event {state : ConnectionState} {now : Time} {word : List EventType}
      (event : FencedEvent) (records : Records state.phase word)
      (fits : event.fits state.phase = true)
      (unreleased : state.phase ≠ .released) :
      Records (event.update now state).phase (word ++ [event.eventType])

/-- An opening, provider events around at most one authentication, and at most
one end of either kind. -/
def IsWord (word : List EventType) : Prop := ∃ opening ∈ [EventType.acquired, .takeover],
    ∃ (before after : Nat) (authenticated disconnected released : Bool),
      word = opening :: List.replicate before .providerEvent ++ (if authenticated then
          .authenticated :: List.replicate after .providerEvent else []) ++
        (if disconnected then [.disconnected] else []) ++
        (if released then [.released] else [])

def IsOpening (authenticated : Bool) (word : List EventType) : Prop :=
  ∃ opening ∈ [EventType.acquired, .takeover], ∃ before after : Nat,
    word = opening :: List.replicate before .providerEvent ++ (if authenticated then
        .authenticated :: List.replicate after .providerEvent else [])

def Shaped : Phase → List EventType → Prop
  | .acquired, word => IsOpening false word
  | .authenticated, word => IsOpening true word
  | .disconnected, word =>
      ∃ opened authenticated, IsOpening authenticated opened ∧ word = opened ++ [.disconnected]
  | .released, word =>
      ∃ opened authenticated, IsOpening authenticated opened ∧ (word = opened ++ [.released] ∨
          word = opened ++ [.disconnected] ++ [.released])

variable {word : List EventType} {authenticated : Bool}

theorem IsOpening.snoc (opening : IsOpening authenticated word) :
    IsOpening authenticated (word ++ [.providerEvent]) := by
  obtain ⟨first, member, before, after, rfl⟩ := opening
  cases authenticated with
  | false =>
    refine ⟨first, member, before + 1, 0, ?_⟩
    simp [List.replicate_succ']
  | true =>
    refine ⟨first, member, before, after + 1, ?_⟩
    simp [List.replicate_succ']

theorem IsOpening.authenticate (opening : IsOpening false word) :
    IsOpening true (word ++ [.authenticated]) := by
  obtain ⟨first, member, before, after, rfl⟩ := opening
  exact ⟨first, member, before, 0, by simp⟩

variable {phase : Phase}

theorem Records.shaped (records : Records phase word) : Shaped phase word := by
  induction records with
  | acquired => exact ⟨.acquired, by decide, 0, 0, rfl⟩
  | takeover => exact ⟨.takeover, by decide, 0, 0, rfl⟩
  | @event state now word event _ fits unreleased shaped =>
    cases event with
    | authenticated =>
      have phase : state.phase = .acquired := of_decide_eq_true fits
      rw [phase] at shaped
      exact shaped.authenticate
    | providerEvent hash =>
      show Shaped state.phase _
      cases phase : state.phase with
      | acquired =>
        rw [phase] at shaped
        exact shaped.snoc
      | authenticated =>
        rw [phase] at shaped
        exact shaped.snoc
      | disconnected => simp [FencedEvent.fits, phase] at fits
      | released => exact absurd phase unreleased
    | disconnected =>
      cases phase : state.phase with
      | acquired =>
        rw [phase] at shaped
        exact ⟨word, false, shaped, rfl⟩
      | authenticated =>
        rw [phase] at shaped
        exact ⟨word, true, shaped, rfl⟩
      | disconnected => simp [FencedEvent.fits, phase] at fits
      | released => exact absurd phase unreleased
    | released =>
      cases phase : state.phase with
      | acquired =>
        rw [phase] at shaped
        exact ⟨word, false, shaped, .inl rfl⟩
      | authenticated =>
        rw [phase] at shaped
        exact ⟨word, true, shaped, .inl rfl⟩
      | disconnected =>
        rw [phase] at shaped
        obtain ⟨opened, authenticated, opening, rfl⟩ := shaped
        exact ⟨opened, authenticated, opening, .inr rfl⟩
      | released => exact absurd phase unreleased

theorem IsOpening.isWord (opening : IsOpening authenticated word) (disconnected released : Bool) :
    IsWord (word ++ (if disconnected then [.disconnected] else []) ++
      (if released then [.released] else [])) := by
  obtain ⟨first, member, before, after, rfl⟩ := opening
  exact ⟨first, member, before, after, authenticated, disconnected, released, rfl⟩

theorem Records.isWord (records : Records phase word) : IsWord word := by
  have shaped := records.shaped
  cases phase with
  | acquired =>
    have opening : IsOpening false word := shaped
    simpa using opening.isWord false false
  | authenticated =>
    have opening : IsOpening true word := shaped
    simpa using opening.isWord false false
  | disconnected =>
    obtain ⟨opened, authenticated, opening, rfl⟩ := shaped
    simpa using opening.isWord true false
  | released =>
    obtain ⟨opened, authenticated, opening, rfl | rfl⟩ := shaped
    · simpa using opening.isWord false true
    · simpa using opening.isWord true true

/-- All events of an epoch, under the owner who acquired it. -/
structure Block (epoch : Nat) (ownerHash : String) (events : List EvidenceEvent) : Prop where
  epochs : ∀ event ∈ events, event.connectionEpoch = epoch
  owner : ∀ event ∈ events, event.ownerHash = ownerHash
  word : IsWord (events.map eventType)

def Blocks (blocks : List (List EvidenceEvent)) : Prop :=
  ∀ index block, blocks[index]? = some block → ∃ ownerHash, Block (index + 1) ownerHash block

def eventsOf (key : BindingKey) (events : List EvidenceEvent) : List EvidenceEvent :=
  events.filter fun event => event.key = key

variable {events : List EvidenceEvent} {ownerHash : String}

theorem Blocks.snoc {blocks : List (List EvidenceEvent)} (numbered : Blocks blocks)
    (block : Block (blocks.length + 1) ownerHash events) : Blocks (blocks ++ [events]) := by
  intro index other found
  rcases Nat.lt_trichotomy index blocks.length with less | rfl | greater
  · rw [List.getElem?_append_left less] at found
    exact numbered index other found
  · rw [List.getElem?_concat_length] at found
    cases found
    exact ⟨ownerHash, block⟩
  · rw [List.getElem?_eq_none (by simp; omega)] at found
    cases found

/-- The events of a connection end with those of its current epoch. -/
structure Recorded (state : ConnectionState) (events : List EvidenceEvent) : Prop where
  blocks : ∃ earlier current, events = earlier.flatten ++ current ∧
    Blocks earlier ∧ earlier.length + 1 = state.epoch ∧
    (∀ event ∈ current, event.connectionEpoch = state.epoch ∧ event.ownerHash = state.ownerHash) ∧
    Records state.phase (current.map eventType)
  released : state.releasedAt = none → state.phase ≠ .released

variable {state : ConnectionState}

theorem Recorded.all (recorded : Recorded state events) :
    ∃ blocks, events = blocks.flatten ∧ Blocks blocks ∧ blocks.length = state.epoch := by
  obtain ⟨earlier, current, split, numbered, length, own, records⟩ := recorded.blocks
  refine ⟨earlier ++ [current], by simp [split], numbered.snoc
    ⟨fun event member => ?_, fun event member => (own event member).2,
      records.isWord⟩, by simp [length]⟩
  rw [length]
  exact (own event member).1

def WellRecorded (database : Database) : Prop :=
  ∀ key, match database.states.get? key with
    | none => eventsOf key database.events = []
    | some state => Recorded state (eventsOf key database.events)

section Steps

variable {database after : Database} {key : BindingKey}

theorem eventsOf_append (events : List EvidenceEvent) (event : EvidenceEvent) :
    eventsOf key (events ++ [event]) =
      eventsOf key events ++ if event.key = key then [event] else [] := by
  rw [eventsOf, List.filter_append, List.filter_singleton]
  by_cases same : event.key = key
  · simp [same, eventsOf]
  · simp [same, eventsOf]

theorem WellRecorded.other {event : EvidenceEvent} {target : BindingKey}
    (well : WellRecorded database) (different : target ≠ key) (own : event.key = target) :
    match (database.states.set target state).get? key with
    | none => eventsOf key (database.events ++ [event]) = []
    | some state =>
      Recorded state (eventsOf key (database.events ++ [event])) := by
  subst own
  rw [Dict.get?_set_of_ne _ _ different, eventsOf_append, if_neg different, List.append_nil]
  exact well key

theorem records_eventTypeAfter (previous : Option ConnectionState) :
    Records .acquired [eventTypeAfter previous] := by
  fun_cases eventTypeAfter previous with
  | case1 => exact .takeover
  | case2 => exact .acquired
  | case3 => exact .acquired

variable (well : WellRecorded database)

include well

theorem wellRecorded_acquireRow {now : Time} {grant : WeComBindingLeaseGrant}
    (acquired : acquireRow key ownerHash now database = .ok (grant, after)) :
    WellRecorded after := by
  revert acquired
  fun_cases acquireRow key ownerHash now database with
  | case1 => exact nofun
  | case2 previous previousEpoch unchanged lease =>
    intro acquired
    obtain ⟨_, rfl⟩ := Prod.mk.inj (Except.ok.inj acquired)
    intro other
    by_cases same : key = other
    · subst same
      rw [Dict.get?_set_self, eventsOf_append, if_pos rfl]
      refine ⟨?_, fun _ => nofun⟩
      -- The current block is closed, and a new one is opened.
      obtain ⟨blocks, split, numbered, length⟩ : ∃ blocks, eventsOf key database.events =
        blocks.flatten ∧ Blocks blocks ∧ blocks.length = previousEpoch := by
        have recorded := well key
        cases found : database.states.get? key with
        | none =>
          rw [found] at recorded
          exact ⟨[], recorded, nofun, by simp [previousEpoch, previous, found]⟩
        | some state =>
          rw [found] at recorded
          obtain ⟨blocks, split, numbered, length⟩ := recorded.all
          exact ⟨blocks, split, numbered,
            by simp [previousEpoch, previous, found, length]⟩
      refine ⟨blocks, _, by rw [split], numbered, by rw [length], ?_, ?_⟩
      · intro event member
        rw [List.mem_singleton.mp member]
        exact ⟨rfl, rfl⟩
      · exact records_eventTypeAfter previous
    · exact well.other same rfl

theorem wellRecorded_recordOnConnection (grant : WeComBindingLeaseGrant) (event : FencedEvent)
    (now : Time) : WellRecorded (recordOnConnection grant event now database).2 := by
  fun_cases recordOnConnection grant event now database with
  | case1 => exact well
  | case2 state found fenced =>
    obtain ⟨_, _, unreleased, fits⟩ := fenced
    intro other
    by_cases same : grant.key = other
    · subst same
      have recorded := well grant.key
      rw [found] at recorded
      obtain ⟨earlier, current, split, numbered, length, own, records⟩ := recorded.blocks
      rw [Dict.get?_set_self, eventsOf_append, if_pos rfl]
      have kept : (event.update now state).epoch = state.epoch ∧
          (event.update now state).ownerHash = state.ownerHash := by
        cases event <;> exact ⟨rfl, rfl⟩
      refine ⟨⟨earlier, current ++ [_], by rw [split, List.append_assoc],
        numbered, by rw [length, kept.1], ?_, ?_⟩, ?_⟩
      · intro recordedEvent member
        rw [kept.1, kept.2]
        rcases List.mem_append.mp member with old | new
        · exact own recordedEvent old
        · rw [List.mem_singleton.mp new]
          exact ⟨rfl, rfl⟩
      · rw [List.map_append]
        exact .event event records fits (recorded.released unreleased)
      · intro still
        cases event with
        | authenticated => exact nofun
        | providerEvent hash => exact recorded.released unreleased
        | disconnected => exact nofun
        | released => exact nomatch still
    · exact well.other same rfl
  | case3 => exact well

theorem wellRecorded_recordWith (grant : WeComBindingLeaseGrant) (event : FencedEvent) (fate : Fate)
    (now : Time) : WellRecorded (recordWith grant event fate now database).2 := by
  cases fate with
  | committed => exact wellRecorded_recordOnConnection well grant event now
  | rolledBack => exact well
  | unacknowledged => exact wellRecorded_recordOnConnection well grant event now

end Steps

section Runs

variable {hash : IdentifierHash} {world : World}

section Recorded

variable (well : WellRecorded world.database)

include well

theorem wellRecorded_acquireBinding (replica : String) (key : BindingKey)
    (ownerId : String) (lockFree : Bool) (fate : Fate) (now : Time) :
    WellRecorded (world.acquireBinding hash replica key ownerId lockFree fate now).2.database := by
  fun_cases World.acquireBinding hash replica key ownerId lockFree fate now world with
  | case3 _ _ _ grant database acquired => exact wellRecorded_acquireRow well acquired
  | case4 _ _ _ grant database acquired => exact wellRecorded_acquireRow well acquired
  | _ => exact well

theorem wellRecorded_recordFencedEvent (replica : String) (grant : WeComBindingLeaseGrant)
    (event : FencedEvent) (fate : Fate) (now : Time) :
    WellRecorded (world.recordFencedEvent replica grant event fate now).2.database := by
  fun_cases World.recordFencedEvent replica grant event fate now world with
  | case1 => exact well
  | case2 => exact wellRecorded_recordWith well grant event fate now

theorem wellRecorded_releaseBinding (replica : String)
    (grant : WeComBindingLeaseGrant) (fate : Fate) (now : Time) :
    WellRecorded (world.releaseBinding replica grant fate now).2.database := by
  fun_cases World.releaseBinding replica grant fate now world with
  | case1 => exact well
  | case2 => exact wellRecorded_recordWith well grant .released fate now

theorem wellRecorded_apply (call : Call) (clk : Nat → Time) :
    WellRecorded (call.apply hash clk world).2.database := by
  cases call with
  | acquireBinding replica key ownerId lockFree fate =>
    exact wellRecorded_acquireBinding well replica key ownerId lockFree fate _
  | markAuthenticated replica grant fate =>
    exact wellRecorded_recordFencedEvent well replica grant _ fate _
  | recordProviderEvent replica grant providerEventId fate =>
    exact wellRecorded_recordFencedEvent well replica grant _ fate _
  | markDisconnected replica grant fate =>
    exact wellRecorded_recordFencedEvent well replica grant _ fate _
  | releaseBinding replica grant fate => exact wellRecorded_releaseBinding well replica grant fate _
  | restart replica => exact well

end Recorded

end Runs

/-- Whatever the replicas do, and whatever connections they lose, the evidence
of a binding is a sequence of well-formed blocks, one for each epoch. -/
theorem evidence_has_one_block_per_epoch (hash : IdentifierHash)
    (allowed : Config World Call Reply Time → Call → Prop) (config : Config World Call Reply Time)
    (reachable : (connections hash).Reachable allowed config) (key : BindingKey) :
    ∃ blocks : List (List EvidenceEvent),
      eventsOf key config.state.database.events = blocks.flatten ∧
      ∀ index block, blocks[index]? = some block →
        (∀ event ∈ block, event.connectionEpoch = index + 1) ∧
        (∃ ownerHash, ∀ event ∈ block, event.ownerHash = ownerHash) ∧
        IsWord (block.map eventType) := by
  have well : WellRecorded config.state.database :=
    reachable.invariant (fun config => WellRecorded config.state.database)
      (fun _ _ => rfl) fun config call reads _ well _ _ _ _ => wellRecorded_apply well call reads
  have described : ∃ blocks, eventsOf key config.state.database.events = blocks.flatten ∧
        Blocks blocks := by
    have recorded := well key
    cases found : config.state.database.states.get? key with
    | none =>
        rw [found] at recorded
        exact ⟨[], recorded, nofun⟩
    | some state =>
        rw [found] at recorded
        obtain ⟨blocks, split, numbered, _⟩ := recorded.all
        exact ⟨blocks, split, numbered⟩
  obtain ⟨blocks, split, numbered⟩ := described
  refine ⟨blocks, split, fun index block found => ?_⟩
  obtain ⟨ownerHash, epochs, owner, word⟩ := numbered index block found
  exact ⟨epochs, ⟨ownerHash, owner⟩, word⟩

def plainHash : IdentifierHash := fun domain _ _ value => domain ++ value

def lostGrant : WeComBindingLeaseGrant := ⟨"acme", "bot", "ownera", 1, 0⟩

def takenOver : List (Call × Time) :=
  [(.acquireBinding "first" ("acme", "bot") "a" true .committed, 0),
    (.markAuthenticated "first" lostGrant .committed, 1),
    (.recordProviderEvent "first" lostGrant "message" .unacknowledged, 2),
    (.acquireBinding "second" ("acme", "bot") "b" true .committed, 3),
    (.markDisconnected "first" lostGrant .committed, 4),
    (.releaseBinding "second" ⟨"acme", "bot", "ownerb", 2, 3⟩ .committed, 5)]

theorem taken_over_evidence :
    let events := eventsOf ("acme", "bot") ((connections plainHash).play
      takenOver ((connections plainHash).start 0)).state.database.events
    events.map eventType = [.acquired, .authenticated, .providerEvent, .takeover, .released] ∧
    ∃ blocks : List (List EvidenceEvent), events = blocks.flatten ∧
      ∀ index block, blocks[index]? = some block →
        (∀ event ∈ block, event.connectionEpoch = index + 1) ∧
        (∃ ownerHash, ∀ event ∈ block, event.ownerHash = ownerHash) ∧
        IsWord (block.map eventType) := by
  have reachable : (connections plainHash).Reachable (fun _ _ => True)
      ((connections plainHash).play takenOver ((connections plainHash).start 0)) :=
    (ClockedObject.reachable_start 0).play _ (by decide +kernel)
  exact ⟨by decide +kernel, evidence_has_one_block_per_epoch plainHash
    (fun _ _ => True) _ reachable ("acme", "bot")⟩

end TrpcService.Channels.BindingLease
