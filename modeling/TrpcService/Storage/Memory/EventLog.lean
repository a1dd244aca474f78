import TrpcService.Storage.Memory.History

namespace TrpcService.Storage.Memory

open Data SequencedEvent

/-! The event log of a session: numbered without gaps, one version per commit,
and only ever extended. -/

def commitsOf (key : SessionKey) (turns : List TurnCommit) : List TurnCommit :=
  turns.filter fun turn => turn.lease.key = key

structure Logged (key : SessionKey) (repository : Repository) (turns : List TurnCommit) : Prop where
  positive : ∀ snapshot, repository.sessions.get? key = some snapshot → 1 ≤ snapshot.nextSequence
  numbered : ∀ snapshot, repository.sessions.get? key = some snapshot →
    snapshot.events.map sequence = List.range' 1 (snapshot.nextSequence - 1)
  version : ∀ snapshot, repository.sessions.get? key = some snapshot →
    snapshot.version = (commitsOf key turns).length
  unbegun : repository.sessions.get? key = none → commitsOf key turns = []

def Extends (before after : Repository) : Prop :=
  ∀ key snapshot, before.sessions.get? key = some snapshot →
    ∃ later, after.sessions.get? key = some later ∧ snapshot.events <+: later.events

theorem Extends.refl (repository : Repository) : Extends repository repository :=
  fun _ snapshot stored => ⟨snapshot, stored, List.prefix_refl _⟩

theorem Extends.trans {first second third : Repository} (before : Extends first second)
    (after : Extends second third) : Extends first third := by
  intro key snapshot stored
  obtain ⟨middle, found, early⟩ := before key snapshot stored
  obtain ⟨last, kept, late⟩ := after key middle found
  exact ⟨last, kept, early.trans late⟩

theorem Extends.of_sessions {before after : Repository}
    (same : after.sessions = before.sessions) : Extends before after := by
  intro key snapshot stored
  rw [same]
  exact ⟨snapshot, stored, List.prefix_refl _⟩

theorem map_sequence_sequenced (first : Nat) (events : List StoredEvent) :
    (sequenced first events).map sequence = List.range' first events.length := by
  induction events generalizing first with
  | nil => rfl
  | cons event rest induction =>
    simp only [sequenced, List.map_cons, List.length_cons, List.range'_succ]
    rw [induction]

@[simp] theorem length_sequenced (first : Nat) (events : List StoredEvent) :
    (sequenced first events).length = events.length := by
  have counted := congrArg List.length (map_sequence_sequenced first events)
  simpa using counted

section Step

variable {request : Request} {before after : Repository} {deed : Deed} {turns : List TurnCommit}
  {key : SessionKey}

inductive Appends (before after : Repository) : Deed → Prop
  | kept {deed : Deed} (quiet : deed.commits = [])
      (sessions : after.sessions = before.sessions) : Appends before after deed
  | begun {deed : Deed} (quiet : deed.commits = []) (key : SessionKey)
      (snapshot : SessionSnapshot) (absent : before.sessions.get? key = none)
      (version : snapshot.version = 0) (next : snapshot.nextSequence = 1)
      (events : snapshot.events = [])
      (sessions : after.sessions = before.sessions.set key snapshot) :
      Appends before after deed
  | committed (commit : TurnCommit) (snapshot : SessionSnapshot)
      (stored : before.sessions.get? commit.lease.key = some snapshot)
      (sessions : after.sessions = before.sessions.set commit.lease.key
        (commitSnapshot snapshot commit)) :
      Appends before after (.commit commit)

theorem Act.appends (act : Act request before after deed) : Appends before after deed := by
  cases act with
  | still same => exact .kept rfl same.sessions
  | accept _ _ _ _ sessions => exact .kept rfl sessions
  | release _ _ sessions => exact .kept rfl sessions
  | extend _ _ _ _ _ sessions => exact .kept rfl sessions
  | grant lease _ _ _ _ sessions =>
    cases sessions with
    | same sessions => exact .kept rfl sessions
    | first snapshot absent version next events sessions =>
      exact .begun rfl lease.key snapshot absent version next events sessions
  | commit commit snapshot _ stored _ sessions => exact .committed commit snapshot stored sessions

theorem Appends.extends (appends : Appends before after deed) : Extends before after := by
  cases appends with
  | kept _ sessions => exact .of_sessions sessions
  | begun _ key _ absent _ _ _ sessions =>
    intro other snapshot stored
    have different : key ≠ other := by
      rintro rfl
      exact nomatch absent.symm.trans stored
    rw [sessions, Dict.get?_set_of_ne _ _ different]
    exact ⟨snapshot, stored, List.prefix_refl _⟩
  | committed commit current present sessions =>
    intro other snapshot stored
    rw [sessions, Dict.get?_set]
    split
    case isTrue same =>
      subst same
      cases present.symm.trans stored
      exact ⟨_, rfl, List.prefix_append _ _⟩
    case isFalse => exact ⟨snapshot, stored, List.prefix_refl _⟩

theorem Logged.kept (logged : Logged key before turns)
    (same : after.sessions.get? key = before.sessions.get? key) {more : List TurnCommit}
    (others : commitsOf key more = []) : Logged key after (turns ++ more) := by
  have counted : commitsOf key (turns ++ more) = commitsOf key turns := by
    rw [commitsOf, List.filter_append]
    exact (congrArg _ others).trans (List.append_nil _)
  constructor
  all_goals rw [same]
  · exact logged.positive
  · exact logged.numbered
  · rw [counted]
    exact logged.version
  · rw [counted]
    exact logged.unbegun

theorem Logged.of_stored {snapshot : SessionSnapshot}
    (stored : after.sessions.get? key = some snapshot) (positive : 1 ≤ snapshot.nextSequence)
    (numbered : snapshot.events.map sequence = List.range' 1 (snapshot.nextSequence - 1))
    (version : snapshot.version = (commitsOf key turns).length) : Logged key after turns := by
  have only : ∀ current, after.sessions.get? key = some current → current = snapshot := fun current
    found => Option.some.inj (found.symm.trans stored)
  constructor
  · intro current found
    rw [only current found]
    exact positive
  · intro current found
    rw [only current found]
    exact numbered
  · intro current found
    rw [only current found]
    exact version
  · intro absent
    exact nomatch absent.symm.trans stored

theorem numbered_commitSnapshot {snapshot : SessionSnapshot} (positive : 1 ≤ snapshot.nextSequence)
    (numbered : snapshot.events.map sequence = List.range' 1 (snapshot.nextSequence - 1))
    (commit : TurnCommit) :
    (commitSnapshot snapshot commit).events.map sequence =
      List.range' 1 ((commitSnapshot snapshot commit).nextSequence - 1) := by
  have total : snapshot.nextSequence + commit.events.length - 1 =
      (snapshot.nextSequence - 1) + commit.events.length := by omega
  have next : snapshot.nextSequence = 1 + (snapshot.nextSequence - 1) := by
    omega
  simp only [commitSnapshot, List.map_append, numbered, map_sequence_sequenced,
    length_sequenced, total]
  conv_lhs => rw [next]
  rw [Nat.add_sub_cancel_left, List.range'_append_1]

theorem Logged.step (logged : ∀ key, Logged key before turns) (appends : Appends before after deed)
    (key : SessionKey) : Logged key after (turns ++ deed.commits) := by
  cases appends with
  | kept quiet sessions =>
    rw [quiet]
    exact (logged key).kept (by rw [sessions]) rfl
  | begun quiet begun snapshot absent version next events sessions =>
    rw [quiet, List.append_nil]
    by_cases same : begun = key
    · subst same
      have unbegun := (logged begun).unbegun absent
      refine .of_stored (by rw [sessions, Dict.get?_set_self]) (Nat.le_of_eq next.symm) ?_ ?_
      · rw [events, next]
        rfl
      · rw [version, unbegun]
        rfl
    · have kept : Logged key after (turns ++ []) := (logged key).kept
        (by rw [sessions, Dict.get?_set_of_ne _ _ same]) rfl
      rwa [List.append_nil] at kept
  | committed commit snapshot stored sessions =>
    by_cases same : commit.lease.key = key
    · subst same
      have counted : (commitsOf commit.lease.key (turns ++ [commit])).length =
            (commitsOf commit.lease.key turns).length + 1 := by
        simp [commitsOf]
      have positive := (logged _).positive snapshot stored
      refine .of_stored (by rw [sessions, Dict.get?_set_self])
        (Nat.le_trans positive (Nat.le_add_right _ _))
        (numbered_commitSnapshot positive ((logged _).numbered snapshot stored) commit) ?_
      rw [Deed.commits, counted, ← (logged _).version snapshot stored]
      rfl
    · refine (logged key).kept (by rw [sessions, Dict.get?_set_of_ne _ _ same]) ?_
      simp [Deed.commits, commitsOf, same]

end Step

section Runs

variable {allowed : RepositoryConfig → Request → Prop} {config later : RepositoryConfig}

variable (reachable : memoryRepository.Reachable allowed config)

include reachable

theorem logged_reachable (key : SessionKey) : Logged key config.state (commits config.history) := by
  refine reachable_preserve (fun config => ∀ key,
    Logged key config.state (commits config.history)) ?_ ?_ reachable key
  · intro clock key
    exact ⟨nofun, nofun, nofun, fun _ => rfl⟩
  · rintro config request after logged _ _ ⟨reply, history, effect⟩ key
    rw [history, commits_append]
    exact Logged.step logged effect.act.appends key

theorem extends_steps (steps : memoryRepository.Steps allowed config later) :
    Extends config.state later.state := by
  refine (steps_preserve (fun later => Extends config.state later.state) ?_
    steps (mailboxInv_reachable reachable) (.refl config.state)).1
  rintro middle request after kept _ _ ⟨reply, _, effect⟩
  exact kept.trans effect.act.appends.extends

end Runs

end TrpcService.Storage.Memory
