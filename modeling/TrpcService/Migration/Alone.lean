import TrpcService.Migration.System

namespace TrpcService.Migration

open Data MigrationCoordinator

variable {Double Target : Type}

/-! A coordinator that runs alone: its lease holds, every call is answered, and
nobody else changes source, target or checkpoints. -/

structure Progress (Target : Type) where
  target : Target
  saved : List MigrationCheckpoint := []

namespace MigrationSystem

variable (system : MigrationSystem Double Target)

def changing (progress : Progress Target) (attempt : Except MigrationError Target) :
    Except MigrationError Unit × Progress Target :=
  match attempt with
  | .ok target => (.ok (), { progress with target })
  | .error error => (.error error, progress)

def alone (effect : CoordinatorEffect Double) (progress : Progress Target) :
    Except MigrationError effect.Answer × Progress Target :=
  match effect with
  | .load tenantId migrationId =>
      (.ok (progress.saved.find? fun checkpoint => checkpoint.tenantId = tenantId ∧
          checkpoint.migrationId = migrationId), progress)
  | .save checkpoint =>
      if checkpoint.sourceCount ≤ maxMigrationExpectedRecords ∧
          checkpoint.targetCount ≤ maxMigrationExpectedRecords then
        (.ok (), { progress with saved := checkpoint :: progress.saved })
      else (.error .database, progress)
  | .snapshot tenantId =>
      (Migration.snapshot system.python system.redis tenantId (system.keysOf tenantId), progress)
  | .fetch tenantId cursor limit =>
      (Migration.fetch system.python system.redis tenantId
        (system.keysOf tenantId) cursor limit, progress)
  | .prepare tenantId => (system.target.prepare progress.target tenantId, progress)
  | .upsert tenantId record =>
      changing progress (system.target.upsert progress.target tenantId record)
  | .read tenantId kind resourceId =>
      (system.target.read progress.target tenantId kind resourceId, progress)
  | .listRecordsPage tenantId kind cursor limit =>
      (system.target.listRecordsPage progress.target tenantId kind cursor limit, progress)
  | .setDualWrite tenantId enabled =>
      changing progress (system.target.setDualWrite progress.target tenantId enabled)
  | .cutover tenantId => changing progress (system.target.cutover progress.target tenantId)
  | .cleanup tenantId => changing progress (system.target.cleanup progress.target tenantId)
  | .rollback tenantId => changing progress (system.target.rollback progress.target tenantId)
  | .startHeartbeat => (.ok (), progress)
  | .stopHeartbeat => (.ok (), progress)
  | .raiseHeartbeatError => (.ok (), progress)
  | .renew => (.ok (), progress)
  | .assertActive => (.ok (), progress)

end MigrationSystem

section Parts

variable {system : MigrationSystem Double Target} {progress : Progress Target}
  (coordinator : MigrationCoordinator)

theorem execute_assertLease :
    execute system.alone coordinator.assertLease progress = (.ok (), progress) := by
  unfold MigrationCoordinator.assertLease
  cases coordinator.guarded <;> rfl

theorem execute_renewLease :
    execute system.alone coordinator.renewLease progress = (.ok (), progress) := by
  unfold MigrationCoordinator.renewLease
  cases coordinator.guarded <;> rfl

theorem execute_saveCheckpoint {checkpoint : MigrationCheckpoint}
    (counted : checkpoint.sourceCount ≤ maxMigrationExpectedRecords)
    (within : checkpoint.targetCount ≤ maxMigrationExpectedRecords) :
    execute system.alone (coordinator.saveCheckpoint checkpoint) progress =
      (.ok (), { progress with saved := checkpoint :: progress.saved }) := by
  have answered : system.alone (.save checkpoint) progress =
      (.ok (), { progress with saved := checkpoint :: progress.saved }) := if_pos ⟨counted, within⟩
  exact (execute_bind_ok (execute_renewLease coordinator)).trans answered

theorem check_eq {α : Type} {result : Except MigrationError α} {value : α}
    (succeeds : result = .ok value) :
    execute system.alone (check result) progress = (.ok value, progress) := by
  rw [succeeds]
  rfl

theorem ensureRecordCount_eq {value : Nat} {label : String}
    (within : value ≤ maxMigrationExpectedRecords) : ensureRecordCount value label = .ok () :=
  if_neg (Nat.not_lt.mpr within)

theorem ensureRecordCount_le {value : Nat} {label : String}
    (counted : ensureRecordCount value label = .ok ()) : value ≤ maxMigrationExpectedRecords := by
  unfold ensureRecordCount at counted
  split at counted
  · cases counted
  · rename_i within
    exact Nat.not_lt.mp within

section Enumeration

/-- How the enumeration of a kind of the target ends, from a cursor on and with
a number of records that were read before: with its last page, or refused with a
`ValueError`. -/
inductive Enumerates (system : MigrationSystem Double Target)
    (target : Target) (batchSize : Nat) (tenantId : String)
    (kind : RecordKind) : Option String → Nat → Bool → Prop
  | refused {cursor : Option String} {count : Nat} {message : String}
      (raised : system.target.listRecordsPage target tenantId kind cursor
        batchSize = .error (.valueError message)) :
      Enumerates system target batchSize tenantId kind cursor count true
  | last {cursor : Option String} {count : Nat} {page : List (MigrationRecord Double)}
      (listed : system.target.listRecordsPage target tenantId kind cursor
        batchSize = .ok (page, none))
      (short : page.length ≤ batchSize)
      (within : count + page.length ≤ maxMigrationExpectedRecords) :
      Enumerates system target batchSize tenantId kind cursor count false
  | next {cursor : Option String} {count : Nat} {refused : Bool}
      {page : List (MigrationRecord Double)} {following : String}
      (listed : system.target.listRecordsPage target tenantId kind cursor
        batchSize = .ok (page, some following))
      (short : page.length ≤ batchSize)
      (within : count + page.length ≤ maxMigrationExpectedRecords)
      (nonempty : page ≠ []) (moves : some following ≠ cursor)
      (rest : Enumerates system target batchSize tenantId kind
        (some following) (count + page.length) refused) :
      Enumerates system target batchSize tenantId kind cursor count refused

/-- Kind after kind, up to the first one that is refused. -/
def Enumerable (system : MigrationSystem Double Target) (target : Target)
    (batchSize : Nat) (tenantId : String) : List RecordKind → Prop
  | [] => True
  | kind :: rest =>
      Enumerates system target batchSize tenantId kind none 0 true ∨
        Enumerates system target batchSize tenantId kind none 0 false ∧
          Enumerable system target batchSize tenantId rest

variable {tenantId : String} {kind : RecordKind}

theorem execute_enumerateTargetKind (rounds : Nat) (cursor : Option String)
    (values : List (MigrationRecord Double)) :
    execute system.alone (coordinator.enumerateTargetKind tenantId kind (rounds + 1) cursor values)
        progress =
      match system.target.listRecordsPage progress.target tenantId kind cursor
          coordinator.batchSize with
      | .error error => (.error error, progress)
      | .ok (page, next) =>
        if coordinator.batchSize < page.length then
          (.error (.guardError "target page exceeded the migration batch bound"), progress)
        else
          match ensureRecordCount (values ++ page).length "target enumeration" with
          | .error error => (.error error, progress)
          | .ok _ =>
            if next = none then (.ok (values ++ page), progress)
            else if page = [] ∨ next = cursor then
              (.error (.guardError "target pagination did not advance"), progress)
            else execute system.alone (coordinator.enumerateTargetKind tenantId kind rounds next
              (values ++ page)) progress := by
  have asked : execute system.alone (CoordinatorEffect.listRecordsPage tenantId kind cursor
      coordinator.batchSize).await progress = (system.target.listRecordsPage progress.target
        tenantId kind cursor coordinator.batchSize, progress) := rfl
  rw [enumerateTargetKind, execute_bind, asked]
  cases system.target.listRecordsPage progress.target tenantId kind cursor
      coordinator.batchSize with
  | error error => rfl
  | ok answer =>
    obtain ⟨page, next⟩ := answer
    dsimp only
    split
    · rfl
    · rw [execute_bind]
      cases ensureRecordCount (values ++ page).length "target enumeration" with
      | error error => rfl
      | ok _ =>
        change execute system.alone (if next = none then _ else _) progress = _
        split
        · rfl
        · split
          · rfl
          · rfl

/-- Enough rounds for what an enumeration ends with. -/
theorem exists_rounds {cursor : Option String} {count : Nat} {refused : Bool}
    (ends : Enumerates system progress.target coordinator.batchSize tenantId kind cursor count
      refused) (values : List (MigrationRecord Double)) (counted : values.length = count) :
    ∃ enough outcome, (∀ rounds, enough ≤ rounds → execute system.alone
        (coordinator.enumerateTargetKind tenantId kind rounds cursor values) progress =
          (outcome, progress)) ∧
      if refused then ∃ message, outcome = .error (.valueError message)
      else ∃ records, outcome = .ok records := by
  induction ends generalizing values with
  | @refused cursor count message raised =>
    refine ⟨1, .error (.valueError message), fun rounds enough => ?_, message, rfl⟩
    obtain ⟨rounds, rfl⟩ := Nat.exists_eq_add_of_le' enough
    rw [execute_enumerateTargetKind, raised]
  | @last cursor count page listed short within =>
    refine ⟨1, .ok (values ++ page), fun rounds enough => ?_, values ++ page, rfl⟩
    obtain ⟨rounds, rfl⟩ := Nat.exists_eq_add_of_le' enough
    rw [execute_enumerateTargetKind, listed]
    dsimp only
    rw [if_neg (Nat.not_lt.mpr short), ensureRecordCount_eq (by
      rw [List.length_append, counted]
      exact within)]
    rfl
  | @next cursor count refused page following listed short within nonempty moves rest induction =>
    have longer : (values ++ page).length = count + page.length := by
      rw [List.length_append, counted]
    obtain ⟨enough, outcome, runs, ended⟩ := induction (values ++ page) longer
    refine ⟨enough + 1, outcome, fun rounds more => ?_, ended⟩
    obtain ⟨rounds, rfl⟩ := Nat.exists_eq_add_of_le' (Nat.le_of_add_left_le more)
    rw [execute_enumerateTargetKind, listed]
    dsimp only
    rw [if_neg (Nat.not_lt.mpr short), ensureRecordCount_eq (by rw [longer]; exact within)]
    dsimp only
    rw [if_neg (by simp), if_neg (not_or.mpr ⟨nonempty, moves⟩)]
    exact runs rounds (by omega)

/-- What the outcome of an enumeration says about the pages. -/
structure Tells (system : MigrationSystem Double Target) (target : Target) (batchSize : Nat)
    (tenantId : String) (kind : RecordKind) (cursor : Option String) (count : Nat)
    (outcome : Except MigrationError (List (MigrationRecord Double))) : Prop where
  listed : outcome.isOk → Enumerates system target batchSize tenantId kind cursor count false
  refused : ∀ error, outcome = .error error → isValueError error →
    Enumerates system target batchSize tenantId kind cursor count true

section Tells

variable {target : Target} {batchSize count : Nat} {cursor : Option String} {error : MigrationError}

theorem Tells.of_error (other : isValueError error = false) :
    Tells system target batchSize tenantId kind cursor count (.error error) where
  listed := by rintro ⟨⟩
  refused := by
    rintro _ ⟨⟩ refuses
    cases other.symm.trans refuses

theorem Tells.of_raised
    (raised : system.target.listRecordsPage target tenantId kind cursor batchSize = .error error) :
    Tells system target batchSize tenantId kind cursor count (.error error) where
  listed := by rintro ⟨⟩
  refused := by
    rintro _ ⟨⟩ refuses
    cases error with
    | valueError message => exact .refused raised
    | _ => cases refuses

end Tells

theorem tells_of_execute {rounds : Nat} {cursor : Option String}
    {values : List (MigrationRecord Double)} {after : Progress Target}
    {outcome : Except MigrationError (List (MigrationRecord Double))}
    (ran : execute system.alone (coordinator.enumerateTargetKind tenantId kind rounds cursor values)
      progress = (outcome, after)) :
    after = progress ∧ Tells system progress.target coordinator.batchSize tenantId kind cursor
      values.length outcome := by
  induction rounds generalizing cursor values with
  | zero =>
    cases ran
    exact ⟨rfl, .of_error rfl⟩
  | succ rounds induction =>
    rw [execute_enumerateTargetKind] at ran
    cases answered : system.target.listRecordsPage progress.target tenantId kind cursor
        coordinator.batchSize with
    | error error =>
      rw [answered] at ran
      cases ran
      exact ⟨rfl, .of_raised answered⟩
    | ok answer =>
      obtain ⟨page, next⟩ := answer
      rw [answered] at ran
      dsimp only [ensureRecordCount] at ran
      by_cases long : coordinator.batchSize < page.length
      · rw [if_pos long] at ran
        cases ran
        exact ⟨rfl, .of_error rfl⟩
      rw [if_neg long] at ran
      by_cases many : maxMigrationExpectedRecords < (values ++ page).length
      · rw [if_pos many] at ran
        cases ran
        exact ⟨rfl, .of_error rfl⟩
      rw [if_neg many] at ran
      have short := Nat.not_lt.mp long
      have within : values.length + page.length ≤ maxMigrationExpectedRecords := by
        rw [← List.length_append]
        exact Nat.not_lt.mp many
      cases next with
      | none =>
        cases ran
        refine ⟨rfl, fun _ => .last answered short within, ?_⟩
        rintro error ⟨⟩
      | some following =>
        dsimp only at ran
        rw [if_neg (by simp)] at ran
        by_cases stuck : page = [] ∨ some following = cursor
        · rw [if_pos stuck] at ran
          cases ran
          exact ⟨rfl, .of_error rfl⟩
        rw [if_neg stuck] at ran
        obtain ⟨nonempty, moves⟩ := not_or.mp stuck
        obtain ⟨same, listed, refused⟩ := induction ran
        rw [List.length_append] at listed refused
        refine ⟨same, fun ok => .next answered short within nonempty moves (listed ok), ?_⟩
        intro error raised refuses
        exact .next answered short within nonempty moves (refused error raised refuses)

theorem execute_targetSnapshot (python : Python Double) (rounds : Nat) (rest : List RecordKind)
    (earlier : List (MigrationRecord Double)) :
    execute system.alone (coordinator.targetSnapshot python tenantId rounds (kind :: rest) earlier)
        progress =
      match execute system.alone (coordinator.enumerateTargetKind tenantId kind rounds none [])
          progress with
      | (.ok values, after) => execute system.alone (coordinator.targetSnapshot python tenantId
          rounds rest (earlier ++ values.insertionSort fun first second =>
            first.resourceId ≤ second.resourceId)) after
      | (.error error, after) =>
          if isValueError error then (.ok none, after) else (.error error, after) := by
  have wrapped : execute system.alone (some <$> coordinator.enumerateTargetKind tenantId kind rounds
      none []) progress = execute system.alone (coordinator.enumerateTargetKind tenantId kind rounds
        none [] >>= fun values => pure (some values)) progress := rfl
  rw [targetSnapshot, execute_bind, execute_tryCatch, wrapped, execute_bind]
  generalize execute system.alone (coordinator.enumerateTargetKind tenantId kind rounds none [])
    progress = enumerated
  obtain ⟨outcome, after⟩ := enumerated
  cases outcome with
  | ok values => rfl
  | error error =>
    dsimp only
    cases isValueError error with
    | true => rfl
    | false => rfl

variable {kinds : List RecordKind}

theorem exists_targetSnapshot (python : Python Double)
    (lists : Enumerable system progress.target coordinator.batchSize tenantId kinds) :
    ∃ enough, ∀ rounds, enough ≤ rounds → ∀ earlier, ∃ found, execute system.alone
      (coordinator.targetSnapshot python tenantId rounds kinds earlier) progress =
        (.ok found, progress) := by
  induction kinds with
  | nil => exact ⟨0, fun _ _ _ => ⟨_, rfl⟩⟩
  | cons kind rest induction =>
    rcases lists with refused | ⟨listed, others⟩
    · obtain ⟨enough, outcome, runs, message, rfl⟩ := exists_rounds coordinator refused [] rfl
      refine ⟨enough, fun rounds more earlier => ⟨none, ?_⟩⟩
      rw [execute_targetSnapshot, runs rounds more]
      rfl
    · obtain ⟨enough, outcome, runs, records, rfl⟩ := exists_rounds coordinator listed [] rfl
      obtain ⟨later, ends⟩ := induction others
      refine ⟨max enough later, fun rounds more earlier => ?_⟩
      rw [execute_targetSnapshot, runs rounds (le_of_max_le_left more)]
      exact ends rounds (le_of_max_le_right more) _

theorem enumerable_of_targetSnapshot {python : Python Double} {rounds : Nat}
    {earlier : List (MigrationRecord Double)} {found : Option (Nat × Digest)}
    {after : Progress Target}
    (ran : execute system.alone (coordinator.targetSnapshot python tenantId rounds kinds earlier)
      progress = (.ok found, after)) :
    Enumerable system progress.target coordinator.batchSize tenantId kinds := by
  induction kinds generalizing earlier with
  | nil => trivial
  | cons kind rest induction =>
    rw [execute_targetSnapshot] at ran
    generalize enumerated : execute system.alone (coordinator.enumerateTargetKind tenantId kind
      rounds none []) progress = ended at ran
    obtain ⟨outcome, middle⟩ := ended
    obtain ⟨rfl, lists, refuses⟩ := tells_of_execute coordinator enumerated
    cases outcome with
    | ok values => exact .inr ⟨lists rfl, induction ran⟩
    | error error =>
      dsimp only at ran
      split at ran
      case isTrue refused => exact .inl (refuses error rfl refused)
      case isFalse => cases ran

end Enumeration

end Parts

end TrpcService.Migration
