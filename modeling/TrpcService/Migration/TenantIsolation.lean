import TrpcService.Migration.System

namespace TrpcService.Migration

open Data RedisMigrationSource Glob

variable {Double Target : Type}

/-! Which keys of one tenant a migration of another tenant can find. -/

/-- The keys written for a tenant, in the formats that the source reads. -/
inductive WrittenFor (tenantId : String) : String → Prop
  | legacy (sessionId : String) :
      WrittenFor tenantId (projectionPrefix ++ tenantId ++ ":" ++ sessionId)
  | encoded (sessionId : String) : WrittenFor tenantId (projectionKey tenantId sessionId)
  | memory (memoryId : String) : WrittenFor tenantId (memoryPrefix ++ tenantId ++ ":" ++ memoryId)

def Accepted (tenantId : String) : Prop := 8 ≤ tenantId.toList.length ∧ tenantId.toList.length ≤ 128

instance (tenantId : String) : Decidable (Accepted tenantId) := inferInstanceAs (Decidable (_ ∧ _))

/-- Neither id starts the other one, each with its colon, and no legacy session
key of the other tenant can be decoded as a key of this one. -/
structure Separate (tenantId other : String) : Prop where
  shorter : ¬ tenantId.toList ++ [':'] <+: other.toList ++ [':']
  longer : ¬ other.toList ++ [':'] <+: tenantId.toList ++ [':']
  undecoded : "v2:".toList <+: other.toList → ∀ sessionId resourceId,
    decodeProjectionV2Key (projectionPrefix ++ other ++ ":" ++ sessionId)
      tenantId = some resourceId → resourceId = ""

/-- Whatever is fetched for a tenant is read from keys that were not written for
the other one. -/
def Isolated (tenantId other : String) : Prop :=
  ∀ {Double Target : Type} (system : MigrationSystem Double Target),
    system.source.sessionPrefix = projectionPrefix →
    system.source.memoryPrefix = memoryPrefix →
    ∀ scan, system.redis.Scans scan → ∀ cursor limit records next,
      MigrationWorld.fetch system scan tenantId cursor limit = .ok (records, next) →
        ∃ keys, system.read tenantId keys = .ok records ∧
          ∀ item ∈ keys, item.key ∈ system.redis.keys ∧ ¬ WrittenFor other item.key

section Keys

variable {source : RedisMigrationSource} {tenantId other key resourceId : String}

theorem toList_colon (tenantId rest : String) : (tenantId ++ (":" ++ rest)).toList =
    tenantId.toList ++ [':'] ++ rest.toList := by
  have colon : ":".toList = [':'] := by decide
  rw [String.toList_append, String.toList_append, colon, List.append_assoc]

theorem projection_ne_memory (first second : String) :
    projectionPrefix ++ first ≠ memoryPrefix ++ second := by
  intro same
  have sixth := congrArg (fun text => text.toList[5]?) same
  simp only [String.toList_append] at sixth
  rw [List.getElem?_append_left (by decide +kernel),
    List.getElem?_append_left (by decide +kernel)] at sixth
  exact absurd sixth (by decide +kernel)

theorem projectionV2Prefix_eq : projectionV2Prefix = projectionPrefix ++ "v2:" := by
  decide +kernel

theorem startsWith_after_iff {start : String} :
    startsWith key start = true ∧ after start key = resourceId ↔ key = start ++ resourceId := by
  unfold startsWith after
  rw [List.isPrefixOf_iff_prefix]
  constructor
  · rintro ⟨⟨rest, whole⟩, rfl⟩
    apply String.toList_inj.mp
    rw [String.toList_append, String.toList_ofList, ← whole, List.drop_left]
  · rintro rfl
    rw [String.toList_append, List.drop_left]
    exact ⟨List.prefix_append _ _, String.ofList_toList⟩

theorem resourceOf_eq_some_iff {kind : RecordKind} :
    source.resourceOf tenantId kind key = some resourceId ↔ resourceId ≠ "" ∧
      (decodeProjectionV2Key key tenantId = some resourceId ∨
        decodeProjectionV2Key key tenantId = none ∧
          key = source.prefixOf kind ++ (tenantId ++ (":" ++ resourceId))) := by
  have whole : key = source.prefixOf kind ++ (tenantId ++ (":" ++ resourceId)) ↔
      startsWith key (source.prefixOf kind ++ tenantId ++ ":") = true ∧
        after (source.prefixOf kind ++ tenantId ++ ":") key = resourceId := by
    rw [startsWith_after_iff]
    simp only [String.append_assoc]
  unfold resourceOf
  rw [whole, Option.filter_eq_some_iff, decide_eq_true_eq, and_comm]
  refine and_congr_right fun _ => ?_
  cases decodeProjectionV2Key key tenantId with
  | some decoded => simp
  | none => simp

theorem decodeProjectionV2Key_eq_some
    (decoded : decodeProjectionV2Key key tenantId = some resourceId) :
    ∃ rest tenantPart sessionPart, key = projectionPrefix ++ ("v2:" ++ rest) ∧
      partitionDot rest.toList = (tenantPart, '.' :: sessionPart) ∧
      decodePart tenantPart = some tenantId := by
  unfold decodeProjectionV2Key at decoded
  split at decoded
  case isFalse => cases decoded
  case isTrue starts =>
    have whole := startsWith_after_iff.mp ⟨starts, rfl⟩
    rw [projectionV2Prefix_eq, String.append_assoc] at whole
    split at decoded
    case h_2 => cases decoded
    case h_1 tenantPart sessionPart parted =>
      refine ⟨_, tenantPart, sessionPart, whole, parted, ?_⟩
      split at decoded
      · cases decoded
      · split at decoded
        case h_2 => cases decoded
        case h_1 decodedTenant _ tenant _ =>
          split at decoded
          case isFalse => cases decoded
          case isTrue same => rw [tenant, same]

/-- Texts that start with the two ids, each with its colon. -/
theorem Separate.ne (separate : Separate tenantId other) (first second : String) :
    tenantId ++ (":" ++ first) ≠ other ++ (":" ++ second) := by
  intro same
  have lists := congrArg String.toList same
  rw [toList_colon, toList_colon] at lists
  rcases List.prefix_or_prefix_of_prefix (List.prefix_append _ _)
    (lists ▸ List.prefix_append (other.toList ++ [':']) second.toList) with shorter | longer
  · exact separate.shorter shorter
  · exact separate.longer longer

/-- An id has more than two characters, and what is encoded has no colon. -/
theorem ne_encoded (accepted : Accepted tenantId) (first other sessionId : String) :
    tenantId ++ (":" ++ first) ≠ "v2:" ++ (encodePart other ++ ("." ++ encodePart sessionId)) := by
  intro same
  have second : "v2:".toList = ['v', '2', ':'] := by decide
  have dot : ".".toList = ['.'] := by decide
  have lists := congrArg String.toList same
  rw [toList_colon, String.toList_append, second, String.toList_append, String.toList_append,
    dot] at lists
  have behind := congrArg (List.drop 3) lists
  have long : 3 ≤ tenantId.toList.length := Nat.le_trans (by decide) accepted.1
  rw [List.drop_append_of_le_length (by simp; omega), List.drop_append_of_le_length long] at behind
  have colon : ':' ∈ tenantId.toList.drop 3 ++ [':'] ++ first.toList := by simp
  rw [behind] at colon
  simp only [List.drop_succ_cons, List.drop_zero, List.cons_append, List.nil_append,
    List.mem_append, List.mem_cons] at colon
  rcases colon with tenant | dotted | session
  · exact colon_not_mem_encodePart other tenant
  · cases dotted
  · exact colon_not_mem_encodePart sessionId session

theorem decoded_ne (separate : Separate tenantId other) (different : tenantId ≠ other)
    (otherAccepted : Accepted other) (written : WrittenFor other key)
    (decoded : decodeProjectionV2Key key tenantId = some resourceId) : resourceId = "" := by
  obtain ⟨rest, tenantPart, sessionPart, whole, parted, tenant⟩ :=
    decodeProjectionV2Key_eq_some decoded
  cases written with
  | legacy sessionId =>
    refine separate.undecoded ?_ sessionId resourceId decoded
    simp only [String.append_assoc, String.append_right_inj] at whole
    have lists := congrArg String.toList whole
    simp only [String.toList_append] at lists
    refine List.prefix_of_prefix_length_le (lists ▸ List.prefix_append "v2:".toList rest.toList)
      (List.prefix_append other.toList _) ?_
    exact Nat.le_trans (by decide) otherAccepted.1
  | encoded sessionId =>
    simp only [projectionKey, projectionV2Prefix_eq, String.append_assoc,
      String.append_right_inj] at whole
    have dot : ".".toList = ['.'] := by decide
    rw [← whole, String.toList_append, String.toList_append, dot, List.singleton_append,
      partitionDot_append (dot_not_mem_encodePart _)] at parted
    obtain ⟨rfl, _⟩ := Prod.mk.inj parted
    rw [decodePart_encodePart] at tenant
    exact absurd (Option.some.inj tenant).symm different
  | memory memoryId =>
    simp only [String.append_assoc] at whole
    exact absurd whole.symm (projection_ne_memory _ _)

theorem resourceOf_ne_some {kind : RecordKind} (sessions : source.sessionPrefix = projectionPrefix)
    (memories : source.memoryPrefix = memoryPrefix) (separate : Separate tenantId other)
    (different : tenantId ≠ other) (accepted : Accepted tenantId) (otherAccepted : Accepted other)
    (written : WrittenFor other key) : source.resourceOf tenantId kind key ≠ some resourceId := by
  intro found
  obtain ⟨nonempty, decoded | ⟨_, whole⟩⟩ := resourceOf_eq_some_iff.mp found
  · exact nonempty (decoded_ne separate different otherAccepted written decoded)
  · have starts : source.prefixOf kind = projectionPrefix ∨
        source.prefixOf kind = memoryPrefix := by
      cases kind with
      | session => exact .inl sessions
      | memory | summary | artifact | knowledge => exact .inr memories
    cases written with
    | legacy sessionId =>
      simp only [String.append_assoc] at whole
      rcases starts with start | start
      · rw [start, String.append_right_inj] at whole
        exact separate.ne _ _ whole.symm
      · rw [start] at whole
        exact projection_ne_memory _ _ whole
    | encoded sessionId =>
      simp only [projectionKey, projectionV2Prefix_eq, String.append_assoc] at whole
      rcases starts with start | start
      · rw [start, String.append_right_inj] at whole
        exact ne_encoded accepted _ _ _ whole.symm
      · rw [start] at whole
        exact projection_ne_memory _ _ whole
    | memory memoryId =>
      simp only [String.append_assoc] at whole
      rcases starts with start | start
      · rw [start] at whole
        exact projection_ne_memory _ _ whole.symm
      · rw [start, String.append_right_inj] at whole
        exact separate.ne _ _ whole.symm

end Keys

theorem selectPage_subset {python : Python Double} {keys page : List SourceKey}
    {cursor next : Option String} {limit : Nat}
    (selected : selectPage python keys cursor limit = .ok (page, next)) : page ⊆ keys := by
  obtain ⟨start, _, same⟩ := bind_eq_ok selected
  cases same
  exact fun _ member => List.drop_subset _ _ (List.take_subset _ _ member)

section OneKey

/-- A Redis with one key, whose value is a session and a memory. -/
def oneKey (key : String) : MigrationSystem Unit Unit :=
  { twoMemories with
    python := tablePython
      [("{}", .dict [("app_id", .str "a"), ("user_id", .str "u")])] fun _ => ""
    redis := Dict.empty.set key (.string "{}") }

variable {key tenantId other : String}

theorem mapM_ok {α β Error : Type} (attempt : α → Except Error β) (good : β → Prop)
    {items : List α} (fine : ∀ item ∈ items, ∃ value, attempt item = .ok value ∧ good value) :
    ∃ values, items.mapM attempt = .ok values ∧ values.length = items.length ∧
      ∀ value ∈ values, good value := by
  induction items with
  | nil => exact ⟨[], rfl, rfl, by simp⟩
  | cons item rest induction =>
    obtain ⟨value, done, right⟩ := fine item List.mem_cons_self
    obtain ⟨values, others, length, all⟩ :=
      induction fun other member => fine other (List.mem_cons_of_mem _ member)
    refine ⟨value :: values, ?_, congrArg (· + 1) length, ?_⟩
    · rw [List.mapM_cons, done, others]
      rfl
    · intro other member
      rcases List.mem_cons.mp member with rfl | member
      · exact right
      · exact all other member

theorem mem_keys_oneKey {name : String} : name ∈ (oneKey key).redis.keys ↔ name = key :=
  List.mem_singleton

variable (tenantId) in
theorem readRecords_oneKey {keys : List SourceKey} (same : ∀ item ∈ keys, item.key = key) :
    ∃ records, (oneKey key).read tenantId keys = .ok records ∧ records.length = keys.length := by
  let system := oneKey key
  have present : system.redis.get? key = some (.string "{}") := Dict.get?_set_self ..
  have values : ∀ item ∈ keys, ∃ value, readValue system.python system.redis item.key = .ok value ∧
      value = .dict [("app_id", .str "a"), ("user_id", .str "u")] := by
    intro item member
    refine ⟨_, ?_, rfl⟩
    rw [same item member, readValue, present]
    rfl
  obtain ⟨values, read, length, all⟩ := mapM_ok _ _ values
  have records : ∀ pair ∈ keys.zip values, ∃ record,
      canonicalRecord system.python tenantId pair = .ok record ∧ True := by
    rintro ⟨⟨kind, resourceId, name⟩, value⟩ member
    cases all value (List.of_mem_zip member).2
    cases kind with
    | _ => exact ⟨_, rfl, trivial⟩
  obtain ⟨records, parsed, many, _⟩ := mapM_ok _ _ records
  refine ⟨records, ?_, by rw [many, List.length_zip, length, Nat.min_self]⟩
  rw [MigrationSystem.read, readRecords, read]
  exact parsed

variable (key tenantId) in
theorem length_discovered_oneKey :
    ((oneKey key).source.discovered tenantId (oneKey key).redis.scan).length ≤ 3 := by
  have once : ∀ pattern (found : String → Option SourceKey),
      (((oneKey key).redis.scan pattern).filterMap found).length ≤ 1 := by
    intro pattern found
    exact (List.length_filterMap_le _ _).trans (List.length_filter_le _ _)
  have all : (oneKey key).source.kinds = [.session, .memory] := rfl
  have sessions : (oneKey key).source.prefixOf .session = projectionPrefix := rfl
  simp only [discovered, patterns, all, sessions,
    List.flatMap_cons, List.flatMap_nil, List.append_nil, List.length_append, and_self, if_true,
    reduceCtorEq, false_and, if_false]
  exact Nat.add_le_add (Nat.add_le_add (once ..) (once ..)) (once ..)

theorem arrange_ne_nil {source : RedisMigrationSource} {found : List SourceKey}
    (nonempty : found ≠ []) : source.arrange tenantId found ≠ [] := by
  unfold arrange
  cases sorted : found.dedup.insertionSort (source.Before tenantId) with
  | nil =>
    have none := congrArg List.length sorted
    rw [List.length_insertionSort, List.length_nil, List.length_eq_zero_iff] at none
    cases found with
    | nil => exact absurd rfl nonempty
    | cons item rest =>
      have member : item ∈ (item :: rest).dedup := List.mem_dedup.mpr List.mem_cons_self
      rw [none] at member
      cases member
  | cons item rest => simp [firstOfEach]

theorem fetch_all {system : MigrationSystem Double Target} {scan : String → List String}
    {records : List (MigrationRecord Double)}
    (within : (system.source.discovered tenantId scan).length ≤ maxMigrationExpectedRecords)
    (nonempty : system.source.arrange tenantId (system.source.discovered tenantId scan) ≠ [])
    (read : system.read tenantId (system.source.arrange tenantId
      (system.source.discovered tenantId scan)) = .ok records) :
    ∃ limit, MigrationWorld.fetch system scan tenantId none limit = .ok (records, none) := by
  have listed : system.source.tenantKeys tenantId scan =
      .ok (system.source.arrange tenantId (system.source.discovered tenantId scan)) := by
    rw [tenantKeys]
    exact if_neg (Nat.not_lt.mpr within)
  revert nonempty read listed
  generalize system.source.arrange tenantId (system.source.discovered tenantId scan) = keys
  intro nonempty read listed
  refine ⟨keys.length, ?_⟩
  have selected : selectPage system.python keys none keys.length = .ok (keys, none) := by
    simp [selectPage, cursorPosition]
  have positive : ¬ keys.length < 1 := Nat.not_lt.mpr (List.length_pos_iff.mpr nonempty)
  rw [MigrationSystem.read] at read
  rw [MigrationWorld.fetch, listed]
  change Migration.fetch system.python system.redis tenantId keys none keys.length = _
  rw [Migration.fetch, if_neg positive, selected]
  change (readRecords system.python system.redis tenantId keys >>= fun records =>
    pure (records, none)) = _
  rw [read]
  rfl

variable {resourceId : String}

/-- A key that a scan finds and takes for a tenant's is fetched, if it is the
only one. -/
theorem not_isolated (kind : RecordKind) (pattern : String)
    (migrated : kind ∈ canonicalRedisMigrationKinds)
    (scanned : pattern ∈ (oneKey key).source.patterns tenantId kind)
    (matched : isMatch pattern.toList key.toList = true)
    (found : (oneKey key).source.resourceOf tenantId kind key = some resourceId)
    (written : WrittenFor other key) : ¬ Isolated tenantId other := by
  intro isolated
  let system := oneKey key
  let discovered := system.source.discovered tenantId system.redis.scan
  have member : ⟨kind, resourceId, key⟩ ∈ discovered := by
    refine mem_discovered.mpr ⟨migrated, ⟨pattern, scanned, ?_⟩, found⟩
    exact (Redis.scans_scan _ _ _).mpr ⟨mem_keys_oneKey.mpr rfl, matched⟩
  let keys := system.source.arrange tenantId discovered
  have nonempty : keys ≠ [] := arrange_ne_nil (List.ne_nil_of_mem member)
  have same : ∀ item ∈ keys, item.key = key := by
    intro item among
    obtain ⟨_, ⟨_, _, present⟩, _⟩ := mem_discovered.mp (mem_arrange among)
    exact mem_keys_oneKey.mp (List.mem_of_mem_filter present)
  obtain ⟨records, read, many⟩ := readRecords_oneKey tenantId same
  obtain ⟨limit, fetched⟩ := fetch_all
    ((length_discovered_oneKey key tenantId).trans (by decide)) nonempty read
  obtain ⟨others, again, apart⟩ := isolated system rfl rfl _ (Redis.scans_scan _) _ _ _ _ fetched
  cases others with
  | nil =>
    cases again
    exact nonempty (List.length_eq_zero_iff.mp many.symm)
  | cons item rest =>
    obtain ⟨present, unwritten⟩ := apart item List.mem_cons_self
    rw [mem_keys_oneKey.mp present] at unwritten
    exact unwritten written

theorem not_isolated_of_memory (memoryId : String) (nonempty : resourceId ≠ "")
    (same : other ++ (":" ++ memoryId) = tenantId ++ (":" ++ resourceId)) :
    ¬ Isolated tenantId other := by
  have undecoded : decodeProjectionV2Key (memoryPrefix ++ (tenantId ++ (":" ++ resourceId)))
      tenantId = none := by
    by_contra decoded
    obtain ⟨_, decoded⟩ := Option.ne_none_iff_exists'.mp decoded
    obtain ⟨_, _, _, whole, _⟩ := decodeProjectionV2Key_eq_some decoded
    exact projection_ne_memory _ _ whole.symm
  have written : WrittenFor other (memoryPrefix ++ (tenantId ++ (":" ++ resourceId))) := by
    rw [← same, ← String.append_assoc, ← String.append_assoc]
    exact .memory memoryId
  refine not_isolated .memory _ (by decide) List.mem_cons_self ?_
    (resourceOf_eq_some_iff.mpr ⟨nonempty, .inr ⟨undecoded, rfl⟩⟩) written
  have start : escape memoryPrefix.toList = memoryPrefix.toList := by decide +kernel
  have colon : escape [':'] = [':'] := by decide
  have star : ":*".toList = [':', '*'] := by decide
  have matched := isMatch_escape_many (memoryPrefix.toList ++ (tenantId.toList ++ [':']))
    resourceId.toList
  rw [escape_append, escape_append, start, colon] at matched
  have text : (memoryPrefix ++ (tenantId ++ (":" ++ resourceId))).toList =
      memoryPrefix.toList ++ (tenantId.toList ++ [':']) ++ resourceId.toList := by
    rw [String.toList_append, toList_colon, List.append_assoc memoryPrefix.toList]
  have pattern : (memoryPrefix ++ redisPatternLiteral tenantId ++
      ":*").toList = memoryPrefix.toList ++ (escape tenantId.toList ++ [':']) ++ ['*'] := by
    rw [String.toList_append, String.toList_append, redisPatternLiteral,
      String.toList_ofList, star, List.append_assoc, List.append_assoc, List.append_assoc]
    rfl
  rw [text]
  exact pattern ▸ matched

theorem not_isolated_of_decoded {sessionId : String} (nonempty : resourceId ≠ "")
    (decoded : decodeProjectionV2Key (projectionPrefix ++ other ++ ":" ++ sessionId) tenantId =
      some resourceId) : ¬ Isolated tenantId other := by
  obtain ⟨rest, _, _, whole, _⟩ := decodeProjectionV2Key_eq_some decoded
  refine not_isolated .session (projectionV2Prefix ++ "*") (by decide) ?_ ?_
    (resourceOf_eq_some_iff.mpr ⟨nonempty, .inl decoded⟩) (.legacy sessionId)
  · rw [patterns, if_pos ⟨rfl, rfl⟩]
    exact List.mem_cons_of_mem _ List.mem_cons_self
  · have start : escape projectionV2Prefix.toList = projectionV2Prefix.toList := by
      decide +kernel
    have star : "*".toList = ['*'] := by decide
    have matched := isMatch_escape_many projectionV2Prefix.toList rest.toList
    rw [start] at matched
    rw [whole, ← String.append_assoc, ← projectionV2Prefix_eq, String.toList_append,
      String.toList_append, star]
    exact matched

end OneKey

/-- One tenant's records never come from the other one's keys exactly if the ids
are separate. -/
theorem tenants_isolated_iff {tenantId other : String} (different : tenantId ≠ other)
    (accepted : Accepted tenantId) (otherAccepted : Accepted other) :
    Isolated tenantId other ↔ Separate tenantId other := by
  constructor
  · intro isolated
    refine ⟨?_, ?_, fun _ sessionId resourceId decoded => ?_⟩
    · rintro ⟨rest, whole⟩
      have nonempty : String.ofList rest ++ "1" ≠ "" := by simp
      refine not_isolated_of_memory "1" nonempty ?_ isolated
      apply String.toList_inj.mp
      rw [toList_colon, toList_colon, ← whole, String.toList_append]
      simp
    · rintro ⟨rest, whole⟩
      have nonempty : "1" ≠ "" := by decide
      refine not_isolated_of_memory (String.ofList rest ++ "1") nonempty ?_ isolated
      apply String.toList_inj.mp
      rw [toList_colon, toList_colon, ← whole, String.toList_append]
      simp
    · by_contra nonempty
      exact not_isolated_of_decoded nonempty decoded isolated
  · intro separate Double Target system sessions memories scan scans cursor
      limit records next fetched
    obtain ⟨keys, found, fetched⟩ := bind_eq_ok fetched
    obtain ⟨selected, select, read⟩ := fetch_eq_ok fetched
    refine ⟨selected, read, fun item member => ?_⟩
    obtain ⟨rfl, _⟩ := tenantKeys_eq_ok scans found
    obtain ⟨_, ⟨pattern, _, scanned⟩, resource⟩ := mem_discovered.mp
        (mem_arrange (selectPage_subset select member))
    refine ⟨List.mem_of_mem_filter scanned, fun written => ?_⟩
    exact resourceOf_ne_some sessions memories separate different accepted
      otherAccepted written resource

def twoTenants (tenantId other : String) : MigrationSystem Unit Unit :=
  { twoMemories with
    redis := (Dict.empty.set (memoryPrefix ++ tenantId ++ ":" ++ "1")
      (.string "{}")).set (memoryPrefix ++ other ++ ":" ++ "1")
        (.string "{}") }

def sameMemory (resourceId : String) : MigrationRecord Unit where
  kind := .memory
  resourceId := resourceId
  payload := [("principal_id", .str "u"), ("session_id", .none),
      ("source_sequence", .none), ("memory", .dict [("user_id", .str "u")]),
      ("projection_status", .str "pending")]

/-- A colon alone does no harm. -/
theorem separate_tenants_isolated : Isolated "tenant-a" "tenant-b:x" ∧
      MigrationWorld.fetch (twoTenants "tenant-a" "tenant-b:x")
          (twoTenants "tenant-a" "tenant-b:x").redis.scan "tenant-a" none 10 =
        .ok ([sameMemory "1"], none) := by
  refine ⟨(tenants_isolated_iff (by decide) (by decide +kernel)
    (by decide +kernel)).mpr ⟨by decide +kernel, by decide +kernel, ?_⟩, rfl⟩
  intro encoded
  exact absurd encoded (by decide +kernel)

/-- A colon in a tenant id widens the scope of another tenant. -/
theorem colon_widens_scope : Accepted "tenant-a" ∧ Accepted "tenant-a:x" ∧
      WrittenFor "tenant-a:x" "trpc:memory:tenant-a:x:1" ∧
      readRecord (twoTenants "tenant-a" "tenant-a:x").python
          (twoTenants "tenant-a" "tenant-a:x").redis "tenant-a"
          ⟨.memory, "x:1", "trpc:memory:tenant-a:x:1"⟩ =
        .ok (sameMemory "x:1") ∧
      MigrationWorld.fetch (twoTenants "tenant-a" "tenant-a:x")
          (twoTenants "tenant-a" "tenant-a:x").redis.scan "tenant-a" none 10 =
        .ok ([sameMemory "1", sameMemory "x:1"], none) := by
  refine ⟨by decide +kernel, by decide +kernel, ?_, rfl, rfl⟩
  exact WrittenFor.memory "1"

end TrpcService.Migration
