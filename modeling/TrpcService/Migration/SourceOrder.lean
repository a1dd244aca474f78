import TrpcService.Migration.Source

namespace TrpcService.Migration

open Data

variable {Double : Type}

/-! The order of the source does not depend on how Redis is scanned, and its
cursors stand for positions in it. -/

namespace RedisMigrationSource

variable {source : RedisMigrationSource} {tenantId : String}

instance : Std.Total (source.Before tenantId) where
  total first second :=
    le_total (source.sortKey tenantId first) (source.sortKey tenantId second)

instance : IsTrans SourceKey (source.Before tenantId) where
  trans _ _ _ := le_trans

variable {scan : String → List String}

theorem mem_discovered {item : SourceKey} :
    item ∈ source.discovered tenantId scan ↔ item.kind ∈ source.kinds ∧
        (∃ pattern ∈ source.patterns tenantId item.kind, item.key ∈ scan pattern) ∧
        source.resourceOf tenantId item.kind item.key = some item.resourceId := by
  simp only [discovered, List.mem_flatMap, List.mem_filterMap, Option.map_eq_some_iff]
  constructor
  · rintro ⟨kind, member, pattern, among, key, scanned, resource, found, rfl⟩
    exact ⟨member, ⟨pattern, among, scanned⟩, found⟩
  · rintro ⟨member, ⟨pattern, among, scanned⟩, found⟩
    exact ⟨item.kind, member, pattern, among, item.key, scanned, item.resourceId, found, rfl⟩

theorem mem_discovered_congr {redis : Redis} {other : String → List String}
    (scans : redis.Scans scan) (scansOther : redis.Scans other) (item : SourceKey) :
    item ∈ source.discovered tenantId scan ↔ item ∈ source.discovered tenantId other := by
  have same : ∀ pattern, item.key ∈ scan pattern ↔ item.key ∈ other pattern := fun pattern =>
      (scans pattern item.key).trans (scansOther pattern item.key).symm
  simp only [mem_discovered, same]

theorem rank_inj {first second : RecordKind} (member : first ∈ source.kinds)
    (same : source.rank first = source.rank second) : first = second :=
  (List.idxOf_inj member).mp same

theorem eq_of_sortKey {first second : SourceKey} (member : first.kind ∈ source.kinds)
    (same : source.sortKey tenantId first = source.sortKey tenantId second) : first = second := by
  have parts := congrArg ofLex same
  have kinds : first.kind = second.kind :=
    rank_inj member (congrArg Prod.fst parts)
  have rest := congrArg ofLex (congrArg Prod.snd parts)
  have resources : first.resourceId = second.resourceId :=
    congrArg Prod.fst rest
  have names : first.key = second.key :=
    congrArg (fun pair => (ofLex pair.2).2) rest
  obtain ⟨_, _, _⟩ := first
  cases kinds
  cases resources
  cases names
  rfl

variable {found : List SourceKey}

theorem arrange_congr {other : List SourceKey} (known : ∀ item ∈ found, item.kind ∈ source.kinds)
    (same : ∀ item, item ∈ found ↔ item ∈ other) :
    source.arrange tenantId found = source.arrange tenantId other := by
  have permuted : found.dedup.Perm other.dedup :=
    (List.perm_ext_iff_of_nodup found.nodup_dedup other.nodup_dedup).mpr
      fun item => by simpa only [List.mem_dedup] using same item
  have sorted : found.dedup.insertionSort (source.Before tenantId) =
      other.dedup.insertionSort (source.Before tenantId) := by
    refine List.Perm.eq_of_pairwise ?_
      (List.pairwise_insertionSort _ _) (List.pairwise_insertionSort _ _)
      (((List.perm_insertionSort _ _).trans permuted).trans (List.perm_insertionSort _ _).symm)
    intro first second among _ le ge
    have member : first ∈ found :=
      List.mem_dedup.mp ((List.perm_insertionSort _ _).mem_iff.mp among)
    exact eq_of_sortKey (known first member) (le_antisymm le ge)
  rw [arrange, arrange, sorted]

theorem tenantKeys_eq_ok {redis : Redis} (scans : redis.Scans scan)
    (answered : source.tenantKeys tenantId scan = .ok found) :
    found = source.keys redis tenantId ∧ (source.discovered tenantId scan).length ≤
        maxMigrationExpectedRecords := by
  unfold tenantKeys at answered
  simp only at answered
  split at answered
  case isTrue => exact nomatch answered
  case isFalse within =>
    cases answered
    refine ⟨?_, Nat.le_of_not_lt within⟩
    refine arrange_congr (fun item member => (mem_discovered.mp member).1) ?_
    exact mem_discovered_congr scans redis.scans_scan

theorem firstOfEach_sublist (seen : List (RecordKind × String))
    (items : List SourceKey) : (firstOfEach seen items).Sublist items := by
  induction items generalizing seen with
  | nil => exact .slnil
  | cons item rest induction =>
    rw [firstOfEach]
    split
    · exact (induction seen).cons item
    · exact (induction _).cons_cons item

theorem mem_arrange {item : SourceKey} (member : item ∈ source.arrange tenantId found) :
    item ∈ found :=
  List.mem_dedup.mp ((List.perm_insertionSort _ _).mem_iff.mp
    ((firstOfEach_sublist _ _).subset member))

end RedisMigrationSource

def tablePython (texts : List (String × JsonValue Unit))
    (shown : JsonValue Unit → String) : Python Unit where
  loads text := texts.lookup text
  dumps := shown
  dumpsSorted := shown
  repr := shown
  intOfStr _ := none
  intOfFloat _ := .error .overflowError
  floatOfStr _ := none
  floatOfInt _ := .ok ()
  zero := ()
  isZero _ := true
  isDecimal _ := false
  sha256 bytes := bytes

section Reading

variable {python : Python Double} {redis : Redis} {tenantId : String}

theorem fetch_eq_ok {keys : List SourceKey} {cursor : Option String} {limit : Nat}
    {records : List (MigrationRecord Double)} {next : Option String}
    (fetched : fetch python redis tenantId keys cursor limit = .ok (records, next)) :
    ∃ page, selectPage python keys cursor limit = .ok (page, next) ∧
      readRecords python redis tenantId page = .ok records := by
  unfold fetch at fetched
  split at fetched
  · exact nomatch fetched
  · obtain ⟨⟨page, after⟩, selected, fetched⟩ := bind_eq_ok fetched
    obtain ⟨records, read, same⟩ := bind_eq_ok fetched
    cases same
    exact ⟨page, selected, read⟩

end Reading

end TrpcService.Migration
