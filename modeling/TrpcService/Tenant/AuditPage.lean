import Mathlib.Data.Prod.Lex
import TrpcService.Data.Calendar
import TrpcService.Data.JsonText
import TrpcService.Data.Keyset

namespace TrpcService.Tenant.AuditPage

open Data Calendar JsonText

/-! The audit log of a tenant, page by page, from the latest entry on. -/

abbrev Bytes := List UInt8

inductive CursorError where
  | valueError (message : String)
  | typeError
  | attributeError
  | recursionError
  | dataError
  deriving DecidableEq, Repr

/-- What is left to libraries: dates, numbers to base 16 and JSON texts in
other forms than those written here, and the UTC of a local time. -/
structure Library (Double : Type) where
  otherIso : List Char → Option Datetime
  int16 : List Char → Option Nat
  otherJson : Bytes → Except CursorError (JsonValue Double)
  localTime : ValidClock → Option ValidClock

/-- `occurred_at` is read as a time of UTC. -/
structure AuditRow (Record : Type) where
  auditId : Uuid
  occurredAt : ValidClock
  record : Record

/-- The rows by their primary key. -/
abbrev AuditLogs (Record : Type) := Dict (String × Uuid) (ValidClock × Record)

variable {Double Record : Type}

/-- The texts of times and ids are ASCII. -/
def encodeCursor (timestamp : ValidClock) (auditId : Uuid) : String :=
  String.ofList (Base64.encode (encodeUtf8 (String.ofList (array
    [String.ofList timestamp.isoformat, String.ofList auditId.str]))))

section Reading

variable (library : Library Double)

def loads (bytes : Bytes) : Except CursorError (JsonValue Double) :=
  match (decodeUtf8 bytes).bind fun text => readPair text.toList with
  | some (first, second) => .ok (.list [.str first, .str second])
  | none => library.otherJson bytes

/-- `timestamp, audit_id = value`; a dictionary gives its keys and a string its
characters. -/
def unpack : JsonValue Double → Except CursorError (JsonValue Double × JsonValue Double)
  | .list [first, second] => .ok (first, second)
  | .dict [(first, _), (second, _)] => .ok (.str first, .str second)
  | .str text =>
      match text.toList with
      | [first, second] => .ok (.str (String.singleton first), .str (String.singleton second))
      | _ => .error (.valueError "wrong number of values to unpack")
  | .list _ => .error (.valueError "wrong number of values to unpack")
  | .dict _ => .error (.valueError "wrong number of values to unpack")
  | _ => .error .typeError

def fromisoformat : JsonValue Double → Except CursorError Datetime
  | .str text =>
      match (readIso text.toList).or (library.otherIso text.toList) with
      | some timestamp => .ok timestamp
      | none => .error (.valueError "Invalid isoformat string")
  | _ => .error .typeError

def readId : JsonValue Double → Except CursorError Uuid
  | .str text =>
      match uuid library.int16 text.toList with
      | some auditId => .ok auditId
      | none => .error (.valueError "badly formed hexadecimal UUID string")
  | .none => .error .typeError
  -- What is no string has no `replace`.
  | _ => .error .attributeError

def decodeCursor (cursor : String) : Except CursorError (Datetime × Uuid) :=
  tryCatch (do
    match Base64.decode (Base64.padded cursor.toList) with
    | none => throw (.valueError "Incorrect padding")
    | some bytes =>
        let value ← loads library bytes
        let (timestamp, auditId) ← unpack value
        let timestamp ← fromisoformat library timestamp
        let auditId ← readId library auditId
        pure (timestamp, auditId))
    fun error =>
      match error with
      | .valueError _ => throw (.valueError "invalid audit cursor")
      | .typeError => throw (.valueError "invalid audit cursor")
      | _ => throw error

/-- The driver sends a time as one of UTC. -/
def sent (timestamp : Datetime) : Except CursorError ValidClock :=
  match timestamp.zone with
  | none => (library.localTime timestamp.clock).elim (.error .dataError) .ok
  | some zone => (timestamp.clock.astimezone zone).elim (.error .dataError) .ok

/-- The arguments of the query.  An empty cursor is none. -/
def boundary (cursor : Option String) : Except CursorError (Option (ValidClock × Uuid)) :=
  match cursor.filter (· ≠ "") with
  | none => .ok none
  | some text => do
      let (timestamp, auditId) ← decodeCursor library text
      let timestamp ← sent library timestamp
      .ok (some (timestamp, auditId))

end Reading

section Queries

/-- Rows are ordered by it from the greatest on. -/
abbrev RowKey := (Nat ×ₗ Uuid)ᵒᵈ

def rowKey (timestamp : ValidClock) (auditId : Uuid) : RowKey :=
  OrderDual.toDual (toLex (timestamp.1.micros, auditId))

/-- `tenant_id=$1 AND (occurred_at,audit_id) < ($2,$3)`, if there is a
boundary. -/
def behind (tenantId : String) (boundary : Option (ValidClock × Uuid)) :
    String × Uuid → ValidClock × Record → Option (RowKey × AuditRow Record)
  | (tenant, auditId), (occurredAt, record) =>
      if tenant = tenantId ∧ boundary.all fun boundary =>
          decide (toLex (occurredAt.1.micros, auditId) <
            toLex (boundary.1.1.micros, boundary.2)) then
        some (rowKey occurredAt auditId, ⟨auditId, occurredAt, record⟩)
      else none

def rowsBehind (table : AuditLogs Record) (tenantId : String)
    (boundary : Option (ValidClock × Uuid)) : List (AuditRow Record) :=
  (table.sortedRows (behind tenantId boundary)).map Prod.snd

variable (library : Library Double) (table : AuditLogs Record) (tenantId : String)

def pageSize (limit : Int) : Nat := (max 1 (min limit 200)).toNat

def auditPage (cursor : Option String) (limit : Int) :
    Except CursorError
      (List (AuditRow Record) × Option String) := do
  let limit := pageSize limit
  let boundary ← boundary library cursor
  let rows := (rowsBehind table tenantId boundary).take (limit + 1)
  let hasMore := rows.length > limit
  let page := rows.take limit
  let nextCursor :=
    if hasMore then
      page.getLast?.map fun row =>
        encodeCursor row.occurredAt row.auditId
    else none
  .ok (page, nextCursor)

/-- Follow the cursors for a number of pages: the rows, if the end is
reached. -/
def follow (limit : Int) : Nat → Option String →
    Except CursorError (Option (List (AuditRow Record)))
  | 0, _ => .ok none
  | pages + 1, cursor => do
      let (rows, next) ← auditPage library table tenantId cursor limit
      match next with
      | none => .ok (some rows)
      | some cursor =>
          let rest ← follow limit pages (some cursor)
          .ok (rest.map (rows ++ ·))

end Queries

section Cursors

variable (library : Library Double)

theorem loads_array {first second : List Char} (one : ∀ character ∈ first, isPlain character)
    (two : ∀ character ∈ second, isPlain character) :
    loads library (encodeUtf8 (String.ofList (array [String.ofList first, String.ofList second]))) =
        .ok (.list [.str (String.ofList first), .str (String.ofList second)]) := by
  simp only [loads, decodeUtf8_encodeUtf8, Option.bind_some, String.toList_ofList,
    readPair_array one two]

theorem isPlain_isoformat (timestamp : ValidClock) :
    ∀ character ∈ timestamp.isoformat, isPlain character := by
  have all : "0123456789-T:.+".toList.all isPlain = true := by decide +kernel
  exact fun character member => List.all_eq_true.mp all character (ValidClock.mem_isoformat member)

theorem isPlain_str (auditId : Uuid) : ∀ character ∈ auditId.str, isPlain character := by
  have all : "0123456789abcdef-".toList.all isPlain = true := by decide +kernel
  exact fun character member => List.all_eq_true.mp all character (Uuid.mem_str member)

theorem decodeCursor_encodeCursor (timestamp : ValidClock) (auditId : Uuid) :
    decodeCursor library (encodeCursor timestamp auditId) =
      .ok (⟨timestamp, some .utc⟩, auditId) := by
  have stamped : fromisoformat library (.str (String.ofList timestamp.isoformat)) =
      .ok ⟨timestamp, some .utc⟩ := by
    simp [fromisoformat, readIso_isoformat]
  have identified : readId library (.str (String.ofList auditId.str)) = .ok auditId := by
    simp [readId, uuid_str]
  rw [decodeCursor, encodeCursor, String.toList_ofList, Base64.decode_padded_encode]
  dsimp only
  rw [loads_array library (isPlain_isoformat timestamp) (isPlain_str auditId)]
  show tryCatch (do
    let timestamp ← fromisoformat library (.str (String.ofList timestamp.isoformat))
    let auditId ← readId library (.str (String.ofList auditId.str))
    pure (timestamp, auditId)) _ = _
  rw [stamped, identified]
  rfl

theorem encodeCursor_ne_empty (timestamp : ValidClock) (auditId : Uuid) :
    encodeCursor timestamp auditId ≠ "" := by
  intro empty
  have symbols := congrArg String.toList empty
  rw [encodeCursor, String.toList_ofList] at symbols
  have bytes := Base64.decode_padded_encode (encodeUtf8 (String.ofList (array
    [String.ofList timestamp.isoformat, String.ofList auditId.str])))
  rw [symbols] at bytes
  have none : encodeUtf8 "" = encodeUtf8 _ := Option.some.inj bytes
  have texts := congrArg decodeUtf8 none
  rw [decodeUtf8_encodeUtf8, decodeUtf8_encodeUtf8] at texts
  have characters := congrArg String.toList (Option.some.inj texts)
  simp [array] at characters

end Cursors

section Rows

variable {table : AuditLogs Record} {tenantId : String}

def RowOf (table : AuditLogs Record) (tenantId : String) (row : AuditRow Record) : Prop :=
  table.get? (tenantId, row.auditId) = some (row.occurredAt, row.record)

def AuditRow.key (row : AuditRow Record) : RowKey := rowKey row.occurredAt row.auditId

def Behind (boundary : Option (ValidClock × Uuid)) (row : AuditRow Record) : Prop :=
  ∀ limit ∈ boundary, rowKey limit.1 limit.2 < row.key

variable {boundary : Option (ValidClock × Uuid)} {item : RowKey × AuditRow Record}

theorem behind_eq_some {key : String × Uuid} {value : ValidClock × Record} :
    behind tenantId boundary key value = some item ↔ key = (tenantId, item.2.auditId) ∧
      value = (item.2.occurredAt, item.2.record) ∧
      item.1 = item.2.key ∧ Behind boundary item.2 := by
  obtain ⟨tenant, auditId⟩ := key
  obtain ⟨occurredAt, record⟩ := value
  obtain ⟨itemKey, row⟩ := item
  simp only [behind, Option.ite_none_right_eq_some, Option.some.injEq,
    Prod.mk.injEq, Option.all_eq_true_iff_get]
  constructor
  · rintro ⟨⟨rfl, before⟩, rfl, rfl⟩
    refine ⟨⟨rfl, rfl⟩, ⟨rfl, rfl⟩, rfl, ?_⟩
    rintro limit ⟨⟩
    exact of_decide_eq_true (before rfl)
  · rintro ⟨⟨rfl, rfl⟩, ⟨rfl, rfl⟩, rfl, before⟩
    refine ⟨⟨rfl, ?_⟩, rfl, rfl⟩
    intro present
    have bounded := before (boundary.get present) (Option.get_mem present)
    exact decide_eq_true bounded

theorem keyedBy_behind (boundary : Option (ValidClock × Uuid)) :
    KeyedBy (behind tenantId boundary : String × Uuid → ValidClock × Record → _) := by
  intro first second value other key row another selected reselected
  obtain ⟨rfl, _, same, _⟩ := behind_eq_some.mp selected
  obtain ⟨rfl, _, also, _⟩ := behind_eq_some.mp reselected
  have keys := same.symm.trans also
  have ids : row.auditId = another.auditId := congrArg Prod.snd keys
  rw [ids]

theorem mem_sortedBehind :
    (∃ key value, table.get? key = some value ∧ behind tenantId boundary key value = some item) ↔
      item.1 = item.2.key ∧ RowOf table tenantId item.2 ∧ Behind boundary item.2 := by
  constructor
  · rintro ⟨key, value, present, selected⟩
    obtain ⟨rfl, rfl, same, before⟩ := behind_eq_some.mp selected
    exact ⟨same, present, before⟩
  · rintro ⟨same, present, before⟩
    exact ⟨_, _, present, behind_eq_some.mpr ⟨rfl, rfl, same, before⟩⟩

theorem mem_rowsBehind {row : AuditRow Record} :
    row ∈ rowsBehind table tenantId boundary ↔ RowOf table tenantId row ∧ Behind boundary row := by
  simp only [rowsBehind, List.mem_map, mem_sortedRows, mem_sortedBehind]
  constructor
  · rintro ⟨item, ⟨_, present⟩, rfl⟩
    exact present
  · intro present
    exact ⟨(row.key, row), ⟨rfl, present⟩, rfl⟩

theorem pairwise_rowsBehind (table : AuditLogs Record)
    (tenantId : String) (boundary : Option (ValidClock × Uuid)) :
    (rowsBehind table tenantId boundary).Pairwise fun first second => first.key < second.key := by
  refine List.pairwise_map.mpr ((pairwise_sortedRows (keyedBy_behind boundary)).imp_of_mem ?_)
  intro first second selected reselected less
  rw [← (mem_sortedBehind.mp (mem_sortedRows.mp selected)).1,
    ← (mem_sortedBehind.mp (mem_sortedRows.mp reselected)).1]
  exact less

theorem rowsBehind_eq {rows : List (AuditRow Record)}
    (ordered : rows.Pairwise fun first second => first.key < second.key)
    (same : ∀ row, row ∈ rows ↔ RowOf table tenantId row ∧ Behind boundary row) :
    rowsBehind table tenantId boundary = rows := by
  have sorted : table.sortedRows (behind tenantId boundary) =
      rows.map fun row => (row.key, row) := by
    refine sortedRows_eq (keyedBy_behind boundary) (List.pairwise_map.mpr ordered) ?_
    intro item
    rw [mem_sortedBehind, ← same, List.mem_map]
    constructor
    · rintro ⟨row, member, rfl⟩
      exact ⟨rfl, member⟩
    · rintro ⟨key, member⟩
      exact ⟨item.2, member, Prod.ext key.symm rfl⟩
  rw [rowsBehind, sorted, List.map_map]
  exact List.map_id _

theorem rowsBehind_last {page rest : List (AuditRow Record)} {last : AuditRow Record}
    (split : rowsBehind table tenantId boundary = page ++ last :: rest) :
    rowsBehind table tenantId (some (last.occurredAt, last.auditId)) = rest := by
  have ordered := pairwise_rowsBehind table tenantId boundary
  rw [split, List.pairwise_append, List.pairwise_cons] at ordered
  obtain ⟨_, ⟨after, sorted⟩, before⟩ := ordered
  have members (row : AuditRow Record) : row ∈ page ++ last :: rest ↔
        RowOf table tenantId row ∧ Behind boundary row := by
    rw [← split]
    exact mem_rowsBehind
  refine rowsBehind_eq sorted fun row => ⟨fun member => ?_, ?_⟩
  · have found := (members row).mp (by simp [member])
    refine ⟨found.1, ?_⟩
    rintro _ ⟨⟩
    exact after row member
  · rintro ⟨present, behind⟩
    have beyond : last.key < row.key := behind (last.occurredAt, last.auditId) rfl
    have known : Behind boundary last := ((members last).mp (by simp)).2
    have found := (members row).mpr ⟨present, fun limit set => (known limit set).trans beyond⟩
    rcases List.mem_append.mp found with early | late
    · exact absurd beyond (before row early last (List.mem_cons_self ..)).asymm
    · rcases List.mem_cons.mp late with rfl | late
      · exact absurd beyond (lt_irrefl _)
      · exact late

end Rows

section Pages

variable (library : Library Double) {table : AuditLogs Record} {tenantId : String}

def Stands (cursor : Option String) (boundary : Option (ValidClock × Uuid)) : Prop :=
  cursor = boundary.map fun limit => encodeCursor limit.1 limit.2

variable {cursor : Option String}

theorem boundary_of_stands {limit : Option (ValidClock × Uuid)} (stands : Stands cursor limit) :
    boundary library cursor = .ok limit := by
  subst stands
  cases limit with
  | none => rfl
  | some limit =>
    have set := encodeCursor_ne_empty limit.1 limit.2
    simp only [boundary, Option.map_some, Option.filter_some, decide_eq_true set, ↓reduceIte,
      decodeCursor_encodeCursor]
    rfl

variable {boundary : Option (ValidClock × Uuid)} {limit : Int}

theorem pageSize_pos (limit : Int) : 0 < pageSize limit := by
  unfold pageSize
  omega

theorem auditPage_eq (stands : Stands cursor boundary) :
    auditPage library table tenantId cursor limit =
      .ok ((rowsBehind table tenantId boundary).take (pageSize limit),
        if pageSize limit < (rowsBehind table tenantId boundary).length then
          ((rowsBehind table tenantId boundary).take (pageSize limit)).getLast?.map fun row =>
              encodeCursor row.occurredAt row.auditId
        else none) := by
  unfold auditPage
  rw [boundary_of_stands library stands]
  show Except.ok (_, _) = _
  rw [List.take_take, List.length_take]
  simp only [Nat.le_succ, min_eq_left, gt_iff_lt, lt_min_iff, Nat.lt_succ_self, true_and]

theorem follow_eq {pages : Nat} (stands : Stands cursor boundary)
    (enough : (rowsBehind table tenantId boundary).length < pages) :
    follow library table tenantId limit pages cursor =
      .ok (some (rowsBehind table tenantId boundary)) := by
  induction pages generalizing cursor boundary with
  | zero => exact absurd enough (Nat.not_lt_zero _)
  | succ pages induction =>
    rw [follow, auditPage_eq library stands]
    have positive := pageSize_pos limit
    generalize found : rowsBehind table tenantId boundary = rows at *
    by_cases more : pageSize limit < rows.length
    case neg =>
      rw [if_neg more, List.take_of_length_le (not_lt.mp more)]
      rfl
    case pos =>
      rcases List.eq_nil_or_concat' (rows.take (pageSize limit)) with empty | ⟨page, last, taken⟩
      · have none := congrArg List.length empty
        rw [List.length_take_of_le more.le] at none
        exact absurd none positive.ne'
      · have split : rows = page ++ last :: rows.drop (pageSize limit) := by
          rw [← List.singleton_append, ← List.append_assoc, ← taken, List.take_append_drop]
        have behind := rowsBehind_last (found.trans split)
        have rest := induction (show Stands (some (encodeCursor last.occurredAt
            last.auditId)) (some (last.occurredAt, last.auditId)) from rfl)
          (by
            rw [behind, List.length_drop]
            omega)
        rw [if_pos more, taken, List.getLast?_concat]
        show (follow library table tenantId limit pages _ >>= _) = _
        rw [rest, behind]
        show Except.ok (some (page ++ [last] ++ _)) = _
        rw [← taken, List.take_append_drop]

/-- Whoever follows the cursors until there is none sees each row of the tenant
once, from the latest on.  The cursor of a row is read back as its time and
id. -/
theorem audit_pages_visit_all (library : Library Double)
    (table : AuditLogs Record) (tenantId : String) (limit : Int) :
    (∃ rows enough, (∀ pages, enough ≤ pages →
        follow library table tenantId limit pages none = .ok (some rows)) ∧
      (rows.Pairwise fun first second => toLex (second.occurredAt.1.micros, second.auditId) <
          toLex (first.occurredAt.1.micros, first.auditId)) ∧
      ∀ row, row ∈ rows ↔ table.get? (tenantId, row.auditId) = some (row.occurredAt, row.record)) ∧
    ∀ timestamp auditId, decodeCursor library (encodeCursor timestamp auditId) =
        .ok (⟨timestamp, some .utc⟩, auditId) := by
  refine ⟨⟨rowsBehind table tenantId none, (rowsBehind table tenantId none).length + 1, ?_, ?_, ?_⟩,
    decodeCursor_encodeCursor library⟩
  · intro pages enough
    exact follow_eq library rfl enough
  · exact pairwise_rowsBehind table tenantId none
  · intro row
    refine mem_rowsBehind.trans (and_iff_left ?_)
    intro limit set
    cases set

def plainLibrary : Library Nat where
  otherIso := fun _ => none
  int16 := fun _ => none
  otherJson := fun _ => .error (.valueError "Expecting value")
  localTime := some

def noon : ValidClock := ⟨⟨2025, 6, 1, 12, 0, 0, 250⟩, by decide⟩

/-- Three rows of one moment, and one of another tenant. -/
def tiedRows : AuditLogs Unit where
  entries := [(("t", 1), (noon, ())), (("t", 3), (noon, ())), (("t", 2), (noon, ())),
      (("u", 4), (noon, ()))]
  nodup := by decide +kernel

theorem tied_rows_on_two_pages :
    ((auditPage plainLibrary tiedRows "t" none 2).toOption.map fun page =>
        page.1.map (·.auditId)) = some [3, 2] ∧
      ((follow plainLibrary tiedRows "t" 2 2 none).toOption.map fun rows =>
        rows.map fun rows => rows.map (·.auditId)) = some (some [3, 2, 1]) ∧
      ∃ rows enough, (∀ pages, enough ≤ pages →
          follow plainLibrary tiedRows "t" 2 pages none = .ok (some rows)) ∧
        ∀ row, row ∈ rows ↔
          tiedRows.get? ("t", row.auditId) = some (row.occurredAt, row.record) := by
  obtain ⟨rows, enough, followed, _, members⟩ :=
    (audit_pages_visit_all plainLibrary tiedRows "t" 2).1
  exact ⟨by decide +kernel, by decide +kernel, rows, enough, followed, members⟩

end Pages

end TrpcService.Tenant.AuditPage
