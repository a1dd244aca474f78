import TrpcService.Data.Calendar
import TrpcService.Data.Dict
import TrpcService.Data.EncodedText

namespace TrpcService.Queue

open Data Calendar Decimal

/-! Wake-up notices on Redis streams: seven fields without an envelope. -/

/-- Digits of other scripts, and ISO forms that `isoformat` does not write. -/
structure Library where
  decimal : Char → Option (Fin 10)
  otherIso : List Char → Option Datetime

inductive CodecError where
  | valueError (message : String)
  | unicodeDecodeError
  | overflowError
  deriving DecidableEq

abbrev Text := {text : String // 1 ≤ text.length ∧ text.length ≤ 512}

structure SessionReady where
  eventId : Text
  tenantId : Text
  sessionId : Text
  generation : {value : Nat // 1 ≤ value}
  priority : Nat
  traceId : Text
  createdAt : Datetime

def sessionReadyFields : List String :=
  ["event_id", "tenant_id", "session_id", "generation", "priority", "trace_id", "created_at"]

theorem sessionReadyFields_nodup : sessionReadyFields.Nodup := by
  decide +kernel

inductive Raw where
  | str (text : String)
  | bytes (content : List UInt8)
  deriving DecidableEq

/-- `_text`. -/
def Raw.text : Raw → Option String
  | .str text => some text
  | .bytes content => decodeUtf8 content

/-- A naive timestamp is read as UTC. -/
def inUtc (createdAt : Datetime) : Option ValidClock :=
  match createdAt.zone with
  | none => some createdAt.clock
  | some zone => createdAt.clock.astimezone zone

def SessionReady.fields (message : SessionReady)
    (generation priority createdAt : List Char) : Dict String String where
  entries := [("event_id", message.eventId.1), ("tenant_id", message.tenantId.1),
      ("session_id", message.sessionId.1),
      ("generation", String.ofList generation),
      ("priority", String.ofList priority), ("trace_id", message.traceId.1),
      ("created_at", String.ofList createdAt)]
  nodup := sessionReadyFields_nodup

def encode (message : SessionReady) : Except CodecError (Dict String String) :=
  match inUtc message.createdAt with
  | none => .error .overflowError
  | some clock =>
      match str message.generation.1, str message.priority with
      | some generation, some priority =>
          .ok (message.fields generation priority
            (replaceAll "+00:00".toList "Z".toList 0 clock.isoformat))
      | _, _ => .error (.valueError "Exceeds the limit (4300 digits) for integer string conversion")

def normalized : Dict String String → List (Raw × Raw) → Except CodecError (Dict String String)
  | fields, [] => .ok fields
  | fields, (key, value) :: rest =>
      match key.text, value.text with
      | some key, some value => normalized (fields.set key value) rest
      | _, _ => .error .unicodeDecodeError

def checkText (text : String) : Option Text :=
  if sized : 1 ≤ text.length ∧ text.length ≤ 512 then some ⟨text, sized⟩
  else none

section

variable (library : Library)

def fromisoformat (text : List Char) : Option Datetime := (readIso text).or (library.otherIso text)

def readCreatedAt (text : String) : Option Datetime :=
  fromisoformat library (replaceAll "Z".toList "+00:00".toList 0 text.toList)

/-- The constructor with its checks, on the values of the fields. -/
def validate (field : String → String) : Option SessionReady := do
  let generation ← int library.decimal (field "generation").toList
  let priority ← int library.decimal (field "priority").toList
  let createdAt ← readCreatedAt library (field "created_at")
  let eventId ← checkText (field "event_id")
  let tenantId ← checkText (field "tenant_id")
  let sessionId ← checkText (field "session_id")
  let traceId ← checkText (field "trace_id")
  if bounds : 1 ≤ generation ∧ 0 ≤ priority then
    some { eventId, tenantId, sessionId, traceId, createdAt
           generation := ⟨generation.toNat, by omega⟩
           priority := priority.toNat }
  else none

def listed (name : String) (keys : List String) : List String := if keys = [] then []
  else [name ++ "=" ++ ",".intercalate (keys.mergeSort (· ≤ ·))]

def missing (normalized : Dict String String) : List String :=
  sessionReadyFields.filter fun key => (normalized.get? key).isNone

def extra (normalized : Dict String String) : List String :=
  normalized.keys.filter fun key => !(sessionReadyFields.contains key)

def decodeTexts (normalized : Dict String String) : Except CodecError SessionReady :=
  if missing normalized = [] ∧ extra normalized = [] then
    match validate library fun key => (normalized.get? key).getD "" with
    | some message => .ok message
    | none => .error (.valueError "invalid session-ready:v2 field value")
  else .error (.valueError ("invalid session-ready:v2 fields (" ++
    "; ".intercalate (listed "missing" (missing normalized) ++
      listed "extra" (extra normalized)) ++ ")"))

def decode (fields : Dict Raw Raw) : Except CodecError SessionReady :=
  match normalized Dict.empty fields.entries with
  | .error error => .error error
  | .ok normalized => decodeTexts library normalized

end

/-- The moment that a timestamp names, in microseconds of UTC. -/
def instant (createdAt : Datetime) : Int :=
  match createdAt.zone with
  | some (.other offset) => createdAt.clock.1.micros - offset.1
  | _ => createdAt.clock.1.micros

/-- A timestamp whose moment has a date in UTC. -/
def InRange (createdAt : Datetime) : Prop :=
  match createdAt.zone with
  | some (.other _) => 0 ≤ instant createdAt ∧ instant createdAt < maxMicros
  | _ => True

/-- The same message with its timestamp in UTC. -/
def SessionReady.normalise (message : SessionReady) : Option SessionReady :=
  (inUtc message.createdAt).map fun clock => { message with createdAt := ⟨clock, some .utc⟩ }

def Spells (raw : Raw) (text : String) : Prop := raw = .str text ∨ raw = .bytes (encodeUtf8 text)

/-- The fields as texts or as bytes, in any order. -/
def Written (encoded : Dict String String) (fields : Dict Raw Raw) : Prop :=
  ∃ pairs, pairs.Perm encoded.entries ∧
    List.Forall₂ (fun raw pair => Spells raw.1 pair.1 ∧ Spells raw.2 pair.2) fields.entries pairs

structure RoundTrip (library : Library) (message : SessionReady)
    (encoded : Dict String String) (normal : SessionReady) : Prop where
  encodes : encode message = .ok encoded
  normalises : message.normalise = some normal
  sameMoment : instant normal.createdAt = instant message.createdAt
  decodes : ∀ fields, Written encoded fields → decode library fields = .ok normal

theorem isSome_inUtc_iff (createdAt : Datetime) :
    (inUtc createdAt).isSome = true ↔ InRange createdAt := by
  obtain ⟨clock, zone⟩ := createdAt
  cases zone with
  | none => simp [inUtc, InRange]
  | some zone =>
    cases zone with
    | utc => simp [inUtc, InRange, ValidClock.astimezone]
    | other offset =>
      simp only [inUtc, InRange, instant, ValidClock.astimezone]
      split
      · rename_i inside
        exact iff_of_true rfl inside
      · rename_i outside
        exact iff_of_false Bool.false_ne_true outside

theorem instant_inUtc {createdAt : Datetime} {clock : ValidClock}
    (converted : inUtc createdAt = some clock) :
    instant ⟨clock, some .utc⟩ = instant createdAt := by
  obtain ⟨local_, zone⟩ := createdAt
  cases zone with
  | none =>
    cases converted
    rfl
  | some zone =>
    cases zone with
    | utc =>
      cases converted
      rfl
    | other offset =>
      simp only [inUtc, ValidClock.astimezone] at converted
      split at converted
      · rename_i inside
        cases converted
        simp only [instant]
        rw [(Clock.ofMicros_spec (by omega)).2, Int.toNat_of_nonneg inside.1]
      · cases converted

theorem text_of_spells {raw : Raw} {text : String} (spells : Spells raw text) :
    raw.text = some text := by
  rcases spells with rfl | rfl
  · rfl
  · exact decodeUtf8_encodeUtf8 text

theorem normalized_of_spells {entries : List (Raw × Raw)} {pairs : List (String × String)}
    (spells : List.Forall₂
      (fun raw pair => Spells raw.1 pair.1 ∧ Spells raw.2 pair.2) entries pairs)
    (fields : Dict String String) :
    normalized fields entries =
      .ok (pairs.foldl (fun fields pair => fields.set pair.1 pair.2) fields) := by
  induction spells generalizing fields with
  | nil => rfl
  | @cons raw pair entries pairs head rest hypothesis =>
    obtain ⟨key, value⟩ := raw
    rw [normalized, text_of_spells head.1, text_of_spells head.2]
    exact hypothesis _

theorem get?_foldl_set {pairs : List (String × String)}
    (nodup : (pairs.map Prod.fst).Nodup) (fields : Dict String String) :
    (∀ pair ∈ pairs, (pairs.foldl (fun fields pair =>
      fields.set pair.1 pair.2) fields).get? pair.1 = some pair.2) ∧
    ∀ key, key ∉ pairs.map Prod.fst → (pairs.foldl (fun fields pair =>
      fields.set pair.1 pair.2) fields).get? key = fields.get? key := by
  induction pairs generalizing fields with
  | nil => exact ⟨fun _ none => absurd none List.not_mem_nil, fun _ _ => rfl⟩
  | cons pair pairs hypothesis =>
    rw [List.map_cons, List.nodup_cons] at nodup
    obtain ⟨inside, outside⟩ := hypothesis nodup.2 (fields.set pair.1 pair.2)
    constructor
    · intro other member
      rcases List.mem_cons.mp member with rfl | later
      · rw [List.foldl_cons, outside _ nodup.1, Dict.get?_set, if_pos rfl]
      · exact inside other later
    · intro key missing
      rw [List.map_cons, List.mem_cons, not_or] at missing
      rw [List.foldl_cons, outside _ missing.2, Dict.get?_set, if_neg (Ne.symm missing.1)]

theorem checkText_val (text : Text) : checkText text.1 = some text := dif_pos text.2

variable {library : Library} {message : SessionReady}

theorem decode_of_written {generation priority createdAt : List Char} {stamp : Datetime}
    (numbered : str message.generation.1 = some generation)
    (ranked : str message.priority = some priority)
    (stamped : readCreatedAt library (String.ofList createdAt) = some stamp) {fields : Dict Raw Raw}
    (written : Written (message.fields generation priority createdAt) fields) :
    decode library fields = .ok { message with createdAt := stamp } := by
  obtain ⟨pairs, order, spells⟩ := written
  have nodup : (pairs.map Prod.fst).Nodup :=
    (order.map Prod.fst).nodup_iff.mpr sessionReadyFields_nodup
  have known : ∀ key, key ∈ pairs.map Prod.fst ↔ key ∈ sessionReadyFields :=
    fun key => (order.map Prod.fst).mem_iff
  obtain ⟨inside, outside⟩ := get?_foldl_set nodup Dict.empty
  simp only [decode, normalized_of_spells spells]
  generalize pairs.foldl (fun fields pair => fields.set pair.1 pair.2) Dict.empty = result at *
  have value : ∀ pair ∈ (message.fields generation priority createdAt).entries, result.get? pair.1 =
      some pair.2 := fun pair member => inside pair (order.mem_iff.mpr member)
  have complete : missing result = [] := by
    rw [missing, List.filter_eq_nil_iff]
    intro key member
    obtain ⟨pair, present, rfl⟩ := List.mem_map.mp ((known key).mpr member)
    simp [inside pair present]
  have closed : extra result = [] := by
    rw [extra, List.filter_eq_nil_iff]
    intro key member
    obtain ⟨text, found⟩ := (Dict.mem_keys_iff _ _).mp member
    have present : key ∈ sessionReadyFields := by
      by_contra other
      rw [outside key (mt (known key).mp other)] at found
      cases found
    simpa using present
  have valid : validate library (fun key => (result.get? key).getD "") =
      some { message with createdAt := stamp } := by
    simp only [SessionReady.fields, List.forall_mem_cons] at value
    obtain ⟨event, tenant, session, number, rank, trace, created, -⟩ := value
    have bounds : (1 : Int) ≤ message.generation.1 ∧ (0 : Int) ≤ message.priority := by
      have := message.generation.2
      omega
    simp only [validate, event, tenant, session, number, rank, trace, created, Option.getD_some,
      String.toList_ofList, int_str numbered, int_str ranked, stamped, checkText_val,
      Option.bind_eq_bind, Option.bind_some, dif_pos bounds, Int.toNat_natCast]
  rw [decodeTexts, if_pos ⟨complete, closed⟩, valid]

theorem encode_eq_ok_iff {encoded : Dict String String} : encode message = .ok encoded ↔
      ∃ clock generation priority, inUtc message.createdAt = some clock ∧
        str message.generation.1 = some generation ∧
        str message.priority = some priority ∧
        encoded = message.fields generation priority
          (replaceAll "+00:00".toList "Z".toList 0 clock.isoformat) := by
  constructor
  · intro encodes
    rw [encode] at encodes
    split at encodes
    · cases encodes
    · split at encodes
      · cases encodes
        exact ⟨_, _, _, ‹_›, ‹_›, ‹_›, rfl⟩
      · cases encodes
  · intro parts
    obtain ⟨clock, generation, priority, converted, numbered, ranked, rfl⟩ := parts
    simp only [encode, converted, numbered, ranked]

theorem readCreatedAt_isoformat (clock : ValidClock) :
    readCreatedAt library (String.ofList (replaceAll "+00:00".toList "Z".toList
      0 clock.isoformat)) = some ⟨clock, some .utc⟩ := by
  have reads : ∀ text, readCreatedAt library (String.ofList text) = fromisoformat library
        (replaceAll "Z".toList "+00:00".toList 0 text) := by
    intro text
    rw [readCreatedAt]
    exact congrArg _ (congrArg _ String.toList_ofList)
  rw [reads, replaceAll_isoformat, fromisoformat, readIso_isoformat, Option.some_or]

variable (library) in
theorem roundTrip_of_encode {encoded : Dict String String}
    (encodes : encode message = .ok encoded) :
    ∃ normal, RoundTrip library message encoded normal := by
  obtain ⟨clock, generation, priority, converted, numbered, ranked, rfl⟩ :=
    encode_eq_ok_iff.mp encodes
  refine ⟨{ message with createdAt := ⟨clock, some .utc⟩ }, encodes, ?_,
    instant_inUtc converted, ?_⟩
  · rw [SessionReady.normalise, converted]
    rfl
  · intro fields written
    exact decode_of_written numbered ranked (readCreatedAt_isoformat clock) written

def createdAtOf (library : Library) (fields : Dict Raw Raw) : Option Datetime :=
  (normalized Dict.empty fields.entries).toOption.bind fun normalized =>
    readCreatedAt library ((normalized.get? "created_at").getD "")

theorem validate_eq_some {field : String → String} (valid : validate library field = some message) :
    readCreatedAt library (field "created_at") = some message.createdAt ∧
      (∃ generation, str message.generation.1 = some generation) ∧
      ∃ priority, str message.priority = some priority := by
  simp only [validate, Option.bind_eq_bind, Option.bind_eq_some_iff] at valid
  obtain ⟨generation, numbered, priority, ranked, createdAt, stamped, eventId,
    -, tenantId, -, sessionId, -, traceId, -, valid⟩ := valid
  split at valid
  · rename_i bounds
    cases valid
    refine ⟨stamped, exists_str_of_int (numbered.trans ?_), exists_str_of_int (ranked.trans ?_)⟩
    · rw [Int.toNat_of_nonneg (by omega)]
    · rw [Int.toNat_of_nonneg bounds.2]
  · cases valid

theorem decode_eq_ok {fields : Dict Raw Raw} (decodes : decode library fields = .ok message) :
    createdAtOf library fields = some message.createdAt ∧
      (∃ generation, str message.generation.1 = some generation) ∧
      ∃ priority, str message.priority = some priority := by
  rw [decode] at decodes
  rw [createdAtOf]
  split at decodes
  · cases decodes
  · rename_i result texts
    rw [texts, Except.toOption, Option.bind_some]
    rw [decodeTexts] at decodes
    split at decodes
    · split at decodes
      · rename_i valid
        obtain rfl := Except.ok.inj decodes
        have parts := validate_eq_some valid
        exact parts
      · cases decodes
    · cases decodes

theorem exists_roundTrip_iff (numbered : ∃ generation, str message.generation.1 = some generation)
    (ranked : ∃ priority, str message.priority = some priority) :
    (∃ encoded normal, RoundTrip library message encoded normal) ↔ InRange message.createdAt := by
  rw [← isSome_inUtc_iff]
  constructor
  · intro trip
    obtain ⟨encoded, normal, trip⟩ := trip
    obtain ⟨clock, _, _, converted, -⟩ := encode_eq_ok_iff.mp trip.encodes
    rw [converted]
    rfl
  · intro converts
    obtain ⟨clock, converted⟩ := Option.isSome_iff_exists.mp converts
    obtain ⟨generation, numbered⟩ := numbered
    obtain ⟨priority, ranked⟩ := ranked
    exact ⟨_, roundTrip_of_encode library
      (encode_eq_ok_iff.mpr ⟨_, _, _, converted, numbered, ranked, rfl⟩)⟩

theorem exists_written (encoded : Dict String String) : ∃ fields, Written encoded fields := by
  have nodup : ((encoded.entries.map fun pair =>
      (Raw.str pair.1, Raw.str pair.2)).map Prod.fst).Nodup := by
    have keys := encoded.nodup.map (f := Raw.str) fun _ _ => Raw.str.inj
    rw [List.map_map] at keys ⊢
    exact keys
  refine ⟨⟨_, nodup⟩, encoded.entries, .refl _, ?_⟩
  rw [List.forall₂_map_left_iff, List.forall₂_same]
  intro pair _
  exact ⟨.inl rfl, .inl rfl⟩

theorem exists_str {value : Nat} (small : value < 2 ^ 64) : ∃ text, str value = some text := by
  have fits : Nat.log 10 value + 1 ≤ maxDigits := (Nat.log_lt_of_lt_pow' (x := 20) (by decide)
      (small.trans (by decide))).trans (by decide)
  exact ⟨_, if_pos fits⟩

/-- Messages in range go over the wire and come back in UTC; a field map that
is accepted can be written again exactly if the moment of its timestamp has a
date in UTC; and messages with the same fields are the same in UTC. -/
theorem sessionReady_wire_format (library : Library) :
    (∀ message : SessionReady, message.generation.1 < 2 ^ 64 →
      message.priority < 2 ^ 64 → InRange message.createdAt →
        ∃ encoded normal, RoundTrip library message encoded normal) ∧
    (∀ fields message, decode library fields = .ok message →
      ((∃ encoded normal, RoundTrip library message encoded normal) ↔
        ∃ stamp, createdAtOf library fields = some stamp ∧ InRange stamp)) ∧
    ∀ first second encoded, encode first = .ok encoded →
      encode second = .ok encoded → first.normalise = second.normalise := by
  refine ⟨?_, ?_, ?_⟩
  · intro message generation priority inside
    exact (exists_roundTrip_iff (exists_str generation) (exists_str priority)).mpr inside
  · intro fields message decodes
    obtain ⟨stamped, numbered, ranked⟩ := decode_eq_ok decodes
    rw [exists_roundTrip_iff numbered ranked, stamped]
    simp
  · intro first second encoded one two
    obtain ⟨normal, trip⟩ := roundTrip_of_encode library one
    obtain ⟨other, back⟩ := roundTrip_of_encode library two
    obtain ⟨fields, written⟩ := exists_written encoded
    have same : normal = other := Except.ok.inj
      ((trip.decodes fields written).symm.trans (back.decodes fields written))
    rw [trip.normalises, back.normalises, same]

def plainLibrary : Library := ⟨fun _ => none, fun _ => none⟩

/-- One hour after midnight of the first day, an hour ahead of UTC. -/
def firstHour : SessionReady where
  eventId := ⟨"e", by decide⟩
  tenantId := ⟨"t", by decide⟩
  sessionId := ⟨"s", by decide⟩
  generation := ⟨3, by decide⟩
  priority := 9
  traceId := ⟨"r", by decide⟩
  createdAt := ⟨⟨⟨1, 1, 1, 1, 0, 0, 0⟩, by decide⟩, some (.other ⟨3600000000, by decide⟩)⟩

theorem firstHour_round_trips : ∃ encoded normal, RoundTrip plainLibrary firstHour encoded normal :=
  (sessionReady_wire_format plainLibrary).1 firstHour (by decide) (by decide)
    ⟨by decide +kernel, by decide +kernel⟩

/-- Midnight of the first day, an hour ahead of UTC. -/
def firstMidnight : Dict Raw Raw where
  entries := [(.str "event_id", .str "e"), (.str "tenant_id", .str "t"),
      (.str "session_id", .str "s"), (.str "generation", .str "1"),
      (.str "priority", .str "0"), (.str "trace_id", .str "r"),
      (.str "created_at", .str "0001-01-01T00:00:00+01:00")]
  nodup := by decide +kernel

theorem firstMidnight_has_no_round_trip :
    ∃ message, decode plainLibrary firstMidnight = .ok message ∧
      encode message = .error .overflowError ∧
      ¬∃ encoded normal, RoundTrip plainLibrary message encoded normal := by
  have accepted : (decode plainLibrary firstMidnight).isOk = true := by
    decide +kernel
  have lost : (createdAtOf plainLibrary firstMidnight).bind inUtc = none := by
    decide +kernel
  cases decodes : decode plainLibrary firstMidnight with
  | error error =>
      rw [decodes] at accepted
      cases accepted
  | ok message =>
      rw [(decode_eq_ok decodes).1, Option.bind_some] at lost
      have overflows : encode message = .error .overflowError := by
        simp only [encode, lost]
      refine ⟨message, rfl, overflows, ?_⟩
      intro trip
      obtain ⟨encoded, normal, trip⟩ := trip
      cases overflows.symm.trans trip.encodes

end TrpcService.Queue
