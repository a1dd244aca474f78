import TrpcService.Data.Dict
import TrpcService.Data.Labelled

namespace TrpcService.Log

open Data Labelled

/-! Redaction of logs, errors, reports and telemetry. -/

/-- What the text functions take from the Unicode tables. -/
structure Unicode where
  isWord : Char → Bool
  lower : String → String

def redacted : String := "[REDACTED]"

/-- Two words with nothing, a low line or a hyphen between them. -/
def joined (first second : String) : List String :=
  ["", "_", "-"].map fun mark => first ++ mark ++ second

def sensitiveKey : List String :=
  ["authorization", "cookie", "password", "passwd", "secret", "token"] ++
    joined "api" "key" ++ ["credential"] ++ joined "private" "key" ++
    joined "client" "secret" ++ joined "database" "dsn" ++
    ["message", "message_body", "prompt", "completion"] ++
    joined "tool" "args" ++ joined "tool" "result" ++
    joined "request" "body" ++ joined "request" "content" ++
    joined "response" "body" ++ joined "response" "content" ++
    ["input", "output", "state"]

def sensitiveMarkers : List String :=
  ["gen_ai.prompt", "gen_ai.completion", "llm.request", "llm.response",
    ".llm_request", ".llm_response", "trpc.runner.input", "trpc.runner.output",
    "tool.arguments", "tool.response", ".tool_call_args", ".tool_response",
    ".state.begin", ".state.end", ".state.partial",
    ".stream_function_calls.raw", ".stream_function_calls.post_planner",
    "exception.message", "exception.stacktrace", "url.full", "http.url"]

/-- `rsplit(".", 1)[-1]`. -/
def lastPart (key : List Char) : List Char := (key.reverse.takeWhile (· ≠ '.')).reverse

section

variable (unicode : Unicode)

def isSensitiveKey (key : String) : Bool :=
  let normalized := (lastPart key.toList).map foldCase
  -- `$` also matches before a line end that is the last character.
  (sensitiveKey.any fun word => decide (word.toList <:+ normalized) ||
        decide (word.toList ++ ['\n'] <:+ normalized)) ||
    sensitiveMarkers.any fun marker => decide (marker.toList <:+: (unicode.lower key).toList)

/-- `\bBearer\s+[A-Za-z0-9._~+/=-]+`. -/
def bearer : Labelled where
  words := ["bearer".toList]
  gap char := if isSpace char then .proceed else .refuse
  value char := ('a' ≤ char && char ≤ 'z') || ('0' ≤ char && char ≤ '9') ||
      "._~+/=-".toList.contains char

/-- `\b(password|passwd|secret|token|api[_-]?key)\s*[:=]\s*([^\s,;]+)`. -/
def assignment : Labelled where
  words := (["password", "passwd", "secret", "token"] ++ joined "api" "key").map String.toList
  gap char := if isSpace char then .stay else if char = ':' ∨ char = '=' then .proceed else .refuse
  value char := !isSpace char && char ≠ ',' && char ≠ ';'

def hideBearer (_ : List Char) : List Char := ("Bearer " ++ redacted).toList

def hideAssignment (key : List Char) : List Char := key ++ ("=" ++ redacted).toList

def sanitizeText (value : String) : String :=
  let value := bearer.sub unicode.isWord hideBearer 0 none value.toList
  String.ofList (assignment.sub unicode.isWord hideAssignment 0 none value)

/-- Mappings with texts as keys, sequences, texts, and everything else. -/
inductive Value (Scalar : Type) where
  | mapping (entries : List (String × Value Scalar))
  | list (items : List (Value Scalar))
  | text (value : String)
  | scalar (value : Scalar)

variable {Scalar : Type}

mutual

def redactValue : Value Scalar → Value Scalar
  | .mapping entries => .mapping (redactEntries entries)
  | .list items => .list (redactItems items)
  | .text value => .text (sanitizeText unicode value)
  | .scalar value => .scalar value

def redactEntries : List (String × Value Scalar) → List (String × Value Scalar)
  | [] => []
  | (key, item) :: rest =>
      (key, if isSensitiveKey unicode key then .text redacted
        else redactValue item) :: redactEntries rest

def redactItems : List (Value Scalar) → List (Value Scalar)
  | [] => []
  | item :: rest => redactValue item :: redactItems rest

end

def redact (value : Value Scalar) (key : Option String := none) : Value Scalar :=
  if key.any (isSensitiveKey unicode) then .text redacted
  else redactValue unicode value

end

theorem bearer_closed : bearer.Closed := ⟨by decide +kernel, by decide +kernel⟩

theorem assignment_closed : assignment.Closed := ⟨by decide +kernel, by decide +kernel⟩

theorem map_hideBearer {key : List Char} (word : key.map foldCase ∈ bearer.words) :
    (hideBearer key).map foldCase = key.map foldCase ++ " [redacted]".toList := by
  have same : key.map foldCase = "bearer".toList := List.mem_singleton.mp word
  rw [same]
  change ("Bearer " ++ redacted).toList.map foldCase = _
  decide +kernel

theorem map_hideAssignment (key : List Char) :
    (hideAssignment key).map foldCase = key.map foldCase ++ "=[redacted]".toList := by
  rw [hideAssignment, List.map_append]
  apply congrArg (key.map foldCase ++ ·)
  decide +kernel

example : (hideAssignment "Token".toList).map foldCase = "token=[redacted]".toList := by
  decide +kernel

theorem bearer_undisturbed_bearer : bearer.Undisturbed bearer hideBearer where
  toClosed := bearer_closed
  decides := by decide +kernel
  parted := by decide +kernel
  keeps _ word := ⟨_, map_hideBearer word⟩

theorem bearer_undisturbed_assignment :
    bearer.Undisturbed assignment hideAssignment where
  toClosed := bearer_closed
  decides := by decide +kernel
  parted := by decide +kernel
  keeps key _ := ⟨_, map_hideAssignment key⟩

theorem assignment_undisturbed :
    assignment.Undisturbed assignment hideAssignment where
  toClosed := assignment_closed
  decides := by decide +kernel
  parted := by decide +kernel
  keeps key _ := ⟨_, map_hideAssignment key⟩

theorem bearer_lost_in_hideBearer (key : List Char) (word : key.map foldCase ∈ bearer.words) :
    ∀ tail ∈ ((hideBearer key).map foldCase).tails, tail ≠ [] →
      tail.foldl bearer.next (.word bearer.words) = .word [] := by
  rw [map_hideBearer word]
  revert word
  generalize key.map foldCase = word
  revert word
  decide +kernel

theorem bearer_lost_in_hideAssignment (key : List Char)
    (word : key.map foldCase ∈ assignment.words) :
    ∀ tail ∈ ((hideAssignment key).map foldCase).tails, tail ≠ [] →
      tail.foldl bearer.next (.word bearer.words) = .word [] := by
  rw [map_hideAssignment]
  revert word
  generalize key.map foldCase = word
  revert word
  decide +kernel

theorem assignment_stable (key : List Char) : ∃ more, hideAssignment key = key ++ more ∧
      ∀ tail, assignment.Ended tail → assignment.find .named (more ++ tail) = some ([], tail) := by
  have form : ("=" ++ redacted).toList = '=' :: '[' :: "REDACTED]".toList := by
    decide +kernel
  refine ⟨_, rfl, ?_⟩
  intro tail ended
  have opens : assignment.next .named (foldCase '=') = .opened := by
    decide +kernel
  have finds : assignment.next .opened (foldCase '[') = .found := by
    decide +kernel
  rw [form, List.cons_append, List.cons_append, find, opens, find, finds,
    dropWhile_append_of_ended (List.all_eq_true.mp (by decide +kernel)) ended]
  rfl

section

variable (unicode : Unicode)

theorem sanitizeText_idempotent (value : String) :
    sanitizeText unicode (sanitizeText unicode value) = sanitizeText unicode value := by
  generalize hidden : bearer.sub unicode.isWord hideBearer 0 none value.toList = text
  have unmatched : bearer.Free unicode.isWord none text := by
    rw [← hidden]
    exact bearer_undisturbed_bearer.free_of_rewrites bearer_lost_in_hideBearer
      (rewrites_sub _ _ _ _ (.inl rfl)) (.inl rfl)
  have still := bearer_undisturbed_assignment.free_of_rewrites bearer_lost_in_hideAssignment
    (rewrites_sub unicode.isWord hideAssignment none text (.inr unmatched)) (.inl rfl)
  have same := assignment_undisturbed.sub_of_rewrites assignment_stable
    (rewrites_sub unicode.isWord hideAssignment none text (.inl rfl)) (.inl rfl)
  simp only [sanitizeText, String.toList_ofList, hidden]
  rw [sub_of_free still, same]

example : sanitizeText ⟨Char.isAlphanum, id⟩ "Bearer a.b Token : x, Secret =" =
      "Bearer [REDACTED] Token=[REDACTED], Secret =" := by
  decide +kernel

variable {Scalar : Type}

theorem redactItems_eq_map (items : List (Value Scalar)) :
    redactItems unicode items = items.map (redactValue unicode) := by
  induction items with
  | nil => rw [redactItems, List.map_nil]
  | cons item rest hypothesis => rw [redactItems, hypothesis, List.map_cons]

theorem lookup_redactEntries (entries : List (String × Value Scalar)) (wanted : String) :
    Dict.lookup (redactEntries unicode entries) wanted =
      (Dict.lookup entries wanted).map fun item =>
        redact unicode item (some wanted) := by
  induction entries with
  | nil => simp [redactEntries, Dict.lookup]
  | cons entry rest hypothesis =>
    obtain ⟨key, item⟩ := entry
    rw [redactEntries, Dict.lookup, Dict.lookup]
    by_cases same : key = wanted
    · simp [same, redact]
    · simp [same, hypothesis]

/-- The same structure, up to the values below the keys that are hidden; the
order of a mapping says nothing. -/
inductive Agree (hidden : String → Prop) (same : Scalar → Scalar → Prop) :
    Value Scalar → Value Scalar → Prop where
  | mapping {first second : List (String × Value Scalar)}
      (keys : ∀ key, (Dict.lookup first key).isSome = (Dict.lookup second key).isSome)
      (values : ∀ key item other, ¬hidden key → Dict.lookup first key = some item →
        Dict.lookup second key = some other → Agree hidden same item other) :
      Agree hidden same (.mapping first) (.mapping second)
  | list {first second : List (Value Scalar)} (length : first.length = second.length)
      (items : ∀ (place : Nat) item other, first[place]? = some item →
        second[place]? = some other → Agree hidden same item other) :
      Agree hidden same (.list first) (.list second)
  | text (value : String) : Agree hidden same (.text value) (.text value)
  | scalar {value other : Scalar} (alike : same value other) :
      Agree hidden same (.scalar value) (.scalar other)

theorem agree_redactValue {same : Scalar → Scalar → Prop} {first second : Value Scalar}
    (agree : Agree (isSensitiveKey unicode ·) same first second) :
    Agree (fun _ => False) same (redactValue unicode first) (redactValue unicode second) := by
  induction agree with
  | @mapping first second keys values hypothesis =>
    rw [redactValue, redactValue]
    constructor
    · intro key
      simp [lookup_redactEntries, keys key]
    · intro key item other _ found reached
      rw [lookup_redactEntries, Option.map_eq_some_iff] at found reached
      obtain ⟨item, found, rfl⟩ := found
      obtain ⟨other, reached, rfl⟩ := reached
      simp only [redact, Option.any_some]
      split
      · exact .text redacted
      · rename_i shown
        exact hypothesis key item other shown found reached
  | @list first second length items hypothesis =>
    rw [redactValue, redactValue, redactItems_eq_map, redactItems_eq_map]
    constructor
    · simpa using length
    · intro place item other found reached
      rw [List.getElem?_map, Option.map_eq_some_iff] at found reached
      obtain ⟨item, found, rfl⟩ := found
      obtain ⟨other, reached, rfl⟩ := reached
      exact hypothesis place item other found reached
  | text value =>
    rw [redactValue]
    exact .text _
  | scalar alike =>
    rw [redactValue, redactValue]
    exact .scalar alike

mutual

theorem redactValue_idempotent (value : Value Scalar) :
    redactValue unicode (redactValue unicode value) = redactValue unicode value := by
  cases value with
  | mapping entries => simp [redactValue, redactEntries_idempotent entries]
  | list items => simp [redactValue, redactItems_idempotent items]
  | text value => simp [redactValue, sanitizeText_idempotent]
  | scalar value => simp [redactValue]

theorem redactEntries_idempotent (entries : List (String × Value Scalar)) :
    redactEntries unicode (redactEntries unicode entries) = redactEntries unicode entries := by
  cases entries with
  | nil => simp [redactEntries]
  | cons entry rest =>
    obtain ⟨key, item⟩ := entry
    simp only [redactEntries, redactEntries_idempotent rest]
    split
    · rfl
    · rw [redactValue_idempotent item]

theorem redactItems_idempotent (items : List (Value Scalar)) :
    redactItems unicode (redactItems unicode items) = redactItems unicode items := by
  cases items with
  | nil => simp [redactItems]
  | cons item rest => simp [redactItems, redactValue_idempotent item, redactItems_idempotent rest]

end

/-- Values under sensitive keys do not reach the result, and a second
redaction changes nothing. -/
theorem redact_noninterfering_and_idempotent (key : Option String) (same : Scalar → Scalar → Prop) :
    (∀ first second : Value Scalar, Agree (isSensitiveKey unicode ·) same first second →
        Agree (fun _ => False) same (redact unicode first key) (redact unicode second key)) ∧
    ∀ value : Value Scalar,
      redact unicode (redact unicode value key) key = redact unicode value key := by
  simp only [redact]
  split
  · exact ⟨fun _ _ _ => .text redacted, fun _ => rfl⟩
  · exact ⟨fun _ _ => agree_redactValue unicode, redactValue_idempotent unicode⟩

end

end TrpcService.Log
