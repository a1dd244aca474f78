import Mathlib.Data.List.Infix

namespace TrpcService.Data

/-! Labels that are followed by a value, as in `name = value`: where a text has
one, and the rewriting of all of them from left to right. -/

/-- Letters without their case, as a comparison that ignores case sees them. -/
def foldCase (char : Char) : Char := if 'A' ≤ char ∧ char ≤ 'Z' then Char.ofNat (char.toNat + 32)
  else if char = '\u0130' ∨ char = '\u0131' then 'i'
  else if char = '\u212a' then 'k'
  else if char = '\u017f' then 's'
  else char

def isSpace (char : Char) : Bool :=
  let code := char.toNat
  (9 ≤ code && code ≤ 13) || (28 ≤ code && code ≤ 32) || code == 0x85 ||
    code == 0xa0 || code == 0x1680 || (0x2000 ≤ code && code ≤ 0x200a) ||
    code == 0x2028 || code == 0x2029 || code == 0x202f || code == 0x205f ||
    code == 0x3000

inductive Gap where
  | refuse
  | stay
  | proceed
  deriving DecidableEq, Repr

/-- One of some words, a gap, and a value as long as possible.  No word starts
with another one, and characters are looked at without their case. -/
structure Labelled where
  words : List (List Char)
  gap : Char → Gap
  value : Char → Bool

namespace Labelled

/-- How much of a label has been read; without a word left there is none. -/
inductive State where
  | word (left : List (List Char))
  | named
  | opened
  | found
  deriving DecidableEq, Repr

def State.isWord : State → Bool
  | .word _ => true
  | _ => false

def State.left : State → List (List Char)
  | .word left => left
  | _ => []

/-- What is left of a word after its first character. -/
def advance (char : Char) : List Char → Option (List Char)
  | [] => none
  | first :: rest => if first = char then some rest else none

variable (label : Labelled)

def next : State → Char → State
  | .word left, char =>
      let left := left.filterMap (advance char)
      if [] ∈ left then .named else .word left
  | .named, char =>
      match label.gap char with
      | .refuse => .word []
      | .stay => .named
      | .proceed => .opened
  | .opened, char =>
      if isSpace char then .opened
      else if label.value char then .found
      else .word []
  | .found, _ => .found

/-- The label at the start of a text, and what follows its value. -/
def find : State → List Char → Option (List Char × List Char)
  | _, [] => none
  | state, char :: text =>
      if label.next state (foldCase char) = .found then
        some ([], text.dropWhile fun char => label.value (foldCase char))
      else (find (label.next state (foldCase char)) text).map fun found =>
          (if state.isWord then char :: found.1 else found.1, found.2)

section Rewriting

variable (isWord : Char → Bool)

/-- A match needs a boundary of words in front. -/
def match? (before : Option Char) (text : List Char) : Option (List Char × List Char) :=
  if before.any isWord = text.head?.any isWord then none
  else label.find (.word label.words) text

/-- All matches, from left to right; `skip` counts what a match still covers. -/
def sub (replace : List Char → List Char) : Nat → Option Char → List Char → List Char
  | _, _, [] => []
  | skip + 1, _, char :: text => sub replace skip (some char) text
  | 0, before, char :: text =>
      match label.match? isWord before (char :: text) with
      | none => char :: sub replace 0 (some char) text
      | some (key, rest) => replace key ++ sub replace (text.length - rest.length) (some char) text

end Rewriting

variable {label}

def run (label : Labelled) (state : State) (text : List Char) : State :=
  (text.map foldCase).foldl label.next state

@[simp] theorem run_nil (state : State) : label.run state [] = state := rfl

@[simp] theorem run_cons (state : State) (char : Char) (text : List Char) :
    label.run state (char :: text) = label.run (label.next state (foldCase char)) text := rfl

@[simp] theorem foldl_found (chars : List Char) : chars.foldl label.next .found = .found := by
  induction chars with
  | nil => rfl
  | cons char chars hypothesis => exact hypothesis

@[simp] theorem foldl_lost (chars : List Char) : chars.foldl label.next (.word []) = .word [] := by
  induction chars with
  | nil => rfl
  | cons char chars hypothesis => exact hypothesis

variable {state : State} {text : List Char}

theorem isSome_find (pending : state ≠ .found) :
    (label.find state text).isSome = true ↔ label.run state text = .found := by
  induction text generalizing state with
  | nil => simp [find, pending]
  | cons char text hypothesis =>
    by_cases done : label.next state (foldCase char) = .found
    · simp [find, done, run]
    · simp [find, done, hypothesis done]

theorem find_lost (text : List Char) : label.find (.word []) text = none := by
  induction text with
  | nil => rfl
  | cons char text hypothesis => simp [find, next, hypothesis]

variable {char : Char} {rest : List Char} {left : List (List Char)}

theorem mem_filterMap_advance : rest ∈ left.filterMap (advance char) ↔ char :: rest ∈ left := by
  rw [List.mem_filterMap]
  constructor
  · intro found
    obtain ⟨word, member, step⟩ := found
    cases word with
    | nil => cases step
    | cons first others =>
      simp only [advance, Option.ite_none_right_eq_some, Option.some.injEq] at step
      rw [← step.1, ← step.2]
      exact member
  · intro member
    exact ⟨char :: rest, member, by simp [advance]⟩

def heads (words : List (List Char)) : List Char := words.filterMap List.head?

theorem next_eq_lost (missing : char ∉ heads left) : label.next (.word left) char = .word [] := by
  have none : left.filterMap (advance char) = [] := by
    rw [List.eq_nil_iff_forall_not_mem]
    intro rest member
    apply missing
    rw [heads, List.mem_filterMap]
    exact ⟨char :: rest, mem_filterMap_advance.mp member, rfl⟩
  simp [next, none]

theorem next_later (later : state.isWord = false) (char : Char) :
    label.next state char = .word [] ∨ (label.next state char).isWord = false := by
  cases state with
  | word left => cases later
  | found => exact .inr rfl
  | named =>
    simp only [next]
    cases label.gap char with
    | refuse => exact .inl rfl
    | stay => exact .inr rfl
    | proceed => exact .inr rfl
  | opened =>
    simp only [next]
    cases isSpace char with
    | true => exact .inr rfl
    | false =>
      cases label.value char with
      | true => exact .inr rfl
      | false => exact .inl rfl

/-- Does a text start in a way that no word of the label does? -/
def Quiet (label : Labelled) : List Char → Prop
  | [] => True
  | char :: _ => foldCase char ∉ heads label.words

/-- Does a text start with what ends a value? -/
def Ended (label : Labelled) : List Char → Prop
  | [] => True
  | char :: _ => label.value (foldCase char) = false

theorem ended_dropWhile (text : List Char) :
    label.Ended (text.dropWhile fun char => label.value (foldCase char)) := by
  induction text with
  | nil => trivial
  | cons char text hypothesis =>
    cases inside : label.value (foldCase char) with
    | true => simpa [List.dropWhile_cons, inside] using hypothesis
    | false =>
      rw [List.dropWhile_cons, inside]
      exact inside

theorem dropWhile_append_of_ended {first second : List Char}
    (values : ∀ char ∈ first, label.value (foldCase char) = true) (ended : label.Ended second) :
    (first ++ second).dropWhile (fun char => label.value (foldCase char)) = second := by
  rw [List.dropWhile_append_of_pos values]
  cases second with
  | nil => rfl
  | cons char second => exact List.dropWhile_cons_of_neg (Bool.eq_false_iff.mp ended)

theorem find_later {found : List Char × List Char}
    (later : state.isWord = false) (hit : label.find state text = some found) :
    found.1 = [] ∧ found.2 <:+ text ∧ label.Ended found.2 := by
  induction text generalizing state found with
  | nil => cases hit
  | cons char text hypothesis =>
    rw [find] at hit
    split at hit
    · cases hit
      have short := List.dropWhile_suffix (l := text) fun char => label.value (foldCase char)
      exact ⟨rfl, short.trans (List.suffix_cons char text), ended_dropWhile text⟩
    · rw [later] at hit
      obtain ⟨inner, reached, same⟩ := Option.map_eq_some_iff.mp hit
      rw [← same]
      rcases next_later later (foldCase char) with lost | onward
      · rw [lost, find_lost] at reached
        cases reached
      · obtain ⟨none, short, ended⟩ := hypothesis onward reached
        exact ⟨none, short.trans (List.suffix_cons char text), ended⟩

/-- What a match at the start of a text consists of. -/
structure Parts (label : Labelled) (left : List (List Char))
    (text key rest : List Char) : Prop where
  word : key.map foldCase ∈ left
  nonempty : key ≠ []
  split : ∃ tail, text = key ++ tail ∧ rest <:+ tail
  again : ∀ tail other, label.find .named tail = some ([], other) →
    label.find (.word left) (key ++ tail) = some (key, other)
  ended : label.Ended rest

variable {key : List Char}

theorem Parts.suffix_tail (parts : label.Parts left (char :: text) key rest) : rest <:+ text := by
  obtain ⟨tail, split, short⟩ := parts.split
  cases key with
  | nil => exact absurd rfl parts.nonempty
  | cons first others =>
    rw [List.cons_append, List.cons.injEq] at split
    rw [split.2]
    exact short.trans (List.suffix_append others tail)

theorem Parts.not_quiet (parts : label.Parts label.words text key rest) : ¬label.Quiet text := by
  obtain ⟨tail, split, -⟩ := parts.split
  cases key with
  | nil => exact absurd rfl parts.nonempty
  | cons first others =>
    intro quiet
    rw [split] at quiet
    apply quiet
    rw [heads, List.mem_filterMap]
    exact ⟨_, parts.word, rfl⟩

theorem find_word_cons (left : List (List Char)) (char : Char) (text : List Char) :
    label.find (.word left) (char :: text) =
      (label.find (label.next (.word left) (foldCase char)) text).map
        fun found => (char :: found.1, found.2) := by
  have early : label.next (.word left) (foldCase char) ≠ .found := by
    simp only [next]
    split
    · exact State.noConfusion
    · exact State.noConfusion
  simp [find, early, State.isWord]

theorem parts_of_find (hit : label.find (.word left) text = some (key, rest)) :
    label.Parts left text key rest := by
  induction text generalizing left key with
  | nil => cases hit
  | cons char text hypothesis =>
    rw [find_word_cons] at hit
    obtain ⟨inner, reached, same⟩ := Option.map_eq_some_iff.mp hit
    obtain ⟨key, rest⟩ := inner
    cases same
    by_cases complete : [] ∈ left.filterMap (advance (foldCase char))
    · have moved : label.next (.word left) (foldCase char) = .named := by
        simp only [next, if_pos complete]
      rw [moved] at reached
      obtain ⟨rfl, short, ended⟩ := find_later rfl reached
      refine ⟨mem_filterMap_advance.mp complete, List.cons_ne_nil _ _,
        ⟨text, rfl, short⟩, ?_, ended⟩
      intro tail other again
      rw [List.cons_append, find_word_cons, moved]
      simp [again]
    · have moved : label.next (.word left) (foldCase char) =
          .word (left.filterMap (advance (foldCase char))) := by
        simp only [next, if_neg complete]
      rw [moved] at reached
      obtain ⟨word, -, ⟨tail, split, short⟩, again, ended⟩ := hypothesis reached
      refine ⟨mem_filterMap_advance.mp word, List.cons_ne_nil _ _,
        ⟨tail, by simp [split], short⟩, ?_, ended⟩
      intro tail other found
      rw [List.cons_append, find_word_cons, moved, again tail other found]
      rfl

section

variable {isWord : Char → Bool} {replace : List Char → List Char} {before : Option Char}

theorem match?_eq_none_iff : label.match? isWord before text = none ↔
      (before.any isWord ≠ text.head?.any isWord →
        label.run (.word label.words) text ≠ .found) := by
  rw [Ne, Ne, ← isSome_find State.noConfusion, match?]
  split
  · simp [*]
  · simp [*]

theorem match?_eq_some_iff {found : List Char × List Char} :
    label.match? isWord before text = some found ↔ before.any isWord ≠ text.head?.any isWord ∧
        label.find (.word label.words) text = some found := by
  rw [match?]
  split
  · simp [*]
  · simp [*]

theorem parts_of_match? (hit : label.match? isWord before text = some (key, rest)) :
    label.Parts label.words text key rest :=
  parts_of_find (match?_eq_some_iff.mp hit).2

/-- A text and what is left of it when all matches of `label` are replaced.
Where a character stays, `other` does not match either. -/
inductive Rewrites (label other : Labelled) (isWord : Char → Bool)
    (replace : List Char → List Char) :
    Option Char → List Char → List Char → Prop where
  | nil (before : Option Char) : Rewrites label other isWord replace before [] []
  | keep {before : Option Char} {char : Char} {text result : List Char}
      (unmatched : other.match? isWord before (char :: text) = none)
      (rest : Rewrites label other isWord replace (some char) text result) :
      Rewrites label other isWord replace before (char :: text) (char :: result)
  | change {before last : Option Char} {text key rest result : List Char}
      (hit : label.match? isWord before text = some (key, rest))
      (onward : Rewrites label other isWord replace last rest result) :
      Rewrites label other isWord replace before text (replace key ++ result)

def Free (label : Labelled) (isWord : Char → Bool) : Option Char → List Char → Prop
  | _, [] => True
  | before, char :: text =>
      label.match? isWord before (char :: text) = none ∧ Free label isWord (some char) text

theorem sub_of_free (free : label.Free isWord before text) :
    label.sub isWord replace 0 before text = text := by
  induction text generalizing before with
  | nil => rfl
  | cons char text hypothesis =>
    rw [sub, free.1]
    exact congrArg (char :: ·) (hypothesis free.2)

theorem rewrites_drop_sub {other : Labelled} (skip : Nat) (before : Option Char) (text : List Char)
    (unmatched : label = other ∨ other.Free isWord before text) :
    ∃ last, (skip = 0 → last = before) ∧ Rewrites label other isWord replace last (text.drop skip)
        (label.sub isWord replace skip before text) := by
  induction text generalizing skip before with
  | nil => exact ⟨before, fun _ => rfl, by simpa [sub] using .nil before⟩
  | cons char text hypothesis =>
    have onward := fun skip => hypothesis skip (some char) (unmatched.imp_right And.right)
    cases skip with
    | succ skip =>
      obtain ⟨last, -, rest⟩ := onward skip
      exact ⟨last, fun zero => absurd zero (Nat.succ_ne_zero skip), rest⟩
    | zero =>
      refine ⟨before, fun _ => rfl, ?_⟩
      rw [sub]
      cases hit : label.match? isWord before (char :: text) with
      | none =>
        obtain ⟨last, start, rest⟩ := onward 0
        rw [start rfl] at rest
        refine .keep ?_ rest
        rcases unmatched with rfl | free
        · exact hit
        · exact free.1
      | some found =>
        obtain ⟨key, rest⟩ := found
        have short := (parts_of_match? hit).suffix_tail
        obtain ⟨last, -, onward⟩ := onward (text.length - rest.length)
        rw [← List.suffix_iff_eq_drop.mp short] at onward
        exact .change hit onward

theorem rewrites_sub {other : Labelled} (isWord : Char → Bool) (replace : List Char → List Char)
    (before : Option Char) (text : List Char)
    (unmatched : label = other ∨ other.Free isWord before text) :
    Rewrites label other isWord replace before text (label.sub isWord replace 0 before text) := by
  obtain ⟨last, start, rewrites⟩ := rewrites_drop_sub 0 before text unmatched
  rw [start rfl] at rewrites
  exact rewrites

def inside (label : Labelled) : List State :=
  .word [] :: .named :: .opened :: .found :: label.words.flatMap fun word =>
    (List.range word.length).map fun count =>
      (word.take (count + 1)).foldl label.next (.word label.words)

/-- Reading on from one of these states stays among them. -/
structure Closed (label : Labelled) : Prop where
  begins : (heads label.words).map (label.next (.word label.words)) ⊆ label.inside
  step : ∀ state ∈ label.inside, (heads state.left).map (label.next state) ⊆ label.inside

theorem Closed.next_start (closed : label.Closed) (char : Char) :
    label.next (.word label.words) char ∈ label.inside := by
  by_cases starts : char ∈ heads label.words
  · exact closed.begins (List.mem_map_of_mem starts)
  · rw [next_eq_lost starts]
    exact List.mem_cons_self

theorem Closed.next_inside (closed : label.Closed) (member : state ∈ label.inside) (char : Char) :
    label.next state char ∈ label.inside := by
  cases state with
  | word left =>
    by_cases starts : char ∈ heads left
    · exact closed.step _ member (List.mem_map_of_mem starts)
    · rw [next_eq_lost starts]
      exact List.mem_cons_self
  | found => exact member
  | named =>
    simp only [next]
    cases label.gap char <;> simp [inside]
  | opened =>
    simp only [next]
    cases isSpace char <;> cases label.value char <;> simp [inside]

/-- Replacing what `other` matches makes no match of `label` that was not
there: the word that stays decides every attempt that has begun before it, and
what follows a value begins none. -/
structure Undisturbed (label other : Labelled)
    (replace : List Char → List Char) : Prop extends label.Closed where
  decides : ∀ state ∈ label.inside, ∀ word ∈ other.words, word.foldl label.next state = .found ∨
      word.foldl label.next state = .word []
  parted : (heads label.words).all other.value = true
  keeps : ∀ key, key.map foldCase ∈ other.words →
    ∃ others, (replace key).map foldCase = key.map foldCase ++ others

variable {other : Labelled}

theorem Undisturbed.quiet (calm : label.Undisturbed other replace)
    (ended : other.Ended text) : label.Quiet text := by
  cases text with
  | nil => trivial
  | cons char text =>
    intro starts
    exact Bool.false_ne_true (ended.symm.trans (List.all_eq_true.mp calm.parted _ starts))

variable {result : List Char}

theorem Undisturbed.run_of_rewrites (calm : label.Undisturbed other replace)
    (rewrites : Rewrites other label isWord replace before text result)
    (member : state ∈ label.inside) (found : label.run state result = .found) :
    label.run state text = .found := by
  induction rewrites generalizing state with
  | nil => exact found
  | keep unmatched rest hypothesis => exact hypothesis (calm.next_inside member _) found
  | change hit onward hypothesis =>
    have parts := parts_of_match? hit
    obtain ⟨tail, split, -⟩ := parts.split
    obtain ⟨others, keeps⟩ := calm.keeps _ parts.word
    rw [run, List.map_append, List.foldl_append, keeps, List.foldl_append] at found
    rw [split, run, List.map_append, List.foldl_append]
    rcases calm.decides state member _ parts.word with done | lost
    · rw [done, foldl_found]
    · rw [lost, foldl_lost, foldl_lost] at found
      cases found

variable {after : Option Char}

theorem Undisturbed.match?_keep (calm : label.Undisturbed other replace)
    (rewrites : Rewrites other label isWord replace (some char) text result)
    (unmatched : label.match? isWord before (char :: text) = none)
    (context : after = before ∨ label.Quiet (char :: text)) :
    label.match? isWord after (char :: result) = none := by
  rw [match?_eq_none_iff] at unmatched ⊢
  intro boundary reads
  rcases context with rfl | quiet
  · apply unmatched boundary
    rw [run_cons] at reads ⊢
    exact calm.run_of_rewrites rewrites (calm.next_start _) reads
  · rw [run, List.map_cons, List.foldl_cons, next_eq_lost quiet, foldl_lost] at reads
    cases reads

theorem free_append {label : Labelled} {first second : List Char}
    (lost : ∀ tail ∈ (first.map foldCase).tails, tail ≠ [] →
      tail.foldl label.next (.word label.words) = .word [])
    (free : ∀ before, label.Free isWord before second) :
    label.Free isWord after (first ++ second) := by
  induction first generalizing after with
  | nil => exact free after
  | cons char first hypothesis =>
    refine ⟨?_, ?_⟩
    · change label.match? isWord after (char :: first ++ second) = none
      rw [match?_eq_none_iff, run, List.map_append, List.foldl_append]
      have start := lost _ ((List.mem_tails _ _).mpr List.suffix_rfl) (List.cons_ne_nil _ _)
      intro boundary reads
      rw [start, foldl_lost] at reads
      cases reads
    · apply hypothesis
      intro tail member
      apply lost tail
      rw [List.mem_tails] at member ⊢
      exact member.trans (List.suffix_cons _ _)

theorem Undisturbed.free_of_rewrites (calm : label.Undisturbed other replace)
    (lost : ∀ key, key.map foldCase ∈ other.words →
      ∀ tail ∈ ((replace key).map foldCase).tails, tail ≠ [] →
        tail.foldl label.next (.word label.words) = .word [])
    (rewrites : Rewrites other label isWord replace before text result)
    (context : after = before ∨ label.Quiet text) :
    label.Free isWord after result := by
  induction rewrites generalizing after with
  | nil => trivial
  | keep unmatched rest hypothesis =>
    exact ⟨calm.match?_keep rest unmatched context, hypothesis (.inl rfl)⟩
  | change hit onward hypothesis =>
    have parts := parts_of_match? hit
    apply free_append (lost _ parts.word)
    intro last
    exact hypothesis (.inr (calm.quiet parts.ended))

variable (label isWord replace) in
theorem sub_append (before : Option Char) (first second : List Char) :
    ∃ last, label.sub isWord replace first.length before (first ++ second) =
      label.sub isWord replace 0 last second := by
  induction first generalizing before with
  | nil => exact ⟨before, rfl⟩
  | cons char first hypothesis => exact hypothesis (some char)

theorem Undisturbed.ended_of_rewrites (calm : label.Undisturbed label replace)
    (rewrites : Rewrites label label isWord replace before text result)
    (ended : label.Ended text) : label.Ended result := by
  cases rewrites with
  | nil => trivial
  | keep unmatched rest => exact ended
  | change hit onward => exact absurd (calm.quiet ended) (parts_of_match? hit).not_quiet

/-- Where the new text is the word with a value again, a second pass finds the
same matches and puts the same texts in their place. -/
theorem Undisturbed.sub_of_rewrites (calm : label.Undisturbed label replace)
    (stable : ∀ key, ∃ more, replace key = key ++ more ∧ ∀ tail, label.Ended tail →
        label.find .named (more ++ tail) = some ([], tail))
    (rewrites : Rewrites label label isWord replace before text result)
    (context : after = before ∨ label.Quiet text) :
    label.sub isWord replace 0 after result = result := by
  induction rewrites generalizing after with
  | nil => rfl
  | keep unmatched rest hypothesis =>
    rw [sub, calm.match?_keep rest unmatched context]
    exact congrArg _ (hypothesis (.inl rfl))
  | @change before last text key rest result hit onward hypothesis =>
    have parts := parts_of_match? hit
    obtain rfl := context.resolve_right parts.not_quiet
    obtain ⟨tail, split, -⟩ := parts.split
    obtain ⟨more, form, named⟩ := stable key
    obtain ⟨first, others, rfl⟩ := List.exists_cons_of_ne_nil parts.nonempty
    have again : label.match? isWord after (first :: (others ++ more ++ result)) =
          some (first :: others, result) := by
      rw [match?_eq_some_iff] at hit ⊢
      rw [split] at hit
      refine ⟨hit.1, ?_⟩
      rw [List.append_assoc]
      exact parts.again _ _ (named result (calm.ended_of_rewrites onward parts.ended))
    have covered : (others ++ more ++ result).length - result.length = (others ++ more).length := by
      rw [List.length_append, Nat.add_sub_cancel]
    obtain ⟨last, skipped⟩ := sub_append label isWord replace (some first) (others ++ more) result
    rw [form, List.cons_append, List.cons_append, sub, again]
    simp only [covered, skipped, form]
    rw [hypothesis (.inr (calm.quiet parts.ended))]
    rfl

end

end Labelled

end TrpcService.Data
