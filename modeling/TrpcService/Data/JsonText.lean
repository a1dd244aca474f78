import Mathlib.Tactic.IntervalCases
import TrpcService.Data.EncodedText

/-! The compact JSON text of strings and of arrays of strings, with other
characters than ASCII ones left as they are. -/

namespace TrpcService.Data.JsonText

def escape (character : Char) : List Char := if character = '"' then ['\\', '"']
  else if character = '\\' then ['\\', '\\']
  else if character = '\n' then ['\\', 'n']
  else if character = '\r' then ['\\', 'r']
  else if character = '\t' then ['\\', 't']
  else if character.toNat = 12 then ['\\', 'f']
  else if character.toNat = 8 then ['\\', 'b']
  else if character.toNat < 32 then ['\\', 'u', '0', '0', hexDigit (character.toNat / 16),
      hexDigit (character.toNat % 16)]
  else [character]

def closing : List Char → List Char
  | [] => ['"']
  | character :: rest => escape character ++ closing rest

def quoted (text : String) : List Char := '"' :: closing text.toList

def ending : List String → List Char
  | [] => [']']
  | item :: rest => ',' :: quoted item ++ ending rest

def array : List String → List Char
  | [] => ['[', ']']
  | item :: rest => '[' :: quoted item ++ ending rest

def isPlain (character : Char) : Bool :=
  character ≠ '"' && character ≠ '\\' && 32 ≤ character.toNat

/-- Read a string in which nothing is escaped. -/
def readPlain (text : List Char) : Option (String × List Char) := do
  let text ← expect '"' text
  let rest ← expect '"' (text.dropWhile isPlain)
  some (String.ofList (text.takeWhile isPlain), rest)

def readPair (text : List Char) : Option (String × String) := do
  let text ← expect '[' text
  let (first, text) ← readPlain text
  let text ← expect ',' text
  let (second, text) ← readPlain text
  if text = [']'] then some (first, second) else none

theorem closing_of_plain {text : List Char} (plain : ∀ character ∈ text, isPlain character) :
    closing text = text ++ ['"'] := by
  induction text with
  | nil => rfl
  | cons character text hypothesis =>
    have here := plain character List.mem_cons_self
    simp only [isPlain, Bool.and_eq_true, decide_eq_true_eq] at here
    obtain ⟨⟨quote, slash⟩, control⟩ := here
    have line : character ≠ '\n' := by
      rintro rfl
      exact absurd control (by decide)
    have carriage : character ≠ '\r' := by
      rintro rfl
      exact absurd control (by decide)
    have tab : character ≠ '\t' := by
      rintro rfl
      exact absurd control (by decide)
    have alone : escape character = [character] := by
      simp only [escape, quote, slash, line, carriage, tab, if_false]
      rw [if_neg (by omega), if_neg (by omega), if_neg (by omega)]
    rw [closing, alone, hypothesis fun other member => plain other (List.mem_cons_of_mem _ member)]
    rfl

theorem readPlain_quoted {text : List Char} (plain : ∀ character ∈ text, isPlain character)
    (rest : List Char) :
    readPlain (quoted (String.ofList text) ++ rest) = some (String.ofList text, rest) := by
  have marks : isPlain '"' = false := by decide
  simp only [readPlain, quoted, String.toList_ofList, closing_of_plain plain, List.cons_append,
    List.append_assoc, expect, if_true, Option.bind_eq_bind, Option.bind_some]
  rw [List.dropWhile_append_of_pos plain, List.takeWhile_append_of_pos plain]
  simp [marks]

theorem readPair_array {first second : List Char} (one : ∀ character ∈ first, isPlain character)
    (two : ∀ character ∈ second, isPlain character) :
    readPair (array [String.ofList first, String.ofList second]) =
      some (String.ofList first, String.ofList second) := by
  simp only [readPair, array, ending, List.cons_append, expect, if_true, Option.bind_eq_bind,
    Option.bind_some, readPlain_quoted one, readPlain_quoted two]

def hexValue (digit : Char) : Nat := "0123456789abcdef".toList.idxOf digit

def read : List Char → Option (Char × List Char)
  | '\\' :: 'u' :: _ :: _ :: high :: low :: rest =>
      some (.ofNat (16 * hexValue high + hexValue low), rest)
  | '\\' :: 'n' :: rest => some ('\n', rest)
  | '\\' :: 'r' :: rest => some ('\r', rest)
  | '\\' :: 't' :: rest => some ('\t', rest)
  | '\\' :: 'f' :: rest => some (.ofNat 12, rest)
  | '\\' :: 'b' :: rest => some (.ofNat 8, rest)
  | '\\' :: character :: rest => some (character, rest)
  | '"' :: _ => none
  | character :: rest => some (character, rest)
  | [] => none

theorem read_escape (character : Char) (rest : List Char) :
    read (escape character ++ rest) = some (character, rest) := by
  by_cases quote : character = '"'
  · subst quote
    rfl
  by_cases slash : character = '\\'
  · subst slash
    rfl
  by_cases control : character.toNat < 32
  · have same : character = .ofNat character.toNat := (Char.ofNat_toNat character).symm
    generalize character.toNat = code at same control
    subst same
    interval_cases code <;> rfl
  · have line : character ≠ '\n' := by
      rintro rfl
      exact control (by decide)
    have carriage : character ≠ '\r' := by
      rintro rfl
      exact control (by decide)
    have tab : character ≠ '\t' := by
      rintro rfl
      exact control (by decide)
    have feed : character.toNat ≠ 12 := by omega
    have back : character.toNat ≠ 8 := by omega
    have plain : escape character = [character] := by
      simp [escape, quote, slash, line, carriage, tab, feed, back, control]
    rw [plain, List.singleton_append]
    unfold read
    split <;> simp_all

theorem read_closing (character : Char) (rest tail : List Char) :
    read (closing (character :: rest) ++ tail) = some (character, closing rest ++ tail) := by
  rw [closing, List.append_assoc, read_escape]

variable {left right : List Char}

theorem closing_inj {first second : List Char}
    (same : closing first ++ left = closing second ++ right) : first = second ∧ left = right := by
  induction first generalizing second with
  | nil =>
    cases second with
    | nil => exact ⟨rfl, (List.cons.inj same).2⟩
    | cons character rest =>
      have reads := congrArg read same
      rw [read_closing] at reads
      cases reads
  | cons character rest induction =>
    have reads := congrArg read same
    rw [read_closing] at reads
    cases second with
    | nil => cases reads
    | cons other others =>
      rw [read_closing] at reads
      obtain ⟨rfl, tails⟩ := Prod.mk.inj (Option.some.inj reads)
      obtain ⟨rfl, rests⟩ := induction tails
      exact ⟨rfl, rests⟩

theorem quoted_inj {first second : String} (same : quoted first ++ left = quoted second ++ right) :
    first = second ∧ left = right := by
  obtain ⟨characters, rests⟩ := closing_inj (List.cons.inj same).2
  exact ⟨String.toList_inj.mp characters, rests⟩

theorem ending_append (item : String) (rest : List String) (tail : List Char) :
    ending (item :: rest) ++ tail = ',' :: (quoted item ++ (ending rest ++ tail)) := by
  simp [ending]

theorem array_append (item : String) (rest : List String) (tail : List Char) :
    array (item :: rest) ++ tail = '[' :: (quoted item ++ (ending rest ++ tail)) := by
  simp [array]

theorem ending_inj {first second : List String}
    (same : ending first ++ left = ending second ++ right) : first = second ∧ left = right := by
  induction first generalizing second with
  | nil =>
    cases second with
    | nil => exact ⟨rfl, (List.cons.inj same).2⟩
    | cons item rest => exact absurd (List.cons.inj same).1 (by decide)
  | cons item rest induction =>
    cases second with
    | nil => exact absurd (List.cons.inj same).1 (by decide)
    | cons other others =>
      rw [ending_append, ending_append] at same
      obtain ⟨rfl, tails⟩ := quoted_inj (List.cons.inj same).2
      obtain ⟨rfl, rests⟩ := induction tails
      exact ⟨rfl, rests⟩

theorem array_inj {first second : List String}
    (same : array first ++ left = array second ++ right) : first = second ∧ left = right := by
  cases first with
  | nil =>
    cases second with
    | nil => exact ⟨rfl, (List.cons.inj (List.cons.inj same).2).2⟩
    | cons item rest =>
      have tails := (List.cons.inj same).2
      exact absurd (List.cons.inj tails).1 (by decide)
  | cons item rest =>
    cases second with
    | nil =>
      have tails := (List.cons.inj same).2
      exact absurd (List.cons.inj tails).1 (by decide)
    | cons other others =>
      rw [array_append, array_append] at same
      obtain ⟨rfl, tails⟩ := quoted_inj (List.cons.inj same).2
      obtain ⟨rfl, rests⟩ := ending_inj tails
      exact ⟨rfl, rests⟩

end TrpcService.Data.JsonText
