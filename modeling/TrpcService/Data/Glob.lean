import Mathlib.Data.List.Infix

/-! Glob patterns as Redis matches them, character by character. -/

namespace TrpcService.Data.Glob

structure CharClass where
  negated : Bool
  ranges : List (Char × Char)
  deriving DecidableEq

namespace CharClass

def add (among : CharClass) (first last : Char) : CharClass :=
  { among with ranges := (first, last) :: among.ranges }

/-- A range may be given in either order. -/
def takes (among : CharClass) (character : Char) : Bool :=
  among.negated != among.ranges.any fun (first, last) => min first.val last.val ≤ character.val &&
      character.val ≤ max first.val last.val

end CharClass

inductive Token where
  | literal (character : Char)
  | one
  | many
  | among (among : CharClass)
  deriving DecidableEq

/-- The tokens of a pattern, from within a bracket that is open or not.  A
backslash takes the character after it literally; one at the end stands for
itself. -/
def tokens : Option CharClass → List Char → List Token
  | none, [] => []
  | none, '*' :: rest => .many :: tokens none rest
  | none, '?' :: rest => .one :: tokens none rest
  | none, '\\' :: character :: rest => .literal character :: tokens none rest
  | none, '[' :: '^' :: rest => tokens (some ⟨true, []⟩) rest
  | none, '[' :: rest => tokens (some ⟨false, []⟩) rest
  | none, character :: rest => .literal character :: tokens none rest
  | some among, [] => [.among among]
  | some among, '\\' :: character :: rest => tokens (some (among.add character character)) rest
  | some among, ']' :: rest => .among among :: tokens none rest
  | some among, first :: '-' :: last :: rest => tokens (some (among.add first last)) rest
  | some among, character :: rest => tokens (some (among.add character character)) rest

def accepts : List Token → List Char → Bool
  | [], text => text.isEmpty
  | .many :: rest, text => text.tails.any (accepts rest)
  | .literal character :: rest, next :: text => character = next && accepts rest text
  | .one :: rest, _ :: text => accepts rest text
  | .among among :: rest, next :: text => among.takes next && accepts rest text
  | _ :: _, [] => false

/-- `SCAN` with `MATCH`. -/
def isMatch (pattern text : List Char) : Bool := accepts (tokens none pattern) text

def escape : List Char → List Char
  | [] => []
  | character :: rest =>
      if character = '\\' ∨ character = '*' ∨ character = '?' ∨ character = '[' then
        '\\' :: character :: escape rest
      else character :: escape rest

theorem tokens_escape (text rest : List Char) :
    tokens none (escape text ++ rest) = text.map .literal ++ tokens none rest := by
  induction text with
  | nil => rfl
  | cons character text induction =>
    rw [escape]
    split
    case isTrue => exact congrArg (Token.literal character :: ·) induction
    case isFalse plain =>
      simp only [not_or] at plain
      rw [List.cons_append, tokens, induction]
      · rfl
      · exact plain.2.1
      · exact plain.2.2.1
      · rintro _ _ rfl
        exact absurd rfl plain.1
      · rintro _ rfl
        exact absurd rfl plain.2.2.2
      · exact plain.2.2.2

theorem escape_append (first second : List Char) :
    escape (first ++ second) = escape first ++ escape second := by
  induction first with
  | nil => rfl
  | cons character first induction =>
    rw [List.cons_append, escape, escape, induction]
    split
    · rfl
    · rfl

theorem accepts_many (text : List Char) : accepts [.many] text = true := by
  rw [accepts]
  exact List.any_eq_true.mpr ⟨[], (List.mem_tails ..).mpr (List.nil_suffix ..), rfl⟩

/-- An escaped text matches itself, and with a star whatever starts with it. -/
theorem isMatch_escape_many (text rest : List Char) :
    isMatch (escape text ++ ['*']) (text ++ rest) = true := by
  have star : tokens none ['*'] = [.many] := rfl
  rw [isMatch, tokens_escape, star]
  induction text with
  | nil => exact accepts_many rest
  | cons character text induction =>
    rw [List.map_cons, List.cons_append, List.cons_append, accepts, induction]
    simp

end TrpcService.Data.Glob
