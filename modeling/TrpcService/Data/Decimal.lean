import Mathlib.Data.Nat.Log
import Mathlib.Tactic.Ring
import TrpcService.Data.Labelled

namespace TrpcService.Data.Decimal

/-! Decimal numerals as Python writes and reads them. -/

def digit (value : Nat) : Char := Char.ofNat (48 + value % 10)

def digitValue (char : Char) : Option (Fin 10) :=
  if '0' ≤ char ∧ char ≤ '9' then some (Fin.ofNat 10 (char.toNat - 48))
  else none

/-- The last digits of a number, as many as the width says. -/
def padded : Nat → Nat → List Char
  | 0, _ => []
  | width + 1, value => digit (value / 10 ^ width) :: padded width value

def readDigits : Nat → Nat → List Char → Option (Nat × List Char)
  | 0, value, text => some (value, text)
  | _ + 1, _, [] => none
  | width + 1, value, char :: text =>
      (digitValue char).bind fun digit => readDigits width (10 * value + digit) text

/-- `sys.get_int_max_str_digits()`. -/
def maxDigits : Nat := 4300

/-- `str` of a number that is not negative; too many digits are an error. -/
def str (value : Nat) : Option (List Char) :=
  if Nat.log 10 value + 1 ≤ maxDigits then
    some (padded (Nat.log 10 value + 1) value)
  else none

/-- Digits with single low lines between them: how many there are and their
value. `after` tells whether a digit is in front. -/
def readNumber (decimal : Char → Option (Fin 10)) :
    Bool → Nat → Nat → List Char → Option (Nat × Nat)
  | after, count, value, [] => if after then some (count, value) else none
  | after, count, value, char :: text =>
      if char = '_' then if after then readNumber decimal false count value text else none
      else ((digitValue char).or (decimal char)).bind fun digit =>
          readNumber decimal true (count + 1) (10 * value + digit) text

/-- The separators of ASCII are no space to `int`. -/
def isIntSpace (char : Char) : Bool := isSpace char && !(28 ≤ char.toNat && char.toNat ≤ 31)

def strip (text : List Char) : List Char :=
  ((text.dropWhile isIntSpace).reverse.dropWhile isIntSpace).reverse

/-- `int` of a text; `decimal` knows the digits of other scripts. -/
def int (decimal : Char → Option (Fin 10)) (text : List Char) : Option Int :=
  let text := strip text
  let negative := text.head? = some '-'
  let digits := if negative ∨ text.head? = some '+' then text.tail else text
  (readNumber decimal false 0 0 digits).bind fun number => if number.1 ≤ maxDigits then
      some (if negative then -(number.2 : Int) else (number.2 : Int))
    else none

theorem digit_props (value : Nat) : digitValue (digit value) = some (Fin.ofNat 10 value) ∧
      isIntSpace (digit value) = false ∧ digit value ∉ "_+-Z".toList := by
  have all : ∀ last : Fin 10, digitValue (Char.ofNat (48 + last)) = some last ∧
        isIntSpace (Char.ofNat (48 + last)) = false ∧ Char.ofNat (48 + last) ∉ "_+-Z".toList := by
    decide +kernel
  exact all (Fin.ofNat 10 value)

theorem step_value (width total value : Nat) :
    (10 * total + value / 10 ^ width % 10) * 10 ^ width + value % 10 ^ width =
      total * 10 ^ (width + 1) + value % 10 ^ (width + 1) := by
  rw [Nat.mod_pow_succ]
  ring

theorem readDigits_padded (width total value : Nat) (rest : List Char) :
    readDigits width total (padded width value ++ rest) =
      some (total * 10 ^ width + value % 10 ^ width, rest) := by
  induction width generalizing total with
  | zero => simp [readDigits, padded, Nat.mod_one]
  | succ width hypothesis =>
    rw [padded, List.cons_append, readDigits, (digit_props _).1,
      Option.bind_some, hypothesis, ← step_value]
    rfl

theorem readNumber_padded (decimal : Char → Option (Fin 10)) {after : Bool} {width : Nat}
    (count total value : Nat) (begun : after = true ∨ width ≠ 0) :
    readNumber decimal after count total (padded width value) =
      some (count + width, total * 10 ^ width + value % 10 ^ width) := by
  induction width generalizing after count total with
  | zero =>
    obtain rfl := begun.resolve_right (absurd rfl)
    simp [readNumber, padded, Nat.mod_one]
  | succ width hypothesis =>
    obtain ⟨read, -, other⟩ := digit_props (value / 10 ^ width)
    have plain : digit (value / 10 ^ width) ≠ '_' := by
      intro same
      exact other (by simp [same])
    rw [padded, readNumber, if_neg plain, read, Option.some_or,
      Option.bind_some, hypothesis _ _ (.inl rfl), ← step_value]
    simp [Nat.add_assoc, Nat.add_comm 1]

variable {value : Nat}

theorem mem_padded {char : Char} {width : Nat} (member : char ∈ padded width value) :
    ∃ value, char = digit value := by
  induction width with
  | zero => cases member
  | succ width hypothesis =>
    cases member with
    | head => exact ⟨_, rfl⟩
    | tail _ later => exact hypothesis later

theorem strip_padded (width value : Nat) : strip (padded width value) = padded width value := by
  have kept : ∀ text : List Char, (∀ char ∈ text, isIntSpace char = false) →
      text.dropWhile isIntSpace = text := by
    intro text plain
    cases text with
    | nil => rfl
    | cons char text =>
      exact List.dropWhile_cons_of_neg (Bool.eq_false_iff.mp (plain char List.mem_cons_self))
  have plain : ∀ char ∈ padded width value, isIntSpace char = false := by
    intro char member
    obtain ⟨digit, rfl⟩ := mem_padded member
    exact (digit_props digit).2.1
  rw [strip, kept _ plain, kept, List.reverse_reverse]
  intro char member
  exact plain char (List.mem_reverse.mp member)

variable {decimal : Char → Option (Fin 10)} {text : List Char}

theorem int_str (written : str value = some text) : int decimal text = some (value : Int) := by
  rw [str] at written
  split at written
  · rename_i short
    cases written
    have small := Nat.lt_pow_succ_log_self (b := 10) (by decide) value
    obtain ⟨-, -, other⟩ := digit_props (value / 10 ^ Nat.log 10 value)
    have signs : ['-', '+'] ⊆ "_+-Z".toList := by decide +kernel
    have unsigned : ∀ sign ∈ ['-', '+'],
        (padded (Nat.log 10 value + 1) value).head? ≠ some sign := by
      intro sign member same
      rw [padded, List.head?_cons, Option.some.injEq] at same
      exact other (same ▸ signs member)
    simp only [int, strip_padded, unsigned '-' (by simp), unsigned '+' (by simp), or_self, if_false,
      readNumber_padded decimal 0 0 value (.inr (Nat.succ_ne_zero _)), Option.bind_some,
      Nat.zero_add, short, if_true, Nat.zero_mul, Nat.mod_eq_of_lt small]
  · cases written

theorem readNumber_lt {after : Bool} {count total : Nat} {number : Nat × Nat}
    (small : total < 10 ^ count) (read : readNumber decimal after count total text = some number) :
    number.2 < 10 ^ number.1 := by
  induction text generalizing after count total with
  | nil =>
    rw [readNumber] at read
    split at read
    · cases read
      exact small
    · cases read
  | cons char text hypothesis =>
    rw [readNumber] at read
    split at read
    · split at read
      · exact hypothesis small read
      · cases read
    · obtain ⟨digit, -, read⟩ := Option.bind_eq_some_iff.mp read
      apply hypothesis _ read
      have last := digit.isLt
      rw [Nat.pow_succ]
      omega

theorem exists_str_of_int (read : int decimal text = some ↑value) :
    ∃ written, str value = some written := by
  obtain ⟨number, reads, same⟩ := Option.bind_eq_some_iff.mp read
  split at same
  · rename_i short
    have below : value ≤ number.2 := by
      split at same
      · have := Option.some.inj same
        omega
      · have := Option.some.inj same
        omega
    have small : value < 10 ^ maxDigits := calc
      value ≤ number.2 := below
      _ < 10 ^ number.1 := readNumber_lt Nat.zero_lt_one reads
      _ ≤ 10 ^ maxDigits := Nat.pow_le_pow_right (by decide) short
    have fits : Nat.log 10 value + 1 ≤ maxDigits := Nat.log_lt_of_lt_pow' (by decide) small
    exact ⟨_, if_pos fits⟩
  · cases same

end TrpcService.Data.Decimal
