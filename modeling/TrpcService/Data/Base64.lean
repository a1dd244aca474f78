import Mathlib.Data.List.Basic

/-! URL-safe base64 without padding, and the lenient decoder of `binascii`:
what is not in the alphabet is skipped, and the padding ends the input. -/

namespace TrpcService.Data.Base64

def alphabet : List Char :=
  "ABCDEFGHIJKLMNOPQRSTUVWXYZabcdefghijklmnopqrstuvwxyz0123456789-_".toList

def symbol (value : Nat) : Char := alphabet.getD value 'A'

/-- The value of a symbol.  The standard alphabet is read as well. -/
def value? (symbol : Char) : Option Nat := if symbol = '+' then some 62
  else if symbol = '/' then some 63
  else alphabet.findIdx? (· = symbol)

def encode : List UInt8 → List Char
  | [] => []
  | [first] => [symbol (first.toNat / 4), symbol (first.toNat % 4 * 16)]
  | [first, second] =>
      [symbol (first.toNat / 4), symbol (first.toNat % 4 * 16 + second.toNat / 16),
        symbol (second.toNat % 16 * 4)]
  | first :: second :: third :: rest =>
      symbol (first.toNat / 4) :: symbol (first.toNat % 4 * 16 + second.toNat / 16) ::
        symbol (second.toNat % 16 * 4 + third.toNat / 64) ::
        symbol (third.toNat % 64) :: encode rest

/-- Read on at a position within a quad, with the bits left over from the
symbol before and the number of padding characters seen since. -/
def scan : List Char → Fin 4 → Nat → Nat → Option (List UInt8)
  | [], position, _, _ => if position = 0 then some [] else none
  | symbol :: rest, position, left, pads =>
      if symbol = '=' then if 2 ≤ position.val then if 4 ≤ position.val + pads + 1 then some []
          else scan rest position left (pads + 1)
        else scan rest position left pads
      else
        match value? symbol with
        | none => scan rest position left pads
        | some value =>
            match position with
            | 0 => scan rest 1 value 0
            | 1 => (scan rest 2 (value % 16) 0).map (.ofNat (left * 4 + value / 16) :: ·)
            | 2 => (scan rest 3 (value % 4) 0).map (.ofNat (left * 16 + value / 4) :: ·)
            | 3 => (scan rest 0 0 0).map (.ofNat (left * 64 + value) :: ·)

def decode (text : List Char) : Option (List UInt8) :=
  if text.all fun symbol => symbol.toNat < 128 then scan text 0 0 0 else none

def padded (text : List Char) : List Char := text ++ List.replicate ((4 - text.length % 4) % 4) '='

theorem value?_symbol : ∀ value < 64, value? (symbol value) = some value := by
  decide +kernel

theorem symbol_ne_pad : ∀ value < 64, symbol value ≠ '=' := by
  decide +kernel

theorem symbol_ascii : ∀ value < 64, (symbol value).toNat < 128 := by
  decide +kernel

theorem mem_encode (bytes : List UInt8) (character : Char) (member : character ∈ encode bytes) :
    ∃ value < 64, character = symbol value := by
  induction bytes using encode.induct with
  | case1 => exact nomatch member
  | case2 first =>
    have bound := first.toNat_lt
    simp only [encode, List.mem_cons, List.not_mem_nil, or_false] at member
    rcases member with rfl | rfl
    · exact ⟨_, by omega, rfl⟩
    · exact ⟨_, by omega, rfl⟩
  | case3 first second =>
    have bound := first.toNat_lt
    have bound' := second.toNat_lt
    simp only [encode, List.mem_cons, List.not_mem_nil, or_false] at member
    rcases member with rfl | rfl | rfl
    · exact ⟨_, by omega, rfl⟩
    · exact ⟨_, by omega, rfl⟩
    · exact ⟨_, by omega, rfl⟩
  | case4 first second third rest induction =>
    have bound := first.toNat_lt
    have bound' := second.toNat_lt
    have bound'' := third.toNat_lt
    simp only [encode, List.mem_cons] at member
    rcases member with rfl | rfl | rfl | rfl | member
    · exact ⟨_, by omega, rfl⟩
    · exact ⟨_, by omega, rfl⟩
    · exact ⟨_, by omega, rfl⟩
    · exact ⟨_, by omega, rfl⟩
    · exact induction member

theorem not_mem_encode (bytes : List UInt8) {character : Char}
    (other : ∀ value < 64, symbol value ≠ character) : character ∉ encode bytes := by
  intro member
  obtain ⟨value, small, same⟩ := mem_encode bytes character member
  exact other value small same.symm

section Symbols

variable {value : Nat} (small : value < 64) (rest : List Char) (left pads : Nat)

include small

theorem scan_first : scan (symbol value :: rest) 0 left pads = scan rest 1 value 0 := by
  rw [scan, if_neg (symbol_ne_pad value small), value?_symbol value small]

theorem scan_second : scan (symbol value :: rest) 1 left pads = (scan rest 2 (value % 16) 0).map
        (.ofNat (left * 4 + value / 16) :: ·) := by
  rw [scan, if_neg (symbol_ne_pad value small), value?_symbol value small]

theorem scan_third : scan (symbol value :: rest) 2 left pads = (scan rest 3 (value % 4) 0).map
        (.ofNat (left * 16 + value / 4) :: ·) := by
  rw [scan, if_neg (symbol_ne_pad value small), value?_symbol value small]

theorem scan_fourth : scan (symbol value :: rest) 3 left pads =
      (scan rest 0 0 0).map (.ofNat (left * 64 + value) :: ·) := by
  rw [scan, if_neg (symbol_ne_pad value small), value?_symbol value small]

end Symbols

theorem ofNat_eq {byte : UInt8} {value : Nat} (same : value = byte.toNat) :
    UInt8.ofNat value = byte := by
  rw [same, UInt8.ofNat_toNat]

theorem scan_encode (bytes : List UInt8) : scan (padded (encode bytes)) 0 0 0 = some bytes := by
  induction bytes using encode.induct with
  | case1 => rfl
  | case2 first =>
    have bound := first.toNat_lt
    simp only [padded, encode, List.length_cons, List.length_nil, List.cons_append, List.nil_append]
    rw [scan_first (by omega), scan_second (by omega), @ofNat_eq first _ (by omega)]
    rfl
  | case3 first second =>
    have bound := first.toNat_lt
    have bound' := second.toNat_lt
    simp only [padded, encode, List.length_cons, List.length_nil, List.cons_append, List.nil_append]
    rw [scan_first (by omega), scan_second (by omega), scan_third (by omega), @ofNat_eq first _
      (by omega), @ofNat_eq second _ (by omega)]
    rfl
  | case4 first second third rest induction =>
    have bound := first.toNat_lt
    have bound' := second.toNat_lt
    have bound'' := third.toNat_lt
    have same : ((encode rest).length + 1 + 1 + 1 + 1) % 4 =
        (encode rest).length % 4 := by omega
    simp only [padded, encode, List.length_cons, List.cons_append, same]
    rw [scan_first (by omega), scan_second (by omega),
      scan_third (by omega), scan_fourth (by omega)]
    rw [padded] at induction
    rw [induction, @ofNat_eq first _ (by omega),
      @ofNat_eq second _ (by omega), @ofNat_eq third _ (by omega)]
    rfl

theorem decode_padded_encode (bytes : List UInt8) :
    decode (padded (encode bytes)) = some bytes := by
  have ascii : (padded (encode bytes)).all (fun symbol => symbol.toNat < 128) = true := by
    refine List.all_eq_true.mpr fun character member => ?_
    rcases List.mem_append.mp member with encoded | padding
    · obtain ⟨value, small, rfl⟩ := mem_encode bytes character encoded
      simpa using symbol_ascii value small
    · rw [List.eq_of_mem_replicate padding]
      rfl
  rw [decode, if_pos ascii, scan_encode]

end TrpcService.Data.Base64
