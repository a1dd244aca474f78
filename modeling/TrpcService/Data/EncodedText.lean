import Mathlib.Tactic.Ring
import TrpcService.Data.Base64

/-! Text as bytes, as hexadecimal digits and as parts of a name that contain no
dot; the text of a UUID; and values of JSON. -/

namespace TrpcService.Data

/-- What `json.loads` gives; a dictionary keeps the order of its keys. -/
inductive JsonValue (Double : Type) where
  | none
  | bool (value : Bool)
  | int (value : Int)
  | float (value : Double)
  | str (value : String)
  | list (items : List (JsonValue Double))
  | dict (fields : List (String × JsonValue Double))

abbrev Fields (Double : Type) := List (String × JsonValue Double)

def encodeUtf8 (text : String) : List UInt8 := text.toUTF8.data.toList

def decodeUtf8 (bytes : List UInt8) : Option String := String.fromUTF8? ⟨bytes.toArray⟩

theorem decodeUtf8_encodeUtf8 (text : String) : decodeUtf8 (encodeUtf8 text) = some text := by
  simp only [decodeUtf8, encodeUtf8, Array.toArray_toList, String.fromUTF8?]
  exact dif_pos text.isValidUTF8

def hexDigit (value : Nat) : Char := "0123456789abcdef".toList.getD value '0'

def hexDigest (digest : List UInt8) : String := String.ofList (digest.flatMap fun byte =>
    [hexDigit (byte.toNat / 16), hexDigit (byte.toNat % 16)])

def encodePart (text : String) : String := String.ofList (Base64.encode (encodeUtf8 text))

def decodePart (part : List Char) : Option String :=
  (Base64.decode (Base64.padded part)).bind decodeUtf8

/-- `str.partition(".")`; the separator is missing if nothing is left. -/
def partitionDot (text : List Char) : List Char × List Char :=
  (text.takeWhile (· ≠ '.'), text.dropWhile (· ≠ '.'))

theorem decodePart_encodePart (text : String) :
    decodePart (encodePart text).toList = some text := by
  rw [decodePart, encodePart, String.toList_ofList, Base64.decode_padded_encode]
  exact decodeUtf8_encodeUtf8 text

theorem partitionDot_append {part : List Char} (dotless : '.' ∉ part) (rest : List Char) :
    partitionDot (part ++ '.' :: rest) = (part, '.' :: rest) := by
  have passes : ∀ character ∈ part, decide (character ≠ '.') = true := by
    intro character member
    exact decide_eq_true fun dot => dotless (dot ▸ member)
  rw [partitionDot, List.takeWhile_append_of_pos passes, List.dropWhile_append_of_pos passes]
  simp

theorem dot_not_mem_encodePart (text : String) : '.' ∉ (encodePart text).toList := by
  rw [encodePart, String.toList_ofList]
  exact Base64.not_mem_encode _ (by decide +kernel)

theorem colon_not_mem_encodePart (text : String) : ':' ∉ (encodePart text).toList := by
  rw [encodePart, String.toList_ofList]
  exact Base64.not_mem_encode _ (by decide +kernel)

def expect (wanted : Char) : List Char → Option (List Char)
  | [] => none
  | char :: text => if char = wanted then some text else none

/-- `skip` counts what a match still covers. -/
def replaceAll (old new : List Char) : Nat → List Char → List Char
  | _, [] => []
  | skip + 1, _ :: text => replaceAll old new skip text
  | 0, char :: text =>
      if old.isPrefixOf (char :: text) then new ++ replaceAll old new (old.length - 1) text
      else char :: replaceAll old new 0 text

theorem replaceAll_append {first : Char} {others new text rest : List Char}
    (absent : ∀ char ∈ text, char ≠ first) :
    replaceAll (first :: others) new 0 (text ++ rest) =
      text ++ replaceAll (first :: others) new 0 rest := by
  induction text with
  | nil => rfl
  | cons char text hypothesis =>
    have differs : (first == char) = false :=
      beq_eq_false_iff_ne.mpr (absent char List.mem_cons_self).symm
    rw [List.cons_append, replaceAll, List.isPrefixOf, differs,
      Bool.false_and, if_neg Bool.false_ne_true, hypothesis
        fun other member => absent other (List.mem_cons_of_mem _ member)]
    rfl

/-- The last digits to base 16, as many as the width says. -/
def hexPadded : Nat → Nat → List Char
  | 0, _ => []
  | width + 1, value => hexDigit (value / 16 ^ width % 16) :: hexPadded width value

def hexDigitValue (char : Char) : Option Nat :=
  "0123456789abcdef".toList.findIdx? (· = char.toLower)

def readHex : Nat → List Char → Option Nat
  | total, [] => some total
  | total, char :: text => (hexDigitValue char).bind fun digit => readHex (16 * total + digit) text

theorem hexDigit_props (digit : Fin 16) : hexDigitValue (hexDigit digit) = some digit.1 ∧
    hexDigit digit ∈ "0123456789abcdef".toList := by
  revert digit
  decide +kernel

theorem readHex_hexPadded (width total value : Nat) :
    readHex total (hexPadded width value) = some (total * 16 ^ width + value % 16 ^ width) := by
  induction width generalizing total with
  | zero => simp [readHex, hexPadded, Nat.mod_one]
  | succ width hypothesis =>
    have digit : hexDigitValue (hexDigit (value / 16 ^ width % 16)) =
        some (value / 16 ^ width % 16) := (hexDigit_props (Fin.ofNat 16 _)).1
    have step : (16 * total + value / 16 ^ width % 16) * 16 ^ width + value % 16 ^ width =
        total * 16 ^ (width + 1) + value % 16 ^ (width + 1) := by
      rw [Nat.mod_pow_succ]
      ring
    rw [hexPadded, readHex, digit, Option.bind_some, hypothesis, ← step]

theorem length_hexPadded (width value : Nat) : (hexPadded width value).length = width := by
  induction width with
  | zero => rfl
  | succ width hypothesis => rw [hexPadded, List.length_cons, hypothesis]

theorem mem_hexPadded {char : Char} {width value : Nat} (member : char ∈ hexPadded width value) :
    char ∈ "0123456789abcdef".toList := by
  induction width with
  | zero => cases member
  | succ width hypothesis =>
    rcases List.mem_cons.mp member with rfl | later
    · exact (hexDigit_props (Fin.ofNat 16 _)).2
    · exact hypothesis later

abbrev Uuid := Fin (2 ^ 128)

def Uuid.str (id : Uuid) : List Char :=
  let hex := hexPadded 32 id
  hex.take 8 ++ '-' :: ((hex.drop 8).take 4 ++ '-' :: ((hex.drop 12).take 4 ++
    '-' :: ((hex.drop 16).take 4 ++ '-' :: hex.drop 20)))

/-- The constructor on a text; `int16` knows the other forms of a number to
base 16. -/
def uuid (int16 : List Char → Option Nat) (text : List Char) : Option Uuid :=
  let brace := fun char => char = '{' || char = '}'
  let hex := replaceAll "uuid:".toList [] 0 (replaceAll "urn:".toList [] 0 text)
  let hex := ((hex.dropWhile brace).reverse.dropWhile brace).reverse
  let hex := hex.filter (· ≠ '-')
  if hex.length = 32 then ((readHex 0 hex).or (int16 hex)).bind fun value =>
      if small : value < 2 ^ 128 then some ⟨value, small⟩ else none
  else none

theorem Uuid.mem_str {id : Uuid} {char : Char} (member : char ∈ id.str) :
    char ∈ "0123456789abcdef-".toList := by
  have wider : "0123456789abcdef".toList ⊆ "0123456789abcdef-".toList := by decide +kernel
  have dash : '-' ∈ "0123456789abcdef-".toList := by decide +kernel
  simp only [str, List.mem_append, List.mem_cons] at member
  rcases member with one | rfl | two | rfl | three | rfl | four | rfl | five
  · exact wider (mem_hexPadded (List.mem_of_mem_take one))
  · exact dash
  · exact wider (mem_hexPadded (List.mem_of_mem_drop (List.mem_of_mem_take two)))
  · exact dash
  · exact wider (mem_hexPadded (List.mem_of_mem_drop (List.mem_of_mem_take three)))
  · exact dash
  · exact wider (mem_hexPadded (List.mem_of_mem_drop (List.mem_of_mem_take four)))
  · exact dash
  · exact wider (mem_hexPadded (List.mem_of_mem_drop five))

theorem Uuid.filter_str (id : Uuid) : id.str.filter (· ≠ '-') = hexPadded 32 id := by
  have dashless : ∀ char ∈ hexPadded 32 id, decide (char ≠ '-') = true := by
    intro char member
    have outside : '-' ∉ "0123456789abcdef".toList := by decide +kernel
    exact decide_eq_true fun dash => outside (dash ▸ mem_hexPadded member)
  have kept (part : List Char) (inside : part ⊆ hexPadded 32 id) : part.filter (· ≠ '-') = part :=
    List.filter_eq_self.mpr fun char member => dashless char (inside member)
  have first := kept _ (List.take_subset 8 _)
  have piece (start : Nat) := kept (((hexPadded 32 id).drop start).take 4)
    fun _ member => List.mem_of_mem_drop (List.mem_of_mem_take member)
  have last := kept _ (List.drop_subset 20 (hexPadded 32 id))
  have dash : decide ('-' ≠ '-') = false := by decide
  have cut (start : Nat) : (hexPadded 32 id).drop start =
      ((hexPadded 32 id).drop start).take 4 ++ (hexPadded 32 id).drop (start + 4) := by
    rw [← List.drop_drop, List.take_append_drop]
  simp only [str, List.filter_append, List.filter_cons, dash, first, piece, last,
    Bool.false_eq_true, if_false]
  rw [← cut 16, ← cut 12, ← cut 8, List.take_append_drop]

theorem uuid_str (int16 : List Char → Option Nat) (id : Uuid) : uuid int16 id.str = some id := by
  have apart (mark : Char) (outside : mark ∉ "0123456789abcdef-".toList) :
      ∀ char ∈ id.str, char ≠ mark := by
    rintro char member rfl
    exact outside (Uuid.mem_str member)
  have kept (others : List Char) : replaceAll ('u' :: others) [] 0 id.str = id.str := by
    have whole : replaceAll ('u' :: others) [] 0 (id.str ++ []) = _ :=
      replaceAll_append (apart 'u' (by decide +kernel))
    rwa [List.append_nil, replaceAll, List.append_nil] at whole
  have urn : "urn:".toList = 'u' :: "rn:".toList := by decide +kernel
  have scheme : "uuid:".toList = 'u' :: "uid:".toList := by decide +kernel
  have bare (text : List Char) (inside : text ⊆ id.str) :
      text.dropWhile (fun char => char = '{' || char = '}') = text := by
    cases text with
    | nil => rfl
    | cons char text =>
      have member := inside List.mem_cons_self
      refine List.dropWhile_cons_of_neg ?_
      simp [apart '{' (by decide +kernel) char member, apart '}' (by decide +kernel) char member]
  have small : id.1 % 16 ^ 32 = id.1 := Nat.mod_eq_of_lt id.isLt
  rw [uuid, urn, scheme, kept, kept]
  simp only [bare _ (List.Subset.refl _), bare _ (List.reverse_subset.mpr (List.Subset.refl _)),
    List.reverse_reverse, Uuid.filter_str, length_hexPadded, if_true, readHex_hexPadded,
    Option.some_or, Option.bind_some, Nat.zero_mul, Nat.zero_add, small, id.isLt, dite_true]

end TrpcService.Data
