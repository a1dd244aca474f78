import Mathlib.Logic.Equiv.Defs
import Mathlib.Data.List.Basic

namespace TrpcService.Data

/-! Cipher block chaining over any permutation of the blocks, and the padding
of PKCS #7.  What decrypts is the encryption of what it decrypts to, and what
was padded and encrypted is got back. -/

variable {bytes : List UInt8}

namespace Chaining

section Blocks

variable {Block : Type} (combine : Block → Block → Block) (cipher : Equiv.Perm Block)

/-- Every block is combined with the encrypted block before it. -/
def encryptBlocks : Block → List Block → List Block
  | _, [] => []
  | previous, block :: rest =>
      let encrypted := cipher (combine block previous)
      encrypted :: encryptBlocks encrypted rest

def decryptBlocks : Block → List Block → List Block
  | _, [] => []
  | previous, block :: rest => combine (cipher.symm block) previous :: decryptBlocks block rest

variable {combine cipher}

section Cancels

variable (cancels : ∀ block previous, combine (combine block previous) previous = block)

include cancels

theorem encryptBlocks_decryptBlocks (previous : Block) (blocks : List Block) :
    encryptBlocks combine cipher previous
      (decryptBlocks combine cipher previous blocks) = blocks := by
  induction blocks generalizing previous with
  | nil => rfl
  | cons block rest induction =>
    have first : cipher (combine (combine (cipher.symm block) previous) previous) = block := by
      rw [cancels, Equiv.apply_symm_apply]
    simp only [decryptBlocks, encryptBlocks, first, induction]

theorem decryptBlocks_encryptBlocks (previous : Block) (blocks : List Block) :
    decryptBlocks combine cipher previous
      (encryptBlocks combine cipher previous blocks) = blocks := by
  induction blocks generalizing previous with
  | nil => rfl
  | cons block rest induction =>
    simp only [encryptBlocks, decryptBlocks, Equiv.symm_apply_apply, cancels, induction]

end Cancels

end Blocks

section Bytes

variable {size : Nat}

def join (blocks : List (Vector UInt8 size)) : List UInt8 := blocks.flatMap Vector.toList

def cut (size : Nat) : Nat → List UInt8 → List (Vector UInt8 size)
  | 0, _ => []
  | count + 1, bytes =>
      if enough : size ≤ bytes.length then ⟨(bytes.take size).toArray, by simp [enough]⟩ ::
          cut size count (bytes.drop size)
      else []

theorem join_cut (count : Nat) (bytes : List UInt8) (whole : bytes.length = count * size) :
    join (cut size count bytes) = bytes := by
  induction count generalizing bytes with
  | zero =>
    rw [Nat.zero_mul] at whole
    rw [List.eq_nil_of_length_eq_zero whole]
    rfl
  | succ count induction =>
    rw [Nat.succ_mul] at whole
    have enough : size ≤ bytes.length := by omega
    have rest : (bytes.drop size).length = count * size := by
      rw [List.length_drop]
      omega
    simp only [cut, dif_pos enough, join, List.flatMap_cons]
    exact (congrArg (bytes.take size ++ ·) (induction _ rest)).trans
      (List.take_append_drop size bytes)

def xorBlocks (block previous : Vector UInt8 size) : Vector UInt8 size :=
  Vector.zipWith (· ^^^ ·) block previous

theorem xorBlocks_cancel (block previous : Vector UInt8 size) :
    xorBlocks (xorBlocks block previous) previous = block := by
  ext index bound
  rw [xorBlocks, xorBlocks, Vector.getElem_zipWith, Vector.getElem_zipWith,
    UInt8.xor_assoc, UInt8.xor_self, UInt8.xor_zero]

variable (cipher : Equiv.Perm (Vector UInt8 size))

def encrypt (iv : Vector UInt8 size) (bytes : List UInt8) : List UInt8 :=
  join (encryptBlocks xorBlocks cipher iv (cut size (bytes.length / size) bytes))

def decrypt (iv : Vector UInt8 size) (bytes : List UInt8) : List UInt8 :=
  join (decryptBlocks xorBlocks cipher iv (cut size (bytes.length / size) bytes))

variable {cipher}

@[simp] theorem length_join (blocks : List (Vector UInt8 size)) :
    (join blocks).length = blocks.length * size := by
  simp [join, List.length_flatMap]

theorem cut_join (blocks : List (Vector UInt8 size)) :
    cut size blocks.length (join blocks) = blocks := by
  induction blocks with
  | nil => rfl
  | cons block rest induction =>
    have joined : join (block :: rest) = block.toList ++ join rest := List.flatMap_cons
    have enough : size ≤ (join (block :: rest)).length := by
      rw [joined, List.length_append, Vector.length_toList]
      exact Nat.le_add_right _ _
    have taken : (join (block :: rest)).take size = block.toList := by
      rw [joined, List.take_left' Vector.length_toList]
    have dropped : (join (block :: rest)).drop size = join rest := by
      rw [joined, List.drop_left' Vector.length_toList]
    simp only [List.length_cons, cut, dif_pos enough, taken, dropped, induction]
    congr 1

theorem encrypt_decrypt (positive : 0 < size) (iv : Vector UInt8 size)
    (whole : bytes.length % size = 0) : encrypt cipher iv (decrypt cipher iv bytes) = bytes := by
  have divides : bytes.length = bytes.length / size * size :=
    (Nat.div_mul_cancel (Nat.dvd_of_mod_eq_zero whole)).symm
  have count : (decrypt cipher iv bytes).length / size = (decryptBlocks xorBlocks cipher iv
        (cut size (bytes.length / size) bytes)).length := by
    rw [decrypt, length_join, Nat.mul_div_cancel _ positive]
  rw [encrypt, count, decrypt, cut_join,
    encryptBlocks_decryptBlocks xorBlocks_cancel, join_cut _ _ divides]

theorem decrypt_encrypt (positive : 0 < size) (iv : Vector UInt8 size)
    (whole : bytes.length % size = 0) : decrypt cipher iv (encrypt cipher iv bytes) = bytes := by
  have divides : bytes.length = bytes.length / size * size :=
    (Nat.div_mul_cancel (Nat.dvd_of_mod_eq_zero whole)).symm
  have count : (encrypt cipher iv bytes).length / size = (encryptBlocks xorBlocks cipher iv
        (cut size (bytes.length / size) bytes)).length := by
    rw [encrypt, length_join, Nat.mul_div_cancel _ positive]
  rw [decrypt, count, encrypt, cut_join,
    decryptBlocks_encryptBlocks xorBlocks_cancel, join_cut _ _ divides]

theorem length_encryptBlocks (iv : Vector UInt8 size) (blocks : List (Vector UInt8 size)) :
    (encryptBlocks xorBlocks cipher iv blocks).length = blocks.length := by
  induction blocks generalizing iv with
  | nil => rfl
  | cons block rest induction => exact congrArg Nat.succ (induction _)

theorem length_encrypt (iv : Vector UInt8 size) (whole : bytes.length % size = 0) :
    (encrypt cipher iv bytes).length = bytes.length := by
  have divides : bytes.length = bytes.length / size * size :=
    (Nat.div_mul_cancel (Nat.dvd_of_mod_eq_zero whole)).symm
  have joined := congrArg List.length (join_cut _ _ divides)
  rw [length_join] at joined
  rw [encrypt, length_join, length_encryptBlocks, joined]

end Bytes

end Chaining

namespace Pkcs7

def pad (size : Nat) (bytes : List UInt8) : List UInt8 :=
  let count := size - bytes.length % size
  bytes ++ List.replicate count (.ofNat count)

def unpad (size : Nat) (bytes : List UInt8) : Option (List UInt8) :=
  match bytes.getLast? with
  | none => none
  | some last =>
      let kept := bytes.length - last.toNat
      if 0 < last.toNat ∧ last.toNat ≤ size ∧ last.toNat ≤ bytes.length ∧
          bytes.drop kept = List.replicate last.toNat last then
        some (bytes.take kept)
      else none

variable {size : Nat}

theorem sub_sub_mod {total count : Nat} (whole : total % size = 0) (positive : 0 < count)
    (small : count ≤ size) (short : count ≤ total) : size - (total - count) % size = count := by
  obtain ⟨blocks, rfl⟩ := Nat.dvd_of_mod_eq_zero whole
  cases blocks with
  | zero => omega
  | succ rest =>
    have shape : size * (rest + 1) - count = size * rest + (size - count) := by
      rw [Nat.mul_succ]
      omega
    rw [shape, Nat.mul_add_mod, Nat.mod_eq_of_lt (by omega)]
    omega

theorem pad_of_unpad {plain : List UInt8} (whole : bytes.length % size = 0)
    (unpadded : unpad size bytes = some plain) : pad size plain = bytes := by
  revert unpadded
  fun_cases unpad size bytes with
  | case1 => exact nofun
  | case2 last _ kept padded =>
    rintro ⟨⟩
    obtain ⟨positive, small, short, padding⟩ := padded
    have length : (bytes.take kept).length = bytes.length - last.toNat := by
      simp [kept]
    rw [pad, length, sub_sub_mod whole positive small short,
      UInt8.ofNat_toNat, ← padding, List.take_append_drop]
  | case3 => exact nofun

theorem length_pad (size : Nat) (positive : 0 < size) (plain : List UInt8) :
    (pad size plain).length = (plain.length / size + 1) * size := by
  have small := Nat.mod_lt plain.length positive
  have parts := Nat.div_add_mod plain.length size
  rw [Nat.mul_comm] at parts
  rw [pad, List.length_append, List.length_replicate, Nat.add_one_mul]
  omega

theorem unpad_pad (positive : 0 < size) (small : size < 256) (plain : List UInt8) :
    unpad size (pad size plain) = some plain := by
  have least := Nat.mod_lt plain.length positive
  generalize counted : size - plain.length % size = count
  have padded : pad size plain = plain ++ List.replicate count (.ofNat count) := by
    rw [← counted, pad]
  have counts : 0 < count := by omega
  have last : (pad size plain).getLast? = some (.ofNat count) := by
    rw [padded, List.getLast?_append, List.getLast?_replicate, if_neg (Nat.ne_of_gt counts)]
    rfl
  have number : (UInt8.ofNat count).toNat = count :=
    UInt8.toNat_ofNat_of_lt (show count < 256 by omega)
  have kept : (pad size plain).length - count = plain.length := by
    rw [padded, List.length_append, List.length_replicate, Nat.add_sub_cancel]
  rw [unpad, last]
  dsimp only
  rw [number, kept, padded, if_pos, List.take_left]
  refine ⟨counts, by omega, ?_, List.drop_left⟩
  rw [List.length_append, List.length_replicate]
  exact Nat.le_add_left _ _

end Pkcs7

end TrpcService.Data
