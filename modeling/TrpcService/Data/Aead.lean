import Mathlib.Data.List.Nodup

namespace TrpcService.Data

universe u v w x

/-! Ideal authenticated encryption with associated data.  Whoever seals a text
gets a cipher that nobody has seen before, and a cipher opens only if it was
sealed: under the same key and nonce, and for the same associated data. -/

structure Sealing (Key : Type u) (Plain : Type v) (Bytes : Type w) (Associated : Type x) where
  key : Key
  nonce : Bytes
  associated : Associated
  plain : Plain
  cipher : Bytes
  deriving DecidableEq

abbrev Vault (Key : Type u) (Plain : Type v) (Bytes : Type w) (Associated : Type x) :=
  List (Sealing Key Plain Bytes Associated)

namespace Vault

variable {Key : Type u} {Plain : Type v} {Bytes : Type w} {Associated : Type x} [DecidableEq Key]
  [DecidableEq Bytes] [DecidableEq Associated]

def matching (key : Key) (nonce cipher : Bytes) (associated : Associated)
    (sealing : Sealing Key Plain Bytes Associated) : Bool :=
  sealing.key = key ∧ sealing.nonce = nonce ∧ sealing.cipher = cipher ∧
    sealing.associated = associated

variable (vault : Vault Key Plain Bytes Associated)

def decrypt (key : Key) (nonce cipher : Bytes) (associated : Associated) : Option Plain :=
  (vault.find? (matching key nonce cipher associated)).map Sealing.plain

def decryptAny (keys : List Key) (nonce cipher : Bytes) (associated : Associated) : Option Plain :=
  keys.findSome? fun key => vault.decrypt key nonce cipher associated

/-- Every cipher is new. -/
def Distinct : Prop := (vault.map Sealing.cipher).Nodup

variable {vault : Vault Key Plain Bytes Associated} {key : Key} {keys : List Key}
  {nonce cipher : Bytes} {plain : Plain} {associated : Associated}
  {sealing : Sealing Key Plain Bytes Associated}

theorem decrypt_eq_some (opened : vault.decrypt key nonce cipher associated = some plain) :
    ⟨key, nonce, associated, plain, cipher⟩ ∈ vault := by
  obtain ⟨sealing, found, rfl⟩ := Option.map_eq_some_iff.mp opened
  have matched : matching key nonce cipher associated sealing = true := List.find?_some found
  have member := List.mem_of_find?_eq_some found
  obtain ⟨rfl, rfl, rfl, rfl⟩ := of_decide_eq_true matched
  exact member

theorem decryptAny_eq_some (opened : vault.decryptAny keys nonce cipher associated = some plain) :
    ∃ key ∈ keys, ⟨key, nonce, associated, plain, cipher⟩ ∈ vault := by
  obtain ⟨key, among, opened⟩ := List.exists_of_findSome?_eq_some opened
  exact ⟨key, among, decrypt_eq_some opened⟩

omit [DecidableEq Key] [DecidableEq Bytes] [DecidableEq Associated] in
theorem Distinct.eq_of_cipher (distinct : vault.Distinct)
    {other : Sealing Key Plain Bytes Associated} (first : sealing ∈ vault) (second : other ∈ vault)
    (same : sealing.cipher = other.cipher) : sealing = other :=
  List.inj_on_of_nodup_map distinct first second same

theorem Distinct.decryptAny (distinct : vault.Distinct)
    (sealed : ⟨key, nonce, associated, plain, cipher⟩ ∈ vault) (among : key ∈ keys) :
    vault.decryptAny keys nonce cipher associated = some plain := by
  have opens : vault.decrypt key nonce cipher associated ≠ none := by
    intro closed
    have unfound := Option.map_eq_none_iff.mp closed
    have unmatched := List.find?_eq_none.mp unfound _ sealed
    exact unmatched (decide_eq_true ⟨rfl, rfl, rfl, rfl⟩)
  cases opened : vault.decryptAny keys nonce cipher associated with
  | none => exact absurd (List.findSome?_eq_none_iff.mp opened key among) opens
  | some found =>
    obtain ⟨other, _, member⟩ := decryptAny_eq_some opened
    cases distinct.eq_of_cipher sealed member rfl
    rfl

end Vault

end TrpcService.Data
