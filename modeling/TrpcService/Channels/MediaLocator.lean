import TrpcService.Data.Aead
import TrpcService.Data.EncodedText
import TrpcService.Data.JsonText

namespace TrpcService.Channels.MediaLocator

open Data Base64

/-! Confidential locators of media: the URL and the key of a download, sealed
for one binding and one message. -/

abbrev Bytes := List UInt8

structure MediaReference where
  providerUrl : Option String := none
  providerMediaId : Option String := none
  encryptionKeyRef : Option String := none
  filename : Option String := none
  contentType : Option String := none
  deriving DecidableEq, Repr

inductive LocatorError where
  | locator
  | overflow
  deriving DecidableEq, Repr

def payload (url aesKey : String) : String := String.ofList ("\x7b\"provider_url\":".toList ++
    (JsonText.quoted url ++ (",\"encryption_key_ref\":".toList ++
      (JsonText.quoted aesKey ++ "\x7d".toList))))

structure LocatorFormats (Double : Type) where
  strip : String → String
  loads : String → Option (JsonValue Double)
  loads_payload : ∀ url aesKey, loads (payload url aesKey) =
    some (.dict [("provider_url", .str url), ("encryption_key_ref", .str aesKey)])

open LocatorFormats

/-- `length.to_bytes(4, "big")`; `none` is an `OverflowError`. -/
def toBytes (length : Nat) : Option Bytes :=
  if length < 2 ^ 32 then
    some [.ofNat (length / 2 ^ 24), .ofNat (length / 2 ^ 16 % 256),
      .ofNat (length / 2 ^ 8 % 256), .ofNat (length % 256)]
  else none

def aadPrefix : Bytes := encodeUtf8 "trpc-service:wecom-media-locator:v1"

def aad (bindingId messageId : String) : Option Bytes :=
  match toBytes (encodeUtf8 bindingId).length, toBytes (encodeUtf8 messageId).length with
  | some binding, some message =>
      some (aadPrefix ++ (binding ++ (encodeUtf8 bindingId ++ (message ++ encodeUtf8 messageId))))
  | _, _ => none

def token (bytes : Bytes) : String := "v1." ++ String.ofList (encode bytes)

def tokenBytes (token : String) : Option Bytes :=
  match token.toList with
  | 'v' :: '1' :: '.' :: encoded =>
      if encoded ≠ [] ∧ encoded.all (· ∈ alphabet) then decode (padded encoded)
      else none
  | _ => none

def validContext (bindingId messageId : String) : Bool :=
  bindingId ≠ "" ∧ Char.ofNat 0 ∉ bindingId.toList ∧
    messageId ≠ "" ∧ Char.ofNat 0 ∉ messageId.toList

/-- What a call of `seal` has produced, and for which context. -/
structure Production where
  key : Bytes
  bindingId : String
  messageId : String
  bytes : Bytes
  deriving DecidableEq, Repr

structure World where
  vault : Vault Bytes Bytes Bytes Bytes := []
  produced : List Production := []

namespace LocatorFormats

variable {Double : Type} (formats : LocatorFormats Double)

def nonBlank (text : Option String) : Option String :=
  text.filter fun text => formats.strip text ≠ ""

def sealLocator (key : Bytes) (reference : MediaReference) (bindingId messageId : String)
    (nonce cipher : Bytes) (world : World) : Except LocatorError (MediaReference × World) :=
  if !validContext bindingId messageId then .error .locator
  else
    match formats.nonBlank reference.providerUrl, formats.nonBlank reference.encryptionKeyRef with
    | some url, some aesKey =>
        match aad bindingId messageId with
        | none => .error .overflow
        | some associated =>
            .ok ({ reference with
                providerUrl := none
                encryptionKeyRef := none
                providerMediaId := some (token (nonce ++ cipher)) },
              { vault := ⟨key, nonce, associated,
                  encodeUtf8 (payload url aesKey), cipher⟩ :: world.vault
                produced := ⟨key, bindingId, messageId, nonce ++ cipher⟩ ::
                  world.produced })
    | _, _ => .error .locator

/-- The URL and the key of a payload that has nothing else. -/
def readValues (values : JsonValue Double) : Option (String × String) :=
  match values with
  | .dict fields =>
      if fields.all fun field => field.1 = "provider_url" ∨ field.1 = "encryption_key_ref" then
        match fields.lookup "provider_url", fields.lookup "encryption_key_ref" with
        | some (.str url), some (.str aesKey) =>
            if formats.strip url ≠ "" ∧ formats.strip aesKey ≠ "" then some (url, aesKey)
            else none
        | _, _ => none
      else none
  | _ => none

/-- The body of the handler that hides every exception. -/
def recover (key encrypted : Bytes) (bindingId messageId : String)
    (world : World) : Option (String × String) :=
  if encrypted.length ≤ 12 + 16 then none
  else do
    let associated ← aad bindingId messageId
    let plain ← world.vault.decrypt key (encrypted.take 12)
      (encrypted.drop 12) associated
    let text ← decodeUtf8 plain
    let values ← formats.loads text
    formats.readValues values

def openLocator (key : Bytes) (reference : MediaReference) (bindingId messageId : String)
    (world : World) : Except LocatorError MediaReference :=
  if !validContext bindingId messageId then .error .locator
  else if reference.providerUrl ≠ none ∨ reference.encryptionKeyRef ≠ none then .error .locator
  else
    match reference.providerMediaId.bind tokenBytes with
    | none => .error .locator
    | some encrypted =>
        match formats.recover key encrypted bindingId messageId world with
        | none => .error .locator
        | some (url, aesKey) => .ok { reference with
            providerUrl := some url
            encryptionKeyRef := some aesKey }

/-- The encryption is ideal: nobody has seen the cipher before. -/
structure Ideal (nonce cipher : Bytes) (world : World) : Prop where
  nonce : nonce.length = 12
  tagged : 16 < cipher.length
  fresh : ∀ sealing ∈ world.vault, sealing.cipher ≠ cipher

def Seals (before after : World) : Prop := ∃ key reference bindingId messageId nonce cipher sealed,
    Ideal nonce cipher before ∧
      formats.sealLocator key reference bindingId messageId nonce cipher before =
        .ok (sealed, after)

abbrev Reaches : World → World → Prop := Relation.ReflTransGen formats.Seals

end LocatorFormats

variable {bytes : Bytes}

theorem length_toBytes {length : Nat} (written : toBytes length = some bytes) :
    bytes.length = 4 := by
  unfold toBytes at written
  split at written
  · cases written
    rfl
  · cases written

theorem toBytes_inj {first second : Nat} (written : toBytes first = some bytes)
    (rewritten : toBytes second = some bytes) : first = second := by
  unfold toBytes at written rewritten
  split at written
  case isFalse => cases written
  case isTrue small =>
    cases written
    split at rewritten
    case isFalse => cases rewritten
    case isTrue short =>
      simp only [Option.some.injEq, List.cons.injEq, and_true,
        ← UInt8.toNat_inj, UInt8.toNat_ofNat'] at rewritten
      omega

theorem encodeUtf8_inj {first second : String}
    (same : encodeUtf8 first = encodeUtf8 second) : first = second := by
  have texts := congrArg decodeUtf8 same
  rw [decodeUtf8_encodeUtf8, decodeUtf8_encodeUtf8] at texts
  exact Option.some.inj texts

variable {bindingId messageId : String}

theorem aad_eq_some (written : aad bindingId messageId = some bytes) : ∃ binding message,
      toBytes (encodeUtf8 bindingId).length = some binding ∧
      toBytes (encodeUtf8 messageId).length = some message ∧
      aadPrefix ++ (binding ++ (encodeUtf8 bindingId ++
        (message ++ encodeUtf8 messageId))) = bytes := by
  unfold aad at written
  split at written
  case h_1 binding message left right =>
    exact ⟨binding, message, left, right, Option.some.inj written⟩
  case h_2 => cases written

theorem aad_inj {otherBinding otherMessage : String}
    (written : aad bindingId messageId = some bytes)
    (rewritten : aad otherBinding otherMessage = some bytes) :
    bindingId = otherBinding ∧ messageId = otherMessage := by
  obtain ⟨size, later, sized, long, rfl⟩ := aad_eq_some written
  obtain ⟨otherSize, otherLater, otherSized, otherLong, same⟩ := aad_eq_some rewritten
  have written := List.append_cancel_left same
  obtain ⟨sizes, bindings⟩ := List.append_inj written
    ((length_toBytes otherSized).trans (length_toBytes sized).symm)
  obtain ⟨binding, messages⟩ := List.append_inj bindings (toBytes_inj otherSized (sizes ▸ sized))
  obtain ⟨_, message⟩ := List.append_inj messages
    ((length_toBytes otherLong).trans (length_toBytes long).symm)
  exact ⟨(encodeUtf8_inj binding).symm, (encodeUtf8_inj message).symm⟩

theorem tokenBytes_token (present : bytes ≠ []) : tokenBytes (token bytes) = some bytes := by
  have symbols : ∀ value < 64, symbol value ∈ alphabet := by
    decide +kernel
  have encoded : encode bytes ≠ [] := by
    intro empty
    have decoded := decode_padded_encode bytes
    rw [empty] at decoded
    exact present (Option.some.inj decoded).symm
  have allowed : (encode bytes).all (· ∈ alphabet) = true := by
    refine List.all_eq_true.mpr fun character member => decide_eq_true ?_
    obtain ⟨value, small, rfl⟩ := mem_encode bytes character member
    exact symbols value small
  have characters : (token bytes).toList = 'v' :: '1' :: '.' :: encode bytes := by
    rw [token, String.toList_append]
    exact congrArg (['v', '1', '.'] ++ ·) String.toList_ofList
  rw [tokenBytes, characters]
  exact (if_pos ⟨encoded, allowed⟩).trans (decode_padded_encode bytes)

variable {url aesKey : String}

section Worlds

variable {Double : Type} {formats : LocatorFormats Double} {world : World}
  {key nonce cipher : Bytes} {bindingId messageId : String} {reference : MediaReference}

structure Sound (world : World) : Prop where
  distinct : world.vault.Distinct
  produced : ∀ sealing ∈ world.vault, sealing.nonce.length = 12 ∧
    ∃ production ∈ world.produced, production.key = sealing.key ∧
      aad production.bindingId production.messageId = some sealing.associated ∧
      production.bytes = sealing.nonce ++ sealing.cipher

theorem sealLocator_eq_ok {sealed : MediaReference} {after : World}
    (made : formats.sealLocator key reference bindingId messageId nonce cipher
      world = .ok (sealed, after)) :
    ∃ plain associated, aad bindingId messageId = some associated ∧
      after = ⟨⟨key, nonce, associated, plain, cipher⟩ :: world.vault,
        ⟨key, bindingId, messageId, nonce ++ cipher⟩ :: world.produced⟩ := by
  unfold sealLocator at made
  split at made
  case isTrue => cases made
  case isFalse =>
    split at made
    case h_2 => cases made
    case h_1 url aesKey _ _ =>
      split at made
      case h_1 => cases made
      case h_2 associated written =>
        cases made
        exact ⟨_, associated, written, rfl⟩

theorem sound_of_seals {after : World} (sound : Sound world)
    (seals : formats.Seals world after) : Sound after := by
  obtain ⟨key, reference, bindingId, messageId, nonce, cipher, sealed, ideal, made⟩ := seals
  obtain ⟨plain, associated, written, rfl⟩ := sealLocator_eq_ok made
  constructor
  · refine List.nodup_cons.mpr ⟨?_, sound.distinct⟩
    intro seen
    obtain ⟨sealing, member, same⟩ := List.mem_map.mp seen
    exact ideal.fresh sealing member same
  · intro sealing member
    rcases List.mem_cons.mp member with rfl | member
    · exact ⟨ideal.nonce, _, List.mem_cons_self .., rfl, written, rfl⟩
    · obtain ⟨nonce, production, listed, facts⟩ := sound.produced _ member
      exact ⟨nonce, production, List.mem_cons_of_mem _ listed, facts⟩

theorem sound_of_reaches (reached : formats.Reaches {} world) : Sound world := by
  induction reached with
  | refl => exact ⟨List.nodup_nil, by simp⟩
  | tail _ seals sound => exact sound_of_seals sound seals

theorem vault_of_reaches {later : World} (reached : formats.Reaches world later)
    {sealing : Sealing Bytes Bytes Bytes Bytes}
    (member : sealing ∈ world.vault) : sealing ∈ later.vault := by
  induction reached with
  | refl => exact member
  | tail _ seals known =>
    obtain ⟨_, _, _, _, _, _, _, _, made⟩ := seals
    obtain ⟨_, _, _, rfl⟩ := sealLocator_eq_ok made
    exact List.mem_cons_of_mem _ known

theorem readValues_payload (located : formats.strip url ≠ "") (keyed : formats.strip aesKey ≠ "") :
    formats.readValues (.dict [("provider_url", .str url),
      ("encryption_key_ref", .str aesKey)]) = some (url, aesKey) := by
  simp [readValues, List.lookup_cons, located, keyed]

theorem recover_eq_some {encrypted : Bytes} {values : String × String}
    (recovered : formats.recover key encrypted bindingId messageId world = some values) :
    ∃ associated plain, aad bindingId messageId = some associated ∧
      ⟨key, encrypted.take 12, associated, plain, encrypted.drop 12⟩ ∈ world.vault := by
  unfold recover at recovered
  split at recovered
  case isTrue => cases recovered
  case isFalse =>
    obtain ⟨associated, written, recovered⟩ := Option.bind_eq_some_iff.mp recovered
    obtain ⟨plain, opened, _⟩ := Option.bind_eq_some_iff.mp recovered
    exact ⟨associated, plain, written, Vault.decrypt_eq_some opened⟩

variable {associated : Bytes}

theorem recover_sealed (sound : Sound world) (drawn : nonce.length = 12)
    (tagged : 16 < cipher.length) (written : aad bindingId messageId = some associated)
    (located : formats.strip url ≠ "") (keyed : formats.strip aesKey ≠ "")
    (member : ⟨key, nonce, associated, encodeUtf8 (payload url aesKey), cipher⟩ ∈ world.vault)
    (otherBinding otherMessage : String) :
    formats.recover key (nonce ++ cipher) otherBinding otherMessage world =
      if otherBinding = bindingId ∧ otherMessage = messageId then some (url, aesKey)
      else none := by
  have taken : (nonce ++ cipher).take 12 = nonce := List.take_left' drawn
  have dropped : (nonce ++ cipher).drop 12 = cipher := List.drop_left' drawn
  split
  case isTrue same =>
    obtain ⟨rfl, rfl⟩ := same
    have opened : world.vault.decrypt key nonce cipher associated =
        some (encodeUtf8 (payload url aesKey)) := by
      simpa [Vault.decryptAny] using sound.distinct.decryptAny member (List.mem_singleton_self key)
    rw [recover, if_neg, taken, dropped, written]
    case hnc =>
      rw [List.length_append]
      omega
    simp only [Option.bind_eq_bind, Option.bind_some, opened, decodeUtf8_encodeUtf8,
      formats.loads_payload, readValues_payload located keyed]
  case isFalse different =>
    refine Option.eq_none_iff_forall_ne_some.mpr fun values recovered => ?_
    obtain ⟨other, plain, rewritten, found⟩ := recover_eq_some recovered
    rw [taken, dropped] at found
    cases sound.distinct.eq_of_cipher member found rfl
    exact different (aad_inj rewritten written)

theorem openLocator_sealed {sealed : MediaReference} (sound : Sound world)
    (ideal : nonce.length = 12 ∧ 16 < cipher.length)
    (written : aad bindingId messageId = some associated)
    (located : formats.strip url ≠ "") (keyed : formats.strip aesKey ≠ "")
    (member : ⟨key, nonce, associated, encodeUtf8 (payload url aesKey), cipher⟩ ∈ world.vault)
    (hidden : sealed.providerUrl = none ∧ sealed.encryptionKeyRef = none)
    (named : sealed.providerMediaId = some (token (nonce ++ cipher)))
    {otherBinding otherMessage : String}
    (valid : validContext otherBinding otherMessage = true) :
    formats.openLocator key sealed otherBinding otherMessage world =
      if otherBinding = bindingId ∧ otherMessage = messageId then
        .ok { sealed with
          providerUrl := some url
          encryptionKeyRef := some aesKey }
      else .error .locator := by
  have decoded : tokenBytes (token (nonce ++ cipher)) = some (nonce ++ cipher) := by
    refine tokenBytes_token fun empty => ?_
    rw [(List.append_eq_nil_iff.mp empty).1] at ideal
    exact absurd ideal.1 (by decide)
  rw [openLocator, valid, if_neg (by decide), if_neg, named, Option.bind_some, decoded]
  case hnc => simp [hidden]
  dsimp only
  rw [recover_sealed sound ideal.1 ideal.2 written located keyed member]
  by_cases same : otherBinding = bindingId ∧ otherMessage = messageId
  · rw [if_pos same, if_pos same]
  · rw [if_neg same, if_neg same]

theorem sealLocator_ok (valid : validContext bindingId messageId = true)
    (written : aad bindingId messageId = some associated)
    (located : formats.nonBlank reference.providerUrl = some url)
    (keyed : formats.nonBlank reference.encryptionKeyRef = some aesKey) :
    formats.sealLocator key reference bindingId messageId nonce cipher world =
      .ok ({ reference with
          providerUrl := none
          encryptionKeyRef := none
          providerMediaId := some (token (nonce ++ cipher)) },
        { vault := ⟨key, nonce, associated, encodeUtf8 (payload url aesKey),
            cipher⟩ :: world.vault
          produced := ⟨key, bindingId, messageId, nonce ++ cipher⟩ ::
            world.produced }) := by
  rw [sealLocator, valid, if_neg (by decide), located, keyed]
  dsimp only
  rw [written]

theorem openLocator_produced {opened : MediaReference} (sound : Sound world)
    (returned : formats.openLocator key reference bindingId messageId world = .ok opened) :
    ∃ production ∈ world.produced, production.key = key ∧
      production.bindingId = bindingId ∧ production.messageId = messageId ∧
      reference.providerMediaId.bind tokenBytes = some production.bytes := by
  unfold openLocator at returned
  split at returned
  case isTrue => cases returned
  case isFalse =>
    split at returned
    case isTrue => cases returned
    case isFalse =>
      split at returned
      case h_1 => cases returned
      case h_2 encrypted decoded =>
        split at returned
        case h_1 => cases returned
        case h_2 url aesKey recovered =>
          obtain ⟨associated, plain, written, member⟩ := recover_eq_some recovered
          obtain ⟨_, production, listed, keyed, rewritten, bytes⟩ := sound.produced _ member
          obtain ⟨bindings, messages⟩ := aad_inj rewritten written
          refine ⟨production, listed, keyed, bindings, messages, ?_⟩
          rw [decoded, bytes, List.take_append_drop]

theorem openLocator_error {error : LocatorError}
    (raised : formats.openLocator key reference bindingId messageId world = .error error) :
    error = .locator := by
  revert raised
  fun_cases openLocator formats key reference bindingId messageId world with
  | case5 =>
    intro raised
    cases raised
  | _ =>
    intro raised
    cases raised
    rfl

theorem openLocator_refuses (sound : Sound world)
    (absent : ¬ ∃ production ∈ world.produced, production.key = key ∧
      production.bindingId = bindingId ∧ production.messageId = messageId ∧
      reference.providerMediaId.bind tokenBytes = some production.bytes) :
    formats.openLocator key reference bindingId messageId world = .error .locator := by
  cases result : formats.openLocator key reference bindingId messageId world with
  | ok opened => exact absurd (openLocator_produced sound result) absent
  | error error => rw [openLocator_error result]

end Worlds

theorem aad_eq_some_iff : (∃ associated, aad bindingId messageId = some associated) ↔
      (encodeUtf8 bindingId).length < 2 ^ 32 ∧ (encodeUtf8 messageId).length < 2 ^ 32 := by
  constructor
  · rintro ⟨associated, written⟩
    obtain ⟨binding, message, sized, long, _⟩ := aad_eq_some written
    constructor
    · by_contra large
      rw [toBytes, if_neg large] at sized
      cases sized
    · by_contra large
      rw [toBytes, if_neg large] at long
      cases long
  · rintro ⟨sized, long⟩
    rw [aad, toBytes, if_pos sized, toBytes, if_pos long]
    exact ⟨_, rfl⟩

theorem payload_inj {otherUrl otherKey : String}
    (same : payload url aesKey = payload otherUrl otherKey) :
    url = otherUrl ∧ aesKey = otherKey := by
  have texts := List.append_cancel_left (String.ofList_injective same)
  obtain ⟨urls, tails⟩ := JsonText.quoted_inj texts
  exact ⟨urls, (JsonText.quoted_inj (List.append_cancel_left tails)).1⟩

open Classical in
noncomputable def payloadFormats : LocatorFormats Unit where
  strip := id
  loads text :=
    if written : ∃ values : String × String, payload values.1 values.2 = text then
      some (.dict [("provider_url", .str written.choose.1),
        ("encryption_key_ref", .str written.choose.2)])
    else none
  loads_payload url aesKey := by
    have written : ∃ values : String × String,
        payload values.1 values.2 = payload url aesKey := ⟨(url, aesKey), rfl⟩
    obtain ⟨urls, keys⟩ := payload_inj written.choose_spec
    rw [dif_pos written, urls, keys]

def mediaReference : MediaReference where
  providerUrl := some "https://host/media"
  encryptionKeyRef := some "key"

def longId (length : Nat) : String := String.ofList (List.replicate length 'a')

theorem length_longId (length : Nat) : (encodeUtf8 (longId length)).length = length := by
  have sizes : (encodeUtf8 (longId length)).length = (longId length).utf8ByteSize := by
    simp [encodeUtf8]
  rw [sizes, longId]
  clear sizes
  induction length with
  | zero => rfl
  | succ length induction =>
    have first : (String.ofList ['a']).utf8ByteSize = 1 := by decide
    rw [List.replicate_succ, ← List.singleton_append, String.ofList_append,
      String.utf8ByteSize_append, induction, first, Nat.add_comm]

theorem validContext_longId {length : Nat} (positive : 0 < length) :
    validContext (longId length) "message" = true := by
  refine decide_eq_true ⟨?_, ?_, by decide, by decide⟩
  · intro empty
    have size := length_longId length
    rw [empty] at size
    exact positive.ne size
  · rw [longId, String.toList_ofList, List.mem_replicate]
    exact fun member => absurd member.2 (by decide)

end TrpcService.Channels.MediaLocator
