import TrpcService.Channels.Feishu
import TrpcService.Data.Coroutine

namespace TrpcService.Channels.Feishu

open Data Storage Chaining

/-! Whatever a callback is answered with, its payload names the token of the
binding, and it was encrypted or signed if there is a key to do so. -/

variable {Double : Type}

namespace FeishuAdapter

variable (adapter : FeishuAdapter Double) (request : WebhookRequest)

/-- A fresh request, with a signature of its timestamp and its raw body. -/
def Signed (key : String) (clocks : Clocks) : Prop :=
  ∃ timestamp nonce signedAt, adapter.requestTimestamp request = some timestamp ∧
    adapter.requestNonce request = some nonce ∧
    adapter.library.intOfStr timestamp = some signedAt ∧
    (clocks.wallClock - seconds signedAt).natAbs ≤ adapter.maxCallbackAge ∧
    adapter.requestSignature request = some (adapter.signature timestamp nonce key request.body)

/-- The body holds the payload, encrypted under the key. -/
def Encrypted (key : String) (payload : Fields Double) : Prop :=
  ∃ outer encrypted iv plaintext, adapter.library.loads request.body = .ok (.dict outer) ∧
    get outer "encrypt" = .str encrypted ∧
    adapter.library.b64decode encrypted = some (iv.toList ++ encrypt
        (adapter.library.aes (adapter.library.sha256 (encodeUtf8 key))) iv
        (Pkcs7.pad 16 plaintext)) ∧
    adapter.library.loads plaintext = .ok (.dict payload)

variable (binding : ChannelBinding)

/-- The payload of a request is its body, or what its body encrypts. -/
def Decodes (payload : Fields Double) : Prop :=
  (adapter.library.loads request.body = .ok (.dict payload) ∧ isNone (get payload "encrypt")) ∨
  ∃ key, adapter.encryptKey binding = .ok (some key) ∧ adapter.Encrypted request key payload

def NamesToken (payload : Fields Double) : Prop :=
  ∃ token, adapter.requiredSecret binding "verification_token" "verification token" = .ok token ∧
    suppliedToken payload = .str token

/-- If the binding has a key, it fulfils the condition. -/
def Keyed (condition : String → Prop) : Prop :=
  ∀ ref, binding.secretRefs.get? "encrypt_key" = some ref →
    ∃ key, adapter.resolve ref "encrypt key" = .ok key ∧ condition key

end FeishuAdapter

def NamesApp (binding : ChannelBinding) (payload : Fields Double) : Prop :=
  ∃ header, get payload "header" = .dict header ∧ get header "app_id" = .str binding.accountId

variable {value : JsonValue Double} {fields : Fields Double}

theorem eq_dict_of_dict? (found : dict? value = some fields) : value = .dict fields := by
  revert found
  fun_cases dict? value with
  | case1 fields =>
    rintro ⟨⟩
    rfl
  | case2 => exact nofun

theorem eq_str_of_str? {text : String} (found : str? value = some text) : value = .str text := by
  revert found
  fun_cases str? value with
  | case1 text =>
    rintro ⟨⟩
    rfl
  | case2 => exact nofun

theorem eq_str_of_text? {text : String} (found : text? value = some text) : value = .str text :=
  eq_str_of_str? (Option.filter_eq_some_iff.mp found).1

theorem eq_of_compareDigest {first second : String}
    (same : compareDigest first second = .ok true) : first = second := by
  revert same
  fun_cases compareDigest first second with
  | case1 ascii =>
    intro same
    exact of_decide_eq_true (Except.ok.inj same)
  | case2 => exact nofun

theorem eq_of_compared {first second : String} {error : CallbackError}
    (passes : (compareDigest first second >>= fun same =>
      if same = true then .ok () else .error error) = .ok ()) :
    first = second := by
  obtain ⟨same, compared, passes⟩ := bind_eq_ok passes
  cases same with
  | true => exact eq_of_compareDigest compared
  | false => exact nomatch passes

theorem loads_of_jsonObject {library : Library Double} {value : Bytes}
    (parsed : library.jsonObject value = .ok fields) :
    library.loads value = .ok (.dict fields) := by
  revert parsed
  fun_cases Library.jsonObject library value with
  | case3 value loaded fields found =>
    rintro ⟨⟩
    rw [loaded, eq_dict_of_dict? found]
  | _ => exact nofun

theorem eq_dict_of_mapping {label : String} (mapped : mapping value label = .ok fields) :
    value = .dict fields := by
  revert mapped
  fun_cases mapping value label with
  | case1 fields found =>
    rintro ⟨⟩
    exact eq_dict_of_dict? found
  | case2 => exact nofun

theorem eq_str_of_verifyToken {payload : Fields Double} {expected : String}
    (verified : verifyToken payload expected = .ok ()) : suppliedToken payload = .str expected := by
  revert verified
  fun_cases verifyToken payload expected with
  | case1 => exact nofun
  | case2 supplied found =>
    intro verified
    rw [eq_str_of_str? found, eq_of_compared verified]

namespace FeishuAdapter

variable {adapter : FeishuAdapter Double} {request : WebhookRequest} {binding : ChannelBinding}
  {clocks : Clocks} {key : String} {payload : Fields Double}

theorem signed_of_verifySignature (verified : adapter.verifySignature request key clocks = .ok ()) :
    adapter.Signed request key clocks := by
  revert verified
  fun_cases verifySignature adapter request key clocks with
  | case4 present timestamp nonce supplied signature nonce_ stamp signedAt
      parsed _ fresh expected =>
      intro verified
      refine ⟨timestamp, nonce, signedAt, (Option.filter_eq_some_iff.mp stamp).1,
        (Option.filter_eq_some_iff.mp nonce_).1, parsed, not_lt.mp fresh, ?_⟩
      rw [(Option.filter_eq_some_iff.mp signature).1]
      exact congrArg some (eq_of_compared verified).symm
  | _ => exact nofun

theorem signed_of_verifySignatureIfPresent
    (verified : adapter.verifySignatureIfPresent request key clocks = .ok true) :
    adapter.Signed request key clocks := by
  revert verified
  fun_cases verifySignatureIfPresent adapter request key clocks with
  | case1 =>
    intro verified
    obtain ⟨_, verified, _⟩ := bind_eq_ok verified
    exact signed_of_verifySignature verified
  | case2 => exact nofun

theorem encrypt_of_decrypt {encrypted : String} {plaintext : Bytes}
    (decrypted : adapter.decrypt key encrypted = some plaintext) :
    ∃ iv, adapter.library.b64decode encrypted = some (iv.toList ++ encrypt
        (adapter.library.aes (adapter.library.sha256 (encodeUtf8 key))) iv
        (Pkcs7.pad 16 plaintext)) := by
  obtain ⟨ciphertext, decoded, decrypted⟩ := Option.bind_eq_some_iff.mp decrypted
  split at decrypted
  case isFalse => exact nomatch decrypted
  case isTrue long =>
    obtain ⟨enough, whole⟩ := long
    have rest : (ciphertext.drop 16).length % 16 = 0 := by
      rw [List.length_drop]
      omega
    dsimp only at decrypted
    generalize split : (⟨(ciphertext.take 16).toArray, _⟩ : Vector UInt8 16) = iv at decrypted
    have first : iv.toList = ciphertext.take 16 := by
      rw [← split]
      rfl
    have padded := Pkcs7.pad_of_unpad (by
      rw [Chaining.decrypt, Chaining.length_join, Nat.mul_mod_left]) decrypted
    refine ⟨iv, ?_⟩
    rw [decoded, padded, Chaining.encrypt_decrypt (by decide) iv rest, first, List.take_append_drop]

variable {configured : Option String} {verified : Bool}

theorem decodePayload_eq_ok {encrypted : Bool}
    (decoded : adapter.decodePayload request configured clocks =
      .ok (payload, verified, encrypted)) :
    ((adapter.library.loads request.body = .ok (.dict payload) ∧
        isNone (get payload "encrypt")) ∧ encrypted = false ∨
      ∃ key, configured = some key ∧ adapter.Encrypted request key payload) ∧
      (verified = true → ∃ key, configured = some key ∧ adapter.Signed request key clocks) := by
  obtain ⟨outer, parsed, decoded⟩ := bind_eq_ok decoded
  have loaded := loads_of_jsonObject parsed
  split at decoded
  case isTrue plain =>
    cases configured with
    | none =>
      cases decoded
      exact ⟨.inl ⟨⟨loaded, plain⟩, rfl⟩, by simp⟩
    | some key =>
      obtain ⟨signed, checked, decoded⟩ := bind_eq_ok decoded
      cases decoded
      refine ⟨.inl ⟨⟨loaded, plain⟩, rfl⟩, ?_⟩
      rintro rfl
      exact ⟨key, rfl, signed_of_verifySignatureIfPresent checked⟩
  case isFalse =>
    split at decoded
    case h_2 => cases decoded
    case h_1 text key found _ =>
      obtain ⟨signed, checked, decoded⟩ := bind_eq_ok decoded
      split at decoded
      case h_1 => cases decoded
      case h_2 plaintext decrypted =>
        obtain ⟨inner, plain, decoded⟩ := bind_eq_ok decoded
        cases decoded
        obtain ⟨iv, sealed⟩ := encrypt_of_decrypt decrypted
        refine ⟨.inr ⟨key, rfl, outer, text, iv, plaintext, loaded,
          eq_str_of_text? found, sealed, loads_of_jsonObject plain⟩, ?_⟩
        rintro rfl
        exact ⟨key, rfl, signed_of_verifySignatureIfPresent checked⟩

theorem namesApp_of_parseMessage {envelope : Option (InboundEnvelope Double)}
    (parsed : adapter.parseMessage payload binding clocks = .ok envelope) :
    NamesApp binding payload := by
  obtain ⟨header, mapped, parsed⟩ := bind_eq_ok parsed
  obtain ⟨_, verified, _⟩ := bind_eq_ok parsed
  refine ⟨header, eq_dict_of_mapping mapped, ?_⟩
  revert verified
  fun_cases verifyAppId header binding with
  | case1 => exact nofun
  | case2 appId found =>
    intro verified
    rw [eq_str_of_str? found, eq_of_compared verified]

theorem signed_of_ensureSigned
    (ensured : adapter.ensureSigned request configured verified clocks = .ok ()) (key : String)
    (same : configured = some key) : verified = true ∨ adapter.Signed request key clocks := by
  subst same
  cases verified with
  | true => exact .inl rfl
  | false => exact .inr (signed_of_verifySignature ensured)

theorem answer_eq_ok {encrypted : Bool} {callback : FeishuCallback Double}
    (answered : adapter.answer request binding configured payload verified
      encrypted clocks = .ok callback) :
    (callback.envelope.isSome → NamesApp binding payload ∧
      ∀ key, configured = some key → verified = true ∨ adapter.Signed request key clocks) ∧
    (∀ challenge, callback.challenge = some challenge → get payload "challenge" = .str challenge ∧
      ∀ key, configured = some key → encrypted = true ∨ verified = true) := by
  revert answered
  fun_cases answer adapter request binding configured payload verified encrypted clocks with
  | case1 => exact nofun
  | case2 => exact nofun
  | case3 _ trusted challenge found =>
    rintro ⟨⟩
    refine ⟨nofun, ?_⟩
    rintro _ ⟨⟩
    refine ⟨eq_str_of_text? found, ?_⟩
    rintro key rfl
    simpa [or_iff_not_imp_left] using trusted
  | case4 =>
    intro answered
    obtain ⟨_, ensured, answered⟩ := bind_eq_ok answered
    have trusted := signed_of_ensureSigned ensured
    split at answered
    case isTrue =>
      cases answered
      exact ⟨nofun, nofun⟩
    case isFalse =>
      obtain ⟨envelope, parsed, answered⟩ := bind_eq_ok answered
      cases answered
      exact ⟨fun _ => ⟨namesApp_of_parseMessage parsed, trusted⟩, nofun⟩

theorem encryptKey_eq_some {ref : SecretRef}
    (resolved : adapter.encryptKey binding = .ok configured)
    (present : binding.secretRefs.get? "encrypt_key" = some ref) :
    ∃ key, adapter.resolve ref "encrypt key" = .ok key ∧ configured = some key := by
  rw [encryptKey, present] at resolved
  obtain ⟨key, found, resolved⟩ := bind_eq_ok resolved
  cases resolved
  exact ⟨key, found, rfl⟩

theorem verifyAndParse_eq_ok {callback : FeishuCallback Double}
    (parsed : adapter.verifyAndParse request binding clocks = .ok callback) :
    ∃ token configured payload verified encrypted,
      adapter.requiredSecret binding "verification_token" "verification token" = .ok token ∧
      adapter.encryptKey binding = .ok configured ∧
      adapter.decodePayload request configured clocks = .ok (payload, verified, encrypted) ∧
      verifyToken payload token = .ok () ∧
      adapter.answer request binding configured payload verified encrypted
        clocks = .ok callback := by
  obtain ⟨_, _, parsed⟩ := bind_eq_ok parsed
  obtain ⟨token, required, parsed⟩ := bind_eq_ok parsed
  obtain ⟨configured, resolved, parsed⟩ := bind_eq_ok parsed
  obtain ⟨⟨payload, verified, encrypted⟩, decoded, parsed⟩ := bind_eq_ok parsed
  obtain ⟨_, checked, answered⟩ := bind_eq_ok parsed
  exact ⟨token, configured, payload, verified, encrypted, required, resolved,
    decoded, checked, answered⟩

/-- An envelope comes from a payload with the token and the app of the binding,
in a request that is signed if there is a key.  A challenge is answered if the
payload has the token, and was encrypted or signed if there is a key. -/
theorem callback_is_authentic (adapter : FeishuAdapter Double) (request : WebhookRequest)
    (binding : ChannelBinding) (clocks : Clocks) (callback : FeishuCallback Double)
    (parsed : adapter.verifyAndParse request binding clocks = .ok callback) :
    ∃ payload, adapter.Decodes request binding payload ∧ adapter.NamesToken binding payload ∧
      (callback.envelope.isSome → NamesApp binding payload ∧
        adapter.Keyed binding fun key => adapter.Signed request key clocks) ∧
      (∀ challenge, callback.challenge = some challenge → get payload "challenge" = .str challenge ∧
        adapter.Keyed binding fun key => adapter.Encrypted request key payload ∨
            adapter.Signed request key clocks) := by
  obtain ⟨token, configured, payload, verified, encrypted, required, resolved,
    decoded, checked, answered⟩ := verifyAndParse_eq_ok parsed
  obtain ⟨decodes, signed⟩ := decodePayload_eq_ok decoded
  obtain ⟨enveloped, challenged⟩ := answer_eq_ok answered
  have authentic : ∀ key, configured = some key → verified = true →
      adapter.Signed request key clocks := by
    rintro key rfl proved
    obtain ⟨_, ⟨⟩, signed⟩ := signed proved
    exact signed
  refine ⟨payload, ?_, ⟨token, required, eq_str_of_verifyToken checked⟩,
    fun present => ⟨(enveloped present).1, ?_⟩,
    fun challenge same => ⟨(challenged challenge same).1, ?_⟩⟩
  · rcases decodes with ⟨plain, _⟩ | ⟨key, rfl, sealed⟩
    · exact .inl plain
    · exact .inr ⟨key, resolved, sealed⟩
  · intro ref configures
    obtain ⟨key, found, same⟩ := encryptKey_eq_some resolved configures
    refine ⟨key, found, ?_⟩
    rcases (enveloped present).2 key same with proved | signed
    · exact authentic key same proved
    · exact signed
  · intro ref configures
    obtain ⟨key, found, rfl⟩ := encryptKey_eq_some resolved configures
    refine ⟨key, found, ?_⟩
    rcases (challenged challenge same).2 key rfl with sealed | proved
    · rcases decodes with ⟨_, plain⟩ | ⟨_, ⟨⟩, sealed⟩
      · exact nomatch sealed.symm.trans plain
      · exact .inl sealed
    · exact .inr (authentic key rfl proved)

end FeishuAdapter

def messageText : String :=
  "\x7b\"header\":\x7b\"token\":\"t\",\"app_id\":\"cli\",\"event_type\":" ++
  "\"im.message.receive_v1\"\x7d,\"event\":\x7b\"sender\":\x7b\"sender_id\":" ++
  "\x7b\"open_id\":\"u\"\x7d\x7d,\"message\":\x7b\"message_id\":\"m\",\"chat_id\":\"c\"," ++
  "\"message_type\":\"text\",\"content\":\"\x7b\\\"text\\\":\\\"hi\\\"\x7d\"\x7d\x7d\x7d"

def contentText : String := "\x7b\"text\":\"hi\"\x7d"

def challengeText : String :=
  "\x7b\"token\":\"t\",\"challenge\":\"c\",\"type\":\"url_verification\"\x7d"

/-- The challenge under the key `k`, in Base64. -/
def sealedText : String :=
  "AAECAwQFBgcICQoLDA0ODxdVSCxqx1Y1/HUxq1RF/1Vm8V9CfyxCdGpM5zn+oxOAtXvB7ZxzIPfgdQw7mcreEQFltz70" ++
  "KVuALG/zK98/s60="

def sealedBytes : Bytes :=
  [0, 1, 2, 3, 4, 5, 6, 7, 8, 9, 10, 11, 12, 13, 14, 15, 23, 85, 72, 44, 106, 199, 86, 53, 252, 117,
    49, 171, 84, 69, 255, 85, 102, 241, 95, 66, 127, 44, 66, 116, 106, 76, 231, 57, 254, 163, 19,
    128, 181, 123, 193, 237, 156, 115, 32, 247, 224, 117, 12, 59, 153, 202, 222, 17, 1, 101, 183,
    62, 244, 41, 91, 128, 44, 111, 243, 43, 223, 63, 179, 173]

/-- The standard library on what the two callbacks ask of it. -/
def phraseLibrary : Library Unit where
  loads bytes := ([ (messageText, JsonValue.dict
      [("header", .dict [("token", .str "t"), ("app_id", .str "cli"),
          ("event_type", .str "im.message.receive_v1")]),
        ("event", .dict [("sender", .dict [("sender_id", .dict [("open_id", .str "u")])]),
            ("message", .dict [("message_id", .str "m"), ("chat_id", .str "c"),
              ("message_type", .str "text"), ("content", .str contentText)])])]),
    (contentText, .dict [("text", .str "hi")]),
    ("\x7b\"encrypt\":\"" ++ sealedText ++ "\"\x7d", .dict [("encrypt", .str sealedText)]),
    (challengeText, .dict [("token", .str "t"), ("challenge", .str "c"),
      ("type", .str "url_verification")])].find? fun entry => encodeUtf8 entry.1 = bytes).elim
        (.error .decode) fun entry => .ok entry.2
  dumpsSize _ := some 43
  b64decode text := if text = sealedText then some sealedBytes else none
  sha256 bytes :=
    if bytes = encodeUtf8 "k" then
      [130, 84, 195, 41, 169, 40, 80, 246, 213, 57, 221, 55, 111, 72, 22, 238, 39, 100, 81, 125,
        165, 224, 35, 85, 20, 175, 67, 49, 100, 72, 13, 122]
    else [139, 115, 63, 182, 37, 90, 185, 63, 129, 132, 12, 216, 8, 253, 139, 241, 169, 16, 251, 86,
        117, 42, 167, 120, 210, 52, 229, 189, 196, 70, 59, 173]
  aes _ := ((List.zipWith xorBlocks (cut 16 4 (Pkcs7.pad 16 (encodeUtf8 challengeText)))
      (cut 16 4 sealedBytes)).zip (cut 16 4 (sealedBytes.drop 16))).foldr
    (fun pair cipher => (Equiv.swap pair.1 pair.2).trans cipher) (Equiv.refl _)
  casefold text := .ofList (text.toList.map Char.toLower)
  upper text := .ofList (text.toList.map Char.toUpper)
  strip := id
  remove part text := .ofList (replaceAll part.toList [] 0 text.toList)
  intOfStr text := if text = "0" then some 0 else none
  repr value := if isNone value then "None" else ""
  isZero _ := true
  fitsFloat _ := true
  thousandth _ := none
  fromtimestamp _ := none

def phraseAdapter : FeishuAdapter Unit where
  library := phraseLibrary
  secrets := ⟨fun ref => some (if ref.uri = "literal://t" then "t" else "k"), none⟩

def phraseBinding : ChannelBinding where
  bindingId := "b"
  tenantId := "acme"
  channel := .feishu
  accountId := "cli"
  secretRefs := (Dict.empty.set "verification_token" ⟨"literal://t"⟩).set
    "encrypt_key" ⟨"literal://k"⟩

def signedMessage : WebhookRequest where
  method := "POST"
  headers := [("X-Lark-Request-Timestamp", "0"), ("X-Lark-Request-Nonce", "n"),
    ("X-Lark-Signature", "8b733fb6255ab93f81840cd808fd8bf1a910fb56752aa778d234e5bdc4463bad")]
  body := encodeUtf8 messageText

def sealedChallenge : WebhookRequest :=
  ⟨"POST", [], encodeUtf8 ("\x7b\"encrypt\":\"" ++ sealedText ++ "\"\x7d")⟩

theorem exists_ok_of_any {α : Type} {result : Result α}
    {condition : α → Bool} (holds : result.toOption.any condition = true) :
    ∃ value, result = .ok value ∧ condition value = true := by
  cases result with
  | error error => exact nomatch holds
  | ok value => exact ⟨value, rfl, holds⟩

theorem callback_is_authentic_phrases : (∃ callback payload,
      phraseAdapter.verifyAndParse signedMessage phraseBinding ⟨0, 0⟩ =
        .ok callback ∧ callback.envelope.isSome ∧
      phraseAdapter.NamesToken phraseBinding payload ∧
      NamesApp phraseBinding payload ∧
      phraseAdapter.Keyed phraseBinding fun key => phraseAdapter.Signed signedMessage key ⟨0, 0⟩) ∧
    ∃ callback payload, phraseAdapter.verifyAndParse sealedChallenge phraseBinding ⟨0, 0⟩ =
        .ok callback ∧ callback.challenge = some "c" ∧
      phraseAdapter.NamesToken phraseBinding payload ∧
      phraseAdapter.Keyed phraseBinding fun key =>
        phraseAdapter.Encrypted sealedChallenge key payload ∨
          phraseAdapter.Signed sealedChallenge key ⟨0, 0⟩ := by
  constructor
  · obtain ⟨callback, parsed, present⟩ := exists_ok_of_any
      (show (phraseAdapter.verifyAndParse signedMessage phraseBinding
        ⟨0, 0⟩).toOption.any (·.envelope.isSome) = true by decide +kernel)
    obtain ⟨payload, _, token, enveloped, _⟩ :=
      FeishuAdapter.callback_is_authentic phraseAdapter signedMessage
        phraseBinding ⟨0, 0⟩ callback parsed
    exact ⟨callback, payload, parsed, present, token, enveloped present⟩
  · obtain ⟨callback, parsed, same⟩ := exists_ok_of_any
      (show (phraseAdapter.verifyAndParse sealedChallenge phraseBinding
        ⟨0, 0⟩).toOption.any (·.challenge = some "c") = true by
          decide +kernel)
    have challenged := of_decide_eq_true same
    obtain ⟨payload, _, token, _, answered⟩ :=
      FeishuAdapter.callback_is_authentic phraseAdapter sealedChallenge
        phraseBinding ⟨0, 0⟩ callback parsed
    exact ⟨callback, payload, parsed, challenged, token, (answered "c" challenged).2⟩

end TrpcService.Channels.Feishu
