import TrpcService.Data.CipherBlockChaining
import TrpcService.Data.EncodedText
import TrpcService.Storage.Models

namespace TrpcService.Channels.Feishu

open Data Storage

/-! The callbacks of the Feishu adapter: how a request is decoded, verified and
turned into an envelope.  Instants count microseconds. -/

abbrev Bytes := List UInt8

structure SecretRef where
  uri : String
  deriving DecidableEq, Repr

structure ChannelBinding where
  bindingId : String
  tenantId : String
  channel : Channel
  accountId : String
  secretRefs : Dict String SecretRef
  enabled : Bool := true
  deriving DecidableEq

structure WebhookRequest where
  method : String
  headers : List (String × String)
  body : Bytes
  deriving DecidableEq, Repr

inductive ConversationKind where
  | direct
  | group
  deriving DecidableEq, Repr

inductive PayloadKind where
  | text
  | image
  | file
  | video
  | voice
  | mixed
  | event
  deriving DecidableEq, Repr

structure MediaReference where
  providerMediaId : String
  filename : Option String
  deriving DecidableEq, Repr

structure InboundEnvelope (Double : Type) where
  channel : Channel
  accountId : String
  externalMessageId : String
  externalUserId : String
  conversationKind : ConversationKind
  externalConversationId : Option String
  payloadKind : PayloadKind
  text : Option String
  media : List MediaReference
  eventType : Option String
  occurredAt : Time
  providerMetadata : Fields Double

structure FeishuCallback (Double : Type) where
  envelope : Option (InboundEnvelope Double) := none
  challenge : Option String := none

inductive CallbackError where
  | verification (message : String)
  | typeError
  | overflowError
  | validation (message : String)
  /-- What `json.loads` raises on a text that it can read. -/
  | unsupported
  deriving DecidableEq, Repr

abbrev Result (α : Type) := Except CallbackError α

inductive LoadsError where
  /-- `UnicodeDecodeError` or `json.JSONDecodeError`. -/
  | decode
  /-- A number with too many digits, or values that are nested too deep. -/
  | limit
  deriving DecidableEq, Repr

structure Library (Double : Type) where
  loads : Bytes → Except LoadsError (JsonValue Double)
  /-- The size of the UTF-8 form of `json.dumps`, if there is one. -/
  dumpsSize : Fields Double → Option Nat
  /-- With `validate`; `none` is an exception. -/
  b64decode : String → Option Bytes
  sha256 : Bytes → Bytes
  aes : Bytes → Equiv.Perm (Vector UInt8 16)
  casefold : String → String
  upper : String → String
  strip : String → String
  /-- `text.replace(part, "")`. -/
  remove : (part text : String) → String
  intOfStr : String → Option Int
  /-- `str` of what is not a string. -/
  repr : JsonValue Double → String
  isZero : Double → Bool
  /-- `float(value)` does not overflow. -/
  fitsFloat : Int → Bool
  /-- `value / 1000`, if it is not too large. -/
  thousandth : Int → Option Double
  fromtimestamp : JsonValue Double → Option Time

structure SecretProvider where
  resolve : SecretRef → Option String
  resolveTenant : Option (SecretRef → Option String)

structure FeishuAdapter (Double : Type) where
  library : Library Double
  secrets : SecretProvider
  maxCallbackAge : Time := seconds 300
  maxCallbackBytes : Nat := 2 * 1024 * 1024
  maxCallbackAge_pos : 0 < maxCallbackAge := by decide
  maxCallbackBytes_least : 1024 ≤ maxCallbackBytes := by decide

structure Clocks where
  wallClock : Time
  now : Time

section Values

variable {Double : Type}

/-- `mapping.get(name)`; what is missing is `None`. -/
def get (fields : Fields Double) (name : String) : JsonValue Double :=
  (fields.lookup name).getD .none

def dict? : JsonValue Double → Option (Fields Double)
  | .dict fields => some fields
  | _ => none

def str? : JsonValue Double → Option String
  | .str text => some text
  | _ => none

def text? (value : JsonValue Double) : Option String := (str? value).filter (· ≠ "")

def isNone : JsonValue Double → Bool
  | .none => true
  | _ => false

def isAscii (text : String) : Bool := text.toList.all fun character => character.toNat < 128

/-- `hmac.compare_digest` of two strings. -/
def compareDigest (first second : String) : Result Bool :=
  if isAscii first ∧ isAscii second then .ok (first = second)
  else .error .typeError

def mapping (value : JsonValue Double) (label : String) : Result (Fields Double) :=
  match dict? value with
  | some fields => .ok fields
  | none => .error (.verification s!"Feishu callback {label} is invalid")

end Values

namespace Library

variable {Double : Type} (library : Library Double)

def truth : JsonValue Double → Bool
  | .none => false
  | .bool value => value
  | .int value => value ≠ 0
  | .float value => !library.isZero value
  | .str value => value ≠ ""
  | .list items => !items.isEmpty
  | .dict fields => !fields.isEmpty

def either (first second : JsonValue Double) : JsonValue Double :=
  if library.truth first then first else second

def str (value : JsonValue Double) : String := (str? value).getD (library.repr value)

def jsonObject (value : Bytes) : Result (Fields Double) :=
  match library.loads value with
  | .error .limit => .error .unsupported
  | .error .decode => .error (.verification "Feishu callback JSON is invalid")
  | .ok parsed =>
      match dict? parsed with
      | some fields => .ok fields
      | none => .error (.verification "Feishu callback JSON is invalid")

def header (headers : List (String × String)) (name : String) : Option String :=
  (headers.find? fun entry => library.casefold entry.1 = library.casefold name).map Prod.snd

def flattenFrom : Nat → List (JsonValue Double) → List String → List String
  | 0, _, values => values
  | _, [], values => values
  | visits + 1, item :: stack, values =>
      match item with
      | .list items => flattenFrom visits (items ++ stack) values
      | .dict fields =>
          flattenFrom visits ((fields.filter fun field => field.1 ∉ ["text", "tag"]).map
              Prod.snd ++ stack)
            (values ++ (text? (get fields "text")).toList)
      | _ => flattenFrom visits stack values

def flattenPost (content : Fields Double) : Option String :=
  let values := flattenFrom 1000 [get content "content"] (text? (get content "title")).toList
  let rendered := "\n".intercalate ((values.map library.strip).filter (· ≠ ""))
  if rendered = "" then none else some rendered

def mediaKind (messageType : String) : Option PayloadKind :=
  [("image", PayloadKind.image), ("sticker", .image), ("file", .file),
    ("audio", .voice), ("media", .video)].lookup messageType

def removeMentions (mentions : List (JsonValue Double)) (text : String) : String :=
  mentions.foldl (fun text mention =>
    match (dict? mention).bind fun fields => str? (get fields "key") with
    | some key => library.remove key text
    | none => text) text

def normalizeContent (messageType : String) (content : Fields Double)
    (mentions : List (JsonValue Double)) :
    Result (PayloadKind × Option String × List MediaReference) :=
  if messageType = "text" then
    match str? (get content "text") with
    | none => .error (.verification "Feishu callback message content is invalid")
    | some text => .ok (.text, some (library.strip (library.removeMentions mentions text)), [])
  else if messageType = "post" then .ok (.mixed, library.flattenPost content, [])
  else
    match mediaKind messageType with
    | none => .ok (.event, none, [])
    | some kind =>
        match text? (library.either (get content "image_key") (get content "file_key")) with
        | none => .error (.verification "Feishu callback media is invalid")
        | some mediaId => .ok (kind, none, [⟨mediaId, str? (get content "file_name")⟩])

def timestamp (raw : JsonValue Double) (now : Time) : Result Time :=
  match library.intOfStr (library.str raw) with
  | none => .ok now
  | some value =>
      if value ≥ 10000000000 then
        match library.thousandth value with
        | none => .error .overflowError
        | some quotient => .ok ((library.fromtimestamp (.float quotient)).getD now)
      else .ok ((library.fromtimestamp (.int value)).getD now)

def allowedMetadata : List String :=
  ["target_id", "chat_type", "message_type", "provider_message_id",
    "event_type", "event_id", "tenant_key", "thread_id", "root_id",
    "parent_id", "sender_type", "raw_message_type"]

def validateScalar (name : String) : JsonValue Double → Result Unit
  | .str text =>
      if (encodeUtf8 text).length > 512 then
        .error (.validation "provider metadata value is too large")
      else .ok ()
  | .int _ => .ok ()
  | .float _ => .ok ()
  | .bool _ =>
      if name ≠ "chat_type" then .error (.validation "provider metadata values must be scalar")
      else .ok ()
  | _ => .error (.validation "provider metadata values must be scalar")

/-- No key that is allowed is a sensitive one. -/
def validateProviderMetadata (metadata : Fields Double) : Result Unit :=
  if metadata.length > 16 ∨ metadata.any fun field =>
      field.1 ∉ allowedMetadata then
    .error (.validation "provider metadata contains unsupported fields")
  else do
    metadata.forM fun (name, item) => validateScalar name item
    match library.dumpsSize metadata with
    | none => .error (.validation "provider metadata is invalid")
    | some size =>
        if size > 16 * 1024 then
          .error (.validation "provider metadata is too large")
        else .ok ()

def bounded (field text : String) (least most : Nat) : Result Unit :=
  if text.length < least ∨ text.length > most then .error (.validation field)
  else .ok ()

def validateMedia (media : MediaReference) : Result Unit := do
  bounded "provider_media_id" media.providerMediaId 0 16384
  bounded "filename" (media.filename.getD "") 0 512

def validateEnvelope (envelope : InboundEnvelope Double) :
    Result (InboundEnvelope Double) := do
  bounded "account_id" envelope.accountId 1 256
  bounded "external_message_id" envelope.externalMessageId 1 512
  bounded "external_user_id" envelope.externalUserId 1 512
  bounded "external_conversation_id"
    (envelope.externalConversationId.getD "") 0 512
  bounded "text" (envelope.text.getD "") 0 100000
  envelope.media.forM validateMedia
  bounded "event_type" (envelope.eventType.getD "") 0 256
  library.validateProviderMetadata envelope.providerMetadata
  .ok envelope

end Library

section Payloads

variable {Double : Type} (payload : Fields Double)

def suppliedToken : JsonValue Double :=
  match dict? (get payload "header") with
  | some header => get header "token"
  | none => get payload "token"

def eventType : Option String :=
  match dict? (get payload "header") with
  | some header => str? (get header "event_type")
  | none => str? (get payload "type")

def verifyToken (expected : String) : Result Unit :=
  match str? (suppliedToken payload) with
  | none => .error (.verification "Feishu callback token is invalid")
  | some supplied => do
      if ← compareDigest expected supplied then .ok ()
      else .error (.verification "Feishu callback token is invalid")

/-- Was it sent by a bot?  A type that cannot be hashed is an error. -/
def isSentByBot (senderType : JsonValue Double) : Result Bool :=
  match senderType with
  | .list _ => .error .typeError
  | .dict _ => .error .typeError
  | value => .ok (str? value = some "app" ∨ str? value = some "bot")

end Payloads

namespace FeishuAdapter

variable {Double : Type} (adapter : FeishuAdapter Double)

def resolve (ref : SecretRef) (label : String) : Result String :=
  let value := if ref.uri.startsWith "literal://" then adapter.secrets.resolve ref
    else adapter.secrets.resolveTenant.bind fun resolver => resolver ref
  match value.filter (· ≠ "") with
  | some value => .ok value
  | none => .error (.verification s!"Feishu {label} is unavailable")

/-- The label is the name with its underscores replaced. -/
def requiredSecret (binding : ChannelBinding) (name label : String) : Result String :=
  match binding.secretRefs.get? name with
  | none => .error (.verification s!"Feishu {label} is not configured")
  | some ref => adapter.resolve ref label

def encryptKey (binding : ChannelBinding) : Result (Option String) :=
  match binding.secretRefs.get? "encrypt_key" with
  | none => .ok none
  | some ref => do
      let key ← adapter.resolve ref "encrypt key"
      .ok (some key)

variable (request : WebhookRequest)

def requestTimestamp : Option String :=
  adapter.library.header request.headers "X-Lark-Request-Timestamp"

def requestNonce : Option String := adapter.library.header request.headers "X-Lark-Request-Nonce"

def requestSignature : Option String := adapter.library.header request.headers "X-Lark-Signature"

def signature (timestamp nonce key : String) (body : Bytes) : String :=
  hexDigest (adapter.library.sha256
    (encodeUtf8 timestamp ++ encodeUtf8 nonce ++ encodeUtf8 key ++ body))

def verifySignature (request : WebhookRequest) (key : String) (clocks : Clocks) : Result Unit :=
  let present := Option.filter fun (text : String) => text ≠ ""
  match present (adapter.requestTimestamp request),
      present (adapter.requestNonce request),
      present (adapter.requestSignature request) with
  | some timestamp, some nonce, some supplied =>
      match adapter.library.intOfStr timestamp with
      | none =>
          .error (.verification "Feishu callback timestamp is invalid")
      | some signedAt =>
          -- The clock is a float, and so is its difference to an integer.
          if !adapter.library.fitsFloat signedAt then .error .overflowError
          else if (clocks.wallClock - seconds signedAt).natAbs >
              adapter.maxCallbackAge then
            .error (.verification "Feishu callback timestamp is stale")
          else do
            let expected := adapter.signature timestamp nonce key request.body
            if ← compareDigest expected supplied then .ok ()
            else .error (.verification
              "Feishu callback signature is invalid")
  | _, _, _ =>
      .error (.verification "Feishu callback signature is missing")

/-- Returns whether there is a signature, which then has been verified. -/
def verifySignatureIfPresent (request : WebhookRequest) (key : String)
    (clocks : Clocks) : Result Bool :=
  let headers := [adapter.requestTimestamp request,
    adapter.requestNonce request, adapter.requestSignature request]
  if headers.any fun value => value.any (· ≠ "") then do
    adapter.verifySignature request key clocks
    .ok true
  else .ok false

def decrypt (key encrypted : String) : Option Bytes := do
  let ciphertext ← adapter.library.b64decode encrypted
  if long : 32 ≤ ciphertext.length ∧ ciphertext.length % 16 = 0 then
    let iv : Vector UInt8 16 := ⟨(ciphertext.take 16).toArray, by
      simp only [List.size_toArray, List.length_take]
      omega⟩
    let cipher := adapter.library.aes (adapter.library.sha256 (encodeUtf8 key))
    Pkcs7.unpad 16 (Chaining.decrypt cipher iv (ciphertext.drop 16))
  else none

/-- The payload, whether the signature was verified, and whether the payload
was encrypted. -/
def decodePayload (request : WebhookRequest) (key : Option String)
    (clocks : Clocks) : Result (Fields Double × Bool × Bool) := do
  let outer ← adapter.library.jsonObject request.body
  if isNone (get outer "encrypt") then
    match key with
    | none => .ok (outer, false, false)
    | some key =>
        let verified ← adapter.verifySignatureIfPresent request key clocks
        .ok (outer, verified, false)
  else
    match text? (get outer "encrypt"), key with
    | some encrypted, some key =>
        let verified ← adapter.verifySignatureIfPresent request key clocks
        match adapter.decrypt key encrypted with
        | none =>
            .error (.verification "Feishu encrypted callback is invalid")
        | some plaintext =>
            let payload ← adapter.library.jsonObject plaintext
            .ok (payload, verified, true)
    | _, _ => .error (.verification
        "Feishu encrypted callback configuration is invalid")

def verifyAppId (header : Fields Double) (binding : ChannelBinding) : Result Unit :=
  match str? (get header "app_id") with
  | none => .error (.verification "Feishu callback binding is invalid")
  | some appId => do
      if ← compareDigest appId binding.accountId then .ok ()
      else .error (.verification "Feishu callback binding is invalid")

def identify (message : Fields Double) : Result (String × String × String) :=
  match text? (get message "message_id"), text? (get message "chat_id"),
      text? (get message "message_type") with
  | some messageId, some chatId, some messageType => .ok (messageId, chatId, messageType)
  | _, _, _ => .error (.verification "Feishu callback message is invalid")

def messageContent (message : Fields Double) : Result (Fields Double) :=
  match str? (get message "content") with
  | none => .error (.verification "Feishu callback message content is invalid")
  | some contentRaw => adapter.library.jsonObject (encodeUtf8 contentRaw)

def mentions (message : Fields Double) : List (JsonValue Double) :=
  match get message "mentions" with
  | .list items => items
  | _ => []

def normalize (header sender message : Fields Double) (openId : String)
    (binding : ChannelBinding) (clocks : Clocks) :
    Result (InboundEnvelope Double) := do
  let (messageId, chatId, messageType) ← identify message
  let content ← adapter.messageContent message
  let (payloadKind, text, media) ←
    adapter.library.normalizeContent messageType content (mentions message)
  let kind :=
    if str? (get message "chat_type") = some "p2p" then
      ConversationKind.direct
    else .group
  let occurred ← adapter.library.timestamp
    (adapter.library.either (get message "create_time")
      (get header "create_time")) clocks.now
  let metadata : Fields Double :=
    [("target_id", .str chatId),
      ("event_id", get header "event_id"),
      ("tenant_key", get header "tenant_key"),
      ("chat_type", get message "chat_type"),
      ("thread_id", get message "thread_id"),
      ("root_id", get message "root_id"),
      ("parent_id", get message "parent_id"),
      ("sender_type", get sender "sender_type"),
      ("raw_message_type", .str messageType)]
  adapter.library.validateEnvelope
    { channel := .feishu
      accountId := binding.accountId
      externalMessageId := messageId
      externalUserId := openId
      conversationKind := kind
      externalConversationId := if kind = .group then some chatId else none
      payloadKind
      text
      media
      eventType := if payloadKind ≠ .event then none else some messageType
      occurredAt := occurred
      providerMetadata := metadata.filter fun field => !isNone field.2 }

def parseMessage (payload : Fields Double) (binding : ChannelBinding)
    (clocks : Clocks) : Result (Option (InboundEnvelope Double)) := do
  let header ← mapping (get payload "header") "header"
  verifyAppId header binding
  let event ← mapping (get payload "event") "event"
  let sender ← mapping (get event "sender") "sender"
  if ← isSentByBot (get sender "sender_type") then .ok none
  else
    let senderId ← mapping (get sender "sender_id") "sender"
    match text? (get senderId "open_id") with
    | none => .error (.verification "Feishu callback sender is invalid")
    | some openId =>
        let message ← mapping (get event "message") "message"
        some <$> adapter.normalize header sender message openId binding clocks

variable (request : WebhookRequest)

def ensureSigned (key : Option String) (signatureVerified : Bool) (clocks : Clocks) : Result Unit :=
  match key with
  | none => .ok ()
  | some key =>
      if signatureVerified then .ok ()
      else adapter.verifySignature request key clocks

variable (binding : ChannelBinding)

def answer (key : Option String) (payload : Fields Double) (signatureVerified encrypted : Bool)
    (clocks : Clocks) : Result (FeishuCallback Double) :=
  if eventType payload = some "url_verification" then
    if key.isSome ∧ !(encrypted || signatureVerified) then
      .error (.verification "Feishu challenge authentication is invalid")
    else
      match text? (get payload "challenge") with
      | none => .error (.verification "Feishu challenge is invalid")
      | some challenge => .ok { challenge := some challenge }
  else do
    adapter.ensureSigned request key signatureVerified clocks
    if eventType payload ≠ some "im.message.receive_v1" then .ok {}
    else
      let envelope ← adapter.parseMessage payload binding clocks
      .ok { envelope }

def verifyRequest : Result Unit :=
  if adapter.library.upper request.method ≠ "POST" then
    .error (.verification "Feishu callback method is invalid")
  else if binding.channel ≠ .feishu then .error (.verification "Feishu callback binding is invalid")
  else if request.body = [] ∨ request.body.length > adapter.maxCallbackBytes then
    .error (.verification "Feishu callback body size is invalid")
  else .ok ()

def verifyAndParse (clocks : Clocks) : Result (FeishuCallback Double) := do
  adapter.verifyRequest request binding
  let verificationToken ←
    adapter.requiredSecret binding "verification_token" "verification token"
  let key ← adapter.encryptKey binding
  let (payload, signatureVerified, encrypted) ←
    adapter.decodePayload request key clocks
  verifyToken payload verificationToken
  adapter.answer request binding key payload signatureVerified encrypted clocks

end FeishuAdapter

end TrpcService.Channels.Feishu
