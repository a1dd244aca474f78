import TrpcService.Channels.Feishu
import TrpcService.Data.JsonText
import TrpcService.Migration.Source

namespace TrpcService.Tenant.SessionId

open Data
open Channels.Feishu (ConversationKind)
open Storage (SessionKey)
open Migration (projectionKey)

/-! Session identifiers, principals and rollout buckets: what is authenticated
for each of them, and that no two mean the same. -/

abbrev Bytes := List UInt8

def canonical (purpose : String) (parts : List String) : String :=
  String.ofList ("\x7b\"v\":1,\"purpose\":".toList ++ (JsonText.quoted purpose ++
      (",\"parts\":".toList ++ (JsonText.array parts ++ "\x7d".toList))))

inductive Purpose where
  | session
  | principal
  | rollout
  deriving DecidableEq, Repr

def Purpose.value : Purpose → String
  | .session => "session"
  | .principal => "principal"
  | .rollout => "rollout"

def macInput (purpose : Purpose) (parts : List String) : Bytes :=
  encodeUtf8 (canonical purpose.value parts)

/-- `base64.urlsafe_b64encode(digest).rstrip(b"=").decode("ascii")`. -/
def urlsafe (digest : Bytes) : String := String.ofList (Base64.encode digest)

def kindValue : ConversationKind → String
  | .direct => "direct"
  | .group => "group"

structure Conversation where
  tenantId : String
  bindingId : String
  kind : ConversationKind
  externalUserId : String
  externalConversationId : Option String := none
  deriving DecidableEq, Repr

def Conversation.subject (conversation : Conversation) : Except String String :=
  match conversation.kind with
  | .group =>
      match conversation.externalConversationId.filter (· ≠ "") with
      | none => .error "group conversations require an external conversation id"
      | some conversationId => .ok conversationId
  | .direct => .ok conversation.externalUserId

def Conversation.parts (conversation : Conversation) (subject : String) : List String :=
  [conversation.tenantId, conversation.bindingId, kindValue conversation.kind, subject]

structure Principal where
  tenantId : String
  bindingId : String
  externalUserId : String
  deriving DecidableEq, Repr

def Principal.parts (principal : Principal) : List String :=
  [principal.tenantId, principal.bindingId, principal.externalUserId]

structure Rollout where
  tenantId : String
  appId : String
  sessionId : String
  deriving DecidableEq, Repr

def Rollout.parts (rollout : Rollout) : List String :=
  [rollout.tenantId, rollout.appId, rollout.sessionId]

section Identifiers

variable (hmac : Bytes → Bytes → Bytes) (key : Bytes)

def mac (purpose : Purpose) (parts : List String) : Bytes := hmac key (macInput purpose parts)

def makeSessionId (conversation : Conversation) : Except String String := do
  let subject ← conversation.subject
  .ok ("s1_" ++ urlsafe (mac hmac key .session (conversation.parts subject)))

def makePrincipalId (principal : Principal) : String :=
  "p1_" ++ urlsafe (mac hmac key .principal principal.parts)

/-- The first eight bytes, the most significant one in front. -/
def rolloutBucket (rollout : Rollout) : Nat := ((mac hmac key .rollout rollout.parts).take 8).foldl
    (fun total byte => 256 * total + byte.toNat) 0 % 10000

end Identifiers

/-- Where the projection of a session is stored. -/
def RedisProjectionStore.key (session : SessionKey) : String := projectionKey session.1 session.2

variable {parts others : List String}

theorem canonical_inj {purpose other : String}
    (same : canonical purpose parts = canonical other others) :
    purpose = other ∧ parts = others := by
  have texts := List.append_cancel_left (String.ofList_injective same)
  obtain ⟨rfl, tails⟩ := JsonText.quoted_inj texts
  obtain ⟨rfl, _⟩ := JsonText.array_inj (List.append_cancel_left tails)
  exact ⟨rfl, rfl⟩

theorem Purpose.value_injective : Function.Injective value := by
  intro first second same
  cases first <;> cases second <;> first | rfl | exact absurd same (by decide)

variable {purpose other : Purpose}

theorem macInput_inj (same : macInput purpose parts = macInput other others) :
    purpose = other ∧ parts = others := by
  have texts := congrArg decodeUtf8 same
  rw [macInput, macInput, decodeUtf8_encodeUtf8, decodeUtf8_encodeUtf8] at texts
  exact (canonical_inj (Option.some.inj texts)).imp_left (Purpose.value_injective ·)

theorem urlsafe_inj {first second : Bytes}
    (same : urlsafe first = urlsafe second) : first = second := by
  have texts := congrArg (fun text => Base64.decode (Base64.padded text))
    (String.ofList_injective same)
  rw [Base64.decode_padded_encode, Base64.decode_padded_encode] at texts
  exact Option.some.inj texts

theorem kindValue_injective : Function.Injective kindValue := by
  intro first second same
  cases first <;> cases second <;> first | rfl | exact absurd same (by decide)

theorem mac_inj {hmac : Bytes → Bytes → Bytes} {key : Bytes}
    (collisionFree : Function.Injective (hmac key)) {mark : String}
    (same : mark ++ urlsafe (mac hmac key purpose parts) =
      mark ++ urlsafe (mac hmac key purpose others)) : parts = others := by
  have digests := urlsafe_inj ((String.append_right_inj mark).mp same)
  exact (macInput_inj (collisionFree digests)).2

theorem key_injective {first second : SessionKey}
    (same : RedisProjectionStore.key first = RedisProjectionStore.key second) : first = second := by
  have texts := congrArg String.toList same
  simp only [RedisProjectionStore.key, projectionKey, String.toList_append,
    List.append_assoc, List.append_cancel_left_eq] at texts
  have dot : ".".toList = ['.'] := rfl
  rw [dot] at texts
  have parts := congrArg partitionDot texts
  rw [List.singleton_append, List.singleton_append, partitionDot_append (dot_not_mem_encodePart _),
    partitionDot_append (dot_not_mem_encodePart _)] at parts
  obtain ⟨tenant, session⟩ := Prod.mk.inj parts
  have tenants := congrArg decodePart tenant
  have sessions := congrArg decodePart (List.cons.inj session).2
  rw [decodePart_encodePart, decodePart_encodePart] at tenants sessions
  exact Prod.ext (Option.some.inj tenants) (Option.some.inj sessions)

/-- What an identifier is made of can be told from it. -/
structure Unambiguous (hmac : Bytes → Bytes → Bytes) (key : Bytes) : Prop where
  session : ∀ first second sessionId, makeSessionId hmac key first = .ok sessionId →
    makeSessionId hmac key second = .ok sessionId →
    first.tenantId = second.tenantId ∧ first.bindingId = second.bindingId ∧
      first.kind = second.kind ∧ first.subject = second.subject
  principal : Function.Injective (makePrincipalId hmac key)
  session_ne_principal : ∀ (conversation : Conversation) subject (principal : Principal),
    macInput .session (conversation.parts subject) ≠ macInput .principal principal.parts
  session_ne_rollout : ∀ (conversation : Conversation) subject (rollout : Rollout),
    macInput .session (conversation.parts subject) ≠ macInput .rollout rollout.parts
  principal_ne_rollout : ∀ (principal : Principal) (rollout : Rollout),
    macInput .principal principal.parts ≠ macInput .rollout rollout.parts
  projection : Function.Injective RedisProjectionStore.key

theorem macInput_ne (different : purpose ≠ other) (parts others : List String) :
    macInput purpose parts ≠ macInput other others :=
  fun same => different (macInput_inj same).1

theorem makeSessionId_inj {hmac : Bytes → Bytes → Bytes} {key : Bytes}
    (collisionFree : Function.Injective (hmac key)) {first second : Conversation}
    {sessionId : String} (made : makeSessionId hmac key first = .ok sessionId)
    (remade : makeSessionId hmac key second = .ok sessionId) :
    first.tenantId = second.tenantId ∧ first.bindingId = second.bindingId ∧
      first.kind = second.kind ∧ first.subject = second.subject := by
  obtain ⟨subject, selected, made⟩ := bind_eq_ok made
  obtain ⟨other, reselected, remade⟩ := bind_eq_ok remade
  have parts := mac_inj collisionFree ((Except.ok.inj made).trans (Except.ok.inj remade).symm)
  simp only [Conversation.parts, List.cons.injEq, and_true] at parts
  obtain ⟨tenants, bindings, kinds, rfl⟩ := parts
  exact ⟨tenants, bindings, kindValue_injective kinds, selected.trans reselected.symm⟩

/-- Without collisions of the MAC, identifiers are unambiguous. -/
theorem identifiers_unambiguous (hmac : Bytes → Bytes → Bytes) (key : Bytes)
    (collisionFree : Function.Injective (hmac key)) :
    Unambiguous hmac key where
  session := fun _ _ _ => makeSessionId_inj collisionFree
  principal := by
    intro first second same
    have parts := mac_inj collisionFree same
    simp only [Principal.parts, List.cons.injEq, and_true] at parts
    obtain ⟨tenants, bindings, users⟩ := parts
    cases first
    cases second
    simp_all only
  session_ne_principal := fun _ _ _ => macInput_ne (by decide) _ _
  session_ne_rollout := fun _ _ _ => macInput_ne (by decide) _ _
  principal_ne_rollout := fun _ _ => macInput_ne (by decide) _ _
  projection := fun _ _ => key_injective

/-- The parts of these two are the same text if they are merely put together. -/
theorem plain_identifiers_unambiguous :
    let hmac := fun _ message : Bytes => message
    let group : Conversation := ⟨"acme", "binding", .group, "user", some "chat"⟩
    let other : Conversation := ⟨"acm", "ebinding", .group, "user", some "chat"⟩
    (makeSessionId hmac [] group).isOk = true ∧
      makeSessionId hmac [] group ≠ makeSessionId hmac [] other ∧
      makePrincipalId hmac [] ⟨"acme", "binding", "user"⟩ ≠
        makePrincipalId hmac [] ⟨"acm", "ebinding", "user"⟩ := by
  intro hmac group other
  have unambiguous := identifiers_unambiguous hmac [] fun _ _ => id
  refine ⟨rfl, fun same => ?_, fun same => ?_⟩
  · have tenants := (unambiguous.session group other _ rfl same.symm).1
    exact absurd tenants (by decide)
  · have tenants := congrArg Principal.tenantId (unambiguous.principal same)
    exact absurd tenants (by decide)

end TrpcService.Tenant.SessionId
