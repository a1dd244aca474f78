import Mathlib.Order.Bounds.Defs
import TrpcService.Data.Base64
import TrpcService.Data.CipherBlockChaining
import TrpcService.Data.Coroutine
import TrpcService.Data.Decimal

namespace TrpcService.Channels.WeComDownload

open Data Pkcs7

/-! Downloads of encrypted media of a bounded size. -/

abbrev Bytes := List UInt8

structure SplitUrl where
  scheme : String
  hostname : Option String
  username : Option String
  password : Option String
  deriving DecidableEq, Repr

/-- The libraries that the client calls, and what it reads from headers that
have nothing to do with the size. -/
structure Library (Double : Type) where
  lower : String → String
  urlsplit : String → Option SplitUrl
  /-- If a host is an address: is it a global one? -/
  isGlobal : String → Option Bool
  isSpace : Char → Bool
  /-- With the URL-safe alphabet and `validate`. -/
  b64decode : String → Option Bytes
  intOfStr : String → Option Int
  retryAfterSeconds : Option String → Option Double
  contentDispositionFilename : Option String → Option String
  aes : Vector UInt8 32 → Equiv.Perm (Vector UInt8 16)

structure WeComDownloadError (Double : Type) where
  code : String
  retryable : Bool := false
  status : Option Int := none
  retryAfterSeconds : Option Double := none

inductive TransportError where
  | cancelled
  | timeout
  | other
  deriving DecidableEq, Repr

inductive DownloadError (Double : Type) where
  | failed (error : WeComDownloadError Double)
  | cancelled

structure Response where
  status : Int
  contentLength : Option String := none
  retryAfter : Option String := none
  contentDisposition : Option String := none
  chunks : List Bytes
  failure : Option TransportError := none
  deriving DecidableEq, Repr

structure BoundedWeComDownloadClient where
  maxPlaintextBytes : Nat
  positive : 0 < maxPlaintextBytes

open BoundedWeComDownloadClient

def BoundedWeComDownloadClient.maxCiphertextBytes (client : BoundedWeComDownloadClient) : Nat :=
  (client.maxPlaintextBytes + 1 + 31) / 32 * 32

variable {Double : Type}

def DownloadError.code (code : String) (status : Option Int := none) : DownloadError Double :=
  .failed { code, status }

def TransportError.raised : TransportError → DownloadError Double
  | .cancelled => .cancelled
  | .timeout => .failed { code := "transport_timeout", retryable := true }
  | .other => .failed { code := "transport_error", retryable := true }

/-- Fill the buffer: the values it takes, and the last one if all chunks fit. -/
def receive (most : Nat) : Bytes → List Bytes → List Bytes × Option Bytes
  | held, [] => ([held], some held)
  | held, chunk :: rest =>
      if held.length + chunk.length > most then ([held], none)
      else
        let (values, ciphertext) := receive most (held ++ chunk) rest
        (held :: values, ciphertext)

namespace Library

variable (library : Library Double)

def isValid (url : String) : Bool :=
  match library.urlsplit url with
  | none => false
  | some parsed =>
      match parsed.hostname.filter (· ≠ "") with
      | none => false
      | some hostname =>
          library.lower parsed.scheme = "https" ∧ parsed.username = none ∧
            parsed.password = none ∧ (library.isGlobal hostname).getD true

def decodeAesKey (value : String) : Option (Vector UInt8 32) :=
  if value = "" ∨ value.toList.any library.isSpace ∨ value.length % 4 = 1 then none
  else
    let padded := value ++ String.ofList (List.replicate ((4 - value.length % 4) % 4) '=')
    match library.b64decode padded with
    | none => none
    | some key => if whole : key.length = 32 then some ⟨key.toArray, whole⟩ else none

def contentLength (value : Option String) : Option Int :=
  (value.bind library.intOfStr).filter (0 ≤ ·)

def httpStatusError (status : Int) (retryAfter : Option String) : DownloadError Double :=
  if 300 ≤ status ∧ status < 400 then .code "redirect_rejected" status
  else if status = 404 then .code "media_not_found" status
  else if status = 429 then .failed
      { code := "rate_limited"
        retryable := true
        status := some status
        retryAfterSeconds := library.retryAfterSeconds retryAfter }
  else if status ≥ 500 then .failed
      { code := "upstream_unavailable"
        retryable := true
        status := some status }
  else .code "upstream_rejected" status

/-- The initialization vector is the first half of the key. -/
def iv (key : Vector UInt8 32) : Vector UInt8 16 := key.take 16

def decrypt (key : Vector UInt8 32) (ciphertext : Bytes) : Option Bytes :=
  if ciphertext = [] ∨ ciphertext.length % 16 ≠ 0 then none
  else unpad 32 (Chaining.decrypt (library.aes key) (iv key) ciphertext)

end Library

namespace BoundedWeComDownloadClient

variable (client : BoundedWeComDownloadClient) (library : Library Double)

def readResponse (response : Response) : List Bytes × Except (DownloadError Double) Bytes :=
  if ¬ (200 ≤ response.status ∧ response.status < 300) then
    ([], .error (library.httpStatusError response.status response.retryAfter))
  else if (library.contentLength response.contentLength).any
      fun length => length > (client.maxCiphertextBytes : Int) then
    ([], .error (.code "media_too_large" response.status))
  else
    let (values, ciphertext) := receive client.maxCiphertextBytes [] response.chunks
    (values,
      match ciphertext, response.failure with
      | none, _ => .error (.code "media_too_large" response.status)
      | some _, some failure => .error failure.raised
      | some ciphertext, none => .ok ciphertext)

def downloadFile (url aesKey : String) (reply : Except TransportError Response) :
    List Bytes × Except (DownloadError Double) (Bytes × Option String) :=
  if !library.isValid url then ([], .error (.code "invalid_url"))
  else
    match library.decodeAesKey aesKey with
    | none => ([], .error (.code "invalid_key"))
    | some key =>
        match reply with
        | .error failure => ([], .error failure.raised)
        | .ok response =>
            let (values, ciphertext) := client.readResponse library response
            (values, do
              let ciphertext ← ciphertext
              match library.decrypt key ciphertext with
              | none => .error (.code "decrypt_failed")
              | some plaintext =>
                  if plaintext.length > client.maxPlaintextBytes then
                    .error (.code "media_too_large")
                  else .ok (plaintext, library.contentDispositionFilename
                    response.contentDisposition))

end BoundedWeComDownloadClient

variable {most : Nat} {chunks : List Bytes}

theorem receive_bounded {held : Bytes} (small : held.length ≤ most) :
    ∀ value ∈ (receive most held chunks).1, value.length ≤ most := by
  induction chunks generalizing held with
  | nil =>
    intro value member
    cases List.mem_singleton.mp member
    exact small
  | cons chunk rest induction =>
    intro value member
    rw [receive] at member
    split at member
    case isTrue =>
      cases List.mem_singleton.mp member
      exact small
    case isFalse fits =>
      rcases List.mem_cons.mp member with rfl | later
      · exact small
      · refine induction ?_ value later
        rw [List.length_append]
        omega

theorem receive_all (held : Bytes) (fits : (held ++ chunks.flatten).length ≤ most) :
    (receive most held chunks).2 = some (held ++ chunks.flatten) := by
  induction chunks generalizing held with
  | nil => rw [receive, List.flatten_nil, List.append_nil]
  | cons chunk rest induction =>
    rw [List.flatten_cons, ← List.append_assoc] at fits ⊢
    rw [receive, if_neg]
    case hnc =>
      rw [List.length_append, List.length_append] at fits
      omega
    exact induction (held ++ chunk) fits

namespace BoundedWeComDownloadClient

variable (client : BoundedWeComDownloadClient) (library : Library Double)

theorem readResponse_bounded (response : Response) :
    ∀ value ∈ (client.readResponse library response).1,
      value.length ≤ client.maxCiphertextBytes := by
  unfold readResponse
  split
  · simp
  · split
    · simp
    · exact receive_bounded (Nat.zero_le _)

theorem buffer_bounded (url aesKey : String) (reply : Except TransportError Response) :
    ∀ value ∈ (client.downloadFile library url aesKey reply).1,
      value.length ≤ client.maxCiphertextBytes := by
  unfold downloadFile
  split
  · simp
  · split
    · simp
    · split
      · simp
      · exact client.readResponse_bounded library _

variable {plaintext : Bytes} {url aesKey : String}

theorem plaintext_bounded {reply : Except TransportError Response} {filename : Option String}
    (returned : (client.downloadFile library url aesKey reply).2 = .ok (plaintext, filename)) :
    plaintext.length ≤ client.maxPlaintextBytes := by
  unfold downloadFile at returned
  split at returned
  · cases returned
  · split at returned
    · cases returned
    · split at returned
      · cases returned
      · obtain ⟨ciphertext, _, returned⟩ := bind_eq_ok returned
        split at returned
        · cases returned
        · split at returned
          case isTrue => cases returned
          case isFalse small =>
            cases returned
            exact Nat.not_lt.mp small

theorem maxCiphertextBytes_isLeast :
    IsLeast { size | 32 ∣ size ∧ client.maxPlaintextBytes < size } client.maxCiphertextBytes := by
  unfold maxCiphertextBytes
  refine ⟨⟨Nat.dvd_mul_left _ _, by omega⟩, ?_⟩
  rintro size ⟨⟨blocks, rfl⟩, larger⟩
  omega

theorem length_pad_le (small : plaintext.length ≤ client.maxPlaintextBytes) :
    (pad 32 plaintext).length ≤ client.maxCiphertextBytes := by
  rw [length_pad 32 (by decide), maxCiphertextBytes]
  omega

def encrypted (key : Vector UInt8 32) (plaintext : Bytes) : Bytes :=
  Chaining.encrypt (library.aes key) (Library.iv key) (pad 32 plaintext)

theorem length_encrypted (key : Vector UInt8 32) (plaintext : Bytes) :
    (encrypted library key plaintext).length = (pad 32 plaintext).length := by
  refine Chaining.length_encrypt _ ?_
  rw [length_pad 32 (by decide)]
  omega

theorem decrypt_encrypted (key : Vector UInt8 32) (plaintext : Bytes) :
    library.decrypt key (encrypted library key plaintext) = some plaintext := by
  have length := length_encrypted library key plaintext
  have padded := length_pad 32 (by decide) plaintext
  rw [Library.decrypt, if_neg, encrypted, Chaining.decrypt_encrypt (by decide) _ (by omega),
    unpad_pad (by decide) (by decide)]
  rintro (empty | odd)
  · rw [empty, List.length_nil] at length
    omega
  · omega

/-- A successful response with the ciphertext of a plaintext, in any chunks. -/
structure Delivers (key : Vector UInt8 32) (response : Response) (plaintext : Bytes) : Prop where
  successful : 200 ≤ response.status ∧ response.status < 300
  chunks : response.chunks.flatten = encrypted library key plaintext
  whole : response.failure = none

/-- The header declares no length beyond the limit; it need not be the length
of the chunks, which are decoded ones. -/
def Declares (response : Response) : Prop :=
  ∀ length, library.contentLength response.contentLength = some length →
    length ≤ client.maxCiphertextBytes

variable {library} {key : Vector UInt8 32} {response : Response}

theorem readResponse_of_delivers (declares : client.Declares library response)
    (delivers : Delivers library key response plaintext)
    (small : plaintext.length ≤ client.maxPlaintextBytes) :
    (client.readResponse library response).2 = .ok (encrypted library key plaintext) := by
  have enough : (encrypted library key plaintext).length ≤ client.maxCiphertextBytes := by
    rw [length_encrypted]
    exact client.length_pad_le small
  rw [← delivers.chunks] at enough ⊢
  have received := receive_all [] enough
  have fits : ¬ (library.contentLength response.contentLength).any
      (fun length => length > (client.maxCiphertextBytes : Int)) = true := by
    intro exceeds
    obtain ⟨length, found, larger⟩ := (Option.any_eq_true ..).mp exceeds
    exact absurd (declares length found) (Int.not_le.mpr (of_decide_eq_true larger))
  rw [readResponse, if_neg (not_not_intro delivers.successful), if_neg fits]
  dsimp only
  rw [received, delivers.whole, List.nil_append]

theorem downloadFile_of_delivers (valid : library.isValid url = true)
    (decoded : library.decodeAesKey aesKey = some key) (declares : client.Declares library response)
    (delivers : Delivers library key response plaintext)
    (small : plaintext.length ≤ client.maxPlaintextBytes) :
    (client.downloadFile library url aesKey (.ok response)).2 =
      .ok (plaintext, library.contentDispositionFilename response.contentDisposition) := by
  have ciphertext := client.readResponse_of_delivers declares delivers small
  rw [downloadFile, valid, decoded]
  show ((client.readResponse library response).2 >>= _) = _
  rw [ciphertext]
  show (match library.decrypt key (encrypted library key plaintext) with
    | none => _
    | some plaintext => _) = _
  rw [decrypt_encrypted]
  exact if_neg (Nat.not_lt.mpr small)

variable (library)

/-- Neither the buffer nor what is returned exceeds its limit, whatever the
response is, and what does not exceed the limit is returned unless a larger
length is declared for it. -/
theorem download_is_bounded : (∀ url aesKey reply,
      (∀ value ∈ (client.downloadFile library url aesKey reply).1,
        value.length ≤ client.maxCiphertextBytes) ∧
      ∀ plaintext filename, (client.downloadFile library url aesKey reply).2 =
          .ok (plaintext, filename) →
        plaintext.length ≤ client.maxPlaintextBytes) ∧
    IsLeast { size | 32 ∣ size ∧ client.maxPlaintextBytes < size } client.maxCiphertextBytes ∧
    ∀ url aesKey key response plaintext,
      library.isValid url = true → library.decodeAesKey aesKey = some key →
      client.Declares library response →
      Delivers library key response plaintext →
      plaintext.length ≤ client.maxPlaintextBytes →
      (client.downloadFile library url aesKey (.ok response)).2 =
        .ok (plaintext, library.contentDispositionFilename response.contentDisposition) :=
  ⟨fun url aesKey reply => ⟨client.buffer_bounded library url aesKey reply,
      fun _ _ => client.plaintext_bounded library⟩,
    client.maxCiphertextBytes_isLeast,
    fun _ _ _ _ _ => client.downloadFile_of_delivers⟩

end BoundedWeComDownloadClient

/-- On the inputs below each function is the one of the library, but for the
block cipher. -/
def mediaLibrary : Library Unit where
  lower := String.toLower
  urlsplit url := if url = "https://host/media" then some ⟨"https", some "host", none, none⟩
    else none
  isGlobal _ := none
  isSpace := Char.isWhitespace
  b64decode text := Base64.decode text.toList
  intOfStr text := Decimal.int (fun _ => none) text.toList
  retryAfterSeconds _ := none
  contentDispositionFilename _ := none
  aes _ := Equiv.refl _

def mediaKey : String := "AQEBAQEBAQEBAQEBAQEBAQEBAQEBAQEBAQEBAQEBAQE"

def mediaClient : BoundedWeComDownloadClient := ⟨1, by decide⟩

def mediaCiphertext : Bytes := encrypted mediaLibrary (Vector.replicate 32 1) [7]

theorem media_isValid : mediaLibrary.isValid "https://host/media" = true := by
  decide +kernel

theorem decodeAesKey_mediaKey :
    mediaLibrary.decodeAesKey mediaKey = some (Vector.replicate 32 1) := by
  decide +kernel

theorem contentLength_media : mediaLibrary.contentLength (some "32") = some 32 ∧
      mediaLibrary.contentLength (some "33") = some 33 := by
  decide +kernel

theorem one_byte_is_downloaded :
    (mediaClient.downloadFile mediaLibrary "https://host/media" mediaKey
      (.ok ⟨200, some "32", none, none,
        [mediaCiphertext.take 5, mediaCiphertext.drop 5], none⟩)).2 =
      .ok ([7], none) := by
  refine (mediaClient.download_is_bounded mediaLibrary).2.2
    "https://host/media" mediaKey (Vector.replicate 32 1) _ [7] media_isValid
    decodeAesKey_mediaKey ?_ ⟨by decide, by simp [mediaCiphertext], rfl⟩ (by decide)
  intro length declared
  cases contentLength_media.1.symm.trans declared
  decide

/-- The chunks are the ciphertext of one byte, which is the maximum, and the
header declares one byte more than the ciphertext may have. -/
theorem declared_length_is_refused :
    let response : Response := ⟨200, some "33", none, none, [mediaCiphertext], none⟩
    mediaLibrary.isValid "https://host/media" = true ∧
      mediaLibrary.decodeAesKey mediaKey = some (Vector.replicate 32 1) ∧
      Delivers mediaLibrary (Vector.replicate 32 1) response [7] ∧
      (mediaClient.downloadFile mediaLibrary "https://host/media" mediaKey
        (.ok response)).2 = .error (.code "media_too_large" (some 200)) := by
  refine ⟨media_isValid, decodeAesKey_mediaKey, ⟨by decide, by simp [mediaCiphertext], rfl⟩, ?_⟩
  rw [downloadFile, media_isValid, decodeAesKey_mediaKey]
  dsimp only
  rw [readResponse, contentLength_media.2]
  rfl

end TrpcService.Channels.WeComDownload
