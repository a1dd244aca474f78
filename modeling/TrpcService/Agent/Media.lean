import Mathlib.Algebra.GroupWithZero.Nat
import Mathlib.Data.List.Infix
import TrpcService.Data.Coroutine

namespace TrpcService.Agent.Media

open Data Coroutine

/-! The media of one turn: download, staging and text extraction, with the
backends, the object store and the audit trail as effects. -/

abbrev Bytes := List UInt8

inductive MediaKind where
  | text
  | pdf
  | image
  | unsupported
  deriving DecidableEq, Repr

inductive ExtractionStatus where
  | extracted
  | unavailable
  | unsupported
  | rejected
  | failed
  deriving DecidableEq, Repr

inductive ErrorClass where
  | pdfDependencyUnavailable
  | pdfEncrypted
  | pdfCorrupt
  | compressionBomb
  | memoryError
  | nulContent
  | binaryContent
  | unicodeDecodeError
  deriving DecidableEq, Repr

structure PyError where
  name : String
  classes : List ErrorClass := []
  isException : Bool := true

def typeError : PyError := { name := "typeerror" }

def compressionBomb : PyError := { name := "_compressionbomb", classes := [.compressionBomb] }

def nulContent : PyError := { name := "_nulcontent", classes := [.nulContent] }

def binaryContent : PyError := { name := "_binarycontent", classes := [.binaryContent] }

structure MediaLimits where
  maxBytes : Nat
  maxPdfPages : Nat
  maxChars : Nat
  maxFilenameChars : Nat := 255
  maxExpansionRatio : Nat := 16
  positive : 0 < maxBytes ∧ 0 < maxPdfPages ∧ 0 < maxChars ∧
    0 < maxFilenameChars ∧ 0 < maxExpansionRatio

structure MediaPolicy where
  enabled : Bool := true
  maxItemsPerTurn : Nat := 4
  maxBytesPerItem : Nat := 20 * 1024 * 1024
  maxTotalBytes : Nat := 32 * 1024 * 1024
  maxPdfPages : Nat := 40
  maxExtractedChars : Nat := 60000
  inlineImages : Bool := true
  items_range : 1 ≤ maxItemsPerTurn ∧ maxItemsPerTurn ≤ 16 := by decide
  bytes_range : 1024 ≤ maxBytesPerItem ∧ maxBytesPerItem ≤ 100 * 1024 * 1024 := by
    decide
  total_range : 1024 ≤ maxTotalBytes ∧ maxTotalBytes ≤ 200 * 1024 * 1024 := by
    decide
  pages_range : 1 ≤ maxPdfPages ∧ maxPdfPages ≤ 500 := by decide
  chars_range : 256 ≤ maxExtractedChars ∧ maxExtractedChars ≤ 500000 := by
    decide

example : ({} : MediaPolicy).maxBytesPerItem = 20971520 := rfl

structure MediaReference where
  providerUrl : Option String := none
  providerMediaId : Option String := none
  encryptionKeyRef : Option String := none
  filename : Option String := none
  contentType : Option String := none

structure DownloadedMedia where
  data : Bytes
  filename : Option String := none
  contentType : Option String := none

structure PreparedMedia where
  filename : Option String
  contentType : String
  text : Option String := none
  inlineData : Option Bytes := none

structure MediaExtractionResult where
  text : String
  kind : MediaKind
  status : ExtractionStatus
  filename : Option String
  contentType : Option String
  truncated : Bool := false
  errorType : Option String := none

def MediaExtractionResult.success (result : MediaExtractionResult) : Bool :=
  result.status = .extracted

/-- What a backend gives as its text: another object may have a length. -/
inductive BackendText where
  | str (value : String)
  | other (length : Option Nat)

structure PdfExtraction where
  text : BackendText
  /-- Nothing, a number or another object. -/
  pages : Option (Option Int) := none
  truncated : Bool := false
  errorType : Option String := none

structure OcrExtraction where
  text : BackendText
  truncated : Bool := false
  errorType : Option String := none

/-- The answers of a PDF backend; in a mapping and a sequence, what is no string
or no number is left open. -/
inductive PdfOutput where
  | extraction (value : PdfExtraction)
  | str (value : String)
  | mapping (text : Option String) (pages : Option Int) (truncated : Bool)
      (errorType : Option String)
  | sequence (items : List (Option String))
  | other

inductive OcrOutput where
  | extraction (value : OcrExtraction)
  | str (value : String)
  | mapping (text : Option String) (truncated : Bool) (errorType : Option String)
  | other

structure AuditMetadata where
  itemIndex : Nat
  sizeBytes : Option Nat := none
  result : Option (MediaKind × ExtractionStatus × Bool) := none

structure BindingRoute where
  bindingId : String
  tenantId : String

inductive Effect where
  | resolveBinding (bindingId : String)
  | downloadMedia (bindingId messageId providerId mediaType : String)
      (filename : Option String) (reference : Option MediaReference)
  | stage (artifactId : String) (body : Bytes) (checksum : String)
  | commit (artifactId stagedKey : String)
  | discard (stagedKey : String)
  | audit (decision : String) (errorType : Option String) (metadata : AuditMetadata)
  | extractPdf (data : Bytes) (maxPages maxChars : Nat)
  | extractOcr (data : Bytes) (filename contentType : Option String) (maxChars : Nat)

def Answer : Effect → Type
  | .resolveBinding _ => Option BindingRoute
  | .downloadMedia .. => DownloadedMedia
  | .stage .. => String
  | .commit .. => Unit
  | .discard _ => Unit
  | .audit .. => Unit
  | .extractPdf .. => PdfOutput
  | .extractOcr .. => OcrOutput

abbrev Program := Coroutine Effect Answer PyError

def perform (effect : Effect) : Program (Answer effect) := Coroutine.perform effect

structure Library where
  sanitizeText : String → String
  safeErrorType : PyError → String
  isPrintable : Char → Bool
  isAlnum : Char → Bool
  strip : String → String
  lower : String → String
  decodeUtf8Sig : Bytes → Option String
  hexDigest : Bytes → String
  encode : String → Bytes

structure Turn where
  inboundId : String
  tenantId : String
  channelBindingId : String
  externalMessageId : String
  payloadIsVideo : Bool
  payloadIsImage : Bool
  hasServices : Bool
  hasDownloader : Bool
  supportsMediaReference : Bool

def startsWith (text front : String) : Bool := front.toList.isPrefixOf text.toList

def truthy (value : Option String) : Option String := value.filter fun text => text ≠ ""

section Extraction

variable (library : Library)

def afterSlash (name : List Char) : List Char :=
  (name.reverse.takeWhile fun char => char != '/').reverse

def safeFilename (filename : Option String) (maxChars : Nat) : Option String :=
  (truthy filename).bind fun filename =>
    let name := afterSlash (filename.toList.map fun char => if char = '\\' then '/' else char)
    let printable := String.ofList (name.filter library.isPrintable)
    truthy (some (String.ofList ((library.sanitizeText printable).toList.take maxChars)))

def normalizeContentType (contentType : Option String) : Option String :=
  contentType.bind fun contentType =>
    let value := library.lower (library.strip
      (String.ofList (contentType.toList.takeWhile fun char => char != ';')))
    if value = "" ∨ 128 < value.length ∨ '/' ∉ value.toList then none
    else if value.toList.any fun char =>
        !(library.isAlnum char || "!#$&^_.+-/".toList.contains char) then none
    else some value

def extension (filename : Option String) : String :=
  match truthy filename with
  | none => ""
  | some filename =>
      let name := (library.lower (String.ofList (afterSlash filename.toList))).toList
      let suffix := name.reverse.takeWhile fun char => char != '.'
      if suffix.length + 1 < name.length then String.ofList ('.' :: suffix.reverse)
      else ""

def textExtensions : List String :=
  [".c", ".cfg", ".conf", ".csv", ".css", ".go", ".html", ".htm", ".ini",
    ".java", ".js", ".json", ".log", ".md", ".py", ".rst", ".sh", ".tex",
    ".sql", ".toml", ".ts", ".tsx", ".txt", ".xml", ".yaml", ".yml"]

def textContentTypes : List String :=
  ["application/ecmascript", "application/javascript", "application/json",
    "application/ld+json", "application/rtf", "application/sql",
    "application/x-ndjson", "application/x-yaml", "application/xml"]

def imageExtensions : List String :=
  [".avif", ".bmp", ".gif", ".heic", ".jpeg", ".jpg", ".png", ".tif", ".tiff", ".webp"]

def mediaKind (filename contentType : Option String) (data : Bytes) : MediaKind :=
  let suffix := extension library filename
  if contentType = some "application/pdf" ∨ suffix = ".pdf" ∨
      -- The bytes of `%PDF-`.
      [37, 80, 68, 70, 45] <+: data then .pdf
  else if contentType.any (startsWith · "image/") ∨ suffix ∈ imageExtensions then .image
  else if contentType.any (startsWith · "text/") ∨ contentType.any textContentTypes.contains ∨
      suffix ∈ textExtensions then .text
  else .unsupported

def unavailableText (reason : String) : String := "[media content unavailable: " ++ reason ++ "]"

def textControls : List Char := ['\t', '\n', '\r', '\x0c']

def safeText (value : BackendText) (maxChars : Nat) : Except PyError (String × Bool) :=
  match value with
  | .other _ => .error typeError
  | .str value =>
      if '\x00' ∈ value.toList then .error nulContent
      else if value.toList.any fun char => (char.toNat < 32 && !(textControls.contains char)) ||
            (0x7f ≤ char.toNat && char.toNat ≤ 0x9f) then .error binaryContent
      else
        let sanitized := library.sanitizeText value
        .ok (String.ofList (sanitized.toList.take maxChars), maxChars < sanitized.length)

def classifyBackendError (error : PyError) (pdf : Bool) : String :=
  let named (token : String) : Bool := decide (token.toList <:+: error.name.toList)
  if .pdfDependencyUnavailable ∈ error.classes ∨ named "unavailable" ∨ named "import" then
    if pdf then "pdf_unavailable" else "ocr_unavailable"
  else if .pdfEncrypted ∈ error.classes ∨ named "decrypt" ∨ named "password" ∨
      named "encrypted" then "pdf_encrypted"
  else if .compressionBomb ∈ error.classes ∨ .memoryError ∈ error.classes then "compression_bomb"
  else if .nulContent ∈ error.classes then "nul_byte"
  else if .binaryContent ∈ error.classes then "binary_content"
  else if pdf ∧ (.pdfCorrupt ∈ error.classes ∨ named "pdf" ∨ named "stream") then "pdf_corrupt"
  else if .unicodeDecodeError ∈ error.classes then "invalid_utf8"
  else if pdf then "pdf_extractor_failed"
  else "ocr_failed"

def normalizePdf (value : PdfOutput) (limits : MediaLimits) : Except PyError PdfExtraction :=
  match value with
  | .extraction value => .ok value
  | .str value => .ok { text := .str value }
  | .mapping text pages truncated errorType =>
      .ok {
        text := .str (text.getD "")
        pages := (pages.filter (0 ≤ ·)).map some
        truncated
        errorType }
  | .sequence items =>
      .ok {
        text := .str ("\n\n".intercalate
          ((items.take limits.maxPdfPages).filterMap id))
        pages := some (some items.length)
        truncated := limits.maxPdfPages < items.length }
  | .other => .error typeError

def normalizeOcr (value : OcrOutput) : Except PyError OcrExtraction :=
  match value with
  | .extraction value => .ok value
  | .str value => .ok { text := .str value }
  | .mapping text truncated errorType => .ok { text := .str (text.getD ""), truncated, errorType }
  | .other => .error typeError

def BackendText.length : BackendText → Except PyError Nat
  | .str value => .ok value.length
  | .other length => length.elim (.error typeError) .ok

def boundedText (limits : MediaLimits) (sizeBytes : Nat) (text : BackendText) :
    Except PyError (String × Bool) := do
  let length ← text.length
  if max (limits.maxChars * limits.maxExpansionRatio)
      (sizeBytes * limits.maxExpansionRatio) < length then
    .error compressionBomb
  else safeText library text limits.maxChars

def pagesExceed (limits : MediaLimits) : Option (Option Int) → Except PyError Bool
  | none => .ok false
  | some none => .error typeError
  | some (some pages) => .ok (limits.maxPdfPages < pages)

structure Subject where
  filename : Option String
  contentType : Option String

def Subject.without (subject : Subject) (kind : MediaKind) (status : ExtractionStatus)
    (reason errorType : String) : MediaExtractionResult :=
  { text := unavailableText reason, kind, status
    filename := subject.filename, contentType := subject.contentType
    errorType := some errorType }

def Subject.extracted (subject : Subject) (kind : MediaKind) (text : String)
    (truncated : Bool) : MediaExtractionResult :=
  { text, kind, status := .extracted, truncated
    filename := subject.filename, contentType := subject.contentType }

def onException {α : Type} (program : Program α) (handler : PyError → Program α) : Program α :=
  tryCatch program fun error => if error.isException then handler error else throw error

variable (limits : MediaLimits) (subject : Subject) (data : Bytes)

def extractText : MediaExtractionResult :=
  match library.decodeUtf8Sig data with
  | none => subject.without .text .rejected "invalid UTF-8" "invalid_utf8"
  | some text =>
      match safeText library (.str text) limits.maxChars with
      | .ok (bounded, truncated) => subject.extracted .text bounded truncated
      | .error error =>
          let errorType := classifyBackendError error false
          subject.without .text .rejected
            (if errorType = "nul_byte" then "NUL byte" else "binary content")
            errorType

def readOcr (kind : MediaKind) : Program MediaExtractionResult := do
  let raw ← perform (.extractOcr data subject.filename subject.contentType
    limits.maxChars)
  let extraction ← done (normalizeOcr raw)
  match truthy extraction.errorType with
  | some errorType =>
      pure (subject.without kind .unavailable "OCR unavailable" errorType)
  | none => do
      let (bounded, charTruncated) ← done
        (boundedText library limits data.length extraction.text)
      if library.strip bounded = "" then
        pure (subject.without kind .unavailable "OCR returned no text" "ocr_empty")
      else
        pure (subject.extracted kind bounded
          (extraction.truncated || charTruncated))

def extractOcr (hasOcr : Bool) (kind : MediaKind) : Program MediaExtractionResult :=
  if hasOcr then
    onException (readOcr library limits subject data kind) fun error =>
      let errorType := classifyBackendError error false
      if errorType = "compression_bomb" then
        pure (subject.without kind .rejected "content expansion limit exceeded" errorType)
      else pure (subject.without kind .failed "OCR failed" errorType)
  else pure (subject.without kind .unavailable "OCR unavailable" "ocr_unavailable")

def readPdf : Program (Option MediaExtractionResult) := do
  let raw ← perform (.extractPdf data limits.maxPdfPages limits.maxChars)
  let extraction ← done (normalizePdf raw limits)
  match truthy extraction.errorType with
  | some errorType =>
      pure (some (subject.without .pdf .unavailable "PDF extraction unavailable"
        errorType))
  | none => do
      let (bounded, charTruncated) ← done
        (boundedText library limits data.length extraction.text)
      let pageTruncated ← done (pagesExceed limits extraction.pages)
      if library.strip bounded = "" then pure none
      else
        pure (some (subject.extracted .pdf bounded
          (extraction.truncated || charTruncated || pageTruncated)))

def pdfFailure (error : PyError) : MediaExtractionResult :=
  let errorType := classifyBackendError error true
  if errorType = "pdf_unavailable" then
    subject.without .pdf .unavailable "PDF extraction unavailable" errorType
  else if errorType = "pdf_encrypted" then subject.without .pdf .failed "encrypted PDF" errorType
  else if errorType = "pdf_corrupt" then subject.without .pdf .failed "corrupt PDF" errorType
  else if errorType = "compression_bomb" then
    subject.without .pdf .rejected "content expansion limit exceeded" errorType
  else subject.without .pdf .failed "PDF extraction failed" errorType

def extractPdf (hasOcr : Bool) : Program MediaExtractionResult := do
  let read ← onException (readPdf library limits subject data) fun error =>
    pure (some (pdfFailure subject error))
  match read with
  | some result => pure result
  | none =>
      if hasOcr then extractOcr library limits subject data hasOcr .pdf
      else
        pure (subject.without .pdf .unavailable "OCR unavailable for scanned PDF"
          "ocr_unavailable")

def extract (hasOcr : Bool) (data : Bytes)
    (filename contentType : Option String) : Program MediaExtractionResult :=
  let subject : Subject :=
    { filename := safeFilename library filename limits.maxFilenameChars
      contentType := normalizeContentType library contentType }
  let kind := mediaKind library subject.filename subject.contentType data
  if limits.maxBytes < data.length then
    pure (subject.without kind .rejected "size limit exceeded" "too_large")
  else
    match kind with
    | .text => pure (extractText library limits subject data)
    | .pdf => extractPdf library limits subject data hasOcr
    | .image => extractOcr library limits subject data hasOcr .image
    | .unsupported =>
        pure (subject.without .unsupported .unsupported "unsupported media type"
          "unsupported_media")

end Extraction

structure Prepared where
  media : PreparedMedia
  extracted : Bool := false

structure Progress where
  prepared : List Prepared := []
  totalBytes : Nat := 0
  remainingChars : Nat

def Progress.add (progress : Progress) (media : PreparedMedia) (extracted : Bool) : Progress :=
  { progress with prepared := progress.prepared ++ [{ media, extracted }] }

def unavailableMedia (reference : MediaReference) (reason : String) :
    PreparedMedia where
  filename := none
  contentType := (truthy reference.contentType).getD "application/octet-stream"
  text := some (unavailableText reason)

section Loop

variable (library : Library) (turn : Turn) (policy : MediaPolicy) (hasOcr : Bool)

def providerId (reference : MediaReference) : Option String := (truthy reference.providerMediaId).or
    ((truthy reference.providerUrl).map fun url => "url_" ++ library.hexDigest (library.encode url))

def resourceType (reference : MediaReference) : String :=
  let contentType := reference.contentType.getD ""
  if turn.payloadIsVideo ∨ startsWith contentType "video/" then "video"
  else if turn.payloadIsImage ∨ startsWith contentType "image/" ∨
      startsWith (reference.providerMediaId.getD "") "img_" then "image"
  else "file"

def download (route : BindingRoute) (index : Nat) (reference : MediaReference)
    (providerId : String) : Program (Option DownloadedMedia) :=
  onException
    (do
      let downloaded ← perform (.downloadMedia route.bindingId
        turn.externalMessageId providerId (resourceType turn reference)
        reference.filename
        (if turn.supportsMediaReference then some reference else none))
      pure (some downloaded))
    fun error => do
      perform (.audit "media_download_failed" (some (library.safeErrorType error))
        { itemIndex := index })
      pure none

def stageAndCommit (index : Nat) (providerId : String) (body : Bytes) :
    Program Unit := do
  let artifactId := library.hexDigest (library.encode
    (turn.inboundId ++ ":" ++ toString index ++ ":" ++ providerId))
  let stagedKey ← perform (.stage artifactId body (library.hexDigest body))
  tryCatch (perform (.commit artifactId stagedKey)) fun error => do
    onException (perform (.discard stagedKey)) fun _ => pure ()
    throw error

def preparedMedia (body : Bytes) (result : MediaExtractionResult) : PreparedMedia :=
  let contentType := result.contentType.getD "application/octet-stream"
  let inlineData := if policy.inlineImages ∧ result.kind = .image ∧
        startsWith contentType "image/" then some body
    else none
  { filename := result.filename
    contentType
    text := if result.success ∨ inlineData = none then some result.text else none
    inlineData }

def extractItem (index : Nat) (reference : MediaReference)
    (downloaded : DownloadedMedia) (progress : Progress) : Program Progress :=
  if left : 0 < progress.remainingChars then do
    let result ← extract library
      { maxBytes := policy.maxBytesPerItem
        maxPdfPages := policy.maxPdfPages
        maxChars := progress.remainingChars
        positive := ⟨by have := policy.bytes_range; omega,
          policy.pages_range.1, left, by decide, by decide⟩ }
      hasOcr downloaded.data
      ((truthy downloaded.filename).or reference.filename)
      ((truthy downloaded.contentType).or reference.contentType)
    perform (.audit "media_ingested" result.errorType
      { itemIndex := index
        sizeBytes := some downloaded.data.length
        result := some (result.kind, result.status, result.truncated) })
    pure { progress.add (preparedMedia policy downloaded.data result)
        result.success with
      remainingChars := progress.remainingChars -
        if result.success then result.text.length else 0 }
  else do
    perform (.audit "media_ingested" (some "extraction_limit")
      { itemIndex := index, sizeBytes := some downloaded.data.length })
    pure (progress.add
      { filename := none
        contentType := "application/octet-stream"
        text := some (unavailableText "extraction character limit exceeded") }
      false)

def prepareItem (route : BindingRoute) (index : Nat)
    (reference : MediaReference) (progress : Progress) : Program Progress :=
  match providerId library reference with
  | none =>
      pure (progress.add
        (unavailableMedia reference "provider media id is unavailable") false)
  | some providerId => do
      match ← download library turn route index reference providerId with
      | none =>
          pure (progress.add (unavailableMedia reference "download failed") false)
      | some downloaded =>
          let size := downloaded.data.length
          if policy.maxBytesPerItem < size ∨
              policy.maxTotalBytes < progress.totalBytes + size then do
            perform (.audit "media_rejected" (some "media_too_large")
              { itemIndex := index, sizeBytes := some size })
            pure (progress.add
              (unavailableMedia reference "size limit exceeded") false)
          else do
            stageAndCommit library turn index providerId downloaded.data
            extractItem library policy hasOcr index reference downloaded
              { progress with totalBytes := progress.totalBytes + size }

def prepareItems (route : BindingRoute) :
    Nat → List MediaReference → Progress → Program Progress
  | _, [], progress => pure progress
  | index, reference :: rest, progress => do
      let progress ←
        prepareItem library turn policy hasOcr route index reference progress
      prepareItems route (index + 1) rest progress

def additionalMedia : PreparedMedia where
  filename := none
  contentType := "application/octet-stream"
  text := some "[additional media rejected: item limit exceeded]"

def prepareMedia (references : List MediaReference) : Program (List Prepared) :=
  if references = [] ∨ ¬policy.enabled ∨ ¬turn.hasServices ∨
      ¬turn.hasDownloader then pure []
  else do
    match ← perform (.resolveBinding turn.channelBindingId) with
    | none => throw { name := "lookuperror" }
    | some route =>
        if route.tenantId ≠ turn.tenantId then throw { name := "lookuperror" }
        else do
          let selected := references.take policy.maxItemsPerTurn
          let progress ← prepareItems library turn policy hasOcr route 0 selected
            { remainingChars := policy.maxExtractedChars }
          if selected.length < references.length then
            pure (progress.add additionalMedia false).prepared
          else pure progress.prepared

end Loop

/-- The budgets of a policy for what is handed to the object store. -/
structure Within (policy : MediaPolicy) (staged : List Bytes) : Prop where
  items : staged.length ≤ policy.maxItemsPerTurn
  each : ∀ body ∈ staged, body.length ≤ policy.maxBytesPerItem
  total : (staged.map List.length).sum ≤ policy.maxTotalBytes

/-- A body may only be staged within the budgets; it counts even if the store
fails. -/
def budget (policy : MediaPolicy) :
    Protocol Effect Answer PyError (List Bytes) where
  permits staged effect :=
    match effect with
    | .stage _ body _ => Within policy (staged ++ [body])
    | _ => True
  next staged effect _ :=
    match effect with
    | .stage _ body _ => staged ++ [body]
    | _ => staged

def extractedChars (items : List Prepared) : Nat :=
  ((items.filter Prepared.extracted).map fun item => (item.media.text.getD "").length).sum

section Rules

variable {α : Type} {policy : MediaPolicy} {staged : List Bytes} {raised : List Bytes → Prop}

theorem obeys_perform_quiet {effect : Effect}
    (quiet : ∀ artifactId body checksum, effect ≠ .stage artifactId body checksum)
    (safe : raised staged) :
    Obeys (budget policy) (Ends (fun _ after => after = staged) raised) staged
      (perform effect) := by
  have unchanged : ∀ answer, (budget policy).next staged effect answer = staged := by
    intro answer
    cases effect with
    | stage artifactId body checksum => exact absurd rfl (quiet _ _ _)
    | _ => rfl
  refine Coroutine.obeys_perform.mpr ⟨?_, ?_⟩
  · cases effect with
    | stage artifactId body checksum => exact absurd rfl (quiet _ _ _)
    | _ => trivial
  · intro answer
    rw [unchanged]
    cases answer with
    | ok value => exact rfl
    | error error => exact safe

variable {returned : α → List Bytes → Prop}

theorem obeys_quietly {effect : Effect} {next : Answer effect → Program α}
    (quiet : ∀ artifactId body checksum, effect ≠ .stage artifactId body checksum)
    (safe : raised staged)
    (rest : ∀ answer, Obeys (budget policy) (Ends returned raised) staged (next answer)) :
    Obeys (budget policy) (Ends returned raised) staged (perform effect >>= next) := by
  refine (obeys_perform_quiet quiet safe).andThen ?_
  intro answer after same
  subst same
  exact rest answer

theorem obeys_attempt {β : Type} {attempt : Except PyError β}
    {next : β → Program α} (safe : raised staged)
    (rest : ∀ value, attempt = .ok value → Obeys (budget policy)
      (Ends returned raised) staged (next value)) :
    Obeys (budget policy) (Ends returned raised) staged (done attempt >>= next) := by
  cases attempt with
  | ok value => exact rest value rfl
  | error error => exact safe

theorem obeys_onException {program : Program α} {handler : PyError → Program α}
    (first : Obeys (budget policy) (Ends returned (· = staged)) staged program)
    (rest : ∀ error, Obeys (budget policy) (Ends returned raised) staged (handler error))
    (safe : raised staged) :
    Obeys (budget policy) (Ends returned raised) staged (onException program handler) := by
  apply first.orElse
  intro error after same
  subst same
  split
  · exact rest error
  · exact safe

end Rules

section Extracted

variable {library : Library} {limits : MediaLimits} {subject : Subject} {data : Bytes}

def Fits (limits : MediaLimits) (result : MediaExtractionResult) : Prop :=
  result.success = true → result.text.length ≤ limits.maxChars

theorem fits_without {kind : MediaKind} {status : ExtractionStatus}
    {reason errorType : String} (failed : status ≠ .extracted) :
    Fits limits (subject.without kind status reason errorType) := by
  intro success
  simp [MediaExtractionResult.success, Subject.without, failed] at success

theorem length_safeText {value : BackendText} {maxChars : Nat} {bounded : String × Bool}
    (done : safeText library value maxChars = .ok bounded) : bounded.1.length ≤ maxChars := by
  unfold safeText at done
  split at done
  · cases done
  split at done
  · cases done
  split at done
  · cases done
  cases done
  simp only [String.length_ofList, List.length_take]
  exact Nat.min_le_left _ _

theorem length_boundedText {sizeBytes : Nat} {text : BackendText} {bounded : String × Bool}
    (done : boundedText library limits sizeBytes text = .ok bounded) :
    bounded.1.length ≤ limits.maxChars := by
  unfold boundedText at done
  obtain ⟨length, -, done⟩ := bind_eq_ok done
  split at done
  · cases done
  · exact length_safeText done

theorem fits_extractText : Fits limits (extractText library limits subject data) := by
  unfold extractText
  split
  · exact fits_without (by decide)
  split
  · rename_i done
    intro _
    exact length_safeText done
  · exact fits_without (by decide)

theorem fits_pdfFailure (error : PyError) : Fits limits (pdfFailure subject error) := by
  unfold pdfFailure
  dsimp only
  split
  · exact fits_without (by decide)
  split
  · exact fits_without (by decide)
  split
  · exact fits_without (by decide)
  split
  · exact fits_without (by decide)
  · exact fits_without (by decide)

abbrev Extracts (policy : MediaPolicy) (limits : MediaLimits) (raised : List Bytes → Prop)
    (staged : List Bytes) (program : Program MediaExtractionResult) : Prop :=
  Obeys (budget policy)
    (Ends (fun result after => Fits limits result ∧ after = staged) raised) staged program

variable {policy : MediaPolicy} {staged : List Bytes} (raised : List Bytes → Prop)
  (safe : raised staged)

include safe

theorem extracts_readOcr (kind : MediaKind) :
    Extracts policy limits raised staged (readOcr library limits subject data kind) := by
  apply obeys_quietly (by simp) safe
  intro raw
  apply obeys_attempt safe
  intro extraction _
  split
  · exact ⟨fits_without (by decide), rfl⟩
  apply obeys_attempt safe
  intro bounded done
  have short := length_boundedText done
  dsimp only
  split
  · exact ⟨fits_without (by decide), rfl⟩
  · exact ⟨fun _ => short, rfl⟩

theorem extracts_extractOcr (hasOcr : Bool) (kind : MediaKind) :
    Extracts policy limits raised staged (extractOcr library limits subject data hasOcr kind) := by
  unfold extractOcr
  split
  · apply obeys_onException (extracts_readOcr (· = staged) rfl kind) _ safe
    intro error
    dsimp only
    split
    · exact ⟨fits_without (by decide), rfl⟩
    · exact ⟨fits_without (by decide), rfl⟩
  · exact ⟨fits_without (by decide), rfl⟩

theorem obeys_readPdf : Obeys (budget policy) (Ends (fun read after =>
        (∀ result, read = some result → Fits limits result) ∧ after = staged)
        raised) staged (readPdf library limits subject data) := by
  apply obeys_quietly (by simp) safe
  intro raw
  apply obeys_attempt safe
  intro extraction _
  split
  · refine ⟨?_, rfl⟩
    intro result same
    cases same
    exact fits_without (by decide)
  apply obeys_attempt safe
  intro bounded done
  have short := length_boundedText done
  dsimp only
  apply obeys_attempt safe
  intro pageTruncated _
  split
  · refine ⟨?_, rfl⟩
    intro result same
    cases same
  · refine ⟨?_, rfl⟩
    intro result same
    cases same
    exact fun _ => short

theorem extracts_extractPdf (hasOcr : Bool) :
    Extracts policy limits raised staged (extractPdf library limits subject data hasOcr) := by
  refine (obeys_onException (obeys_readPdf (· = staged) rfl) ?_ safe).andThen ?_
  · intro error
    refine ⟨?_, rfl⟩
    intro result same
    cases same
    exact fits_pdfFailure error
  · intro read after fits
    obtain ⟨fits, rfl⟩ := fits
    split
    · rename_i result
      exact ⟨fits result rfl, rfl⟩
    split
    · exact extracts_extractOcr raised safe hasOcr .pdf
    · exact ⟨fits_without (by decide), rfl⟩

theorem extracts_extract (hasOcr : Bool) (filename contentType : Option String) :
    Extracts policy limits raised staged
      (extract library limits hasOcr data filename contentType) := by
  unfold extract
  dsimp only
  split
  · exact ⟨fits_without (by decide), rfl⟩
  split
  · exact ⟨fits_extractText, rfl⟩
  · exact extracts_extractPdf raised safe hasOcr
  · exact extracts_extractOcr raised safe hasOcr .image
  · exact ⟨fits_without (by decide), rfl⟩

end Extracted

section Turns

variable {library : Library} {turn : Turn} {policy : MediaPolicy} {hasOcr : Bool}
  {staged : List Bytes} {progress : Progress} {index : Nat}

structure Stands (policy : MediaPolicy) (index : Nat) (progress : Progress)
    (staged : List Bytes) : Prop where
  within : Within policy staged
  count : staged.length ≤ index
  bytes : progress.totalBytes = (staged.map List.length).sum
  chars : extractedChars progress.prepared + progress.remainingChars ≤ policy.maxExtractedChars

theorem extractedChars_add (progress : Progress) (media : PreparedMedia) (extracted : Bool) :
    extractedChars (progress.add media extracted).prepared = extractedChars progress.prepared +
        if extracted then (media.text.getD "").length else 0 := by
  cases extracted with
  | false => simp [extractedChars, Progress.add]
  | true => simp [extractedChars, Progress.add]

theorem Stands.add (stands : Stands policy index progress staged) (media : PreparedMedia) :
    Stands policy (index + 1) (progress.add media false) staged where
  within := stands.within
  count := Nat.le_succ_of_le stands.count
  bytes := stands.bytes
  chars := by
    rw [extractedChars_add]
    exact stands.chars

variable {body : Bytes}

theorem Stands.stage (stands : Stands policy index progress staged)
    (room : index < policy.maxItemsPerTurn)
    (small : body.length ≤ policy.maxBytesPerItem)
    (fits : progress.totalBytes + body.length ≤ policy.maxTotalBytes) :
    Within policy (staged ++ [body]) where
  items := by
    have := stands.count
    simp only [List.length_append, List.length_singleton]
    omega
  each := by
    intro other member
    rw [List.mem_append, List.mem_singleton] at member
    obtain member | rfl := member
    · exact stands.within.each other member
    · exact small
  total := by
    rw [stands.bytes] at fits
    simpa using fits

variable {reference : MediaReference} {route : BindingRoute}

theorem obeys_download {providerId : String} : Obeys (budget policy)
      (Ends (fun _ after => after = staged) fun _ => True) staged
      (download library turn route index reference providerId) := by
  refine obeys_onException ?_ ?_ trivial
  · refine obeys_quietly ?_ ?_ ?_
    · simp
    · rfl
    · intro downloaded
      exact rfl
  · intro error
    apply obeys_quietly (by simp) trivial
    intro _
    exact rfl

theorem obeys_stageAndCommit {providerId : String} (permitted : Within policy (staged ++ [body])) :
    Obeys (budget policy) (Ends (fun _ after => after = staged ++ [body]) fun _ => True)
      staged (stageAndCommit library turn index providerId body) := by
  have performed : ∀ artifactId checksum, Obeys (budget policy)
      (Ends (fun _ after => after = staged ++ [body]) fun _ => True)
      staged (perform (.stage artifactId body checksum)) := by
    intro artifactId checksum
    refine Coroutine.obeys_perform.mpr ⟨permitted, ?_⟩
    intro answer
    cases answer with
    | ok value => exact rfl
    | error error => trivial
  refine (performed _ _).andThen ?_
  intro stagedKey after same
  subst same
  refine (obeys_perform_quiet (by simp) rfl).orElse ?_
  intro error after same
  subst same
  refine (obeys_onException (obeys_perform_quiet (by simp) rfl) ?_ trivial).andThen ?_
  · intro _
    exact rfl
  · intro _ _ _
    trivial

theorem text_preparedMedia {result : MediaExtractionResult} (success : result.success = true) :
    (preparedMedia policy body result).text = some result.text := by
  simp [preparedMedia, success]

theorem obeys_extractItem {downloaded : DownloadedMedia}
    (within : Within policy staged) (count : staged.length ≤ index + 1)
    (bytes : progress.totalBytes = (staged.map List.length).sum)
    (chars : extractedChars progress.prepared + progress.remainingChars ≤
      policy.maxExtractedChars) :
    Obeys (budget policy) (Ends (fun progress after =>
        Stands policy (index + 1) progress after) fun _ => True) staged
      (extractItem library policy hasOcr index reference downloaded progress) := by
  unfold extractItem
  split
  · refine (extracts_extract (fun _ => True) trivial hasOcr _ _).andThen ?_
    intro result after fits
    obtain ⟨fits, rfl⟩ := fits
    apply obeys_quietly (by simp) trivial
    intro _
    refine ⟨within, count, bytes, ?_⟩
    have counted := extractedChars_add progress
      (preparedMedia policy downloaded.data result) result.success
    cases success : result.success with
    | false =>
      rw [success] at counted
      simpa [counted] using chars
    | true =>
      have short : result.text.length ≤ progress.remainingChars := fits success
      rw [success, text_preparedMedia success] at counted
      simp only [if_true, Option.getD_some] at counted ⊢
      omega
  · apply obeys_quietly (by simp) trivial
    intro _
    refine ⟨within, count, bytes, ?_⟩
    rw [extractedChars_add]
    exact chars

variable (stands : Stands policy index progress staged)

include stands

theorem obeys_prepareItem (room : index < policy.maxItemsPerTurn) :
    Obeys (budget policy) (Ends (fun progress after =>
        Stands policy (index + 1) progress after) fun _ => True) staged
      (prepareItem library turn policy hasOcr route index reference progress) := by
  unfold prepareItem
  split
  · exact stands.add _
  refine obeys_download.andThen ?_
  intro downloaded after same
  subst same
  split
  · exact stands.add _
  rename_i downloaded
  dsimp only
  split
  · apply obeys_quietly (by simp) trivial
    intro _
    exact stands.add _
  · rename_i small
    rw [not_or, Nat.not_lt, Nat.not_lt] at small
    have permitted := stands.stage room small.1 small.2
    refine (obeys_stageAndCommit permitted).andThen ?_
    intro _ after same
    subst same
    apply obeys_extractItem permitted
    · simpa using stands.count
    · simp [stands.bytes]
    · exact stands.chars

theorem obeys_prepareItems {references : List MediaReference}
    (room : index + references.length ≤ policy.maxItemsPerTurn) :
    Obeys (budget policy) (Ends (fun progress after => Stands policy
        (index + references.length) progress after) fun _ => True) staged
      (prepareItems library turn policy hasOcr route index references progress) := by
  -- On the references that are left; the items staged so far are the ghost state.
  induction references generalizing index progress staged with
  | nil => exact stands
  | cons reference references hypothesis =>
    rw [List.length_cons] at room ⊢
    refine (obeys_prepareItem stands (by omega)).andThen ?_
    intro progress after stands
    rw [Nat.add_comm references.length 1, ← Nat.add_assoc]
    exact hypothesis stands (by omega)

end Turns

/-- Whatever the downloader, the store and the backends answer: a turn stages
only within its budgets, and the texts that were extracted stay within the
characters of the policy. -/
theorem media_budgets_hold (library : Library) (turn : Turn)
    (policy : MediaPolicy) (hasOcr : Bool) (references : List MediaReference) :
    Obeys (budget policy) (Ends (fun items _ =>
        extractedChars items ≤ policy.maxExtractedChars) fun _ => True) []
      (prepareMedia library turn policy hasOcr references) := by
  unfold prepareMedia
  split
  · exact Nat.zero_le _
  apply obeys_quietly (by simp) trivial
  intro route
  split
  · trivial
  split
  · trivial
  have starts : Stands policy 0 { remainingChars := policy.maxExtractedChars } [] := by
    refine ⟨⟨Nat.zero_le _, by simp, Nat.zero_le _⟩, Nat.le_refl _, rfl, ?_⟩
    simp [extractedChars]
  have room : (references.take policy.maxItemsPerTurn).length ≤
      policy.maxItemsPerTurn := List.length_take_le _ _
  refine (obeys_prepareItems starts (by rwa [Nat.zero_add])).andThen ?_
  intro progress after stands
  have short := stands.chars
  split
  · change extractedChars (progress.add additionalMedia false).prepared ≤ _
    rw [extractedChars_add]
    simp only [Bool.false_eq_true, if_false]
    omega
  · change extractedChars progress.prepared ≤ _
    omega

end TrpcService.Agent.Media
