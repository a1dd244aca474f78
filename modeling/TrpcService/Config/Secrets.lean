import TrpcService.Data.Coroutine
import TrpcService.Data.PosixPath

namespace TrpcService.Config

open Data PosixPath Tree

/-! Tenant secret references on a POSIX system.  `LocalSecretProvider.resolve`,
which serves the settings of the process, is left out. -/

structure SecretRef where
  uri : String

structure ParseResult where
  scheme : String
  netloc : String := ""
  path : String := ""
  params : String := ""
  query : String := ""
  fragment : String := ""

/-- What the module takes from the standard library; `readText` decodes UTF-8
and translates line ends. -/
structure Library where
  urlparse : String → Except Trouble ParseResult
  unquote : String → String
  getenv : String → Option String
  readText : List UInt8 → Except Trouble String

inductive Failure where
  | secretResolutionError (message : String)
  | escaped (trouble : Trouble)
  deriving DecidableEq, Repr

abbrev fails {α : Type} (message : String) : Except Failure α :=
  .error (.secretResolutionError message)

def escapes {α : Type} (answer : Except Trouble α) : Except Failure α := answer.mapError .escaped

structure LocalSecretProvider where
  secretRoot : Option PosixPath
  allowedEnvNames : List String

structure Resolution where
  value : Except Failure String
  opened : Option (List String) := none

def isEnvName (name : String) : Bool :=
  match name.toList with
  | [] => false
  | first :: rest =>
      (first.isUpper || first == '_') && rest.length ≤ 127 &&
        rest.all fun char => char.isUpper || char.isDigit || char == '_'

def ParseResult.envName (parsed : ParseResult) : String := if parsed.netloc ≠ "" then parsed.netloc
  else String.ofList (parsed.path.toList.dropWhile (· == '/'))

def rstrip (text : String) : String := String.ofList
    (text.toList.reverse.dropWhile fun char => char == '\r' || char == '\n').reverse

section Calls

variable (library : Library) (files : FileSystem)

def secretPath (uri : String) : Except Failure PosixPath := do
  let parsed ← escapes (library.urlparse uri)
  if parsed.scheme ≠ "file" ∨ parsed.query ≠ "" ∨ parsed.fragment ≠ "" ∨
      parsed.params ≠ "" then
    fails "mounted secret reference is invalid"
  else if parsed.netloc ≠ "" then fails "mounted secret host is invalid"
  else if library.unquote parsed.path = "" then
    fails "mounted secret reference is empty"
  else .ok (.parse (library.unquote parsed.path))

/-- The loop over the segments below the root. -/
def inspect (current : PosixPath) : List String → Except Failure Unit
  | [] => .ok ()
  | part :: rest =>
      match files.lstat (current.join part) with
      | .ok (.link _) => fails "tenant secret symlinks are disabled"
      | .ok _ => inspect (current.join part) rest
      | .error .fileNotFound => inspect (current.join part) rest
      | .error .osError => fails "tenant secret path cannot be inspected"
      | .error .valueError => .error (.escaped .valueError)

def rejectSymlinkComponents (root path : PosixPath) : Except Failure Unit :=
  match path.relativeTo root with
  | none => fails "tenant secret path is outside the configured root"
  | some relative => inspect files root relative

def validateFile (uri : String) (secretRoot : PosixPath) :
    Except Failure Unit := do
  let root ← escapes (files.resolve secretRoot)
  let path ← secretPath library uri
  if ¬path.isAbsolute then fails "tenant secret path must be absolute"
  else
    match path.relativeTo root with
    | none => fails "tenant secret path is outside the configured root"
    | some lexicalRelative =>
        if ".." ∈ lexicalRelative then
          fails "tenant secret path traversal is forbidden"
        else do
          rejectSymlinkComponents files root path
          let resolved ← escapes (files.resolve path)
          if resolved ≠ root ∧ ¬root.isParentOf resolved then
            fails "tenant secret path is outside the configured root"
          else .ok ()

def validateTenantSecretRef (secretRef : SecretRef)
    (allowedEnvNames : List String) (secretRoot : Option PosixPath) :
    Except Failure Unit := do
  let parsed ← escapes (library.urlparse secretRef.uri)
  if parsed.scheme = "literal" then
    fails "literal tenant secrets are disabled"
  else if parsed.scheme = "env" then
    if ¬isEnvName parsed.envName ∨ parsed.envName ∉ allowedEnvNames then
      fails "tenant environment secret is not registered"
    else .ok ()
  else
    match secretRoot with
    | none => fails "tenant file secret root is not configured"
    | some secretRoot =>
        if parsed.scheme ≠ "file" then
          fails "tenant file secret root is not configured"
        else validateFile library files secretRef.uri secretRoot

def readSecret (path : PosixPath) : Resolution :=
  match files.readBytes path with
  | .error .valueError => ⟨.error (.escaped .valueError), none⟩
  | .error _ => ⟨fails "mounted tenant secret could not be read", none⟩
  | .ok (place, content) =>
      { opened := some place
        value := do
          let text ← escapes (library.readText content)
          if rstrip text = "" then fails "mounted tenant secret is empty"
          else .ok (rstrip text) }

namespace LocalSecretProvider

def resolveTenant (provider : LocalSecretProvider) (secretRef : SecretRef) : Resolution :=
  match validateTenantSecretRef library files secretRef
      provider.allowedEnvNames provider.secretRoot with
  | .error failure => ⟨.error failure, none⟩
  | .ok () =>
      match library.urlparse secretRef.uri with
      | .error trouble => ⟨.error (.escaped trouble), none⟩
      | .ok parsed =>
          if parsed.scheme = "env" then
            match library.getenv parsed.envName with
            | none => ⟨fails "registered tenant environment secret is not set", none⟩
            | some value => ⟨.ok value, none⟩
          else
            match secretPath library secretRef.uri with
            | .error failure => ⟨.error failure, none⟩
            | .ok path => readSecret library files path

end LocalSecretProvider

end Calls

variable {library : Library} {files : FileSystem}

theorem escapes_eq_ok {α : Type} {answer : Except Trouble α} {value : α}
    (done : escapes answer = .ok value) : answer = .ok value := by
  cases answer with
  | error trouble => cases done
  | ok value => exact congrArg Except.ok (Except.ok.inj done)

variable {place : List String}

theorem lstat_join (current : PosixPath) {part : String} (down : part ≠ "..")
    (reached : files.realPath current = .ok place) :
    files.lstat (current.join part) = files.node (place ++ [part]) := by
  have same : ({ current with
      parts := (current.parts ++ [part]).dropLast } : PosixPath) = current := by
    simp
  simp only [lstat, join, List.getLast?_concat, if_neg down, same, reached]
  rfl

theorem direct_of_inspect {current : PosixPath} {part : String} {rest : List String}
    (inspected : inspect files current (part :: rest) = .ok ()) :
    inspect files (current.join part) rest = .ok () ∧
      ∀ link, files.lstat (current.join part) ≠ .ok (.link link) := by
  simp only [inspect] at inspected
  split at inspected
  · cases inspected
  · rename_i node other found
    refine ⟨inspected, ?_⟩
    intro link linked
    rw [linked] at found
    exact other link (Except.ok.inj found).symm
  · rename_i found
    refine ⟨inspected, ?_⟩
    intro link linked
    rw [linked] at found
    cases found
  · cases inspected
  · cases inspected

theorem straight_of_inspect {current : PosixPath} {below : List String}
    (absolute : current.isAbsolute = true)
    (settled : ∀ {place}, files.realPath current = .ok place → place = current.parts)
    (noUp : ".." ∉ below) (inspected : inspect files current below = .ok ())
    (reached : files.walk files.linkLimit [] (current.parts ++ below) = .ok place) :
    place = current.parts ++ below ∧ ∀ front part rest, below = front ++ part :: rest →
        ∀ link, files.node (current.parts ++ front ++ [part]) ≠ .ok (.link link) := by
  have begins : current.start files.workingDirectory = [] := by
    simp [start, absolute]
  -- On the segments below: what stands at the next one was looked at.
  induction below generalizing current with
  | nil =>
    refine ⟨?_, by simp⟩
    rw [List.append_nil] at reached ⊢
    apply settled
    rwa [realPath, begins]
  | cons part below hypothesis =>
    rw [List.mem_cons, not_or] at noUp
    have down : part ≠ ".." := Ne.symm noUp.1
    obtain ⟨middle, links, reachedRoot, remaining⟩ := walk_append reached
    have atCurrent : files.realPath current = .ok middle := by
      rwa [realPath, begins]
    cases settled atCurrent
    obtain ⟨inspectedRest, direct⟩ := direct_of_inspect inspected
    rw [lstat_join current down atCurrent] at direct
    have settledNext : ∀ {place}, files.realPath (current.join part) = .ok place →
        place = (current.join part).parts := by
      intro place reachedNext
      have walked : files.walk files.linkLimit [] (current.parts ++ [part]) = .ok place := by
        have nextBegins : (current.join part).start files.workingDirectory = [] := begins
        rwa [realPath, nextBegins] at reachedNext
      obtain ⟨middle, left, toCurrent, step⟩ := walk_append walked
      rw [reachedRoot] at toCurrent
      cases toCurrent
      have ended := walk_down down direct step
      cases left with
      | zero => exact (Except.ok.inj ended).symm
      | succ left => exact (Except.ok.inj ended).symm
    have nextAbsolute : (current.join part).isAbsolute = true := absolute
    obtain ⟨placed, directBelow⟩ := hypothesis nextAbsolute settledNext noUp.2
      inspectedRest (by simpa [join] using reached) begins
    refine ⟨by simpa [join] using placed, ?_⟩
    intro front segment rest split
    cases front with
    | nil =>
      cases split
      simpa using direct
    | cons first front =>
      cases split
      simpa [join] using directBelow front segment rest rfl

structure Validated (library : Library) (files : FileSystem) (uri : String)
    (secretRoot root path : PosixPath) (below : List String) : Prop where
  resolved : files.resolve secretRoot = .ok root
  named : secretPath library uri = .ok path
  absolute : path.isAbsolute = true
  split : path.relativeTo root = some below
  noUp : ".." ∉ below
  inspected : inspect files root below = .ok ()

theorem validated_of_validateFile {uri : String} {secretRoot : PosixPath}
    (accepted : validateFile library files uri secretRoot = .ok ()) :
    ∃ root path below, Validated library files uri secretRoot root path below := by
  unfold validateFile at accepted
  obtain ⟨root, resolved, accepted⟩ := bind_eq_ok accepted
  obtain ⟨path, named, accepted⟩ := bind_eq_ok accepted
  split at accepted
  · cases accepted
  rename_i absolute
  split at accepted
  · cases accepted
  rename_i below relative
  split at accepted
  · cases accepted
  rename_i noUp
  obtain ⟨_, inspected, -⟩ := bind_eq_ok accepted
  simp only [rejectSymlinkComponents, relative] at inspected
  exact ⟨root, path, below, escapes_eq_ok resolved, named, by simpa using absolute,
    relative, noUp, inspected⟩

variable {path : PosixPath}

theorem place_of_readSecret (opened : (readSecret library files path).opened = some place) :
    files.realPath path = .ok place := by
  unfold readSecret at opened
  split at opened
  · cases opened
  · cases opened
  · rename_i read
    cases opened
    unfold readBytes at read
    split at read
    · cases read
    rename_i found
    split at read
    · cases read
    · cases read
      exact found
    · cases read

theorem validated_of_opened {provider : LocalSecretProvider} {secretRef : SecretRef}
    (opened : (provider.resolveTenant library files secretRef).opened = some place) :
    ∃ secretRoot root path below, provider.secretRoot = some secretRoot ∧
      Validated library files secretRef.uri secretRoot root path below ∧
      files.realPath path = .ok place := by
  unfold LocalSecretProvider.resolveTenant at opened
  split at opened
  · cases opened
  rename_i accepted
  split at opened
  · cases opened
  rename_i parsed parses
  split at opened
  · split at opened
    · cases opened
    · cases opened
  rename_i notEnv
  split at opened
  · cases opened
  rename_i path named
  simp only [validateTenantSecretRef, parses] at accepted
  obtain ⟨parsed', same, accepted⟩ := bind_eq_ok accepted
  cases same
  rw [if_neg notEnv] at accepted
  split at accepted
  · cases accepted
  split at accepted
  · cases accepted
  rename_i secretRoot configured
  split at accepted
  · cases accepted
  obtain ⟨root, path', below, validated⟩ := validated_of_validateFile accepted
  have samePath := named.symm.trans validated.named
  cases samePath
  exact ⟨secretRoot, root, path, below, configured, validated, place_of_readSecret opened⟩

/-- Whatever a tenant's reference looks like: the file that is read stands in
the real directory of the secret root, with no link on the way from there. -/
theorem tenant_secret_stays_in_root (library : Library) (files : FileSystem)
    (provider : LocalSecretProvider) (secretRef : SecretRef) (place : List String)
    (opened : (provider.resolveTenant library files secretRef).opened = some place) :
    ∃ secretRoot root below, provider.secretRoot = some secretRoot ∧
      files.resolve secretRoot = .ok root ∧
      (∀ real, files.realPath secretRoot = .ok real → real = root.parts) ∧
      place = root.parts ++ below ∧
      ∀ front part rest, below = front ++ part :: rest →
        ∀ link, files.node (root.parts ++ front ++ [part]) ≠ .ok (.link link) := by
  obtain ⟨secretRoot, root, path, below, configured, validated, reached⟩ :=
    validated_of_opened opened
  obtain ⟨sameAnchor, split⟩ := eq_of_relativeTo validated.split
  have anchored := files.resolve_anchor validated.resolved
  refine ⟨secretRoot, root, below, configured, validated.resolved,
    fun real => files.resolve_place validated.resolved, ?_⟩
  apply straight_of_inspect (by simp [isAbsolute, anchored])
    (files.resolve_real validated.resolved) validated.noUp validated.inspected
  rw [← split]
  simpa [realPath, start, validated.absolute] using reached

def mountedTree : Tree where
  workingDirectory := []
  linkLimit := 40
  node place := if place = [] ∨ place = ["secrets"] then .ok .directory
    else if place = ["secrets", "token"] then .ok (.file [118])
    else .error .fileNotFound

def isMounted (path : PosixPath) : Prop :=
  path = ⟨.slash, ["secrets"]⟩ ∨ path = ⟨.slash, ["secrets", "token"]⟩

instance (path : PosixPath) : Decidable (isMounted path) := inferInstanceAs (Decidable (_ ∨ _))

theorem place_of_isMounted (known : isMounted path)
    (reached : mountedTree.realPath path = .ok place) : place = path.parts := by
  obtain rfl | rfl := known
  · exact (Except.ok.inj reached).symm
  · exact (Except.ok.inj reached).symm

theorem eq_of_mounted {real : PosixPath}
    (resolved : (if isMounted path then Except.ok path else .error .osError :
      Except Trouble PosixPath) = .ok real) :
    isMounted path ∧ real = path := by
  split at resolved
  · rename_i known
    cases resolved
    exact ⟨known, rfl⟩
  · cases resolved

def mounted : FileSystem where
  toTree := mountedTree
  resolve path := if isMounted path then .ok path else .error .osError
  resolve_anchor := by
    intro path real resolved
    obtain ⟨known, rfl⟩ := eq_of_mounted resolved
    obtain rfl | rfl := known
    · rfl
    · rfl
  resolve_real := by
    intro path real place resolved reached
    obtain ⟨known, rfl⟩ := eq_of_mounted resolved
    exact place_of_isMounted known reached
  resolve_place := by
    intro path real place resolved reached
    obtain ⟨known, rfl⟩ := eq_of_mounted resolved
    exact place_of_isMounted known reached

/-- The standard library on a plain file reference and an ASCII text. -/
def tokenLibrary : Library where
  urlparse uri := match uri.toList with
    | 'f' :: 'i' :: 'l' :: 'e' :: ':' :: '/' :: '/' :: '/' :: path =>
        .ok { scheme := "file", path := .ofList ('/' :: path) }
    | _ => .ok { scheme := "", path := uri }
  unquote := id
  getenv _ := none
  readText bytes := .ok (.ofList (bytes.map fun byte => .ofNat byte.toNat))

def mountedProvider : LocalSecretProvider where
  secretRoot := some ⟨.slash, ["secrets"]⟩
  allowedEnvNames := []

theorem token_stays_in_root : (mountedProvider.resolveTenant tokenLibrary mounted
        ⟨"file:///secrets/./token"⟩).value = .ok "v" ∧
      ∃ secretRoot root below, mountedProvider.secretRoot = some secretRoot ∧
        mounted.resolve secretRoot = .ok root ∧
        (∀ real, mounted.realPath secretRoot = .ok real → real = root.parts) ∧
        ["secrets", "token"] = root.parts ++ below ∧
        ∀ front part rest, below = front ++ part :: rest →
          ∀ link, mounted.node (root.parts ++ front ++ [part]) ≠ .ok (.link link) :=
  ⟨by decide +kernel, tenant_secret_stays_in_root tokenLibrary mounted
    mountedProvider ⟨"file:///secrets/./token"⟩ ["secrets", "token"]
    (by decide +kernel)⟩

end TrpcService.Config
