import LorePia.Discovery.Types
import LorePia.Domain.Machine

namespace LorePia.Assistant

open Lib

/-!
# Setup assistant — redaction checks

What a text must pass before the assistant may see or keep it: identifiers, bounded texts
without suspected secrets, and source URLs without user info, query, fragment or credentials.

The search for credential-like tokens measures Shannon entropy in floating point, so it is a
parameter, and so is the URL crate.
-/

/-- `AssistantError`. -/
inductive AssistantError
  | invalidState
  | invalidSnapshot
  | invalidBudget
  | noAllowedAdapter
  | consentRequired
  | consentMismatch
  | invalidEvidence
  | duplicateEvidence
  | duplicateEvidenceClaim
  | unapprovedEvidenceOrigin
  | evidenceBudgetExceeded
  | promptBudgetExceeded
  | promptSerialization
  | inputTokenBudgetExceeded
  | outputTokenBudgetExceeded
  | costBudgetExceeded
  | turnBudgetExceeded
  | toolCallBudgetExceeded
  | retryBudgetExceeded
  | retryConsentRequired
  | invalidCallEstimate
  | outputTooLarge
  | invalidStructuredOutput
  | invalidToolCall
  | invalidToolResult
  | toolResultMismatch
  | unknownAdapter
  | inventedSource
  | missingEvidenceMapping
  | invalidEvidenceMapping
  | hiddenEvidenceConflict
  | invalidConflictResolution
  | missingConfidence
  | invalidQuestion
  | suspectedSecret
deriving DecidableEq

def maxEvidenceExcerptBytes : Nat := 16 * 1024
def maxClaimsPerEvidence : Nat := 128
def maxClaimValueBytes : Nat := 4 * 1024
def maxQueryBytes : Nat := 2 * 1024
def maxQuestionBytes : Nat := 2 * 1024
def maxExplanationBytes : Nat := 4 * 1024
def maxToolResultItems : Nat := 128
def maxToolResultMessageBytes : Nat := 4 * 1024
def maxTranscriptObservations : Nat := 64

/-- What the checks call outside this module: the URL crate, with `Url::to_string` beside
    `Url::parse`, and `contains_credential_like_token`. -/
structure RedactionExternals where
  urls : UrlCrate
  urlText : ParsedUrl → String
  containsCredentialLikeToken : String → Bool

variable (R : RedactionExternals)

/-! ### Identifiers -/

def isIdentifierChar (c : Char) : Bool :=
  isAsciiAlphanumeric c || c == '-' || c == '_' || c == ':' || c == '.'

def validateIdentifier (value : String) : Except AssistantError Unit :=
  require (value ≠ "" ∧ byteLen value ≤ 128 ∧ value.toList.all isIdentifierChar) .invalidEvidence

/-! ### Bounded texts -/

/-- The text after the first place where the lowercase form of a text has a marker. -/
def tailAfterMarker (marker : List Char) : List Char → Option (List Char)
  | [] => none
  | c :: cs =>
    if marker <+: (c :: cs).map Char.toLower then some ((c :: cs).drop marker.length)
    else tailAfterMarker marker cs

def redactedPlaceholders : List String :=
  ["[redacted]", "<redacted>", "$\x7bapi_key\x7d", "$api_key", "\x7b\x7bapi_key\x7d\x7d",
    "<api_key>", "your_api_key", "api_key_here"]

def startsWithRedactedPlaceholder (value : List Char) : Bool :=
  let value := (value.dropWhile (· ∈ ['"', '\'', '\\'])).map Char.toLower
  let bearer := "bearer ".toList
  let value := if bearer <+: value then value.drop bearer.length else value
  redactedPlaceholders.any fun placeholder => decide (placeholder.toList <+: value)

def secretMarkers : List String :=
  ["authorization:", "proxy-authorization:", "x-api-key:", "api-key:", "api_key=", "access_token=",
    "refresh_token=", "client_secret=", "\"api_key\":", "\"access_token\":",
    "\"client_secret\":", "bearer "]

/-- A marker is followed by something other than a placeholder. -/
def marksSecret (value : String) (marker : String) : Bool :=
  (tailAfterMarker marker.toList value.toList).any fun tail =>
    !startsWithRedactedPlaceholder (tail.dropWhile isWhitespace)

def isSecretTokenSeparator (c : Char) : Bool :=
  isWhitespace c || c ∈ ['"', '\'', ':', '=', ',', ';', '(', ')', '[', ']', '\x7b', '\x7d']

def isSecretToken (token : List Char) : Bool :=
  let lower := token.map Char.toLower
  (["sk-", "sk_", "ghp_", "github_pat_"].any (fun pre => decide (pre.toList <+: lower)) ||
      decide ("AIza".toList <+: token)) &&
    decide (20 ≤ byteLen (String.ofList token)) &&
    token.all fun c => isAsciiAlphanumeric c || c == '-' || c == '_'

def hasSecretTokenPrefix (value : String) : Bool :=
  (value.toList.splitOnP isSecretTokenSeparator).any isSecretToken

def containsSuspectedSecret (value : String) : Bool :=
  secretMarkers.any (marksSecret value) || hasSecretTokenPrefix value ||
    R.containsCredentialLikeToken value

def validateBoundedRedactedText (value : String) (maximum : Nat) : Except AssistantError Unit := do
  require (byteLen value ≤ maximum ∧ '\x00' ∉ value.toList) .invalidEvidence
  require (containsSuspectedSecret R value = false) .suspectedSecret

/-! ### Source URLs -/

/-- The text after the first occurrence of a needle. -/
def afterFirst (needle : List Char) : List Char → Option (List Char)
  | [] => none
  | c :: cs =>
    if needle <+: c :: cs then some ((c :: cs).drop needle.length) else afterFirst needle cs

/-- There is an `@` before the first `/`, `?` or `#` after the first `://`. -/
def authorityHasUserinfo (input : String) : Bool :=
  (afterFirst "://".toList input.toList).any fun rest =>
    (rest.takeWhile (· ∉ ['/', '?', '#'])).contains '@'

def sourceHexValue (value : UInt8) : Option UInt8 :=
  if 0x30 ≤ value ∧ value ≤ 0x39 then some (value - 0x30)
  else if 0x61 ≤ value ∧ value ≤ 0x66 then some (value - 0x61 + 10)
  else if 0x41 ≤ value ∧ value ≤ 0x46 then some (value - 0x41 + 10)
  else none

/-- The bytes of a component with every `%xy` replaced; `none` where an escape is malformed. -/
def percentDecodeBytes : Bytes → Option Bytes
  | [] => some []
  | byte :: rest =>
    if byte = 0x25 then
      match rest with
      | high :: low :: rest =>
        match sourceHexValue high, sourceHexValue low, percentDecodeBytes rest with
        | some high, some low, some decoded => some (((high <<< 4) ||| low) :: decoded)
        | _, _, _ => none
      | _ => none
    else (percentDecodeBytes rest).map (byte :: ·)

def percentDecodeSourceComponentOnce (value : String) :
    Except AssistantError (Option String) := do
  if (0x25 : UInt8) ∉ asBytes value then return none
  let decoded ← okOr (percentDecodeBytes (asBytes value)) .invalidEvidence
  let text ← okOr (fromUtf8 decoded) .invalidEvidence
  return some text

/-- `decode_source_path_segment`, with the rounds that are left. -/
def decodeSourcePathSegment (value : String) : Nat → Except AssistantError String
  | 0 => do
    let next ← percentDecodeSourceComponentOnce value
    require (next = none) .invalidEvidence
    return value
  | rounds + 1 => do
    let next ← percentDecodeSourceComponentOnce value
    match next with
    | none => return value
    | some next => decodeSourcePathSegment next rounds

def secretAssignmentKeys : List String :=
  ["authorization", "credential", "credentials", "password", "secret", "signature", "sig", "token",
    "accesstoken", "apikey", "xapikey", "xgoogapikey"]

def sourcePathHasSecretAssignment (value : String) : Bool :=
  let key := value.toList.takeWhile (· ∉ ['=', ':'])
  decide (key ≠ value.toList) && secretAssignmentKeys.contains
      (String.ofList ((key.filter isAsciiAlphanumeric).map Char.toLower))

/-- `Url::path_segments` of a URL with a host. -/
def pathSegments (url : ParsedUrl) : List String :=
  splitAt ['/'] (String.ofList (url.path.toList.drop 1))

/-- An `Ipv4Addr` in decimal: four numbers below 256 without leading zeros. -/
def isIpv4 (value : List Char) : Bool :=
  let parts := value.splitOn '.'
  decide (parts.length = 4) && parts.all fun part =>
    decide (1 ≤ part.length ∧ part.length ≤ 3) && part.all Char.isDigit &&
      decide (part.length = 1 ∨ part.head? ≠ some '0') &&
      decide (part.foldl (fun n c => 10 * n + (c.toNat - '0'.toNat)) 0 < 256)

def isHexGroup (part : List Char) : Bool :=
  decide (1 ≤ part.length ∧ part.length ≤ 4) &&
    part.all fun c => c.isDigit || ('a' ≤ c && c ≤ 'f') || ('A' ≤ c && c ≤ 'F')

/-- The number of 16-bit groups that a colon-separated text writes; the last part may be an IPv4
    address where that is allowed. -/
def ipv6Groups (allowIpv4 : Bool) (value : List Char) : Option Nat :=
  if value = [] then some 0
  else
    let parts := value.splitOn ':'
    if parts.all isHexGroup then some parts.length
    else if allowIpv4 && parts.dropLast.all isHexGroup && parts.getLast?.any isIpv4 then
      some (parts.length + 1)
    else none

def splitDoubleColon : List Char → Option (List Char × List Char)
  | ':' :: ':' :: rest => some ([], rest)
  | c :: rest => (splitDoubleColon rest).map fun parts => (c :: parts.1, parts.2)
  | [] => none

def isIpv6 (value : List Char) : Bool :=
  match splitDoubleColon value with
  | none => decide (value ≠ []) && ipv6Groups true value == some 8
  | some (before, after) =>
    match ipv6Groups false before, ipv6Groups true after with
    | some left, some right => decide (left + right ≤ 7)
    | _, _ => false

/-- `str::parse::<IpAddr>` succeeds. -/
def parsesAsIpAddr (host : String) : Bool := isIpv4 host.toList || isIpv6 host.toList

/-- The host or a decoded path segment carries something like a credential. -/
def checkSourceSegment (raw : String) : Except AssistantError Unit := do
  let segment ← decodeSourcePathSegment raw 4
  require (R.containsCredentialLikeToken segment = false ∧
    sourcePathHasSecretAssignment segment = false) .suspectedSecret

/-- The part of `canonical_redacted_source_url` that reads the parsed URL. -/
def checkSourceUrl (url : ParsedUrl) : Except AssistantError Unit := do
  require ((url.scheme = "http" ∨ url.scheme = "https") ∧ url.host.isSome = true ∧
    url.username = "" ∧ url.password = none ∧ url.query = none ∧ url.fragment = none)
    .invalidEvidence
  let host ← okOr url.host .invalidEvidence
  require (parsesAsIpAddr host = true ∨
    (splitAt ['.'] host).any R.containsCredentialLikeToken = false) .suspectedSecret
  forEach (checkSourceSegment R) (pathSegments url)

def canonicalRedactedSourceUrl (input : String) : Except AssistantError String := do
  require (byteLen input ≤ maxQueryBytes ∧ authorityHasUserinfo input = false) .invalidEvidence
  let url ← (R.urls.parse input).mapError fun _ => .invalidEvidence
  checkSourceUrl R url
  return R.urlText url

def sourceOrigin (sourceUrl : String) : Except AssistantError String := do
  let url ← (R.urls.parse sourceUrl).mapError fun _ => .invalidEvidence
  return url.originAscii

/-! ### What is known about the URL crate -/

/-- The URL crate reads its own output back as the URL it wrote, and writes no `@` into the
    authority of an `http` or `https` URL without user info. -/
structure UrlsRoundTrip : Prop where
  reparse : ∀ {input url}, R.urls.parse input = .ok url → R.urls.parse (R.urlText url) = .ok url
  authority : ∀ {input url}, R.urls.parse input = .ok url →
    (url.scheme = "http" ∨ url.scheme = "https") → url.username = "" → url.password = none →
    authorityHasUserinfo (R.urlText url) = false

variable {R} {text : String}

/-- **Canonical URLs are canonical, as long as they are not too long.**  The length is checked on
    the text that goes in, and the crate may lengthen it. -/
theorem canonicalRedactedSourceUrl_canonical (hurls : UrlsRoundTrip R)
    (h : canonicalRedactedSourceUrl R input = .ok text) :
    canonicalRedactedSourceUrl R text = .ok text ↔ byteLen text ≤ maxQueryBytes := by
  obtain ⟨_, h⟩ := guard_ok.mp h
  obtain ⟨url, hparse, _, hcheck, h⟩ := steps₂ h
  cases pure_inj h
  rw [mapError_ok] at hparse
  obtain ⟨⟨hscheme, _, husername, hpassword, _⟩, _⟩ := guard_ok.mp hcheck
  have hreparse := hurls.reparse hparse
  have hauthority := hurls.authority hparse hscheme husername hpassword
  constructor
  · intro h
    exact (guard_ok.mp h).1.1
  · intro hlen
    rw [canonicalRedactedSourceUrl, require_true ⟨hlen, hauthority⟩, hreparse]
    show (checkSourceUrl R url >>= fun _ => pure (R.urlText url)) = _
    rw [hcheck]
    rfl

/-- The origin of a canonical URL can be read. -/
theorem sourceOrigin_isOk (hurls : UrlsRoundTrip R)
    (h : canonicalRedactedSourceUrl R input = .ok text) :
    ∃ origin, sourceOrigin R text = .ok origin := by
  obtain ⟨_, h⟩ := guard_ok.mp h
  obtain ⟨url, hparse, _, _, h⟩ := steps₂ h
  cases pure_inj h
  rw [mapError_ok] at hparse
  refine ⟨url.originAscii, ?_⟩
  rw [sourceOrigin, hurls.reparse hparse]
  rfl

end LorePia.Assistant
