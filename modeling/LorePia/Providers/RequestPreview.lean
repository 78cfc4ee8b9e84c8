import LorePia.Assistant.Types
import LorePia.Evidence.Redaction
import LorePia.ProviderStore.Validation
import LorePia.Providers.BodyShape
import Mathlib.Data.String.Basic

namespace LorePia.Providers.RequestPlan

open Lib BodyShapeBudget
open Assistant (HttpMethod percentDecodeBytes)
open Evidence (splitOnce)
open Network (parseIp)
open ProviderStore (parseEndpointPath trimBrackets)

/-!
# Request previews

What a user is shown of a request before it is sent: the origin, the path without what looks like a
credential, the names of query parameters and headers, and the shape of the body.

Header names are their texts.  The URL crate and `contains_credential_like_token` are parameters.

* `AlikeDestinations`, `AlikeBodies` — what two requests may differ in;
* `buildRequestPreview_noninterference` — such requests have equal previews, and a preview says
  whether its shape is complete.
-/

def maxPreviewOriginBytes : Nat := 512
def maxPreviewPathBytes : Nat := 2048
def maxPreviewPathSegmentBytes : Nat := 256
def maxPreviewQueryBytes : Nat := 16 * 1024
def maxPreviewQueryParameters : Nat := 64
def maxPreviewQueryNameBytes : Nat := 128
def maxPreviewEncodedQueryNameBytes : Nat := 512
def maxPreviewHeaderNames : Nat := 64
def maxPreviewHeaderNameBytes : Nat := 128
def redactedPathSegment : String := "__redacted__"

inductive RequestPreviewErrorKind
  | invalidDestination
  | embeddedCredential
  | destinationTooLarge
  | invalidPath
  | queryTooLarge
  | tooManyQueryParameters
  | invalidQueryName
  | tooManyHeaderNames
  | invalidHeaderName

structure RequestPreview where
  method : HttpMethod
  origin : CanonicalOrigin
  path : EndpointPath
  queryParameterNames : List String
  headerNames : List String
  body : Option RequestBodyShape
  bodyTruncated : Bool

structure PreviewExternals where
  urls : UrlCrate
  containsCredentialLikeToken : String → Bool

variable (X : PreviewExternals)

/-! ### Names of sensitive places -/

def sensitiveLocationNames : List String :=
  ["key", "apikey", "token", "accesstoken", "refreshtoken", "idtoken", "signature", "sig", "signed",
    "credential", "secret", "password", "auth", "authorization", "cookie", "session", "sessionid"]

variable (value : String)

def isSensitiveLocationName : Bool :=
  sensitiveLocationNames.contains (normalizeName value)

def containsInlineSecretLocation : Bool :=
  ['=', ':'].any fun separator =>
    (splitOnce separator value).any fun parts => isSensitiveLocationName parts.1

/-! ### Percent escapes -/

def percentByte : UInt8 := 0x25

/-- `percent_decode_once`. -/
def percentDecodeOnce : Option String :=
  (percentDecodeBytes (asBytes value)).bind fromUtf8

/-- The rounds of `percent_decode` that are left. -/
def percentDecodeRounds : Nat → String → Option String
  | 0, value => if percentByte ∈ asBytes value then none else some value
  | rounds + 1, value =>
    if percentByte ∉ asBytes value then some value
    else (percentDecodeOnce value).bind (percentDecodeRounds rounds)

def percentDecode : Option String := percentDecodeRounds 4 value

/-! ### The destination -/

def unsafeOriginHost : Bool :=
  let value := trimBrackets value
  (parseIp value).isNone && (X.containsCredentialLikeToken value ||
      (splitAt ['.'] value).any X.containsCredentialLikeToken)

variable (destination : ParsedUrl)

def previewOrigin : Except RequestPreviewErrorKind CanonicalOrigin := do
  require ((destination.scheme = "http" ∨ destination.scheme = "https") ∧
    destination.host.isSome = true) .invalidDestination
  require (destination.username = "" ∧ destination.password = none) .embeddedCredential
  require (destination.host.any (unsafeOriginHost X) = false) .invalidDestination
  require (byteLen destination.originAscii ≤ maxPreviewOriginBytes) .destinationTooLarge
  (CanonicalOrigin.parse X.urls destination.originAscii).mapError fun _ => .invalidDestination

def unsafePathSegment (raw decoded : String) : Bool :=
  decide (maxPreviewPathSegmentBytes < byteLen raw) ||
    decide (maxPreviewPathSegmentBytes < byteLen decoded) || strContains decoded "@" ||
    hasControl decoded || containsInlineSecretLocation decoded ||
    X.containsCredentialLikeToken decoded

/-- The segments as they are shown; `redactNext` is set behind the name of a sensitive place. -/
def previewSegments : Bool → List String → Except RequestPreviewErrorKind (List String)
  | _, [] => return []
  | redactNext, rawSegment :: segments =>
    if rawSegment = "" then do
      let shown ← previewSegments redactNext segments
      return "" :: shown
    else do
      let decoded ← okOr (percentDecode rawSegment) .invalidPath
      let shown ← previewSegments (isSensitiveLocationName decoded) segments
      if redactNext || unsafePathSegment X rawSegment decoded then
        return redactedPathSegment :: shown
      else return rawSegment :: shown

def previewPath : Except RequestPreviewErrorKind EndpointPath := do
  require (byteLen destination.path ≤ maxPreviewPathBytes) .destinationTooLarge
  let segments ← previewSegments X false (splitAt ['/'] destination.path)
  (parseEndpointPath (String.intercalate "/" segments)).mapError fun _ => .invalidPath

/-! ### Query parameters and headers -/

/-- The parameters of a query, as they stand in it. -/
def queryParameters : Option String → List String
  | none => []
  | some query => if query = "" then [] else splitAt ['&'] query

/-- The name of a parameter, before it is decoded. -/
def rawName (parameter : String) : String :=
  ((splitOnce '=' parameter).map Prod.fst).getD parameter

def isQueryNameChar (c : Char) : Bool :=
  !isControl c && !isWhitespace c && !(c ∈ ['&', '=', '?', '#'])

def previewQueryName (rawName : String) : Except RequestPreviewErrorKind String := do
  require (rawName ≠ "" ∧ byteLen rawName ≤ maxPreviewEncodedQueryNameBytes) .invalidQueryName
  let formDecoded := String.ofList (rawName.toList.map fun c => if c = '+' then ' ' else c)
  let name ← okOr (percentDecode formDecoded) .invalidQueryName
  require (name ≠ "" ∧ byteLen name ≤ maxPreviewQueryNameBytes ∧
    name.toList.all isQueryNameChar = true ∧ X.containsCredentialLikeToken name = false)
    .invalidQueryName
  return name

/-- The loop over the parameters, with the number of names so far. -/
def previewQueryNames : Nat → List String → Except RequestPreviewErrorKind (List String)
  | _, [] => return []
  | count, parameter :: parameters => do
    require (count < maxPreviewQueryParameters) .tooManyQueryParameters
    let name ← previewQueryName X (rawName parameter)
    let names ← previewQueryNames (count + 1) parameters
    return name :: names

def previewQueryParameterNames :
    Except RequestPreviewErrorKind (List String) := do
  require (∀ query ∈ destination.query, byteLen query ≤ maxPreviewQueryBytes) .queryTooLarge
  let names ← previewQueryNames X 0 (queryParameters destination.query)
  return canonical id names

def previewHeaderNames (headerNames : List String) :
    Except RequestPreviewErrorKind (List String) := do
  require (headerNames.length ≤ maxPreviewHeaderNames) .tooManyHeaderNames
  require (∀ name ∈ headerNames, byteLen name ≤ maxPreviewHeaderNameBytes ∧
    X.containsCredentialLikeToken name = false) .invalidHeaderName
  return canonical id headerNames

/-! ### The preview -/

/-- The shape of the body, and the budget behind it. -/
def previewBody : Option Json → Option RequestBodyShape × BodyShapeBudget
  | none => (none, .new)
  | some value =>
    let visited := requestBodyShape X.containsCredentialLikeToken value none 0 .new
    (some visited.1, visited.2)

def buildRequestPreview (method : HttpMethod) (destination : ParsedUrl) (headerNames : List String)
    (body : Option Json) : Except RequestPreviewErrorKind RequestPreview := do
  let origin ← previewOrigin X destination
  let path ← previewPath X destination
  let queryParameterNames ← previewQueryParameterNames X destination
  let headerNames ← previewHeaderNames X headerNames
  return { method
           origin
           path
           queryParameterNames
           headerNames
           body := (previewBody X body).1
           bodyTruncated := (previewBody X body).2.truncated }

/-! ### Noninterference -/

/-- The destinations differ at most in the values of their query parameters and in the fragment. -/
structure AlikeDestinations (left right : ParsedUrl) : Prop where
  scheme : left.scheme = right.scheme
  host : left.host = right.host
  username : left.username = right.username
  password : left.password = right.password
  path : left.path = right.path
  origin : left.originAscii = right.originAscii
  parameters : List.Forall₂ (fun left right => rawName left = rawName right)
    (queryParameters left.query) (queryParameters right.query)

/-- The bodies differ at most in the values of scalars and in redacted fields. -/
def AlikeBodies : Option Json → Option Json → Prop
  | none, none => True
  | some left, some right => Alike left right
  | _, _ => False

/-- The query is within its limit. -/
def QueryFits : Prop :=
  ∀ query ∈ destination.query, byteLen query ≤ maxPreviewQueryBytes

variable {X} {left right : ParsedUrl} {leftBody rightBody : Option Json} {method : HttpMethod}
  {headerNames : List String} {preview : RequestPreview}

theorem previewQueryNames_congr {count : Nat}
    (h : List.Forall₂ (fun left right => rawName left = rawName right) lefts rights) :
    previewQueryNames X count lefts = previewQueryNames X count rights := by
  induction h generalizing count with
  | nil => rfl
  | cons hname _ ih => rw [previewQueryNames, previewQueryNames, hname, ih]

theorem previewQueryParameterNames_congr (h : AlikeDestinations left right)
    (hleft : QueryFits left) (hright : QueryFits right) :
    previewQueryParameterNames X left = previewQueryParameterNames X right := by
  have hfits : ∀ {destination : ParsedUrl}, QueryFits destination →
      require (∀ query ∈ destination.query, byteLen query ≤ maxPreviewQueryBytes)
        RequestPreviewErrorKind.queryTooLarge = .ok () := fun h => require_ok.mpr h
  rw [previewQueryParameterNames, previewQueryParameterNames, hfits hleft, hfits hright,
    previewQueryNames_congr h.parameters]

theorem previewBody_congr (h : AlikeBodies leftBody rightBody) :
    previewBody X leftBody = previewBody X rightBody := by
  cases leftBody with
  | none =>
    cases rightBody with
    | none => rfl
    | some right => exact h.elim
  | some left =>
    cases rightBody with
    | none => exact h.elim
    | some right => simp only [previewBody, requestBodyShape_congr left right h]

/-- Requests that are alike have equal previews, or are refused with equal errors. -/
theorem buildRequestPreview_congr (hdest : AlikeDestinations left right)
    (hbody : AlikeBodies leftBody rightBody) (hleft : QueryFits left) (hright : QueryFits right) :
    buildRequestPreview X method left headerNames leftBody =
      buildRequestPreview X method right headerNames rightBody := by
  have horig : previewOrigin X left = previewOrigin X right := by
    rw [previewOrigin, previewOrigin, hdest.scheme, hdest.host,
      hdest.username, hdest.password, hdest.origin]
  have hpath : previewPath X left = previewPath X right := by
    rw [previewPath, previewPath, hdest.path]
  rw [buildRequestPreview, buildRequestPreview, horig, hpath,
    previewQueryParameterNames_congr hdest hleft hright, previewBody_congr hbody]

theorem buildRequestPreview_ok
    (h : buildRequestPreview X method left headerNames body = .ok preview) :
    preview.body = (previewBody X body).1 ∧
      preview.bodyTruncated = (previewBody X body).2.truncated := by
  obtain ⟨_, _, h⟩ := rest₂ h
  obtain ⟨_, _, h⟩ := rest₂ h
  cases h
  exact ⟨rfl, rfl⟩

/-- The shape in a preview has at most 256 nodes, and is marked iff it leaves something out. -/
theorem preview_body (h : buildRequestPreview X method left headerNames body = .ok preview) :
    (∀ shape ∈ preview.body, nodes shape ≤ maxPreviewBodyNodes) ∧ (preview.bodyTruncated = true ↔
        ∃ value ∈ body, ∃ shape ∈ preview.body, ¬ Covers shape ⟨none, value⟩) := by
  obtain ⟨hbody, htruncated⟩ := buildRequestPreview_ok h
  rw [hbody, htruncated]
  cases body with
  | none =>
    constructor
    · intro shape hshape
      cases hshape
    · simp [previewBody, new]
  | some value =>
    obtain ⟨hcost, hmarked⟩ : Visited .new ⟨none, value⟩
        (requestBodyShape X.containsCredentialLikeToken value none 0 .new) :=
      requestBodyShape_spec value none 0 .new (by decide)
    have hbud : new.remainingNodes = maxPreviewBodyNodes := rfl
    constructor
    · rintro shape hshape
      cases hshape
      omega
    · show (requestBodyShape X.containsCredentialLikeToken value none 0 .new).2.truncated = true ↔ _
      rw [hmarked]
      simp [previewBody, new]

def sampleUrl (query fragment : String) : ParsedUrl where
  scheme := "https"
  host := some "api.example.com"
  username := ""
  password := none
  path := "/v1"
  query := some query
  fragment := some fragment
  originAscii := "https://api.example.com"

def sampleExternals : PreviewExternals where
  urls := ⟨fun _ => .ok { sampleUrl "" "" with path := "/", query := none, fragment := none }⟩
  containsCredentialLikeToken _ := false

def sampleBody (model : String) (messages : Json) : Json :=
  .object [("messages", messages), ("model", .string model)]

example : (buildRequestPreview sampleExternals .post (sampleUrl "key=a" "x") ["accept"]
    (some (sampleBody "small" (.string "hello")))).isOk = true := by decide

end LorePia.Providers.RequestPlan
