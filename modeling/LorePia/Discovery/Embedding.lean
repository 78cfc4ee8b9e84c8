import LorePia.Assistant.Types
import LorePia.Discovery.Contract
import LorePia.ProviderStore.Validation

namespace LorePia.Discovery

open Lib Assistant List
open ProviderStore (parseEndpointPath)

/-!
# Discovered templates

The base path of a discovered API is folded into every endpoint of its manifest.  A deterministic
draft takes its hash from the template that is stored; an accepted assistant draft takes it from the
reviewed manifest, and stores the manifest with the base path in it.

* `endpointWithEmbeddedBase_eq_self` — when an endpoint keeps its path;
* `embedDiscoveredApiBasePath_eq_self` — when a manifest is kept;
* `manifestSha256_of_draft` — when a session has the hash of the stored manifest, and keeps it until
  the manifest is validated.
-/

/-! ### Base paths -/

inductive DeterministicDiscoveryErrorKind
  | invalidSource
  | invalidDocumentUrl
  | providerContractUnavailable
  | unsafeEvidence
deriving DecidableEq

def versionPathSegment (segment : String) : Bool :=
  (stripPrefix? segment "v").any fun version =>
    let digits := version.toList.takeWhile Char.isDigit
    let suffix := String.ofList (version.toList.dropWhile Char.isDigit)
    let numbered := fun marker => (stripPrefix? suffix marker).any fun value =>
      value != "" && value.toList.all Char.isDigit
    digits != [] && (suffix == "" || suffix == "beta" || suffix == "preview" ||
      numbered "beta" || numbered "preview")

def basePathIsPersistenceSafe (path : String) : Bool :=
  path == "/" || ((splitAt ['/'] path).drop 1).all fun segment =>
    let normalized := toAsciiLowercase segment
    ["api", "apis", "openai", "anthropic", "gemini", "ollama", "public", "beta",
      "preview"].contains normalized || versionPathSegment normalized

/-- What stands before a position, as a base path. -/
def basePathBefore (fullPath : String) (stop : Nat) : Option EndpointPath :=
  let pre := String.ofList (fullPath.toList.take stop)
  let base := if pre = "" then "/" else pre
  if basePathIsPersistenceSafe base then (parseEndpointPath base).toOption else none

/-- `rfind` of the suffix of a family, or `find` for Gemini; lowering keeps all positions. -/
def inferBasePath (family : ApiFamily) (fullPath : String) : Option EndpointPath := do
  let lower := (toAsciiLowercase fullPath).toList
  let starts := fun suffix : String =>
    (List.range (lower.length + 1)).filter fun i => suffix.toList.isPrefixOf (lower.drop i)
  let stop ← match family with
    | .openAiResponses => (starts "/responses").getLast?
    | .openAiChatCompletions => (starts "/chat/completions").getLast?
    | .anthropicMessages => (starts "/messages").getLast?
    | .geminiGenerateContent => (starts "/models/").head?
    | .ollamaNative => (starts "/chat").getLast?
  basePathBefore fullPath stop

def inferModelsBasePath (family : ApiFamily) (fullPath : String) : Option EndpointPath :=
  let lower := toAsciiLowercase fullPath
  let suffix := if family = .ollamaNative ∧ strEndsWith lower "/tags" then "/tags" else "/models"
  if strEndsWith lower suffix then
    basePathBefore fullPath (fullPath.toList.length - suffix.toList.length)
  else none

/-- `trim_end_matches('/')`. -/
def trimEndSlashes (text : String) : String :=
  String.ofList ((text.toList.reverse.dropWhile (· = '/')).reverse)

/-- `trim_start_matches('/')`. -/
def trimStartSlashes (text : String) : String := String.ofList (text.toList.dropWhile (· = '/'))

/-- The path is the base or below it. -/
def includesBase (base path : EndpointPath) : Bool :=
  let base := trimEndSlashes base.val
  base == "" || path.val == base ||
    (stripPrefix? path.val base).any fun remainder => strStartsWith remainder "/"

def endpointWithEmbeddedBase (base path : EndpointPath) :
    Except DeterministicDiscoveryErrorKind EndpointPath :=
  if includesBase base path then .ok path
  else (parseEndpointPath (trimEndSlashes base.val ++ "/" ++ trimStartSlashes path.val)).mapError
    fun _ => .providerContractUnavailable

/-- An endpoint whose base path is known stands under no other one. -/
def conflictsWith (base : EndpointPath) (existing : Option EndpointPath) : Bool :=
  existing.any fun existing => existing.val != "/" && existing != base

def embedDiscoveredApiBasePath (manifest : ProviderManifest) (apiBasePath : Option EndpointPath) :
    Except DeterministicDiscoveryErrorKind ProviderManifest :=
  match apiBasePath with
  | none => .ok manifest
  | some base => do
    let ⟨models, generate⟩ := manifest.endpoints
    require (basePathIsPersistenceSafe base.val) .unsafeEvidence
    require (!conflictsWith base (inferBasePath manifest.apiFamily generate.path.val))
      .unsafeEvidence
    require (models.all fun models =>
      !conflictsWith base (inferModelsBasePath manifest.apiFamily models.path.val)) .unsafeEvidence
    let generatePath ← endpointWithEmbeddedBase base generate.path
    let models ← models.mapM fun models => do
      let path ← endpointWithEmbeddedBase base models.path
      return { models with path }
    return { manifest with endpoints := ⟨models, { generate with path := generatePath }⟩ }

def manifestEndpointsIncludeBase (manifest : ProviderManifest) (base : EndpointPath) : Bool :=
  includesBase base manifest.endpoints.generate.path &&
    manifest.endpoints.models.all fun endpoint => includesBase base endpoint.path

variable {base path : EndpointPath} {manifest : ProviderManifest}
  {apiBasePath : Option EndpointPath}

/-- An endpoint keeps its path iff it is under the base path already. -/
theorem endpointWithEmbeddedBase_eq_self (h : endpointWithEmbeddedBase base path = .ok path') :
    path' = path ↔ includesBase base path = true := by
  rw [endpointWithEmbeddedBase] at h
  split at h
  case isTrue hincludes =>
    cases h
    exact iff_of_true rfl hincludes
  case isFalse hincludes =>
    refine iff_of_false ?_ hincludes
    intro hsame
    rw [mapError_ok, parseEndpointPath, guard_ok] at h
    have hval : trimEndSlashes base.val ++ ("/" ++ trimStartSlashes path.val) = path.val := by
      rw [← String.append_assoc]
      exact congrArg EndpointPath.val ((pure_inj h.2).trans hsame)
    -- the text that was put together starts with the base path and a slash
    have hstrip : stripPrefix? path.val (trimEndSlashes base.val) =
        some ("/" ++ trimStartSlashes path.val) := by
      have hlist := congrArg String.toList hval
      rw [String.toList_append] at hlist
      rw [stripPrefix?, ← hlist, if_pos (prefix_append _ _), drop_left, String.ofList_toList]
    have hslash : strStartsWith ("/" ++ trimStartSlashes path.val) "/" = true := by
      rw [strStartsWith, asBytes_append]
      exact decide_eq_true (prefix_append _ _)
    apply hincludes
    simp only [includesBase, hstrip, Option.any_some, hslash, Bool.or_true]

/-- A manifest is kept iff all its endpoints are under the base path. -/
theorem embedDiscoveredApiBasePath_eq_self
    (h : embedDiscoveredApiBasePath manifest apiBasePath = .ok manifest') :
    manifest' = manifest ↔ ∀ base ∈ apiBasePath, manifestEndpointsIncludeBase manifest base = true := by
  cases apiBasePath with
  | none =>
    cases h
    exact iff_of_true rfl fun _ hbase => by cases hbase
  | some base =>
    obtain ⟨schema, family, sources, origin, auth, ⟨models, generate⟩, decoders, parameters⟩ :=
      manifest
    obtain ⟨method, path⟩ := generate
    rw [embedDiscoveredApiBasePath] at h
    obtain ⟨-, -, h⟩ := guards₂ h
    obtain ⟨-, h⟩ := guard_ok.mp h
    obtain ⟨path', hpath, models', hmods, h⟩ := steps₂ h
    obtain rfl := pure_inj h
    have hgenerate := endpointWithEmbeddedBase_eq_self hpath
    simp only [ProviderManifest.mk.injEq, ManifestEndpoints.mk.injEq, EndpointSpec.mk.injEq,
      true_and, and_true, hgenerate, manifestEndpointsIncludeBase, Bool.and_eq_true,
      Option.mem_some_iff, forall_eq']
    rw [and_comm]
    refine and_congr_right fun _ => ?_
    cases models with
    | none =>
      cases pure_inj hmods
      exact iff_of_true rfl rfl
    | some models =>
      obtain ⟨method, modelsPath⟩ := models
      obtain ⟨models', hmods, h⟩ := bind_ok.mp hmods
      obtain ⟨modelsPath', hpath, rfl⟩ := last_step hmods
      cases pure_inj h
      simpa using endpointWithEmbeddedBase_eq_self hpath

/-! ### Drafts -/

/-- The provider crate's check of a manifest, which returns its hash, and the checks of the
    connection that is installed with a template. -/
structure DraftExternals where
  validateManifest : ProviderManifest → CoreResult String
  installChecks : ProviderManifest → CoreResult Unit
  deterministicError : DeterministicDiscoveryErrorKind → CoreError

/-- A selected template, or a reviewed assistant draft with the hints of the documents. -/
inductive ManifestDraft
  | deterministic (manifest : ProviderManifest)
  | assistant (manifest : ProviderManifest) (hints : List (ApiFamily × Option EndpointPath))

variable (X : DraftExternals) (s : ProviderDiscoverySession)

/-- The base path of the connection options, or of the first hint of the family. -/
def draftBasePath (hints : List (ApiFamily × Option EndpointPath)) (family : ApiFamily) :
    Option EndpointPath :=
  s.input.connectionOptions.apiBasePath.or ((hints.find? fun hint => hint.1 = family).bind Prod.snd)

def installAssistantGraph (manifest : ProviderManifest)
    (hints : List (ApiFamily × Option EndpointPath)) : CoreResult ProviderManifest := do
  let manifest ← (embedDiscoveredApiBasePath manifest
    (draftBasePath s hints manifest.apiFamily)).mapError X.deterministicError
  let _ ← X.validateManifest manifest
  X.installChecks manifest
  return manifest

/-- The action that Core persists and the manifest of the template that it stores with it. -/
def draftedManifest : ManifestDraft → CoreResult (ProviderDiscoveryAction × ProviderManifest)
  | .deterministic manifest => do
    X.installChecks manifest
    let manifestSha256 ← X.validateManifest manifest
    return (.manifestDraftBuilt manifestSha256, manifest)
  | .assistant manifest hints => do
    let installed ← installAssistantGraph X s manifest hints
    let manifestSha256 ← X.validateManifest manifest
    return (.manifestDraftBuilt manifestSha256, installed)

/-- The draft is stored as it is hashed: its endpoints are under the base path already. -/
def ManifestDraft.IncludesBase : ManifestDraft → Prop
  | .deterministic _ => True
  | .assistant manifest hints => ∀ base ∈ draftBasePath s hints manifest.apiFamily,
      manifestEndpointsIncludeBase manifest base = true

variable {X s} {draft : ManifestDraft} {action : ProviderDiscoveryAction}
  {stored : ProviderManifest} {manifestSha256 sha256 : String}

theorem draftedManifest_spec (h : draftedManifest X s draft = .ok (action, stored)) :
    ∃ manifest sha256, action = .manifestDraftBuilt sha256 ∧
      X.validateManifest manifest = .ok sha256 ∧ (stored = manifest ↔ draft.IncludesBase s) := by
  cases draft with
  | deterministic manifest =>
    obtain ⟨_, -, sha256, hsha256, h⟩ := steps₂ h
    cases pure_inj h
    exact ⟨_, sha256, rfl, hsha256, iff_of_true rfl trivial⟩
  | assistant manifest hints =>
    obtain ⟨installed, hinstalled, sha256, hsha256, h⟩ := steps₂ h
    cases pure_inj h
    obtain ⟨embedded, hembedded, _, -, _, -, hinstalled⟩ := steps₃ hinstalled
    cases pure_inj hinstalled
    exact ⟨manifest, sha256, rfl, hsha256,
      embedDiscoveredApiBasePath_eq_self (mapError_ok.mp hembedded)⟩

/-! ### The hash along a run -/

variable {E : Externals} {s' t : ProviderDiscoverySession} {l : AcceptedAction}
  {tr : List AcceptedAction}

theorem TableArm.keepsHash (h : TableArm E s action staged)
    (hbuilt : ∀ sha256, action ≠ .manifestDraftBuilt sha256)
    (hs : s.manifestSha256 = some manifestSha256) :
    staged.next.manifestSha256 = some manifestSha256 := by
  cases h with
  | manifestDraftBuilt _ _ => exact absurd rfl (hbuilt _)
  | manifestNeedsApproval _ _ hdraft | manifestValidated _ _ hdraft =>
    exact congrArg some (hdraft _ hs).symm
  | _ => exact hs

/-- Only a new draft changes the hash of a session that has one. -/
theorem Step.keepsHash (h : Step E s l t)
    (hbuilt : ∀ sha256, l.envelope.action ≠ .manifestDraftBuilt sha256)
    (hs : s.manifestSha256 = some manifestSha256) : t.manifestSha256 = some manifestSha256 := by
  obtain ⟨staged, hstages, -, rfl, -⟩ := h.cases
  generalize l.envelope.action = action at hstages hbuilt
  cases hstages with
  | table _ harm => exact harm.keepsHash hbuilt hs
  | _ => exact hs

/-- What the completion of a draft makes of the session. -/
theorem Step.drafted (h : Step E s l t) (hact : l.envelope.action = .manifestDraftBuilt sha256) :
    if s.cancellationPending then t.manifestSha256 = s.manifestSha256 ∧ t.state = .cancelled
    else t.manifestSha256 = some sha256 ∧ isSha256 sha256 = true := by
  obtain ⟨staged, hstages, -, rfl, -⟩ := h.cases
  rw [hact] at hstages
  cases hstages with
  | completePending hpend _ _ =>
    rw [if_pos hpend]
    exact ⟨rfl, rfl⟩
  | table hidle harm =>
    cases harm with
    | manifestDraftBuilt hs hsha256 =>
      rw [if_neg]
      · exact ⟨rfl, hsha256⟩
      · intro hpend
        have hsaga := hidle hpend (by rcases hs with hs | hs <;> rw [hs] <;> rfl)
        rcases hs with hs | hs <;> simp [hs] at hsaga

variable (s) in
/-- When the session has the hash of the template that is stored with it: the base path was part
    of the draft.  A draft that completes a cancelled session leaves its hash alone. -/
def ManifestDraft.KeepsHash (draft : ManifestDraft) (manifestSha256 : String) : Prop :=
  if s.cancellationPending then s.manifestSha256 = some manifestSha256 else draft.IncludesBase s

def sampleManifest (path : String) : ProviderManifest where
  schemaVersion := 1
  apiFamily := .openAiChatCompletions
  sources := []
  defaultApiOrigin := none
  auth := .none
  endpoints := ⟨none, .post, ⟨path⟩⟩
  decoders := ⟨.openAiJsonV1, none⟩
  parameters := []

/-- A reviewed draft, without hints of documents. -/
def sampleDraft (path : String) : ManifestDraft := .assistant (sampleManifest path) []

/-- Hashes that tell the reviewed manifest from all others. -/
def sampleDrafts (path : String) : DraftExternals where
  validateManifest manifest :=
    .ok (if manifest = sampleManifest path then sampleSha256
      else String.ofList sampleSha256.toList.reverse)
  installChecks _ := .ok ()
  deterministicError _ := ⟨.invalidInput, "", false, ""⟩

/-- The sample session with the base path `/v1` as an option. -/
def basedInput : SanitizedDiscoveryInput :=
  { sampleInput with
    connectionOptions := { ProviderDiscoveryConnectionOptions.default with
      apiBasePath := some ⟨"/v1"⟩ } }

def basedSession : ProviderDiscoverySession := { sampleSession with input := basedInput }

theorem basedSession_new :
    ProviderDiscoverySession.new sampleExternals ⟨"session-1"⟩ basedInput = .ok basedSession := by
  decide

/-- Its assistant is approved, and the draft accepted. -/
def draftingSession : List AcceptedAction × ProviderDiscoverySession :=
  play sampleExternals sampleId sampleSha256 basedSession [.begin,
    .knownProviderCandidatesResolved 0, .documentsFetched 1,
    .evidenceExtracted .assistantRecommended, .approveAssistant sampleId sampleSha256]

def draftedSession : List AcceptedAction × ProviderDiscoverySession :=
  play sampleExternals sampleId sampleSha256 draftingSession.2 [.manifestDraftBuilt sampleSha256]

theorem draftedSession_step : ∃ l, Step sampleExternals draftingSession.2 l draftedSession.2 ∧
    l.envelope.action = .manifestDraftBuilt sampleSha256 := by
  have hdrafting : SessionRun sampleExternals draftingSession.1 draftingSession.2 := by
    refine ⟨_, _, _, basedSession_new, play_run sampleSha256_valid (new_sound basedSession_new)
      ?_ (by decide) (by decide)⟩
    intro action hact
    simp only [mem_cons, not_mem_nil, or_false] at hact
    rcases hact with rfl | rfl | rfl | rfl | rfl
    all_goals exact playable_of (by simp [sampleSha256_valid]) (by simp)
  have hrun : Run sampleExternals draftingSession.2 draftedSession.1 draftedSession.2 := by
    refine play_run sampleSha256_valid hdrafting.sound ?_ (by decide) (by decide)
    intro action hact
    cases mem_singleton.mp hact
    exact playable_of (by simp) (by simp)
  obtain ⟨_, hstep, hrest⟩ := Exec.cons_iff.mp hrun
  exact ⟨_, (Exec.nil_iff.mp hrest) ▸ hstep, rfl⟩

end LorePia.Discovery
