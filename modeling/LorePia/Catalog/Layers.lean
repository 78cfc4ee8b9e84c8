import LorePia.Domain.Provider
import LorePia.Domain.Url

namespace LorePia.Catalog

open Lib List

/-!
# Catalog layers

What a catalog layer holds and when it is accepted.  A time is a count of nanoseconds.  The
validators of the provider crate for a manifest, its connection fields and a model's parameters
are parameters, and so is the URL crate; of the values they read only what the catalog reads
itself has a field, the rest is its canonical JSON.
-/

/-! ### Entries -/

structure ConnectionFieldSpec where
  json : String
deriving DecidableEq

structure ParameterSpec where
  id : String
  json : String
deriving DecidableEq

structure ProviderManifest where
  apiFamily : ApiFamily
  json : String
deriving DecidableEq

inductive TemplateSource
  | builtIn
  | signedCatalog
  | userDiscovered
deriving DecidableEq

structure ProviderTemplate where
  id : String
  displayName : String
  manifestVersion : Nat
  source : TemplateSource
  apiFamily : ApiFamily
  connectionFields : List ConnectionFieldSpec
  defaultManifest : ProviderManifest
deriving DecidableEq

structure CatalogSource where
  url : HttpUrl
  contentSha256 : String
  verifiedAt : Int
deriving DecidableEq

structure CatalogManifestEntry where
  template : ProviderTemplate
  verifiedAt : Int
  expiresAt : Option Int
  sources : List CatalogSource
deriving DecidableEq

inductive ModelMatch
  | anyModel
  | exact (modelId : String)
  | glob (pattern : String)
deriving DecidableEq

inductive CatalogCapabilityKey
  | streaming
  | reasoning
  | structuredOutput
  | toolCalling
  | promptCaching
  | contextTokens
  | maxOutputTokens
deriving DecidableEq

namespace CatalogCapabilityKey

/-- The place of a key in the declaration, which is its order. -/
def place : CatalogCapabilityKey → Nat
  | streaming => 0
  | reasoning => 1
  | structuredOutput => 2
  | toolCalling => 3
  | promptCaching => 4
  | contextTokens => 5
  | maxOutputTokens => 6

theorem place_injective : Function.Injective place := by
  intro a b h
  cases a <;> cases b <;> first | rfl | cases h

instance : LinearOrder CatalogCapabilityKey := LinearOrder.lift' place place_injective

end CatalogCapabilityKey

inductive CatalogCapabilityValue
  | unknown
  | boolean (value : Bool)
  | integer (value : Nat)
  | enumValues (values : List String)
deriving DecidableEq

structure CatalogCapability where
  key : CatalogCapabilityKey
  value : CatalogCapabilityValue
deriving DecidableEq

inductive ModelLifecycle
  | unknown
  | active
  | preview
  | deprecated
  | retired
deriving DecidableEq

structure CatalogModelEntry where
  id : String
  providerTemplateId : String
  modelMatch : ModelMatch
  apiFamily : ApiFamily
  metadataVersion : Nat
  capabilities : List CatalogCapability
  parameters : List ParameterSpec
  lifecycle : ModelLifecycle
  sources : List CatalogSource
  verifiedAt : Int
  expiresAt : Option Int
deriving DecidableEq

/-! ### Layers -/

inductive CatalogAuthority
  | bundled
  | signedCatalog
  | officialDocumentation
  | providerApi
  | capabilityProbe
  | userOverride
deriving DecidableEq

def CatalogAuthority.precedence : CatalogAuthority → Nat
  | .bundled => 0
  | .signedCatalog => 1
  | .officialDocumentation => 2
  | .providerApi => 3
  | .capabilityProbe => 4
  | .userOverride => 5

structure CatalogLayer where
  id : String
  authority : CatalogAuthority
  revision : Nat
  effectiveAt : Int
  expiresAt : Option Int
  manifests : List CatalogManifestEntry
  models : List CatalogModelEntry

inductive CatalogErrorKind
  | invalidRevision
  | revisionRollback
  | unsupportedSchema
  | invalidCatalogId
  | invalidTimeWindow
  | notYetEffective
  | expired
  | emptyCatalog
  | tooManyEntries
  | duplicateEntry
  | invalidManifest
  | invalidModelEntry
  | invalidModelMatch
  | invalidCapability
  | invalidParameter
  | invalidSource
  | invalidLayer
  | historyConflict
deriving DecidableEq

/-! ### Validation -/

def clockSkew : Int := 5 * 60 * 1000000000

def maxCatalogModels : Nat := 4096

def maxCatalogManifests : Nat := 256

def maxModelEntryIdBytes : Nat := 160

def maxDisplayNameBytes : Nat := 256

def maxModelPatternBytes : Nat := 256

def maxEnumValues : Nat := 128

def maxEnumValueBytes : Nat := 256

def maxSources : Nat := 32

/-- The validators of the provider crate, and the URL crate. -/
structure CatalogValidators where
  url : UrlCrate
  /-- `validate_connection_fields`. -/
  connectionFields : List ConnectionFieldSpec → Bool
  /-- `validate_manifest`. -/
  manifest : ProviderManifest → Bool
  /-- `validate_manifest` of the manifest that `validate_model_parameters` makes. -/
  modelParameters : ApiFamily → List ParameterSpec → Bool

variable (V : CatalogValidators)

variable (value : String)

def isCatalogIdentifier (maxBytes : Nat) : Bool :=
  value != "" && byteLen value ≤ maxBytes &&
    value.toList.all fun c => isAsciiAlphanumeric c || c ∈ ['-', '_', '.', ':', '/']

def isLowerHexSha256 : Bool :=
  value.toList.length == 64 &&
    value.toList.all fun c => ('0' ≤ c && c ≤ '9') || ('a' ≤ c && c ≤ 'f')

/-- What every pattern of a model must be. -/
def isModelPattern : Bool :=
  value != "" && byteLen value ≤ maxModelPatternBytes && value.toList.all fun c =>
      isAsciiAlphanumeric c || c ∈ ['-', '_', '.', ':', '/', '@', '*']

def ModelMatch.isValid : ModelMatch → Bool
  | .anyModel => true
  | .exact modelId => '*' ∉ modelId.toList && isModelPattern modelId
  | .glob pattern => pattern.toList.count '*' == 1 && pattern != "*" && isModelPattern pattern

def validateModelMatch (modelMatch : ModelMatch) : Except CatalogErrorKind Unit :=
  require modelMatch.isValid .invalidModelMatch

def CatalogCapability.isValid : CatalogCapability → Bool
  | ⟨_, .unknown⟩ => true
  | ⟨key, .boolean _⟩ => key ∈ [CatalogCapabilityKey.streaming, .reasoning, .structuredOutput,
      .toolCalling, .promptCaching]
  | ⟨key, .integer value⟩ =>
    key ∈ [CatalogCapabilityKey.contextTokens, .maxOutputTokens] && 0 < value
  | ⟨_, .enumValues values⟩ => values != [] && values.length ≤ maxEnumValues &&
      (values.all fun value => value != "" && byteLen value ≤ maxEnumValueBytes &&
        !hasControl value) && decide values.Nodup

/-- The keys of the earlier capabilities are `seen`. -/
def validateCapabilitiesFrom (seen : List CatalogCapabilityKey) :
    List CatalogCapability → Except CatalogErrorKind Unit
  | [] => return ()
  | capability :: capabilities => do
    require (capability.key ∉ seen) .duplicateEntry
    require capability.isValid .invalidCapability
    validateCapabilitiesFrom (capability.key :: seen) capabilities

def validateCapabilities (capabilities : List CatalogCapability) : Except CatalogErrorKind Unit :=
  validateCapabilitiesFrom [] capabilities

def validateModelParameters (apiFamily : ApiFamily) (parameters : List ParameterSpec) :
    Except CatalogErrorKind Unit :=
  require (V.modelParameters apiFamily parameters) .invalidParameter

def CatalogSource.isValid (source : CatalogSource) : Bool :=
  (match V.url.parse source.url.val with
    | .ok url => url.scheme == "https" && url.host.isSome && url.query.isNone && url.fragment.isNone
    | .error _ => false) &&
  isLowerHexSha256 source.contentSha256

variable (sources : List CatalogSource)

def validateCatalogSourceBasics : Except CatalogErrorKind Unit := do
  require (sources ≠ [] ∧ sources.length ≤ maxSources) .invalidSource
  require ((sources.all fun source => source.isValid V) ∧
    (sources.map fun source => source.url.val).Nodup) .invalidSource

/-- `validate_catalog_sources` and `validate_entry_sources`: no source is verified after a
    moment of reference. -/
def validateSourcesAt (moment : Int) :
    Except CatalogErrorKind Unit := do
  validateCatalogSourceBasics V sources
  require (∀ source ∈ sources, source.verifiedAt ≤ moment + clockSkew) .invalidSource

def CatalogAuthority.expectedSource : CatalogAuthority → TemplateSource
  | .bundled => .builtIn
  | .signedCatalog => .signedCatalog
  | .officialDocumentation | .providerApi | .capabilityProbe | .userOverride => .userDiscovered

/-- An entry does not outlive its layer. -/
def outlives (entryExpiry layerExpiry : Option Int) : Bool :=
  entryExpiry.any fun entry => layerExpiry.any fun layer => layer < entry

/-- What every validator demands of a template. -/
def ProviderTemplate.isSound (template : ProviderTemplate) : Bool :=
  isCatalogIdentifier template.id maxModelEntryIdBytes && trim template.displayName != "" &&
  byteLen template.displayName ≤ maxDisplayNameBytes && !hasControl template.displayName &&
  template.manifestVersion != 0 && template.apiFamily == template.defaultManifest.apiFamily

def validateLayerManifest (entry : CatalogManifestEntry) (layer : CatalogLayer) :
    Except CatalogErrorKind Unit := do
  require (entry.template.isSound ∧ entry.template.source = layer.authority.expectedSource ∧
    entry.verifiedAt ≤ layer.effectiveAt + clockSkew ∧
    (∀ expiry ∈ entry.expiresAt, entry.verifiedAt < expiry) ∧
    outlives entry.expiresAt layer.expiresAt = false) .invalidLayer
  require (V.connectionFields entry.template.connectionFields) .invalidManifest
  require (V.manifest entry.template.defaultManifest) .invalidManifest
  validateSourcesAt V entry.sources entry.verifiedAt

def validateLayerModel (entry : CatalogModelEntry) (layer : CatalogLayer) :
    Except CatalogErrorKind Unit := do
  require (isCatalogIdentifier entry.id maxModelEntryIdBytes ∧
    isCatalogIdentifier entry.providerTemplateId maxModelEntryIdBytes ∧
    entry.metadataVersion ≠ 0 ∧ entry.verifiedAt ≤ layer.effectiveAt + clockSkew ∧
    (∀ expiry ∈ entry.expiresAt, entry.verifiedAt < expiry) ∧
    outlives entry.expiresAt layer.expiresAt = false) .invalidLayer
  validateModelMatch entry.modelMatch
  validateCapabilities entry.capabilities
  validateModelParameters V entry.apiFamily entry.parameters
  validateSourcesAt V entry.sources entry.verifiedAt

/-- A loop that rejects a key it has seen. -/
def forEachUnique {ε α κ : Type} [DecidableEq κ] (key : α → κ) (duplicate : ε)
    (check : α → Except ε Unit) (seen : List κ) : List α → Except ε Unit
  | [] => .ok ()
  | a :: as => do
    require (key a ∉ seen) duplicate
    check a
    forEachUnique key duplicate check (key a :: seen) as

/-- One layer, its identifier apart. -/
def validateLayer (layer : CatalogLayer) : Except CatalogErrorKind Unit := do
  require (isCatalogIdentifier layer.id maxModelEntryIdBytes ∧ layer.revision ≠ 0 ∧
    ∀ expiry ∈ layer.expiresAt, layer.effectiveAt < expiry) .invalidLayer
  forEachUnique (fun entry => entry.template.id) .duplicateEntry
    (fun entry => validateLayerManifest V entry layer) [] layer.manifests
  forEachUnique CatalogModelEntry.id .duplicateEntry
    (fun entry => validateLayerModel V entry layer) [] layer.models

def validateLayers (layers : List CatalogLayer) : Except CatalogErrorKind Unit :=
  forEachUnique CatalogLayer.id .invalidLayer (validateLayer V) [] layers

/-! ### What validation establishes -/

theorem forEachUnique_ok {ε α κ : Type} [DecidableEq κ] {key : α → κ} {duplicate : ε}
    {check : α → Except ε Unit} {seen : List κ} {as : List α} :
    forEachUnique key duplicate check seen as = .ok u ↔
      (as.map key).Nodup ∧ (∀ a ∈ as, key a ∉ seen) ∧ ∀ a ∈ as, check a = .ok () := by
  induction as generalizing seen with
  | nil => simp [forEachUnique]
  | cons a as ih =>
    rw [forEachUnique, guard_ok, bind_ok]
    simp only [ih, map_cons, nodup_cons, mem_cons, not_or, mem_map, not_exists,
      not_and, forall_eq_or_imp]
    constructor
    · rintro ⟨hnew, _, hcheck, hnodup, hseen, hrest⟩
      exact ⟨⟨fun b hb => (hseen b hb).1, hnodup⟩, ⟨hnew, fun b hb => (hseen b hb).2⟩, hcheck,
        hrest⟩
    · rintro ⟨⟨hdiff, hnodup⟩, ⟨hnew, hseen⟩, hcheck, hrest⟩
      exact ⟨hnew, (), hcheck, hnodup, fun b hb => ⟨hdiff b hb, hseen b hb⟩, hrest⟩

theorem validateLayers_ok {layers : List CatalogLayer} {u : Unit} :
    validateLayers V layers = .ok u ↔
      (layers.map CatalogLayer.id).Nodup ∧ ∀ layer ∈ layers, validateLayer V layer = .ok () := by
  rw [validateLayers, forEachUnique_ok]
  simp

theorem nodup_of_validateLayer {layer : CatalogLayer} (h : validateLayer V layer = .ok ()) :
    (layer.manifests.map fun entry => entry.template.id).Nodup ∧
      (layer.models.map CatalogModelEntry.id).Nodup := by
  obtain ⟨_, _, hmans, hmods⟩ := guard_step h
  exact ⟨(forEachUnique_ok.mp hmans).1, (forEachUnique_ok.mp hmods).1⟩

end LorePia.Catalog
