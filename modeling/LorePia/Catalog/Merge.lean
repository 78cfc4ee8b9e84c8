import LorePia.Catalog.Layers
import LorePia.Lib.SortedMap
import Mathlib.Data.Prod.Lex

namespace LorePia.Catalog

open Lib

/-!
# Merging catalog layers

`mergeCatalogLayers` goes through the layers from the lowest to the highest and overrides: a
manifest as a whole, a model in its metadata, in each capability and in each parameter.
Expired layers and entries are left out, and so are layers that are not yet effective.
-/

/-! ### Freshness and provenance -/

inductive CatalogFreshness
  | current
  | stale
  | expired
deriving DecidableEq

structure CatalogFreshnessPolicy where
  bundledMaxAgeSeconds : Nat
  signedMaxAgeSeconds : Nat
  documentationMaxAgeSeconds : Nat
  providerApiMaxAgeSeconds : Nat
  probeMaxAgeSeconds : Nat

/-- `CatalogFreshnessPolicy::default`. -/
def CatalogFreshnessPolicy.default : CatalogFreshnessPolicy where
  bundledMaxAgeSeconds := 180 * 24 * 60 * 60
  signedMaxAgeSeconds := 90 * 24 * 60 * 60
  documentationMaxAgeSeconds := 60 * 24 * 60 * 60
  providerApiMaxAgeSeconds := 7 * 24 * 60 * 60
  probeMaxAgeSeconds := 30 * 24 * 60 * 60

def CatalogFreshnessPolicy.maxAgeSeconds (policy : CatalogFreshnessPolicy) :
    CatalogAuthority → Option Nat
  | .bundled => some policy.bundledMaxAgeSeconds
  | .signedCatalog => some policy.signedMaxAgeSeconds
  | .officialDocumentation => some policy.documentationMaxAgeSeconds
  | .providerApi => some policy.providerApiMaxAgeSeconds
  | .capabilityProbe => some policy.probeMaxAgeSeconds
  | .userOverride => none

structure CatalogFieldProvenance where
  authority : CatalogAuthority
  layerId : String
  revision : Nat
  verifiedAt : Int
  freshness : CatalogFreshness

def minimumExpiry : Option Int → Option Int → Option Int
  | some left, some right => some (min left right)
  | some value, none => some value
  | none, some value => some value
  | none, none => none

/-- A moment of expiry that has come. -/
def isExpired (expiresAt : Option Int) (now : Int) : Bool :=
  expiresAt.any fun expiry => decide (expiry ≤ now)

variable (now : Int) (policy : CatalogFreshnessPolicy)

def freshness (authority : CatalogAuthority) (verifiedAt : Int) (expiresAt : Option Int) :
    CatalogFreshness :=
  if isExpired expiresAt now then .expired
  else
    match policy.maxAgeSeconds authority with
    | none => .current
    | some maxAge =>
      if (min maxAge i64Max : Nat) < (now - verifiedAt).tdiv 1000000000 then .stale else .current

def provenance (layer : CatalogLayer) (verifiedAt : Int) (freshness : CatalogFreshness) :
    CatalogFieldProvenance where
  authority := layer.authority
  layerId := layer.id
  revision := layer.revision
  verifiedAt := verifiedAt
  freshness := freshness

/-- The provenance of what an entry of a layer contributes. -/
def entryProvenance (layer : CatalogLayer) (verifiedAt : Int) (expiresAt : Option Int) :
    CatalogFieldProvenance :=
  provenance layer verifiedAt
    (freshness now policy layer.authority verifiedAt (minimumExpiry layer.expiresAt expiresAt))

/-! ### The merged catalog -/

structure MergedCatalogManifest where
  entry : CatalogManifestEntry
  provenance : CatalogFieldProvenance

structure MergedCatalogModel where
  entry : CatalogModelEntry
  metadataProvenance : CatalogFieldProvenance
  capabilityProvenance : SortedMap CatalogCapabilityKey CatalogFieldProvenance
  parameterProvenance : SortedMap String CatalogFieldProvenance

structure CatalogMergeReport where
  ignoredExpiredLayers : List String
  ignoredExpiredManifestIds : List String
  ignoredExpiredModelIds : List String

structure MergedCatalog where
  manifests : List MergedCatalogManifest
  models : List MergedCatalogModel
  report : CatalogMergeReport

/-- The variables of the merge loop. -/
structure MergeState where
  manifests : SortedMap String MergedCatalogManifest
  models : SortedMap String MergedCatalogModel
  report : CatalogMergeReport

def MergeState.start : MergeState where
  manifests := .empty
  models := .empty
  report := ⟨[], [], []⟩

/-! ### One entry -/

/-- A manifest may follow the merged one: it keeps the family, and under one authority its
    version does not go back. -/
def mayFollowManifest (layer : CatalogLayer) (previous : MergedCatalogManifest)
    (entry : CatalogManifestEntry) : Bool :=
  previous.entry.template.apiFamily == entry.template.apiFamily &&
    (previous.provenance.authority != layer.authority ||
      previous.entry.template.manifestVersion ≤ entry.template.manifestVersion)

/-- One turn of `merge_manifest_layer`. -/
def mergeManifestEntry (layer : CatalogLayer) (state : MergeState) (entry : CatalogManifestEntry) :
    Except CatalogErrorKind MergeState := do
  let source := entryProvenance now policy layer entry.verifiedAt entry.expiresAt
  if source.freshness = .expired then
    return { state with
      report := { state.report with
        ignoredExpiredManifestIds :=
          state.report.ignoredExpiredManifestIds ++ [entry.template.id] } }
  else
    require ((state.manifests.get? entry.template.id).all fun previous =>
      mayFollowManifest layer previous entry) .invalidLayer
    return { state with manifests := state.manifests.insert entry.template.id ⟨entry, source⟩ }

/-- A model may follow the merged one: it keeps template, match and family, and under one
    authority its metadata version does not go back. -/
def mayFollowModel (layer : CatalogLayer) (previous : MergedCatalogModel)
    (entry : CatalogModelEntry) : Bool :=
  previous.entry.providerTemplateId == entry.providerTemplateId &&
    previous.entry.modelMatch == entry.modelMatch &&
    previous.entry.apiFamily == entry.apiFamily &&
    (previous.metadataProvenance.authority != layer.authority ||
      previous.entry.metadataVersion ≤ entry.metadataVersion)

section Items

variable {κ ρ : Type} [LinearOrder κ] (key : ρ → κ)

/-- The items of a model under the items of an entry, by key. -/
def overrideItems (old new : List ρ) : List ρ :=
  (new.foldl (fun m item => m.insert (key item) item)
    (old.foldl (fun m item => m.insert (key item) item) SortedMap.empty)).values

/-- The provenance of the items of an entry. -/
def recordItems (source : CatalogFieldProvenance) (recorded : SortedMap κ CatalogFieldProvenance)
    (new : List ρ) : SortedMap κ CatalogFieldProvenance :=
  new.foldl (fun m item => m.insert (key item) source) recorded

/-- The provenance of the items that have none. -/
def recordMissing (source : CatalogFieldProvenance) (recorded : SortedMap κ CatalogFieldProvenance)
    (items : List ρ) : SortedMap κ CatalogFieldProvenance :=
  items.foldl (fun m item => if (m.get? (key item)).isSome then m else m.insert (key item) source)
    recorded

end Items

/-- The target of an entry: the merged model, or a new one. -/
def modelTarget (entry : CatalogModelEntry) (source : CatalogFieldProvenance) :
    Option MergedCatalogModel → MergedCatalogModel
  | some previous => previous
  | none =>
    { entry := entry
      metadataProvenance := source
      capabilityProvenance := .empty
      parameterProvenance := .empty }

/-- What an entry makes of its target. -/
def overlayModel (entry : CatalogModelEntry) (source : CatalogFieldProvenance)
    (previous : Option MergedCatalogModel) : MergedCatalogModel :=
  let target := modelTarget entry source previous
  let capabilities :=
    overrideItems CatalogCapability.key target.entry.capabilities entry.capabilities
  let parameters := overrideItems ParameterSpec.id target.entry.parameters entry.parameters
  { entry := { entry with capabilities := capabilities, parameters := parameters }
    metadataProvenance := source
    capabilityProvenance := recordMissing CatalogCapability.key source
      (recordItems CatalogCapability.key source target.capabilityProvenance entry.capabilities)
      capabilities
    parameterProvenance := recordMissing ParameterSpec.id source
      (recordItems ParameterSpec.id source target.parameterProvenance entry.parameters)
      parameters }

/-- One turn of `merge_model_layer`. -/
def mergeModelEntry (layer : CatalogLayer) (state : MergeState) (entry : CatalogModelEntry) :
    Except CatalogErrorKind MergeState := do
  let source := entryProvenance now policy layer entry.verifiedAt entry.expiresAt
  if source.freshness = .expired then
    return { state with
      report := { state.report with
        ignoredExpiredModelIds := state.report.ignoredExpiredModelIds ++ [entry.id] } }
  else
    require ((state.models.get? entry.id).all fun previous =>
      mayFollowModel layer previous entry) .invalidLayer
    return { state with
      models := state.models.insert entry.id
        (overlayModel entry source (state.models.get? entry.id)) }

/-! ### The loop over the layers -/

/-- `(authority, revision, effective_at, id)`. -/
def CatalogLayer.rank (layer : CatalogLayer) : ℕ ×ₗ ℕ ×ₗ ℤ ×ₗ String :=
  toLex (layer.authority.precedence, toLex (layer.revision, toLex (layer.effectiveAt, layer.id)))

def orderedLayers (layers : List CatalogLayer) : List CatalogLayer :=
  layers.mergeSort fun left right => decide (left.rank ≤ right.rank)

/-- One turn of the loop of `merge_catalog_layers`. -/
def mergeLayer (state : MergeState) (layer : CatalogLayer) : Except CatalogErrorKind MergeState :=
  if now < layer.effectiveAt then return state
  else if isExpired layer.expiresAt now then
    return { state with
      report := { state.report with
        ignoredExpiredLayers := state.report.ignoredExpiredLayers ++ [layer.id] } }
  else do
    let state ← layer.manifests.foldlM (mergeManifestEntry now policy layer) state
    layer.models.foldlM (mergeModelEntry now policy layer) state

def MergeState.catalog (state : MergeState) : MergedCatalog where
  manifests := state.manifests.values
  models := state.models.values
  report := state.report

variable (V : CatalogValidators)

def mergeCatalogLayers (layers : List CatalogLayer) : Except CatalogErrorKind MergedCatalog := do
  validateLayers V layers
  let state ← (orderedLayers layers).foldlM (mergeLayer now policy) .start
  return state.catalog

end LorePia.Catalog
