import LorePia.Lib.Canonical
import LorePia.ModelSync.Tables
import LorePia.ProviderStore.Settings

namespace LorePia.ModelSync

open Lib
open ProviderStore (GenerationPreset ModelRoute ProviderConnection invalid)

/-!
# Model synchronization — reviews

A review is the exact change that a job proposes, under a digest of its canonical form.  The
encoder, the digest and the checks of a single route's metadata and a single observation are
parameters.
-/

structure ModelSyncSourceProvenance where
  source : String
  apiFamily : ApiFamily
  apiOrigin : CanonicalOrigin
  endpointPath : EndpointPath
  pagesFetched : Nat
  responseBytes : Nat

structure ModelSyncDiff where
  connectionId : String
  expectedConnection : ProviderConnection
  expectedModelRoutes : List ModelRoute
  observedAt : String
  listedRoutes : List ModelRoute
  newlySeenModelRouteIds : List String
  missingModelRouteIds : List String
  initialPresets : List GenerationPreset
  capabilityObservations : List CapabilityObservation
  routesRequiringPresetConfiguration : List String
  provenance : ModelSyncSourceProvenance

structure ModelSyncReview where
  sha256 : String
  diff : ModelSyncDiff

/-- What the jobs and their graph are digested from: the connection and its rows. -/
structure ConnectionGraph where
  connection : ProviderConnection
  routes : List ModelRoute
  presets : List GenerationPreset
  observations : List CapabilityObservation

/-- `reviewJson` and `parseReview` are the JSON of a review and its reader, `reviewSha256` is the
    digest of a diff in canonical form, `graphSha256` that of a connection's graph; the other
    fields are the sizes of encodings and the checks of single values. -/
structure Externals extends ProviderStore.Externals where
  reviewJson : ModelSyncReview → Except String String
  parseReview : String → Except String ModelSyncReview
  reviewSha256 : ModelSyncDiff → Except String String
  graphSha256 : ConnectionGraph → String
  connectionJsonBytes : ProviderConnection → Nat
  failureJsonBytes : ModelSyncFailure → Nat
  eventJsonBytes : ModelSyncEvent → Nat
  validateProviderApiRouteMetadata : Option String → CoreResult Unit
  validateProviderApiSnapshotObservation : CapabilityObservation → String → CoreResult Unit
  validateCapabilityObservation : ProviderStore.Store → CapabilityObservation → CoreResult Unit

variable (X : Externals) (uuid : String)

/-- `ModelSyncReview::verify`. -/
def ModelSyncReview.verify (review : ModelSyncReview) : Except String Unit := do
  let recomputed ← X.reviewSha256 review.diff
  require (recomputed = review.sha256) "model synchronization review hash does not match its diff"

/-- Two lists of names as sets. -/
def sameSet (a b : List String) : Bool := decide (a ⊆ b ∧ b ⊆ a)

/-- One of the base routes, after the ones before it. -/
def validateBaseRoutes (connectionId : String) :
    List String → List ModelRoute → CoreResult Unit
  | _, [] => return ()
  | seen, route :: routes => do
    require (route.connectionId = connectionId ∧ route.id ∉ seen)
      (invalid uuid "model synchronization base routes are inconsistent")
    validateBaseRoutes connectionId (route.id :: seen) routes

/-- The listed routes, after the ones before them. -/
def validateListedRoutes (jobId : String) (diff : ModelSyncDiff) :
    List String → List ModelRoute → CoreResult Unit
  | _, [] => return ()
  | seen, route :: routes => do
    require (route.connectionId = diff.connectionId ∧
        route.apiFamily = diff.provenance.apiFamily ∧ route.id ∉ seen ∧ route.missCount = 0 ∧
        route.metadataSource = .providerApi ∧ route.metadataObservedAt = some diff.observedAt ∧
        route.lastSeenAt = some diff.observedAt ∧ route.lastReconciledSyncJobId = some jobId ∧
        route.metadataSyncJobId = some jobId)
      (invalid uuid "listed model synchronization route is inconsistent")
    X.validateProviderApiRouteMetadata route.rawMetadata
    match diff.expectedModelRoutes.find? fun existing => existing.id == route.id with
    | some existing =>
      require (existing.connectionId = route.connectionId ∧
          existing.apiFamily = route.apiFamily ∧ existing.modelId = route.modelId ∧
          existing.routeConfig = route.routeConfig ∧ existing.displayName = route.displayName ∧
          existing.firstSeenAt = route.firstSeenAt)
        (invalid uuid "model synchronization cannot rename or mutate a stable route identity")
    | none =>
      require (route.firstSeenAt = diff.observedAt)
        (invalid uuid "new model synchronization route has an invalid first-seen time")
    validateListedRoutes jobId diff (route.id :: seen) routes

/-- The initial presets, after the ones before them: routes configured and identifiers used. -/
def validateInitialPresets (calculatedNew : List String) :
    List String → List String → List GenerationPreset → CoreResult Unit
  | _, _, [] => return ()
  | configured, ids, preset :: presets => do
    require (preset.modelRouteId ∈ calculatedNew ∧ preset.modelRouteId ∉ configured ∧
        preset.id ∉ ids)
      (invalid uuid "model synchronization initial presets are inconsistent")
    validateInitialPresets calculatedNew (preset.modelRouteId :: configured) (preset.id :: ids)
      presets

def validateObservations (listedIds : List String) (observedAt : String) :
    List String → List CapabilityObservation → CoreResult Unit
  | _, [] => return ()
  | ids, observation :: observations => do
    require (observation.modelRouteId ∈ listedIds ∧ observation.id ∉ ids)
      (invalid uuid "model synchronization capability observations are inconsistent")
    X.validateProviderApiSnapshotObservation observation observedAt
    validateObservations listedIds observedAt (observation.id :: ids) observations

/-- `validate_model_sync_review`. -/
def validateModelSyncReview (jobId : String) (review : ModelSyncReview) :
    CoreResult Unit := do
  let diff := review.diff
  require (diff.connectionId = diff.expectedConnection.id ∧
      diff.provenance.apiOrigin = diff.expectedConnection.apiOrigin ∧
      diff.provenance.source = "provider_api")
    (invalid uuid "model synchronization review provenance is inconsistent")
  validateBaseRoutes uuid diff.connectionId [] diff.expectedModelRoutes
  validateListedRoutes X uuid jobId diff [] diff.listedRoutes
  let expectedIds := diff.expectedModelRoutes.map ModelRoute.id
  let listedIds := diff.listedRoutes.map ModelRoute.id
  let calculatedNew := listedIds.filter fun id => id ∉ expectedIds
  require (diff.newlySeenModelRouteIds.Nodup ∧
      sameSet diff.newlySeenModelRouteIds calculatedNew = true)
    (invalid uuid "model synchronization new-route set is inconsistent")
  let calculatedMissing := expectedIds.filter fun id => id ∉ listedIds
  require (diff.missingModelRouteIds.Nodup ∧
      sameSet diff.missingModelRouteIds calculatedMissing = true)
    (invalid uuid "model synchronization missing-route set is inconsistent")
  validateInitialPresets uuid calculatedNew [] [] diff.initialPresets
  let configured := diff.initialPresets.map GenerationPreset.modelRouteId
  require (diff.routesRequiringPresetConfiguration.Nodup ∧
      (∀ id ∈ configured, id ∉ diff.routesRequiringPresetConfiguration) ∧
      sameSet (configured ++ diff.routesRequiringPresetConfiguration) calculatedNew = true)
    (invalid uuid "model synchronization preset decision set is inconsistent")
  validateObservations X uuid listedIds diff.observedAt [] diff.capabilityObservations

end LorePia.ModelSync
