import LorePia.ModelSync.Operations

namespace LorePia.ModelSync

open Lib
open ProviderStore (GenerationPreset ModelRoute ProviderConnection invalid
  validateNonempty)

/-!
# Model synchronization — the refresh

The older way to bring the models of a connection up to date: a listing is written at once, without
a job and without a review.  It writes the same rows as the commit of a job, in code of its own.

* `validateProviderApiSnapshotObservation` — the check of one observation, which both use;
* `commitModelRefresh` — the refresh.
-/

/-! ### Observations of a listing -/

/-- What the check of an observation takes from elsewhere: a time a day later, and the check of
    structured JSON. -/
structure SnapshotExternals where
  /-- `checked_add_signed(PROVIDER_API_CAPABILITY_FRESHNESS)`. -/
  freshUntil : String → Option String
  validateCapabilityStructuredValue : String → CoreResult Unit

variable (S : SnapshotExternals) (X : Externals) (uuid : String)

def validateBoundedIdentifier (label value : String) (maxBytes : Nat) : CoreResult Unit := do
  validateNonempty uuid label value
  require (trim value = value ∧ byteLen value ≤ maxBytes ∧ hasControl value = false) (invalid uuid
    (label ++ " is oversized, contains control characters, or is not trimmed"))

def maxCapabilityEnumValues : Nat := 128

/-- The values of an enumeration, after the ones before them. -/
def validateEnumValues : List String → List String → CoreResult Unit
  | _, [] => return ()
  | seen, value :: values => do
    validateBoundedIdentifier uuid "capability enum value" value 256
    require (value ∉ seen) (invalid uuid "capability enum values must be unique")
    validateEnumValues (value :: seen) values

variable (key : CapabilityKey)

def validateCapabilityValue (value : CapabilityValue) :
    CoreResult Unit :=
  if key = .contextWindow ∨ key = .maxOutputTokens then
    match value with
    | .integer number => require (0 < number) (invalid uuid
        "token-limit capabilities require a positive integer or structured value")
    | .structured json => S.validateCapabilityStructuredValue json
    | _ => throw (invalid uuid
        "token-limit capabilities require a positive integer or structured value")
  else
    match value with
    | .integer _ => throw (invalid uuid
        "integer capability values are reserved for numeric token limits")
    | .enumValues values => do
      require (values ≠ [] ∧ values.length ≤ maxCapabilityEnumValues) (invalid uuid
        "capability enum values must contain from 1 to 128 entries")
      validateEnumValues uuid [] values
    | .structured json => S.validateCapabilityStructuredValue json
    | .boolean _ => return ()

/-- The capabilities that a listing supports or does not. -/
def isSwitch : Bool :=
  key ∈ [.reasoning, .toolCalling, .parallelToolCalling, .structuredOutput, .jsonMode, .logprobs,
    .seed]

/-- The combinations that a listing gives. -/
def shapeIsValid (status : SupportStatus) (value : CapabilityValue) : Bool :=
  match status, value with
  | .verified, .integer _ => key ∈ [.contextWindow, .maxOutputTokens]
  | .verified, .structured _ => key == .reasoning
  | .verified, .boolean true => isSwitch key
  | .unsupported, .boolean false => isSwitch key
  | _, _ => false

def validateProviderApiSnapshotObservation (observation : CapabilityObservation)
    (observedAt : String) : CoreResult Unit := do
  validateBoundedIdentifier uuid "capability observation id" observation.id 256
  validateBoundedIdentifier uuid "model route id" observation.modelRouteId 256
  let expectedExpiresAt ← okOr (S.freshUntil observedAt) (invalid uuid
    "provider API snapshot observation freshness cannot be represented")
  require (observation.source = .providerApi ∧ observation.confidence = .high ∧
      observation.observedAt = observedAt ∧ observation.expiresAt = some expectedExpiresAt ∧
      observation.evidenceRef = none)
    (invalid uuid "provider API snapshot observation provenance or freshness is inconsistent")
  validateCapabilityValue S uuid observation.key observation.value
  require (shapeIsValid observation.key observation.status observation.value = true) (invalid uuid
    "provider API snapshot observation key, status, or value is inconsistent")

/-- `validate_provider_api_snapshot_observations_for_routes`, after the ones before them. -/
def validateSnapshotObservationsForRoutes (listedIds : List String) (observedAt : String) :
    List String → List CapabilityObservation → CoreResult Unit
  | _, [] => return ()
  | seen, observation :: observations => do
    require (observation.modelRouteId ∈ listedIds ∧ observation.id ∉ seen) (invalid uuid
      "model refresh capability observations must be unique and belong to a listed route")
    X.validateProviderApiSnapshotObservation observation observedAt
    validateSnapshotObservationsForRoutes listedIds observedAt (observation.id :: seen) observations

/-! ### The refresh -/

/-- A listed route as it is stored. -/
def seenRoute (existing : List ModelRoute) (observedAt : String) (route : ModelRoute) :
    ModelRoute :=
  { route with
    missCount := 0
    lastSeenAt := some observedAt
    firstSeenAt := ((existing.find? fun old => old.id == route.id).map
      ModelRoute.firstSeenAt).getD observedAt }

/-- The listed routes, in order, after the ones before them. -/
def upsertSeenRoutes (connectionId : String) (existing : List ModelRoute) (observedAt : String) :
    List String → List ModelRoute → Store → CoreResult Store
  | _, [], store => return store
  | seen, route :: routes, store => do
    require (route.connectionId = connectionId) (invalid uuid
      "every reconciled model route must belong to the requested connection")
    require (route.id ∉ seen) (invalid uuid "reconciled model route identifiers must be unique")
    let provider ← ProviderStore.upsertModelRouteRow X.toExternals uuid
      (seenRoute existing observedAt route) store.provider
    upsertSeenRoutes connectionId existing observedAt (route.id :: seen) routes
      { store with provider }

/-- What `UPDATE provider_models` makes of a route that was not listed: a refresh has no job. -/
def unlistedRoute (route : ModelRoute) : ModelRoute :=
  { route with
    missCount := min (route.missCount + 1) 4294967295
    status :=
      if route.status = .documentedOnly ∨ route.status = .accessDenied ∨
          route.status = .deprecated ∨ route.status = .retired then route.status
      else .missingTemporarily }

theorem unlistedRoute_id (route : ModelRoute) : (unlistedRoute route).id = route.id := rfl

def markUnlisted (connectionId : String) (listedIds : List String) :
    List ModelRoute → Store → CoreResult Store
  | [], store => return store
  | existing :: routes, store =>
    if existing.id ∈ listedIds then markUnlisted connectionId listedIds routes store
    else do
      let provider ← execute X uuid
        { store.provider with
          providerModels := store.provider.providerModels.updateWhere
            (fun route => route.id == existing.id && route.connectionId == connectionId)
            unlistedRoute unlistedRoute_id }.enforce
      markUnlisted connectionId listedIds routes { store with provider }

def upsertNewPresets : List GenerationPreset → Store → CoreResult Store
  | [], store => return store
  | preset :: presets, store => do
    let provider ← ProviderStore.upsertGenerationPresetRow X.toExternals uuid preset store.provider
    upsertNewPresets presets { store with provider }

def upsertRefreshObservations (listedIds : List String) :
    List CapabilityObservation → Store → CoreResult Store
  | [], store => return store
  | observation :: observations, store => do
    require (observation.modelRouteId ∈ listedIds) (invalid uuid
      "model refresh capability observations must belong to a listed route")
    let store ← upsertCapabilityObservationRow X uuid observation store
    upsertRefreshObservations listedIds observations store

/-- `commit_model_refresh`. -/
def commitModelRefresh (expectedConnection refreshedConnection : ProviderConnection)
    (listedRoutes : List ModelRoute) (newPresets : List GenerationPreset)
    (capabilityObservations : List CapabilityObservation) (observedAt : String) (store : Store) :
    CoreResult Store := do
  require (expectedConnection.id = refreshedConnection.id) (invalid uuid
    "model refresh connection identity cannot change")
  let storedConnection ← loadProviderConnection uuid expectedConnection.id store
  require (storedConnection = expectedConnection) (invalid uuid
    "provider connection changed while its model list was refreshing")
  let existingRoutes := routesOf store refreshedConnection.id
  require (existingRoutes.all fun route => route.lastSeenAt.all fun lastSeenAt =>
      decide (lastSeenAt ≤ observedAt))
    (invalid uuid "model reconciliation observation is older than stored model data")
  let store ← upsertSeenRoutes X uuid refreshedConnection.id existingRoutes observedAt []
    listedRoutes store
  let listedIds := listedRoutes.map ModelRoute.id
  validateSnapshotObservationsForRoutes X uuid listedIds observedAt [] capabilityObservations
  let store ← markUnlisted X uuid refreshedConnection.id listedIds existingRoutes store
  let store ← upsertNewPresets X uuid newPresets store
  let store := deleteProviderObservations listedIds store
  let store ← upsertRefreshObservations X uuid listedIds capabilityObservations store
  let provider ← ProviderStore.upsertProviderConnectionRow X.toExternals uuid refreshedConnection
    store.provider
  ProviderStore.validateProviderCatalogForeignKeys uuid provider
  return { store with provider }

end LorePia.ModelSync
