import LorePia.DiscoveryStore.Tables
import LorePia.Domain.Provider

namespace LorePia.ProviderStore

open Lib
open Discovery (AuthBinding ConnectionConfigEntry CredentialRef DiscoveryState
  ProviderLocalNetworkApproval ProviderNetworkMode)
open DiscoveryStore (SqliteError notBlank nullOr)

/-!
# The provider store — tables and statements

The provider catalog: legacy profiles, connections, model routes and generation presets, and
the application settings that select among them.  A JSON column holds the value it encodes;
two encodings are equal iff the values are.  Timestamps are texts, whose order is the order of
the times.  Every statement ends in `Store.enforce`: the column checks, the unique keys and the
foreign keys of the whole store.
-/

/-! ### Rows -/

structure ProviderProfile where
  id : String
  displayName : String
  baseUrl : String
  model : String
  timeoutSeconds : Nat
deriving DecidableEq

inductive CredentialRedirectPolicy
  | deny
  | followWithoutCredential
deriving DecidableEq

structure CredentialScope where
  allowedOrigins : List CanonicalOrigin
  authBinding : AuthBinding
  redirectPolicy : CredentialRedirectPolicy
deriving DecidableEq

inductive ConnectionStatus
  | untested
  | connected
  | authFailed
  | unavailable
deriving DecidableEq

structure ConnectionConfig where
  apiBasePath : Option EndpointPath
  networkMode : ProviderNetworkMode
  localNetworkApproval : Option ProviderLocalNetworkApproval
  values : List ConnectionConfigEntry
deriving DecidableEq

structure ProviderConnection where
  id : String
  templateId : String
  templateVersion : Nat
  displayName : String
  apiOrigin : CanonicalOrigin
  config : ConnectionConfig
  credentialRef : Option CredentialRef
  credentialScope : Option CredentialScope
  timeoutSeconds : Nat
  status : ConnectionStatus
  createdAt : String
  updatedAt : String
deriving DecidableEq

/-- A row of `provider_connections`: a connection, and when it was archived. -/
structure ConnectionRow where
  connection : ProviderConnection
  archivedAt : Option String
deriving DecidableEq

def ConnectionRow.id (row : ConnectionRow) : String := row.connection.id

def ConnectionRow.isActive (row : ConnectionRow) : Bool := row.archivedAt.isNone

structure ModelRouteConfig where
  deploymentId : Option String
  region : Option String
  endpointPath : Option EndpointPath
  values : List ConnectionConfigEntry
deriving DecidableEq

/-- `ModelRouteConfig::default`. -/
def ModelRouteConfig.default : ModelRouteConfig where
  deploymentId := none
  region := none
  endpointPath := none
  values := []

inductive ModelAvailability
  | available
  | missingTemporarily
  | documentedOnly
  | accessDenied
  | deprecated
  | retired
  | unknown
deriving DecidableEq

inductive ModelMetadataSource
  | legacy
  | providerApi
  | officialDocumentation
  | signedCatalog
  | capabilityProbe
  | userOverride
deriving DecidableEq

structure ModelRoute where
  id : String
  connectionId : String
  apiFamily : ApiFamily
  modelId : String
  displayName : Option String
  routeConfig : ModelRouteConfig
  status : ModelAvailability
  missCount : Nat
  rawMetadata : Option String
  metadataSource : ModelMetadataSource
  metadataObservedAt : Option String
  lastReconciledSyncJobId : Option String
  metadataSyncJobId : Option String
  firstSeenAt : String
  lastSeenAt : Option String
deriving DecidableEq

/-- What of a route no update changes, and what no two routes share. -/
structure RouteIdentity where
  connectionId : String
  apiFamily : ApiFamily
  modelId : String
  routeConfig : ModelRouteConfig
deriving DecidableEq

def ModelRoute.identity (route : ModelRoute) : RouteIdentity where
  connectionId := route.connectionId
  apiFamily := route.apiFamily
  modelId := route.modelId
  routeConfig := route.routeConfig

/-- A preset; `valuesJson` encodes its parameter values and its reasoning and prompt-cache
    settings. -/
structure GenerationPreset where
  id : String
  modelRouteId : String
  displayName : String
  valuesJson : String
  createdAt : String
  updatedAt : String
deriving DecidableEq

/-- The provider columns of a row of `generations`. -/
structure GenerationTarget where
  modelRouteId : Option String
  generationPresetId : Option String
deriving DecidableEq

inductive ModelSyncState
  | created
  | fetching
  | interrupted
  | diffReadyAwaitingReview
  | committing
  | completed
  | failed
  | cancelled
deriving DecidableEq

structure ModelSyncJob where
  connectionId : String
  state : ModelSyncState
deriving DecidableEq

structure DiscoverySessionTarget where
  /-- `json_extract(sanitized_input_json, '$.connection_id')`. -/
  inputConnectionId : Option String
  committedConnectionId : Option String
  state : DiscoveryState
deriving DecidableEq

structure AppSettings where
  preservePartialGenerations : Bool
  selectedProviderProfileId : Option String
  selectedModelRouteId : Option String
  selectedGenerationPresetId : Option String
deriving DecidableEq

/-- `AppSettings::default`. -/
def AppSettings.default : AppSettings where
  preservePartialGenerations := true
  selectedProviderProfileId := none
  selectedModelRouteId := none
  selectedGenerationPresetId := none

structure Store where
  providerProfiles : Table String ProviderProfile ProviderProfile.id
  providerConnections : Table String ConnectionRow ConnectionRow.id
  providerModels : Table String ModelRoute ModelRoute.id
  generationPresets : Table String GenerationPreset GenerationPreset.id
  generations : List GenerationTarget
  modelSyncJobs : List ModelSyncJob
  providerDiscoverySessions : List DiscoverySessionTarget
  appSettings : Option AppSettings
deriving DecidableEq

/-- The tables as the migrations leave them in a new database. -/
def Store.empty : Store where
  providerProfiles := .empty
  providerConnections := .empty
  providerModels := .empty
  generationPresets := .empty
  generations := []
  modelSyncJobs := []
  providerDiscoverySessions := []
  appSettings := none

/-! ### Rewritten rows

What `ON CONFLICT(id) DO UPDATE` makes of a stored row. -/

def ProviderProfile.over (profile old : ProviderProfile) : ProviderProfile :=
  { old with
    displayName := profile.displayName
    model := profile.model
    timeoutSeconds := profile.timeoutSeconds }

theorem ProviderProfile.over_id (profile old : ProviderProfile) : (profile.over old).id = old.id :=
  rfl

def ProviderConnection.over (connection : ProviderConnection) (old : ConnectionRow) :
    ConnectionRow :=
  { old with
    connection := { old.connection with
      displayName := connection.displayName
      apiOrigin := connection.apiOrigin
      config := connection.config
      credentialRef := connection.credentialRef
      credentialScope := connection.credentialScope
      timeoutSeconds := connection.timeoutSeconds
      status := connection.status
      updatedAt := connection.updatedAt } }

theorem ProviderConnection.over_id (connection : ProviderConnection) (old : ConnectionRow) :
    (connection.over old).id = old.id :=
  rfl

def ConnectionRow.archive (archivedAt : String) (row : ConnectionRow) : ConnectionRow :=
  { row with archivedAt := some archivedAt }

theorem ConnectionRow.archive_id (archivedAt : String) (row : ConnectionRow) :
    (row.archive archivedAt).id = row.id :=
  rfl

/-- The identity stays, and the earlier of the two first sightings. -/
def ModelRoute.over (route old : ModelRoute) : ModelRoute :=
  { route with
    id := old.id
    connectionId := old.connectionId
    apiFamily := old.apiFamily
    modelId := old.modelId
    routeConfig := old.routeConfig
    firstSeenAt := if route.firstSeenAt < old.firstSeenAt then route.firstSeenAt
      else old.firstSeenAt }

theorem ModelRoute.over_id (route old : ModelRoute) : (route.over old).id = old.id := rfl

def GenerationPreset.over (preset old : GenerationPreset) : GenerationPreset :=
  { old with
    displayName := preset.displayName
    valuesJson := preset.valuesJson
    updatedAt := preset.updatedAt }

theorem GenerationPreset.over_id (preset old : GenerationPreset) :
    (preset.over old).id = old.id :=
  rfl

/-! ### Constraints -/

def ConnectionRow.checks (row : ConnectionRow) : Bool :=
  notBlank row.connection.id && notBlank row.connection.templateId &&
  0 < row.connection.templateVersion && notBlank row.connection.displayName &&
  notBlank row.connection.apiOrigin.val &&
  nullOr notBlank (row.connection.credentialRef.map CredentialRef.val) &&
  1 ≤ row.connection.timeoutSeconds && row.connection.timeoutSeconds ≤ 600 &&
  notBlank row.connection.createdAt && notBlank row.connection.updatedAt &&
  nullOr notBlank row.archivedAt

def ModelRoute.checks (row : ModelRoute) : Bool :=
  notBlank row.id && notBlank row.modelId && nullOr notBlank row.displayName &&
  notBlank row.firstSeenAt && nullOr notBlank row.lastSeenAt && row.missCount ≤ 4294967295

def GenerationPreset.checks (row : GenerationPreset) : Bool :=
  notBlank row.id && notBlank row.displayName && notBlank row.createdAt && notBlank row.updatedAt

namespace Store

variable (store : Store)

/-- `SELECT … FROM provider_connections WHERE id = ? AND archived_at IS NULL`. -/
def activeConnection (id : String) : Option ConnectionRow :=
  (store.providerConnections.find? id).filter ConnectionRow.isActive

def hasProfile (id : String) : Bool := (store.providerProfiles.find? id).isSome

def hasRoute (id : String) : Bool := (store.providerModels.find? id).isSome

def hasPreset (id : String) : Bool := (store.generationPresets.find? id).isSome

/-- The route of a preset. -/
def presetRoute (id : String) : Option String :=
  (store.generationPresets.find? id).map GenerationPreset.modelRouteId

def checks : Bool :=
  store.providerConnections.rows.all ConnectionRow.checks &&
  store.providerModels.rows.all ModelRoute.checks &&
  store.generationPresets.rows.all GenerationPreset.checks

/-- `UNIQUE (connection_id, api_family, model_id, route_json)`. -/
def uniqueKeys : Bool := decide (store.providerModels.rows.map ModelRoute.identity).Nodup

def foreignKeys : Bool :=
  (store.providerModels.rows.all fun row =>
    (store.providerConnections.find? row.connectionId).isSome) &&
  (store.generationPresets.rows.all fun row => store.hasRoute row.modelRouteId) &&
  store.generations.all fun row =>
    row.modelRouteId.all store.hasRoute && row.generationPresetId.all store.hasPreset

/-- The constraints at the end of a statement. -/
def enforce : Except SqliteError Store := do
  require store.checks .checkConstraint
  require store.uniqueKeys .uniqueConstraint
  require store.foreignKeys .foreignKeyConstraint
  return store

/-! ### Statements

Each takes effect only if the constraints hold after it. -/

/-- `INSERT INTO provider_profiles … ON CONFLICT(id) DO UPDATE`. -/
def putProfile (profile : ProviderProfile) : Store :=
  { store with
    providerProfiles := store.providerProfiles.upsert profile profile.over profile.over_id }

/-- `INSERT INTO provider_connections … ON CONFLICT(id) DO UPDATE`. -/
def putConnection (connection : ProviderConnection) : Store :=
  { store with
    providerConnections := store.providerConnections.upsert ⟨connection, none⟩ connection.over
      connection.over_id }

/-- `INSERT INTO provider_models … ON CONFLICT(id) DO UPDATE`. -/
def putRoute (route : ModelRoute) : Store :=
  { store with providerModels := store.providerModels.upsert route route.over route.over_id }

/-- `INSERT INTO generation_presets … ON CONFLICT(id) DO UPDATE`. -/
def putPreset (preset : GenerationPreset) : Store :=
  { store with
    generationPresets := store.generationPresets.upsert preset preset.over preset.over_id }

/-- `UPDATE provider_connections SET archived_at = ? WHERE id = ? AND archived_at IS NULL`. -/
def archiveConnection (id archivedAt : String) : Store :=
  { store with
    providerConnections := store.providerConnections.updateWhere
      (fun row => row.id == id && row.isActive) (ConnectionRow.archive archivedAt)
      (ConnectionRow.archive_id archivedAt) }

/-- `DELETE FROM provider_models WHERE id = ?`. -/
def deleteRoute (id : String) : Store :=
  { store with providerModels := store.providerModels.deleteWhere fun row => row.id == id }

/-- `DELETE FROM generation_presets WHERE …`. -/
def deletePresets (p : GenerationPreset → Bool) : Store :=
  { store with generationPresets := store.generationPresets.deleteWhere p }

end Store

/-! ### Externals -/

/-- What the store takes from elsewhere: the checks of a connection, a route and a preset
    against its template and its local-network approval, the parts of a legacy base URL, the
    derived identifier of a sibling route, and the texts of database errors. -/
structure Externals where
  ensureLegacyTemplateExists : Store → CoreResult Unit
  validateProviderConnection : Store → ProviderConnection → CoreResult Unit
  syncLocalNetworkApproval : Store → ProviderConnection → CoreResult Unit
  validateModelRoute : Store → ModelRoute → CoreResult Unit
  validateGenerationPreset : Store → GenerationPreset → CoreResult Unit
  canonicalOriginForLegacyBaseUrl : String → CoreResult CanonicalOrigin
  legacyApiBasePath : String → CoreResult (Option EndpointPath)
  legacyNetworkMode : String → CoreResult ProviderNetworkMode
  /-- The encoded values of the preset a legacy profile starts with. -/
  legacyPresetValuesJson : String
  /-- `Uuid::new_v5` in the URL namespace. -/
  uuidV5 : String → String
  errorText : SqliteError → String

end LorePia.ProviderStore
