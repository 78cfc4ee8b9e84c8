import LorePia.ProviderStore.Settings

namespace LorePia.ProviderStore

open Lib
open Discovery (CredentialRef)
open DiscoveryStore (SqliteError)

/-!
# The provider store — operations

The operations that save and remove provider rows, each one transaction: a failure at any
statement leaves the store as it was.  An operation takes the times it reads as arguments.
-/

variable (X : Externals) (uuid : String)

/-! ### Rows under their checks -/

def validateNonempty (label value : String) : CoreResult Unit :=
  require (trim value ≠ "") (invalid uuid (label ++ " must not be empty"))

variable (profile : ProviderProfile)

/-- `validate_legacy_provider_profile`. -/
def validateLegacyProviderProfile : CoreResult Unit := do
  validateNonempty uuid "provider profile id" profile.id
  validateNonempty uuid "provider display name" profile.displayName
  validateNonempty uuid "provider model" profile.model
  require (1 ≤ profile.timeoutSeconds ∧ profile.timeoutSeconds ≤ 600) (invalid uuid
    "provider timeout must be from 1 to 600 seconds")
  let _ ← X.canonicalOriginForLegacyBaseUrl profile.baseUrl

/-- `upsert_provider_profile_row`. -/
def upsertProviderProfileRow (store : Store) :
    CoreResult Store := do
  validateLegacyProviderProfile X uuid profile
  require ((store.providerProfiles.find? profile.id).all (·.baseUrl == profile.baseUrl))
    (invalid uuid ("an existing provider profile cannot change its API endpoint; " ++
      "create a new connection instead"))
  execute uuid X (store.putProfile profile).enforce

variable (connection : ProviderConnection)

/-- `upsert_provider_connection_row`. -/
def upsertProviderConnectionRow (store : Store) :
    CoreResult Store := do
  X.validateProviderConnection store connection
  require (connection.createdAt ≤ connection.updatedAt) (invalid uuid
    "provider connection updated_at must not precede created_at")
  require ((store.providerConnections.find? connection.id).all ConnectionRow.isActive)
    (invalid uuid "an archived provider connection identifier cannot be reused")
  let existing := (store.activeConnection connection.id).map ConnectionRow.connection
  require (existing.all fun old =>
      old.templateId == connection.templateId && old.templateVersion == connection.templateVersion)
    (invalid uuid "an existing provider connection cannot change its template identity")
  require (existing.all fun old =>
      old.apiOrigin == connection.apiOrigin && old.config == connection.config &&
      old.credentialRef == connection.credentialRef &&
      old.credentialScope == connection.credentialScope)
    (invalid uuid ("an existing provider connection cannot change its endpoint configuration, " ++
      "network approval, or credential binding; create a new connection instead"))
  let store ← execute uuid X (store.putConnection connection).enforce
  X.syncLocalNetworkApproval store connection
  return store

/-- `upsert_model_route_row`. -/
def upsertModelRouteRow (route : ModelRoute) (store : Store) : CoreResult Store := do
  X.validateModelRoute store route
  require (route.lastSeenAt.all fun lastSeenAt => decide (route.firstSeenAt ≤ lastSeenAt))
    (invalid uuid "model route last_seen_at must not precede first_seen_at")
  require ((store.providerModels.find? route.id).all fun old => old.identity == route.identity)
    (invalid uuid "an existing model route cannot change its stable identity")
  execute uuid X (store.putRoute route).enforce

variable (preset : GenerationPreset)

/-- `upsert_generation_preset_row`. -/
def upsertGenerationPresetRow (store : Store) :
    CoreResult Store := do
  X.validateGenerationPreset store preset
  require (preset.createdAt ≤ preset.updatedAt) (invalid uuid
    "generation preset updated_at must not precede created_at")
  require ((store.presetRoute preset.id).all (· == preset.modelRouteId)) (invalid uuid
    "an existing generation preset cannot change its model route")
  execute uuid X (store.putPreset preset).enforce

variable (store : Store)

/-- `validate_provider_catalog_foreign_keys`. -/
def validateProviderCatalogForeignKeys : CoreResult Unit :=
  require store.foreignKeys (storageCorrupted uuid
    "provider catalog contains a foreign-key violation")

/-! ### Legacy profiles -/

def legacyProviderTemplateId : String := "custom-openai-chat-v1"

def legacyProviderTemplateVersion : Nat := 1

def legacyBaseUrlConfigKey : String := "api_base_url"

/-- The route of `legacy_provider_graph`. -/
def legacyRoute (timestamp : String) : ModelRoute where
  id := profile.id
  connectionId := profile.id
  apiFamily := .openAiChatCompletions
  modelId := profile.model
  displayName := some profile.model
  routeConfig := .default
  status := .available
  missCount := 0
  rawMetadata := none
  metadataSource := .legacy
  metadataObservedAt := none
  lastReconciledSyncJobId := none
  metadataSyncJobId := none
  firstSeenAt := timestamp
  lastSeenAt := none

/-- `legacy_provider_graph`: the connection, the route and the preset of a profile. -/
def legacyProviderGraph (timestamp : String) :
    CoreResult (ProviderConnection × ModelRoute × GenerationPreset) := do
  validateLegacyProviderProfile X uuid profile
  let apiOrigin ← X.canonicalOriginForLegacyBaseUrl profile.baseUrl
  let apiBasePath ← X.legacyApiBasePath profile.baseUrl
  let networkMode ← X.legacyNetworkMode profile.baseUrl
  let connection : ProviderConnection :=
    { id := profile.id
      templateId := legacyProviderTemplateId
      templateVersion := legacyProviderTemplateVersion
      displayName := profile.displayName
      apiOrigin := apiOrigin
      config :=
        { apiBasePath := apiBasePath
          networkMode := networkMode
          localNetworkApproval := none
          values := [⟨legacyBaseUrlConfigKey, .text profile.baseUrl⟩] }
      credentialRef := some ⟨profile.id⟩
      credentialScope := some
        { allowedOrigins := [apiOrigin], authBinding := .bearerHeader, redirectPolicy := .deny }
      timeoutSeconds := profile.timeoutSeconds
      status := .untested
      createdAt := timestamp
      updatedAt := timestamp }
  let preset : GenerationPreset :=
    { id := profile.id
      modelRouteId := profile.id
      displayName := "Default"
      valuesJson := X.legacyPresetValuesJson
      createdAt := timestamp
      updatedAt := timestamp }
  return (connection, legacyRoute profile timestamp, preset)

/-- `api_family_to_str`. -/
def apiFamilyToStr : ApiFamily → String
  | .openAiResponses => "openai_responses"
  | .openAiChatCompletions => "openai_chat_completions"
  | .anthropicMessages => "anthropic_messages"
  | .geminiGenerateContent => "gemini_generate_content"
  | .ollamaNative => "ollama_native"

/-- `legacy_model_route_id`: the exact route if it exists, else the profile's own identifier if
    it is free, else a derived one. -/
def legacyModelRouteId (route : ModelRoute) : String :=
  match store.exactRoute route.identity with
  | some existing => existing.id
  | none =>
    if store.hasRoute route.id then
      X.uuidV5 ("lorepia:legacy-model-route:v1\x00" ++ route.connectionId ++ "\x00" ++
        apiFamilyToStr route.apiFamily ++ "\x00" ++ route.modelId)
    else route.id

/-- The settings follow the profile they select to its current route. -/
def AppSettings.follow (settings : AppSettings) (profileId routeId : String) : AppSettings :=
  if settings.selectedProviderProfileId == some profileId then
    { settings with
      selectedModelRouteId := some routeId
      selectedGenerationPresetId := some routeId }
  else settings

/-- The preset of a legacy route is made with the route and then kept. -/
def ensurePreset (store : Store) : CoreResult Store :=
  if store.hasPreset preset.id then return store else upsertGenerationPresetRow X uuid preset store

def saveProviderProfile (now : String) (store : Store) :
    CoreResult Store := do
  let (connection, route, preset) ← legacyProviderGraph X uuid profile now
  X.ensureLegacyTemplateExists store
  let store ← upsertProviderProfileRow X uuid profile store
  let store ← upsertProviderConnectionRow X uuid connection store
  let route := { route with id := legacyModelRouteId X store route }
  let preset := { preset with id := route.id, modelRouteId := route.id }
  let store ← upsertModelRouteRow X uuid route store
  let store ← ensurePreset X uuid preset store
  let store ← updateStoredSettings store fun settings =>
    return settings.follow profile.id route.id
  validateProviderCatalogForeignKeys uuid store
  return store

/-! ### Archiving -/

def ModelSyncState.isFinished : ModelSyncState → Bool
  | .completed | .failed | .cancelled => true
  | _ => false

/-- `ensure_provider_connection_has_no_unfinished_work`. -/
def ensureProviderConnectionHasNoUnfinishedWork (connectionId : String) :
    CoreResult Unit := do
  require (store.modelSyncJobs.all fun job =>
      job.connectionId != connectionId || job.state.isFinished)
    (retryable uuid
      "provider connection cannot be archived while model synchronization is unfinished")
  require (store.providerDiscoverySessions.all fun session =>
      session.inputConnectionId != some connectionId &&
        session.committedConnectionId != some connectionId || session.state.isTerminal)
    (retryable uuid "provider connection cannot be archived while provider discovery is unfinished")

/-- `archive_provider_connection_row`. -/
def archiveProviderConnectionRow (connectionId archivedAt : String) (store : Store) :
    CoreResult Store := do
  require (store.activeConnection connectionId).isSome (notFound uuid "provider connection")
  ensureProviderConnectionHasNoUnfinishedWork uuid store connectionId
  let store ← clearProviderSelectionsForConnection store connectionId
  execute uuid X (store.archiveConnection connectionId archivedAt).enforce

variable (id : String)

def deleteProviderProfile (now : String) (store : Store) : CoreResult Store := do
  require (store.activeProfile id).isSome (notFound uuid "provider profile")
  let store ← archiveProviderConnectionRow X uuid id now store
  validateProviderCatalogForeignKeys uuid store
  return store

def deleteProviderConnection (now : String) (store : Store) : CoreResult Store := do
  let store ← archiveProviderConnectionRow X uuid id now store
  validateProviderCatalogForeignKeys uuid store
  return store

/-! ### Connections, routes and presets -/

def saveProviderConnection (store : Store) :
    CoreResult Store := do
  X.validateProviderConnection store connection
  upsertProviderConnectionRow X uuid connection store

def saveModelRoute (route : ModelRoute) (store : Store) : CoreResult Store := do
  X.validateModelRoute store route
  upsertModelRouteRow X uuid route store

def saveGenerationPreset (store : Store) : CoreResult Store := do
  X.validateGenerationPreset store preset
  upsertGenerationPresetRow X uuid preset store

def deleteModelRoute (store : Store) : CoreResult Store := do
  let route ← okOr (store.providerModels.find? id) (notFound uuid "model route")
  require (¬ (id = route.connectionId ∧ store.hasProfile id = true)) (invalid uuid
    "delete the migrated legacy provider connection instead of its default model route")
  let store ← clearProviderSelectionsForRoute store id route.connectionId
  let store ← execute uuid X (store.deletePresets fun preset => preset.modelRouteId == id).enforce
  let store ← execute uuid X (store.deleteRoute id).enforce
  validateProviderCatalogForeignKeys uuid store
  return store

def deleteGenerationPreset (store : Store) : CoreResult Store := do
  let routeId ← okOr (store.presetRoute id) (notFound uuid "generation preset")
  require (¬ (id = routeId ∧ store.hasProfile id = true)) (invalid uuid
    "the migrated legacy default preset cannot be deleted independently")
  let store ← clearProviderSelectionsForPreset store id routeId
  execute uuid X (store.deletePresets fun preset => preset.id == id).enforce

/-! ### Runs -/

/-- A provider-store operation with its arguments. -/
inductive Operation
  | saveSettings (settings : AppSettings)
  | saveProviderProfile (profile : ProviderProfile) (now : String)
  | deleteProviderProfile (id now : String)
  | deleteProviderConnection (id now : String)
  | deleteModelRoute (id : String)
  | deleteGenerationPreset (id : String)
  | restoreSelection (previous : DiscoveryPreviousSelection)
  | saveProviderConnection (connection : ProviderConnection)
  | saveModelRoute (route : ModelRoute)
  | saveGenerationPreset (preset : GenerationPreset)

def Operation.perform : Operation → CoreResult Store
  | .saveSettings settings => ProviderStore.saveSettings uuid store settings
  | .saveProviderProfile profile now => ProviderStore.saveProviderProfile X uuid profile now store
  | .deleteProviderProfile id now => ProviderStore.deleteProviderProfile X uuid id now store
  | .deleteProviderConnection id now => ProviderStore.deleteProviderConnection X uuid id now store
  | .deleteModelRoute id => ProviderStore.deleteModelRoute X uuid id store
  | .deleteGenerationPreset id => ProviderStore.deleteGenerationPreset X uuid id store
  | .restoreSelection previous => restoreDiscoveryProviderSelection uuid store previous
  | .saveProviderConnection connection =>
    ProviderStore.saveProviderConnection X uuid connection store
  | .saveModelRoute route => ProviderStore.saveModelRoute X uuid route store
  | .saveGenerationPreset preset => ProviderStore.saveGenerationPreset X uuid preset store

/-- A failed operation leaves the store as it was. -/
def Operation.run (operation : Operation) : Store :=
  match operation.perform X uuid store with
  | .ok store' => store'
  | .error _ => store

def runOperations (operations : List Operation) : Store :=
  operations.foldl (Operation.run X uuid) store

end LorePia.ProviderStore
