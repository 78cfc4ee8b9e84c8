import LorePia.ProviderStore.Tables

namespace LorePia.ProviderStore

open Lib
open DiscoveryStore (SqliteError)

/-!
# The provider store — the selection in the settings

The settings name a legacy profile, a model route and a generation preset.  A write of the
settings derives one part of this selection from another (`normalizeSettingsForWrite`); the
operations that take rows away clear it, each by its own rule; the rollback of a discovery
puts an earlier selection back.
-/

variable (uuid : String)

/-! ### Errors -/

variable (message : String)

def invalid : CoreError := .new uuid .invalidInput message false

def retryable : CoreError := .new uuid .invalidInput message true

def notFound (kind : String) : CoreError := .new uuid .notFound (kind ++ " was not found") false

def storageCorrupted : CoreError := .new uuid .storageCorrupted message false

def storageDbError (X : Externals) (error : SqliteError) : CoreError :=
  .new uuid .storageUnavailable ("SQLite operation failed: " ++ X.errorText error) true

/-- A statement of the transaction. -/
def execute {α : Type} (X : Externals) (statement : Except SqliteError α) : CoreResult α :=
  statement.mapError (storageDbError uuid X)

variable (store : Store)

/-! ### Queries -/

/-- `provider_profiles JOIN provider_connections … archived_at IS NULL`: the profile under an
    identifier, if its connection is active. -/
def Store.activeProfile (id : String) : Option ProviderProfile :=
  (store.providerProfiles.find? id).filter fun _ => (store.activeConnection id).isSome

/-- `provider_models JOIN provider_connections … archived_at IS NULL`. -/
def Store.activeRoute (id : String) : Option ModelRoute :=
  (store.providerModels.find? id).filter fun route =>
    (store.activeConnection route.connectionId).isSome

/-- `ORDER BY first_seen_at, id LIMIT 1`. -/
def earliest : List ModelRoute → Option ModelRoute
  | [] => none
  | route :: routes =>
    match earliest routes with
    | none => some route
    | some other =>
      if other.firstSeenAt < route.firstSeenAt ∨
          other.firstSeenAt = route.firstSeenAt ∧ other.id < route.id then
        some other
      else some route

/-- The earliest route with an identity. -/
def Store.exactRoute (identity : RouteIdentity) : Option ModelRoute :=
  earliest (store.providerModels.rows.filter fun route => route.identity == identity)

/-- The identity of the route a legacy profile names. -/
def ProviderProfile.routeIdentity (profile : ProviderProfile) : RouteIdentity where
  connectionId := profile.id
  apiFamily := .openAiChatCompletions
  modelId := profile.model
  routeConfig := .default

/-- `legacy_profile_current_route_id_for_schema`, with an active connection required. -/
def legacyProfileCurrentRouteId (profileId : String) : CoreResult String :=
  okOr (((store.activeProfile profileId).bind fun profile =>
      store.exactRoute profile.routeIdentity).map ModelRoute.id)
    (storageCorrupted uuid "legacy provider profile has no route for its current model")

/-! ### Writing the settings -/

variable (settings : AppSettings)

/-- The first half of `normalize_settings_for_schema`: a selected profile determines the route
    and the preset. -/
def selectCurrentRoute : CoreResult AppSettings :=
  match settings.selectedProviderProfileId with
  | none => return settings
  | some profileId => do
    require (store.activeProfile profileId).isSome (notFound uuid "provider profile")
    let current ← legacyProfileCurrentRouteId uuid store profileId
    require (settings.selectedModelRouteId.all (· == current)) (invalid uuid
      "legacy provider and model route selections must identify the same migrated provider")
    require (settings.selectedGenerationPresetId.all (· == current)) (invalid uuid
      "legacy provider and generation preset selections must identify the same migrated provider")
    return { settings with
      selectedModelRouteId := some current
      selectedGenerationPresetId := some current }

variable (routeId : String)

/-- The profile a route and a preset of one identifier stand for. -/
def legacyProfileOf (presetId : String) : Option String :=
  if routeId == presetId && (store.activeProfile routeId).isSome then some routeId else none

/-- The second half of `normalize_settings_for_schema`: the route is active, the preset is one
    of its presets, and the legacy profile of both is selected with them. -/
def checkRouteAndPreset : CoreResult AppSettings :=
  match settings.selectedModelRouteId, settings.selectedGenerationPresetId with
  | none, none => return settings
  | some routeId, some presetId => do
    require (store.activeRoute routeId).isSome (notFound uuid "model route")
    let presetRouteId ← okOr (store.presetRoute presetId) (notFound uuid "generation preset")
    require (presetRouteId = routeId) (invalid uuid
      "selected generation preset does not belong to the selected model route")
    return { settings with
      selectedProviderProfileId := settings.selectedProviderProfileId.or
        (legacyProfileOf store routeId presetId) }
  | _, _ => throw (invalid uuid
      "model route and generation preset selections must be set or cleared together")

/-- `normalize_settings_for_write`. -/
def normalizeSettingsForWrite : CoreResult AppSettings := do
  let normalized ← selectCurrentRoute uuid store settings
  checkRouteAndPreset uuid store normalized

def loadSettings : AppSettings := store.appSettings.getD .default

def saveSettings : CoreResult Store := do
  let normalized ← normalizeSettingsForWrite uuid store settings
  return { store with appSettings := some normalized }

/-! ### Updating the stored settings -/

/-- `update_stored_settings`: nothing happens in a store without settings. -/
def updateStoredSettings (update : AppSettings → CoreResult AppSettings) :
    CoreResult Store :=
  match store.appSettings with
  | none => return store
  | some settings => do
    let updated ← update settings
    return { store with appSettings := some updated }

def AppSettings.clearSelection : AppSettings :=
  { settings with
    selectedProviderProfileId := none
    selectedModelRouteId := none
    selectedGenerationPresetId := none }

variable (connectionId : String)

/-- The selection without a connection: its profile and its routes are deselected. -/
def clearForConnection (settings : AppSettings) : AppSettings :=
  let selectedRouteBelongs := settings.selectedModelRouteId.any fun routeId =>
    (store.providerModels.find? routeId).any fun route => route.connectionId == connectionId
  if settings.selectedProviderProfileId == some connectionId || selectedRouteBelongs then
    settings.clearSelection
  else settings

/-- `clear_provider_selections_for_connection`. -/
def clearProviderSelectionsForConnection : CoreResult Store :=
  updateStoredSettings store fun settings => return clearForConnection store connectionId settings

/-- The clearing of a route and a preset, with the profile only if it is the given one. -/
def AppSettings.clearRouteAndPreset (profileId : String) : AppSettings :=
  { settings with
    selectedProviderProfileId :=
      if settings.selectedProviderProfileId == some profileId then none
      else settings.selectedProviderProfileId
    selectedModelRouteId := none
    selectedGenerationPresetId := none }

def clearForRoute (connectionId : String) (settings : AppSettings) : AppSettings :=
  if settings.selectedModelRouteId == some routeId then settings.clearRouteAndPreset connectionId
  else settings

/-- `clear_provider_selections_for_route`. -/
def clearProviderSelectionsForRoute (connectionId : String) : CoreResult Store :=
  updateStoredSettings store fun settings => return clearForRoute routeId connectionId settings

/-- The profile is compared with the route, not with its connection. -/
def clearForPreset (presetId routeId : String) (settings : AppSettings) : AppSettings :=
  if settings.selectedGenerationPresetId == some presetId then settings.clearRouteAndPreset routeId
  else settings

/-- `clear_provider_selections_for_preset`. -/
def clearProviderSelectionsForPreset (presetId routeId : String) : CoreResult Store :=
  updateStoredSettings store fun settings => return clearForPreset presetId routeId settings

/-! ### The rollback of a discovery -/

inductive DiscoveryPreviousSelection
  | none
  | routeAndPreset (modelRouteId generationPresetId : String)

def AppSettings.selectionIsClear : Bool :=
  settings.selectedProviderProfileId.isNone && settings.selectedModelRouteId.isNone &&
    settings.selectedGenerationPresetId.isNone

/-- The settings after the restoration of a route and a preset: a selection that is not clear,
    be it the restored one already or a newer one, stays. -/
def restoreRouteAndPreset (modelRouteId generationPresetId : String) (settings : AppSettings) :
    CoreResult AppSettings := do
  require (store.hasRoute modelRouteId) (invalid uuid
    "previous discovery model route no longer exists")
  require (store.presetRoute generationPresetId = some modelRouteId) (invalid uuid
    "previous discovery generation preset no longer matches its route")
  let legacyProfileId :=
    if modelRouteId == generationPresetId && store.hasProfile modelRouteId then
      some modelRouteId
    else none
  return if settings.selectionIsClear then
    { settings with
      selectedProviderProfileId := legacyProfileId
      selectedModelRouteId := some modelRouteId
      selectedGenerationPresetId := some generationPresetId }
  else settings

def restoreDiscoveryProviderSelection (previous : DiscoveryPreviousSelection) :
    CoreResult Store :=
  match previous with
  | .none => updateStoredSettings store fun settings => return settings
  | .routeAndPreset modelRouteId generationPresetId => do
    require store.appSettings.isSome (invalid uuid
      "previous discovery selection cannot be restored because settings are missing")
    updateStoredSettings store (restoreRouteAndPreset uuid store modelRouteId generationPresetId)

end LorePia.ProviderStore
