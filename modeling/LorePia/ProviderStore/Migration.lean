import LorePia.ProviderStore.Validation
import Mathlib.Data.String.Basic

namespace LorePia.ProviderStore

open Lib
open DiscoveryStore (SqliteError)

/-!
# The provider store — migration 4

The upgrade that made a connection, a route and a preset of every legacy profile.  It runs in one
transaction when an older database is opened, and the database stays closed if it fails.  The
tables of observations and discoveries, which it only finds empty, are left out.
-/

variable (U : UrlCrate) (X : Externals) (uuid : String)

/-! ### Presets -/

/-- The values of the preset of a profile. -/
def legacyPresetValues : List ParameterValue :=
  [⟨temperatureParameterId, .explicit (.number (.finite 1))⟩,
    ⟨maxOutputTokensParameterId, .explicit (.integer 4096)⟩]

def validatePresetValue (specifications : List ParameterSpec) (value : ParameterValue)
    (seen : List String) : CoreResult Unit := do
  require (value.parameterId ∉ seen) (invalid uuid
    "generation preset parameter identifiers must be unique")
  let specification ← okOr (specifications.find? fun specification =>
      specification.id == value.parameterId)
    (invalid uuid ("generation preset references unknown parameter " ++ value.parameterId))
  validateParameterValue uuid specification value.state

/-- `validate_generation_preset_for_schema`; `values` are those that the preset encodes. -/
def validateGenerationPresetForSchema (templates : Templates) (store : Store)
    (preset : GenerationPreset) (values : List ParameterValue) (requireActiveConnection : Bool) :
    CoreResult Unit := do
  validateNonempty uuid "generation preset id" preset.id
  validateNonempty uuid "generation preset display name" preset.displayName
  let template ← okOr ((store.providerModels.find? preset.modelRouteId).bind fun route =>
      connectionTemplate templates store requireActiveConnection route.connectionId)
    (notFound uuid "model route")
  validateEach ParameterValue.parameterId
    (validatePresetValue uuid template.defaultManifest.parameters) [] values

/-! ### Rows of schema 4 -/

def insertProviderConnectionDuringV4Migration (templates : Templates)
    (connection : ProviderConnection) (store : Store) : CoreResult Store := do
  validateProviderConnection U uuid templates store connection
  require (connection.createdAt ≤ connection.updatedAt) (invalid uuid
    "provider connection updated_at must not precede created_at")
  execute uuid X do
    let providerConnections ← okOr (store.providerConnections.insert? ⟨connection, none⟩)
      .uniqueConstraint
    Store.enforce { store with providerConnections }

def insertModelRouteDuringV4Migration (templates : Templates) (route : ModelRoute)
    (store : Store) : CoreResult Store := do
  validateModelRouteForSchema uuid templates store route false
  require (route.lastSeenAt.all fun lastSeenAt => decide (route.firstSeenAt ≤ lastSeenAt))
    (invalid uuid "model route last_seen_at must not precede first_seen_at")
  execute uuid X do
    let providerModels ← okOr (store.providerModels.insert? route) .uniqueConstraint
    Store.enforce { store with providerModels }

def insertGenerationPresetDuringV4Migration (templates : Templates) (preset : GenerationPreset)
    (values : List ParameterValue) (store : Store) : CoreResult Store := do
  validateGenerationPresetForSchema uuid templates store preset values false
  require (preset.createdAt ≤ preset.updatedAt) (invalid uuid
    "generation preset updated_at must not precede created_at")
  execute uuid X do
    let generationPresets ← okOr (store.generationPresets.insert? preset) .uniqueConstraint
    Store.enforce { store with generationPresets }

/-! ### The migration -/

def providerMigrationError (error : CoreError) : CoreError :=
  if error.code = .storageCorrupted then error
  else storageCorrupted uuid ("provider catalog migration rejected legacy data: " ++ error.message)

/-- One turn of the loop over the profiles. -/
def migrateProfile (templates : Templates) (migratedAt : String) (profile : ProviderProfile)
    (store : Store) : CoreResult Store := do
  require (profile.timeoutSeconds ≤ 4294967295) (storageCorrupted uuid
    "legacy provider timeout is outside the supported range")
  let (connection, route, preset) ← (legacyProviderGraph (X.withTemplates U uuid templates) uuid
    profile migratedAt).mapError (providerMigrationError uuid)
  let store ← (insertProviderConnectionDuringV4Migration U X uuid templates connection
    store).mapError (providerMigrationError uuid)
  let store ← (insertModelRouteDuringV4Migration X uuid templates route store).mapError
    (providerMigrationError uuid)
  (insertGenerationPresetDuringV4Migration X uuid templates preset legacyPresetValues
    store).mapError (providerMigrationError uuid)

def migrateProfiles (templates : Templates) (migratedAt : String) :
    List ProviderProfile → Store → CoreResult Store
  | [], store => return store
  | profile :: profiles, store => do
    let store ← migrateProfile U X uuid templates migratedAt profile store
    migrateProfiles templates migratedAt profiles store

variable (store : Store)

/-- `normalize_settings_during_v4_migration`: its queries take archived connections too, but no
    connection is archived yet. -/
def normalizeSettingsDuringV4Migration (settings : AppSettings) :
    CoreResult AppSettings :=
  normalizeSettingsForWrite uuid store settings

def migrateSettings : CoreResult Store :=
  match store.appSettings with
  | none => return store
  | some settings => do
    let normalized ← (normalizeSettingsDuringV4Migration uuid store settings).mapError
      (providerMigrationError uuid)
    return { store with appSettings := some normalized }

def requireEmptyTable (table : String) (count : Nat) : CoreResult Unit :=
  require (count = 0) (storageCorrupted uuid
    ("provider catalog migration found pre-existing rows in " ++ table))

def migrateLegacyProviderCatalog (migratedAt : String) (templates : Templates) (store : Store) :
    CoreResult (Templates × Store) := do
  requireEmptyTable uuid "provider_templates" templates.rows.length
  requireEmptyTable uuid "provider_connections" store.providerConnections.rows.length
  requireEmptyTable uuid "provider_models" store.providerModels.rows.length
  requireEmptyTable uuid "generation_presets" store.generationPresets.rows.length
  let templates ← saveProviderTemplateRow uuid X legacyProviderTemplate templates
  let store ← migrateProfiles U X uuid templates migratedAt
    (sortByKey ProviderProfile.id store.providerProfiles.rows) store
  let store ← migrateSettings uuid store
  return (templates, store)

/-! ### The check after the migration -/

/-- A connection of the legacy template. -/
def ProviderConnection.isLegacy (connection : ProviderConnection) : Bool :=
  connection.templateId == legacyProviderTemplateId &&
    connection.templateVersion == legacyProviderTemplateVersion

def Store.isLegacyConnection (id : String) : Bool :=
  (store.providerConnections.find? id).any fun row => row.connection.isLegacy

/-- The connection, the route and the preset of a profile have its identifier. -/
def Store.keepsIdentifiers (profile : ProviderProfile) : Bool :=
  (store.providerConnections.find? profile.id).isSome &&
    ((store.providerModels.find? profile.id).any fun route => route.connectionId == profile.id) &&
    store.presetRoute profile.id == some profile.id

def validateProviderCatalogMigration : CoreResult Unit := do
  let legacyCount := store.providerProfiles.rows.length
  let connectionCount := store.providerConnections.rows.countP fun row => row.connection.isLegacy
  let routeCount := store.providerModels.rows.countP fun route =>
    store.isLegacyConnection route.connectionId
  let presetCount := store.generationPresets.rows.countP fun preset =>
    (store.providerModels.find? preset.modelRouteId).any fun route =>
      store.isLegacyConnection route.connectionId
  require (connectionCount = legacyCount ∧ routeCount = legacyCount ∧ presetCount = legacyCount)
    (storageCorrupted uuid ("provider catalog migration row-count mismatch: legacy=" ++
      toString legacyCount ++ ", connections=" ++ toString connectionCount ++ ", routes=" ++
      toString routeCount ++ ", presets=" ++ toString presetCount))
  require (store.providerProfiles.rows.all store.keepsIdentifiers) (storageCorrupted uuid
    "provider catalog migration did not preserve legacy stable identifiers")
  validateProviderCatalogForeignKeys uuid store

/-- The step of `apply_migrations` to schema 4. -/
def applyMigrationFour (migratedAt : String) (templates : Templates) (store : Store) :
    CoreResult (Templates × Store) := do
  let (templates, store) ← migrateLegacyProviderCatalog U X uuid migratedAt templates store
  validateProviderCatalogMigration uuid store
  return (templates, store)

/-- The provider tables of a database of schema 3, which has only profiles and settings. -/
def versionThree (providerProfiles : Table String ProviderProfile ProviderProfile.id)
    (appSettings : Option AppSettings) : Store :=
  { Store.empty with providerProfiles, appSettings }

end LorePia.ProviderStore
