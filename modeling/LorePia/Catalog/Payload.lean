import LorePia.Catalog.Merge
import LorePia.Catalog.Tables

namespace LorePia.Catalog

open Lib

/-!
# Signed payloads, the compiled baseline and snapshots

A signed payload is accepted when its structure, its time window and its revision are; it then
is a layer above the baseline that is compiled in.  A snapshot is what a merge keeps, and it is
validated across its entries.

Opening an envelope (its size, its base64, its signature over the canonical JSON) and hashing an
entry are parameters; so are the compiled templates.
-/

/-! ### Payloads -/

structure CatalogPayload where
  schemaVersion : Nat
  catalogId : String
  revision : Nat
  issuedAt : Int
  effectiveAt : Int
  expiresAt : Int
  manifests : List CatalogManifestEntry
  models : List CatalogModelEntry
deriving DecidableEq

structure VerifiedCatalogUpdate where
  signingKeyId : String
  payloadSha256 : String
  payload : CatalogPayload
  nextRevisionGuard : StoredCatalogRevisionGuard
deriving DecidableEq

/-- What an envelope holds once its signature is verified. -/
structure OpenedEnvelope where
  signingKeyId : String
  payloadSha256 : String
  payload : CatalogPayload

/-- The provider crate's catalog engine: its validators, the opening of an envelope, the hashes
    of the baseline and the compiled templates. -/
structure CatalogEngine where
  validators : CatalogValidators
  /-- `verify_catalog_import_with_trust` up to the canonical payload. -/
  openEnvelope : Bytes → Except CatalogErrorKind OpenedEnvelope
  manifestHash : CatalogManifestEntry → String
  modelHash : CatalogModelEntry → String
  /-- `AdapterRegistry::built_in_templates`. -/
  builtInTemplates : List (ProviderTemplate × List ParameterSpec)

variable (E : CatalogEngine)

def catalogSchemaVersion : Nat := 1

def catalogId : String := "lorepia-provider-model-catalog"

def maxCapabilities : Nat := 128

def maxParameters : Nat := 128

/-- `Duration::days(MAX_CATALOG_VALIDITY_DAYS)`. -/
def maxCatalogValidity : Int := 400 * 24 * 60 * 60 * 1000000000

def validatePayloadTimeOrder (payload : CatalogPayload) : Except CatalogErrorKind Unit :=
  require (payload.issuedAt ≤ payload.effectiveAt ∧ payload.effectiveAt < payload.expiresAt ∧
    payload.expiresAt - payload.issuedAt ≤ maxCatalogValidity) .invalidTimeWindow

def validateManifestEntry (entry : CatalogManifestEntry) (payload : CatalogPayload) :
    Except CatalogErrorKind Unit := do
  require (entry.template.isSound ∧ entry.template.source = .signedCatalog ∧
    entry.verifiedAt ≤ payload.issuedAt + clockSkew ∧
    (∀ expiry ∈ entry.expiresAt, entry.verifiedAt < expiry) ∧
    outlives entry.expiresAt (some payload.expiresAt) = false) .invalidManifest
  require (E.validators.connectionFields entry.template.connectionFields) .invalidManifest
  require (E.validators.manifest entry.template.defaultManifest) .invalidManifest
  validateSourcesAt E.validators entry.sources payload.issuedAt

def validateModelEntry (entry : CatalogModelEntry) (payload : CatalogPayload) :
    Except CatalogErrorKind Unit := do
  require (isCatalogIdentifier entry.id maxModelEntryIdBytes ∧
    isCatalogIdentifier entry.providerTemplateId maxModelEntryIdBytes ∧
    entry.metadataVersion ≠ 0 ∧ entry.capabilities.length ≤ maxCapabilities ∧
    entry.parameters.length ≤ maxParameters ∧
    entry.verifiedAt ≤ payload.issuedAt + clockSkew ∧
    (∀ expiry ∈ entry.expiresAt, entry.verifiedAt < expiry) ∧
    outlives entry.expiresAt (some payload.expiresAt) = false) .invalidModelEntry
  validateModelMatch entry.modelMatch
  validateCapabilities entry.capabilities
  validateModelParameters E.validators entry.apiFamily entry.parameters
  validateSourcesAt E.validators entry.sources payload.issuedAt

/-- `validate_payload_structure` of a signed payload. -/
def validatePayloadStructure (payload : CatalogPayload) : Except CatalogErrorKind Unit := do
  require (payload.schemaVersion = catalogSchemaVersion) .unsupportedSchema
  require (payload.catalogId = catalogId) .invalidCatalogId
  require (payload.revision ≠ 0) .invalidRevision
  require (payload.manifests ≠ [] ∨ payload.models ≠ []) .emptyCatalog
  require (payload.manifests.length ≤ maxCatalogManifests ∧
    payload.models.length ≤ maxCatalogModels) .tooManyEntries
  validatePayloadTimeOrder payload
  forEachUnique (fun entry => (entry.template.id, entry.template.manifestVersion)) .duplicateEntry
    (fun entry => validateManifestEntry E entry payload) [] payload.manifests
  forEachUnique CatalogModelEntry.id .duplicateEntry
    (fun entry => validateModelEntry E entry payload) [] payload.models

def validateSignedTimeWindow (payload : CatalogPayload) (now : Int) :
    Except CatalogErrorKind Unit := do
  require (payload.issuedAt ≤ now + clockSkew) .invalidTimeWindow
  require (payload.effectiveAt ≤ now) .notYetEffective
  require (now < payload.expiresAt) .expired

def validateRevision (payload : CatalogPayload) (guard : StoredCatalogRevisionGuard) :
    Except CatalogErrorKind Unit :=
  require (guard.highestAcceptedRevision < payload.revision ∧
    ∀ issuedAt ∈ guard.latestIssuedAt, issuedAt ≤ payload.issuedAt) .revisionRollback

def verifyManualCatalogImport (envelope : Bytes) (guard : StoredCatalogRevisionGuard)
    (now : Int) : Except CatalogErrorKind VerifiedCatalogUpdate := do
  let opened ← E.openEnvelope envelope
  validatePayloadStructure E opened.payload
  validateSignedTimeWindow opened.payload now
  validateRevision opened.payload guard
  return {
    signingKeyId := opened.signingKeyId
    payloadSha256 := opened.payloadSha256
    payload := opened.payload
    nextRevisionGuard := {
      highestAcceptedRevision := opened.payload.revision
      latestIssuedAt := some opened.payload.issuedAt } }

/-- `CatalogLayer::from_verified_update`. -/
def VerifiedCatalogUpdate.layer (update : VerifiedCatalogUpdate) : CatalogLayer where
  id := "signed:" ++ update.signingKeyId ++ ":" ++ toString update.payload.revision
  authority := .signedCatalog
  revision := update.payload.revision
  effectiveAt := update.payload.effectiveAt
  expiresAt := some update.payload.expiresAt
  manifests := update.payload.manifests
  models := update.payload.models

/-! ### The compiled baseline -/

/-- `2026-07-31T00:00:00Z`. -/
def bundledCatalogVerifiedAt : Int := 1785456000 * 1000000000

def bundledCatalogRevision : Nat := 1

/-- `BuiltInTemplateId::ALL.len()`. -/
def builtInTemplateCount : Nat := 6

def genericUnknownCapabilities : List CatalogCapability :=
  [CatalogCapabilityKey.streaming, .reasoning, .structuredOutput, .toolCalling, .promptCaching,
    .contextTokens, .maxOutputTokens].map fun key => ⟨key, .unknown⟩

def bundledSource (templateId recordKind contentSha256 : String) : CatalogSource where
  url := ⟨"https://catalog.lorepia.invalid/bundled/" ++ templateId ++ "/" ++ recordKind⟩
  contentSha256 := contentSha256
  verifiedAt := bundledCatalogVerifiedAt

def bundledManifest (template : ProviderTemplate) : CatalogManifestEntry :=
  let entry : CatalogManifestEntry :=
    { template := template
      verifiedAt := bundledCatalogVerifiedAt
      expiresAt := none
      sources := [] }
  { entry with sources := [bundledSource template.id "manifest" (E.manifestHash entry)] }

/-- The family fallback of a template, with the parameters of its manifest. -/
def bundledModel (template : ProviderTemplate) (parameters : List ParameterSpec) :
    CatalogModelEntry :=
  let entry : CatalogModelEntry :=
    { id := "builtin:" ++ template.id ++ ":family-default"
      providerTemplateId := template.id
      modelMatch := .anyModel
      apiFamily := template.apiFamily
      metadataVersion := template.manifestVersion
      capabilities := genericUnknownCapabilities
      parameters := parameters
      lifecycle := .unknown
      sources := []
      verifiedAt := bundledCatalogVerifiedAt
      expiresAt := none }
  { entry with sources := [bundledSource template.id "model-family-default" (E.modelHash entry)] }

def bundledLayer : CatalogLayer where
  id := "bundled:compiled:1"
  authority := .bundled
  revision := bundledCatalogRevision
  effectiveAt := bundledCatalogVerifiedAt
  expiresAt := none
  manifests := E.builtInTemplates.map fun (template, _) => bundledManifest E template
  models := E.builtInTemplates.map fun (template, parameters) => bundledModel E template parameters

def bundledCatalogBaseline : Except CatalogErrorKind CatalogLayer := do
  require (E.builtInTemplates.length = builtInTemplateCount) .invalidLayer
  validateLayers E.validators [bundledLayer E]
  return bundledLayer E

/-- `merge_with_bundled_catalog` without runtime layers, under the default policy. -/
def mergeWithBundledCatalog (updates : List VerifiedCatalogUpdate) (now : Int) :
    Except CatalogErrorKind MergedCatalog := do
  let bundled ← bundledCatalogBaseline E
  mergeCatalogLayers now .default E.validators (bundled :: updates.map VerifiedCatalogUpdate.layer)

/-! ### Snapshots -/

def catalogHistorySchemaVersion : Nat := 1

structure CatalogRevisionSnapshot where
  snapshotSchemaVersion : Nat
  revision : Nat
  capturedAt : Int
  manifests : List CatalogManifestEntry
  models : List CatalogModelEntry
deriving DecidableEq

variable (V : CatalogValidators)

/-- What a snapshot demands of a manifest, its identifier apart. -/
def validateSnapshotManifest (capturedAt : Int) (entry : CatalogManifestEntry) :
    Except CatalogErrorKind Unit := do
  require (entry.template.isSound ∧ entry.verifiedAt ≤ capturedAt + clockSkew ∧
    ∀ expiry ∈ entry.expiresAt, entry.verifiedAt < expiry) .historyConflict
  require (V.connectionFields entry.template.connectionFields) .historyConflict
  require (V.manifest entry.template.defaultManifest) .historyConflict
  (validateSourcesAt V entry.sources entry.verifiedAt).mapError fun _ => .historyConflict

/-- What a snapshot with manifests `manifestIds` demands of a model, its identifier apart. -/
def validateSnapshotModel (capturedAt : Int) (manifestIds : List String)
    (entry : CatalogModelEntry) : Except CatalogErrorKind Unit := do
  require (isCatalogIdentifier entry.id maxModelEntryIdBytes ∧
    entry.providerTemplateId ∈ manifestIds ∧ entry.metadataVersion ≠ 0 ∧
    entry.verifiedAt ≤ capturedAt + clockSkew ∧
    ∀ expiry ∈ entry.expiresAt, entry.verifiedAt < expiry) .historyConflict
  (validateModelMatch entry.modelMatch).mapError fun _ => .historyConflict
  (validateCapabilities entry.capabilities).mapError fun _ => .historyConflict
  (validateModelParameters V entry.apiFamily entry.parameters).mapError fun _ => .historyConflict
  (validateSourcesAt V entry.sources entry.verifiedAt).mapError fun _ => .historyConflict

/-- `validate_snapshot` of the catalog history. -/
def validateRevisionSnapshot (snapshot : CatalogRevisionSnapshot) : Except CatalogErrorKind Unit := do
  require (snapshot.snapshotSchemaVersion = catalogHistorySchemaVersion ∧ snapshot.revision ≠ 0 ∧
    snapshot.manifests.length ≤ maxCatalogManifests ∧
    snapshot.models.length ≤ maxCatalogModels) .historyConflict
  forEachUnique (fun entry => entry.template.id) .historyConflict
    (validateSnapshotManifest V snapshot.capturedAt) [] snapshot.manifests
  forEachUnique CatalogModelEntry.id .historyConflict (validateSnapshotModel V snapshot.capturedAt
      (snapshot.manifests.map fun entry => entry.template.id)) [] snapshot.models

/-- `CatalogRevisionSnapshot::from_merged`. -/
def CatalogRevisionSnapshot.fromMerged (revision : Nat) (capturedAt : Int)
    (catalog : MergedCatalog) : Except CatalogErrorKind CatalogRevisionSnapshot := do
  require (revision ≠ 0) .invalidRevision
  let snapshot : CatalogRevisionSnapshot :=
    { snapshotSchemaVersion := catalogHistorySchemaVersion
      revision := revision
      capturedAt := capturedAt
      manifests := catalog.manifests.map MergedCatalogManifest.entry
      models := catalog.models.map MergedCatalogModel.entry }
  validateRevisionSnapshot V snapshot
  return snapshot

end LorePia.Catalog
