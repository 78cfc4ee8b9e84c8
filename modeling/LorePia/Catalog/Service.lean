import LorePia.Catalog.Payload

namespace LorePia.Catalog

open Lib

/-!
# The catalog service of the core

Imports and rollbacks of the signed catalog as the core performs them, and the operational view
of the active catalog.  A plan is prepared and activated on one state of the store, since an
activation checks the state version of its plan; so an import is the two calls on one state, with
the time of each.

A stored digest stands for what it digests, and a stored snapshot for its canonical JSON.
-/

inductive CatalogServiceError
  | request (kind : CatalogErrorKind)
  | internal (kind : CatalogErrorKind)
  | storage (message : String)
  | invalid (message : String)
  | notFound (message : String)

/-! ### The store, as the core reads it -/

/-- An accepted envelope with its metadata columns. -/
structure AcceptedUpdate where
  envelope : Bytes
  verified : VerifiedCatalogUpdate
  acceptedAt : Int

/-- A stored snapshot, the baseline it was built with, and its signed revisions. -/
structure KeptSnapshot where
  snapshot : CatalogRevisionSnapshot
  bundled : CatalogRevisionSnapshot
  signedRevisionChain : List Nat

structure CatalogState where
  guard : StoredCatalogRevisionGuard
  updates : List AcceptedUpdate
  snapshots : List KeptSnapshot
  active : Option Nat

def CatalogState.empty : CatalogState where
  guard := ⟨0, none⟩
  updates := []
  snapshots := []
  active := none

def CatalogState.snapshot? (state : CatalogState) (revision : Nat) : Option KeptSnapshot :=
  state.snapshots.find? fun kept => kept.snapshot.revision == revision

variable (E : CatalogEngine)

/-! ### Loading -/

/-- The accepted updates verified again, each under the guard the one before it left. -/
def verifyAccepted (guard : StoredCatalogRevisionGuard) :
    List AcceptedUpdate → Except CatalogServiceError (List VerifiedCatalogUpdate)
  | [] => return []
  | update :: updates => do
    let verified ← (verifyManualCatalogImport E update.envelope guard update.acceptedAt).mapError
      fun _ => CatalogServiceError.storage "stored catalog signature is invalid"
    require (verified = update.verified)
      (.storage "stored catalog metadata does not match its signed payload")
    let rest ← verifyAccepted verified.nextRevisionGuard updates
    return verified :: rest

def sortedUpdates (state : CatalogState) : List AcceptedUpdate :=
  state.updates.mergeSort fun a b =>
    decide (a.verified.payload.revision ≤ b.verified.payload.revision)

variable (updates : List VerifiedCatalogUpdate)

/-- The guard the accepted updates leave. -/
def lastGuard : StoredCatalogRevisionGuard :=
  (updates.getLast?.map VerifiedCatalogUpdate.nextRevisionGuard).getD ⟨0, none⟩

def loadVerifiedUpdates (state : CatalogState) :
    Except CatalogServiceError (List VerifiedCatalogUpdate) := do
  let verified ← verifyAccepted E ⟨0, none⟩ (sortedUpdates state)
  require (verified.map fun update => update.payload.revision).Nodup
    (.storage "stored catalog revision is duplicated")
  require (lastGuard verified = state.guard)
    (.storage "stored catalog revision guard does not match accepted updates")
  return verified

def selectVerifiedUpdates (accepted : List VerifiedCatalogUpdate) (revisions : List Nat) :
    Except CatalogServiceError (List VerifiedCatalogUpdate) :=
  revisions.mapM fun revision =>
    okOr (accepted.find? fun update => update.payload.revision == revision)
      (.storage "catalog snapshot references an unknown signed update")

def bundledBaselineSnapshot : Except CatalogErrorKind CatalogRevisionSnapshot := do
  let merged ← mergeWithBundledCatalog E [] bundledCatalogVerifiedAt
  CatalogRevisionSnapshot.fromMerged E.validators 1 bundledCatalogVerifiedAt merged

variable (stored : KeptSnapshot)

def validateStoredSnapshot : Except CatalogServiceError Unit :=
  (validateRevisionSnapshot E.validators stored.snapshot).mapError fun _ =>
    .storage "stored catalog snapshot is invalid"

def ensureCurrentBaseline : Except CatalogServiceError Unit := do
  let baseline ← (bundledBaselineSnapshot E).mapError CatalogServiceError.internal
  require (stored.bundled = baseline)
    (.storage "stored catalog was built with a different bundled baseline")

/-- The active snapshot, or the compiled baseline where nothing was activated yet. -/
def loadActiveCatalog (state : CatalogState) : Except CatalogServiceError KeptSnapshot :=
  match state.active with
  | some revision => do
    let stored ← okOr (state.snapshot? revision) (.storage "active catalog snapshot is missing")
    validateStoredSnapshot E stored
    ensureCurrentBaseline E stored
    return stored
  | none => do
    require (state.snapshots = [] ∧ state.updates = [] ∧ state.guard = ⟨0, none⟩)
      (.storage "uninitialized catalog state contains durable history")
    let snapshot ← (bundledBaselineSnapshot E).mapError CatalogServiceError.internal
    return { snapshot := snapshot, bundled := snapshot, signedRevisionChain := [] }

def loadCatalogRevision (state : CatalogState) (revision : Nat) :
    Except CatalogServiceError KeptSnapshot :=
  if state.active = none ∧ revision = 1 then loadActiveCatalog E state
  else do
    let stored ← okOr (state.snapshot? revision) (.notFound "catalog revision was not found")
    validateStoredSnapshot E stored
    ensureCurrentBaseline E stored
    return stored

/-- The catalog of a chain at a moment, as a snapshot with the revision and time of capture of
    `of`. -/
def viewAt (now : Int) (updates : List VerifiedCatalogUpdate) (revision : Nat) (capturedAt : Int)
    (rejectSnapshot : CatalogErrorKind → CatalogServiceError) :
    Except CatalogServiceError (MergedCatalog × CatalogRevisionSnapshot) := do
  let merged ← (mergeWithBundledCatalog E updates now).mapError CatalogServiceError.request
  let snapshot ← (CatalogRevisionSnapshot.fromMerged E.validators revision capturedAt
    merged).mapError rejectSnapshot
  return (merged, snapshot)

/-! ### The operational view -/

structure OperationalCatalogProjection where
  snapshot : CatalogRevisionSnapshot
  merged : MergedCatalog
  signedLayerExpirations : SortedMap String Int

def signedLayerExpirations : SortedMap String Int :=
  updates.foldl (fun m update => m.insert update.layer.id update.payload.expiresAt) .empty

def operationalProviderCatalogProjectionAt (now : Int) (state : CatalogState) :
    Except CatalogServiceError OperationalCatalogProjection := do
  let accepted ← loadVerifiedUpdates E state
  let active ← loadActiveCatalog E state
  let updates ← selectVerifiedUpdates accepted active.signedRevisionChain
  let (merged, snapshot) ← viewAt E now updates active.snapshot.revision active.snapshot.capturedAt
    CatalogServiceError.internal
  return { snapshot, merged, signedLayerExpirations := signedLayerExpirations updates }

/-! ### Import -/

/-- Register templates, in the order of their first use. -/
def registerTemplates (existing : List ProviderTemplate) (message : String) :
    List ProviderTemplate → Except CatalogServiceError (List ProviderTemplate)
  | [] => return existing
  | template :: templates => do
    require (existing.all fun previous =>
      !(previous.id == template.id && previous.manifestVersion == template.manifestVersion) ||
        previous == template) (.invalid message)
    registerTemplates (template :: existing) message templates

/-- `ensure_catalog_template_versions_are_immutable`, over the stored templates, the snapshots of
    the history from the newest one, and the new snapshot. -/
def ensureTemplateVersionsAreImmutable (stored : List ProviderTemplate) (state : CatalogState)
    (snapshot : CatalogRevisionSnapshot) : Except CatalogServiceError Unit := do
  let existing ← registerTemplates stored
    ("provider catalog history reuses an immutable template version with different content")
    (state.snapshots.reverse.flatMap fun kept =>
      kept.snapshot.manifests.map CatalogManifestEntry.template)
  let _ ← registerTemplates existing
    ("signed catalog reuses an immutable provider template version with different content")
    (snapshot.manifests.map CatalogManifestEntry.template)
  return ()

def nextLocalRevision (state : CatalogState) : Except CatalogServiceError Nat := do
  let maximum := if state.snapshots = [] then 1
    else (state.snapshots.map fun kept => kept.snapshot.revision).foldr max 0
  require (maximum < u64Max) (.invalid "catalog revision history is full")
  return maximum + 1

structure CatalogImportCandidate where
  verified : VerifiedCatalogUpdate
  active : KeptSnapshot
  snapshot : CatalogRevisionSnapshot

/-- `stored` are the provider templates in the store at the moment of the call. -/
def buildCatalogImportCandidate (state : CatalogState) (stored : List ProviderTemplate)
    (envelope : Bytes) (validationTime snapshotCapturedAt : Int) :
    Except CatalogServiceError CatalogImportCandidate := do
  let accepted ← loadVerifiedUpdates E state
  let verified ← (verifyManualCatalogImport E envelope state.guard validationTime).mapError
    CatalogServiceError.request
  let active ← loadActiveCatalog E state
  let updates ← selectVerifiedUpdates accepted active.signedRevisionChain
  let revision ← nextLocalRevision state
  let (_, snapshot) ← viewAt E validationTime (updates ++ [verified]) revision snapshotCapturedAt
    CatalogServiceError.request
  ensureTemplateVersionsAreImmutable stored state snapshot
  return { verified, active, snapshot }

/-- `Duration::minutes(CATALOG_IMPORT_PLAN_LIFETIME_MINUTES)`. -/
def importPlanLifetime : Int := 15 * 60 * 1000000000

/-- The state a commit leaves. -/
def CatalogState.withImport (state : CatalogState) (candidate : CatalogImportCandidate)
    (envelope : Bytes) (activatedAt : Int) : CatalogState where
  guard := candidate.verified.nextRevisionGuard
  updates := state.updates ++ [⟨envelope, candidate.verified, activatedAt⟩]
  snapshots := state.snapshots ++ (if state.active = none then [candidate.active] else []) ++
    [{ snapshot := candidate.snapshot
       bundled := candidate.active.bundled
       signedRevisionChain :=
        candidate.active.signedRevisionChain ++ [candidate.verified.payload.revision] }]
  active := some candidate.snapshot.revision

/-- An import that is prepared and then activated, with what the templates of the store were at
    either moment. -/
structure CatalogImport where
  envelope : Bytes
  preparedAt : Int
  templatesThen : List ProviderTemplate
  activatedAt : Int
  templatesNow : List ProviderTemplate

/-- `prepare_signed_provider_catalog_import`, then
    `activate_signed_provider_catalog_import`. -/
def activateImport (state : CatalogState) (call : CatalogImport) :
    Except CatalogServiceError CatalogState := do
  let review ← buildCatalogImportCandidate E state call.templatesThen call.envelope call.preparedAt
    call.preparedAt
  require (call.activatedAt < min (call.preparedAt + importPlanLifetime)
    review.verified.payload.expiresAt) (.invalid "catalog import plan has expired")
  require (call.preparedAt ≤ call.activatedAt) (.invalid "catalog import plan was changed")
  let candidate ← buildCatalogImportCandidate E state call.templatesNow call.envelope
    call.activatedAt call.preparedAt
  require (candidate.verified = review.verified ∧ candidate.snapshot = review.snapshot)
    (.invalid "catalog import plan no longer matches the active catalog")
  return state.withImport candidate call.envelope call.activatedAt

/-! ### Rollback -/

/-- `Duration::minutes(ROLLBACK_PLAN_LIFETIME_MINUTES)`. -/
def rollbackPlanLifetime : Int := 15 * 60 * 1000000000

def ensureSnapshotOperational (target : KeptSnapshot) (accepted : List VerifiedCatalogUpdate)
    (now : Int) : Except CatalogServiceError Unit := do
  let updates ← selectVerifiedUpdates accepted target.signedRevisionChain
  let (_, view) ← viewAt E now updates target.snapshot.revision target.snapshot.capturedAt
    CatalogServiceError.request
  require (view = target.snapshot)
    (.invalid "catalog rollback target contains metadata that is now expired")

/-- What both calls of a rollback load and check. -/
def reviewRollback (state : CatalogState) (targetRevision : Nat) (now : Int) :
    Except CatalogServiceError KeptSnapshot := do
  let accepted ← loadVerifiedUpdates E state
  let active ← loadActiveCatalog E state
  let target ← loadCatalogRevision E state targetRevision
  ensureSnapshotOperational E target accepted now
  require (active.snapshot.revision ≠ target.snapshot.revision) (.request .historyConflict)
  return target

/-- A rollback that is prepared and then activated. -/
structure CatalogRollback where
  targetRevision : Nat
  preparedAt : Int
  activatedAt : Int

/-- `prepare_provider_catalog_rollback`, then `activate_provider_catalog_rollback`. -/
def activateRollback (state : CatalogState) (call : CatalogRollback) :
    Except CatalogServiceError CatalogState := do
  let _ ← reviewRollback E state call.targetRevision call.preparedAt
  let target ← reviewRollback E state call.targetRevision call.activatedAt
  require (call.activatedAt < call.preparedAt + rollbackPlanLifetime ∧
    call.preparedAt ≤ call.activatedAt + clockSkew) (.invalid "catalog rollback plan is stale")
  return { state with active := some target.snapshot.revision }

/-! ### Runs -/

inductive CatalogCommand
  | «import» (call : CatalogImport)
  | rollback (call : CatalogRollback)

def CatalogCommand.preparedAt : CatalogCommand → Int
  | .import call => call.preparedAt
  | .rollback call => call.preparedAt

def CatalogCommand.activatedAt : CatalogCommand → Int
  | .import call => call.activatedAt
  | .rollback call => call.activatedAt

def CatalogCommand.perform (state : CatalogState) : CatalogCommand →
    Except CatalogServiceError CatalogState
  | .import call => activateImport E state call
  | .rollback call => activateRollback E state call

/-- The states reached from the empty one by accepted commands, the last one first. -/
inductive Reached : List CatalogCommand → CatalogState → Prop
  | empty : Reached [] .empty
  | step {commands : List CatalogCommand} {state state' : CatalogState} (command : CatalogCommand) :
      Reached commands state → command.perform E state = .ok state' →
        Reached (command :: commands) state'

/-- No clock of the commands is before the compiled baseline, and none goes back between
    activations. -/
def SteadyClock : List CatalogCommand → Prop
  | [] => True
  | command :: commands =>
    bundledCatalogVerifiedAt ≤ command.preparedAt ∧ bundledCatalogVerifiedAt ≤ command.activatedAt ∧
      (∀ before ∈ commands.head?, before.activatedAt ≤ command.activatedAt) ∧
      SteadyClock commands

end LorePia.Catalog
