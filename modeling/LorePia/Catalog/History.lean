import LorePia.Catalog.Tables

namespace LorePia.Catalog

open Lib
open Discovery (isSha256)
open DiscoveryStore (SqliteError)

/-!
# The catalog history — loading, importing, rolling back

The two transactions on the history and what they load and check.  A caller names the state it
has seen (`CatalogStateExpectation`); a transaction compares it with the stored one and again
in the update of the pointer.
-/

/-! ### Requests and results -/

structure CatalogStateExpectation where
  stateVersion : Nat
  active : Option StoredCatalogActiveSnapshot
  guard : StoredCatalogRevisionGuard

structure StoredCatalogState where
  stateVersion : Nat
  active : Option StoredCatalogActiveSnapshot
  guard : StoredCatalogRevisionGuard
  updatedAt : Int
  snapshotCount : Nat
  updateCount : Nat
  activationCount : Nat

/-- The columns of a new envelope. -/
abbrev NewSignedCatalogUpdate := SignedUpdateRow

structure NewCatalogSnapshot where
  localRevision : Nat
  snapshotSchemaVersion : Nat
  snapshotJson : String
  snapshotSha256 : String
  bundledRevision : Nat
  bundledSha256 : String
  signedRevisionChain : List Nat
  capturedAt : Int

structure CatalogImportCommit where
  expected : CatalogStateExpectation
  actionId : String
  update : NewSignedCatalogUpdate
  snapshot : NewCatalogSnapshot
  initialBaseline : Option NewCatalogSnapshot
  nextGuard : StoredCatalogRevisionGuard
  diffJson : String
  activatedAt : Int

structure CatalogRollbackCommit where
  expected : CatalogStateExpectation
  actionId : String
  targetLocalRevision : Nat
  targetSnapshotSha256 : String
  diffJson : String
  rollbackPlanJson : String
  planSha256 : String
  activatedAt : Int

inductive CatalogStorageError
  | database (error : SqliteError)
  | invalidInput (reason : String)
  | corrupted (reason : String)
  | stateConflict
  | notFound (item : String)

def execute {α : Type} (statement : Except SqliteError α) : Except CatalogStorageError α :=
  statement.mapError .database

/-- `to_i64`: a column holds a signed integer. -/
def toI64 (value : Nat) (reason : String) : Except CatalogStorageError Nat := do
  require (value ≤ i64Max) (.invalidInput reason)
  return value

variable (X : CatalogExternals)

/-! ### Checks on requests -/

def parseJsonBytes (bytes : Bytes) (maximum : Nat) (name : String) :
    Except CatalogStorageError Json := do
  require (bytes ≠ [] ∧ bytes.length ≤ maximum) (.invalidInput "catalog JSON size is invalid")
  let value ← okOr (X.parseJson bytes) (.invalidInput name)
  require value.isObject (.invalidInput "catalog JSON must be an object")
  return value

variable (value : Json)

def requireJsonU64 (field : String) (expected : Nat) (reason : String) :
    Except CatalogStorageError Unit :=
  require ((value.get? field).bind Json.asU64? = some expected) (.invalidInput reason)

def requireJsonString (field expected reason : String) :
    Except CatalogStorageError Unit :=
  require ((value.get? field).bind Json.asStr? = some expected) (.invalidInput reason)

def requireNonemptyString (field reason : String) :
    Except CatalogStorageError Unit :=
  require (((value.get? field).bind Json.asStr?).any fun text => text != "") (.invalidInput reason)

def requireArray (field reason : String) : Except CatalogStorageError Unit :=
  require (((value.get? field).bind Json.asArray?).isSome) (.invalidInput reason)

def jsonTime (field reason : String) : Except CatalogStorageError Int :=
  okOr (((value.get? field).bind Json.asStr?).bind X.parseTime) (.invalidInput reason)

def requireJsonTime (field : String) (expected : Int) (reason : String) :
    Except CatalogStorageError Unit := do
  let time ← jsonTime X value field reason
  require (time = expected) (.invalidInput reason)

def validateIdentifier (value : String) (maximum : Nat) : Except CatalogStorageError Unit :=
  require (¬ (value = "" ∨ maximum < byteLen value ∨ trim value ≠ value ∨ hasControl value))
    (.invalidInput "invalid catalog identifier")

def validateActionId (value : String) : Except CatalogStorageError Unit :=
  validateIdentifier value 160

def validateSigningKeyId (value : String) : Except CatalogStorageError Unit :=
  require (value ≠ "" ∧ byteLen value ≤ 64 ∧ (asBytes value).all fun byte =>
    (97 ≤ byte && byte ≤ 122) || (48 ≤ byte && byte ≤ 57) || byte == 45)
    (.invalidInput "invalid signing key ID")

def validateSha (value : String) : Except CatalogStorageError Unit :=
  require (isSha256 value) (.invalidInput "SHA-256 must be lowercase hexadecimal")

def validateEnvelopeMetadata (update : NewSignedCatalogUpdate) :
    Except CatalogStorageError Unit := do
  requireJsonU64 value "envelope_version" update.envelopeVersion
    "envelope version differs from metadata"
  requireJsonString value "signing_key_id" update.signingKeyId "signing key differs from metadata"
  requireNonemptyString value "payload_base64" "signed envelope has no payload"
  requireNonemptyString value "signature_base64" "signed envelope has no signature"

def validatePayloadMetadata (update : NewSignedCatalogUpdate) :
    Except CatalogStorageError Unit := do
  requireJsonU64 value "schema_version" update.catalogSchemaVersion
    "payload schema version differs from metadata"
  requireJsonString value "catalog_id" update.catalogId "payload catalog ID differs from metadata"
  requireJsonU64 value "revision" update.catalogRevision "payload revision differs from metadata"
  requireJsonTime X value "issued_at" update.issuedAt "payload issue time differs from metadata"
  requireJsonTime X value "effective_at" update.effectiveAt
    "payload effective time differs from metadata"
  requireJsonTime X value "expires_at" update.expiresAt "payload expiry time differs from metadata"
  requireArray value "manifests" "payload manifests are missing"
  requireArray value "models" "payload models are missing"

variable (update : NewSignedCatalogUpdate)

def validateSignedUpdate : Except CatalogStorageError Unit := do
  validateIdentifier update.id 160
  validateIdentifier update.catalogId 160
  validateSigningKeyId update.signingKeyId
  require (update.catalogSchemaVersion ≠ 0 ∧ update.catalogRevision ≠ 0 ∧
    update.envelopeVersion ≠ 0)
    (.invalidInput "catalog versions and revision must be positive")
  validateSha update.envelopeSha256
  validateSha update.payloadSha256
  require (X.sha256Hex update.envelope = update.envelopeSha256)
    (.invalidInput "signed envelope hash does not match")
  require (X.sha256Hex (asBytes update.payloadJson) = update.payloadSha256)
    (.invalidInput "catalog payload hash does not match")
  require (¬ (update.effectiveAt < update.issuedAt ∨ update.expiresAt ≤ update.effectiveAt ∨
    update.acceptedAt < update.effectiveAt ∨ update.expiresAt ≤ update.acceptedAt))
    (.invalidInput "catalog payload timestamps are not ordered")
  let envelope ← parseJsonBytes X update.envelope 2097152 "signed envelope"
  validateEnvelopeMetadata envelope update
  let payload ← parseJsonBytes X (asBytes update.payloadJson) 1048576 "catalog payload"
  validatePayloadMetadata X payload update

variable (revisions : List Nat)

/-- Strictly increasing, from `1` on. -/
def isRevisionChain : Bool :=
  revisions.all (0 < ·) && decide (revisions.IsChain (· < ·))

def validateRevisionChain : Except CatalogStorageError Unit :=
  require (isRevisionChain revisions)
    (.invalidInput "signed revision chain must be strictly increasing")

variable (snapshot : NewCatalogSnapshot)

def validateSnapshot (baseline : Bool) :
    Except CatalogStorageError Unit := do
  require (snapshot.localRevision ≠ 0 ∧ snapshot.snapshotSchemaVersion ≠ 0 ∧
    snapshot.bundledRevision ≠ 0) (.invalidInput "snapshot versions must be positive")
  validateSha snapshot.snapshotSha256
  validateSha snapshot.bundledSha256
  require (X.sha256Hex (asBytes snapshot.snapshotJson) = snapshot.snapshotSha256)
    (.invalidInput "snapshot hash does not match")
  validateRevisionChain snapshot.signedRevisionChain
  require (¬ (baseline ∧ (snapshot.signedRevisionChain ≠ [] ∨
    snapshot.localRevision ≠ snapshot.bundledRevision ∨
    snapshot.snapshotSha256 ≠ snapshot.bundledSha256)))
    (.invalidInput "bundled baseline metadata is inconsistent")
  let value ← parseJsonBytes X (asBytes snapshot.snapshotJson) 2097152 "catalog snapshot"
  requireJsonU64 value "snapshot_schema_version" snapshot.snapshotSchemaVersion
    "snapshot schema version differs from metadata"
  requireJsonU64 value "revision" snapshot.localRevision "snapshot revision differs from metadata"
  requireJsonTime X value "captured_at" snapshot.capturedAt
    "snapshot capture time differs from metadata"
  requireArray value "manifests" "snapshot manifests are missing"
  requireArray value "models" "snapshot models are missing"

def validateDiffJson (json : String) (expectedFrom expectedTo : Nat) :
    Except CatalogStorageError Json := do
  let value ← parseJsonBytes X (asBytes json) 2097152 "catalog diff"
  let version ← okOr ((value.get? "diff_schema_version").bind Json.asU64?)
    (.invalidInput "catalog diff version is missing")
  require (version ≠ 0 ∧ (value.get? "from_revision").bind Json.asU64? = some expectedFrom ∧
    (value.get? "to_revision").bind Json.asU64? = some expectedTo)
    (.invalidInput "catalog diff does not match activation")
  requireArray value "manifest_changes" "catalog manifest diff is missing"
  requireArray value "model_changes" "catalog model diff is missing"
  return value

/-! ### Loading -/

def checkedStoredSha (value : String) : Except CatalogStorageError Unit :=
  require (isSha256 value) (.corrupted "invalid stored SHA-256")

variable (store : HistoryStore)

def loadCatalogState : Except CatalogStorageError StoredCatalogState := do
  forSome (fun active => checkedStoredSha active.snapshotSha256) store.state.active
  require (store.state.guard.highestAcceptedRevision = 0 ↔
    store.state.guard.latestIssuedAt.isNone) (.corrupted "partial revision guard")
  return { stateVersion := store.state.stateVersion
           active := store.state.active
           guard := store.state.guard
           updatedAt := store.state.updatedAt
           snapshotCount := store.snapshots.rows.length
           updateCount := store.envelopes.rows.length
           activationCount := store.activations.rows.length }

/-- `StoredSignedCatalogUpdate::try_from`. -/
def storedUpdate (row : SignedUpdateRow) : Except CatalogStorageError SignedUpdateRow := do
  require (X.sha256Hex row.envelope = row.envelopeSha256 ∧
    X.sha256Hex (asBytes row.payloadJson) = row.payloadSha256)
    (.corrupted "stored signed catalog hash mismatch")
  checkedStoredSha row.envelopeSha256
  checkedStoredSha row.payloadSha256
  return row

def loadCatalogUpdateByRevision (catalogRevision : Nat) :
    Except CatalogStorageError (Option SignedUpdateRow) := do
  let catalogRevision ← toI64 catalogRevision "catalog revision is too large"
  match store.envelopes.rows.find? fun row => row.catalogRevision == catalogRevision with
  | none => return none
  | some row => do
    let update ← storedUpdate X row
    return some update

/-- The source of a snapshot agrees with the last link of its chain. -/
def checkSource (links : List ChainLinkRow) : CatalogSnapshotSource →
    Except CatalogStorageError Unit
  | .bundledBaseline => require (links = []) (.corrupted "invalid snapshot source")
  | .signedImport envelopeId catalogRevision => do
    let last ← okOr links.getLast? (.corrupted "signed snapshot has an empty chain")
    require (last.envelopeId = envelopeId ∧ last.catalogRevision = catalogRevision)
      (.corrupted "snapshot source is not its final chain link")

def storedSnapshot (row : SnapshotRow) :
    Except CatalogStorageError SnapshotRow := do
  require (isRevisionChain row.signedRevisionChain) (.corrupted "invalid signed revision chain")
  let links := store.linksOf row.localRevision
  require (row.signedRevisionChain = links.map ChainLinkRow.catalogRevision)
    (.corrupted "snapshot chain representations differ")
  require (links.map ChainLinkRow.ordinal = List.range links.length ∧
    links.all fun link => isSha256 link.payloadSha256) (.corrupted "invalid snapshot chain link")
  checkSource links row.source
  require (X.sha256Hex (asBytes row.snapshotJson) = row.snapshotSha256)
    (.corrupted "stored snapshot hash mismatch")
  checkedStoredSha row.snapshotSha256
  return row

def loadCatalogSnapshot (localRevision : Nat) :
    Except CatalogStorageError (Option SnapshotRow) := do
  let localRevision ← toI64 localRevision "local revision is too large"
  match store.snapshots.find? localRevision with
  | none => return none
  | some row => do
    let snapshot ← storedSnapshot X store row
    return some snapshot

/-- `COALESCE(MAX(local_revision), 0)`. -/
def maximumLocalRevision : Nat :=
  (store.snapshots.rows.map SnapshotRow.localRevision).foldr max 0

def requireExpectedState (current : StoredCatalogState) (expected : CatalogStateExpectation) :
    Except CatalogStorageError Unit :=
  require (current.stateVersion = expected.stateVersion ∧ current.active = expected.active ∧
    current.guard = expected.guard) .stateConflict

/-! ### Import -/

structure ImportBase where
  active : StoredCatalogActiveSnapshot
  signedRevisionChain : List Nat
  bundledRevision : Nat
  bundledSha256 : String

def prepareImportBase (current : StoredCatalogState)
    (baseline : Option NewCatalogSnapshot) (maximumLocalRevision : Nat) :
    Except CatalogStorageError (Option ImportBase) :=
  match current.active, baseline with
  | some _, some _ => .error (.invalidInput "initial baseline is only valid for empty history")
  | some active, none => do
    let loaded ← loadCatalogSnapshot X store active.localRevision
    let snapshot ← okOr loaded (.corrupted "active snapshot is missing")
    require (snapshot.snapshotSha256 = active.snapshotSha256)
      (.corrupted "active snapshot hash does not match")
    return some { active
                  signedRevisionChain := snapshot.signedRevisionChain
                  bundledRevision := snapshot.bundledRevision
                  bundledSha256 := snapshot.bundledSha256 }
  | none, some baseline => do
    require (current.snapshotCount = 0 ∧ maximumLocalRevision = 0)
      (.corrupted "inactive catalog has existing snapshots")
    validateSnapshot X baseline true
    return some { active := ⟨baseline.localRevision, baseline.snapshotSha256⟩
                  signedRevisionChain := []
                  bundledRevision := baseline.bundledRevision
                  bundledSha256 := baseline.bundledSha256 }
  | none, none => do
    require (current.snapshotCount = 0 ∧ maximumLocalRevision = 0)
      (.corrupted "inactive catalog has existing snapshots")
    return none

variable (commit : CatalogImportCommit)

def validateImportGuard : Except CatalogStorageError Unit :=
  require (¬ (commit.update.catalogRevision ≤ commit.expected.guard.highestAcceptedRevision ∨
    commit.nextGuard.highestAcceptedRevision ≠ commit.update.catalogRevision ∨
    commit.nextGuard.latestIssuedAt ≠ some commit.update.issuedAt ∨
    (commit.expected.guard.latestIssuedAt.any fun previous =>
      decide (commit.update.issuedAt < previous)) = true))
    (.invalidInput "signed revision guard does not advance exactly once")

def validateImportSnapshot (base : Option ImportBase)
    (maximumLocalRevision : Nat) : Except CatalogStorageError Unit := do
  let baselineRevision := (commit.initialBaseline.map NewCatalogSnapshot.localRevision).getD
    maximumLocalRevision
  require (baselineRevision < commit.snapshot.localRevision)
    (.invalidInput "new local revision must exceed all history")
  require (commit.snapshot.signedRevisionChain =
    (base.map ImportBase.signedRevisionChain).getD [] ++ [commit.update.catalogRevision])
    (.invalidInput "snapshot chain must extend the active chain with only the new revision")
  forSome (fun base => require (commit.snapshot.bundledRevision = base.bundledRevision ∧
    commit.snapshot.bundledSha256 = base.bundledSha256)
    (.invalidInput "snapshot bundled baseline changed")) base

def insertSignedUpdate (store : HistoryStore) :
    Except CatalogStorageError HistoryStore := do
  let _ ← toI64 update.catalogRevision "catalog revision is too large"
  execute (store.insertEnvelopeRow X update)

def insertSnapshot (source : CatalogSnapshotSource)
    (store : HistoryStore) : Except CatalogStorageError HistoryStore := do
  match source with
  | .bundledBaseline => pure ()
  | .signedImport _ catalogRevision => do
    let _ ← toI64 catalogRevision "catalog revision is too large"
  let _ ← toI64 snapshot.localRevision "local revision is too large"
  let _ ← toI64 snapshot.bundledRevision "bundled revision is too large"
  execute (store.insertSnapshotRow X
    { localRevision := snapshot.localRevision
      snapshotSchemaVersion := snapshot.snapshotSchemaVersion
      snapshotJson := snapshot.snapshotJson
      snapshotSha256 := snapshot.snapshotSha256
      bundledRevision := snapshot.bundledRevision
      bundledSha256 := snapshot.bundledSha256
      signedRevisionChain := snapshot.signedRevisionChain
      source
      capturedAt := snapshot.capturedAt })

def insertBaseline (baseline : Option NewCatalogSnapshot) (store : HistoryStore) :
    Except CatalogStorageError HistoryStore :=
  match baseline with
  | none => .ok store
  | some baseline => insertSnapshot X baseline .bundledBaseline store

/-- The links from `ordinal` on. -/
def insertSnapshotChain (localRevision : Nat) : Nat → List Nat → HistoryStore →
    Except CatalogStorageError HistoryStore
  | _, [], store => .ok store
  | ordinal, revision :: revisions, store => do
    let loaded ← loadCatalogUpdateByRevision X store revision
    let update ← okOr loaded
      (.invalidInput "snapshot chain references an unknown update")
    let localRevision ← toI64 localRevision "local revision is too large"
    let _ ← toI64 ordinal "snapshot chain is too long"
    let revision ← toI64 revision "catalog revision is too large"
    let store ← execute (store.insertLinkRow
      { localRevision
        ordinal
        envelopeId := update.id
        catalogRevision := revision
        payloadSha256 := update.payloadSha256 })
    insertSnapshotChain localRevision (ordinal + 1) revisions store

/-- `UPDATE provider_catalog_state … WHERE …` finds the row iff it is the expected one. -/
def matchesExpected (state : StateRow) (expected : CatalogStateExpectation) : Prop :=
  state.stateVersion = expected.stateVersion ∧ state.active = expected.active ∧
    state.guard.highestAcceptedRevision = expected.guard.highestAcceptedRevision ∧
    state.guard.latestIssuedAt.map X.formatTime = expected.guard.latestIssuedAt.map X.formatTime

instance (state : StateRow) (expected : CatalogStateExpectation) :
    Decidable (matchesExpected X state expected) := by
  unfold matchesExpected
  infer_instance

/-- The parameters of the update that name the expected state. -/
def checkExpectedColumns (expected : CatalogStateExpectation) : Except CatalogStorageError Unit := do
  let _ ← toI64 expected.stateVersion "expected state version is too large"
  let _ ← toI64 expected.guard.highestAcceptedRevision "expected guard revision is too large"

def updateStateForImport (nextVersion : Nat)
    (store : HistoryStore) : Except CatalogStorageError HistoryStore := do
  forSome (fun active => do
    let _ ← toI64 active.localRevision "active revision is too large") commit.expected.active
  let _ ← toI64 nextVersion "state version is too large"
  let _ ← toI64 commit.snapshot.localRevision "local revision is too large"
  let _ ← toI64 commit.nextGuard.highestAcceptedRevision "accepted revision is too large"
  checkExpectedColumns commit.expected
  require (matchesExpected X store.state commit.expected) .stateConflict
  execute (store.updateStateAndGuard X
    { stateVersion := nextVersion
      active := some ⟨commit.snapshot.localRevision, commit.snapshot.snapshotSha256⟩
      guard := commit.nextGuard
      updatedAt := commit.activatedAt })

def insertImportAudit (stateVersion : Nat)
    (fromSnapshot : Option StoredCatalogActiveSnapshot) (store : HistoryStore) :
    Except CatalogStorageError HistoryStore := do
  forSome (fun active => do
    let _ ← toI64 active.localRevision "active revision is too large") fromSnapshot
  let _ ← toI64 stateVersion "state version is too large"
  let _ ← toI64 commit.snapshot.localRevision "local revision is too large"
  let _ ← toI64 commit.update.catalogRevision "catalog revision is too large"
  execute (store.insertActivationRow X
    { actionId := commit.actionId
      stateVersion
      kind := .import
      fromSnapshot
      toSnapshot := ⟨commit.snapshot.localRevision, commit.snapshot.snapshotSha256⟩
      sourceEnvelopeId := some commit.update.id
      signedCatalogRevision := some commit.update.catalogRevision
      signingKeyId := some commit.update.signingKeyId
      diffJson := commit.diffJson
      diffSha256 := X.sha256Hex (asBytes commit.diffJson)
      rollbackPlanJson := none
      planSha256 := none
      activatedAt := commit.activatedAt })

def commitCatalogImport (store : HistoryStore) :
    Except CatalogStorageError (StoredCatalogState × HistoryStore) := do
  validateActionId commit.actionId
  validateSignedUpdate X commit.update
  validateSnapshot X commit.snapshot false
  validateImportGuard commit
  let current ← loadCatalogState store
  requireExpectedState current commit.expected
  let base ← prepareImportBase X store current commit.initialBaseline (maximumLocalRevision store)
  validateImportSnapshot commit base (maximumLocalRevision store)
  let _ ← validateDiffJson X commit.diffJson
    ((base.map fun base => base.active.localRevision).getD 0) commit.snapshot.localRevision
  let store ← insertSignedUpdate X commit.update store
  let store ← insertBaseline X commit.initialBaseline store
  let store ← insertSnapshot X commit.snapshot
    (.signedImport commit.update.id commit.update.catalogRevision) store
  let store ← insertSnapshotChain X commit.snapshot.localRevision 0
    commit.snapshot.signedRevisionChain store
  let nextVersion ← okOr (checkedAdd commit.expected.stateVersion 1)
    (.invalidInput "state version overflow")
  let store ← updateStateForImport X commit nextVersion store
  let store ← insertImportAudit X commit nextVersion (base.map ImportBase.active) store
  let state ← loadCatalogState store
  return (state, store)

/-! ### Rollback -/

def validateRollbackPlan (commit : CatalogRollbackCommit) (fromSnapshot : StoredCatalogActiveSnapshot)
    (target : SnapshotRow) : Except CatalogStorageError Unit := do
  validateSha commit.planSha256
  require (X.sha256Hex (asBytes commit.rollbackPlanJson) = commit.planSha256)
    (.invalidInput "rollback plan hash does not match")
  let plan ← parseJsonBytes X (asBytes commit.rollbackPlanJson) 1048576 "rollback plan"
  let version := ((plan.get? "rollback_plan_version").bind Json.asU64?).getD 0
  require (¬ (version = 0 ∨
    (plan.get? "from_revision").bind Json.asU64? ≠ some fromSnapshot.localRevision ∨
    (plan.get? "to_revision").bind Json.asU64? ≠ some target.localRevision ∨
    (plan.get? "expected_active_sha256").bind Json.asStr? ≠ some fromSnapshot.snapshotSha256 ∨
    (plan.get? "target_sha256").bind Json.asStr? ≠ some target.snapshotSha256))
    (.invalidInput "rollback plan does not match current state")
  let createdAt ← jsonTime X plan "created_at" "rollback plan creation time is missing"
  let expiresAt ← jsonTime X plan "expires_at" "rollback plan expiry is missing"
  require (¬ (commit.activatedAt < createdAt ∨ expiresAt ≤ commit.activatedAt ∨
    expiresAt ≤ createdAt)) (.invalidInput "rollback plan is stale")
  let planDiff ← okOr (plan.get? "diff") (.invalidInput "rollback plan diff is missing")
  let suppliedDiff ← validateDiffJson X commit.diffJson fromSnapshot.localRevision target.localRevision
  require (planDiff = suppliedDiff) (.invalidInput "rollback plan diff was changed")

def updateStateForRollback (commit : CatalogRollbackCommit) (nextVersion : Nat)
    (store : HistoryStore) : Except CatalogStorageError HistoryStore := do
  let expectedActive ← okOr commit.expected.active .stateConflict
  let _ ← toI64 nextVersion "state version is too large"
  let _ ← toI64 commit.targetLocalRevision "rollback target revision is too large"
  let _ ← toI64 expectedActive.localRevision "expected active revision is too large"
  checkExpectedColumns commit.expected
  require (matchesExpected X store.state commit.expected) .stateConflict
  execute (store.updateState X
    { store.state with
      stateVersion := nextVersion
      active := some ⟨commit.targetLocalRevision, commit.targetSnapshotSha256⟩
      updatedAt := commit.activatedAt })

def insertRollbackAudit (commit : CatalogRollbackCommit) (stateVersion : Nat)
    (fromSnapshot : StoredCatalogActiveSnapshot) (target : SnapshotRow) (store : HistoryStore) :
    Except CatalogStorageError HistoryStore := do
  let _ ← toI64 stateVersion "state version is too large"
  let _ ← toI64 fromSnapshot.localRevision "source revision is too large"
  let _ ← toI64 target.localRevision "target revision is too large"
  execute (store.insertActivationRow X
    { actionId := commit.actionId
      stateVersion
      kind := .rollback
      fromSnapshot := some fromSnapshot
      toSnapshot := ⟨target.localRevision, target.snapshotSha256⟩
      sourceEnvelopeId := none
      signedCatalogRevision := none
      signingKeyId := none
      diffJson := commit.diffJson
      diffSha256 := X.sha256Hex (asBytes commit.diffJson)
      rollbackPlanJson := some commit.rollbackPlanJson
      planSha256 := some commit.planSha256
      activatedAt := commit.activatedAt })

def activateCatalogRollback (commit : CatalogRollbackCommit) (store : HistoryStore) :
    Except CatalogStorageError (StoredCatalogState × HistoryStore) := do
  validateActionId commit.actionId
  validateSha commit.targetSnapshotSha256
  let current ← loadCatalogState store
  requireExpectedState current commit.expected
  let fromSnapshot ← okOr current.active .stateConflict
  require (fromSnapshot.localRevision ≠ commit.targetLocalRevision)
    (.invalidInput "rollback target is already active")
  let loaded ← loadCatalogSnapshot X store commit.targetLocalRevision
  let target ← okOr loaded (.notFound "rollback snapshot")
  require (target.snapshotSha256 = commit.targetSnapshotSha256) .stateConflict
  let _ ← validateDiffJson X commit.diffJson fromSnapshot.localRevision target.localRevision
  validateRollbackPlan X commit fromSnapshot target
  let nextVersion ← okOr (checkedAdd commit.expected.stateVersion 1)
    (.invalidInput "state version overflow")
  let store ← updateStateForRollback X commit nextVersion store
  let store ← insertRollbackAudit X commit nextVersion fromSnapshot target store
  let state ← loadCatalogState store
  require (state.guard = current.guard)
    (.corrupted "rollback changed the signed revision guard")
  return (state, store)

/-! ### Runs -/

/-- A call of one of the two operations, by any client and with any arguments. -/
inductive CatalogCall
  | «import» (commit : CatalogImportCommit)
  | rollback (commit : CatalogRollbackCommit)

def CatalogCall.expected : CatalogCall → CatalogStateExpectation
  | .import commit => commit.expected
  | .rollback commit => commit.expected

def CatalogCall.perform : CatalogCall → HistoryStore →
    Except CatalogStorageError (StoredCatalogState × HistoryStore)
  | .import commit => commitCatalogImport X commit
  | .rollback commit => activateCatalogRollback X commit

/-- A call is one transaction: a store changes only by one that succeeds. -/
def CatalogCall.run (call : CatalogCall) : HistoryStore :=
  match call.perform X store with
  | .ok (_, store) => store
  | .error _ => store

def runCalls (calls : List CatalogCall) (store : HistoryStore) : HistoryStore :=
  calls.foldl (CatalogCall.run X) store

end LorePia.Catalog
