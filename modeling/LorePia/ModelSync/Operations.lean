import LorePia.Lib.Stateful
import LorePia.ModelSync.Review
import LorePia.ProviderStore.Operations
import Mathlib.Data.Prod.Lex
import Mathlib.Data.String.Basic

namespace LorePia.ModelSync

open Lib Lib.Stateful
open DiscoveryStore (SqliteError bindU64)
open ProviderStore (ConnectionRow GenerationPreset ModelRoute ModelSyncState
  ProviderConnection invalid notFound storageCorrupted storageDbError)

/-!
# Model synchronization — operations

Each operation runs one transaction, which leaves nothing behind when it fails, and then reads
the job that it returns.  The identifier of a new job and the times that an operation reads are
arguments.
-/

variable (X : Externals) (uuid : String)

/-! ### Errors and checks -/

def corrupted (message : String) : CoreError := storageCorrupted uuid message

def internal (message : String) : CoreError := .new uuid .internal message false

/-- A statement of the transaction. -/
def execute {α : Type} (statement : Except SqliteError α) : CoreResult α :=
  statement.mapError (storageDbError uuid X.toExternals)

/-- `ensure_json_size`. -/
def ensureJsonSize (bytes maximum : Nat) (label : String) : CoreResult Unit :=
  require (bytes ≤ maximum) (invalid uuid (label ++ " exceeds its persistence bound"))

/-- `ensure_stored_json_size`. -/
def ensureStoredJsonSize (bytes maximum : Nat) (label : String) : CoreResult Unit :=
  require (bytes ≤ maximum) (corrupted uuid (label ++ " exceeds its persistence bound"))

def maxOutboxPoll : Nat := 512
def maxConnectionSnapshotBytes : Nat := 64 * 1024
def maxFailureBytes : Nat := 1024
def maxEventBytes : Nat := 16 * 1024

def modelSyncEventVersion : Nat := 1
def modelSyncRedactionVersion : Nat := 1

def allowedFailureCodes : List String :=
  ["invalid_input", "unsupported_content", "unsafe_archive", "not_found", "permission_denied",
    "storage_unavailable", "storage_corrupted", "provider_auth_failed", "provider_rate_limited",
    "provider_unavailable", "network_unavailable", "cancelled", "internal"]

def validateFailure (failure : ModelSyncFailure) : CoreResult Unit :=
  require (failure.code ∈ allowedFailureCodes ∧ failure.messageKey = "model_sync.failed")
    (invalid uuid "model synchronization failure must contain only a stable code and message key")

def progress (completedSteps : Nat) (messageKey : String) : ModelSyncProgress :=
  ⟨completedSteps, 4, messageKey⟩

def ensureSingleCasUpdate (changed : Nat) : CoreResult Unit :=
  require (changed = 1) (invalid uuid "model synchronization state changed concurrently")

variable (revision : Nat)

def nextRevisionOf : CoreResult Nat :=
  okOr (checkedAdd revision 1) (internal uuid "model synchronization revision overflow")

/-! ### Reading a job -/

/-- `ModelSyncJob`. -/
structure ModelSyncJob where
  id : String
  connectionId : String
  state : ModelSyncState
  revision : Nat
  review : Option ModelSyncReview
  failure : Option ModelSyncFailure
  createdAt : String
  updatedAt : String

structure StoredModelSyncJob where
  job : ModelSyncJob
  expectedConnection : ProviderConnection
  baseGraphSha256 : String
  approvedReviewSha256 : Option String

/-- The stored JSON of a review, read again. -/
def readReview (json : String) : CoreResult ModelSyncReview := do
  ensureStoredJsonSize uuid (byteLen json) maxReviewBytes "model synchronization review"
  (X.parseReview json).mapError fun error =>
    corrupted uuid ("stored model synchronization review is invalid: " ++ error)

/-- The review columns of a row, read and checked. -/
def decodeReview (id : String) : Option String → Option String →
    CoreResult (Option ModelSyncReview)
  | none, none => return none
  | some json, some sha256 => do
    let review ← readReview X uuid json
    (review.verify X).mapError (corrupted uuid)
    require (review.sha256 = sha256)
      (corrupted uuid "stored model synchronization review digest is inconsistent")
    (validateModelSyncReview X uuid id review).mapError fun error => corrupted uuid error.message
    return some review
  | some json, none => do
    let _ ← readReview X uuid json
    throw (corrupted uuid "stored model synchronization review columns are inconsistent")
  | none, some _ =>
    throw (corrupted uuid "stored model synchronization review columns are inconsistent")

/-- The failure of a row, read and checked. -/
def decodeFailure (failure : Option ModelSyncFailure) : CoreResult Unit :=
  forSome (fun failure => do
    ensureStoredJsonSize uuid (X.failureJsonBytes failure) maxFailureBytes
      "model synchronization failure"
    (validateFailure uuid failure).mapError fun error => corrupted uuid error.message) failure

/-- `decode_model_sync_job`. -/
def decodeModelSyncJob (row : JobRow) : CoreResult StoredModelSyncJob := do
  ensureStoredJsonSize uuid (X.connectionJsonBytes row.expectedConnection)
    maxConnectionSnapshotBytes "model synchronization connection snapshot"
  let review ← decodeReview X uuid row.id row.reviewJson row.reviewSha256
  decodeFailure X uuid row.failure
  return {
    job :=
      { id := row.id
        connectionId := row.connectionId
        state := row.state
        revision := row.revision
        review
        failure := row.failure
        createdAt := row.createdAt
        updatedAt := row.updatedAt }
    expectedConnection := row.expectedConnection
    baseGraphSha256 := row.baseGraphSha256
    approvedReviewSha256 := row.approvedReviewSha256 }

def loadModelSyncJob (id : String) (store : Store) : CoreResult StoredModelSyncJob := do
  let row ← okOr (store.jobs.find? id) (notFound uuid "model synchronization job")
  decodeModelSyncJob X uuid row

def requireStateRevision (job : ModelSyncJob) (state : ModelSyncState) (revision : Nat) :
    CoreResult Unit :=
  require (job.state = state ∧ job.revision = revision)
    (invalid uuid "model synchronization state changed concurrently")

/-! ### The provider graph -/

def loadProviderConnection (id : String) (store : Store) : CoreResult ProviderConnection := do
  let row ← okOr (store.provider.activeConnection id) (notFound uuid "provider connection")
  return row.connection

/-- `canonical_connection_json`, of which only the size can fail. -/
def canonicalConnectionJson (connection : ProviderConnection) : CoreResult Unit :=
  require (X.connectionJsonBytes connection ≤ maxConnectionSnapshotBytes)
    (internal uuid "provider connection snapshot exceeds its persistence bound")

variable (store : Store)

/-- The routes of a connection, by identifier. -/
def routesOf (connectionId : String) : List ModelRoute :=
  sortByKey ModelRoute.id
    (store.provider.providerModels.rows.filter fun route => route.connectionId == connectionId)

/-- What `model_sync_graph_sha256` digests. -/
def graphOf (connection : ProviderConnection) : ConnectionGraph :=
  let routes := routesOf store connection.id
  let ids := routes.map ModelRoute.id
  { connection
    routes
    presets := sortByKey GenerationPreset.id
      (store.provider.generationPresets.rows.filter fun preset => preset.modelRouteId ∈ ids)
    observations := sortByKey CapabilityObservation.id
      (store.observations.rows.filter fun observation => observation.modelRouteId ∈ ids) }

def modelSyncGraphSha256 (connectionId : String) (store : Store) : CoreResult String := do
  let connection ← loadProviderConnection uuid connectionId store
  canonicalConnectionJson X uuid connection
  return X.graphSha256 (graphOf store connection)

/-! ### Events -/

/-- `insert_model_sync_event`. -/
def insertModelSyncEvent (id : String) (sequence jobRevision : Nat) (state : ModelSyncState)
    (progress : ModelSyncProgress) (reviewSha256 : Option String)
    (failure : Option ModelSyncFailure) (emittedAt : String) (store : Store) :
    CoreResult Store := do
  let event : ModelSyncEvent :=
    { version := modelSyncEventVersion
      jobId := id
      sequence
      jobRevision
      redactionVersion := modelSyncRedactionVersion
      state
      progress
      reviewSha256
      failure
      emittedAt }
  ensureJsonSize uuid (X.eventJsonBytes event) maxEventBytes "model synchronization progress event"
  execute X uuid (store.insertEvent
    { jobId := id
      sequence
      jobRevision
      state
      event
      createdAt := emittedAt
      availableAt := emittedAt
      deliveryAttempts := 0
      deliveredAt := none })

def JobRow.countEvent (row : JobRow) : JobRow :=
  { row with nextEventSequence := row.nextEventSequence + 1 }

/-- `append_model_sync_event`. -/
def appendModelSyncEvent (id : String) (state : ModelSyncState) (progress : ModelSyncProgress)
    (reviewSha256 : Option String) (failure : Option ModelSyncFailure) (emittedAt : String)
    (store : Store) : CoreResult Store := do
  let row ← okOr (store.jobs.find? id)
    (.new uuid .storageUnavailable "SQLite operation failed: Query returned no rows" true)
  let store ← insertModelSyncEvent X uuid id row.nextEventSequence row.revision state progress
    reviewSha256 failure emittedAt store
  let (changed, store) ← execute X uuid (store.updateJobs
    (fun job => job.id == id && job.nextEventSequence == row.nextEventSequence)
    JobRow.countEvent fun _ => rfl)
  ensureSingleCasUpdate uuid changed
  return store

/-! ### Transactions -/

/-- The transaction of `create_model_sync_job`. -/
def createTransaction (id now : String) (expectedConnection : ProviderConnection)
    (store : Store) : CoreResult Store := do
  require (expectedConnection.id ∉ activeConnections store.jobs.rows) (invalid uuid
    "provider connection already has an active model synchronization")
  let stored ← loadProviderConnection uuid expectedConnection.id store
  require (stored = expectedConnection) (invalid uuid
    "provider connection changed before model synchronization started")
  canonicalConnectionJson X uuid expectedConnection
  let baseGraphSha256 ← modelSyncGraphSha256 X uuid expectedConnection.id store
  let store ← execute X uuid (store.insertJob
    { id
      connectionId := expectedConnection.id
      state := .created
      revision := 1
      nextEventSequence := 2
      expectedConnection
      baseGraphSha256
      reviewJson := none
      reviewSha256 := none
      approvedReviewSha256 := none
      approvedAt := none
      failure := none
      createdAt := now
      updatedAt := now })
  insertModelSyncEvent X uuid id 1 1 .created (progress 0 "model_sync.created") none none now store

/-- The `WHERE` clause of the state-and-revision compare-and-swaps. -/
def matchesJob (id : String) (state : ModelSyncState) (revision : Nat) (row : JobRow) : Bool :=
  row.id == id && row.state == state && row.revision == revision

def JobRow.moveTo (state : ModelSyncState) (revision : Nat) (failure : Option ModelSyncFailure)
    (now : String) (row : JobRow) : JobRow :=
  { row with state, revision, failure, updatedAt := now }

/-- The transaction of `transition_model_sync_job`. -/
def transitionTransaction (id : String) (expectedRevision : Nat)
    (expectedState nextState : ModelSyncState) (progress : ModelSyncProgress)
    (reviewSha256 : Option String) (failure : Option ModelSyncFailure) (now : String)
    (store : Store) : CoreResult Store := do
  let stored ← loadModelSyncJob X uuid id store
  requireStateRevision uuid stored.job expectedState expectedRevision
  let nextRevision ← nextRevisionOf uuid expectedRevision
  forSome (fun failure => ensureJsonSize uuid (X.failureJsonBytes failure) maxFailureBytes
    "model synchronization failure") failure
  let (changed, store) ← execute X uuid (do
    bindU64 [nextRevision, expectedRevision]
    store.updateJobs (matchesJob id expectedState expectedRevision)
      (JobRow.moveTo nextState nextRevision failure now) fun _ => rfl)
  ensureSingleCasUpdate uuid changed
  appendModelSyncEvent X uuid id nextState progress reviewSha256 failure now store

def JobRow.storeReview (reviewJson reviewSha256 now : String) (row : JobRow) :
    JobRow :=
  { row with
    state := .diffReadyAwaitingReview
    revision
    reviewJson := some reviewJson
    reviewSha256 := some reviewSha256
    failure := none
    updatedAt := now }

/-- The transaction of `store_model_sync_review`. -/
def storeReviewTransaction (id : String) (expectedRevision : Nat) (review : ModelSyncReview)
    (now : String) (store : Store) : CoreResult Store := do
  (review.verify X).mapError (invalid uuid)
  validateModelSyncReview X uuid id review
  require (review.diff.connectionId = review.diff.expectedConnection.id) (invalid uuid
    "model synchronization review connection is inconsistent")
  let reviewJson ← (X.reviewJson review).mapError fun error =>
    internal uuid ("cannot encode model synchronization review: " ++ error)
  ensureJsonSize uuid (byteLen reviewJson) maxReviewBytes "model synchronization review"
  let stored ← loadModelSyncJob X uuid id store
  requireStateRevision uuid stored.job .fetching expectedRevision
  require (stored.expectedConnection = review.diff.expectedConnection) (invalid uuid
    "provider connection snapshot differs from model synchronization review")
  let nextRevision ← nextRevisionOf uuid expectedRevision
  let (changed, store) ← execute X uuid (do
    bindU64 [expectedRevision, nextRevision]
    store.updateJobs (matchesJob id .fetching expectedRevision)
      (JobRow.storeReview nextRevision reviewJson review.sha256 now) fun _ => rfl)
  ensureSingleCasUpdate uuid changed
  appendModelSyncEvent X uuid id .diffReadyAwaitingReview
    (progress 2 "model_sync.awaiting_review") (some review.sha256) none now store

def JobRow.approve (approvedReviewSha256 now : String) (row : JobRow) : JobRow :=
  { row with
    state := .committing
    revision
    approvedReviewSha256 := some approvedReviewSha256
    approvedAt := some now
    updatedAt := now }

/-- The transaction of `mark_model_sync_job_committing`, for a job that is not completed. -/
def markCommittingTransaction (id : String) (expectedRevision : Nat)
    (approvedReviewSha256 now : String) (store : Store) : CoreResult Store := do
  let stored ← loadModelSyncJob X uuid id store
  requireStateRevision uuid stored.job .diffReadyAwaitingReview expectedRevision
  let review ← okOr stored.job.review (corrupted uuid
    "review-ready model synchronization job has no stored review")
  (review.verify X).mapError (corrupted uuid)
  (validateModelSyncReview X uuid id review).mapError fun error => corrupted uuid error.message
  require (review.sha256 = approvedReviewSha256) (invalid uuid
    "approved model synchronization hash does not match the current review")
  let nextRevision ← nextRevisionOf uuid expectedRevision
  let (changed, store) ← execute X uuid (do
    bindU64 [expectedRevision, nextRevision]
    store.updateJobs (fun row => matchesJob id .diffReadyAwaitingReview expectedRevision row &&
        row.reviewSha256 == some approvedReviewSha256)
      (JobRow.approve nextRevision approvedReviewSha256 now) fun _ => rfl)
  ensureSingleCasUpdate uuid changed
  appendModelSyncEvent X uuid id .committing (progress 3 "model_sync.committing")
    (some approvedReviewSha256) none now store

/-! ### Applying a review -/

/-- The listed routes, in order, after the ones before them. -/
def upsertListedRoutes (connectionId : String) :
    List String → List ModelRoute → Store → CoreResult Store
  | _, [], store => return store
  | seen, route :: routes, store => do
    require (route.connectionId = connectionId) (invalid uuid
      "reviewed model route belongs to a different provider connection")
    require (route.id ∉ seen) (invalid uuid "reviewed model route identifiers must be unique")
    require (route.missCount = 0) (invalid uuid "listed model routes must reset their miss count")
    let provider ← ProviderStore.upsertModelRouteRow X.toExternals uuid route store.provider
    upsertListedRoutes connectionId (route.id :: seen) routes { store with provider }

/-- What `UPDATE provider_models` makes of a route that was not listed. -/
def missRoute (jobId : String) (route : ModelRoute) : ModelRoute :=
  { route with
    missCount := min (route.missCount + 1) 4294967295
    lastReconciledSyncJobId := some jobId
    status :=
      if route.status = .documentedOnly ∨ route.status = .accessDenied ∨
          route.status = .deprecated ∨ route.status = .retired then route.status
      else .missingTemporarily }

theorem missRoute_id (jobId : String) (route : ModelRoute) : (missRoute jobId route).id = route.id :=
  rfl

def markMissing (jobId connectionId missingId : String) (store : Store) : CoreResult Store := do
  let provider ← execute X uuid
    { store.provider with
      providerModels := store.provider.providerModels.updateWhere
        (fun route => route.id == missingId && route.connectionId == connectionId)
        (missRoute jobId) (missRoute_id jobId) }.enforce
  return { store with provider }

def markAllMissing (jobId connectionId : String) :
    List String → Store → CoreResult Store
  | [], store => return store
  | missingId :: missingIds, store => do
    let store ← markMissing X uuid jobId connectionId missingId store
    markAllMissing jobId connectionId missingIds store

def upsertInitialPresets (listedIds : List String) :
    List GenerationPreset → Store → CoreResult Store
  | [], store => return store
  | preset :: presets, store => do
    require (preset.modelRouteId ∈ listedIds) (invalid uuid
      "reviewed initial preset does not belong to a listed route")
    let provider ← ProviderStore.upsertGenerationPresetRow X.toExternals uuid preset store.provider
    upsertInitialPresets listedIds presets { store with provider }

/-- `DELETE FROM model_capability_observations WHERE model_route_id = ? AND source_kind = …`, for
    every listed route. -/
def deleteProviderObservations (listedIds : List String) (store : Store) : Store :=
  { store with
    observations := store.observations.deleteWhere fun observation =>
      decide (observation.modelRouteId ∈ listedIds) && observation.source == .providerApi }

variable (observation : CapabilityObservation)

/-- What `ON CONFLICT(id) DO UPDATE` makes of a stored observation. -/
def CapabilityObservation.over (old : CapabilityObservation) : CapabilityObservation :=
  { observation with
    id := old.id
    modelRouteId := old.modelRouteId
    key := old.key
    source := old.source }

theorem CapabilityObservation.over_id (old : CapabilityObservation) :
    (observation.over old).id = old.id :=
  rfl

/-- `upsert_capability_observation_row`. -/
def upsertCapabilityObservationRow (store : Store) :
    CoreResult Store := do
  X.validateCapabilityObservation store.provider observation
  let existing := store.observations.find? observation.id
  require (existing.all fun old => old.modelRouteId == observation.modelRouteId &&
      old.key == observation.key && old.source == observation.source)
    (invalid uuid "an existing capability observation cannot change route, key, or source")
  require (existing.all fun old => decide (old.observedAt ≤ observation.observedAt)) (invalid uuid
    "capability observation updates must not move observed_at backwards")
  if existing = some observation then return store
  else
    require (existing.all fun old => old.observedAt != observation.observedAt) (invalid uuid
      "a capability observation cannot change without advancing observed_at")
    return { store with
      observations := store.observations.upsert observation observation.over observation.over_id }

def upsertObservations (listedIds : List String) :
    List CapabilityObservation → Store → CoreResult Store
  | [], store => return store
  | observation :: observations, store => do
    require (observation.modelRouteId ∈ listedIds) (invalid uuid
      "reviewed capability observation does not belong to a listed route")
    let store ← upsertCapabilityObservationRow X uuid observation store
    upsertObservations listedIds observations store

/-- What `commit_model_sync_job` writes to the provider graph. -/
def applyReview (jobId connectionId : String) (current : ProviderConnection)
    (review : ModelSyncReview) (store : Store) : CoreResult Store := do
  let diff := review.diff
  let store ← upsertListedRoutes X uuid connectionId [] diff.listedRoutes store
  let listedIds := diff.listedRoutes.map ModelRoute.id
  let calculatedMissing := canonical id ((diff.expectedModelRoutes.map ModelRoute.id).filter
    fun id => id ∉ listedIds)
  require (calculatedMissing = canonical id diff.missingModelRouteIds) (invalid uuid
    "reviewed missing-route set does not match the route graph")
  let store ← markAllMissing X uuid jobId connectionId calculatedMissing store
  let store ← upsertInitialPresets X uuid listedIds diff.initialPresets store
  let store := deleteProviderObservations listedIds store
  let store ← upsertObservations X uuid listedIds diff.capabilityObservations store
  let provider ← ProviderStore.upsertProviderConnectionRow X.toExternals uuid
    { current with status := .connected, updatedAt := diff.observedAt } store.provider
  ProviderStore.validateProviderCatalogForeignKeys uuid provider
  return { store with provider }

def JobRow.complete (now : String) (row : JobRow) : JobRow :=
  { row with state := .completed, revision, updatedAt := now }

/-- The transaction of `commit_model_sync_job`, for a job that is not completed. -/
def commitTransaction (id : String) (expectedRevision : Nat) (now : String) (store : Store) :
    CoreResult Store := do
  let stored ← loadModelSyncJob X uuid id store
  requireStateRevision uuid stored.job .committing expectedRevision
  let review ← okOr stored.job.review (corrupted uuid
    "committing model synchronization job has no stored review")
  (review.verify X).mapError (corrupted uuid)
  (validateModelSyncReview X uuid id review).mapError fun error => corrupted uuid error.message
  require (stored.approvedReviewSha256 = some review.sha256) (corrupted uuid
    "committing model synchronization approval does not match its review")
  let connectionId := stored.job.connectionId
  let current ← loadProviderConnection uuid connectionId store
  require (current = stored.expectedConnection ∧ current = review.diff.expectedConnection)
    (invalid uuid "provider connection changed after model synchronization review")
  let currentGraphSha256 ← modelSyncGraphSha256 X uuid connectionId store
  require (currentGraphSha256 = stored.baseGraphSha256) (invalid uuid
    "provider model graph changed after synchronization started")
  require (routesOf store connectionId = sortByKey ModelRoute.id review.diff.expectedModelRoutes)
    (invalid uuid "model route graph changed after model synchronization review")
  let store ← applyReview X uuid id connectionId current review store
  let nextRevision ← nextRevisionOf uuid expectedRevision
  let (changed, store) ← execute X uuid (do
    bindU64 [expectedRevision, nextRevision]
    store.updateJobs (matchesJob id .committing expectedRevision)
      (JobRow.complete nextRevision now) fun _ => rfl)
  ensureSingleCasUpdate uuid changed
  appendModelSyncEvent X uuid id .completed (progress 4 "model_sync.completed")
    (some review.sha256) none now store

/-! ### Delivery -/

def OutboxRow.attempt (row : OutboxRow) : OutboxRow :=
  { row with deliveryAttempts := row.deliveryAttempts + 1 }

def OutboxRow.deliver (now : String) (row : OutboxRow) : OutboxRow :=
  { row with deliveredAt := some now }

/-- The `WHERE` clause of an undelivered event. -/
def isUndelivered (id : String) (sequence : Nat) (row : OutboxRow) : Bool :=
  row.jobId == id && row.sequence == sequence && row.deliveredAt.isNone

/-- The undelivered events of a job that are available, by sequence. -/
def available (id now : String) (store : Store) : List OutboxRow :=
  sortByKey OutboxRow.sequence (store.outbox.rows.filter fun row =>
    row.jobId == id && row.deliveredAt.isNone && decide (row.availableAt ≤ now))

/-- Read the selected rows one after another and count the attempt on each. -/
def pollRows (id : String) : List OutboxRow → Store → CoreResult (List ModelSyncEvent × Store)
  | [], store => return ([], store)
  | row :: rows, store => do
    ensureStoredJsonSize uuid (X.eventJsonBytes row.event) maxEventBytes
      "model synchronization progress event"
    require (row.event.jobId = id ∧ row.event.sequence = row.sequence) (corrupted uuid
      "stored model synchronization event identity differs from its outbox key")
    let (changed, store) := store.updateOutbox (isUndelivered id row.sequence) OutboxRow.attempt
      fun _ => rfl
    require (changed = 1) (invalid uuid "model synchronization event changed concurrently")
    let (events, store) ← pollRows id rows store
    return (row.event :: events, store)

/-- The transaction of `poll_model_sync_events_for_job`. -/
def pollTransaction (id : String) (limit : Nat) (now : String) (store : Store) :
    CoreResult (List ModelSyncEvent × Store) := do
  let _ ← loadModelSyncJob X uuid id store
  pollRows X uuid id ((available id now store).take limit) store

/-- The transaction of `ack_model_sync_event`. -/
def ackTransaction (id : String) (sequence : Nat) (now : String) (store : Store) :
    CoreResult (Bool × Store) := do
  let _ ← loadModelSyncJob X uuid id store
  execute X uuid (bindU64 [sequence])
  let (changed, store) := store.updateOutbox
    (fun row => isUndelivered id sequence row && decide (0 < row.deliveryAttempts))
    (OutboxRow.deliver now) fun _ => rfl
  return (changed == 1, store)

/-! ### Recovery -/

def isInterruptible : ModelSyncState → Bool
  | .created | .fetching | .committing => true
  | _ => false

def JobRow.interrupt (now : String) (row : JobRow) : JobRow :=
  { row with state := .interrupted, revision := row.revision + 1, updatedAt := now }

/-- The jobs that a start finds unfinished, by the time and the identifier of their creation. -/
def interruptedIds : List String :=
  (sortByKey (fun row : JobRow => toLex (row.createdAt, row.id))
    (store.jobs.rows.filter fun row => isInterruptible row.state)).map JobRow.id

def interruptJob (id now : String) (store : Store) : CoreResult Store := do
  let (_, store) ← execute X uuid (store.updateJobs
    (fun row => row.id == id && isInterruptible row.state) (JobRow.interrupt now) fun _ => rfl)
  appendModelSyncEvent X uuid id .interrupted (progress 0 "model_sync.interrupted") none none now
    store

def interruptJobs (now : String → String) : List String → Store → CoreResult Store
  | [], store => return store
  | id :: ids, store => do
    let store ← interruptJob X uuid id (now id) store
    interruptJobs now ids store

/-- `recover_interrupted_model_sync_jobs`; `now` gives the time at each job. -/
def recoverTransaction (now : String → String) (store : Store) : CoreResult Store :=
  interruptJobs X uuid now (interruptedIds store) store

/-! ### Operations -/

/-- A method of the storage. -/
abbrev StorageM (α : Type) : Type := Stateful Store CoreError α

/-- A transaction takes effect as a whole, or not at all. -/
def transact (transaction : Store → CoreResult Store) : StorageM Unit := do
  let store ← get
  let store' ← check (transaction store)
  modify fun _ => store'

/-- A transaction with a result. -/
def transactWith {α : Type} (transaction : Store → CoreResult (α × Store)) : StorageM α := do
  let store ← get
  let result ← check (transaction store)
  modify fun _ => result.2
  return result.1

def getModelSyncJob (id : String) : StorageM ModelSyncJob := do
  let store ← get
  let stored ← check (loadModelSyncJob X uuid id store)
  return stored.job

def createModelSyncJob (id now : String) (expectedConnection : ProviderConnection) :
    StorageM ModelSyncJob := do
  transact (createTransaction X uuid id now expectedConnection)
  getModelSyncJob X uuid id

def transitionModelSyncJob (id : String) (expectedRevision : Nat)
    (expectedState nextState : ModelSyncState) (progress : ModelSyncProgress)
    (reviewSha256 : Option String) (failure : Option ModelSyncFailure) (now : String) :
    StorageM ModelSyncJob := do
  transact (transitionTransaction X uuid id expectedRevision expectedState nextState progress
    reviewSha256 failure now)
  getModelSyncJob X uuid id

def transitionModelSyncJobToFetching (id : String) (expectedRevision : Nat) (now : String) :
    StorageM ModelSyncJob :=
  transitionModelSyncJob X uuid id expectedRevision .created .fetching
    (progress 1 "model_sync.fetching") none none now

def storeModelSyncReview (id : String) (expectedRevision : Nat) (review : ModelSyncReview)
    (now : String) : StorageM ModelSyncJob := do
  transact (storeReviewTransaction X uuid id expectedRevision review now)
  getModelSyncJob X uuid id

def markModelSyncJobCommitting (id : String) (expectedRevision : Nat)
    (approvedReviewSha256 now : String) : StorageM ModelSyncJob := do
  let job ← getModelSyncJob X uuid id
  if job.state = .completed then
    check (require (job.review.any (·.sha256 == approvedReviewSha256) = true) (invalid uuid
      "approved model synchronization hash does not match the completed review"))
    return job
  else
    transact (markCommittingTransaction X uuid id expectedRevision approvedReviewSha256 now)
    getModelSyncJob X uuid id

def commitModelSyncJob (id : String) (expectedRevision : Nat) (now : String) :
    StorageM ModelSyncJob := do
  let job ← getModelSyncJob X uuid id
  if job.state = .completed then return job
  else
    transact (commitTransaction X uuid id expectedRevision now)
    getModelSyncJob X uuid id

def failModelSyncJob (id : String) (expectedRevision : Nat) (failure : ModelSyncFailure)
    (now : String) : StorageM ModelSyncJob := do
  check (validateFailure uuid failure)
  let current ← getModelSyncJob X uuid id
  if current.state.isFinished then return current
  else
    transitionModelSyncJob X uuid id expectedRevision current.state .failed
      (progress 4 "model_sync.failed") none (some failure) now

def cancelModelSyncJob (id now : String) : StorageM ModelSyncJob := do
  let current ← getModelSyncJob X uuid id
  if current.state = .cancelled then return current
  else
    check (require (current.state.isFinished = false) (invalid uuid
      "completed or failed model synchronization cannot be cancelled"))
    check (require (current.state ≠ .committing) (invalid uuid
      "model synchronization cannot be cancelled while committing"))
    transitionModelSyncJob X uuid id current.revision current.state .cancelled
      (progress 4 "model_sync.cancelled") none none now

def pollModelSyncEventsForJob (id : String) (limit : Nat) (now : String) :
    StorageM (List ModelSyncEvent) := do
  check (require (limit ≠ 0 ∧ limit ≤ maxOutboxPoll) (invalid uuid
    "model synchronization event limit must be between 1 and 512"))
  transactWith (pollTransaction X uuid id limit now)

def ackModelSyncEvent (id : String) (sequence : Nat) (now : String) : StorageM Bool := do
  check (require (sequence ≠ 0) (invalid uuid
    "model synchronization event sequence must be positive"))
  transactWith (ackTransaction X uuid id sequence now)

def recoverInterruptedModelSyncJobs (now : String → String) : StorageM Unit :=
  transact (recoverTransaction X uuid now)

/-! ### Runs -/

/-- A call of one of the operations. -/
inductive Operation
  | create (id now : String) (expectedConnection : ProviderConnection)
  | startFetching (id : String) (expectedRevision : Nat) (now : String)
  | storeReview (id : String) (expectedRevision : Nat) (review : ModelSyncReview) (now : String)
  | markCommitting (id : String) (expectedRevision : Nat) (approvedReviewSha256 now : String)
  | commit (id : String) (expectedRevision : Nat) (now : String)
  | fail (id : String) (expectedRevision : Nat) (failure : ModelSyncFailure) (now : String)
  | cancel (id now : String)
  | poll (id : String) (limit : Nat) (now : String)
  | ack (id : String) (sequence : Nat) (now : String)
  | recover (now : String → String)

inductive Response
  | job (job : ModelSyncJob)
  | events (events : List ModelSyncEvent)
  | acknowledged (acknowledged : Bool)
  | done

def Operation.run : Operation → StorageM Response
  | .create id now expectedConnection => do
    let job ← createModelSyncJob X uuid id now expectedConnection
    return .job job
  | .startFetching id expectedRevision now => do
    let job ← transitionModelSyncJobToFetching X uuid id expectedRevision now
    return .job job
  | .storeReview id expectedRevision review now => do
    let job ← storeModelSyncReview X uuid id expectedRevision review now
    return .job job
  | .markCommitting id expectedRevision approvedReviewSha256 now => do
    let job ← markModelSyncJobCommitting X uuid id expectedRevision approvedReviewSha256 now
    return .job job
  | .commit id expectedRevision now => do
    let job ← commitModelSyncJob X uuid id expectedRevision now
    return .job job
  | .fail id expectedRevision failure now => do
    let job ← failModelSyncJob X uuid id expectedRevision failure now
    return .job job
  | .cancel id now => do
    let job ← cancelModelSyncJob X uuid id now
    return .job job
  | .poll id limit now => do
    let events ← pollModelSyncEventsForJob X uuid id limit now
    return .events events
  | .ack id sequence now => do
    let acknowledged ← ackModelSyncEvent X uuid id sequence now
    return .acknowledged acknowledged
  | .recover now => do
    recoverInterruptedModelSyncJobs X uuid now
    return .done

/-- A step of the storage: a call with its outcome, or a write of the provider graph by someone
    else. -/
inductive Event
  | call (operation : Operation) (outcome : CoreResult Response)
  | write (provider : ProviderStore.Store)
      (observations : Table String CapabilityObservation CapabilityObservation.id)

def Step (event : Event) (store' : Store) : Prop :=
  match event with
  | .call operation outcome => Stateful.exec (operation.run X uuid) store = (outcome, store')
  | .write provider observations => store' = { store with provider, observations }

end LorePia.ModelSync
