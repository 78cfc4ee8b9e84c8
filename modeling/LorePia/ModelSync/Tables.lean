import LorePia.ProviderStore.Tables

namespace LorePia.ModelSync

open Lib
open DiscoveryStore (SqliteError bindU64 insertRow isSqlDigest nullOr sqlLength)
open ProviderStore (ConnectionRow GenerationPreset ModelRoute ModelSyncState
  ProviderConnection)

/-!
# Model synchronization — tables and statements

The jobs that bring the models of a provider connection up to date, the outbox of their events,
and the provider graph that a completed job writes.  The review of a job is stored as its JSON;
the other JSON columns hold the value they encode.  Timestamps are texts, whose order is the
order of the times.
-/

/-! ### Rows -/

inductive CapabilityValue
  | boolean (value : Bool)
  | integer (value : Nat)
  | enumValues (values : List String)
  | structured (json : String)
deriving DecidableEq

inductive SupportStatus
  | verified
  | documented
  | inferred
  | unsupported
  | unknown
  | conditional
deriving DecidableEq

inductive ObservationSource
  | providerApi
  | officialDocumentation
  | signedLorepiaCatalog
  | capabilityProbe
  | userOverride
  | llmInference
deriving DecidableEq

inductive Confidence
  | low
  | medium
  | high
deriving DecidableEq

structure CapabilityObservation where
  id : String
  modelRouteId : String
  key : CapabilityKey
  value : CapabilityValue
  status : SupportStatus
  source : ObservationSource
  confidence : Confidence
  observedAt : String
  expiresAt : Option String
  evidenceRef : Option String
deriving DecidableEq

/-- The states of the partial index `model_sync_one_active_job_per_connection`. -/
def isActive : ModelSyncState → Bool
  | .created | .fetching | .diffReadyAwaitingReview | .committing => true
  | _ => false

structure ModelSyncFailure where
  code : String
  messageKey : String
  recoverable : Bool

structure ModelSyncProgress where
  completedSteps : Nat
  totalSteps : Nat
  messageKey : String

structure ModelSyncEvent where
  version : Nat
  jobId : String
  sequence : Nat
  jobRevision : Nat
  redactionVersion : Nat
  state : ModelSyncState
  progress : ModelSyncProgress
  reviewSha256 : Option String
  failure : Option ModelSyncFailure
  emittedAt : String

/-- A row of `model_sync_jobs`. -/
structure JobRow where
  id : String
  connectionId : String
  state : ModelSyncState
  revision : Nat
  nextEventSequence : Nat
  expectedConnection : ProviderConnection
  baseGraphSha256 : String
  reviewJson : Option String
  reviewSha256 : Option String
  approvedReviewSha256 : Option String
  approvedAt : Option String
  failure : Option ModelSyncFailure
  createdAt : String
  updatedAt : String

/-- A row of `model_sync_event_outbox`. -/
structure OutboxRow where
  jobId : String
  sequence : Nat
  jobRevision : Nat
  state : ModelSyncState
  event : ModelSyncEvent
  createdAt : String
  availableAt : String
  deliveryAttempts : Nat
  deliveredAt : Option String

def OutboxRow.key (row : OutboxRow) : String × Nat := (row.jobId, row.sequence)

/-- `provider` are the provider tables (its list of jobs is what archiving a connection reads of
    `jobs`); `observations` is `model_capability_observations`. -/
structure Store where
  provider : ProviderStore.Store
  observations : Table String CapabilityObservation CapabilityObservation.id
  jobs : Table String JobRow JobRow.id
  outbox : Table (String × Nat) OutboxRow OutboxRow.key

/-! ### Constraints -/

def maxReviewBytes : Nat := 8 * 1024 * 1024

def JobRow.checks (row : JobRow) : Bool :=
  0 < sqlLength row.id && 1 ≤ row.revision && 2 ≤ row.nextEventSequence &&
  isSqlDigest row.baseGraphSha256 &&
  (row.reviewJson.all fun json => byteLen json ≤ maxReviewBytes) &&
  nullOr isSqlDigest row.reviewSha256 && nullOr isSqlDigest row.approvedReviewSha256 &&
  row.reviewJson.isSome == row.reviewSha256.isSome &&
  row.approvedReviewSha256.isSome == row.approvedAt.isSome &&
  (!decide (row.state = .diffReadyAwaitingReview ∨ row.state = .committing ∨
    row.state = .completed) || row.reviewJson.isSome) &&
  (row.state != .committing || row.approvedReviewSha256 == row.reviewSha256) &&
  (row.state != .completed || row.approvedReviewSha256 == row.reviewSha256 && row.failure.isNone) &&
  (row.failure.all fun failure => failure.messageKey == "model_sync.failed") &&
  row.failure.isSome == (row.state == .failed)

def OutboxRow.checks (row : OutboxRow) : Bool := 1 ≤ row.sequence && 1 ≤ row.jobRevision

/-- The connections that have an active job, with repetitions. -/
def activeConnections (jobs : List JobRow) : List String :=
  (jobs.filter fun row => isActive row.state).map JobRow.connectionId

namespace Store

variable (store : Store)

/-! ### Statements -/

/-- `INSERT INTO model_sync_jobs`. -/
def insertJob (row : JobRow) : Except SqliteError Store := do
  let jobs ← insertRow store.jobs row row.checks (fun _ => false)
    (store.provider.providerConnections.find? row.connectionId).isSome
  require (activeConnections jobs.rows).Nodup .uniqueConstraint
  return { store with jobs }

/-- `UPDATE model_sync_jobs SET … WHERE …`, with the number of rows changed. -/
def updateJobs (p : JobRow → Bool) (f : JobRow → JobRow) (hf : ∀ row, (f row).id = row.id) :
    Except SqliteError (Nat × Store) := do
  let jobs := store.jobs.updateWhere p f hf
  require (jobs.rows.all JobRow.checks = true) .checkConstraint
  require (activeConnections jobs.rows).Nodup .uniqueConstraint
  return (store.jobs.rows.countP p, { store with jobs })

/-- `INSERT INTO model_sync_event_outbox`. -/
def insertEvent (row : OutboxRow) : Except SqliteError Store := do
  bindU64 [row.sequence, row.jobRevision]
  let outbox ← insertRow store.outbox row row.checks
    (fun x => x.jobId == row.jobId && x.jobRevision == row.jobRevision)
    (store.jobs.find? row.jobId).isSome
  return { store with outbox }

/-- `UPDATE model_sync_event_outbox SET … WHERE job_id = ? AND sequence = ? AND …`, with the
    number of rows changed. -/
def updateOutbox (p : OutboxRow → Bool) (f : OutboxRow → OutboxRow)
    (hf : ∀ row, (f row).key = row.key) : Nat × Store :=
  (store.outbox.rows.countP p, { store with outbox := store.outbox.updateWhere p f hf })

end Store

end LorePia.ModelSync
