import LorePia.Discovery.Grants
import LorePia.Domain.Json
import LorePia.Lib.Table

namespace LorePia.DiscoveryStore

open Lib Discovery

/-!
# The discovery store — tables and constraints

The tables of the discovery migration that a durable transition reads or writes, with the
constraints the database enforces on every write: column checks, unique keys, foreign keys
and the revision guard.  A write that breaks one fails with `SqliteError` and, being part of
a transaction, leaves nothing behind.

A primary key is the key of its `Table`; the other constraints are checked by the insert.
Columns that no modelled statement reads or writes are left out.
-/

/-! ### Values the database computes -/

/-- Why the database refused a statement. -/
inductive SqliteError
  | integerOutOfRange
  | checkConstraint
  | uniqueConstraint
  | foreignKeyConstraint
  | triggerAbort
deriving DecidableEq

/-- The JSON functions of the database: `json_valid`, `json_type` and `json_extract` of a
    text at a path, `none` for `NULL`. -/
structure SqliteJson where
  valid : String → Bool
  type : String → String → Option String
  extract : String → String → Option String

variable (text : String)

/-- The characters `length` and `GLOB` see: those before the first NUL. -/
def sqlChars : List Char := text.toList.takeWhile (· ≠ '\x00')

/-- `length(text)`. -/
def sqlLength : Nat := (sqlChars text).length

/-- `trim(text)`, which removes spaces only. -/
def sqlTrim : String :=
  String.ofList (((text.toList.dropWhile (· = ' ')).reverse.dropWhile (· = ' ')).reverse)

/-- `length(trim(text)) > 0`. -/
def notBlank : Bool := 0 < sqlLength (sqlTrim text)

/-- `length(text) = 64 AND text NOT GLOB '*[^0-9a-f]*'`. -/
def isSqlDigest : Bool :=
  sqlLength text == 64 && (sqlChars text).all fun c => ('0' ≤ c && c ≤ '9') || ('a' ≤ c && c ≤ 'f')

/-- `length(text) BETWEEN 1 AND 128 AND text = trim(text)`. -/
def isSqlIdentifier : Bool :=
  1 ≤ sqlLength text && sqlLength text ≤ 128 && text == sqlTrim text

/-- A check on a column that may be `NULL`. -/
def nullOr (check : String → Bool) (value : Option String) : Bool := value.all check

/-- `json_valid(text) AND json_type(text) = 'object'`. -/
def isJsonObject (J : SqliteJson) (text : String) : Bool :=
  J.valid text && J.type text "$" == some "object"

/-- A comparison inside a check constraint: `NULL` does not fail it. -/
def notFalse (value : Option String) (accepted : List String) : Bool :=
  value.all fun v => accepted.contains v

/-! ### Sessions -/

/-- The states of `provider_discovery_sessions.state`. -/
def stateNames : List String :=
  ["draft", "resolving_known_provider", "awaiting_template_selection", "fetching_documents",
   "extracting_evidence", "awaiting_more_evidence", "awaiting_assistant_consent",
   "building_deterministic_manifest_draft", "building_assistant_manifest_draft",
   "validating_manifest", "awaiting_credential_origin_approval", "listing_models",
   "awaiting_probe_consent", "probing_capabilities", "awaiting_review", "committing",
   "compensating", "ready", "failed", "cancelled", "interrupted", "unknown_outcome"]

def operationKindNames : List String :=
  ["resolve_known_provider", "fetch_documents", "extract_evidence",
   "build_deterministic_manifest_draft", "build_assistant_manifest_draft", "validate_manifest",
   "list_models", "probe_capabilities", "atomic_commit", "compensation"]

structure SessionRow where
  id : String
  state : String
  revision : Nat
  nextEventSequence : Nat
  draftJson : Option String
  reviewDiffJson : Option String
  errorJson : Option String
  recoveryJson : Option String
  unknownOperation : Option String
  manifestSha256 : Option String
  commitPlanSha256 : Option String
  commitAttemptId : Option String
  committedConnectionId : Option String
  cancellationPending : Bool
  activeOperationId : Option String
  activeEffectApprovalJson : Option String
  updatedAt : String

/-- The column and table checks of `provider_discovery_sessions`. -/
def SessionRow.checks (J : SqliteJson) (row : SessionRow) : Bool :=
  stateNames.contains row.state &&
  0 < row.nextEventSequence &&
  nullOr (isJsonObject J) row.draftJson &&
  nullOr (isJsonObject J) row.reviewDiffJson &&
  nullOr (fun json => isJsonObject J json && notFalse (J.type json "$.code") ["text"] &&
    notFalse (J.type json "$.message_key") ["text"] &&
    notFalse (J.type json "$.recoverable") ["true", "false"]) row.errorJson &&
  nullOr (isJsonObject J) row.recoveryJson &&
  nullOr operationKindNames.contains row.unknownOperation &&
  nullOr isSqlDigest row.manifestSha256 &&
  nullOr isSqlDigest row.commitPlanSha256 &&
  nullOr isSqlIdentifier row.commitAttemptId &&
  nullOr isSqlIdentifier row.activeOperationId &&
  nullOr (fun json => isJsonObject J json && notFalse (J.type json "$.approval_id") ["text"] &&
    notFalse (J.type json "$.grant_sha256") ["text"] &&
    (J.extract json "$.grant_sha256").all isSqlDigest) row.activeEffectApprovalJson &&
  notBlank row.updatedAt &&
  (row.state == "interrupted") == row.recoveryJson.isSome &&
  (row.state == "unknown_outcome") == row.unknownOperation.isSome &&
  (!(["committing", "compensating"].contains row.state) ||
    row.commitPlanSha256.isSome && row.commitAttemptId.isSome)

/-! ### The ledgers around a session -/

structure ApprovalRow where
  id : String
  sessionId : String
  approvalKind : String
  candidateId : Option String
  decision : String
  grantJson : String
  sessionRevision : Nat
  grantSha256 : String
  redactionVersion : Nat
  createdAt : String

def ApprovalRow.checks (J : SqliteJson) (row : ApprovalRow) : Bool :=
  notBlank row.id &&
  ["template_selection", "assistant_consent", "credential_origin", "capability_probe", "review",
    "unknown_outcome_resolution"].contains row.approvalKind &&
  ["approved", "rejected"].contains row.decision &&
  isJsonObject J row.grantJson &&
  isSqlDigest row.grantSha256 &&
  0 < row.redactionVersion &&
  notBlank row.createdAt

structure OperationRow where
  id : String
  sessionId : String
  operationKind : String
  sideEffectClass : String
  status : String
  actionId : String
  expectedRevision : Nat
  requestSha256 : String
  approvalId : Option String
  approvalGrantSha256 : Option String
  startedAt : Option String
  finishedAt : Option String
  createdAt : String
  updatedAt : String

def OperationRow.checks (row : OperationRow) : Bool :=
  notBlank row.id &&
  operationKindNames.contains row.operationKind &&
  ["local_deterministic", "read_only", "billable_external", "persistent"].contains
    row.sideEffectClass &&
  ["prepared", "started", "succeeded", "failed", "interrupted", "outcome_unknown"].contains
    row.status &&
  isSqlDigest row.requestSha256 &&
  nullOr isSqlDigest row.approvalGrantSha256 &&
  notBlank row.createdAt &&
  notBlank row.updatedAt &&
  (row.status != "prepared") == row.startedAt.isSome &&
  (row.status != "prepared" && row.status != "started") == row.finishedAt.isSome &&
  row.approvalId.isSome == row.approvalGrantSha256.isSome

/-- `provider_discovery_operation_legal_transition`. -/
def OperationRow.legalTransition (old new : OperationRow) : Bool :=
  (old.status == "prepared" && new.status == "started" &&
    new.startedAt.isSome && new.finishedAt.isNone) ||
  (old.status == "prepared" && new.status == "interrupted" &&
    new.startedAt.isSome && new.finishedAt.isSome) ||
  (old.status == "started" && ["succeeded", "failed"].contains new.status &&
    new.startedAt == old.startedAt && new.finishedAt.isSome) ||
  (old.status == "started" && ["local_deterministic", "read_only"].contains old.sideEffectClass &&
    new.status == "interrupted" && new.startedAt == old.startedAt && new.finishedAt.isSome) ||
  (old.status == "started" && ["billable_external", "persistent"].contains old.sideEffectClass &&
    new.status == "outcome_unknown" && new.startedAt == old.startedAt && new.finishedAt.isSome)

structure OutboxRow where
  id : String
  sessionId : String
  sequence : Nat
  eventVersion : Nat
  sessionRevision : Nat
  state : String
  eventJson : String
  redactionVersion : Nat
  deliveryAttempts : Nat
  availableAt : String
  deliveredAt : Option String
  createdAt : String

def OutboxRow.checks (J : SqliteJson) (row : OutboxRow) : Bool :=
  notBlank row.id && 0 < row.sequence && 0 < row.eventVersion && 0 < row.sessionRevision &&
  stateNames.contains row.state &&
  isJsonObject J row.eventJson &&
  0 < row.redactionVersion &&
  notBlank row.availableAt && notBlank row.createdAt

structure ReceiptRow where
  actionId : String
  sessionId : String
  actionKind : String
  requestSha256 : String
  expectedRevision : Nat
  resultingRevision : Nat
  eventId : String
  eventSequence : Nat
  outcome : String
  responseJson : String
  redactionVersion : Nat
  createdAt : String

def ReceiptRow.checks (J : SqliteJson) (row : ReceiptRow) : Bool :=
  notBlank row.actionId && notBlank row.actionKind &&
  isSqlDigest row.requestSha256 &&
  row.resultingRevision == row.expectedRevision + 1 &&
  0 < row.eventSequence &&
  ["applied", "rejected", "outcome_unknown"].contains row.outcome &&
  isJsonObject J row.responseJson &&
  0 < row.redactionVersion &&
  notBlank row.createdAt

structure CommitAttemptRow where
  id : String
  sessionId : String
  attemptNumber : Nat
  actionId : String
  expectedRevision : Nat
  planSha256 : String
  planJson : String
  phase : String
  redactionVersion : Nat
  createdAt : String
  updatedAt : String
  completedAt : Option String

def CommitAttemptRow.checks (J : SqliteJson) (row : CommitAttemptRow) : Bool :=
  notBlank row.id && 0 < row.attemptNumber && notBlank row.actionId &&
  isSqlDigest row.planSha256 &&
  isJsonObject J row.planJson &&
  ["prepared", "database_applied", "credential_reference_applied", "completed",
    "compensation_required", "compensating", "compensated", "outcome_unknown"].contains
    row.phase &&
  0 < row.redactionVersion &&
  notBlank row.createdAt && notBlank row.updatedAt &&
  ["completed", "compensated"].contains row.phase == row.completedAt.isSome

structure CompensationStepRow where
  id : String
  commitAttemptId : String
  ordinal : Nat
  actionId : String
  stepKind : String
  stepJson : String
  status : String
  attemptCount : Nat
  lastFailureJson : Option String
  redactionVersion : Nat
  createdAt : String
  updatedAt : String
  completedAt : Option String

def CompensationStepRow.checks (J : SqliteJson) (row : CompensationStepRow) : Bool :=
  notBlank row.id && notBlank row.actionId &&
  ["remove_credential_slot", "remove_connection_graph", "restore_previous_selection"].contains
    row.stepKind &&
  isJsonObject J row.stepJson &&
  ["pending", "in_progress", "completed", "failed", "outcome_unknown"].contains row.status &&
  nullOr (isJsonObject J) row.lastFailureJson &&
  0 < row.redactionVersion &&
  notBlank row.createdAt && notBlank row.updatedAt &&
  (row.status == "completed") == row.completedAt.isSome &&
  (row.status == "failed") == row.lastFailureJson.isSome

structure AuditRow where
  sessionId : String
  auditSequence : Nat
  sessionRevision : Nat
  auditKind : String
  actionId : Option String
  subjectId : Option String
  summaryKey : String
  createdAt : String

def AuditRow.checks (row : AuditRow) : Bool :=
  0 < row.auditSequence &&
  ["session_created", "transition_applied", "candidate_recorded", "approval_recorded",
    "operation_started", "operation_interrupted", "commit_prepared", "compensation_started",
    "unknown_outcome_reconciled"].contains row.auditKind &&
  1 ≤ sqlLength row.summaryKey && sqlLength row.summaryKey ≤ 128 &&
  notBlank row.createdAt

/-! ### The store -/

/-- The tables a durable transition touches, and the keys its foreign keys point to. -/
structure Store where
  connections : List String
  candidates : List (String × String)
  sessions : Table String SessionRow SessionRow.id
  approvals : Table String ApprovalRow ApprovalRow.id
  operations : Table String OperationRow OperationRow.id
  outbox : Table String OutboxRow OutboxRow.id
  receipts : Table String ReceiptRow ReceiptRow.actionId
  commitAttempts : Table String CommitAttemptRow CommitAttemptRow.id
  compensationSteps : Table String CompensationStepRow CompensationStepRow.id
  auditLog : Table (String × Nat) AuditRow fun row => (row.sessionId, row.auditSequence)

/-- Binding an unsigned integer, which has to fit a signed 64-bit column. -/
def bindU64 (values : List Nat) : Except SqliteError Unit :=
  require (∀ value ∈ values, value ≤ i64Max) .integerOutOfRange

/-- `INSERT` into a keyed table: the row's checks, the unique keys beyond the primary one
    (`clash`), the primary key, the foreign keys. -/
def insertRow {κ ρ : Type} [DecidableEq κ] {key : ρ → κ} (table : Table κ ρ key) (row : ρ)
    (checks : Bool) (clash : ρ → Bool) (foreign : Bool) : Except SqliteError (Table κ ρ key) := do
  require checks .checkConstraint
  require (∀ x ∈ table.rows, clash x = false) .uniqueConstraint
  let inserted ← okOr (table.insert? row) .uniqueConstraint
  require foreign .foreignKeyConstraint
  return inserted

variable (J : SqliteJson)

/-- The session a row refers to exists. -/
def Store.hasSession (store : Store) (id : String) : Bool := (store.sessions.find? id).isSome

def Store.insertApproval (store : Store) (row : ApprovalRow) : Except SqliteError Store := do
  bindU64 [row.sessionRevision]
  let approvals ← insertRow store.approvals row (row.checks J) (fun _ => false)
    (store.hasSession row.sessionId &&
      row.candidateId.all fun id => store.candidates.contains (row.sessionId, id))
  return { store with approvals }

def Store.insertOperation (store : Store) (row : OperationRow) : Except SqliteError Store := do
  bindU64 [row.expectedRevision]
  let operations ← insertRow store.operations row row.checks
    (fun x => x.sessionId == row.sessionId && x.actionId == row.actionId)
    (store.hasSession row.sessionId &&
      row.approvalId.all fun id => (store.approvals.find? id).isSome)
  return { store with operations }

def Store.insertOutbox (store : Store) (row : OutboxRow) : Except SqliteError Store := do
  bindU64 [row.sequence, row.sessionRevision]
  let outbox ← insertRow store.outbox row (row.checks J)
    (fun x => x.sessionId == row.sessionId &&
      (x.sequence == row.sequence || x.sessionRevision == row.sessionRevision))
    (store.hasSession row.sessionId)
  return { store with outbox }

def Store.insertReceipt (store : Store) (row : ReceiptRow) : Except SqliteError Store := do
  bindU64 [row.expectedRevision, row.resultingRevision, row.eventSequence]
  let receipts ← insertRow store.receipts row (row.checks J)
    (fun x => x.sessionId == row.sessionId &&
      (x.actionId == row.actionId || x.resultingRevision == row.resultingRevision ||
        x.eventSequence == row.eventSequence))
    (store.hasSession row.sessionId && (store.outbox.find? row.eventId).isSome)
  return { store with receipts }

def Store.insertCommitAttempt (store : Store) (row : CommitAttemptRow) :
    Except SqliteError Store := do
  bindU64 [row.expectedRevision]
  let commitAttempts ← insertRow store.commitAttempts row (row.checks J)
    (fun x => x.sessionId == row.sessionId &&
      (x.attemptNumber == row.attemptNumber || x.actionId == row.actionId ||
        x.planSha256 == row.planSha256))
    (store.hasSession row.sessionId)
  return { store with commitAttempts }

def Store.insertCompensationStep (store : Store) (row : CompensationStepRow) :
    Except SqliteError Store := do
  let compensationSteps ← insertRow store.compensationSteps row (row.checks J)
    (fun x => x.commitAttemptId == row.commitAttemptId &&
      (x.ordinal == row.ordinal || x.actionId == row.actionId))
    (store.commitAttempts.find? row.commitAttemptId).isSome
  return { store with compensationSteps }

def Store.insertAudit (store : Store) (row : AuditRow) : Except SqliteError Store := do
  bindU64 [row.auditSequence, row.sessionRevision]
  let auditLog ← insertRow store.auditLog row row.checks (fun _ => false)
    (store.hasSession row.sessionId)
  return { store with auditLog }

/-- `UPDATE provider_discovery_sessions … WHERE id = ? AND revision = ? AND
    next_event_sequence = ?`, under the revision guard: how many rows changed, and the store. -/
def Store.updateSession (store : Store) (expectedRevision eventSequence : Nat)
    (new : SessionRow) : Except SqliteError (Nat × Store) := do
  bindU64 [new.revision, new.nextEventSequence, expectedRevision, eventSequence]
  match store.sessions.find? new.id with
  | some old =>
    if old.revision = expectedRevision ∧ old.nextEventSequence = eventSequence then do
      require (new.revision = old.revision + 1 ∧
        new.nextEventSequence = old.nextEventSequence + 1) .triggerAbort
      require (new.checks J) .checkConstraint
      require (new.committedConnectionId.all fun id => store.connections.contains id)
        .foreignKeyConstraint
      return (1, { store with sessions := store.sessions.update new })
    else return (0, store)
  | none => return (0, store)

/-- `UPDATE provider_discovery_operations … WHERE id = ? AND status = ?`, under the guard on
    legal status changes. -/
def Store.updateOperation (store : Store) (status : String) (new : OperationRow) :
    Except SqliteError (Nat × Store) :=
  match store.operations.find? new.id with
  | some old =>
    if old.status = status then do
      require (old.legalTransition new) .triggerAbort
      require new.checks .checkConstraint
      return (1, { store with operations := store.operations.update new })
    else return (0, store)
  | none => return (0, store)

/-! ### What a write leaves alone

The log of a session is its row, its outbox events and its receipts.  Every other ledger
write keeps all three. -/

/-- The two stores hold the same sessions, outbox and receipts. -/
structure SameLog (store store' : Store) : Prop where
  sessions : store'.sessions = store.sessions
  outbox : store'.outbox = store.outbox
  receipts : store'.receipts = store.receipts

theorem SameLog.refl (store : Store) : SameLog store store := ⟨rfl, rfl, rfl⟩

theorem SameLog.trans (h : SameLog s₁ s₂) (h' : SameLog s₂ s₃) :
    SameLog s₁ s₃ :=
  ⟨h'.sessions.trans h.sessions, h'.outbox.trans h.outbox, h'.receipts.trans h.receipts⟩

section Writes

variable {J} {store store' : Store}

theorem insertRow_ok {κ ρ : Type} [DecidableEq κ] {key : ρ → κ} {table table' : Table κ ρ key}
    {row : ρ} {checks foreign : Bool} {clash : ρ → Bool}
    (h : insertRow table row checks clash foreign = .ok table') :
    checks = true ∧ (∀ x ∈ table.rows, key x ≠ key row) ∧ table'.rows = table.rows ++ [row] := by
  obtain ⟨_, hchecks, _, _, h⟩ := steps₂ h
  obtain ⟨inserted, hins, _, _, h⟩ := steps₂ h
  rw [require_ok] at hchecks
  rw [okOr_ok, Table.insert?_eq_some] at hins
  rw [← pure_inj h]
  exact ⟨hchecks, hins⟩

theorem Store.insertApproval_sameLog {row : ApprovalRow}
    (h : store.insertApproval J row = .ok store') : SameLog store store' := by
  obtain ⟨_, _, _, _, h⟩ := steps₂ h
  rw [← pure_inj h]
  exact ⟨rfl, rfl, rfl⟩

theorem Store.insertOperation_sameLog {row : OperationRow}
    (h : store.insertOperation row = .ok store') : SameLog store store' := by
  obtain ⟨_, _, _, _, h⟩ := steps₂ h
  rw [← pure_inj h]
  exact ⟨rfl, rfl, rfl⟩

theorem Store.insertCommitAttempt_sameLog {row : CommitAttemptRow}
    (h : store.insertCommitAttempt J row = .ok store') : SameLog store store' := by
  obtain ⟨_, _, _, _, h⟩ := steps₂ h
  rw [← pure_inj h]
  exact ⟨rfl, rfl, rfl⟩

theorem Store.insertCompensationStep_sameLog {row : CompensationStepRow}
    (h : store.insertCompensationStep J row = .ok store') : SameLog store store' := by
  obtain ⟨_, _, h⟩ := bind_ok.mp h
  rw [← pure_inj h]
  exact ⟨rfl, rfl, rfl⟩

theorem Store.insertAudit_sameLog {row : AuditRow}
    (h : store.insertAudit row = .ok store') : SameLog store store' := by
  obtain ⟨_, _, _, _, h⟩ := steps₂ h
  rw [← pure_inj h]
  exact ⟨rfl, rfl, rfl⟩

theorem Store.updateOperation_sameLog {new : OperationRow}
    (h : store.updateOperation status new = .ok (changed, store')) : SameLog store store' := by
  unfold Store.updateOperation at h
  split at h
  · split at h
    · obtain ⟨_, _, _, _, h⟩ := steps₂ h
      cases pure_inj h
      exact ⟨rfl, rfl, rfl⟩
    · cases pure_inj h
      exact .refl store
  · cases pure_inj h
    exact .refl store

/-- A new outbox row is appended, under a fresh event id. -/
theorem Store.insertOutbox_ok {row : OutboxRow} (h : store.insertOutbox J row = .ok store') :
    store'.sessions = store.sessions ∧ store'.receipts = store.receipts ∧
      store'.outbox.rows = store.outbox.rows ++ [row] := by
  obtain ⟨_, _, outbox, hins, h⟩ := steps₂ h
  rw [← pure_inj h]
  exact ⟨rfl, rfl, (insertRow_ok hins).2.2⟩

/-- A new receipt is appended, under a fresh action id. -/
theorem Store.insertReceipt_ok {row : ReceiptRow} (h : store.insertReceipt J row = .ok store') :
    store'.sessions = store.sessions ∧ store'.outbox = store.outbox ∧
      (∀ x ∈ store.receipts.rows, x.actionId ≠ row.actionId) ∧
      store'.receipts.rows = store.receipts.rows ++ [row] := by
  obtain ⟨_, _, receipts, hins, h⟩ := steps₂ h
  rw [← pure_inj h]
  exact ⟨rfl, rfl, (insertRow_ok hins).2⟩

/-- An update that changed a row moved the session's revision and sequence by exactly one. -/
theorem Store.updateSession_eq_one {new : SessionRow}
    (h : store.updateSession J expectedRevision eventSequence new = .ok (1, store')) :
    ∃ old, store.sessions.find? new.id = some old ∧
      new.revision = old.revision + 1 ∧ new.nextEventSequence = old.nextEventSequence + 1 ∧
      store'.sessions = store.sessions.update new ∧
      store'.outbox = store.outbox ∧ store'.receipts = store.receipts := by
  obtain ⟨_, _, h⟩ := bind_ok.mp h
  split at h
  case h_1 old hold =>
    split at h
    · obtain ⟨_, hguard, _, _, _, _, h⟩ := steps₃ h
      rw [require_ok] at hguard
      cases pure_inj h
      exact ⟨old, hold, hguard.1, hguard.2, rfl, rfl, rfl⟩
    · cases pure_inj h
  case h_2 => cases pure_inj h

end Writes

end LorePia.DiscoveryStore
