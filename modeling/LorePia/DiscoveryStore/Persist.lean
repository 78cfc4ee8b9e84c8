import LorePia.DiscoveryStore.Transition

namespace LorePia.DiscoveryStore

open Lib Discovery Store

/-!
# The discovery store — persisting a transition

`persistDiscoveryTransitionInTransaction` in the source's order: redaction, the replay check
against the stored receipts, the shape, the compare-and-set on revision and event sequence,
the ledgers, and then the session update, the outbox event, the receipt and the audit trail.

* `persist_cases` — a call either replays a stored receipt and changes nothing, or applies a
    transition, which moves one session by one revision and appends one event and one
    receipt;
* `persist_of_receipt` — what a call does when its action id has a receipt already.
-/

variable (X : StoreExternals)

/-- A statement inside the transaction; its failure is the caller's `Database` error. -/
def execute {α : Type} (statement : Except SqliteError α) : Except DiscoveryStorageError α :=
  statement.mapError .database

/-! ### The ledgers -/

def operationKindForState : String → Option String
  | "resolving_known_provider" => some "resolve_known_provider"
  | "fetching_documents" => some "fetch_documents"
  | "extracting_evidence" => some "extract_evidence"
  | "building_deterministic_manifest_draft" => some "build_deterministic_manifest_draft"
  | "building_assistant_manifest_draft" => some "build_assistant_manifest_draft"
  | "validating_manifest" => some "validate_manifest"
  | "listing_models" => some "list_models"
  | "probing_capabilities" => some "probe_capabilities"
  | "committing" => some "atomic_commit"
  | "compensating" => some "compensation"
  | _ => none

def expectedSideEffectClass : String → Option String
  | "build_deterministic_manifest_draft" => some "local_deterministic"
  | "resolve_known_provider" | "fetch_documents" | "extract_evidence" | "validate_manifest"
  | "list_models" => some "read_only"
  | "build_assistant_manifest_draft" | "probe_capabilities" => some "billable_external"
  | "atomic_commit" | "compensation" => some "persistent"
  | _ => none

/-- The outcomes an operation may be completed with, by its status and class. -/
def outcomeAllowed (operation : OperationRow) : DurableOperationOutcome → Bool
  | .succeeded | .failed | .outcomeUnknown => operation.status == "started"
  | .interrupted =>
    operation.status == "prepared" || (operation.status == "started" &&
        ["local_deterministic", "read_only"].contains operation.sideEffectClass)

/-- The row of a completed operation. -/
def OperationRow.complete (operation : OperationRow) (outcome : DurableOperationOutcome)
    (occurredAt : String) : OperationRow :=
  { operation with
    status := outcome.asStr
    startedAt :=
      if outcome = .interrupted ∧ operation.status = "prepared" then
        some (operation.startedAt.getD occurredAt)
      else operation.startedAt
    finishedAt := some occurredAt
    updatedAt := occurredAt }

def completeOperationInTransaction (store : Store) (t : DurableDiscoveryTransition)
    (currentState : String) (activeOperationId : Option String)
    (completed : CompletedDiscoveryOperation) : Except DiscoveryStorageError Store := do
  let expectedKind ← okOr (operationKindForState currentState)
    (.invalidTransition "session state has no operation to complete")
  let operation ← okOr (store.operations.find? completed.id)
    (.invalidTransition "operation to complete does not exist")
  require (activeOperationId = some completed.id ∧ operation.sessionId = t.sessionId ∧
      operation.operationKind = expectedKind)
    (.invalidTransition "operation does not match the active session operation and state")
  require (outcomeAllowed operation completed.outcome)
    (.invalidTransition "operation status or side-effect class cannot produce that outcome")
  let updated ← execute (store.updateOperation operation.status
    (operation.complete completed.outcome t.occurredAt))
  require (updated.1 = 1) (.invalidTransition "operation changed concurrently before completion")
  return updated.2

/-- Whether the action ends the operation the session is running. -/
def actionCompletesOperation (current : SessionRow) (t : DurableDiscoveryTransition) : Bool :=
  current.activeOperationId.isSome && !(["cancel", "assistant_checkpointed"].contains t.actionKind)

/-- The completion a request carries, if the session has one to make. -/
def completeActiveOperation (store : Store) (t : DurableDiscoveryTransition)
    (current : SessionRow) : Except DiscoveryStorageError Store := do
  require (actionCompletesOperation current t = t.completedOperation.isSome)
    (.invalidTransition "operation completion must be persisted with its session transition")
  match t.completedOperation with
  | none => return store
  | some completed => do
    require (current.activeOperationId = some completed.id)
      (.invalidTransition "operation completion must target the session's active operation")
    completeOperationInTransaction store t current.state current.activeOperationId completed

/-- The loop over the compensation steps of a new attempt. -/
def insertCompensationSteps (t : DurableDiscoveryTransition) (commit : NewDiscoveryCommitAttempt) :
    Store → List NewDiscoveryCompensationStep → Except DiscoveryStorageError Store
  | store, [] => .ok store
  | store, step :: steps => do
    let store ← execute (store.insertCompensationStep X.sqlite
      { id := step.id
        commitAttemptId := commit.id
        ordinal := step.ordinal
        actionId := step.actionId
        stepKind := step.stepKind
        stepJson := step.stepJson
        status := "pending"
        attemptCount := 0
        lastFailureJson := none
        redactionVersion := 1
        createdAt := t.occurredAt
        updatedAt := t.occurredAt
        completedAt := none })
    insertCompensationSteps t commit store steps

def insertCommitAttempt (store : Store) (t : DurableDiscoveryTransition)
    (commit : NewDiscoveryCommitAttempt) : Except DiscoveryStorageError Store := do
  require (t.commitAttemptId = some commit.id ∧ t.commitPlanSha256 = some commit.planSha256)
    (.invalidTransition "commit attempt must match the session transition")
  if commit.reuseExisting then do
    require (commit.compensationSteps = [])
      (.invalidTransition "reused commit attempt cannot replace compensation steps")
    let existing ← okOr (store.commitAttempts.find? commit.id)
      (.invalidTransition "commit attempt to restart does not exist")
    require (existing.sessionId = t.sessionId ∧ existing.attemptNumber = commit.attemptNumber ∧
        existing.planSha256 = commit.planSha256 ∧ existing.planJson = commit.planJson ∧
        existing.phase = "prepared")
      (.invalidTransition "commit restart does not match the prepared attempt")
    return store
  else do
    let store ← execute (store.insertCommitAttempt X.sqlite
      { id := commit.id
        sessionId := t.sessionId
        attemptNumber := commit.attemptNumber
        actionId := t.actionId
        expectedRevision := t.expectedRevision
        planSha256 := commit.planSha256
        planJson := commit.planJson
        phase := "prepared"
        redactionVersion := 1
        createdAt := t.occurredAt
        updatedAt := t.occurredAt
        completedAt := none })
    insertCompensationSteps X t commit store commit.compensationSteps

def insertApproval (store : Store) (t : DurableDiscoveryTransition)
    (approval : NewDiscoveryApproval) : Except DiscoveryStorageError Store :=
  execute (store.insertApproval X.sqlite
    { id := approval.id
      sessionId := t.sessionId
      approvalKind := approval.approvalKind
      candidateId := approval.candidateId
      decision := approval.decision
      grantJson := approval.grantJson
      sessionRevision := t.expectedRevision
      grantSha256 := X.sha256Hex approval.grantJson
      redactionVersion := 1
      createdAt := t.occurredAt })

/-- The kind of approval a billable operation needs. -/
def requiredApprovalKind : String → Option String
  | "build_assistant_manifest_draft" => some "assistant_consent"
  | "probe_capabilities" => some "capability_probe"
  | _ => none

/-- The typed grant is of the kind the operation needs. -/
def typedKindMatches : String → DiscoveryApprovalGrant → Bool
  | "assistant_consent", .assistantConsent .. => true
  | "capability_probe", .capabilityProbe .. => true
  | _, _ => false

def validateBillableApproval (store : Store) (t : DurableDiscoveryTransition)
    (approvalKind approvalId grantSha256 : String) : Except DiscoveryStorageError Unit := do
  let approval ← okOr ((store.approvals.find? approvalId).filter fun row =>
      row.sessionId = t.sessionId)
    (.invalidTransition "billable operation approval does not exist in this session")
  require (approval.approvalKind = approvalKind ∧ approval.decision = "approved" ∧
      approval.grantSha256 = grantSha256 ∧ X.sha256Hex approval.grantJson = grantSha256)
    (.invalidTransition "billable operation is not bound to the exact approved grant")
  let typed ← okOr (X.approvalGrant.decode approval.grantJson)
    (.invalidTransition "billable operation approval grant is not typed")
  require (typedKindMatches approvalKind typed ∧ typed.validate = .ok () ∧
      X.approvalGrant.encode typed = some approval.grantJson)
    (.invalidTransition "billable operation approval grant does not match its effect")

def validateOperationApproval (store : Store) (t : DurableDiscoveryTransition)
    (operation : NewDiscoveryOperation) : Except DiscoveryStorageError Unit :=
  match requiredApprovalKind operation.operationKind, operation.approvalId,
    operation.approvalGrantSha256 with
  | some approvalKind, some approvalId, some grantSha256 =>
    validateBillableApproval X store t approvalKind approvalId grantSha256
  | some _, _, _ =>
    .error (.invalidTransition "billable operation must bind an approval id and grant hash")
  | none, none, none => .ok ()
  | none, _, _ =>
    .error (.invalidTransition "non-billable operation cannot carry a billable approval binding")

def insertOperation (store : Store) (t : DurableDiscoveryTransition)
    (operation : NewDiscoveryOperation) : Except DiscoveryStorageError Store := do
  require (expectedSideEffectClass operation.operationKind = some operation.sideEffectClass)
    (.invalidTransition "operation side-effect class does not match its kind")
  validateOperationApproval X store t operation
  execute (store.insertOperation
    { id := operation.id
      sessionId := t.sessionId
      operationKind := operation.operationKind
      sideEffectClass := operation.sideEffectClass
      status := "prepared"
      actionId := t.actionId
      expectedRevision := t.resultingRevision
      requestSha256 := t.requestSha256
      approvalId := operation.approvalId
      approvalGrantSha256 := operation.approvalGrantSha256
      startedAt := none
      finishedAt := none
      createdAt := t.occurredAt
      updatedAt := t.occurredAt })

/-- A ledger write for a part of the request that may be absent. -/
def withSome {α : Type} (write : Store → α → Except DiscoveryStorageError Store) (store : Store) :
    Option α → Except DiscoveryStorageError Store
  | none => .ok store
  | some value => write store value

/-- The writes around the session, in order: the completed operation, the commit attempt, the
    approval, the new operation. -/
def persistLedgers (store : Store) (t : DurableDiscoveryTransition) (current : SessionRow) :
    Except DiscoveryStorageError Store := do
  let store ← completeActiveOperation store t current
  let store ← withSome (fun store => insertCommitAttempt X store t) store t.commit
  let store ← withSome (fun store => insertApproval X store t) store t.approval
  withSome (fun store => insertOperation X store t) store t.operation

/-! ### The session row -/

def parseActiveEffectApproval (json : String) :
    Except DiscoveryStorageError DiscoveryApprovalBinding := do
  let binding ← okOr (X.approvalBinding.decode json)
    (.invalidTransition "active effect approval JSON is not a typed binding")
  binding.validate.mapError fun _ =>
    .invalidTransition "active effect approval binding is invalid"
  let canonical ← okOr (X.approvalBinding.encode binding)
    (.invalidTransition "active effect approval could not be canonicalized")
  require (canonical = json) (.invalidTransition "active effect approval JSON must be canonical")
  return binding

/-- `DiscoveryApprovalId::parse`. -/
def parseApprovalId (value : String) : Option DiscoveryApprovalId :=
  if h : validOpaqueId value = true then some ⟨value, h⟩ else none

/-- The binding of a new billable operation, serialized. -/
def encodeNewBinding (approvalId grantSha256 : String) :
    Except DiscoveryStorageError (Option String) := do
  let approvalId ← okOr (parseApprovalId approvalId)
    (.invalidTransition "active effect approval id is invalid")
  let binding : DiscoveryApprovalBinding := ⟨approvalId, grantSha256⟩
  binding.validate.mapError fun _ =>
    .invalidTransition "active effect approval hash is invalid"
  let json ← okOr (X.approvalBinding.encode binding)
    (.invalidTransition "active effect approval could not be serialized")
  return some json

/-- The states that keep the approval of a billable effect. -/
def keepsActiveEffectApproval (state : String) : Bool :=
  ["building_assistant_manifest_draft", "probing_capabilities", "interrupted",
    "unknown_outcome"].contains state

/-- Serialize the binding a session keeps. -/
def encodeKeptBinding : Option DiscoveryApprovalBinding →
    Except DiscoveryStorageError (Option String)
  | none => .ok none
  | some binding => do
    let json ← okOr (X.approvalBinding.encode binding)
      (.invalidTransition "active effect approval could not be serialized")
    return some json

/-- Parse the binding a session holds. -/
def parseCurrentBinding : Option String →
    Except DiscoveryStorageError (Option DiscoveryApprovalBinding)
  | none => .ok none
  | some json => do
    let binding ← parseActiveEffectApproval X json
    return some binding

def resultingActiveEffectApprovalJson (t : DurableDiscoveryTransition)
    (currentJson : Option String) : Except DiscoveryStorageError (Option String) := do
  let current ← parseCurrentBinding X currentJson
  match t.operation with
  | some operation =>
    match operation.approvalId, operation.approvalGrantSha256 with
    | some approvalId, some grantSha256 => encodeNewBinding X approvalId grantSha256
    | none, none => .ok none
    | _, _ => .error (.invalidTransition "active effect approval binding is incomplete")
  | none => if keepsActiveEffectApproval t.state then encodeKeptBinding X current else .ok none

/-- The operation a session runs after the transition. -/
def resultingActiveOperationId (t : DurableDiscoveryTransition) (current : SessionRow) :
    Option String :=
  match t.operation with
  | some operation => some operation.id
  | none => if t.completedOperation.isSome then none else current.activeOperationId

/-- The row the transition writes over the session. -/
def DurableDiscoveryTransition.sessionRow (t : DurableDiscoveryTransition) (current : SessionRow)
    (activeEffectApprovalJson : Option String) : SessionRow where
  id := t.sessionId
  state := t.state
  revision := t.resultingRevision
  nextEventSequence := t.nextEventSequence
  draftJson := t.draftJson
  reviewDiffJson := t.reviewDiffJson
  errorJson := t.errorJson
  recoveryJson := t.recoveryJson
  unknownOperation := t.unknownOperation
  manifestSha256 := t.manifestSha256
  commitPlanSha256 := t.commitPlanSha256
  commitAttemptId := t.commitAttemptId
  committedConnectionId := t.committedConnectionId
  cancellationPending := t.cancellationPending
  activeOperationId := resultingActiveOperationId t current
  activeEffectApprovalJson := activeEffectApprovalJson
  updatedAt := t.occurredAt

/-- The compare-and-set on the session, and the conflict it reports when it missed. -/
def updateSession (store : Store) (t : DurableDiscoveryTransition) (row : SessionRow) :
    Except DiscoveryStorageError Store := do
  let updated ← execute (store.updateSession X.sqlite t.expectedRevision t.eventSequence row)
  if updated.1 = 1 then return updated.2
  else do
    let actual ← okOr (updated.2.sessions.find? t.sessionId) (.sessionNotFound t.sessionId)
    .error (.revisionConflict t.expectedRevision actual.revision)

/-! ### The log -/

def DurableDiscoveryTransition.outboxRow (t : DurableDiscoveryTransition) : OutboxRow where
  id := t.eventId
  sessionId := t.sessionId
  sequence := t.eventSequence
  eventVersion := t.eventVersion
  sessionRevision := t.resultingRevision
  state := t.state
  eventJson := t.eventJson
  redactionVersion := 1
  deliveryAttempts := 0
  availableAt := t.occurredAt
  deliveredAt := none
  createdAt := t.occurredAt

def DurableDiscoveryTransition.receiptRow (t : DurableDiscoveryTransition) : ReceiptRow where
  actionId := t.actionId
  sessionId := t.sessionId
  actionKind := t.actionKind
  requestSha256 := t.requestSha256
  expectedRevision := t.expectedRevision
  resultingRevision := t.resultingRevision
  eventId := t.eventId
  eventSequence := t.eventSequence
  outcome := t.receiptOutcome
  responseJson := t.responseJson
  redactionVersion := 1
  createdAt := t.occurredAt

/-- `COALESCE(MAX(audit_sequence), 0) + 1` over the session's audit rows. -/
def nextAuditSequence (store : Store) (sessionId : String) : Nat :=
  ((store.auditLog.rows.filter fun row => row.sessionId = sessionId).map
    AuditRow.auditSequence).foldl max 0 + 1

def appendAudit (store : Store) (t : DurableDiscoveryTransition)
    (entry : String × String × String) : Except DiscoveryStorageError Store :=
  execute (store.insertAudit
    { sessionId := t.sessionId
      auditSequence := nextAuditSequence store t.sessionId
      sessionRevision := t.resultingRevision
      auditKind := entry.1
      actionId := some t.actionId
      subjectId := some entry.2.1
      summaryKey := entry.2.2
      createdAt := t.occurredAt })

/-- The audit entries of a transition: kind, subject and summary, in order. -/
def DurableDiscoveryTransition.auditEntries (t : DurableDiscoveryTransition) :
    List (String × String × String) :=
  [(t.auditKind, t.eventId, t.auditSummaryKey)] ++
  (t.approval.map fun approval =>
    ("approval_recorded", approval.id, "discovery.audit.approval_recorded")).toList ++
  (t.commit.map fun commit =>
    ("commit_prepared", commit.id, "discovery.audit.commit_prepared")).toList ++
  ((t.completedOperation.filter fun completed =>
      completed.outcome = .interrupted ∨ completed.outcome = .outcomeUnknown).map fun completed =>
    ("operation_interrupted", completed.id, "discovery.audit.operation_interrupted")).toList

def appendAudits (t : DurableDiscoveryTransition) :
    Store → List (String × String × String) → Except DiscoveryStorageError Store
  | store, [] => .ok store
  | store, entry :: entries => do
    let store ← appendAudit store t entry
    appendAudits t store entries

/-! ### The transaction -/

/-- A request whose action id has no receipt yet. -/
def persistNewTransition (store : Store) (t : DurableDiscoveryTransition) :
    Except DiscoveryStorageError (PersistDiscoveryTransition × Store) := do
  validateTransitionShape t
  let current ← okOr (store.sessions.find? t.sessionId) (.sessionNotFound t.sessionId)
  require (current.revision = t.expectedRevision)
    (.revisionConflict t.expectedRevision current.revision)
  require (current.nextEventSequence = t.eventSequence)
    (.invalidTransition "event sequence does not match the session allocation")
  forSome (validateApprovalGrantBinding X t current.unknownOperation) t.approval
  let store ← persistLedgers X store t current
  let approvalJson ← resultingActiveEffectApprovalJson X t current.activeEffectApprovalJson
  let store ← updateSession X store t (t.sessionRow current approvalJson)
  let store ← execute (store.insertOutbox X.sqlite t.outboxRow)
  let store ← execute (store.insertReceipt X.sqlite t.receiptRow)
  let store ← appendAudits t store t.auditEntries
  return (.applied t.resultingRevision t.eventSequence, store)

/-- The request is the one a receipt was stored for. -/
def ReceiptRow.Answers (receipt : ReceiptRow) (t : DurableDiscoveryTransition) : Prop :=
  receipt.sessionId = t.sessionId ∧ receipt.requestSha256 = t.requestSha256 ∧
    receipt.actionKind = t.actionKind ∧ receipt.resultingRevision = t.resultingRevision

instance (receipt : ReceiptRow) (t : DurableDiscoveryTransition) : Decidable (receipt.Answers t) :=
  inferInstanceAs (Decidable (_ ∧ _))

def persistDiscoveryTransitionInTransaction (store : Store) (t : DurableDiscoveryTransition) :
    Except DiscoveryStorageError (PersistDiscoveryTransition × Store) := do
  validateTransitionRedaction X t
  match store.receipts.find? t.actionId with
  | some receipt => do
    require (receipt.Answers t) (.idempotencyConflict t.actionId)
    return (.replayed receipt.resultingRevision receipt.eventSequence receipt.responseJson, store)
  | none => persistNewTransition X store t

/-- `persist_discovery_transition`: the call as one transaction, committed on success and
    rolled back on an error. -/
def persistDiscoveryTransition (store : Store) (t : DurableDiscoveryTransition) :
    Except DiscoveryStorageError PersistDiscoveryTransition × Store :=
  match persistDiscoveryTransitionInTransaction X store t with
  | .ok (result, store') => (.ok result, store')
  | .error error => (.error error, store)

/-! ### What the ledgers leave alone -/

section Frames

variable {X}

@[simp] theorem execute_ok {α : Type} {statement : Except SqliteError α} {a : α} :
    execute statement = .ok a ↔ statement = .ok a := by
  rw [execute, mapError_ok]

theorem completeOperationInTransaction_sameLog {state : String} {active : Option String}
    {completed : CompletedDiscoveryOperation}
    (h : completeOperationInTransaction store t state active completed = .ok store') :
    SameLog store store' := by
  obtain ⟨_, _, operation, _, h⟩ := steps₂ h
  obtain ⟨_, _, h⟩ := rest₂ h
  obtain ⟨updated, hupdate, _, _, h⟩ := steps₂ h
  rw [execute_ok] at hupdate
  rw [← pure_inj h]
  exact updateOperation_sameLog hupdate

theorem completeActiveOperation_sameLog {current : SessionRow}
    (h : completeActiveOperation store t current = .ok store') : SameLog store store' := by
  obtain ⟨_, _, h⟩ := bind_ok.mp h
  split at h
  · rw [← pure_inj h]
    exact .refl store
  · obtain ⟨_, _, h⟩ := bind_ok.mp h
    exact completeOperationInTransaction_sameLog h

theorem insertCompensationSteps_sameLog {commit : NewDiscoveryCommitAttempt}
    {steps : List NewDiscoveryCompensationStep}
    (h : insertCompensationSteps X t commit store steps = .ok store') : SameLog store store' := by
  induction steps generalizing store with
  | nil =>
    cases h
    exact .refl _
  | cons step steps ih =>
    obtain ⟨store₁, hstep, h⟩ := bind_ok.mp h
    rw [execute_ok] at hstep
    have hfirst : SameLog store store₁ := insertCompensationStep_sameLog hstep
    exact hfirst.trans (ih h)

theorem insertCommitAttempt_sameLog {commit : NewDiscoveryCommitAttempt}
    (h : insertCommitAttempt X store t commit = .ok store') : SameLog store store' := by
  obtain ⟨_, _, h⟩ := bind_ok.mp h
  split at h
  · obtain ⟨_, _, _, h⟩ := rest₃ h
    rw [← pure_inj h]
    exact .refl store
  · obtain ⟨store₁, hattempt, h⟩ := bind_ok.mp h
    rw [execute_ok] at hattempt
    have hfirst : SameLog store store₁ := Store.insertCommitAttempt_sameLog hattempt
    exact hfirst.trans (insertCompensationSteps_sameLog h)

theorem insertApproval_sameLog {approval : NewDiscoveryApproval}
    (h : insertApproval X store t approval = .ok store') : SameLog store store' := by
  rw [insertApproval, execute_ok] at h
  exact Store.insertApproval_sameLog h

theorem insertOperation_sameLog {operation : NewDiscoveryOperation}
    (h : insertOperation X store t operation = .ok store') : SameLog store store' := by
  obtain ⟨_, _, h⟩ := rest₂ h
  rw [execute_ok] at h
  exact Store.insertOperation_sameLog h

theorem withSome_sameLog {α : Type} {write : Store → α → Except DiscoveryStorageError Store}
    {value : Option α} (hwrite : ∀ a, write store a = .ok store' → SameLog store store')
    (h : withSome write store value = .ok store') : SameLog store store' := by
  cases value with
  | none =>
    cases h
    exact .refl store
  | some a => exact hwrite a h

/-- The ledger writes keep the log. -/
theorem persistLedgers_sameLog {current : SessionRow}
    (h : persistLedgers X store t current = .ok store') : SameLog store store' := by
  obtain ⟨store₁, hcompl, store₂, hcommit, store₃, happroval, h⟩ := steps₃ h
  have h₁ : SameLog store store₁ := completeActiveOperation_sameLog hcompl
  have h₂ : SameLog store₁ store₂ := withSome_sameLog (fun _ => insertCommitAttempt_sameLog) hcommit
  have h₃ : SameLog store₂ store₃ := withSome_sameLog (fun _ => insertApproval_sameLog) happroval
  have h₄ : SameLog store₃ store' := withSome_sameLog (fun _ => insertOperation_sameLog) h
  exact ((h₁.trans h₂).trans h₃).trans h₄

theorem appendAudits_sameLog {entries : List (String × String × String)}
    (h : appendAudits t store entries = .ok store') : SameLog store store' := by
  induction entries generalizing store with
  | nil =>
    cases h
    exact .refl _
  | cons entry entries ih =>
    obtain ⟨store₁, hent, h⟩ := bind_ok.mp h
    rw [appendAudit, execute_ok] at hent
    have hfirst : SameLog store store₁ := insertAudit_sameLog hent
    exact hfirst.trans (ih h)

/-- A compare-and-set that went through moved exactly the session of the request. -/
theorem updateSession_ok {row : SessionRow} (h : updateSession X store t row = .ok store') :
    ∃ old, store.sessions.find? row.id = some old ∧
      row.revision = old.revision + 1 ∧ row.nextEventSequence = old.nextEventSequence + 1 ∧
      store'.sessions = store.sessions.update row ∧
      store'.outbox = store.outbox ∧ store'.receipts = store.receipts := by
  obtain ⟨⟨changed, updated⟩, hupdate, h⟩ := bind_ok.mp h
  rw [execute_ok] at hupdate
  split at h
  case isTrue hone =>
    subst hone
    rw [← pure_inj h]
    exact updateSession_eq_one hupdate
  case isFalse =>
    obtain ⟨_, _, h⟩ := bind_ok.mp h
    cases h

end Frames

/-! ### What a call can do -/

/-- An applied transition, as the log sees it: a fresh action id, one session moved by one
    revision and one event number, one event and one receipt appended. -/
structure Applies (store : Store) (t : DurableDiscoveryTransition) (store' : Store) : Prop where
  fresh : store.receipts.find? t.actionId = none
  session : ∃ old new, store.sessions.find? t.sessionId = some old ∧ new.id = t.sessionId ∧
    old.nextEventSequence = t.eventSequence ∧ new.revision = old.revision + 1 ∧
    new.nextEventSequence = old.nextEventSequence + 1 ∧
    store'.sessions = store.sessions.update new
  outbox : store'.outbox.rows = store.outbox.rows ++ [t.outboxRow]
  receipts : store'.receipts.rows = store.receipts.rows ++ [t.receiptRow]

section Cases

variable {X} {result : PersistDiscoveryTransition}

theorem persistNewTransition_applies (hfresh : store.receipts.find? t.actionId = none)
    (h : persistNewTransition X store t = .ok (result, store')) :
    result = .applied t.resultingRevision t.eventSequence ∧ Applies store t store' := by
  obtain ⟨_, _, current, hcur, _, _, h⟩ := steps₃ h
  obtain ⟨_, hseq, _, _, store₁, hledgers, h⟩ := steps₃ h
  obtain ⟨approvalJson, _, store₂, hupdate, store₃, houtbox, h⟩ := steps₃ h
  obtain ⟨store₄, hreceipt, store₅, haudit, h⟩ := steps₂ h
  cases pure_inj h
  rw [okOr_ok] at hcur
  rw [require_ok] at hseq
  rw [execute_ok] at houtbox hreceipt
  -- the log after each write: ledgers, session, outbox, receipt, audit
  have hledgers : SameLog store store₁ := persistLedgers_sameLog hledgers
  obtain ⟨old, hold, hrev, hnext, hses₂, houtbox₂, hreceipts₂⟩ := updateSession_ok hupdate
  obtain ⟨hses₃, hreceipts₃, houtbox₃⟩ := insertOutbox_ok houtbox
  obtain ⟨hses₄, houtbox₄, _, hreceipts₄⟩ := insertReceipt_ok hreceipt
  have haudit : SameLog store₄ store' := appendAudits_sameLog haudit
  have hold : store.sessions.find? t.sessionId = some old := by
    rw [← hledgers.sessions]
    exact hold
  have hcur : current = old := Option.some.inj (hcur.symm.trans hold)
  refine ⟨rfl, hfresh, ⟨old, t.sessionRow current approvalJson, hold, rfl, ?_, hrev, hnext,
    ?_⟩, ?_, ?_⟩
  · rw [← hcur]
    exact hseq
  · rw [haudit.sessions, hses₄, hses₃, hses₂, hledgers.sessions]
  · rw [haudit.outbox, houtbox₄, houtbox₃, houtbox₂, hledgers.outbox]
  · rw [haudit.receipts, hreceipts₄, hreceipts₃, hreceipts₂, hledgers.receipts]

/-- **What a successful call did.** It found the receipt of the same request and changed
    nothing, or it applied the transition. -/
theorem persist_cases
    (h : persistDiscoveryTransitionInTransaction X store t = .ok (result, store')) :
    (∃ receipt, store.receipts.find? t.actionId = some receipt ∧ receipt.Answers t ∧
      result = .replayed receipt.resultingRevision receipt.eventSequence receipt.responseJson ∧
      store' = store) ∨
    (result = .applied t.resultingRevision t.eventSequence ∧ Applies store t store') := by
  obtain ⟨_, _, h⟩ := bind_ok.mp h
  split at h
  case h_1 receipt hreceipt =>
    obtain ⟨_, hanswers, h⟩ := bind_ok.mp h
    rw [require_ok] at hanswers
    cases pure_inj h
    exact .inl ⟨receipt, hreceipt, hanswers, rfl, rfl⟩
  case h_2 hnone => exact .inr (persistNewTransition_applies hnone h)

/-- **A reused action id.** Past the redaction check, the stored receipt decides the call. -/
theorem persist_of_receipt (hok : validateTransitionRedaction X t = .ok ())
    (hreceipt : store.receipts.find? t.actionId = some receipt) :
    persistDiscoveryTransitionInTransaction X store t = if receipt.Answers t then
        .ok (.replayed receipt.resultingRevision receipt.eventSequence receipt.responseJson, store)
      else .error (.idempotencyConflict t.actionId) := by
  simp only [persistDiscoveryTransitionInTransaction, hok, hreceipt, ok_bind]
  by_cases hanswers : receipt.Answers t
  · rw [if_pos hanswers, require_true hanswers]
    rfl
  · simp only [require, if_neg hanswers, error_bind]

/-- A request that fails the redaction check fails with that error, whatever the store. -/
theorem persist_of_redaction_error (h : validateTransitionRedaction X t = .error e) :
    persistDiscoveryTransitionInTransaction X store t = .error e := by
  rw [persistDiscoveryTransitionInTransaction, h, error_bind]

end Cases

end LorePia.DiscoveryStore
