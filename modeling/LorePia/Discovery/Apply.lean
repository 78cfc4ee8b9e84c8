import LorePia.Discovery.Validate

namespace LorePia.Discovery

open Lib

/-!
# Provider discovery — the transition function

`ProviderDiscoverySession.apply` evaluates one revision-checked action.  The source mutates
a copy `next` of the session together with an effect and a warning; here an arm returns the
three of them as a `StagedTransition`, and `apply` seals it with the revision, the event and
the receipt.

The transition table `applyStateAction` keeps the source's arms in the source's order, each
(state, action) pair matched once.
-/

variable (X : Externals)

/-- What an arm leaves behind: the successor under construction, its effect and warning. -/
structure StagedTransition where
  next : ProviderDiscoverySession
  effect : DiscoveryEffect := .none
  warning : Option DiscoveryWarning := none

def invalidTransition (state : DiscoveryState) (action : ProviderDiscoveryAction) :
    DiscoveryTransitionError :=
  .invalidTransition state action.kind

/-- A checked optional field that the session contract promises to be present. -/
def requiredField {α : Type} (value : Option α) (field reason : String) :
    Except DiscoveryTransitionError α :=
  okOr value (.invalidSession ⟨field, reason⟩)

/-- A contract check made while an action is evaluated. -/
def checkAction (check : Except DiscoveryContractError Unit) :
    Except DiscoveryTransitionError Unit :=
  check.mapError .invalidAction

variable (session : ProviderDiscoverySession)

def clearRecoveryMarkers : ProviderDiscoverySession :=
  { session with recovery := none, unknownOperation := none, activeEffectApproval := none }

/-- The terminal state that a settled operation ends in. -/
def settledState (cancellationPending : Bool) : DiscoveryState :=
  if cancellationPending then .cancelled else .failed

def isOperationCompletion : DiscoveryState → ProviderDiscoveryAction → Bool
  | .resolvingKnownProvider, .knownProviderCandidatesResolved _ => true
  | .fetchingDocuments, .documentsFetched _ => true
  | .extractingEvidence, .evidenceExtracted _ => true
  | .extractingEvidence, .assistantResumedWithEvidence _ _ => true
  | .buildingDeterministicManifestDraft, .manifestDraftBuilt _ => true
  | .buildingAssistantManifestDraft, .manifestDraftBuilt _ => true
  | .buildingAssistantManifestDraft, .assistantRequestedMoreEvidence _ => true
  | .validatingManifest, .manifestValidated _ _ => true
  | .listingModels, .modelsListed _ _ => true
  | .probingCapabilities, .probesCompleted => true
  | _, _ => false

/-- The effect that a restart of `operation` issues. -/
def effectForOperation :
    DiscoveryOperationKind → Except DiscoveryTransitionError DiscoveryEffect
  | .resolveKnownProvider => return .resolveKnownProvider
  | .fetchDocuments => return .fetchDocuments
  | .extractEvidence => return .extractEvidence
  | .buildDeterministicManifestDraft => return .buildDeterministicManifestDraft
  | .buildAssistantManifestDraft => do
    let approval ← requiredField session.activeEffectApproval "active_effect_approval"
      "is required to restart assistant manifest generation"
    return .buildAssistantManifestDraft approval
  | .validateManifest => return .validateManifest
  | .listModels => return .listModels
  | .probeCapabilities => do
    let approval ← requiredField session.activeEffectApproval "active_effect_approval"
      "is required to restart capability probes"
    return .probeCapabilities approval
  | .atomicCommit => do
    let commitAttemptId ← requiredField session.commitAttemptId "commit_attempt_id"
      "is required to restart a commit"
    let planSha256 ← requiredField session.commitPlanSha256 "commit_plan_sha256"
      "is required to restart a commit"
    return .commitAtomically commitAttemptId planSha256
  | .compensation => do
    let commitAttemptId ← requiredField session.commitAttemptId "commit_attempt_id"
      "is required to resume compensation"
    return .runCompensation commitAttemptId

/-! ### The global rules -/

variable (s : ProviderDiscoverySession)

/-- The `Cancel` arm of `apply`. -/
def applyCancel :
    Except DiscoveryTransitionError StagedTransition :=
  if s.state.isTerminal then .error (invalidTransition s.state .cancel)
  else if s.state = .unknownOutcome then .error .unknownOutcomeRequiresReconciliation
  else if s.state = .compensating then
    -- compensation is already the safe cancellation path: record the intent only
    return { next := { s with cancellationPending := true }, warning := some .compensationRequired }
  else
    match s.state.operation with
    | some operation =>
      -- the signal is issued once; a repeated action must not issue it again
      if s.cancellationPending then return { next := s }
      else return {
        next := { s with cancellationPending := true }
        effect := .requestCancellation operation }
    | none => return { next := clearRecoveryMarkers { s with state := .cancelled } }

/-- The checkpoint of a commit that must be cleaned up before the session can end. -/
def compensationCheckpoint : DiscoveryRecoveryCheckpoint where
  interruptedState := .compensating
  operation := .compensation

/-- The `Interrupt` arm of `apply`. -/
def applyInterrupt (operation : DiscoveryOperationKind) (outcome : DiscoveryInterruptionOutcome) :
    Except DiscoveryTransitionError StagedTransition :=
  if s.state.operation ≠ some operation ∨ (s.state = .compensating ∧ s.failure.isSome) then
    .error (invalidTransition s.state (.interrupt operation outcome))
  else
    match outcome with
    | .confirmedNoExternalEffect =>
      if s.cancellationPending then
        if operation.isSaga then
          -- a native credential slot can exist before the graph is applied, so even an
          -- unstarted commit needs its cleanup recipe and an explicit second action
          return {
            next := { s with
              state := .interrupted
              recovery := some compensationCheckpoint
              unknownOperation := none }
            warning := some .explicitRestartRequired }
        else
          return {
            next := clearRecoveryMarkers
              { s with state := .cancelled, cancellationPending := false } }
      else
        return {
          next := { s with
            state := .interrupted
            recovery := some { interruptedState := s.state, operation }
            unknownOperation := none }
          warning := some .explicitRestartRequired }
    | .externalOutcomeUnknown =>
      return {
        next := { s with
          state := .unknownOutcome
          recovery := none
          unknownOperation := some operation }
        warning := some .unknownExternalOutcome }

/-- The states in which `Fail` is refused besides the terminal ones. -/
def DiscoveryState.refusesFail : DiscoveryState → Bool
  | .committing | .compensating | .unknownOutcome => true
  | _ => false

/-- The `Fail` arm of `apply`. -/
def applyFail (failure : DiscoveryFailure) :
    Except DiscoveryTransitionError StagedTransition := do
  require (¬ (s.state.isTerminal ∨ s.state.refusesFail)) (invalidTransition s.state (.fail failure))
  checkAction failure.validate
  return {
    next := clearRecoveryMarkers { s with
      state := settledState s.cancellationPending
      failure := some failure
      cancellationPending := false } }

/-! ### The arms of the transition table with checks of their own -/

/-- `ApproveAssistant` and `ApproveProbes`: the grant is checked, bound to the session and
    handed to the billable effect. -/
def startBillable (state : DiscoveryState)
    (effect : DiscoveryApprovalBinding → DiscoveryEffect) (approvalId : DiscoveryApprovalId)
    (approvalGrantSha256 : String) : Except DiscoveryTransitionError StagedTransition := do
  checkAction (validateSha256 "approval_grant_sha256" approvalGrantSha256)
  let approval : DiscoveryApprovalBinding := { approvalId, grantSha256 := approvalGrantSha256 }
  return {
    next := { s with activeEffectApproval := some approval, state }
    effect := effect approval }

/-- `AssistantResumedWithEvidence`: as `startBillable`, with the bound grant checked again. -/
def resumeAssistant (approvalId : DiscoveryApprovalId)
    (approvalGrantSha256 : String) : Except DiscoveryTransitionError StagedTransition := do
  checkAction (validateSha256 "approval_grant_sha256" approvalGrantSha256)
  let approval : DiscoveryApprovalBinding := { approvalId, grantSha256 := approvalGrantSha256 }
  checkAction approval.validate
  return {
    next := { s with
      activeEffectApproval := some approval
      state := .buildingAssistantManifestDraft }
    effect := .buildAssistantManifestDraft approval }

/-- `source_allowed`: fresh evidence stays inside the session's network authority. -/
def freshEvidenceAllowed (source : DiscoveryFreshEvidenceSource) :
    Except DiscoveryTransitionError Bool :=
  match s.input.connectionOptions.networkMode with
  | .public => return true
  | .localLoopback => do
    let inputOrigin ← (canonicalOriginForHttpUrl X s.input.siteUrl).mapError .invalidAction
    return source.origin == inputOrigin
  | .approvedLocalNetwork =>
    match source with
    | .sanitizedCurl origin =>
      return s.input.connectionOptions.localNetworkApproval.any fun a => origin == a.origin
    | .documentUrl _ => return false

/-- `RunCompensation` on the session's commit attempt. -/
def runCompensation (reason : String) :
    Except DiscoveryTransitionError DiscoveryEffect := do
  let commitAttemptId ← requiredField s.commitAttemptId "commit_attempt_id" reason
  return .runCompensation commitAttemptId

/-- A completed commit: `CommitSucceeded` and `ConfirmedCommitCompleted`. -/
def commitCompleted (connectionId : ProviderConnectionId) :
    Except DiscoveryTransitionError StagedTransition :=
  if s.cancellationPending then do
    let effect ← runCompensation s "is required to compensate"
    return { next := { s with state := .compensating }, effect, warning := some .compensationRequired }
  else
    return {
      next := { s with
        state := .ready
        committedConnectionId := some connectionId
        cancellationPending := false } }

/-- `ConfirmedNoEffect`: the unknown operation did nothing. -/
def confirmedNoEffect :
    Except DiscoveryTransitionError StagedTransition := do
  let operation ← requiredField s.unknownOperation "unknown_operation" "is required to reconcile"
  let next := { s with unknownOperation := none }
  if s.cancellationPending then
    if operation.isSaga then
      -- never terminalize a saga with an unapplied compensation recipe
      return {
        next := { next with state := .interrupted, recovery := some compensationCheckpoint }
        warning := some .explicitRestartRequired }
    else
      -- `active_effect_approval` is left as it was
      return { next := { next with state := .cancelled, recovery := none, cancellationPending := false } }
  else
    return {
      next := { next with
        state := .interrupted
        recovery := some { interruptedState := stateForOperation operation, operation } }
      warning := some .explicitRestartRequired }

/-- The successor of a saga step that ends the session. -/
def settle : ProviderDiscoverySession :=
  { s with
    state := settledState s.cancellationPending
    cancellationPending := false
    activeEffectApproval := none }

def resolveUnknownOutcome (action : ProviderDiscoveryAction) :
    DiscoveryUnknownOutcomeResolution → Except DiscoveryTransitionError StagedTransition
  | .confirmedNoEffect => confirmedNoEffect s
  | .confirmedCommitCompleted connectionId => do
    require (s.unknownOperation = some .atomicCommit) (invalidTransition s.state action)
    commitCompleted { s with unknownOperation := none } connectionId
  | .confirmedCompensated => do
    require (s.unknownOperation = some .compensation ∨ s.unknownOperation = some .atomicCommit)
      (invalidTransition s.state action)
    return { next := settle { s with unknownOperation := none } }
  | .manuallyReconciledAsFailed => return { next := settle { s with unknownOperation := none } }

/-! ### The transition table -/

/-- `apply_state_action`. -/
def applyStateAction (action : ProviderDiscoveryAction) :
    Except DiscoveryTransitionError StagedTransition :=
  match s.state, action with
  | .draft, .begin =>
    return { next := { s with state := .resolvingKnownProvider }, effect := .resolveKnownProvider }
  | .resolvingKnownProvider, .knownProviderCandidatesResolved candidateCount =>
    if candidateCount = 0 then
      return { next := { s with state := .fetchingDocuments }, effect := .fetchDocuments }
    else
      return { next := { s with state := .awaitingTemplateSelection } }
  | .awaitingTemplateSelection, .selectTemplate _ =>
    return { next := { s with state := .validatingManifest }, effect := .validateManifest }
  | .awaitingTemplateSelection, .continueWithoutTemplate =>
    return { next := { s with state := .fetchingDocuments }, effect := .fetchDocuments }
  | .fetchingDocuments, .documentsFetched _ =>
    return { next := { s with state := .extractingEvidence }, effect := .extractEvidence }
  | .extractingEvidence, .evidenceExtracted resolution =>
    match resolution with
    | .deterministicDraftAvailable =>
      return {
        next := { s with state := .buildingDeterministicManifestDraft }
        effect := .buildDeterministicManifestDraft }
    | .assistantRecommended => return { next := { s with state := .awaitingAssistantConsent } }
    | .moreEvidenceRequired => return { next := { s with state := .awaitingMoreEvidence } }
  | .extractingEvidence, .assistantResumedWithEvidence approvalId approvalGrantSha256 =>
    resumeAssistant s approvalId approvalGrantSha256
  | .awaitingMoreEvidence, .supplyMoreEvidence evidenceIds => do
    checkAction (validateSuppliedEvidenceIds evidenceIds)
    return { next := { s with state := .extractingEvidence }, effect := .extractEvidence }
  | .awaitingMoreEvidence, .supplyFreshEvidence evidenceIds source => do
    checkAction (validateSuppliedEvidenceIds evidenceIds)
    let sourceAllowed ← freshEvidenceAllowed X s source
    require sourceAllowed (.invalidAction
        ⟨"fresh_evidence.source.origin", "is outside the session network authority"⟩)
    return { next := { s with state := .extractingEvidence }, effect := .extractEvidence }
  | .awaitingMoreEvidence, .requestAssistant =>
    return { next := { s with state := .awaitingAssistantConsent } }
  | .awaitingAssistantConsent, .approveAssistant approvalId approvalGrantSha256 =>
    startBillable s .buildingAssistantManifestDraft .buildAssistantManifestDraft approvalId
      approvalGrantSha256
  | .awaitingAssistantConsent, .declineAssistant =>
    return { next := { s with state := .awaitingMoreEvidence }, warning := some .assistantDeclined }
  | .buildingDeterministicManifestDraft, .manifestDraftBuilt manifestSha256
  | .buildingAssistantManifestDraft, .manifestDraftBuilt manifestSha256 => do
    checkAction (validateSha256 "manifest_sha256" manifestSha256)
    return {
      next := { s with
        manifestSha256 := some manifestSha256
        activeEffectApproval := none
        state := .validatingManifest }
      effect := .validateManifest }
  | .buildingAssistantManifestDraft, .assistantCheckpointed _ =>
    -- a self-transition: the checkpoint is made durable, the billable operation goes on
    return { next := s }
  | .buildingAssistantManifestDraft, .assistantRequestedMoreEvidence questionCount => do
    require (¬ (questionCount = 0 ∨ 128 < questionCount))
      (.invalidAction ⟨"assistant_more_evidence.question_count",
        "must contain between 1 and 128 questions"⟩)
    return { next := { s with activeEffectApproval := none, state := .awaitingMoreEvidence } }
  | .validatingManifest, .manifestValidated manifestSha256 credentialOriginApprovalRequired => do
    checkAction (validateSha256 "manifest_sha256" manifestSha256)
    require (∀ draftSha256 ∈ s.manifestSha256, draftSha256 = manifestSha256) (.invalidAction
        ⟨"manifest_sha256", "validated manifest does not match the persisted draft"⟩)
    if credentialOriginApprovalRequired then
      return {
        next := { s with
          manifestSha256 := some manifestSha256
          state := .awaitingCredentialOriginApproval } }
    else
      return {
        next := { s with manifestSha256 := some manifestSha256, state := .listingModels }
        effect := .listModels }
  | .awaitingCredentialOriginApproval, .approveCredentialOrigin _ =>
    return { next := { s with state := .listingModels }, effect := .listModels }
  | .listingModels, .modelsListed _ probeCandidateCount =>
    if probeCandidateCount = 0 then
      return { next := { s with state := .awaitingReview } }
    else
      return { next := { s with state := .awaitingProbeConsent } }
  | .awaitingProbeConsent, .approveProbes approvalId approvalGrantSha256 =>
    startBillable s .probingCapabilities .probeCapabilities approvalId approvalGrantSha256
  | .awaitingProbeConsent, .skipProbes =>
    return { next := { s with state := .awaitingReview }, warning := some .probesSkipped }
  | .probingCapabilities, .probesCompleted =>
    return { next := { s with activeEffectApproval := none, state := .awaitingReview } }
  | .awaitingReview, .approveReview _ commitAttemptId commitPlanSha256 _ => do
    checkAction (validateSha256 "commit_plan_sha256" commitPlanSha256)
    return {
      next := { s with
        commitPlanSha256 := some commitPlanSha256
        commitAttemptId := some commitAttemptId
        state := .committing }
      effect := .commitAtomically commitAttemptId commitPlanSha256 }
  | .committing, .commitSucceeded connectionId => commitCompleted s connectionId
  | .committing, .commitFailedBeforeApply failure => do
    checkAction failure.validate
    return { next := { settle s with failure := some failure } }
  | .compensating, .compensationFailed failure => do
    require (s.failure = none) (invalidTransition s.state action)
    checkAction failure.validate
    -- not proof that every applied effect has been reverted: keep the saga recoverable
    return { next := { s with failure := some failure } }
  | .compensating, .resumeCompensation => do
    require s.failure.isSome (invalidTransition s.state action)
    let effect ← runCompensation s "is required to resume compensation"
    return { next := { s with failure := none }, effect }
  | .committing, .compensationRequired => do
    let effect ← runCompensation s "is required to compensate"
    return {
      next := { s with state := .compensating }
      effect
      warning := some .compensationRequired }
  | .compensating, .compensationSucceeded => do
    require (s.failure = none) (invalidTransition s.state action)
    return { next := settle s }
  | .committing, .externalOutcomeBecameUnknown =>
    return {
      next := { s with
        state := .unknownOutcome
        unknownOperation := some .atomicCommit
        recovery := none }
      warning := some .unknownExternalOutcome }
  | .compensating, .externalOutcomeBecameUnknown => do
    require (s.failure = none) (invalidTransition s.state action)
    return {
      next := { s with
        state := .unknownOutcome
        unknownOperation := some .compensation
        recovery := none }
      warning := some .unknownExternalOutcome }
  | .interrupted, .restartInterrupted => do
    let checkpoint ← requiredField s.recovery "recovery" "is required to restart"
    let effect ← effectForOperation s checkpoint.operation
    return {
      next := { s with
        state := checkpoint.interruptedState
        recovery := none
        unknownOperation := none }
      effect }
  | .unknownOutcome, .resolveUnknownOutcome _ resolution =>
    resolveUnknownOutcome s action resolution
  | state, action => .error (invalidTransition state action)

/-- The last arm of `apply`: while a cancellation is pending, an operation outside the saga
    accepts only its own completion, and that completion ends the session. -/
def applyOther (action : ProviderDiscoveryAction) :
    Except DiscoveryTransitionError StagedTransition :=
  if s.cancellationPending ∧ s.state.operation.isSome ∧
      ¬ (s.state = .committing ∨ s.state = .compensating) then do
    require (isOperationCompletion s.state action) (invalidTransition s.state action)
    return {
      next := clearRecoveryMarkers { s with state := .cancelled, cancellationPending := false } }
  else applyStateAction X s action

/-- The successor that an accepted action selects, before it is sealed. -/
def stage (action : ProviderDiscoveryAction) :
    Except DiscoveryTransitionError StagedTransition :=
  match action with
  | .cancel => applyCancel s
  | .interrupt operation outcome => applyInterrupt s operation outcome
  | .fail failure => applyFail s failure
  | action => applyOther X s action

/-! ### Events and the whole step -/

def progressForAction : ProviderDiscoveryAction → Option DiscoveryProgress
  | .knownProviderCandidatesResolved candidateCount =>
    some { phase := .providerCandidates, completed := candidateCount, total := some candidateCount }
  | .documentsFetched evidenceCount =>
    some { phase := .documents, completed := evidenceCount, total := none }
  | .modelsListed modelCount _ =>
    some { phase := .models, completed := modelCount, total := some modelCount }
  | .probesCompleted => some { phase := .probes, completed := 1, total := some 1 }
  | _ => none

def actionRequiredFor : Option DiscoveryActionRequired :=
  match session.state with
  | .awaitingTemplateSelection => some .selectTemplate
  | .awaitingMoreEvidence => some .supplyMoreEvidence
  | .awaitingAssistantConsent => some .approveAssistant
  | .awaitingCredentialOriginApproval => some .approveCredentialOrigin
  | .awaitingProbeConsent => some .approveProbes
  | .awaitingReview => some .review
  | .interrupted => session.recovery.map fun c => .restartInterrupted c.operation
  | .unknownOutcome => session.unknownOperation.map .reconcileUnknownOutcome
  | _ => none

def DiscoveryActionEnvelope.validate (envelope : DiscoveryActionEnvelope) :
    Except DiscoveryContractError Unit := do
  validateSha256 "request_sha256" envelope.requestSha256
  match envelope.action with
  | .approveAssistant _ approvalGrantSha256 | .approveProbes _ approvalGrantSha256 =>
    validateSha256 "approval_grant_sha256" approvalGrantSha256
  | _ => return

/-- `PROVIDER_DISCOVERY_EVENT_VERSION`. -/
def providerDiscoveryEventVersion : Nat := 2

variable (eventId : DiscoveryEventId)

/-- The transition record of an accepted action: the sealed session with its event and
    receipt. -/
def sealTransition (s : ProviderDiscoverySession)
    (envelope : DiscoveryActionEnvelope) (staged : StagedTransition)
    (next : ProviderDiscoverySession) : DiscoveryTransition where
  previousRevision := s.revision
  session := next
  event := {
    version := providerDiscoveryEventVersion
    id := eventId
    sessionId := s.id
    sequence := s.nextEventSequence
    sessionRevision := next.revision
    state := next.state
    progress := progressForAction envelope.action
    actionRequired := actionRequiredFor next
    warning := staged.warning
    actionId := envelope.id
    failure := next.failure }
  receipt := {
    actionId := envelope.id
    sessionId := s.id
    actionKind := envelope.action.kind
    requestSha256 := envelope.requestSha256
    expectedRevision := envelope.expectedRevision
    resultingRevision := next.revision
    eventSequence := s.nextEventSequence
    outcome := .applied }
  effect := staged.effect

/-- `ProviderDiscoverySession::apply`; `eventId` is the fresh identifier it draws. -/
def ProviderDiscoverySession.apply (s : ProviderDiscoverySession)
    (envelope : DiscoveryActionEnvelope) :
    Except DiscoveryTransitionError DiscoveryTransition := do
  (s.validate X).mapError .invalidSession
  envelope.validate.mapError .invalidAction
  require (envelope.expectedRevision = s.revision)
    (.revisionConflict envelope.expectedRevision s.revision)
  let staged ← stage X s envelope.action
  let revision ← okOr (checkedAdd s.revision 1) .revisionExhausted
  let nextEventSequence ← okOr (checkedAdd s.nextEventSequence 1) .sequenceExhausted
  let next := { staged.next with revision, nextEventSequence }
  (next.validate X).mapError .invalidSession
  return sealTransition eventId s envelope staged next

end LorePia.Discovery
