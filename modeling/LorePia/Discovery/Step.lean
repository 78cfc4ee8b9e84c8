import LorePia.Discovery.Apply
import LorePia.Lib.Exec

namespace LorePia.Discovery

open Lib

/-!
# Provider discovery — what one accepted action can do

`TableArm` has one constructor for each way through the transition table, `Stages` one for
each way through the whole step, guards included.  Later proofs case on these relations
and never unfold the transition function.

* `stage_cases` — an accepted action is one of the listed steps;
* `apply_cases` — the same for `apply`, with what sealing the step adds;
* `Step`, `Run` — the labelled transition relation of a session and its executions.
-/

variable (X : Externals) {action : ProviderDiscoveryAction} {s : ProviderDiscoverySession}
  {t : StagedTransition}

/-! ### The transition table -/

/-- **The transition table as a relation.** -/
inductive TableArm (s : ProviderDiscoverySession) :
    ProviderDiscoveryAction → StagedTransition → Prop
  | begin (hs : s.state = .draft) :
      TableArm s .begin
        { next := { s with state := .resolvingKnownProvider }, effect := .resolveKnownProvider }
  | candidatesAbsent (hs : s.state = .resolvingKnownProvider) :
      TableArm s (.knownProviderCandidatesResolved 0)
        { next := { s with state := .fetchingDocuments }, effect := .fetchDocuments }
  | candidatesFound {n : Nat} (hs : s.state = .resolvingKnownProvider) (hn : n ≠ 0) :
      TableArm s (.knownProviderCandidatesResolved n)
        { next := { s with state := .awaitingTemplateSelection } }
  | selectTemplate {candidateId : DiscoveryCandidateId}
      (hs : s.state = .awaitingTemplateSelection) :
      TableArm s (.selectTemplate candidateId)
        { next := { s with state := .validatingManifest }, effect := .validateManifest }
  | continueWithoutTemplate (hs : s.state = .awaitingTemplateSelection) :
      TableArm s .continueWithoutTemplate
        { next := { s with state := .fetchingDocuments }, effect := .fetchDocuments }
  | documentsFetched {n : Nat} (hs : s.state = .fetchingDocuments) :
      TableArm s (.documentsFetched n)
        { next := { s with state := .extractingEvidence }, effect := .extractEvidence }
  | draftAvailable (hs : s.state = .extractingEvidence) :
      TableArm s (.evidenceExtracted .deterministicDraftAvailable)
        { next := { s with state := .buildingDeterministicManifestDraft },
          effect := .buildDeterministicManifestDraft }
  | assistantRecommended (hs : s.state = .extractingEvidence) :
      TableArm s (.evidenceExtracted .assistantRecommended)
        { next := { s with state := .awaitingAssistantConsent } }
  | moreEvidenceRequired (hs : s.state = .extractingEvidence) :
      TableArm s (.evidenceExtracted .moreEvidenceRequired)
        { next := { s with state := .awaitingMoreEvidence } }
  | resumeAssistant {b : DiscoveryApprovalBinding} (hs : s.state = .extractingEvidence)
      (hb : isSha256 b.grantSha256 = true) :
      TableArm s (.assistantResumedWithEvidence b.approvalId b.grantSha256)
        { next := { s with activeEffectApproval := some b, state := .buildingAssistantManifestDraft },
          effect := .buildAssistantManifestDraft b }
  | supplyMoreEvidence {ids : List EvidenceId} (hs : s.state = .awaitingMoreEvidence)
      (hids : validateSuppliedEvidenceIds ids = .ok ()) :
      TableArm s (.supplyMoreEvidence ids)
        { next := { s with state := .extractingEvidence }, effect := .extractEvidence }
  | supplyFreshEvidence {ids : List EvidenceId} {source : DiscoveryFreshEvidenceSource}
      (hs : s.state = .awaitingMoreEvidence) (hids : validateSuppliedEvidenceIds ids = .ok ())
      (hsrc : freshEvidenceAllowed X s source = .ok true) :
      TableArm s (.supplyFreshEvidence ids source)
        { next := { s with state := .extractingEvidence }, effect := .extractEvidence }
  | requestAssistant (hs : s.state = .awaitingMoreEvidence) :
      TableArm s .requestAssistant { next := { s with state := .awaitingAssistantConsent } }
  | approveAssistant {b : DiscoveryApprovalBinding} (hs : s.state = .awaitingAssistantConsent)
      (hb : isSha256 b.grantSha256 = true) :
      TableArm s (.approveAssistant b.approvalId b.grantSha256)
        { next := { s with activeEffectApproval := some b, state := .buildingAssistantManifestDraft },
          effect := .buildAssistantManifestDraft b }
  | declineAssistant (hs : s.state = .awaitingAssistantConsent) :
      TableArm s .declineAssistant
        { next := { s with state := .awaitingMoreEvidence }, warning := some .assistantDeclined }
  | manifestDraftBuilt {hash : String}
      (hs : s.state = .buildingDeterministicManifestDraft ∨
        s.state = .buildingAssistantManifestDraft)
      (hh : isSha256 hash = true) :
      TableArm s (.manifestDraftBuilt hash)
        { next := { s with
            manifestSha256 := some hash
            activeEffectApproval := none
            state := .validatingManifest },
          effect := .validateManifest }
  | assistantCheckpointed {checkpoint : DiscoveryAssistantCheckpoint}
      (hs : s.state = .buildingAssistantManifestDraft) :
      TableArm s (.assistantCheckpointed checkpoint) { next := s }
  | assistantRequestedMoreEvidence {n : Nat} (hs : s.state = .buildingAssistantManifestDraft)
      (hn : 1 ≤ n ∧ n ≤ 128) :
      TableArm s (.assistantRequestedMoreEvidence n)
        { next := { s with activeEffectApproval := none, state := .awaitingMoreEvidence } }
  | manifestNeedsApproval {hash : String} (hs : s.state = .validatingManifest)
      (hh : isSha256 hash = true) (hdraft : ∀ draft ∈ s.manifestSha256, draft = hash) :
      TableArm s (.manifestValidated hash true)
        { next := { s with
            manifestSha256 := some hash
            state := .awaitingCredentialOriginApproval } }
  | manifestValidated {hash : String} (hs : s.state = .validatingManifest)
      (hh : isSha256 hash = true) (hdraft : ∀ draft ∈ s.manifestSha256, draft = hash) :
      TableArm s (.manifestValidated hash false)
        { next := { s with manifestSha256 := some hash, state := .listingModels },
          effect := .listModels }
  | approveCredentialOrigin {approvalId : DiscoveryApprovalId}
      (hs : s.state = .awaitingCredentialOriginApproval) :
      TableArm s (.approveCredentialOrigin approvalId)
        { next := { s with state := .listingModels }, effect := .listModels }
  | modelsWithoutProbes {n : Nat} (hs : s.state = .listingModels) :
      TableArm s (.modelsListed n 0) { next := { s with state := .awaitingReview } }
  | modelsWithProbes {n m : Nat} (hs : s.state = .listingModels) (hm : m ≠ 0) :
      TableArm s (.modelsListed n m) { next := { s with state := .awaitingProbeConsent } }
  | approveProbes {b : DiscoveryApprovalBinding} (hs : s.state = .awaitingProbeConsent)
      (hb : isSha256 b.grantSha256 = true) :
      TableArm s (.approveProbes b.approvalId b.grantSha256)
        { next := { s with activeEffectApproval := some b, state := .probingCapabilities },
          effect := .probeCapabilities b }
  | skipProbes (hs : s.state = .awaitingProbeConsent) :
      TableArm s .skipProbes
        { next := { s with state := .awaitingReview }, warning := some .probesSkipped }
  | probesCompleted (hs : s.state = .probingCapabilities) :
      TableArm s .probesCompleted
        { next := { s with activeEffectApproval := none, state := .awaitingReview } }
  | approveReview {approvalId : DiscoveryApprovalId} {attempt : DiscoveryCommitAttemptId}
      {plan graph : String} (hs : s.state = .awaitingReview) (hp : isSha256 plan = true) :
      TableArm s (.approveReview approvalId attempt plan graph)
        { next := { s with
            commitPlanSha256 := some plan
            commitAttemptId := some attempt
            state := .committing },
          effect := .commitAtomically attempt plan }
  | commitSucceeded {connectionId : ProviderConnectionId} (hs : s.state = .committing)
      (hc : s.cancellationPending = false) :
      TableArm s (.commitSucceeded connectionId)
        { next := { s with
            state := .ready
            committedConnectionId := some connectionId
            cancellationPending := false } }
  | commitSucceededPending {connectionId : ProviderConnectionId}
      {attempt : DiscoveryCommitAttemptId} (hs : s.state = .committing)
      (hc : s.cancellationPending = true) (ha : s.commitAttemptId = some attempt) :
      TableArm s (.commitSucceeded connectionId)
        { next := { s with state := .compensating }, effect := .runCompensation attempt,
          warning := some .compensationRequired }
  | commitFailedBeforeApply {failure : DiscoveryFailure} (hs : s.state = .committing)
      (hf : failure.validate = .ok ()) :
      TableArm s (.commitFailedBeforeApply failure)
        { next := { settle s with failure := some failure } }
  | compensationFailed {failure : DiscoveryFailure} (hs : s.state = .compensating)
      (hnone : s.failure = none) (hf : failure.validate = .ok ()) :
      TableArm s (.compensationFailed failure) { next := { s with failure := some failure } }
  | resumeCompensation {attempt : DiscoveryCommitAttemptId} (hs : s.state = .compensating)
      (hsome : s.failure.isSome = true) (ha : s.commitAttemptId = some attempt) :
      TableArm s .resumeCompensation
        { next := { s with failure := none }, effect := .runCompensation attempt }
  | compensationRequired {attempt : DiscoveryCommitAttemptId} (hs : s.state = .committing)
      (ha : s.commitAttemptId = some attempt) :
      TableArm s .compensationRequired
        { next := { s with state := .compensating }, effect := .runCompensation attempt,
          warning := some .compensationRequired }
  | compensationSucceeded (hs : s.state = .compensating) (hnone : s.failure = none) :
      TableArm s .compensationSucceeded { next := settle s }
  | commitBecameUnknown (hs : s.state = .committing) :
      TableArm s .externalOutcomeBecameUnknown
        { next := { s with
            state := .unknownOutcome
            unknownOperation := some .atomicCommit
            recovery := none },
          warning := some .unknownExternalOutcome }
  | compensationBecameUnknown (hs : s.state = .compensating) (hnone : s.failure = none) :
      TableArm s .externalOutcomeBecameUnknown
        { next := { s with
            state := .unknownOutcome
            unknownOperation := some .compensation
            recovery := none },
          warning := some .unknownExternalOutcome }
  | restartInterrupted {checkpoint : DiscoveryRecoveryCheckpoint} {effect : DiscoveryEffect}
      (hs : s.state = .interrupted) (hr : s.recovery = some checkpoint)
      (he : effectForOperation s checkpoint.operation = .ok effect) :
      TableArm s .restartInterrupted
        { next := { s with
            state := checkpoint.interruptedState
            recovery := none
            unknownOperation := none },
          effect }
  | noEffectSaga {approvalId : DiscoveryApprovalId} {op : DiscoveryOperationKind}
      (hs : s.state = .unknownOutcome) (ho : s.unknownOperation = some op)
      (hc : s.cancellationPending = true) (hop : op.isSaga = true) :
      TableArm s (.resolveUnknownOutcome approvalId .confirmedNoEffect)
        { next := { s with
            unknownOperation := none
            state := .interrupted
            recovery := some compensationCheckpoint },
          warning := some .explicitRestartRequired }
  | noEffectCancelled {approvalId : DiscoveryApprovalId} {op : DiscoveryOperationKind}
      (hs : s.state = .unknownOutcome) (ho : s.unknownOperation = some op)
      (hc : s.cancellationPending = true) (hop : op.isSaga = false) :
      TableArm s (.resolveUnknownOutcome approvalId .confirmedNoEffect)
        { next := { s with
            unknownOperation := none
            state := .cancelled
            recovery := none
            cancellationPending := false } }
  | noEffectInterrupted {approvalId : DiscoveryApprovalId} {op : DiscoveryOperationKind}
      (hs : s.state = .unknownOutcome) (ho : s.unknownOperation = some op)
      (hc : s.cancellationPending = false) :
      TableArm s (.resolveUnknownOutcome approvalId .confirmedNoEffect)
        { next := { s with
            unknownOperation := none
            state := .interrupted
            recovery := some { interruptedState := stateForOperation op, operation := op } },
          warning := some .explicitRestartRequired }
  | confirmedCommit {approvalId : DiscoveryApprovalId} {connectionId : ProviderConnectionId}
      (hs : s.state = .unknownOutcome) (ho : s.unknownOperation = some .atomicCommit)
      (hc : s.cancellationPending = false) :
      TableArm s (.resolveUnknownOutcome approvalId (.confirmedCommitCompleted connectionId))
        { next := { s with
            unknownOperation := none
            state := .ready
            committedConnectionId := some connectionId
            cancellationPending := false } }
  | confirmedCommitPending {approvalId : DiscoveryApprovalId}
      {connectionId : ProviderConnectionId} {attempt : DiscoveryCommitAttemptId}
      (hs : s.state = .unknownOutcome) (ho : s.unknownOperation = some .atomicCommit)
      (hc : s.cancellationPending = true) (ha : s.commitAttemptId = some attempt) :
      TableArm s (.resolveUnknownOutcome approvalId (.confirmedCommitCompleted connectionId))
        { next := { s with unknownOperation := none, state := .compensating },
          effect := .runCompensation attempt, warning := some .compensationRequired }
  | confirmedCompensated {approvalId : DiscoveryApprovalId} {op : DiscoveryOperationKind}
      (hs : s.state = .unknownOutcome) (ho : s.unknownOperation = some op)
      (hop : op.isSaga = true) :
      TableArm s (.resolveUnknownOutcome approvalId .confirmedCompensated)
        { next := settle { s with unknownOperation := none } }
  | manuallyReconciledAsFailed {approvalId : DiscoveryApprovalId}
      (hs : s.state = .unknownOutcome) :
      TableArm s (.resolveUnknownOutcome approvalId .manuallyReconciledAsFailed)
        { next := settle { s with unknownOperation := none } }

/-! ### The whole step -/

/-- **The step relation before sealing.** -/
inductive Stages (s : ProviderDiscoverySession) :
    ProviderDiscoveryAction → StagedTransition → Prop
  | cancelCompensating (hs : s.state = .compensating) :
      Stages s .cancel
        { next := { s with cancellationPending := true }, warning := some .compensationRequired }
  | cancelAgain {op : DiscoveryOperationKind} (ho : s.state.operation = some op)
      (hs : s.state ≠ .compensating) (hc : s.cancellationPending = true) :
      Stages s .cancel { next := s }
  | cancelOperation {op : DiscoveryOperationKind} (ho : s.state.operation = some op)
      (hs : s.state ≠ .compensating) (hc : s.cancellationPending = false) :
      Stages s .cancel
        { next := { s with cancellationPending := true }, effect := .requestCancellation op }
  | cancelIdle (ho : s.state.operation = none) (ht : s.state.isTerminal = false)
      (hs : s.state ≠ .unknownOutcome) :
      Stages s .cancel { next := clearRecoveryMarkers { s with state := .cancelled } }
  | interruptSaga {op : DiscoveryOperationKind} (ho : s.state.operation = some op)
      (hf : s.state = .compensating → s.failure = none) (hc : s.cancellationPending = true)
      (hop : op.isSaga = true) :
      Stages s (.interrupt op .confirmedNoExternalEffect)
        { next := { s with
            state := .interrupted
            recovery := some compensationCheckpoint
            unknownOperation := none },
          warning := some .explicitRestartRequired }
  | interruptCancelled {op : DiscoveryOperationKind} (ho : s.state.operation = some op)
      (hf : s.state = .compensating → s.failure = none) (hc : s.cancellationPending = true)
      (hop : op.isSaga = false) :
      Stages s (.interrupt op .confirmedNoExternalEffect)
        { next := clearRecoveryMarkers
            { s with state := .cancelled, cancellationPending := false } }
  | interruptCheckpoint {op : DiscoveryOperationKind} (ho : s.state.operation = some op)
      (hf : s.state = .compensating → s.failure = none) (hc : s.cancellationPending = false) :
      Stages s (.interrupt op .confirmedNoExternalEffect)
        { next := { s with
            state := .interrupted
            recovery := some { interruptedState := s.state, operation := op }
            unknownOperation := none },
          warning := some .explicitRestartRequired }
  | interruptUnknown {op : DiscoveryOperationKind} (ho : s.state.operation = some op)
      (hf : s.state = .compensating → s.failure = none) :
      Stages s (.interrupt op .externalOutcomeUnknown)
        { next := { s with
            state := .unknownOutcome
            recovery := none
            unknownOperation := some op },
          warning := some .unknownExternalOutcome }
  | fail {failure : DiscoveryFailure} (ht : s.state.isTerminal = false)
      (hr : s.state.refusesFail = false) (hf : failure.validate = .ok ()) :
      Stages s (.fail failure)
        { next := clearRecoveryMarkers { s with
            state := settledState s.cancellationPending
            failure := some failure
            cancellationPending := false } }
  | completePending {action : ProviderDiscoveryAction} (hc : s.cancellationPending = true)
      (hs : s.state ≠ .committing ∧ s.state ≠ .compensating)
      (ha : isOperationCompletion s.state action = true) :
      Stages s action
        { next := clearRecoveryMarkers
            { s with state := .cancelled, cancellationPending := false } }
  | table {action : ProviderDiscoveryAction} {staged : StagedTransition}
      (hidle : s.cancellationPending = true → s.state.operation.isSome = true →
        s.state = .committing ∨ s.state = .compensating)
      (harm : TableArm X s action staged) :
      Stages s action staged

/-! ### Inversion -/

private theorem checkSha256_ok {field value : String} :
    checkAction (validateSha256 field value) = .ok u ↔ isSha256 value = true := by
  simp [checkAction, validateSha256]

private theorem checkAction_bind_ok {check : Except DiscoveryContractError Unit}
    {f : Unit → Except DiscoveryTransitionError StagedTransition} {t : StagedTransition} :
    (checkAction check >>= f) = .ok t ↔ check = .ok () ∧ f () = .ok t := by
  cases check with
  | ok u => simp [checkAction, Except.mapError]
  | error e => simp [checkAction, Except.mapError]

private theorem startBillable_ok {s : ProviderDiscoverySession} {state : DiscoveryState}
    {effect : DiscoveryApprovalBinding → DiscoveryEffect} {approvalId : DiscoveryApprovalId}
    {grant : String} {t : StagedTransition}
    (h : startBillable s state effect approvalId grant = .ok t) :
    isSha256 grant = true ∧
      t = { next := { s with activeEffectApproval := some ⟨approvalId, grant⟩, state },
            effect := effect ⟨approvalId, grant⟩ } := by
  simp only [startBillable, bind_ok, checkSha256_ok, pure_ok, Except.ok.injEq] at h
  obtain ⟨_, hb, rfl⟩ := h
  exact ⟨hb, rfl⟩

/-- The second check of a resumed assistant repeats the first. -/
theorem resumeAssistant_eq_startBillable (s : ProviderDiscoverySession)
    (approvalId : DiscoveryApprovalId) (grant : String) :
    resumeAssistant s approvalId grant =
      startBillable s .buildingAssistantManifestDraft .buildAssistantManifestDraft approvalId
        grant := by
  by_cases hb : isSha256 grant = true <;>
    simp [resumeAssistant, startBillable, checkAction, validateSha256,
      DiscoveryApprovalBinding.validate, require, hb, Except.mapError]

private theorem runCompensation_ok {s : ProviderDiscoverySession} {reason : String}
    {effect : DiscoveryEffect} (h : runCompensation s reason = .ok effect) :
    ∃ attempt, s.commitAttemptId = some attempt ∧ effect = .runCompensation attempt := by
  simp only [runCompensation, requiredField, bind_ok, okOr_ok, pure_ok, Except.ok.injEq] at h
  obtain ⟨attempt, ha, rfl⟩ := h
  exact ⟨attempt, ha, rfl⟩


private theorem validateSha256_ok {field value : String} {u : Unit} :
    validateSha256 field value = .ok u ↔ isSha256 value = true := by
  simp [validateSha256]

private theorem commitCompleted_cases {s : ProviderDiscoverySession}
    {connectionId : ProviderConnectionId} {t : StagedTransition}
    (h : commitCompleted s connectionId = .ok t) :
    (s.cancellationPending = false ∧ t = { next := { s with
        state := .ready
        committedConnectionId := some connectionId
        cancellationPending := false } }) ∨
    ∃ attempt, s.cancellationPending = true ∧ s.commitAttemptId = some attempt ∧
      t = { next := { s with state := .compensating }, effect := .runCompensation attempt,
            warning := some .compensationRequired } := by
  unfold commitCompleted at h
  split at h
  next hc =>
    obtain ⟨effect, he, h⟩ := bind_ok.mp h
    obtain ⟨attempt, ha, rfl⟩ := runCompensation_ok he
    exact Or.inr ⟨attempt, hc, ha, (pure_inj h).symm⟩
  next hc =>
    exact Or.inl ⟨by simpa using hc, (pure_inj h).symm⟩

private theorem resolveUnknownOutcome_cases {s : ProviderDiscoverySession}
    {approvalId : DiscoveryApprovalId} {resolution : DiscoveryUnknownOutcomeResolution}
    {t : StagedTransition} (hs : s.state = .unknownOutcome)
    (h : resolveUnknownOutcome s (.resolveUnknownOutcome approvalId resolution) resolution = .ok t) :
    TableArm X s (.resolveUnknownOutcome approvalId resolution) t := by
  cases resolution with
  | confirmedNoEffect =>
    obtain ⟨op, ho, h⟩ := bind_ok.mp h
    simp only [requiredField, okOr_ok] at ho
    split at h
    next hc =>
      split at h
      next hop =>
        obtain rfl := pure_inj h
        exact .noEffectSaga hs ho hc hop
      next hop => exact of_pure_ok h (.noEffectCancelled hs ho hc (by simpa using hop))
    next hc => exact of_pure_ok h (.noEffectInterrupted hs ho (by simpa using hc))
  | confirmedCommitCompleted connectionId =>
    simp only [resolveUnknownOutcome, guard_ok] at h
    obtain ⟨ho, h⟩ := h
    obtain ⟨hc, rfl⟩ | ⟨attempt, hc, ha, rfl⟩ := commitCompleted_cases h
    · exact .confirmedCommit hs ho hc
    · exact .confirmedCommitPending hs ho hc ha
  | confirmedCompensated =>
    simp only [resolveUnknownOutcome, guard_ok] at h
    obtain ⟨ho, h⟩ := h
    obtain rfl := pure_inj h
    rcases ho with ho | ho
    · exact .confirmedCompensated hs ho rfl
    · exact .confirmedCompensated hs ho rfl
  | manuallyReconciledAsFailed => exact of_pure_ok h (.manuallyReconciledAsFailed hs)

/-- **Table inversion.** -/
theorem applyStateAction_cases (h : applyStateAction X s action = .ok t) : TableArm X s action t := by
  unfold applyStateAction at h
  split at h
  next hs => exact of_pure_ok h (.begin hs)
  next n hs =>
    split at h
    next hn =>
      obtain rfl := pure_inj h
      exact hn ▸ .candidatesAbsent hs
    next hn => exact of_pure_ok h (.candidatesFound hs hn)
  next hs => exact of_pure_ok h (.selectTemplate hs)
  next hs => exact of_pure_ok h (.continueWithoutTemplate hs)
  next hs => exact of_pure_ok h (.documentsFetched hs)
  next resolution hs =>
    split at h
    · exact of_pure_ok h (.draftAvailable hs)
    · exact of_pure_ok h (.assistantRecommended hs)
    · exact of_pure_ok h (.moreEvidenceRequired hs)
  next approvalId grant hs =>
    rw [resumeAssistant_eq_startBillable] at h
    obtain ⟨hb, rfl⟩ := startBillable_ok h
    exact .resumeAssistant (b := ⟨approvalId, grant⟩) hs hb
  next ids hs =>
    obtain ⟨hids, h⟩ := checkAction_bind_ok.mp h
    exact of_pure_ok h (.supplyMoreEvidence hs hids)
  next ids source hs =>
    obtain ⟨hids, h⟩ := checkAction_bind_ok.mp h
    obtain ⟨allowed, hsrc, hallowed, h⟩ := step_guard h
    obtain rfl := pure_inj h
    exact .supplyFreshEvidence hs hids (hallowed ▸ hsrc)
  next hs => exact of_pure_ok h (.requestAssistant hs)
  next approvalId grant hs =>
    obtain ⟨hb, rfl⟩ := startBillable_ok h
    exact .approveAssistant (b := ⟨approvalId, grant⟩) hs hb
  next hs => exact of_pure_ok h (.declineAssistant hs)
  next hash hs =>
    obtain ⟨hh, h⟩ := checkAction_bind_ok.mp h
    exact of_pure_ok h (.manifestDraftBuilt (Or.inl hs) (validateSha256_ok.mp hh))
  next hash hs =>
    obtain ⟨hh, h⟩ := checkAction_bind_ok.mp h
    exact of_pure_ok h (.manifestDraftBuilt (Or.inr hs) (validateSha256_ok.mp hh))
  next hs => exact of_pure_ok h (.assistantCheckpointed hs)
  next n hs =>
    obtain ⟨hn, h⟩ := guard_ok.mp h
    exact of_pure_ok h (.assistantRequestedMoreEvidence hs (by omega))
  next hash required hs =>
    obtain ⟨hh, h⟩ := checkAction_bind_ok.mp h
    obtain ⟨hdraft, h⟩ := guard_ok.mp h
    cases required with
    | true => exact of_pure_ok h (.manifestNeedsApproval hs (validateSha256_ok.mp hh) hdraft)
    | false => exact of_pure_ok h (.manifestValidated hs (validateSha256_ok.mp hh) hdraft)
  next hs => exact of_pure_ok h (.approveCredentialOrigin hs)
  next m hs =>
    split at h
    next hm =>
      obtain rfl := pure_inj h
      exact hm ▸ .modelsWithoutProbes hs
    next hm => exact of_pure_ok h (.modelsWithProbes hs hm)
  next approvalId grant hs =>
    obtain ⟨hb, rfl⟩ := startBillable_ok h
    exact .approveProbes (b := ⟨approvalId, grant⟩) hs hb
  next hs => exact of_pure_ok h (.skipProbes hs)
  next hs => exact of_pure_ok h (.probesCompleted hs)
  next attempt plan graph hs =>
    obtain ⟨hp, h⟩ := checkAction_bind_ok.mp h
    exact of_pure_ok h (.approveReview hs (validateSha256_ok.mp hp))
  next connectionId hs =>
    obtain ⟨hc, rfl⟩ | ⟨attempt, hc, ha, rfl⟩ := commitCompleted_cases h
    · exact .commitSucceeded hs hc
    · exact .commitSucceededPending hs hc ha
  next failure hs =>
    obtain ⟨hf, h⟩ := checkAction_bind_ok.mp h
    exact of_pure_ok h (.commitFailedBeforeApply hs hf)
  next failure hs =>
    obtain ⟨hnone, h⟩ := guard_ok.mp h
    obtain ⟨hf, h⟩ := checkAction_bind_ok.mp h
    exact of_pure_ok h (.compensationFailed hs hnone hf)
  next hs =>
    obtain ⟨hsome, effect, he, h⟩ := guard_step h
    obtain ⟨attempt, ha, rfl⟩ := runCompensation_ok he
    exact of_pure_ok h (.resumeCompensation hs hsome ha)
  next hs =>
    obtain ⟨effect, he, h⟩ := bind_ok.mp h
    obtain ⟨attempt, ha, rfl⟩ := runCompensation_ok he
    exact of_pure_ok h (.compensationRequired hs ha)
  next hs =>
    obtain ⟨hnone, h⟩ := guard_ok.mp h
    exact of_pure_ok h (.compensationSucceeded hs hnone)
  next hs => exact of_pure_ok h (.commitBecameUnknown hs)
  next hs =>
    obtain ⟨hnone, h⟩ := guard_ok.mp h
    exact of_pure_ok h (.compensationBecameUnknown hs hnone)
  next hs =>
    obtain ⟨checkpoint, hr, effect, he, h⟩ := steps₂ h
    exact of_pure_ok h (.restartInterrupted hs (okOr_ok.mp hr) he)
  next resolution hs => exact resolveUnknownOutcome_cases X hs h
  next => cases h

private theorem applyCancel_cases (h : applyCancel s = .ok t) : Stages X s .cancel t := by
  unfold applyCancel at h
  split at h
  next => cases h
  next ht =>
  split at h
  next => cases h
  next hu =>
  split at h
  next hs => exact of_pure_ok h (.cancelCompensating hs)
  next hs =>
  split at h
  next op ho =>
    split at h
    next hc => exact of_pure_ok h (.cancelAgain ho hs hc)
    next hc => exact of_pure_ok h (.cancelOperation ho hs (by simpa using hc))
  next ho => exact of_pure_ok h (.cancelIdle ho (by simpa using ht) hu)

private theorem applyInterrupt_cases {outcome : DiscoveryInterruptionOutcome}
    (h : applyInterrupt s op outcome = .ok t) : Stages X s (.interrupt op outcome) t := by
  unfold applyInterrupt at h
  split at h
  next => cases h
  next hguard =>
  obtain ⟨ho, hf⟩ := not_or.mp hguard
  replace ho := not_not.mp ho
  replace hf : s.state = .compensating → s.failure = none := by
    intro hs
    simpa using fun hsome => hf ⟨hs, hsome⟩
  cases outcome with
  | confirmedNoExternalEffect =>
    dsimp only at h
    split at h
    next hc =>
      split at h
      next hop =>
        obtain rfl := pure_inj h
        exact .interruptSaga ho hf hc hop
      next hop => exact of_pure_ok h (.interruptCancelled ho hf hc (by simpa using hop))
    next hc => exact of_pure_ok h (.interruptCheckpoint ho hf (by simpa using hc))
  | externalOutcomeUnknown => exact of_pure_ok h (.interruptUnknown ho hf)

private theorem applyFail_cases {failure : DiscoveryFailure} (h : applyFail s failure = .ok t) :
    Stages X s (.fail failure) t := by
  obtain ⟨hguard, h⟩ := guard_ok.mp h
  obtain ⟨hf, h⟩ := checkAction_bind_ok.mp h
  obtain ⟨ht, hr⟩ := not_or.mp hguard
  exact of_pure_ok h (.fail (by simpa using ht) (by simpa using hr) hf)

private theorem applyOther_cases {s : ProviderDiscoverySession}
    {action : ProviderDiscoveryAction} {t : StagedTransition}
    (h : applyOther X s action = .ok t) : Stages X s action t := by
  unfold applyOther at h
  split at h
  next hguard =>
    obtain ⟨hc, _, hs⟩ := hguard
    obtain ⟨ha, h⟩ := guard_ok.mp h
    exact of_pure_ok h (.completePending hc (not_or.mp hs) ha)
  next hguard =>
    refine .table ?_ (applyStateAction_cases X h)
    intro hc ho
    by_contra hs
    exact hguard ⟨hc, ho, hs⟩

/-- **Step inversion.** An accepted action is one of the listed steps. -/
theorem stage_cases (h : stage X s action = .ok t) : Stages X s action t := by
  unfold stage at h
  split at h
  next => exact applyCancel_cases X h
  next => exact applyInterrupt_cases X h
  next => exact applyFail_cases X h
  next => exact applyOther_cases X h

/-- The session that sealing a staged successor produces. -/
def StagedTransition.sealed (t : StagedTransition) (s : ProviderDiscoverySession) :
    ProviderDiscoverySession :=
  { t.next with revision := s.revision + 1, nextEventSequence := s.nextEventSequence + 1 }

/-- **What `apply` accepts.** The session and the envelope pass their checks, the action is
    one of the listed steps, both counters have room, and the sealed successor is well formed. -/
theorem apply_cases {t : DiscoveryTransition} (h : s.apply X eventId envelope = .ok t) :
    ∃ staged, Stages X s envelope.action staged ∧ s.WellFormed X ∧
      envelope.expectedRevision = s.revision ∧ s.revision + 1 ≤ u64Max ∧
      s.nextEventSequence + 1 ≤ u64Max ∧ (staged.sealed s).WellFormed X ∧
      t = sealTransition eventId s envelope staged (staged.sealed s) := by
  obtain ⟨_, hval, _, _, h⟩ := steps₂ h
  obtain ⟨hrev, h⟩ := guard_ok.mp h
  obtain ⟨staged, hstaged, revision, hrevision, h⟩ := steps₂ h
  obtain ⟨sequence, hseq, _, hnext, h⟩ := steps₂ h
  rw [okOr_ok, checkedAdd_eq_some] at hrevision hseq
  obtain ⟨hroom, rfl⟩ := hrevision
  obtain ⟨hroom', rfl⟩ := hseq
  rw [mapError_ok, ProviderDiscoverySession.validate_ok_iff] at hval hnext
  exact ⟨staged, stage_cases X hstaged, hval, hrev, hroom, hroom', hnext, (pure_inj h).symm⟩

/-! ### Runs -/

/-- An accepted action as an observer sees it: the envelope and the transition record. -/
structure AcceptedAction where
  envelope : DiscoveryActionEnvelope
  transition : DiscoveryTransition

/-- The state machine: a session accepts an action and becomes the recorded successor. -/
def Step (s : ProviderDiscoverySession) (l : AcceptedAction) (t : ProviderDiscoverySession) :
    Prop :=
  (∃ eventId, s.apply X eventId l.envelope = .ok l.transition) ∧ t = l.transition.session

/-- A run of the state machine. -/
abbrev Run := Exec (Step X)

/-- A session reachable from a new one with valid input. -/
def ReachableSession (s : ProviderDiscoverySession) : Prop :=
  ∃ id input s₀, ProviderDiscoverySession.new X id input = .ok s₀ ∧ Reachable (Step X) s₀ s

/-- A step of the machine, inverted. -/
theorem Step.cases {t : ProviderDiscoverySession} {l : AcceptedAction} (h : Step X s l t) :
    ∃ staged, Stages X s l.envelope.action staged ∧ l.transition.effect = staged.effect ∧
      t = staged.sealed s ∧ t.WellFormed X := by
  obtain ⟨⟨eventId, happly⟩, rfl⟩ := h
  obtain ⟨staged, hstages, _, _, _, _, hnext, ht⟩ := apply_cases X happly
  refine ⟨staged, hstages, ?_, ?_, ?_⟩
  · rw [ht]
    rfl
  · rw [ht]
    rfl
  · rw [ht]
    exact hnext

end LorePia.Discovery
