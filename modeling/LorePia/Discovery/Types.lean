import LorePia.Domain.Url

namespace LorePia.Discovery

/-!
# Provider discovery — the durable data types

The records and enumerations of the discovery contract: the sanitized input, the session,
the closed action vocabulary, effects, transitions, events and receipts.  A session is a
flat record; what makes one well formed is `ProviderDiscoverySession.validate`
(`Validate.lean`), and the only way to move one is `ProviderDiscoverySession.apply`
(`Apply.lean`).

Identifiers that the source validates on construction are structures carrying that
validity; identifiers it leaves free are plain newtypes.
-/

/-! ### Identifiers -/

/-- `validate_opaque_id`: 1 to 128 bytes, no controls, no surrounding whitespace. -/
def validOpaqueId (value : String) : Bool :=
  value ≠ "" && byteLen value ≤ 128 && !hasControl value && trim value == value

/-- An identifier of the `discovery_id!` family. -/
structure OpaqueId where
  val : String
  valid : validOpaqueId val = true
deriving DecidableEq

abbrev DiscoveryActionId := OpaqueId
abbrev DiscoveryApprovalId := OpaqueId
abbrev DiscoveryCandidateId := OpaqueId
abbrev DiscoveryCommitAttemptId := OpaqueId
abbrev DiscoveryEventId := OpaqueId

/-- An identifier of the `stable_id!` family. -/
structure StableId where
  val : String
deriving DecidableEq

abbrev DiscoverySessionId := StableId
abbrev ProviderConnectionId := StableId
abbrev ModelRouteId := StableId
abbrev EvidenceId := StableId

/-- An opaque slot of the native credential broker. -/
structure CredentialRef where
  val : String
deriving DecidableEq

/-! ### Sanitized input -/

inductive ConnectionConfigValue
  | text (value : String)
  | integer (value : Int)
  | boolean (value : Bool)
deriving DecidableEq

structure ConnectionConfigEntry where
  key : String
  value : ConnectionConfigValue
deriving DecidableEq

inductive ProviderNetworkMode
  | «public»
  | localLoopback
  | approvedLocalNetwork
deriving DecidableEq

structure ProviderLocalNetworkApproval where
  origin : CanonicalOrigin
  addresses : List IpAddr
deriving DecidableEq

structure ProviderDiscoveryConnectionOptions where
  values : List ConnectionConfigEntry
  apiBasePath : Option EndpointPath
  timeoutSeconds : Nat
  networkMode : ProviderNetworkMode
  localNetworkApproval : Option ProviderLocalNetworkApproval
deriving DecidableEq

/-- `ProviderDiscoveryConnectionOptions::default`. -/
def ProviderDiscoveryConnectionOptions.default : ProviderDiscoveryConnectionOptions where
  values := []
  apiBasePath := none
  timeoutSeconds := 60
  networkMode := .public
  localNetworkApproval := none

structure SanitizedDiscoveryInput where
  connectionId : ProviderConnectionId
  displayName : String
  siteUrl : HttpUrl
  docsUrl : Option HttpUrl
  credentialRef : Option CredentialRef
  preferredAssistant : Option ModelRouteId
  connectionOptions : ProviderDiscoveryConnectionOptions
  suppliedEvidenceIds : List EvidenceId
deriving DecidableEq

/-! ### States and operations -/

inductive DiscoveryState
  | draft
  | resolvingKnownProvider
  | awaitingTemplateSelection
  | fetchingDocuments
  | extractingEvidence
  | awaitingMoreEvidence
  | awaitingAssistantConsent
  | buildingDeterministicManifestDraft
  | buildingAssistantManifestDraft
  | validatingManifest
  | awaitingCredentialOriginApproval
  | listingModels
  | awaitingProbeConsent
  | probingCapabilities
  | awaitingReview
  | committing
  | compensating
  | ready
  | failed
  | cancelled
  | interrupted
  | unknownOutcome
deriving DecidableEq

inductive DiscoveryOperationKind
  | resolveKnownProvider
  | fetchDocuments
  | extractEvidence
  | buildDeterministicManifestDraft
  | buildAssistantManifestDraft
  | validateManifest
  | listModels
  | probeCapabilities
  | atomicCommit
  | compensation
deriving DecidableEq

def DiscoveryState.isTerminal : DiscoveryState → Bool
  | .ready | .failed | .cancelled => true
  | _ => false

def DiscoveryState.operation : DiscoveryState → Option DiscoveryOperationKind
  | .resolvingKnownProvider => some .resolveKnownProvider
  | .fetchingDocuments => some .fetchDocuments
  | .extractingEvidence => some .extractEvidence
  | .buildingDeterministicManifestDraft => some .buildDeterministicManifestDraft
  | .buildingAssistantManifestDraft => some .buildAssistantManifestDraft
  | .validatingManifest => some .validateManifest
  | .listingModels => some .listModels
  | .probingCapabilities => some .probeCapabilities
  | .committing => some .atomicCommit
  | .compensating => some .compensation
  | _ => none

/-- `state_for_operation`. -/
def stateForOperation : DiscoveryOperationKind → DiscoveryState
  | .resolveKnownProvider => .resolvingKnownProvider
  | .fetchDocuments => .fetchingDocuments
  | .extractEvidence => .extractingEvidence
  | .buildDeterministicManifestDraft => .buildingDeterministicManifestDraft
  | .buildAssistantManifestDraft => .buildingAssistantManifestDraft
  | .validateManifest => .validatingManifest
  | .listModels => .listingModels
  | .probeCapabilities => .probingCapabilities
  | .atomicCommit => .committing
  | .compensation => .compensating

inductive DiscoverySideEffectClass
  | localDeterministic
  | readOnly
  | billableExternal
  | persistent
deriving DecidableEq

def DiscoveryOperationKind.sideEffectClass : DiscoveryOperationKind → DiscoverySideEffectClass
  | .buildDeterministicManifestDraft => .localDeterministic
  | .resolveKnownProvider | .fetchDocuments | .extractEvidence | .validateManifest
  | .listModels => .readOnly
  | .buildAssistantManifestDraft | .probeCapabilities => .billableExternal
  | .atomicCommit | .compensation => .persistent

inductive DiscoveryInterruptionOutcome
  | confirmedNoExternalEffect
  | externalOutcomeUnknown
deriving DecidableEq

/-! ### The session -/

structure DiscoveryRecoveryCheckpoint where
  interruptedState : DiscoveryState
  operation : DiscoveryOperationKind
deriving DecidableEq

structure DiscoveryFailure where
  code : String
  messageKey : String
  recoverable : Bool
deriving DecidableEq

structure DiscoveryApprovalBinding where
  approvalId : DiscoveryApprovalId
  grantSha256 : String
deriving DecidableEq

structure ProviderDiscoverySession where
  id : DiscoverySessionId
  input : SanitizedDiscoveryInput
  state : DiscoveryState
  revision : Nat
  nextEventSequence : Nat
  recovery : Option DiscoveryRecoveryCheckpoint
  unknownOperation : Option DiscoveryOperationKind
  manifestSha256 : Option String
  commitPlanSha256 : Option String
  commitAttemptId : Option DiscoveryCommitAttemptId
  committedConnectionId : Option ProviderConnectionId
  cancellationPending : Bool
  activeEffectApproval : Option DiscoveryApprovalBinding
  failure : Option DiscoveryFailure
deriving DecidableEq

/-! ### Actions -/

inductive DiscoveryFreshEvidenceSource
  | documentUrl (origin : CanonicalOrigin)
  | sanitizedCurl (origin : CanonicalOrigin)
deriving DecidableEq

def DiscoveryFreshEvidenceSource.origin : DiscoveryFreshEvidenceSource → CanonicalOrigin
  | .documentUrl origin | .sanitizedCurl origin => origin

inductive DiscoveryAssistantCheckpoint
  | ready
  | awaitingAssistant
  | awaitingToolResult
  | awaitingMoreEvidence
  | awaitingRetryConsent
  | draftReady
deriving DecidableEq

inductive DiscoveryEvidenceResolution
  | deterministicDraftAvailable
  | assistantRecommended
  | moreEvidenceRequired
deriving DecidableEq

inductive DiscoveryUnknownOutcomeResolution
  | confirmedNoEffect
  | confirmedCommitCompleted (connectionId : ProviderConnectionId)
  | confirmedCompensated
  | manuallyReconciledAsFailed
deriving DecidableEq

inductive ProviderDiscoveryAction
  | begin
  | knownProviderCandidatesResolved (candidateCount : Nat)
  | selectTemplate (candidateId : DiscoveryCandidateId)
  | continueWithoutTemplate
  | documentsFetched (evidenceCount : Nat)
  | evidenceExtracted (resolution : DiscoveryEvidenceResolution)
  | supplyMoreEvidence (evidenceIds : List EvidenceId)
  | supplyFreshEvidence (evidenceIds : List EvidenceId) (source : DiscoveryFreshEvidenceSource)
  | requestAssistant
  | approveAssistant (approvalId : DiscoveryApprovalId) (approvalGrantSha256 : String)
  | declineAssistant
  | assistantCheckpointed (checkpoint : DiscoveryAssistantCheckpoint)
  | assistantRequestedMoreEvidence (questionCount : Nat)
  | assistantResumedWithEvidence (approvalId : DiscoveryApprovalId) (approvalGrantSha256 : String)
  | manifestDraftBuilt (manifestSha256 : String)
  | manifestValidated (manifestSha256 : String) (credentialOriginApprovalRequired : Bool)
  | approveCredentialOrigin (approvalId : DiscoveryApprovalId)
  | modelsListed (modelCount probeCandidateCount : Nat)
  | approveProbes (approvalId : DiscoveryApprovalId) (approvalGrantSha256 : String)
  | skipProbes
  | probesCompleted
  | approveReview (approvalId : DiscoveryApprovalId) (commitAttemptId : DiscoveryCommitAttemptId)
      (commitPlanSha256 graphSha256 : String)
  | commitSucceeded (connectionId : ProviderConnectionId)
  | commitFailedBeforeApply (failure : DiscoveryFailure)
  | compensationRequired
  | compensationSucceeded
  | compensationFailed (failure : DiscoveryFailure)
  | resumeCompensation
  | externalOutcomeBecameUnknown
  | interrupt (operation : DiscoveryOperationKind) (outcome : DiscoveryInterruptionOutcome)
  | restartInterrupted
  | resolveUnknownOutcome (approvalId : DiscoveryApprovalId)
      (resolution : DiscoveryUnknownOutcomeResolution)
  | fail (failure : DiscoveryFailure)
  | cancel
deriving DecidableEq

/-- `ProviderDiscoveryAction::kind`: the stable name of an action. -/
def ProviderDiscoveryAction.kind : ProviderDiscoveryAction → String
  | .begin => "begin"
  | .knownProviderCandidatesResolved _ => "known_provider_candidates_resolved"
  | .selectTemplate _ => "select_template"
  | .continueWithoutTemplate => "continue_without_template"
  | .documentsFetched _ => "documents_fetched"
  | .evidenceExtracted _ => "evidence_extracted"
  | .supplyMoreEvidence _ => "supply_more_evidence"
  | .supplyFreshEvidence _ _ => "supply_fresh_evidence"
  | .requestAssistant => "request_assistant"
  | .approveAssistant _ _ => "approve_assistant"
  | .declineAssistant => "decline_assistant"
  | .assistantCheckpointed _ => "assistant_checkpointed"
  | .assistantRequestedMoreEvidence _ => "assistant_requested_more_evidence"
  | .assistantResumedWithEvidence _ _ => "assistant_resumed_with_evidence"
  | .manifestDraftBuilt _ => "manifest_draft_built"
  | .manifestValidated _ _ => "manifest_validated"
  | .approveCredentialOrigin _ => "approve_credential_origin"
  | .modelsListed _ _ => "models_listed"
  | .approveProbes _ _ => "approve_probes"
  | .skipProbes => "skip_probes"
  | .probesCompleted => "probes_completed"
  | .approveReview _ _ _ _ => "approve_review"
  | .commitSucceeded _ => "commit_succeeded"
  | .commitFailedBeforeApply _ => "commit_failed_before_apply"
  | .compensationRequired => "compensation_required"
  | .compensationSucceeded => "compensation_succeeded"
  | .compensationFailed _ => "compensation_failed"
  | .resumeCompensation => "resume_compensation"
  | .externalOutcomeBecameUnknown => "external_outcome_became_unknown"
  | .interrupt _ _ => "interrupt"
  | .restartInterrupted => "restart_interrupted"
  | .resolveUnknownOutcome _ _ => "resolve_unknown_outcome"
  | .fail _ => "fail"
  | .cancel => "cancel"

structure DiscoveryActionEnvelope where
  id : DiscoveryActionId
  expectedRevision : Nat
  requestSha256 : String
  action : ProviderDiscoveryAction

/-! ### Effects, events and receipts -/

inductive DiscoveryEffect
  | none
  | resolveKnownProvider
  | fetchDocuments
  | extractEvidence
  | buildDeterministicManifestDraft
  | buildAssistantManifestDraft (approval : DiscoveryApprovalBinding)
  | validateManifest
  | listModels
  | probeCapabilities (approval : DiscoveryApprovalBinding)
  | requestCancellation (operation : DiscoveryOperationKind)
  | commitAtomically (commitAttemptId : DiscoveryCommitAttemptId) (planSha256 : String)
  | runCompensation (commitAttemptId : DiscoveryCommitAttemptId)
deriving DecidableEq

inductive DiscoveryProgressPhase
  | providerCandidates
  | documents
  | evidence
  | models
  | probes
deriving DecidableEq

structure DiscoveryProgress where
  phase : DiscoveryProgressPhase
  completed : Nat
  total : Option Nat
deriving DecidableEq

inductive DiscoveryActionRequired
  | selectTemplate
  | supplyMoreEvidence
  | approveAssistant
  | approveCredentialOrigin
  | approveProbes
  | review
  | restartInterrupted (operation : DiscoveryOperationKind)
  | reconcileUnknownOutcome (operation : DiscoveryOperationKind)
deriving DecidableEq

inductive DiscoveryWarning
  | assistantDeclined
  | probesSkipped
  | compensationRequired
  | explicitRestartRequired
  | unknownExternalOutcome
deriving DecidableEq

structure ProviderDiscoveryEvent where
  version : Nat
  id : DiscoveryEventId
  sessionId : DiscoverySessionId
  sequence : Nat
  sessionRevision : Nat
  state : DiscoveryState
  progress : Option DiscoveryProgress
  actionRequired : Option DiscoveryActionRequired
  warning : Option DiscoveryWarning
  actionId : DiscoveryActionId
  failure : Option DiscoveryFailure
deriving DecidableEq

inductive DiscoveryActionReceiptOutcome
  | applied
  | rejected
  | outcomeUnknown
deriving DecidableEq

structure DiscoveryActionReceipt where
  actionId : DiscoveryActionId
  sessionId : DiscoverySessionId
  actionKind : String
  requestSha256 : String
  expectedRevision : Nat
  resultingRevision : Nat
  eventSequence : Nat
  outcome : DiscoveryActionReceiptOutcome
deriving DecidableEq

structure DiscoveryTransition where
  previousRevision : Nat
  session : ProviderDiscoverySession
  event : ProviderDiscoveryEvent
  receipt : DiscoveryActionReceipt
  effect : DiscoveryEffect
deriving DecidableEq

/-! ### Errors -/

/-- `DiscoveryContractError::InvalidField`: the field checked and what it must satisfy. -/
structure DiscoveryContractError where
  field : String
  reason : String
deriving DecidableEq

inductive DiscoveryTransitionError
  | revisionConflict (expected actual : Nat)
  | invalidTransition (state : DiscoveryState) (action : String)
  | unknownOutcomeRequiresReconciliation
  | revisionExhausted
  | sequenceExhausted
  | invalidSession (error : DiscoveryContractError)
  | invalidAction (error : DiscoveryContractError)
deriving DecidableEq

end LorePia.Discovery
