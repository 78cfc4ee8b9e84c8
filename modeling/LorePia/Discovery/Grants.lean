import LorePia.Discovery.Validate

namespace LorePia.Discovery

open Lib

/-!
# Provider discovery — grants, reviews and commit recipes

The typed contracts a session only refers to by digest: what a user approved
(`DiscoveryApprovalGrant`), what was reviewed (`DiscoveryReviewDiff`), and what a commit
will do and undo (`DiscoveryCommitPlan`, `DiscoveryCompensationStep`), each with its
`validate`.
-/

abbrev ProviderTemplateId := StableId
abbrev GenerationPresetId := StableId

/-! ### Approval grants -/

inductive AuthBinding
  | none
  | bearerHeader
  | headerApiKey (headerName : String)
deriving DecidableEq

structure DiscoveryProbeBudget where
  maxRequests : Nat
  maxTotalTokensPerRequest : Nat
  maxOutputTokensPerRequest : Nat
  maxCostMicroUsdPerRequest : Nat
  maxDurationMillisPerRequest : Nat
  maxCallsPerRequest : Nat
deriving DecidableEq

inductive DiscoveryApprovalGrant
  | templateSelection (candidateId : DiscoveryCandidateId)
  | assistantConsent (assistantRouteId : ModelRouteId) (evidenceIds : List EvidenceId)
      (allowedDocumentOrigins : List CanonicalOrigin)
      (maxCalls maxInputTokens maxOutputTokens maxToolCalls maxRetries maxCostMicroUnits : Nat)
  | credentialOrigin (origin : CanonicalOrigin) (authBinding : AuthBinding)
      (manifestSha256 : String)
  | capabilityProbe (modelRouteIds : List ModelRouteId) (budget : DiscoveryProbeBudget)
  | review (reviewSha256 graphSha256 : String)
  | unknownOutcomeResolution (operation : DiscoveryOperationKind)
      (resolution : DiscoveryUnknownOutcomeResolution)

/-- `ids.windows(2).all(|pair| pair[0] < pair[1])`. -/
def strictlyAscending : List StableId → Bool
  | a :: b :: ids => a.val < b.val && strictlyAscending (b :: ids)
  | _ => true

/-- `DiscoveryProbeBudget::PROBES_PER_ROUTE`. -/
def probesPerRoute : Nat := 5

def DiscoveryProbeBudget.validate (budget : DiscoveryProbeBudget) :
    Except DiscoveryContractError Unit := do
  require (¬ (budget.maxRequests = 0 ∨ 10000 < budget.maxRequests ∨
      budget.maxTotalTokensPerRequest = 0 ∨ 4096 < budget.maxTotalTokensPerRequest ∨
      budget.maxOutputTokensPerRequest = 0 ∨ 1024 < budget.maxOutputTokensPerRequest ∨
      budget.maxTotalTokensPerRequest < budget.maxOutputTokensPerRequest ∨
      100000 < budget.maxCostMicroUsdPerRequest ∨
      budget.maxDurationMillisPerRequest = 0 ∨ 60000 < budget.maxDurationMillisPerRequest ∨
      budget.maxCallsPerRequest ≠ 1))
    ⟨"approval.capability_probe.budget",
      "requires bounded requests, tokens, cost, duration, and one call per request"⟩
  forEach (fun item => do
      let _ ← okOr (checkedMul item.2 budget.maxRequests)
        ⟨item.1, "aggregate budget overflows its durable integer representation"⟩
      return)
    [("approval.capability_probe.aggregate_total_tokens", budget.maxTotalTokensPerRequest),
     ("approval.capability_probe.aggregate_output_tokens", budget.maxOutputTokensPerRequest),
     ("approval.capability_probe.aggregate_cost_micro_usd", budget.maxCostMicroUsdPerRequest),
     ("approval.capability_probe.aggregate_duration_millis", budget.maxDurationMillisPerRequest)]

def DiscoveryProbeBudget.standardForPlan (routeCount probes : Nat) :
    Except DiscoveryContractError DiscoveryProbeBudget := do
  require (probes = probesPerRoute) ⟨"approval.capability_probe.probe_plan",
      "probe plan does not match the supported capability set"⟩
  require (routeCount ≤ u32Max)
    ⟨"approval.capability_probe.routes", "route count exceeds the supported range"⟩
  require (probes ≤ u32Max)
    ⟨"approval.capability_probe.probe_plan", "probe count exceeds the supported range"⟩
  -- `u32::checked_mul` and the filter on positive products
  require (routeCount * probes ≤ u32Max ∧ 0 < routeCount * probes)
    ⟨"approval.capability_probe.max_requests", "request count exceeds the supported range"⟩
  let budget : DiscoveryProbeBudget :=
    { maxRequests := routeCount * probes
      maxTotalTokensPerRequest := 512
      maxOutputTokensPerRequest := 32
      maxCostMicroUsdPerRequest := 100000
      maxDurationMillisPerRequest := 30000
      maxCallsPerRequest := 1 }
  budget.validate
  return budget

def DiscoveryProbeBudget.standardForRouteCount (routeCount : Nat) :
    Except DiscoveryContractError DiscoveryProbeBudget :=
  standardForPlan routeCount probesPerRoute

def DiscoveryApprovalGrant.validate : DiscoveryApprovalGrant →
    Except DiscoveryContractError Unit
  | .assistantConsent _ evidenceIds origins maxCalls maxInputTokens maxOutputTokens maxToolCalls
      maxRetries maxCostMicroUnits => do
    require (¬ (evidenceIds = [] ∨ 128 < evidenceIds.length ∨ origins = [] ∨
        32 < origins.length ∨ maxCalls = 0 ∨ 64 < maxCalls ∨ maxInputTokens = 0 ∨
        maxOutputTokens = 0 ∨ maxToolCalls = 0 ∨ 32 < maxToolCalls ∨ 3 < maxRetries ∨
        maxCostMicroUnits = 0 ∨ 100000000 < maxCostMicroUnits))
      ⟨"approval.assistant_consent",
        "requires bounded evidence, origins, calls, tokens, tools, retries, and cost"⟩
    require (evidenceIds.Nodup ∧ strictlyAscending evidenceIds)
      ⟨"approval.assistant_consent.evidence_ids", "must be unique and sorted"⟩
  | .credentialOrigin _ _ manifestSha256 => validateSha256 "approval.manifest_sha256" manifestSha256
  | .capabilityProbe modelRouteIds budget => do
    require (¬ (modelRouteIds = [] ∨ 1000 < modelRouteIds.length))
      ⟨"approval.capability_probe", "requires a bounded route set"⟩
    require (strictlyAscending modelRouteIds)
      ⟨"approval.capability_probe.model_route_ids", "must be unique and sorted"⟩
    budget.validate
    let expected ← DiscoveryProbeBudget.standardForRouteCount modelRouteIds.length
    require (budget = expected) ⟨"approval.capability_probe.budget",
        "must equal the standard budget for the approved route set"⟩
  | .review reviewSha256 graphSha256 => do
    validateSha256 "approval.review_sha256" reviewSha256
    validateSha256 "approval.graph_sha256" graphSha256
  | .templateSelection _ | .unknownOutcomeResolution _ _ => .ok ()

/-! ### Reviews -/

inductive DiscoveryReviewChangeKind
  | add
  | update
  | deprecate
  | preserveMissing

structure DiscoveryReviewChange where
  kind : DiscoveryReviewChangeKind
  targetKind : String
  targetId : String
  summaryKey : String
  evidenceIds : List EvidenceId

structure DiscoveryReviewDiff where
  sha256 : String
  graphSha256 : String
  changes : List DiscoveryReviewChange
  unresolvedQuestionCount : Nat
  warningCount : Nat

/-- What the typed contracts take from outside: the SHA-256 digest in lowercase hexadecimal,
    and the serialized review payload. -/
structure Digests where
  sha256Hex : Bytes → String
  reviewPayload : String → List DiscoveryReviewChange → Nat → Nat → Except String Bytes

/-- `DiscoveryReviewDiff::computed_sha256`. -/
def DiscoveryReviewDiff.computedSha256 (D : Digests) (review : DiscoveryReviewDiff) :
    Except DiscoveryContractError String := do
  let canonical ← (D.reviewPayload review.graphSha256 review.changes
    review.unresolvedQuestionCount review.warningCount).mapError fun error =>
      ⟨"review", "could not encode canonical review payload: " ++ error⟩
  return D.sha256Hex canonical

def DiscoveryReviewDiff.validate (D : Digests) (review : DiscoveryReviewDiff) :
    Except DiscoveryContractError Unit := do
  validateSha256 "review.sha256" review.sha256
  validateSha256 "review.graph_sha256" review.graphSha256
  require (review.changes.length ≤ 4096) ⟨"review.changes", "exceeds the 4096 change limit"⟩
  let computed ← review.computedSha256 D
  require (computed = review.sha256)
    ⟨"review.sha256", "does not match the canonical review payload"⟩

/-! ### Commit plans and compensation steps -/

inductive DiscoveryPreviousSelection
  | none
  | routeAndPreset (modelRouteId : ModelRouteId) (generationPresetId : GenerationPresetId)
deriving DecidableEq

def DiscoveryPreviousSelection.validate : DiscoveryPreviousSelection →
    Except DiscoveryContractError Unit
  | .none => .ok ()
  | .routeAndPreset modelRouteId generationPresetId => do
    validateOpaqueReference "previous_selection.model_route_id" modelRouteId.val
    validateOpaqueReference "previous_selection.generation_preset_id" generationPresetId.val

structure DiscoveryCommitPlan where
  attemptId : DiscoveryCommitAttemptId
  sessionId : DiscoverySessionId
  expectedRevision : Nat
  manifestSha256 : String
  graphSha256 : String
  templateId : ProviderTemplateId
  templateVersion : Nat
  connectionId : ProviderConnectionId
  modelRouteIds : List ModelRouteId
  credentialRef : Option CredentialRef
  credentialApprovalId : Option DiscoveryApprovalId
  reviewSha256 : String
  previousSelection : DiscoveryPreviousSelection

variable (plan : DiscoveryCommitPlan)

def DiscoveryCommitPlan.validate :
    Except DiscoveryContractError Unit := do
  validateSha256 "commit.manifest_sha256" plan.manifestSha256
  validateSha256 "commit.graph_sha256" plan.graphSha256
  validateSha256 "commit.review_sha256" plan.reviewSha256
  require (plan.templateVersion ≠ 0) ⟨"commit.template_version", "must be positive"⟩
  require (plan.modelRouteIds ≠ []) ⟨"commit.model_route_ids", "must contain at least one route"⟩
  require (plan.credentialRef.isSome = plan.credentialApprovalId.isSome)
    ⟨"commit.credential_approval_id",
      "must be present exactly when a credential reference is linked"⟩
  require (¬ plan.credentialRef.any fun reference => reference.val != plan.connectionId.val)
    ⟨"commit.credential_ref", "must use the committed connection identifier as its native slot"⟩
  plan.previousSelection.validate

inductive DiscoveryCompensationKind
  | removeCredentialSlot
  | removeConnectionGraph
  | restorePreviousSelection
deriving DecidableEq

/-- The name serialization gives a compensation kind. -/
def DiscoveryCompensationKind.name : DiscoveryCompensationKind → String
  | .removeCredentialSlot => "remove_credential_slot"
  | .removeConnectionGraph => "remove_connection_graph"
  | .restorePreviousSelection => "restore_previous_selection"

inductive DiscoveryCompensationStatus
  | pending
  | inProgress
  | completed
  | failed
  | outcomeUnknown
deriving DecidableEq

inductive DiscoveryCompensationTarget
  | removeCredentialSlot (connectionId : ProviderConnectionId) (credentialRef : CredentialRef)
  | removeConnectionGraph (connectionId : ProviderConnectionId)
  | restorePreviousSelection (previousSelection : DiscoveryPreviousSelection)

def DiscoveryCompensationTarget.kind : DiscoveryCompensationTarget → DiscoveryCompensationKind
  | .removeCredentialSlot _ _ => .removeCredentialSlot
  | .removeConnectionGraph _ => .removeConnectionGraph
  | .restorePreviousSelection _ => .restorePreviousSelection

def DiscoveryCompensationTarget.validateAgainst :
    DiscoveryCompensationTarget → Except DiscoveryContractError Unit
  | .removeCredentialSlot connectionId credentialRef => do
    require (connectionId = plan.connectionId ∧ plan.credentialRef = some credentialRef)
      ⟨"compensation.target",
        "credential removal must match the approved connection and credential reference"⟩
    validateOpaqueReference "compensation.target.credential_ref" credentialRef.val
  | .removeConnectionGraph connectionId => do
    require (connectionId = plan.connectionId)
      ⟨"compensation.target.connection_id", "graph removal must match the approved connection"⟩
    validateOpaqueReference "compensation.target.connection_id" connectionId.val
  | .restorePreviousSelection previousSelection => do
    require (previousSelection = plan.previousSelection) ⟨"compensation.target.previous_selection",
        "selection restore must match the approved pre-commit snapshot"⟩
    previousSelection.validate

structure DiscoveryCompensationStep where
  actionId : DiscoveryActionId
  ordinal : Nat
  kind : DiscoveryCompensationKind
  target : DiscoveryCompensationTarget
  status : DiscoveryCompensationStatus

def DiscoveryCompensationStep.validateAgainst
    (step : DiscoveryCompensationStep) : Except DiscoveryContractError Unit := do
  require (step.kind = step.target.kind)
    ⟨"compensation.kind", "must match the typed compensation target"⟩
  step.target.validateAgainst plan

end LorePia.Discovery
