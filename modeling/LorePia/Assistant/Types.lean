import LorePia.Assistant.Redaction
import LorePia.Domain.Provider
import LorePia.Lib.Canonical

namespace LorePia.Assistant

open Lib
open Discovery (DiscoverySessionId ModelRouteId EvidenceId ProviderConnectionId
  DiscoveryCandidateId)

/-!
# Setup assistant — the data

Budgets, redacted evidence, manifest drafts, tool calls and their results, and the engine with
its snapshot.  A floating-point number is its bit pattern: the core only compares it, and a draft
whose numbers include a NaN is not equal to itself.
-/

/-! ### Budgets -/

def absMaxEvidenceCount : Nat := 64
def absMaxEvidenceBytes : Nat := 512 * 1024
def absMaxPromptBytes : Nat := 768 * 1024
def absMaxInputTokens : Nat := 256 * 1024
def absMaxOutputTokens : Nat := 64 * 1024
def absMaxToolCalls : Nat := 32
def absMaxTurns : Nat := 32
def absMaxRetries : Nat := 3
def absMaxCostMicroUnits : Nat := 100000000

structure AssistantBudget where
  maxEvidenceCount : Nat
  maxEvidenceBytes : Nat
  maxPromptBytes : Nat
  maxInputTokens : Nat
  maxOutputTokens : Nat
  maxToolCalls : Nat
  maxTurns : Nat
  maxRetries : Nat
  maxCostMicroUnits : Nat

/-- `AssistantBudget::default`. -/
def AssistantBudget.default : AssistantBudget where
  maxEvidenceCount := 24
  maxEvidenceBytes := 128 * 1024
  maxPromptBytes := 256 * 1024
  maxInputTokens := 64 * 1024
  maxOutputTokens := 16 * 1024
  maxToolCalls := 12
  maxTurns := 16
  maxRetries := 2
  maxCostMicroUnits := 10000000

/-- Every limit but that of the retries is positive, and none is above its absolute maximum. -/
def AssistantBudget.IsValid (budget : AssistantBudget) : Prop :=
  (0 < budget.maxEvidenceCount ∧ budget.maxEvidenceCount ≤ absMaxEvidenceCount) ∧
  (0 < budget.maxEvidenceBytes ∧ budget.maxEvidenceBytes ≤ absMaxEvidenceBytes) ∧
  (0 < budget.maxPromptBytes ∧ budget.maxPromptBytes ≤ absMaxPromptBytes) ∧
  (0 < budget.maxInputTokens ∧ budget.maxInputTokens ≤ absMaxInputTokens) ∧
  (0 < budget.maxOutputTokens ∧ budget.maxOutputTokens ≤ absMaxOutputTokens) ∧
  (0 < budget.maxToolCalls ∧ budget.maxToolCalls ≤ absMaxToolCalls) ∧
  (0 < budget.maxTurns ∧ budget.maxTurns ≤ absMaxTurns) ∧
  budget.maxRetries ≤ absMaxRetries ∧
  (0 < budget.maxCostMicroUnits ∧ budget.maxCostMicroUnits ≤ absMaxCostMicroUnits)

instance (budget : AssistantBudget) : Decidable budget.IsValid := by
  unfold AssistantBudget.IsValid
  infer_instance

def AssistantBudget.validate (budget : AssistantBudget) :
    Except AssistantError AssistantBudget := do
  require budget.IsValid .invalidBudget
  return budget

structure AssistantCallEstimate where
  inputTokens : Nat
  maximumOutputTokens : Nat
  maximumCostMicroUnits : Nat

structure AssistantBudgetUsage where
  evidenceBytes : Nat
  promptBytes : Nat
  reservedInputTokens : Nat
  reservedOutputTokens : Nat
  reservedCostMicroUnits : Nat
  toolCalls : Nat
  turns : Nat
  retries : Nat

/-! ### Evidence -/

/-- A manifest parameter. -/
structure ParameterId where
  val : String
deriving DecidableEq

inductive AssistantEvidenceKind
  | officialDocument
  | apiSpecification
  | deterministicExtraction
  | redactedCurl
  | modelMetadata
  | signedCatalog
  | userSuppliedDocument
deriving DecidableEq

/-- The manifest fields that the assistant may substantiate. -/
inductive DraftField
  | apiFamily
  | defaultApiOrigin
  | auth
  | generateEndpoint
  | modelsEndpoint
  | responseDecoder
  | streamingDecoder
  | parameter (id : ParameterId)
deriving DecidableEq

structure EvidenceClaim where
  field : DraftField
  normalizedValue : String
deriving DecidableEq

structure RedactedAssistantEvidence where
  id : EvidenceId
  kind : AssistantEvidenceKind
  sourceUrl : String
  contentSha256 : String
  excerpt : String
  claims : List EvidenceClaim
  redactionCount : Nat
deriving DecidableEq

/-! ### Consent -/

structure AssistantConsent where
  sessionId : DiscoverySessionId
  assistantRouteId : ModelRouteId
  approvedEvidenceIds : List EvidenceId
  approvedSourceOrigins : List String
  allowDocumentEgress : Bool

/-! ### Manifests -/

/-- An `f64`, as its bits. -/
structure Float64 where
  bits : UInt64
deriving DecidableEq

namespace Float64

/-- The bits without the sign. -/
def magnitude (x : Float64) : UInt64 := x.bits &&& 0x7FFFFFFFFFFFFFFF

def isNan (x : Float64) : Bool := 0x7FF0000000000000 < x.magnitude

/-- `f64::eq`: a NaN equals nothing, and the two zeros are equal. -/
def eq (x y : Float64) : Bool :=
  !x.isNan && !y.isNan && (x.bits == y.bits || (x.magnitude == 0 && y.magnitude == 0))

@[simp] theorem eq_self (x : Float64) : x.eq x = !x.isNan := by
  simp [eq]

end Float64

inductive ToolPolicy
  | none
  | auto
  | required
deriving DecidableEq

inductive ParameterLiteral
  | boolean (value : Bool)
  | integer (value : Int)
  | number (value : Float64)
  | string (value : String)
  | enum (value : String)
  | stringList (value : List String)
  | jsonSchema (value : String)
  | stopSequenceList (value : List String)
  | toolPolicy (value : ToolPolicy)
deriving DecidableEq

inductive ParameterType
  | boolean
  | integer
  | number
  | string
  | enum
  | stringList
  | jsonSchema
  | stopSequenceList
  | toolPolicy
deriving DecidableEq

structure ParameterChoice where
  value : ParameterLiteral
  labelKey : String
deriving DecidableEq

inductive ParameterDefaultMode
  | providerDefault
  | explicitRequired
deriving DecidableEq

inductive ParameterConditionOperator
  | equals
  | notEquals
deriving DecidableEq

structure ParameterCondition where
  parameterId : ParameterId
  operator : ParameterConditionOperator
  value : ParameterLiteral
deriving DecidableEq

inductive ParameterConflictKind
  | mutuallyExclusive
  | requires
deriving DecidableEq

structure ParameterConflict where
  parameterId : ParameterId
  kind : ParameterConflictKind
  messageKey : String
deriving DecidableEq

inductive ProviderParameterTarget
  | requestBody
  | requestHeader
deriving DecidableEq

structure ProviderParameterMapping where
  target : ProviderParameterTarget
  fieldName : String
deriving DecidableEq

inductive UiParameterLevel
  | basic
  | advanced
  | expert
  | hiddenInternal
deriving DecidableEq

structure ParameterSpec where
  id : ParameterId
  labelKey : String
  descriptionKey : Option String
  valueType : ParameterType
  allowedValues : List ParameterChoice
  minimum : Option Float64
  maximum : Option Float64
  step : Option Float64
  defaultMode : ParameterDefaultMode
  visibility : Option ParameterCondition
  conflicts : List ParameterConflict
  providerMapping : ProviderParameterMapping
  level : UiParameterLevel
deriving DecidableEq

inductive ManifestSourceKind
  | officialSite
  | officialDocumentation
  | signedCatalog
  | userSupplied
deriving DecidableEq

structure ManifestSource where
  kind : ManifestSourceKind
  url : HttpUrl
  contentSha256 : Option String
deriving DecidableEq

inductive HttpMethod
  | get
  | post
deriving DecidableEq

structure EndpointSpec where
  method : HttpMethod
  path : EndpointPath
deriving DecidableEq

structure ManifestEndpoints where
  models : Option EndpointSpec
  generate : EndpointSpec
deriving DecidableEq

inductive DecoderId
  | openAiJsonV1
  | openAiSseV1
  | anthropicJsonV1
  | anthropicSseV1
  | geminiJsonV1
  | geminiSseV1
  | ollamaJsonV1
  | ollamaJsonlV1
deriving DecidableEq

structure ManifestDecoders where
  response : DecoderId
  streaming : Option DecoderId
deriving DecidableEq

inductive AuthBinding
  | none
  | bearerHeader
  | headerApiKey (headerName : String)
deriving DecidableEq

structure ProviderManifest where
  schemaVersion : Nat
  apiFamily : ApiFamily
  sources : List ManifestSource
  defaultApiOrigin : Option CanonicalOrigin
  auth : AuthBinding
  endpoints : ManifestEndpoints
  decoders : ManifestDecoders
  parameters : List ParameterSpec
deriving DecidableEq

/-! ### Drafts -/

structure UnresolvedQuestion where
  id : String
  field : Option DraftField
  question : String
  requiredEvidence : String
deriving DecidableEq

structure FieldEvidenceMapping where
  field : DraftField
  evidenceIds : List EvidenceId
  explanation : String
deriving DecidableEq

inductive ConfidenceLevel
  | unknown
  | low
  | medium
  | high
deriving DecidableEq

structure FieldConfidence where
  field : DraftField
  level : ConfidenceLevel
  rationale : String
deriving DecidableEq

inductive ConflictDisposition
  | unresolved
  | resolved (selectedEvidenceId : EvidenceId) (rationale : String)
deriving DecidableEq

structure EvidenceConflict where
  field : DraftField
  evidenceIds : List EvidenceId
  disposition : ConflictDisposition
deriving DecidableEq

structure AssistantManifestDraft where
  manifest : ProviderManifest
  evidenceMappings : List FieldEvidenceMapping
  conflicts : List EvidenceConflict
  unresolvedQuestions : List UnresolvedQuestion
  confidence : List FieldConfidence
  summary : String
deriving DecidableEq

inductive DraftReviewCheck
  | manifestValidation
  | urlPolicyValidation
  | credentialOriginApproval
  | userReview
deriving DecidableEq

inductive DraftPersistence
  | blockedUntilChecksPass
deriving DecidableEq

structure DraftReviewRequirements where
  requiredChecks : List DraftReviewCheck
  persistence : DraftPersistence
deriving DecidableEq

/-- `DraftReviewRequirements::default`. -/
def DraftReviewRequirements.default : DraftReviewRequirements where
  requiredChecks :=
    [.manifestValidation, .urlPolicyValidation, .credentialOriginApproval, .userReview]
  persistence := .blockedUntilChecksPass

structure AssistantDraftReview where
  draft : AssistantManifestDraft
  unresolvedConflicts : List DraftField
  requirements : DraftReviewRequirements

/-! ### Equality of drafts

`PartialEq` compares the numbers of a manifest as floating-point numbers and everything else as
it is, which is to compare the drafts without their numbers, and then the numbers one by one. -/

def eqOption : Option Float64 → Option Float64 → Bool
  | none, none => true
  | some x, some y => x.eq y
  | _, _ => false

def eqList {α : Type} (eq : α → α → Bool) : List α → List α → Bool
  | [], [] => true
  | a :: as, b :: bs => eq a b && eqList eq as bs
  | _, _ => false

namespace ParameterLiteral

def eq : ParameterLiteral → ParameterLiteral → Bool
  | number x, number y => x.eq y
  | a, b => a == b

def hasNan : ParameterLiteral → Bool
  | number x => x.isNan
  | _ => false

theorem eq_self (a : ParameterLiteral) : a.eq a = !a.hasNan := by
  cases a <;> simp [eq, hasNan]

end ParameterLiteral

def ParameterChoice.eq (a b : ParameterChoice) : Bool :=
  a.value.eq b.value && a.labelKey == b.labelKey

def ParameterCondition.eq (a b : ParameterCondition) : Bool :=
  a.parameterId == b.parameterId && a.operator == b.operator && a.value.eq b.value

def eqVisibility : Option ParameterCondition → Option ParameterCondition → Bool
  | none, none => true
  | some a, some b => a.eq b
  | _, _ => false

namespace ParameterSpec

def eq (a b : ParameterSpec) : Bool :=
  a.id == b.id && a.labelKey == b.labelKey && a.descriptionKey == b.descriptionKey &&
    a.valueType == b.valueType && eqList ParameterChoice.eq a.allowedValues b.allowedValues &&
    eqOption a.minimum b.minimum && eqOption a.maximum b.maximum && eqOption a.step b.step &&
    a.defaultMode == b.defaultMode && eqVisibility a.visibility b.visibility &&
    a.conflicts == b.conflicts && a.providerMapping == b.providerMapping && a.level == b.level

/-- One of the numbers of a parameter is a NaN. -/
def hasNan (a : ParameterSpec) : Bool :=
  a.allowedValues.any (·.value.hasNan) || a.minimum.any Float64.isNan ||
    a.maximum.any Float64.isNan || a.step.any Float64.isNan || a.visibility.any (·.value.hasNan)

end ParameterSpec

def ProviderManifest.eq (a b : ProviderManifest) : Bool :=
  a.schemaVersion == b.schemaVersion && a.apiFamily == b.apiFamily && a.sources == b.sources &&
    a.defaultApiOrigin == b.defaultApiOrigin && a.auth == b.auth && a.endpoints == b.endpoints &&
    a.decoders == b.decoders && eqList ParameterSpec.eq a.parameters b.parameters

def AssistantManifestDraft.eq (a b : AssistantManifestDraft) : Bool :=
  a.manifest.eq b.manifest && a.evidenceMappings == b.evidenceMappings &&
    a.conflicts == b.conflicts && a.unresolvedQuestions == b.unresolvedQuestions &&
    a.confidence == b.confidence && a.summary == b.summary

/-- One of the numbers in the manifest of a draft is a NaN. -/
def AssistantManifestDraft.hasNan (a : AssistantManifestDraft) : Bool :=
  a.manifest.parameters.any ParameterSpec.hasNan

/-- `AssistantDraftReview::eq`. -/
def AssistantDraftReview.eq (a b : AssistantDraftReview) : Bool :=
  a.draft.eq b.draft && a.unresolvedConflicts == b.unresolvedConflicts &&
    a.requirements == b.requirements

theorem eqOption_self (a : Option Float64) : eqOption a a = !a.any Float64.isNan := by
  cases a <;> simp [eqOption]

theorem eqList_self {α : Type} {eq : α → α → Bool} {bad : α → Bool}
    (h : ∀ a, eq a a = !bad a) (as : List α) : eqList eq as as = !as.any bad := by
  induction as with
  | nil => rfl
  | cons a as ih => rw [eqList, h, ih, List.any_cons, Bool.not_or]

theorem ParameterChoice.eq_self (a : ParameterChoice) : a.eq a = !a.value.hasNan := by
  simp [ParameterChoice.eq, ParameterLiteral.eq_self]

theorem eqVisibility_self (a : Option ParameterCondition) :
    eqVisibility a a = !a.any (·.value.hasNan) := by
  cases a <;> simp [eqVisibility, ParameterCondition.eq, ParameterLiteral.eq_self]

theorem ParameterSpec.eq_self (a : ParameterSpec) : a.eq a = !a.hasNan := by
  simp only [ParameterSpec.eq, ParameterSpec.hasNan, eqList_self ParameterChoice.eq_self,
    eqOption_self, eqVisibility_self, beq_self_eq_true, Bool.true_and, Bool.and_true, Bool.not_or]

/-- **A draft is equal to itself iff none of its numbers is a NaN.** -/
theorem AssistantManifestDraft.eq_self (a : AssistantManifestDraft) : a.eq a = !a.hasNan := by
  simp [AssistantManifestDraft.eq, AssistantManifestDraft.hasNan, ProviderManifest.eq,
    eqList_self ParameterSpec.eq_self]

theorem AssistantDraftReview.eq_self (a : AssistantDraftReview) : a.eq a = !a.draft.hasNan := by
  simp [AssistantDraftReview.eq, AssistantManifestDraft.eq_self]

end LorePia.Assistant
