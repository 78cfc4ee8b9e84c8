import LorePia.Assistant.Drafts

namespace LorePia.Assistant

open Lib List
open Discovery (ModelRouteId EvidenceId ProviderConnectionId DiscoveryCandidateId)

/-!
# Setup assistant — tool calls and their results

The closed set of typed actions, their results, and the checks of both against the evidence and
the allowed adapter families.  Evidence is only ever added while a call waits for its result, so
what passed once passes again:

* `validateToolCall_mono`, `validateToolResult_mono` — the checks are monotone in the evidence.
-/

inductive AssistantToolCall
  | searchOfficialDocs (query : String)
  | inspectEvidence (evidenceId : EvidenceId)
  | fetchDiscoveryDocument (candidateId : DiscoveryCandidateId)
  | listModels (connectionId : ProviderConnectionId)
  | testConnection (connectionId : ProviderConnectionId)
  | probeCapability (modelRouteId : ModelRouteId) (capability : CapabilityKey)
  | listManifestAdapterFamilies
  | validateManifestDraft (draft : AssistantManifestDraft)
  | showUnresolvedQuestions
deriving DecidableEq

inductive AssistantTurn
  | callTool (call : AssistantToolCall)
  | submitDraft (draft : AssistantManifestDraft)
  | needMoreEvidence (questions : List UnresolvedQuestion)

inductive AssistantToolResult
  | officialDocsSearch (evidenceIds : List EvidenceId)
  | evidenceInspection (evidenceId : EvidenceId) (supportedFields : List DraftField)
  | discoveryDocumentFetched (candidateId : DiscoveryCandidateId) (evidenceIds : List EvidenceId)
  | modelsListed (connectionId : ProviderConnectionId) (modelRouteIds : List ModelRouteId)
  | connectionTested (connectionId : ProviderConnectionId) (reachable : Bool) (summary : String)
  | capabilityProbed (modelRouteId : ModelRouteId) (capability : CapabilityKey)
      (supported : Option Bool) (evidenceIds : List EvidenceId) (summary : String)
  | adapterFamilies (families : List ApiFamily)
  | manifestValidation (accepted : Bool) (violations : List String)
  | unresolvedQuestions (questionIds : List String)
deriving DecidableEq

/-- The form in which a result is kept and shown to the assistant. -/
inductive AssistantToolResultPrompt
  | officialDocsSearch (evidenceIds : List EvidenceId)
  | evidenceInspection (evidenceId : EvidenceId) (supportedFields : List DraftField)
  | discoveryDocumentFetched (candidateId : DiscoveryCandidateId) (evidenceIds : List EvidenceId)
  | modelsListed (connectionId : ProviderConnectionId) (modelRouteIds : List ModelRouteId)
  | connectionTested (connectionId : ProviderConnectionId) (reachable : Bool) (summary : String)
  | capabilityProbed (modelRouteId : ModelRouteId) (capability : CapabilityKey)
      (supported : Option Bool) (evidenceIds : List EvidenceId) (summary : String)
  | adapterFamilies (families : List ApiFamily)
  | manifestValidation (accepted : Bool) (violations : List String)
  | unresolvedQuestions (questionIds : List String)
deriving DecidableEq

def toolResultPrompt : AssistantToolResult → AssistantToolResultPrompt
  | .officialDocsSearch ids => .officialDocsSearch ids
  | .evidenceInspection id fields => .evidenceInspection id fields
  | .discoveryDocumentFetched id ids => .discoveryDocumentFetched id ids
  | .modelsListed id ids => .modelsListed id ids
  | .connectionTested id reachable summary => .connectionTested id reachable summary
  | .capabilityProbed id capability supported ids summary =>
    .capabilityProbed id capability supported ids summary
  | .adapterFamilies families => .adapterFamilies families
  | .manifestValidation accepted violations => .manifestValidation accepted violations
  | .unresolvedQuestions ids => .unresolvedQuestions ids

/-- The result that a kept observation is checked as after a restore. -/
def AssistantToolResultPrompt.result : AssistantToolResultPrompt → AssistantToolResult
  | .officialDocsSearch ids => .officialDocsSearch ids
  | .evidenceInspection id fields => .evidenceInspection id fields
  | .discoveryDocumentFetched id ids => .discoveryDocumentFetched id ids
  | .modelsListed id ids => .modelsListed id ids
  | .connectionTested id reachable summary => .connectionTested id reachable summary
  | .capabilityProbed id capability supported ids summary =>
    .capabilityProbed id capability supported ids summary
  | .adapterFamilies families => .adapterFamilies families
  | .manifestValidation accepted violations => .manifestValidation accepted violations
  | .unresolvedQuestions ids => .unresolvedQuestions ids

@[simp] theorem result_toolResultPrompt (result : AssistantToolResult) :
    (toolResultPrompt result).result = result := by
  cases result <;> rfl

structure AssistantToolObservation where
  callId : Nat
  result : AssistantToolResultPrompt

structure PendingTool where
  callId : Nat
  call : AssistantToolCall
deriving DecidableEq

variable (X : DraftExternals) (evidence : List RedactedAssistantEvidence)
  (allowedFamilies : List ApiFamily)

/-! ### Checks -/

def validateToolCall : AssistantToolCall → Except AssistantError Unit
  | .searchOfficialDocs query => do
    require (trim query ≠ "" ∧ byteLen query ≤ maxQueryBytes) .invalidToolCall
    (validateBoundedRedactedText X.toRedactionExternals query maxQueryBytes).mapError
      fun _ => .invalidToolCall
  | .inspectEvidence id => require (id ∈ evidence.map RedactedAssistantEvidence.id) .inventedSource
  | .fetchDiscoveryDocument id => (validateIdentifier id.val).mapError fun _ => .invalidToolCall
  | .listModels id | .testConnection id =>
    (validateIdentifier id.val).mapError fun _ => .invalidToolCall
  | .probeCapability id _ => (validateIdentifier id.val).mapError fun _ => .invalidToolCall
  | .listManifestAdapterFamilies | .showUnresolvedQuestions => return ()
  | .validateManifestDraft draft => do
    require (draft.manifest.apiFamily ∈ allowedFamilies) .unknownAdapter
    validateDraftText X draft

def toolResultMatches : AssistantToolCall → AssistantToolResult → Bool
  | .inspectEvidence expected, .evidenceInspection id _ => expected == id
  | .fetchDiscoveryDocument expected, .discoveryDocumentFetched id _ => expected == id
  | .listModels expected, .modelsListed id _ => expected == id
  | .testConnection expected, .connectionTested id _ _ => expected == id
  | .probeCapability expectedRoute expectedCapability, .capabilityProbed route capability _ _ _ =>
    expectedRoute == route && expectedCapability == capability
  | .searchOfficialDocs _, .officialDocsSearch _ => true
  | .listManifestAdapterFamilies, .adapterFamilies _ => true
  | .validateManifestDraft _, .manifestValidation _ _ => true
  | .showUnresolvedQuestions, .unresolvedQuestions _ => true
  | _, _ => false

def validateEvidenceIds (ids : List EvidenceId) : Except AssistantError Unit := do
  require (ids.length ≤ maxToolResultItems) .invalidToolResult
  require (ids.Nodup ∧ ∀ id ∈ ids, id ∈ evidence.map RedactedAssistantEvidence.id) .inventedSource

def validateStringItems (items : List String) : Except AssistantError Unit := do
  require (items.length ≤ maxToolResultItems) .invalidToolResult
  forEach (fun item => do
    require (trim item ≠ "") .invalidToolResult
    (validateBoundedRedactedText X.toRedactionExternals item maxToolResultMessageBytes).mapError
      fun _ => .invalidToolResult) items

def validateModelRouteIds (ids : List ModelRouteId) : Except AssistantError Unit := do
  require (ids.length ≤ maxToolResultItems) .invalidToolResult
  require (ids.Nodup ∧ ∀ id ∈ ids, (validateIdentifier id.val).isOk = true) .invalidToolResult

def validateToolSummary (summary : String) : Except AssistantError Unit := do
  require (trim summary ≠ "") .invalidToolResult
  (validateBoundedRedactedText X.toRedactionExternals summary maxToolResultMessageBytes).mapError
    fun _ => .invalidToolResult

def validateResultIdentifier (value : String) : Except AssistantError Unit :=
  (validateIdentifier value).mapError fun _ => .invalidToolResult

def validateToolResult : AssistantToolResult → Except AssistantError Unit
  | .officialDocsSearch ids => validateEvidenceIds evidence ids
  | .evidenceInspection id fields =>
    require (fields.length ≤ maxToolResultItems ∧ id ∈ evidence.map RedactedAssistantEvidence.id)
      .invalidToolResult
  | .discoveryDocumentFetched id ids => do
    validateResultIdentifier id.val
    validateEvidenceIds evidence ids
  | .modelsListed id ids => do
    validateResultIdentifier id.val
    validateModelRouteIds ids
  | .connectionTested id _ summary => do
    validateResultIdentifier id.val
    validateToolSummary X summary
  | .capabilityProbed id _ _ ids summary => do
    validateResultIdentifier id.val
    validateEvidenceIds evidence ids
    validateToolSummary X summary
  | .adapterFamilies families =>
    require (families ≠ [] ∧ families.length ≤ maxToolResultItems ∧
      ∀ family ∈ families, family ∈ allowedFamilies) .invalidToolResult
  | .manifestValidation _ violations => validateStringItems X violations
  | .unresolvedQuestions ids => validateStringItems X ids

/-! ### More evidence -/

variable {X evidence allowedFamilies} {evidence' : List RedactedAssistantEvidence}

section

variable (hevid : ∀ item ∈ evidence, item ∈ evidence')
include hevid

/-- A call that passed passes with more evidence. -/
theorem validateToolCall_mono {call : AssistantToolCall}
    (h : validateToolCall X evidence allowedFamilies call = .ok ()) :
    validateToolCall X evidence' allowedFamilies call = .ok () := by
  cases call with
  | inspectEvidence id =>
    rw [validateToolCall, require_ok] at h ⊢
    obtain ⟨item, hitem, hid⟩ := mem_map.mp h
    exact mem_map.mpr ⟨item, hevid item hitem, hid⟩
  | _ => exact h

theorem validateEvidenceIds_mono (h : validateEvidenceIds evidence ids = .ok ()) :
    validateEvidenceIds evidence' ids = .ok () := by
  rw [validateEvidenceIds, guard_ok, require_ok] at h ⊢
  obtain ⟨hlen, hnodup, hids⟩ := h
  refine ⟨hlen, hnodup, fun id hid => ?_⟩
  obtain ⟨item, hitem, heq⟩ := mem_map.mp (hids id hid)
  exact mem_map.mpr ⟨item, hevid item hitem, heq⟩

/-- A result that passed passes with more evidence. -/
theorem validateToolResult_mono {result : AssistantToolResult}
    (h : validateToolResult X evidence allowedFamilies result = .ok ()) :
    validateToolResult X evidence' allowedFamilies result = .ok () := by
  cases result with
  | officialDocsSearch ids => exact validateEvidenceIds_mono hevid h
  | evidenceInspection id fields =>
    rw [validateToolResult, require_ok] at h ⊢
    obtain ⟨item, hitem, hid⟩ := mem_map.mp h.2
    exact ⟨h.1, mem_map.mpr ⟨item, hevid item hitem, hid⟩⟩
  | discoveryDocumentFetched id ids =>
    obtain ⟨_, hid, h⟩ := bind_ok.mp h
    exact then_ok hid (validateEvidenceIds_mono hevid h)
  | capabilityProbed id capability supported ids summary =>
    obtain ⟨_, hid, _, hids, h⟩ := steps₂ h
    exact then_ok hid (then_ok (validateEvidenceIds_mono hevid hids) h)
  | _ => exact h

end

end LorePia.Assistant
