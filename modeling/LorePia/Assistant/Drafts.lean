import LorePia.Assistant.Types
import Mathlib.Data.String.Basic

namespace LorePia.Assistant

open Lib List
open Discovery (EvidenceId)

/-!
# Setup assistant — evidence, questions and drafts

The constructors of claims and evidence, and the checks that a manifest draft must pass: its
texts, its sources, a mapping and a confidence for every field, a report of every conflict.

`serde_json::to_string` of a draft, of an auth binding and of a parameter is a parameter.
-/

variable {questions : List UnresolvedQuestion} {seen : List String}

/-- The serializers that a draft is checked with. -/
structure DraftExternals extends RedactionExternals where
  draftJson : AssistantManifestDraft → Option String
  authJson : AuthBinding → Option String
  parameterJson : ParameterSpec → Option String

variable (X : DraftExternals)

/-! ### Claims and evidence -/

def EvidenceClaim.new (R : RedactionExternals) (field : DraftField) (normalizedValue : String) :
    Except AssistantError EvidenceClaim := do
  validateBoundedRedactedText R normalizedValue maxClaimValueBytes
  require (trim normalizedValue ≠ "") .invalidEvidence
  return { field, normalizedValue }

/-- The arguments of `RedactedAssistantEvidence::new`. -/
structure EvidenceInput where
  id : EvidenceId
  kind : AssistantEvidenceKind
  sourceUrl : String
  contentSha256 : String
  excerpt : String
  claims : List EvidenceClaim
  redactionCount : Nat

/-- `byte.is_ascii_hexdigit()` on a scalar. -/
def isAsciiHexdigit (c : Char) : Bool :=
  c.isDigit || ('a' ≤ c && c ≤ 'f') || ('A' ≤ c && c ≤ 'F')

def RedactedAssistantEvidence.new (R : RedactionExternals) (input : EvidenceInput) :
    Except AssistantError RedactedAssistantEvidence := do
  validateIdentifier input.id.val
  let sourceUrl ← canonicalRedactedSourceUrl R input.sourceUrl
  require (byteLen input.contentSha256 = 64 ∧ input.contentSha256.toList.all isAsciiHexdigit)
    .invalidEvidence
  validateBoundedRedactedText R input.excerpt maxEvidenceExcerptBytes
  require (input.claims.length ≤ maxClaimsPerEvidence) .invalidEvidence
  require (input.claims.map EvidenceClaim.field).Nodup .duplicateEvidenceClaim
  return {
    id := input.id
    kind := input.kind
    sourceUrl
    contentSha256 := toAsciiLowercase input.contentSha256
    excerpt := input.excerpt
    claims := input.claims
    redactionCount := input.redactionCount }

/-! ### Questions -/

def validateQuestion (R : RedactionExternals) (seen : List String) (question : UnresolvedQuestion) :
    Except AssistantError Unit := do
  (validateIdentifier question.id).mapError fun _ => .invalidQuestion
  require (question.id ∉ seen ∧ trim question.question ≠ "" ∧ trim question.requiredEvidence ≠ "" ∧
    byteLen question.question ≤ maxQuestionBytes ∧
    byteLen question.requiredEvidence ≤ maxQuestionBytes) .invalidQuestion
  validateBoundedRedactedText R question.question maxQuestionBytes
  validateBoundedRedactedText R question.requiredEvidence maxQuestionBytes

def validateQuestionsFrom (R : RedactionExternals) (seen : List String) :
    List UnresolvedQuestion → Except AssistantError Unit
  | [] => return ()
  | question :: questions => do
    validateQuestion R seen question
    validateQuestionsFrom R (question.id :: seen) questions

def validateQuestions (R : RedactionExternals) (questions : List UnresolvedQuestion) :
    Except AssistantError Unit := do
  require (questions.length ≤ maxToolResultItems) .invalidQuestion
  validateQuestionsFrom R [] questions

def canonicalizeQuestions (R : RedactionExternals) (questions : List UnresolvedQuestion) :
    Except AssistantError (List UnresolvedQuestion) := do
  validateQuestions R questions
  return sortByKey UnresolvedQuestion.id questions

/-! ### The values of manifest fields -/

def apiFamilyWireName : ApiFamily → String
  | .openAiResponses => "openai_responses"
  | .openAiChatCompletions => "openai_chat_completions"
  | .anthropicMessages => "anthropic_messages"
  | .geminiGenerateContent => "gemini_generate_content"
  | .ollamaNative => "ollama_native"

def endpointValue (method : HttpMethod) (path : String) : String :=
  match method with
  | .get => "GET " ++ path
  | .post => "POST " ++ path

def decoderWireName : DecoderId → String
  | .openAiJsonV1 => "open_ai_json_v1"
  | .openAiSseV1 => "open_ai_sse_v1"
  | .anthropicJsonV1 => "anthropic_json_v1"
  | .anthropicSseV1 => "anthropic_sse_v1"
  | .geminiJsonV1 => "gemini_json_v1"
  | .geminiSseV1 => "gemini_sse_v1"
  | .ollamaJsonV1 => "ollama_json_v1"
  | .ollamaJsonlV1 => "ollama_jsonl_v1"

def draftFieldValue (manifest : ProviderManifest) : DraftField → Option String
  | .apiFamily => some (apiFamilyWireName manifest.apiFamily)
  | .defaultApiOrigin => manifest.defaultApiOrigin.map CanonicalOrigin.val
  | .auth => X.authJson manifest.auth
  | .generateEndpoint =>
    some (endpointValue manifest.endpoints.generate.method manifest.endpoints.generate.path.val)
  | .modelsEndpoint =>
    manifest.endpoints.models.map fun endpoint => endpointValue endpoint.method endpoint.path.val
  | .responseDecoder => some (decoderWireName manifest.decoders.response)
  | .streamingDecoder => manifest.decoders.streaming.map decoderWireName
  | .parameter id =>
    (manifest.parameters.find? fun parameter => parameter.id = id).bind X.parameterJson

def expectedDraftFields (manifest : ProviderManifest) : List DraftField :=
  [.apiFamily, .auth, .generateEndpoint, .responseDecoder] ++
    (if manifest.defaultApiOrigin.isSome then [.defaultApiOrigin] else []) ++
    (if manifest.endpoints.models.isSome then [.modelsEndpoint] else []) ++
    (if manifest.decoders.streaming.isSome then [.streamingDecoder] else []) ++
    manifest.parameters.map fun parameter => .parameter parameter.id

/-! ### The texts and sources of a draft -/

variable (draft : AssistantManifestDraft)

/-- A content hash would look like a secret, so the scan does not see it. -/
def redactedForSecretScan : AssistantManifestDraft :=
  { draft with
    manifest.sources := draft.manifest.sources.map fun source =>
      { source with contentSha256 := source.contentSha256.map fun _ => "[content-hash]" } }

/-- An explanation or a rationale: not blank, bounded, without suspected secrets. -/
def validateExplanation (R : RedactionExternals) (text : String) (error : AssistantError) :
    Except AssistantError Unit := do
  require (trim text ≠ "" ∧ byteLen text ≤ maxExplanationBytes) error
  validateBoundedRedactedText R text maxExplanationBytes

def validateDraftText : Except AssistantError Unit := do
  let R := X.toRedactionExternals
  let serialized ← okOr (X.draftJson (redactedForSecretScan draft)) .invalidStructuredOutput
  validateBoundedRedactedText R serialized absMaxPromptBytes
  validateBoundedRedactedText R draft.summary maxExplanationBytes
  require (trim draft.summary ≠ "" ∧ draft.evidenceMappings.length ≤ maxToolResultItems ∧
    draft.conflicts.length ≤ maxToolResultItems ∧ draft.confidence.length ≤ maxToolResultItems)
    .invalidStructuredOutput
  forEach (fun mapping => validateExplanation R mapping.explanation .invalidEvidenceMapping)
    draft.evidenceMappings
  forEach (fun confidence => validateExplanation R confidence.rationale .missingConfidence)
    draft.confidence
  forEach (fun conflict => match conflict.disposition with
    | .unresolved => pure ()
    | .resolved _ rationale => validateExplanation R rationale .invalidConflictResolution)
    draft.conflicts

def evidenceKindSupportsSourceKind (evidenceKind : AssistantEvidenceKind) :
    ManifestSourceKind → Bool
  | .officialSite | .officialDocumentation =>
    [.officialDocument, .apiSpecification, .deterministicExtraction, .modelMetadata].contains
      evidenceKind
  | .signedCatalog => evidenceKind == .signedCatalog
  | .userSupplied => [.redactedCurl, .userSuppliedDocument].contains evidenceKind

def validateManifestSources (manifest : ProviderManifest)
    (evidence : List RedactedAssistantEvidence) : Except AssistantError Unit := do
  require (manifest.sources ≠ []) .inventedSource
  forEach (fun source => do
    let expectedHash ← okOr source.contentSha256 .inventedSource
    require (evidence.any fun item =>
      item.sourceUrl == source.url.val &&
        toAsciiLowercase item.contentSha256 == toAsciiLowercase expectedHash &&
        evidenceKindSupportsSourceKind item.kind source.kind) .inventedSource)
    manifest.sources

/-! ### Mappings, conflicts and confidence -/

/-- Go through the evidence that a mapping cites; the result says whether some of it claims the
    value.  `seen` are the ids cited so far; of two items with one id the later one counts. -/
def checkCitations (evidence : List RedactedAssistantEvidence) (field : DraftField)
    (expectedValue : String) (seen : List EvidenceId) :
    List EvidenceId → Except AssistantError Bool
  | [] => return false
  | id :: ids => do
    require (id ∉ seen) .invalidEvidenceMapping
    let item ← okOr (evidence.reverse.find? fun item => item.id = id) .inventedSource
    let claim ← okOr (item.claims.find? fun claim => claim.field = field) .invalidEvidenceMapping
    let others ← checkCitations evidence field expectedValue (id :: seen) ids
    return claim.normalizedValue == expectedValue || others

/-- Go through the mappings; the result is the fields that are mapped. -/
def checkMappings (manifest : ProviderManifest) (evidence : List RedactedAssistantEvidence)
    (seen : List DraftField) : List FieldEvidenceMapping → Except AssistantError (List DraftField)
  | [] => return seen
  | mapping :: mappings => do
    require (mapping.field ∉ seen) .invalidEvidenceMapping
    require (mapping.evidenceIds ≠ []) .missingEvidenceMapping
    let expectedValue ←
      okOr (draftFieldValue X manifest mapping.field) .invalidEvidenceMapping
    let matching ← checkCitations evidence mapping.field expectedValue [] mapping.evidenceIds
    require (matching = true) .invalidEvidenceMapping
    checkMappings manifest evidence (mapping.field :: seen) mappings

def validateMappings (expectedFields : List DraftField)
    (evidence : List RedactedAssistantEvidence) : Except AssistantError Unit := do
  let mapped ← checkMappings X draft.manifest evidence [] draft.evidenceMappings
  require (∀ field ∈ expectedFields, field ∈ mapped) .missingEvidenceMapping

/-- The values claimed for a field, in order, each with the evidence that claims it. -/
def claimedValues (evidence : List RedactedAssistantEvidence) (field : DraftField) :
    List (String × List EvidenceId) :=
  let claims := evidence.flatMap fun item =>
    (item.claims.filter fun claim => claim.field = field).map fun claim =>
      (claim.normalizedValue, item.id)
  (canonical id (claims.map Prod.fst)).map fun value =>
    (value, (claims.filter fun claim => claim.1 = value).map Prod.snd)

/-- The fields that the evidence claims different values for. -/
def detectedConflicts (evidence : List RedactedAssistantEvidence) : List DraftField :=
  (evidence.flatMap fun item => item.claims.map EvidenceClaim.field).dedup.filter fun field =>
    1 < (claimedValues evidence field).length

def validateConflict (evidence : List RedactedAssistantEvidence)
    (field : DraftField) : Except AssistantError Unit := do
  let report ← okOr (draft.conflicts.find? fun conflict => conflict.field = field)
    .hiddenEvidenceConflict
  let sourcesByValue := claimedValues evidence field
  let expectedSources := sourcesByValue.flatMap Prod.snd
  require ((∀ id ∈ report.evidenceIds, id ∈ expectedSources) ∧
    (∀ id ∈ expectedSources, id ∈ report.evidenceIds) ∧ report.evidenceIds.Nodup)
    .invalidConflictResolution
  match report.disposition with
  | .unresolved => return ()
  | .resolved selected _ => do
    require (selected ∈ expectedSources) .invalidConflictResolution
    let selectedValue := (sourcesByValue.find? fun entry => selected ∈ entry.2).map Prod.fst
    require (selectedValue = draftFieldValue X draft.manifest field) .invalidConflictResolution

def validateConflicts (evidence : List RedactedAssistantEvidence) : Except AssistantError Unit := do
  let detected := detectedConflicts evidence
  let reported := draft.conflicts.map EvidenceConflict.field
  require reported.Nodup .invalidConflictResolution
  require (∀ field ∈ detected, field ∈ reported) .hiddenEvidenceConflict
  require (∀ field ∈ reported, field ∈ detected) .invalidConflictResolution
  forEach (validateConflict X draft evidence) detected

def checkConfidence (questions : List UnresolvedQuestion) (seen : List DraftField) :
    List FieldConfidence → Except AssistantError (List DraftField)
  | [] => return seen
  | confidence :: rest => do
    require (confidence.field ∉ seen) .missingConfidence
    require (confidence.level ≠ .unknown ∨
      questions.any (fun question => question.field = some confidence.field)) .invalidQuestion
    checkConfidence questions (confidence.field :: seen) rest

def validateConfidence (expectedFields : List DraftField) :
    Except AssistantError Unit := do
  let seen ← checkConfidence draft.unresolvedQuestions [] draft.confidence
  require (∀ field ∈ expectedFields, field ∈ seen) .missingConfidence

/-! ### Drafts -/

/-- The fields whose conflict a draft leaves unresolved. -/
def unresolvedConflicts : List DraftField :=
  (draft.conflicts.filter fun conflict => conflict.disposition = .unresolved).map
    EvidenceConflict.field

def validateDraft (allowedApiFamilies : List ApiFamily) (evidence : List RedactedAssistantEvidence)
    (draft : AssistantManifestDraft) : Except AssistantError AssistantDraftReview := do
  require (draft.manifest.apiFamily ∈ allowedApiFamilies) .unknownAdapter
  validateDraftText X draft
  validateManifestSources draft.manifest evidence
  let expectedFields := expectedDraftFields draft.manifest
  validateMappings X draft expectedFields evidence
  validateConflicts X draft evidence
  validateConfidence draft expectedFields
  validateQuestions X.toRedactionExternals draft.unresolvedQuestions
  return {
    draft
    unresolvedConflicts := unresolvedConflicts draft
    requirements := .default }

/-! ### What the constructors establish -/

variable {X} {R : RedactionExternals}

/-- A question that passes on its own. -/
def IsQuestion (R : RedactionExternals) (question : UnresolvedQuestion) : Prop :=
  validateQuestion R [] question = .ok ()

theorem validateQuestion_ok :
    validateQuestion R seen question = .ok u ↔ IsQuestion R question ∧ question.id ∉ seen := by
  constructor
  · intro h
    obtain ⟨_, hid, ⟨hseen, hshape⟩, h⟩ := step_guard h
    refine ⟨?_, hseen⟩
    exact then_ok hid (guarded ⟨not_mem_nil, hshape⟩ h)
  · rintro ⟨h, hseen⟩
    obtain ⟨_, hid, ⟨_, hshape⟩, h⟩ := step_guard h
    exact then_ok hid (guarded ⟨hseen, hshape⟩ h)

theorem validateQuestionsFrom_ok : validateQuestionsFrom R seen questions = .ok u ↔
      (∀ question ∈ questions, IsQuestion R question ∧ question.id ∉ seen) ∧
        (questions.map UnresolvedQuestion.id).Nodup := by
  induction questions generalizing seen with
  | nil => simp [validateQuestionsFrom]
  | cons question questions ih =>
    rw [validateQuestionsFrom, bind_ok, forall_mem_cons, map_cons, nodup_cons]
    simp only [validateQuestion_ok, ih, exists_const, mem_cons, not_or, mem_map,
      not_exists, not_and]
    constructor
    · rintro ⟨hfirst, hrest, hnodup⟩
      exact ⟨⟨hfirst, fun q hq => ⟨(hrest q hq).1, (hrest q hq).2.2⟩⟩,
        fun q hq => (hrest q hq).2.1, hnodup⟩
    · rintro ⟨⟨hfirst, hrest⟩, hne, hnodup⟩
      exact ⟨hfirst, fun q hq => ⟨(hrest q hq).1, hne q hq, (hrest q hq).2⟩, hnodup⟩

/-- **A list of questions passes iff it is short, every question passes and no id repeats**, in
    whatever order they stand. -/
theorem validateQuestions_ok :
    validateQuestions R questions = .ok u ↔ questions.length ≤ maxToolResultItems ∧
      (∀ question ∈ questions, IsQuestion R question) ∧
        (questions.map UnresolvedQuestion.id).Nodup := by
  simp [validateQuestions, guard_ok, validateQuestionsFrom_ok]

theorem validateQuestions_of_perm (hperm : questions'.Perm questions)
    (h : validateQuestions R questions = .ok ()) :
    validateQuestions R questions' = .ok () := by
  rw [validateQuestions_ok] at h ⊢
  obtain ⟨hlen, hquests, hnodup⟩ := h
  refine ⟨hperm.length_eq ▸ hlen, fun question hmem => ?_, ?_⟩
  · exact hquests question (hperm.mem_iff.mp hmem)
  · exact (hperm.map _).nodup_iff.mpr hnodup

/-- Canonical questions pass again and keep their order. -/
theorem canonicalizeQuestions_ok {canonical : List UnresolvedQuestion}
    (h : canonicalizeQuestions R questions = .ok canonical) :
    validateQuestions R canonical = .ok () ∧ sortByKey UnresolvedQuestion.id canonical = canonical ∧
      (canonical = [] ↔ questions = []) := by
  obtain ⟨_, hval, rfl⟩ := last_step h
  refine ⟨validateQuestions_of_perm (perm_sortByKey _ _) hval, sortByKey_sortByKey, ?_⟩
  rw [← length_eq_zero_iff, length_sortByKey, length_eq_zero_iff]

/-- A review is of the draft that was checked, and it is the review of that draft. -/
theorem validateDraft_ok {draft : AssistantManifestDraft}
    (h : validateDraft X families evidence draft = .ok review) :
    review.draft = draft := by
  obtain ⟨_, _, _, h⟩ := rest₃ h
  obtain ⟨_, _, h⟩ := rest₂ h
  obtain ⟨_, _, h⟩ := rest₂ h
  cases pure_inj h
  rfl

end LorePia.Assistant
