import LorePia.Assistant.Effects
import LorePia.Assistant.Evidence

namespace LorePia.Assistant

open List Nat

open Lib Lib.Stateful
open Discovery (DiscoverySessionId ModelRouteId)

/-!
# The invariant of the setup assistant

What holds of every engine that was constructed and then moved by its operations.  The parts are
stated about the fields they read, so that a step which leaves those fields alone keeps the part.

* `Invariant` — the parts, put together;
* `new_invariant` — a constructed engine has the invariant.
-/

/-! ### The parts -/

/-- The identifiers, the limits and the adapter families. -/
structure Identity (sessionId : DiscoverySessionId) (routeId : ModelRouteId)
    (budget : AssistantBudget) (families : List ApiFamily) : Prop where
  session : validateIdentifier sessionId.val = .ok ()
  route : validateIdentifier routeId.val = .ok ()
  budget : budget.IsValid
  canonical : canonical apiFamilyWireName families = families
  nonempty : families ≠ []

/-- The evidence is built, sorted strictly, and within the limits; its total is what is charged. -/
structure Documented (R : RedactionExternals) (budget : AssistantBudget)
    (evidence : List RedactedAssistantEvidence) (bytes : Nat) : Prop where
  built : ∀ item ∈ evidence, item.Built R
  sorted : evidence.Pairwise fun a b => a.key < b.key
  count : evidence.length ≤ budget.maxEvidenceCount
  total : assistantEvidenceBytes evidence = some bytes
  bounded : bytes ≤ budget.maxEvidenceBytes

/-- The charges are within the limits; calls follow turns, and a charge is made iff there was a
    turn. -/
structure Charged (budget : AssistantBudget) (usage : AssistantBudgetUsage) : Prop where
  prompt : usage.promptBytes ≤ budget.maxPromptBytes
  input : usage.reservedInputTokens ≤ budget.maxInputTokens
  output : usage.reservedOutputTokens ≤ budget.maxOutputTokens
  cost : usage.reservedCostMicroUnits ≤ budget.maxCostMicroUnits
  toolCalls : usage.toolCalls ≤ budget.maxToolCalls
  turns : usage.turns ≤ budget.maxTurns
  retries : usage.retries ≤ budget.maxRetries
  unused : usage.turns = 0 → usage.promptBytes = 0 ∧ usage.reservedInputTokens = 0 ∧
    usage.reservedOutputTokens = 0 ∧ usage.reservedCostMicroUnits = 0
  used : usage.turns ≠ 0 → usage.promptBytes ≠ 0 ∧ usage.reservedInputTokens ≠ 0 ∧
    usage.reservedOutputTokens ≠ 0

/-- A turn was begun that no retry has followed yet. -/
def AssistantState.isBusy : AssistantState → Bool
  | .awaitingConsent | .ready | .failed | .cancelled => false
  | _ => true

/-- Every turn is followed by one tool call and by one retry at most. -/
structure Paced (state : AssistantState) (calls begun retried : Nat) : Prop where
  toolCalls : calls ≤ begun
  answering : state = .awaitingAssistant → calls < begun
  retries : retried ≤ begun
  busy : state.isBusy = true → retried < begun

/-- An observation passes the checks of a restore. -/
def AssistantToolObservation.Valid (X : AssistantExternals)
    (evidence : List RedactedAssistantEvidence) (families : List ApiFamily)
    (observation : AssistantToolObservation) : Prop :=
  validateToolResult X.toDraftExternals evidence families observation.result.result = .ok () ∧
    ∃ serialized, X.toolResultJson observation.result = some serialized ∧
      validateBoundedRedactedText X.toRedactionExternals serialized maxToolResultMessageBytes =
        .ok ()

/-- The observations answer calls in the order of their ids. -/
structure Transcript (X : AssistantExternals) (evidence : List RedactedAssistantEvidence)
    (families : List ApiFamily) (toolCalls nextCallId : Nat)
    (observations : List AssistantToolObservation) : Prop where
  next : nextCallId = toolCalls + 1
  ordered : observations.Pairwise fun a b => a.callId < b.callId
  bounds : ∀ observation ∈ observations, 0 < observation.callId ∧ observation.callId < nextCallId
  valid : ∀ observation ∈ observations, observation.Valid X evidence families
  room : observations.length ≤ maxTranscriptObservations

/-- A pending call is the last one and unanswered. -/
structure Pending (X : AssistantExternals) (evidence : List RedactedAssistantEvidence)
    (families : List ApiFamily) (nextCallId : Nat) (observations : List AssistantToolObservation)
    (questions : List UnresolvedQuestion) (pending : PendingTool) : Prop where
  positive : 0 < pending.callId
  last : pending.callId + 1 = nextCallId
  unanswered : ∀ observation ∈ observations, observation.callId < pending.callId
  valid : validateToolCall X.toDraftExternals evidence families pending.call = .ok ()
  questions : pending.call = .showUnresolvedQuestions → questions ≠ []

/-- What was approved are the origins of the evidence, and nothing is done before that. -/
structure Consented (R : RedactionExternals) (evidence : List RedactedAssistantEvidence)
    (approved : List String) (consented : Bool) (state : AssistantState)
    (toolCalls turns retries : Nat) : Prop where
  granted : consented = true → evidenceOrigins R evidence = .ok approved ∧ state ≠ .awaitingConsent
  ungranted : consented = false → approved = [] ∧ (state = .awaitingConsent ∨ state = .cancelled) ∧
    toolCalls = 0 ∧ turns = 0 ∧ retries = 0

/-- The questions are canonical; there are some while their evidence is awaited and none at an
    end. -/
structure Questioned (R : RedactionExternals) (state : AssistantState)
    (questions : List UnresolvedQuestion) : Prop where
  valid : validateQuestions R questions = .ok ()
  sorted : sortByKey UnresolvedQuestion.id questions = questions
  awaited : state = .awaitingMoreEvidence → questions ≠ []
  ended : state = .draftReady ∨ state = .failed ∨ state = .cancelled → questions = []

/-- Which of the optional fields are set in which state. -/
structure Shaped (state : AssistantState) (output : Option Nat) (tool : Option PendingTool)
    (retry : Option AssistantFailureKind) (review : Option AssistantDraftReview) : Prop where
  output : output.isSome = true ↔ state = .awaitingAssistant
  tool : tool.isSome = true ↔ state = .awaitingToolResult
  retry : retry.isSome = true ↔ state = .awaitingRetryConsent
  review : review.isSome = true ↔ state = .draftReady

/-- **The invariant.** -/
structure Invariant (X : AssistantExternals) (e : SetupAssistantEngine) : Prop where
  identity : Identity e.sessionId e.assistantRouteId e.budget e.allowedApiFamilies
  documented : Documented X.toRedactionExternals e.budget e.evidence e.usage.evidenceBytes
  charged : Charged e.budget e.usage
  paced : Paced e.state e.usage.toolCalls e.usage.turns e.usage.retries
  transcript : Transcript X e.evidence e.allowedApiFamilies e.usage.toolCalls e.nextCallId
    e.toolObservations
  consented : Consented X.toRedactionExternals e.evidence e.approvedOrigins e.consented e.state
    e.usage.toolCalls e.usage.turns e.usage.retries
  questioned : Questioned X.toRedactionExternals e.state e.unresolvedQuestions
  shaped : Shaped e.state e.pendingMaximumOutputTokens e.pendingTool e.pendingRetry e.draftReview
  output : ∀ output ∈ e.pendingMaximumOutputTokens, output ≠ 0 ∧
    output ≤ e.budget.maxOutputTokens ∧ output ≤ e.usage.reservedOutputTokens
  pending : ∀ pending ∈ e.pendingTool, Pending X e.evidence e.allowedApiFamilies e.nextCallId
    e.toolObservations e.unresolvedQuestions pending
  reviewed : ∀ review ∈ e.draftReview,
    validateDraft X.toDraftExternals e.allowedApiFamilies e.evidence review.draft = .ok review

/-- What the serializer and the URL crate are known for: the JSON of a prompt is not empty, and
    URLs round trip. -/
structure AssistantExternals.Lawful (X : AssistantExternals) : Prop where
  urls : UrlsRoundTrip X.toRedactionExternals
  prompt : ∀ {prompt bytes}, X.promptJson prompt = some bytes → bytes ≠ []

/-- Evidence that an operation adds is built. -/
def Operation.Built (R : RedactionExternals) : Operation → Prop
  | .addRedactedEvidence item => item.Built R
  | _ => True

def Event.Built (R : RedactionExternals) : Event → Prop
  | .call operation _ => operation.Built R
  | .restored => True

variable {X : AssistantExternals}

/-! ### Parts in other states -/

section Parts

variable {R : RedactionExternals} {state : AssistantState}
  {evidence : List RedactedAssistantEvidence} {approved : List String} {consented : Bool}
  {families : List ApiFamily} {toolCalls turns retries nextCallId : Nat}
  {observations : List AssistantToolObservation}

section

variable (h : Consented R evidence approved consented state toolCalls turns retries)
include h

/-- Whatever needs consent has it. -/
theorem Consented.isConsented
    (hawait : state ≠ .awaitingConsent) (hcanc : state ≠ .cancelled) : consented = true := by
  cases hc : consented with
  | true => rfl
  | false =>
    obtain ⟨_, hst, _⟩ := h.ungranted hc
    rcases hst with hst | hst
    · exact absurd hst hawait
    · exact absurd hst hcanc

/-- Once consent is given, the state and the charges may change. -/
theorem Consented.move (hconsented : consented = true) (hst : state' ≠ .awaitingConsent) :
    Consented R evidence approved consented state' toolCalls' turns' retries' where
  granted _ := ⟨(h.granted hconsented).1, hst⟩
  ungranted hc := by rw [hconsented] at hc; cases hc

end

/-- The questions stay while the state changes to one without conditions on them. -/
theorem Questioned.move (h : Questioned R state questions) (hmore : state' ≠ .awaitingMoreEvidence)
    (hdraft : state' ≠ .draftReady) (hfailed : state' ≠ .failed) (hcanc : state' ≠ .cancelled) :
    Questioned R state' questions where
  valid := h.valid
  sorted := h.sorted
  awaited hs := absurd hs hmore
  ended hs := by
    rcases hs with hs | hs | hs
    · exact absurd hs hdraft
    · exact absurd hs hfailed
    · exact absurd hs hcanc

theorem questioned_nil (hmore : state ≠ .awaitingMoreEvidence) : Questioned R state [] where
  valid := rfl
  sorted := rfl
  awaited hs := absurd hs hmore
  ended _ := rfl

/-- Fresh canonical questions. -/
theorem questioned_of_canonicalize {canonical : List UnresolvedQuestion}
    (h : canonicalizeQuestions R questions = .ok canonical)
    (hawaited : state = .awaitingMoreEvidence → questions ≠ [])
    (hended : ¬ (state = .draftReady ∨ state = .failed ∨ state = .cancelled)) :
    Questioned R state canonical := by
  obtain ⟨hval, hsrt, hnil⟩ := canonicalizeQuestions_ok h
  exact
    { valid := hval
      sorted := hsrt
      awaited := fun hs hcanon => hawaited hs (hnil.mp hcanon)
      ended := fun hs => absurd hs hended }

theorem AssistantToolObservation.Valid.mono {observation : AssistantToolObservation}
    (h : observation.Valid X evidence families) (hevid : ∀ item ∈ evidence, item ∈ evidence') :
    observation.Valid X evidence' families :=
  ⟨validateToolResult_mono hevid h.1, h.2⟩

section

variable (h : Transcript X evidence families toolCalls nextCallId observations)
include h

theorem Transcript.mono (hevid : ∀ item ∈ evidence, item ∈ evidence') :
    Transcript X evidence' families toolCalls nextCallId observations where
  next := h.next
  ordered := h.ordered
  bounds := h.bounds
  valid observation hmem := (h.valid observation hmem).mono hevid
  room := h.room

/-- One more call is made. -/
theorem Transcript.call :
    Transcript X evidence families (toolCalls + 1) (nextCallId + 1) observations where
  next := congrArg (· + 1) h.next
  ordered := h.ordered
  bounds observation hmem := by
    obtain ⟨hpos, hlt⟩ := h.bounds observation hmem
    omega
  valid := h.valid
  room := h.room

/-- The pending call is answered. -/
theorem Transcript.answer {pending : PendingTool} {result : AssistantToolResultPrompt}
    (hpend : Pending X evidence families nextCallId observations questions pending)
    (hval : AssistantToolObservation.Valid X evidence families ⟨pending.callId, result⟩)
    (hroom : observations.length < maxTranscriptObservations) :
    Transcript X evidence families toolCalls nextCallId
      (observations ++ [⟨pending.callId, result⟩]) where
  next := h.next
  ordered := by
    rw [pairwise_append]
    exact ⟨h.ordered, pairwise_singleton _ _, fun a ha =>
      forall_mem_singleton.mpr (hpend.unanswered a ha)⟩
  bounds := by
    have hlast := hpend.last
    exact forall_mem_concat.mpr ⟨h.bounds, hpend.positive, by show pending.callId < _; omega⟩
  valid := forall_mem_concat.mpr ⟨h.valid, hval⟩
  room := by
    rw [length_append, length_singleton]
    exact hroom

end

end Parts

/-! ### Construction -/

theorem key_ne_of_id_ne {a b : RedactedAssistantEvidence} (h : a.id ≠ b.id) : a.key ≠ b.key :=
  fun hkey => h (Discovery.StableId.mk.injEq _ _ ▸ hkey)

/-- **A constructed engine has the invariant.** -/
theorem new_invariant {sessionId : DiscoverySessionId}
    (hbuilt : ∀ item ∈ evidence, item.Built X.toRedactionExternals)
    (h : SetupAssistantEngine.new sessionId routeId families evidence budget = .ok e) :
    Invariant X e := by
  obtain ⟨_, hsess, _, hrt, _, hbud, h⟩ := steps₃ h
  obtain ⟨hval, hbud⟩ := guard_ok.mp hbud
  cases pure_inj hbud
  obtain ⟨hfamilies, hcount, h⟩ := guards₂ h
  obtain ⟨hchain, bytes, htotal, h⟩ := guard_step h
  obtain ⟨hbdd, h⟩ := guard_ok.mp h
  cases pure_inj h
  have hsrt := pairwise_sortByKey RedactedAssistantEvidence.key evidence
  rw [isChain_map] at hchain
  exact
    { identity :=
        { session := hsess
          route := hrt
          budget := hval
          canonical := canonical_canonical
          nonempty := fun hnil => hfamilies (canonical_eq_nil.mp hnil) }
      documented :=
        { built := fun item hitem => hbuilt item (mem_sortByKey.mp hitem)
          sorted := pairwise_lt_of_isChain hsrt (hchain.imp fun _ _ => key_ne_of_id_ne)
          count := hcount
          total := okOr_ok.mp htotal
          bounded := hbdd }
      charged :=
        { prompt := zero_le _
          input := zero_le _
          output := zero_le _
          cost := zero_le _
          toolCalls := zero_le _
          turns := zero_le _
          retries := zero_le _
          unused := fun _ => ⟨rfl, rfl, rfl, rfl⟩
          used := fun hturns => absurd rfl hturns }
      paced :=
        { toolCalls := le_refl _
          answering := by simp
          retries := le_refl _
          busy := by simp [AssistantState.isBusy] }
      transcript :=
        { next := rfl
          ordered := List.Pairwise.nil
          bounds := by simp
          valid := by simp
          room := zero_le _ }
      consented :=
        { granted := by simp
          ungranted := fun _ => ⟨rfl, .inl rfl, rfl, rfl, rfl⟩ }
      questioned := questioned_nil (by simp)
      shaped := ⟨by simp, by simp, by simp, by simp⟩
      output := by simp
      pending := by simp
      reviewed := by simp }

end LorePia.Assistant
