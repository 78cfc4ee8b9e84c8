import LorePia.Assistant.Engine

namespace LorePia.Assistant

open Lib Lib.Stateful
open Discovery (DiscoverySessionId StableId)

/-!
# What each operation does

* `Effect` — what a successful operation did: the checks it passed and the engine it left;
* `effect_of_run` — every successful operation has its effect;
* `failed_run` — a failed operation left the engine as it was, except that a turn rejected while
  the assistant was awaited is a failure.
-/

variable {operation : Operation} {turn : AssistantTurn} {expected : AssistantState} {α : Type}
  {bytes : Bytes} {sessionId : DiscoverySessionId}

variable (X : AssistantExternals)

/-! ### Effects -/

/-- The operation hands over a turn, as it is or as JSON. -/
def Operation.Submits (operation : Operation) (turn : AssistantTurn) : Prop :=
  operation = .submitTurn turn ∨
    ∃ bytes, operation = .submitTurnJson bytes ∧ X.parseTurn bytes = some turn

/-- What a successful operation did to an engine. -/
inductive Effect (e : SetupAssistantEngine) : Operation → Response → SetupAssistantEngine → Prop
  | replaceQuestions {questions canonical : List UnresolvedQuestion}
      (state : e.state = .awaitingConsent)
      (canonicalizes : canonicalizeQuestions X.toRedactionExternals questions = .ok canonical) :
      Effect e (.replaceUnresolvedQuestionsBeforeConsent questions) .done
        { e with unresolvedQuestions := canonical }
  | grantConsent {consent : AssistantConsent} {origins : List String}
      (state : e.state = .awaitingConsent)
      (allows : consent.allowDocumentEgress = true) (session : consent.sessionId = e.sessionId)
      (route : consent.assistantRouteId = e.assistantRouteId)
      (ids : canonical StableId.val consent.approvedEvidenceIds =
        e.evidence.map RedactedAssistantEvidence.id)
      (expected : evidenceOrigins X.toRedactionExternals e.evidence = .ok origins)
      (approved : canonical id consent.approvedSourceOrigins = origins) :
      Effect e (.grantConsent consent) .done
        { e with approvedOrigins := origins, consented := true, state := .ready }
  | addEvidence {item : RedactedAssistantEvidence} {origin : String} {addedBytes bytes : Nat}
      (state : e.state = .awaitingToolResult ∨ e.state = .awaitingMoreEvidence)
      (fresh : item.id ∉ e.evidence.map RedactedAssistantEvidence.id)
      (source : sourceOrigin X.toRedactionExternals item.sourceUrl = .ok origin)
      (approved : origin ∈ e.approvedOrigins)
      (count : e.evidence.length < e.budget.maxEvidenceCount)
      (itemBytes : evidenceItemBytes item = some addedBytes)
      (total : checkedAdd e.usage.evidenceBytes addedBytes = some bytes)
      (bounded : bytes ≤ e.budget.maxEvidenceBytes) :
      Effect e (.addRedactedEvidence item) .done
        { e with
          usage.evidenceBytes := bytes
          evidence := sortByKey RedactedAssistantEvidence.key (e.evidence ++ [item]) }
  | beginTurn {estimate : AssistantCallEstimate} {prompt : AssistantPromptPackage} {bytes : Nat}
      (state : e.state = .ready) (consented : e.consented = true)
      (input : estimate.inputTokens ≠ 0) (output : estimate.maximumOutputTokens ≠ 0)
      (package : promptPackage X e = .ok prompt) (charged : promptBytes X prompt = .ok bytes)
      (maxPromptBytes : e.usage.promptBytes + bytes ≤ e.budget.maxPromptBytes)
      (maxTurns : e.usage.turns + 1 ≤ e.budget.maxTurns)
      (maxInput : e.usage.reservedInputTokens + estimate.inputTokens ≤ e.budget.maxInputTokens)
      (maxOutput : e.usage.reservedOutputTokens + estimate.maximumOutputTokens ≤
        e.budget.maxOutputTokens)
      (maxCost : e.usage.reservedCostMicroUnits + estimate.maximumCostMicroUnits ≤
        e.budget.maxCostMicroUnits) :
      Effect e (.beginTurn estimate) (.prompt prompt)
        { e with
          usage.promptBytes := e.usage.promptBytes + bytes
          usage.turns := e.usage.turns + 1
          usage.reservedInputTokens := e.usage.reservedInputTokens + estimate.inputTokens
          usage.reservedOutputTokens :=
            e.usage.reservedOutputTokens + estimate.maximumOutputTokens
          usage.reservedCostMicroUnits :=
            e.usage.reservedCostMicroUnits + estimate.maximumCostMicroUnits
          pendingMaximumOutputTokens := some estimate.maximumOutputTokens
          state := .awaitingAssistant }
  | callTool {operation : Operation} {call : AssistantToolCall}
      (submits : operation.Submits X (.callTool call)) (state : e.state = .awaitingAssistant)
      (valid : validateToolCall X.toDraftExternals e.evidence e.allowedApiFamilies call = .ok ())
      (questions : call = .showUnresolvedQuestions → e.unresolvedQuestions ≠ [])
      (maxToolCalls : e.usage.toolCalls + 1 ≤ e.budget.maxToolCalls) :
      Effect e operation (.action (.executeTool e.sessionId e.nextCallId call))
        { e with
          pendingMaximumOutputTokens := none
          nextCallId := e.nextCallId + 1
          usage.toolCalls := e.usage.toolCalls + 1
          pendingTool := some ⟨e.nextCallId, call⟩
          state := .awaitingToolResult }
  | submitDraft {operation : Operation} {draft : AssistantManifestDraft}
      {review : AssistantDraftReview}
      (submits : operation.Submits X (.submitDraft draft)) (state : e.state = .awaitingAssistant)
      (valid : validateDraft X.toDraftExternals e.allowedApiFamilies e.evidence draft =
        .ok review) :
      Effect e operation (.action (.reviewDraft review))
        { e with
          pendingMaximumOutputTokens := none
          unresolvedQuestions := []
          draftReview := some review
          state := .draftReady }
  | needMoreEvidence {operation : Operation} {questions canonical : List UnresolvedQuestion}
      (submits : operation.Submits X (.needMoreEvidence questions))
      (state : e.state = .awaitingAssistant) (nonempty : questions ≠ [])
      (canonicalizes : canonicalizeQuestions X.toRedactionExternals questions = .ok canonical) :
      Effect e operation (.action (.requestMoreEvidence e.sessionId canonical))
        { e with
          pendingMaximumOutputTokens := none
          unresolvedQuestions := canonical
          state := .awaitingMoreEvidence }
  | submitToolResult {callId : Nat} {result : AssistantToolResult} {call : AssistantToolCall}
      {serialized : String}
      (state : e.state = .awaitingToolResult) (pending : e.pendingTool = some ⟨callId, call⟩)
      (fits : toolResultMatches call result = true)
      (valid : validateToolResult X.toDraftExternals e.evidence e.allowedApiFamilies result =
        .ok ())
      (json : X.toolResultJson (toolResultPrompt result) = some serialized)
      (redacted : validateBoundedRedactedText X.toRedactionExternals serialized
        maxToolResultMessageBytes = .ok ())
      (room : e.toolObservations.length < maxTranscriptObservations) :
      Effect e (.submitToolResult callId result) .done
        { e with
          toolObservations := e.toolObservations ++ [⟨callId, toolResultPrompt result⟩]
          unresolvedQuestions :=
            if call = .showUnresolvedQuestions then [] else e.unresolvedQuestions
          pendingTool := none
          state := .ready }
  | continueAfterMoreEvidence (state : e.state = .awaitingMoreEvidence) :
      Effect e .continueAfterMoreEvidence .done { e with state := .ready }
  | recordFailure {kind : AssistantFailureKind} {retryable : Bool}
      (state : e.state = .awaitingAssistant) :
      Effect e (.recordFailure kind retryable) .done
        (e.endCall.transitionAfterFailure kind retryable)
  | approveRetry {sessionId : DiscoverySessionId} (state : e.state = .awaitingRetryConsent)
      (session : sessionId = e.sessionId) (maxRetries : e.usage.retries + 1 ≤ e.budget.maxRetries) :
      Effect e (.approveRetry sessionId true) .done
        { e with usage.retries := e.usage.retries + 1, pendingRetry := none, state := .ready }
  | markInterrupted
      (state : e.state = .awaitingAssistant ∨ e.state = .awaitingToolResult ∨
        e.state = .awaitingMoreEvidence) :
      Effect e .markInterrupted .done
        { e with
          pendingTool := none
          pendingRetry := none
          pendingMaximumOutputTokens := none
          state := .interrupted }
  | restart {sessionId : DiscoverySessionId} (state : e.state = .interrupted)
      (session : sessionId = e.sessionId) (maxRetries : e.usage.retries + 1 ≤ e.budget.maxRetries) :
      Effect e (.restartAfterInterruption sessionId true) .done
        { e with usage.retries := e.usage.retries + 1, state := .ready }
  | requestRevision (state : e.state = .draftReady)
      (maxRetries : e.usage.retries < e.budget.maxRetries) :
      Effect e .requestDraftRevision .done
        { e with
          draftReview := none
          pendingRetry := some .draftRevisionRequired
          state := .awaitingRetryConsent }
  | cancel (state : e.state ≠ .draftReady ∧ e.state ≠ .failed ∧ e.state ≠ .cancelled) :
      Effect e .cancel .done
        { e with
          pendingTool := none
          pendingRetry := none
          pendingMaximumOutputTokens := none
          unresolvedQuestions := []
          state := .cancelled }

variable {X} {e : SetupAssistantEngine} {error : AssistantError}

theorem checkedIncrement_eq_some (h : checkedIncrement a = some b) : b = a + 1 := by
  unfold checkedIncrement at h
  split at h
  · exact (Option.some.inj h).symm
  · cases h

theorem okOr_checkedAdd_ok (h : okOr (checkedAdd a b) error = .ok c) :
    c = a + b := by
  rw [okOr_ok, checkedAdd_eq_some] at h
  exact h.2.symm

/-- The state is what was expected. -/
theorem ensureState_bind_ok {a : α} :
    exec (ensureState expected >>= f) e = (.ok a, e') ↔
      e.state = expected ∧ exec (f ()) e = (.ok a, e') := by
  rw [bind_ok']
  constructor
  · rintro ⟨_, m, hensure, h⟩
    obtain ⟨hst, rfl⟩ := check_ok.mp hensure
    exact ⟨require_ok.mp hst, h⟩
  · rintro ⟨hst, h⟩
    exact ⟨(), e, check_ok.mpr ⟨require_ok.mpr hst, rfl⟩, h⟩

theorem silent_ok (h : exec (silent x) e = (.ok response, e')) :
    response = .done ∧ exec x e = (.ok (), e') := by
  obtain ⟨_, m, hx, h⟩ := bind_ok'.mp h
  rw [exec_pure, Prod.mk.injEq] at h
  obtain ⟨hresponse, rfl⟩ := h
  exact ⟨(Except.ok.inj hresponse).symm, hx⟩

/-! ### Every success has its effect -/

theorem replaceQuestions_effect
    (h : exec (replaceUnresolvedQuestionsBeforeConsent X questions) e = (.ok (), e')) :
    Effect X e (.replaceUnresolvedQuestionsBeforeConsent questions) .done e' := by
  obtain ⟨hst, h⟩ := ensureState_bind_ok.mp h
  obtain ⟨canonical, hcanon, h⟩ := check_bind_ok.mp h
  cases h
  exact .replaceQuestions hst hcanon

theorem grantConsent_effect (h : exec (grantConsent X consent) e = (.ok (), e')) :
    Effect X e (.grantConsent consent) .done e' := by
  obtain ⟨hst, h⟩ := ensureState_bind_ok.mp h
  obtain ⟨⟨hallows, hsess, hrt⟩, h⟩ := check_guard_ok.mp h
  obtain ⟨origins, horigs, h⟩ := check_bind_ok.mp h
  obtain ⟨⟨hids, happr⟩, h⟩ := check_guard_ok.mp h
  cases h
  exact .grantConsent hst hallows hsess hrt hids horigs happr

theorem addEvidence_effect (h : exec (addRedactedEvidence X item) e = (.ok (), e')) :
    Effect X e (.addRedactedEvidence item) .done e' := by
  unfold addRedactedEvidence at h
  obtain ⟨hst, h⟩ := check_guard_ok.mp h
  obtain ⟨hfresh, h⟩ := check_guard_ok.mp h
  obtain ⟨origin, horig, h⟩ := check_bind_ok.mp h
  obtain ⟨happr, h⟩ := check_guard_ok.mp h
  obtain ⟨hcount, h⟩ := check_guard_ok.mp h
  obtain ⟨added, hadded, h⟩ := check_bind_ok.mp h
  obtain ⟨bytes, hbytes, h⟩ := check_bind_ok.mp h
  obtain ⟨hbdd, h⟩ := check_guard_ok.mp h
  cases h
  exact .addEvidence hst hfresh horig happr hcount (okOr_ok.mp hadded) (okOr_ok.mp hbytes) hbdd

theorem beginTurn_effect {estimate : AssistantCallEstimate}
    (h : exec (beginTurn X estimate) e = (.ok prompt, e')) :
    Effect X e (.beginTurn estimate) (.prompt prompt) e' := by
  obtain ⟨hst, h⟩ := ensureState_bind_ok.mp h
  rw [exec_get_bind] at h
  obtain ⟨hconsented, h⟩ := check_guard_ok.mp h
  obtain ⟨⟨hinput, hout⟩, h⟩ := check_guard_ok.mp h
  obtain ⟨package, hpackage, h⟩ := check_bind_ok.mp h
  obtain ⟨bytes, hbytes, h⟩ := check_bind_ok.mp h
  obtain ⟨_, hprompt, h⟩ := check_bind_ok.mp h
  obtain ⟨hmaxPrompt, h⟩ := check_guard_ok.mp h
  obtain ⟨_, hturns, h⟩ := check_bind_ok.mp h
  obtain ⟨_, hinputs, h⟩ := check_bind_ok.mp h
  obtain ⟨_, houtputs, h⟩ := check_bind_ok.mp h
  obtain ⟨_, hcosts, h⟩ := check_bind_ok.mp h
  obtain ⟨hmaxTurns, h⟩ := check_guard_ok.mp h
  obtain ⟨hmaxInput, h⟩ := check_guard_ok.mp h
  obtain ⟨hmaxOut, h⟩ := check_guard_ok.mp h
  obtain ⟨hmaxCost, h⟩ := check_guard_ok.mp h
  cases h
  obtain rfl := okOr_checkedAdd_ok hprompt
  obtain rfl := checkedIncrement_eq_some (okOr_ok.mp hturns)
  obtain rfl := okOr_checkedAdd_ok hinputs
  obtain rfl := okOr_checkedAdd_ok houtputs
  obtain rfl := okOr_checkedAdd_ok hcosts
  exact .beginTurn hst hconsented hinput hout hpackage hbytes hmaxPrompt hmaxTurns hmaxInput
    hmaxOut hmaxCost

theorem submitToolResult_effect {result : AssistantToolResult}
    (h : exec (submitToolResult X callId result) e = (.ok (), e')) :
    Effect X e (.submitToolResult callId result) .done e' := by
  obtain ⟨hst, h⟩ := ensureState_bind_ok.mp h
  rw [exec_get_bind] at h
  obtain ⟨pending, hpend, h⟩ := check_bind_ok.mp h
  obtain ⟨⟨rfl, hfits⟩, h⟩ := check_guard_ok.mp h
  obtain ⟨_, h⟩ := check_guard_ok.mp h
  obtain ⟨_, hval, h⟩ := check_bind_ok.mp h
  obtain ⟨serialized, hjson, h⟩ := check_bind_ok.mp h
  obtain ⟨_, hred, h⟩ := check_bind_ok.mp h
  obtain ⟨hroom, h⟩ := check_guard_ok.mp h
  cases h
  exact .submitToolResult hst (okOr_ok.mp hpend) hfits hval (okOr_ok.mp hjson) hred hroom

theorem approveRetry_effect (h : exec (approveRetry sessionId userApproved) e = (.ok (), e')) :
    Effect X e (.approveRetry sessionId userApproved) .done e' := by
  obtain ⟨hst, h⟩ := ensureState_bind_ok.mp h
  obtain ⟨⟨rfl, hsess, _⟩, hrest⟩ := check_guard_ok.mp h
  obtain ⟨_, hretries, hrest⟩ := check_bind_ok.mp hrest
  obtain ⟨hmax, hrest⟩ := check_guard_ok.mp hrest
  cases hrest
  obtain rfl := checkedIncrement_eq_some (okOr_ok.mp hretries)
  exact .approveRetry hst hsess hmax

theorem restart_effect
    (h : exec (restartAfterInterruption sessionId userApproved) e = (.ok (), e')) :
    Effect X e (.restartAfterInterruption sessionId userApproved) .done e' := by
  obtain ⟨hst, h⟩ := ensureState_bind_ok.mp h
  obtain ⟨⟨rfl, hsess⟩, hrest⟩ := check_guard_ok.mp h
  obtain ⟨_, hretries, hrest⟩ := check_bind_ok.mp hrest
  obtain ⟨hmax, hrest⟩ := check_guard_ok.mp hrest
  cases hrest
  obtain rfl := checkedIncrement_eq_some (okOr_ok.mp hretries)
  exact .restart hst hsess hmax

/-! ### Turns -/

/-- Where an accepted turn leaves the engine, the reserved call aside. -/
theorem processTurn_effect (hsubmits : operation.Submits X turn)
    (hst : e.state = .awaitingAssistant) (h : exec (processTurn X turn) e = (.ok action, e')) :
    Effect X e operation (.action action) e'.endCall := by
  unfold processTurn at h
  rw [exec_get_bind] at h
  obtain ⟨_, _, h⟩ := check_bind_ok.mp h
  obtain ⟨_, _, h⟩ := check_bind_ok.mp h
  obtain ⟨_, h⟩ := check_guard_ok.mp h
  cases turn with
  | callTool call =>
    change exec (acceptToolCall X call) e = _ at h
    unfold acceptToolCall at h
    rw [exec_get_bind] at h
    obtain ⟨_, hval, h⟩ := check_bind_ok.mp h
    obtain ⟨hquests, h⟩ := check_guard_ok.mp h
    obtain ⟨_, hcalls, h⟩ := check_bind_ok.mp h
    obtain ⟨hmax, h⟩ := check_guard_ok.mp h
    obtain ⟨_, hnext, h⟩ := check_bind_ok.mp h
    obtain rfl := checkedIncrement_eq_some (okOr_ok.mp hcalls)
    obtain rfl := okOr_checkedAdd_ok hnext
    cases h
    exact .callTool hsubmits hst hval hquests hmax
  | submitDraft draft =>
    change exec (acceptDraft X draft) e = _ at h
    unfold acceptDraft at h
    rw [exec_get_bind] at h
    obtain ⟨review, hval, h⟩ := check_bind_ok.mp h
    cases h
    exact .submitDraft hsubmits hst hval
  | needMoreEvidence questions =>
    obtain ⟨hnon, h⟩ := check_guard_ok.mp h
    obtain ⟨canonical, hcanon, h⟩ := check_bind_ok.mp h
    cases h
    exact .needMoreEvidence hsubmits hst hnon hcanon

theorem submitTurn_effect (hsubmits : operation.Submits X turn)
    (h : exec (submitTurn X turn) e = (.ok action, e')) :
    Effect X e operation (.action action) e' := by
  obtain ⟨hst, h⟩ := ensureState_bind_ok.mp h
  obtain ⟨hres, rfl⟩ := check_ok.mp h
  have hprocess : exec (processTurn X turn) e = (.ok action, (exec (processTurn X turn) e).2) :=
    Prod.ext hres rfl
  rw [hres]
  exact processTurn_effect hsubmits hst hprocess

theorem submitTurnJson_effect (h : exec (submitTurnJson X bytes) e = (.ok action, e')) :
    Effect X e (.submitTurnJson bytes) (.action action) e' := by
  obtain ⟨hst, h⟩ := ensureState_bind_ok.mp h
  rw [exec_get_bind] at h
  obtain ⟨limit, _, h⟩ := check_bind_ok.mp h
  by_cases hlim : limit < bytes.length
  · rw [if_pos hlim] at h
    cases h
  · rw [if_neg hlim] at h
    cases hturn : X.parseTurn bytes with
    | none =>
      rw [hturn] at h
      cases h
    | some turn =>
      rw [hturn] at h
      exact submitTurn_effect (.inr ⟨bytes, rfl, hturn⟩) h

/-- **Every successful operation has its effect.** -/
theorem effect_of_run
    (h : exec (operation.run X) e = (.ok response, e')) : Effect X e operation response e' := by
  cases operation
  case beginTurn =>
    obtain ⟨prompt, m, hbegin, h⟩ := bind_ok'.mp h
    cases h
    exact beginTurn_effect hbegin
  case submitTurn =>
    obtain ⟨action, m, hsubmit, h⟩ := bind_ok'.mp h
    cases h
    exact submitTurn_effect (.inl rfl) hsubmit
  case submitTurnJson =>
    obtain ⟨action, m, hsubmit, h⟩ := bind_ok'.mp h
    cases h
    exact submitTurnJson_effect hsubmit
  all_goals obtain ⟨rfl, hrun⟩ := silent_ok h
  case replaceUnresolvedQuestionsBeforeConsent => exact replaceQuestions_effect hrun
  case grantConsent => exact grantConsent_effect hrun
  case addRedactedEvidence => exact addEvidence_effect hrun
  case submitToolResult => exact submitToolResult_effect hrun
  case continueAfterMoreEvidence =>
    obtain ⟨hst, hrun⟩ := ensureState_bind_ok.mp hrun
    cases hrun
    exact .continueAfterMoreEvidence hst
  case recordFailure =>
    obtain ⟨hst, hrun⟩ := ensureState_bind_ok.mp hrun
    cases hrun
    exact .recordFailure hst
  case approveRetry => exact approveRetry_effect hrun
  case markInterrupted =>
    unfold Assistant.markInterrupted at hrun
    obtain ⟨hst, hrun⟩ := check_guard_ok.mp hrun
    cases hrun
    exact .markInterrupted hst
  case restartAfterInterruption => exact restart_effect hrun
  case requestDraftRevision =>
    obtain ⟨hst, hrun⟩ := ensureState_bind_ok.mp hrun
    obtain ⟨hmax, hrun⟩ := check_guard_ok.mp hrun
    cases hrun
    exact .requestRevision hst hmax
  case cancel =>
    unfold Assistant.cancel at hrun
    obtain ⟨hst, hrun⟩ := check_guard_ok.mp hrun
    cases hrun
    exact .cancel hst

/-! ### What a failure leaves -/

theorem readsOnly_ensureState :
    ReadsOnly (ensureState expected) := fun _ => rfl

/-- Checks the state, then is atomic. -/
theorem atomic_ensureState_bind (hf : Atomic (f ())) : Atomic (ensureState expected >>= f) :=
  readsOnly_ensureState.bind_atomic fun _ => hf

/-- An operation that only wraps the result of a program fails as that program does. -/
theorem error_of_answer {x : EngineM α} {f : α → Response}
    (h : exec (x >>= fun a => pure (f a)) e = (.error error, e')) :
    exec x e = (.error error, e') := by
  obtain ⟨r, m, hr⟩ : ∃ r m, exec x e = (r, m) := ⟨_, _, rfl⟩
  cases r with
  | ok a =>
    rw [exec_bind_of_ok hr] at h
    cases h
  | error error' =>
    rw [exec_bind_of_error hr] at h
    cases h
    exact hr

theorem Atomic.answer {x : EngineM α} {f : α → Response} (hx : Atomic x) :
    Atomic (x >>= fun a => pure (f a)) := fun _ _ _ h => hx _ _ _ (error_of_answer h)

theorem Atomic.silent (hx : Atomic x) : Atomic (silent x) :=
  Atomic.answer (f := fun _ => .done) hx

theorem atomic_processTurn : Atomic (processTurn X turn) := by
  refine atomic_get_bind fun e => ?_
  repeat refine atomic_check_bind fun _ => ?_
  cases turn with
  | callTool call =>
    refine atomic_get_bind fun _ => ?_
    repeat refine atomic_check_bind fun _ => ?_
    exact atomic_modify_pure
  | submitDraft draft =>
    exact atomic_get_bind fun _ => atomic_check_bind fun _ => atomic_modify_pure
  | needMoreEvidence questions =>
    exact atomic_check_bind fun _ => atomic_check_bind fun _ => atomic_get_bind fun _ =>
      atomic_modify_pure

/-- The failure of an output that was rejected. -/
def SetupAssistantEngine.reject (e : SetupAssistantEngine) : SetupAssistantEngine :=
  e.endCall.transitionAfterFailure .invalidStructuredOutput true

/-- The operation hands over an assistant's output. -/
def Operation.isSubmission : Operation → Bool
  | .submitTurn _ | .submitTurnJson _ => true
  | _ => false

/-- No output is awaited, or none is reserved. -/
def SetupAssistantEngine.Unready (e : SetupAssistantEngine) : Prop :=
  e.state ≠ .awaitingAssistant ∨ e.pendingMaximumOutputTokens = none

theorem failed_submitTurn (h : exec (submitTurn X turn) e = (.error error, e')) :
    e' = e ∧ e.Unready ∨ e.state = .awaitingAssistant ∧ e' = e.reject := by
  by_cases hst : e.state = .awaitingAssistant
  · refine .inr ⟨hst, ?_⟩
    have hensure : exec (ensureState .awaitingAssistant) e = (.ok (), e) :=
      check_ok.mpr ⟨require_ok.mpr hst, rfl⟩
    rw [submitTurn, exec_bind_of_ok hensure, exec_observe_bind, exec_modify_bind, exec_check,
      Prod.mk.injEq] at h
    obtain ⟨hres, rfl⟩ := h
    have hkeeps : (exec (processTurn X turn) e).2 = e :=
      atomic_processTurn _ _ _ (Prod.ext hres rfl)
    rw [hres, hkeeps, SetupAssistantEngine.afterTurn, if_pos ⟨rfl, hst⟩]
    rfl
  · left
    have hensure : exec (ensureState .awaitingAssistant) e = (.error .invalidState, e) := by
      show (require _ _, e) = _
      rw [require, if_neg hst]
    rw [submitTurn, exec_bind_of_error hensure] at h
    cases h
    exact ⟨rfl, .inl hst⟩

theorem failed_submitTurnJson (h : exec (submitTurnJson X bytes) e = (.error error, e')) :
    e' = e ∧ e.Unready ∨ e.state = .awaitingAssistant ∧ e' = e.reject := by
  by_cases hst : e.state = .awaitingAssistant
  · have hensure : exec (ensureState .awaitingAssistant) e = (.ok (), e) :=
      check_ok.mpr ⟨require_ok.mpr hst, rfl⟩
    rw [submitTurnJson, exec_bind_of_ok hensure, exec_get_bind] at h
    cases hlim : pendingOutputByteLimit e with
    | error error' =>
      rw [hlim] at h
      cases h
      rw [pendingOutputByteLimit, okOr_eq_error, Option.map_eq_none_iff] at hlim
      exact .inl ⟨rfl, .inr hlim.1⟩
    | ok limit =>
      rw [hlim] at h
      change exec (if limit < bytes.length then _ else _) e = _ at h
      by_cases hlt : limit < bytes.length
      · rw [if_pos hlt] at h
        cases h
        exact .inr ⟨hst, rfl⟩
      · rw [if_neg hlt] at h
        cases hturn : X.parseTurn bytes with
        | none =>
          rw [hturn] at h
          cases h
          exact .inr ⟨hst, rfl⟩
        | some turn =>
          rw [hturn] at h
          exact failed_submitTurn h
  · left
    have hensure : exec (ensureState .awaitingAssistant) e = (.error .invalidState, e) := by
      show (require _ _, e) = _
      rw [require, if_neg hst]
    rw [submitTurnJson, exec_bind_of_error hensure] at h
    cases h
    exact ⟨rfl, .inl hst⟩

/-- Every operation but the submission of a turn checks before it writes. -/
theorem atomic_run (h : operation.isSubmission = false) :
    Atomic (operation.run X) := by
  cases operation with
  | submitTurn | submitTurnJson => cases h
  | beginTurn estimate =>
    refine Atomic.answer (atomic_ensureState_bind (atomic_get_bind fun _ => ?_))
    repeat refine atomic_check_bind fun _ => ?_
    exact atomic_modify_pure
  | replaceUnresolvedQuestionsBeforeConsent questions =>
    exact Atomic.silent (atomic_ensureState_bind (atomic_check_bind fun _ => atomic_modify))
  | grantConsent | submitToolResult | approveRetry | restartAfterInterruption
  | requestDraftRevision =>
    refine Atomic.silent (atomic_ensureState_bind (atomic_get_bind fun _ => ?_))
    repeat refine atomic_check_bind fun _ => ?_
    exact atomic_modify
  | addRedactedEvidence evidence =>
    refine Atomic.silent (atomic_get_bind fun _ => ?_)
    repeat refine atomic_check_bind fun _ => ?_
    exact atomic_modify
  | continueAfterMoreEvidence | recordFailure =>
    exact Atomic.silent (atomic_ensureState_bind atomic_modify)
  | markInterrupted | cancel =>
    exact Atomic.silent (atomic_get_bind fun _ => atomic_check_bind fun _ => atomic_modify)

/-- **A failed operation changes nothing**, except that a turn rejected while the assistant was
    awaited is a failure. -/
theorem failed_run (h : exec (operation.run X) e = (.error error, e')) :
    e' = e ∧ (operation.isSubmission = true → e.Unready) ∨
      operation.isSubmission = true ∧ e.state = .awaitingAssistant ∧ e' = e.reject := by
  cases hsubm : operation.isSubmission with
  | false => exact .inl ⟨atomic_run hsubm _ _ _ h, fun htrue => by cases htrue⟩
  | true =>
    cases operation with
    | submitTurn turn =>
      exact (failed_submitTurn (error_of_answer h)).imp (fun h => ⟨h.1, fun _ => h.2⟩)
        fun h => ⟨rfl, h⟩
    | submitTurnJson bytes =>
      exact (failed_submitTurnJson (error_of_answer h)).imp (fun h => ⟨h.1, fun _ => h.2⟩)
        fun h => ⟨rfl, h⟩
    | _ => cases hsubm

end LorePia.Assistant
