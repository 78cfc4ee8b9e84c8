import LorePia.Assistant.Invariant

namespace LorePia.Assistant

open List AssistantState Nat RedactedAssistantEvidence

open Lib Lib.Stateful

/-!
# Every step of the setup assistant keeps its invariant

One lemma for each effect, and from them `invariant_of_step`: an operation that succeeds, an
operation that fails and a restore all keep the invariant.
-/

variable {X : AssistantExternals} {e : SetupAssistantEngine} {call : AssistantToolCall}
  {canonical : List UnresolvedQuestion}

/-! ### Evidence and turns -/

theorem Invariant.addEvidence (h : Invariant X e) {origin : String}
    (hbuilt : item.Built X.toRedactionExternals)
    (hst : e.state = .awaitingToolResult ∨ e.state = .awaitingMoreEvidence)
    (hfresh : item.id ∉ e.evidence.map RedactedAssistantEvidence.id)
    (hsrc : sourceOrigin X.toRedactionExternals item.sourceUrl = .ok origin)
    (happr : origin ∈ e.approvedOrigins) (hcount : e.evidence.length < e.budget.maxEvidenceCount)
    (hitem : evidenceItemBytes item = some addedBytes)
    (htotal : checkedAdd e.usage.evidenceBytes addedBytes = some bytes)
    (hbdd : bytes ≤ e.budget.maxEvidenceBytes) :
    Invariant X { e with
      usage.evidenceBytes := bytes
      evidence := sortByKey key (e.evidence ++ [item]) } := by
  have hperm := perm_sortByKey key (e.evidence ++ [item])
  have hmore : ∀ item' ∈ e.evidence,
      item' ∈ sortByKey key (e.evidence ++ [item]) :=
    fun item' hmem => mem_sortByKey.mpr (mem_append_left _ hmem)
  have hnodup : ((e.evidence ++ [item]).map key).Nodup := by
    rw [map_append, map_singleton]
    refine nodup_append.mpr ⟨nodup_of_pairwise_lt h.documented.sorted, nodup_singleton _, ?_⟩
    rintro key hkey key' hkey' rfl
    obtain ⟨item', hmem, hkeys⟩ := mem_map.mp hkey
    rw [mem_singleton.mp hkey'] at hkeys
    exact hfresh (mem_map.mpr ⟨item', hmem, Discovery.StableId.mk.injEq _ _ ▸ hkeys⟩)
  have hconsented : e.consented = true := by
    apply h.consented.isConsented <;> rcases hst with hs | hs <;> simp [hs]
  obtain ⟨horigs, hawait⟩ := h.consented.granted hconsented
  rw [evidenceItemBytes_eq_some] at hitem
  rw [checkedAdd_eq_some] at htotal
  obtain ⟨hsize, _⟩ := assistantEvidenceBytes_eq_some.mp h.documented.total
  have hsum : evidenceSize e.evidence + itemSize item = bytes ∧ bytes ≤ u64Max := by omega
  exact
    { h with
      documented :=
        { built := fun item' hmem => by
            rcases mem_append.mp (mem_sortByKey.mp hmem) with hmem | hmem
            · exact h.documented.built item' hmem
            · exact mem_singleton.mp hmem ▸ hbuilt
          sorted := pairwise_lt_sortByKey hnodup
          count := by
            rw [length_sortByKey, length_append, length_singleton]
            exact hcount
          total := by
            rw [assistantEvidenceBytes_eq_some, evidenceSize_of_perm hperm,
              evidenceSize_append_singleton]
            exact hsum
          bounded := hbdd }
      charged := { h.charged with }
      transcript := h.transcript.mono hmore
      consented :=
        { granted := fun _ => ⟨evidenceOrigins_add horigs hsrc happr hperm, hawait⟩
          ungranted := fun hc => by
            rw [show e.consented = false from hc] at hconsented
            cases hconsented }
      pending := fun pending hmem =>
        { h.pending pending hmem with
          valid := validateToolCall_mono hmore (h.pending pending hmem).valid }
      reviewed := fun review hmem => by
        -- no draft is under review while evidence is awaited
        have hdraft := h.shaped.review.mp (Option.isSome_iff_exists.mpr ⟨review, hmem⟩)
        rcases hst with hs | hs <;> rw [hs] at hdraft <;> cases hdraft }

theorem Invariant.beginTurn (hX : X.Lawful) (h : Invariant X e) {estimate : AssistantCallEstimate} (hst : e.state = .ready)
    (hconsented : e.consented = true) (hinput : estimate.inputTokens ≠ 0)
    (houtput : estimate.maximumOutputTokens ≠ 0) (hbytes : promptBytes X prompt = .ok bytes)
    (hmaxPrompt : e.usage.promptBytes + bytes ≤ e.budget.maxPromptBytes)
    (hmaxTurns : e.usage.turns + 1 ≤ e.budget.maxTurns)
    (hmaxInput : e.usage.reservedInputTokens + estimate.inputTokens ≤ e.budget.maxInputTokens)
    (hmaxOut : e.usage.reservedOutputTokens + estimate.maximumOutputTokens ≤
      e.budget.maxOutputTokens)
    (hmaxCost : e.usage.reservedCostMicroUnits + estimate.maximumCostMicroUnits ≤
      e.budget.maxCostMicroUnits) :
    Invariant X { e with
      usage.promptBytes := e.usage.promptBytes + bytes
      usage.turns := e.usage.turns + 1
      usage.reservedInputTokens := e.usage.reservedInputTokens + estimate.inputTokens
      usage.reservedOutputTokens := e.usage.reservedOutputTokens + estimate.maximumOutputTokens
      usage.reservedCostMicroUnits :=
        e.usage.reservedCostMicroUnits + estimate.maximumCostMicroUnits
      pendingMaximumOutputTokens := some estimate.maximumOutputTokens
      state := .awaitingAssistant } := by
  have hpos : bytes ≠ 0 := by
    obtain ⟨package, hpackage, schema, _, hsum⟩ := steps₂ hbytes
    rw [okOr_ok] at hpackage
    rw [okOr_ok, checkedAdd_eq_some] at hsum
    have hlen := length_pos_iff.mpr (hX.prompt hpackage)
    omega
  have hshaped := h.shaped
  rw [hst] at hshaped
  exact
    { h with
      charged :=
        { h.charged with
          prompt := hmaxPrompt
          input := hmaxInput
          output := hmaxOut
          cost := hmaxCost
          turns := hmaxTurns
          unused := fun hturns => absurd hturns (succ_ne_zero _)
          used := fun _ => ⟨by simp [hpos], by simp [hinput], by simp [houtput]⟩ }
      paced :=
        { toolCalls := le_succ_of_le h.paced.toolCalls
          answering := fun _ => lt_succ_of_le h.paced.toolCalls
          retries := le_succ_of_le h.paced.retries
          busy := fun _ => lt_succ_of_le h.paced.retries }
      consented := h.consented.move hconsented (by simp)
      questioned := h.questioned.move (by simp) (by simp) (by simp) (by simp)
      shaped :=
        { output := by simp
          tool := by simpa using hshaped.tool
          retry := by simpa using hshaped.retry
          review := by simpa using hshaped.review }
      output := by
        rintro _ ⟨⟩
        exact ⟨houtput, by show estimate.maximumOutputTokens ≤ e.budget.maxOutputTokens; omega,
          le_add_left _ _⟩ }

theorem Invariant.callTool (h : Invariant X e) (hst : e.state = .awaitingAssistant)
    (hval : validateToolCall X.toDraftExternals e.evidence e.allowedApiFamilies call = .ok ())
    (hquests : call = .showUnresolvedQuestions → e.unresolvedQuestions ≠ [])
    (hmax : e.usage.toolCalls + 1 ≤ e.budget.maxToolCalls) :
    Invariant X { e with
      pendingMaximumOutputTokens := none
      nextCallId := e.nextCallId + 1
      usage.toolCalls := e.usage.toolCalls + 1
      pendingTool := some ⟨e.nextCallId, call⟩
      state := .awaitingToolResult } := by
  have hconsented : e.consented = true := by apply h.consented.isConsented <;> simp [hst]
  have hshaped := h.shaped
  rw [hst] at hshaped
  exact
    { h with
      charged := { h.charged with toolCalls := hmax }
      paced :=
        { toolCalls := h.paced.answering hst
          answering := by simp
          retries := h.paced.retries
          busy := fun _ => h.paced.busy (by rw [hst]; rfl) }
      transcript := h.transcript.call
      consented := h.consented.move hconsented (by simp)
      questioned := h.questioned.move (by simp) (by simp) (by simp) (by simp)
      shaped :=
        { output := by simp
          tool := by simp
          retry := by simpa using hshaped.retry
          review := by simpa using hshaped.review }
      output := by simp
      pending := by
        rintro _ ⟨⟩
        exact
          { positive := by
              show 0 < e.nextCallId
              rw [h.transcript.next]
              exact succ_pos _
            last := rfl
            unanswered := fun observation hmem => (h.transcript.bounds observation hmem).2
            valid := hval
            questions := hquests } }

/-! ### Moving on

What moves the state but charges nothing. -/

/-- The state moves on to one in which nothing is in flight; the evidence, the charges and the
    observations stay. -/
theorem Invariant.move (h : Invariant X e) {approved : List String}
    {consented : Bool} {output : Option Nat} {retry : Option AssistantFailureKind} (hanswering : state ≠ .awaitingAssistant)
    (hcalling : state ≠ .awaitingToolResult) (hbusy : state.isBusy = true → e.state.isBusy = true)
    (hconsented : Consented X.toRedactionExternals e.evidence approved consented state
      e.usage.toolCalls e.usage.turns e.usage.retries)
    (hquests : Questioned X.toRedactionExternals state questions)
    (hshaped : Shaped state output tool retry review)
    (hrevd : ∀ draft ∈ review,
      validateDraft X.toDraftExternals e.allowedApiFamilies e.evidence draft.draft = .ok draft) :
    Invariant X { e with
      approvedOrigins := approved
      consented := consented
      unresolvedQuestions := questions
      pendingMaximumOutputTokens := output
      pendingTool := tool
      pendingRetry := retry
      draftReview := review
      state := state } := by
  have houtput : output = none := by simpa [hanswering] using hshaped.output
  have htool : tool = none := by simpa [hcalling] using hshaped.tool
  exact
    { h with
      paced :=
        { h.paced with
          answering := fun hst => absurd hst hanswering
          busy := fun hst => h.paced.busy (hbusy hst) }
      consented := hconsented
      questioned := hquests
      shaped := hshaped
      output := by simp [houtput]
      pending := by simp [htool]
      reviewed := hrevd }

theorem Invariant.submitDraft (h : Invariant X e) {review : AssistantDraftReview}
    (hst : e.state = .awaitingAssistant)
    (hval : validateDraft X.toDraftExternals e.allowedApiFamilies e.evidence draft = .ok review) :
    Invariant X { e with
      pendingMaximumOutputTokens := none
      unresolvedQuestions := []
      draftReview := some review
      state := .draftReady } := by
  have hconsented : e.consented = true := by apply h.consented.isConsented <;> simp [hst]
  have hshaped := h.shaped
  rw [hst] at hshaped
  refine h.move (by simp) (by simp) (fun _ => by rw [hst]; rfl)
    (h.consented.move hconsented (by simp)) (questioned_nil (by simp))
    ⟨by simp, by simpa using hshaped.tool, by simpa using hshaped.retry, by simp⟩ ?_
  rintro _ ⟨⟩
  rw [validateDraft_ok hval]
  exact hval

theorem Invariant.needMoreEvidence (h : Invariant X e) (hst : e.state = .awaitingAssistant)
    (hnon : questions ≠ [])
    (hcanon : canonicalizeQuestions X.toRedactionExternals questions = .ok canonical) :
    Invariant X { e with
      pendingMaximumOutputTokens := none
      unresolvedQuestions := canonical
      state := .awaitingMoreEvidence } := by
  have hconsented : e.consented = true := by apply h.consented.isConsented <;> simp [hst]
  have hshaped := h.shaped
  rw [hst] at hshaped
  exact h.move (by simp) (by simp) (fun _ => by rw [hst]; rfl)
    (h.consented.move hconsented (by simp))
    (questioned_of_canonicalize hcanon (fun _ => hnon) (by simp))
    ⟨by simp, by simpa using hshaped.tool, by simpa using hshaped.retry,
      by simpa using hshaped.review⟩ h.reviewed

theorem Invariant.submitToolResult (h : Invariant X e)
    {result : AssistantToolResult} {serialized : String}
    (hst : e.state = .awaitingToolResult) (hpend : e.pendingTool = some ⟨callId, call⟩)
    (hval : validateToolResult X.toDraftExternals e.evidence e.allowedApiFamilies result =
      .ok ()) (hjson : X.toolResultJson (toolResultPrompt result) = some serialized)
    (hred : validateBoundedRedactedText X.toRedactionExternals serialized
      maxToolResultMessageBytes = .ok ())
    (hroom : e.toolObservations.length < maxTranscriptObservations) :
    Invariant X { e with
      toolObservations := e.toolObservations ++ [⟨callId, toolResultPrompt result⟩]
      unresolvedQuestions := if call = .showUnresolvedQuestions then [] else e.unresolvedQuestions
      pendingTool := none
      state := .ready } := by
  have hconsented : e.consented = true := by apply h.consented.isConsented <;> simp [hst]
  have hshaped := h.shaped
  rw [hst] at hshaped
  have hquests : Questioned X.toRedactionExternals .ready
      (if call = .showUnresolvedQuestions then [] else e.unresolvedQuestions) := by
    by_cases hcall : call = .showUnresolvedQuestions
    · rw [if_pos hcall]
      exact questioned_nil (by simp)
    · rw [if_neg hcall]
      exact h.questioned.move (by simp) (by simp) (by simp) (by simp)
  have hready : Shaped .ready e.pendingMaximumOutputTokens none e.pendingRetry e.draftReview :=
    ⟨by simpa using hshaped.output, by simp, by simpa using hshaped.retry,
      by simpa using hshaped.review⟩
  have hmoved := h.move (by simp) (by simp) (by simp [isBusy])
    (h.consented.move hconsented (by simp)) hquests hready h.reviewed
  exact
    { hmoved with
      transcript := h.transcript.answer (h.pending _ hpend)
        ⟨by rw [result_toolResultPrompt]; exact hval, serialized, hjson, hred⟩ hroom
      pending := by simp }

/-! ### Failures, retries and endings -/

section

variable (h : Invariant X e)
include h

/-- A turn that failed. -/
theorem Invariant.fail {kind : AssistantFailureKind} {retryable : Bool}
    (hst : e.state = .awaitingAssistant) :
    Invariant X (e.endCall.transitionAfterFailure kind retryable) := by
  have hconsented : e.consented = true := by apply h.consented.isConsented <;> simp [hst]
  have hshaped : Shaped .awaitingAssistant e.pendingMaximumOutputTokens e.endCall.pendingTool
      e.pendingRetry e.endCall.draftReview := hst ▸ h.shaped
  have houtput : e.endCall.pendingMaximumOutputTokens = none := rfl
  have htool : e.endCall.pendingTool = none := by simpa using hshaped.tool
  have hreview : e.endCall.draftReview = none := by simpa using hshaped.review
  unfold SetupAssistantEngine.transitionAfterFailure
  by_cases hretry : retryable = true ∧ e.endCall.usage.retries < e.endCall.budget.maxRetries
  · rw [if_pos hretry]
    exact h.move (by simp) (by simp) (fun _ => by rw [hst]; rfl)
      (h.consented.move hconsented (by simp))
      (h.questioned.move (by simp) (by simp) (by simp) (by simp))
      ⟨by simp [houtput], by simp [htool], by simp, by simp [hreview]⟩ h.reviewed
  · rw [if_neg hretry]
    exact h.move (by simp) (by simp) (by simp [isBusy])
      (h.consented.move hconsented (by simp)) (questioned_nil (by simp))
      ⟨by simp [houtput], by simp [htool], by simp, by simp [hreview]⟩ h.reviewed

/-- A retry is approved, after a failure or after an interruption. -/
theorem Invariant.retry (hst : e.state = .awaitingRetryConsent ∨ e.state = .interrupted)
    (hmax : e.usage.retries + 1 ≤ e.budget.maxRetries) :
    Invariant X { e with
      usage.retries := e.usage.retries + 1
      pendingRetry := none
      state := .ready } := by
  have hconsented : e.consented = true := by
    apply h.consented.isConsented <;> rcases hst with hs | hs <;> simp [hs]
  have hbusy : e.state.isBusy = true := by rcases hst with hs | hs <;> rw [hs] <;> rfl
  have hmoved : Invariant X { e with pendingRetry := none, state := .ready } := by
    have hshaped := h.shaped
    refine h.move (by simp) (by simp) (by simp [isBusy])
      (h.consented.move hconsented (by simp))
      (h.questioned.move (by simp) (by simp) (by simp) (by simp)) ?_ h.reviewed
    rcases hst with hs | hs <;> rw [hs] at hshaped <;>
      exact ⟨by simpa using hshaped.output, by simpa using hshaped.tool, by simp,
        by simpa using hshaped.review⟩
  exact
    { hmoved with
      charged := { h.charged with retries := hmax }
      paced := { hmoved.paced with
        retries := h.paced.busy hbusy
        busy := by simp [isBusy] }
      consented := h.consented.move hconsented (by simp) }

/-- What was in flight is dropped. -/
theorem Invariant.interrupt
    (hst : e.state = .awaitingAssistant ∨ e.state = .awaitingToolResult ∨
      e.state = .awaitingMoreEvidence) :
    Invariant X { e with
      pendingTool := none
      pendingRetry := none
      pendingMaximumOutputTokens := none
      state := .interrupted } := by
  have hconsented : e.consented = true := by
    apply h.consented.isConsented <;> rcases hst with hs | hs | hs <;> simp [hs]
  have hbusy : e.state.isBusy = true := by rcases hst with hs | hs | hs <;> rw [hs] <;> rfl
  have hreview : e.draftReview = none := by
    have := h.shaped.review
    rcases hst with hs | hs | hs <;> simpa [hs] using this
  exact h.move (by simp) (by simp) (fun _ => hbusy) (h.consented.move hconsented (by simp))
    (h.questioned.move (by simp) (by simp) (by simp) (by simp))
    ⟨by simp, by simp, by simp, by simp [hreview]⟩ h.reviewed

theorem Invariant.continue (hst : e.state = .awaitingMoreEvidence) :
    Invariant X { e with state := .ready } := by
  have hconsented : e.consented = true := by apply h.consented.isConsented <;> simp [hst]
  have hshaped := h.shaped
  rw [hst] at hshaped
  exact h.move (by simp) (by simp) (by simp [isBusy])
    (h.consented.move hconsented (by simp))
    (h.questioned.move (by simp) (by simp) (by simp) (by simp))
    ⟨by simpa using hshaped.output, by simpa using hshaped.tool, by simpa using hshaped.retry,
      by simpa using hshaped.review⟩ h.reviewed

theorem Invariant.requestRevision (hst : e.state = .draftReady) :
    Invariant X { e with
      draftReview := none
      pendingRetry := some .draftRevisionRequired
      state := .awaitingRetryConsent } := by
  have hconsented : e.consented = true := by apply h.consented.isConsented <;> simp [hst]
  have hshaped := h.shaped
  rw [hst] at hshaped
  exact h.move (by simp) (by simp) (fun _ => by rw [hst]; rfl)
    (h.consented.move hconsented (by simp))
    (h.questioned.move (by simp) (by simp) (by simp) (by simp))
    ⟨by simpa using hshaped.output, by simpa using hshaped.tool, by simp, by simp⟩ (by simp)

theorem Invariant.cancel (hst : e.state ≠ .draftReady) :
    Invariant X { e with
      pendingTool := none
      pendingRetry := none
      pendingMaximumOutputTokens := none
      unresolvedQuestions := []
      state := .cancelled } := by
  have hreview : e.draftReview = none := by
    rw [← Option.not_isSome_iff_eq_none, h.shaped.review]
    exact hst
  refine h.move (by simp) (by simp) (by simp [isBusy]) ?_
    (questioned_nil (by simp)) ⟨by simp, by simp, by simp, by simp [hreview]⟩ h.reviewed
  exact
    { granted := fun hc => ⟨(h.consented.granted hc).1, by simp⟩
      ungranted := by
        intro hc
        obtain ⟨happr, _, hzero⟩ := h.consented.ungranted hc
        exact ⟨happr, .inr rfl, hzero⟩ }

end

/-! ### Before consent -/

theorem Invariant.replaceQuestions (h : Invariant X e) (hst : e.state = .awaitingConsent)
    (hcanon : canonicalizeQuestions X.toRedactionExternals questions = .ok canonical) :
    Invariant X { e with unresolvedQuestions := canonical } :=
  h.move (by simp [hst]) (by simp [hst]) id h.consented
    (questioned_of_canonicalize hcanon (by simp [hst]) (by simp [hst])) h.shaped
    h.reviewed

theorem Invariant.grant (h : Invariant X e) (hst : e.state = .awaitingConsent)
    (horigs : evidenceOrigins X.toRedactionExternals e.evidence = .ok origins) :
    Invariant X { e with approvedOrigins := origins, consented := true, state := .ready } := by
  have hshaped := h.shaped
  rw [hst] at hshaped
  exact h.move (by simp) (by simp) (by simp [isBusy])
    ⟨fun _ => ⟨horigs, by simp⟩, by simp⟩
    (h.questioned.move (by simp) (by simp) (by simp) (by simp))
    ⟨by simpa using hshaped.output, by simpa using hshaped.tool, by simpa using hshaped.retry,
      by simpa using hshaped.review⟩ h.reviewed

/-! ### All steps -/

/-- **Every effect keeps the invariant.** -/
theorem Effect.invariant (hX : X.Lawful) {operation : Operation} (h : Invariant X e)
    (hbuilt : operation.Built X.toRedactionExternals) (heff : Effect X e operation response e') :
    Invariant X e' := by
  cases heff with
  | replaceQuestions hst hcanon => exact h.replaceQuestions hst hcanon
  | grantConsent hst _ _ _ _ horigs _ => exact h.grant hst horigs
  | addEvidence hst hfresh hsrc happr hcount hitem htotal hbdd =>
    exact h.addEvidence hbuilt hst hfresh hsrc happr hcount hitem htotal hbdd
  | beginTurn hst hconsented hinput houtput _ hbytes hprompt hturns hin hout hcost =>
    exact h.beginTurn hX hst hconsented hinput houtput hbytes hprompt hturns hin hout hcost
  | callTool _ hst hval hquests hmax => exact h.callTool hst hval hquests hmax
  | submitDraft _ hst hval => exact h.submitDraft hst hval
  | needMoreEvidence _ hst hnon hcanon => exact h.needMoreEvidence hst hnon hcanon
  | submitToolResult hst hpend _ hval hjson hred hroom =>
    exact h.submitToolResult hst hpend hval hjson hred hroom
  | continueAfterMoreEvidence hst => exact h.continue hst
  | recordFailure hst => exact h.fail hst
  | approveRetry hst _ hmax => exact h.retry (.inl hst) hmax
  | markInterrupted hst => exact h.interrupt hst
  | restart hst _ hmax =>
    have hretry : e.pendingRetry = none := by
      have := h.shaped.retry
      simpa [hst] using this
    have hnext := h.retry (.inr hst) hmax
    rw [← hretry] at hnext
    exact hnext
  | requestRevision hst _ => exact h.requestRevision hst
  | cancel hst => exact h.cancel hst.1

theorem fromSnapshot_snapshot_eq (h : fromSnapshot X e.snapshot = .ok e') : e' = e := by
  obtain ⟨_, _, heq⟩ := rest₂ h
  exact (pure_inj heq).symm

/-- **Every step keeps the invariant.** -/
theorem invariant_of_step (hX : X.Lawful) (h : Invariant X e)
    (hbuilt : event.Built X.toRedactionExternals) (hstep : Step X e event e') :
    Invariant X e' := by
  cases event with
  | restored =>
    rw [fromSnapshot_snapshot_eq hstep]
    exact h
  | call operation outcome =>
    cases outcome with
    | ok response => exact Effect.invariant hX h hbuilt (effect_of_run hstep)
    | error error =>
      rcases failed_run hstep with ⟨rfl, _⟩ | ⟨_, hst, rfl⟩
      · exact h
      · exact h.fail hst

end LorePia.Assistant
